import WordMerge.CommandLine.Reading
import WordMerge.Json.Writer

namespace WordMerge

/-- A usage error in words. -/
def UsageError.message : UsageError → String
  | .badNumber => "a value is no number in its range"
  | .badValue => "a value is missing or not possible"
  | .unknownArgument => "unexpected argument"
  | .repeatedOption => "an option is given more than once"
  | .unneededValue => "a value is given to an option that takes none"
  | .help => "help"

/-- The options in words. -/
def Options.helpText : String :=
  let line := fun (setting : Setting) =>
    "      --" ++ setting.name ++ " <value>  [env: " ++ setting.environmentName ++ "]\n"
  "Render DOCX templates with JSON data over HTTP\n\nOptions:\n"
    ++ String.join (Setting.all.map line)
    ++ "  -v, --verbose\n  -h, --help"

/-- The options as a JSON value. The key is not shown. -/
def Options.value (options : Options) : Value :=
  let number := fun (n : Nat) => Value.number (.whole n)
  Value.ofMembers [
    ("port".toList, number options.port), ("host".toList, .string options.host),
    ("api_key".toList, .bool options.apiKey.isSome),
    ("timeout_ms".toList, number options.timeoutMs),
    ("fetch_timeout_ms".toList, number options.fetchTimeoutMs),
    ("max_template_bytes".toList, number options.maxTemplateBytes),
    ("rate_limit".toList, number options.rateLimit), ("cors".toList, .bool options.cors),
    ("templates_dir".toList, .string options.templatesDir),
    ("allowed_hosts".toList, .list (options.allowedHosts.map .string)),
    ("verbose".toList, .bool options.verbose)]

/-- The variables of the environment that belong to settings. -/
def settingsEnvironment : IO (List (Text × Text)) := do
  let found ← Setting.all.mapM fun setting => do
    let value ← IO.getEnv setting.environmentName
    return value.map fun value => (setting.environmentName.toList, value.toList)
  return found.filterMap id

end WordMerge

open WordMerge in
/-- The command line program: it tells the options with which the service would run as one JSON
object, or what is wrong with the command line. -/
def main (arguments : List String) : IO UInt32 := do
  let environment ← settingsEnvironment
  match CommandLine.read (arguments.map String.toList) (environment.lookup ·) with
  | .ok options =>
    IO.println (String.ofList (Json.write options.value))
    return 0
  | .error .help =>
    IO.println Options.helpText
    return 0
  | .error error =>
    IO.eprintln ("error: " ++ error.message)
    return 2
