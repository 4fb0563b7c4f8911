import WordMerge.CommandLine.Options

namespace WordMerge

/-- What is known after some arguments. -/
structure CommandLine where
  /-- The options so far. -/
  options : Options := {}
  /-- The settings that have their value. -/
  given : List Setting := []
  /-- A setting that is still to get its value, and the value if it is there. -/
  pending : Option (Setting × Option Text) := none
  /-- Whether no options are expected any more. -/
  closed : Bool := false
  deriving Repr

namespace CommandLine

/-- Gives a setting its value. -/
def assign (line : CommandLine) (setting : Setting) (value : Text) :
    Except UsageError CommandLine :=
  if setting ∈ line.given ∧ !setting.mayRepeat then .error .repeatedOption
  else
    match setting.assign value line.options with
    | .error error => .error error
    | .ok options => .ok { line with options := options, given := setting :: line.given }

/-- Gives the pending setting its value. -/
def settle (line : CommandLine) : Except UsageError CommandLine :=
  match line.pending with
  | none => .ok line
  | some (_, none) => .error .badValue
  | some (setting, some value) => { line with pending := none }.assign setting value

/-- Starts a setting, whose value may be there already. -/
def start (line : CommandLine) (setting : Setting) (value : Option Text) :
    Except UsageError CommandLine :=
  match line.settle with
  | .error error => .error error
  | .ok line =>
    match value with
    | none => .ok { line with pending := some (setting, none) }
    | some value => line.assign setting value

/-- Asks to be told more. -/
def moreWords (line : CommandLine) : Except UsageError CommandLine :=
  match line.settle with
  | .error error => .error error
  | .ok line =>
    if line.options.verbose then .error .repeatedOption
    else .ok { line with options := { line.options with verbose := true } }

/-- Asks for help. -/
def help (line : CommandLine) : Except UsageError CommandLine :=
  match line.settle with
  | .error error => .error error
  | .ok _ => .error .help

/-- Reads an option by its long name, with its value if it is there. -/
def readLong (line : CommandLine) (name : Text) (value : Option Text) :
    Except UsageError CommandLine :=
  match Setting.ofName? name with
  | some setting => line.start setting value
  | none =>
    let isVerbose := name = "verbose".toList
    if isVerbose ∨ name = "help".toList then
      if value.isSome then .error .unneededValue
      else if isVerbose then line.moreWords
      else line.help
    else .error .unknownArgument

/-- Reads options by their letters. -/
def readLetters (line : CommandLine) : Text → Except UsageError CommandLine
  | [] => .ok line
  | 'p' :: [] => line.start .port none
  | 'p' :: '=' :: value => line.start .port (some value)
  | 'p' :: value => line.start .port (some value)
  | 'h' :: _ => line.help
  | 'v' :: rest =>
    match line.moreWords with
    | .error error => .error error
    | .ok line => line.readLetters rest
  | _ => .error .unknownArgument

/-- Reads an argument. An option takes its value from behind an equality sign or from the next
argument; in the latter case the value is looked at when the next option comes or the command line
ends. -/
def readArgument (line : CommandLine) (argument : Text) : Except UsageError CommandLine :=
  if line.closed then .error .unknownArgument
  else
    match argument with
    | ['-', '-'] => .ok { line with closed := true }
    | '-' :: '-' :: long =>
      let name := long.takeWhile (· != '=')
      match long.drop name.length with
      | [] => line.readLong name none
      | _ :: value => line.readLong name (some value)
    | '-' :: letter :: letters => line.readLetters (letter :: letters)
    | value =>
      match line.pending with
      | some (setting, none) => .ok { line with pending := some (setting, some value) }
      | _ => .error .unknownArgument

/-- Takes a setting that has no value yet from the environment. -/
def complete (environment : Text → Option Text) (line : CommandLine) (setting : Setting) :
    Except UsageError CommandLine :=
  if setting ∈ line.given then .ok line
  else
    match environment setting.environmentName.toList with
    | none => .ok line
    | some value => line.assign setting value

/-- The options that the arguments and the environment set. -/
def read (arguments : List Text) (environment : Text → Option Text) :
    Except UsageError Options := do
  let line ← arguments.foldlM readArgument {}
  let line ← line.settle
  let line ← Setting.all.foldlM (complete environment) line
  return line.options

end CommandLine

end WordMerge
