import WordMerge.Text.Unsigned

namespace WordMerge

/-- The options of the service. -/
structure Options where
  /-- The port to listen on. -/
  port : Nat := 3000
  /-- The address to listen on. -/
  host : Text := "0.0.0.0".toList
  /-- The key that clients have to show. -/
  apiKey : Option Text := none
  /-- How long the making of a document may take. -/
  timeoutMs : Nat := 10000
  /-- How long fetching a template may take. -/
  fetchTimeoutMs : Nat := 30000
  /-- The greatest number of bytes of a template. -/
  maxTemplateBytes : Nat := 26214400
  /-- The number of requests that a client may make in a second; zero stands for any number. -/
  rateLimit : Nat := 0
  /-- Whether pages of other origins may use the service. -/
  cors : Bool := true
  /-- The directory of the files that are handed out. -/
  templatesDir : Text := "templates".toList
  /-- The hosts that may be asked for templates; none stands for all. -/
  allowedHosts : List Text := []
  /-- Whether to tell more about what is done. -/
  verbose : Bool := false
  deriving DecidableEq, Repr

/-- The options that take a value. -/
inductive Setting where
  | port
  | host
  | apiKey
  | timeoutMs
  | fetchTimeoutMs
  | maxTemplateBytes
  | rateLimit
  | cors
  | templatesDir
  | allowedHosts
  deriving DecidableEq, Repr

/-- Why a command line cannot be used. -/
inductive UsageError where
  /-- A number is none, or out of range. -/
  | badNumber
  /-- A value is missing, or none of those that are possible. -/
  | badValue
  /-- There is no such option, and nothing but options is expected. -/
  | unknownArgument
  /-- An option is given twice. -/
  | repeatedOption
  /-- A value is given to an option that takes none. -/
  | unneededValue
  /-- Help is asked for. -/
  | help
  deriving DecidableEq, Repr

namespace Setting

/-- All settings, in the order in which they are looked up in the environment. -/
def all : List Setting :=
  [.port, .host, .apiKey, .timeoutMs, .fetchTimeoutMs, .maxTemplateBytes, .rateLimit, .cors,
    .templatesDir, .allowedHosts]

/-- The name on the command line, without the dashes. -/
def name : Setting → String
  | .port => "port"
  | .host => "host"
  | .apiKey => "api-key"
  | .timeoutMs => "timeout-ms"
  | .fetchTimeoutMs => "fetch-timeout-ms"
  | .maxTemplateBytes => "max-template-bytes"
  | .rateLimit => "rate-limit"
  | .cors => "cors"
  | .templatesDir => "templates-dir"
  | .allowedHosts => "allowed-hosts"

/-- The name in the environment. -/
def environmentName : Setting → String
  | .port => "PORT"
  | .host => "HOST"
  | .apiKey => "API_KEY"
  | .timeoutMs => "RENDER_TIMEOUT_MS"
  | .fetchTimeoutMs => "FETCH_TIMEOUT_MS"
  | .maxTemplateBytes => "MAX_TEMPLATE_BYTES"
  | .rateLimit => "RATE_LIMIT"
  | .cors => "CORS_ENABLED"
  | .templatesDir => "TEMPLATES_DIR"
  | .allowedHosts => "TEMPLATE_ALLOWED_HOSTS"

/-- The setting with the given name on the command line. -/
def ofName? (name : Text) : Option Setting :=
  all.find? fun setting => setting.name.toList == name

/-- Whether a setting may be given more than once. -/
def mayRepeat (setting : Setting) : Bool :=
  setting == .allowedHosts

/-- A number below the bound. -/
def unsigned (bound : Nat) (value : Text) : Except UsageError Nat :=
  match Text.unsigned? 10 bound value with
  | some n => .ok n
  | none => .error .badNumber

/-- A number below the bound, where a zero may have a minus sign as well. -/
def small (bound : Nat) (value : Text) : Except UsageError Nat :=
  match value with
  | '-' :: digits =>
    if Text.digits? 10 digits = some 0 then .ok 0 else .error .badNumber
  | _ => unsigned bound value

/-- One of the two words for yes and no. -/
def truth (value : Text) : Except UsageError Bool :=
  if value = "true".toList then .ok true
  else if value = "false".toList then .ok false
  else .error .badValue

/-- The path of a directory. -/
def directory (value : Text) : Except UsageError Text :=
  if value.isEmpty then .error .badValue else .ok value

/-- Gives a setting the value that a text stands for. -/
def assign (setting : Setting) (value : Text) (options : Options) : Except UsageError Options := do
  match setting with
  | .port => return { options with port := ← small (Nat.pow 2 16) value }
  | .host => return { options with host := value }
  | .apiKey => return { options with apiKey := some value }
  | .timeoutMs => return { options with timeoutMs := ← unsigned (Nat.pow 2 64) value }
  | .fetchTimeoutMs => return { options with fetchTimeoutMs := ← unsigned (Nat.pow 2 64) value }
  | .maxTemplateBytes => return { options with maxTemplateBytes := ← unsigned (Nat.pow 2 64) value }
  | .rateLimit => return { options with rateLimit := ← small (Nat.pow 2 32) value }
  | .cors => return { options with cors := ← truth value }
  | .templatesDir => return { options with templatesDir := ← directory value }
  | .allowedHosts =>
    return { options with allowedHosts := options.allowedHosts ++ value.splitOn ',' }

end Setting

end WordMerge
