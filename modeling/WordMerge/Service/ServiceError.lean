import WordMerge.Fetch.Basic
import WordMerge.Json.Value
import WordMerge.Package.Basic

namespace WordMerge

/-- Why an engine, whatever it is made of, has not made a document. -/
inductive EngineFailure where
  /-- The template is no usable package. -/
  | invalidArchive (reason : Text)
  /-- Tags of the template are at fault. -/
  | template (details : List TagReport)
  /-- The document cannot be written. -/
  | serialize (reason : Text)
  deriving DecidableEq, Repr

/-- The failure that an error of the engine of this library is. -/
def EngineError.failure : EngineError → EngineFailure
  | .package fault => .invalidArchive fault.message
  | .template errors => .template (errors.map fun error => error.fault.report error.part)
  | .serialize reason => .serialize reason

/-- An error of the service. -/
inductive ServiceError where
  /-- The request makes no sense. -/
  | badRequest (reason : Text)
  /-- The client did not show the key. -/
  | unauthorized
  /-- The template could not be fetched. -/
  | fetchFailed (error : FetchError)
  /-- The template is no usable package. -/
  | invalidArchive (reason : Text)
  /-- Tags of the template are at fault. -/
  | renderFailed (details : List TagReport)
  /-- Rendering took too long. -/
  | timeout (milliseconds : Nat)
  /-- The service itself failed. -/
  | internal (reason : Text)
  deriving DecidableEq, Repr

namespace ServiceError

/-- The stable name of the class of an error. -/
def code : ServiceError → String
  | .badRequest _ => "bad_request"
  | .unauthorized => "unauthorized"
  | .fetchFailed _ => "failed_to_fetch_template"
  | .invalidArchive _ => "invalid_docx_zip"
  | .renderFailed _ => "template_render_error"
  | .timeout _ => "server_error"
  | .internal _ => "server_error"

/-- The status with which an error is answered. -/
def status : ServiceError → Nat
  | .unauthorized => 401
  | .timeout _ => 500
  | .internal _ => 500
  | _ => 400

/-- The error in words. -/
def message : ServiceError → Text
  | .badRequest reason => "Invalid request: ".toList ++ reason
  | .unauthorized => "Missing or invalid API key".toList
  | .fetchFailed error =>
    "Failed to fetch template from ".toList ++ error.url ++ ": ".toList ++ error.message
  | .invalidArchive reason => "Template is not a valid DOCX archive: ".toList ++ reason
  | .renderFailed details => EngineError.tagCountMessage details.length
  | .timeout milliseconds =>
    "Render timeout after ".toList ++ Text.ofNat milliseconds ++ "ms".toList
  | .internal reason => "Internal error: ".toList ++ reason

/-- The error that a client sees when a document cannot be made. -/
def ofEngine : EngineFailure → ServiceError
  | .invalidArchive reason => .invalidArchive reason
  | .template details => .renderFailed details
  | .serialize reason => .internal reason

/-- A report on a tag as JSON. -/
def reportValue (report : TagReport) : Value :=
  Value.ofMembers [("id".toList, .string report.kind.code.toList),
    ("tag".toList, .string report.tag), ("explanation".toList, .string report.explanation),
    ("part".toList, .string report.part)]

/-- What an error tells besides its class and its words. -/
def extras : ServiceError → List (Text × Value)
  | .fetchFailed error =>
    let status := match error.status? with
      | none => []
      | some status => [("status".toList, .number (.whole status))]
    status ++ [("url".toList, .string error.url)]
  | .renderFailed details => [("details".toList, .list (details.map reportValue))]
  | _ => []

/-- The error as JSON. -/
def value (error : ServiceError) : Value :=
  Value.ofMembers (("error".toList, .string error.code.toList)
    :: ("message".toList, .string error.message) :: error.extras)

end ServiceError

end WordMerge
