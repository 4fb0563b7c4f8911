import WordMerge.Location.Policy
import WordMerge.Text.Utf8

namespace WordMerge

/-- Why a template could not be fetched. -/
inductive FetchCause where
  /-- The last answer was no success. -/
  | status (code : Nat)
  /-- There was no answer, or it broke off. -/
  | transport (reason : Text)
  /-- The location must not be asked. -/
  | notAllowed (reason : Text)
  /-- The template has more bytes than wanted. -/
  | tooLarge (limit : Nat)
  deriving DecidableEq, Repr

/-- A failed attempt to fetch a template. It names the location that was asked for in the first
place, also when a redirect led somewhere else. -/
structure FetchError where
  /-- The location that was asked for. -/
  url : Text
  /-- What went wrong. -/
  cause : FetchCause
  deriving DecidableEq, Repr

namespace FetchError

/-- The status of the last answer, if it was that what was wrong. -/
def status? (error : FetchError) : Option Nat :=
  match error.cause with
  | .status code => some code
  | _ => none

/-- The error in words. -/
def message (error : FetchError) : Text :=
  match error.cause with
  | .status code => "upstream responded with status ".toList ++ Text.ofNat code
  | .transport reason => "request failed: ".toList ++ reason
  | .notAllowed reason => "location not allowed: ".toList ++ reason
  | .tooLarge limit => "template exceeds ".toList ++ Text.ofNat limit ++ " bytes".toList

end FetchError

/-- Lets a location pass or gives the error of an attempt to fetch it. -/
def LocationPolicy.guard (policy : LocationPolicy) (location : Location) :
    Except FetchError Unit :=
  match policy.check location with
  | .ok _ => .ok ()
  | .error refusal => .error ⟨location.write, .notAllowed refusal.message⟩

end WordMerge
