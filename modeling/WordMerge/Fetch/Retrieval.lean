import WordMerge.Fetch.Basic
import WordMerge.Location.Reading

namespace WordMerge

/-- The answer of a host to a request. -/
structure Answer where
  /-- The status. -/
  status : Nat
  /-- Where to go instead. -/
  redirect : Option Text
  /-- The length that was announced. -/
  announced : Option Nat
  /-- The template in the pieces in which it arrives. -/
  chunks : List Bytes
  /-- Why nothing more arrives, if the template breaks off behind the chunks. -/
  breakage : Option Text
  deriving DecidableEq, Repr

/-- What comes of a request. -/
inductive Outcome where
  /-- An answer. -/
  | answered (answer : Answer)
  /-- Nothing that could be understood. -/
  | silence
  deriving DecidableEq, Repr

/-- A network: what comes of a request for a location when so many requests went before. -/
abbrev Network := Nat → Location → Outcome

/-- The ways of fetching that are open to choice. -/
structure Fetcher where
  /-- The rule for locations. -/
  policy : LocationPolicy
  /-- The greatest number of bytes of a template. -/
  maxBytes : Nat := 26214400
  deriving Repr

/-- What comes of an attempt to fetch a template. -/
structure Retrieval where
  /-- The template, or why there is none. -/
  result : Except FetchCause Bytes
  /-- The locations that were asked, in order. -/
  requests : List Location

/-- What is kept of a template while it arrives. -/
structure Intake where
  /-- The chunks that are kept, the last one first. -/
  chunks : List Bytes := []
  /-- Their number of bytes. -/
  size : Nat := 0
  deriving DecidableEq, Repr

/-- What comes of taking a template. -/
structure Taking where
  /-- The template, or why there is none. -/
  result : Except FetchCause Bytes
  /-- What is kept before each chunk, and at the end. -/
  rounds : List Intake

/-- Keeps one more chunk, unless there are too many bytes then. -/
def Intake.keep (limit : Nat) (intake : Intake) (chunk : Bytes) : Except FetchCause Intake :=
  if limit < intake.size + chunk.length then .error (.tooLarge limit)
  else .ok ⟨chunk :: intake.chunks, intake.size + chunk.length⟩

namespace Fetcher

/-- The number of requests after which no redirect is followed any more. -/
def maxRequests : Nat := 10

/-- The name under which requests are made. -/
def userAgent : Text :=
  "docx-render-server/0.1.0".toList

/-- Whether a status is a success. -/
def isSuccess (status : Nat) : Bool :=
  200 ≤ status && status < 300

/-- Whether a status leads elsewhere. -/
def isRedirect (status : Nat) : Bool :=
  [301, 302, 303, 307, 308].contains status

/-- Where an answer leads, if it leads to a host. -/
def target? (current : Location) (answer : Answer) : Option Location :=
  if isRedirect answer.status then
    match answer.redirect.map current.join with
    | some (.ok location) => if location.hostText.isEmpty then none else some location
    | _ => none
  else none

/-- A reason that names a location. -/
def reasonFor (what : String) (location : Location) : Text :=
  what.toList ++ " for url (".toList ++ location.write ++ ")".toList

/-- Takes the chunks of a template into what is kept of it, and gives it up as soon as it has too
many bytes. -/
def takeChunks (limit : Nat) (breakage : Option Text) (intake : Intake) : List Bytes → Taking
  | [] =>
    match breakage with
    | some reason => ⟨.error (.transport reason), [intake]⟩
    | none => ⟨.ok intake.chunks.reverse.flatten, [intake]⟩
  | chunk :: rest =>
    match intake.keep limit chunk with
    | .error cause => ⟨.error cause, [intake]⟩
    | .ok later =>
      let others := takeChunks limit breakage later rest
      { others with rounds := intake :: others.rounds }

/-- Takes the template in an answer that leads nowhere else. -/
def take (fetcher : Fetcher) (answer : Answer) : Taking :=
  if !isSuccess answer.status then ⟨.error (.status answer.status), []⟩
  else if answer.announced.any (fetcher.maxBytes < ·) then
    ⟨.error (.tooLarge fetcher.maxBytes), []⟩
  else takeChunks fetcher.maxBytes answer.breakage {} answer.chunks

/-- The template in an answer that leads nowhere else. -/
def body (fetcher : Fetcher) (answer : Answer) : Except FetchCause Bytes :=
  (fetcher.take answer).result

/-- Asks for the location `current`, with `asked` before it, the last one first. So many further
requests are `left`. -/
def pursue (fetcher : Fetcher) (network : Network) (asked : List Location) (current : Location)
    (left : Nat) : Retrieval :=
  let requests := current :: asked
  match network asked.length current with
  | .silence =>
    ⟨.error (.transport (reasonFor "error sending request" current)), requests.reverse⟩
  | .answered answer =>
    match target? current answer with
    | none => ⟨fetcher.body answer, requests.reverse⟩
    | some next =>
      let refused :=
        ⟨.error (.transport (reasonFor "error following redirect" current)), requests.reverse⟩
      match left with
      | 0 => refused
      | left + 1 =>
        match fetcher.policy.check next with
        | .ok _ => fetcher.pursue network requests next left
        | .error _ => refused

/-- Fetches the template at a location. Redirects are followed as long as the rule for locations
lets them pass and there were not too many. -/
def retrieve (fetcher : Fetcher) (network : Network) (location : Location) : Retrieval :=
  match fetcher.policy.check location with
  | .ok _ => fetcher.pursue network [] location (maxRequests - 1)
  | .error refusal => ⟨.error (.notAllowed refusal.message), []⟩

/-- The template at a location, or the error that names it. -/
def fetch (fetcher : Fetcher) (network : Network) (location : Location) :
    Except FetchError Bytes :=
  match (fetcher.retrieve network location).result with
  | .ok template => .ok template
  | .error cause => .error ⟨location.write, cause⟩

end Fetcher

end WordMerge
