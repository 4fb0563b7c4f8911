import WordMerge.Json.Reader
import WordMerge.Location.Reading
import WordMerge.Service.FileName

namespace WordMerge

/-- What a client asks for, before anything is checked. -/
structure RenderRequest where
  /-- Where the template is. -/
  templateLocation : Option Text := none
  /-- The data. -/
  data : Option Value := none
  /-- The name of the document. -/
  outputName : Option Text := none

/-- Why the body of a request cannot be read. The body is read in one pass, so of two faults the
first one counts: text that is no JSON, or JSON that is no such request. -/
inductive BodyFault where
  /-- It is no JSON. -/
  | malformed
  /-- It is no request. -/
  | wrongShape
  deriving DecidableEq, Repr

/-- The fault in words. -/
def BodyFault.message : BodyFault → String
  | .malformed => "Failed to parse the request body as JSON"
  | .wrongShape => "Failed to deserialize the JSON body into the target type"

/-- The members of a request. -/
inductive RequestField where
  | templateLocation
  | data
  | outputName
  deriving DecidableEq, Repr

/-- The member of the given name. Two members have an older name as well. -/
def RequestField.ofName? (name : Text) : Option RequestField :=
  if name = "templateLocation".toList ∨ name = "templateUrl".toList then some .templateLocation
  else if name = "data".toList then some .data
  else if name = "outputName".toList ∨ name = "fileName".toList then some .outputName
  else none

namespace RenderRequest

/-- A request under way: what it has so far, and the members that were given. -/
structure Draft where
  /-- The request so far. -/
  request : RenderRequest := {}
  /-- The members given so far. -/
  given : List RequestField := []

/-- A text that may be missing. -/
def optionalText? : Value → Option (Option Text)
  | .null => some none
  | .string s => some (some s)
  | _ => none

/-- A value that may be missing. -/
def optionalValue : Value → Option Value
  | .null => none
  | value => some value

/-- Gives a member a value. No member is given twice. -/
def Draft.set? (draft : Draft) (field : RequestField) (value : Value) : Option Draft :=
  if field ∈ draft.given then none
  else
    let given := field :: draft.given
    match field with
    | .templateLocation => (optionalText? value).map fun text =>
        ⟨{ draft.request with templateLocation := text }, given⟩
    | .data => some ⟨{ draft.request with data := optionalValue value }, given⟩
    | .outputName => (optionalText? value).map fun text =>
        ⟨{ draft.request with outputName := text }, given⟩

/-- Gives the member of a name a value; other names do not matter. -/
def Draft.setNamed? (draft : Draft) (member : Text × Value) : Option Draft :=
  match RequestField.ofName? member.1 with
  | none => some draft
  | some field => draft.set? field member.2

/-- The members in the order in which a list gives them. -/
def fieldOrder : List RequestField :=
  [.templateLocation, .data, .outputName]

/-- The request that a value stands for: an object, or a list of the members from the first on. -/
def ofValue? : Value → Option RenderRequest
  | .object members => (members.foldlM Draft.setNamed? {}).map Draft.request
  | .list items =>
    if items.length ≤ fieldOrder.length then
      ((fieldOrder.zip items).foldlM (fun draft given => Draft.set? draft given.1 given.2) {}).map
        Draft.request
    else none
  | _ => none

/-- The fault of a value of a wrong kind: it has to be JSON as far as its kind is concerned. -/
def wrongKind (s : Bytes) : BodyFault :=
  let shaped := fun (read : Bool) => if read then BodyFault.wrongShape else .malformed
  match s with
  | [] => .malformed
  | b :: rest =>
    if b = Json.byte '[' ∨ b = Json.byte '\x7b' then .wrongShape
    else if b = Json.byte '"' then shaped (Json.stringTail rest).isSome
    else if b = Json.byte 'n' then shaped (Json.word "null".toList s).isSome
    else if b = Json.byte 't' then shaped (Json.word "true".toList s).isSome
    else if b = Json.byte 'f' then shaped (Json.word "false".toList s).isSome
    else shaped ((Json.numeral s).bind fun r => r.1.value?).isSome

/-- Reads a text or the word for nothing. -/
def readText (s : Bytes) : Except BodyFault (Value × Bytes) :=
  let s := Json.skipBlank s
  if s.head? = some (Json.byte 'n') then
    match Json.word "null".toList s with
    | some rest => .ok (.null, rest)
    | none => .error .malformed
  else if s.head? = some (Json.byte '"') then
    match Json.stringTail s.tail with
    | some (text, rest) => .ok (.string text, rest)
    | none => .error .malformed
  else .error (wrongKind s)

/-- The number of levels that lists and objects may be nested inside a request. -/
def innerDepth : Nat :=
  Json.depthLimit - 1

/-- Reads the value of a member. -/
def readField (bound : Nat) (field : RequestField) (s : Bytes) :
    Except BodyFault (Value × Bytes) :=
  match field with
  | .data =>
    match Json.value bound innerDepth s with
    | some read => .ok read
    | none => .error .malformed
  | _ => readText s

/-- Reads a member into a draft. -/
def readInto (bound : Nat) (draft : Draft) (field : RequestField) (s : Bytes) :
    Except BodyFault (Draft × Bytes) :=
  match readField bound field s with
  | .error fault => .error fault
  | .ok (value, rest) =>
    match draft.set? field value with
    | none => .error .wrongShape
    | some draft => .ok (draft, rest)

/-- Reads the name of a member. -/
def readName (s : Bytes) : Except BodyFault (Text × Bytes) :=
  match (Json.word ['"'] (Json.skipBlank s)).bind Json.stringTail with
  | some read => .ok read
  | none => .error .malformed

/-- Reads the colon and the value behind the name of a member. -/
def readNamed (bound : Nat) (draft : Draft) (name : Text) (s : Bytes) :
    Except BodyFault (Draft × Bytes) :=
  match RequestField.ofName? name with
  | some field =>
    if field ∈ draft.given then .error .wrongShape
    else
      match Json.word [':'] (Json.skipBlank s) with
      | none => .error .malformed
      | some s => readInto bound draft field s
  | none =>
    match (Json.word [':'] (Json.skipBlank s)).bind (Json.skipValue bound) with
    | none => .error .malformed
    | some s => .ok (draft, s)

/-- Reads the members of an object up to its end, in at most the given number of rounds. -/
def readMembers (bound : Nat) : Nat → Draft → Bytes → Except BodyFault RenderRequest
  | 0, _, _ => .error .malformed
  | rounds + 1, draft, s =>
    match readName s with
    | .error fault => .error fault
    | .ok (name, s) =>
      match readNamed bound draft name s with
      | .error fault => .error fault
      | .ok (draft, s) =>
        match Json.skipBlank s with
        | [] => .error .malformed
        | b :: rest =>
          if b = Json.byte ',' then readMembers bound rounds draft rest
          else if b = Json.byte '\x7d' then .ok draft.request
          else .error .malformed

/-- Reads the members that a list gives, with `opening` if none was read before. -/
def readItems (bound : Nat) (opening : Bool) (draft : Draft) :
    List RequestField → Bytes → Except BodyFault RenderRequest
  | [], s =>
    if (Json.skipBlank s).head? = some (Json.byte ']') then .ok draft.request
    else .error .malformed
  | field :: fields, s =>
    let s := Json.skipBlank s
    if s.head? = some (Json.byte ']') then .ok draft.request
    else if !opening && s.head? != some (Json.byte ',') then .error .malformed
    else
      let item := if opening then s else Json.skipBlank s.tail
      if item.head? = some (Json.byte ']') then .error .malformed
      else
        match readInto bound draft field item with
        | .error fault => .error fault
        | .ok (draft, s) => readItems bound false draft fields s

/-- Reads a request from the front of a body. What stands behind it does not matter. -/
def read (body : Bytes) : Except BodyFault RenderRequest :=
  let bound := body.length
  let s := Json.skipBlank body
  match s with
  | [] => .error .malformed
  | b :: rest =>
    if b = Json.byte '\x7b' then
      if (Json.skipBlank rest).head? = some (Json.byte '\x7d') then .ok {}
      else readMembers bound bound {} rest
    else if b = Json.byte '[' then readItems bound true {} fieldOrder rest
    else .error (wrongKind s)

end RenderRequest

/-- A request that makes sense. -/
structure RenderJob where
  /-- Where the template is. -/
  location : Location
  /-- The data, which is an object. -/
  data : Value
  /-- The name of the document. -/
  fileName : Text

/-- Why a request makes no sense. -/
inductive RequestFault where
  /-- The template or the data is missing. -/
  | missing
  /-- The data is no object. -/
  | notObject
  /-- The template is at no location. -/
  | location (fault : LocationFault)
  deriving DecidableEq, Repr

/-- The fault in words. -/
def RequestFault.message : RequestFault → Text
  | .missing => "templateLocation and data are required".toList
  | .notObject => "data must be a JSON object".toList
  | .location fault => "templateLocation is not a valid URI: ".toList ++ fault.message.toList

/-- Checks a request. -/
def RenderRequest.validate (request : RenderRequest) : Except RequestFault RenderJob :=
  match request.templateLocation, request.data with
  | some location, some data =>
    if Text.blank location then .error .missing
    else if !data.isObject then .error .notObject
    else
      match Location.ofText (Text.trim location) with
      | .error fault => .error (.location fault)
      | .ok location => .ok ⟨location, data, FileName.resolve request.outputName data⟩
  | _, _ => .error .missing

end WordMerge
