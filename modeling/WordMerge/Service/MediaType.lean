import WordMerge.Service.HeaderField

namespace WordMerge

namespace MediaType

/-- Whether a character can stand in a name or in a bare value. -/
def isToken (c : Char) : Bool :=
  c.isAlphanum || "!#$%&'*+-.^_`|~".toList.contains c

/-- Whether a character can stand in a quoted value. -/
def isQuotable (c : Char) : Bool :=
  0x20 ≤ c.toNat && c.toNat != 0x7F && c != '"'

/-- The text behind the name of a parameter and its equality sign. -/
def behindName? (s : Text) : Option Text :=
  let name := s.takeWhile isToken
  match s.drop name.length with
  | '=' :: rest => if name.isEmpty then none else some rest
  | _ => none

/-- The text behind the value of a parameter: nothing, or a semicolon with what follows it. -/
def behindValue? (s : Text) : Option Text :=
  match s with
  | '"' :: quoted =>
    let value := quoted.takeWhile isQuotable
    match quoted.drop value.length with
    | '"' :: rest => if value.isEmpty then none else some (rest.dropWhile (· == ' '))
    | _ => none
  | _ =>
    let value := s.takeWhile isToken
    let rest := s.drop value.length
    if value.isEmpty && !rest.isEmpty then none else some rest

/-- Whether a text holds parameters, each behind a semicolon. Nothing has to follow the last one. -/
def areParameters : (bound : Nat) → Text → Bool
  | 0, _ => false
  | bound + 1, s =>
    match s with
    | [] => true
    | ';' :: rest =>
      match rest.dropWhile (· == ' ') with
      | [] => true
      | named =>
        match (behindName? named).bind behindValue? with
        | none => false
        | some rest => areParameters bound rest
    | _ => false

/-- The subtype before its last plus sign, and what follows that. -/
def splitSuffix (subtype : Text) : Text × Option Text :=
  let back := subtype.reverse.takeWhile (· != '+')
  let front := subtype.take (subtype.length - back.length - 1)
  if '+' ∈ subtype ∧ !front.isEmpty then (front, some back.reverse) else (subtype, none)

/-- Whether a text names JSON: as the subtype, or as what the subtype is built on. -/
def isJsonText (s : Text) : Bool :=
  let main := s.takeWhile isToken
  match s.drop main.length with
  | '/' :: rest =>
    let subtype := rest.takeWhile isToken
    let (base, suffix) := splitSuffix (Text.lower subtype)
    Text.lower main == "application".toList
      && (base == "json".toList || suffix == some "json".toList)
      && areParameters (rest.length + 1) (rest.drop subtype.length)
  | _ => false

/-- Whether a header field names JSON: a type and a subtype with a slash between them, and
parameters behind semicolons. -/
def isJson (field : Bytes) : Bool :=
  (HeaderField.text? field).any isJsonText

end MediaType

end WordMerge
