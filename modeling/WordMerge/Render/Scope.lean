import WordMerge.Json.Value
import WordMerge.Text.Blank

namespace WordMerge

namespace Scope

/-- The bound of list places. -/
def placeBound : Nat := Nat.pow 2 64

/-- Follows one segment of a path: a key of an object or a place in a list. -/
def follow (value : Value) (segment : Text) : Option Value :=
  match value with
  | .object _ => value.member? segment
  | .list _ => (Text.unsigned? 10 placeBound segment).bind value.item?
  | _ => none

/-- The value of a key in the innermost scope that has it. -/
def find? (scopes : List Value) (key : Text) : Option Value :=
  scopes.findSome? (·.member? key)

/-- The value of a path: its first segment picks the scope. -/
def path? (scopes : List Value) : List Text → Option Value
  | [] => none
  | first :: rest => (find? scopes first).bind fun value => rest.foldlM follow value

/-- The segments of a dotted name. -/
def segments (name : Text) : List Text :=
  (name.splitOn '.').map Text.trim

/-- What a trimmed name stands for in the scopes, the innermost one first. A point alone is the
current item. A key that has dots itself comes before the path that it spells. -/
def resolve? (scopes : List Value) (name : Text) : Option Value :=
  if name = ['.'] then scopes.head?
  else if '.' ∈ name then
    match find? scopes name with
    | some value => some value
    | none => path? scopes (segments name)
  else path? scopes (segments name)

/-- What a name stands for in the scopes, the innermost one first. -/
def lookup? (scopes : List Value) (name : Text) : Option Value :=
  resolve? scopes (Text.trim name)

end Scope

namespace Value

/-- Whether an inverted section takes the value for nothing. -/
def isFalsy : Value → Bool
  | .null => true
  | .bool b => !b
  | .number n => n.isZero
  | .string s => s.isEmpty
  | .list items => items.isEmpty
  | .object _ => false

/-- The kind of a value in words. -/
def kindName : Value → Text
  | .null => "null".toList
  | .bool _ => "a boolean".toList
  | .number _ => "a number".toList
  | .string _ => "a string".toList
  | .list _ => "a list".toList
  | .object _ => "an object".toList

/-- The text of a scalar value. Lists and objects have none. -/
def text? : Value → Option Text
  | .null => some []
  | .bool true => some "true".toList
  | .bool false => some "false".toList
  | .number n => some n.write
  | .string s => some s
  | .list _ => none
  | .object _ => none

end Value

end WordMerge
