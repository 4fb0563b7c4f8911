import WordMerge.Json.Value

namespace WordMerge

namespace Json

/-- The four hexadecimal digits of a number below `2 ^ 16`. -/
def hex4 (n : Nat) : Text :=
  let digit := fun (k : Nat) => Nat.digitChar (n / Nat.pow 16 k % 16)
  [digit 3, digit 2, digit 1, digit 0]

/-- A character as it stands in a string. -/
def escapeChar (c : Char) : Text :=
  if c = '"' then ['\\', '"']
  else if c = '\\' then ['\\', '\\']
  else if c = '\n' then ['\\', 'n']
  else if c = '\r' then ['\\', 'r']
  else if c = '\t' then ['\\', 't']
  else if c = '\x08' then ['\\', 'b']
  else if c = '\x0C' then ['\\', 'f']
  else if c.toNat < 0x20 then '\\' :: 'u' :: hex4 c.toNat
  else [c]

/-- A text in quotes. -/
def quote (s : Text) : Text :=
  '"' :: s.flatMap escapeChar ++ ['"']

mutual

/-- Writes a value in front of the text `after`. -/
def writeOnto (after : Text) : Value → Text
  | .null => "null".toList ++ after
  | .bool true => "true".toList ++ after
  | .bool false => "false".toList ++ after
  | .number n => n.write ++ after
  | .string s => quote s ++ after
  | .list items => '[' :: writeItems (']' :: after) true items
  | .object members => '\x7b' :: writeMembers ('\x7d' :: after) true members

/-- Writes the items of a list, with a comma before each but the first. -/
def writeItems (after : Text) (first : Bool) : List Value → Text
  | [] => after
  | item :: rest =>
    let text := writeOnto (writeItems after false rest) item
    if first then text else ',' :: text

/-- Writes the members of an object, with a comma before each but the first. -/
def writeMembers (after : Text) (first : Bool) : List (Text × Value) → Text
  | [] => after
  | (key, value) :: rest =>
    let text := quote key ++ ':' :: writeOnto (writeMembers after false rest) value
    if first then text else ',' :: text

end

/-- The JSON text of a value, without spaces. -/
def write (value : Value) : Text :=
  writeOnto [] value

end Json

end WordMerge
