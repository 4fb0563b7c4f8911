import WordMerge.Text.Unsigned

namespace WordMerge

/-- A row of a table. -/
structure RangeRow (α : Type) where
  /-- The number of the first character. -/
  first : Nat
  /-- The number of the last character. -/
  last : Nat
  /-- What holds for the characters. -/
  value : α

/-- A table over all characters: its rows in order, without overlaps, so that halving the table
again and again leads to the row of a character. -/
abbrev RangeTable (α : Type) := Array (RangeRow α)

namespace RangeTable

/-- The row of the character with the given number. -/
def find? {α : Type} (table : RangeTable α) (n : Nat) : Option (RangeRow α) :=
  go 0 table.size
where
  /-- Looks between two places of the table. -/
  go (low high : Nat) : Option (RangeRow α) :=
    if low < high then
      match table[(low + high) / 2]? with
      | none => none
      | some row =>
        if n < row.first then go low ((low + high) / 2)
        else if row.last < n then go ((low + high) / 2 + 1) high
        else some row
    else none
  termination_by high - low

/-- What holds for a character. -/
def value? {α : Type} (table : RangeTable α) (c : Char) : Option α :=
  (table.find? c.toNat).map RangeRow.value

/-- The pieces of a text between blanks and line ends. -/
def words (s : Text) : List Text :=
  (s.splitOnP fun c => c == ' ' || c == '\n').filter (!·.isEmpty)

/-- Some hexadecimal numbers with points between them, as characters. -/
def characters? (s : Text) : Option Text :=
  if s.isEmpty then some []
  else ((s.splitOn '.').mapM (Text.digits? 16)).map (·.map Char.ofNat)

/-- The row that a word such as `41-5A=L` spells: one or two hexadecimal numbers, then what the given
reader makes of the rest. -/
def row? {α : Type} (read? : Text → Option α) (word : Text) : Option (RangeRow α) := do
  let bounds := word.takeWhile fun c => c == '-' || (digit? 16 c).isSome
  let value ← read? (word.drop bounds.length)
  match ← (bounds.splitOn '-').mapM (Text.digits? 16) with
  | [n] => return ⟨n, n, value⟩
  | [first, last] => return ⟨first, last, value⟩
  | _ => none

/-- The table that a text spells. -/
def ofText {α : Type} (read? : Text → Option α) (s : String) : RangeTable α :=
  ((words s.toList).filterMap (row? read?)).toArray

/-- The reader of a name behind an equality sign. -/
def named? {α : Type} (names : List (String × α)) (s : Text) : Option α :=
  (names.find? fun entry => '=' :: entry.1.toList == s).map Prod.snd

end RangeTable

end WordMerge
