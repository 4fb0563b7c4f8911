import WordMerge.Text.Blank
import WordMerge.Text.Unsigned

namespace WordMerge

/-- A row of bytes that is asked for. -/
inductive ByteRange where
  /-- The bytes from a place on, up to the one at another place or to the end. -/
  | from (first : Nat) (last : Option Nat)
  /-- A number of bytes at the end. -/
  | ending (count : Nat)
  deriving DecidableEq, Repr

namespace ByteRange

/-- A number below `2 ^ 64` without sign and without needless zeros. -/
def number? (s : Text) : Option Nat :=
  if s.length ≠ 1 ∧ s.head? = some '0' then none
  else (Text.digits? 10 s).filter (· < Nat.pow 2 64)

/-- A piece of the field without the blank in front of it. More than one blank, or one at the end,
spoils it. -/
def trimmed? (piece : Text) : Option Text :=
  if piece.getLast?.any isBlank || 1 < piece.countP isBlank then none
  else some (Text.trim piece)

/-- The row that a piece of the field asks for. -/
def ofPiece? (piece : Text) : Option ByteRange := do
  let piece ← trimmed? piece
  let first := piece.takeWhile (· != '-')
  match piece.drop first.length with
  | [] => none
  | _ :: last =>
    if first.isEmpty then
      let count ← number? last
      if count = 0 then none else some (.ending count)
    else
      let first ← number? first
      if last.isEmpty then some (.from first none) else return .from first (some (← number? last))

/-- The rows that a field asks for. -/
def ofText? (s : Text) : Option (List ByteRange) := do
  let rows ← "bytes=".toList.isPrefixOf? s
  guard (!rows.head?.any isBlank)
  (rows.splitOn ',').mapM ofPiece?

/-- The places of the first and the last byte of a row in a file of the given size. The end of the
file ends the row. -/
def within? (size : Nat) : ByteRange → Option (Nat × Nat)
  | .from first last =>
    let last := min (last.getD (size - 1)) (size - 1)
    if last < first then none else some (first, last)
  | .ending count =>
    if size < count then none else some (size - count, size - 1)

/-- Whether no two of some rows have a byte in common. -/
def areApart : List (Nat × Nat) → Bool
  | [] => true
  | row :: rest => (rest.all fun other => row.2 < other.1 || other.2 < row.1) && areApart rest

/-- The rows that a field such as `bytes=0-99` asks for in a file of the given size. Either all of
them can be had or none. -/
def rows? (size : Nat) (s : Text) : Option (List (Nat × Nat)) :=
  (((ofText? s).bind (·.mapM (within? size)))).filter areApart

example : rows? 5 "bytes=0-1, 3-".toList = some [(0, 1), (3, 4)] := by decide
example : rows? 5 "bytes=-2".toList = some [(3, 4)] := by decide
example : rows? 5 "bytes=3-1".toList = none := by decide
example : rows? 5 "bytes=0-3,3-4".toList = none := by decide
example : rows? 5 "bytes=01-3".toList = none := by decide

end ByteRange

end WordMerge
