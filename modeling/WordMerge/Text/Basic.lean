namespace WordMerge

/-- Text is worked on as the list of its characters. -/
abbrev Text := List Char

namespace Text

/-- Whether `needle` stands somewhere in the text. -/
def occurs (needle : Text) : Text → Bool
  | [] => needle.isEmpty
  | c :: rest => needle.isPrefixOf (c :: rest) || occurs needle rest

/-- The text up to and including the first `mark`, and what follows it.
A text without the mark is taken whole. -/
def cutThrough (mark : Text) (s : Text) : Text × Text :=
  go [] s
where
  /-- Walks over the text, keeping what it passed in reverse order. -/
  go (passed : Text) : Text → Text × Text
    | [] => (passed.reverse, [])
    | c :: rest =>
      match mark.isPrefixOf? (c :: rest) with
      | some after => (passed.reverse ++ mark, after)
      | none => go (c :: passed) rest

/-- An ASCII capital becomes the small letter, any other character stays. -/
def lowerChar (c : Char) : Char :=
  c.toLower

/-- The text with its ASCII capitals made small. -/
def lower (s : Text) : Text :=
  s.map lowerChar

/-- A natural number in decimal digits. -/
def ofNat (n : Nat) : Text :=
  Nat.toDigits 10 n

theorem append_eq_of_isPrefixOf? {α : Type} [BEq α] [LawfulBEq α] {mark s after : List α}
    (found : mark.isPrefixOf? s = some after) :
    mark ++ after = s := by
  induction mark generalizing s with
  | nil => exact (Option.some.inj found).symm
  | cons c mark ih =>
    cases s with
    | nil => exact absurd found (by nofun)
    | cons d rest =>
      change (if c == d then mark.isPrefixOf? rest else none) = some after at found
      split at found
      · next same => simp [eq_of_beq same, ih found]
      · simp at found

theorem cutThrough_go_append (mark passed s : Text) :
    (cutThrough.go mark passed s).1 ++ (cutThrough.go mark passed s).2 = passed.reverse ++ s := by
  induction s generalizing passed with
  | nil => simp [cutThrough.go]
  | cons c rest ih =>
    rw [cutThrough.go]
    split
    · next after found =>
      have whole := append_eq_of_isPrefixOf? found
      simp [← whole]
    · simp [ih]

/-- The two parts of a cut join to the text. -/
theorem cutThrough_append (mark s : Text) :
    (cutThrough mark s).1 ++ (cutThrough mark s).2 = s := by
  simp [cutThrough, cutThrough_go_append]

end Text

end WordMerge
