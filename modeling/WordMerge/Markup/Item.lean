import WordMerge.Text.Basic

namespace WordMerge

/-- A lexical item of an XML part, as it is written. No tree is built: every character of the part
is in exactly one item. -/
inductive Item where
  /-- A stretch from a less-than sign to the end that matches it, both included. -/
  | markup (raw : Text)
  /-- Character data, in which entities still stand as references. -/
  | text (raw : Text)
  deriving DecidableEq, Repr

namespace Item

/-- The characters of an item. -/
def raw : Item → Text
  | .markup raw => raw
  | .text raw => raw

/-- The part that some items spell. -/
def spell (items : List Item) : Text :=
  items.flatMap raw

/-- The mark that ends the markup at the front of a text, where that is not simply the first
greater-than sign outside quotes: comments, CDATA sections and processing instructions. -/
def terminator? (s : Text) : Option Text :=
  if ['<', '!', '-', '-'].isPrefixOf s then some ['-', '-', '>']
  else if ['<', '!', '[', 'C', 'D', 'A', 'T', 'A', '['].isPrefixOf s then some [']', ']', '>']
  else if ['<', '?'].isPrefixOf s then some ['?', '>']
  else none

/-- The text up to and including the first greater-than sign outside quotes, and what follows it.
Attribute values may hold the sign. A text without such a sign is taken whole. -/
def cutTag (s : Text) : Text × Text :=
  go none [] s
where
  /-- Walks over the text inside the open quote, if there is one, keeping what it passed in
  reverse order. -/
  go : Option Char → Text → Text → Text × Text
    | _, passed, [] => (passed.reverse, [])
    | some q, passed, c :: rest => go (if c = q then none else some q) (c :: passed) rest
    | none, passed, c :: rest =>
      if c = '>' then ((c :: passed).reverse, rest)
      else go (if c = '"' ∨ c = '\'' then some c else none) (c :: passed) rest

/-- The markup at the front of a text that starts with a less-than sign, and what follows it. -/
def cutMarkup (s : Text) : Text × Text :=
  match terminator? s with
  | some mark => Text.cutThrough mark s
  | none => cutTag s

theorem cutTag_go_append (quote : Option Char) (passed s : Text) :
    (cutTag.go quote passed s).1 ++ (cutTag.go quote passed s).2 = passed.reverse ++ s := by
  fun_induction cutTag.go quote passed s <;> simp_all

theorem cutMarkup_append (s : Text) : (cutMarkup s).1 ++ (cutMarkup s).2 = s := by
  unfold cutMarkup
  split
  · exact Text.cutThrough_append _ s
  · simp [cutTag, cutTag_go_append]

theorem cutTag_go_length (quote : Option Char) (passed s : Text) :
    (cutTag.go quote passed s).2.length ≤ s.length - 1 := by
  fun_induction cutTag.go quote passed s with
  | case1 => simp
  | case2 passed c rest q ih => exact Nat.le_trans ih (by simp)
  | case3 => simp
  | case4 passed c rest other ih => exact Nat.le_trans ih (by simp)

theorem cutThrough_go_length {mark : Text} (filled : mark ≠ []) (passed s : Text) :
    (Text.cutThrough.go mark passed s).2.length ≤ s.length - 1 := by
  induction s generalizing passed with
  | nil => simp [Text.cutThrough.go]
  | cons c rest ih =>
    rw [Text.cutThrough.go]
    split
    · next after found =>
      have whole := congrArg List.length (Text.append_eq_of_isPrefixOf? found)
      have := List.length_pos_iff.mpr filled
      simp at whole ⊢
      omega
    · exact Nat.le_trans (ih _) (by simp)

theorem terminator?_ne_nil {s mark : Text} (found : terminator? s = some mark) : mark ≠ [] := by
  intro none
  simp only [none, terminator?] at found
  repeat' split at found
  all_goals simp at found

/-- Markup takes at least one character. -/
theorem cutMarkup_length (s : Text) : (cutMarkup s).2.length ≤ s.length - 1 := by
  unfold cutMarkup
  split
  · next mark found => exact cutThrough_go_length (terminator?_ne_nil found) [] s
  · exact cutTag_go_length none [] s

/-- The items of an XML part. -/
def scan (source : Text) : List Item :=
  go [] source
where
  /-- Goes on after the items `done`, the last one first. -/
  go (done : List Item) : Text → List Item
    | [] => done.reverse
    | c :: rest =>
      if c = '<' then
        let cut := cutMarkup (c :: rest)
        go (.markup cut.1 :: done) cut.2
      else
        go (.text (c :: rest.takeWhile (· ≠ '<')) :: done) (rest.dropWhile (· ≠ '<'))
  termination_by s => s.length
  decreasing_by
    · have := cutMarkup_length (c :: rest)
      simp only [List.length_cons] at *
      omega
    · have := (List.dropWhile_suffix (l := rest) (· ≠ '<')).length_le
      simp only [List.length_cons] at *
      omega

theorem spell_append (a b : List Item) : spell (a ++ b) = spell a ++ spell b := by
  simp [spell]

theorem spell_scan_go (done : List Item) (s : Text) :
    spell (scan.go done s) = spell done.reverse ++ s := by
  fun_induction scan.go done s with
  | case1 => simp
  | case2 done rest cut ih =>
    have whole : cut.1 ++ cut.2 = '<' :: rest := cutMarkup_append _
    rw [ih, List.reverse_cons, spell_append, List.append_assoc, ← whole]
    simp [spell, raw]
  | case3 done c rest other ih =>
    rw [ih, List.reverse_cons, spell_append, List.append_assoc]
    simp only [spell, raw, List.flatMap_cons, List.flatMap_nil, List.append_nil,
      List.cons_append, List.takeWhile_append_dropWhile]

/-- The items of a part spell it. -/
theorem spell_scan (source : Text) : spell (scan source) = source := by
  simp [scan, spell_scan_go, show spell [] = [] from rfl]

end Item

end WordMerge
