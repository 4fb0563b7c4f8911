import WordMerge.Proofs.Template.Braces
import WordMerge.Proofs.Template.Confinement
import WordMerge.Proofs.Template.Rows

namespace WordMerge

/-- A paragraph without another one in it. The characters of its text elements spell one tag among
white space. -/
structure LoneTag (source : Text) (tag : Tag) : Prop where
  formed : WellFormed source
  paragraph : ∃ start content stop,
    Item.scan source = .markup start :: (content ++ [.markup stop]) ∧
    Landmark.ofMarkup start = .paragraphStart ∧ Landmark.ofMarkup stop = .paragraphEnd ∧
    ∀ raw ∈ content.filterMap Item.markup?, Landmark.ofMarkup raw ∉ [.paragraphStart, .paragraphEnd]
  text : ∃ before raw behind, Item.stream false (Item.scan source) =
      before ++ '\x7b' :: (raw ++ '\x7d' :: behind) ∧
    Text.blank before = true ∧ Text.blank behind = true ∧ Text.BraceFree raw ∧
    Tag.ofText? (Entity.unescape raw) = some tag

namespace Piece

/-- Whether all pieces are XML. -/
def Textual (pieces : Array Piece) : Prop :=
  ∀ (place : Nat) piece, pieces[place]? = some piece → ∃ xml, piece = .verbatim xml

/-- Whether one piece is a tag and all others are XML. -/
structure Lone (pieces : Array Piece) (slot : Nat) (placed : PlacedTag) : Prop where
  here : pieces[slot]? = some (.tag placed)
  others : ∀ (place : Nat) piece, place ≠ slot → pieces[place]? = some piece →
    ∃ xml, piece = .verbatim xml

variable {pieces : Array Piece} {slot : Nat} {placed : PlacedTag}

theorem Textual.push (textual : Textual pieces) (xml : Text) :
    Textual (pieces.push (.verbatim xml)) := by
  intro place piece found
  rw [Array.getElem?_push] at found
  split at found
  · exact ⟨xml, (Option.some.inj found).symm⟩
  · exact textual place piece found

theorem textual_empty : Textual #[] := by
  intro place piece found
  simp at found

theorem Lone.push (lone : Lone pieces slot placed) (xml : Text) :
    Lone (pieces.push (.verbatim xml)) slot placed := by
  refine ⟨getElem?_push_of_some lone.here _, fun place piece other found => ?_⟩
  rw [Array.getElem?_push] at found
  split at found
  · exact ⟨xml, (Option.some.inj found).symm⟩
  · exact lone.others place piece other found

/-- A tag that takes its place among XML stands alone there. -/
theorem Textual.finished (textual : Textual pieces) {pending : PendingTag}
    (inside : pending.slot < pieces.size) :
    Lone (Reading.finished pieces pending placed) pending.slot placed := by
  have lone : Lone (pieces.setIfInBounds pending.slot (.tag placed)) pending.slot placed := by
    constructor
    · rw [Array.getElem?_setIfInBounds, if_pos rfl, if_pos inside]
    · intro place piece other found
      rw [Array.getElem?_setIfInBounds, if_neg (Ne.symm other)] at found
      exact textual place piece found
  unfold Reading.finished
  cases pending.textStart with
  | none => exact lone
  | some start =>
    rw [Option.elim_some, Reading.preserveAt]
    constructor
    · rw [Array.getElem?_modify, lone.here]
      split <;> rfl
    · intro place piece other found
      rw [Array.getElem?_modify] at found
      split at found
      · obtain ⟨old, there, rfl⟩ := Option.map_eq_some_iff.mp found
        obtain ⟨xml, rfl⟩ := lone.others place old other there
        exact ⟨preserveSpace xml, rfl⟩
      · exact lone.others place piece other found

theorem exists_row_of_xml {row : List Piece} (each : ∀ piece ∈ row, ∃ xml, piece = .verbatim xml) :
    ∃ raws : List Text, row = raws.map .verbatim := by
  induction row with
  | nil => exact ⟨[], rfl⟩
  | cons piece row ih =>
    obtain ⟨⟨xml, rfl⟩, later⟩ := List.forall_mem_cons.mp each
    obtain ⟨raws, rfl⟩ := ih later
    exact ⟨xml :: raws, rfl⟩

/-- Around a lone tag there is XML only. -/
theorem Lone.exists_rows (lone : Lone pieces slot placed) : ∃ ahead behind : List Text,
    pieces.toList = ahead.map .verbatim ++ .tag placed :: behind.map .verbatim := by
  obtain ⟨inside, here⟩ := Array.getElem?_eq_some_iff.mp lone.here
  have split : pieces.toList =
      pieces.toList.take slot ++ .tag placed :: pieces.toList.drop (slot + 1) := by
    rw [← here, ← Array.getElem_toList inside, ← List.drop_eq_getElem_cons, List.take_append_drop]
  obtain ⟨ahead, front⟩ := exists_row_of_xml fun piece
      (member : piece ∈ pieces.toList.take slot) => by
    obtain ⟨place, found⟩ := List.mem_iff_getElem?.mp member
    rw [List.getElem?_take] at found
    split at found
    · exact lone.others place piece (by omega) (by rwa [← Array.getElem?_toList])
    · cases found
  obtain ⟨behind, back⟩ := exists_row_of_xml fun piece
      (member : piece ∈ pieces.toList.drop (slot + 1)) => by
    obtain ⟨place, found⟩ := List.mem_iff_getElem?.mp member
    rw [List.getElem?_drop] at found
    exact lone.others (slot + 1 + place) piece (by omega) (by rwa [← Array.getElem?_toList])
  exact ⟨ahead, behind, by rw [split, front, back]⟩

end Piece

namespace Reading

open Piece

/-- How far a reading is in a paragraph with one tag, with what its text elements still hold: in
front of the tag, within it, or behind it. -/
inductive Stage (tag : Tag) (r : Reading) (left : Text) : Prop
  | ahead (before raw behind : Text) :
      r.pending = none → r.paragraphs = #[⟨0, none, 0, false⟩] → Textual r.pieces →
      left = before ++ '\x7b' :: (raw ++ '\x7d' :: behind) → Text.blank before = true →
      Text.blank behind = true → Text.BraceFree raw →
      Tag.ofText? (Entity.unescape raw) = some tag → Stage tag r left
  | within (under : PendingTag) (raw behind : Text) :
      r.pending = some under → under.paragraph = some 0 → under.slot < r.pieces.size →
      r.paragraphs = #[⟨0, none, 0, false⟩] → Textual r.pieces → left = raw ++ '\x7d' :: behind →
      Text.blank behind = true → Text.BraceFree raw →
      Tag.ofText? (Entity.unescape (under.raw.reverse ++ raw)) = some tag → Stage tag r left
  | behind (slot : Nat) (placed : PlacedTag) :
      r.pending = none → r.paragraphs = #[⟨0, none, 1, false⟩] → Lone r.pieces slot placed →
      placed.toTag = tag → placed.paragraph = some 0 → Text.blank left = true → Stage tag r left

/-- A reading in a paragraph with one tag, without faults so far. -/
structure Course (tag : Tag) (r : Reading) (left : Text) : Prop where
  opened : r.openParagraphs = [0]
  clean : r.faults = []
  stage : Stage tag r left

variable {tag : Tag} {r : Reading} {left : Text}

/-- XML that is copied leaves a reading where it is. -/
theorem Course.copy (course : Course tag r left) {next : Reading} {xml : Text}
    (opened : next.openParagraphs = r.openParagraphs) (faults : next.faults = r.faults)
    (pending : next.pending = r.pending) (paragraphs : next.paragraphs = r.paragraphs)
    (pieces : next.pieces = r.pieces.push (.verbatim xml)) : Course tag next left := by
  obtain ⟨inner, clean, stage⟩ := course
  refine ⟨opened.trans inner, faults.trans clean, ?_⟩
  cases stage with
  | ahead before raw behind free fresh textual =>
    exact .ahead before raw behind (pending.trans free) (paragraphs.trans fresh)
      (pieces ▸ textual.push xml) ‹_› ‹_› ‹_› ‹_› ‹_›
  | within under raw behind here own inside fresh textual =>
    refine .within under raw behind (pending.trans here) own ?_ (paragraphs.trans fresh)
      (pieces ▸ textual.push xml) ‹_› ‹_› ‹_› ‹_›
    rw [pieces, Array.size_push]
    omega
  | behind slot placed free one lone =>
    exact .behind slot placed (pending.trans free) (paragraphs.trans one) (pieces ▸ lone.push xml)
      ‹_› ‹_› ‹_›

/-- White space does not count as text. -/
theorem plain_of_blank (opened : r.openParagraphs = [0]) {text : Text}
    (blank : Text.blank text = true) :
    r.plain text = r ∨ r.plain text = r.push (.verbatim text) := by
  unfold Reading.plain
  split
  · exact .inl rfl
  · refine .inr ?_
    simp only [opened]

theorem Course.plain (course : Course tag r left) {text : Text} (blank : Text.blank text = true) :
    Course tag (r.plain text) left := by
  rcases plain_of_blank course.opened blank with same | same
  · rwa [same]
  · rw [same]
    exact course.copy rfl rfl rfl rfl rfl

theorem not_brace_of_isBlank {c : Char} (blank : isBlank c = true) : c ≠ '\x7b' ∧ c ≠ '\x7d' := by
  constructor <;> rintro rfl <;> exact absurd blank (by decide)

theorem blank_cons {c : Char} {text : Text} :
    Text.blank (c :: text) = true ↔ isBlank c = true ∧ Text.blank text = true := by
  simp [Text.blank]

theorem blank_reverse {text : Text} (blank : Text.blank text = true) :
    Text.blank text.reverse = true := by
  rw [Text.blank, List.all_reverse]
  exact blank

/-- An opening brace that comes is that of the tag. -/
theorem Course.beginTag (course : Course tag r ('\x7b' :: left)) :
    r.pending = none ∧ Course tag r.beginTag left := by
  obtain ⟨opened, clean, stage⟩ := course
  cases stage with
  | ahead before raw behind free fresh textual text blank blankBehind letters spells =>
    cases before with
    | cons d before =>
      obtain ⟨rfl, -⟩ := List.cons.inj text
      exact absurd rfl (not_brace_of_isBlank (blank_cons.mp blank).1).1
    | nil =>
      obtain ⟨-, later⟩ := List.cons.inj text
      refine ⟨free, opened, clean, .within _ raw behind rfl ?_ ?_ fresh (textual.push []) later
        blankBehind letters spells⟩
      · rw [opened]
        rfl
      · rw [Reading.beginTag, Reading.push, Array.size_push]
        exact Nat.lt_succ_self _
  | within under raw behind here own inside fresh textual text blankBehind letters spells =>
    cases raw with
    | nil => cases (List.cons.inj text).1
    | cons d raw =>
      obtain ⟨rfl, -⟩ := List.cons.inj text
      exact absurd rfl (Text.braceFree_cons.mp letters).1.1
  | behind slot placed free one lone same own blank =>
    exact absurd rfl (not_brace_of_isBlank (blank_cons.mp blank).1).1

/-- A closing brace that comes finishes the tag. -/
theorem Course.finishTag (course : Course tag r ('\x7d' :: left)) : ∃ under,
    r.pending = some under ∧ Course tag ({ r with pending := none }.finishTag under) left := by
  obtain ⟨opened, clean, stage⟩ := course
  cases stage with
  | ahead before raw behind free fresh textual text blank blankBehind letters spells =>
    cases before with
    | nil => cases (List.cons.inj text).1
    | cons d before =>
      obtain ⟨rfl, -⟩ := List.cons.inj text
      exact absurd rfl (not_brace_of_isBlank (blank_cons.mp blank).1).2
  | within under raw behind here own inside fresh textual text blankBehind letters spells =>
    cases raw with
    | cons d raw =>
      obtain ⟨rfl, -⟩ := List.cons.inj text
      exact absurd rfl (Text.braceFree_cons.mp letters).1.2
    | nil =>
      obtain ⟨-, rfl⟩ := List.cons.inj text
      rw [List.append_nil] at spells
      have done : { r with pending := none }.finishTag under = { r with
          pending := none
          pieces := finished r.pieces under ⟨tag, under.paragraph, under.row, under.cell⟩
          paragraphs := r.paragraphs.modify 0 fun span =>
            { span with tags := span.tags + 1 } } := by
        simp only [Reading.finishTag, spells, own]
        rfl
      refine ⟨under, here, ?_⟩
      rw [done]
      refine ⟨opened, clean, .behind under.slot _ rfl ?_ (textual.finished inside) rfl own
        blankBehind⟩
      rw [fresh]
      rfl
  | behind slot placed free one lone same own blank =>
    exact absurd rfl (not_brace_of_isBlank (blank_cons.mp blank).1).2

/-- Another character is white space around the tag or belongs to it. -/
theorem Course.letter {c : Char} (course : Course tag r (c :: left))
    (letter : c ≠ '\x7b' ∧ c ≠ '\x7d') :
    (r.pending = none ∧ isBlank c = true ∧ Course tag r left) ∨ ∃ under, r.pending = some under ∧
      Course tag { r with pending := some { under with raw := c :: under.raw } } left := by
  obtain ⟨opened, clean, stage⟩ := course
  cases stage with
  | ahead before raw behind free fresh textual text blank blankBehind letters spells =>
    cases before with
    | nil => exact absurd (List.cons.inj text).1 letter.1
    | cons d before =>
      obtain ⟨rfl, later⟩ := List.cons.inj text
      obtain ⟨space, blank⟩ := blank_cons.mp blank
      exact .inl ⟨free, space, opened, clean, .ahead before raw behind free fresh textual later
        blank blankBehind letters spells⟩
  | within under raw behind here own inside fresh textual text blankBehind letters spells =>
    cases raw with
    | nil => exact absurd (List.cons.inj text).1 letter.2
    | cons d raw =>
      obtain ⟨rfl, later⟩ := List.cons.inj text
      refine .inr ⟨under, here, opened, clean, .within _ raw behind rfl own inside fresh textual
        later blankBehind (Text.braceFree_cons.mp letters).2 ?_⟩
      rw [List.reverse_cons, List.append_assoc]
      exact spells
  | behind slot placed free one lone same own blank =>
    obtain ⟨space, blank⟩ := blank_cons.mp blank
    exact .inl ⟨free, space, opened, clean, .behind slot placed free one lone same own blank⟩

/-- The character data of a text element carries the reading on. -/
theorem Course.passes {before data : Text} {final : Reading} (passes : r.Passes before data final)
    (course : Course tag r (data ++ left)) (blank : Text.blank before = true) :
    Course tag final left := by
  induction passes with
  | settle _ => exact course.plain (blank_reverse blank)
  | wait _ => exact course
  | first _ _ ih => exact ih (course.plain (blank_reverse blank)).beginTag.2 rfl
  | again under _ _ =>
    rw [course.beginTag.1] at under
    cases under
  | finish under _ ih =>
    obtain ⟨tag, here, next⟩ := course.finishTag
    cases under.symm.trans here
    exact ih next rfl
  | unopened free _ _ =>
    obtain ⟨tag, here, _⟩ := course.finishTag
    cases free.symm.trans here
  | extend under opens closes _ ih =>
    rcases course.letter ⟨opens, closes⟩ with ⟨free, _, _⟩ | ⟨tag, here, next⟩
    · cases free.symm.trans under
    · cases under.symm.trans here
      exact ih next rfl
  | hold free opens closes _ ih =>
    rcases course.letter ⟨opens, closes⟩ with ⟨_, space, next⟩ | ⟨tag, here, _⟩
    · exact ih next (blank_cons.mpr ⟨space, blank⟩)
    · cases free.symm.trans here

/-- An item on the way to the tag or behind it keeps the reading on its course. -/
theorem Course.step {item : Item} {rest : List Item}
    (course : Course tag r (Item.stream r.textStart.isSome (item :: rest)))
    (inner : ∀ raw, item = .markup raw →
      Landmark.ofMarkup raw ∉ [.paragraphStart, .paragraphEnd]) :
    Course tag (r.step item) (Item.stream (r.step item).textStart.isSome rest) := by
  cases item with
  | markup raw =>
    obtain ⟨opened, faults, pending, paragraphs⟩ := enter_of_inner (inner raw rfl) r
    have inside := markup_inside r raw
    rw [Reading.step, inside]
    exact course.copy opened faults pending paragraphs (markup_pieces r raw)
  | text raw =>
    rw [Reading.step]
    split
    · next inText =>
      rw [Item.stream, if_pos inText] at course
      have passes := r.passes_characters [] raw
      rw [passes.textStart]
      exact .passes passes course rfl
    · next outside =>
      rw [Item.stream, if_neg outside] at course
      exact course.copy rfl rfl rfl rfl rfl

/-- So do any number of items. -/
theorem Course.foldl_step {items rest : List Item}
    (course : Course tag r (Item.stream r.textStart.isSome (items ++ rest)))
    (inner : ∀ raw, .markup raw ∈ items →
      Landmark.ofMarkup raw ∉ [.paragraphStart, .paragraphEnd]) :
    Course tag (items.foldl Reading.step r)
      (Item.stream (items.foldl Reading.step r).textStart.isSome rest) := by
  induction items generalizing r with
  | nil => exact course
  | cons item items ih =>
    refine ih (course.step fun raw same => inner raw ?_) fun raw member => inner raw ?_
    · rw [same]
      exact List.mem_cons_self
    · exact List.mem_cons_of_mem _ member

/-- A reading of a paragraph with one tag and no text. -/
structure Lone (tag : Tag) (r : Reading) : Prop where
  resting : r.Resting
  clean : r.faults = []
  paragraphs : r.paragraphs = #[⟨0, some (r.pieces.size - 1), 1, false⟩]
  pieces : ∃ (placed : PlacedTag) (ahead behind : List Text),
    r.pieces.toList = ahead.map .verbatim ++ .tag placed :: behind.map .verbatim ∧
      placed.toTag = tag ∧ placed.paragraph = some 0

end Reading

namespace Reading

variable {tag : Tag} {r : Reading}

/-- A paragraph begins whose text elements hold one tag. -/
theorem Course.begin {start before raw behind left : Text}
    (opens : Landmark.ofMarkup start = .paragraphStart)
    (spelled : left = before ++ '\x7b' :: (raw ++ '\x7d' :: behind))
    (blank : Text.blank before = true) (blankBehind : Text.blank behind = true)
    (letters : Text.BraceFree raw) (spells : Tag.ofText? (Entity.unescape raw) = some tag) :
    Course tag (Reading.step {} (.markup start)) left := by
  have begun : Reading.step {} (.markup start) =
      { pieces := #[.verbatim start], paragraphs := #[.beginAt 0], openParagraphs := [0] } := by
    rw [Reading.step, Reading.markup, opens]
    rfl
  have textual : Piece.Textual #[.verbatim start] := Piece.textual_empty.push start
  rw [begun]
  exact ⟨rfl, rfl, .ahead before raw behind rfl rfl textual spelled blank blankBehind letters spells⟩

/-- At the end of the paragraph its tag has been read, and the paragraph is over. -/
theorem Course.ended {stop : Text} (course : Course tag r [])
    (closes : Landmark.ofMarkup stop = .paragraphEnd) :
    (r.step (.markup stop)).openParagraphs = [] ∧ (r.step (.markup stop)).pending = none ∧
      (r.step (.markup stop)).faults = [] ∧
      (r.step (.markup stop)).paragraphs =
        #[⟨0, some ((r.step (.markup stop)).pieces.size - 1), 1, false⟩] ∧
      ∃ slot placed, Piece.Lone (r.step (.markup stop)).pieces slot placed ∧
        placed.toTag = tag ∧ placed.paragraph = some 0 := by
  obtain ⟨opened, clean, stage⟩ := course
  cases stage with
  | ahead before _ behind _ _ _ text => simp at text
  | within _ raw behind _ _ _ _ _ text => simp at text
  | behind slot placed free one lone same own _ =>
    have ended : r.step (.markup stop) = { r with
        openParagraphs := []
        paragraphs := r.paragraphs.modify 0 fun span => { span with stop := some r.pieces.size }
        pieces := r.pieces.push (.verbatim stop) } := by
      rw [Reading.step, Reading.markup, closes, enter, closeParagraph, abandon_of_pending free, opened]
      rfl
    rw [ended]
    refine ⟨rfl, free, clean, ?_, slot, placed, lone.push stop, same, own⟩
    rw [one, Array.size_push, Nat.add_sub_cancel]
    rfl

end Reading

/-- The reading of a paragraph with one tag finds the tag in the paragraph and nothing else. -/
theorem LoneTag.read {source : Text} {tag : Tag} (lone : LoneTag source tag) :
    Reading.Lone tag ((Item.scan source).foldl Reading.step {}) := by
  obtain ⟨start, content, stop, scanned, opens, closes, inner⟩ := lone.paragraph
  obtain ⟨before, raw, behind, spelled, blank, blankBehind, letters, spells⟩ := lone.text
  have nested := lone.formed.nested
  rw [Edge.scan] at nested
  obtain ⟨openRows, openCells⟩ := Reading.rows_cells_closed nested
  have outside : ((Item.scan source).foldl Reading.step {}).textStart = none := by
    rw [← Option.not_isSome_iff_eq_none, Reading.foldl_step_inside]
    intro inside
    have none (opened : false = true) : textName ∈ [] := absurd opened Bool.false_ne_true
    cases Item.mem_of_inside nested none inside
  have course : Reading.Course tag (Reading.step {} (.markup start))
      (Item.stream (Reading.step {} (.markup start)).textStart.isSome
        (content ++ [.markup stop])) := by
    refine Reading.Course.begin opens ?_ blank blankBehind letters spells
    rw [scanned, Item.stream, Item.insideAfter, opens] at spelled
    rw [Reading.step, Reading.markup, opens]
    exact spelled
  have passed := course.foldl_step fun raw member =>
    inner raw (List.mem_filterMap.mpr ⟨.markup raw, member, rfl⟩)
  have last : (Item.scan source).foldl Reading.step {} =
      (content.foldl Reading.step (Reading.step {} (.markup start))).step (.markup stop) := by
    rw [scanned, List.foldl_cons, List.foldl_append]
    rfl
  rw [last] at openRows openCells outside ⊢
  obtain ⟨ended, free, clean, span, slot, placed, here, same, own⟩ := passed.ended closes
  obtain ⟨ahead, behind, split⟩ := here.exists_rows
  exact ⟨⟨ended, openRows, openCells, outside, free⟩, clean, span, placed, ahead, behind, split,
    same, own⟩

/-- Markup at the end of a part keeps character data behind it apart. -/
theorem Item.scan_append_of_markup {a last : Text} {items : List Item} (whole : Text.Whole a)
    (scanned : scan a = items ++ [.markup last]) (b : Text) : scan (a ++ b) = scan a ++ scan b := by
  rw [scan_append whole, scanned]
  clear scanned
  induction items with
  | nil => rfl
  | cons item items ih => rw [List.cons_append, join_cons item (by simp), ih, List.cons_append]

/-- Paragraphs stand apart from what is around them. -/
theorem LoneTag.scan_around {front body back : Text} {s t : Tag} (first : LoneTag front s)
    (last : LoneTag back t) (whole : Text.Whole body) :
    Item.scan (front ++ (body ++ back)) =
      Item.scan front ++ (Item.scan body ++ Item.scan back) := by
  obtain ⟨_, _, _, ended, -⟩ := first.paragraph
  obtain ⟨start, _, _, begun, -⟩ := last.paragraph
  have border : ∀ c ∈ back.head?, c = '<' := by
    have member : .markup start ∈ Item.scan back := by
      rw [begun]
      exact List.mem_cons_self
    have opened := (Item.cut_of_mem_scan member (last.formed.whole start member)).opened
    rw [← Item.spell_scan back, begun, Item.spell, List.flatMap_cons, List.head?_append, Item.raw,
      opened]
    simp
  rw [← Item.scan_append_of_border whole border]
  exact Item.scan_append_of_markup first.formed.whole (by rw [ended, ← List.cons_append]) _

end WordMerge
