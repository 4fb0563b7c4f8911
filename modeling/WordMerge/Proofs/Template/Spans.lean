import WordMerge.Proofs.Template.Conservation

namespace WordMerge

namespace Span

/-- A place is behind the start of a span, and in front of its end if it has one. -/
def Covers (span : Span) (place : Nat) : Prop :=
  span.start < place ∧ ∀ stop, span.stop = some stop → place < stop

/-- A span begins behind the start of another one, and ends in front of its end if that has one. -/
def Within (inner outer : Span) : Prop :=
  outer.start < inner.start ∧
    ∀ stop, outer.stop = some stop → ∃ last, inner.stop = some last ∧ last < stop

/-- A span ends before another one begins. -/
def EndsBefore (a b : Span) : Prop :=
  ∃ stop, a.stop = some stop ∧ stop < b.start

/-- Spans begin one after the other, and each one stands behind those before it or inside them. -/
def Layered (spans : Array Span) : Prop :=
  ∀ (i j : Nat) a b, i < j → spans[i]? = some a → spans[j]? = some b →
    a.start < b.start ∧ (a.EndsBefore b ∨ b.Within a)

/-- The span with the given number is the last one that covers a place; without a number none does. -/
structure Innermost (spans : Array Span) (place : Nat) (id : Option Nat) : Prop where
  named : ∀ number, id = some number → ∃ span, spans[number]? = some span ∧ span.Covers place
  last : ∀ (other : Nat) span, spans[other]? = some span → span.Covers place →
    ∃ number, id = some number ∧ other ≤ number

/-- The spans of one kind when so many places are behind the reading. Those with the given numbers are
still open, the innermost one first. -/
structure UnderWay (size : Nat) (spans : Array Span) (opened : List Nat) : Prop where
  bounded : ∀ (number : Nat) span, spans[number]? = some span →
    span.start < size ∧ ∀ stop, span.stop = some stop → stop < size
  layered : Layered spans
  latest : opened.Pairwise (· > ·)
  known : ∀ number ∈ opened, number < spans.size
  unclosed : ∀ (number : Nat) span, spans[number]? = some span →
    (span.stop = none ↔ number ∈ opened)

/-- The next place is passed: the spans are in order behind it, and what covered the places before it
covers them still. -/
structure Grows (size : Nat) (spans later : Array Span) (opened : List Nat) : Prop where
  underWay : UnderWay (size + 1) later opened
  kept : ∀ place id, place < size → Innermost spans place id → Innermost later place id

section Change

variable {size place : Nat} {spans : Array Span} {opened rest : List Nat} {id : Option Nat}

/-- A change that moves neither end of a span changes nothing about what it covers. -/
theorem exists_of_modify {number other : Nat} {change : Span → Span}
    (start : ∀ span, (change span).start = span.start)
    (stop : ∀ span, (change span).stop = span.stop) {span : Span}
    (found : (spans.modify number change)[other]? = some span) :
    ∃ old, spans[other]? = some old ∧ span.start = old.start ∧ span.stop = old.stop := by
  rw [Array.getElem?_modify] at found
  split at found
  · obtain ⟨old, there, rfl⟩ := Option.map_eq_some_iff.mp found
    exact ⟨old, there, start old, stop old⟩
  · exact ⟨span, found, rfl, rfl⟩

/-- A change that leaves the extent of a span alone leaves it innermost. -/
theorem Innermost.modify (innermost : Innermost spans place id) (number : Nat) {change : Span → Span}
    (same : ∀ span, spans[number]? = some span → ((change span).Covers place ↔ span.Covers place)) :
    Innermost (spans.modify number change) place id := by
  refine ⟨fun around here => ?_, fun other span found covers => ?_⟩
  · obtain ⟨span, found, covers⟩ := innermost.named around here
    rw [Array.getElem?_modify, found]
    split
    · next own =>
      subst own
      exact ⟨_, rfl, (same span found).mpr covers⟩
    · exact ⟨span, rfl, covers⟩
  · rw [Array.getElem?_modify] at found
    split at found
    · next own =>
      subst own
      obtain ⟨old, there, rfl⟩ := Option.map_eq_some_iff.mp found
      exact innermost.last _ old there ((same old there).mp covers)
    · exact innermost.last other span found covers

theorem Innermost.push (innermost : Innermost spans place id) {span : Span}
    (beyond : ¬ span.Covers place) : Innermost (spans.push span) place id := by
  refine ⟨fun number here => ?_, fun other later found covers => ?_⟩
  · obtain ⟨old, found, covers⟩ := innermost.named number here
    obtain ⟨inside, _⟩ := Array.getElem?_eq_some_iff.mp found
    exact ⟨old, by rw [Array.getElem?_push, if_neg (by omega), found], covers⟩
  · rw [Array.getElem?_push] at found
    split at found
    · cases found
      exact absurd covers beyond
    · exact innermost.last other later found covers

theorem underWay_start : UnderWay 0 #[] [] := by
  refine ⟨?_, ?_, List.Pairwise.nil, nofun, ?_⟩
  · intro number span found
    simp at found
  · intro i j a b _ found
    simp at found
  · intro number span found
    simp at found

/-- A change that leaves start and stop alone leaves the spans as they are. -/
theorem UnderWay.modify (way : UnderWay size spans opened) (number : Nat) {change : Span → Span}
    (start : ∀ span, (change span).start = span.start)
    (stop : ∀ span, (change span).stop = span.stop) :
    UnderWay size (spans.modify number change) opened := by
  refine ⟨fun other span found => ?_, fun i j a b before first second => ?_, way.latest,
    fun other member => ?_, fun other span found => ?_⟩
  · obtain ⟨old, there, begins, ends⟩ := exists_of_modify start stop found
    rw [begins, ends]
    exact way.bounded other old there
  · obtain ⟨oldA, thereA, beginsA, endsA⟩ := exists_of_modify start stop first
    obtain ⟨oldB, thereB, beginsB, endsB⟩ := exists_of_modify start stop second
    unfold EndsBefore Within
    rw [beginsA, beginsB, endsA, endsB]
    exact way.layered i j oldA oldB before thereA thereB
  · rw [Array.size_modify]
    exact way.known other member
  · obtain ⟨old, there, _, ends⟩ := exists_of_modify start stop found
    rw [ends]
    exact way.unclosed other old there

theorem UnderWay.mono (way : UnderWay size spans opened) : UnderWay (size + 1) spans opened := by
  refine ⟨fun number span found => ?_, way.layered, way.latest, way.known, way.unclosed⟩
  obtain ⟨start, stops⟩ := way.bounded number span found
  exact ⟨Nat.lt_succ_of_lt start, fun stop closed => Nat.lt_succ_of_lt (stops stop closed)⟩

theorem UnderWay.stay (way : UnderWay size spans opened) : Grows size spans spans opened :=
  ⟨way.mono, fun _ _ _ => id⟩

/-- The innermost open span is the innermost one around the next place. -/
theorem UnderWay.innermost (way : UnderWay size spans opened) :
    Innermost spans size opened.head? := by
  constructor
  · intro number here
    have member : number ∈ opened := List.mem_of_mem_head? here
    have found := Array.getElem?_eq_getElem (way.known number member)
    refine ⟨_, found, (way.bounded number _ found).1, fun stop closed => ?_⟩
    rw [(way.unclosed number _ found).mpr member] at closed
    cases closed
  · intro other span found covers
    have open_ : span.stop = none := by
      by_contra closed
      obtain ⟨stop, same⟩ := Option.ne_none_iff_exists'.mp closed
      have before := (way.bounded other span found).2 stop same
      have after := covers.2 stop same
      omega
    have member := (way.unclosed other span found).mp open_
    have latest := way.latest
    cases opened with
    | nil => cases member
    | cons number rest =>
      refine ⟨number, rfl, ?_⟩
      rcases List.mem_cons.mp member with rfl | below
      · exact Nat.le_refl _
      · exact Nat.le_of_lt ((List.pairwise_cons.mp latest).1 other below)

/-- A span that begins at the next place is inside those that are open, and behind the others. -/
theorem UnderWay.layered_begin (way : UnderWay size spans opened) :
    Layered (spans.push (.beginAt size)) := by
  intro i j a b before first second
  rw [Array.getElem?_push] at first second
  split at first
  · next own =>
    subst own
    rw [if_neg (by omega)] at second
    obtain ⟨inside, _⟩ := Array.getElem?_eq_some_iff.mp second
    omega
  · split at second
    · cases second
      obtain ⟨start, stops⟩ := way.bounded i a first
      refine ⟨start, ?_⟩
      cases closed : a.stop with
      | none =>
        refine .inr ⟨start, fun stop ends => ?_⟩
        rw [closed] at ends
        cases ends
      | some stop => exact .inl ⟨stop, closed, stops stop closed⟩
    · exact way.layered i j a b before first second

/-- A span begins at the next place. -/
theorem UnderWay.begin (way : UnderWay size spans opened) :
    Grows size spans (spans.push (.beginAt size)) (spans.size :: opened) := by
  refine ⟨⟨fun number span found => ?_, way.layered_begin, ?_, ?_, fun number span found => ?_⟩,
    fun place id inside innermost => innermost.push ?_⟩
  · rw [Array.getElem?_push] at found
    split at found
    · cases found
      exact ⟨Nat.lt_succ_self size, nofun⟩
    · exact way.mono.bounded number span found
  · exact List.pairwise_cons.mpr ⟨way.known, way.latest⟩
  · rw [Array.size_push]
    refine List.forall_mem_cons.mpr ⟨Nat.lt_succ_self _, fun number member => ?_⟩
    exact Nat.lt_succ_of_lt (way.known number member)
  · rw [Array.getElem?_push] at found
    split at found
    · next own =>
      cases found
      simp [own, Span.beginAt]
    · next other =>
      rw [way.unclosed number span found, List.mem_cons, or_iff_right other]
  · exact fun covers => Nat.lt_asymm inside covers.1

/-- The spans once the one with the given number has ended at the next place. -/
def closeAt (spans : Array Span) (number size : Nat) : Array Span :=
  spans.modify number fun span => { span with stop := some size }

/-- Only the span that is closed is not what it was. -/
theorem getElem?_closeAt {number other : Nat} {closing span : Span}
    (inner : spans[number]? = some closing) (found : (closeAt spans number size)[other]? = some span) :
    other = number ∧ span = { closing with stop := some size } ∨
      other ≠ number ∧ spans[other]? = some span := by
  rw [closeAt, Array.getElem?_modify] at found
  split at found
  · next own =>
    subst own
    rw [inner] at found
    cases found
    exact .inl ⟨rfl, rfl⟩
  · next different => exact .inr ⟨fun same => different same.symm, found⟩

/-- Where the innermost open span is closed, the later ones are inside it: all of them are closed. -/
theorem UnderWay.layered_close {number : Nat} (way : UnderWay size spans (number :: rest)) :
    Layered (closeAt spans number size) := by
  intro i j a b before first second
  obtain ⟨above, -⟩ := List.pairwise_cons.mp way.latest
  have inner := Array.getElem?_eq_getElem (way.known number List.mem_cons_self)
  have open_ := (way.unclosed number _ inner).mpr List.mem_cons_self
  rcases getElem?_closeAt inner first with ⟨rfl, rfl⟩ | ⟨_, oldA⟩ <;>
    rcases getElem?_closeAt inner second with ⟨rfl, rfl⟩ | ⟨_, oldB⟩
  · exact absurd before (Nat.lt_irrefl _)
  · obtain ⟨start, -⟩ := way.layered _ j _ b before inner oldB
    refine ⟨start, .inr ⟨start, fun stop ends => ?_⟩⟩
    cases ends
    cases closed : b.stop with
    | none =>
      have member := (way.unclosed j b oldB).mp closed
      rcases List.mem_cons.mp member with rfl | below
      · exact absurd before (Nat.lt_irrefl _)
      · exact absurd before (Nat.lt_asymm (above j below))
    | some last => exact ⟨last, rfl, (way.bounded j b oldB).2 last closed⟩
  · obtain ⟨start, either⟩ := way.layered i _ a _ before oldA inner
    refine ⟨start, either.imp_right fun within => ⟨start, fun stop ends => ?_⟩⟩
    obtain ⟨last, closed, _⟩ := within.2 stop ends
    rw [open_] at closed
    cases closed
  · exact way.layered i j a b before oldA oldB

/-- The innermost open span ends at the next place. -/
theorem UnderWay.close {number : Nat} (way : UnderWay size spans (number :: rest)) :
    Grows size spans (closeAt spans number size) rest := by
  obtain ⟨above, latest⟩ := List.pairwise_cons.mp way.latest
  have inner := Array.getElem?_eq_getElem (way.known number List.mem_cons_self)
  have open_ := (way.unclosed number _ inner).mpr List.mem_cons_self
  refine ⟨⟨fun other span found => ?_, way.layered_close, latest, fun other member => ?_,
    fun other span found => ?_⟩,
    fun place id inside innermost => innermost.modify number fun span found => ?_⟩
  · rcases getElem?_closeAt inner found with ⟨rfl, rfl⟩ | ⟨_, old⟩
    · refine ⟨Nat.lt_succ_of_lt (way.bounded _ _ inner).1, fun stop closed => ?_⟩
      cases closed
      exact Nat.lt_succ_self size
    · exact way.mono.bounded other span old
  · rw [closeAt, Array.size_modify]
    exact way.known other (List.mem_cons_of_mem _ member)
  · rcases getElem?_closeAt inner found with ⟨rfl, rfl⟩ | ⟨different, old⟩
    · have gone : other ∉ rest := fun member => Nat.lt_irrefl _ (above other member)
      simp [gone]
    · rw [way.unclosed other span old, List.mem_cons, or_iff_right different]
  · rw [inner] at found
    cases found
    simp [Covers, open_, inside]

end Change

/-- No span inside the innermost one around a place covers the place. -/
theorem Innermost.not_covers {spans : Array Span} {place number other : Nat} {span inner : Span}
    (innermost : Innermost spans place (some number)) (layered : Layered spans)
    (found : spans[number]? = some span) (there : spans[other]? = some inner)
    (within : inner.Within span) : ¬ inner.Covers place := by
  intro covers
  obtain ⟨_, ⟨⟩, before⟩ := innermost.last other inner there covers
  rcases Nat.lt_or_eq_of_le before with earlier | rfl
  · have starts := (layered other number inner span earlier there found).1
    exact absurd within.1 (Nat.lt_asymm starts)
  · cases found.symm.trans there
    exact absurd within.1 (Nat.lt_irrefl _)

end Span

namespace Piece

/-- The number of tags that note the paragraph with the given number. -/
def noting (pieces : Array Piece) (number : Nat) : Nat :=
  (pieces.toList.map Piece.tag?).countP fun tag => tag.any (·.paragraph = some number)

variable {pieces : Array Piece} {number : Nat}

@[simp] theorem noting_push (xml : Text) :
    noting (pieces.push (.verbatim xml)) number = noting pieces number := by
  simp [noting, Piece.tag?]

theorem noting_eq_zero (none : ∀ (place : Nat) tag, pieces[place]? = some (.tag tag) →
    tag.paragraph ≠ some number) : noting pieces number = 0 := by
  refine List.countP_eq_zero.mpr fun tag member => ?_
  obtain ⟨piece, inside, rfl⟩ := List.mem_map.mp member
  obtain ⟨place, found⟩ := List.mem_iff_getElem?.mp inside
  rw [Array.getElem?_toList] at found
  cases piece with
  | verbatim xml => simp [Piece.tag?]
  | tag placed => simpa [Piece.tag?] using none place placed found

end Piece

namespace Reading

open Piece

section Finished

variable {pieces : Array Piece} {pending : PendingTag} {xml : Text}
  (slot : pieces[pending.slot]? = some (.verbatim xml)) (tag : PlacedTag)

include slot

/-- A finished tag counts for the paragraph that it notes. -/
theorem noting_finished (number : Nat) : noting (finished pieces pending tag) number =
    noting pieces number + if tag.paragraph = some number then 1 else 0 := by
  obtain ⟨inside, empty⟩ := Array.getElem?_eq_some_iff.mp slot
  unfold noting
  rw [tag?_finished, List.countP_set (by simpa using inside)]
  simp [empty, Piece.tag?]

end Finished

/-- A property of readings that no step takes away. -/
structure Lasting (P : Reading → Prop) : Prop where
  markup : ∀ r raw, P r → P (r.markup raw)
  push : ∀ r xml, P r → P (r.push (.verbatim xml))
  noted : ∀ r number, P r → P { r with
    paragraphs := r.paragraphs.modify number fun span => { span with hasText := true } }
  report : ∀ r fault, P r → P (r.report fault)
  forget : ∀ r, P r → P { r with pending := none }
  beginTag : ∀ r, P r → P r.beginTag
  extend : ∀ r tag raw, P r → r.pending = some tag →
    P { r with pending := some { tag with raw := raw } }
  finishTag : ∀ r tag, P r → r.pending = some tag →
    P ({ r with pending := none }.finishTag tag)

section Lasting

variable {P : Reading → Prop} {r : Reading}

theorem Lasting.plain (lasting : Lasting P) (holds : P r) (text : Text) : P (r.plain text) := by
  rcases r.plain_cases text with ⟨_, same⟩ | same | ⟨number, same⟩
  · rwa [same]
  · rw [same]
    exact lasting.push r text holds
  · rw [same]
    exact lasting.push _ text (lasting.noted r number holds)

theorem Lasting.abandon (lasting : Lasting P) (holds : P r) : P r.abandon := by
  unfold Reading.abandon
  split
  · exact holds
  · exact lasting.report _ _ (lasting.forget r holds)

/-- What every step keeps is kept by character data. -/
theorem Lasting.passes (lasting : Lasting P) (holds : P r) {before rest : Text} {final : Reading}
    (passes : r.Passes before rest final) : P final := by
  induction passes with
  | settle _ => exact lasting.plain holds _
  | wait _ => exact holds
  | first _ _ ih => exact ih (lasting.beginTag _ (lasting.plain holds _))
  | again _ _ ih => exact ih (lasting.beginTag _ (lasting.abandon holds))
  | finish under _ ih => exact ih (lasting.finishTag _ _ holds under)
  | unopened _ _ ih => exact ih (lasting.report _ _ holds)
  | extend under _ _ _ ih => exact ih (lasting.extend _ _ _ holds under)
  | hold _ _ _ _ ih => exact ih holds

/-- What every step keeps is kept by all items. -/
theorem Lasting.foldl_step (lasting : Lasting P) (holds : P r) (items : List Item) :
    P (items.foldl step r) := by
  induction items generalizing r with
  | nil => exact holds
  | cons item rest ih =>
    refine ih ?_
    cases item with
    | markup raw => exact lasting.markup r raw holds
    | text raw =>
      rw [step]
      split
      · exact lasting.passes holds (r.passes_characters [] raw)
      · exact lasting.push r raw holds

end Lasting

/-- A reading whose spans are in order, whose tags note the spans around them, and whose paragraphs count
their tags. -/
structure Spanned (r : Reading) : Prop where
  paragraphs : Span.UnderWay r.pieces.size r.paragraphs r.openParagraphs
  rows : Span.UnderWay r.pieces.size r.rows r.openRows
  slot : ∀ tag, r.pending = some tag → r.pieces[tag.slot]? = some (.verbatim []) ∧
    Span.Innermost r.paragraphs tag.slot tag.paragraph ∧ Span.Innermost r.rows tag.slot tag.row
  tags : ∀ (place : Nat) tag, r.pieces[place]? = some (.tag tag) →
    Span.Innermost r.paragraphs place tag.paragraph ∧ Span.Innermost r.rows place tag.row
  counted : ∀ (number : Nat) span, r.paragraphs[number]? = some span →
    span.tags = noting r.pieces number

theorem spanned_start : Spanned {} := by
  refine ⟨Span.underWay_start, Span.underWay_start, nofun, ?_, ?_⟩
  · intro place tag found
    simp at found
  · intro number span found
    simp at found

variable {r : Reading}

/-- XML is added, and the spans grow with it. -/
theorem Spanned.grow (spanned : r.Spanned) {next : Reading} {xml : Text}
    (pieces : next.pieces = r.pieces.push (.verbatim xml))
    (paragraphs : Span.Grows r.pieces.size r.paragraphs next.paragraphs next.openParagraphs)
    (rows : Span.Grows r.pieces.size r.rows next.rows next.openRows)
    (pending : ∀ tag, next.pending = some tag → r.pending = some tag)
    (counted : ∀ (number : Nat) span, next.paragraphs[number]? = some span →
      span.tags = noting r.pieces number) : next.Spanned := by
  have size : next.pieces.size = r.pieces.size + 1 := by rw [pieces, Array.size_push]
  have kept {place : Nat} {piece : Piece} (found : r.pieces[place]? = some piece)
      {paragraph row : Option Nat} (around : Span.Innermost r.paragraphs place paragraph ∧
        Span.Innermost r.rows place row) :
      Span.Innermost next.paragraphs place paragraph ∧ Span.Innermost next.rows place row := by
    obtain ⟨inside, _⟩ := Array.getElem?_eq_some_iff.mp found
    exact ⟨paragraphs.kept place _ inside around.1, rows.kept place _ inside around.2⟩
  refine ⟨size ▸ paragraphs.underWay, size ▸ rows.underWay, fun tag under => ?_,
    fun place tag found => ?_, fun number span found => ?_⟩
  · obtain ⟨empty, around⟩ := spanned.slot tag (pending tag under)
    exact ⟨pieces ▸ getElem?_push_of_some empty _, kept empty around⟩
  · rw [pieces, Array.getElem?_push] at found
    split at found
    · cases found
    · exact kept found (spanned.tags place tag found)
  · rw [pieces, noting_push]
    exact counted number span found

theorem Spanned.push (spanned : r.Spanned) (xml : Text) : (r.push (.verbatim xml)).Spanned :=
  spanned.grow rfl spanned.paragraphs.stay spanned.rows.stay (fun _ => id) spanned.counted

theorem Spanned.forget (spanned : r.Spanned) : Spanned { r with pending := none } :=
  ⟨spanned.paragraphs, spanned.rows, nofun, spanned.tags, spanned.counted⟩

theorem Spanned.report (spanned : r.Spanned) (fault : TagFault) : (r.report fault).Spanned :=
  ⟨spanned.paragraphs, spanned.rows, spanned.slot, spanned.tags, spanned.counted⟩

theorem Spanned.abandon (spanned : r.Spanned) : r.abandon.Spanned := by
  unfold Reading.abandon
  split
  · exact spanned
  · exact spanned.forget.report _

/-- A change of paragraphs that keeps their counts. -/
theorem tags_of_modify {spans : Array Span} {pieces : Array Piece}
    (counted : ∀ (number : Nat) span, spans[number]? = some span → span.tags = noting pieces number)
    (number : Nat) {change : Span → Span} (same : ∀ span, (change span).tags = span.tags)
    (other : Nat) (span : Span) (found : (spans.modify number change)[other]? = some span) :
    span.tags = noting pieces other := by
  rw [Array.getElem?_modify] at found
  split at found
  · obtain ⟨old, there, rfl⟩ := Option.map_eq_some_iff.mp found
    rw [same]
    exact counted other old there
  · exact counted other span found

theorem Spanned.markup (spanned : r.Spanned) (raw : Text) : (r.markup raw).Spanned := by
  unfold Reading.markup
  cases Landmark.ofMarkup raw with
  | paragraphStart =>
    refine spanned.grow rfl spanned.paragraphs.begin spanned.rows.stay (fun _ => id)
      fun number span found => ?_
    simp only [enter, openParagraph, Reading.push] at found
    rw [Array.getElem?_push] at found
    split at found
    · next last =>
      -- No tag notes a paragraph that has just begun.
      cases found
      refine (noting_eq_zero fun place tag there same => ?_).symm
      obtain ⟨span, known, _⟩ := (spanned.tags place tag there).1.named number same
      simp [last] at known
    · exact spanned.counted number span found
  | paragraphEnd =>
    have given := spanned.abandon
    simp only [enter, closeParagraph]
    generalize r.abandon = s at given
    cases inner : s.openParagraphs with
    | nil => exact given.push raw
    | cons number rest =>
      refine given.grow rfl (inner ▸ given.paragraphs).close given.rows.stay (fun _ => id) ?_
      exact tags_of_modify given.counted number fun _ => rfl
  | rowStart =>
    exact spanned.grow rfl spanned.paragraphs.stay spanned.rows.begin (fun _ => id) spanned.counted
  | rowEnd =>
    simp only [enter, closeRow]
    cases inner : r.openRows with
    | nil => exact spanned.push raw
    | cons number rest =>
      exact spanned.grow rfl spanned.paragraphs.stay (inner ▸ spanned.rows).close (fun _ => id)
        spanned.counted
  | textStart | textEnd | cellStart | cellEnd | lineBreak | other =>
    exact spanned.grow rfl spanned.paragraphs.stay spanned.rows.stay (fun _ => id) spanned.counted

theorem Spanned.noted (spanned : r.Spanned) (number : Nat) : Spanned { r with
    paragraphs := r.paragraphs.modify number fun span => { span with hasText := true } } := by
  generalize changed :
    (r.paragraphs.modify number fun span => { span with hasText := true }) = later
  have way : Span.UnderWay r.pieces.size later r.openParagraphs := by
    rw [← changed]
    exact spanned.paragraphs.modify number (fun _ => rfl) fun _ => rfl
  have kept {place : Nat} {id : Option Nat} (innermost : Span.Innermost r.paragraphs place id) :
      Span.Innermost later place id := by
    rw [← changed]
    exact innermost.modify number fun _ _ => Iff.rfl
  refine ⟨way, spanned.rows, fun tag under => ?_, fun place tag found => ?_, ?_⟩
  · obtain ⟨empty, paragraph, row⟩ := spanned.slot tag under
    exact ⟨empty, kept paragraph, row⟩
  · obtain ⟨paragraph, row⟩ := spanned.tags place tag found
    exact ⟨kept paragraph, row⟩
  · rw [← changed]
    exact tags_of_modify spanned.counted number fun _ => rfl

theorem Spanned.beginTag (spanned : r.Spanned) : r.beginTag.Spanned := by
  have pushed := spanned.push []
  refine ⟨pushed.paragraphs, pushed.rows, fun tag same => ?_, pushed.tags, pushed.counted⟩
  cases same
  exact ⟨Array.getElem?_push_size, spanned.paragraphs.innermost, spanned.rows.innermost⟩

theorem Spanned.extend (spanned : r.Spanned) {tag : PendingTag} (under : r.pending = some tag)
    (raw : Text) : Spanned { r with pending := some { tag with raw := raw } } := by
  refine ⟨spanned.paragraphs, spanned.rows, fun found same => ?_, spanned.tags, spanned.counted⟩
  cases same
  exact spanned.slot tag under

theorem underWay_counting {size : Nat} {spans : Array Span} {opened : List Nat}
    (way : Span.UnderWay size spans opened) (own : Option Nat) :
    Span.UnderWay size (counting spans own) opened := by
  cases own with
  | none => exact way
  | some number =>
    exact @Span.UnderWay.modify _ _ _ way number (fun span => { span with tags := span.tags + 1 })
      (fun _ => rfl) fun _ => rfl

theorem innermost_counting {spans : Array Span} {place : Nat} {id : Option Nat}
    (innermost : Span.Innermost spans place id) (own : Option Nat) :
    Span.Innermost (counting spans own) place id := by
  cases own with
  | none => exact innermost
  | some number =>
    exact @Span.Innermost.modify _ _ _ innermost number
      (fun span => { span with tags := span.tags + 1 }) fun _ _ => Iff.rfl

/-- A finished tag is counted in its paragraph. -/
theorem Spanned.finishTag (spanned : r.Spanned) {pending : PendingTag}
    (under : r.pending = some pending) :
    Spanned ({ r with pending := none }.finishTag pending) := by
  obtain ⟨slot, paragraph, row⟩ := spanned.slot pending under
  rcases { r with pending := none }.finishTag_cases pending with
    ⟨fault, same⟩ | ⟨placed, _, ⟨ownParagraph, ownRow⟩, same⟩
  · rw [same]
    exact spanned.forget.report _
  · rw [same]
    have size := size_finished r.pieces pending placed
    refine ⟨size.symm ▸ underWay_counting spanned.paragraphs _, size.symm ▸ spanned.rows, nofun,
      fun place other found => ?_, fun number span found => ?_⟩
    · rcases tag_of_finished slot placed found with ⟨rfl, rfl⟩ | ⟨_, old⟩
      · rw [ownParagraph, ownRow]
        exact ⟨innermost_counting paragraph _, row⟩
      · obtain ⟨inner, inRow⟩ := spanned.tags place other old
        exact ⟨innermost_counting inner _, inRow⟩
    · dsimp only at found
      rw [getElem?_counting] at found
      obtain ⟨old, there, rfl⟩ := Option.map_eq_some_iff.mp found
      have counted := noting_finished slot placed number
      rw [ownParagraph, ← spanned.counted number old there] at counted
      refine Eq.trans ?_ counted.symm
      split <;> rfl

theorem lasting_spanned : Lasting Spanned where
  markup _ raw spanned := spanned.markup raw
  push _ xml spanned := spanned.push xml
  noted _ number spanned := spanned.noted number
  report _ fault spanned := spanned.report fault
  forget _ spanned := spanned.forget
  beginTag _ spanned := spanned.beginTag
  extend _ _ raw spanned under := spanned.extend under raw
  finishTag _ _ spanned under := spanned.finishTag under

theorem spanned_foldl_step (items : List Item) : (items.foldl step {}).Spanned :=
  lasting_spanned.foldl_step spanned_start items

end Reading

namespace Span

/-- A number names a span that covers a place, and no other span inside that one does; without a number
no span covers it. -/
structure Around (spans : Array Span) (place : Nat) (id : Option Nat) : Prop where
  named : ∀ number, id = some number → ∃ span, spans[number]? = some span ∧ span.Covers place ∧
    ∀ (other : Nat) inner, spans[other]? = some inner → inner.Within span → ¬ inner.Covers place
  free : id = none → ∀ (other : Nat) span, spans[other]? = some span → ¬ span.Covers place

/-- Of layered spans, the innermost one is inside all others around a place. -/
theorem Innermost.around {spans : Array Span} {place : Nat} {id : Option Nat}
    (innermost : Innermost spans place id) (layered : Layered spans) : Around spans place id := by
  constructor
  · rintro number rfl
    obtain ⟨span, found, covers⟩ := innermost.named number rfl
    exact ⟨span, found, covers, fun other inner there within =>
      innermost.not_covers layered found there within⟩
  · rintro rfl other span found covers
    obtain ⟨number, here, -⟩ := innermost.last other span found covers
    cases here

end Span

/-- The places that a section widens to are in order, and there are as many pieces. -/
def Widening.InBounds (size : Nat) : Widening → Prop
  | .inline => True
  | .row span => span.first < span.last ∧ span.last < size
  | .paragraphs first last =>
    first.first < first.last ∧ first.last < last.first ∧ last.first < last.last ∧ last.last < size

namespace Layout

variable {layout : Layout} {options : RenderOptions} {pair : Nat × Nat}

/-- The places that a part taken to pieces knows agree with each other. Spans begin and end at markup of
their kind and do not cross, tags note the spans around them, paragraphs count the tags that note them,
and widening deals with places of pieces only. -/
structure Positioned (layout : Layout) : Prop where
  paragraphs : Span.Marked layout.pieces .paragraphStart .paragraphEnd layout.paragraphs ∧
    Span.Layered layout.paragraphs
  rows : Span.Marked layout.pieces .rowStart .rowEnd layout.rows ∧ Span.Layered layout.rows
  tags : ∀ (place : Nat) tag, layout.pieces[place]? = some (.tag tag) →
    Span.Around layout.paragraphs place tag.paragraph ∧ Span.Around layout.rows place tag.row
  counted : ∀ (number : Nat) span, layout.paragraphs[number]? = some span →
    span.tags = Piece.noting layout.pieces number
  sections : ∀ pair ∈ layout.sections, pair.1 < layout.pieces.size ∧ pair.2 < layout.pieces.size
  widenings : ∀ options, ∀ pair ∈ layout.sections,
    (layout.widening options pair).InBounds layout.pieces.size
  order : ∀ options, ∀ place ∈ (layout.plan options).order, place < layout.pieces.size

/-- Widening finds all its places among the pieces. -/
theorem Noted.inBounds_widening (noted : layout.Noted) :
    (layout.widening options pair).InBounds layout.pieces.size := by
  cases widens : layout.widening options pair with
  | inline => trivial
  | row span =>
    obtain ⟨_, back, ordered⟩ := noted.row widens
    exact ⟨ordered, Piece.lt_size_of_landmarkAt back⟩
  | paragraphs first last =>
    obtain ⟨⟨_, opens⟩, ⟨_, closes⟩, between⟩ := noted.pages widens
    exact ⟨Nat.lt_trans opens.between.1 opens.between.2, between,
      Nat.lt_trans closes.between.1 closes.between.2, Piece.lt_size_of_landmarkAt closes.back⟩

theorem Noted.lt_size_of_mem_order (noted : layout.Noted) {place : Nat}
    (member : place ∈ (layout.plan options).order) : place < layout.pieces.size := by
  rcases List.mem_append.mp ((Plan.order_perm _).mem_iff.mp member) with stays | moves
  · obtain ⟨slot, found, _⟩ := Plan.mem_residents.mp stays
    exact layout.size_plan options ▸ (Array.getElem?_eq_some_iff.mp found).1
  · exact lt_size_of_mem_movers ((noted.settled_plan options).guests.mem_iff.mp moves)

/-- Whatever is wrong with a part, the places that are known of its pieces agree with each other. -/
theorem positioned_ofPart (source : Text) : (ofPart source).Positioned := by
  have spanned := (Reading.spanned_foldl_step (Item.scan source)).abandon
  have noted := noted_ofPart source
  have pages : Span.Layered (ofPart source).paragraphs := spanned.paragraphs.layered
  have rows : Span.Layered (ofPart source).rows := spanned.rows.layered
  exact {
    paragraphs := ⟨noted.paragraphs, pages⟩
    rows := ⟨noted.rows, rows⟩
    tags := fun place tag found =>
      ⟨(spanned.tags place tag found).1.around pages, (spanned.tags place tag found).2.around rows⟩
    counted := spanned.counted
    sections := fun _ member => lt_size_of_mem_sections member
    widenings := fun _ _ _ => noted.inBounds_widening
    order := fun _ _ member => noted.lt_size_of_mem_order member }

end Layout

end WordMerge
