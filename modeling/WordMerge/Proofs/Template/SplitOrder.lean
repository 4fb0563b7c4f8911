import WordMerge.Proofs.Template.SplitReading
import WordMerge.Proofs.Template.WidenedNesting

namespace WordMerge

/-- Two layouts, of which the second one has the counterparts of everything in the first one. -/
structure Layout.Split (ids : Counterparts) (whole cut : Layout) : Prop where
  pieces : Piece.Split ids.places whole.pieces cut.pieces
  paragraphs : Span.Splits ids.places ids.paragraphs whole.paragraphs cut.paragraphs
  rows : Span.Splits ids.places ids.rows whole.rows cut.rows
  cells : ∃ count count', Renumbers ids.cells count count'
  tags : ∀ (i j : Nat) t u, Sends ids.places i j → whole.pieces[i]? = some (.tag t) →
    cut.pieces[j]? = some (.tag u) → ids.Around t.paragraph t.row t.cell u.paragraph u.row u.cell

/-- The number of a counterpart. -/
def send (ids : List Nat) (a : Nat) : Nat :=
  ids[a]?.getD 0

section Send

variable {ids : List Nat} {size size' a b : Nat}

theorem Sends.send_eq (sends : Sends ids a b) : send ids a = b := by
  rw [send, show ids[a]? = some b from sends, Option.getD_some]

theorem Renumbers.sends_send (renumbers : Renumbers ids size size') (inside : a < size) :
    Sends ids a (send ids a) := by
  obtain ⟨b, sends⟩ := renumbers.exists_sends inside
  rw [sends.send_eq]
  exact sends

theorem Renumbers.send_inj (renumbers : Renumbers ids size size') (inside : a < size)
    (inside' : b < size) : send ids a = send ids b ↔ a = b :=
  renumbers.eq_iff (renumbers.sends_send inside) (renumbers.sends_send inside')

theorem rel_isSome {x y : Option Nat} (rel : Option.Rel (Sends ids) x y) : y.isSome = x.isSome := by
  cases rel <;> rfl

end Send

namespace Piece

theorem getElem?_of_stretch {pieces : Array Piece} {first next : Nat} {piece : Piece}
    {rest : List Piece} (starts : stretch pieces first next = piece :: rest) :
    pieces[first]? = some piece ∧ stretch pieces (first + 1) next = rest := by
  unfold stretch at starts ⊢
  have here : (pieces.toList.take next)[first]? = some piece := by
    rw [← List.head?_drop, starts, List.head?_cons]
  constructor
  · rw [List.getElem?_take] at here
    split at here
    · rwa [Array.getElem?_toList] at here
    · cases here
  · rw [← List.drop_drop, starts, List.drop_one, List.tail_cons]

namespace Split

variable {places : List Nat} {whole cut : Array Piece} {i j : Nat}

/-- A place and its stretch. -/
theorem exists_block (split : Split places whole cut) (sends : Sends places i j) :
    ∃ piece next, whole[i]? = some piece ∧ Sends (places ++ [cut.size]) (i + 1) next ∧ j < next ∧
      SplitAs (Edge.openedAt (edgeRows whole) i) piece (stretch cut j next) := by
  obtain ⟨inside, _⟩ := split.numbers.lt_size sends
  obtain ⟨next, after⟩ := split.numbers.push.exists_sends (Nat.succ_lt_succ inside)
  refine ⟨whole[i], next, Array.getElem?_eq_getElem inside, after, ?_, ?_⟩
  · exact split.numbers.push.lt_of_lt sends.append after (Nat.lt_succ_self i)
  · exact split.blocks i j next _ (Array.getElem?_eq_getElem inside) sends.append after

theorem exists_tag (split : Split places whole cut) (sends : Sends places i j) {t : PlacedTag}
    (found : whole[i]? = some (.tag t)) : ∃ u, cut[j]? = some (.tag u) ∧ t.toTag = u.toTag := by
  obtain ⟨piece, next, there, _, _, block⟩ := split.exists_block sends
  cases found.symm.trans there
  generalize starts : stretch cut j next = all at block
  cases block with
  | tag same _ => exact ⟨_, (getElem?_of_stretch starts).1, same⟩

/-- Section tags come to the same wherever they come out. -/
theorem alike_sections (split : Split places whole cut) {guests : List Nat}
    (sections : ∀ place ∈ guests, SectionAt whole place) (opened : List Text) :
    Alike opened (guests.filterMap fun place => whole[place]?)
      ((guests.map (send places)).filterMap fun place => cut[place]?) opened := by
  induction guests with
  | nil => exact .nil
  | cons place rest ih =>
    rw [List.forall_mem_cons] at sections
    obtain ⟨⟨t, found, kind⟩, later⟩ := sections
    obtain ⟨inside, _⟩ := Array.getElem?_eq_some_iff.mp found
    obtain ⟨u, found', same⟩ := split.exists_tag (split.numbers.sends_send inside) found
    rw [List.filterMap_cons, found, List.map_cons, List.filterMap_cons, found']
    exact .tag same (fun value => absurd value kind) (ih later)

end Split

end Piece

namespace SectionPairs

/-- The sections under the numbers of the counterparts of their tags. -/
def sent (ids : List Nat) (found : SectionPairs) : SectionPairs where
  stack := found.stack.map fun entry => (send ids entry.1, entry.2)
  pairs := found.pairs.map fun pair => (send ids pair.1, send ids pair.2)

theorem step_sent (ids : List Nat) (found : SectionPairs) (place : Nat) {t u : PlacedTag}
    (same : t.toTag = u.toTag) : (found.sent ids).step (send ids place) (.tag u) =
      (found.step place (.tag t)).sent ids := by
  have kinds : u.kind = t.kind := by rw [same]
  have names : u.name = t.name := by rw [same]
  obtain ⟨stack, pairs⟩ := found
  simp only [step, kinds, names]
  cases t.kind with
  | value => rfl
  | opening => rfl
  | inverted => rfl
  | closing =>
    cases stack with
    | nil => rfl
    | cons entry outer =>
      simp only [sent, List.map_cons]
      split <;> rfl

theorem scan_append (found : SectionPairs) (place : Nat) (a b : List Piece) :
    found.scan place (a ++ b) = (found.scan place a).scan (place + a.length) b := by
  induction a generalizing found place with
  | nil => rfl
  | cons piece a ih =>
    rw [List.cons_append, scan, ih, scan, List.length_cons]
    congr 1
    omega

/-- The same sections are found in both rows. -/
theorem scan_split {places : List Nat} {whole cut : Array Piece}
    (split : Piece.Split places whole cut) {i b : Nat} (border : Sends (places ++ [cut.size]) i b) :
    scan {} 0 (cut.toList.take b) = (scan {} 0 (whole.toList.take i)).sent places := by
  -- By the pieces of the whole reading: behind each of them stands one stretch of the cut one.
  induction i generalizing b with
  | zero =>
    have start := border.unique split.first
    rw [start]
    rfl
  | succ i ih =>
    have inside : i < whole.size := Nat.lt_of_succ_le (split.border border).1
    have sends := split.numbers.sends_send inside
    obtain ⟨piece, next, found, after, before, block⟩ := split.exists_block sends
    cases after.unique border
    have below := (split.border border).2
    have front : cut.toList.take b = cut.toList.take (send places i) ++
        Piece.stretch cut (send places i) b := by
      have first : cut.toList.take (send places i) =
          (cut.toList.take b).take (send places i) := by
        rw [List.take_take, Nat.min_eq_left (Nat.le_of_lt before)]
      rw [Piece.stretch, first, List.take_append_drop]
    have last : whole.toList.take (i + 1) = whole.toList.take i ++ [piece] := by
      rw [List.take_add_one, Array.getElem?_toList, found]
      rfl
    have length : (cut.toList.take (send places i)).length = send places i := by
      rw [List.length_take, Array.length_toList]
      omega
    have length' : (whole.toList.take i).length = i := by
      rw [List.length_take, Array.length_toList]
      omega
    rw [front, last, scan_append, scan_append, ih sends.append, length, length', Nat.zero_add,
      Nat.zero_add]
    generalize Piece.stretch cut (send places i) b = all at block
    generalize scan {} 0 (whole.toList.take i) = so
    cases block with
    | @xml xml first row _ _ => exact scan_verbatim _ _ (first :: row)
    | @tag t u row same _ =>
      rw [scan, step_sent places so i same, scan_verbatim]
      rfl

end SectionPairs

namespace ClosedSpan

/-- The span between the counterparts of its ends. -/
def sent (ids : List Nat) (span : ClosedSpan) : ClosedSpan :=
  ⟨send ids span.first, send ids span.last, span.single⟩

/-- The counterpart of a closed span is a closed span. -/
theorem ofSpans?_sent {places ids : List Nat} {spans spans' : Array Span}
    (splits : Span.Splits places ids spans spans') {number number' : Option Nat}
    (rel : Option.Rel (Sends ids) number number') :
    ofSpans? spans' number' = (ofSpans? spans number).map (sent places) := by
  cases rel with
  | none => rfl
  | @some k k' sends =>
    obtain ⟨inside, inside'⟩ := splits.numbers.lt_size sends
    have found : spans[k]? = some spans[k] := Array.getElem?_eq_getElem inside
    have found' : spans'[k']? = some spans'[k'] := Array.getElem?_eq_getElem inside'
    have split := splits.spans k k' _ _ sends found found'
    generalize spans[k] = a at found split
    generalize spans'[k'] = b at found' split
    obtain ⟨start, stop, tags, hasText⟩ := split
    obtain ⟨first, last, count, text⟩ := a
    obtain ⟨first', last', count', text'⟩ := b
    dsimp only at start stop tags hasText
    subst tags hasText
    unfold ofSpans?
    simp only [Option.bind_eq_bind, Option.bind_some, found, found', Option.pure_def]
    cases stop with
    | none => rfl
    | some stop => simp [sent, start.send_eq, stop.send_eq, Span.holdsSingleTag]

/-- The ends of a span have counterparts. -/
theorem sends_ends {places ids : List Nat} {spans spans' : Array Span}
    (splits : Span.Splits places ids spans spans') {number : Option Nat} {span : ClosedSpan}
    (found : ofSpans? spans number = some span) :
    Sends places span.first (send places span.first) ∧
      Sends places span.last (send places span.last) := by
  obtain ⟨k, noted, _, there, stop, start, _⟩ := ofSpans?_eq_some.mp found
  obtain ⟨k', sends⟩ := splits.numbers.exists_sends (Array.getElem?_eq_some_iff.mp there).1
  obtain ⟨_, inside⟩ := splits.numbers.lt_size sends
  obtain ⟨begins, ends, _, _⟩ :=
    splits.spans k k' noted _ sends there (Array.getElem?_eq_getElem inside)
  rw [start] at begins
  rw [stop] at ends
  refine ⟨begins.send_eq ▸ begins, ?_⟩
  generalize spans'[k'].stop = other at ends
  cases ends with
  | some here => exact here.send_eq ▸ here

end ClosedSpan

namespace Widening

/-- The widening under the numbers of the counterparts. -/
def sent (ids : List Nat) : Widening → Widening
  | .inline => .inline
  | .row span => .row (span.sent ids)
  | .paragraphs first last => .paragraphs (first.sent ids) (last.sent ids)

end Widening

namespace Layout

open Piece

namespace Split

variable {ids : Counterparts} {whole cut : Layout} {options : RenderOptions}

/-- The sections of the second layout are the counterparts of those of the first. -/
theorem sections_eq (split : Split ids whole cut) :
    cut.sections = whole.sections.map fun pair => (send ids.places pair.1, send ids.places pair.2) := by
  have last : Sends (ids.places ++ [cut.pieces.size]) whole.pieces.size cut.pieces.size :=
    split.pieces.numbers.sends_last
  have scanned := SectionPairs.scan_split split.pieces last
  rw [List.take_of_length_le (by simp), List.take_of_length_le (by simp)] at scanned
  rw [sections, sections, SectionPairs.ofPieces, SectionPairs.ofPieces, scanned]
  refine (List.map_mergeSort fun a first b second => ?_).symm
  have inside {pair : Nat × Nat}
      (member : pair ∈ (SectionPairs.scan {} 0 whole.pieces.toList).pairs) :
      pair.1 < whole.pieces.size := by
    have sorted : pair ∈ whole.sections := by
      rw [sections, SectionPairs.ofPieces, List.mem_mergeSort]
      exact member
    exact (lt_size_of_mem_sections sorted).1
  have order := split.pieces.numbers.lt_iff (split.pieces.numbers.sends_send (inside second))
    (split.pieces.numbers.sends_send (inside first))
  rw [decide_eq_decide]
  dsimp only
  omega

section Tags

variable {t u t' u' : PlacedTag} (split : Split ids whole cut)
  (opening : ids.Around t.paragraph t.row t.cell t'.paragraph t'.row t'.cell)
  (closing : ids.Around u.paragraph u.row u.cell u'.paragraph u'.row u'.cell)

include split opening closing

/-- A section is widened to counterparts of the same row. -/
theorem row?_eq :
    Widening.row? cut t' u' = (Widening.row? whole t u).map (ClosedSpan.sent ids.places) := by
  obtain ⟨_, _, cells⟩ := split.cells
  have some : t'.row.isSome = t.row.isSome := rel_isSome opening.row
  have sameRow := split.rows.numbers.rel_eq_iff opening.row closing.row
  have sameCell := cells.rel_eq_iff opening.cell closing.cell
  have rows := ClosedSpan.ofSpans?_sent split.rows opening.row
  unfold Widening.row?
  simp only [some, sameRow, ne_eq, sameCell, rows]
  split <;> rfl

/-- A section is widened to counterparts of the same paragraphs. -/
theorem paragraphs?_eq : Widening.paragraphs? cut t' u' = (Widening.paragraphs? whole t u).map
    fun both => (both.1.sent ids.places, both.2.sent ids.places) := by
  have same := split.paragraphs.numbers.rel_eq_iff opening.paragraph closing.paragraph
  have front := ClosedSpan.ofSpans?_sent split.paragraphs opening.paragraph
  have back := ClosedSpan.ofSpans?_sent split.paragraphs closing.paragraph
  unfold Widening.paragraphs?
  simp only [same, front, back]
  split
  · rfl
  · cases first : ClosedSpan.ofSpans? whole.paragraphs t.paragraph with
    | none => rfl
    | some a =>
      cases last : ClosedSpan.ofSpans? whole.paragraphs u.paragraph with
      | none => rfl
      | some b =>
        have order := split.pieces.numbers.lt_iff (ClosedSpan.sends_ends split.paragraphs first).2
          (ClosedSpan.sends_ends split.paragraphs last).1
        simp only [Option.map_some, ClosedSpan.sent, order]
        split <;> rfl

end Tags

/-- A section widens to the counterpart of what it widens to in the first layout. -/
theorem widening_eq (split : Split ids whole cut) {pair : Nat × Nat} (member : pair ∈ whole.sections) :
    cut.widening options (send ids.places pair.1, send ids.places pair.2) =
      (whole.widening options pair).sent ids.places := by
  obtain ⟨⟨t, opens, _⟩, ⟨u, closes, _⟩⟩ := SectionPairs.ofPieces_sections member
  obtain ⟨inside, inside'⟩ := lt_size_of_mem_sections member
  have first := split.pieces.numbers.sends_send inside
  have second := split.pieces.numbers.sends_send inside'
  obtain ⟨t', opens', _⟩ := split.pieces.exists_tag first opens
  obtain ⟨u', closes', _⟩ := split.pieces.exists_tag second closes
  have opening := split.tags _ _ t t' first opens opens'
  have closing := split.tags _ _ u u' second closes closes'
  have tag : whole.tagAt? pair.1 = .some t := by rw [tagAt?, opens]; rfl
  have tag' : whole.tagAt? pair.2 = .some u := by rw [tagAt?, closes]; rfl
  have sentTag : cut.tagAt? (send ids.places pair.1) = .some t' := by rw [tagAt?, opens']; rfl
  have sentTag' : cut.tagAt? (send ids.places pair.2) = .some u' := by rw [tagAt?, closes']; rfl
  simp only [widening, tag, tag', sentTag, sentTag', Widening.ofTags, split.row?_eq opening closing,
    split.paragraphs?_eq opening closing]
  cases Widening.row? whole t u with
  | some span => rfl
  | none =>
    cases options.paragraphLoop with
    | false => rfl
    | true => cases Widening.paragraphs? whole t u <;> rfl

end Split

end Layout

/-- A slot under the numbers of the counterparts. -/
def Slot.sent (ids : List Nat) (slot : Slot) : Slot where
  before := slot.before.map (send ids)
  dropped := slot.dropped
  moved := slot.moved
  after := slot.after.map (send ids)

namespace Plan

section Sent

variable {ids : List Nat} {size size' place : Nat} {pair : Nat × Nat} {w : Widening}

theorem anchorsOf_sent (ids : List Nat) (w : Widening) :
    anchorsOf (w.sent ids) = (anchorsOf w).map (send ids) := by
  cases w <;> rfl

theorem moversOf_sent (ids : List Nat) (pair : Nat × Nat) (w : Widening) :
    moversOf (send ids pair.1, send ids pair.2) (w.sent ids) = (moversOf pair w).map (send ids) := by
  cases w <;> rfl

/-- The counterparts of the same tags are sent in front of a place. -/
theorem inFront_sent (renumbers : Renumbers ids size size') (here : place < size)
    (there : ∀ anchor ∈ anchorsOf w, anchor < size) :
    inFront (send ids pair.1, send ids pair.2) (send ids place) (w.sent ids) =
      (inFront pair place w).map (send ids) := by
  cases w with
  | inline => rfl
  | row span =>
    have first := renumbers.send_inj here (there span.first (by simp [anchorsOf]))
    simp only [Widening.sent, ClosedSpan.sent, inFront, first]
    split <;> rfl
  | paragraphs first last =>
    have front := renumbers.send_inj here (there first.first (by simp [anchorsOf]))
    have back := renumbers.send_inj here (there last.first (by simp [anchorsOf]))
    simp only [Widening.sent, ClosedSpan.sent, inFront, front, back, List.map_append]
    congr 1 <;> split <;> rfl

/-- The counterparts of the same tags are sent behind a place. -/
theorem behind_sent (renumbers : Renumbers ids size size') (here : place < size)
    (there : ∀ anchor ∈ anchorsOf w, anchor < size) :
    behind (send ids pair.1, send ids pair.2) (send ids place) (w.sent ids) =
      (behind pair place w).map (send ids) := by
  cases w with
  | inline => rfl
  | row span =>
    have last := renumbers.send_inj here (there span.last (by simp [anchorsOf]))
    simp only [Widening.sent, ClosedSpan.sent, behind, last]
    split <;> rfl
  | paragraphs first last => rfl

theorem inFront_eq_nil (off : place ∉ anchorsOf w) : inFront pair place w = [] := by
  cases w with
  | inline => rfl
  | row span =>
    rw [anchorsOf, List.mem_pair, not_or] at off
    exact if_neg off.1
  | paragraphs first last =>
    rw [anchorsOf, List.mem_pair, not_or] at off
    rw [inFront, if_neg off.1, if_neg off.2]
    rfl

theorem behind_eq_nil (off : place ∉ anchorsOf w) : behind pair place w = [] := by
  cases w with
  | inline => rfl
  | row span =>
    rw [anchorsOf, List.mem_pair, not_or] at off
    exact if_neg off.2
  | paragraphs first last => rfl

theorem drops_iff {plan : Plan} {slot : Slot} (found : plan[place]? = some slot) :
    plan.Drops place ↔ slot.dropped = true := by
  simp [Drops, found]

end Sent

end Plan

namespace Piece.Split

variable {places : List Nat} {whole cut : Array Piece} {i j a next : Nat}

/-- Where a place of the second row stands, told by the place whose stretch it is in. -/
theorem send_le_iff (split : Split places whole cut) (inside : i < whole.size)
    (after : Sends (places ++ [cut.size]) (i + 1) next) (lower : send places i ≤ j) (upper : j < next)
    (other : a < whole.size) : send places a ≤ j ↔ a ≤ i := by
  have here := split.numbers.sends_send inside
  have there := split.numbers.sends_send other
  constructor
  · intro before
    by_contra later
    rcases Nat.lt_or_eq_of_le (Nat.succ_le_of_lt (Nat.lt_of_not_le later)) with beyond | same
    · have := split.numbers.push.lt_of_lt after there.append beyond
      omega
    · subst same
      have := after.unique there.append
      omega
  · intro before
    rcases Nat.lt_or_eq_of_le before with less | rfl
    · have := split.numbers.lt_of_lt there here less
      omega
    · exact lower

theorem le_send_iff (split : Split places whole cut) (inside : i < whole.size)
    (after : Sends (places ++ [cut.size]) (i + 1) next) (lower : send places i ≤ j) (upper : j < next)
    (ends : landmarkAt whole a ∈ [some .rowEnd, some .paragraphEnd]) : j ≤ send places a ↔ i ≤ a := by
  have other : a < whole.size := by
    rcases List.mem_pair.mp ends with same | same <;> exact lt_size_of_landmarkAt same
  have here := split.numbers.sends_send inside
  have there := split.numbers.sends_send other
  have order := split.send_le_iff inside after lower upper other
  constructor
  · intro before
    by_contra later
    have := split.numbers.lt_of_lt there here (Nat.lt_of_not_le later)
    omega
  · intro before
    by_cases same : i = a
    · subst same
      have single := split.ends i _ next ends here.append after
      omega
    · omega

/-- Inside a stretch stands no counterpart. -/
theorem send_ne_of_inner (split : Split places whole cut) (inside : i < whole.size)
    (after : Sends (places ++ [cut.size]) (i + 1) next) (lower : send places i < j) (upper : j < next)
    (other : a < whole.size) : send places a ≠ j := by
  intro same
  have order := split.send_le_iff inside after (Nat.le_of_lt lower) upper other
  have upTo : a ≤ i := order.mp (by omega)
  rcases Nat.lt_or_eq_of_le upTo with less | rfl
  · have := split.numbers.lt_of_lt (split.numbers.sends_send other) (split.numbers.sends_send inside) less
    omega
  · omega

end Piece.Split

namespace Layout.Split

open Piece

variable {ids : Counterparts} {whole cut : Layout} {options : RenderOptions} {i j next : Nat} {slot : Slot}

theorem movers_eq (split : Split ids whole cut) :
    cut.movers options = (whole.movers options).map (send ids.places) := by
  rw [movers, movers, split.sections_eq, List.flatMap_map, List.map_flatMap]
  refine List.flatMap_congr fun pair member => ?_
  rw [split.widening_eq member, Plan.moversOf_sent]

theorem lt_size_of_getElem?_plan (found : (whole.plan options)[i]? = some slot) :
    i < whole.pieces.size := by
  rw [← whole.size_plan options]
  exact (Array.getElem?_eq_some_iff.mp found).1

/-- Everything in a stretch disappears with the piece whose stretch it is. -/
theorem drops_iff (split : Split ids whole cut) (noted : whole.Noted) (inside : i < whole.pieces.size)
    (after : Sends (ids.places ++ [cut.pieces.size]) (i + 1) next) (lower : send ids.places i ≤ j)
    (upper : j < next) : (cut.plan options).Drops j ↔ (whole.plan options).Drops i := by
  have below := (split.pieces.border after).2
  have same (pair : Nat × Nat) : Plan.DroppedBy j ((whole.widening options pair).sent ids.places) ↔
      Plan.DroppedBy i (whole.widening options pair) := by
    cases widens : whole.widening options pair with
    | inline => rfl
    | row span => rfl
    | paragraphs first last =>
      obtain ⟨⟨_, opens⟩, ⟨_, closes⟩, _⟩ := noted.pages widens
      have ends {closed : ClosedSpan} (back : landmarkAt whole.pieces closed.last = some .paragraphEnd) :
          landmarkAt whole.pieces closed.last ∈ [some .rowEnd, some .paragraphEnd] := by
        rw [back]
        simp
      simp only [Widening.sent, ClosedSpan.sent, Plan.DroppedBy]
      rw [split.pieces.send_le_iff inside after lower upper (lt_size_of_landmarkAt opens.front),
        split.pieces.send_le_iff inside after lower upper (lt_size_of_landmarkAt closes.front),
        split.pieces.le_send_iff inside after lower upper (ends opens.back),
        split.pieces.le_send_iff inside after lower upper (ends closes.back)]
  rw [drops_plan, drops_plan, split.sections_eq, and_iff_right inside, and_iff_right (by omega)]
  constructor
  · rintro ⟨_, member, dropped⟩
    obtain ⟨pair, known, rfl⟩ := List.mem_map.mp member
    rw [split.widening_eq known] at dropped
    exact ⟨pair, known, (same pair).mp dropped⟩
  · rintro ⟨pair, known, dropped⟩
    refine ⟨_, List.mem_map_of_mem known, ?_⟩
    rw [split.widening_eq known]
    exact (same pair).mpr dropped

/-- The slot of a counterpart. -/
theorem getElem?_plan_send (split : Split ids whole cut) (noted : whole.Noted) (noted' : cut.Noted)
    (found : (whole.plan options)[i]? = some slot) :
    (cut.plan options)[send ids.places i]? = some (slot.sent ids.places) := by
  have inside := lt_size_of_getElem?_plan found
  have sends := split.pieces.numbers.sends_send inside
  obtain ⟨_, next, _, after, upper, _⟩ := split.pieces.exists_block sends
  obtain ⟨_, again, before, behind⟩ := whole.exists_slot options inside
  cases found.symm.trans again
  obtain ⟨slot', found', before', behind'⟩ :=
    cut.exists_slot options (split.pieces.numbers.lt_size sends).2
  have front : slot'.before = slot.before.map (send ids.places) := by
    rw [before', before, split.sections_eq, List.flatMap_map, List.map_flatMap]
    refine List.flatMap_congr fun pair member => ?_
    rw [split.widening_eq member]
    exact Plan.inFront_sent split.pieces.numbers inside fun anchor => noted.lt_size_of_mem_anchorsOf
  have back : slot'.after = slot.after.map (send ids.places) := by
    rw [behind', behind, split.sections_eq, ← List.map_reverse, List.flatMap_map, List.map_flatMap]
    refine List.flatMap_congr fun pair member => ?_
    rw [split.widening_eq (List.mem_reverse.mp member)]
    exact Plan.behind_sent split.pieces.numbers inside fun anchor => noted.lt_size_of_mem_anchorsOf
  have dropped : slot'.dropped = slot.dropped := by
    rw [Bool.eq_iff_iff, ← Plan.drops_iff found', ← Plan.drops_iff found]
    exact split.drops_iff noted inside after (Nat.le_refl _) upper
  have moved : slot'.moved = slot.moved := by
    rw [Bool.eq_iff_iff, (noted'.settled_plan options).moved _ _ found',
      (noted.settled_plan options).moved _ _ found, split.movers_eq, List.mem_map]
    constructor
    · rintro ⟨other, member, same⟩
      have equal := (split.pieces.numbers.send_inj (lt_size_of_mem_movers member) inside).mp same
      exact equal ▸ member
    · exact fun member => ⟨i, member, rfl⟩
  rw [found']
  obtain ⟨b, d, m, a⟩ := slot'
  dsimp only at front back dropped moved
  subst front back dropped moved
  rfl

/-- Nothing happens inside a stretch, but that it may disappear. -/
theorem getElem?_plan_inner (split : Split ids whole cut) (noted : whole.Noted) (noted' : cut.Noted)
    (found : (whole.plan options)[i]? = some slot)
    (after : Sends (ids.places ++ [cut.pieces.size]) (i + 1) next) (lower : send ids.places i < j)
    (upper : j < next) : (cut.plan options)[j]? = some { dropped := slot.dropped } := by
  have inside := lt_size_of_getElem?_plan found
  have below := (split.pieces.border after).2
  obtain ⟨slot', found', before', behind'⟩ := @exists_slot cut options j (by omega)
  have off (pair : Nat × Nat) :
      j ∉ Plan.anchorsOf ((whole.widening options pair).sent ids.places) := by
    rw [Plan.anchorsOf_sent, List.mem_map]
    rintro ⟨anchor, member, same⟩
    exact split.pieces.send_ne_of_inner inside after lower upper
      (noted.lt_size_of_mem_anchorsOf member) same
  have front : slot'.before = [] := by
    rw [before', split.sections_eq, List.flatMap_map, List.flatMap_eq_nil_iff]
    intro pair member
    rw [split.widening_eq member]
    exact Plan.inFront_eq_nil (off pair)
  have back : slot'.after = [] := by
    rw [behind', split.sections_eq, ← List.map_reverse, List.flatMap_map, List.flatMap_eq_nil_iff]
    intro pair member
    rw [split.widening_eq (List.mem_reverse.mp member)]
    exact Plan.behind_eq_nil (off pair)
  have dropped : slot'.dropped = slot.dropped := by
    rw [Bool.eq_iff_iff, ← Plan.drops_iff found', ← Plan.drops_iff found]
    exact split.drops_iff noted inside after (Nat.le_of_lt lower) upper
  have moved : slot'.moved = false := by
    rw [← Bool.not_eq_true, (noted'.settled_plan options).moved _ _ found', split.movers_eq,
      List.mem_map]
    rintro ⟨other, member, same⟩
    exact split.pieces.send_ne_of_inner inside after lower upper (lt_size_of_mem_movers member) same
  rw [found']
  obtain ⟨b, d, m, a⟩ := slot'
  dsimp only at front back dropped moved
  subst front back dropped moved
  rfl

end Layout.Split

namespace Piece

theorem stretch_succ {pieces : Array Piece} {first place : Nat} (ordered : first ≤ place)
    (inside : place ≤ pieces.size) :
    stretch pieces first (place + 1) = stretch pieces first place ++ pieces[place]?.toList := by
  have length : first ≤ (pieces.toList.take place).length := by
    rw [List.length_take, Array.length_toList]
    omega
  rw [stretch, List.take_add_one, List.drop_append_of_le_length length, Array.getElem?_toList, stretch]

theorem stretch_self (pieces : Array Piece) (place : Nat) : stretch pieces place place = [] :=
  List.drop_eq_nil_of_le (List.length_take_le _ _)

section SplitAs

variable {opened after : List Text} {piece : Piece} {block : List Piece}

/-- A piece and what it is split into come to the same. -/
theorem SplitAs.alike (split : SplitAs opened piece block) (passed : piece.pass opened = some after) :
    Alike opened [piece] block after := by
  cases split with
  | @xml xml first row between alike =>
    have left := alike.left
    rw [List.flatMap_singleton] at left
    have same : between = after := Option.some.inj (left.symm.trans passed)
    exact same ▸ Alike.of_xml alike
  | @tag s t row same alike =>
    rw [pass] at passed
    split at passed
    · cases passed
    · next proper =>
      cases passed
      exact .tag same (fun kind => Decidable.byContradiction fun off => proper ⟨kind, off⟩)
        (Alike.of_xml alike)

/-- Behind a tag stands what comes to nothing. -/
theorem SplitAs.alike_tail {s : PlacedTag} (split : SplitAs opened (.tag s) block) :
    Alike opened [] block.tail opened := by
  cases split with
  | tag _ alike => exact Alike.of_xml alike

end SplitAs

end Piece

namespace Layout.Split

open Piece

variable {ids : Counterparts} {whole cut : Layout} {options : RenderOptions} {i next : Nat} {slot : Slot}

/-- What stands behind the counterpart of a piece comes out with it. -/
theorem piecesTo_inner (split : Split ids whole cut) (noted : whole.Noted) (noted' : cut.Noted)
    (found : (whole.plan options)[i]? = some slot)
    (after : Sends (ids.places ++ [cut.pieces.size]) (i + 1) next) {m : Nat}
    (lower : send ids.places i + 1 ≤ m) (upper : m ≤ next) :
    (cut.plan options).piecesTo cut.pieces m =
      (cut.plan options).piecesTo cut.pieces (send ids.places i + 1) ++
        if slot.dropped then [] else stretch cut.pieces (send ids.places i + 1) m := by
  induction m, lower using Nat.le_induction with
  | base => rw [stretch_self, ite_self, List.append_nil]
  | succ m lower ih =>
    have below := (split.pieces.border after).2
    have inner := split.getElem?_plan_inner noted noted' found after (Nat.lt_of_succ_le lower) upper
    rw [Plan.piecesTo_succ inner, ih (by omega), List.append_assoc]
    congr 1
    cases slot.dropped with
    | true => rfl
    | false =>
      rw [if_neg Bool.false_ne_true, if_neg Bool.false_ne_true, stretch_succ lower (by omega)]
      simp [Plan.placesAt, List.filterMap_cons]
      cases cut.pieces[m]? <;> rfl

/-- Tags come out behind the end of a row only, which is a stretch for itself. -/
theorem single_of_after (split : Split ids whole cut) (noted : whole.Noted)
    (found : (whole.plan options)[i]? = some slot) (filled : slot.after ≠ [])
    (after : Sends (ids.places ++ [cut.pieces.size]) (i + 1) next) : next = send ids.places i + 1 := by
  have inside := lt_size_of_getElem?_plan found
  obtain ⟨_, again, _, behind⟩ := whole.exists_slot options inside
  cases found.symm.trans again
  rw [behind] at filled
  obtain ⟨own, member⟩ := List.exists_mem_of_ne_nil _ filled
  obtain ⟨pair, _, sent⟩ := List.mem_flatMap.mp member
  cases widens : whole.widening options pair with
  | inline =>
    rw [widens] at sent
    cases sent
  | paragraphs first last =>
    rw [widens] at sent
    cases sent
  | row span =>
    rw [widens, Plan.behind] at sent
    split at sent
    · next here =>
      obtain ⟨_, ends, _⟩ := noted.row widens
      rw [← here] at ends
      refine split.pieces.ends i _ next ?_ (split.pieces.numbers.sends_send inside).append after
      rw [ends]
      exact List.mem_cons_self
    · cases sent

/-- What comes out at a place comes to the same as what comes out at its stretch. -/
theorem alike_succ {Q : Text → Prop} (split : Split ids whole cut) (noted : whole.Noted)
    (noted' : cut.Noted) (placed : InPlace Q whole) (found : (whole.plan options)[i]? = some slot)
    (after : Sends (ids.places ++ [cut.pieces.size]) (i + 1) next) {opened : List Text}
    (here : slot.dropped = false → opened = Edge.openedAt (edgeRows whole.pieces) i)
    (before : Alike [] ((whole.plan options).piecesTo whole.pieces i)
      ((cut.plan options).piecesTo cut.pieces (send ids.places i)) opened) :
    Alike [] ((whole.plan options).piecesTo whole.pieces (i + 1))
      ((cut.plan options).piecesTo cut.pieces next)
      (if slot.dropped then opened else Edge.openedAt (edgeRows whole.pieces) (i + 1)) := by
  have inside := lt_size_of_getElem?_plan found
  have sends := split.pieces.numbers.sends_send inside
  obtain ⟨piece, _, there, again, upper, block⟩ := split.pieces.exists_block sends
  cases after.unique again
  have fair := placed.fair_plan options
  have guests := fair.guests i slot found
  rw [List.forall_mem_append] at guests
  have passed := placed.laid.pass there
  have below := (split.pieces.border after).2
  have head : cut.pieces[send ids.places i]? = some cut.pieces[send ids.places i] :=
    Array.getElem?_eq_getElem (by omega)
  rw [stretch_eq_cons head upper] at block
  rw [Plan.piecesTo_succ found, split.piecesTo_inner noted noted' found after upper (Nat.le_refl _),
    Plan.piecesTo_succ (split.getElem?_plan_send noted noted' found), Plan.placesAt, Plan.placesAt]
  simp only [List.filterMap_append, Slot.sent]
  have own : Alike opened
      ((if slot.dropped || slot.moved then [] else [i]).filterMap fun place => whole.pieces[place]?)
      (((if slot.dropped || slot.moved then [] else [send ids.places i]).filterMap
          fun place => cut.pieces[place]?) ++
        if slot.dropped then [] else stretch cut.pieces (send ids.places i + 1) next)
      (if slot.dropped then opened else Edge.openedAt (edgeRows whole.pieces) (i + 1)) := by
    cases dropped : slot.dropped with
    | true => exact .nil
    | false =>
      cases here dropped
      cases moved : slot.moved with
      | true =>
        obtain ⟨tag, same, kind⟩ := fair.moved i slot found moved
        cases there.symm.trans same
        rw [pass_section kind] at passed
        rw [if_neg Bool.false_ne_true, ← Option.some.inj passed]
        exact block.alike_tail
      | false =>
        have alike := block.alike passed
        simpa [there, head] using alike
  have front := split.pieces.alike_sections guests.1 opened
  have back := split.pieces.alike_sections guests.2
    (if slot.dropped then opened else Edge.openedAt (edgeRows whole.pieces) (i + 1))
  have all := before.append ((front.append own).append back)
  -- Where tags come behind the piece, the rest of its stretch is empty.
  by_cases none : slot.after = []
  · rw [none] at all ⊢
    simpa using all
  · have single := split.single_of_after noted found none after
    rw [single, stretch_self] at all ⊢
    simpa using all

/-- In a stretch of places that disappears come out the tags that others send there. -/
theorem alike_dropped {Q : Text → Prop} (split : Split ids whole cut) (noted : whole.Noted)
    (noted' : cut.Noted) (placed : InPlace Q whole) {first stop a b : Nat} (ordered : first ≤ stop)
    (drops : ∀ place, first ≤ place → place < stop → (whole.plan options).Drops place)
    (start : Sends (ids.places ++ [cut.pieces.size]) first a)
    (border : Sends (ids.places ++ [cut.pieces.size]) stop b) {opened : List Text}
    (before : Alike [] ((whole.plan options).piecesTo whole.pieces first)
      ((cut.plan options).piecesTo cut.pieces a) opened) :
    Alike [] ((whole.plan options).piecesTo whole.pieces stop)
      ((cut.plan options).piecesTo cut.pieces b) opened := by
  induction stop, ordered using Nat.le_induction generalizing b with
  | base =>
    cases start.unique border
    exact before
  | succ stop ordered ih =>
    obtain ⟨slot, found, dropped⟩ := drops stop ordered (Nat.lt_succ_self stop)
    have sends := split.pieces.numbers.sends_send (lt_size_of_getElem?_plan found)
    have so := ih (fun place lower upper => drops place lower (Nat.lt_succ_of_lt upper)) sends.append
    have all := split.alike_succ noted noted' placed found border (fun kept => by simp [dropped] at kept) so
    rwa [if_pos dropped] at all

/-- In front of a place that is not inside a stretch that disappears, the same came out in both
orders. -/
theorem alike_piecesTo {Q : Text → Prop} (split : Split ids whole cut) (noted : whole.Noted)
    (noted' : cut.Noted) (placed : InPlace Q whole) {place b : Nat}
    (border : Sends (ids.places ++ [cut.pieces.size]) place b)
    (outside : (whole.plan options).Outside whole.pieces place) :
    Alike [] ((whole.plan options).piecesTo whole.pieces place)
      ((cut.plan options).piecesTo cut.pieces b) (Edge.openedAt (edgeRows whole.pieces) place) := by
  have fair := placed.fair_plan options
  refine fair.outside_induction (motive := fun place => ∀ b,
    Sends (ids.places ++ [cut.pieces.size]) place b →
    Alike [] ((whole.plan options).piecesTo whole.pieces place)
      ((cut.plan options).piecesTo cut.pieces b) (Edge.openedAt (edgeRows whole.pieces) place))
    ?_ ?_ ?_ (split.pieces.border border).1 outside b border
  · intro b border
    cases border.unique split.pieces.first
    exact .nil
  · intro place slot found stays before b border
    have sends := split.pieces.numbers.sends_send (lt_size_of_getElem?_plan found)
    have all := split.alike_succ noted noted' placed found border (fun _ => rfl)
      (before _ sends.append)
    rwa [stays, if_neg Bool.false_ne_true] at all
  · intro first last removes before b border
    have ordered := removes.encloses.ordered
    have inside := removes.encloses.inside
    rw [length_edgeRows] at inside
    have start : Sends (ids.places ++ [cut.pieces.size]) first (send ids.places first) :=
      (split.pieces.numbers.sends_send (Nat.lt_of_le_of_lt ordered inside)).append
    rw [removes.encloses.same]
    exact split.alike_dropped noted noted' placed (by omega)
      (fun place lower upper => removes.drops place lower (by omega)) start border
      (before _ start)

/-- The pieces of both layouts come to the same when the sections are widened. -/
theorem widened {Q : Text → Prop} (split : Split ids whole cut) (noted : whole.Noted)
    (noted' : cut.Noted) (placed : InPlace Q whole) (options : RenderOptions) :
    Alike [] (whole.widened options) (cut.widened options) [] := by
  have ends : Edge.openedAt (edgeRows whole.pieces) whole.pieces.size = [] := by
    rw [← length_edgeRows, Edge.openedAt_length placed.laid.walked]
  have last : Sends (ids.places ++ [cut.pieces.size]) whole.pieces.size cut.pieces.size :=
    split.pieces.numbers.sends_last
  have alike := @alike_piecesTo ids whole cut options Q split noted noted' placed _ _ last
    (Plan.outside_size _ _)
  rw [ends] at alike
  rw [whole.widened_eq, cut.widened_eq]
  exact alike

end Layout.Split

end WordMerge
