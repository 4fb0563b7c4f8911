import Mathlib.Data.List.Nodup
import Mathlib.Data.List.Perm.Basic
import WordMerge.Proofs.Template.Surroundings
import WordMerge.Proofs.Template.WidenedOrder

namespace WordMerge

namespace SectionPairs

/-- The places that were taken for sections so far. -/
def places (found : SectionPairs) : List Nat :=
  found.stack.map Prod.fst ++ found.pairs.flatMap fun pair => [pair.1, pair.2]

theorem places_step (found : SectionPairs) (place : Nat) (piece : Piece) :
    (found.step place piece).places = found.places ∨
      (found.step place piece).places.Perm (place :: found.places) := by
  have passing := passing_step found place piece
  generalize found.step place piece = next at passing ⊢
  cases passing with
  | xml | value | unmatched => exact .inl rfl
  | opened opens => exact .inr (.refl _)
  | @closed tag start outer closes stack =>
    refine .inr ?_
    simp only [places, stack, List.map_cons, List.flatMap_cons, List.cons_append, List.nil_append]
    generalize found.pairs.flatMap (fun pair => [pair.1, pair.2]) = paired
    generalize outer.map Prod.fst = opened
    have front : (opened ++ start :: place :: paired).Perm (start :: (opened ++ place :: paired)) :=
      List.perm_middle
    have back : (opened ++ place :: paired).Perm (place :: (opened ++ paired)) := List.perm_middle
    exact front.trans ((back.cons start).trans (.swap place start _))

/-- The places taken so far are different ones and lie behind. -/
structure Distinct (place : Nat) (found : SectionPairs) : Prop where
  nodup : found.places.Nodup
  below : ∀ other ∈ found.places, other < place

/-- No place is found twice, since every place is behind those before. -/
theorem Distinct.step {found : SectionPairs} {place : Nat} (distinct : Distinct place found)
    (piece : Piece) : Distinct (place + 1) (found.step place piece) := by
  obtain ⟨nodup, below⟩ := distinct
  rcases found.places_step place piece with same | more
  · rw [← same] at nodup below
    exact ⟨nodup, fun other member => Nat.lt_succ_of_lt (below other member)⟩
  · have fresh : place ∉ found.places := fun member => Nat.lt_irrefl place (below place member)
    refine ⟨more.nodup_iff.mpr (List.nodup_cons.mpr ⟨fresh, nodup⟩), fun other member => ?_⟩
    rcases List.mem_cons.mp (more.mem_iff.mp member) with rfl | old
    · exact Nat.lt_succ_self other
    · exact Nat.lt_succ_of_lt (below other old)

/-- No tag belongs to two sections. -/
theorem nodup_ofPieces (pieces : List Piece) :
    ((ofPieces pieces).flatMap fun pair => [pair.1, pair.2]).Nodup := by
  have all : Distinct pieces.length (scan {} 0 pieces) :=
    scan_induction Distinct ⟨List.nodup_nil, by simp [places]⟩
      fun _ piece _ _ distinct => distinct.step piece
  have sorted := (List.mergeSort_perm (scan {} 0 pieces).pairs fun a b => a.1 ≤ b.1).flatMap_right
    fun pair => [pair.1, pair.2]
  exact sorted.nodup_iff.mpr (List.nodup_append.mp all.nodup).2.1

end SectionPairs

namespace Plan

/-- The places that come out in front of the pieces of others or behind them. -/
def guests (plan : Plan) : List Nat :=
  plan.toList.flatMap fun slot => slot.before ++ slot.after

/-- The places that come out where they stand. -/
def residents (plan : Plan) : List Nat :=
  plan.toList.zipIdx.flatMap fun entry =>
    if entry.1.dropped || entry.1.moved then [] else [entry.2]

theorem order_perm (plan : Plan) : plan.order.Perm (plan.residents ++ plan.guests) := by
  have guests : plan.guests = plan.toList.zipIdx.flatMap fun entry =>
      entry.1.before ++ entry.1.after := by
    rw [Plan.guests]
    conv => lhs; rw [← List.zipIdx_map_fst 0 plan.toList, List.flatMap_map]
  rw [guests, residents]
  refine List.Perm.trans ?_ (List.flatMap_append_perm _ _ _).symm
  refine List.Perm.flatMap_left _ fun entry _ => ?_
  obtain ⟨slot, place⟩ := entry
  dsimp only
  rw [List.append_assoc]
  exact List.perm_append_comm_assoc _ _ _

/-- The places that stay are those that are neither dropped nor moved. -/
theorem mem_residents {plan : Plan} {place : Nat} : place ∈ plan.residents ↔
    ∃ slot, plan[place]? = some slot ∧ slot.dropped = false ∧ slot.moved = false := by
  rw [residents, List.mem_flatMap]
  constructor
  · rintro ⟨⟨slot, other⟩, member, inside⟩
    have found := List.mem_zipIdx_iff_getElem?.mp member
    rw [Array.getElem?_toList] at found
    dsimp only at inside found
    split at inside
    · cases inside
    · next stays =>
      rw [List.mem_singleton.mp inside]
      refine ⟨slot, found, ?_⟩
      simpa using stays
  · rintro ⟨slot, found, dropped, moved⟩
    refine ⟨(slot, place), List.mem_zipIdx_iff_getElem?.mpr ?_, ?_⟩
    · rwa [Array.getElem?_toList]
    · simp [dropped, moved]

/-- What comes out where it stands comes out in order. -/
theorem residents_sublist (plan : Plan) : plan.residents.Sublist (List.range plan.size) := by
  have sublist (entries : List (Slot × Nat)) : (entries.flatMap fun entry =>
      if entry.1.dropped || entry.1.moved then [] else [entry.2]).Sublist (entries.map Prod.snd) := by
    induction entries with
    | nil => exact List.Sublist.slnil
    | cons entry entries ih =>
      rw [List.flatMap_cons, List.map_cons]
      split
      · exact ih.cons _
      · exact ih.cons_cons _
  have places : plan.toList.zipIdx.map Prod.snd = List.range plan.size := by
    rw [List.zipIdx_map_snd, Array.length_toList, List.range_eq_range']
  exact places ▸ sublist plan.toList.zipIdx

theorem nodup_residents (plan : Plan) : plan.residents.Nodup :=
  plan.residents_sublist.nodup List.nodup_range

/-- Exactly the given places move, each of them to one place. -/
structure Settled (plan : Plan) (movers : List Nat) : Prop where
  guests : plan.guests.Perm movers
  moved : ∀ (place : Nat) slot, plan[place]? = some slot → (slot.moved = true ↔ place ∈ movers)

theorem flatMap_modify {α β : Type} {l : List α} {i : Nat} (inside : i < l.length) {change : α → α}
    {f : α → List β} {new : List β} (added : ∀ a, (f (change a)).Perm (new ++ f a)) :
    ((l.modify i change).flatMap f).Perm (new ++ l.flatMap f) := by
  induction l generalizing i with
  | nil => simp at inside
  | cons a l ih =>
    cases i with
    | zero =>
      rw [List.modify_zero_cons, List.flatMap_cons, List.flatMap_cons, ← List.append_assoc]
      exact (added a).append_right _
    | succ i =>
      rw [List.modify_succ_cons, List.flatMap_cons, List.flatMap_cons]
      have later := ih (Nat.lt_of_succ_lt_succ inside)
      exact (later.append_left _).trans (List.perm_append_comm_assoc _ _ _)

theorem guests_modify {plan : Plan} {anchor : Nat} (inside : anchor < plan.size)
    {change : Slot → Slot} {new : List Nat} (added : ∀ slot,
      ((change slot).before ++ (change slot).after).Perm (new ++ (slot.before ++ slot.after))) :
    (guests (plan.modify anchor change)).Perm (new ++ plan.guests) := by
  rw [guests, guests, Array.toList_modify]
  exact flatMap_modify (by simpa using inside) added

section Settled

variable {plan : Plan} {movers : List Nat} {anchor place : Nat}

theorem settled_unchanged (size : Nat) : Settled (unchanged size) [] := by
  refine ⟨?_, fun place slot found => ?_⟩
  · have none : guests (unchanged size) = [] := by
      simp [guests, unchanged]
    rw [none]
  · simp only [unchanged, Array.getElem?_replicate] at found
    split at found
    · cases found
      simp
    · cases found

/-- A place moves to a slot. -/
theorem Settled.move (settled : plan.Settled movers) (inside : place < plan.size)
    (there : anchor < plan.size) {change : Slot → Slot}
    (moved : ∀ slot, (change slot).moved = slot.moved)
    (added : ∀ slot,
      ((change slot).before ++ (change slot).after).Perm ([place] ++ (slot.before ++ slot.after))) :
    Settled ((plan.modify place fun slot => { slot with moved := true }).modify anchor change)
      (place :: movers) := by
  constructor
  · have left : (Plan.guests (plan.modify place fun slot => { slot with moved := true })).Perm
        plan.guests :=
      @guests_modify plan place inside (fun slot => { slot with moved := true }) []
        fun _ => List.Perm.refl _
    have grown := @guests_modify (plan.modify place fun slot => { slot with moved := true }) anchor
      (by simpa using there) change [place] added
    exact grown.trans ((left.cons place).trans (settled.guests.cons place))
  · have marked (other : Nat) (slot : Slot)
        (found : (plan.modify place fun slot => { slot with moved := true })[other]? = some slot) :
        slot.moved = true ↔ other ∈ place :: movers := by
      rw [Array.getElem?_modify] at found
      split at found
      · next same =>
        obtain ⟨old, _, rfl⟩ := Option.map_eq_some_iff.mp found
        simp [same]
      · next different =>
        rw [settled.moved other slot found, List.mem_cons]
        exact ⟨.inr, fun either => either.resolve_left fun same => different same.symm⟩
    intro other slot found
    rw [Array.getElem?_modify] at found
    split at found
    · obtain ⟨old, here, rfl⟩ := Option.map_eq_some_iff.mp found
      rw [moved]
      exact marked other old here
    · exact marked other slot found

theorem Settled.moveBefore (settled : plan.Settled movers) (inside : place < plan.size)
    (there : anchor < plan.size) : Settled (plan.moveBefore anchor place) (place :: movers) := by
  refine settled.move inside there (fun _ => rfl) fun slot => ?_
  dsimp only
  rw [List.append_assoc]
  exact List.perm_middle

theorem Settled.moveAfter (settled : plan.Settled movers) (inside : place < plan.size)
    (there : anchor < plan.size) : Settled (plan.moveAfter anchor place) (place :: movers) :=
  settled.move inside there (fun _ => rfl) fun _ => List.perm_middle

theorem flatMap_modify_of_same {α β : Type} {change : α → α} {f : α → List β}
    (same : ∀ a, f (change a) = f a) (l : List α) (i : Nat) :
    (l.modify i change).flatMap f = l.flatMap f := by
  induction l generalizing i with
  | nil => simp
  | cons a l ih =>
    cases i with
    | zero => rw [List.modify_zero_cons, List.flatMap_cons, List.flatMap_cons, same]
    | succ i => rw [List.modify_succ_cons, List.flatMap_cons, List.flatMap_cons, ih]

theorem guests_drop (plan : Plan) (span : ClosedSpan) : (plan.drop span).guests = plan.guests := by
  rw [drop]
  generalize List.range' span.first (span.last + 1 - span.first) = places
  induction places generalizing plan with
  | nil => rfl
  | cons place places ih =>
    rw [List.foldl_cons, ih, guests, guests, Array.toList_modify]
    exact @flatMap_modify_of_same _ _ (fun slot : Slot => { slot with dropped := true })
      (fun slot => slot.before ++ slot.after) (fun _ => rfl) plan.toList place

theorem Settled.drop (settled : plan.Settled movers) (span : ClosedSpan) :
    Settled (plan.drop span) movers := by
  refine ⟨by rw [guests_drop]; exact settled.guests, fun place slot found => ?_⟩
  rw [getElem?_drop] at found
  obtain ⟨old, there, rfl⟩ := Option.map_eq_some_iff.mp found
  exact settled.moved place old there

theorem Settled.perm (settled : plan.Settled movers) {others : List Nat}
    (same : movers.Perm others) : plan.Settled others :=
  ⟨settled.guests.trans same, fun place slot found =>
    (settled.moved place slot found).trans same.mem_iff⟩

end Settled

/-- The places that move with a section. -/
def moversOf (pair : Nat × Nat) : Widening → List Nat
  | .inline => []
  | _ => [pair.2, pair.1]

theorem mem_pair_of_mem_moversOf {pair : Nat × Nat} {widening : Widening} {place : Nat}
    (moves : place ∈ moversOf pair widening) : place ∈ [pair.1, pair.2] := by
  cases widening with
  | inline => cases moves
  | row span => exact List.mem_reverse.mp moves
  | paragraphs first last => exact List.mem_reverse.mp moves

/-- The slots to which the tags of a section move. -/
def anchorsOf : Widening → List Nat
  | .inline => []
  | .row span => [span.first, span.last]
  | .paragraphs first last => [first.first, last.first]

/-- A place is in a paragraph that disappears with a section. -/
def DroppedBy (place : Nat) : Widening → Prop
  | .paragraphs first last =>
    first.first ≤ place ∧ place ≤ first.last ∨ last.first ≤ place ∧ place ≤ last.last
  | _ => False

/-- Widening a section sends its tags, each once. -/
theorem Settled.widen {plan : Plan} {movers : List Nat} {pair : Nat × Nat} {widening : Widening}
    (settled : plan.Settled movers) (inside : pair.1 < plan.size ∧ pair.2 < plan.size)
    (there : ∀ anchor ∈ anchorsOf widening, anchor < plan.size) :
    Settled (plan.widen pair widening) (moversOf pair widening ++ movers) := by
  cases widening with
  | inline => exact settled
  | row span =>
    have front := there span.first (by simp [anchorsOf])
    have back := there span.last (by simp [anchorsOf])
    have opened := settled.moveBefore inside.1 front
    have size : (plan.moveBefore span.first pair.1).size = plan.size := by simp [Plan.moveBefore]
    rw [← size] at back
    exact opened.moveAfter (size ▸ inside.2) back
  | paragraphs first last =>
    have front := there first.first (by simp [anchorsOf])
    have back := there last.first (by simp [anchorsOf])
    have size : (((plan.drop first).moveBefore first.first pair.1).drop last).size = plan.size := by
      rw [size_drop, Plan.moveBefore, Array.size_modify, Array.size_modify, size_drop]
    have opened : Settled ((plan.drop first).moveBefore first.first pair.1) (pair.1 :: movers) :=
      (settled.drop first).moveBefore ((size_drop plan first).symm ▸ inside.1)
        ((size_drop plan first).symm ▸ front)
    exact (opened.drop last).moveBefore (size ▸ inside.2) (size ▸ back)

/-- Widening all sections sends the tags of all of them, each once. -/
theorem settled_foldl {widening : Nat × Nat → Widening} {pairs : List (Nat × Nat)} {plan : Plan}
    {movers : List Nat} (settled : plan.Settled movers)
    (inside : ∀ pair ∈ pairs, pair.1 < plan.size ∧ pair.2 < plan.size)
    (there : ∀ pair ∈ pairs, ∀ anchor ∈ anchorsOf (widening pair), anchor < plan.size) :
    Settled (pairs.foldl (fun plan pair => plan.widen pair (widening pair)) plan)
      ((pairs.flatMap fun pair => moversOf pair (widening pair)) ++ movers) := by
  induction pairs generalizing plan movers with
  | nil => exact settled
  | cons pair pairs ih =>
    rw [List.forall_mem_cons] at inside there
    have first := settled.widen inside.1 there.1
    have later := ih first (by rw [size_widen]; exact inside.2) (by rw [size_widen]; exact there.2)
    refine later.perm ?_
    rw [List.flatMap_cons, List.append_assoc]
    exact List.perm_append_comm_assoc _ _ _

/-- What is dropped for a section is what its widening says. -/
theorem drops_widen {plan : Plan} {pair : Nat × Nat} {widening : Widening} {place : Nat} :
    Drops (plan.widen pair widening) place ↔
      plan.Drops place ∨ place < plan.size ∧ DroppedBy place widening := by
  have left (plan : Plan) (other : Nat) :
      Drops (plan.modify other fun slot => { slot with moved := true }) place ↔ plan.Drops place :=
    @drops_modify plan other (fun slot => { slot with moved := true }) (fun _ => rfl) place
  have before (plan : Plan) (anchor other : Nat) :
      Drops (plan.moveBefore anchor other) place ↔ plan.Drops place := by
    refine Iff.trans ?_ (left plan other)
    exact @drops_modify _ anchor (fun slot => { slot with before := slot.before ++ [other] })
      (fun _ => rfl) place
  have after (plan : Plan) (anchor other : Nat) :
      Drops (plan.moveAfter anchor other) place ↔ plan.Drops place := by
    refine Iff.trans ?_ (left plan other)
    exact @drops_modify _ anchor (fun slot => { slot with after := other :: slot.after })
      (fun _ => rfl) place
  cases widening with
  | inline => simp [Plan.widen, DroppedBy]
  | row span =>
    rw [Plan.widen, after, before]
    simp [DroppedBy]
  | paragraphs first last =>
    rw [Plan.widen, before, drops_drop, before, drops_drop]
    simp only [DroppedBy, Plan.moveBefore, Array.size_modify, size_drop]
    rw [or_assoc, ← and_or_left]

/-- What is dropped is dropped for one of the sections. -/
theorem drops_foldl {widening : Nat × Nat → Widening} {pairs : List (Nat × Nat)} {plan : Plan}
    {place : Nat} :
    Drops (pairs.foldl (fun plan pair => plan.widen pair (widening pair)) plan) place ↔
      plan.Drops place ∨ place < plan.size ∧ ∃ pair ∈ pairs, DroppedBy place (widening pair) := by
  induction pairs generalizing plan with
  | nil => simp
  | cons pair pairs ih =>
    rw [List.foldl_cons, ih, drops_widen, size_widen, or_assoc, ← and_or_left]
    simp

end Plan

namespace Widening

variable {layout : Layout} {options : RenderOptions} {opening closing : PlacedTag}

/-- A section is widened to a row if its tags are in different cells of it. -/
theorem row_of_ofTags {span : ClosedSpan}
    (widens : ofTags layout options opening closing = .row span) :
    ClosedSpan.ofSpans? layout.rows opening.row = some span ∧ opening.row = closing.row ∧
      opening.cell ≠ closing.cell := by
  unfold ofTags at widens
  split at widens
  · next found =>
    cases widens
    unfold row? at found
    split at found
    · next both => exact ⟨found, both.2⟩
    · cases found
  · repeat' split at widens
    all_goals cases widens

end Widening

namespace Layout

open Piece

variable {layout : Layout} {options : RenderOptions} {pair : Nat × Nat}

/-- The sections of a part, as places of their tags. -/
def sections (layout : Layout) : List (Nat × Nat) :=
  SectionPairs.ofPieces layout.pieces.toList

/-- The places whose tags move when the sections are widened. -/
def movers (layout : Layout) (options : RenderOptions) : List Nat :=
  layout.sections.flatMap fun pair => Plan.moversOf pair (layout.widening options pair)

theorem exists_of_tagAt? {place : Nat} {tag : PlacedTag} (found : layout.tagAt? place = some tag) :
    layout.pieces[place]? = some (.tag tag) := by
  obtain ⟨piece, there, is⟩ := Option.bind_eq_some_iff.mp found
  cases piece with
  | verbatim xml => cases is
  | tag other =>
    cases is
    exact there

/-- A section that is widened has its two tags. -/
theorem exists_of_widening (other : layout.widening options pair ≠ .inline) :
    ∃ opening closing, layout.pieces[pair.1]? = some (.tag opening) ∧
      layout.pieces[pair.2]? = some (.tag closing) ∧
      layout.widening options pair = Widening.ofTags layout options opening closing := by
  unfold widening at other ⊢
  split at other
  · next opening closing front back =>
    exact ⟨opening, closing, exists_of_tagAt? front, exists_of_tagAt? back, rfl⟩
  · exact absurd rfl other

theorem lt_size_of_mem_sections (member : pair ∈ layout.sections) :
    pair.1 < layout.pieces.size ∧ pair.2 < layout.pieces.size := by
  obtain ⟨⟨_, front, _⟩, ⟨_, back, _⟩⟩ := SectionPairs.ofPieces_sections member
  obtain ⟨opens, _⟩ := Array.getElem?_eq_some_iff.mp front
  obtain ⟨closes, _⟩ := Array.getElem?_eq_some_iff.mp back
  exact ⟨opens, closes⟩

theorem lt_size_of_mem_movers {place : Nat} (member : place ∈ layout.movers options) :
    place < layout.pieces.size := by
  obtain ⟨pair, known, moves⟩ := List.mem_flatMap.mp member
  obtain ⟨first, second⟩ := lt_size_of_mem_sections known
  rcases List.mem_pair.mp (Plan.mem_pair_of_mem_moversOf moves) with rfl | rfl
  · exact first
  · exact second

/-- The tags of a section that widens to a row move to the ends of the row. -/
theorem Noted.row (noted : layout.Noted) {span : ClosedSpan}
    (widens : layout.widening options pair = .row span) :
    landmarkAt layout.pieces span.first = some .rowStart ∧
      landmarkAt layout.pieces span.last = some .rowEnd ∧ span.first < span.last := by
  obtain ⟨opening, closing, _, _, same⟩ := exists_of_widening (by rw [widens]; nofun)
  obtain ⟨found, _⟩ := Widening.row_of_ofTags (same.symm.trans widens)
  obtain ⟨number, row, _, there, stop, start, _⟩ := ClosedSpan.ofSpans?_eq_some.mp found
  obtain ⟨front, stops⟩ := noted.rows number row there
  obtain ⟨before, back⟩ := stops span.last stop
  rw [start] at front before
  exact ⟨front, back, before⟩

/-- A paragraph that disappears with a section: the paragraph with the given number, around the tag
at the given place. -/
structure Alone (layout : Layout) (closed : ClosedSpan) (number own : Nat) : Prop where
  tag : TagIn layout.pieces number own
  span : ∃ span, layout.paragraphs[number]? = some span ∧ span.start = closed.first ∧
    span.stop = some closed.last ∧ span.tags = 1 ∧ span.hasText = false
  front : landmarkAt layout.pieces closed.first = some .paragraphStart
  back : landmarkAt layout.pieces closed.last = some .paragraphEnd
  between : closed.first < own ∧ own < closed.last

/-- A closed paragraph with one tag and no text holds that tag alone. -/
theorem Noted.alone (noted : layout.Noted) {place : Nat} {tag : PlacedTag} {closed : ClosedSpan}
    (here : layout.pieces[place]? = some (.tag tag))
    (found : ClosedSpan.ofSpans? layout.paragraphs tag.paragraph = some closed)
    (single : closed.single = true) : ∃ number, layout.Alone closed number place := by
  obtain ⟨number, span, inside, there, stop, start, holds⟩ := ClosedSpan.ofSpans?_eq_some.mp found
  obtain ⟨front, stops⟩ := noted.paragraphs number span there
  obtain ⟨_, back⟩ := stops closed.last stop
  obtain ⟨_, host⟩ := noted.tags place tag here
  obtain ⟨same, again, after, before⟩ := host number inside
  cases there.symm.trans again
  rw [single, Span.holdsSingleTag, Bool.and_eq_true, Bool.and_eq_true, beq_iff_eq,
    Bool.not_eq_true'] at holds
  refine ⟨number, ⟨tag, here, inside⟩, ⟨span, there, start, stop, holds.1.2, holds.2⟩, ?_, back, ?_,
    before closed.last stop⟩
  · exact start ▸ front
  · exact start ▸ after

/-- The tags of a section that takes the place of its paragraphs stand alone in them. -/
theorem Noted.pages (noted : layout.Noted) {first last : ClosedSpan}
    (widens : layout.widening options pair = .paragraphs first last) :
    (∃ number, layout.Alone first number pair.1) ∧ (∃ number, layout.Alone last number pair.2) ∧
      first.last < last.first := by
  obtain ⟨opening, closing, front, back, same⟩ := exists_of_widening (by rw [widens]; nofun)
  obtain ⟨opens, closes, single, alone, before⟩ :=
    Widening.paragraphs_of_ofTags (same.symm.trans widens)
  exact ⟨noted.alone front opens single, noted.alone back closes alone, before⟩

/-- Nothing directly in such a paragraph is seen but the tag. -/
theorem Alone.eq_of_tagIn {closed : ClosedSpan} {number own place : Nat}
    (alone : layout.Alone closed number own) (noted : layout.Noted)
    (tag : TagIn layout.pieces number place) : place = own := by
  by_contra other
  obtain ⟨span, there, two⟩ := noted.counted.twice number place own tag alone.tag other
  obtain ⟨same, again, -, -, one, -⟩ := alone.span
  cases there.symm.trans again
  omega

/-- A paragraph with a lone tag holds no text of its own. -/
theorem Alone.not_textIn {closed : ClosedSpan} {number own place : Nat}
    (alone : layout.Alone closed number own) (noted : layout.Noted) :
    ¬ TextIn layout.pieces number place := by
  intro text
  obtain ⟨span, there, holds⟩ := noted.counted.texts number place text
  obtain ⟨same, again, -, -, -, none⟩ := alone.span
  cases there.symm.trans again
  rw [none] at holds
  cases holds

theorem Noted.lt_size_of_mem_anchorsOf (noted : layout.Noted) {anchor : Nat}
    (member : anchor ∈ Plan.anchorsOf (layout.widening options pair)) :
    anchor < layout.pieces.size := by
  cases widens : layout.widening options pair with
  | inline =>
    rw [widens] at member
    cases member
  | row span =>
    obtain ⟨front, back, _⟩ := noted.row widens
    rw [widens, Plan.anchorsOf, List.mem_pair] at member
    rcases member with rfl | rfl
    · exact lt_size_of_landmarkAt front
    · exact lt_size_of_landmarkAt back
  | paragraphs first last =>
    obtain ⟨⟨_, opens⟩, ⟨_, closes⟩, _⟩ := noted.pages widens
    rw [widens, Plan.anchorsOf, List.mem_pair] at member
    rcases member with rfl | rfl
    · exact lt_size_of_landmarkAt opens.front
    · exact lt_size_of_landmarkAt closes.front

/-- In the plan of a part every tag that moves is sent once. -/
theorem Noted.settled_plan (noted : layout.Noted) (options : RenderOptions) :
    (layout.plan options).Settled (layout.movers options) := by
  have start : Plan.Settled (Plan.unchanged layout.pieces.size) [] := Plan.settled_unchanged _
  have all := @Plan.settled_foldl (layout.widening options) layout.sections _ _ start
    (fun pair member => by
      rw [Plan.unchanged, Array.size_replicate]
      exact lt_size_of_mem_sections member)
    (fun pair _ anchor member => by
      rw [Plan.unchanged, Array.size_replicate]
      exact noted.lt_size_of_mem_anchorsOf member)
  rw [List.append_nil] at all
  exact all

/-- No tag moves twice. -/
theorem nodup_movers (layout : Layout) (options : RenderOptions) :
    (layout.movers options).Nodup := by
  have distinct := SectionPairs.nodup_ofPieces layout.pieces.toList
  rw [List.nodup_flatMap] at distinct
  rw [movers, List.nodup_flatMap]
  refine ⟨fun pair member => ?_, distinct.2.imp fun apart => ?_⟩
  · have two := distinct.1 pair member
    cases layout.widening options pair with
    | inline => exact List.nodup_nil
    | row span => exact List.nodup_reverse.mpr two
    | paragraphs first last => exact List.nodup_reverse.mpr two
  · exact fun place left right =>
      apart (Plan.mem_pair_of_mem_moversOf left) (Plan.mem_pair_of_mem_moversOf right)

/-- A place is dropped exactly if the widening of some section drops it. -/
theorem drops_plan {place : Nat} : (layout.plan options).Drops place ↔
    place < layout.pieces.size ∧ ∃ pair ∈ layout.sections,
      Plan.DroppedBy place (layout.widening options pair) := by
  have none : ¬ Plan.Drops (Plan.unchanged layout.pieces.size) place := by
    rintro ⟨slot, found, dropped⟩
    simp only [Plan.unchanged, Array.getElem?_replicate] at found
    split at found
    · cases found
      cases dropped
    · cases found
  rw [plan, Plan.drops_foldl, or_iff_right none, Plan.unchanged, Array.size_replicate]
  rfl

/-- The places that come out are those that move and those that are not dropped. -/
theorem Noted.mem_order (noted : layout.Noted) (options : RenderOptions) {place : Nat}
    (inside : place < layout.pieces.size) : place ∈ (layout.plan options).order ↔
      place ∈ layout.movers options ∨ ¬ (layout.plan options).Drops place := by
  have settled := noted.settled_plan options
  obtain ⟨slot, found⟩ : ∃ slot, (layout.plan options)[place]? = some slot :=
    ⟨_, Array.getElem?_eq_getElem ((layout.size_plan options).symm ▸ inside)⟩
  rw [(Plan.order_perm _).mem_iff, List.mem_append, settled.guests.mem_iff, Plan.mem_residents,
    ← settled.moved place _ found]
  simp only [Plan.Drops, found, Option.some.injEq, exists_eq_left', Bool.not_eq_true]
  by_cases moves : slot.moved = true <;> simp [moves]

/-- No place comes out twice. -/
theorem Noted.nodup_order (noted : layout.Noted) (options : RenderOptions) :
    (layout.plan options).order.Nodup := by
  have settled := noted.settled_plan options
  rw [(Plan.order_perm _).nodup_iff, List.nodup_append]
  refine ⟨Plan.nodup_residents _, settled.guests.nodup_iff.mpr (layout.nodup_movers options), ?_⟩
  rintro place stays _ moves rfl
  obtain ⟨slot, found, _, unmoved⟩ := Plan.mem_residents.mp stays
  have moved := (settled.moved place slot found).mpr (settled.guests.mem_iff.mp moves)
  rw [unmoved] at moved
  cases moved

/-- Something that can be seen stands at a place: a tag, a line break, or a text. -/
def Visible (layout : Layout) (place : Nat) : Prop :=
  (∃ tag, layout.pieces[place]? = some (.tag tag)) ∨
    landmarkAt layout.pieces place = some .lineBreak ∨
    ∃ xml, layout.pieces[place]? = some (.verbatim xml) ∧ Seen xml ∧
      (around layout.pieces place).inText = true

theorem Visible.lt_size {place : Nat} (visible : layout.Visible place) :
    place < layout.pieces.size := by
  rcases visible with ⟨tag, found⟩ | breaks | ⟨xml, found, -⟩
  · exact (Array.getElem?_eq_some_iff.mp found).1
  · exact lt_size_of_landmarkAt breaks
  · exact (Array.getElem?_eq_some_iff.mp found).1

/-- A paragraph disappears with the section whose tag stands in it. -/
def Vanishes (layout : Layout) (options : RenderOptions) (number : Nat) : Prop :=
  ∃ pair ∈ layout.sections, ∃ own ∈ [pair.1, pair.2], TagIn layout.pieces number own ∧
    ∃ first last, layout.widening options pair = .paragraphs first last

/-- A place in a paragraph that disappears, of what does not count as a tag or a text of that
paragraph: it is in another paragraph inside, or holds a line break. -/
def Buried (layout : Layout) (options : RenderOptions) (place : Nat) : Prop :=
  ∃ number span stop, layout.Vanishes options number ∧ layout.paragraphs[number]? = some span ∧
    span.stop = some stop ∧ span.start ≤ place ∧ place ≤ stop ∧
    ((around layout.pieces place).opened.head? ≠ some number ∨
      landmarkAt layout.pieces place = some .lineBreak)

/-- What is dropped stands in a paragraph with a tag of its section alone. -/
theorem Noted.exists_alone (noted : layout.Noted) {place : Nat}
    (dropped : Plan.DroppedBy place (layout.widening options pair)) :
    ∃ closed number, ∃ own ∈ [pair.1, pair.2], layout.Alone closed number own ∧
      closed.first ≤ place ∧ place ≤ closed.last ∧
      ∃ first last, layout.widening options pair = .paragraphs first last := by
  cases widens : layout.widening options pair with
  | inline =>
    rw [widens] at dropped
    exact dropped.elim
  | row span =>
    rw [widens] at dropped
    exact dropped.elim
  | paragraphs first last =>
    obtain ⟨⟨front, opens⟩, ⟨back, closes⟩, _⟩ := noted.pages widens
    rw [widens] at dropped
    rcases dropped with ⟨from_, upTo⟩ | ⟨from_, upTo⟩
    · exact ⟨first, front, pair.1, by simp, opens, from_, upTo, first, last, rfl⟩
    · exact ⟨last, back, pair.2, by simp, closes, from_, upTo, first, last, rfl⟩

theorem mem_movers_of_widening {own : Nat} (member : pair ∈ layout.sections)
    (own_mem : own ∈ [pair.1, pair.2]) (other : layout.widening options pair ≠ .inline) :
    own ∈ layout.movers options := by
  refine List.mem_flatMap.mpr ⟨pair, member, ?_⟩
  cases widens : layout.widening options pair with
  | inline => exact absurd widens other
  | row span => simpa [Plan.moversOf, or_comm] using own_mem
  | paragraphs first last => simpa [Plan.moversOf, or_comm] using own_mem

/-- What can be seen comes out, unless it is buried. -/
theorem Noted.mem_order_of_visible (noted : layout.Noted) (options : RenderOptions) {place : Nat}
    (visible : layout.Visible place) (unburied : ¬ layout.Buried options place) :
    place ∈ (layout.plan options).order := by
  rw [noted.mem_order options visible.lt_size]
  by_cases drops : (layout.plan options).Drops place
  · left
    obtain ⟨-, pair, member, dropped⟩ := drops_plan.mp drops
    obtain ⟨closed, number, own, ownOf, alone, after, upTo, first, last, widens⟩ :=
      noted.exists_alone dropped
    obtain ⟨span, there, start, stop, -⟩ := alone.span
    have around : (Piece.around layout.pieces place).opened.head? = some number ∧
        landmarkAt layout.pieces place ≠ some .lineBreak := by
      refine ⟨Decidable.byContradiction fun other => unburied ?_, fun breaks => unburied ?_⟩
      · exact ⟨number, span, closed.last, ⟨pair, member, own, ownOf, alone.tag, first, last, widens⟩,
          there, stop, start ▸ after, upTo, .inl other⟩
      · exact ⟨number, span, closed.last, ⟨pair, member, own, ownOf, alone.tag, first, last, widens⟩,
          there, stop, start ▸ after, upTo, .inr breaks⟩
    rcases visible with ⟨tag, found⟩ | breaks | ⟨xml, found, seen, inText⟩
    · have tagged : TagIn layout.pieces number place :=
        ⟨tag, found, (noted.tags place tag found).1.trans around.1⟩
      rw [alone.eq_of_tagIn noted tagged]
      exact mem_movers_of_widening member ownOf (by rw [widens]; nofun)
    · exact absurd breaks around.2
    · exact absurd ⟨xml, found, seen, inText, around.1⟩ (alone.not_textIn noted)
  · exact .inr drops

/-- A buried place disappears, unless a tag at it moves. -/
theorem Noted.drops_of_buried (noted : layout.Noted) {options : RenderOptions} {place : Nat}
    (inside : place < layout.pieces.size) (buried : layout.Buried options place) :
    (layout.plan options).Drops place := by
  obtain ⟨number, span, stop, ⟨pair, member, own, ownOf, ⟨tag, found, here⟩, first, last, widens⟩,
    there, ends, after, upTo, -⟩ := buried
  -- A tag notes one paragraph, so the span of that number is the one that disappears with the tag.
  have covers {closed : ClosedSpan} (alone : ∃ number, layout.Alone closed number own) :
      closed.first ≤ place ∧ place ≤ closed.last := by
    obtain ⟨other, alone⟩ := alone
    obtain ⟨same, again, around⟩ := alone.tag
    cases found.symm.trans again
    cases here.symm.trans around
    obtain ⟨known, is, start, closes, -⟩ := alone.span
    cases there.symm.trans is
    cases ends.symm.trans closes
    exact ⟨start ▸ after, upTo⟩
  obtain ⟨opens, closes, -⟩ := noted.pages widens
  refine drops_plan.mpr ⟨inside, pair, member, ?_⟩
  rw [widens]
  rcases List.mem_pair.mp ownOf with rfl | rfl
  · exact .inl (covers opens)
  · exact .inr (covers closes)

/-- Widening keeps each place once at most. What can be seen is kept if it is not buried in a paragraph
that disappears, or if it is a tag that moves. -/
theorem count_order (source : Text) (options : RenderOptions) (place : Nat) :
    ((ofPart source).plan options).order.count place ≤ 1 ∧
      ((ofPart source).Visible place →
        (((ofPart source).plan options).order.count place = 1 ↔
          ¬ (ofPart source).Buried options place ∨ place ∈ (ofPart source).movers options)) := by
  have noted := noted_ofPart source
  have distinct := noted.nodup_order options
  refine ⟨List.nodup_iff_count_le_one.mp distinct place, fun visible => ⟨fun once => ?_, ?_⟩⟩
  · have member := List.count_pos_iff.mp (once.symm ▸ Nat.one_pos)
    rcases (noted.mem_order options visible.lt_size).mp member with moves | stays
    · exact .inr moves
    · exact .inl fun buried => stays (noted.drops_of_buried visible.lt_size buried)
  · rintro (unburied | moves)
    · exact List.count_eq_one_of_mem distinct (noted.mem_order_of_visible options visible unburied)
    · exact List.count_eq_one_of_mem distinct
        ((noted.mem_order options visible.lt_size).mpr (.inl moves))

/-- A paragraph with an opening tag and a text box, a paragraph with a text, and a paragraph with the
closing tag. -/
def boxedTag : Text :=
  ("<w:p><w:r><w:t>\x7b#a\x7d</w:t></w:r><w:txbxContent><w:p><w:r><w:t>hello \x7bx\x7d</w:t></w:r></w:p>" ++
    "</w:txbxContent></w:p><w:p><w:r><w:t>mid</w:t></w:r></w:p>" ++
    "<w:p><w:r><w:t>\x7b/a\x7d</w:t></w:r></w:p>").toList

theorem ofPart_boxedTag :
    (SectionPairs.scan {} 0 (ofPart boxedTag).pieces.toList).pairs = [(3, 27)] ∧
      (ofPart boxedTag).pieces[3]? = some (.tag ⟨⟨.opening, ['a']⟩, some 0, none, none⟩) ∧
      (ofPart boxedTag).pieces[11]? = some (.tag ⟨⟨.value, ['x']⟩, some 1, none, none⟩) ∧
      (ofPart boxedTag).pieces[20]? = some (.verbatim "mid".toList) ∧
      (ofPart boxedTag).pieces[27]? = some (.tag ⟨⟨.closing, ['a']⟩, some 3, none, none⟩) ∧
      (ofPart boxedTag).paragraphs[0]? = some ⟨0, some 16, 1, false⟩ ∧
      (ofPart boxedTag).paragraphs[3]? = some ⟨24, some 30, 1, false⟩ ∧
      (around (ofPart boxedTag).pieces 20).inText = true := by
  unfold boxedTag
  -- spelled out, since a long string literal is slow to evaluate
  rewrite [String.toList_append, String.toList_append, String.toList_ofList, String.toList_ofList,
    String.toList_ofList]
  decide +kernel

theorem sections_boxedTag : (ofPart boxedTag).sections = [(3, 27)] := by
  rw [sections, SectionPairs.ofPieces, ofPart_boxedTag.1, List.mergeSort_singleton]

/-- The text between the tags is kept. -/
theorem count_order_boxedTag : ((ofPart boxedTag).plan {}).order.count 20 = 1 := by
  obtain ⟨-, opening, -, text, closing, first, last, inText⟩ := ofPart_boxedTag
  have visible : (ofPart boxedTag).Visible 20 :=
    .inr (.inr ⟨"mid".toList, text, ⟨by decide, by decide⟩, inText⟩)
  refine ((count_order boxedTag {} 20).2 visible).mpr (.inl ?_)
  rintro ⟨number, span, stop, ⟨pair, member, own, ownOf, ⟨tag, found, inside⟩, -⟩, there, ends, after,
    upTo, -⟩
  rw [sections_boxedTag, List.mem_singleton] at member
  subst member
  rcases List.mem_pair.mp ownOf with rfl | rfl
  · cases opening.symm.trans found
    cases inside
    cases first.symm.trans there
    cases ends
    exact absurd upTo (by decide)
  · cases closing.symm.trans found
    cases inside
    cases last.symm.trans there
    exact absurd after (by decide)

/-- The tag in the text box is seen and gets lost. -/
theorem not_mem_order_boxedTag :
    (ofPart boxedTag).Visible 11 ∧ 11 ∉ ((ofPart boxedTag).plan {}).order := by
  constructor
  · obtain ⟨-, -, tag, -⟩ := ofPart_boxedTag
    exact .inl ⟨_, tag⟩
  · have pairs := sections_boxedTag
    rw [sections] at pairs
    rw [plan, pairs]
    unfold boxedTag
    rewrite [String.toList_append, String.toList_append, String.toList_ofList, String.toList_ofList,
      String.toList_ofList]
    decide +kernel

end Layout

end WordMerge
