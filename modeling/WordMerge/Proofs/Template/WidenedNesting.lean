import Mathlib.Data.List.Flatten
import Mathlib.Data.List.Sort
import WordMerge.Proofs.Template.Partners
import WordMerge.Render.Part

namespace WordMerge

namespace Plan

/-- The places that a section sends in front of the piece at an anchor. -/
def inFront (pair : Nat × Nat) (anchor : Nat) : Widening → List Nat
  | .inline => []
  | .row span => if anchor = span.first then [pair.1] else []
  | .paragraphs first last =>
    (if anchor = first.first then [pair.1] else []) ++ if anchor = last.first then [pair.2] else []

/-- The places that a section sends behind the piece at an anchor. -/
def behind (pair : Nat × Nat) (anchor : Nat) : Widening → List Nat
  | .row span => if anchor = span.last then [pair.2] else []
  | _ => []

section Slots

variable {plan : Plan} {pairs : List (Nat × Nat)} {widening : Nat × Nat → Widening} {place : Nat}

theorem getElem?_move (plan : Plan) (anchor moving place : Nat) (change : Slot → Slot) :
    ((plan.modify moving fun slot => { slot with moved := true }).modify anchor change)[place]? =
      plan[place]?.map fun slot =>
        let left := { slot with moved := slot.moved || decide (place = moving) }
        if place = anchor then change left else left := by
  rw [Array.getElem?_modify, Array.getElem?_modify]
  by_cases here : moving = place <;> by_cases there : anchor = place <;>
    cases plan[place]? <;> simp [here, there, eq_comm]

theorem getElem?_moveBefore (plan : Plan) (anchor moving place : Nat) :
    (plan.moveBefore anchor moving)[place]? = plan[place]?.map fun slot =>
      { slot with
        before := slot.before ++ if place = anchor then [moving] else []
        moved := slot.moved || decide (place = moving) } := by
  rw [moveBefore, getElem?_move]
  congr 1
  funext slot
  split <;> simp

theorem getElem?_moveAfter (plan : Plan) (anchor moving place : Nat) :
    (plan.moveAfter anchor moving)[place]? = plan[place]?.map fun slot =>
      { slot with
        after := (if place = anchor then [moving] else []) ++ slot.after
        moved := slot.moved || decide (place = moving) } := by
  rw [moveAfter, getElem?_move]
  congr 1
  funext slot
  split <;> simp

/-- What a section adds to a slot. -/
theorem exists_getElem?_widen {slot : Slot} (found : plan[place]? = some slot) (pair : Nat × Nat)
    (w : Widening) : ∃ next, (plan.widen pair w)[place]? = some next ∧
      next.before = slot.before ++ inFront pair place w ∧
      next.after = behind pair place w ++ slot.after := by
  cases w with
  | inline => exact ⟨slot, found, by simp [inFront], by simp [behind]⟩
  | row span =>
    rw [widen, getElem?_moveAfter, getElem?_moveBefore, found]
    exact ⟨_, rfl, rfl, rfl⟩
  | paragraphs first last =>
    rw [widen, getElem?_moveBefore, getElem?_drop, getElem?_moveBefore, getElem?_drop, found]
    exact ⟨_, rfl, by simp [inFront], by simp [behind]⟩

/-- What all sections together add to a slot: in front they come in their order, behind in the
opposite one. -/
theorem exists_getElem?_foldl_widen {slot : Slot} (found : plan[place]? = some slot) :
    ∃ last, (pairs.foldl (fun plan pair => plan.widen pair (widening pair)) plan)[place]? = some last ∧
      last.before = slot.before ++ pairs.flatMap (fun pair => inFront pair place (widening pair)) ∧
      last.after =
        pairs.reverse.flatMap (fun pair => behind pair place (widening pair)) ++ slot.after := by
  induction pairs generalizing plan slot with
  | nil => exact ⟨slot, found, by simp, by simp⟩
  | cons pair rest ih =>
    obtain ⟨next, there, before, after⟩ := exists_getElem?_widen found pair (widening pair)
    obtain ⟨last, ends, front, back⟩ := ih there
    refine ⟨last, ends, ?_, ?_⟩
    · rw [front, before, List.flatMap_cons, List.append_assoc]
    · rw [back, after, List.reverse_cons, List.flatMap_append, List.flatMap_singleton,
        List.append_assoc]

end Slots

theorem pair_sublist_of_getElem? {α : Type} {l : List α} {i j : Nat} {a b : α} (first : l[i]? = some a)
    (second : l[j]? = some b) (before : i < j) : [a, b].Sublist l := by
  obtain ⟨inside, rfl⟩ := List.getElem?_eq_some_iff.mp first
  have split : l = l.take i ++ l[i] :: l.drop (i + 1) := by simp
  have later : b ∈ l.drop (i + 1) := by
    refine List.mem_of_getElem? (i := j - (i + 1)) ?_
    rw [List.getElem?_drop, ← second]
    congr 1
    omega
  conv => rhs; rw [split]
  refine List.Sublist.trans ?_ (List.sublist_append_right _ _)
  exact (List.singleton_sublist.mpr later).cons_cons _

/-- Places at different slots come out in the order of the slots. -/
theorem pair_sublist_order {plan : Plan} {a b x y : Nat} {slotA slotB : Slot}
    (foundA : plan[a]? = some slotA) (foundB : plan[b]? = some slotB) (before : a < b)
    (insideA : x ∈ placesAt slotA a) (insideB : y ∈ placesAt slotB b) :
    [x, y].Sublist plan.order := by
  have entryA : plan.toList.zipIdx[a]? = some (slotA, a) := by
    simp [List.getElem?_zipIdx, foundA]
  have entryB : plan.toList.zipIdx[b]? = some (slotB, b) := by
    simp [List.getElem?_zipIdx, foundB]
  have entries := (pair_sublist_of_getElem? entryA entryB before).flatMap
    fun entry => placesAt entry.1 entry.2
  refine List.Sublist.trans ?_ entries
  rw [List.flatMap_cons, List.flatMap_singleton]
  exact (List.singleton_sublist.mpr insideA).append (List.singleton_sublist.mpr insideB)

/-- What comes out at one slot comes out together. -/
theorem placesAt_sublist_order {plan : Plan} {a : Nat} {slot : Slot} (found : plan[a]? = some slot) :
    (placesAt slot a).Sublist plan.order := by
  have entry : (slot, a) ∈ plan.toList.zipIdx := by
    rw [List.mem_zipIdx_iff_getElem?, Array.getElem?_toList]
    exact found
  have entries := (List.singleton_sublist.mpr entry).flatMap fun entry => placesAt entry.1 entry.2
  rwa [List.flatMap_singleton] at entries

end Plan

theorem not_both_orders {x y : Nat} {places : List Nat} (distinct : places.Nodup)
    (order : [x, y].Sublist places) (turned : [y, x].Sublist places) : False := by
  obtain ⟨before, after, rfl⟩ := List.append_of_mem (order.subset List.mem_cons_self)
  have left := mem_left_of_pair distinct turned
  have right := mem_right_of_pair distinct order
  exact (List.nodup_append.mp distinct).2.2 y left y (List.mem_cons_of_mem _ right) rfl

theorem sublist_range_of_lt {a b c d size : Nat} (one : a < b) (two : b < c) (three : c < d)
    (inside : d < size) : [a, b, c, d].Sublist (List.range size) := by
  have increasing : [a, b, c, d].Pairwise (· ≤ ·) := by
    simp only [List.pairwise_cons, List.mem_cons, forall_eq_or_imp, List.not_mem_nil, false_imp_iff,
      implies_true, and_true, List.Pairwise.nil]
    omega
  have distinct : [a, b, c, d].Nodup := by
    simp only [List.nodup_cons, List.mem_cons, List.not_mem_nil, or_false, not_false_iff, and_true,
      List.nodup_nil]
    omega
  have within : [a, b, c, d] ⊆ List.range size := by
    intro place member
    simp only [List.mem_cons, List.not_mem_nil, or_false] at member
    exact List.mem_range.mpr (by omega)
  exact List.sublist_of_subperm_of_pairwise (List.subperm_of_subset distinct within) increasing
    List.pairwise_le_range

namespace Widening

/-- The place to which the opening tag of a section comes. -/
def front (pair : Nat × Nat) : Widening → Nat
  | .inline => pair.1
  | .row span => span.first
  | .paragraphs first _ => first.first

/-- The place to which the closing tag of a section comes. -/
def back (pair : Nat × Nat) : Widening → Nat
  | .inline => pair.2
  | .row span => span.last
  | .paragraphs _ last => last.first

end Widening

namespace Layout

open Piece

/-- The place to which the opening tag of a section comes. -/
def front (layout : Layout) (options : RenderOptions) (pair : Nat × Nat) : Nat :=
  (layout.widening options pair).front pair

/-- The place to which the closing tag of a section comes. -/
def back (layout : Layout) (options : RenderOptions) (pair : Nat × Nat) : Nat :=
  (layout.widening options pair).back pair

/-- The sections that are widened leave the others whole: a row that one of them takes holds both ends
of any other section or none, the paragraphs that disappear hold no end of another section, and not too
many sections reach around one. -/
structure Uncrossed (layout : Layout) (options : RenderOptions) : Prop where
  rows : ∀ pair ∈ layout.sections, ∀ span, layout.widening options pair = .row span →
    ∀ other ∈ layout.sections, other ≠ pair →
      (span.first ≤ layout.front options other ∧ layout.front options other ≤ span.last ↔
        span.first ≤ layout.back options other ∧ layout.back options other ≤ span.last)
  paragraphs : ∀ pair ∈ layout.sections, ∀ other ∈ layout.sections, other ≠ pair →
    ∀ place ∈ [layout.front options other, layout.back options other],
      ¬ Plan.DroppedBy place (layout.widening options pair)
  levels : ∀ pair ∈ layout.sections, (layout.sections.filter fun other =>
    layout.front options other ≤ layout.front options pair ∧
      layout.back options pair ≤ layout.back options other).length ≤ Nesting.depthLimit

section Widened

variable {layout : Layout} {options : RenderOptions} {pair other : Nat × Nat}

theorem landmarkAt_of_sideAt {place : Nat} {side : Bool × Text}
    (found : sideAt layout.pieces place = some side) :
    landmarkAt layout.pieces place = some .other := by
  obtain ⟨piece, here, sides⟩ := Option.bind_eq_some_iff.mp found
  cases piece with
  | verbatim xml => cases sides
  | tag placed =>
    rw [landmarkAt, here]
    rfl

/-- The slot of a place when all sections are widened. -/
theorem exists_slot (options : RenderOptions) {place : Nat} (inside : place < layout.pieces.size) :
    ∃ slot, (layout.plan options)[place]? = some slot ∧
      slot.before = layout.sections.flatMap (fun pair =>
        Plan.inFront pair place (layout.widening options pair)) ∧
      slot.after = layout.sections.reverse.flatMap (fun pair =>
        Plan.behind pair place (layout.widening options pair)) := by
  have start : (Plan.unchanged layout.pieces.size)[place]? = some {} := by
    rw [Plan.unchanged, Array.getElem?_replicate, if_pos inside]
  obtain ⟨slot, found, before, after⟩ :=
    @Plan.exists_getElem?_foldl_widen _ layout.sections (layout.widening options) place {} start
  exact ⟨slot, found, by rw [before]; rfl, by rw [after, List.append_nil]⟩

/-- A tag that stays inline stands at its own place. -/
theorem Noted.stands_inline (noted : layout.Noted) (uncrossed : layout.Uncrossed options)
    (member : pair ∈ layout.sections) (stays : layout.widening options pair = .inline) {own : Nat}
    (ownOf : own ∈ [pair.1, pair.2]) :
    ∃ slot, (layout.plan options)[own]? = some slot ∧ own ∈ Plan.placesAt slot own := by
  have inside : own < layout.pieces.size := by
    obtain ⟨first, second⟩ := lt_size_of_mem_sections member
    rcases List.mem_pair.mp ownOf with rfl | rfl
    · exact first
    · exact second
  have ends : own ∈ [layout.front options pair, layout.back options pair] := by
    rwa [front, back, stays]
  obtain ⟨slot, found, -⟩ := layout.exists_slot options inside
  have unmoved : slot.moved = false := by
    rw [← Bool.not_eq_true, (noted.settled_plan options).moved own slot found]
    intro moves
    obtain ⟨other, known, mover⟩ := List.mem_flatMap.mp moves
    have same := Bracketed.eq_of_shared (SectionPairs.nodup_ofPieces layout.pieces.toList) known member
      (Plan.mem_pair_of_mem_moversOf mover) ownOf
    rw [same, stays] at mover
    cases mover
  have kept : slot.dropped = false := by
    rw [← Bool.not_eq_true]
    intro dropped
    obtain ⟨-, other, known, drops⟩ := drops_plan.mp ⟨slot, found, dropped⟩
    by_cases same : pair = other
    · rw [← same, stays] at drops
      exact drops
    · exact uncrossed.paragraphs other known pair member same own ends drops
  refine ⟨slot, found, ?_⟩
  simp [Plan.placesAt, kept, unmoved]

/-- The opening tag of a section stands at its front. -/
theorem Noted.stands_front (noted : layout.Noted) (uncrossed : layout.Uncrossed options)
    (member : pair ∈ layout.sections) : ∃ slot,
      (layout.plan options)[layout.front options pair]? = some slot ∧
      pair.1 ∈ Plan.placesAt slot (layout.front options pair) := by
  cases widens : layout.widening options pair with
  | inline =>
    have here : layout.front options pair = pair.1 := by rw [front, widens]; rfl
    rw [here]
    exact noted.stands_inline uncrossed member widens List.mem_cons_self
  | row span =>
    have here : layout.front options pair = span.first := by rw [front, widens]; rfl
    obtain ⟨starts, -⟩ := noted.row widens
    obtain ⟨slot, found, before, -⟩ := layout.exists_slot options (lt_size_of_landmarkAt starts)
    rw [here]
    refine ⟨slot, found, List.mem_append_left _ (List.mem_append_left _ ?_)⟩
    rw [before]
    exact List.mem_flatMap.mpr ⟨pair, member, by rw [widens]; simp [Plan.inFront]⟩
  | paragraphs first last =>
    have here : layout.front options pair = first.first := by rw [front, widens]; rfl
    obtain ⟨⟨_, alone⟩, -⟩ := noted.pages widens
    obtain ⟨slot, found, before, -⟩ := layout.exists_slot options (lt_size_of_landmarkAt alone.front)
    rw [here]
    refine ⟨slot, found, List.mem_append_left _ (List.mem_append_left _ ?_)⟩
    rw [before]
    exact List.mem_flatMap.mpr ⟨pair, member, by rw [widens]; simp [Plan.inFront]⟩

theorem Noted.stands_back (noted : layout.Noted) (uncrossed : layout.Uncrossed options)
    (member : pair ∈ layout.sections) : ∃ slot,
      (layout.plan options)[layout.back options pair]? = some slot ∧
      pair.2 ∈ Plan.placesAt slot (layout.back options pair) := by
  cases widens : layout.widening options pair with
  | inline =>
    have here : layout.back options pair = pair.2 := by rw [back, widens]; rfl
    rw [here]
    exact noted.stands_inline uncrossed member widens (List.mem_cons_of_mem _ List.mem_cons_self)
  | row span =>
    have here : layout.back options pair = span.last := by rw [back, widens]; rfl
    obtain ⟨-, ends, -⟩ := noted.row widens
    obtain ⟨slot, found, -, after⟩ := layout.exists_slot options (lt_size_of_landmarkAt ends)
    rw [here]
    refine ⟨slot, found, List.mem_append_right _ ?_⟩
    rw [after]
    exact List.mem_flatMap.mpr ⟨pair, List.mem_reverse.mpr member, by rw [widens]; simp [Plan.behind]⟩
  | paragraphs first last =>
    have here : layout.back options pair = last.first := by rw [back, widens]; rfl
    obtain ⟨-, ⟨_, alone⟩, -⟩ := noted.pages widens
    obtain ⟨slot, found, before, -⟩ := layout.exists_slot options (lt_size_of_landmarkAt alone.front)
    rw [here]
    refine ⟨slot, found, List.mem_append_left _ (List.mem_append_left _ ?_)⟩
    rw [before]
    exact List.mem_flatMap.mpr ⟨pair, member, by rw [widens]; simp [Plan.inFront]⟩

/-- A tag of a section that does not take a row comes to a place at or before its own, and no other
section comes between. -/
theorem Noted.clear_front (noted : layout.Noted) (uncrossed : layout.Uncrossed options)
    (member : pair ∈ layout.sections) (flat : ∀ span, layout.widening options pair ≠ .row span) :
    layout.front options pair ≤ pair.1 ∧ ∀ other ∈ layout.sections, other ≠ pair →
      ∀ place ∈ [layout.front options other, layout.back options other],
        ¬ (layout.front options pair ≤ place ∧ place < pair.1) := by
  cases widens : layout.widening options pair with
  | inline =>
    rw [front, widens, Widening.front]
    exact ⟨Nat.le_refl _, fun other known different place ends => by omega⟩
  | row span => exact absurd widens (flat span)
  | paragraphs first last =>
    obtain ⟨⟨_, alone⟩, -⟩ := noted.pages widens
    rw [front, widens, Widening.front]
    refine ⟨Nat.le_of_lt alone.between.1, fun other known different place ends inside => ?_⟩
    refine uncrossed.paragraphs pair member other known different place ends ?_
    rw [widens]
    exact .inl ⟨inside.1, Nat.le_of_lt (Nat.lt_trans inside.2 alone.between.2)⟩

theorem Noted.clear_back (noted : layout.Noted) (uncrossed : layout.Uncrossed options)
    (member : pair ∈ layout.sections) (flat : ∀ span, layout.widening options pair ≠ .row span) :
    layout.back options pair ≤ pair.2 ∧ ∀ other ∈ layout.sections, other ≠ pair →
      ∀ place ∈ [layout.front options other, layout.back options other],
        ¬ (layout.back options pair ≤ place ∧ place < pair.2) := by
  cases widens : layout.widening options pair with
  | inline =>
    rw [back, widens, Widening.back]
    exact ⟨Nat.le_refl _, fun other known different place ends => by omega⟩
  | row span => exact absurd widens (flat span)
  | paragraphs first last =>
    obtain ⟨-, ⟨_, alone⟩, -⟩ := noted.pages widens
    rw [back, widens, Widening.back]
    refine ⟨Nat.le_of_lt alone.between.1, fun other known different place ends inside => ?_⟩
    refine uncrossed.paragraphs pair member other known different place ends ?_
    rw [widens]
    exact .inr ⟨inside.1, Nat.le_of_lt (Nat.lt_trans inside.2 alone.between.2)⟩

/-- The tags of a section come out in their order. -/
theorem Noted.front_lt_back (noted : layout.Noted)
    (order : pair.1 < pair.2) : layout.front options pair < layout.back options pair := by
  cases widens : layout.widening options pair with
  | inline =>
    rw [front, back, widens]
    exact order
  | row span =>
    rw [front, back, widens]
    exact (noted.row widens).2.2
  | paragraphs first last =>
    obtain ⟨⟨_, alone⟩, -, before⟩ := noted.pages widens
    rw [front, back, widens]
    exact Nat.lt_trans (Nat.lt_trans alone.between.1 alone.between.2) before

/-- Two places that come out in some order come to slots in that order. -/
theorem Noted.le_of_pair_sublist (noted : layout.Noted) {a b x y : Nat}
    (standsA : ∃ slot, (layout.plan options)[a]? = some slot ∧ x ∈ Plan.placesAt slot a)
    (standsB : ∃ slot, (layout.plan options)[b]? = some slot ∧ y ∈ Plan.placesAt slot b)
    (order : [x, y].Sublist (layout.plan options).order) : a ≤ b := by
  obtain ⟨slotA, foundA, insideA⟩ := standsA
  obtain ⟨slotB, foundB, insideB⟩ := standsB
  by_contra turned
  have other := Plan.pair_sublist_order foundB foundA (Nat.lt_of_not_le turned) insideB insideA
  exact not_both_orders (noted.nodup_order options) order other

/-- Two sections that take the same row do not cross: their opening tags come out in the order in which
the sections are listed, their closing tags in the opposite one. -/
theorem Noted.not_crossing_of_same_row (noted : layout.Noted) {span span' : ClosedSpan}
    (member : pair ∈ layout.sections) (known : other ∈ layout.sections) (different : pair ≠ other)
    (row : layout.widening options pair = .row span)
    (row' : layout.widening options other = .row span') (first : span'.first = span.first)
    (last : span'.last = span.last)
    (opens : [pair.1, other.1].Sublist (layout.plan options).order)
    (closes : [pair.2, other.2].Sublist (layout.plan options).order) : False := by
  have distinct := noted.nodup_order options
  obtain ⟨starts, ends, -⟩ := noted.row row
  rcases pair_sublist_or member known different with before | before
  · obtain ⟨slot, found, -, after⟩ := layout.exists_slot options (lt_size_of_landmarkAt ends)
    have turned : [other, pair].Sublist layout.sections.reverse := List.reverse_sublist.mpr before
    have behind := turned.flatMap fun pair => Plan.behind pair span.last (layout.widening options pair)
    rw [← after, List.flatMap_cons, List.flatMap_singleton, row, row', Plan.behind, Plan.behind, last,
      if_pos rfl, if_pos rfl] at behind
    have come : slot.after.Sublist (layout.plan options).order :=
      (List.sublist_append_right _ _).trans (Plan.placesAt_sublist_order found)
    exact not_both_orders distinct closes (behind.trans come)
  · obtain ⟨slot, found, front, -⟩ := layout.exists_slot options (lt_size_of_landmarkAt starts)
    have inFront := before.flatMap fun pair =>
      Plan.inFront pair span.first (layout.widening options pair)
    rw [← front, List.flatMap_cons, List.flatMap_singleton, row, row', Plan.inFront, Plan.inFront, first,
      if_pos rfl, if_pos rfl] at inFront
    have come : slot.before.Sublist (layout.plan options).order :=
      ((List.sublist_append_left _ _).trans (List.sublist_append_left _ _)).trans
        (Plan.placesAt_sublist_order found)
    exact not_both_orders distinct opens (inFront.trans come)

/-- Where a row starts or ends, no tag of a section stands that takes no row. -/
theorem Noted.landmark_front (noted : layout.Noted)
    (original : Bracketed layout.pieces layout.sections (List.range layout.pieces.size))
    (member : pair ∈ layout.sections) (flat : ∀ span, layout.widening options pair ≠ .row span) :
    landmarkAt layout.pieces (layout.front options pair) ≠ some .rowStart := by
  cases widens : layout.widening options pair with
  | inline =>
    obtain ⟨name, opens, -⟩ := original.opens pair member
    rw [front, widens, Widening.front, landmarkAt_of_sideAt opens]
    nofun
  | row span => exact absurd widens (flat span)
  | paragraphs first last =>
    obtain ⟨⟨_, alone⟩, -⟩ := noted.pages widens
    rw [front, widens, Widening.front, alone.front]
    nofun

theorem Noted.landmark_back (noted : layout.Noted)
    (original : Bracketed layout.pieces layout.sections (List.range layout.pieces.size))
    (member : pair ∈ layout.sections) (flat : ∀ span, layout.widening options pair ≠ .row span) :
    landmarkAt layout.pieces (layout.back options pair) ≠ some .rowEnd := by
  cases widens : layout.widening options pair with
  | inline =>
    obtain ⟨name, -, closes⟩ := original.opens pair member
    rw [back, widens, Widening.back, landmarkAt_of_sideAt closes]
    nofun
  | row span => exact absurd widens (flat span)
  | paragraphs first last =>
    obtain ⟨-, ⟨_, alone⟩, -⟩ := noted.pages widens
    rw [back, widens, Widening.back, alone.front]
    nofun

section Crossing

variable (noted : layout.Noted) (uncrossed : layout.Uncrossed options)
  (original : Bracketed layout.pieces layout.sections (List.range layout.pieces.size))
  (member : pair ∈ layout.sections) (known : other ∈ layout.sections)

include noted uncrossed original member known

/-- If the section that begins first takes a row, the other one ends where the row does, so it takes
that row as well. -/
theorem Noted.not_crossing_of_row (different : pair ≠ other) {span : ClosedSpan}
    (row : layout.widening options pair = .row span)
    (opens : [pair.1, other.1].Sublist (layout.plan options).order)
    (closes : [pair.2, other.2].Sublist (layout.plan options).order)
    (fronts : layout.front options pair ≤ layout.front options other)
    (middle : layout.front options other ≤ layout.back options pair)
    (backs : layout.back options pair ≤ layout.back options other) : False := by
  have first : layout.front options pair = span.first := by rw [front, row]; rfl
  have last : layout.back options pair = span.last := by rw [back, row]; rfl
  have whole := (uncrossed.rows pair member span row other known different.symm).mp (by omega)
  have level : layout.back options other = span.last := by omega
  by_cases row' : ∃ span', layout.widening options other = .row span'
  · obtain ⟨span', row'⟩ := row'
    have first' : layout.front options other = span'.first := by rw [front, row']; rfl
    have last' : layout.back options other = span'.last := by rw [back, row']; rfl
    have whole' := (uncrossed.rows other known span' row' pair member different).mpr
      (by rw [last]; have := (noted.row row').2.2; omega)
    exact noted.not_crossing_of_same_row member known different row row' (by omega) (by omega) opens
      closes
  · refine noted.landmark_back original known (fun span' is => row' ⟨span', is⟩) ?_
    rw [level]
    exact (noted.row row).2.1

/-- If only the other one takes a row, the first one begins where the row does, which no tag in the
row can. -/
theorem Noted.not_crossing_of_inner_row (different : pair ≠ other)
    (flat : ∀ span, layout.widening options pair ≠ .row span) {span : ClosedSpan}
    (row : layout.widening options other = .row span)
    (fronts : layout.front options pair ≤ layout.front options other)
    (middle : layout.front options other ≤ layout.back options pair)
    (backs : layout.back options pair ≤ layout.back options other) : False := by
  have first : layout.front options other = span.first := by rw [front, row]; rfl
  have last : layout.back options other = span.last := by rw [back, row]; rfl
  have whole := (uncrossed.rows other known span row pair member different).mpr (by omega)
  refine noted.landmark_front original member flat ?_
  rw [show layout.front options pair = span.first by omega]
  exact (noted.row row).1

/-- If neither takes a row, their tags stand in their old order. -/
theorem Noted.not_crossing_of_flat (different : pair ≠ other)
    (flat : ∀ span, layout.widening options pair ≠ .row span)
    (flat' : ∀ span, layout.widening options other ≠ .row span)
    (fronts : layout.front options pair ≤ layout.front options other)
    (middle : layout.front options other ≤ layout.back options pair)
    (backs : layout.back options pair ≤ layout.back options other) : False := by
  obtain ⟨_, clearFront⟩ := noted.clear_front uncrossed member flat
  obtain ⟨upTo, clearBack⟩ := noted.clear_back uncrossed member flat
  obtain ⟨upTo', clearFront'⟩ := noted.clear_front uncrossed known flat'
  obtain ⟨upToEnd, -⟩ := noted.clear_back uncrossed known flat'
  have distinct {place : Nat} (mine : place ∈ [pair.1, pair.2]) : place ∉ [other.1, other.2] :=
    fun shared => different (Bracketed.eq_of_shared original.apart member known mine shared)
  have one : pair.1 ≠ other.1 := fun same => distinct (by simp) (by simp [same] : pair.1 ∈ _)
  have two : other.1 ≠ pair.2 := fun same => distinct (by simp) (by simp [same] : pair.2 ∈ _)
  have three : pair.2 ≠ other.2 := fun same => distinct (by simp) (by simp [same] : pair.2 ∈ _)
  have front := clearFront other known different.symm _ List.mem_cons_self
  have between := clearFront' pair member different _ (List.mem_cons_of_mem _ List.mem_cons_self)
  have back := clearBack other known different.symm _ (List.mem_cons_of_mem _ List.mem_cons_self)
  obtain ⟨_, inside⟩ := lt_size_of_mem_sections known
  exact original.nested pair member other known
    (sublist_range_of_lt (by omega) (by omega) (by omega) inside)

/-- No two sections cross behind the widening. -/
theorem Noted.not_crossing :
    ¬ [pair.1, other.1, pair.2, other.2].Sublist (layout.plan options).order := by
  intro crossing
  have opens : [pair.1, other.1].Sublist (layout.plan options).order :=
    List.Sublist.trans (by simp) crossing
  have between : [other.1, pair.2].Sublist (layout.plan options).order :=
    List.Sublist.trans (by simp) crossing
  have closes : [pair.2, other.2].Sublist (layout.plan options).order :=
    List.Sublist.trans (by simp) crossing
  have different : pair ≠ other := by
    rintro rfl
    exact not_both_orders (noted.nodup_order options) opens opens
  have fronts := noted.le_of_pair_sublist (noted.stands_front uncrossed member)
    (noted.stands_front uncrossed known) opens
  have middle := noted.le_of_pair_sublist (noted.stands_front uncrossed known)
    (noted.stands_back uncrossed member) between
  have backs := noted.le_of_pair_sublist (noted.stands_back uncrossed member)
    (noted.stands_back uncrossed known) closes
  -- Whether the first section, the second or neither of them is widened to a row.
  by_cases row : ∃ span, layout.widening options pair = .row span
  · obtain ⟨span, row⟩ := row
    exact noted.not_crossing_of_row uncrossed original member known different row opens closes fronts
      middle backs
  · have flat : ∀ span, layout.widening options pair ≠ .row span := fun span is => row ⟨span, is⟩
    by_cases row' : ∃ span, layout.widening options other = .row span
    · obtain ⟨span, row'⟩ := row'
      exact noted.not_crossing_of_inner_row uncrossed original member known different flat row' fronts
        middle backs
    · exact noted.not_crossing_of_flat uncrossed original member known different flat
        (fun span is => row' ⟨span, is⟩) fronts middle backs

end Crossing

theorem Noted.bracketed_order (noted : layout.Noted) (uncrossed : layout.Uncrossed options)
    (original : Bracketed layout.pieces layout.sections (List.range layout.pieces.size)) :
    Bracketed layout.pieces layout.sections (layout.plan options).order := by
  refine ⟨noted.nodup_order options, original.apart, original.opens, fun pair member => ?_,
    fun place _ section_ => ?_, fun outer a inner b => noted.not_crossing uncrossed original a b⟩
  · have increasing := List.pairwise_lt_range.sublist (original.ordered pair member)
    simp only [List.pairwise_cons, List.mem_singleton, forall_eq] at increasing
    obtain ⟨slot, found, opens⟩ := noted.stands_front uncrossed member
    obtain ⟨slot', found', closes⟩ := noted.stands_back uncrossed member
    exact Plan.pair_sublist_order found found' (noted.front_lt_back increasing.1) opens closes
  · refine original.all place (List.mem_range.mpr ?_) section_
    obtain ⟨side, found⟩ := Option.ne_none_iff_exists'.mp section_
    exact lt_size_of_landmarkAt (landmarkAt_of_sideAt found)

/-- Not too many sections enclose one in the new order. -/
theorem Noted.length_enclosers_lt (noted : layout.Noted) (uncrossed : layout.Uncrossed options)
    (member : pair ∈ layout.sections) :
    (enclosers layout.sections (layout.plan options).order pair).length < Nesting.depthLimit := by
  have distinct : layout.sections.Nodup := by
    have apart := (List.nodup_flatMap.mp (SectionPairs.nodup_ofPieces layout.pieces.toList)).2
    refine apart.imp fun disjoint same => disjoint List.mem_cons_self ?_
    rw [same]
    exact List.mem_cons_self
  have own : pair ∉ enclosers layout.sections (layout.plan options).order pair := by
    intro found
    have encloses := of_decide_eq_true (List.mem_filter.mp found).2
    have twice : [pair.1, pair.1].Sublist (layout.plan options).order :=
      List.Sublist.trans (by simp) encloses
    exact not_both_orders (noted.nodup_order options) twice twice
  have within : pair :: enclosers layout.sections (layout.plan options).order pair ⊆
      layout.sections.filter fun other =>
        layout.front options other ≤ layout.front options pair ∧
          layout.back options pair ≤ layout.back options other := by
    refine List.cons_subset.mpr ⟨List.mem_filter.mpr ⟨member, by simp⟩, fun other found => ?_⟩
    obtain ⟨known, encloses⟩ := List.mem_filter.mp found
    have encloses := of_decide_eq_true encloses
    have fronts := noted.le_of_pair_sublist (noted.stands_front uncrossed known)
      (noted.stands_front uncrossed member) (List.Sublist.trans (by simp) encloses)
    have backs := noted.le_of_pair_sublist (noted.stands_back uncrossed member)
      (noted.stands_back uncrossed known) (List.Sublist.trans (by simp) encloses)
    exact List.mem_filter.mpr ⟨known, decide_eq_true ⟨fronts, backs⟩⟩
  have around : (enclosers layout.sections (layout.plan options).order pair).Nodup :=
    distinct.filter _
  have counted := (List.subperm_of_subset (List.nodup_cons.mpr ⟨own, around⟩) within).length_le
  have levels := uncrossed.levels pair member
  rw [List.length_cons] at counted
  omega

end Widened

theorem filterMap_range (pieces : Array Piece) :
    ((List.range pieces.size).filterMap fun place => pieces[place]?) = pieces.toList := by
  have all : (List.range pieces.size).map (fun place => pieces[place]?) = pieces.toList.map some := by
    apply List.ext_getElem?
    intro place
    by_cases inside : place < pieces.size
    · simp [inside]
    · simp [inside]
  have flat := congrArg (List.filterMap id) all
  rwa [List.filterMap_map, List.filterMap_map, Function.id_comp, Function.id_comp,
    List.filterMap_some] at flat

/-- Where the sections of a part fit and those that are widened leave the others whole, the sections
fit behind the widening as well, and the same tags belong together. -/
theorem sound_nesting (source : Text) (options : RenderOptions)
    (sound : (Nesting.ofPieces (ofPart source).pieces.toList).Sound)
    (uncrossed : (ofPart source).Uncrossed options) :
    ((ofPart source).nesting options).Sound ∧
      (Partners.ofPlaces (ofPart source).pieces ((ofPart source).plan options).order).Perm
        (Partners.ofPlaces (ofPart source).pieces (List.range (ofPart source).pieces.size)) := by
  have noted := noted_ofPart source
  rw [← filterMap_range, Nesting.sound_iff_fits] at sound
  obtain ⟨original, before⟩ := SectionPairs.bracketed_of_fits sound
  obtain ⟨fits, after⟩ := (noted.bracketed_order uncrossed original).fits fun pair member =>
    noted.length_enclosers_lt uncrossed member
  exact ⟨(Nesting.sound_iff_fits _ _).mpr fits, after.trans before.symm⟩

/-- A section around a row, with another one in the first of its cells. -/
def nestedRow : Text :=
  ("<w:tr><w:tc><w:t>\x7b#a\x7d\x7b#b\x7dx\x7b/b\x7d</w:t></w:tc>" ++
    "<w:tc><w:t>y\x7b/a\x7d</w:t></w:tc></w:tr>").toList

theorem ofPart_nestedRow :
    (SectionPairs.scan {} 0 (ofPart nestedRow).pieces.toList).pairs = [(3, 12), (4, 6)] ∧
      (Nesting.ofPieces (ofPart nestedRow).pieces.toList).allFaults = [] ∧
      (ofPart nestedRow).widening {} (3, 12) = .row ⟨0, 15, false⟩ ∧
      (ofPart nestedRow).widening {} (4, 6) = .inline := by
  unfold nestedRow
  -- spelled out, since a long string literal is slow to evaluate
  rewrite [String.toList_append, String.toList_ofList, String.toList_ofList]
  decide +kernel

theorem sections_nestedRow : (ofPart nestedRow).sections = [(3, 12), (4, 6)] := by
  rw [sections, SectionPairs.ofPieces, ofPart_nestedRow.1]
  exact List.mergeSort_of_pairwise (by decide)

theorem sound_nesting_nestedRow :
    ((ofPart nestedRow).nesting {}).Sound ∧
      (Partners.ofPlaces (ofPart nestedRow).pieces ((ofPart nestedRow).plan {}).order).Perm
        (Partners.ofPlaces (ofPart nestedRow).pieces (List.range (ofPart nestedRow).pieces.size)) := by
  obtain ⟨-, faultless, outer, inner⟩ := ofPart_nestedRow
  have sections := sections_nestedRow
  refine sound_nesting nestedRow {} ?_ ⟨?_, ?_, ?_⟩
  · intro fault member
    rw [faultless] at member
    cases member
  · rw [sections]
    simp only [List.forall_mem_cons, List.not_mem_nil, false_imp_iff, implies_true, and_true, front,
      back, outer, inner, Widening.front, Widening.back]
    simp
  · rw [sections]
    simp only [List.forall_mem_cons, List.not_mem_nil, false_imp_iff, implies_true, and_true, front,
      back, outer, inner, Widening.front, Widening.back, Plan.DroppedBy, not_false_iff]
  · rw [sections]
    exact fun pair _ => (List.length_filter_le _ _).trans (by decide)

/-- A section from one row to the next, and in the first row another one from cell to cell. -/
def crossedRow : Text :=
  ("<w:tr><w:tc><w:t>\x7b#a\x7d\x7b#b\x7dx</w:t></w:tc><w:tc><w:t>y\x7b/b\x7d</w:t></w:tc></w:tr>" ++
    "<w:tr><w:tc><w:t>\x7b/a\x7d</w:t></w:tc></w:tr>").toList

theorem ofPart_crossedRow :
    (SectionPairs.scan {} 0 (ofPart crossedRow).pieces.toList).pairs = [(3, 18), (4, 11)] ∧
      (ofPart crossedRow).faults = [] ∧
      (Nesting.ofPieces (ofPart crossedRow).pieces.toList).allFaults = [] := by
  unfold crossedRow
  rewrite [String.toList_append, String.toList_ofList, String.toList_ofList]
  decide +kernel

/-- The inner section takes the whole row, and crosses the outer one. -/
theorem not_sound_nesting_crossedRow :
    (ofPart crossedRow).faults = [] ∧
      (Nesting.ofPieces (ofPart crossedRow).pieces.toList).Sound ∧
      ¬ ((ofPart crossedRow).nesting {}).Sound := by
  obtain ⟨found, clean, faultless⟩ := ofPart_crossedRow
  have pairs : SectionPairs.ofPieces (ofPart crossedRow).pieces.toList = [(3, 18), (4, 11)] := by
    rw [SectionPairs.ofPieces, found]
    exact List.mergeSort_of_pairwise (by decide)
  have crossed : ((ofPart crossedRow).nesting {}).allFaults =
      [.closingMismatch ['a'] ['b'], .closingMismatch ['b'] ['a']] := by
    rw [nesting, widened, plan, pairs]
    unfold crossedRow
    rewrite [String.toList_append, String.toList_ofList, String.toList_ofList]
    decide +kernel
  refine ⟨clean, ?_, fun sound => ?_⟩
  · intro fault member
    rw [faultless] at member
    cases member
  · refine sound (.closingMismatch ['a'] ['b']) ?_ (by simp [TagFault.Structural, TagFault.kind])
    rw [crossed]
    exact List.mem_cons_self

end Layout

end WordMerge
