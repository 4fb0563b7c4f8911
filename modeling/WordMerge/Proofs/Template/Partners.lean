import Mathlib.Data.List.Nodup
import Mathlib.Data.List.Perm.Subperm
import WordMerge.Proofs.Template.SectionPlaces
import WordMerge.Proofs.Template.SectionReading

namespace WordMerge

/-- Whether a fault says that section tags do not fit. -/
def TagFault.Structural (fault : TagFault) : Prop :=
  fault.kind ∈ [.unopenedLoop, .unclosedLoop, .closingMismatch, .nestingTooDeep]

namespace Piece

/-- What a piece does to the sections: the name under which it opens one (`true`) or closes one. -/
def side : Piece → Option (Bool × Text)
  | .verbatim _ => none
  | .tag placed =>
    if placed.kind.opens then some (true, placed.name)
    else if placed.kind = .closing then some (false, placed.name)
    else none

/-- What the piece at a place does to the sections. -/
def sideAt (pieces : Array Piece) (place : Nat) : Option (Bool × Text) :=
  pieces[place]?.bind side

theorem sideAt_of_getElem? {pieces : Array Piece} {place : Nat} {piece : Piece}
    (here : pieces[place]? = some piece) : sideAt pieces place = piece.side := by
  rw [sideAt, here, Option.bind_some]

section Side

variable {tag : PlacedTag}

theorem side_of_value (value : tag.kind = .value) : side (.tag tag) = none := by
  simp [side, value, TagKind.opens]

theorem side_of_opens (opens : tag.kind.opens = true) : side (.tag tag) = some (true, tag.name) :=
  if_pos opens

theorem side_of_closes (closes : tag.kind = .closing) :
    side (.tag tag) = some (false, tag.name) := by
  simp [side, closes, TagKind.opens]

end Side

end Piece

/-- The sections on their way by the places of their tags. -/
structure Partners where
  /-- The opening tags without a partner so far, the innermost one first. -/
  opened : List Nat := []
  /-- The opening and the closing tags that belong together, the last ones first. -/
  pairs : List (Nat × Nat) := []

namespace Partners

open Piece

/-- Passes the piece at a place. A closing tag closes the innermost open section, whatever its name. -/
def step (pieces : Array Piece) (state : Partners) (place : Nat) : Partners :=
  match sideAt pieces place, state.opened with
  | some (true, _), opened => { state with opened := place :: opened }
  | some (false, _), inner :: outer => ⟨outer, (inner, place) :: state.pairs⟩
  | _, _ => state

/-- The tags that belong together when pieces are nested in the order of the given places. -/
def ofPlaces (pieces : Array Piece) (places : List Nat) : List (Nat × Nat) :=
  (places.foldl (step pieces) {}).pairs

/-- A tag fits behind others: it closes a section of its name, or opens one that is not too deep. -/
def Allowed (pieces : Array Piece) (state : Partners) (place : Nat) : Prop :=
  (∀ name, sideAt pieces place = some (true, name) → state.opened.length < Nesting.depthLimit) ∧
    ∀ name, sideAt pieces place = some (false, name) →
      ∃ inner outer, state.opened = inner :: outer ∧ sideAt pieces inner = some (true, name)

/-- All tags at the given places fit behind those before, and none is left open. -/
def Fits (pieces : Array Piece) : Partners → List Nat → Prop
  | state, [] => state.opened = []
  | state, place :: rest => Allowed pieces state place ∧ Fits pieces (step pieces state place) rest

section Steps

variable {pieces : Array Piece} {state : Partners} {place : Nat}

theorem step_other (other : sideAt pieces place = none) : step pieces state place = state := by
  rw [step, other]

theorem step_opening {name : Text} (opens : sideAt pieces place = some (true, name)) :
    step pieces state place = { state with opened := place :: state.opened } := by
  rw [step, opens]

theorem step_closing {name : Text} (closes : sideAt pieces place = some (false, name)) {inner : Nat}
    {outer : List Nat} (opened : state.opened = inner :: outer) :
    step pieces state place = ⟨outer, (inner, place) :: state.pairs⟩ := by
  rw [step, closes, opened]

theorem allowed_other (other : sideAt pieces place = none) : Allowed pieces state place := by
  constructor <;> intro name side <;> rw [other] at side <;> cases side

/-- A piece opens a section, closes one, or leaves them as they are. -/
theorem sideAt_cases (pieces : Array Piece) (place : Nat) : sideAt pieces place = none ∨
    (∃ name, sideAt pieces place = some (true, name)) ∨
    ∃ name, sideAt pieces place = some (false, name) := by
  cases side : sideAt pieces place with
  | none => exact .inl rfl
  | some found =>
    obtain ⟨opens, name⟩ := found
    cases opens with
    | true => exact .inr (.inl ⟨name, rfl⟩)
    | false => exact .inr (.inr ⟨name, rfl⟩)

end Steps

end Partners

namespace Nesting

open Piece

variable {n m : Nesting} {piece : Piece}

/-- A nesting has the sections open that partners are missing for. -/
structure Linked (pieces : Array Piece) (n : Nesting) (state : Partners) : Prop where
  shallow : n.tooDeep = 0
  tags : n.sections.map (fun opened => some (true, opened.tag.name)) =
    state.opened.map (sideAt pieces)

theorem map_name_tags (sections : List OpenSection) :
    sections.map (fun opened => some (true, opened.tag.name)) =
      (sections.map OpenSection.tag).map fun tag => some (true, tag.name) := by
  rw [List.map_map]
  rfl

variable {pieces : Array Piece} {state : Partners} {place : Nat}

theorem Linked.length (linked : Linked pieces n state) : n.sections.length = state.opened.length := by
  simpa using congrArg List.length linked.tags

/-- Nesting and partners are together behind a piece, which is no fault of the structure. -/
def StaysLinked (pieces : Array Piece) (n next : Nesting) (after : Partners) : Prop :=
  Linked pieces next after ∧ ∀ fault ∈ next.faults, fault.Structural → fault ∈ n.faults

/-- A piece that leaves the open sections as they are. -/
theorem Linked.other (linked : Linked pieces n state)
    (tags : m.sections.map OpenSection.tag = n.sections.map OpenSection.tag)
    (deep : m.tooDeep = n.tooDeep) (faults : m.faults = n.faults) :
    StaysLinked pieces n m state := by
  refine ⟨⟨deep.trans linked.shallow, ?_⟩, fun fault member _ => faults ▸ member⟩
  rw [map_name_tags, tags, ← map_name_tags, linked.tags]

/-- A section closed by its own name is at most empty, which is no fault of the structure. -/
theorem not_structural_of_closingFault {section_ : OpenSection} {fault : TagFault}
    (wrong : section_.closingFault? section_.tag.name = some fault) : ¬ fault.Structural := by
  unfold OpenSection.closingFault? at wrong
  rw [if_neg (not_not_intro rfl)] at wrong
  split at wrong
  · cases wrong
    simp [TagFault.Structural, TagFault.kind]
  · cases wrong

/-- A tag that fits keeps nesting and partners together, and is no fault of the structure. -/
theorem Linked.passing (linked : Linked pieces n state) (passing : Passing n piece m)
    (side : sideAt pieces place = piece.side) (allowed : Partners.Allowed pieces state place) :
    StaysLinked pieces n m (Partners.step pieces state place) := by
  cases passing with
  | empty =>
    rw [Partners.step_other side]
    exact linked.other rfl rfl rfl
  | xml =>
    rw [Partners.step_other side]
    exact linked.other (by rw [add_tags, track_tags]) (by rw [add_tooDeep, track_tooDeep])
      (by rw [add_faults, track_faults])
  | value value =>
    rw [Partners.step_other (side.trans (side_of_value value))]
    exact linked.other (add_tags _ _) (add_tooDeep _ _) (add_faults _ _)
  | opened opens =>
    have begins := side.trans (side_of_opens opens)
    rw [Partners.step_opening begins]
    refine ⟨⟨linked.shallow, ?_⟩, fun fault member _ => member⟩
    rw [List.map_cons, List.map_cons, linked.tags, begins]
  | refused opens full =>
    exact absurd (linked.length ▸ allowed.1 _ (side.trans (side_of_opens opens))) full
  | left _ left => exact absurd linked.shallow (Nat.ne_of_gt left)
  | unopened closes _ none =>
    obtain ⟨inner, outer, opened, _⟩ := allowed.2 _ (side.trans (side_of_closes closes))
    have length := linked.length
    rw [none, opened] at length
    cases length
  | @closed tag first rest closes _ sections =>
    have ends := side.trans (side_of_closes closes)
    obtain ⟨inner, outer, opened, named⟩ := allowed.2 _ ends
    have tags := linked.tags
    rw [sections, opened, List.map_cons, List.map_cons, List.cons.injEq, named] at tags
    obtain ⟨same, below⟩ := tags
    have name : first.tag.name = tag.name := by simpa using same
    rw [Partners.step_closing ends opened]
    refine ⟨⟨?_, ?_⟩, fun fault member structural => ?_⟩
    · rw [add_tooDeep, linked.shallow]
    · rw [map_name_tags, add_tags, ← map_name_tags, below]
    · rw [add_faults, List.mem_append, Option.mem_toList] at member
      rw [← name] at member
      exact member.resolve_left fun wrong => not_structural_of_closingFault wrong structural

/-- A tag that does not fit is a fault of the structure. -/
theorem Linked.exists_structural (linked : Linked pieces n state) (passing : Passing n piece m)
    (side : sideAt pieces place = piece.side) (wrong : ¬ Partners.Allowed pieces state place) :
    ∃ fault ∈ m.faults, fault.Structural := by
  cases passing with
  | empty | xml => exact absurd (Partners.allowed_other side) wrong
  | value value => exact absurd (Partners.allowed_other (side.trans (side_of_value value))) wrong
  | opened opens room =>
    refine absurd ⟨fun _ _ => linked.length ▸ room, fun other closes => ?_⟩ wrong
    rw [side.trans (side_of_opens opens)] at closes
    cases closes
  | refused =>
    exact ⟨_, List.mem_cons_self, by simp [TagFault.Structural, TagFault.kind]⟩
  | left _ left => exact absurd linked.shallow (Nat.ne_of_gt left)
  | unopened =>
    exact ⟨_, List.mem_cons_self, by simp [TagFault.Structural, TagFault.kind]⟩
  | @closed tag first rest closes _ sections =>
    have ends := side.trans (side_of_closes closes)
    have other : first.tag.name ≠ tag.name := by
      intro same
      have tags := linked.tags
      rw [sections, List.map_cons] at tags
      obtain ⟨inner, outer, opened, is, _⟩ := List.map_eq_cons_iff.mp tags.symm
      refine wrong ⟨fun other opens => ?_, fun other found => ?_⟩
      · rw [ends] at opens
        cases opens
      · rw [ends] at found
        cases found
        exact ⟨inner, outer, opened, by rw [is, same]⟩
    have noted : first.closingFault? tag.name = some (.closingMismatch first.tag.name tag.name) :=
      if_pos other
    refine ⟨.closingMismatch first.tag.name tag.name, ?_,
      by simp [TagFault.Structural, TagFault.kind]⟩
    rw [add_faults, noted]
    exact List.mem_cons_self

/-- No fault says that section tags do not fit. -/
def Sound (n : Nesting) : Prop :=
  ∀ fault ∈ n.allFaults, ¬ fault.Structural

/-- The nesting goes on without a fault of its structure exactly if the tags fit. -/
theorem Linked.sound_iff (linked : Linked pieces n state)
    (clean : ∀ fault ∈ n.faults, ¬ fault.Structural) (places : List Nat) :
    ((places.filterMap fun place => pieces[place]?).foldl Nesting.step n).Sound ↔
      Partners.Fits pieces state places := by
  induction places generalizing n state with
  | nil =>
    have length := congrArg List.length linked.tags
    rw [List.length_map, List.length_map] at length
    rw [List.filterMap_nil, List.foldl_nil, Partners.Fits]
    constructor
    · intro sound
      refine List.length_eq_zero_iff.mp (length ▸ List.length_eq_zero_iff.mpr ?_)
      refine List.eq_nil_iff_forall_not_mem.mpr fun opened member => ?_
      refine sound (.unclosedLoop opened.tag.name) (List.mem_append_right _ ?_) ?_
      · exact List.mem_map.mpr ⟨opened, List.mem_reverse.mpr member, rfl⟩
      · simp [TagFault.Structural, TagFault.kind]
    · intro none fault member
      have closed : n.sections = [] := List.length_eq_zero_iff.mp (by rw [length, none]; rfl)
      rw [allFaults, closed, List.reverse_nil, List.map_nil, List.append_nil, List.mem_reverse] at member
      exact clean fault member
  | cons place rest ih =>
    rw [Partners.Fits]
    cases here : pieces[place]? with
    | none =>
      have other : sideAt pieces place = none := by rw [sideAt, here, Option.bind_none]
      rw [List.filterMap_cons_none here, Partners.step_other other,
        and_iff_right (Partners.allowed_other other)]
      exact ih linked clean
    | some piece =>
      rw [List.filterMap_cons_some here, List.foldl_cons]
      have side := sideAt_of_getElem? here
      have passing := passing_step n piece
      by_cases allowed : Partners.Allowed pieces state place
      · obtain ⟨next, old⟩ := linked.passing passing side allowed
        rw [and_iff_right allowed]
        exact ih next fun fault member structural =>
          clean fault (old fault member structural) structural
      · rw [iff_false_intro (fun both : _ ∧ _ => allowed both.1), iff_false]
        intro sound
        obtain ⟨fault, member, structural⟩ := linked.exists_structural passing side allowed
        have kept := (faults_suffix_foldl (rest.filterMap fun place => pieces[place]?)
          (n.step piece)).subset member
        exact sound fault (List.mem_append_left _ (List.mem_reverse.mpr kept)) structural

/-- The nesting of pieces in some order is sound exactly if their tags fit in that order. -/
theorem sound_iff_fits (pieces : Array Piece) (places : List Nat) :
    (ofPieces (places.filterMap fun place => pieces[place]?)).Sound ↔
      Partners.Fits pieces {} places :=
  Linked.sound_iff ⟨rfl, rfl⟩ (by simp) places

end Nesting

/-- In the given order of places the sections do not cross: each opening tag comes before its closing
tag, every section tag belongs to one section, and of two sections that overlap one encloses the
other. -/
structure Bracketed (pieces : Array Piece) (pairs : List (Nat × Nat)) (places : List Nat) : Prop where
  distinct : places.Nodup
  apart : (pairs.flatMap fun pair => [pair.1, pair.2]).Nodup
  opens : ∀ pair ∈ pairs, ∃ name, Piece.sideAt pieces pair.1 = some (true, name) ∧
    Piece.sideAt pieces pair.2 = some (false, name)
  ordered : ∀ pair ∈ pairs, [pair.1, pair.2].Sublist places
  all : ∀ place ∈ places, Piece.sideAt pieces place ≠ none →
    ∃ pair ∈ pairs, place = pair.1 ∨ place = pair.2
  nested : ∀ outer ∈ pairs, ∀ inner ∈ pairs,
    ¬ [outer.1, inner.1, outer.2, inner.2].Sublist places

namespace Bracketed

open Piece

variable {pieces : Array Piece} {pairs : List (Nat × Nat)} {places : List Nat}

/-- Different sections share no tag. -/
theorem eq_of_shared (apart : (pairs.flatMap fun pair => [pair.1, pair.2]).Nodup) {a b : Nat × Nat}
    (memberA : a ∈ pairs) (memberB : b ∈ pairs) {place : Nat} (inA : place ∈ [a.1, a.2])
    (inB : place ∈ [b.1, b.2]) : a = b := by
  induction pairs with
  | nil => cases memberA
  | cons pair rest ih =>
    rw [List.flatMap_cons] at apart
    obtain ⟨_, later, disjoint⟩ := List.nodup_append.mp apart
    have outside {other : Nat × Nat} (member : other ∈ rest) (inside : place ∈ [other.1, other.2]) :
        place ∉ [pair.1, pair.2] := fun here =>
      disjoint place here place (List.mem_flatMap.mpr ⟨other, member, inside⟩) rfl
    rcases List.mem_cons.mp memberA with rfl | laterA
    · rcases List.mem_cons.mp memberB with rfl | laterB
      · rfl
      · exact absurd inA (outside laterB inB)
    · rcases List.mem_cons.mp memberB with rfl | laterB
      · exact absurd inB (outside laterA inA)
      · exact ih later laterA laterB

/-- An opening tag belongs to a section as the first one. -/
theorem exists_of_opening (bracketed : Bracketed pieces pairs places) {place : Nat} {name : Text}
    (member : place ∈ places) (opens : sideAt pieces place = some (true, name)) :
    ∃ pair ∈ pairs, pair.1 = place := by
  obtain ⟨pair, found, rfl | rfl⟩ := bracketed.all place member (by rw [opens]; nofun)
  · exact ⟨pair, found, rfl⟩
  · obtain ⟨other, _, closes⟩ := bracketed.opens pair found
    rw [opens] at closes
    cases closes

/-- Every closing tag belongs to a section. -/
theorem exists_of_closing (bracketed : Bracketed pieces pairs places) {place : Nat} {name : Text}
    (member : place ∈ places) (closes : sideAt pieces place = some (false, name)) :
    ∃ pair ∈ pairs, pair.2 = place ∧ sideAt pieces pair.1 = some (true, name) := by
  obtain ⟨pair, found, rfl | rfl⟩ := bracketed.all place member (by rw [closes]; nofun)
  · obtain ⟨other, opens, _⟩ := bracketed.opens pair found
    rw [closes] at opens
    cases opens
  · obtain ⟨other, opens, same⟩ := bracketed.opens pair found
    rw [closes] at same
    cases same
    exact ⟨pair, found, rfl, opens⟩

end Bracketed

theorem pair_sublist_or {α : Type} {a b : α} {l : List α} (memberA : a ∈ l) (memberB : b ∈ l) (other : a ≠ b) :
    [a, b].Sublist l ∨ [b, a].Sublist l := by
  obtain ⟨before, after, rfl⟩ := List.append_of_mem memberA
  rcases List.mem_append.mp memberB with front | back
  · right
    exact (List.singleton_sublist.mpr front).append (List.singleton_sublist.mpr List.mem_cons_self)
  · have later := (List.mem_cons.mp back).resolve_left fun same => other same.symm
    left
    refine List.Sublist.trans ?_ (List.sublist_append_right before _)
    exact (List.singleton_sublist.mpr later).cons_cons a

/-- What comes behind a place in an order without repetition stands behind it. -/
theorem mem_right_of_pair {a b : Nat} {past rest : List Nat} (distinct : (past ++ a :: rest).Nodup)
    (order : [a, b].Sublist (past ++ a :: rest)) : b ∈ rest := by
  have fresh : a ∉ past := fun member =>
    (List.nodup_append.mp distinct).2.2 a member a List.mem_cons_self rfl
  obtain ⟨front, back, split, before, behind⟩ := List.sublist_append_iff.mp order
  match front, split with
  | [], split =>
    rw [List.nil_append] at split
    rw [← split] at behind
    exact (List.cons_sublist_cons.mp behind).subset List.mem_cons_self
  | one :: _, split =>
    rw [List.cons_append] at split
    obtain ⟨rfl, -⟩ := List.cons.inj split
    exact absurd (before.subset List.mem_cons_self) fresh

theorem mem_left_of_pair {a b : Nat} {past rest : List Nat} (distinct : (past ++ b :: rest).Nodup)
    (order : [a, b].Sublist (past ++ b :: rest)) : a ∈ past := by
  have same : (past ++ b :: rest).reverse = rest.reverse ++ b :: past.reverse := by simp
  have turned := List.reverse_sublist.mpr order
  rw [← List.nodup_reverse, same] at distinct
  rw [same] at turned
  exact List.mem_reverse.mp (mem_right_of_pair distinct turned)

/-- The sections around a section in an order of places. -/
def enclosers (pairs : List (Nat × Nat)) (places : List Nat) (pair : Nat × Nat) : List (Nat × Nat) :=
  pairs.filter fun other => [other.1, pair.1, pair.2, other.2].Sublist places

/-- The partners behind some places: open are the opening tags passed whose partners come later, and
paired are the sections passed. -/
structure Partners.Midway (pairs : List (Nat × Nat)) (past rest : List Nat) (state : Partners) :
    Prop where
  opened : state.opened.reverse.Sublist past
  pending : ∀ place ∈ state.opened, ∃ pair ∈ pairs, pair.1 = place ∧ pair.2 ∈ rest
  complete : ∀ pair ∈ pairs, pair.1 ∈ past → pair.2 ∈ rest → pair.1 ∈ state.opened
  paired : ∀ pair, pair ∈ state.pairs ↔ pair ∈ pairs ∧ pair.2 ∈ past
  single : state.pairs.Nodup

namespace Bracketed

open Piece Partners

variable {pieces : Array Piece} {pairs : List (Nat × Nat)} {past rest : List Nat} {state : Partners}
  {place : Nat}

/-- A closing tag finds its own opening tag open as the innermost one. -/
theorem innermost (bracketed : Bracketed pieces pairs (past ++ place :: rest))
    (midway : Midway pairs past (place :: rest) state) {pair : Nat × Nat} (found : pair ∈ pairs)
    (closes : pair.2 = place) : ∃ outer, state.opened = pair.1 :: outer := by
  have begun : pair.1 ∈ past := by
    have order := bracketed.ordered pair found
    rw [closes] at order
    exact mem_left_of_pair bracketed.distinct order
  have member := midway.complete pair found begun (closes ▸ List.mem_cons_self)
  obtain ⟨inner, outer, opened⟩ := List.exists_cons_of_ne_nil (List.ne_nil_of_mem member)
  refine ⟨outer, ?_⟩
  rw [opened]
  congr 1
  -- Another section that is still open and began later would cross this one.
  by_contra other
  rw [opened] at member
  have below : pair.1 ∈ outer := (List.mem_cons.mp member).resolve_left fun same => other same.symm
  obtain ⟨crossing, known, first, later⟩ := midway.pending inner (opened ▸ List.mem_cons_self)
  have behind : crossing.2 ∈ rest := by
    refine (List.mem_cons.mp later).resolve_left fun same => other ?_
    have one := @eq_of_shared pairs bracketed.apart crossing pair known found place (by simp [same])
      (by simp [closes])
    rw [← one, first]
  have front : [pair.1, inner].Sublist past := by
    refine List.Sublist.trans ?_ midway.opened
    rw [opened, List.reverse_cons]
    exact (List.singleton_sublist.mpr (List.mem_reverse.mpr below)).append (List.Sublist.refl _)
  refine bracketed.nested pair found crossing known ?_
  rw [first, closes]
  exact front.append ((List.singleton_sublist.mpr behind).cons_cons place)

/-- The sections open around an opening tag enclose its section. -/
theorem length_opened_le (bracketed : Bracketed pieces pairs (past ++ place :: rest))
    (midway : Midway pairs past (place :: rest) state) {pair : Nat × Nat} (found : pair ∈ pairs)
    (opens : pair.1 = place) :
    state.opened.length ≤ (enclosers pairs (past ++ place :: rest) pair).length := by
  have distinct := List.nodup_append.mp bracketed.distinct
  have fresh : place ∉ past := fun member => distinct.2.2 place member place List.mem_cons_self rfl
  have firsts : state.opened.Nodup := by
    rw [← List.nodup_reverse]
    exact midway.opened.nodup distinct.1
  have within : state.opened ⊆ (enclosers pairs (past ++ place :: rest) pair).map Prod.fst := by
    intro around member
    have begun : around ∈ past := midway.opened.subset (List.mem_reverse.mpr member)
    obtain ⟨other, known, first, later⟩ := midway.pending around member
    refine List.mem_map.mpr ⟨other, List.mem_filter.mpr ⟨known, decide_eq_true ?_⟩, first⟩
    have different : other ≠ pair := by
      rintro rfl
      exact fresh (opens ▸ first ▸ begun)
    have behind : other.2 ∈ rest := by
      refine (List.mem_cons.mp later).resolve_left fun same => ?_
      obtain ⟨name, _, closes⟩ := bracketed.opens other known
      obtain ⟨name', begins, _⟩ := bracketed.opens pair found
      rw [same, ← opens, begins] at closes
      cases closes
    have after : pair.2 ∈ rest := by
      have order := bracketed.ordered pair found
      rw [opens] at order
      exact mem_right_of_pair bracketed.distinct order
    have seconds : other.2 ≠ pair.2 := fun same => 
      different (@eq_of_shared pairs bracketed.apart other pair known found pair.2 (by simp [same])
        (by simp))
    rcases pair_sublist_or behind after seconds with crosses | encloses
    · refine absurd ?_ (bracketed.nested other known pair found)
      rw [first, opens]
      exact (List.singleton_sublist.mpr begun).append (crosses.cons_cons place)
    · rw [first, opens]
      exact (List.singleton_sublist.mpr begun).append (encloses.cons_cons place)
  have counted := (List.subperm_of_subset firsts within).length_le
  rwa [List.length_map] at counted

/-- Where sections do not cross, the next tag fits. -/
theorem allowed (bracketed : Bracketed pieces pairs (past ++ place :: rest))
    (midway : Midway pairs past (place :: rest) state)
    (shallow : ∀ pair ∈ pairs,
      (enclosers pairs (past ++ place :: rest) pair).length < Nesting.depthLimit) :
    Allowed pieces state place := by
  have here : place ∈ past ++ place :: rest := by simp
  constructor
  · intro name opens
    obtain ⟨pair, found, first⟩ := bracketed.exists_of_opening here opens
    exact Nat.lt_of_le_of_lt (bracketed.length_opened_le midway found first) (shallow pair found)
  · intro name closes
    obtain ⟨pair, found, second, opens⟩ := bracketed.exists_of_closing here closes
    obtain ⟨outer, opened⟩ := bracketed.innermost midway found second
    exact ⟨pair.1, outer, opened, opens⟩

theorem fst_mem_append_iff (bracketed : Bracketed pieces pairs (past ++ place :: rest))
    (other : ∀ name, sideAt pieces place ≠ some (true, name)) {pair : Nat × Nat}
    (found : pair ∈ pairs) : pair.1 ∈ past ++ [place] ↔ pair.1 ∈ past := by
  have different : pair.1 ≠ place := by
    obtain ⟨name, opens, _⟩ := bracketed.opens pair found
    rintro rfl
    exact other name opens
  simp [different]

section Unclosed

variable (other : ∀ name, sideAt pieces place ≠ some (false, name))

include other

theorem snd_ne (bracketed : Bracketed pieces pairs (past ++ place :: rest)) {pair : Nat × Nat}
    (found : pair ∈ pairs) : pair.2 ≠ place := by
  obtain ⟨name, _, closes⟩ := bracketed.opens pair found
  rintro rfl
  exact other name closes

/-- Where no section ends, the sections passed stay the same. -/
theorem mem_pairs_iff (bracketed : Bracketed pieces pairs (past ++ place :: rest))
    (midway : Midway pairs past (place :: rest) state) (pair : Nat × Nat) :
    pair ∈ state.pairs ↔ pair ∈ pairs ∧ pair.2 ∈ past ++ [place] := by
  rw [midway.paired pair, List.mem_append, List.mem_singleton]
  refine and_congr_right fun found => ?_
  rw [or_iff_left (snd_ne other bracketed found)]

theorem pending_rest (bracketed : Bracketed pieces pairs (past ++ place :: rest))
    (midway : Midway pairs past (place :: rest) state) :
    ∀ around ∈ state.opened, ∃ pair ∈ pairs, pair.1 = around ∧ pair.2 ∈ rest := by
  intro around member
  obtain ⟨pair, found, first, later⟩ := midway.pending around member
  exact ⟨pair, found, first, (List.mem_cons.mp later).resolve_left (snd_ne other bracketed found)⟩

end Unclosed

theorem midway_other (bracketed : Bracketed pieces pairs (past ++ place :: rest))
    (midway : Midway pairs past (place :: rest) state) (neither : sideAt pieces place = none) :
    Midway pairs (past ++ [place]) rest (step pieces state place) := by
  have other (side : Bool × Text) : sideAt pieces place ≠ some side := by
    rw [neither]
    nofun
  rw [step_other neither]
  refine ⟨midway.opened.trans (List.sublist_append_left _ _),
    pending_rest (fun _ => other _) bracketed midway, fun pair found before after => ?_,
    mem_pairs_iff (fun _ => other _) bracketed midway, midway.single⟩
  rw [bracketed.fst_mem_append_iff (fun _ => other _) found] at before
  exact midway.complete pair found before (List.mem_cons_of_mem _ after)

/-- An opening tag opens its section. -/
theorem midway_opening (bracketed : Bracketed pieces pairs (past ++ place :: rest))
    (midway : Midway pairs past (place :: rest) state) {name : Text}
    (opens : sideAt pieces place = some (true, name)) :
    Midway pairs (past ++ [place]) rest (step pieces state place) := by
  have other (name : Text) : sideAt pieces place ≠ some (false, name) := by
    rw [opens]
    nofun
  obtain ⟨pair, found, first⟩ := bracketed.exists_of_opening (by simp) opens
  have paired := mem_pairs_iff other bracketed midway
  rw [step_opening opens]
  refine ⟨?_, ?_, fun pair found before after => ?_, paired, midway.single⟩
  · rw [List.reverse_cons]
    exact midway.opened.append (List.Sublist.refl _)
  · refine List.forall_mem_cons.mpr ⟨⟨pair, found, first, ?_⟩, pending_rest other bracketed midway⟩
    have order := bracketed.ordered pair found
    rw [first] at order
    exact mem_right_of_pair bracketed.distinct order
  · rcases List.mem_append.mp before with old | new
    · exact List.mem_cons_of_mem _ (midway.complete pair found old (List.mem_cons_of_mem _ after))
    · rw [List.mem_singleton.mp new]
      exact List.mem_cons_self

/-- A closing tag closes its section. -/
theorem midway_closing (bracketed : Bracketed pieces pairs (past ++ place :: rest))
    (midway : Midway pairs past (place :: rest) state) {name : Text}
    (closes : sideAt pieces place = some (false, name)) :
    Midway pairs (past ++ [place]) rest (step pieces state place) := by
  have distinct := List.nodup_append.mp bracketed.distinct
  have fresh : place ∉ past := fun member => distinct.2.2 place member place List.mem_cons_self rfl
  have other (name : Text) : sideAt pieces place ≠ some (true, name) := by
    rw [closes]
    nofun
  obtain ⟨own, found, second, _⟩ := bracketed.exists_of_closing (by simp) closes
  obtain ⟨outer, opened⟩ := bracketed.innermost midway found second
  -- Two pairs that share a place are one pair.
  have unique {pair : Nat × Nat} (known : pair ∈ pairs) {p : Nat}
      (inside : p ∈ [pair.1, pair.2]) (mine : p ∈ [own.1, own.2]) : pair = own :=
    eq_of_shared bracketed.apart known found inside mine
  have closed {pair : Nat × Nat} (known : pair ∈ pairs) (here : pair.2 = place) : pair = own :=
    unique known (p := place) (by simp [here]) (by simp [second])
  have single : (own.1 :: outer).Nodup := by
    rw [← List.nodup_reverse, ← opened]
    exact midway.opened.nodup distinct.1
  rw [step_closing closes opened]
  refine ⟨?_, fun around member => ?_, fun pair known before after => ?_, fun pair => ?_, ?_⟩
  · have inner := midway.opened.trans (List.sublist_append_left past [place])
    rw [opened, List.reverse_cons] at inner
    exact (List.sublist_append_left _ _).trans inner
  · obtain ⟨pair, known, first, later⟩ := midway.pending around (opened ▸ List.mem_cons_of_mem _ member)
    refine ⟨pair, known, first, (List.mem_cons.mp later).resolve_left fun same => ?_⟩
    rw [← first, closed known same] at member
    exact (List.nodup_cons.mp single).1 member
  · rw [bracketed.fst_mem_append_iff other known] at before
    have member := midway.complete pair known before (List.mem_cons_of_mem _ after)
    rw [opened] at member
    refine (List.mem_cons.mp member).resolve_left fun same => ?_
    have one := unique known (p := own.1) (by simp [same]) (by simp)
    rw [one, second] at after
    exact (List.nodup_cons.mp distinct.2.1).1 after
  · rw [List.mem_cons, midway.paired pair, List.mem_append, List.mem_singleton]
    have own' : (own.1, place) = own := by rw [← second]
    rw [own']
    constructor
    · rintro (rfl | ⟨known, before⟩)
      · exact ⟨found, .inr second⟩
      · exact ⟨known, .inl before⟩
    · rintro ⟨known, before | here⟩
      · exact .inr ⟨known, before⟩
      · exact .inl (closed known here)
  · refine List.nodup_cons.mpr ⟨fun member => ?_, midway.single⟩
    exact fresh ((midway.paired _).mp member).2

/-- Passing a place keeps what is said about the partners. -/
theorem midway_step (bracketed : Bracketed pieces pairs (past ++ place :: rest))
    (midway : Midway pairs past (place :: rest) state) :
    Midway pairs (past ++ [place]) rest (step pieces state place) := by
  rcases sideAt_cases pieces place with neither | ⟨name, opens⟩ | ⟨name, closes⟩
  · exact bracketed.midway_other midway neither
  · exact bracketed.midway_opening midway opens
  · exact bracketed.midway_closing midway closes

/-- Where sections do not cross, all tags fit. -/
theorem midway_foldl (bracketed : Bracketed pieces pairs (past ++ rest))
    (midway : Midway pairs past rest state)
    (shallow : ∀ pair ∈ pairs, (enclosers pairs (past ++ rest) pair).length < Nesting.depthLimit) :
    Fits pieces state rest ∧ Midway pairs (past ++ rest) [] (rest.foldl (step pieces) state) := by
  induction rest generalizing past state with
  | nil =>
    refine ⟨List.eq_nil_iff_forall_not_mem.mpr fun around member => ?_, by simpa using midway⟩
    obtain ⟨pair, _, _, later⟩ := midway.pending around member
    cases later
  | cons place rest ih =>
    have split : past ++ place :: rest = past ++ [place] ++ rest := by simp
    have next := bracketed.midway_step midway
    rw [Fits, List.foldl_cons, and_assoc]
    refine ⟨bracketed.allowed midway shallow, ?_⟩
    rw [split] at bracketed shallow ⊢
    exact ih bracketed next shallow

/-- Sections that do not cross, and of which not too many enclose one, fit, and the tags that belong
together are theirs. -/
theorem fits {places : List Nat} (bracketed : Bracketed pieces pairs places)
    (shallow : ∀ pair ∈ pairs, (enclosers pairs places pair).length < Nesting.depthLimit) :
    Fits pieces {} places ∧ (ofPlaces pieces places).Perm pairs := by
  have start : Midway pairs [] places {} := by
    refine ⟨List.Sublist.refl _, by simp, by simp, by simp, List.nodup_nil⟩
  obtain ⟨fits, whole⟩ := @midway_foldl pieces pairs [] places {} bracketed start shallow
  refine ⟨fits, ?_⟩
  have distinct : pairs.Nodup := by
    refine ((List.nodup_flatMap.mp bracketed.apart).2).imp fun disjoint same => ?_
    exact disjoint (List.mem_cons_self) (by rw [same]; exact List.mem_cons_self)
  refine (List.perm_ext_iff_of_nodup whole.single distinct).mpr fun pair => ?_
  rw [whole.paired pair, and_iff_left_iff_imp]
  intro found
  exact (bracketed.ordered pair found).subset (by simp)

end Bracketed

namespace SectionPairs

open Piece

variable {found next : SectionPairs} {place : Nat} {piece : Piece} {name : Text}

/-- The sections found and the partners so far, where all tags have fitted. -/
structure Tracked (pieces : Array Piece) (place : Nat) (found : SectionPairs) (state : Partners) :
    Prop where
  pairs : found.pairs = state.pairs
  stack : found.stack.map (fun entry => (entry.1, some (true, entry.2))) =
    state.opened.map fun opening => (opening, sideAt pieces opening)
  below : ∀ opening ∈ state.opened, opening < place
  latest : state.opened.Pairwise (· > ·)
  opens : ∀ pair ∈ state.pairs, pair.1 < pair.2 ∧ pair.2 < place ∧
    ∃ name, sideAt pieces pair.1 = some (true, name) ∧ sideAt pieces pair.2 = some (false, name)
  apart : ∀ pair ∈ state.pairs, ∀ opening ∈ state.opened, opening < pair.1 ∨ pair.2 < opening
  nested : ∀ outer ∈ state.pairs, ∀ inner ∈ state.pairs,
    ¬ (outer.1 < inner.1 ∧ inner.1 < outer.2 ∧ outer.2 < inner.2)
  all : ∀ other < place, sideAt pieces other ≠ none →
    other ∈ state.opened ∨ ∃ pair ∈ state.pairs, other = pair.1 ∨ other = pair.2

variable {pieces : Array Piece} {state : Partners}

theorem Tracked.ordered (tracked : Tracked pieces place found state) :
    Ordered place state.opened state.pairs where
  below := tracked.below
  latest := tracked.latest
  within pair member := ⟨(tracked.opens pair member).1, (tracked.opens pair member).2.1⟩
  apart := tracked.apart
  nested := tracked.nested

theorem Tracked.opens_later (tracked : Tracked pieces place found state) :
    ∀ pair ∈ state.pairs, pair.1 < pair.2 ∧ pair.2 < place + 1 ∧
      ∃ name, sideAt pieces pair.1 = some (true, name) ∧
        sideAt pieces pair.2 = some (false, name) := by
  intro pair member
  obtain ⟨order, before, names⟩ := tracked.opens pair member
  exact ⟨order, Nat.lt_succ_of_lt before, names⟩

theorem Tracked.other (tracked : Tracked pieces place found state)
    (other : sideAt pieces place = none) : Tracked pieces (place + 1) found state := by
  have next := tracked.ordered.pass
  refine ⟨tracked.pairs, tracked.stack, next.below, next.latest, tracked.opens_later, next.apart,
    next.nested, fun place' before section_ => ?_⟩
  have different : place' ≠ place := by
    rintro rfl
    exact section_ other
  exact tracked.all place' (by omega) section_

/-- Both searches put an opening tag on their stacks. -/
theorem Tracked.opening (tracked : Tracked pieces place found state)
    (begins : sideAt pieces place = some (true, name)) :
    Tracked pieces (place + 1) { found with stack := (place, name) :: found.stack }
      { state with opened := place :: state.opened } := by
  have next := tracked.ordered.opening
  refine ⟨tracked.pairs, ?_, next.below, next.latest, tracked.opens_later, next.apart, next.nested,
    fun other before section_ => ?_⟩
  · rw [List.map_cons, List.map_cons, tracked.stack, begins]
  · by_cases same : other = place
    · exact .inl (same ▸ List.mem_cons_self)
    · rcases tracked.all other (by omega) section_ with open_ | paired
      · exact .inl (List.mem_cons_of_mem _ open_)
      · exact .inr paired

/-- Both searches find the same partner for a closing tag that fits. -/
theorem Tracked.closing (tracked : Tracked pieces place found state) {start : Nat}
    {outer : List Nat} {left : List (Nat × Text)} (opened : state.opened = start :: outer)
    (split : found.stack = (start, name) :: left)
    (later : left.map (fun entry => (entry.1, some (true, entry.2))) =
      outer.map fun opening => (opening, sideAt pieces opening))
    (named : sideAt pieces start = some (true, name))
    (closes : sideAt pieces place = some (false, name)) :
    Tracked pieces (place + 1) ⟨left, (start, place) :: found.pairs⟩
      ⟨outer, (start, place) :: state.pairs⟩ := by
  have next := (opened ▸ tracked.ordered).closing
  refine ⟨by rw [tracked.pairs], later, next.below, next.latest, ?_, next.apart, next.nested,
    fun other before section_ => ?_⟩
  · have ends := next.within (start, place) List.mem_cons_self
    exact List.forall_mem_cons.mpr
      ⟨⟨ends.1, ends.2, name, named, closes⟩, tracked.opens_later⟩
  · by_cases same : other = place
    · exact .inr ⟨(start, place), List.mem_cons_self, .inr same⟩
    · rcases tracked.all other (by omega) section_ with open_ | ⟨pair, member, either⟩
      · rw [opened] at open_
        rcases List.mem_cons.mp open_ with rfl | around
        · exact .inr ⟨(other, place), List.mem_cons_self, .inl rfl⟩
        · exact .inl around
      · exact .inr ⟨pair, List.mem_cons_of_mem _ member, either⟩

/-- A tag that fits keeps the sections found and the partners together. -/
theorem Tracked.passing (tracked : Tracked pieces place found state)
    (passing : Passing found place piece next) (side : sideAt pieces place = piece.side)
    (allowed : Partners.Allowed pieces state place) :
    Tracked pieces (place + 1) next (Partners.step pieces state place) := by
  cases passing with
  | xml =>
    rw [Partners.step_other side]
    exact tracked.other side
  | value value =>
    have neither := side.trans (side_of_value value)
    rw [Partners.step_other neither]
    exact tracked.other neither
  | opened opens =>
    have begins := side.trans (side_of_opens opens)
    rw [Partners.step_opening begins]
    exact tracked.opening begins
  | closed closes split =>
    have ends := side.trans (side_of_closes closes)
    obtain ⟨inner, outer, opened, named⟩ := allowed.2 _ ends
    have stack := tracked.stack
    rw [split, opened, List.map_cons, List.map_cons, List.cons.injEq] at stack
    obtain ⟨first, later⟩ := stack
    cases congrArg Prod.fst first
    rw [Partners.step_closing ends opened]
    exact tracked.closing opened split later named ends
  | unmatched closes wrong =>
    obtain ⟨inner, outer, opened, named⟩ := allowed.2 _ (side.trans (side_of_closes closes))
    have stack := tracked.stack
    rw [opened, List.map_cons] at stack
    obtain ⟨⟨start, called⟩, left, split, first, _⟩ := List.map_eq_cons_iff.mp stack
    rw [named] at first
    cases first
    exact absurd split (wrong _ _)

/-- Where the tags fit, both searches come to the same pairs. -/
theorem Tracked.scan {rest : List Piece} (tracked : Tracked pieces place found state)
    (left : pieces.toList.drop place = rest)
    (fits : Partners.Fits pieces state (List.range' place rest.length)) :
    ∃ last, Tracked pieces (place + rest.length) (found.scan place rest) last ∧ last.opened = [] ∧
      last = (List.range' place rest.length).foldl (Partners.step pieces) state := by
  induction rest generalizing found place state with
  | nil => exact ⟨state, tracked, fits, rfl⟩
  | cons piece rest ih =>
    have here : pieces[place]? = some piece := by
      have first := congrArg List.head? left
      simpa using first
    rw [List.length_cons, List.range'_succ] at fits
    have passing := passing_step found place piece
    have next := tracked.passing passing (sideAt_of_getElem? here) fits.1
    obtain ⟨last, known, none, same⟩ := ih next
      (by rw [← List.drop_drop, left, List.drop_one, List.tail_cons]) fits.2
    refine ⟨last, ?_, none, ?_⟩
    · rw [List.length_cons, Nat.add_comm rest.length 1, ← Nat.add_assoc]
      exact known
    · rw [List.length_cons, List.range'_succ, List.foldl_cons]
      exact same

theorem tracked_start (pieces : Array Piece) : Tracked pieces 0 {} {} :=
  ⟨rfl, rfl, by simp, List.Pairwise.nil, by simp, by simp, by simp, by simp⟩

/-- Where all tags of a part fit, its sections do not cross, and the tags that belong together are
those of the sections that are widened. -/
theorem bracketed_of_fits {pieces : Array Piece}
    (fits : Partners.Fits pieces {} (List.range pieces.size)) :
    Bracketed pieces (ofPieces pieces.toList) (List.range pieces.size) ∧
      (Partners.ofPlaces pieces (List.range pieces.size)).Perm (ofPieces pieces.toList) := by
  have length : pieces.toList.length = pieces.size := Array.length_toList
  rw [List.range_eq_range', ← length] at fits
  obtain ⟨last, tracked, none, same⟩ := (tracked_start pieces).scan List.drop_zero fits
  rw [Nat.zero_add, length] at tracked
  have sorted := List.mergeSort_perm (scan {} 0 pieces.toList).pairs fun a b => a.1 ≤ b.1
  have known (pair : Nat × Nat) : pair ∈ ofPieces pieces.toList ↔ pair ∈ last.pairs := by
    rw [← tracked.pairs]
    exact sorted.mem_iff
  have increasing {a b c d : Nat} (order : [a, b, c, d].Sublist (List.range pieces.size)) :
      a < b ∧ b < c ∧ c < d := by
    have pairwise := List.pairwise_lt_range.sublist order
    simp only [List.pairwise_cons, List.mem_cons] at pairwise
    exact ⟨pairwise.1 b (.inl rfl), pairwise.2.1 c (.inl rfl), pairwise.2.2.1 d (.inl rfl)⟩
  refine ⟨⟨List.nodup_range, nodup_ofPieces _, fun pair member => ?_, fun pair member => ?_,
    fun place member section_ => ?_, fun outer a inner b crossing => ?_⟩, ?_⟩
  · exact (tracked.opens pair ((known pair).mp member)).2.2
  · obtain ⟨order, inside, _⟩ := tracked.opens pair ((known pair).mp member)
    have either := pair_sublist_or (List.mem_range.mpr (Nat.lt_trans order inside))
      (List.mem_range.mpr inside) (Nat.ne_of_lt order)
    refine either.resolve_right fun turned => ?_
    have pairwise := List.pairwise_lt_range.sublist turned
    simp only [List.pairwise_cons, List.mem_singleton, forall_eq] at pairwise
    omega
  · rcases tracked.all place (List.mem_range.mp member) section_ with open_ | ⟨pair, found, either⟩
    · rw [none] at open_
      cases open_
    · exact ⟨pair, (known pair).mpr found, either⟩
  · exact tracked.nested outer ((known outer).mp a) inner ((known inner).mp b) (increasing crossing)
  · rw [Partners.ofPlaces, List.range_eq_range', ← length, ← same, ← tracked.pairs]
    exact sorted.symm

end SectionPairs

end WordMerge
