import WordMerge.Proofs.Template.Conservation

namespace WordMerge

namespace SectionPairs

/-- An opening tag and a closing tag of the same name stand at two places. -/
def Joins (pieces : List Piece) (pair : Nat × Nat) : Prop :=
  ∃ opening closing : PlacedTag,
    pieces[pair.1]? = some (.tag opening) ∧ pieces[pair.2]? = some (.tag closing) ∧
      opening.kind.opens = true ∧ closing.kind = .closing ∧ closing.name = opening.name

/-- Sections that come in the order of their opening tags and share no tag, each from an opening tag
to a later closing tag of the same name. Of two that overlap one encloses the other. -/
structure Disentangled (pieces : List Piece) (pairs : List (Nat × Nat)) : Prop where
  sorted : pairs.Pairwise fun a b => a.1 < b.1
  single : (pairs.flatMap fun pair => [pair.1, pair.2]).Nodup
  joins : ∀ pair ∈ pairs, pair.1 < pair.2 ∧ Joins pieces pair
  nested : ∀ outer ∈ pairs, ∀ inner ∈ pairs,
    ¬ (outer.1 < inner.1 ∧ inner.1 < outer.2 ∧ outer.2 < inner.2)

/-- Open and finished sections in front of a place. The open ones come innermost first, no finished
one reaches over an opening tag that is still open, and the finished ones do not cross. -/
structure Ordered (place : Nat) (opened : List Nat) (pairs : List (Nat × Nat)) : Prop where
  below : ∀ opening ∈ opened, opening < place
  latest : opened.Pairwise (· > ·)
  within : ∀ pair ∈ pairs, pair.1 < pair.2 ∧ pair.2 < place
  apart : ∀ pair ∈ pairs, ∀ opening ∈ opened, opening < pair.1 ∨ pair.2 < opening
  nested : ∀ outer ∈ pairs, ∀ inner ∈ pairs,
    ¬ (outer.1 < inner.1 ∧ inner.1 < outer.2 ∧ outer.2 < inner.2)

namespace Ordered

variable {place inner : Nat} {opened outer : List Nat} {pairs : List (Nat × Nat)}

theorem start : Ordered 0 [] [] :=
  ⟨nofun, List.Pairwise.nil, nofun, nofun, nofun⟩

theorem pass (ordered : Ordered place opened pairs) : Ordered (place + 1) opened pairs where
  below opening member := Nat.lt_succ_of_lt (ordered.below opening member)
  latest := ordered.latest
  within pair member :=
    ⟨(ordered.within pair member).1, Nat.lt_succ_of_lt (ordered.within pair member).2⟩
  apart := ordered.apart
  nested := ordered.nested

theorem opening (ordered : Ordered place opened pairs) :
    Ordered (place + 1) (place :: opened) pairs where
  below := List.forall_mem_cons.mpr ⟨Nat.lt_succ_self place, ordered.pass.below⟩
  latest := List.pairwise_cons.mpr ⟨ordered.below, ordered.latest⟩
  within := ordered.pass.within
  apart pair member := List.forall_mem_cons.mpr
    ⟨.inr (ordered.within pair member).2, ordered.apart pair member⟩
  nested := ordered.nested

/-- A closing tag makes a pair around all pairs since its opening tag. -/
theorem closing (ordered : Ordered place (inner :: outer) pairs) :
    Ordered (place + 1) outer ((inner, place) :: pairs) := by
  obtain ⟨later, latest⟩ := List.pairwise_cons.mp ordered.latest
  obtain ⟨known, below⟩ := List.forall_mem_cons.mp ordered.pass.below
  refine ⟨below, latest, List.forall_mem_cons.mpr
    ⟨⟨ordered.below inner List.mem_cons_self, Nat.lt_succ_self place⟩, ordered.pass.within⟩,
    List.forall_mem_cons.mpr ⟨fun opening member => .inl (later opening member),
      fun pair member opening around =>
        ordered.apart pair member opening (List.mem_cons_of_mem _ around)⟩, ?_⟩
  -- The new section ends last, and no older one reaches over its opening tag.
  intro a memberA b memberB
  rcases List.mem_cons.mp memberA with rfl | oldA <;> rcases List.mem_cons.mp memberB with rfl | oldB
  · exact fun crossing => Nat.lt_irrefl _ crossing.1
  · have before := (ordered.within b oldB).2
    dsimp only
    omega
  · have clear := ordered.apart a oldA inner List.mem_cons_self
    dsimp only
    omega
  · exact ordered.nested a oldA b oldB

end Ordered

/-- The sections found so far in front of a place. -/
theorem Ordered.step {found : SectionPairs} {place : Nat}
    (ordered : Ordered place (found.stack.map Prod.fst) found.pairs) (piece : Piece) :
    Ordered (place + 1) ((found.step place piece).stack.map Prod.fst)
      (found.step place piece).pairs := by
  have passing := passing_step found place piece
  generalize found.step place piece = next at passing ⊢
  cases passing with
  | xml | value | unmatched => exact ordered.pass
  | opened opens => exact ordered.opening
  | closed closes stack =>
    rw [stack, List.map_cons] at ordered
    exact ordered.closing

/-- The tags at the places found so far are opening tags of the names noted for them, and closing tags
of the same names. -/
structure Named (pieces : List Piece) (found : SectionPairs) : Prop where
  stack : ∀ entry ∈ found.stack, ∃ opening : PlacedTag,
    pieces[entry.1]? = some (.tag opening) ∧ opening.kind.opens = true ∧ opening.name = entry.2
  pairs : ∀ pair ∈ found.pairs, Joins pieces pair

/-- The pairs that are found are tags of one name. -/
theorem Named.step {pieces : List Piece} {found : SectionPairs} (named : Named pieces found)
    {place : Nat} {piece : Piece} (here : pieces[place]? = some piece) :
    Named pieces (found.step place piece) := by
  have passing := passing_step found place piece
  generalize found.step place piece = next at passing ⊢
  cases passing with
  | xml | value | unmatched => exact named
  | @opened tag opens =>
    exact ⟨List.forall_mem_cons.mpr ⟨⟨tag, here, opens, rfl⟩, named.stack⟩, named.pairs⟩
  | @closed tag start outer closes stack =>
    have entries := named.stack
    rw [stack, List.forall_mem_cons] at entries
    obtain ⟨⟨opening, begins, opens, name⟩, rest⟩ := entries
    exact ⟨rest, List.forall_mem_cons.mpr
      ⟨⟨opening, tag, begins, here, opens, closes, name.symm⟩, named.pairs⟩⟩

/-- What is found among some pieces. -/
theorem ordered_named_scan (pieces : List Piece) :
    Ordered pieces.length ((scan {} 0 pieces).stack.map Prod.fst) (scan {} 0 pieces).pairs ∧
      Named pieces (scan {} 0 pieces) :=
  scan_induction
    (fun place found => Ordered place (found.stack.map Prod.fst) found.pairs ∧ Named pieces found)
    ⟨Ordered.start, nofun, nofun⟩
    fun _ piece _ here both => ⟨both.1.step piece, both.2.step here⟩

/-- Whatever the pieces are, the sections found among them come in the order of their opening tags,
no tag is in two of them, each joins an opening tag with a later closing tag of its name, and they do
not cross. -/
theorem disentangled_ofPieces (pieces : List Piece) : Disentangled pieces (ofPieces pieces) := by
  obtain ⟨ordered, named⟩ := ordered_named_scan pieces
  have found (pair : Nat × Nat) : pair ∈ ofPieces pieces ↔ pair ∈ (scan {} 0 pieces).pairs :=
    List.mem_mergeSort
  have single := nodup_ofPieces pieces
  refine ⟨?_, single, fun pair member => ?_, fun outer memberOuter inner memberInner => ?_⟩
  · have sorted : (ofPieces pieces).Pairwise fun a b => a.1 ≤ b.1 := by
      have sorted := @List.pairwise_mergeSort (Nat × Nat) (fun a b => a.1 ≤ b.1)
        (fun a b c => by simpa using Nat.le_trans) (fun a b => by simpa using Nat.le_total a.1 b.1)
        (scan {} 0 pieces).pairs
      exact sorted.imp of_decide_eq_true
    have different : (ofPieces pieces).Pairwise fun a b => a.1 ≠ b.1 := by
      refine (List.nodup_flatMap.mp single).2.imp fun disjoint same => ?_
      exact disjoint List.mem_cons_self (by rw [same]; exact List.mem_cons_self)
    exact (sorted.and different).imp fun both => Nat.lt_of_le_of_ne both.1 both.2
  · exact ⟨(ordered.within pair ((found pair).mp member)).1,
      named.pairs pair ((found pair).mp member)⟩
  · exact ordered.nested outer ((found outer).mp memberOuter) inner ((found inner).mp memberInner)

end SectionPairs

end WordMerge
