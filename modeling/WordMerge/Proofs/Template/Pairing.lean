import WordMerge.Proofs.Template.SplitOrder
import WordMerge.Proofs.Template.Succession

namespace WordMerge

namespace Piece

/-- Rows of pieces whose section tags are nested: behind an opening tag and a row of this kind comes
a closing tag of the same name, and the two tags are related. -/
inductive Paired (R : PlacedTag → PlacedTag → Prop) : List Piece → Prop
  | nil : Paired R []
  | verbatim {xml : Text} {rest : List Piece} : Paired R rest → Paired R (.verbatim xml :: rest)
  | value {placed : PlacedTag} {rest : List Piece} :
      placed.kind = .value → Paired R rest → Paired R (.tag placed :: rest)
  | block {opening closing : PlacedTag} {body rest : List Piece} :
      opening.kind.opens = true → closing.kind = .closing → closing.name = opening.name →
      R opening closing → Paired R body → Paired R rest →
      Paired R (.tag opening :: (body ++ .tag closing :: rest))

theorem paired_of_xml (R : PlacedTag → PlacedTag → Prop) (row : List Text) :
    Paired R (row.map .verbatim) := by
  induction row with
  | nil => exact .nil
  | cons xml row ih => exact .verbatim ih

theorem Paired.behind_xml {R : PlacedTag → PlacedTag → Prop} {rest : List Piece}
    (paired : Paired R rest) (row : List Text) : Paired R (row.map .verbatim ++ rest) := by
  induction row with
  | nil => exact paired
  | cons xml row ih => exact .verbatim ih

/-- Nested tags stay nested behind other pieces. -/
theorem Paired.shift {pieces : List Piece} (paired : Paired (fun _ _ => True) pieces)
    (shift : Shift) : Paired (fun _ _ => True) (pieces.map shift.piece) := by
  induction paired with
  | nil => exact .nil
  | verbatim _ ih => exact .verbatim ih
  | value kind _ ih => exact .value kind ih
  | block opens closes name _ _ _ ihBody ih =>
    rw [List.map_cons, List.map_append, List.map_cons]
    exact .block opens closes name trivial ihBody ih

end Piece

/-- The places of two tags behind all of these. -/
def Shift.pair (shift : Shift) (places : Nat × Nat) : Nat × Nat :=
  (shift.places + places.1, shift.places + places.2)

namespace SectionPairs

open Piece

/-- Passes pieces, each of them at its own place. -/
def scanAt (found : SectionPairs) (entries : List (Piece × Nat)) : SectionPairs :=
  entries.foldl (fun found entry => found.step entry.2 entry.1) found

theorem scan_eq_scanAt (found : SectionPairs) (place : Nat) (pieces : List Piece) :
    found.scan place pieces = found.scanAt (pieces.zipIdx place) := by
  induction pieces generalizing found place with
  | nil => rfl
  | cons piece rest ih => exact ih _ _

theorem scanAt_append (found : SectionPairs) (a b : List (Piece × Nat)) :
    found.scanAt (a ++ b) = (found.scanAt a).scanAt b :=
  List.foldl_append

section Accumulation

variable (stack : List (Nat × Text)) (pairs : List (Nat × Nat))

/-- The pairs that were found before do not matter to the search. -/
theorem step_pairs (place : Nat) (piece : Piece) : step ⟨stack, pairs⟩ place piece =
    ⟨(step ⟨stack, []⟩ place piece).stack, (step ⟨stack, []⟩ place piece).pairs ++ pairs⟩ := by
  cases piece with
  | verbatim xml => rfl
  | tag placed =>
    cases kind : placed.kind with
    | value | opening | inverted => simp [step, kind]
    | closing =>
      cases stack with
      | nil => simp [step, kind]
      | cons entry outer =>
        simp only [step, kind]
        split <;> rfl

/-- The pairs found before do not matter to those found later. -/
theorem scanAt_pairs (entries : List (Piece × Nat)) : scanAt ⟨stack, pairs⟩ entries =
    ⟨(scanAt ⟨stack, []⟩ entries).stack, (scanAt ⟨stack, []⟩ entries).pairs ++ pairs⟩ := by
  induction entries generalizing stack pairs with
  | nil => rfl
  | cons entry rest ih =>
    have next (pairs : List (Nat × Nat)) : scanAt ⟨stack, pairs⟩ (entry :: rest) =
        scanAt (step ⟨stack, pairs⟩ entry.2 entry.1) rest := rfl
    rw [next, next, step_pairs stack pairs, ih,
      ih _ (step ⟨stack, []⟩ entry.2 entry.1).pairs, List.append_assoc]

end Accumulation

theorem step_opens (stack : List (Nat × Text)) (pairs : List (Nat × Nat)) (place : Nat)
    {placed : PlacedTag} (opens : placed.kind.opens = true) :
    step ⟨stack, pairs⟩ place (.tag placed) = ⟨(place, placed.name) :: stack, pairs⟩ := by
  cases kind : placed.kind with
  | value | closing =>
    rw [kind] at opens
    cases opens
  | opening | inverted => simp [step, kind]

theorem step_closes (stack : List (Nat × Text)) (pairs : List (Nat × Nat)) (start place : Nat)
    {placed : PlacedTag} (closes : placed.kind = .closing) :
    step ⟨(start, placed.name) :: stack, pairs⟩ place (.tag placed) =
      ⟨stack, (start, place) :: pairs⟩ := by
  simp [step, closes]

/-- Nested tags are found to belong together, whatever was open before, and leave it open. -/
theorem exists_scanAt_of_paired {R : PlacedTag → PlacedTag → Prop} {entries : List (Piece × Nat)}
    (paired : Paired R (entries.map Prod.fst)) :
    ∃ new, (∀ stack pairs, scanAt ⟨stack, pairs⟩ entries = ⟨stack, new ++ pairs⟩) ∧
      ∀ pair ∈ new, ∃ opening closing, (.tag opening, pair.1) ∈ entries ∧
        (.tag closing, pair.2) ∈ entries ∧ R opening closing := by
  generalize pieces : entries.map Prod.fst = row at paired
  -- Paired pieces leave the stack as they find it, so the induction says this of any stack.
  induction paired generalizing entries with
  | nil =>
    rw [List.map_eq_nil_iff] at pieces
    subst pieces
    exact ⟨[], fun _ _ => rfl, nofun⟩
  | verbatim _ ih =>
    obtain ⟨⟨_, place⟩, later, rfl, rfl, rest⟩ := List.map_eq_cons_iff.mp pieces
    obtain ⟨new, scanned, related⟩ := ih rest
    refine ⟨new, fun stack pairs => scanned stack pairs, fun pair member => ?_⟩
    obtain ⟨opening, closing, opens, closes, both⟩ := related pair member
    exact ⟨opening, closing, List.mem_cons_of_mem _ opens, List.mem_cons_of_mem _ closes, both⟩
  | value kind _ ih =>
    obtain ⟨⟨_, place⟩, later, rfl, rfl, rest⟩ := List.map_eq_cons_iff.mp pieces
    obtain ⟨new, scanned, related⟩ := ih rest
    refine ⟨new, fun stack pairs => ?_, fun pair member => ?_⟩
    · rw [← scanned stack pairs, scanAt, List.foldl_cons, scanAt]
      simp [step, kind]
    · obtain ⟨opening, closing, opens, closes, both⟩ := related pair member
      exact ⟨opening, closing, List.mem_cons_of_mem _ opens, List.mem_cons_of_mem _ closes, both⟩
  | @block opening closing body rest opens closes name both _ _ ihBody ih =>
    obtain ⟨⟨_, start⟩, later, rfl, rfl, behind⟩ := List.map_eq_cons_iff.mp pieces
    obtain ⟨inner, tail, rfl, rfl, ending⟩ := List.map_eq_append_iff.mp behind
    obtain ⟨⟨_, stop⟩, outer, rfl, rfl, rfl⟩ := List.map_eq_cons_iff.mp ending
    obtain ⟨new, scanned, related⟩ := ihBody rfl
    obtain ⟨new', scanned', related'⟩ := ih rfl
    refine ⟨new' ++ (start, stop) :: new, fun stack pairs => ?_, ?_⟩
    · have first : scanAt ⟨stack, pairs⟩
          ((.tag opening, start) :: (inner ++ (.tag closing, stop) :: outer)) =
          scanAt (scanAt (step ⟨stack, pairs⟩ start (.tag opening)) inner)
            ((.tag closing, stop) :: outer) := scanAt_append _ _ _
      have last (found : SectionPairs) : found.scanAt ((.tag closing, stop) :: outer) =
          (found.step stop (.tag closing)).scanAt outer := rfl
      rw [first, step_opens _ _ _ opens, scanned, last, ← name, step_closes _ _ _ _ closes,
        scanned', List.append_assoc, List.cons_append]
    · intro pair member
      rw [List.mem_append, List.mem_cons] at member
      rcases member with behind | rfl | within
      · obtain ⟨t, u, front, back, both⟩ := related' pair behind
        exact ⟨t, u, by simp [front], by simp [back], both⟩
      · exact ⟨opening, closing, by simp, by simp, both⟩
      · obtain ⟨t, u, front, back, both⟩ := related pair within
        exact ⟨t, u, by simp [front], by simp [back], both⟩

/-- Two tags around entries that leave everything open add one pair to those of the others. -/
theorem pairs_scanAt_around {a b c : List (Piece × Nat)} {opening closing : PlacedTag}
    (opens : opening.kind.opens = true) (closes : closing.kind = .closing)
    (name : closing.name = opening.name) (start stop : Nat) {new : List (Nat × Nat)}
    (within : ∀ stack pairs, scanAt ⟨stack, pairs⟩ b = ⟨stack, new ++ pairs⟩) :
    ∃ front back,
      (scanAt {} (a ++ (.tag opening, start) :: (b ++ (.tag closing, stop) :: c))).pairs =
        front ++ (start, stop) :: back ∧
      (scanAt {} (a ++ (b ++ c))).pairs = front ++ back := by
  rw [scanAt_append, scanAt_append]
  generalize scanAt {} a = found
  obtain ⟨stack, pairs⟩ := found
  refine ⟨(scanAt ⟨stack, []⟩ c).pairs, new ++ pairs, ?_, ?_⟩
  · have first : scanAt ⟨stack, pairs⟩ ((.tag opening, start) :: (b ++ (.tag closing, stop) :: c)) =
        scanAt (scanAt (step ⟨stack, pairs⟩ start (.tag opening)) b) ((.tag closing, stop) :: c) :=
      scanAt_append _ _ _
    have last (found : SectionPairs) : found.scanAt ((.tag closing, stop) :: c) =
        (found.step stop (.tag closing)).scanAt c := rfl
    rw [first, step_opens _ _ _ opens, within, last, ← name, step_closes _ _ _ _ closes,
      scanAt_pairs]
  · rw [scanAt_append, within, scanAt_pairs]

/-- Two tags between which tags are nested belong together where the other tags are nested without
them. -/
theorem ofPieces_around {R : PlacedTag → PlacedTag → Prop} {before inside after : List Piece}
    {opening closing : PlacedTag} (opens : opening.kind.opens = true)
    (closes : closing.kind = .closing) (name : closing.name = opening.name)
    (outer : Paired R (before ++ (inside ++ after)))
    (inner : Paired (fun _ _ => True) inside) :
    let pieces := before ++ .tag opening :: (inside ++ .tag closing :: after)
    let own := (before.length, before.length + 1 + inside.length)
    own ∈ ofPieces pieces ∧ ∀ pair ∈ ofPieces pieces, pair ≠ own → ∃ t u,
      pieces[pair.1]? = some (.tag t) ∧ pieces[pair.2]? = some (.tag u) ∧ R t u := by
  intro pieces own
  have entries : pieces.zipIdx = before.zipIdx ++ (.tag opening, before.length) ::
      (inside.zipIdx (before.length + 1) ++ (.tag closing, before.length + 1 + inside.length) ::
        after.zipIdx (before.length + 1 + inside.length + 1)) := by
    simp only [pieces, List.zipIdx_append, List.zipIdx_cons, Nat.zero_add]
  generalize front : before.zipIdx = a at entries
  generalize middle : inside.zipIdx (before.length + 1) = b at entries
  generalize back : after.zipIdx (before.length + 1 + inside.length + 1) = c at entries
  have mapA : a.map Prod.fst = before := by rw [← front, List.zipIdx_map_fst]
  have mapB : b.map Prod.fst = inside := by rw [← middle, List.zipIdx_map_fst]
  have mapC : c.map Prod.fst = after := by rw [← back, List.zipIdx_map_fst]
  have mapped : (a ++ (b ++ c)).map Prod.fst = before ++ (inside ++ after) := by
    rw [List.map_append, List.map_append, mapA, mapB, mapC]
  obtain ⟨all, scanned, related⟩ := exists_scanAt_of_paired (mapped ▸ outer)
  -- An entry carries its place, so a pair found without the two tags is a pair with them.
  have others (pair : Nat × Nat) (member : pair ∈ all) : ∃ t u,
      pieces[pair.1]? = some (.tag t) ∧ pieces[pair.2]? = some (.tag u) ∧ R t u := by
    have known (entry : Piece × Nat) (inside : entry ∈ a ++ (b ++ c)) :
        pieces[entry.2]? = some entry.1 := by
      rw [← List.mem_zipIdx_iff_getElem?, entries]
      simp only [List.mem_append, List.mem_cons] at inside ⊢
      rcases inside with old | old | old <;> simp [old]
    obtain ⟨t, u, begins, ends, both⟩ := related pair member
    exact ⟨t, u, known _ begins, known _ ends, both⟩
  obtain ⟨new, within, -⟩ := exists_scanAt_of_paired (mapB ▸ inner)
  obtain ⟨first, last, found, rest⟩ := @pairs_scanAt_around a b c opening closing opens closes name
    before.length (before.length + 1 + inside.length) new within
  have same : all = first ++ last := by
    rw [← rest, show scanAt {} (a ++ (b ++ c)) = ⟨[], all ++ []⟩ from scanned [] [],
      List.append_nil]
  have member (pair : Nat × Nat) : pair ∈ ofPieces pieces ↔ pair = own ∨ pair ∈ all := by
    rw [ofPieces, List.mem_mergeSort, scan_eq_scanAt, entries, found, same, List.mem_append,
      List.mem_cons, List.mem_append]
    exact or_left_comm
  refine ⟨(member own).mpr (.inl rfl), fun pair known different => ?_⟩
  exact others pair (((member pair).mp known).resolve_left different)

section Behind

variable (shift : Shift)

/-- The sections found so far behind other pieces. -/
def behind (found : SectionPairs) : SectionPairs where
  stack := found.stack.map fun entry => (shift.places + entry.1, entry.2)
  pairs := found.pairs.map shift.pair

/-- Behind other pieces the search goes on as it would alone. -/
theorem step_behind (found : SectionPairs) (place : Nat) (piece : Piece) :
    (behind shift found).step (shift.places + place) (shift.piece piece) =
      behind shift (found.step place piece) := by
  cases piece with
  | verbatim xml => rfl
  | tag placed =>
    have kind : (shift.tag placed).kind = placed.kind := rfl
    have name : (shift.tag placed).name = placed.name := rfl
    obtain ⟨stack, pairs⟩ := found
    simp only [Shift.piece, step, kind, name]
    cases placed.kind with
    | value | opening | inverted => rfl
    | closing =>
      cases stack with
      | nil => rfl
      | cons entry outer =>
        simp only [behind, List.map_cons]
        split <;> rfl

/-- The sections found behind other pieces are those found without them. -/
theorem scan_behind (found : SectionPairs) (place : Nat) (pieces : List Piece) :
    (behind shift found).scan (shift.places + place) (pieces.map shift.piece) =
      behind shift (found.scan place pieces) := by
  induction pieces generalizing found place with
  | nil => rfl
  | cons piece rest ih =>
    rw [List.map_cons, scan, step_behind, Nat.add_assoc, ih]
    rfl

end Behind

/-- A pair that starts before all others is the first one. -/
theorem mergeSort_cons_of_le {pair : Nat × Nat} {pairs : List (Nat × Nat)}
    (least : ∀ other ∈ pairs, pair.1 ≤ other.1) :
    ((pair :: pairs).mergeSort fun a b => a.1 ≤ b.1) =
      pair :: pairs.mergeSort fun a b => a.1 ≤ b.1 := by
  obtain ⟨before, after, sorted, rest, later⟩ := @List.mergeSort_cons (Nat × Nat)
    (fun a b => a.1 ≤ b.1) (fun a b c => by simpa using Nat.le_trans)
    (fun a b => by simpa using Nat.le_total a.1 b.1) pair pairs
  have none : before = [] := by
    refine List.eq_nil_iff_forall_not_mem.mpr fun other member => ?_
    have known : other ∈ pairs := by
      rw [← List.mem_mergeSort, rest]
      exact List.mem_append_left _ member
    simpa [least other known] using later other member
  rw [sorted, rest, none, List.nil_append, List.nil_append]

/-- Two tags among XML around nested tags belong together, and the tags between them belong together
as they do by themselves. -/
theorem ofPieces_framed {shift : Shift} {pieces : List Piece}
    {ahead after ahead' after' : List Text}
    {opening closing : PlacedTag} (opens : opening.kind.opens = true)
    (closes : closing.kind = .closing) (name : closing.name = opening.name)
    (paired : Paired (fun _ _ => True) pieces)
    (places : shift.places = ahead.length + (after.length + 1)) :
    ofPieces ((ahead.map .verbatim ++ .tag opening :: after.map .verbatim) ++
        (pieces.map shift.piece ++
          (ahead'.map .verbatim ++ .tag closing :: after'.map .verbatim))) =
      (ahead.length, shift.places + pieces.length + ahead'.length) ::
        (ofPieces pieces).map shift.pair := by
  have entries : ((pieces.map shift.piece).zipIdx shift.places).map Prod.fst =
      pieces.map shift.piece := List.zipIdx_map_fst _ _
  obtain ⟨new, scanned, -⟩ := exists_scanAt_of_paired (entries ▸ paired.shift shift)
  have alone : new = (scan {} 0 pieces).pairs.map shift.pair := by
    have here := scanned [] []
    rw [← scan_eq_scanAt, List.append_nil] at here
    have there := scan_behind shift {} 0 pieces
    rw [Nat.add_zero] at there
    exact congrArg SectionPairs.pairs (here.symm.trans there)
  have found : (scan {} 0 ((ahead.map .verbatim ++ .tag opening :: after.map .verbatim) ++
      (pieces.map shift.piece ++
        (ahead'.map .verbatim ++ .tag closing :: after'.map .verbatim)))).pairs =
      (ahead.length, shift.places + pieces.length + ahead'.length) :: new := by
    have front : scan {} 0 (ahead.map .verbatim ++ .tag opening :: after.map .verbatim) =
        ⟨[(ahead.length, opening.name)], []⟩ := by
      rw [scan_append, scan_verbatim, scan, List.length_map, Nat.zero_add, scan_verbatim]
      exact step_opens [] [] _ opens
    have back (found : SectionPairs) (place : Nat) :
        found.scan place (ahead'.map .verbatim ++ .tag closing :: after'.map .verbatim) =
          found.step (place + ahead'.length) (.tag closing) := by
      rw [scan_append, scan_verbatim, scan, List.length_map, scan_verbatim]
    have length : (ahead.map Piece.verbatim ++ Piece.tag opening :: after.map .verbatim).length =
        shift.places := by
      rw [List.length_append, List.length_cons, List.length_map, List.length_map, places]
    have middle (stack : List (Nat × Text)) :
        scan ⟨stack, []⟩ shift.places (pieces.map shift.piece) = ⟨stack, new⟩ := by
      rw [scan_eq_scanAt, scanned, List.append_nil]
    rw [scan_append, front, length, Nat.zero_add, scan_append, middle, back, List.length_map,
      ← name, step_closes _ _ _ _ closes]
  have before : ∀ other ∈ new, ahead.length ≤ other.1 := by
    intro other member
    rw [alone] at member
    obtain ⟨pair, -, rfl⟩ := List.mem_map.mp member
    show ahead.length ≤ shift.places + pair.1
    omega
  rw [ofPieces, found, mergeSort_cons_of_le before, alone, ofPieces, List.map_mergeSort]
  intro a _ b _
  simp [Shift.pair]

end SectionPairs

end WordMerge
