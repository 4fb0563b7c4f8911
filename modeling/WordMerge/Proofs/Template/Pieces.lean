import WordMerge.Proofs.Template.Lossless

namespace WordMerge

namespace Reading

/-- A property that a reading gives to all its pieces: XML with characters of an alphabet has it,
XML keeps it when it gets the attribute that keeps white space, and every tag that a text can spell
has it. -/
structure Common (alphabet : Text) (P : Piece → Prop) : Prop where
  verbatim : ∀ xml, xml ⊆ alphabet → P (.verbatim xml)
  preserve : ∀ raw, P (.verbatim raw) → P (.verbatim (preserveSpace raw))
  tag : ∀ s placed, Tag.ofText? s = some placed.toTag → P (.tag placed)

variable {alphabet : Text} {P : Piece → Prop} {pieces : Array Piece} {r : Reading}

theorem Common.push (common : Common alphabet P) (all : ∀ piece ∈ pieces, P piece) {xml : Text}
    (inside : xml ⊆ alphabet) : ∀ piece ∈ pieces.push (.verbatim xml), P piece := by
  intro piece member
  rcases Array.mem_push.mp member with before | rfl
  · exact all piece before
  · exact common.verbatim xml inside

theorem Common.preserveAt (common : Common alphabet P) (all : ∀ piece ∈ pieces, P piece)
    (place : Nat) : ∀ piece ∈ preserveAt pieces place, P piece := by
  intro piece member
  obtain ⟨other, found⟩ := Array.mem_iff_getElem?.mp member
  rw [Reading.preserveAt, Array.getElem?_modify] at found
  split at found
  · obtain ⟨before, there, rfl⟩ := Option.map_eq_some_iff.mp found
    have known := all before (Array.mem_of_getElem? there)
    cases before with
    | verbatim raw => exact common.preserve raw known
    | tag tag => exact known
  · exact all piece (Array.mem_of_getElem? found)

theorem Common.plain (common : Common alphabet P) (all : ∀ piece ∈ r.pieces, P piece) {text : Text}
    (inside : text ⊆ alphabet) : ∀ piece ∈ (r.plain text).pieces, P piece := by
  rcases r.plain_cases text with ⟨_, same⟩ | same | ⟨number, same⟩
  · rwa [same]
  · rw [same]
    exact common.push all inside
  · rw [same]
    exact common.push all inside

/-- What holds of all pieces holds of a finished tag as well. -/
theorem Common.finishTag (common : Common alphabet P) (all : ∀ piece ∈ r.pieces, P piece)
    (pending : PendingTag) : ∀ piece ∈ (r.finishTag pending).pieces, P piece := by
  rcases r.finishTag_cases pending with ⟨fault, same⟩ | ⟨tag, read, _, same⟩
  · rwa [same]
  · rw [same]
    have placed : ∀ piece ∈ r.pieces.setIfInBounds pending.slot (.tag tag), P piece := by
      intro piece member
      rcases Array.mem_or_eq_of_mem_setIfInBounds member with before | rfl
      · exact all piece before
      · exact common.tag _ tag read
    dsimp only [finished]
    cases pending.textStart with
    | none => exact placed
    | some place => exact common.preserveAt placed place

/-- Character data adds its own characters: those held back and those still to come. -/
theorem Common.passes (common : Common alphabet P) (all : ∀ piece ∈ r.pieces, P piece)
    {before rest : Text} {final : Reading} (passes : r.Passes before rest final)
    (held : before ⊆ alphabet) (inside : rest ⊆ alphabet) : ∀ piece ∈ final.pieces, P piece := by
  have empty : [] ⊆ alphabet := List.nil_subset alphabet
  have turned {text : Text} (known : text ⊆ alphabet) : text.reverse ⊆ alphabet :=
    fun _ member => known (List.mem_reverse.mp member)
  induction passes with
  | settle _ => exact common.plain all (turned held)
  | wait _ => exact all
  | first _ _ ih =>
    exact ih (common.push (common.plain all (turned held)) empty) empty (List.cons_subset.mp inside).2
  | @again r _ _ _ _ _ _ ih =>
    have kept : ∀ piece ∈ r.abandon.pieces, P piece := by rwa [abandon_pieces]
    exact ih (common.push kept empty) empty (List.cons_subset.mp inside).2
  | @finish r _ _ _ tag _ _ ih =>
    have idle : ∀ piece ∈ ({ r with pending := none } : Reading).pieces, P piece := all
    exact ih (common.finishTag idle tag) empty (List.cons_subset.mp inside).2
  | unopened _ _ ih =>
    obtain ⟨here, later⟩ := List.cons_subset.mp inside
    exact ih all (List.cons_subset.mpr ⟨here, held⟩) later
  | extend _ _ _ _ ih => exact ih all empty (List.cons_subset.mp inside).2
  | hold _ _ _ _ ih =>
    obtain ⟨here, later⟩ := List.cons_subset.mp inside
    exact ih all (List.cons_subset.mpr ⟨here, held⟩) later

/-- An item of the alphabet brings in no other pieces. -/
theorem Common.step (common : Common alphabet P) (all : ∀ piece ∈ r.pieces, P piece) {item : Item}
    (inside : item.raw ⊆ alphabet) : ∀ piece ∈ (r.step item).pieces, P piece := by
  cases item with
  | markup raw =>
    rw [Reading.step, markup_pieces]
    exact common.push all inside
  | text raw =>
    unfold Reading.step
    dsimp only
    split
    · exact common.passes all (r.passes_characters [] raw) (List.nil_subset alphabet) inside
    · exact common.push all inside

theorem Common.foldl_step (common : Common alphabet P) (all : ∀ piece ∈ r.pieces, P piece)
    {items : List Item} (inside : ∀ item ∈ items, item.raw ⊆ alphabet) :
    ∀ piece ∈ (items.foldl Reading.step r).pieces, P piece := by
  induction items generalizing r with
  | nil => exact all
  | cons item rest ih =>
    rw [List.forall_mem_cons] at inside
    exact ih (common.step all inside.1) inside.2

end Reading

theorem Item.raw_subset_of_mem_scan {source : Text} {item : Item}
    (member : item ∈ Item.scan source) : item.raw ⊆ source := by
  intro c inside
  rw [← Item.spell_scan source]
  exact List.mem_flatMap.mpr ⟨item, member, inside⟩

/-- What a reading gives to all pieces holds of the pieces of a part. -/
theorem Layout.forall_mem_pieces {source : Text} {P : Piece → Prop}
    (common : Reading.Common source P) : ∀ piece ∈ (ofPart source).pieces, P piece := by
  rw [ofPart, Reading.layout, Reading.abandon_pieces]
  exact common.foldl_step (by simp) fun _ member => Item.raw_subset_of_mem_scan member

end WordMerge
