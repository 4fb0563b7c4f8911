import WordMerge.Proofs.Template.Tree

namespace WordMerge

theorem TagKind.ne_closing_of_opens {kind : TagKind} (opens : kind.opens = true) :
    kind ≠ .closing := by
  rintro rfl
  exact absurd opens (by decide)

namespace Piece

open Node

/-- The piece without the place of a closing tag, which no tree keeps. -/
def unplaced : Piece → Piece
  | .verbatim xml => .verbatim xml
  | .tag placed => if placed.kind = .closing then .tag placed.ending else .tag placed

/-- The pieces that count for a tree: empty XML is left out, and closing tags have no place. -/
def canonical (pieces : List Piece) : List Piece :=
  (pieces.filter (· ≠ .verbatim [])).map unplaced

/-- Rows of pieces whose sections fit: every section is closed under its own name, at most so many
levels stand in one another, and the XML directly inside a section can be repeated. The edges are
those of the XML outside the sections of the row. -/
inductive WellNested : Nat → List Piece → List Edge → Prop
  | nil {levels} : WellNested levels [] []
  | verbatim {levels xml rest edges} :
      WellNested levels rest edges →
      WellNested levels (.verbatim xml :: rest) (Edge.scan xml ++ edges)
  | value {levels tag rest edges} :
      tag.kind = .value → WellNested levels rest edges →
      WellNested levels (.tag tag :: rest) edges
  | block {levels opening closing body inner rest edges} :
      opening.kind.opens = true → closing.kind = .closing → closing.name = opening.name →
      WellNested levels body inner → Edge.Repeats inner →
      WellNested (levels + 1) rest edges →
      WellNested (levels + 1) (.tag opening :: (body ++ .tag closing :: rest)) edges

@[simp] theorem canonical_nil : canonical [] = [] := rfl

@[simp] theorem canonical_empty (rest : List Piece) :
    canonical (.verbatim [] :: rest) = canonical rest := by
  simp [canonical]

theorem canonical_cons {piece : Piece} (counts : piece ≠ .verbatim []) (rest : List Piece) :
    canonical (piece :: rest) = piece.unplaced :: canonical rest := by
  simp [canonical, counts]

@[simp] theorem canonical_tag (tag : PlacedTag) (rest : List Piece) :
    canonical (.tag tag :: rest) = (Piece.tag tag).unplaced :: canonical rest :=
  canonical_cons (by simp) rest

theorem canonical_append (a b : List Piece) : canonical (a ++ b) = canonical a ++ canonical b := by
  simp [canonical]

theorem unplaced_of_not_closing {tag : PlacedTag} (other : tag.kind ≠ .closing) :
    (Piece.tag tag).unplaced = .tag tag := by
  simp [unplaced, other]

theorem unplaced_of_closing {tag : PlacedTag} (closes : tag.kind = .closing) :
    (Piece.tag tag).unplaced = .tag tag.ending := by
  simp [unplaced, closes]

/-- A row that starts with empty XML has the edges of the rest. -/
theorem WellNested.empty {levels : Nat} {rest : List Piece} {edges : List Edge}
    (nested : WellNested levels rest edges) : WellNested levels (.verbatim [] :: rest) edges := by
  have whole : WellNested levels (.verbatim [] :: rest) (Edge.scan [] ++ edges) := .verbatim nested
  have scanned : Edge.scan [] = [] := by simp [Edge.scan, Item.scan, Item.scan.go]
  rwa [scanned, List.nil_append] at whole

/-- What a sound tree spells holds nothing that no tree keeps. -/
theorem canonical_flattenAll (nodes : List Node) {levels : Nat} (sound : SoundAll levels nodes) :
    canonical (flattenAll nodes) = flattenAll nodes := by
  induction nodes using Node.row_induction generalizing levels with
  | nil => rfl
  | verbatim xml rest ih =>
    obtain ⟨filled, sound⟩ := soundAll_cons.mp sound
    rw [flattenAll_verbatim, canonical_cons (by simpa using sound_verbatim.mp filled), ih sound]
    rfl
  | value tag rest ih =>
    obtain ⟨kind, sound⟩ := soundAll_cons.mp sound
    rw [flattenAll_value, canonical_tag,
      unplaced_of_not_closing (by simp [sound_value.mp kind]), ih sound]
  | block tag body rest ihBody ih =>
    obtain ⟨blockSound, sound⟩ := soundAll_cons.mp sound
    obtain ⟨below, rfl, opens, bodySound, _⟩ := sound_block.mp blockSound
    rw [flattenAll_block, canonical_tag, canonical_append, canonical_tag,
      unplaced_of_not_closing (TagKind.ne_closing_of_opens opens), ihBody bodySound, ih sound,
      unplaced_of_closing (show tag.ending.kind = .closing from rfl)]
    rfl

/-- A well-nested row is spelled by a sound tree with the same XML outside its sections. -/
theorem WellNested.exists_tree {levels : Nat} {pieces : List Piece} {edges : List Edge}
    (nested : WellNested levels pieces edges) :
    ∃ nodes, SoundAll levels nodes ∧ canonical pieces = flattenAll nodes ∧
      ownEdges nodes = edges := by
  induction nested with
  | nil => exact ⟨[], soundAll_nil _, rfl, rfl⟩
  | @verbatim levels xml rest edges _ ih =>
    obtain ⟨nodes, sound, spells, own⟩ := ih
    by_cases empty : xml = []
    · subst empty
      refine ⟨nodes, sound, by simpa using spells, ?_⟩
      simp [own, Edge.scan, Item.scan, Item.scan.go]
    · refine ⟨.verbatim xml :: nodes, ⟨sound_verbatim.mpr empty, sound⟩, ?_, ?_⟩
      · rw [canonical_cons (by simpa using empty), spells]
        rfl
      · rw [ownEdges_verbatim, own]
  | @value levels tag rest edges kind _ ih =>
    obtain ⟨nodes, sound, spells, own⟩ := ih
    refine ⟨.value tag :: nodes, ⟨sound_value.mpr kind, sound⟩, ?_, own⟩
    rw [canonical_tag, unplaced_of_not_closing (by simp [kind]), spells]
    rfl
  | @block levels opening closing body inner rest edges opens closes name _ repeats _ ihBody ih =>
    obtain ⟨bodyNodes, bodySound, bodySpells, rfl⟩ := ihBody
    obtain ⟨nodes, sound, spells, own⟩ := ih
    refine ⟨.block opening bodyNodes :: nodes, ⟨⟨opens, bodySound, repeats⟩, sound⟩, ?_, own⟩
    have ending : closing.ending = opening.ending := by simp [PlacedTag.ending, name]
    rw [canonical_tag, unplaced_of_not_closing (TagKind.ne_closing_of_opens opens),
      canonical_append, canonical_tag, unplaced_of_closing closes, bodySpells, spells, ending,
      flattenAll_block]

/-- Rows that count for the same are well nested together. -/
theorem WellNested.of_canonical_eq_nil {levels : Nat} {before rest : List Piece} {edges : List Edge}
    (nothing : canonical before = []) (nested : WellNested levels rest edges) :
    WellNested levels (before ++ rest) edges := by
  induction before with
  | nil => exact nested
  | cons piece before ih =>
    by_cases empty : piece = .verbatim []
    · subst empty
      rw [canonical_empty] at nothing
      exact (ih nothing).empty
    · rw [canonical_cons empty] at nothing
      simp at nothing

/-- A canonical row that starts with some piece comes from one that starts, behind empty XML, with
a piece that counts for it. -/
theorem canonical_eq_cons {pieces rest : List Piece} {head : Piece}
    (spells : canonical pieces = head :: rest) :
    ∃ before piece after, pieces = before ++ piece :: after ∧ canonical before = [] ∧
      piece ≠ .verbatim [] ∧ piece.unplaced = head ∧ canonical after = rest := by
  induction pieces with
  | nil => simp at spells
  | cons piece pieces ih =>
    by_cases empty : piece = .verbatim []
    · subst empty
      rw [canonical_empty] at spells
      obtain ⟨before, found, after, rfl, nothing, counts, same, tail⟩ := ih spells
      exact ⟨.verbatim [] :: before, found, after, rfl, by simpa using nothing, counts, same, tail⟩
    · rw [canonical_cons empty] at spells
      obtain ⟨same, tail⟩ := List.cons.inj spells
      exact ⟨[], piece, pieces, rfl, rfl, empty, same, tail⟩

/-- A canonical row may be cut anywhere. -/
theorem canonical_eq_append {pieces a b : List Piece} (spells : canonical pieces = a ++ b) :
    ∃ front back, pieces = front ++ back ∧ canonical front = a ∧ canonical back = b := by
  obtain ⟨front, back, split, rfl, rfl⟩ := List.map_eq_append_iff.mp spells
  obtain ⟨start, tail, rfl, rfl, rfl⟩ := List.filter_eq_append_iff.mp split
  exact ⟨start, tail, rfl, rfl, rfl⟩

/-- Only the tag itself counts for a tag that closes nothing. -/
theorem eq_of_unplaced_eq_tag {piece : Piece} {tag : PlacedTag} (other : tag.kind ≠ .closing)
    (same : piece.unplaced = .tag tag) : piece = .tag tag := by
  cases piece with
  | verbatim xml => simp [unplaced] at same
  | tag found =>
    by_cases closes : found.kind = .closing
    · rw [unplaced_of_closing closes] at same
      cases same
      exact absurd rfl other
    · rwa [unplaced_of_not_closing closes] at same

/-- What counts for the ending of a section is a closing tag of its name. -/
theorem exists_closing_of_unplaced_eq_ending {piece : Piece} {tag : PlacedTag}
    (same : piece.unplaced = .tag tag.ending) :
    ∃ closing, piece = .tag closing ∧ closing.kind = .closing ∧ closing.name = tag.name := by
  cases piece with
  | verbatim xml => simp [unplaced] at same
  | tag found =>
    by_cases closes : found.kind = .closing
    · rw [unplaced_of_closing closes] at same
      have names := congrArg (fun piece => piece.tag?.map (·.name)) same
      exact ⟨found, rfl, closes, by simpa [Piece.tag?, PlacedTag.ending] using names⟩
    · rw [unplaced_of_not_closing closes] at same
      cases same
      exact absurd rfl closes

/-- A row that a sound tree spells is well nested. -/
theorem wellNested_of_tree (nodes : List Node) {levels : Nat} {pieces : List Piece}
    (sound : SoundAll levels nodes) (spells : canonical pieces = flattenAll nodes) :
    WellNested levels pieces (ownEdges nodes) := by
  induction nodes using Node.row_induction generalizing levels pieces with
  | nil => simpa using WellNested.of_canonical_eq_nil spells .nil
  | verbatim xml rest ih =>
    obtain ⟨filled, sound⟩ := soundAll_cons.mp sound
    obtain ⟨before, piece, after, rfl, nothing, _, same, tail⟩ := canonical_eq_cons spells
    have found : piece = .verbatim xml := by
      cases piece with
      | verbatim other => exact same
      | tag tag => simp only [unplaced] at same; split at same <;> cases same
    subst found
    exact (WellNested.verbatim (ih sound tail)).of_canonical_eq_nil nothing
  | value tag rest ih =>
    obtain ⟨kind, sound⟩ := soundAll_cons.mp sound
    obtain ⟨before, piece, after, rfl, nothing, _, same, tail⟩ := canonical_eq_cons spells
    have value := sound_value.mp kind
    cases eq_of_unplaced_eq_tag (by simp [value]) same
    exact (WellNested.value value (ih sound tail)).of_canonical_eq_nil nothing
  | block tag body rest ihBody ih =>
    obtain ⟨blockSound, sound⟩ := soundAll_cons.mp sound
    obtain ⟨below, rfl, opens, bodySound, repeats⟩ := sound_block.mp blockSound
    rw [flattenAll_block] at spells
    obtain ⟨before, piece, after, rfl, nothing, _, same, tail⟩ := canonical_eq_cons spells
    cases eq_of_unplaced_eq_tag (TagKind.ne_closing_of_opens opens) same
    obtain ⟨inside, outside, rfl, bodySpells, tail⟩ := canonical_eq_append tail
    obtain ⟨gap, piece, after, rfl, empty, _, same, restSpells⟩ := canonical_eq_cons tail
    obtain ⟨closing, rfl, closes, name⟩ := exists_closing_of_unplaced_eq_ending same
    have insideSpells : canonical (inside ++ gap) = flattenAll body := by
      rw [canonical_append, bodySpells, empty, List.append_nil]
    have filled := ihBody bodySound insideSpells
    have nested := WellNested.block opens closes name filled repeats (ih sound restSpells)
    rw [List.append_assoc] at nested
    exact nested.of_canonical_eq_nil nothing

end Piece

end WordMerge
