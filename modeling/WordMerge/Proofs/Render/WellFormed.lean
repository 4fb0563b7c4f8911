import WordMerge.Proofs.Markup.CellRepair
import WordMerge.Proofs.Render.Structure
import WordMerge.Render.Part

namespace WordMerge

/-- A part that is rendered is read and nested without faults, and is the repair of what its tree
writes. -/
theorem exists_of_renderPart {source out : Text} {data : Value} {options : RenderOptions}
    (rendered : renderPart source data options = .ok out) :
    let nesting := (Layout.ofPart source).nesting options
    (Layout.ofPart source).faults = [] ∧ nesting.allFaults = [] ∧
      (Node.renderAll options.linebreaks [data] {} nesting.nodes).faults = [] ∧
      out = Cell.repair (Node.renderAll options.linebreaks [data] {} nesting.nodes).xml := by
  unfold renderPart at rendered
  dsimp only at rendered
  split at rendered
  · next clean =>
    rw [List.isEmpty_iff, List.append_eq_nil_iff, List.append_eq_nil_iff,
      List.reverse_eq_nil_iff] at clean
    exact ⟨clean.1.1, clean.1.2, clean.2, (Except.ok.inj rendered).symm⟩
  · cases rendered

namespace Piece

theorem pass_empty (opened : List Text) : pass opened (.verbatim []) = some opened := by
  rw [pass, Edge.scan_of_plain (by simp), Edge.walk_nil]

/-- The place of a closing tag does not matter to the elements. -/
theorem pass_unplaced (opened : List Text) (piece : Piece) :
    pass opened piece.unplaced = pass opened piece := by
  cases piece with
  | verbatim xml => rfl
  | tag tag =>
    by_cases closes : tag.kind = .closing
    · rw [unplaced_of_closing closes, pass_ending, pass_section (by simp [closes])]
    · rw [unplaced_of_not_closing closes]

/-- What no tree keeps does not matter to the elements. -/
theorem passAll_canonical (opened : List Text) (pieces : List Piece) :
    passAll opened (canonical pieces) = passAll opened pieces := by
  induction pieces generalizing opened with
  | nil => rfl
  | cons piece rest ih =>
    by_cases empty : piece = .verbatim []
    · subst empty
      rw [canonical_empty, ih, passAll_cons, pass_empty, Option.bind_some]
    · rw [canonical_cons empty, passAll_cons, passAll_cons, pass_unplaced]
      congr 1
      funext after
      exact ih after

theorem eq_of_unplaced_eq_verbatim {piece : Piece} {xml : Text}
    (same : piece.unplaced = .verbatim xml) : piece = .verbatim xml := by
  cases piece with
  | verbatim other => exact same
  | tag tag =>
    simp only [unplaced] at same
    split at same <;> cases same

/-- What holds where each piece of XML stands holds there among the pieces that a tree keeps. -/
theorem Meets.canonical {P : List Text → Text → Prop} {opened : List Text} {pieces : List Piece}
    (meets : Meets P opened pieces) : Meets P opened (canonical pieces) := by
  induction pieces generalizing opened with
  | nil => trivial
  | cons piece rest ih =>
    by_cases empty : piece = .verbatim []
    · subst empty
      rw [canonical_empty]
      exact ih (meets.2 opened (pass_empty opened))
    · rw [canonical_cons empty]
      refine ⟨fun xml same => meets.1 xml (eq_of_unplaced_eq_verbatim same), fun after passed => ?_⟩
      rw [pass_unplaced] at passed
      exact ih (meets.2 after passed)

theorem mem_of_verbatim_mem_canonical {pieces : List Piece} {xml : Text}
    (member : .verbatim xml ∈ canonical pieces) : .verbatim xml ∈ pieces := by
  obtain ⟨piece, kept, same⟩ := List.mem_map.mp member
  rw [← eq_of_unplaced_eq_verbatim same]
  exact (List.mem_filter.mp kept).1

end Piece

/-- The tree of a part without faults: it passes through all elements of the part, and its XML is
XML of the pieces, with the elements around it that were open there. -/
structure Layout.PassingTree (layout : Layout) (nodes : List Node) : Prop where
  passes : Node.Passes (Piece.Stands layout.pieces) [] nodes []
  verbatim : ∀ xml, .verbatim xml ∈ Node.flattenAll nodes → .verbatim xml ∈ layout.pieces

/-- The tree of a part whose pieces are in place passes through its elements. -/
theorem Layout.InPlace.passingTree {Q : Text → Prop} {layout : Layout} (placed : layout.InPlace Q)
    {options : RenderOptions} (clean : (layout.nesting options).allFaults = []) :
    layout.PassingTree (layout.nesting options).nodes := by
  obtain ⟨sound, spells⟩ := Nesting.faithful_of_faultless clean
  refine ⟨Node.passes_of_sound (layout.nesting options).nodes sound ?_ ?_, fun xml member => ?_⟩
  · rw [nesting, spells, Piece.passAll_canonical, placed.passAll_widened]
  · rw [nesting, spells]
    exact (placed.meets_widened options).canonical
  · rw [nesting, spells] at member
    obtain ⟨place, _, found⟩ := List.mem_filterMap.mp (Piece.mem_of_verbatim_mem_canonical member)
    exact Array.mem_of_getElem? found

theorem Layout.InPlace.whole {Q : Text → Prop} {layout : Layout} (placed : layout.InPlace Q)
    {xml : Text} (member : .verbatim xml ∈ layout.pieces) : Text.Whole xml := by
  obtain ⟨place, found⟩ := Array.mem_iff_getElem?.mp member
  rcases placed.laid.verbatim place xml found with cut | ⟨plain, _⟩
  · exact cut.whole
  · exact Text.whole_of_plain plain

theorem Draft.leaves_start : Draft.Leaves {} [] :=
  ⟨Text.whole_of_plain (by simp [Draft.xml]), by
    rw [Draft.xml, List.reverse_nil, List.flatten_nil, Edge.scan_of_plain (by simp), Edge.walk_nil]⟩

/-- Rendering keeps a part well formed: whatever the data and the choices of the caller, every
element that is opened in the result is closed again, as in the source. -/
theorem wellFormed_of_renderPart {source out : Text} {data : Value} {options : RenderOptions}
    (formed : WellFormed source) (textOnly : TextOnly source)
    (rendered : renderPart source data options = .ok out) : WellFormed out := by
  obtain ⟨_, clean, _, rfl⟩ := exists_of_renderPart rendered
  have divides : Text.Divides fun _ => True := ⟨trivial, fun _ _ _ => trivial, fun _ _ _ => trivial⟩
  have placed := Layout.inPlace_of_part divides formed textOnly fun _ _ => trivial
  obtain ⟨passes, verbatim⟩ := placed.passingTree clean
  have leaves := Node.renderAll_leaves passes
    (fun xml member => placed.whole (verbatim xml member)) options.linebreaks [data]
    Draft.leaves_start
  exact WellFormed.repair ⟨leaves.whole, Edge.passAll_of_walk leaves.walked⟩

/-- A cell with a paragraph for each item, between the paragraphs of the section tags. -/
def itemCell : Text :=
  ("<w:tc><w:p><w:t>{#i}</w:t></w:p><w:p><w:t>{a}&amp;</w:t></w:p>" ++
    "<w:p><w:t>{/i}</w:t></w:p></w:tc>").toList

/-- Two items, one of them with a line feed and a less-than sign in it. -/
def itemData : Value :=
  .object [(['i'], .list [.object [(['a'], .string ['x', '\n', '<'])],
    .object [(['a'], .bool true)]])]

theorem wellFormed_itemCell : WellFormed itemCell ∧ TextOnly itemCell := by
  unfold itemCell TextOnly
  -- spelled out, since a long string literal is slow to evaluate
  rewrite [String.toList_append, String.toList_ofList, String.toList_ofList]
  exact ⟨⟨Text.whole_iff.mpr (by decide +kernel), by decide +kernel⟩, by decide +kernel⟩

theorem exists_renderPart_itemCell : ∃ out, renderPart itemCell itemData {} = .ok out := by
  have found : (SectionPairs.scan {} 0 (Layout.ofPart itemCell).pieces.toList).pairs =
      [(3, 14)] := by
    unfold itemCell
    rewrite [String.toList_append, String.toList_ofList, String.toList_ofList]
    decide +kernel
  have pairs : SectionPairs.ofPieces (Layout.ofPart itemCell).pieces.toList = [(3, 14)] := by
    rw [SectionPairs.ofPieces, found, List.mergeSort_singleton]
  have rendered : (renderPart itemCell itemData {}).isOk = true := by
    unfold renderPart Layout.nesting Layout.widened Layout.plan
    dsimp only
    rw [pairs]
    unfold itemCell
    rewrite [String.toList_append, String.toList_ofList, String.toList_ofList]
    decide +kernel
  cases result : renderPart itemCell itemData {} with
  | ok out => exact ⟨out, rfl⟩
  | error faults =>
    rw [result] at rendered
    cases rendered

theorem wellFormed_of_renderPart_itemCell :
    ∃ out, renderPart itemCell itemData {} = .ok out ∧ WellFormed out := by
  obtain ⟨out, rendered⟩ := exists_renderPart_itemCell
  exact ⟨out, rendered,
    wellFormed_of_renderPart wellFormed_itemCell.1 wellFormed_itemCell.2 rendered⟩

end WordMerge
