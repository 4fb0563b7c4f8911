import WordMerge.Proofs.Render.PlainData
import WordMerge.Proofs.Render.WellFormed

namespace WordMerge

/-- A plan that changes nothing brings out the pieces as they stand. -/
theorem Plan.piecesTo_unchanged (pieces : Array Piece) {place : Nat} (inside : place ≤ pieces.size) :
    (Plan.unchanged pieces.size).piecesTo pieces place = pieces.toList.take place := by
  induction place with
  | zero => rfl
  | succ place ih =>
    have found : (Plan.unchanged pieces.size)[place]? = some {} := by
      rw [unchanged, Array.getElem?_replicate, if_pos (Nat.lt_of_succ_le inside)]
    have stays : placesAt {} place = [place] := rfl
    rw [piecesTo_succ found, ih (by omega), stays, List.take_add_one, List.filterMap_cons,
      Array.getElem?_toList]
    cases pieces[place]? <;> rfl

/-- A part without pairs of section tags stays in its order. -/
theorem Layout.widened_of_no_pairs {layout : Layout}
    (alone : SectionPairs.ofPieces layout.pieces.toList = []) (options : RenderOptions) :
    layout.widened options = layout.pieces.toList := by
  have still : layout.plan options = Plan.unchanged layout.pieces.size := by
    rw [plan, alone, List.foldl_nil]
  rw [layout.widened_eq, still, Plan.piecesTo_unchanged _ (Nat.le_refl _), ← Array.length_toList,
    List.take_length]

namespace Node

theorem flattenAll_verbatim_row (row : List Text) :
    flattenAll (row.map .verbatim) = row.map .verbatim := by
  induction row with
  | nil => rfl
  | cons xml rest ih => rw [List.map_cons, flattenAll_verbatim, ih, List.map_cons]

theorem soundAll_verbatim_row {row : List Text} (filled : ∀ xml ∈ row, xml ≠ []) (levels : Nat) :
    SoundAll levels (row.map .verbatim) := by
  induction row with
  | nil => exact soundAll_nil levels
  | cons xml rest ih =>
    rw [List.forall_mem_cons] at filled
    exact soundAll_cons.mpr ⟨sound_verbatim.mpr filled.1, ih filled.2⟩

/-- XML alone is written as it is. -/
theorem renderAll_verbatim_row (linebreaks : Bool) (scopes : List Value) (row : List Text)
    (draft : Draft) :
    (renderAll linebreaks scopes draft (row.map .verbatim)).xml = draft.xml ++ row.flatten ∧
      (renderAll linebreaks scopes draft (row.map .verbatim)).faults = draft.faults := by
  induction row generalizing draft with
  | nil => simp
  | cons xml rest ih =>
    obtain ⟨written, faults⟩ := ih (draft.write xml)
    rw [List.map_cons, renderAll_verbatim]
    refine ⟨?_, faults⟩
    rw [written, Draft.xml_write, List.flatten_cons, List.append_assoc]

end Node

/-- A part without braces in its text elements has no tags: whatever the data, it is only repaired. -/
theorem renderPart_of_braceFree {source : Text}
    (free : (Item.stream false (Item.scan source)).BraceFree) (data : Value)
    (options : RenderOptions) : renderPart source data options = .ok (Cell.repair source) := by
  obtain ⟨pieces, faults⟩ := Layout.copied_of_braceFree free
  have spelled : ((Item.scan source).map Item.raw).flatten = source := by
    rw [← List.flatMap_def]
    exact Item.spell_scan source
  have filled : ∀ xml ∈ (Item.scan source).map Item.raw, xml ≠ [] :=
    List.forall_mem_map.mpr Item.raw_ne_nil_of_mem_scan
  generalize (Item.scan source).map Item.raw = row at pieces spelled filled
  have alone : SectionPairs.ofPieces (Layout.ofPart source).pieces.toList = [] := by
    rw [pieces, SectionPairs.ofPieces, SectionPairs.scan_verbatim, List.mergeSort_nil]
  have sound := Node.soundAll_verbatim_row filled Nesting.depthLimit
  obtain ⟨nodes, nested⟩ := Nesting.ofPieces_of_canonical sound (Piece.canonical_flattenAll _ sound)
  rw [Node.flattenAll_verbatim_row] at nodes nested
  obtain ⟨written, clean⟩ := Node.renderAll_verbatim_row options.linebreaks [data] row {}
  have started : Draft.xml {} = [] := rfl
  rw [started, List.nil_append, spelled] at written
  unfold renderPart Layout.nesting
  dsimp only
  rw [Layout.widened_of_no_pairs alone, pieces, faults, nested, nodes, clean, written]
  rfl

/-- Empty paragraphs in front of markup stand outside the stream of the text elements. -/
theorem Cell.Mended.stream_eq {items mended : List Item} (mends : Mended items mended)
    (inside : Bool) : Item.stream inside mended = Item.stream inside items := by
  have unmoved (inside : Bool) : Item.insideAfter inside (.markup emptyParagraph) = inside := by
    have role : Landmark.ofMarkup emptyParagraph = .other := by decide +kernel
    rw [Item.insideAfter, role]
  induction mends generalizing inside with
  | nil => rfl
  | copy item _ ih => cases item <;> simp only [Item.stream, ih]
  | fill raw _ ih => simp only [Item.stream, unmoved, ih]

/-- A draft that leaves the given elements open and holds no brace in its text elements. -/
structure Draft.Settles (draft : Draft) (opened : List Text) : Prop where
  leaves : draft.Leaves opened
  free : (Item.stream false (Item.scan draft.xml)).BraceFree

/-- Whether some XML has its ends and holds no brace in text elements, behind the given open
elements. -/
structure Text.Calm (opened : List Text) (xml : Text) : Prop where
  whole : Text.Whole xml
  free : (Item.stream (decide (opened.head? = some textName)) (Item.scan xml)).BraceFree

theorem Text.calm_of_braceFree {xml : Text} (whole : Text.Whole xml) (free : xml.BraceFree)
    (opened : List Text) : Text.Calm opened xml := by
  have within := Item.stream_subset_spell (decide (opened.head? = some textName)) (Item.scan xml)
  rw [Item.spell_scan] at within
  exact ⟨whole, free.of_subset within⟩

/-- Writing such XML leaves no brace in the text elements of a draft. -/
theorem Draft.Settles.write {draft : Draft} {opened after : List Text}
    (settles : draft.Settles opened) {xml : Text} (calm : Text.Calm opened xml)
    (passed : Edge.walk opened (Edge.scan xml) = some after) : (draft.write xml).Settles after := by
  refine ⟨settles.leaves.write calm.whole passed, ?_⟩
  have inside : (Item.scan draft.xml).foldl Item.insideAfter false =
      decide (opened.head? = some textName) :=
    Item.inside_of_walk settles.leaves.walked (by simp [TextInnermost])
  rw [Draft.xml_write, Item.stream_scan_append settles.leaves.whole, inside, Text.braceFree_append]
  exact ⟨settles.free, calm.free⟩

theorem Draft.Settles.report {draft : Draft} {opened : List Text} (settles : draft.Settles opened)
    (fault : TagFault) : (draft.report fault).Settles opened :=
  ⟨settles.leaves.report fault, settles.free⟩

/-- Evaluation of calm XML with data without braces leaves no brace in text elements. -/
theorem Node.renderAll_settles {P : List Text → Text → Prop} {nodes : List Node}
    {opened after : List Text} (passes : Passes P opened nodes after)
    (calm : ∀ opened xml, P opened xml → Text.Calm opened xml) (linebreaks : Bool)
    {scopes : List Value} (free : ∀ scope ∈ scopes, scope.BraceFree) {draft : Draft}
    (settles : draft.Settles opened) :
    (renderAll linebreaks scopes draft nodes).Settles after := by
  refine renderAll_induction passes (fun scopes => ∀ scope ∈ scopes, scope.BraceFree)
    (motive := fun opened draft => draft.Settles opened)
    (fun xml _ _ _ _ stands walked settles => settles.write (calm _ xml stands) walked) ?_
    (fun fault settles => settles.report fault)
    (fun free given => PlacedTag.braceFree_of_sectionScopes free given) free settles
  intro _ _ xml outer draft free written settles
  obtain ⟨text, own, rfl⟩ := PlacedTag.braceFree_of_valueXml free written
  have keeps := Edge.keeps_valueXml linebreaks text settles.leaves.outside
  exact settles.write (Text.calm_of_braceFree keeps.whole (braceFree_valueXml own) _) keeps.walked

/-- The XML of a part without faults is calm where it stands. -/
theorem Layout.InPlace.calm {Q : Text → Prop} {layout : Layout} (placed : layout.InPlace Q)
    (settled : Piece.Settled layout.pieces) (opened : List Text) (xml : Text)
    (stands : Piece.Stands layout.pieces opened xml) : Text.Calm opened xml := by
  obtain ⟨place, found, _⟩ := id stands
  refine ⟨placed.whole (Array.mem_of_getElem? found), ?_⟩
  rcases placed.laid.verbatim place xml found with cut | ⟨plain, _⟩
  · rw [cut.scan_eq]
    exact Text.braceFree_nil
  · by_cases empty : xml = []
    · rw [empty, Item.scan_nil]
      exact Text.braceFree_nil
    · rw [Text.scan_of_plain empty plain, Item.stream, Item.stream, List.append_nil]
      split
      · next inside => exact settled opened xml stands (of_decide_eq_true inside) plain
      · exact Text.braceFree_nil

/-- A rendered part is finished: its text elements hold no brace, its cells need no repair, and
rendering it again with any data changes nothing. -/
theorem renderPart_renderPart {source out : Text} {data : Value} {options : RenderOptions}
    (formed : WellFormed source) (textOnly : TextOnly source) (free : data.BraceFree)
    (rendered : renderPart source data options = .ok out) :
    (Item.stream false (Item.scan out)).BraceFree ∧ Cell.repair out = out ∧
      ∀ (other : Value) (choices : RenderOptions), renderPart out other choices = .ok out := by
  obtain ⟨unfaulty, clean, _, rfl⟩ := exists_of_renderPart rendered
  have placed := Layout.inPlace_of_part Text.divides_true formed textOnly fun _ _ => trivial
  have settled := Layout.settled_of_part formed textOnly unfaulty
  obtain ⟨passes, _⟩ := placed.passingTree clean
  have start : Draft.Settles {} [] := ⟨Draft.leaves_start, by simp [Draft.xml, Item.stream]⟩
  have settles := Node.renderAll_settles passes (placed.calm settled) options.linebreaks
    (List.forall_mem_singleton.mpr free) start
  have mends := Cell.mended_scan_repair (Node.renderAll options.linebreaks [data] {}
    ((Layout.ofPart source).nesting options).nodes).xml
  have finished : (Item.stream false (Item.scan (Cell.repair (Node.renderAll options.linebreaks
      [data] {} ((Layout.ofPart source).nesting options).nodes).xml))).BraceFree := by
    rw [mends.stream_eq]
    exact settles.free
  have repaired := Cell.repair_repair (Node.renderAll options.linebreaks [data] {}
    ((Layout.ofPart source).nesting options).nodes).xml
  refine ⟨finished, repaired, fun other choices => ?_⟩
  rw [renderPart_of_braceFree finished, repaired]

theorem renderPart_renderPart_itemCell :
    ∃ out, renderPart itemCell itemData {} = .ok out ∧
      (Item.stream false (Item.scan out)).BraceFree ∧ Cell.repair out = out ∧
      ∀ (other : Value) (choices : RenderOptions), renderPart out other choices = .ok out := by
  obtain ⟨out, rendered⟩ := exists_renderPart_itemCell
  have free : itemData.BraceFree := by
    have scalar : Value.BraceFree (.bool true) := nofun
    have line : Text.BraceFree ['x', '\n', '<'] := by decide
    simp [itemData, scalar, line]
  exact ⟨out, rendered,
    renderPart_renderPart wellFormed_itemCell.1 wellFormed_itemCell.2 free rendered⟩

end WordMerge
