import WordMerge.Proofs.Render.Failures
import WordMerge.Proofs.Template.Recovery

namespace WordMerge

/-- A part from its XML and from what is wrong with it. -/
def outcome (xml : Text) (faults : List TagFault) : Except (List TagFault) Text :=
  if faults.isEmpty then .ok (Cell.repair xml) else .error faults

namespace Draft

/-- What is written behind something else. -/
def after (base draft : Draft) : Draft :=
  ⟨draft.pieces ++ base.pieces, draft.faults ++ base.faults⟩

theorem after_start (draft : Draft) : draft.after {} = draft := rfl

theorem xml_after (base draft : Draft) : (base.after draft).xml = base.xml ++ draft.xml := by
  simp [xml, after]

end Draft

namespace Node

/-- Evaluation goes on behind what is written already. -/
theorem renderAll_after (linebreaks : Bool) (nodes : List Node) (scopes : List Value)
    (base draft : Draft) : renderAll linebreaks scopes (base.after draft) nodes =
      base.after (renderAll linebreaks scopes draft nodes) := by
  induction nodes using Node.row_induction generalizing scopes draft with
  | nil => rfl
  | verbatim xml rest ih => exact ih scopes (draft.write xml)
  | value tag rest ih =>
    rw [renderAll_value, renderAll_value, ← ih]
    cases tag.valueXml linebreaks scopes with
    | ok xml => rfl
    | error fault => rfl
  | block tag body rest ihBody ih =>
    rw [renderAll_block, renderAll_block, ← ih]
    cases tag.sectionScopes scopes with
    | error fault => rfl
    | ok turns =>
      congr 1
      dsimp only
      induction turns generalizing draft with
      | nil => rfl
      | cons inner turns turned => rw [List.foldl_cons, List.foldl_cons, ihBody, turned]

/-- The XML that nodes leave with every item of a list, one after the other. -/
def eachXml (linebreaks : Bool) (scopes items : List Value) (body : List Node) : Text :=
  items.flatMap fun item => (renderAll linebreaks (item :: scopes) {} body).xml

/-- What is wrong with nodes with every item of a list, one after the other. -/
def eachFaults (linebreaks : Bool) (scopes items : List Value) (body : List Node) :
    List TagFault :=
  items.flatMap fun item => (renderAll linebreaks (item :: scopes) {} body).faults.reverse

/-- A section over a list is its body with every item as the current one. -/
theorem renderAll_over_list {tag : PlacedTag} (kind : tag.kind = .opening) {scopes : List Value}
    {items : List Value} (found : Scope.lookup? scopes tag.name = some (.list items))
    (linebreaks : Bool) (body : List Node) :
    (renderAll linebreaks scopes {} [.block tag body]).xml =
        eachXml linebreaks scopes items body ∧
      (renderAll linebreaks scopes {} [.block tag body]).faults.reverse =
        eachFaults linebreaks scopes items body := by
  have turns : tag.sectionScopes scopes = .ok (items.map (· :: scopes)) := by
    simp [PlacedTag.sectionScopes, kind, found]
  have turned (draft : Draft) :
      ((items.map (· :: scopes)).foldl (fun draft inner =>
          renderAll linebreaks inner draft body) draft).xml =
        draft.xml ++ eachXml linebreaks scopes items body ∧
      ((items.map (· :: scopes)).foldl (fun draft inner =>
          renderAll linebreaks inner draft body) draft).faults.reverse =
        draft.faults.reverse ++ eachFaults linebreaks scopes items body := by
    clear turns found
    induction items generalizing draft with
    | nil => simp [eachXml, eachFaults]
    | cons item items ih =>
      have first := renderAll_after linebreaks body (item :: scopes) draft {}
      rw [Draft.after_start] at first
      rw [List.map_cons, List.foldl_cons, first]
      obtain ⟨xml, faults⟩ := ih (draft.after (renderAll linebreaks (item :: scopes) {} body))
      constructor
      · rw [xml, Draft.xml_after, List.append_assoc]
        rfl
      · rw [faults, Draft.after, List.reverse_append, List.append_assoc]
        rfl
  rw [renderAll_block, turns, renderAll_nil]
  exact turned {}

/-- A sound tree has no more levels than it is sound for. -/
theorem depthAll_le_of_soundAll (nodes : List Node) {levels : Nat} (sound : SoundAll levels nodes) :
    depthAll nodes ≤ levels := by
  induction nodes using Node.row_induction generalizing levels with
  | nil => exact Nat.zero_le _
  | verbatim xml rest ih => exact Nat.max_le.mpr ⟨Nat.zero_le _, ih sound.2⟩
  | value tag rest ih => exact Nat.max_le.mpr ⟨Nat.zero_le _, ih (soundAll_cons.mp sound).2⟩
  | block tag body rest ihBody ih =>
    obtain ⟨block, sound⟩ := soundAll_cons.mp sound
    obtain ⟨below, rfl, _, bodySound, _⟩ := sound_block.mp block
    exact Nat.max_le.mpr ⟨Nat.succ_le_succ (ihBody bodySound), ih sound⟩

/-- A sound tree needs no more levels than it is deep. -/
theorem soundAll_of_depthAll_le (nodes : List Node) {levels bound : Nat}
    (sound : SoundAll levels nodes) (small : depthAll nodes ≤ bound) : SoundAll bound nodes := by
  induction nodes using Node.row_induction generalizing levels bound with
  | nil => trivial
  | verbatim xml rest ih =>
    obtain ⟨filled, sound⟩ := soundAll_cons.mp sound
    exact ⟨sound_verbatim.mpr (sound_verbatim.mp filled), ih sound (Nat.max_le.mp small).2⟩
  | value tag rest ih =>
    obtain ⟨kind, sound⟩ := soundAll_cons.mp sound
    exact ⟨sound_value.mpr (sound_value.mp kind), ih sound (Nat.max_le.mp small).2⟩
  | block tag body rest ihBody ih =>
    obtain ⟨block, sound⟩ := soundAll_cons.mp sound
    obtain ⟨below, rfl, opens, bodySound, repeats⟩ := sound_block.mp block
    obtain ⟨inner, later⟩ := Nat.max_le.mp small
    refine ⟨sound_block.mpr ⟨bound - 1, ?_, opens, ihBody bodySound ?_, repeats⟩, ih sound later⟩
    · rw [depth] at inner
      omega
    · rw [depth] at inner
      omega

end Node

/-- A section around pieces whose elements come out even is a tree without faults if the pieces
themselves are one, and leave room for one more level. -/
theorem Nesting.ofPieces_over_whole {pieces : List Piece} {nodes : List Node}
    {opening closing : PlacedTag} (opens : opening.kind.opens = true)
    (closes : closing.kind = .closing) (name : closing.name = opening.name)
    (sound : Node.SoundAll (depthLimit - 1) nodes)
    (spells : Piece.canonical pieces = Node.flattenAll nodes)
    (even : Piece.passAll [] pieces = some []) :
    (ofPieces (.tag opening :: (pieces ++ [.tag closing]))).nodes = [.block opening nodes] ∧
      (ofPieces (.tag opening :: (pieces ++ [.tag closing]))).allFaults = [] := by
  rw [← Piece.passAll_canonical, spells] at even
  have repeats : Edge.Repeats (Node.ownEdges nodes) := ⟨[], Node.passAll_ownEdges nodes sound even⟩
  have whole : Node.SoundAll depthLimit [.block opening nodes] :=
    ⟨Node.sound_block.mpr ⟨depthLimit - 1, rfl, opens, sound, repeats⟩, trivial⟩
  refine ofPieces_of_canonical whole ?_
  have ending : closing.ending = opening.ending := by simp [PlacedTag.ending, name]
  rw [Piece.canonical_tag, Piece.unplaced_of_not_closing (TagKind.ne_closing_of_opens opens),
    Piece.canonical_append, spells, Piece.canonical_tag, Piece.unplaced_of_closing closes, ending]
  simp

/-- A part that comes to one section over a list is evaluated as its body with every item, one
after the other. -/
theorem Layout.renderAll_over_whole {layout : Layout} {data : Value} {options : RenderOptions}
    {pieces : List Piece} {nodes : List Node} {opening closing : PlacedTag} {items : List Value}
    (widened : layout.widened options = .tag opening :: (pieces ++ [.tag closing]))
    (kind : opening.kind = .opening) (closes : closing.kind = .closing)
    (name : closing.name = opening.name)
    (sound : Node.SoundAll (Nesting.depthLimit - 1) nodes)
    (spells : Piece.canonical pieces = Node.flattenAll nodes)
    (even : Piece.passAll [] pieces = some [])
    (found : Scope.lookup? [data] opening.name = some (.list items)) :
    let draft := Node.renderAll options.linebreaks [data] {} (layout.nesting options).nodes
    (layout.nesting options).allFaults = [] ∧
      draft.xml = Node.eachXml options.linebreaks [data] items nodes ∧
      draft.faults.reverse = Node.eachFaults options.linebreaks [data] items nodes := by
  obtain ⟨tree, clean⟩ := Nesting.ofPieces_over_whole (by rw [kind]; rfl) closes name sound spells
    even
  rw [← widened] at tree clean
  refine ⟨clean, ?_⟩
  rw [nesting, tree]
  exact Node.renderAll_over_list kind found options.linebreaks nodes

/-- Rendering goes by what is evaluated. -/
theorem renderPart_eq_outcome (source : Text) (data : Value) (options : RenderOptions) :
    renderPart source data options = outcome
      (Node.renderAll options.linebreaks [data] {}
        ((Layout.ofPart source).nesting options).nodes).xml
      ((Layout.ofPart source).faults ++ ((Layout.ofPart source).nesting options).allFaults ++
        (Node.renderAll options.linebreaks [data] {}
          ((Layout.ofPart source).nesting options).nodes).faults.reverse) := rfl

end WordMerge
