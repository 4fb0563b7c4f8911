import WordMerge.Proofs.Render.Repetition
import WordMerge.Proofs.Template.Framing
import WordMerge.Proofs.Template.LoneTags

namespace WordMerge

namespace Shift

mutual

/-- A node behind other pieces. -/
def node (shift : Shift) : Node → Node
  | .verbatim xml => .verbatim xml
  | .value placed => .value (shift.tag placed)
  | .block placed body => .block (shift.tag placed) (nodes shift body)

/-- Nodes behind other pieces. -/
def nodes (shift : Shift) : List Node → List Node
  | [] => []
  | first :: rest => node shift first :: nodes shift rest

end

variable (shift : Shift)

theorem nodes_cons (first : Node) (rest : List Node) :
    shift.nodes (first :: rest) = shift.node first :: shift.nodes rest := rfl

/-- Shifted nodes spell the shifted pieces. -/
theorem flattenAll_nodes (nodes : List Node) :
    Node.flattenAll (shift.nodes nodes) = (Node.flattenAll nodes).map shift.piece := by
  induction nodes using Node.row_induction with
  | nil => rfl
  | verbatim xml rest ih =>
    rw [nodes_cons, node, Node.flattenAll_verbatim, ih]
    rfl
  | value placed rest ih =>
    rw [nodes_cons, node, Node.flattenAll_value, ih]
    rfl
  | block placed body rest ihBody ih =>
    rw [nodes_cons, node, Node.flattenAll_block, ihBody, ih, Node.flattenAll_block, List.map_cons,
      List.map_append, List.map_cons]
    rfl

/-- Shifted nodes have the same elements. -/
theorem ownEdges_nodes (nodes : List Node) :
    Node.ownEdges (shift.nodes nodes) = Node.ownEdges nodes := by
  induction nodes with
  | nil => rfl
  | cons first rest ih =>
    rw [nodes_cons]
    cases first with
    | verbatim xml => rw [node, Node.ownEdges_verbatim, ih, Node.ownEdges_verbatim]
    | value placed => rw [node, Node.ownEdges_value, ih, Node.ownEdges_value]
    | block placed body => rw [node, Node.ownEdges_block, ih, Node.ownEdges_block]

/-- Shifted nodes are sound if the nodes are. -/
theorem soundAll_nodes (nodes : List Node) {levels : Nat} (sound : Node.SoundAll levels nodes) :
    Node.SoundAll levels (shift.nodes nodes) := by
  induction nodes using Node.row_induction generalizing levels with
  | nil => trivial
  | verbatim xml rest ih =>
    obtain ⟨filled, sound⟩ := Node.soundAll_cons.mp sound
    exact ⟨Node.sound_verbatim.mpr (Node.sound_verbatim.mp filled), ih sound⟩
  | value placed rest ih =>
    obtain ⟨value, sound⟩ := Node.soundAll_cons.mp sound
    have kind : placed.kind = .value := Node.sound_value.mp value
    exact ⟨Node.sound_value.mpr kind, ih sound⟩
  | block placed body rest ihBody ih =>
    obtain ⟨block, sound⟩ := Node.soundAll_cons.mp sound
    obtain ⟨below, enough, opens, bodySound, repeats⟩ := Node.sound_block.mp block
    refine ⟨Node.sound_block.mpr ⟨below, enough, opens, ihBody bodySound, ?_⟩, ih sound⟩
    rwa [ownEdges_nodes]

/-- Where a template stands does not matter to what it gives. -/
theorem renderAll_nodes (nodes : List Node) (linebreaks : Bool) (scopes : List Value)
    (draft : Draft) : Node.renderAll linebreaks scopes draft (shift.nodes nodes) =
      Node.renderAll linebreaks scopes draft nodes := by
  induction nodes using Node.row_induction generalizing scopes draft with
  | nil => rfl
  | verbatim xml rest ih => exact ih scopes (draft.write xml)
  | value placed rest ih =>
    have same : (shift.tag placed).toTag = placed.toTag := rfl
    rw [nodes_cons, node, Node.renderAll_value, Node.renderAll_value, ih,
      PlacedTag.valueXml_congr same]
  | block placed body rest ihBody ih =>
    have same : (shift.tag placed).toTag = placed.toTag := rfl
    rw [nodes_cons, node, Node.renderAll_block, Node.renderAll_block, ih,
      PlacedTag.sectionScopes_congr same]
    simp only [ihBody]

theorem eachXml_nodes (linebreaks : Bool) (scopes items : List Value) (nodes : List Node) :
    Node.eachXml linebreaks scopes items (shift.nodes nodes) =
      Node.eachXml linebreaks scopes items nodes := by
  unfold Node.eachXml
  simp only [renderAll_nodes]

theorem eachFaults_nodes (linebreaks : Bool) (scopes items : List Value) (nodes : List Node) :
    Node.eachFaults linebreaks scopes items (shift.nodes nodes) =
      Node.eachFaults linebreaks scopes items nodes := by
  unfold Node.eachFaults
  simp only [renderAll_nodes]

theorem map_verbatim (row : List Text) :
    (row.map Piece.verbatim).map shift.piece = row.map .verbatim := by
  rw [List.map_map]
  rfl

theorem unplaced_piece (piece : Piece) :
    (shift.piece piece).unplaced = shift.piece piece.unplaced := by
  cases piece with
  | verbatim xml => rfl
  | tag placed =>
    have kind : (shift.tag placed).kind = placed.kind := rfl
    rw [Shift.piece, Piece.unplaced, kind, Piece.unplaced]
    split <;> rfl

theorem canonical_pieces (pieces : List Piece) :
    Piece.canonical (pieces.map shift.piece) = (Piece.canonical pieces).map shift.piece := by
  have filled (piece : Piece) : shift.piece piece ≠ .verbatim [] ↔ piece ≠ .verbatim [] := by
    cases piece with
    | verbatim xml => rfl
    | tag placed => exact ⟨fun _ => nofun, fun _ => nofun⟩
  rw [Piece.canonical, Piece.canonical, List.filter_map, List.map_map, List.map_map]
  have kept : (fun piece => decide (piece ≠ .verbatim [])) ∘ shift.piece =
      fun piece : Piece => decide (piece ≠ .verbatim []) := by
    funext piece
    exact decide_eq_decide.mpr (filled piece)
  rw [kept]
  exact List.map_congr_left fun piece _ => shift.unplaced_piece piece

/-- Shifted pieces pass through the same elements. -/
theorem passAll_pieces (opened : List Text) (pieces : List Piece) :
    Piece.passAll opened (pieces.map shift.piece) = Piece.passAll opened pieces := by
  induction pieces generalizing opened with
  | nil => rfl
  | cons piece rest ih =>
    have same : Piece.pass opened (shift.piece piece) = Piece.pass opened piece := by
      cases piece <;> rfl
    rw [List.map_cons, Piece.passAll_cons, Piece.passAll_cons, same]
    exact congrArg _ (funext fun next => ih next)

end Shift

/-- Two paragraphs with the tags of a section, and between them a part that is a template by
itself. Its section tags are nested as they are written. -/
structure ParagraphLoop (front body back name : Text) (options : RenderOptions) : Prop where
  front : LoneTag front ⟨.opening, name⟩
  back : LoneTag back ⟨.closing, name⟩
  formed : WellFormed body
  textOnly : TextOnly body
  read : (Layout.ofPart body).faults = []
  clean : ((Layout.ofPart body).nesting options).allFaults = []
  shallow : Node.depthAll ((Layout.ofPart body).nesting options).nodes < Nesting.depthLimit
  nested : Piece.Paired (fun _ _ => True) (Layout.ofPart body).pieces.toList

namespace Layout

theorem getElem?_between {α β : Type} (front : Array β) (inner : Array α) (back : Array β)
    (f : α → β) {place : Nat} (inside : place < inner.size) :
    (front ++ inner.map f ++ back)[front.size + place]? = inner[place]?.map f := by
  rw [Array.getElem?_append_left (by simp; omega), Array.getElem?_append_right (by omega),
    Nat.add_sub_cancel_left, Array.getElem?_map]

/-- A part stays what it is between two others. -/
theorem holds_between (first last : Reading) (body : Text) {inner : Reading}
    (read : ofPart body = inner.layout) :
    Holds first.counts ((first.after inner).after last).layout (ofPart body) := by
  refine ⟨fun place inside => ?_, fun place tag found number own => ?_,
    fun place tag found number own => ?_⟩
  · rw [read] at inside ⊢
    exact getElem?_between first.pieces inner.pieces _ _ inside
  · obtain ⟨span, there, -⟩ := ((noted_ofPart body).tags place tag found).2 number own
    obtain ⟨inside, -⟩ := Array.getElem?_eq_some_iff.mp there
    rw [read] at inside ⊢
    exact getElem?_between first.paragraphs inner.paragraphs _ _ inside
  · have inside := row_lt_size found own
    rw [read] at inside ⊢
    exact getElem?_between first.rows inner.rows _ _ inside

end Layout

namespace ParagraphLoop

variable {front body back name : Text} {options : RenderOptions}

/-- The paragraphs and the part between them are read one behind the other. -/
theorem read_eq (loop : ParagraphLoop front body back name options) :
    ∃ inner : Reading, Layout.ofPart body = inner.layout ∧ inner.faults = [] ∧
      Layout.ofPart (front ++ (body ++ back)) =
        ((((Item.scan front).foldl Reading.step {}).after inner).after
          ((Item.scan back).foldl Reading.step {})).layout := by
  have first := loop.front.read
  have last := loop.back.read
  have clean : ((Item.scan body).foldl Reading.step {}).abandon.faults = [] :=
    List.reverse_eq_nil_iff.mp loop.read
  have free := Reading.pending_eq_none_of_abandon clean
  have resting := Reading.resting_scan loop.formed loop.textOnly free
  have same := Reading.abandon_of_pending free
  refine ⟨(Item.scan body).foldl Reading.step {}, ?_, same ▸ clean, ?_⟩
  · rw [Layout.ofPart, same]
  · have idle : ((((Item.scan front).foldl Reading.step {}).after
        ((Item.scan body).foldl Reading.step {})).after
          ((Item.scan back).foldl Reading.step {})).pending = none := by
      rw [Reading.after, last.resting.tag]
      rfl
    rw [Layout.ofPart, loop.front.scan_around loop.back loop.formed.whole, List.foldl_append,
      List.foldl_append, first.resting.foldl_step (Item.scan body),
      resting.after.foldl_step (Item.scan back), Reading.abandon_of_pending idle]

end ParagraphLoop

namespace Reading

/-- The pieces of a reading behind those of another one. -/
theorem toList_after (base r : Reading) : (base.after r).pieces.toList =
    base.pieces.toList ++ r.pieces.toList.map base.counts.piece := by
  rw [after, Array.toList_append, Array.toList_map]

variable {tag : Tag} {r : Reading}

theorem Lone.span (lone : Lone tag r) {spans : Array Span} (there : spans[0]? = r.paragraphs[0]?) :
    ClosedSpan.ofSpans? spans (some 0) = some ⟨0, r.pieces.size - 1, true⟩ := by
  rw [ClosedSpan.ofSpans?_eq_some]
  exact ⟨0, ⟨0, some (r.pieces.size - 1), 1, false⟩, rfl, by rw [there, lone.paragraphs]; rfl, rfl,
    rfl, rfl⟩

/-- Behind others the paragraph begins where they end. -/
theorem Lone.span_after (lone : Lone tag r) (base : Reading) :
    ClosedSpan.ofSpans? (base.after r).paragraphs (some (base.paragraphs.size + 0)) =
      some ⟨base.pieces.size, (base.after r).pieces.size - 1, true⟩ := by
  have there (number : Nat) (_ : some 0 = some number) : (base.after r).paragraphs[
      base.paragraphs.size + number]? = r.paragraphs[number]?.map base.counts.span := by
    rw [after, Array.getElem?_append_right (Nat.le_add_right _ _), Nat.add_sub_cancel_left,
      Array.getElem?_map]
  have filled : 0 < r.pieces.size := by
    obtain ⟨placed, ahead, behind, row, -⟩ := lone.pieces
    rw [← Array.length_toList, row, List.length_append, List.length_cons]
    omega
  have size : (base.after r).pieces.size = base.pieces.size + r.pieces.size := by simp [after]
  have found := base.counts.ofSpans?_closed there
  rw [lone.span rfl] at found
  refine found.trans (congrArg some ?_)
  rw [Shift.closed, size, Nat.add_sub_assoc filled]
  rfl

/-- What follows a paragraph leaves its span as it is. -/
theorem Lone.span_before (lone : Lone tag r) (inner last : Reading) :
    ClosedSpan.ofSpans? ((r.after inner).after last).paragraphs (some 0) =
      some ⟨0, r.pieces.size - 1, true⟩ := by
  have one : 0 < r.paragraphs.size := by
    rw [lone.paragraphs]
    exact Nat.one_pos
  refine lone.span ?_
  rw [after, after]
  dsimp only
  rw [Array.append_assoc, Array.getElem?_append_left one]

theorem Lone.size_paragraphs_after (lone : Lone tag r) (inner : Reading) :
    (r.after inner).paragraphs.size = inner.paragraphs.size + 1 := by
  rw [after, Array.size_append, Array.size_map, lone.paragraphs, Nat.add_comm]
  rfl

/-- The rows of what comes behind a reading are not among its own. -/
theorem Numbered.row_ne_of_behind (numbered : r.Numbered) {placed : PlacedTag}
    (member : .tag placed ∈ r.pieces.toList) (inner : Reading) (other : PlacedTag) :
    ¬ (placed.row.isSome ∧ placed.row = ((r.after inner).counts.tag other).row) := by
  rintro ⟨inRow, same⟩
  obtain ⟨id, row⟩ := Option.isSome_iff_exists.mp inRow
  have old : id < r.rows.size := numbered.tags placed member id row
  rw [row] at same
  obtain ⟨id', -, later⟩ := Option.map_eq_some_iff.mp same.symm
  have rows : (r.after inner).counts.rows = r.rows.size + inner.rows.size := by
    simp [counts, after]
  omega

end Reading

namespace ParagraphLoop

variable {front body back name : Text} {options : RenderOptions}

/-- The part between the paragraphs keeps its place, and the section around it takes both away. -/
theorem exists_framed (loop : ParagraphLoop front body back name options) :
    (Layout.ofPart (front ++ (body ++ back))).faults = [] ∧ ∃ shift frame,
      Layout.Framed shift frame (Layout.ofPart (front ++ (body ++ back))) (Layout.ofPart body) ∧
        frame.opening.name = name := by
  obtain ⟨inner, read, clean, whole⟩ := loop.read_eq
  have first := loop.front.read
  have last := loop.back.read
  have numbered : ((Item.scan front).foldl Reading.step {}).Numbered :=
    (Reading.spanned_foldl_step (Item.scan front)).numbered
  rw [whole]
  generalize (Item.scan front).foldl Reading.step {} = a at first numbered ⊢
  generalize (Item.scan back).foldl Reading.step {} = c at last ⊢
  obtain ⟨s, ahead, behind, opens, tag, own⟩ := first.pieces
  obtain ⟨t, ahead', behind', closes, tag', own'⟩ := last.pieces
  have paragraphs := first.size_paragraphs_after inner
  have between : (a.after inner).pieces.size = a.pieces.size + inner.pieces.size := by
    simp [Reading.after]
  have member : .tag s ∈ a.pieces.toList := by
    rw [opens]
    exact List.mem_append_right _ List.mem_cons_self
  refine ⟨?faults, a.counts,
    ⟨s, (a.after inner).counts.tag t, (ahead, behind), (ahead', behind')⟩, {
    holds := Layout.holds_between a c body read
    pieces := ?pieces
    places := ?places
    opens := by rw [tag]
    closes := by rw [Shift.tag, tag']
    name := by rw [Shift.tag, tag', tag]
    first := ?first
    last := ?last
    apart := ?apart
    rows := numbered.row_ne_of_behind member inner t
    nested := loop.nested }, by rw [tag]⟩
  case faults =>
    rw [Reading.layout, Reading.after, Reading.after, last.clean, first.clean, clean]
    rfl
  case pieces =>
    rw [Reading.layout, Reading.toList_after, Reading.toList_after, opens, closes, read,
      List.append_assoc, List.map_append, List.map_cons, Shift.map_verbatim, Shift.map_verbatim]
    rfl
  case places =>
    rw [Reading.counts, ← Array.length_toList, opens]
    rfl
  case first =>
    rw [own]
    exact first.span_before inner c
  case last =>
    have found := last.span_after (a.after inner)
    rw [between] at found
    rw [Shift.tag, own', read]
    exact found
  case apart =>
    rw [Shift.tag, own, own', Reading.counts, paragraphs]
    simp

end ParagraphLoop

/-- A paragraph loop repeats the paragraphs between its tags. For every list, also an empty one,
the document is what the part between gives, evaluated with one item after the other, and what is
wrong with it is what is wrong with each of them. -/
theorem renderPart_of_paragraphLoop {front body back name : Text} {options : RenderOptions}
    (loop : ParagraphLoop front body back name options) (loops : options.paragraphLoop = true)
    {data : Value} {items : List Value}
    (list : Scope.lookup? [data] name = some (.list items)) :
    let source := front ++ (body ++ back)
    let nodes := ((Layout.ofPart body).nesting options).nodes
    let draft := Node.renderAll options.linebreaks [data] {}
      ((Layout.ofPart source).nesting options).nodes
    (Layout.ofPart source).faults = [] ∧ ((Layout.ofPart source).nesting options).allFaults = [] ∧
      draft.xml = Node.eachXml options.linebreaks [data] items nodes ∧
      draft.faults.reverse = Node.eachFaults options.linebreaks [data] items nodes ∧
      renderPart source data options =
        outcome (Node.eachXml options.linebreaks [data] items nodes)
          (Node.eachFaults options.linebreaks [data] items nodes) := by
  intro source nodes draft
  obtain ⟨read, shift, frame, framed, named⟩ := loop.exists_framed
  obtain ⟨sound, spells⟩ := Nesting.faithful_of_faultless loop.clean
  have room := shift.soundAll_nodes nodes
    (Node.soundAll_of_depthAll_le nodes sound (Nat.le_pred_of_lt loop.shallow))
  have spelled : Piece.canonical (((Layout.ofPart body).widened options).map shift.piece) =
      Node.flattenAll (shift.nodes nodes) := by
    rw [shift.canonical_pieces, shift.flattenAll_nodes, ← spells]
    rfl
  have even : Piece.passAll [] (((Layout.ofPart body).widened options).map shift.piece) =
      some [] := by
    have placed := Layout.inPlace_of_part Text.divides_true loop.formed loop.textOnly
      fun _ _ => trivial
    rw [shift.passAll_pieces]
    exact placed.passAll_widened options
  obtain ⟨clean, xml, faults⟩ := Layout.renderAll_over_whole
    (framed.widened_eq (Layout.noted_ofPart _) (Layout.noted_ofPart body) loops) framed.opens
    framed.closes framed.name room spelled even (named ▸ list)
  rw [shift.eachXml_nodes] at xml
  rw [shift.eachFaults_nodes] at faults
  refine ⟨read, clean, xml, faults, ?_⟩
  rw [renderPart_eq_outcome, read, clean, xml, faults]
  rfl

/-- A paragraph that opens a section, with its tag in two runs. -/
def loopStart : Text :=
  "<w:p><w:r><w:t> \x7b#x</w:t></w:r><w:r><w:t>s\x7d</w:t></w:r></w:p>".toList

/-- A paragraph that closes it, with its tag in two runs. -/
def loopEnd : Text :=
  "<w:p><w:r><w:t>\x7b/</w:t></w:r><w:r><w:t>xs\x7d </w:t></w:r></w:p>".toList

/-- A paragraph with a value, in a paragraph loop of its own. -/
def innerLoop : Text :=
  "<w:p><w:t>\x7b#ys\x7d</w:t></w:p>".toList ++ ("<w:p><w:t>\x7ba\x7d</w:t></w:p>".toList ++
    "<w:p><w:t>\x7b/ys\x7d</w:t></w:p>".toList)

/-- The items of some markup. -/
def markupItems (raws : List String) : List Item :=
  raws.map fun raw => .markup raw.toList

theorem loneTag_loopStart : LoneTag loopStart ⟨.opening, ['x', 's']⟩ := by
  unfold loopStart
  -- spelled out, since a long string literal is slow to evaluate
  rewrite [String.toList_ofList]
  exact ⟨⟨Text.whole_iff.mpr (by decide +kernel), by decide +kernel⟩,
    ⟨"<w:p>".toList, markupItems ["<w:r>", "<w:t>"] ++ .text " \x7b#x".toList ::
        (markupItems ["</w:t>", "</w:r>", "<w:r>", "<w:t>"] ++ .text "s\x7d".toList ::
          markupItems ["</w:t>", "</w:r>"]),
      "</w:p>".toList, by decide +kernel, by decide, by decide, by decide +kernel⟩,
    ⟨[' '], ['#', 'x', 's'], [], by decide +kernel, by decide, by decide, by decide,
      by decide +kernel⟩⟩

theorem loneTag_loopEnd : LoneTag loopEnd ⟨.closing, ['x', 's']⟩ := by
  unfold loopEnd
  rewrite [String.toList_ofList]
  exact ⟨⟨Text.whole_iff.mpr (by decide +kernel), by decide +kernel⟩,
    ⟨"<w:p>".toList, markupItems ["<w:r>", "<w:t>"] ++ .text "\x7b/".toList ::
        (markupItems ["</w:t>", "</w:r>", "<w:r>", "<w:t>"] ++ .text "xs\x7d ".toList ::
          markupItems ["</w:t>", "</w:r>"]),
      "</w:p>".toList, by decide +kernel, by decide, by decide, by decide +kernel⟩,
    ⟨[], ['/', 'x', 's'], [' '], by decide +kernel, by decide, by decide, by decide,
      by decide +kernel⟩⟩

/-- The XML in front of a tag in a paragraph. -/
def aheadOfTag : List Text :=
  ["<w:p>".toList, "<w:t xml:space=\"preserve\">".toList]

/-- The XML behind it. -/
def behindTag : List Text :=
  ["</w:t>".toList, "</w:p>".toList]

/-- The pieces of a paragraph with a tag. -/
def tagged (piece : Piece) : List Piece :=
  aheadOfTag.map .verbatim ++ piece :: behindTag.map .verbatim

theorem ofPart_innerLoop :
    (SectionPairs.scan {} 0 (Layout.ofPart innerLoop).pieces.toList).pairs = [(2, 12)] ∧
      (Layout.ofPart innerLoop).faults = [] ∧
      (Layout.ofPart innerLoop).pieces.toList =
        tagged (.tag ⟨⟨.opening, ['y', 's']⟩, some 0, none, none⟩) ++
          tagged (.tag ⟨⟨.value, ['a']⟩, some 1, none, none⟩) ++
            tagged (.tag ⟨⟨.closing, ['y', 's']⟩, some 2, none, none⟩) := by
  unfold innerLoop
  rewrite [String.toList_ofList, String.toList_ofList, String.toList_ofList]
  decide +kernel

theorem widened_innerLoop : (Layout.ofPart innerLoop).widened {} =
    .tag ⟨⟨.opening, ['y', 's']⟩, some 0, none, none⟩ ::
      (tagged (.tag ⟨⟨.value, ['a']⟩, some 1, none, none⟩) ++
        [.tag ⟨⟨.closing, ['y', 's']⟩, some 2, none, none⟩]) := by
  have pairs : SectionPairs.ofPieces (Layout.ofPart innerLoop).pieces.toList = [(2, 12)] := by
    rw [SectionPairs.ofPieces, ofPart_innerLoop.1, List.mergeSort_singleton]
  unfold Layout.widened Layout.plan
  rw [pairs]
  decide +kernel

theorem paragraphLoop_innerLoop : ParagraphLoop loopStart innerLoop loopEnd ['x', 's'] {} := by
  obtain ⟨-, read, pieces⟩ := ofPart_innerLoop
  refine ⟨loneTag_loopStart, loneTag_loopEnd, ⟨Text.whole_iff.mpr (by decide +kernel),
    by decide +kernel⟩, ?_, read, ?_, ?_, ?_⟩
  · unfold TextOnly
    decide +kernel
  · rw [Layout.nesting, widened_innerLoop]
    decide +kernel
  · rw [Layout.nesting, widened_innerLoop]
    decide +kernel
  · have value : Piece.Paired (fun _ _ => True) (.tag ⟨⟨.value, ['a']⟩, some 1, none, none⟩ ::
        (behindTag.map .verbatim ++ aheadOfTag.map .verbatim)) :=
      .value rfl ((Piece.paired_of_xml _ aheadOfTag).behind_xml behindTag)
    have loop : Piece.Paired (fun _ _ => True) (.tag ⟨⟨.opening, ['y', 's']⟩, some 0, none, none⟩ ::
        ((behindTag.map .verbatim ++ (aheadOfTag.map .verbatim ++
          .tag ⟨⟨.value, ['a']⟩, some 1, none, none⟩ ::
            (behindTag.map .verbatim ++ aheadOfTag.map .verbatim))) ++
          .tag ⟨⟨.closing, ['y', 's']⟩, some 2, none, none⟩ :: behindTag.map .verbatim)) :=
      .block rfl rfl rfl trivial ((value.behind_xml aheadOfTag).behind_xml behindTag)
        (Piece.paired_of_xml _ behindTag)
    rw [pieces]
    exact loop.behind_xml aheadOfTag

/-- Two items, of which the second one has none of its own. -/
def nestedItems : Value :=
  .object [(['x', 's'], .list
    [.object [(['y', 's'], .list
      [.object [(['a'], .string ['A'])], .object [(['a'], .string ['B'])]])],
      .object [(['y', 's'], .list [])]])]

theorem renderPart_of_paragraphLoop_innerLoop :
    ParagraphLoop loopStart innerLoop loopEnd ['x', 's'] {} ∧
      renderPart (loopStart ++ (innerLoop ++ loopEnd)) nestedItems {} = .ok
        ("<w:p><w:t xml:space=\"preserve\">A</w:t></w:p>".toList ++
          "<w:p><w:t xml:space=\"preserve\">B</w:t></w:p>".toList) ∧
      renderPart (loopStart ++ (innerLoop ++ loopEnd)) (.object [(['x', 's'], .list [])]) {} =
        .ok [] := by
  have full := (@renderPart_of_paragraphLoop _ _ _ _ _ paragraphLoop_innerLoop rfl nestedItems _
    rfl).2.2.2.2
  have none := (@renderPart_of_paragraphLoop _ _ _ _ _ paragraphLoop_innerLoop rfl
    (.object [(['x', 's'], .list [])]) [] rfl).2.2.2.2
  refine ⟨paragraphLoop_innerLoop, ?_, ?_⟩
  · rewrite [full, Layout.nesting, widened_innerLoop, tagged, aheadOfTag, behindTag]
    rewrite [String.toList_ofList, String.toList_ofList, String.toList_ofList, String.toList_ofList,
      String.toList_ofList, String.toList_ofList]
    decide +kernel
  · rewrite [none, Layout.nesting, widened_innerLoop]
    decide +kernel

/-- A row with two sections that cross: one is found and takes the row, so that the other one is
inside it. -/
def crossedRow : Text :=
  "<w:tr><w:tc><w:p><w:t>\x7b#a\x7d\x7b#b\x7d</w:t></w:p></w:tc>".toList ++
    "<w:tc><w:p><w:t>\x7b/a\x7d\x7b/b\x7d</w:t></w:p></w:tc></w:tr>".toList

/-- No rows, and both sections on. -/
def noRows : Value :=
  .object [(['x', 's'], .list []), (['a'], .bool true), (['b'], .bool true)]

theorem sections_crossedRow :
    SectionPairs.ofPieces (Layout.ofPart crossedRow).pieces.toList = [(5, 13)] ∧
      SectionPairs.ofPieces
        (Layout.ofPart (loopStart ++ (crossedRow ++ loopEnd))).pieces.toList = [(17, 25)] := by
  have alone : (SectionPairs.scan {} 0 (Layout.ofPart crossedRow).pieces.toList).pairs =
      [(5, 13)] := by
    unfold crossedRow
    rewrite [String.toList_ofList, String.toList_ofList]
    decide +kernel
  have within : (SectionPairs.scan {} 0
      (Layout.ofPart (loopStart ++ (crossedRow ++ loopEnd))).pieces.toList).pairs = [(17, 25)] := by
    unfold loopStart crossedRow loopEnd
    rewrite [String.toList_ofList, String.toList_ofList, String.toList_ofList, String.toList_ofList]
    decide +kernel
  rw [SectionPairs.ofPieces, alone, SectionPairs.ofPieces, within, List.mergeSort_singleton,
    List.mergeSort_singleton]
  exact ⟨rfl, rfl⟩

/-- By itself the row has no fault, and no items give nothing of it. -/
theorem faultless_crossedRow :
    WellFormed crossedRow ∧ TextOnly crossedRow ∧ (Layout.ofPart crossedRow).faults = [] ∧
      ((Layout.ofPart crossedRow).nesting {}).allFaults = [] ∧
      Node.depthAll ((Layout.ofPart crossedRow).nesting {}).nodes < Nesting.depthLimit ∧
      outcome (Node.eachXml true [noRows] [] ((Layout.ofPart crossedRow).nesting {}).nodes)
        (Node.eachFaults true [noRows] [] ((Layout.ofPart crossedRow).nesting {}).nodes) =
          .ok [] := by
  unfold Layout.nesting Layout.widened Layout.plan
  rw [sections_crossedRow.1]
  unfold crossedRow TextOnly
  rewrite [String.toList_ofList, String.toList_ofList]
  exact ⟨⟨Text.whole_iff.mpr (by decide +kernel), by decide +kernel⟩, by decide +kernel⟩

/-- Sections that cross leave one of them open, and the tags of the loop do not find each other; by
themselves they fit, since one of them takes the row. -/
theorem not_renderPart_of_paragraphLoop_crossedRow :
    LoneTag loopStart ⟨.opening, ['x', 's']⟩ ∧ LoneTag loopEnd ⟨.closing, ['x', 's']⟩ ∧
      WellFormed crossedRow ∧ TextOnly crossedRow ∧ (Layout.ofPart crossedRow).faults = [] ∧
      ((Layout.ofPart crossedRow).nesting {}).allFaults = [] ∧
      Node.depthAll ((Layout.ofPart crossedRow).nesting {}).nodes < Nesting.depthLimit ∧
      Scope.lookup? [noRows] ['x', 's'] = some (.list []) ∧
      renderPart (loopStart ++ (crossedRow ++ loopEnd)) noRows {} = .ok
        ("<w:p><w:r><w:t xml:space=\"preserve\"> </w:t></w:r>".toList ++
          "<w:r><w:t> </w:t></w:r></w:p>".toList) ∧
      renderPart (loopStart ++ (crossedRow ++ loopEnd)) noRows {} ≠
        outcome (Node.eachXml true [noRows] [] ((Layout.ofPart crossedRow).nesting {}).nodes)
          (Node.eachFaults true [noRows] [] ((Layout.ofPart crossedRow).nesting {}).nodes) := by
  obtain ⟨formed, textOnly, read, clean, shallow, renders⟩ := faultless_crossedRow
  have rendered : renderPart (loopStart ++ (crossedRow ++ loopEnd)) noRows {} = .ok
      ("<w:p><w:r><w:t xml:space=\"preserve\"> </w:t></w:r>".toList ++
        "<w:r><w:t> </w:t></w:r></w:p>".toList) := by
    unfold renderPart Layout.nesting Layout.widened Layout.plan
    dsimp only
    rw [sections_crossedRow.2]
    unfold loopStart crossedRow loopEnd
    rewrite [String.toList_ofList, String.toList_ofList, String.toList_ofList, String.toList_ofList,
      String.toList_ofList, String.toList_ofList]
    decide +kernel
  refine ⟨loneTag_loopStart, loneTag_loopEnd, formed, textOnly, read, clean, shallow, rfl, rendered,
    ?_⟩
  rw [rendered, renders]
  decide +kernel

end WordMerge
