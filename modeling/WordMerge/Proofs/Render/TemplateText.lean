import WordMerge.Proofs.Render.Fragments
import WordMerge.Proofs.Render.WellFormed

namespace WordMerge

namespace PlainText

/-- XML that shows a text where it stands in a text element, and whose parts do not join with what
follows. -/
structure Shows (xml text : Text) : Prop where
  whole : Text.Whole xml
  referenced : Text.Referenced xml
  shown : ∀ p : PlainText, p.inText = true → Same ((Item.scan xml).foldl step p) (p.add text)

theorem Shows.append {a b front back : Text} (first : Shows a front) (second : Shows b back) :
    Shows (a ++ b) (front ++ back) := by
  refine ⟨first.whole.append second.whole, first.referenced.append first.whole second.referenced,
    fun p inside => ?_⟩
  have between := first.shown p inside
  have inner : ((Item.scan a).foldl step p).inText = true := between.inText.trans inside
  exact (((foldl_scan_append first.whole first.referenced b p).trans (second.shown _ inner)).trans
    (between.add back)).trans (same_add_add p front back)

theorem shows_escape (text : Text) : Shows (Entity.escape text) text := by
  have plain := Entity.not_mem_escape text
  refine ⟨Text.whole_of_plain plain, Text.referenced_of_plain plain (Entity.complete_escape text),
    fun p inside => ?_⟩
  by_cases empty : Entity.escape text = []
  · have nothing : text = [] := by rw [← Entity.unescape_escape text, empty, Entity.unescape_nil]
    rw [empty, Item.scan_nil, List.foldl_nil, nothing]
    exact ⟨by simp, rfl⟩
  · rw [Text.scan_of_plain empty plain, List.foldl_cons, List.foldl_nil]
    have seen : p.step (.text (Entity.escape text)) = p.add text := by
      simp [step, inside, add, Entity.unescape_escape]
    rw [seen]
    exact Same.refl _

/-- The XML of a line break shows a line feed. -/
theorem shows_lineBreakXml : Shows lineBreakXml ['\n'] := by
  have items : Item.scan lineBreakXml = [.markup "</w:t>".toList, .markup "<w:br/>".toList,
      .markup "<w:t xml:space=\"preserve\">".toList] := by decide +kernel
  have roles : Landmark.ofMarkup "</w:t>".toList = .textEnd ∧
      Landmark.ofMarkup "<w:br/>".toList = .lineBreak ∧
      Landmark.ofMarkup "<w:t xml:space=\"preserve\">".toList = .textStart := by decide +kernel
  have outside : ([] : List Text).head? ≠ some textName := by simp
  refine ⟨(Edge.keeps_lineBreakXml outside).whole, fun raw found => ?_, fun p inside => ?_⟩
  · simp [items] at found
  · obtain ⟨ending, breaking, starting⟩ := roles
    rw [items]
    simp only [List.foldl_cons, List.foldl_nil, step, ending, breaking, starting]
    exact ⟨by simp [PlainText.text, add], inside.symm⟩

/-- Lines that show their text, with something between them, show the text of all. -/
theorem Shows.intercalate {separator mark : Text} {lines : List Text}
    (between : Shows separator mark) {code own : Text → Text}
    (each : ∀ line ∈ lines, Shows (code line) (own line)) :
    Shows (separator.intercalate (lines.map code)) (mark.intercalate (lines.map own)) := by
  induction lines with
  | nil => exact shows_escape []
  | cons line rest ih =>
    rw [List.forall_mem_cons] at each
    cases rest with
    | nil => simpa using each.1
    | cons next rest =>
      simp only [List.map_cons, List.intercalate_cons_cons]
      exact (each.1.append between).append (ih each.2)

/-- The XML of a value shows the lines of its text. -/
theorem shows_valueXml (linebreaks : Bool) (text : Text) :
    Shows (valueXml linebreaks text) (ownLines linebreaks text) := by
  rw [ownLines_eq]
  unfold valueXml
  cases linebreaks with
  | true => exact shows_lineBreakXml.intercalate fun line _ => shows_escape (chomp line)
  | false => exact shows_escape text

end PlainText

/-- A draft that leaves the given elements open and in which an extraction has found what `plain`
has found. -/
structure Draft.Reads (draft : Draft) (opened : List Text) (plain : PlainText) : Prop where
  leaves : draft.Leaves opened
  referenced : Text.Referenced draft.xml
  same : PlainText.Same ((Item.scan draft.xml).foldl PlainText.step {}) plain

/-- Writing XML goes from what was read before to what is read with it. -/
theorem Draft.Reads.write {draft : Draft} {opened after : List Text} {plain next : PlainText}
    (reads : draft.Reads opened plain) {xml : Text} (whole : Text.Whole xml)
    (referenced : Text.Referenced xml) (passed : Edge.walk opened (Edge.scan xml) = some after)
    (shown : ∀ p, PlainText.Same p plain →
      PlainText.Same ((Item.scan xml).foldl PlainText.step p) next) :
    (draft.write xml).Reads after next := by
  obtain ⟨leaves, refs, same⟩ := reads
  refine ⟨leaves.write whole passed, ?_, ?_⟩
  · rw [Draft.xml_write]
    exact refs.append leaves.whole referenced
  · rw [Draft.xml_write]
    exact (PlainText.foldl_scan_append leaves.whole refs xml {}).trans (shown _ same)

theorem Draft.Reads.report {draft : Draft} {opened : List Text} {plain : PlainText}
    (reads : draft.Reads opened plain) (fault : TagFault) :
    (draft.report fault).Reads opened plain :=
  ⟨reads.leaves.report fault, reads.referenced, reads.same⟩

/-- The extraction is inside a text element where the draft has left one open. -/
theorem Draft.Reads.inText {draft : Draft} {opened : List Text} {plain : PlainText}
    (reads : draft.Reads opened plain) :
    plain.inText = true ↔ opened.head? = some textName := by
  rw [← reads.same.inText]
  exact PlainText.inText_of_walk reads.leaves.walked (by simp [TextInnermost]) (by simp)

namespace Node

/-- Where every turn is read as what it comes to, so are all turns: each one starts where the one
before has ended. -/
theorem turns_read {linebreaks : Bool} {body : List Node} {opened : List Text}
    (each : ∀ {inner row draft plain}, fragmentsAll? inner body = some row →
      draft.Reads opened plain → (renderAll linebreaks inner draft body).Reads opened
        (row.foldl (PlainText.place linebreaks) plain))
    {turns : List (List Value)} {rows : List (List Fragment)}
    (all : List.Forall₂ (fun inner row => fragmentsAll? inner body = some row) turns rows)
    {draft : Draft} {plain : PlainText} (reads : draft.Reads opened plain) :
    (turns.foldl (fun draft inner => renderAll linebreaks inner draft body) draft).Reads opened
      (rows.flatten.foldl (PlainText.place linebreaks) plain) := by
  induction all generalizing draft plain with
  | nil => exact reads
  | cons here _ ih =>
    rw [List.foldl_cons, List.flatten_cons, List.foldl_append]
    exact ih (each here reads)

/-- What evaluation writes is read as the text of what the nodes come to. -/
theorem renderAll_reads {P : List Text → Text → Prop} {nodes : List Node}
    {opened after : List Text} (passes : Passes P opened nodes after)
    (suits : ∀ xml, .verbatim xml ∈ flattenAll nodes → Text.Whole xml ∧ Text.Referenced xml)
    (linebreaks : Bool) {scopes : List Value} {row : List Fragment}
    (comes : fragmentsAll? scopes nodes = some row) {draft : Draft} {plain : PlainText}
    (reads : draft.Reads opened plain) :
    (renderAll linebreaks scopes draft nodes).Reads after
      (row.foldl (PlainText.place linebreaks) plain) := by
  induction passes generalizing scopes row draft plain with
  | nil =>
    cases comes
    exact reads
  | @verbatim _ _ _ xml _ _ walked _ ih =>
    obtain ⟨whole, referenced⟩ := suits xml (by simp)
    obtain ⟨_, back, here, later, rfl⟩ := fragmentsAll?_cons_eq_some.mp comes
    cases here
    rw [renderAll_verbatim, List.foldl_append, PlainText.foldl_place_items]
    refine ih (fun xml member => suits xml (by simp [member])) later ?_
    exact reads.write whole referenced walked fun p same => same.foldl _
  | @value _ _ tag _ inside _ ih =>
    obtain ⟨_, back, here, later, rfl⟩ := fragmentsAll?_cons_eq_some.mp comes
    obtain ⟨text, own, rfl⟩ := fragments?_value_eq_some.mp here
    rw [renderAll_value, List.foldl_append]
    refine ih (fun xml member => suits xml (by simp [member])) later ?_
    rcases tag.valueXml_cases linebreaks scopes with ⟨_, same, written⟩ | ⟨none, _⟩
    · cases own.symm.trans same
      rw [written]
      have inText := reads.inText.mpr inside
      obtain ⟨outer, rfl⟩ := List.head?_eq_some_iff.mp inside
      have shows := PlainText.shows_valueXml linebreaks text
      have keeps := Edge.keeps_valueXml linebreaks text reads.leaves.outside
      refine reads.write shows.whole shows.referenced keeps.walked fun p same => ?_
      exact (shows.shown p (same.inText.trans inText)).trans (same.add _)
    · cases own.symm.trans none
  | @block opened _ tag body _ _ _ ihBody ih =>
    obtain ⟨_, back, here, later, rfl⟩ := fragmentsAll?_cons_eq_some.mp comes
    obtain ⟨turns, rows, given, all, rfl⟩ := fragments?_block_eq_some.mp here
    rw [renderAll_block, List.foldl_append]
    refine ih (fun xml member => suits xml (by simp [member])) later ?_
    rcases tag.turns?_cases scopes with ⟨_, same, written⟩ | ⟨none, _⟩
    · cases given.symm.trans same
      rw [written]
      refine turns_read (fun here reads => ?_) all reads
      exact ihBody (fun xml member => suits xml (by simp [member])) here reads
    · cases given.symm.trans none

/-- What holds of the XML of a tree and of the XML of every value holds of all that is written. -/
theorem forall_mem_renderAll_pieces {P : Text → Prop} (nodes : List Node) {linebreaks : Bool}
    (verbatim : ∀ xml, .verbatim xml ∈ flattenAll nodes → P xml)
    (value : ∀ text, P (WordMerge.valueXml linebreaks text)) (scopes : List Value) {draft : Draft}
    (before : ∀ xml ∈ draft.pieces, P xml) :
    ∀ xml ∈ (renderAll linebreaks scopes draft nodes).pieces, P xml := by
  induction nodes using Node.row_induction generalizing scopes draft with
  | nil => exact before
  | verbatim other rest ih =>
    rw [renderAll_verbatim]
    refine ih (fun xml member => verbatim xml (by simp [member])) scopes ?_
    exact List.forall_mem_cons.mpr ⟨verbatim other (by simp), before⟩
  | value tag rest ih =>
    rw [renderAll_value]
    refine ih (fun xml member => verbatim xml (by simp [member])) scopes ?_
    split
    · next written found =>
      obtain ⟨text, rfl⟩ := PlacedTag.exists_of_valueXml_eq_ok found
      exact List.forall_mem_cons.mpr ⟨value text, before⟩
    · exact before
  | block tag body rest ihBody ih =>
    rw [renderAll_block]
    refine ih (fun xml member => verbatim xml (by simp [member])) scopes ?_
    split
    · next turns _ =>
      refine List.foldlRecOn (motive := fun draft : Draft => ∀ xml ∈ draft.pieces, P xml) turns _
        before fun draft before turn _ => ?_
      exact ihBody (fun xml member => verbatim xml (by simp [member])) turn before
    · exact before

end Node

/-- The markup in the XML of a value is that of line breaks. -/
theorem mem_markups_valueXml {linebreaks : Bool} {text raw : Text}
    (member : raw ∈ Item.markups (valueXml linebreaks text)) : raw ∈ Item.markups lineBreakXml := by
  have plain (line : Text) : Item.markups (Entity.escape line) = [] :=
    Item.markups_of_plain (Entity.not_mem_escape line)
  have spread (lines : List Text) (member : raw ∈ Item.markups (lineBreakXml.intercalate
      (lines.map fun line => Entity.escape (chomp line)))) : raw ∈ Item.markups lineBreakXml := by
    induction lines with
    | nil => simp [Item.markups] at member
    | cons line rest ih =>
      cases rest with
      | nil =>
        rw [List.map_singleton, List.intercalate_singleton, plain] at member
        cases member
      | cons next rest =>
        have first : Text.Whole (Entity.escape (chomp line)) :=
          Text.whole_of_plain (Entity.not_mem_escape _)
        rw [List.map_cons, List.map_cons, List.intercalate_cons_cons, List.append_assoc,
          Item.markups_append first, plain, List.nil_append,
          Item.markups_append PlainText.shows_lineBreakXml.whole, List.mem_append] at member
        exact member.elim id ih
  unfold valueXml at member
  split at member
  · exact spread _ member
  · rw [plain] at member
    cases member

/-- The markup that evaluation writes is that of the pieces of the part or of line breaks. -/
theorem Layout.PassingTree.mem_markups {layout : Layout} {nodes : List Node}
    (tree : layout.PassingTree nodes)
    (whole : ∀ xml, .verbatim xml ∈ layout.pieces → Text.Whole xml) {linebreaks : Bool}
    {scopes : List Value} {raw : Text}
    (member : raw ∈ Item.markups (Node.renderAll linebreaks scopes {} nodes).xml) :
    (∃ xml, .verbatim xml ∈ layout.pieces ∧ raw ∈ Item.markups xml) ∨
      raw ∈ Item.markups lineBreakXml := by
  have origin : ∀ xml ∈ (Node.renderAll linebreaks scopes {} nodes).pieces,
      .verbatim xml ∈ layout.pieces ∨ ∃ text, xml = valueXml linebreaks text :=
    Node.forall_mem_renderAll_pieces nodes (fun xml inTree => .inl (tree.verbatim xml inTree))
      (fun text => .inr ⟨text, rfl⟩) scopes nofun
  have ends : ∀ xml ∈ (Node.renderAll linebreaks scopes {} nodes).pieces.reverse,
      Text.Whole xml := by
    intro xml written
    rcases origin xml (List.mem_reverse.mp written) with inPart | ⟨text, rfl⟩
    · exact whole xml inPart
    · exact (PlainText.shows_valueXml linebreaks text).whole
  rw [Draft.xml, Item.markups_flatten ends, List.mem_flatMap] at member
  obtain ⟨xml, written, inside⟩ := member
  rcases origin xml (List.mem_reverse.mp written) with inPart | ⟨text, rfl⟩
  · exact .inl ⟨xml, inPart, inside⟩
  · exact .inr (mem_markups_valueXml inside)

/-- Empty paragraphs in front of markup show nothing. -/
theorem Cell.Mended.foldl_eq {items mended : List Item} (mends : Mended items mended)
    (p : PlainText) : mended.foldl PlainText.step p = items.foldl PlainText.step p := by
  have unseen (p : PlainText) : p.step (.markup emptyParagraph) = p := by
    have role : Landmark.ofMarkup emptyParagraph = .other := by decide +kernel
    simp [PlainText.step, role]
  induction mends generalizing p with
  | nil => rfl
  | copy item _ ih => exact ih _
  | fill raw _ ih =>
    rw [List.foldl_cons, unseen, List.foldl_cons, List.foldl_cons]
    exact ih _

theorem Entity.divides_complete : Text.Divides Complete where
  nil := complete_nil
  front _ _ complete := complete.of_append_brace (.inl rfl)
  back a b complete :=
    complete.of_suffix ((List.suffix_cons _ b).trans (List.suffix_append a _))

/-- XML among the pieces of a part has ampersands only where references begin. -/
theorem Layout.InPlace.referenced {layout : Layout} (placed : layout.InPlace Entity.Complete)
    {xml : Text} (member : .verbatim xml ∈ layout.pieces) : Text.Referenced xml := by
  obtain ⟨place, found⟩ := Array.mem_iff_getElem?.mp member
  rcases placed.laid.verbatim place xml found with cut | ⟨plain, complete⟩
  · exact Text.referenced_of_cut cut
  · exact Text.referenced_of_plain plain complete

/-- What a part without stray ampersands shows when it is rendered: the text of what its tree comes
to. -/
theorem Layout.InPlace.plainText_eq {source out : Text} {data : Value} {options : RenderOptions}
    (placed : (ofPart source).InPlace Entity.Complete)
    (rendered : renderPart source data options = .ok out) :
    ∃ row, Node.fragmentsAll? [data] ((ofPart source).nesting options).nodes = some row ∧
      PlainText.ofPart out = (row.foldl (PlainText.place options.linebreaks) {}).text := by
  obtain ⟨_, clean, evaluated, rfl⟩ := exists_of_renderPart rendered
  have tree := placed.passingTree clean
  obtain ⟨row, comes⟩ := Node.exists_fragments _ _ _ evaluated
  have start : Draft.Reads {} [] {} :=
    ⟨Draft.leaves_start, Text.referenced_of_plain (by simp [Draft.xml]) Entity.complete_nil, by
      simpa [Draft.xml] using PlainText.Same.refl {}⟩
  have reads := Node.renderAll_reads tree.passes (fun xml inTree =>
    ⟨placed.whole (tree.verbatim xml inTree), placed.referenced (tree.verbatim xml inTree)⟩)
    options.linebreaks comes start
  have mends := Cell.mended_scan_repair (Node.renderAll options.linebreaks [data] {}
    ((ofPart source).nesting options).nodes).xml
  exact ⟨row, comes, by rw [PlainText.ofPart, mends.foldl_eq, reads.same.text]⟩

/-- The text of a rendered part is the text of its template with the data: character data of the
source stands for what its references say, line breaks and paragraph ends are line feeds, sections
are repeated, and a value contributes its own text, whatever characters it has. The markup of the
part is that of the template, of line breaks and of the paragraphs that repair cells. -/
theorem plainText_of_renderPart {source out : Text} {data : Value} {options : RenderOptions}
    (formed : WellFormed source) (textOnly : TextOnly source)
    (complete : ∀ raw, .text raw ∈ Item.scan source → Entity.Complete raw)
    (rendered : renderPart source data options = .ok out) :
    Node.textAll? options.linebreaks [data] ((Layout.ofPart source).nesting options).nodes =
        some (PlainText.ofPart out) ∧
      ∀ raw ∈ Item.markups out,
        (∃ xml, .verbatim xml ∈ (Layout.ofPart source).pieces ∧ raw ∈ Item.markups xml) ∨
        raw ∈ Item.markups lineBreakXml ∨ raw = Cell.emptyParagraph := by
  have placed := Layout.inPlace_of_part Entity.divides_complete formed textOnly complete
  obtain ⟨row, comes, read⟩ := placed.plainText_eq rendered
  refine ⟨?_, fun raw found => ?_⟩
  · rw [Node.textAll?, comes, read, PlainText.text_foldl_place]
    rfl
  · obtain ⟨_, clean, _, rfl⟩ := exists_of_renderPart rendered
    have mends := Cell.mended_scan_repair (Node.renderAll options.linebreaks [data] {}
      ((Layout.ofPart source).nesting options).nodes).xml
    rcases mends.mem_markup (Item.mem_markups.mp found) with before | filled
    · have tree := placed.passingTree clean
      rcases tree.mem_markups (fun _ inPart => placed.whole inPart)
        (Item.mem_markups.mpr before) with inPart | breaks
      · exact .inl inPart
      · exact .inr (.inl breaks)
    · exact .inr (.inr filled)

/-- A paragraph with a section for some items, and in it a section for items without owners. -/
def itemNote : Text :=
  ("<w:p><w:r><w:t>\x7b#i\x7d\x7bn\x7d: \x7bt\x7d\x7b^o\x7d\x7bd\x7d\x7b/o\x7d &amp; \x7b/i\x7d" ++
    "</w:t></w:r></w:p>").toList

/-- Two items with values of every kind, one of them with signs that would be markup, a tag and a
reference in a template. -/
def itemValues : Value :=
  .object [(['d'], .bool false), (['i'], .list [
    .object [(['n'], .number (.whole (-12))), (['o'], .list [.null]),
      (['t'], .string "<\x7bx\x7d\r\n&amp;".toList)],
    .object [(['n'], .number (.double ⟨false, 7205759403792794, -56⟩)), (['t'], .null)]])]

theorem pairs_itemNote :
    SectionPairs.ofPieces (Layout.ofPart itemNote).pieces.toList = [(3, 11), (7, 9)] := by
  have found : (SectionPairs.scan {} 0 (Layout.ofPart itemNote).pieces.toList).pairs =
      [(3, 11), (7, 9)] := by
    unfold itemNote
    rewrite [String.toList_append, String.toList_ofList, String.toList_ofList]
    decide +kernel
  rw [SectionPairs.ofPieces, found]
  exact List.mergeSort_of_pairwise (by simp)

theorem exists_renderPart_itemNote : ∃ out, renderPart itemNote itemValues {} = .ok out := by
  have rendered : (renderPart itemNote itemValues {}).isOk = true := by
    unfold renderPart Layout.nesting Layout.widened Layout.plan
    dsimp only
    rw [pairs_itemNote]
    unfold itemNote
    rewrite [String.toList_append, String.toList_ofList, String.toList_ofList]
    decide +kernel
  cases result : renderPart itemNote itemValues {} with
  | ok out => exact ⟨out, rfl⟩
  | error faults =>
    rw [result] at rendered
    cases rendered

theorem textAll?_itemNote :
    Node.textAll? true [itemValues] ((Layout.ofPart itemNote).nesting {}).nodes =
      some "-12: <\x7bx\x7d\n&amp; & 0.1: false & \n".toList := by
  unfold Layout.nesting Layout.widened Layout.plan
  rw [pairs_itemNote]
  unfold itemNote
  rewrite [String.toList_append, String.toList_ofList, String.toList_ofList]
  decide +kernel

theorem plainText_of_renderPart_itemNote :
    ∃ out, renderPart itemNote itemValues {} = .ok out ∧
      PlainText.ofPart out = "-12: <\x7bx\x7d\n&amp; & 0.1: false & \n".toList := by
  obtain ⟨out, rendered⟩ := exists_renderPart_itemNote
  have formed : WellFormed itemNote ∧ TextOnly itemNote := by
    unfold itemNote TextOnly
    rewrite [String.toList_append, String.toList_ofList, String.toList_ofList]
    exact ⟨⟨Text.whole_iff.mpr (by decide +kernel), by decide +kernel⟩, by decide +kernel⟩
  have texts : ∀ item ∈ Item.scan itemNote, item = .text
      ("\x7b#i\x7d\x7bn\x7d: \x7bt\x7d\x7b^o\x7d\x7bd\x7d\x7b/o\x7d ".toList ++
        (Entity.escape ['&'] ++ " \x7b/i\x7d".toList)) ∨ '&' ∉ item.raw := by
    decide +kernel
  have complete : ∀ raw, .text raw ∈ Item.scan itemNote → Entity.Complete raw := by
    intro raw found
    rcases texts _ found with same | plain
    · rw [Item.text.inj same]
      exact (Entity.complete_of_plain (by decide)).append
        ((Entity.complete_escape ['&']).append (Entity.complete_of_plain (by decide)))
    · exact Entity.complete_of_plain plain
  have read := (plainText_of_renderPart formed.1 formed.2 complete rendered).1
  exact ⟨out, rendered, Option.some.inj (read.symm.trans textAll?_itemNote)⟩

end WordMerge
