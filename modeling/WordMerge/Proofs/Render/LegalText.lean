import WordMerge.Proofs.Markup.CellParagraphs
import WordMerge.Proofs.Render.Failures
import WordMerge.Proofs.Render.LineBreaks
import WordMerge.Proofs.Template.Pieces

namespace WordMerge

/-- Whether XML allows a character in a document. -/
def isXmlChar (c : Char) : Bool :=
  c = '\t' ∨ c = '\n' ∨ c = '\r' ∨ (0x20 ≤ c.toNat ∧ c.toNat ≤ 0xD7FF) ∨
    (0xE000 ≤ c.toNat ∧ c.toNat ≤ 0xFFFD) ∨ (0x10000 ≤ c.toNat ∧ c.toNat ≤ 0x10FFFF)

namespace Text

/-- Whether XML allows all characters of a text. -/
def Legal (s : Text) : Prop :=
  ∀ c ∈ s, isXmlChar c = true

instance (s : Text) : Decidable s.Legal :=
  List.decidableBAll _ s

theorem Legal.not_mem {s : Text} (legal : s.Legal) {c : Char} (illegal : isXmlChar c = false) :
    c ∉ s := by
  intro member
  rw [legal c member] at illegal
  cases illegal

theorem legal_iff {s : Text} : s.Legal ↔ ∀ c, isXmlChar c = false → c ∉ s := by
  refine ⟨fun legal c illegal => legal.not_mem illegal, fun free c member => ?_⟩
  by_contra other
  exact free c (Bool.eq_false_iff.mpr other) member

theorem Numeric.legal {s : Text} (numeric : s.Numeric) : s.Legal := by
  intro c member
  rcases numeric c member with digit | sign
  · rw [Char.isDigit_iff_toNat] at digit
    have low : '0'.toNat = 48 := rfl
    have high : '9'.toNat = 57 := rfl
    simp only [isXmlChar, decide_eq_true_eq]
    omega
  · have signs : Text.Legal ['.', '-', '+', 'e'] := by decide
    exact signs c sign

/-- What stands in joined lines stands in one of them, or between them. -/
theorem mem_intercalate {separator : Text} {c : Char} (between : c ∉ separator)
    (lines : List Text) :
    c ∈ separator.intercalate lines ↔ ∃ line ∈ lines, c ∈ line := by
  induction lines with
  | nil => simp
  | cons line rest ih =>
    cases rest with
    | nil => simp
    | cons next rest =>
      rw [List.intercalate_cons_cons, List.mem_append, List.mem_append, ih]
      simp [between]

end Text

theorem preserveSpace_subset (raw : Text) : preserveSpace raw ⊆ raw ++ preserveAttribute := by
  unfold preserveSpace
  split
  · exact List.subset_append_left _ _
  · dsimp only
    refine List.append_subset.mpr ⟨List.append_subset.mpr ⟨?_, List.subset_append_right _ _⟩, ?_⟩
    · exact List.subset_append_of_subset_left _ (List.take_subset _ _)
    · exact List.subset_append_of_subset_left _ (List.drop_subset _ _)

/-- The XML among the pieces of a part has only characters of the part and of the attribute that
keeps white space. -/
theorem Layout.subset_of_mem_pieces {source xml : Text}
    (member : .verbatim xml ∈ (ofPart source).pieces) : xml ⊆ source ++ preserveAttribute := by
  have common : Reading.Common source fun piece =>
      ∀ xml, piece = .verbatim xml → xml ⊆ source ++ preserveAttribute := by
    refine ⟨fun raw inside xml same => ?_, fun raw known xml same => ?_, fun _ _ _ xml same => ?_⟩
    · cases same
      exact List.subset_append_of_subset_left _ inside
    · cases same
      exact List.Subset.trans (preserveSpace_subset raw)
        (List.append_subset.mpr ⟨known raw rfl, List.subset_append_right _ _⟩)
    · cases same
  exact forall_mem_pieces common _ member xml rfl

/-- The XML in the tree of a part is that of its pieces. -/
theorem Layout.mem_pieces_of_mem_flattenAll {layout : Layout} {options : RenderOptions}
    (clean : (layout.nesting options).allFaults = []) {xml : Text}
    (member : .verbatim xml ∈ Node.flattenAll (layout.nesting options).nodes) :
    .verbatim xml ∈ layout.pieces := by
  rw [nesting, (Nesting.faithful_of_faultless clean).2] at member
  obtain ⟨place, _, found⟩ := List.mem_filterMap.mp (Piece.mem_of_verbatim_mem_canonical member)
  exact Array.mem_of_getElem? found

/-- The text that an evaluation places. -/
def Evaluation.text? : Evaluation → Option Text
  | .value scopes tag => tag.ownText? scopes
  | .block _ _ => none

/-- The texts that the data gives to the tags of a part, in the order in which they are placed. -/
def Layout.placedTexts (layout : Layout) (data : Value) (options : RenderOptions) : List Text :=
  (Node.evaluationsAll [data] (layout.nesting options).nodes).filterMap Evaluation.text?

namespace Entity

/-- Escaping replaces characters that XML allows, and leaves the others where they are. -/
theorem mem_escape {c : Char} (illegal : isXmlChar c = false) (s : Text) :
    c ∈ escape s ↔ c ∈ s := by
  have same (d : Char) : c ∈ escapeChar d ↔ c = d := by
    have other {e : Char} {written : Text} (allowed : isXmlChar e = true) (legal : written.Legal) :
        c ∈ written ↔ c = e := by
      refine ⟨fun member => absurd member (legal.not_mem illegal), ?_⟩
      rintro rfl
      rw [allowed] at illegal
      cases illegal
    unfold escapeChar
    split
    · next amp =>
      subst amp
      exact other (by decide) (by decide)
    · split
      · next less =>
        subst less
        exact other (by decide) (by decide)
      · split
        · next greater =>
          subst greater
          exact other (by decide) (by decide)
        · exact List.mem_singleton
  simp [escape, List.mem_flatMap, same]

end Entity

theorem mem_chomp {c : Char} (other : c ≠ '\r') (line : Text) : c ∈ chomp line ↔ c ∈ line := by
  unfold chomp
  split
  · next last =>
    obtain ⟨front, rfl⟩ := List.getLast?_eq_some_iff.mp last
    simp [other]
  · rfl

/-- A character that XML forbids goes from a value into its XML. -/
theorem mem_valueXml {c : Char} (illegal : isXmlChar c = false) (linebreaks : Bool) (text : Text) :
    c ∈ valueXml linebreaks text ↔ c ∈ text := by
  have breaks : lineBreakXml.Legal := by decide +kernel
  have feed : c ∉ ['\n'] := Text.Legal.not_mem (by decide) illegal
  have back : c ≠ '\r' := by
    rintro rfl
    cases illegal
  unfold valueXml
  split
  · have lines := Text.mem_intercalate feed (text.splitOn '\n')
    rw [List.intercalate_splitOn] at lines
    rw [Text.mem_intercalate (breaks.not_mem illegal), lines]
    simp [Entity.mem_escape illegal, mem_chomp back]
  · exact Entity.mem_escape illegal text

theorem Draft.mem_write {c : Char} (draft : Draft) (xml : Text) :
    c ∈ (draft.write xml).xml ↔ c ∈ draft.xml ∨ c ∈ xml := by
  rw [Draft.xml_write, List.mem_append]

namespace Node

/-- A character that XML forbids, and that stands nowhere in the XML of a tree, is written exactly
with the texts that hold it. -/
theorem mem_renderAll_xml {c : Char} (illegal : isXmlChar c = false) (nodes : List Node)
    (verbatim : ∀ xml, .verbatim xml ∈ flattenAll nodes → c ∉ xml) (linebreaks : Bool)
    (scopes : List Value) (draft : Draft) :
    c ∈ (renderAll linebreaks scopes draft nodes).xml ↔ c ∈ draft.xml ∨
      ∃ text ∈ (evaluationsAll scopes nodes).filterMap Evaluation.text?, c ∈ text := by
  induction nodes using Node.row_induction generalizing scopes draft with
  | nil => simp [evaluationsAll]
  | verbatim xml rest ih =>
    have nowhere : c ∉ xml := verbatim xml (by simp)
    rw [renderAll_verbatim, ih fun xml member => verbatim xml (by simp [member])]
    simp [evaluationsAll, evaluations, Draft.mem_write, nowhere]
  | value tag rest ih =>
    have later := ih fun xml member => verbatim xml (by simp [member])
    rw [renderAll_value, later, evaluationsAll, evaluations, List.filterMap_append]
    rcases tag.valueXml_cases linebreaks scopes with ⟨text, own, written⟩ | ⟨none, fault, failed⟩
    · simp [written, Evaluation.text?, own, Draft.mem_write, mem_valueXml illegal, or_assoc]
    · simp [failed, Evaluation.text?, none, Draft.report, Draft.xml]
  | block tag body rest ihBody ih =>
    have inner := ihBody fun xml member => verbatim xml (by simp [member])
    have later := ih fun xml member => verbatim xml (by simp [member])
    rw [renderAll_block, later, evaluationsAll, evaluations, List.filterMap_append]
    rcases tag.sectionScopes_or_fails scopes with ⟨given, _⟩ | ⟨fault, failed, none, _⟩
    · -- the turns one after the other, each behind what those before have written
      have turned (turns : List (List Value)) (draft : Draft) :
          c ∈ (turns.foldl (fun draft inner => renderAll linebreaks inner draft body) draft).xml ↔
            c ∈ draft.xml ∨ ∃ text ∈ (turns.flatMap fun inner =>
              evaluationsAll inner body).filterMap Evaluation.text?, c ∈ text := by
        induction turns generalizing draft with
        | nil => simp
        | cons turn turns ihTurns =>
          rw [List.foldl_cons, ihTurns, inner, List.flatMap_cons, List.filterMap_append]
          simp only [List.mem_append, or_and_right, exists_or, or_assoc]
      rw [given]
      dsimp only
      rw [turned, List.filterMap_cons]
      simp only [Evaluation.text?, List.mem_append, or_and_right, exists_or, or_assoc]
    · simp [failed, none, Evaluation.text?, Draft.report, Draft.xml]

/-- What an evaluation places is a string of the scopes, a number or a word. -/
theorem legal_of_mem_evaluationsAll (nodes : List Node) {scopes : List Value}
    (legal : ∀ scope ∈ scopes, ∀ s, scope.Holds s → s.Legal) {text : Text}
    (placed : text ∈ (evaluationsAll scopes nodes).filterMap Evaluation.text?) : text.Legal := by
  induction nodes using Node.row_induction generalizing scopes with
  | nil => simp [evaluationsAll] at placed
  | verbatim xml rest ih =>
    rw [evaluationsAll, List.filterMap_append, List.mem_append] at placed
    exact placed.elim (by simp [evaluations]) (ih legal)
  | value tag rest ih =>
    rw [evaluationsAll, List.filterMap_append, List.mem_append] at placed
    refine placed.elim (fun here => ?_) (ih legal)
    obtain ⟨evaluation, member, own⟩ := List.mem_filterMap.mp here
    cases List.mem_singleton.mp member
    rw [Evaluation.text?, PlacedTag.ownText?] at own
    obtain ⟨value, found, own⟩ := Option.bind_eq_some_iff.mp own
    rw [← value.text?_eq_ownText?] at own
    refine Value.text?_induction (P := Text.Legal) (by decide) (fun _ numeric => numeric.legal)
      (fun s held => ?_) own
    obtain ⟨scope, among, outer⟩ := Scope.holds_of_lookup? found held
    exact legal scope among s outer
  | block tag body rest ihBody ih =>
    rw [evaluationsAll, List.filterMap_append, List.mem_append] at placed
    refine placed.elim (fun here => ?_) (ih legal)
    rw [evaluations, List.filterMap_cons, Evaluation.text?] at here
    obtain ⟨evaluation, member, own⟩ := List.mem_filterMap.mp here
    obtain ⟨turn, given, member⟩ := List.mem_flatMap.mp member
    have inBody : text ∈ (evaluationsAll turn body).filterMap Evaluation.text? :=
      List.mem_filterMap.mpr ⟨evaluation, member, own⟩
    refine ihBody (fun scope among s held => ?_) inBody
    rcases tag.sectionScopes_or_fails scopes with ⟨found, _⟩ | ⟨_, _, none, _⟩
    · obtain ⟨outer, inside, there⟩ := PlacedTag.holds_of_sectionScopes found given among held
      exact legal outer inside s there
    · rw [none] at given
      cases given

end Node

namespace Cell

/-- The repair adds no characters but those of an empty paragraph. -/
theorem Mended.mem_spell {items mended : List Item} (mends : Mended items mended) {c : Char}
    (other : c ∉ emptyParagraph) : c ∈ Item.spell mended ↔ c ∈ Item.spell items := by
  induction mends with
  | nil => rfl
  | copy item _ ih =>
    rw [Item.spell, Item.spell, List.flatMap_cons, List.flatMap_cons, List.mem_append,
      List.mem_append]
    exact or_congr_right ih
  | fill raw _ ih =>
    rw [Item.spell, Item.spell, List.flatMap_cons, List.flatMap_cons, List.flatMap_cons,
      List.mem_append, List.mem_append, List.mem_append]
    simp only [Item.raw, other, false_or]
    exact or_congr_right ih

theorem mem_repair {c : Char} (other : c ∉ emptyParagraph) (source : Text) :
    c ∈ repair source ↔ c ∈ source := by
  have same := (filled_repairAll source).mended.mem_spell other
  rwa [Item.spell_scan, Item.spell_scan, ← repair_eq_repairAll] at same

end Cell

/-- A character that XML forbids stands in the part rendered from a legal one exactly if a text with
it was placed; so the result is legal exactly if the placed texts are, and it is if all strings of
the data are. -/
theorem renderPart_legal {source out : Text} {data : Value} {options : RenderOptions}
    (legal : source.Legal) (rendered : renderPart source data options = .ok out) :
    (∀ c, isXmlChar c = false →
      (c ∈ out ↔ ∃ text ∈ (Layout.ofPart source).placedTexts data options, c ∈ text)) ∧
    (out.Legal ↔ ∀ text ∈ (Layout.ofPart source).placedTexts data options, text.Legal) ∧
    ((∀ s, data.Holds s → s.Legal) → out.Legal) := by
  obtain ⟨_, clean, _, rfl⟩ := exists_of_renderPart rendered
  have added : preserveAttribute.Legal ∧ Cell.emptyParagraph.Legal := by decide +kernel
  have origin : ∀ c, isXmlChar c = false → (c ∈ Cell.repair (Node.renderAll options.linebreaks
      [data] {} ((Layout.ofPart source).nesting options).nodes).xml ↔
        ∃ text ∈ (Layout.ofPart source).placedTexts data options, c ∈ text) := by
    intro c illegal
    rw [Cell.mem_repair (added.2.not_mem illegal), Node.mem_renderAll_xml illegal]
    · simp [Draft.xml, Layout.placedTexts]
    · intro xml member inside
      have known := Layout.subset_of_mem_pieces
        (Layout.mem_pieces_of_mem_flattenAll clean member) inside
      rcases List.mem_append.mp known with fromSource | fromAttribute
      · exact legal.not_mem illegal fromSource
      · exact added.1.not_mem illegal fromAttribute
  have whole : (Cell.repair (Node.renderAll options.linebreaks [data] {}
      ((Layout.ofPart source).nesting options).nodes).xml).Legal ↔
        ∀ text ∈ (Layout.ofPart source).placedTexts data options, text.Legal := by
    constructor
    · intro out text placed
      rw [Text.legal_iff] at out ⊢
      exact fun c illegal inside => out c illegal ((origin c illegal).mpr ⟨text, placed, inside⟩)
    · intro texts
      rw [Text.legal_iff]
      intro c illegal inside
      obtain ⟨text, placed, there⟩ := (origin c illegal).mp inside
      exact (texts text placed).not_mem illegal there
  refine ⟨origin, whole, fun strings => whole.mpr fun text placed => ?_⟩
  exact Node.legal_of_mem_evaluationsAll _ (List.forall_mem_singleton.mpr strings) placed

theorem renderPart_legal_notePart :
    ∃ out, renderPart notePart (noteData ['a', '\t', 'b']) {} = .ok out ∧ notePart.Legal ∧
      out.Legal := by
  have rendered := renderPart_notePart ['a', '\t', 'b']
  have legal : notePart.Legal := by decide +kernel
  refine ⟨_, rendered, legal, (renderPart_legal legal rendered).2.2 fun s held => ?_⟩
  cases held with
  | member found held =>
    cases List.mem_singleton.mp found
    cases held
    decide

/-- A control character of the data comes into the part, where XML forbids it. -/
theorem not_legal_controlValue :
    ∃ out, renderPart notePart (noteData ['a', '\x01', 'b']) {} = .ok out ∧ notePart.Legal ∧
      ¬ out.Legal :=
  ⟨_, renderPart_notePart _, by decide +kernel, by decide +kernel⟩

end WordMerge
