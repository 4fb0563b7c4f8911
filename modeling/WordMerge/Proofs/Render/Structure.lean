import WordMerge.Proofs.Markup.References
import WordMerge.Proofs.Template.SectionReading
import WordMerge.Proofs.Template.WidenedOrder
import WordMerge.Render.Draft

namespace WordMerge

theorem Entity.not_mem_escape (s : Text) : '<' ∉ escape s :=
  not_mem_escape_of_angle (.inl rfl) s

/-- What holds of some lines and of what stands between them, and is kept when texts are put together,
holds of all the lines together. -/
theorem Text.intercalate_induction {motive : Text → Prop} (nil : motive [])
    (append : ∀ a b, motive a → motive b → motive (a ++ b)) {separator : Text} {lines : List Text}
    (between : motive separator) (each : ∀ line ∈ lines, motive line) :
    motive (separator.intercalate lines) := by
  induction lines with
  | nil => exact nil
  | cons line rest ih =>
    rw [List.forall_mem_cons] at each
    cases rest with
    | nil =>
      rw [List.intercalate_singleton]
      exact each.1
    | cons next rest =>
      rw [List.intercalate_cons_cons]
      exact append _ _ (append _ _ each.1 between) (ih each.2)

namespace Edge

/-- Whether some XML has its ends and leaves the given elements open that were open before. -/
structure Keeps (xml : Text) (opened : List Text) : Prop where
  whole : Text.Whole xml
  walked : walk opened (scan xml) = some opened

theorem keeps_of_plain {xml : Text} (plain : '<' ∉ xml) (opened : List Text) :
    Keeps xml opened :=
  ⟨Text.whole_of_plain plain, by rw [scan_of_plain plain, walk_nil]⟩

theorem Keeps.append {a b : Text} {opened : List Text} (first : Keeps a opened)
    (second : Keeps b opened) : Keeps (a ++ b) opened := by
  refine ⟨first.whole.append second.whole, ?_⟩
  rw [scan_append first.whole, walk_append, first.walked, Option.bind_some, second.walked]

/-- A line break closes the text element and opens another one. -/
theorem keeps_lineBreakXml {outer : List Text} (outside : outer.head? ≠ some textName) :
    Keeps lineBreakXml (textName :: outer) := by
  have edges : scan lineBreakXml = [textClosing, ⟨breakName, .empty⟩, textOpening] := by
    decide +kernel
  have ends : ∀ raw ∈ Item.markups lineBreakXml, Item.finished raw = true := by
    decide +kernel
  refine ⟨Text.whole_iff.mpr ends, ?_⟩
  simp [edges, walk, passInText, pass, textClosing, textOpening, breakName, outside]

/-- A value stays inside its text element. -/
theorem keeps_valueXml (linebreaks : Bool) (text : Text) {outer : List Text}
    (outside : outer.head? ≠ some textName) :
    Keeps (valueXml linebreaks text) (textName :: outer) := by
  unfold valueXml
  split
  · refine Text.intercalate_induction (motive := fun xml => Keeps xml (textName :: outer))
      (keeps_of_plain (by simp) _) (fun _ _ first second => first.append second)
      (keeps_lineBreakXml outside) fun line member => ?_
    obtain ⟨_, _, rfl⟩ := List.mem_map.mp member
    exact keeps_of_plain (Entity.not_mem_escape _) _
  · exact keeps_of_plain (Entity.not_mem_escape text) _

end Edge

namespace Node

/-- Passing a section is passing its body and what follows it. -/
theorem passAll_flattenAll_block {tag : PlacedTag} {body rest : List Node}
    {opened after : List Text} (opens : tag.kind.opens = true)
    (passed : Piece.passAll opened (flattenAll (.block tag body :: rest)) = some after) :
    ∃ between, Piece.passAll opened (flattenAll body) = some between ∧
      Piece.passAll between (flattenAll rest) = some after := by
  rw [flattenAll_block, Piece.passAll_cons, Piece.pass_opening opens, Option.bind_some,
    Piece.passAll_append] at passed
  obtain ⟨between, inside, later⟩ := Option.bind_eq_some_iff.mp passed
  rw [Piece.passAll_cons, Piece.pass_ending] at later
  exact ⟨between, inside, later⟩

theorem pass_value {tag : PlacedTag} (kind : tag.kind = .value) {opened after : List Text}
    (passed : Piece.pass opened (.tag tag) = some after) :
    opened.head? = some textName ∧ after = opened := by
  simp only [Piece.pass, kind, true_and] at passed
  split at passed
  · cases passed
  · next inside => exact ⟨Decidable.not_not.mp inside, (Option.some.inj passed).symm⟩

/-- The XML directly in a row of nodes passes like all of it: the sections in it leave the open
elements as they were. -/
theorem passAll_ownEdges (nodes : List Node) {levels : Nat} (sound : SoundAll levels nodes)
    {opened after : List Text}
    (passed : Piece.passAll opened (flattenAll nodes) = some after) :
    Edge.passAll opened (ownEdges nodes) = some after := by
  induction nodes using Node.row_induction generalizing levels opened after with
  | nil => exact passed
  | verbatim xml rest ih =>
    obtain ⟨_, sound⟩ := soundAll_cons.mp sound
    obtain ⟨between, here, later⟩ := Option.bind_eq_some_iff.mp passed
    have walked : Edge.walk opened (Edge.scan xml) = some between := here
    rw [ownEdges_verbatim, Edge.passAll_append, Edge.passAll_of_walk walked, Option.bind_some]
    exact ih sound later
  | value tag rest ih =>
    obtain ⟨kind, sound⟩ := soundAll_cons.mp sound
    obtain ⟨between, here, later⟩ := Option.bind_eq_some_iff.mp passed
    obtain ⟨_, rfl⟩ := pass_value (sound_value.mp kind) here
    exact ih sound later
  | block tag body rest ihBody ih =>
    obtain ⟨blockSound, sound⟩ := soundAll_cons.mp sound
    obtain ⟨below, _, opens, bodySound, repeats⟩ := sound_block.mp blockSound
    obtain ⟨between, inside, later⟩ := passAll_flattenAll_block opens passed
    have same : between = opened := Balance.passAll_eq_of_repeats repeats (ihBody bodySound inside)
    rw [same] at later
    exact ih sound later

/-- How a row of nodes passes through elements: XML from the ones that are open to the ones it
leaves open, a value in a text element, and a section with a body that leaves them as they were. The
XML has the property `P` with the elements that are open in front of it. -/
inductive Passes (P : List Text → Text → Prop) : List Text → List Node → List Text → Prop
  | nil {opened : List Text} : Passes P opened [] opened
  | verbatim {opened between after : List Text} {xml : Text} {rest : List Node} :
      P opened xml → Edge.walk opened (Edge.scan xml) = some between → Passes P between rest after →
      Passes P opened (.verbatim xml :: rest) after
  | value {opened after : List Text} {tag : PlacedTag} {rest : List Node} :
      opened.head? = some textName → Passes P opened rest after →
      Passes P opened (.value tag :: rest) after
  | block {opened after : List Text} {tag : PlacedTag} {body rest : List Node} :
      Passes P opened body opened → Passes P opened rest after →
      Passes P opened (.block tag body :: rest) after

/-- What the pieces of a section meet, its body meets and what follows it. -/
theorem meets_flattenAll_block {P : List Text → Text → Prop} {tag : PlacedTag}
    {body rest : List Node} {opened between : List Text} (opens : tag.kind.opens = true)
    (meets : Piece.Meets P opened (flattenAll (.block tag body :: rest)))
    (passed : Piece.passAll opened (flattenAll body) = some between) :
    Piece.Meets P opened (flattenAll body) ∧ Piece.Meets P between (flattenAll rest) := by
  rw [flattenAll_block] at meets
  obtain ⟨inside, later⟩ := Piece.meets_append.mp (meets.2 opened (Piece.pass_opening opens opened))
  exact ⟨inside, (later between passed).2 between (Piece.pass_ending tag between)⟩

/-- A sound tree passes node by node as its pieces do one after the other. -/
theorem passes_of_sound {P : List Text → Text → Prop} (nodes : List Node) {levels : Nat}
    (sound : SoundAll levels nodes) {opened after : List Text}
    (passed : Piece.passAll opened (flattenAll nodes) = some after)
    (meets : Piece.Meets P opened (flattenAll nodes)) : Passes P opened nodes after := by
  induction nodes using Node.row_induction generalizing levels opened after with
  | nil =>
    cases passed
    exact .nil
  | verbatim xml rest ih =>
    obtain ⟨_, sound⟩ := soundAll_cons.mp sound
    obtain ⟨between, here, later⟩ := Option.bind_eq_some_iff.mp passed
    exact .verbatim (meets.1 xml rfl) here (ih sound later (meets.2 between here))
  | value tag rest ih =>
    obtain ⟨kind, sound⟩ := soundAll_cons.mp sound
    obtain ⟨between, here, later⟩ := Option.bind_eq_some_iff.mp passed
    have behind := meets.2 between here
    obtain ⟨inside, rfl⟩ := pass_value (sound_value.mp kind) here
    exact .value inside (ih sound later behind)
  | block tag body rest ihBody ih =>
    obtain ⟨blockSound, sound⟩ := soundAll_cons.mp sound
    obtain ⟨below, _, opens, bodySound, repeats⟩ := sound_block.mp blockSound
    obtain ⟨between, inside, later⟩ := passAll_flattenAll_block opens passed
    have same : between = opened :=
      Balance.passAll_eq_of_repeats repeats (passAll_ownEdges body bodySound inside)
    rw [same] at inside later
    obtain ⟨within, behind⟩ := meets_flattenAll_block opens meets inside
    exact .block (ihBody bodySound inside within) (ih sound later behind)

@[simp] theorem renderAll_nil (linebreaks : Bool) (scopes : List Value) (draft : Draft) :
    renderAll linebreaks scopes draft [] = draft := rfl

@[simp] theorem renderAll_verbatim (linebreaks : Bool) (scopes : List Value) (draft : Draft)
    (xml : Text) (rest : List Node) :
    renderAll linebreaks scopes draft (.verbatim xml :: rest) =
      renderAll linebreaks scopes (draft.write xml) rest := rfl

theorem renderAll_value (linebreaks : Bool) (scopes : List Value) (draft : Draft)
    (tag : PlacedTag) (rest : List Node) :
    renderAll linebreaks scopes draft (.value tag :: rest) =
      renderAll linebreaks scopes (match tag.valueXml linebreaks scopes with
        | .ok xml => draft.write xml
        | .error fault => draft.report fault) rest := rfl

theorem renderAll_block (linebreaks : Bool) (scopes : List Value) (draft : Draft)
    (tag : PlacedTag) (body rest : List Node) :
    renderAll linebreaks scopes draft (.block tag body :: rest) =
      renderAll linebreaks scopes (match tag.sectionScopes scopes with
        | .ok turns => turns.foldl (fun draft inner => renderAll linebreaks inner draft body) draft
        | .error fault => draft.report fault) rest := rfl

end Node

/-- What a value tag writes is some text, line by line. -/
theorem PlacedTag.exists_of_valueXml_eq_ok {linebreaks : Bool} {scopes : List Value}
    {tag : PlacedTag} {xml : Text} (written : tag.valueXml linebreaks scopes = .ok xml) :
    ∃ text, xml = WordMerge.valueXml linebreaks text := by
  unfold PlacedTag.valueXml at written
  split at written
  · cases written
  · split at written
    · cases written
    · next text _ => exact ⟨text, (Except.ok.inj written).symm⟩

/-- A draft that has its ends and leaves the given elements open. -/
structure Draft.Leaves (draft : Draft) (opened : List Text) : Prop where
  whole : Text.Whole draft.xml
  walked : Edge.walk [] (Edge.scan draft.xml) = some opened

theorem Draft.xml_write (draft : Draft) (xml : Text) :
    (draft.write xml).xml = draft.xml ++ xml := by
  simp [Draft.xml, Draft.write]

theorem Draft.Leaves.write {draft : Draft} {opened after : List Text} (leaves : draft.Leaves opened)
    {xml : Text} (whole : Text.Whole xml)
    (passed : Edge.walk opened (Edge.scan xml) = some after) : (draft.write xml).Leaves after := by
  obtain ⟨ends, walked⟩ := leaves
  refine ⟨?_, ?_⟩
  · rw [Draft.xml_write]
    exact ends.append whole
  · rw [Draft.xml_write, Edge.scan_append ends, Edge.walk_append, walked, Option.bind_some, passed]

/-- No text element is open around the one in which a draft ends. -/
theorem Draft.Leaves.outside {draft : Draft} {outer : List Text}
    (leaves : draft.Leaves (textName :: outer)) : outer.head? ≠ some textName := fun again =>
  Edge.walk_innermost leaves.walked (by simp [TextInnermost]) (List.mem_of_mem_head? again)

theorem Draft.Leaves.report {draft : Draft} {opened : List Text} (leaves : draft.Leaves opened)
    (fault : TagFault) : (draft.report fault).Leaves opened :=
  ⟨leaves.whole, leaves.walked⟩

namespace Node

/-- What every write keeps, evaluation keeps: the XML of the nodes is written among the elements among
which it passes, a value in a text element, and a section any number of times, each turn with allowed
scopes. -/
theorem renderAll_induction {P : List Text → Text → Prop} {nodes : List Node}
    {opened after : List Text} (passes : Passes P opened nodes after) {linebreaks : Bool}
    (allowed : List Value → Prop) {motive : List Text → Draft → Prop}
    (verbatim : ∀ xml, .verbatim xml ∈ flattenAll nodes → ∀ {opened after draft}, P opened xml →
      Edge.walk opened (Edge.scan xml) = some after → motive opened draft →
      motive after (draft.write xml))
    (value : ∀ {scopes tag xml outer draft}, allowed scopes →
      PlacedTag.valueXml linebreaks scopes tag = .ok xml → motive (textName :: outer) draft →
      motive (textName :: outer) (draft.write xml))
    (report : ∀ {opened draft} fault, motive opened draft → motive opened (draft.report fault))
    (turns : ∀ {scopes tag turns}, allowed scopes → PlacedTag.sectionScopes scopes tag = .ok turns →
      ∀ turn ∈ turns, allowed turn)
    {scopes : List Value} (start : allowed scopes) {draft : Draft} (before : motive opened draft) :
    motive after (renderAll linebreaks scopes draft nodes) := by
  induction passes generalizing scopes draft with
  | nil => exact before
  | verbatim here walked _ ih =>
    rw [renderAll_verbatim]
    refine ih (fun xml member => verbatim xml (by simp [member])) start ?_
    exact verbatim _ (by simp) here walked before
  | value inside _ ih =>
    rw [renderAll_value]
    refine ih (fun xml member => verbatim xml (by simp [member])) start ?_
    obtain ⟨outer, rfl⟩ := List.head?_eq_some_iff.mp inside
    split
    · next xml written => exact value start written before
    · exact report _ before
  | @block opened _ _ _ _ _ _ ihBody ih =>
    rw [renderAll_block]
    refine ih (fun xml member => verbatim xml (by simp [member])) start ?_
    split
    · next given =>
      -- every turn starts and ends with the same elements open
      refine List.foldlRecOn (motive := fun draft : Draft => motive opened draft) _ _
        before fun draft before turn member => ?_
      exact ihBody (fun xml member => verbatim xml (by simp [member])) (turns start given turn member)
        before
    · exact report _ before

/-- What evaluation writes leaves the elements open that the nodes themselves pass to, however often
their sections are written. -/
theorem renderAll_leaves {P : List Text → Text → Prop} {nodes : List Node}
    {opened after : List Text} (passes : Passes P opened nodes after)
    (whole : ∀ xml, .verbatim xml ∈ flattenAll nodes → Text.Whole xml) (linebreaks : Bool)
    (scopes : List Value) {draft : Draft} (leaves : draft.Leaves opened) :
    (renderAll linebreaks scopes draft nodes).Leaves after := by
  refine renderAll_induction passes (fun _ => True) (motive := fun opened draft => draft.Leaves opened)
    (fun xml member _ _ _ _ walked leaves => leaves.write (whole xml member) walked) ?_
    (fun fault leaves => leaves.report fault) (fun _ _ _ _ => trivial) trivial leaves
  intro _ _ xml outer draft _ written leaves
  obtain ⟨text, rfl⟩ := PlacedTag.exists_of_valueXml_eq_ok written
  have keeps := Edge.keeps_valueXml linebreaks text leaves.outside
  exact leaves.write keeps.whole keeps.walked

end Node

end WordMerge
