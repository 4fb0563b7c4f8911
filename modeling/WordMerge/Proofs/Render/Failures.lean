import WordMerge.Proofs.Render.Finished
import WordMerge.Proofs.Render.RunSplitting
import WordMerge.Proofs.Template.Lossless

namespace WordMerge

namespace PlacedTag

/-- What is wrong with a value tag in a stack of scopes: nothing there has its name, or what has it
is no scalar. -/
def valueFailure? (scopes : List Value) (tag : PlacedTag) : Option TagFault :=
  match Scope.lookup? scopes tag.name with
  | none => some (.undefinedTag tag.name)
  | some (.list _) => some (.valueTypeMismatch tag.name "a list".toList)
  | some (.object _) => some (.valueTypeMismatch tag.name "an object".toList)
  | some _ => none

/-- What is wrong with a section tag in a stack of scopes: nothing there has its name, or what has
it says nothing about turns. A section that stands in for nothing takes everything. -/
def sectionFailure? (scopes : List Value) (tag : PlacedTag) : Option TagFault :=
  if tag.kind = .inverted then none
  else
    match Scope.lookup? scopes tag.name with
    | none => some (.undefinedTag tag.name)
    | some (.string _) => some (.loopTypeMismatch tag.name "a string".toList)
    | some (.number _) => some (.loopTypeMismatch tag.name "a number".toList)
    | some _ => none

/-- The scopes of the body of a section, turn by turn. A section that fails has no turn. -/
def bodyScopes (scopes : List Value) (tag : PlacedTag) : List (List Value) :=
  (tag.turns? scopes).getD []

/-- A value tag writes something unless it fails. -/
theorem valueXml_or_fails (linebreaks : Bool) (scopes : List Value) (tag : PlacedTag) :
    (∃ xml, tag.valueXml linebreaks scopes = .ok xml ∧ tag.valueFailure? scopes = none) ∨
      ∃ fault, tag.valueXml linebreaks scopes = .error fault ∧
        tag.valueFailure? scopes = some fault := by
  unfold valueXml valueFailure?
  cases Scope.lookup? scopes tag.name with
  | none => exact .inr ⟨_, rfl, rfl⟩
  | some value =>
    cases value with
    | null => exact .inl ⟨_, rfl, rfl⟩
    | bool b => cases b <;> exact .inl ⟨_, rfl, rfl⟩
    | number n => exact .inl ⟨_, rfl, rfl⟩
    | string s => exact .inl ⟨_, rfl, rfl⟩
    | list items => exact .inr ⟨_, rfl, rfl⟩
    | object members => exact .inr ⟨_, rfl, rfl⟩

/-- A section has its turns unless its tag fails, and then it has none. -/
theorem sectionScopes_or_fails (scopes : List Value) (tag : PlacedTag) :
    (tag.sectionScopes scopes = .ok (tag.bodyScopes scopes) ∧ tag.sectionFailure? scopes = none) ∨
      ∃ fault, tag.sectionScopes scopes = .error fault ∧ tag.bodyScopes scopes = [] ∧
        tag.sectionFailure? scopes = some fault := by
  unfold sectionScopes bodyScopes turns? sectionFailure?
  cases tag.kind with
  | inverted =>
    cases Scope.lookup? scopes tag.name with
    | none => exact .inl ⟨rfl, rfl⟩
    | some value => exact .inl ⟨by simp [value.isFalsy_eq_isVoid], rfl⟩
  | value | opening | closing =>
    cases Scope.lookup? scopes tag.name with
    | none => exact .inr ⟨_, rfl, rfl, rfl⟩
    | some value =>
      cases value with
      | null => exact .inl ⟨rfl, rfl⟩
      | bool b => cases b <;> exact .inl ⟨rfl, rfl⟩
      | number n => exact .inr ⟨_, rfl, rfl, rfl⟩
      | string s => exact .inr ⟨_, rfl, rfl, rfl⟩
      | list items => exact .inl ⟨rfl, rfl⟩
      | object members => exact .inl ⟨rfl, rfl⟩

end PlacedTag

/-- The evaluation of a tag in a stack of scopes. -/
inductive Evaluation where
  /-- A value is written. -/
  | value (scopes : List Value) (tag : PlacedTag)
  /-- The turns of a section are found out. -/
  | block (scopes : List Value) (tag : PlacedTag)

/-- What is wrong with an evaluation, if it fails. -/
def Evaluation.failure? : Evaluation → Option TagFault
  | .value scopes tag => tag.valueFailure? scopes
  | .block scopes tag => tag.sectionFailure? scopes

namespace Node

mutual

/-- The evaluations of the tags in a node in the order in which they are due. -/
def evaluations (scopes : List Value) : Node → List Evaluation
  | .verbatim _ => []
  | .value tag => [.value scopes tag]
  | .block tag body =>
    .block scopes tag :: (tag.bodyScopes scopes).flatMap fun inner => evaluationsAll inner body

/-- The evaluations of the tags in some nodes one after the other. -/
def evaluationsAll (scopes : List Value) : List Node → List Evaluation
  | [] => []
  | node :: rest => evaluations scopes node ++ evaluationsAll scopes rest

end

/-- Turns note what is wrong with the evaluations in them, each behind what the turns before it
noted. -/
theorem turns_faults {linebreaks : Bool} {body : List Node}
    (noted : ∀ inner draft, (renderAll linebreaks inner draft body).faults.reverse =
      draft.faults.reverse ++ (evaluationsAll inner body).filterMap Evaluation.failure?)
    (turns : List (List Value)) (draft : Draft) :
    (turns.foldl (fun draft inner => renderAll linebreaks inner draft body) draft).faults.reverse =
      draft.faults.reverse ++
        (turns.flatMap fun inner => evaluationsAll inner body).filterMap Evaluation.failure? := by
  induction turns generalizing draft with
  | nil => simp
  | cons inner turns ih =>
    rw [List.foldl_cons, ih, noted, List.flatMap_cons, List.filterMap_append, List.append_assoc]

/-- Evaluation notes what is wrong with each evaluation, behind what it noted before. -/
theorem renderAll_faults (linebreaks : Bool) (nodes : List Node) (scopes : List Value)
    (draft : Draft) :
    (renderAll linebreaks scopes draft nodes).faults.reverse =
      draft.faults.reverse ++ (evaluationsAll scopes nodes).filterMap Evaluation.failure? := by
  induction nodes using Node.row_induction generalizing scopes draft with
  | nil => simp [evaluationsAll]
  | verbatim xml rest ih =>
    rw [renderAll_verbatim, ih]
    rfl
  | value tag rest ih =>
    rw [renderAll_value, ih, evaluationsAll, evaluations, List.filterMap_append]
    rcases tag.valueXml_or_fails linebreaks scopes with ⟨xml, written, none⟩ | ⟨fault, failed, some⟩
    · simp [written, Evaluation.failure?, none, Draft.write]
    · simp [failed, Evaluation.failure?, some, Draft.report]
  | block tag body rest ihBody ih =>
    rw [renderAll_block, ih, evaluationsAll, evaluations, List.filterMap_append]
    rcases tag.sectionScopes_or_fails scopes with ⟨given, none⟩ | ⟨fault, failed, still, some⟩
    · simp [given, Evaluation.failure?, none, turns_faults ihBody]
    · simp [failed, still, Evaluation.failure?, some, Draft.report]

/-- Nodes without sections are evaluated as the pieces that they spell. -/
theorem evaluationsAll_of_values (nodes : List Node) (scopes : List Value)
    (values : ∀ tag, .tag tag ∈ flattenAll nodes → tag.kind = .value) :
    evaluationsAll scopes nodes =
      (flattenAll nodes).filterMap fun piece => piece.tag?.map (.value scopes) := by
  induction nodes using Node.row_induction with
  | nil => rfl
  | verbatim xml rest ih =>
    rw [evaluationsAll, ih fun tag member => values tag (List.mem_cons_of_mem _ member)]
    rfl
  | value tag rest ih =>
    rw [evaluationsAll, ih fun tag member => values tag (List.mem_cons_of_mem _ member)]
    rfl
  | block tag body rest _ _ =>
    -- a section has a closing tag
    have closing := values tag.ending (by simp)
    cases closing

end Node

/-- What the data cannot give to the tags of a part. -/
def Layout.failures (layout : Layout) (data : Value) (options : RenderOptions) : List TagFault :=
  (Node.evaluationsAll [data] (layout.nesting options).nodes).filterMap Evaluation.failure?

namespace SectionPairs

/-- Values belong to no section. -/
theorem scan_of_values {pieces : List Piece} (values : ∀ tag, .tag tag ∈ pieces → tag.kind = .value)
    (found : SectionPairs) (place : Nat) : found.scan place pieces = found := by
  induction pieces generalizing found place with
  | nil => rfl
  | cons piece rest ih =>
    rw [scan, ih fun tag member => values tag (List.mem_cons_of_mem _ member)]
    cases piece with
    | verbatim xml => rfl
    | tag tag => simp [step, values tag List.mem_cons_self]

theorem ofPieces_of_values {pieces : List Piece}
    (values : ∀ tag, .tag tag ∈ pieces → tag.kind = .value) : ofPieces pieces = [] := by
  rw [ofPieces, scan_of_values values, List.mergeSort_nil]

end SectionPairs

/-- Pieces without section tags are well nested. -/
theorem Piece.wellNested_of_values {pieces : List Piece}
    (values : ∀ tag, .tag tag ∈ pieces → tag.kind = .value) (levels : Nat) :
    ∃ edges, WellNested levels pieces edges := by
  induction pieces with
  | nil => exact ⟨[], .nil⟩
  | cons piece rest ih =>
    obtain ⟨edges, nested⟩ := ih fun tag member => values tag (List.mem_cons_of_mem _ member)
    cases piece with
    | verbatim xml => exact ⟨_, .verbatim nested⟩
    | tag tag => exact ⟨edges, .value (values tag List.mem_cons_self) nested⟩

/-- Empty XML aside, nothing is left out of pieces without closing tags. -/
theorem Piece.filterMap_tag_canonical {pieces : List Piece}
    (values : ∀ tag, .tag tag ∈ pieces → tag.kind = .value) :
    (canonical pieces).filterMap Piece.tag? = pieces.filterMap Piece.tag? := by
  induction pieces with
  | nil => rfl
  | cons piece rest ih =>
    have later := ih fun tag member => values tag (List.mem_cons_of_mem _ member)
    cases piece with
    | verbatim xml =>
      by_cases empty : xml = []
      · subst empty
        rw [canonical_empty, later]
        rfl
      · rw [canonical_cons (by simpa using empty), List.filterMap_cons, later]
        rfl
    | tag tag =>
      have other : tag.kind ≠ .closing := by simp [values tag List.mem_cons_self]
      rw [canonical_tag, unplaced_of_not_closing other, List.filterMap_cons, later]
      rfl

namespace Layout

/-- Without section tags nothing is wrong with the sections, and the values fail one by one. -/
theorem failures_of_values {layout : Layout}
    (values : ∀ tag, .tag tag ∈ layout.pieces.toList → tag.kind = .value) (data : Value)
    (options : RenderOptions) :
    (layout.nesting options).allFaults = [] ∧
      layout.failures data options = (layout.pieces.toList.filterMap Piece.tag?).filterMap
        fun tag => tag.valueFailure? [data] := by
  have still := layout.widened_of_no_pairs (SectionPairs.ofPieces_of_values values) options
  obtain ⟨edges, nested⟩ := Piece.wellNested_of_values values Nesting.depthLimit
  obtain ⟨nodes, sound, spells, _⟩ := nested.exists_tree
  obtain ⟨tree, clean⟩ := Nesting.ofPieces_of_canonical sound spells
  have kept : ∀ tag, .tag tag ∈ Node.flattenAll nodes → tag.kind = .value := by
    intro tag member
    rw [← spells] at member
    have found : tag ∈ (Piece.canonical layout.pieces.toList).filterMap Piece.tag? :=
      List.mem_filterMap.mpr ⟨.tag tag, member, rfl⟩
    rw [Piece.filterMap_tag_canonical values] at found
    obtain ⟨piece, inside, same⟩ := List.mem_filterMap.mp found
    cases piece with
    | verbatim xml => cases same
    | tag other =>
      cases same
      exact values tag inside
  refine ⟨by rw [nesting, still, clean], ?_⟩
  have evaluated := Node.evaluationsAll_of_values nodes [data] kept
  rw [failures, nesting, still, tree, evaluated, ← Piece.filterMap_tag_canonical values, spells,
    List.filterMap_filterMap, List.filterMap_filterMap]
  congr 1
  funext piece
  cases piece <;> rfl

/-- The faults of a reading are told in the order in which they are found. -/
theorem faults_prefix_ofPart {source : Text} {before after : List Item}
    (items : Item.scan source = before ++ after) :
    (before.foldl Reading.step {}).faults.reverse <+: (ofPart source).faults := by
  have later := Reading.foldl_step_faults_suffix (before.foldl Reading.step {}) after
  rw [← List.foldl_append, ← items] at later
  have last := later.trans
    (Reading.abandon_faults_suffix ((Item.scan source).foldl Reading.step {}))
  exact List.reverse_prefix.mpr last

end Layout

/-- A part is rendered exactly if nothing is wrong with it; otherwise everything that is wrong is
told: what the reading found, in the order of the text, then what is wrong with the sections, and
then every evaluation that fails, whatever failed before it. Without section tags, those are the
values in the order of the text that have no name in the data or no scalar. -/
theorem renderPart_faults (source : Text) (data : Value) (options : RenderOptions) :
    ((∃ out, renderPart source data options = .ok out) ↔
      (Layout.ofPart source).faults = [] ∧
        ((Layout.ofPart source).nesting options).allFaults = [] ∧
        (Layout.ofPart source).failures data options = []) ∧
    (∀ faults, renderPart source data options = .error faults →
      faults = (Layout.ofPart source).faults ++
        ((Layout.ofPart source).nesting options).allFaults ++
        (Layout.ofPart source).failures data options) ∧
    (∀ before after, Item.scan source = before ++ after →
      (before.foldl Reading.step {}).faults.reverse <+: (Layout.ofPart source).faults) ∧
    ((∀ tag, .tag tag ∈ (Layout.ofPart source).pieces.toList → tag.kind = .value) →
      ((Layout.ofPart source).nesting options).allFaults = [] ∧
        (Layout.ofPart source).failures data options =
          ((Layout.ofPart source).pieces.toList.filterMap Piece.tag?).filterMap
            fun tag => tag.valueFailure? [data]) := by
  have evaluated : (Node.renderAll options.linebreaks [data] {}
      ((Layout.ofPart source).nesting options).nodes).faults.reverse =
        (Layout.ofPart source).failures data options :=
    Node.renderAll_faults options.linebreaks _ [data] {}
  refine ⟨?_, fun faults failed => ?_, fun before after => Layout.faults_prefix_ofPart,
    fun values => Layout.failures_of_values values data options⟩
  · rw [exists_renderPart_iff, ← evaluated, List.reverse_eq_nil_iff]
  · unfold renderPart at failed
    dsimp only at failed
    split at failed
    · cases failed
    · cases failed
      rw [evaluated]

/-- A text element with two values and a stray brace. -/
def twoValues : Text :=
  "<w:t>\x7ba\x7d, \x7b b \x7d\x7d</w:t>".toList

theorem renderPart_faults_twoValues :
    (∀ tag, .tag tag ∈ (Layout.ofPart twoValues).pieces.toList → tag.kind = .value) ∧
      ((Layout.ofPart twoValues).nesting {}).allFaults = [] ∧
      (Layout.ofPart twoValues).failures (.object [(['b'], .list [])]) {} =
        [.undefinedTag ['a'], .valueTypeMismatch ['b'] "a list".toList] := by
  have tags : (Layout.ofPart twoValues).pieces.toList.filterMap Piece.tag? =
      [⟨⟨.value, ['a']⟩, none, none, none⟩, ⟨⟨.value, ['b']⟩, none, none, none⟩] := by
    decide +kernel
  have values : ∀ tag, .tag tag ∈ (Layout.ofPart twoValues).pieces.toList → tag.kind = .value := by
    intro tag member
    have found : tag ∈ (Layout.ofPart twoValues).pieces.toList.filterMap Piece.tag? :=
      List.mem_filterMap.mpr ⟨.tag tag, member, rfl⟩
    rw [tags, List.mem_pair] at found
    rcases found with rfl | rfl <;> rfl
  obtain ⟨nested, failed⟩ :=
    (renderPart_faults twoValues (.object [(['b'], .list [])]) {}).2.2.2 values
  rw [tags] at failed
  exact ⟨values, nested, failed⟩

end WordMerge
