import WordMerge.Template.Nesting

namespace WordMerge

namespace OpenSection

variable {opened : OpenSection} {name : Text} {fault : TagFault}

/-- A section may be closed under its own name, if its XML can be repeated. -/
theorem closingFault?_eq_none : opened.closingFault? name = none ↔
    opened.tag.name = name ∧ Balance.isBalanced opened.balance = true := by
  unfold closingFault?
  by_cases named : opened.tag.name = name
  · simp [named]
  · simp [named]

/-- A section is closed in vain for one of two reasons. -/
theorem kind_of_closingFault? (wrong : opened.closingFault? name = some fault) :
    fault.kind = .closingMismatch ∨ fault.kind = .unbalancedLoop := by
  unfold closingFault? at wrong
  split at wrong
  · cases wrong
    exact .inl rfl
  · split at wrong
    · cases wrong
      exact .inr rfl
    · cases wrong

end OpenSection

namespace Nesting

variable (n : Nesting) (node : Node) (xml : Text)

theorem add_tags : (n.add node).sections.map OpenSection.tag = n.sections.map OpenSection.tag := by
  unfold add
  split <;> simp_all

theorem add_sections_length : (n.add node).sections.length = n.sections.length := by
  unfold add
  split <;> simp_all

theorem add_tooDeep : (n.add node).tooDeep = n.tooDeep := by
  unfold add
  split <;> rfl

theorem add_faults : (n.add node).faults = n.faults := by
  unfold add
  split <;> rfl

/-- Taking XML into account leaves the open sections as they are. -/
theorem track_tags :
    (n.track xml).sections.map OpenSection.tag = n.sections.map OpenSection.tag := by
  unfold track
  split <;> simp_all

theorem track_tooDeep : (n.track xml).tooDeep = n.tooDeep := by
  unfold track
  split <;> rfl

theorem track_faults : (n.track xml).faults = n.faults := by
  unfold track
  split <;> rfl

theorem report_add (fault : TagFault) :
    (n.add node).report fault = (n.report fault).add node := by
  obtain ⟨root, sections, faults, tooDeep⟩ := n
  cases sections <;> rfl

/-- What passing a piece does to a tree. -/
inductive Passing (n : Nesting) : Piece → Nesting → Prop
  | empty : Passing n (.verbatim []) n
  | xml {xml : Text} : xml ≠ [] → Passing n (.verbatim xml) ((n.track xml).add (.verbatim xml))
  | value {tag : PlacedTag} : tag.kind = .value → Passing n (.tag tag) (n.add (.value tag))
  | opened {tag : PlacedTag} : tag.kind.opens = true → n.sections.length < depthLimit →
      Passing n (.tag tag) { n with sections := ⟨tag, [], some {}⟩ :: n.sections }
  | refused {tag : PlacedTag} : tag.kind.opens = true → ¬ n.sections.length < depthLimit →
      Passing n (.tag tag)
        ⟨n.root, n.sections, .nestingTooDeep tag.name depthLimit :: n.faults, n.tooDeep + 1⟩
  | left {tag : PlacedTag} : tag.kind = .closing → 0 < n.tooDeep →
      Passing n (.tag tag) { n with tooDeep := n.tooDeep - 1 }
  | unopened {tag : PlacedTag} : tag.kind = .closing → n.tooDeep = 0 → n.sections = [] →
      Passing n (.tag tag) (n.report (.unopenedLoop tag.name))
  | closed {tag : PlacedTag} {inner : OpenSection} {outer : List OpenSection} :
      tag.kind = .closing → n.tooDeep = 0 → n.sections = inner :: outer →
      Passing n (.tag tag)
        (add ⟨n.root, outer, (inner.closingFault? tag.name).toList ++ n.faults, n.tooDeep⟩
          inner.close)

theorem passing_step (piece : Piece) : Passing n piece (n.step piece) := by
  have opened {tag : PlacedTag} (opens : tag.kind.opens = true) :
      Passing n (.tag tag) (n.openSection tag) := by
    unfold openSection
    split
    · next room => exact .opened opens room
    · next full => exact .refused opens full
  cases piece with
  | verbatim xml =>
    by_cases empty : xml = []
    · subst empty
      exact .empty
    · simpa [step, empty] using Passing.xml empty
  | tag tag =>
    cases kind : tag.kind with
    | value => simpa only [step, kind] using Passing.value kind
    | opening => simpa only [step, kind] using opened (by rw [kind]; rfl)
    | inverted => simpa only [step, kind] using opened (by rw [kind]; rfl)
    | closing =>
      simp only [step, kind, closeSection]
      split
      · next left => exact .left kind left
      · next shallow =>
        cases sections : n.sections with
        | nil => exact .unopened kind (by omega) sections
        | cons inner outer =>
          have closed := Passing.closed kind (by omega) sections
          dsimp only
          cases wrong : inner.closingFault? tag.name with
          | none => simpa [wrong] using closed
          | some fault =>
            rw [wrong, Option.toList_some] at closed
            rw [Option.elim_some, report_add]
            exact closed

variable {n} {m : Nesting} {piece : Piece}

/-- A fault that is noted stays noted. -/
theorem Passing.faults_suffix (passing : Passing n piece m) : n.faults <:+ m.faults := by
  cases passing with
  | empty | opened | left => exact List.suffix_rfl
  | xml => simp [add_faults, track_faults]
  | value => simp [add_faults]
  | refused | unopened => exact List.suffix_cons _ _
  | closed => simp [add_faults]

/-- Faults are noted and never forgotten. -/
theorem faults_suffix_foldl (pieces : List Piece) (n : Nesting) :
    n.faults <:+ (pieces.foldl step n).faults := by
  induction pieces generalizing n with
  | nil => exact List.suffix_rfl
  | cons piece rest ih => exact (passing_step n piece).faults_suffix.trans (ih _)

theorem faults_eq_nil_of_foldl {pieces : List Piece} (clean : (pieces.foldl step n).faults = []) :
    n.faults = [] := by
  have kept := faults_suffix_foldl pieces n
  rwa [clean, List.suffix_nil] at kept

end Nesting

end WordMerge
