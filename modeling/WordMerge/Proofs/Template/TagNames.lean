import WordMerge.Proofs.Template.NestingSteps
import WordMerge.Proofs.Template.Pieces
import WordMerge.Proofs.Template.Tree
import WordMerge.Proofs.Text.Trimming
import WordMerge.Render.Part

namespace WordMerge

/-- The name of a tag has no white space around it. -/
theorem Tag.trim_name_of_ofText? {s : Text} {tag : Tag} (read : ofText? s = some tag) :
    Text.trim tag.name = tag.name := by
  unfold ofText? at read
  dsimp only at read
  split at read
  · cases read
  · cases read
    unfold split
    split <;> exact Text.trim_trim _

namespace Reading

/-- Whether all tags among some pieces have a property. -/
def Tagged (P : Tag → Prop) (pieces : Array Piece) : Prop :=
  ∀ (place : Nat) tag, pieces[place]? = some (.tag tag) → P tag.toTag

end Reading

/-- What holds of all tags that a text can spell holds of the tags of a part. -/
theorem Layout.tagged_ofPart {P : Tag → Prop} (reads : ∀ s tag, Tag.ofText? s = some tag → P tag)
    (source : Text) : Reading.Tagged P (Layout.ofPart source).pieces := by
  have common : Reading.Common source fun piece => ∀ tag, piece = .tag tag → P tag.toTag := by
    refine ⟨fun xml _ tag same => ?_, fun raw _ tag same => ?_, fun s placed read tag same => ?_⟩
    · cases same
    · cases same
    · cases same
      exact reads s _ read
  intro place tag found
  exact Layout.forall_mem_pieces common _ (Array.mem_of_getElem? found) tag rfl

/-- Whether a tag of a part has the given name. -/
def Layout.Names (layout : Layout) (name : Text) : Prop :=
  ∃ tag, .tag tag ∈ layout.pieces ∧ tag.name = name

/-- The names in a part have no white space around them. -/
theorem Layout.trim_of_names {source name : Text} (names : (Layout.ofPart source).Names name) :
    Text.trim name = name := by
  obtain ⟨tag, member, rfl⟩ := names
  obtain ⟨place, found⟩ := Array.mem_iff_getElem?.mp member
  exact Layout.tagged_ofPart (P := fun tag => Text.trim tag.name = tag.name)
    (fun _ _ => Tag.trim_name_of_ofText?) source place tag found

namespace Node

/-- Whether all names in some nodes have a property. -/
def Named (P : Text → Prop) (nodes : List Node) : Prop :=
  ∀ tag, .tag tag ∈ flattenAll nodes → P tag.name

variable {P : Text → Prop}

@[simp] theorem named_nil : Named P [] := by
  simp [Named]

@[simp] theorem named_verbatim {xml : Text} {rest : List Node} :
    Named P (.verbatim xml :: rest) ↔ Named P rest := by
  simp [Named]

@[simp] theorem named_value {tag : PlacedTag} {rest : List Node} :
    Named P (.value tag :: rest) ↔ P tag.name ∧ Named P rest := by
  simp [Named]

@[simp] theorem named_block {tag : PlacedTag} {body rest : List Node} :
    Named P (.block tag body :: rest) ↔ P tag.name ∧ Named P body ∧ Named P rest := by
  constructor
  · intro named
    refine ⟨named tag (by simp), fun other member => ?_, fun other member => ?_⟩
    · exact named other (by simp [member])
    · exact named other (by simp [member])
  · rintro ⟨holds, body, rest⟩ other member
    rw [flattenAll_block, List.mem_cons, List.mem_append, List.mem_cons] at member
    rcases member with same | inside | same | later
    · cases same
      exact holds
    · exact body other inside
    · cases same
      exact holds
    · exact rest other later

theorem named_append {a b : List Node} : Named P (a ++ b) ↔ Named P a ∧ Named P b := by
  simp only [Named, flattenAll_append, List.mem_append, or_imp, forall_and]

theorem named_cons (node : Node) (rest : List Node) :
    Named P (node :: rest) ↔ Named P [node] ∧ Named P rest :=
  named_append (a := [node])

theorem named_reverse {nodes : List Node} : Named P nodes.reverse ↔ Named P nodes := by
  induction nodes with
  | nil => rfl
  | cons node rest ih =>
    rw [List.reverse_cons, named_append, ih, named_cons node rest, and_comm]

end Node

namespace Nesting

/-- Whether all names in a tree on its way have a property. -/
structure Named (P : Text → Prop) (n : Nesting) : Prop where
  root : Node.Named P n.root
  sections : ∀ opened ∈ n.sections, P opened.tag.name ∧ Node.Named P opened.body

variable {P : Text → Prop} {n : Nesting}

/-- A node with such names can be added. -/
theorem Named.add (named : Named P n) {node : Node} (holds : Node.Named P [node]) :
    Named P (n.add node) := by
  obtain ⟨root, sections⟩ := named
  unfold Nesting.add
  split
  · exact ⟨(Node.named_cons _ _).mpr ⟨holds, root⟩, sections⟩
  · next inner outer stack =>
    rw [stack, List.forall_mem_cons] at sections
    refine ⟨root, List.forall_mem_cons.mpr ⟨⟨sections.1.1, ?_⟩, sections.2⟩⟩
    exact (Node.named_cons _ _).mpr ⟨holds, sections.1.2⟩

theorem Named.track (named : Named P n) (xml : Text) : Named P (n.track xml) := by
  obtain ⟨root, sections⟩ := named
  unfold Nesting.track
  split
  · exact ⟨root, sections⟩
  · next inner outer stack =>
    rw [stack, List.forall_mem_cons] at sections
    exact ⟨root, List.forall_mem_cons.mpr ⟨sections.1, sections.2⟩⟩

theorem named_close {opened : OpenSection} (holds : P opened.tag.name)
    (body : Node.Named P opened.body) : Node.Named P [opened.close] :=
  Node.named_block.mpr ⟨holds, Node.named_reverse.mpr body, Node.named_nil⟩

/-- A step brings in no names but that of its piece. -/
theorem Named.passing {m : Nesting} {piece : Piece} (named : Named P n)
    (passing : Passing n piece m) (holds : ∀ tag, piece = .tag tag → P tag.name) : Named P m := by
  cases passing with
  | empty => exact named
  | xml => exact (named.track _).add (by simp)
  | value => exact named.add (by simpa using holds _ rfl)
  | opened =>
    exact ⟨named.root,
      List.forall_mem_cons.mpr ⟨⟨holds _ rfl, Node.named_nil⟩, named.sections⟩⟩
  | refused | left | unopened => exact ⟨named.root, named.sections⟩
  | closed _ _ stack =>
    have sections := named.sections
    rw [stack, List.forall_mem_cons] at sections
    refine Named.add ?_ (named_close sections.1.1 sections.1.2)
    exact ⟨named.root, sections.2⟩

/-- Closing what is open brings in no names. -/
theorem named_closeAll {root : List Node} {sections : List OpenSection}
    (above : Node.Named P root)
    (named : ∀ opened ∈ sections, P opened.tag.name ∧ Node.Named P opened.body) :
    Node.Named P (closeAll root sections) := by
  induction sections using closeAll.induct with
  | case1 =>
    rw [closeAll]
    exact above
  | case2 last =>
    rw [closeAll, Node.named_cons]
    have here := named last (by simp)
    exact ⟨named_close here.1 here.2, above⟩
  | case3 inner next outer ih =>
    rw [closeAll]
    rw [List.forall_mem_cons, List.forall_mem_cons] at named
    obtain ⟨here, below, rest⟩ := named
    refine ih (List.forall_mem_cons.mpr ⟨⟨below.1, ?_⟩, rest⟩)
    exact (Node.named_cons _ _).mpr ⟨named_close here.1 here.2, below.2⟩

/-- The tree of some pieces has no names but theirs. -/
theorem named_nodes {pieces : List Piece} (holds : ∀ tag, .tag tag ∈ pieces → P tag.name) :
    Node.Named P (ofPieces pieces).nodes := by
  have start : Named P {} := ⟨Node.named_nil, nofun⟩
  have named : Named P (ofPieces pieces) :=
    List.foldlRecOn (motive := Named P) pieces step start fun n named piece member =>
      named.passing (passing_step n piece) fun tag same => holds tag (same ▸ member)
  exact Node.named_reverse.mpr (named_closeAll named.root named.sections)

end Nesting

/-- The tree of a part has no names but those of the tags of the part. -/
theorem Layout.named_nodes (layout : Layout) (options : RenderOptions) :
    Node.Named layout.Names (layout.nesting options).nodes := by
  refine Nesting.named_nodes fun tag member => ?_
  obtain ⟨place, _, found⟩ := List.mem_filterMap.mp member
  exact ⟨tag, Array.mem_iff_getElem?.mpr ⟨place, found⟩, rfl⟩

end WordMerge
