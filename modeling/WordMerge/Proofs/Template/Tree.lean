import WordMerge.Proofs.Markup.Elements
import WordMerge.Template.Nesting

namespace WordMerge

/-- The closing tag of a section, of which only the name counts. -/
def PlacedTag.ending (tag : PlacedTag) : PlacedTag :=
  ⟨⟨.closing, tag.name⟩, none, none, none⟩

namespace Node

/-- The edges of the XML that stands directly among some nodes, not inside their sections. -/
def ownEdges (nodes : List Node) : List Edge :=
  nodes.flatMap fun
    | .verbatim xml => Edge.scan xml
    | _ => []

mutual

/-- The pieces that a node spells. -/
def flatten : Node → List Piece
  | .verbatim xml => [.verbatim xml]
  | .value tag => [.tag tag]
  | .block tag body => .tag tag :: (flattenAll body ++ [.tag tag.ending])

/-- The pieces that some nodes spell one after the other. -/
def flattenAll : List Node → List Piece
  | [] => []
  | node :: rest => flatten node ++ flattenAll rest

end

mutual

/-- Whether a node can be read from pieces with so many levels of sections left: its XML is not
empty, its tags have the right kinds, and every section in it can be repeated. -/
def Sound : Nat → Node → Prop
  | _, .verbatim xml => xml ≠ []
  | _, .value tag => tag.kind = .value
  | 0, .block _ _ => False
  | levels + 1, .block tag body =>
    tag.kind.opens = true ∧ SoundAll levels body ∧ Edge.Repeats (ownEdges body)

/-- Whether all of some nodes can be read from pieces. -/
def SoundAll : Nat → List Node → Prop
  | _, [] => True
  | levels, node :: rest => Sound levels node ∧ SoundAll levels rest

end

/-- Induction over a row of nodes and the bodies of its sections at once. -/
@[elab_as_elim]
theorem row_induction {motive : List Node → Prop} (nil : motive [])
    (verbatim : ∀ xml rest, motive rest → motive (.verbatim xml :: rest))
    (value : ∀ tag rest, motive rest → motive (.value tag :: rest))
    (block : ∀ tag body rest, motive body → motive rest → motive (.block tag body :: rest)) :
    ∀ nodes, motive nodes
  | [] => nil
  | .verbatim xml :: rest =>
    verbatim xml rest (row_induction nil verbatim value block rest)
  | .value tag :: rest =>
    value tag rest (row_induction nil verbatim value block rest)
  | .block tag body :: rest =>
    block tag body rest (row_induction nil verbatim value block body)
      (row_induction nil verbatim value block rest)

@[simp] theorem flattenAll_nil : flattenAll [] = [] := rfl

@[simp] theorem flattenAll_verbatim (xml : Text) (rest : List Node) :
    flattenAll (.verbatim xml :: rest) = .verbatim xml :: flattenAll rest := rfl

@[simp] theorem flattenAll_value (tag : PlacedTag) (rest : List Node) :
    flattenAll (.value tag :: rest) = .tag tag :: flattenAll rest := rfl

@[simp] theorem flattenAll_block (tag : PlacedTag) (body rest : List Node) :
    flattenAll (.block tag body :: rest) =
      .tag tag :: (flattenAll body ++ .tag tag.ending :: flattenAll rest) := by
  simp [flattenAll, flatten]

theorem flattenAll_append (a b : List Node) :
    flattenAll (a ++ b) = flattenAll a ++ flattenAll b := by
  induction a with
  | nil => rfl
  | cons node rest ih => simp [flattenAll, ih]

@[simp] theorem ownEdges_nil : ownEdges [] = [] := rfl

@[simp] theorem ownEdges_verbatim (xml : Text) (rest : List Node) :
    ownEdges (.verbatim xml :: rest) = Edge.scan xml ++ ownEdges rest := rfl

@[simp] theorem ownEdges_value (tag : PlacedTag) (rest : List Node) :
    ownEdges (.value tag :: rest) = ownEdges rest := rfl

@[simp] theorem ownEdges_block (tag : PlacedTag) (body rest : List Node) :
    ownEdges (.block tag body :: rest) = ownEdges rest := rfl

theorem ownEdges_append (a b : List Node) : ownEdges (a ++ b) = ownEdges a ++ ownEdges b :=
  List.flatMap_append

@[simp] theorem soundAll_nil (levels : Nat) : SoundAll levels [] := trivial

@[simp] theorem soundAll_cons {levels : Nat} {node : Node} {rest : List Node} :
    SoundAll levels (node :: rest) ↔ Sound levels node ∧ SoundAll levels rest := Iff.rfl

theorem soundAll_append {levels : Nat} {a b : List Node} :
    SoundAll levels (a ++ b) ↔ SoundAll levels a ∧ SoundAll levels b := by
  induction a with
  | nil => simp
  | cons node rest ih => simp [ih, and_assoc]

@[simp] theorem sound_verbatim {levels : Nat} {xml : Text} :
    Sound levels (.verbatim xml) ↔ xml ≠ [] := by
  cases levels <;> rfl

@[simp] theorem sound_value {levels : Nat} {tag : PlacedTag} :
    Sound levels (.value tag) ↔ tag.kind = .value := by
  cases levels <;> rfl

/-- A section is sound if its body is, on one level less, and can be repeated. -/
theorem sound_block {levels : Nat} {tag : PlacedTag} {body : List Node} :
    Sound levels (.block tag body) ↔ ∃ below, levels = below + 1 ∧ tag.kind.opens = true ∧
      SoundAll below body ∧ Edge.Repeats (ownEdges body) := by
  cases levels <;> simp [Sound]

end Node

end WordMerge
