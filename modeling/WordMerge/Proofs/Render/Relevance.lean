import WordMerge.Proofs.Render.Structure
import WordMerge.Proofs.Template.TagNames

namespace WordMerge

namespace Scope

/-- The keys that decide what a name stands for: the name itself and its first segment. -/
def keys (name : Text) : List Text :=
  [name, (segments name).headD []]

end Scope

/-- Two values in two evaluations: the same one, or the record of the one and that of the other. -/
inductive Value.Twin (data other : Value) : Value → Value → Prop
  | same (value : Value) : Twin data other value value
  | root : Twin data other data other

/-- Two stacks of scopes that hold twins, one by one. -/
abbrev Scope.Twins (data other : Value) : List Value → List Value → Prop :=
  List.Forall₂ (Value.Twin data other)

section Lookup

variable {data other : Value} {s t : List Value}

theorem Value.Twin.member?_eq {a b : Value} {key : Text}
    (agree : data.member? key = other.member? key) (twin : Twin data other a b) :
    a.member? key = b.member? key := by
  cases twin with
  | same => rfl
  | root => exact agree

namespace Scope

theorem Twins.find?_eq {key : Text} (twins : Twins data other s t)
    (agree : data.member? key = other.member? key) : find? s key = find? t key := by
  unfold find?
  induction twins with
  | nil => rfl
  | cons twin _ ih => rw [List.findSome?_cons, List.findSome?_cons, twin.member?_eq agree, ih]

theorem Twins.path?_eq {path : List Text} (twins : Twins data other s t)
    (agree : data.member? (path.headD []) = other.member? (path.headD [])) :
    path? s path = path? t path := by
  cases path with
  | nil => rfl
  | cons first rest =>
    have start : find? s first = find? t first := twins.find?_eq agree
    rw [path?, path?, start]

/-- A name stands for nothing in both stacks, or for twins. -/
theorem Twins.lookup?_cases {name : Text} (twins : Twins data other s t)
    (trimmed : Text.trim name = name)
    (agree : ∀ key ∈ keys name, data.member? key = other.member? key) :
    lookup? s name = none ∧ lookup? t name = none ∨
      ∃ a b, lookup? s name = some a ∧ lookup? t name = some b ∧ Value.Twin data other a b := by
  have whole : find? s name = find? t name := twins.find?_eq (agree name (by simp [keys]))
  have path : path? s (segments name) = path? t (segments name) :=
    twins.path?_eq (agree _ (by simp [keys]))
  rw [lookup?, lookup?, trimmed]
  by_cases item : name = ['.']
  · cases twins with
    | nil => exact .inl ⟨if_pos item, if_pos item⟩
    | cons twin _ => exact .inr ⟨_, _, if_pos item, if_pos item, twin⟩
  · have equal : resolve? s name = resolve? t name := by
      rw [resolve?, resolve?, if_neg item, if_neg item, whole, path]
    cases found : resolve? t name with
    | none => exact .inl ⟨equal.trans found, rfl⟩
    | some value => exact .inr ⟨value, value, equal.trans found, rfl, .same value⟩

end Scope

end Lookup

/-- Two records that agree on the keys of all names with a property. -/
structure Value.Agree (P : Text → Prop) (data other : Value) : Prop where
  left : data.isObject = true
  right : other.isObject = true
  trimmed : ∀ name, P name → Text.trim name = name
  keys : ∀ name, P name → ∀ key ∈ Scope.keys name, data.member? key = other.member? key

section Evaluation

variable {P : Text → Prop} {data other : Value} {s t : List Value}

/-- Twins that are not the same are both records. -/
theorem Value.Agree.twin_cases (agree : Agree P data other) {a b : Value}
    (twin : Twin data other a b) :
    a = b ∨ ∃ members members', a = .object members ∧ b = .object members' := by
  cases twin with
  | same => exact .inl rfl
  | root =>
    obtain ⟨left, right, _, _⟩ := agree
    cases data <;> cases left
    cases other <;> cases right
    exact .inr ⟨_, _, rfl, rfl⟩

/-- A list gives its items in turn in both stacks. -/
theorem Scope.Twins.turns (twins : Scope.Twins data other s t) (items : List Value) :
    List.Forall₂ (Scope.Twins data other) (items.map (· :: s)) (items.map (· :: t)) := by
  induction items with
  | nil => exact .nil
  | cons item rest ih => exact .cons (.cons (.same item) twins) ih

namespace PlacedTag

variable {tag : PlacedTag}

/-- A value tag with a name of the part writes the same for both records. -/
theorem valueXml_eq_of_agree (agree : Value.Agree P data other) (named : P tag.name)
    (twins : Scope.Twins data other s t) (linebreaks : Bool) :
    tag.valueXml linebreaks s = tag.valueXml linebreaks t := by
  unfold valueXml
  rcases twins.lookup?_cases (agree.trimmed _ named) (agree.keys _ named) with
    ⟨none, none'⟩ | ⟨a, b, found, found', twin⟩
  · rw [none, none']
  · rw [found, found']
    rcases agree.twin_cases twin with rfl | ⟨members, members', rfl, rfl⟩ <;> rfl

/-- A section has the same fault in both stacks, or turns with twins. -/
theorem sectionScopes_cases (agree : Value.Agree P data other) (named : P tag.name)
    (twins : Scope.Twins data other s t) :
    (∃ fault, tag.sectionScopes s = .error fault ∧ tag.sectionScopes t = .error fault) ∨
      ∃ turns turns', tag.sectionScopes s = .ok turns ∧ tag.sectionScopes t = .ok turns' ∧
        List.Forall₂ (Scope.Twins data other) turns turns' := by
  have once : List.Forall₂ (Scope.Twins data other) [s] [t] := .cons twins .nil
  unfold sectionScopes
  rcases twins.lookup?_cases (agree.trimmed _ named) (agree.keys _ named) with
    ⟨none, none'⟩ | ⟨a, b, found, found', twin⟩
  · rw [none, none']
    cases tag.kind with
    | inverted => exact .inr ⟨[s], [t], rfl, rfl, once⟩
    | _ => exact .inl ⟨_, rfl, rfl⟩
  · rw [found, found']
    have pushed : Scope.Twins data other (a :: s) (b :: t) := .cons twin twins
    have both (condition : Bool) : ∃ turns turns',
        (.ok (if condition then [s] else []) : Except TagFault _) = .ok turns ∧
        (.ok (if condition then [t] else []) : Except TagFault _) = .ok turns' ∧
        List.Forall₂ (Scope.Twins data other) turns turns' := by
      cases condition with
      | true => exact ⟨[s], [t], rfl, rfl, once⟩
      | false => exact ⟨[], [], rfl, rfl, .nil⟩
    rcases agree.twin_cases twin with rfl | ⟨members, members', rfl, rfl⟩
    · cases tag.kind with
      | inverted => exact .inr (both a.isFalsy)
      | _ =>
        cases a with
        | null => exact .inr ⟨[], [], rfl, rfl, .nil⟩
        | bool b => exact .inr (both b)
        | list items => exact .inr ⟨_, _, rfl, rfl, twins.turns items⟩
        | object members => exact .inr ⟨_, _, rfl, rfl, .cons pushed .nil⟩
        | _ => exact .inl ⟨_, rfl, rfl⟩
    · cases tag.kind with
      | inverted => exact .inr ⟨[], [], rfl, rfl, .nil⟩
      | _ => exact .inr ⟨_, _, rfl, rfl, .cons pushed .nil⟩

end PlacedTag

/-- Nodes with such names are evaluated alike in stacks of twins. -/
theorem Node.renderAll_eq_of_agree (agree : Value.Agree P data other) (nodes : List Node)
    (named : Named P nodes) (twins : Scope.Twins data other s t) (linebreaks : Bool)
    (draft : Draft) :
    renderAll linebreaks s draft nodes = renderAll linebreaks t draft nodes := by
  induction nodes using Node.row_induction generalizing s t draft with
  | nil => rfl
  | verbatim xml rest ih => exact ih (named_verbatim.mp named) twins _
  | value tag rest ih =>
    obtain ⟨here, later⟩ := named_value.mp named
    rw [renderAll_value, renderAll_value, tag.valueXml_eq_of_agree agree here twins]
    exact ih later twins _
  | block tag body rest ihBody ih =>
    obtain ⟨here, inside, later⟩ := named_block.mp named
    rw [renderAll_block, renderAll_block]
    rcases tag.sectionScopes_cases agree here twins with
      ⟨fault, failed, failed'⟩ | ⟨turns, turns', found, found', related⟩
    · rw [failed, failed']
      exact ih later twins _
    · -- the turns are evaluated one after the other, each pair from the same draft
      have repeated (start : Draft) :
          turns.foldl (fun draft inner => renderAll linebreaks inner draft body) start =
            turns'.foldl (fun draft inner => renderAll linebreaks inner draft body) start := by
        clear found found'
        induction related generalizing start with
        | nil => rfl
        | cons turn _ again => rw [List.foldl_cons, List.foldl_cons, ihBody inside turn, again]
      rw [found, found']
      dsimp only
      rw [repeated]
      exact ih later twins _

end Evaluation

/-- Data that a part does not name cannot influence the result: two records that agree, for each name
in the part, on the key that is the name and on the key that is its first segment, give the same
document, or the same faults in the same order. A point alone stands for the whole record, of which no
more is seen than that it is one. -/
theorem renderPart_eq_of_agree {source : Text} {data other : Value} (left : data.isObject = true)
    (right : other.isObject = true)
    (agree : ∀ name, (Layout.ofPart source).Names name → ∀ key ∈ Scope.keys name,
      data.member? key = other.member? key) (options : RenderOptions) :
    renderPart source data options = renderPart source other options := by
  have records : Value.Agree (Layout.ofPart source).Names data other :=
    ⟨left, right, fun _ => Layout.trim_of_names, agree⟩
  have named := (Layout.ofPart source).named_nodes options
  have twins : Scope.Twins data other [data] [other] := .cons .root .nil
  unfold renderPart
  dsimp only
  rw [Node.renderAll_eq_of_agree records _ named twins]

/-- A paragraph with a section for the whole record, in which a dotted name is looked up. -/
def wholeRecord : Text :=
  "<w:p><w:t>{#.}{a.b}{c}{/.}</w:t></w:p>".toList

theorem renderPart_eq_of_agree_wholeRecord :
    renderPart wholeRecord (.object [(['a'], .object [(['b'], .string ['x'])])]) {} =
      renderPart wholeRecord
        (.object [(['a'], .object [(['b'], .string ['x'])]), (['d'], .bool true)]) {} := by
  have names : ((Layout.ofPart wholeRecord).pieces.toList.filterMap Piece.tag?).map (·.name) =
      [['.'], ['a', '.', 'b'], ['c'], ['.']] := by decide +kernel
  refine renderPart_eq_of_agree rfl rfl ?_ {}
  rintro _ ⟨tag, member, rfl⟩ key inKeys
  have listed : tag.name ∈
      ((Layout.ofPart wholeRecord).pieces.toList.filterMap Piece.tag?).map (·.name) :=
    List.mem_map.mpr ⟨tag, List.mem_filterMap.mpr ⟨_, Array.mem_toList_iff.mpr member, rfl⟩, rfl⟩
  rw [names] at listed
  have keys : ∀ name ∈ [['.'], ['a', '.', 'b'], ['c'], ['.']], ∀ key ∈ Scope.keys name,
      key ∈ [['.'], [], ['a', '.', 'b'], ['a'], ['c']] := by decide
  have known := keys tag.name listed key inKeys
  simp only [List.mem_cons, List.not_mem_nil, or_false] at known
  rcases known with rfl | rfl | rfl | rfl | rfl <;> rfl

end WordMerge
