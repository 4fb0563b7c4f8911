import WordMerge.Proofs.Text.Trimming
import WordMerge.Render.Scope

namespace WordMerge

/-- A value that is no object has no members. -/
theorem Value.member?_of_not_isObject {value : Value} (other : value.isObject = false) (key : Text) :
    value.member? key = none := by
  cases value with
  | object members => cases other
  | null => rfl
  | bool _ => rfl
  | number _ => rfl
  | string _ => rfl
  | list _ => rfl

namespace Scope

variable {scopes : List Value} {value : Value} {name key : Text}

/-- The first segment of a name: what stands in front of its first dot. -/
def firstSegment (name : Text) : Text :=
  Text.trim (name.takeWhile (· ≠ '.'))

theorem exists_segments_eq (name : Text) : ∃ later, segments name = firstSegment name :: later := by
  have before {front : Text} (plain : '.' ∉ front) : ∀ c ∈ front, decide (c ≠ '.') = true :=
    fun c member => decide_eq_true fun same => plain (same ▸ member)
  by_cases dotted : '.' ∈ name
  · obtain ⟨front, back, rfl, plain⟩ := List.eq_append_cons_of_mem dotted
    refine ⟨(back.splitOn '.').map Text.trim, ?_⟩
    rw [segments, List.splitOn_append_cons_self_of_not_mem plain, List.map_cons, firstSegment,
      List.takeWhile_append_of_pos (before plain)]
    simp
  · refine ⟨[], ?_⟩
    rw [segments, List.splitOn_eq_singleton dotted, List.map_singleton, firstSegment,
      List.takeWhile_eq_self_iff.mpr (before dotted)]

theorem find?_of_passed (passed : value.member? key = none) :
    find? (value :: scopes) key = find? scopes key := by
  rw [find?, List.findSome?_cons, passed]
  rfl

theorem find?_of_held (held : value.member? key ≠ none) :
    find? (value :: scopes) key = value.member? key := by
  obtain ⟨found, held⟩ := Option.ne_none_iff_exists'.mp held
  rw [find?, List.findSome?_cons, held]

/-- A path depends on the scopes only through its first segment. -/
theorem path?_segments_congr {others : List Value}
    (same : find? scopes (firstSegment name) = find? others (firstSegment name)) :
    path? scopes (segments name) = path? others (segments name) := by
  obtain ⟨later, segmented⟩ := exists_segments_eq name
  rw [segmented, path?, path?, same]

/-- A name with dots is looked for as a key first, and as a path then. -/
theorem lookup?_of_dotted (trimmed : Text.trim name = name) (other : name ≠ ['.'])
    (dotted : '.' ∈ name) :
    lookup? scopes name = (find? scopes name).or (path? scopes (segments name)) := by
  rw [lookup?, trimmed, resolve?, if_neg other, if_pos dotted]
  cases find? scopes name <;> rfl

/-- A name without dots is a path of one segment. -/
theorem lookup?_of_plain (trimmed : Text.trim name = name) (plain : '.' ∉ name) :
    lookup? scopes name = path? scopes (segments name) := by
  have other : name ≠ ['.'] := by
    rintro rfl
    exact plain List.mem_cons_self
  rw [lookup?, trimmed, resolve?, if_neg other, if_neg plain]

/-- Two stacks of scopes in which a name is found alike, as a key and by its first segment, give it the
same meaning. -/
theorem lookup?_congr {others : List Value} (trimmed : Text.trim name = name) (other : name ≠ ['.'])
    (literal : '.' ∈ name → find? scopes name = find? others name)
    (first : find? scopes (firstSegment name) = find? others (firstSegment name)) :
    lookup? scopes name = lookup? others name := by
  by_cases dotted : '.' ∈ name
  · rw [lookup?_of_dotted trimmed other dotted, lookup?_of_dotted trimmed other dotted,
      literal dotted, path?_segments_congr first]
  · rw [lookup?_of_plain trimmed dotted, lookup?_of_plain trimmed dotted,
      path?_segments_congr first]

/-- What becomes of the meaning of a name when a value is put on a stack of scopes as the innermost
one. -/
structure Shadowing (scopes : List Value) (value : Value) (name : Text) : Prop where
  /-- A value that has neither the name nor its first segment as a key is passed over. -/
  passed : value.isObject = false ∨ value.member? (firstSegment name) = none ∧
      ('.' ∈ name → value.member? name = none) →
    lookup? (value :: scopes) name = lookup? scopes name
  /-- A name with dots means what the innermost scope has under it as a key, if one has, whatever the
  scopes further in have under its first segment. -/
  literal : '.' ∈ name → (∃ scope ∈ value :: scopes, scope.member? name ≠ none) →
    ∃ inner scope outer, value :: scopes = inner ++ scope :: outer ∧
      (∀ further ∈ inner, further.member? name = none) ∧ scope.member? name ≠ none ∧
      lookup? (value :: scopes) name = scope.member? name
  /-- Otherwise a value with the first segment hides all other scopes, even if the rest of the path
  leads to nothing in it. -/
  committed : ('.' ∈ name → ∀ scope ∈ value :: scopes, scope.member? name = none) →
    value.member? (firstSegment name) ≠ none →
    lookup? (value :: scopes) name = lookup? [value] name

/-- A name means what it means in the innermost scope that has it; the scopes further out are asked for
no part of it again. -/
theorem shadowing_lookup? (scopes : List Value) (value : Value) {name : Text}
    (trimmed : Text.trim name = name) (other : name ≠ ['.']) : Shadowing scopes value name where
  passed lacks := by
    have absent : value.member? (firstSegment name) = none ∧
        ('.' ∈ name → value.member? name = none) := by
      rcases lacks with scalar | absent
      · have absent (key : Text) := value.member?_of_not_isObject scalar key
        exact ⟨absent _, fun _ => absent _⟩
      · exact absent
    exact lookup?_congr trimmed other (fun dotted => find?_of_passed (absent.2 dotted))
      (find?_of_passed absent.1)
  literal dotted held := by
    obtain ⟨scope, member, has⟩ := held
    have isSome : (find? (value :: scopes) name).isSome :=
      List.findSome?_isSome_iff.mpr ⟨scope, member, Option.isSome_iff_ne_none.mpr has⟩
    obtain ⟨found, literal⟩ := Option.isSome_iff_exists.mp isSome
    obtain ⟨inner, innermost, outer, split, here, before⟩ := List.findSome?_eq_some_iff.mp literal
    refine ⟨inner, innermost, outer, split, before, by simp [here], ?_⟩
    rw [lookup?_of_dotted trimmed other dotted, literal, Option.some_or, here]
  committed absent held := by
    refine lookup?_congr trimmed other (fun dotted => ?_) ?_
    · rw [find?, find?, List.findSome?_eq_none_iff.mpr (absent dotted),
        List.findSome?_eq_none_iff.mpr fun scope member =>
          absent dotted scope (List.mem_singleton.mp member ▸ List.mem_cons_self)]
    · rw [find?_of_held held, find?_of_held held]

/-- A record with a path of two segments and a key that looks like one. -/
def outerRecord : Value :=
  .object [("a".toList, .object [("b".toList, .string "outer".toList)]),
    ("v.1".toList, .string "key".toList)]

/-- A record in which the path of the outer one leads nowhere and its key is a path. -/
def innerItem : Value :=
  .object [("a".toList, .object []), ("v".toList, .list [.null, .bool true])]

/-- The inner record hides the path of the outer one, but not its key. -/
theorem shadowing_lookup?_innerItem :
    lookup? [outerRecord] "a.b".toList = some (.string "outer".toList) ∧
      lookup? [innerItem, outerRecord] "a.b".toList = none ∧
      lookup? [innerItem] "v.1".toList = some (.bool true) ∧
      lookup? [.null, innerItem, outerRecord] "v.1".toList = some (.string "key".toList) := by
  have path : Shadowing [outerRecord] innerItem "a.b".toList :=
    shadowing_lookup? _ _ (by decide) (by decide)
  have key : Shadowing [innerItem, outerRecord] .null "v.1".toList :=
    shadowing_lookup? _ _ (by decide) (by decide)
  have absent : ∀ scope ∈ [innerItem, outerRecord], scope.member? "a.b".toList = none := by
    simp [innerItem, outerRecord, Value.member?]
  have held : innerItem.member? (firstSegment "a.b".toList) ≠ none :=
    Option.ne_none_iff_exists'.mpr ⟨.object [], rfl⟩
  refine ⟨rfl, ?_, rfl, ?_⟩
  · rw [path.committed (fun _ => absent) held]
    rfl
  · rw [key.passed (.inl rfl)]
    rfl

end Scope

end WordMerge
