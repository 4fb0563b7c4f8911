import WordMerge.Proofs.Render.Structure
import WordMerge.Proofs.Template.Braces

namespace WordMerge

/-- The strings in a value. The keys of objects are not among them. -/
inductive Value.Holds : Value → Text → Prop
  | string (s : Text) : Holds (.string s) s
  | item {items : List Value} {item : Value} {s : Text} :
      item ∈ items → Holds item s → Holds (.list items) s
  | member {members : List (Text × Value)} {key : Text} {value : Value} {s : Text} :
      (key, value) ∈ members → Holds value s → Holds (.object members) s

/-- Whether no string in a value holds a brace. -/
def Value.BraceFree (value : Value) : Prop :=
  ∀ s, value.Holds s → s.BraceFree

namespace Text

/-- Whether a text has only characters in which numbers are written. -/
def Numeric (s : Text) : Prop :=
  ∀ c ∈ s, c.isDigit = true ∨ c ∈ ['.', '-', '+', 'e']

instance (s : Text) : Decidable s.Numeric :=
  List.decidableBAll _ s

@[simp] theorem numeric_cons {c : Char} {s : Text} :
    Numeric (c :: s) ↔ (c.isDigit = true ∨ c ∈ ['.', '-', '+', 'e']) ∧ Numeric s :=
  List.forall_mem_cons

@[simp] theorem numeric_append {a b : Text} : Numeric (a ++ b) ↔ Numeric a ∧ Numeric b :=
  List.forall_mem_append

theorem Numeric.of_subset {a b : Text} (numeric : Numeric b) (inside : a ⊆ b) : Numeric a :=
  fun c member => numeric c (inside member)

theorem numeric_ofNat (n : Nat) : Numeric (ofNat n) := fun _ member =>
  .inl (Nat.isDigit_of_mem_toDigits (by decide) (by decide) member)

theorem numeric_zeros (n : Nat) : Numeric (List.replicate n '0') := fun c member =>
  .inl (by rw [List.eq_of_mem_replicate member]; decide)

theorem Numeric.braceFree {s : Text} (numeric : Numeric s) : BraceFree s := by
  intro c member
  constructor
  · rintro rfl
    exact absurd (numeric _ member) (by decide)
  · rintro rfl
    exact absurd (numeric _ member) (by decide)

/-- Every line of a text is in the text. -/
theorem subset_intercalate {separator line : Text} {lines : List Text} (member : line ∈ lines) :
    line ⊆ separator.intercalate lines := by
  induction lines with
  | nil => cases member
  | cons first rest ih =>
    cases rest with
    | nil =>
      rw [List.mem_singleton.mp member, List.intercalate_singleton]
      exact List.Subset.refl _
    | cons next rest =>
      rw [List.intercalate_cons_cons]
      rcases List.mem_cons.mp member with rfl | later
      · exact List.subset_append_of_subset_left _ (List.subset_append_left _ _)
      · exact List.subset_append_of_subset_right _ (ih later)

/-- What stands in a line of a text stands in the text. -/
theorem subset_of_mem_splitOn {mark : Char} {text line : Text}
    (member : line ∈ text.splitOn mark) : line ⊆ text := by
  have inside : line ⊆ [mark].intercalate (text.splitOn mark) := subset_intercalate member
  rwa [List.intercalate_splitOn] at inside

end Text

/-- A decimal is written with signs of numbers only. -/
theorem DecimalLayout.numeric_write (layout : DecimalLayout) (d : Decimal) :
    (layout.write d).Numeric := by
  have digits := Text.numeric_ofNat d.digits
  have zeros := Text.numeric_zeros
  unfold write
  dsimp only
  split
  · split
    · simp [digits, zeros]
    · have padded : Text.Numeric (Text.ofNat d.digits ++ List.replicate
          ((d.exponent + (Text.ofNat d.digits).length - 1).toNat + 1 -
            (Text.ofNat d.digits).length) '0') := by
        simp [digits, zeros]
      rw [Text.numeric_append, Text.numeric_cons]
      refine ⟨padded.of_subset (List.take_subset _ _), by decide, ?_⟩
      split
      · decide
      · exact padded.of_subset (List.drop_subset _ _)
  · have exponent := Text.numeric_ofNat
      (d.exponent + (Text.ofNat d.digits).length - 1).natAbs
    generalize Text.ofNat d.digits = row at digits exponent ⊢
    rw [Text.numeric_append, Text.numeric_cons, Text.numeric_cons]
    refine ⟨?_, by decide, ?_, exponent⟩
    · rcases row with _ | ⟨c, _ | ⟨next, rest⟩⟩
      · exact digits
      · exact digits
      · rw [Text.numeric_cons] at digits ⊢
        exact ⟨digits.1, Text.numeric_cons.mpr ⟨by decide, digits.2⟩⟩
    · split <;> decide

/-- How a number is written. -/
theorem Number.numeric_write (n : Number) : n.write.Numeric := by
  cases n with
  | whole n =>
    simp only [write]
    split
    · exact Text.numeric_cons.mpr ⟨by decide, Text.numeric_ofNat _⟩
    · exact Text.numeric_ofNat _
  | double d =>
    rw [write, Double.write, Text.numeric_append]
    refine ⟨?_, DecimalLayout.numeric_write _ _⟩
    split <;> decide

namespace Value

@[simp] theorem braceFree_string {s : Text} : BraceFree (.string s) ↔ s.BraceFree := by
  refine ⟨fun free => free s (.string s), fun free t held => ?_⟩
  cases held
  exact free

@[simp] theorem braceFree_list {items : List Value} :
    BraceFree (.list items) ↔ ∀ item ∈ items, item.BraceFree := by
  refine ⟨fun free item member s held => free s (.item member held), fun free s held => ?_⟩
  cases held with
  | item member held => exact free _ member s held

@[simp] theorem braceFree_object {members : List (Text × Value)} :
    BraceFree (.object members) ↔ ∀ m ∈ members, m.2.BraceFree := by
  refine ⟨fun free m member s held => free s (.member member held), fun free s held => ?_⟩
  cases held with
  | member member held => exact free _ member s held

/-- What may be said of the text of a scalar: it is a string of the value, a number or one of a few
words. -/
theorem text?_induction {P : Text → Prop} (words : P [] ∧ P "true".toList ∧ P "false".toList)
    (numeric : ∀ s : Text, s.Numeric → P s) {value : Value} (strings : ∀ s, value.Holds s → P s)
    {text : Text} (found : value.text? = some text) : P text := by
  cases value with
  | null =>
    cases found
    exact words.1
  | bool b =>
    cases b <;> cases found
    · exact words.2.2
    · exact words.2.1
  | number n =>
    cases found
    exact numeric _ n.numeric_write
  | string s =>
    cases found
    exact strings _ (.string _)
  | list items => cases found
  | object members => cases found

/-- The text of a scalar holds no brace: numbers and truth values are written without any. -/
theorem BraceFree.text? {value : Value} (free : value.BraceFree) {text : Text}
    (found : value.text? = some text) : text.BraceFree :=
  text?_induction (P := Text.BraceFree) (by decide) (fun _ numeric => numeric.braceFree) free found

variable {value inner : Value} {s : Text}

theorem Holds.of_member? {key : Text} (found : value.member? key = some inner)
    (held : inner.Holds s) : value.Holds s := by
  cases value with
  | object members =>
    obtain ⟨front, back, split, _⟩ := List.lookup_eq_some_iff.mp found
    have member : (key, inner) ∈ members := by simp [split]
    exact .member member held
  | _ => cases found

/-- What a segment leads to holds no other strings. -/
theorem Holds.of_follow {segment : Text} (found : Scope.follow value segment = some inner)
    (held : inner.Holds s) : value.Holds s := by
  cases value with
  | object members => exact .of_member? found held
  | list items =>
    obtain ⟨place, _, there⟩ := Option.bind_eq_some_iff.mp found
    exact .item (List.mem_of_getElem? there) held
  | _ => cases found

end Value

namespace Scope

variable {scopes : List Value} {value : Value} {s : Text}

theorem holds_of_find? {key : Text} (found : find? scopes key = some value) (held : value.Holds s) :
    ∃ scope ∈ scopes, scope.Holds s := by
  obtain ⟨scope, member, there⟩ := List.exists_of_findSome?_eq_some found
  exact ⟨scope, member, .of_member? there held⟩

/-- What a path leads to holds no strings but those of the scopes. -/
theorem holds_of_path? {path : List Text} (found : path? scopes path = some value)
    (held : value.Holds s) : ∃ scope ∈ scopes, scope.Holds s := by
  cases path with
  | nil => cases found
  | cons first rest =>
    obtain ⟨start, there, followed⟩ := Option.bind_eq_some_iff.mp found
    have outer : start.Holds s := by
      clear there found
      induction rest generalizing start with
      | nil =>
        cases followed
        exact held
      | cons segment rest ih =>
        obtain ⟨next, step, followed⟩ := Option.bind_eq_some_iff.mp followed
        exact .of_follow step (ih next followed)
    exact holds_of_find? there outer

/-- What a name stands for holds no strings but those of the scopes. -/
theorem holds_of_lookup? {name : Text} (found : lookup? scopes name = some value)
    (held : value.Holds s) : ∃ scope ∈ scopes, scope.Holds s := by
  unfold lookup? resolve? at found
  split at found
  · exact ⟨value, List.mem_of_mem_head? found, held⟩
  · split at found
    · split at found
      · next whole =>
        cases found
        exact holds_of_find? whole held
      · exact holds_of_path? found held
    · exact holds_of_path? found held

/-- What a name stands for in scopes without braces holds no brace. -/
theorem braceFree_of_lookup? (free : ∀ scope ∈ scopes, scope.BraceFree) {name : Text}
    (found : lookup? scopes name = some value) : value.BraceFree := by
  intro s held
  obtain ⟨scope, member, outer⟩ := holds_of_lookup? found held
  exact free scope member s outer

end Scope

namespace PlacedTag

variable {scopes : List Value} {tag : PlacedTag} {turns : List (List Value)}

/-- The scopes of the turns of a section are those around it, with an item or an object in front. -/
theorem holds_of_sectionScopes (found : tag.sectionScopes scopes = .ok turns) {turn : List Value}
    (member : turn ∈ turns) {inner : Value} (among : inner ∈ turn) {s : Text}
    (held : inner.Holds s) : ∃ scope ∈ scopes, scope.Holds s := by
  have once {b : Bool} (same : turns = if b then [scopes] else []) :
      ∃ scope ∈ scopes, scope.Holds s := by
    subst same
    cases b with
    | false => cases member
    | true =>
      cases List.mem_singleton.mp member
      exact ⟨inner, among, held⟩
  unfold sectionScopes at found
  split at found
  · exact once (Except.ok.inj found).symm
  · cases found
  · cases found
    cases member
  · exact once (Except.ok.inj found).symm
  · next items there _ =>
    cases found
    obtain ⟨item, inside, rfl⟩ := List.mem_map.mp member
    rcases List.mem_cons.mp among with rfl | outer
    · exact Scope.holds_of_lookup? there (.item inside held)
    · exact ⟨inner, outer, held⟩
  · next members there _ =>
    cases found
    cases List.mem_singleton.mp member
    rcases List.mem_cons.mp among with rfl | outer
    · exact Scope.holds_of_lookup? there held
    · exact ⟨inner, outer, held⟩
  · cases found

theorem braceFree_of_sectionScopes (free : ∀ scope ∈ scopes, scope.BraceFree)
    (found : tag.sectionScopes scopes = .ok turns) :
    ∀ turn ∈ turns, ∀ scope ∈ turn, scope.BraceFree := by
  intro turn member scope among s held
  obtain ⟨outer, inside, there⟩ := holds_of_sectionScopes found member among held
  exact free outer inside s there

end PlacedTag

theorem Entity.braceFree_escape {s : Text} (free : s.BraceFree) : (escape s).BraceFree := by
  intro c member
  obtain ⟨d, inside, written⟩ := List.mem_flatMap.mp member
  have known : Text.BraceFree (escapeChar d) := by
    unfold escapeChar
    split
    · decide
    · split
      · decide
      · split
        · decide
        · exact Text.braceFree_cons.mpr ⟨free d inside, Text.braceFree_nil⟩
  exact known c written

theorem chomp_subset (line : Text) : chomp line ⊆ line := by
  unfold chomp
  split
  · exact List.dropLast_subset line
  · exact List.Subset.refl line

/-- Writing a text adds no brace. -/
theorem braceFree_valueXml {linebreaks : Bool} {text : Text} (free : text.BraceFree) :
    (valueXml linebreaks text).BraceFree := by
  unfold valueXml
  split
  · have breaks : lineBreakXml.BraceFree := by decide +kernel
    refine Text.intercalate_induction (motive := Text.BraceFree) Text.braceFree_nil
      (fun _ _ first second => Text.braceFree_append.mpr ⟨first, second⟩) breaks
      fun line member => ?_
    obtain ⟨own, inText, rfl⟩ := List.mem_map.mp member
    exact Entity.braceFree_escape
      (free.of_subset (List.Subset.trans (chomp_subset own) (Text.subset_of_mem_splitOn inText)))
  · exact Entity.braceFree_escape free

/-- What a value tag leaves is the XML of a text without braces. -/
theorem PlacedTag.braceFree_of_valueXml {linebreaks : Bool} {scopes : List Value}
    {tag : PlacedTag} {xml : Text} (free : ∀ scope ∈ scopes, scope.BraceFree)
    (written : tag.valueXml linebreaks scopes = .ok xml) :
    ∃ text : Text, text.BraceFree ∧ xml = WordMerge.valueXml linebreaks text := by
  unfold PlacedTag.valueXml at written
  split at written
  · cases written
  · next value found =>
    split at written
    · cases written
    · next text own =>
      exact ⟨text, (Scope.braceFree_of_lookup? free found).text? own,
        (Except.ok.inj written).symm⟩

end WordMerge
