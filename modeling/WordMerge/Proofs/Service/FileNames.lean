import WordMerge.Proofs.Text.Trimming
import WordMerge.Service.FileName

namespace WordMerge

namespace FileName

/-- A text that sanitizing leaves as it is. -/
structure Sanitized (name : Text) : Prop where
  /-- Its characters may stand in the name of a file. -/
  allowed : ∀ c ∈ name, c ∉ forbidden ∧ isControl c = false
  /-- There is no white space at its ends. -/
  trimmed : Text.trim name = name

/-- A name as documents have it: sanitized, with the end of names in any case behind a stem. -/
structure Proper (name : Text) : Prop extends Sanitized name where
  /-- The stem is not empty. -/
  ends : ∃ stem ending, name = stem ++ ending ∧ stem ≠ [] ∧ Text.lower ending = suffix

theorem sanitized_sanitize (name : Text) : Sanitized (sanitize name) where
  allowed c member := by
    have kept := (List.mem_filter.mp (Text.mem_of_mem_trim member)).2
    simpa using kept
  trimmed := Text.trim_trim _

/-- Sanitizing does nothing to a sanitized text. -/
theorem Sanitized.sanitize_eq {name : Text} (sanitized : Sanitized name) :
    sanitize name = name := by
  have whole : name.filter (fun c => !(forbidden.contains c || isControl c)) = name := by
    refine List.filter_eq_self.mpr fun c member => ?_
    simpa using sanitized.allowed c member
  rw [sanitize, whole, sanitized.trimmed]

theorem Sanitized.ends {name : Text} (sanitized : Sanitized name) :
    (∀ c ∈ name.head?, isBlank c = false) ∧ ∀ c ∈ name.getLast?, isBlank c = false :=
  Text.trim_eq_self_iff.mp sanitized.trimmed

theorem Sanitized.of_all {s : Text}
    (allowed : (s.all fun c => !(forbidden.contains c || isControl c)) = true)
    (trimmed : Text.trim s = s) : Sanitized s where
  allowed c member := by simpa using List.all_eq_true.mp allowed c member
  trimmed := trimmed

theorem sanitized_defaultStem : Sanitized defaultStem :=
  Sanitized.of_all (by decide) (by decide)

theorem sanitized_suffix : Sanitized suffix :=
  Sanitized.of_all (by decide) (by decide)

/-- The end of names is put behind a stem without harm. -/
theorem Sanitized.append_suffix {stem : Text} (sanitized : Sanitized stem) (filled : stem ≠ []) :
    Proper (stem ++ suffix) where
  allowed c member :=
    (List.mem_append.mp member).elim (sanitized.allowed c) (sanitized_suffix.allowed c)
  trimmed := by
    have front : (stem ++ suffix).head? = stem.head? := List.head?_append_of_ne_nil _ filled
    have back : (stem ++ suffix).getLast? = suffix.getLast? :=
      List.getLast?_append_of_ne_nil _ (by decide)
    rw [Text.trim_eq_self_iff, front, back]
    exact ⟨sanitized.ends.1, sanitized_suffix.ends.2⟩
  ends := ⟨stem, suffix, rfl, filled, by decide⟩

/-- A text has the end of names behind a stem exactly if nothing is put behind it. -/
theorem ends_iff {name : Text} :
    suffix.length < name.length ∧ suffix.isSuffixOf (Text.lower name) = true ↔
      ∃ stem ending, name = stem ++ ending ∧ stem ≠ [] ∧ Text.lower ending = suffix := by
  rw [List.isSuffixOf_iff_suffix]
  constructor
  · rintro ⟨long, front, whole⟩
    obtain ⟨stem, ending, rfl, _, lowered⟩ := List.append_eq_map_iff.mp whole
    refine ⟨stem, ending, rfl, ?_, lowered⟩
    rintro rfl
    rw [← lowered, List.length_map, List.nil_append] at long
    exact Nat.lt_irrefl _ long
  · rintro ⟨stem, ending, rfl, filled, lowered⟩
    have long : suffix.length = ending.length := by rw [← lowered, Text.lower, List.length_map]
    have some := List.length_pos_iff.mpr filled
    refine ⟨by rw [List.length_append]; omega, Text.lower stem, ?_⟩
    rw [← lowered, Text.lower, Text.lower, Text.lower, List.map_append]

/-- A sanitized stem that is not empty gives a proper name. -/
theorem Sanitized.withSuffix {stem : Text} (sanitized : Sanitized stem) (filled : stem ≠ []) :
    Proper (withSuffix stem) := by
  unfold FileName.withSuffix
  split
  · next has => exact ⟨sanitized, ends_iff.mp has⟩
  · exact sanitized.append_suffix filled

theorem Proper.withSuffix_eq {name : Text} (proper : Proper name) : FileName.withSuffix name = name :=
  if_pos (ends_iff.mpr proper.ends)

theorem Proper.ne_nil {name : Text} (proper : Proper name) : name ≠ [] := by
  obtain ⟨stem, ending, rfl, filled, _⟩ := proper.ends
  exact List.append_ne_nil_of_left_ne_nil filled ending

/-- Every document gets a proper name. -/
theorem proper_resolve (asked : Option Text) (data : Value) : Proper (resolve asked data) := by
  unfold resolve
  dsimp only
  cases found : ((asked.toList ++ (ofData? data).toList).map sanitize).find?
      fun name => !name.isEmpty with
  | none => exact sanitized_defaultStem.withSuffix (by decide)
  | some name =>
    obtain ⟨raw, _, rfl⟩ := List.mem_map.mp (List.mem_of_find?_eq_some found)
    have filled := List.find?_some found
    exact (sanitized_sanitize raw).withSuffix (by simpa using filled)

/-- A proper name that is asked for is given. -/
theorem Proper.resolve_self {name : Text} (proper : Proper name) (data : Value) :
    resolve (some name) data = name := by
  have filled : (!name.isEmpty) = true := by simpa using proper.ne_nil
  simp only [resolve, Option.toList_some, List.singleton_append, List.map_cons,
    proper.toSanitized.sanitize_eq]
  rw [List.find?_cons_of_pos (p := fun name : Text => !name.isEmpty) filled, Option.getD_some,
    proper.withSuffix_eq]

end FileName

end WordMerge
