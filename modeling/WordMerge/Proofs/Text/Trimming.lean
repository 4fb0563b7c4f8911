import Mathlib.Data.List.DropRight
import WordMerge.Text.Blank

namespace WordMerge

namespace Text

theorem mem_of_mem_trim {s : Text} {c : Char} (member : c ∈ trim s) : c ∈ s := by
  have inner : c ∈ (s.dropWhile isBlank).reverse :=
    (List.dropWhile_suffix isBlank).subset (List.mem_reverse.mp member)
  exact (List.dropWhile_suffix isBlank).subset (List.mem_reverse.mp inner)

theorem dropWhile_trim (s : Text) : (trim s).dropWhile isBlank = trim s := by
  have kept : trim s <+: s.dropWhile isBlank := List.rdropWhile_prefix isBlank _
  cases trimmed : trim s with
  | nil => rfl
  | cons c rest =>
    obtain ⟨after, split⟩ := trimmed ▸ kept
    have first := List.head?_dropWhile_not isBlank s
    rw [← split] at first
    have filled : isBlank c = false := by simpa using first
    rw [List.dropWhile_cons_of_neg (by simp [filled])]

/-- Trimming twice is trimming once. -/
theorem trim_trim (s : Text) : trim (trim s) = trim s := by
  have again : List.rdropWhile isBlank (trim s) = trim s :=
    List.rdropWhile_idempotent isBlank (s.dropWhile isBlank)
  have first : trim (trim s) = List.rdropWhile isBlank ((trim s).dropWhile isBlank) := rfl
  rw [first, dropWhile_trim, again]

/-- A text is left as it is exactly if neither its first nor its last character is white space. -/
theorem trim_eq_self_iff {s : Text} : trim s = s ↔
    (∀ c ∈ s.head?, isBlank c = false) ∧ ∀ c ∈ s.getLast?, isBlank c = false := by
  have behind : s.dropWhile isBlank = s ↔ ∀ c ∈ s.head?, isBlank c = false := by
    cases s <;> simp [List.dropWhile_eq_self_iff]
  have before : List.rdropWhile isBlank s = s ↔ ∀ c ∈ s.getLast?, isBlank c = false := by
    rw [List.rdropWhile_eq_self_iff]
    cases s with
    | nil => simp
    | cons c rest => simp [List.getLast?_cons, List.getLast_eq_getLastD]
  have steps : trim s = List.rdropWhile isBlank (s.dropWhile isBlank) := rfl
  rw [← behind, ← before]
  constructor
  · intro same
    have front : s.dropWhile isBlank = s := same ▸ dropWhile_trim s
    exact ⟨front, by rwa [steps, front] at same⟩
  · rintro ⟨front, back⟩
    rw [steps, front, back]

/-- Trimming leaves nothing of white space, and only of white space. -/
theorem trim_eq_nil_iff {s : Text} : trim s = [] ↔ blank s = true := by
  have steps : trim s = List.rdropWhile isBlank (s.dropWhile isBlank) := rfl
  rw [steps, List.rdropWhile_eq_nil_iff, blank, List.all_eq_true]
  constructor
  · intro later c member
    rw [← List.takeWhile_append_dropWhile (p := isBlank) (l := s), List.mem_append] at member
    rcases member with front | back
    · exact List.all_eq_true.mp List.all_takeWhile c front
    · exact later c back
  · exact fun all c member => all c ((List.dropWhile_suffix isBlank).subset member)

/-- White space around a text does not count. -/
theorem trim_around {before after : Text} (s : Text) (front : blank before = true)
    (back : blank after = true) : trim (before ++ s ++ after) = trim s := by
  rw [blank, List.all_eq_true] at front back
  have turned : ∀ c ∈ after.reverse, isBlank c = true := fun c member =>
    back c (List.mem_reverse.mp member)
  rw [trim, trim, List.append_assoc, List.dropWhile_append_of_pos front, List.dropWhile_append]
  split
  · next empty =>
    rw [List.isEmpty_iff.mp empty, List.dropWhile_eq_nil_iff.mpr back]
  · rw [List.reverse_append, List.dropWhile_append_of_pos turned]

theorem not_isBlank_of_between {c : Char} (low : 0x41 ≤ c.toNat) (high : c.toNat ≤ 0x7A) :
    isBlank c = false := by
  simp only [isBlank, Bool.or_eq_false_iff, Bool.and_eq_false_iff, decide_eq_false_iff_not,
    beq_eq_false_iff_ne]
  omega

theorem isBlank_lowerChar (c : Char) : isBlank (lowerChar c) = isBlank c := by
  unfold lowerChar Char.toLower
  split
  · next capital =>
    have low : 0x41 ≤ c.toNat := UInt32.le_iff_toNat_le.mp capital.1
    have high : c.toNat ≤ 0x5A := UInt32.le_iff_toNat_le.mp capital.2
    have moved : (c.val + ('a'.val - 'A'.val)).toNat = c.toNat + 0x20 := by
      rw [UInt32.toNat_add]
      exact Nat.mod_eq_of_lt (by change c.toNat + 32 < 2 ^ 32; omega)
    rw [not_isBlank_of_between low (by omega),
      not_isBlank_of_between (moved.ge.trans' (by omega)) (moved.le.trans (by omega))]
  · rfl

/-- The case of letters makes no difference to trimming. -/
theorem trim_lower (s : Text) : trim (lower s) = lower (trim s) := by
  have same : isBlank ∘ lowerChar = isBlank := funext isBlank_lowerChar
  rw [trim, lower, List.dropWhile_map, same, ← List.map_reverse, List.dropWhile_map, same,
    ← List.map_reverse]
  rfl

end Text

end WordMerge
