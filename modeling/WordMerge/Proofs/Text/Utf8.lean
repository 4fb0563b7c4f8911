import WordMerge.Text.Utf8

namespace WordMerge

namespace Utf8

theorem toNat_ofNat_of_lt {n : Nat} (small : n < 256) : (UInt8.ofNat n).toNat = n := by
  rw [UInt8.toNat_ofNat']
  exact Nat.mod_eq_of_lt small

theorem valid_cases (c : Char) : c.toNat < 0xD800 ∨ 0xDFFF < c.toNat ∧ c.toNat < 0x110000 := by
  have valid := c.valid
  exact valid

theorem isTail_ofNat {n : Nat} (small : n < 64) : isTail (UInt8.ofNat (n + 128)) = true := by
  have value : (UInt8.ofNat (n + 128)).toNat = n + 128 := toNat_ofNat_of_lt (by omega)
  simp only [isTail, Bool.and_eq_true, decide_eq_true_eq, UInt8.le_iff_toNat_le, value]
  exact ⟨by simp, by simp; omega⟩

theorem load_ofNat {n : Nat} (small : n < 64) : load (UInt8.ofNat (n + 128)) = n := by
  rw [load, toNat_ofNat_of_lt (by omega)]
  omega

section Bytes

variable {a b c d : UInt8} {rest : Bytes}

theorem step_one (low : a.toNat < 0x80) : step a rest = .char (Char.ofNat a.toNat) 1 := by
  have small : a < 0x80 := UInt8.lt_iff_toNat_lt.mpr low
  unfold step
  rw [if_pos small]

/-- Two bytes that fit together are one character, and so are three and four. -/
theorem step_two (low : 0xC2 ≤ a.toNat) (high : a.toNat ≤ 0xDF) (second : isTail b = true) :
    step a (b :: rest) = .char (Char.ofNat ((a.toNat - 0xC0) * 64 + load b)) 2 := by
  have large : ¬a < 0x80 := by
    rw [UInt8.lt_iff_toNat_lt]
    exact Nat.not_lt.mpr (Nat.le_trans (by decide) low)
  have inside : (0xC2 ≤ a && a ≤ 0xDF) = true := by
    simp only [Bool.and_eq_true, decide_eq_true_eq, UInt8.le_iff_toNat_le]
    exact ⟨low, high⟩
  unfold step
  rw [if_neg large, if_pos inside]
  dsimp only
  rw [if_pos second]

theorem step_three (low : 0xE0 ≤ a.toNat) (high : a.toNat ≤ 0xEF) (second : mayFollow a b = true)
    (third : isTail c = true) :
    step a (b :: c :: rest)
      = .char (Char.ofNat (((a.toNat - 0xE0) * 64 + load b) * 64 + load c)) 3 := by
  have large : ¬a < 0x80 := by
    rw [UInt8.lt_iff_toNat_lt]
    exact Nat.not_lt.mpr (Nat.le_trans (by decide) low)
  have above : ¬(0xC2 ≤ a && a ≤ 0xDF) = true := by
    simp only [Bool.and_eq_true, decide_eq_true_eq, UInt8.le_iff_toNat_le, not_and]
    exact fun _ => Nat.not_le.mpr (Nat.lt_of_lt_of_le (by decide) low)
  have inside : (0xE0 ≤ a && a ≤ 0xEF) = true := by
    simp only [Bool.and_eq_true, decide_eq_true_eq, UInt8.le_iff_toNat_le]
    exact ⟨low, high⟩
  unfold step
  rw [if_neg large, if_neg above, if_pos inside]
  simp only [second, third]
  rfl

theorem step_four (low : 0xF0 ≤ a.toNat) (high : a.toNat ≤ 0xF4) (second : mayFollow a b = true)
    (third : isTail c = true) (fourth : isTail d = true) :
    step a (b :: c :: d :: rest)
      = .char (Char.ofNat ((((a.toNat - 0xF0) * 64 + load b) * 64 + load c) * 64 + load d)) 4 := by
  have large : ¬a < 0x80 := by
    rw [UInt8.lt_iff_toNat_lt]
    exact Nat.not_lt.mpr (Nat.le_trans (by decide) low)
  have above : ¬(0xC2 ≤ a && a ≤ 0xDF) = true := by
    simp only [Bool.and_eq_true, decide_eq_true_eq, UInt8.le_iff_toNat_le, not_and]
    exact fun _ => Nat.not_le.mpr (Nat.lt_of_lt_of_le (by decide) low)
  have beyond : ¬(0xE0 ≤ a && a ≤ 0xEF) = true := by
    simp only [Bool.and_eq_true, decide_eq_true_eq, UInt8.le_iff_toNat_le, not_and]
    exact fun _ => Nat.not_le.mpr (Nat.lt_of_lt_of_le (by decide) low)
  have inside : (0xF0 ≤ a && a ≤ 0xF4) = true := by
    simp only [Bool.and_eq_true, decide_eq_true_eq, UInt8.le_iff_toNat_le]
    exact ⟨low, high⟩
  unfold step
  rw [if_neg large, if_neg above, if_neg beyond, if_pos inside]
  simp only [second, third, fourth]
  rfl

end Bytes

theorem between_ofNat {n : Nat} {low high : UInt8} (small : n < 256) :
    (low ≤ UInt8.ofNat n && UInt8.ofNat n ≤ high) = true ↔ low.toNat ≤ n ∧ n ≤ high.toNat := by
  simp only [Bool.and_eq_true, decide_eq_true_eq, UInt8.le_iff_toNat_le, toNat_ofNat_of_lt small]

theorem beq_ofNat {n : Nat} {b : UInt8} (small : n < 256) :
    (UInt8.ofNat n == b) = true ↔ n = b.toNat := by
  rw [beq_iff_eq, ← UInt8.toNat_inj, toNat_ofNat_of_lt small]

-- The narrower ranges are met because a character has no shorter spelling and is no surrogate.

/-- The second of three bytes is neither that of a longer form than needed nor that of a
surrogate. -/
theorem mayFollow_three {high low : Nat} (bounded : high < 16) (small : low < 64)
    (longest : high = 0 → 32 ≤ low) (proper : high = 13 → low < 32) :
    mayFollow (UInt8.ofNat (high + 224)) (UInt8.ofNat (low + 128)) = true := by
  have first : high + 224 < 256 := by omega
  have second : low + 128 < 256 := by omega
  unfold mayFollow
  split
  · next least =>
    rw [beq_ofNat first] at least
    exact (between_ofNat second).mpr ⟨by simp at least ⊢; omega, by simp; omega⟩
  · split
    · next surrogate =>
      rw [beq_ofNat first] at surrogate
      exact (between_ofNat second).mpr ⟨by simp, by simp at surrogate ⊢; omega⟩
    · split
      · next four =>
        rw [beq_ofNat first] at four
        simp at four
        omega
      · split
        · next four =>
          rw [beq_ofNat first] at four
          simp at four
          omega
        · exact isTail_ofNat small

/-- The second of four bytes is neither that of a longer form than needed nor past U+10FFFF. -/
theorem mayFollow_four {high low : Nat} (bounded : high ≤ 4) (small : low < 64)
    (longest : high = 0 → 16 ≤ low) (proper : high = 4 → low < 16) :
    mayFollow (UInt8.ofNat (high + 240)) (UInt8.ofNat (low + 128)) = true := by
  have first : high + 240 < 256 := by omega
  have second : low + 128 < 256 := by omega
  unfold mayFollow
  split
  · next three =>
    rw [beq_ofNat first] at three
    simp at three
  · split
    · next three =>
      rw [beq_ofNat first] at three
      simp at three
    · split
      · next least =>
        rw [beq_ofNat first] at least
        exact (between_ofNat second).mpr ⟨by simp at least ⊢; omega, by simp; omega⟩
      · split
        · next greatest =>
          rw [beq_ofNat first] at greatest
          exact (between_ofNat second).mpr ⟨by simp, by simp at greatest ⊢; omega⟩
        · exact isTail_ofNat small

/-- A character is read from its bytes, whatever follows them. -/
theorem step_encodeChar (c : Char) : ∃ first tail, String.utf8EncodeChar c = first :: tail ∧
    ∀ rest, step first (tail ++ rest) = .char c (tail.length + 1) := by
  have valid := valid_cases c
  have whole : Char.ofNat c.toNat = c := Char.ofNat_toNat c
  generalize number : c.toNat = n at valid whole
  have value : c.val.toNat = n := number
  unfold String.utf8EncodeChar
  rw [value]
  dsimp only
  -- One case for each number of bytes: what the bytes hold together is the number of the character.
  by_cases one : n ≤ 127
  · rw [if_pos one]
    refine ⟨_, _, rfl, fun rest => ?_⟩
    have first : (UInt8.ofNat n).toNat = n := toNat_ofNat_of_lt (by omega)
    rw [step_one (by omega), first, whole]
    rfl
  · rw [if_neg one]
    by_cases two : n ≤ 2047
    · rw [if_pos two]
      refine ⟨_, _, rfl, fun rest => ?_⟩
      have first : (UInt8.ofNat (n / 64 % 32 + 192)).toNat = n / 64 % 32 + 192 :=
        toNat_ofNat_of_lt (by omega)
      have parts : (n / 64 % 32 + 192 - 0xC0) * 64 + n % 64 = n := by omega
      rw [List.cons_append,
        step_two (by omega) (by omega) (isTail_ofNat (Nat.mod_lt n (by decide))), first,
        load_ofNat (Nat.mod_lt n (by decide)), parts, whole]
      rfl
    · rw [if_neg two]
      by_cases three : n ≤ 65535
      · rw [if_pos three]
        refine ⟨_, _, rfl, fun rest => ?_⟩
        have first : (UInt8.ofNat (n / 4096 % 16 + 224)).toNat = n / 4096 % 16 + 224 :=
          toNat_ofNat_of_lt (by omega)
        have parts :
            ((n / 4096 % 16 + 224 - 0xE0) * 64 + n / 64 % 64) * 64 + n % 64 = n := by omega
        rw [List.cons_append, List.cons_append,
          step_three (by omega) (by omega)
            (mayFollow_three (by omega) (by omega) (by omega) (by omega))
            (isTail_ofNat (Nat.mod_lt n (by decide))), first,
          load_ofNat (Nat.mod_lt _ (by decide)), load_ofNat (Nat.mod_lt n (by decide)), parts,
          whole]
        rfl
      · rw [if_neg three]
        refine ⟨_, _, rfl, fun rest => ?_⟩
        have first : (UInt8.ofNat (n / 262144 % 8 + 240)).toNat = n / 262144 % 8 + 240 :=
          toNat_ofNat_of_lt (by omega)
        have parts : (((n / 262144 % 8 + 240 - 0xF0) * 64 + n / 4096 % 64) * 64 + n / 64 % 64) * 64
            + n % 64 = n := by omega
        rw [List.cons_append, List.cons_append, List.cons_append,
          step_four (by omega) (by omega)
            (mayFollow_four (by omega) (by omega) (by omega) (by omega))
            (isTail_ofNat (Nat.mod_lt _ (by decide))) (isTail_ofNat (Nat.mod_lt n (by decide))),
          first, load_ofNat (Nat.mod_lt _ (by decide)), load_ofNat (Nat.mod_lt _ (by decide)),
          load_ofNat (Nat.mod_lt n (by decide)), parts, whole]
        rfl

theorem encode_cons {c : Char} {first : UInt8} {tail : Bytes}
    (spelled : String.utf8EncodeChar c = first :: tail) (s : Text) :
    encode (c :: s) = first :: (tail ++ encode s) := by
  rw [encode, List.flatMap_cons, spelled, List.cons_append]
  rfl

/-- Decoding goes on behind every encoded character. -/
theorem decode_go_encode (s done : Text) (index : Nat) :
    decode.go index done (encode s) = .ok (done.reverse ++ s) := by
  induction s generalizing done index with
  | nil => simp [encode, decode.go]
  | cons c s ih =>
    obtain ⟨first, tail, spelled, read⟩ := step_encodeChar c
    rw [encode_cons spelled, decode.go, read]
    simp only [Nat.add_sub_cancel, List.drop_left]
    rw [ih]
    simp

/-- What a text is encoded to decodes to the text. -/
theorem decode_encode (s : Text) : decode (encode s) = .ok s :=
  decode_go_encode s [] 0

/-- Where every sequence is well formed, lenient decoding does the same. -/
theorem decodeLossy_go_encode (s done : Text) :
    decodeLossy.go done (encode s) = done.reverse ++ s := by
  induction s generalizing done with
  | nil => simp [encode, decodeLossy.go]
  | cons c s ih =>
    obtain ⟨first, tail, spelled, read⟩ := step_encodeChar c
    rw [encode_cons spelled, decodeLossy.go, read]
    simp only [Nat.add_sub_cancel, List.drop_left]
    rw [ih]
    simp

theorem decodeLossy_encode (s : Text) : decodeLossy (encode s) = s :=
  decodeLossy_go_encode s []

theorem utf8EncodeChar_of_ascii {c : Char} (ascii : c.toNat ≤ 127) :
    String.utf8EncodeChar c = [UInt8.ofNat c.toNat] := by
  have value : c.val.toNat ≤ 127 := ascii
  unfold String.utf8EncodeChar
  dsimp only
  rw [if_pos value]
  rfl

/-- The byte of an ASCII character. -/
def byteOf (c : Char) : UInt8 :=
  UInt8.ofNat c.toNat

theorem toNat_byteOf {c : Char} (ascii : c.toNat ≤ 127) : (byteOf c).toNat = c.toNat :=
  toNat_ofNat_of_lt (by omega)

/-- Different ASCII characters have different bytes. -/
theorem byteOf_inj {c d : Char} (first : c.toNat ≤ 127) (second : d.toNat ≤ 127) :
    byteOf c = byteOf d ↔ c = d := by
  rw [← UInt8.toNat_inj, toNat_byteOf first, toNat_byteOf second]
  exact Char.toNat_inj

theorem encode_nil : encode [] = [] := rfl

theorem encode_append (a b : Text) : encode (a ++ b) = encode a ++ encode b :=
  List.flatMap_append

theorem encode_cons_of_ascii {c : Char} (ascii : c.toNat ≤ 127) (s : Text) :
    encode (c :: s) = byteOf c :: encode s := by
  rw [encode, List.flatMap_cons, utf8EncodeChar_of_ascii ascii]
  rfl

/-- No byte of a character beyond ASCII is that of an ASCII character. -/
theorem high_of_mem_encodeChar {c : Char} (beyond : 127 < c.toNat) {b : UInt8}
    (member : b ∈ String.utf8EncodeChar c) : 128 ≤ b.toNat := by
  have value : c.val.toNat = c.toNat := rfl
  unfold String.utf8EncodeChar at member
  rw [value] at member
  dsimp only at member
  have byte {n : Nat} (small : n < 256) : (UInt8.ofNat n).toNat = n := toNat_ofNat_of_lt small
  split at member
  · omega
  · split at member
    · simp only [List.mem_cons, List.not_mem_nil, or_false] at member
      rcases member with rfl | rfl <;> rw [byte (by omega)] <;> omega
    · split at member
      · simp only [List.mem_cons, List.not_mem_nil, or_false] at member
        rcases member with rfl | rfl | rfl <;> rw [byte (by omega)] <;> omega
      · simp only [List.mem_cons, List.not_mem_nil, or_false] at member
        rcases member with rfl | rfl | rfl | rfl <;> rw [byte (by omega)] <;> omega

/-- A text begins in bytes with an ASCII character, or with some that are none. -/
theorem encode_cons_cases (c : Char) (s : Text) :
    c.toNat ≤ 127 ∧ encode (c :: s) = byteOf c :: encode s ∨
      127 < c.toNat ∧ ∃ b front, (∀ d ∈ b :: front, 128 ≤ d.toNat) ∧
        encode [c] = b :: front ∧ encode (c :: s) = b :: front ++ encode s := by
  by_cases ascii : c.toNat ≤ 127
  · exact .inl ⟨ascii, encode_cons_of_ascii ascii s⟩
  · obtain ⟨b, front, spelled, _⟩ := step_encodeChar c
    refine .inr ⟨by omega, b, front, fun d member => ?_, by simp [encode, spelled], ?_⟩
    · exact high_of_mem_encodeChar (by omega) (spelled ▸ member)
    · rw [encode_cons spelled, List.cons_append]

/-- The byte of an ASCII character stands for that character wherever it occurs. -/
theorem mem_of_byteOf_mem_encode {c : Char} (ascii : c.toNat ≤ 127) {s : Text}
    (member : byteOf c ∈ encode s) : c ∈ s := by
  induction s with
  | nil => cases member
  | cons d s ih =>
    obtain ⟨low, follows⟩ | ⟨_, b, front, high, _, follows⟩ := encode_cons_cases d s
    · rw [follows, List.mem_cons, byteOf_inj ascii low] at member
      rcases member with rfl | later
      · exact List.mem_cons_self
      · exact List.mem_cons_of_mem _ (ih later)
    · rw [follows, List.mem_append] at member
      rcases member with inside | later
      · have large := high _ inside
        rw [toNat_byteOf ascii] at large
        omega
      · exact List.mem_cons_of_mem _ (ih later)

end Utf8

end WordMerge
