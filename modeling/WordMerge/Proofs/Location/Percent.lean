import WordMerge.Location.Percent
import WordMerge.Proofs.Text.Utf8

namespace WordMerge

namespace Percent

/-- A hexadecimal digit is read as the number that it was written for, and stands for itself
everywhere. -/
theorem hexDigit_spec : ∀ n < 16, digit? 16 (hexDigit n) = some n ∧
    strictReserved (hexDigit n) = false ∧ (hexDigit n).toNat ≤ 127 := by
  decide +kernel

/-- The digits of a byte spell it. -/
theorem pair?_hexDigit (b : UInt8) :
    pair? (Utf8.byteOf (hexDigit (b.toNat / 16))) (Utf8.byteOf (hexDigit (b.toNat % 16))) =
      some b := by
  have size : b.toNat < 256 := b.toNat_lt
  have read (n : Nat) (small : n < 16) :
      digit? 16 (Char.ofNat (Utf8.byteOf (hexDigit n)).toNat) = some n := by
    obtain ⟨value, _, ascii⟩ := hexDigit_spec n small
    rw [Utf8.toNat_byteOf ascii, Char.ofNat_toNat, value]
  have whole : b.toNat / 16 * 16 + b.toNat % 16 = b.toNat := Nat.div_add_mod' _ _
  simp only [pair?, read _ (show b.toNat / 16 < 16 by omega),
    read _ (show b.toNat % 16 < 16 by omega), whole, UInt8.ofNat_toNat]

theorem decode_cons_of_ne {b : UInt8} (other : b ≠ 0x25) (rest : Bytes) :
    decode (b :: rest) = b :: decode rest := by
  match rest with
  | [] => rfl
  | [_] => rfl
  | _ :: _ :: _ => rw [decode, if_neg other]

/-- Bytes without a percent sign stand for themselves. -/
theorem decode_append_of_plain {front : Bytes} (plain : 0x25 ∉ front) (rest : Bytes) :
    decode (front ++ rest) = front ++ decode rest := by
  induction front with
  | nil => rfl
  | cons b front ih =>
    rw [List.mem_cons, not_or] at plain
    rw [List.cons_append, decode_cons_of_ne (Ne.symm plain.1), ih plain.2, List.cons_append]

/-- A byte behind a percent sign is read as that byte. -/
theorem decode_encodeByte (b : UInt8) (rest : Bytes) :
    decode (Utf8.encode (encodeByte b) ++ rest) = b :: decode rest := by
  have size : b.toNat < 256 := b.toNat_lt
  have spelled : Utf8.encode (encodeByte b) = [0x25, Utf8.byteOf (hexDigit (b.toNat / 16)),
      Utf8.byteOf (hexDigit (b.toNat % 16))] := by
    rw [encodeByte, Utf8.encode_cons_of_ascii (by decide),
      Utf8.encode_cons_of_ascii (hexDigit_spec _ (by omega)).2.2,
      Utf8.encode_cons_of_ascii (hexDigit_spec _ (by omega)).2.2]
    rfl
  rw [spelled]
  simp only [List.cons_append, List.nil_append]
  rw [decode, if_pos rfl, pair?_hexDigit]

theorem decode_flatMap_encodeByte (bytes rest : Bytes) :
    decode (Utf8.encode (bytes.flatMap encodeByte) ++ rest) = bytes ++ decode rest := by
  induction bytes with
  | nil => rfl
  | cons b bytes ih =>
    rw [List.flatMap_cons, Utf8.encode_append, List.append_assoc, decode_encodeByte, ih,
      List.cons_append]

/-- What is written behind percent signs is read back, if a percent sign itself is, too. -/
theorem decode_encode {reserved : Char → Bool} (marked : reserved '%' = true) (s : Text) :
    decode (Utf8.encode (encode reserved s)) = Utf8.encode s := by
  induction s with
  | nil => rfl
  | cons c s ih =>
    have first : Utf8.encode (c :: s) = String.utf8EncodeChar c ++ Utf8.encode s :=
      List.flatMap_cons
    have written : encode reserved (c :: s) = encodeChar reserved c ++ encode reserved s :=
      List.flatMap_cons
    rw [written, Utf8.encode_append, encodeChar, first]
    split
    · rw [decode_flatMap_encodeByte, ih]
    · next kept =>
      have alone : Utf8.encode [c] = String.utf8EncodeChar c := by simp [Utf8.encode]
      have plain : 0x25 ∉ Utf8.encode [c] := by
        intro member
        have sign : '%' ∈ [c] := Utf8.mem_of_byteOf_mem_encode (by decide) member
        exact kept (List.mem_singleton.mp sign ▸ marked)
      rw [decode_append_of_plain plain, ih, alone]

/-- Only percent signs and what may stand for itself are written. -/
theorem unreserved_of_mem_encode {s : Text} {c : Char} (member : c ∈ encode strictReserved s) :
    c = '%' ∨ strictReserved c = false := by
  obtain ⟨d, _, inside⟩ := List.mem_flatMap.mp member
  unfold encodeChar at inside
  split at inside
  · obtain ⟨b, _, inByte⟩ := List.mem_flatMap.mp inside
    have size : b.toNat < 256 := b.toNat_lt
    simp only [encodeByte, List.mem_cons, List.not_mem_nil, or_false] at inByte
    rcases inByte with rfl | rfl | rfl
    · exact .inl rfl
    · exact .inr (hexDigit_spec _ (by omega)).2.1
    · exact .inr (hexDigit_spec _ (by omega)).2.1
  · next kept =>
    cases List.mem_singleton.mp inside
    exact .inr (Bool.not_eq_true _ ▸ kept)

/-- What may stand for itself is printable ASCII. -/
theorem printable_of_unreserved {c : Char} (unreserved : strictReserved c = false) :
    0x20 ≤ c.toNat ∧ c.toNat ≤ 0x7E := by
  rw [strictReserved, Bool.not_eq_false', Bool.or_eq_true] at unreserved
  rcases unreserved with letter | mark
  · have ranges : ((decide (65 ≤ c.val ∧ c.val ≤ 90) || (decide (97 ≤ c.val) && decide (c.val ≤ 122)))
        || (decide (48 ≤ c.val) && decide (c.val ≤ 57))) = true := letter
    simp [UInt32.le_iff_toNat_le] at ranges
    omega
  · rw [List.contains_iff_mem] at mark
    have marks : "-._~".toList.all (fun d => 0x20 ≤ d.toNat && d.toNat ≤ 0x7E) = true := by decide
    simpa using List.all_eq_true.mp marks c mark

end Percent

end WordMerge
