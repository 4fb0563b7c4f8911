import WordMerge.Archive.Deflate
import WordMerge.Proofs.Text.Utf8

namespace WordMerge

namespace Deflate

/-- So many full blocks and a last one. -/
def storedBlocks : Nat → Bytes → Bytes
  | 0, data => storedBlock true data
  | n + 1, data =>
    storedBlock false (data.take storedLimit) ++ storedBlocks n (data.drop storedLimit)

theorem store_go_eq (done : List Bytes) (n : Nat) (data : Bytes) :
    store.go done n data = done.reverse.flatten ++ storedBlocks n data := by
  induction n generalizing done data with
  | zero => simp [store.go, storedBlocks]
  | succ n ih => simp [store.go, storedBlocks, ih]

theorem store_eq (data : Bytes) : store data = storedBlocks (data.length / storedLimit) data :=
  store_go_eq [] (data.length / storedLimit) data

theorem length_storedBlock (last : Bool) (data : Bytes) :
    (storedBlock last data).length = data.length + 5 :=
  rfl

theorem length_storedBlocks (n : Nat) (data : Bytes) :
    (storedBlocks n data).length = data.length + 5 * (n + 1) := by
  induction n generalizing data with
  | zero => exact length_storedBlock true data
  | succ n ih =>
    have whole := congrArg List.length (List.take_append_drop storedLimit data)
    rw [List.length_append] at whole
    rw [storedBlocks, List.length_append, length_storedBlock, ih]
    omega

theorem length_le_store (data : Bytes) : data.length ≤ (store data).length := by
  rw [store_eq, length_storedBlocks]
  exact Nat.le_add_right _ _

/-- A stored block is read as its data, and the reading goes on behind it. -/
theorem stored?_storedBlock {data : Bytes} (small : data.length ≤ storedLimit) (out : Array UInt8)
    (held count : Nat) (rest : Bytes) :
    stored? out ⟨held, count, (storedBlock false data).tail ++ rest⟩
      = some (out ++ data.toArray, ⟨0, 0, rest⟩) := by
  have limit : data.length ≤ 0xFFFF := small
  have low : (UInt8.ofNat (data.length % 256)).toNat = data.length % 256 :=
    Utf8.toNat_ofNat_of_lt (by omega)
  have high : (UInt8.ofNat (data.length / 256)).toNat = data.length / 256 :=
    Utf8.toNat_ofNat_of_lt (by omega)
  have turnedLow : (UInt8.ofNat (255 - data.length % 256)).toNat = 255 - data.length % 256 :=
    Utf8.toNat_ofNat_of_lt (by omega)
  have turnedHigh : (UInt8.ofNat (255 - data.length / 256)).toNat = 255 - data.length / 256 :=
    Utf8.toNat_ofNat_of_lt (by omega)
  have length : data.length % 256 + 256 * (data.length / 256) = data.length := by omega
  have turned : data.length + (255 - data.length % 256 + 256 * (255 - data.length / 256)) = 0xFFFF :=
    by omega
  simp only [storedBlock, List.tail_cons, List.cons_append, stored?, low, high, turnedLow, turnedHigh,
    length, turned, List.take_left, List.drop_left, and_self, if_true]

/-- Reading takes one stored block off the front; after the last one it stops. -/
theorem blocks?_storedBlock {data : Bytes} (small : data.length ≤ storedLimit) (bound more : Nat)
    (out : Array UInt8) (last : Bool) (rest : Bytes) :
    blocks? bound (more + 1) out ⟨0, 0, storedBlock last data ++ rest⟩
      = if last then some (out ++ data.toArray)
        else blocks? bound more (out ++ data.toArray) ⟨0, 0, rest⟩ := by
  cases last
  · have block := stored?_storedBlock small out 0 5 rest
    have taken : (storedBlock false data ++ rest)
        = 0 :: ((storedBlock false data).tail ++ rest) := rfl
    rw [taken, blocks?]
    simp [BitSource.bit?, BitSource.bits?, block]
  · have block := stored?_storedBlock small out 0 5 rest
    have taken : (storedBlock true data ++ rest)
        = 1 :: ((storedBlock false data).tail ++ rest) := rfl
    rw [taken, blocks?]
    simp [BitSource.bit?, BitSource.bits?, block]

/-- Stored blocks are read as their data, put together. -/
theorem blocks?_storedBlocks {n : Nat} {data : Bytes}
    (full : data.length ≤ n * storedLimit + storedLimit) {bound more : Nat} (room : n < more)
    (out : Array UInt8) :
    blocks? bound more out ⟨0, 0, storedBlocks n data⟩ = some (out ++ data.toArray) := by
  induction n generalizing data more out with
  | zero =>
    obtain ⟨more, rfl⟩ : ∃ k, more = k + 1 := ⟨more - 1, by omega⟩
    have alone := blocks?_storedBlock (by omega : data.length ≤ storedLimit) bound more out true []
    rw [List.append_nil] at alone
    exact alone
  | succ n ih =>
    obtain ⟨more, rfl⟩ : ∃ k, more = k + 1 := ⟨more - 1, by omega⟩
    have front : (data.take storedLimit).length ≤ storedLimit := List.length_take_le _ _
    have back : (data.drop storedLimit).length ≤ n * storedLimit + storedLimit := by
      rw [List.length_drop]
      rw [Nat.succ_mul] at full
      omega
    rw [storedBlocks, blocks?_storedBlock front, if_neg (by decide), ih back (by omega)]
    simp

/-- Stored data is read as it was. -/
theorem inflate?_store (data : Bytes) : inflate? (store data) = some data := by
  have full : data.length ≤ data.length / storedLimit * storedLimit + storedLimit :=
    Nat.le_of_lt (Nat.lt_div_mul_add (by decide))
  have length := length_storedBlocks (data.length / storedLimit) data
  have some : (storedBlocks (data.length / storedLimit) data).isEmpty = false := by
    rw [List.isEmpty_eq_false_iff, ← List.length_pos_iff, length]
    exact Nat.lt_of_lt_of_le (Nat.succ_pos _) (Nat.le_add_left _ _)
  rw [store_eq, inflate?, some]
  simp only [Bool.false_eq_true, if_false]
  rw [blocks?_storedBlocks full (by rw [length]; omega)]
  simp

end Deflate

end WordMerge
