import WordMerge.Archive.Directory
import WordMerge.Archive.Writing
import WordMerge.Proofs.Text.Utf8

namespace WordMerge

namespace CodePage

theorem char_ofNat {n : Nat} (small : n < 128) : char (UInt8.ofNat n) = Char.ofNat n := by
  have value : (UInt8.ofNat n).toNat = n := Utf8.toNat_ofNat_of_lt (by omega)
  have low : UInt8.ofNat n < 0x80 := by
    rw [UInt8.lt_iff_toNat_lt, value]
    exact small
  rw [char, if_pos low, value]

/-- The lower half of the code page is what UTF-8 makes of ASCII. -/
theorem decode_encode {s : Text} (ascii : ∀ c ∈ s, c.toNat ≤ 127) : decode (Utf8.encode s) = s := by
  induction s with
  | nil => rfl
  | cons c s ih =>
    have here : c.toNat ≤ 127 := ascii c List.mem_cons_self
    have rest := ih fun d member => ascii d (List.mem_cons_of_mem c member)
    rw [Utf8.encode_cons (Utf8.utf8EncodeChar_of_ascii here), decode, List.map_cons,
      char_ofNat (by omega), Char.ofNat_toNat]
    exact congrArg (c :: ·) rest

end CodePage

namespace Archive

@[simp] theorem length_littleEndian (width n : Nat) : (littleEndian width n).length = width := by
  induction width generalizing n with
  | zero => rfl
  | succ width ih => rw [littleEndian, List.length_cons, ih]

/-- A number that fits its bytes comes back from them. -/
theorem number_littleEndian {width n : Nat} (small : n < Nat.pow 256 width) :
    number (littleEndian width n) = n := by
  induction width generalizing n with
  | zero =>
    have zero : n = 0 := by simpa using small
    rw [zero]
    rfl
  | succ width ih =>
    have low : (UInt8.ofNat (n % 256)).toNat = n % 256 :=
      Utf8.toNat_ofNat_of_lt (Nat.mod_lt n (by decide))
    have high : n / 256 < Nat.pow 256 width := by
      have whole : Nat.pow 256 (width + 1) = 256 * Nat.pow 256 width := Nat.pow_succ'
      rw [whole] at small
      exact Nat.div_lt_of_lt_mul small
    have rest : number (littleEndian width (n / 256)) = n / 256 := ih high
    rw [littleEndian, number, List.foldr_cons, ← number, rest, low]
    omega

/-- A number comes back from the front of a record. -/
theorem field_littleEndian {width n : Nat} (small : n < Nat.pow 256 width) (rest : Bytes) :
    field (littleEndian width n ++ rest) 0 width = n := by
  rw [field, List.drop_zero, List.take_left' (length_littleEndian width n),
    number_littleEndian small]

theorem field_littleEndian_self {width n : Nat} (small : n < Nat.pow 256 width) :
    field (littleEndian width n) 0 width = n := by
  have alone := field_littleEndian small []
  rwa [List.append_nil] at alone

/-- A field behind some bytes is the field of what follows them. -/
theorem field_append (front rest : Bytes) (offset width : Nat) :
    field (front ++ rest) (offset + front.length) width = field rest offset width := by
  have past : (front ++ rest).drop (offset + front.length) = rest.drop offset := by
    rw [Nat.add_comm, ← List.drop_drop, List.drop_left]
  rw [field, field, past]

theorem field_past_two (n : Nat) (rest : Bytes) (offset width : Nat) :
    field (littleEndian 2 n ++ rest) (offset + 2) width = field rest offset width :=
  field_append (littleEndian 2 n) rest offset width

theorem field_past_four (n : Nat) (rest : Bytes) (offset width : Nat) :
    field (littleEndian 4 n ++ rest) (offset + 4) width = field rest offset width :=
  field_append (littleEndian 4 n) rest offset width

theorem field_past_localMark (rest : Bytes) (offset width : Nat) :
    field (localMark ++ rest) (offset + 4) width = field rest offset width :=
  field_append localMark rest offset width

theorem field_past_centralMark (rest : Bytes) (offset width : Nat) :
    field (centralMark ++ rest) (offset + 4) width = field rest offset width :=
  field_append centralMark rest offset width

/-- A slice between two others is found at its own offset. -/
theorem slice?_append (front found rest : Bytes) :
    slice? (front ++ (found ++ rest)) front.length found.length = some found := by
  rw [slice?, List.drop_left, List.take_left]
  exact if_pos rfl

/-- No slice goes past the end. -/
theorem slice?_eq_none {bytes : Bytes} {offset length : Nat} (some : 0 < length)
    (short : bytes.length < offset + length) : slice? bytes offset length = none := by
  have missing : ((bytes.drop offset).take length).length ≠ length := by
    rw [List.length_take, List.length_drop, Nat.min_def]
    split <;> omega
  exact if_neg missing

/-- A record that begins with its mark is found at its own offset. -/
theorem record?_append {mark record : Bytes} (marked : mark <+: record) (front rest : Bytes) :
    record? mark record.length (front ++ (record ++ rest)) front.length = some record := by
  have begins : mark.isPrefixOf record = true := List.isPrefixOf_iff_prefix.mpr marked
  rw [record?, slice?_append, Option.filter_some, if_pos begins]

theorem record?_eq_none {bytes : Bytes} {offset length : Nat} (some : 0 < length)
    (short : bytes.length < offset + length) (mark : Bytes) :
    record? mark length bytes offset = none := by
  rw [record?, slice?_eq_none some short, Option.filter_none]

/-- The local header without the name. -/
def localHead (packed : Packed) : Bytes :=
  localMark ++ commonFields packed

/-- The directory entry without the name. -/
def centralHead (packed : Packed) (offset : Nat) : Bytes :=
  centralMark ++ littleEndian 2 formatVersion ++ commonFields packed ++ littleEndian 2 0
    ++ littleEndian 2 0 ++ littleEndian 2 0 ++ littleEndian 4 0 ++ littleEndian 4 offset

theorem length_localHead (packed : Packed) : (localHead packed).length = 30 := by
  simp [localHead, commonFields, localMark]

theorem length_centralHead (packed : Packed) (offset : Nat) :
    (centralHead packed offset).length = 46 := by
  simp [centralHead, commonFields, centralMark]

/-- A local record is a head of 30 bytes, the name and the data. -/
theorem localRecord_eq (packed : Packed) :
    localRecord packed = localHead packed ++ (packed.name ++ packed.data) := by
  rw [localRecord, localHead, List.append_assoc _ packed.name]

theorem centralRecord_eq (packed : Packed) (offset : Nat) :
    centralRecord packed offset = centralHead packed offset ++ packed.name :=
  rfl

/-- What the format can say of an entry at an offset: every number has room in its field. -/
structure Packed.Fits (packed : Packed) (offset : Nat) : Prop where
  name : packed.name.length < Nat.pow 256 2
  method : packed.method < Nat.pow 256 2
  checksum : packed.checksum < Nat.pow 256 4
  data : packed.data.length < Nat.pow 256 4
  size : packed.size < Nat.pow 256 4
  offset : offset < Nat.pow 256 4

theorem flags_small (packed : Packed) : (if packed.wide then Nat.pow 2 11 else 0) < Nat.pow 256 2 := by
  split <;> decide

/-- A local head tells how long the name is and that there are no extra fields. -/
theorem localHead_lengths {packed : Packed} (fits : packed.name.length < Nat.pow 256 2) :
    field (localHead packed) 26 2 = packed.name.length ∧ field (localHead packed) 28 2 = 0 := by
  simp only [localHead, commonFields, List.append_assoc, field_past_two, field_past_four,
    field_past_localMark]
  exact ⟨field_littleEndian fits _, field_littleEndian_self (by decide)⟩

/-- A directory head tells what was written in it, field by field. -/
theorem centralHead_fields {packed : Packed} {offset : Nat} (fits : packed.Fits offset) :
    field (centralHead packed offset) 8 2 = (if packed.wide then Nat.pow 2 11 else 0) ∧
      field (centralHead packed offset) 10 2 = packed.method ∧
      field (centralHead packed offset) 16 4 = packed.checksum ∧
      field (centralHead packed offset) 20 4 = packed.data.length ∧
      field (centralHead packed offset) 24 4 = packed.size ∧
      field (centralHead packed offset) 28 2 = packed.name.length ∧
      field (centralHead packed offset) 30 2 = 0 ∧
      field (centralHead packed offset) 32 2 = 0 ∧
      field (centralHead packed offset) 42 4 = offset := by
  have zero : (0 : Nat) < Nat.pow 256 2 := by decide
  simp only [centralHead, commonFields, List.append_assoc, field_past_two, field_past_four,
    field_past_centralMark]
  exact ⟨field_littleEndian (flags_small packed) _, field_littleEndian fits.method _,
    field_littleEndian fits.checksum _, field_littleEndian fits.data _,
    field_littleEndian fits.size _, field_littleEndian fits.name _, field_littleEndian zero _,
    field_littleEndian zero _, field_littleEndian_self fits.offset⟩

/-- The header that the directory of an archive has for an entry at an offset. -/
def headerOf (entry : Entry) (offset : Nat) : Header :=
  { name := entry.name
    rawName := (pack entry).name
    comment := []
    encrypted := false
    strong := false
    method := (pack entry).method
    checksum := (pack entry).checksum
    packedSize := (pack entry).data.length
    size := (pack entry).size
    offset }

/-- The flag of an entry tells how its name is read back. -/
theorem name_pack (entry : Entry) :
    (if (if (pack entry).wide then Nat.pow 2 11 else 0).testBit 11 then
      Utf8.decodeLossy (pack entry).name else CodePage.decode (pack entry).name) = entry.name := by
  by_cases wide : (pack entry).wide
  · have marked : (Nat.pow 2 11).testBit 11 = true := by decide
    rw [if_pos wide, if_pos marked]
    exact Utf8.decodeLossy_encode entry.name
  · have unmarked : (0 : Nat).testBit 11 = false := by decide
    have ascii : ∀ c ∈ entry.name, c.toNat ≤ 127 := by
      intro c member
      refine Nat.not_lt.mp fun large => wide ?_
      exact List.any_eq_true.mpr ⟨c, member, decide_eq_true large⟩
    rw [if_neg wide, unmarked]
    exact CodePage.decode_encode ascii

/-- The directory record of an entry is read as the header that describes it. -/
theorem header?_centralRecord {entry : Entry} {offset : Nat} (fits : (pack entry).Fits offset)
    (rest : Bytes) :
    header? 0 (centralRecord (pack entry) offset ++ rest) = some (headerOf entry offset, rest) := by
  obtain ⟨flags, method, checksum, packedSize, size, name, extra, comment, start⟩ :=
    centralHead_fields fits
  have length := length_centralHead (pack entry) offset
  have marked : centralMark <+: centralHead (pack entry) offset := by
    simp only [centralHead, List.append_assoc]
    exact List.prefix_append _ _
  have record := record?_append marked [] ((pack entry).name ++ rest)
  have called := slice?_append (centralHead (pack entry) offset) (pack entry).name rest
  have none := slice?_append (centralHead (pack entry) offset ++ (pack entry).name) [] rest
  have past : (centralHead (pack entry) offset ++ ((pack entry).name ++ rest)).drop
      (46 + (pack entry).name.length) = rest := by
    rw [← List.append_assoc]
    exact List.drop_left' (by rw [List.length_append, length])
  have plain (header : Header) : Extra.read? header [] = some header := rfl
  have ordinary : guard (f := Option) ((pack entry).method ≠ strongMethod ∨ false = true)
      = some () := by
    have known : (pack entry).method ≠ strongMethod := by
      cases packing : entry.packing <;> simp [pack, packing, strongMethod]
    exact if_pos (Or.inl known)
  have clear : (if (pack entry).wide then Nat.pow 2 11 else 0).testBit 0 = false := by
    split <;> decide
  have silent (wide : Bool) :
      (if wide = true then Utf8.decodeLossy [] else CodePage.decode []) = [] := by
    cases wide
    · rfl
    · exact Utf8.decodeLossy_encode []
  -- From here on the reader is followed field by field.
  rw [length] at record called
  rw [List.length_append, length, List.append_assoc] at none
  simp only [List.nil_append, List.length_nil] at record none
  rw [centralRecord_eq, List.append_assoc, header?, record]
  dsimp only [Option.bind_eq_bind, Option.bind_some]
  rw [name, extra, comment, flags, method, checksum, packedSize, size, start, called]
  dsimp only [Option.bind_some, Nat.add_zero]
  rw [none]
  dsimp only [Option.bind_some]
  rw [plain, name_pack, clear, silent, past]
  dsimp only [Option.bind_some]
  rw [ordinary]
  rfl

end Archive

end WordMerge
