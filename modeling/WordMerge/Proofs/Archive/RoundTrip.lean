import WordMerge.Archive.Reading
import WordMerge.Proofs.Archive.Records
import WordMerge.Proofs.Archive.StoredBlocks

namespace WordMerge

namespace Archive

section Offsets

variable {mark : Bytes} {high : Nat}

theorem offsets_go_eq (offset : Nat) (found bytes : List _) :
    offsets.go mark high offset found bytes
      = found.reverse ++ offsets.go mark high offset [] bytes := by
  induction bytes generalizing offset found with
  | nil => simp [offsets.go]
  | cons b rest ih =>
    simp only [offsets.go]
    by_cases far : high < offset + mark.length
    · simp [far]
    · by_cases here : mark.isPrefixOf (b :: rest)
      · simp only [if_neg far, if_pos here]
        rw [ih _ (offset :: found), ih _ [offset]]
        simp
      · simp only [if_neg far, if_neg here]
        exact ih _ found

theorem le_of_mem_offsets_go {offset o : Nat} {bytes : Bytes}
    (member : o ∈ offsets.go mark high offset [] bytes) : offset ≤ o := by
  induction bytes generalizing offset with
  | nil => simp [offsets.go] at member
  | cons b rest ih =>
    rw [offsets.go] at member
    by_cases far : high < offset + mark.length
    · simp [far] at member
    · rw [if_neg far, offsets_go_eq] at member
      rcases List.mem_append.mp member with here | later
      · by_cases marked : mark.isPrefixOf (b :: rest)
        · simp [marked] at here
          exact Nat.le_of_eq here.symm
        · simp [marked] at here
      · exact Nat.le_of_succ_le (ih later)

/-- A mark is found; what is found besides lies in front of it or behind it. -/
theorem offsets_go_append (some : mark ≠ []) (front rest : Bytes) {offset : Nat}
    (inside : offset + front.length + mark.length ≤ high) :
    ∃ before after, offsets.go mark high offset [] (front ++ (mark ++ rest))
        = before ++ (offset + front.length) :: after ∧
      (∀ o ∈ before, offset ≤ o ∧ o < offset + front.length) ∧
      ∀ o ∈ after, offset + front.length < o := by
  induction front generalizing offset with
  | nil =>
    obtain ⟨m, ms, rfl⟩ := List.exists_cons_of_ne_nil some
    have near : ¬high < offset + (m :: ms).length := by simpa using inside
    have marked : (m :: ms).isPrefixOf (m :: (ms ++ rest)) = true :=
      List.isPrefixOf_iff_prefix.mpr (List.prefix_append (m :: ms) rest)
    refine ⟨[], offsets.go (m :: ms) high (offset + 1) [] (ms ++ rest), ?_, by simp, ?_⟩
    · rw [List.nil_append, List.cons_append, offsets.go, if_neg near, if_pos marked, offsets_go_eq]
      rfl
    · intro o member
      exact le_of_mem_offsets_go member
  | cons b front ih =>
    rw [List.length_cons] at inside
    have near : ¬high < offset + mark.length := by omega
    obtain ⟨before, after, found, low, above⟩ := @ih (offset + 1) (by omega)
    have place : offset + (b :: front).length = offset + 1 + front.length := by
      rw [List.length_cons]
      omega
    rw [place, List.cons_append, offsets.go, if_neg near, offsets_go_eq, found]
    refine ⟨(if mark.isPrefixOf (b :: (front ++ (mark ++ rest))) then [offset] else []).reverse
      ++ before, after, by simp, ?_, above⟩
    intro o member
    rcases List.mem_append.mp member with here | later
    · have same : o = offset := by
        by_cases marked : mark.isPrefixOf (b :: (front ++ (mark ++ rest)))
        · simpa [marked] using here
        · simp [marked] at here
      omega
    · have bounds := low o later
      omega

/-- A mark is found where it stands, whatever looks like it in front of it and behind it. -/
theorem offsets_append (some : mark ≠ []) (front middle rest : Bytes)
    (inside : front.length + middle.length + mark.length ≤ high) :
    ∃ before after, offsets mark (front ++ (middle ++ (mark ++ rest))) front.length high
        = before ++ (front.length + middle.length) :: after ∧
      (∀ o ∈ before, front.length ≤ o ∧ o < front.length + middle.length) ∧
      ∀ o ∈ after, front.length + middle.length < o := by
  rw [offsets, List.drop_left]
  exact offsets_go_append some middle rest inside

end Offsets

theorem fits_pack {entry : Entry} {offset : Nat} (name : (pack entry).name.length < Nat.pow 256 2)
    (data : (pack entry).data.length < Nat.pow 256 4) (start : offset < Nat.pow 256 4) :
    (pack entry).Fits offset where
  name := name
  method := by cases packing : entry.packing <;> simp [pack, packing]
  checksum := UInt32.toNat_lt _
  data := data
  size := by
    refine Nat.lt_of_le_of_lt ?_ data
    cases packing : entry.packing
    · simp [pack, packing]
    · simpa [pack, packing] using Deflate.length_le_store entry.data
  offset := start

section Entry

variable {entry : Entry} {header : Header} {front rest bytes : Bytes}

/-- The data of an entry starts behind its local head and its name. -/
theorem dataStart?_localRecord {packed : Packed} (small : packed.name.length < Nat.pow 256 2)
    (whole : bytes = front ++ (localRecord packed ++ rest)) (here : header.offset = front.length) :
    dataStart? bytes header = some (front.length + 30 + packed.name.length) := by
  obtain ⟨name, extra⟩ := localHead_lengths small
  have marked : localMark <+: localHead packed := List.prefix_append _ _
  have record := record?_append marked front (packed.name ++ packed.data ++ rest)
  rw [length_localHead] at record
  rw [dataStart?, whole, localRecord_eq, List.append_assoc (localHead packed), here, record,
    Option.map_some, name, extra, Nat.add_zero]

theorem packed?_localRecord {packed : Packed} (small : packed.name.length < Nat.pow 256 2)
    (whole : bytes = front ++ (localRecord packed ++ rest)) (here : header.offset = front.length)
    (size : header.packedSize = packed.data.length) : packed? bytes header = some packed.data := by
  have length : (front ++ localHead packed ++ packed.name).length
      = front.length + 30 + packed.name.length := by
    rw [List.length_append, List.length_append, length_localHead]
  have cut : bytes = (front ++ localHead packed ++ packed.name) ++ (packed.data ++ rest) := by
    rw [whole, localRecord_eq]
    simp
  rw [packed?, dataStart?_localRecord small whole here, Option.map_some, size, cut, ← length,
    List.drop_left, List.take_left]

/-- What is packed is unpacked again. -/
theorem unpack?_pack (entry : Entry) :
    packingOf? (pack entry).method = some entry.packing ∧
      unpack? entry.packing (pack entry).data = some entry.data := by
  cases packing : entry.packing
  · simp [pack, packing, packingOf?, unpack?]
  · simp [pack, packing, packingOf?, unpack?, Deflate.inflate?_store]

/-- An entry is read back from its local record. -/
theorem readEntry_localRecord (small : (pack entry).name.length < Nat.pow 256 2)
    (whole : bytes = front ++ (localRecord (pack entry) ++ rest)) :
    readEntry bytes (headerOf entry front.length) = .ok entry := by
  obtain ⟨method, data⟩ := unpack?_pack entry
  have taken : packed? bytes (headerOf entry front.length) = some (pack entry).data :=
    packed?_localRecord small whole rfl rfl
  have known : packingOf? (headerOf entry front.length).method = some entry.packing := method
  have open_ : ((headerOf entry front.length).encrypted || (headerOf entry front.length).strong)
      = false := rfl
  have checksum : (Checksum.ofBytes entry.data).toNat = (headerOf entry front.length).checksum := rfl
  rw [readEntry, open_, taken, known]
  simp only [Bool.false_eq_true, if_false, data]
  rw [if_pos checksum]
  rfl

end Entry

/-- The headers of entries that are written one behind the other from an offset on. -/
def headersFrom : Nat → List Entry → List Header
  | _, [] => []
  | offset, entry :: rest =>
    headerOf entry offset :: headersFrom (offset + (localRecord (pack entry)).length) rest

/-- The directory of these entries. -/
def directoryFrom : Nat → List Entry → Bytes
  | _, [] => []
  | offset, entry :: rest =>
    centralRecord (pack entry) offset
      ++ directoryFrom (offset + (localRecord (pack entry)).length) rest

/-- The entries with their local headers. -/
def bodyOf (entries : List Entry) : Bytes :=
  entries.flatMap fun entry => localRecord (pack entry)

@[simp] theorem bodyOf_cons (entry : Entry) (entries : List Entry) :
    bodyOf (entry :: entries) = localRecord (pack entry) ++ bodyOf entries :=
  List.flatMap_cons

theorem map_name_headersFrom (entries : List Entry) (offset : Nat) :
    (headersFrom offset entries).map Header.name = entries.map Entry.name := by
  induction entries generalizing offset with
  | nil => rfl
  | cons entry entries ih => rw [headersFrom, List.map_cons, List.map_cons, ih]; rfl

theorem zip_startOffsets_go (entries : List Entry) (offset : Nat) :
    ((entries.map pack).zip (startOffsets.go offset
        (((entries.map pack).map localRecord).map List.length))).flatMap
      (fun placed => centralRecord placed.1 placed.2) = directoryFrom offset entries := by
  induction entries generalizing offset with
  | nil => rfl
  | cons entry entries ih =>
    simp only [List.map_cons, startOffsets.go, List.zip_cons_cons, List.flatMap_cons, ih,
      directoryFrom]

/-- An archive is the local records, the directory and the end record. -/
theorem assemble_eq (entries : List Entry) :
    assemble (entries.map pack) = bodyOf entries ++ (directoryFrom 0 entries
      ++ endRecord entries.length (directoryFrom 0 entries).length (bodyOf entries).length) := by
  have body : ((entries.map pack).map localRecord).flatten = bodyOf entries := by
    rw [List.map_map, bodyOf, List.flatMap_def]
    rfl
  rw [assemble]
  simp only [startOffsets, zip_startOffsets_go, body, List.length_map, List.append_assoc]

/-- What the limits of the format leave of the entries: short names, and less than four gibibytes
up to the end of the archive. -/
structure InLimits (entries : List Entry) (bytes : Bytes) : Prop where
  names : ∀ entry ∈ entries, (pack entry).name.length < Nat.pow 256 2
  length : bytes.length < Nat.pow 256 4

section Entries

variable {bytes front rest : Bytes}

/-- The entries are read back one after the other, each from its own place. -/
theorem mapM_readEntry {entries : List Entry} (limits : InLimits entries bytes)
    (whole : bytes = front ++ (bodyOf entries ++ rest)) :
    (headersFrom front.length entries).mapM (readEntry bytes) = .ok entries := by
  induction entries generalizing front with
  | nil => rfl
  | cons entry entries ih =>
    have small := limits.names entry List.mem_cons_self
    have others : InLimits entries bytes :=
      ⟨fun e member => limits.names e (List.mem_cons_of_mem entry member), limits.length⟩
    rw [bodyOf_cons, List.append_assoc] at whole
    have here : readEntry bytes (headerOf entry front.length) = .ok entry :=
      readEntry_localRecord small whole
    have next := @ih (front ++ localRecord (pack entry)) others
      (by rw [whole, List.append_assoc])
    rw [List.length_append] at next
    rw [headersFrom, List.mapM_cons, here, next]
    rfl

/-- The directory is read as the headers of the entries, in order. -/
theorem headers?_go_directoryFrom {entries : List Entry} {start count : Nat}
    (limits : InLimits entries bytes) (whole : bytes = front ++ (bodyOf entries ++ rest))
    (last : start = front.length + (bodyOf entries).length) (done : List Header)
    (behind : Bytes) :
    headers?.go bytes ⟨0, start, count⟩ done entries.length
        (directoryFrom front.length entries ++ behind)
      = some (done.reverse ++ headersFrom front.length entries) := by
  induction entries generalizing front done with
  | nil => simp [headers?.go, headersFrom]
  | cons entry entries ih =>
    have small := limits.names entry List.mem_cons_self
    have others : InLimits entries bytes :=
      ⟨fun e member => limits.names e (List.mem_cons_of_mem entry member), limits.length⟩
    rw [bodyOf_cons, List.append_assoc] at whole
    have length := congrArg List.length whole
    have recordLength := congrArg List.length (localRecord_eq (pack entry))
    rw [bodyOf_cons] at last
    simp only [List.length_append, length_localHead] at length recordLength last
    have bound := limits.length
    have fits : (pack entry).Fits front.length :=
      fits_pack small (Nat.lt_of_le_of_lt (by omega) bound)
        (Nat.lt_of_le_of_lt (by omega) bound)
    have data : dataStart? bytes (headerOf entry front.length)
        = some (front.length + 30 + (pack entry).name.length) :=
      dataStart?_localRecord small whole rfl
    have before : isBefore bytes start (headerOf entry front.length) = true := by
      rw [isBefore, data]
      simp only [Option.any_some, Bool.and_eq_true, decide_eq_true_eq]
      exact ⟨by show front.length < start; omega, by omega⟩
    have next := @ih (front ++ localRecord (pack entry)) others
      (by rw [whole, List.append_assoc]) (by rw [List.length_append]; omega)
      (headerOf entry front.length :: done)
    rw [List.length_append] at next
    rw [List.length_cons, headers?.go, directoryFrom, List.append_assoc,
      header?_centralRecord fits, Option.filter_some, if_pos before]
    simp only [next, headersFrom, List.reverse_cons, List.append_assoc, List.singleton_append]

end Entries

theorem length_endRecord (count size offset : Nat) : (endRecord count size offset).length = 22 := by
  simp [endRecord, endMark]

theorem field_past_endMark (rest : Bytes) (offset width : Nat) :
    field (endMark ++ rest) (offset + 4) width = field rest offset width :=
  field_append endMark rest offset width

theorem endRecord_fields {count offset : Nat} (few : count < Nat.pow 256 2) (small : offset < Nat.pow 256 4)
    (size : Nat) :
    field (endRecord count size offset) 4 2 = 0 ∧ field (endRecord count size offset) 6 2 = 0 ∧
      field (endRecord count size offset) 8 2 = count ∧
      field (endRecord count size offset) 10 2 = count ∧
      field (endRecord count size offset) 16 4 = offset ∧
      field (endRecord count size offset) 20 2 = 0 := by
  have zero : (0 : Nat) < Nat.pow 256 2 := by decide
  simp only [endRecord, List.append_assoc, field_past_two, field_past_four, field_past_endMark]
  exact ⟨field_littleEndian zero _, field_littleEndian zero _, field_littleEndian few _,
    field_littleEndian few _, field_littleEndian small _, field_littleEndian_self zero⟩

theorem centralMark_prefix_directoryFrom {entries : List Entry} (some : entries.length ≠ 0)
    (offset : Nat) : centralMark <+: directoryFrom offset entries := by
  obtain ⟨entry, entries, rfl⟩ := List.exists_cons_of_length_pos (Nat.pos_of_ne_zero some)
  simp only [directoryFrom, centralRecord_eq, centralHead, List.append_assoc]
  exact List.prefix_append _ _

section Place

variable {body directory : Bytes} {count : Nat}

/-- The end record leads to the directory in front of it. -/
theorem narrowPlace?_endRecord (few : count < Nat.pow 256 2) (small : body.length < Nat.pow 256 4)
    (empty : count = 0 → directory = []) (marked : count ≠ 0 → centralMark <+: directory) :
    narrowPlace? (body ++ (directory ++ endRecord count directory.length body.length))
        (body.length + directory.length) (endRecord count directory.length body.length)
      = some ⟨0, body.length, count⟩ := by
  obtain ⟨-, -, here, recorded, start, -⟩ := endRecord_fields few small directory.length
  rw [narrowPlace?, here, recorded, start]
  by_cases none : count = 0
  · rw [if_pos none, empty none, List.length_nil, Nat.add_zero, Nat.sub_self, Nat.add_zero]
  · obtain ⟨rest, whole⟩ := marked none
    have length := congrArg List.length whole
    rw [List.length_append] at length
    have mark : centralMark.length = 4 := rfl
    have inside : ¬body.length + directory.length ≤ body.length := by omega
    obtain ⟨before, after, found, low, -⟩ := @offsets_append centralMark
      (body.length + directory.length) (by decide) body []
      (rest ++ endRecord count directory.length body.length) (by rw [List.length_nil]; omega)
    have first : before = [] := by
      refine List.eq_nil_iff_forall_not_mem.mpr fun o member => ?_
      have bounds := low o member
      rw [List.length_nil] at bounds
      omega
    rw [List.nil_append, ← List.append_assoc centralMark, whole] at found
    rw [if_neg none, if_neg inside, found, first]
    simp

theorem place?_endRecord (few : count < fullShort) (small : body.length < fullLong)
    (empty : count = 0 → directory = []) (marked : count ≠ 0 → centralMark <+: directory) :
    place? (body ++ (directory ++ endRecord count directory.length body.length))
        (body.length + directory.length)
      = some ⟨0, body.length, count⟩ := by
  have countFits : count < Nat.pow 256 2 := Nat.lt_trans few (by decide)
  have startFits : body.length < Nat.pow 256 4 := Nat.lt_trans small (by decide)
  obtain ⟨disk, directoryDisk, -, recorded, offset, comment⟩ :=
    endRecord_fields countFits startFits directory.length
  have length := length_endRecord count directory.length body.length
  have begins : endMark <+: endRecord count directory.length body.length := by
    simp only [endRecord, List.append_assoc]
    exact List.prefix_append _ _
  have record := record?_append begins (body ++ directory) []
  have silent := slice?_append
    (body ++ (directory ++ endRecord count directory.length body.length)) [] []
  have narrow : ¬((count = fullShort ∨ body.length = fullLong) ∧ 20 ≤ body.length + directory.length)
      := by omega
  rw [List.append_nil, List.append_assoc, List.length_append, length] at record
  rw [List.append_nil, List.append_nil, List.length_append, List.length_append, length,
    List.length_nil, ← Nat.add_assoc] at silent
  rw [place?, record]
  dsimp only [Option.bind_eq_bind, Option.bind_some]
  rw [comment, silent]
  dsimp only [Option.bind_some]
  rw [recorded, offset, if_neg narrow]
  dsimp only
  rw [disk, directoryDisk, narrowPlace?_endRecord countFits startFits empty marked]
  rfl

end Place

/-- Of several records that look like the end, the last one that leads to a directory counts. -/
theorem findSome?_offsets_endMark {α : Type} {front rest : Bytes} {found : Nat → Option α} {a : α}
    (here : found front.length = some a) (later : ∀ o, front.length < o → found o = none) :
    (offsets endMark (front ++ (endMark ++ rest)) 0
      (front ++ (endMark ++ rest)).length).reverse.findSome? found = some a := by
  obtain ⟨before, after, split, -, above⟩ := @offsets_append endMark
    (front ++ (endMark ++ rest)).length (by decide) [] front rest (by simp)
  rw [List.nil_append, List.length_nil, Nat.zero_add] at split
  have none : after.reverse.findSome? found = none := by
    refine List.findSome?_eq_none_iff.mpr fun o member => later o ?_
    have behind := above o (List.mem_reverse.mp member)
    rwa [List.length_nil, Nat.zero_add] at behind
  rw [split, List.reverse_append, List.reverse_cons, List.findSome?_append, List.findSome?_append,
    none]
  simp [here]

theorem place?_eq_none {bytes : Bytes} {endOffset : Nat} (short : bytes.length < endOffset + 22) :
    place? bytes endOffset = none := by
  rw [place?, record?_eq_none (by decide) short]
  rfl

/-- Headers with different names are all kept, in their order. -/
theorem foldl_insertHeader {headers done : List Header}
    (distinct : ((done ++ headers).map Header.name).Nodup) :
    headers.foldl insertHeader done = done ++ headers := by
  induction headers generalizing done with
  | nil => simp
  | cons header headers ih =>
    have fresh : done.any (·.name == header.name) = false := by
      refine List.any_eq_false.mpr fun h member same => ?_
      rw [List.map_append, List.nodup_append] at distinct
      exact distinct.2.2 h.name (List.mem_map_of_mem member) header.name
        (List.mem_map_of_mem List.mem_cons_self) (eq_of_beq same)
    have behind : insertHeader done header = done ++ [header] := by
      rw [insertHeader, fresh]
      rfl
    rw [List.foldl_cons, behind, ih]
    · simp
    · simpa using distinct

/-- The directory of an archive that was written is the one that was written in it. -/
theorem directory?_assemble {entries : List Entry} (few : entries.length < fullShort)
    (limits : InLimits entries (assemble (entries.map pack)))
    (small : (assemble (entries.map pack)).length < fullLong)
    (distinct : (entries.map Entry.name).Nodup) :
    directory? (assemble (entries.map pack)) = some (headersFrom 0 entries) := by
  have whole := assemble_eq entries
  have length := congrArg List.length whole
  rw [List.length_append, List.length_append, length_endRecord] at length
  have empty : entries.length = 0 → directoryFrom 0 entries = [] := by
    intro none
    rw [List.length_eq_zero_iff.mp none]
    rfl
  have place := place?_endRecord few (by omega : (bodyOf entries).length < fullLong) empty
    fun some => centralMark_prefix_directoryFrom some 0
  obtain ⟨tail, marked⟩ : ∃ tail, endRecord entries.length (directoryFrom 0 entries).length
      (bodyOf entries).length = endMark ++ tail := by
    simp only [endRecord, List.append_assoc]
    exact ⟨_, rfl⟩
  have headers : headers? (assemble (entries.map pack))
      ⟨0, (bodyOf entries).length, entries.length⟩ = some (headersFrom 0 entries) := by
    have read := @headers?_go_directoryFrom _ [] _ entries (bodyOf entries).length entries.length
      limits whole (by simp) [] (endRecord entries.length (directoryFrom 0 entries).length
        (bodyOf entries).length)
    have past : (assemble (entries.map pack)).drop (bodyOf entries).length
        = directoryFrom 0 entries ++ endRecord entries.length (directoryFrom 0 entries).length
          (bodyOf entries).length := by
      rw [whole, List.drop_left]
    rw [headers?, past]
    exact read
  -- An end mark further behind is tried first, but too few bytes follow it for a record.
  have found := @findSome?_offsets_endMark _ (bodyOf entries ++ directoryFrom 0 entries) tail
    (fun endOffset => (place? (assemble (entries.map pack)) endOffset).bind
      (headers? (assemble (entries.map pack)))) (headersFrom 0 entries)
    (by rw [List.length_append, whole, place, Option.bind_some, ← whole, headers])
    (by
      intro o behind
      rw [List.length_append] at behind
      rw [place?_eq_none (by omega), Option.bind_none])
  rw [List.append_assoc, ← marked, ← whole] at found
  have kept : (headersFrom 0 entries).foldl insertHeader [] = headersFrom 0 entries :=
    foldl_insertHeader (by rwa [List.nil_append, map_name_headersFrom])
  rw [directory?, found, Option.bind_eq_bind, Option.bind_some, kept]
  rfl

theorem nodup_of_duplicate?_eq_none {names : List Text} (none : duplicate? names = none) :
    names.Nodup := by
  induction names with
  | nil => exact List.nodup_nil
  | cons name names ih =>
    rw [duplicate?] at none
    split at none
    · exact absurd none (by nofun)
    · next fresh => exact List.nodup_cons.mpr ⟨fresh, ih none⟩

theorem duplicate?_eq_none_of_nodup {names : List Text} (distinct : names.Nodup) :
    duplicate? names = none := by
  induction names with
  | nil => rfl
  | cons name names ih =>
    obtain ⟨fresh, others⟩ := List.nodup_cons.mp distinct
    rw [duplicate?, if_neg fresh, ih others]

/-- The format has room for some entries. -/
def Fitting (entries : List Entry) : Prop :=
  (∀ entry ∈ entries, (Utf8.encode entry.name).length < Nat.pow 2 16) ∧
    entries.length < Nat.pow 2 16 - 1 ∧
    (assemble (entries.map pack)).length < Nat.pow 2 32 - 1

/-- Entries are written exactly if no name stands twice and the format has room for them. -/
theorem write_eq_ok_iff {entries : List Entry} {bytes : Bytes} :
    write entries = .ok bytes ↔ (entries.map Entry.name).Nodup ∧ Fitting entries ∧
      bytes = assemble (entries.map pack) := by
  have names : (entries.map pack).all (fun p => p.name.length < Nat.pow 2 16) = true ↔
      ∀ entry ∈ entries, (Utf8.encode entry.name).length < Nat.pow 2 16 := by
    rw [List.all_eq_true]
    constructor
    · intro all entry member
      exact of_decide_eq_true (all (pack entry) (List.mem_map_of_mem member))
    · intro all packed member
      obtain ⟨entry, inside, rfl⟩ := List.mem_map.mp member
      exact decide_eq_true (all entry inside)
  constructor
  · intro written
    rw [write] at written
    split at written
    · exact absurd written (by nofun)
    · next none =>
      dsimp only at written
      split at written
      · next fits =>
        rw [names] at fits
        exact ⟨nodup_of_duplicate?_eq_none none, fits, (Except.ok.inj written).symm⟩
      · exact absurd written (by nofun)
  · rintro ⟨distinct, fits, rfl⟩
    rw [write, duplicate?_eq_none_of_nodup distinct]
    dsimp only
    rw [if_pos]
    rw [names]
    exact fits

/-- What is written is read as it was. -/
theorem read_of_write {entries : List Entry} {bytes : Bytes} (written : write entries = .ok bytes) :
    read bytes = .ok entries := by
  obtain ⟨distinct, ⟨names, few, small⟩, rfl⟩ := write_eq_ok_iff.mp written
  have limits : InLimits entries (assemble (entries.map pack)) :=
    ⟨names, Nat.lt_trans small (by decide)⟩
  have directory := directory?_assemble few limits small distinct
  have entriesRead := @mapM_readEntry _ [] _ entries limits (assemble_eq entries)
  rw [read, directory]
  exact entriesRead

end Archive

end WordMerge
