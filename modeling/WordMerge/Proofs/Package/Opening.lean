import WordMerge.Package.Render
import WordMerge.Proofs.Archive.RoundTrip

namespace WordMerge

namespace Archive

theorem map_name_insertHeader_of_mem {headers : List Header} {header : Header}
    (there : headers.any (·.name == header.name) = true) :
    (insertHeader headers header).map Header.name = headers.map Header.name := by
  rw [insertHeader, if_pos there, List.map_map]
  refine List.map_congr_left fun h _ => ?_
  rw [Function.comp_apply]
  split
  · next same => exact same.symm
  · rfl

theorem nodup_insertHeader {headers : List Header} (distinct : (headers.map Header.name).Nodup)
    (header : Header) : ((insertHeader headers header).map Header.name).Nodup := by
  by_cases there : headers.any (·.name == header.name) = true
  · rwa [map_name_insertHeader_of_mem there]
  · rw [insertHeader, if_neg there, List.map_append, List.nodup_append]
    refine ⟨distinct, List.pairwise_singleton _ _, ?_⟩
    rintro name member other single rfl
    obtain ⟨h, inside, rfl⟩ := List.mem_map.mp member
    rw [List.map_singleton, List.mem_singleton] at single
    exact there (List.any_eq_true.mpr ⟨h, inside, beq_iff_eq.mpr single⟩)

theorem nodup_foldl_insertHeader (headers : List Header) {done : List Header}
    (distinct : (done.map Header.name).Nodup) :
    ((headers.foldl insertHeader done).map Header.name).Nodup := by
  induction headers generalizing done with
  | nil => exact distinct
  | cons header headers ih => exact ih (nodup_insertHeader distinct header)

theorem name_of_readEntry {bytes : Bytes} {header : Header} {entry : Entry}
    (ok : readEntry bytes header = .ok entry) : entry.name = header.name := by
  unfold readEntry at ok
  split at ok
  · exact absurd ok (by nofun)
  · split at ok
    · split at ok
      · exact absurd ok (by nofun)
      · split at ok
        · rw [← Except.ok.inj ok]
        · exact absurd ok (by nofun)
    · exact absurd ok (by nofun)

theorem map_name_of_mapM {bytes : Bytes} {headers : List Header} {entries : List Entry}
    (ok : headers.mapM (readEntry bytes) = .ok entries) :
    entries.map Entry.name = headers.map Header.name := by
  induction headers generalizing entries with
  | nil =>
    have empty : entries = [] := (Except.ok.inj ok).symm
    rw [empty]
    rfl
  | cons header headers ih =>
    rw [List.mapM_cons] at ok
    cases first : readEntry bytes header with
    | error fault => rw [first] at ok; exact absurd ok (by nofun)
    | ok entry =>
      cases others : headers.mapM (readEntry bytes) with
      | error fault => rw [first, others] at ok; exact absurd ok (by nofun)
      | ok rest =>
        rw [first, others] at ok
        have whole : entries = entry :: rest := (Except.ok.inj ok).symm
        rw [whole, List.map_cons, List.map_cons, name_of_readEntry first, ih others]

/-- No name stands twice in what is read. -/
theorem nodup_of_read {bytes : Bytes} {entries : List Entry} (ok : read bytes = .ok entries) :
    (entries.map Entry.name).Nodup := by
  unfold read at ok
  split at ok
  · exact absurd ok (by nofun)
  · next headers found =>
    rw [map_name_of_mapM ok]
    rw [directory?] at found
    obtain ⟨all, -, made⟩ := Option.bind_eq_some_iff.mp found
    have same : headers = all.foldl insertHeader [] := (Option.some.inj made).symm
    rw [same]
    exact nodup_foldl_insertHeader all List.nodup_nil

end Archive

/-- Whether a format of archives keeps what is written in it: no name is read twice, and entries for
which there is room are read as they were written, if no name stands twice. -/
structure ArchiveFormat.Lawful (format : ArchiveFormat) (room : List Archive.Entry → Prop) : Prop where
  distinct : ∀ bytes entries, format.read bytes = .ok entries →
    (entries.map Archive.Entry.name).Nodup
  returns : ∀ entries, (entries.map Archive.Entry.name).Nodup → room entries →
    ∃ bytes, format.write entries = .ok bytes ∧ format.read bytes = .ok entries

theorem ArchiveFormat.lawful_zip : ArchiveFormat.zip.Lawful Archive.Fitting where
  distinct _ _ ok := Archive.nodup_of_read ok
  returns _ distinct fits := by
    have written := Archive.write_eq_ok_iff.mpr ⟨distinct, fits, rfl⟩
    exact ⟨_, written, Archive.read_of_write written⟩

/-- The name of an entry of a package. -/
def PackageEntry.name : PackageEntry → Text
  | .directory name => name
  | .part p => p.name

namespace Package

/-- A package as it is opened: no name stands twice, and an entry is a directory exactly if it is
called like one. -/
structure Proper (package : Package) : Prop where
  distinct : (package.entries.map PackageEntry.name).Nodup
  kinds : ∀ entry ∈ package.entries, entryOf (archived entry) = entry

theorem name_archived (entry : PackageEntry) : (archived entry).name = entry.name := by
  cases entry <;> rfl

theorem map_name_archived (package : Package) :
    (package.entries.map archived).map Archive.Entry.name
      = package.entries.map PackageEntry.name := by
  rw [List.map_map]
  exact List.map_congr_left fun entry _ => name_archived entry

theorem name_entryOf (entry : Archive.Entry) : (entryOf entry).name = entry.name := by
  rw [entryOf]
  split <;> rfl

theorem entryOf_archived_entryOf (entry : Archive.Entry) :
    entryOf (archived (entryOf entry)) = entryOf entry := by
  by_cases directory : entry.isDirectory
  · have here : entryOf entry = .directory entry.name := if_pos directory
    rw [here]
    exact if_pos directory
  · have here : entryOf entry = .part ⟨entry.name, entry.data, entry.packing⟩ := if_neg directory
    rw [here]
    exact if_neg directory

section Format

variable {format : ArchiveFormat} {room : List Archive.Entry → Prop} (lawful : format.Lawful room)
include lawful

theorem proper_of_openIn {bytes : Bytes} {package : Package}
    (opens : openIn format bytes = .ok package) :
    package.Proper ∧ package.contains mainPart = true := by
  unfold openIn at opens
  split at opens
  · exact absurd opens (by nofun)
  · exact absurd opens (by nofun)
  · next entries ok =>
    dsimp only at opens
    split at opens
    · next main =>
      have same := Except.ok.inj opens
      refine ⟨⟨?_, ?_⟩, by rw [← same]; exact main⟩
      · have names : (entries.map entryOf).map PackageEntry.name = entries.map Archive.Entry.name := by
          rw [List.map_map]
          exact List.map_congr_left fun entry _ => name_entryOf entry
        rw [← same, names]
        exact lawful.distinct bytes entries ok
      · rw [← same]
        intro entry member
        obtain ⟨source, -, rfl⟩ := List.mem_map.mp member
        exact entryOf_archived_entryOf source
    · exact absurd opens (by nofun)

/-- A package for which there is room is opened again from its bytes. -/
theorem openIn_of_saveIn {package : Package} (proper : package.Proper)
    (main : package.contains mainPart = true) (fits : room (package.entries.map archived)) :
    ∃ bytes, package.saveIn format = .ok bytes ∧ openIn format bytes = .ok package := by
  have distinct := proper.distinct
  rw [← map_name_archived] at distinct
  obtain ⟨bytes, written, ok⟩ := lawful.returns _ distinct fits
  have same : (package.entries.map archived).map entryOf = package.entries := by
    rw [List.map_map]
    exact List.map_congr_left proper.kinds |>.trans (List.map_id _)
  refine ⟨bytes, written, ?_⟩
  rw [openIn, ok]
  dsimp only
  rw [same, if_pos main]

end Format

/-- The format of archives has room for a package. -/
def Fitting (package : Package) : Prop :=
  Archive.Fitting (package.entries.map archived)

/-- A package that fits is opened again from its bytes. -/
theorem openBytes_of_save {package : Package} (proper : package.Proper)
    (main : package.contains mainPart = true) (fits : package.Fitting) :
    ∃ bytes, package.save = .ok bytes ∧ openBytes bytes = .ok package :=
  openIn_of_saveIn ArchiveFormat.lawful_zip proper main fits

theorem save_eq_tooLarge {package : Package} (proper : package.Proper)
    (large : ¬package.Fitting) : package.save = .error .tooLarge := by
  have distinct := proper.distinct
  rw [← map_name_archived] at distinct
  cases written : package.save with
  | ok bytes => exact absurd (Archive.write_eq_ok_iff.mp written).2.1 large
  | error fault =>
    have refused : Archive.write (package.entries.map archived) = .error fault := written
    unfold Archive.write at refused
    rw [Archive.duplicate?_eq_none_of_nodup distinct] at refused
    dsimp only at refused
    split at refused
    · exact absurd refused (by nofun)
    · exact refused.symm

end Package

end WordMerge
