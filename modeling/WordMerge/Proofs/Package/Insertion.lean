import Mathlib.Data.List.Induction
import WordMerge.Proofs.Package.Rendering

namespace WordMerge

/-- What was put into a map, one after the other. -/
abbrev History := List (Text × Bytes)

namespace History

/-- The names in the order in which they came first. -/
def names (history : History) : List Text :=
  (history.map Prod.fst).eraseDups

/-- What was put in last under a name. -/
def content? (history : History) (name : Text) : Option Bytes :=
  history.reverse.lookup name

theorem names_append_of_mem {history : History} {name : Text} (there : name ∈ history.names)
    (data : Bytes) : names (history ++ [(name, data)]) = history.names := by
  have before : name ∈ history.map Prod.fst := List.mem_eraseDups.mp there
  rw [names, List.map_append, List.eraseDups_append]
  simp [names, List.removeAll, before]

theorem names_append_of_not_mem {history : History} {name : Text} (fresh : name ∉ history.names)
    (data : Bytes) : names (history ++ [(name, data)]) = history.names ++ [name] := by
  have before : name ∉ history.map Prod.fst := fun there => fresh (List.mem_eraseDups.mpr there)
  rw [names, List.map_append, List.eraseDups_append]
  simp [names, List.removeAll, before, List.eraseDups_cons]

/-- What was put in last counts. -/
theorem content?_append (history : History) (name : Text) (data : Bytes) (other : Text) :
    content? (history ++ [(name, data)]) other =
      if other = name then some data else history.content? other := by
  rw [content?, List.reverse_append, List.reverse_singleton, List.singleton_append, List.lookup_cons]
  by_cases same : other = name
  · simp [same]
  · rw [beq_eq_false_iff_ne.mpr same, if_neg same]
    rfl

theorem nodup_names (history : History) : history.names.Nodup := by
  induction history using List.reverseRecOn with
  | nil => exact List.nodup_nil
  | append_singleton before part ih =>
    by_cases there : part.1 ∈ names before
    · rwa [names_append_of_mem there]
    · rw [names_append_of_not_mem there, List.nodup_append]
      refine ⟨ih, List.nodup_singleton _, ?_⟩
      rintro name inside other single rfl
      rw [List.mem_singleton] at single
      exact there (single ▸ inside)

end History

theorem eraseDups_of_nodup {names : List Text} (distinct : names.Nodup) : names.eraseDups = names := by
  induction names with
  | nil => rfl
  | cons name rest ih =>
    obtain ⟨fresh, others⟩ := List.nodup_cons.mp distinct
    have kept : rest.filter (fun other => !other == name) = rest := by
      refine List.filter_eq_self.mpr fun other inside => ?_
      have differ : other ≠ name := fun same => fresh (same ▸ inside)
      simpa using differ
    rw [List.eraseDups_cons, kept, ih others]

namespace PackageEntry

/-- An entry without its content. -/
def emptied : PackageEntry → PackageEntry
  | .directory name => .directory name
  | .part p => .part { p with data := [] }

/-- The name of a directory. -/
def directory? : PackageEntry → Option Text
  | .directory name => some name
  | .part _ => none

theorem emptied_put (entry : PackageEntry) (name : Text) (data : Bytes) :
    (entry.put name data).emptied = entry.emptied := by
  cases entry with
  | directory d => rfl
  | part p =>
    rw [put]
    split <;> rfl

theorem directory?_emptied (entry : PackageEntry) : entry.emptied.directory? = entry.directory? := by
  cases entry <;> rfl

/-- The names of entries are those of parts and those of directories. -/
theorem map_name_perm (entries : List PackageEntry) : (entries.map name).Perm
    (((entries.filterMap part?).map Part.name) ++ entries.filterMap directory?) := by
  induction entries with
  | nil => exact .nil
  | cons entry rest ih =>
    cases entry with
    | directory d => exact (ih.cons d).trans (List.perm_middle.symm)
    | part p => exact ih.cons p.name

end PackageEntry

namespace Package

variable {package : Package} {history : History}

/-- Puts in parts one after the other. -/
def insertAll (package : Package) (parts : History) : Package :=
  parts.foldl (fun package part => package.insert part.1 part.2) package

/-- The parts of a package with their contents. -/
def contents (package : Package) : History :=
  package.parts.map fun part => (part.name, part.data)

/-- Whether the parts of a package are those of a map with a history. -/
structure Records (package : Package) (history : History) : Prop where
  names : package.partNames = history.names
  content : ∀ name, package.part? name = history.content? name

theorem Records.nodup_partNames (records : package.Records history) : package.partNames.Nodup :=
  records.names ▸ history.nodup_names

/-- A part that is there already gets new content where it is. -/
theorem parts_insert_of_contains (distinct : package.partNames.Nodup) {name : Text}
    (there : package.contains name = true) (data : Bytes) :
    (package.insert name data).parts = package.parts.map fun p =>
      if p.name = name then { p with data := data } else p := by
  rw [parts, parts, entries_insert distinct there, List.filterMap_map, List.map_filterMap]
  refine List.filterMap_congr fun entry _ => ?_
  cases entry with
  | directory d => rfl
  | part p =>
    rw [Function.comp_apply, PackageEntry.put]
    by_cases same : p.name = name
    · simp [same, PackageEntry.part?]
    · simp [same, PackageEntry.part?]

theorem parts_insert_of_not_contains {name : Text} (fresh : package.contains name = false)
    (data : Bytes) :
    (package.insert name data).parts = package.parts ++ [⟨name, data, .deflated⟩] := by
  rw [insert, if_neg (by simp [fresh]), parts, List.filterMap_append]
  rfl

/-- What is put in is found under its name, and nothing else changes. -/
theorem part?_insert (distinct : package.partNames.Nodup) (name : Text) (data : Bytes)
    (other : Text) : (package.insert name data).part? other =
      if other = name then some data else package.part? other := by
  cases there : package.contains name with
  | true =>
    rw [part?, parts_insert_of_contains distinct there, List.find?_map]
    have names : ((fun p : Part => p.name == other) ∘ fun p =>
        if p.name = name then { p with data := data } else p) = fun p => p.name == other := by
      funext p
      rw [Function.comp_apply]
      split <;> rfl
    rw [names, part?]
    cases found : package.parts.find? (·.name == other) with
    | none =>
      have absent : other ≠ name := by
        rintro rfl
        obtain ⟨p, inside, same⟩ := List.any_eq_true.mp there
        exact List.find?_eq_none.mp found p inside same
      simp [absent]
    | some p =>
      have same : p.name = other := by simpa using List.find?_some found
      by_cases here : other = name
      · simp [same, here]
      · simp [same, here]
  | false =>
    have nowhere : name ∉ package.partNames := fun inside => by
      rw [contains_iff.mpr inside] at there
      cases there
    rw [part?, parts_insert_of_not_contains there, List.find?_append]
    by_cases here : other = name
    · have before := part?_eq_none nowhere
      rw [part?, Option.map_eq_none_iff] at before
      simp [here, before]
    · have passed : ((name == other) = false) := beq_eq_false_iff_ne.mpr (Ne.symm here)
      simp [part?, here, passed]

theorem partNames_insert_of_not_contains {name : Text} (fresh : package.contains name = false)
    (data : Bytes) : (package.insert name data).partNames = package.partNames ++ [name] := by
  rw [partNames, parts_insert_of_not_contains fresh, List.map_append]
  rfl

/-- Putting in one part. -/
theorem Records.insert (records : package.Records history) (name : Text) (data : Bytes) :
    (package.insert name data).Records (history ++ [(name, data)]) := by
  refine ⟨?_, fun other => ?_⟩
  · cases there : package.contains name with
    | true =>
      rw [partNames_insert records.nodup_partNames there, records.names,
        History.names_append_of_mem (records.names ▸ contains_iff.mp there)]
    | false =>
      have fresh : name ∉ history.names := fun inside => by
        rw [contains_iff.mpr (records.names ▸ inside)] at there
        cases there
      rw [partNames_insert_of_not_contains there, records.names,
        History.names_append_of_not_mem fresh]
  · rw [part?_insert records.nodup_partNames, records.content, History.content?_append]

/-- Putting in parts one after the other. -/
theorem Records.insertAll (records : package.Records history) (parts : History) :
    (package.insertAll parts).Records (history ++ parts) := by
  induction parts generalizing package history with
  | nil => rwa [List.append_nil]
  | cons part parts ih =>
    have whole : history ++ part :: parts = (history ++ [part]) ++ parts := by simp
    rw [whole]
    exact ih (records.insert part.1 part.2)

/-- The first part of a name is the one whose content counts, if no name stands twice. -/
theorem find?_eq_content? (parts : List Part) (distinct : (parts.map Part.name).Nodup)
    (name : Text) : (parts.find? (·.name == name)).map Part.data =
      History.content? (parts.map fun part => (part.name, part.data)) name := by
  induction parts using List.reverseRecOn with
  | nil => rfl
  | append_singleton before part ih =>
    rw [List.map_append, List.map_singleton, List.nodup_append] at distinct
    obtain ⟨rest, -, apart⟩ := distinct
    rw [List.find?_append, List.map_append, List.map_singleton, History.content?_append, ← ih rest]
    by_cases here : name = part.name
    · have earlier : before.find? (·.name == name) = none := by
        refine List.find?_eq_none.mpr fun p inside same => ?_
        have again : p.name = part.name := (beq_iff_eq.mp same).trans here
        exact apart p.name (List.mem_map_of_mem inside) part.name (List.mem_singleton_self _) again
      rw [earlier, if_pos here]
      simp [here]
    · have passed : (part.name == name) = false := beq_eq_false_iff_ne.mpr (Ne.symm here)
      simp [here, passed]

/-- A package that has no part twice records its own parts. -/
theorem records_contents (distinct : package.partNames.Nodup) :
    package.Records package.contents := by
  have keys : package.contents.map Prod.fst = package.partNames := by
    rw [contents, List.map_map]
    rfl
  refine ⟨?_, fun name => find?_eq_content? package.parts distinct name⟩
  rw [History.names, keys, eraseDups_of_nodup distinct]

/-- Whether a package has the entries of another one, in their places, and behind them new parts. -/
def Extends (package origin : Package) : Prop :=
  ∃ fresh, package.partNames = origin.partNames ++ fresh ∧
    package.entries.map PackageEntry.emptied = origin.entries.map PackageEntry.emptied ++
      fresh.map fun name => .part ⟨name, [], .deflated⟩

theorem Extends.refl (package : Package) : package.Extends package :=
  ⟨[], by simp, by simp⟩

/-- Putting in a part leaves the entries that were there in their places. -/
theorem Extends.insert {origin : Package} (extending : package.Extends origin)
    (distinct : package.partNames.Nodup) (name : Text) (data : Bytes) :
    (package.insert name data).Extends origin := by
  obtain ⟨fresh, names, entries⟩ := extending
  cases there : package.contains name with
  | true =>
    refine ⟨fresh, (partNames_insert distinct there data).trans names, ?_⟩
    rw [entries_insert distinct there, List.map_map, ← entries]
    exact List.map_congr_left fun entry _ => entry.emptied_put name data
  | false =>
    refine ⟨fresh ++ [name], ?_, ?_⟩
    · rw [partNames_insert_of_not_contains there, names, List.append_assoc]
    · rw [Package.insert, if_neg (by simp [there]), List.map_append, List.map_append, entries,
        List.append_assoc]
      rfl

/-- Putting in any number of parts does so, too. -/
theorem Extends.insertAll {origin : Package} (extending : package.Extends origin)
    (records : package.Records history) (parts : History) :
    (package.insertAll parts).Extends origin := by
  induction parts generalizing package history with
  | nil => exact extending
  | cons part parts ih =>
    exact ih (extending.insert records.nodup_partNames part.1 part.2) (records.insert part.1 part.2)

/-- The directories of a package, in order. -/
def directories (package : Package) : List Text :=
  package.entries.filterMap PackageEntry.directory?

theorem Extends.directories_eq {origin : Package} (extending : package.Extends origin) :
    package.directories = origin.directories := by
  obtain ⟨fresh, -, entries⟩ := extending
  have emptied (package : Package) : package.directories =
      (package.entries.map PackageEntry.emptied).filterMap PackageEntry.directory? := by
    rw [directories, List.filterMap_map]
    exact List.filterMap_congr fun entry _ => (PackageEntry.directory?_emptied entry).symm
  have none : (fresh.map fun name => PackageEntry.part ⟨name, [], .deflated⟩).filterMap
      PackageEntry.directory? = [] := by
    rw [List.filterMap_map]
    exact List.filterMap_eq_nil_iff.mpr fun _ _ => rfl
  rw [emptied package, entries, List.filterMap_append, none, List.append_nil, ← emptied origin]

theorem Proper.nodup_directories (proper : package.Proper) : package.directories.Nodup := by
  have all := (PackageEntry.map_name_perm package.entries).nodup_iff.mp proper.distinct
  exact (List.nodup_append.mp all).2.1

theorem Proper.isDirectoryName_of_mem (proper : package.Proper) {name : Text}
    (member : name ∈ package.directories) : Archive.isDirectoryName name = true := by
  obtain ⟨entry, inside, found⟩ := List.mem_filterMap.mp member
  cases entry with
  | part p => cases found
  | directory d =>
    cases found
    by_contra other
    have part : entryOf (archived (.directory name)) = .part ⟨name, [], .stored⟩ := if_neg other
    cases part.symm.trans (proper.kinds _ inside)

/-- A package that extends one as it is opened could be opened itself, if no part is called like a
directory. -/
theorem Extends.proper {origin : Package} (extending : package.Extends origin)
    (proper : origin.Proper) (distinct : package.partNames.Nodup)
    (files : ∀ name ∈ package.partNames, Archive.isDirectoryName name = false) :
    package.Proper := by
  have folders : ∀ name ∈ package.directories, Archive.isDirectoryName name = true := by
    rw [extending.directories_eq]
    exact fun _ => proper.isDirectoryName_of_mem
  refine ⟨?_, fun entry member => ?_⟩
  · refine (PackageEntry.map_name_perm package.entries).nodup_iff.mpr ?_
    refine List.nodup_append.mpr ⟨distinct, ?_, ?_⟩
    · have once := proper.nodup_directories
      rwa [← extending.directories_eq] at once
    · rintro name part other folder rfl
      have file := files name part
      rw [folders name folder] at file
      cases file
  · cases entry with
    | directory d =>
      exact if_pos (folders d (List.mem_filterMap.mpr ⟨_, member, rfl⟩))
    | part p =>
      have file := files p.name (mem_partNames.mpr ⟨p, member, rfl⟩)
      refine if_neg ?_
      rw [Archive.Entry.isDirectory, archived, file]
      decide

theorem entries_withBody (body : Text) : (withBody body).entries =
    [.part ⟨"[Content_Types].xml".toList, Utf8.encode contentTypes, .deflated⟩,
      .part ⟨"_rels/.rels".toList, Utf8.encode relationships, .deflated⟩,
      .part ⟨mainPart, Utf8.encode (documentWith body), .deflated⟩] := rfl

/-- The smallest package is like one that was opened. -/
theorem proper_withBody (body : Text) :
    (withBody body).Proper ∧ (withBody body).contains mainPart = true := by
  have names : (withBody body).entries.map PackageEntry.name =
      ["[Content_Types].xml".toList, "_rels/.rels".toList, mainPart] := rfl
  have files : ∀ name ∈ ["[Content_Types].xml".toList, "_rels/.rels".toList, mainPart],
      ¬ Archive.isDirectoryName name = true := by decide
  refine ⟨⟨?_, ?_⟩, rfl⟩
  · rw [names]
    decide
  · intro entry member
    have file := files entry.name (names ▸ List.mem_map_of_mem member)
    rw [entries_withBody] at member
    simp only [List.mem_cons, List.not_mem_nil, or_false] at member
    rcases member with rfl | rfl | rfl <;> exact if_neg file

/-- A package to begin with: the smallest one with some body, or one that was opened. -/
def Origin (format : ArchiveFormat) (package : Package) : Prop :=
  (∃ body, package = withBody body) ∨ ∃ bytes, openIn format bytes = .ok package

/-- A package to begin with has no name twice and has a main document. -/
theorem Origin.proper {format : ArchiveFormat} {room : List Archive.Entry → Prop}
    (lawful : format.Lawful room) (origin : package.Origin format) :
    package.Proper ∧ package.contains mainPart = true := by
  rcases origin with ⟨body, rfl⟩ | ⟨bytes, opens⟩
  · exact proper_withBody body
  · exact proper_of_openIn lawful opens

/-- Whatever parts are put into a package, one after the other, its parts are those of a map into
which they were put: no name stands twice, a name keeps its first place, what was put in last counts,
and the main document is there. The entries that were there keep their places, their names and the way
they are kept, directories among them; new parts stand behind them and are deflated. If no part is
called like a directory and there is room for the entries, the package can be saved, and what is opened
then is the package. -/
theorem recorded_insertAll {format : ArchiveFormat} {room : List Archive.Entry → Prop}
    (lawful : format.Lawful room) {origin : Package} (start : origin.Origin format)
    (parts : History) :
    (origin.insertAll parts).Records (origin.contents ++ parts) ∧
      (origin.insertAll parts).partNames.Nodup ∧
      (∀ name, (origin.insertAll parts).contains name = true ↔
        name ∈ History.names (origin.contents ++ parts)) ∧
      (origin.insertAll parts).contains mainPart = true ∧
      (origin.insertAll parts).Extends origin ∧
      ((∀ name ∈ (origin.insertAll parts).partNames, Archive.isDirectoryName name = false) →
        room ((origin.insertAll parts).entries.map archived) →
        ∃ bytes, (origin.insertAll parts).saveIn format = .ok bytes ∧
          openIn format bytes = .ok (origin.insertAll parts)) := by
  obtain ⟨proper, main⟩ := start.proper lawful
  have own := records_contents proper.nodup_partNames
  have records := own.insertAll parts
  have extending := (Extends.refl origin).insertAll own parts
  have contains (name : Text) : (origin.insertAll parts).contains name = true ↔
      name ∈ History.names (origin.contents ++ parts) := by
    rw [contains_iff, records.names]
  have mainLeft : (origin.insertAll parts).contains mainPart = true := by
    obtain ⟨fresh, names, -⟩ := extending
    rw [contains_iff, names]
    exact List.mem_append_left _ (contains_iff.mp main)
  refine ⟨records, records.nodup_partNames, contains, mainLeft, extending, fun files fits => ?_⟩
  exact openIn_of_saveIn lawful (extending.proper proper records.nodup_partNames files) mainLeft fits

/-- Another main document, twice, and a part that the letter does not have. -/
def revisions : History :=
  [(mainPart, [0x61]), ("word/notes.xml".toList, [0x62]), (mainPart, [0x63])]

theorem recorded_insertAll_letter :
    (letter.insertAll revisions).partNames =
        ["word/header1.xml".toList, mainPart, "word/notes.xml".toList] ∧
      (letter.insertAll revisions).part? mainPart = some [0x63] ∧
      ∃ bytes, (letter.insertAll revisions).saveIn .zip = .ok bytes ∧
        openIn .zip bytes = .ok (letter.insertAll revisions) := by
  have fits : Archive.Fitting ((letter.insertAll revisions).entries.map archived) := by
    unfold Archive.Fitting
    decide +kernel
  obtain ⟨records, -, -, -, -, saved⟩ := recorded_insertAll ArchiveFormat.lawful_zip
    (.inr exists_openBytes_letter) revisions
  refine ⟨?_, ?_, saved (by decide +kernel) fits⟩
  · rw [records.names]
    decide +kernel
  · rw [records.content]
    decide +kernel

end Package

end WordMerge
