import Mathlib.Data.List.Count
import Mathlib.Data.List.Nodup
import WordMerge.Proofs.Package.Opening

namespace WordMerge

namespace PackageEntry

/-- An entry after content was put into the part of a name. -/
def put (name : Text) (data : Bytes) : PackageEntry → PackageEntry
  | .directory d => .directory d
  | .part p => if p.name = name then .part { p with data := data } else .part p

theorem put_of_ne {entry : PackageEntry} {name : Text} (other : entry.name ≠ name) (data : Bytes) :
    entry.put name data = entry := by
  cases entry with
  | directory d => rfl
  | part p => exact if_neg other

/-- An entry after several parts were put in. -/
def putAll (filled : List (Text × Text)) (entry : PackageEntry) : PackageEntry :=
  filled.foldl (fun entry part => entry.put part.1 (Utf8.encode part.2)) entry

theorem putAll_directory (filled : List (Text × Text)) (name : Text) :
    (directory name).putAll filled = directory name := by
  induction filled with
  | nil => rfl
  | cons part filled ih => exact ih

/-- An entry for which there is no content stays as it is. -/
theorem putAll_of_not_mem {filled : List (Text × Text)} {entry : PackageEntry}
    (other : entry.name ∉ filled.map Prod.fst) : entry.putAll filled = entry := by
  induction filled with
  | nil => rfl
  | cons part filled ih =>
    rw [List.map_cons, List.mem_cons, not_or] at other
    rw [putAll, List.foldl_cons, put_of_ne other.1]
    exact ih other.2

/-- A part for which there is content gets it, if there is one content for each name. -/
theorem putAll_of_mem {filled : List (Text × Text)} {p : Part} {xml : Text}
    (distinct : (filled.map Prod.fst).Nodup) (member : (p.name, xml) ∈ filled) :
    (part p).putAll filled = part { p with data := Utf8.encode xml } := by
  induction filled with
  | nil => exact absurd member List.not_mem_nil
  | cons first filled ih =>
    rw [List.map_cons, List.nodup_cons] at distinct
    rw [putAll, List.foldl_cons]
    rcases List.mem_cons.mp member with here | later
    · rw [← here] at distinct ⊢
      have now : (part p).put p.name (Utf8.encode xml) = part { p with data := Utf8.encode xml } :=
        if_pos rfl
      rw [now]
      exact putAll_of_not_mem distinct.1
    · have other : (part p).name ≠ first.1 := by
        intro same
        exact distinct.1 (same ▸ List.mem_map_of_mem later)
      rw [put_of_ne other]
      exact ih distinct.2 later

end PackageEntry

namespace Package

variable {package : Package} {name : Text}

theorem mem_parts {part : Part} : part ∈ package.parts ↔ .part part ∈ package.entries := by
  rw [parts, List.mem_filterMap]
  constructor
  · rintro ⟨entry, member, found⟩
    cases entry with
    | directory name => exact absurd found (by nofun)
    | part p => rwa [← Option.some.inj found]
  · intro member
    exact ⟨_, member, rfl⟩

theorem mem_partNames :
    name ∈ package.partNames ↔ ∃ part, .part part ∈ package.entries ∧ part.name = name := by
  rw [partNames, List.mem_map]
  exact exists_congr fun part => and_congr_left fun _ => mem_parts

theorem contains_iff : package.contains name = true ↔ name ∈ package.partNames := by
  rw [contains, List.any_eq_true, partNames, List.mem_map]
  exact exists_congr fun part => and_congr_right fun _ => beq_iff_eq

theorem partNames_sublist (entries : List PackageEntry) :
    ((entries.filterMap PackageEntry.part?).map Part.name).Sublist
      (entries.map PackageEntry.name) := by
  induction entries with
  | nil => exact List.Sublist.slnil
  | cons entry entries ih =>
    cases entry with
    | directory name => exact List.Sublist.cons name ih
    | part p => exact List.Sublist.cons_cons p.name ih

theorem Proper.nodup_partNames (proper : package.Proper) : package.partNames.Nodup :=
  (partNames_sublist package.entries).nodup proper.distinct

/-- A part is found by its name if no name stands twice. -/
theorem find?_name_of_nodup {parts : List Part} {part : Part}
    (distinct : (parts.map Part.name).Nodup) (member : part ∈ parts) :
    parts.find? (·.name == part.name) = some part := by
  induction parts with
  | nil => exact absurd member List.not_mem_nil
  | cons first parts ih =>
    rw [List.map_cons, List.nodup_cons] at distinct
    rcases List.mem_cons.mp member with rfl | later
    · rw [List.find?_cons, beq_self_eq_true]
    · have other : (first.name == part.name) = false := by
        refine Bool.eq_false_iff.mpr fun same => distinct.1 ?_
        rw [eq_of_beq same]
        exact List.mem_map_of_mem later
      rw [List.find?_cons, other]
      exact ih distinct.2 later

theorem Proper.part?_eq (proper : package.Proper) {part : Part}
    (member : .part part ∈ package.entries) : package.part? part.name = some part.data := by
  rw [part?, find?_name_of_nodup proper.nodup_partNames (mem_parts.mpr member), Option.map_some]

theorem part?_eq_none (absent : name ∉ package.partNames) : package.part? name = none := by
  have nowhere : package.parts.find? (·.name == name) = none := by
    refine List.find?_eq_none.mpr fun part member same => absent ?_
    rw [← eq_of_beq same]
    exact List.mem_map_of_mem member
  rw [part?, nowhere, Option.map_none]

/-- The text of a part is what its bytes spell, or the fault that names it. -/
theorem Proper.text_eq (proper : package.Proper) {part : Part}
    (member : .part part ∈ package.entries) :
    package.text part.name = (Utf8.decode part.data).mapError (.notText part.name) := by
  rw [text, proper.part?_eq member]
  dsimp only
  cases Utf8.decode part.data <;> rfl

/-- The main document comes first, then the other templated parts as the archive has them. -/
theorem Proper.templatedParts_eq (proper : package.Proper)
    (main : package.contains mainPart = true) :
    package.templatedParts
      = mainPart :: package.partNames.filter fun name => name != mainPart && isTemplated name := by
  have templated : isTemplated mainPart = true := by decide
  have there : mainPart ∈ package.partNames.filter isTemplated :=
    List.mem_filter.mpr ⟨contains_iff.mp main, templated⟩
  have once : (package.partNames.filter isTemplated).count mainPart = 1 :=
    List.count_eq_one_of_mem (proper.nodup_partNames.filter _) there
  have first : (package.partNames.filter isTemplated).filter (· == mainPart) = [mainPart] := by
    rw [List.filter_beq, once]
    rfl
  rw [templatedParts]
  rw [first, List.filter_filter]
  rfl

/-- No templated part comes twice. -/
theorem Proper.nodup_templatedParts (proper : package.Proper)
    (main : package.contains mainPart = true) : package.templatedParts.Nodup := by
  rw [proper.templatedParts_eq main, List.nodup_cons]
  refine ⟨?_, proper.nodup_partNames.filter _⟩
  intro member
  have other := (List.mem_filter.mp member).2
  simp at other

/-- The templated parts are the parts with such names. -/
theorem mem_templatedParts :
    name ∈ package.templatedParts ↔ name ∈ package.partNames ∧ isTemplated name = true := by
  rw [templatedParts]
  rw [List.mem_append, List.mem_filter, List.mem_filter, List.mem_filter]
  by_cases same : name = mainPart <;> simp [same]

/-- If no name stands twice, replacing a part touches that part only. -/
theorem replace_eq_map {entries : List PackageEntry}
    (distinct : ((entries.filterMap PackageEntry.part?).map Part.name).Nodup) (data : Bytes) :
    replace name data entries = entries.map (PackageEntry.put name data) := by
  induction entries with
  | nil => rfl
  | cons entry entries ih =>
    cases entry with
    | directory d => rw [replace, List.map_cons, ih distinct]; rfl
    | part p =>
      have unique : p.name ∉ (entries.filterMap PackageEntry.part?).map Part.name ∧
          ((entries.filterMap PackageEntry.part?).map Part.name).Nodup := List.nodup_cons.mp distinct
      by_cases same : p.name = name
      · have others : entries.map (PackageEntry.put name data) = entries := by
          refine (List.map_congr_left fun entry member => ?_).trans (List.map_id entries)
          cases entry with
          | directory d => rfl
          | part other =>
            refine PackageEntry.put_of_ne (fun again => unique.1 ?_) data
            have here : p.name = other.name := same.trans again.symm
            rw [here]
            exact List.mem_map_of_mem (List.mem_filterMap.mpr ⟨_, member, rfl⟩)
        rw [replace, if_pos same, List.map_cons, PackageEntry.put, if_pos same, others]
      · rw [replace, if_neg same, List.map_cons, PackageEntry.put, if_neg same, ih unique.2]

theorem entries_insert (distinct : package.partNames.Nodup)
    (there : package.contains name = true) (data : Bytes) :
    (package.insert name data).entries = package.entries.map (PackageEntry.put name data) := by
  rw [insert, if_pos there, replace_eq_map distinct]

theorem part?_put (entry : PackageEntry) (data : Bytes) :
    (entry.put name data).part?.map Part.name = entry.part?.map Part.name := by
  cases entry with
  | directory d => rfl
  | part p =>
    rw [PackageEntry.put]
    split <;> rfl

/-- Putting in a part that is there already leaves the names as they are. -/
theorem partNames_insert (distinct : package.partNames.Nodup)
    (there : package.contains name = true) (data : Bytes) :
    (package.insert name data).partNames = package.partNames := by
  rw [partNames, partNames, parts, parts, entries_insert distinct there, List.map_filterMap,
    List.map_filterMap, List.filterMap_map]
  exact List.filterMap_congr fun entry _ => part?_put entry data

/-- Putting in parts that are there changes their content and nothing else. -/
theorem foldl_insert {filled : List (Text × Text)}
    (distinct : package.partNames.Nodup)
    (there : ∀ part ∈ filled, part.1 ∈ package.partNames) :
    (filled.foldl (fun package part => package.insert part.1 (Utf8.encode part.2)) package).entries
        = package.entries.map (PackageEntry.putAll filled) ∧
      (filled.foldl (fun package part => package.insert part.1 (Utf8.encode part.2))
        package).partNames = package.partNames := by
  induction filled generalizing package with
  | nil => exact ⟨(List.map_id package.entries).symm, rfl⟩
  | cons part filled ih =>
    have here : package.contains part.1 = true := contains_iff.mpr (there part List.mem_cons_self)
    have same := partNames_insert distinct here (Utf8.encode part.2)
    obtain ⟨entries, kept⟩ := @ih (package.insert part.1 (Utf8.encode part.2)) (by rwa [same])
      fun other member => by
        rw [same]
        exact there other (List.mem_cons_of_mem part member)
    constructor
    · rw [List.foldl_cons, entries, entries_insert distinct here, List.map_map]
      rfl
    · rw [List.foldl_cons, kept, same]

end Package

end WordMerge
