import Mathlib.Data.List.Basic
import WordMerge.Fetch.Basic
import WordMerge.Proofs.Text.Trimming

namespace WordMerge

namespace LocationPolicy

variable {policy other : LocationPolicy} {entries others : List Text} {entry host : Text}
  {location : Location}

/-- What stands in front of the domain in an entry for all hosts below it. -/
def star : Text := ['*', '.']

/-- Whether an entry stands for a host: for the one that it names or, behind a star, for those with at
least one more label in front of its domain. -/
def StandsFor (entry host : Text) : Prop :=
  ¬ star <+: entry ∧ entry = host ∨
    ∃ domain above, entry = star ++ domain ∧ above ≠ [] ∧ host = above ++ '.' :: domain

/-- An entry as it is compared with hosts. -/
def compared (entry : Text) : Text :=
  Text.lower (Text.trim entry)

/-- Whether a location has a scheme that is spoken. -/
def Spoken (location : Location) : Prop :=
  location.scheme = "http".toList ∨ location.scheme = "https".toList

instance : Decidable (Spoken location) :=
  inferInstanceAs (Decidable (_ ∨ _))

/-- Whether a list of entries lets a location pass. Without any entry that is not blank, all hosts may be
asked. -/
def Admits (entries : List Text) (location : Location) : Prop :=
  Spoken location ∧ ((∀ entry ∈ entries, Text.blank entry = true) ∨
    ∃ entry ∈ entries, Text.blank entry = false ∧
      StandsFor (compared entry) (Text.lower location.hostText))

/-- An entry with some text in it and white space around it. -/
def Pads (inner entry : Text) : Prop :=
  ∃ before after, Text.blank before = true ∧ Text.blank after = true ∧
    entry = before ++ inner ++ after

/-- Two entries that differ at most in the case of letters and in the white space around them. -/
def Alike (entry other : Text) : Prop :=
  ∃ inner inner', Pads inner entry ∧ Pads inner' other ∧ Text.lower inner = Text.lower inner'

/-- Two lists with the same entries, whatever their order, their number and the way they are written.
Blank entries do not count. -/
def Respelled (entries others : List Text) : Prop :=
  (∀ entry ∈ entries, Text.blank entry = false → ∃ other ∈ others, Alike entry other) ∧
    ∀ other ∈ others, Text.blank other = false → ∃ entry ∈ entries, Alike entry other

/-- An entry with a star stands for the hosts with something in front of its domain. -/
theorem standsFor_star_append {domain : Text} : StandsFor (star ++ domain) host ↔
    ∃ above, above ≠ [] ∧ host = above ++ '.' :: domain := by
  constructor
  · rintro (⟨plain, _⟩ | ⟨same, above, split, filled, below⟩)
    · exact absurd (List.prefix_append star domain) plain
    · cases List.append_cancel_left split
      exact ⟨above, filled, below⟩
  · rintro ⟨above, filled, below⟩
    exact .inr ⟨domain, above, rfl, filled, below⟩

/-- The test of an entry is right: what stands in front of a domain ends in a point and is longer than
the point exactly if the host has one more label. -/
theorem covers_iff : covers entry host = true ↔ StandsFor entry host := by
  unfold covers domain?
  split
  · next missing =>
    have plain : ¬ star <+: entry := by
      rintro ⟨domain, same⟩
      have found := List.isPrefixOf?_eq_some_iff_append_eq.mpr same
      cases found.symm.trans missing
    rw [beq_iff_eq]
    constructor
    · exact fun same => .inl ⟨plain, same⟩
    · rintro (⟨_, same⟩ | ⟨domain, _, split, _⟩)
      · exact same
      · exact absurd ⟨domain, split.symm⟩ plain
  · next domain found =>
    obtain rfl : star ++ domain = entry := List.isPrefixOf?_eq_some_iff_append_eq.mp found
    rw [standsFor_star_append]
    split
    · next missing =>
      refine iff_of_false Bool.false_ne_true ?_
      rintro ⟨above, _, rfl⟩
      have found : domain.isSuffixOf? (above ++ '.' :: domain) = some (above ++ ['.']) :=
        List.isSuffixOf?_eq_some_iff_append_eq.mpr (List.append_assoc above ['.'] domain)
      cases found.symm.trans missing
    · next front found =>
      obtain rfl : front ++ domain = host := List.isSuffixOf?_eq_some_iff_append_eq.mp found
      rw [Bool.and_eq_true, beq_iff_eq, decide_eq_true_eq, List.getLast?_eq_some_iff]
      constructor
      · rintro ⟨⟨above, rfl⟩, long⟩
        rw [List.length_append, List.length_singleton] at long
        exact ⟨above, List.length_pos_iff.mp (by omega), by simp⟩
      · rintro ⟨above, filled, split⟩
        have parted : front ++ domain = (above ++ ['.']) ++ domain := by simpa using split
        cases List.append_cancel_right parted
        have long := List.length_pos_iff.mpr filled
        exact ⟨⟨above, rfl⟩, by rw [List.length_append, List.length_singleton]; omega⟩

theorem compared_eq_nil_iff : compared entry = [] ↔ Text.blank entry = true := by
  rw [compared, Text.lower, List.map_eq_nil_iff, Text.trim_eq_nil_iff]

/-- The list holds what is compared of the entries that are not blank. -/
theorem mem_hosts_ofEntries : host ∈ (ofEntries entries).hosts ↔
    ∃ entry ∈ entries, Text.blank entry = false ∧ compared entry = host := by
  have filled (entry : Text) : (!(compared entry).isEmpty) = true ↔ Text.blank entry = false := by
    rw [Bool.not_eq_true', ← Bool.not_eq_true, List.isEmpty_iff, compared_eq_nil_iff,
      Bool.not_eq_true]
  simp only [ofEntries, List.mem_filter, List.mem_map]
  constructor
  · rintro ⟨⟨entry, member, rfl⟩, long⟩
    exact ⟨entry, member, (filled entry).mp long, rfl⟩
  · rintro ⟨entry, member, text, rfl⟩
    exact ⟨⟨entry, member, rfl⟩, (filled entry).mpr text⟩

/-- White space around an entry and the case of its letters are gone when it is compared. -/
theorem Alike.compared_eq {entry other : Text} (alike : Alike entry other) :
    compared entry = compared other := by
  obtain ⟨inner, inner', ⟨before, after, front, back, rfl⟩, ⟨before', after', front', back', rfl⟩,
    same⟩ := alike
  rw [compared, compared, Text.trim_around inner front back, Text.trim_around inner' front' back',
    ← Text.trim_lower, ← Text.trim_lower, same]

/-- Lists that are spelled in different ways hold the same. -/
theorem Respelled.mem_hosts_iff (respelled : Respelled entries others) (host : Text) :
    host ∈ (ofEntries entries).hosts ↔ host ∈ (ofEntries others).hosts := by
  have blankness {entry other : Text} (alike : Alike entry other) :
      Text.blank entry = Text.blank other := by
    rw [Bool.eq_iff_iff, ← compared_eq_nil_iff, ← compared_eq_nil_iff, alike.compared_eq]
  rw [mem_hosts_ofEntries, mem_hosts_ofEntries]
  constructor
  · rintro ⟨entry, member, text, rfl⟩
    obtain ⟨other, there, alike⟩ := respelled.1 entry member text
    exact ⟨other, there, blankness alike ▸ text, alike.compared_eq.symm⟩
  · rintro ⟨other, member, text, rfl⟩
    obtain ⟨entry, there, alike⟩ := respelled.2 other member text
    exact ⟨entry, there, blankness alike ▸ text, alike.compared_eq⟩

/-- Whether a rule allows a host. -/
def Lists (policy : LocationPolicy) (host : Text) : Prop :=
  (∀ entry, entry ∉ policy.hosts) ∨ ∃ entry ∈ policy.hosts, StandsFor entry host

theorem lists_iff : policy.Lists host ↔
    policy.isUnrestricted = true ∨ policy.hosts.any (covers · host) = true := by
  rw [Lists, isUnrestricted, List.isEmpty_iff, List.eq_nil_iff_forall_not_mem, List.any_eq_true]
  simp only [covers_iff]

/-- A host is listed if the list is empty but for blanks, or if an entry stands for it. -/
theorem lists_ofEntries : (ofEntries entries).Lists host ↔
    (∀ entry ∈ entries, Text.blank entry = true) ∨
      ∃ entry ∈ entries, Text.blank entry = false ∧ StandsFor (compared entry) host := by
  have empty : (∀ entry, entry ∉ (ofEntries entries).hosts) ↔
      ∀ entry ∈ entries, Text.blank entry = true := by
    simp only [mem_hosts_ofEntries]
    constructor
    · intro absent entry member
      by_contra text
      exact absent (compared entry) ⟨entry, member, Bool.not_eq_true _ ▸ text, rfl⟩
    · rintro blank _ ⟨entry, member, text, _⟩
      exact Bool.false_ne_true (text.symm.trans (blank entry member))
  have listed : (∃ entry ∈ (ofEntries entries).hosts, StandsFor entry host) ↔
      ∃ entry ∈ entries, Text.blank entry = false ∧ StandsFor (compared entry) host := by
    simp only [mem_hosts_ofEntries]
    constructor
    · rintro ⟨_, ⟨entry, member, text, rfl⟩, stands⟩
      exact ⟨entry, member, text, stands⟩
    · rintro ⟨entry, member, text, stands⟩
      exact ⟨_, ⟨entry, member, text, rfl⟩, stands⟩
  rw [Lists, empty, listed]

theorem check_of_lists (spoken : Spoken location)
    (lists : policy.Lists (Text.lower location.hostText)) : policy.check location = .ok () := by
  unfold check
  exact (if_pos spoken).trans (if_pos (lists_iff.mp lists))

theorem check_of_not_lists (spoken : Spoken location)
    (missing : ¬ policy.Lists (Text.lower location.hostText)) :
    policy.check location = .error (.host (Text.lower location.hostText)) := by
  unfold check
  exact (if_pos spoken).trans (if_neg fun listed => missing (lists_iff.mpr listed))

theorem check_of_not_spoken (silent : ¬ Spoken location) :
    policy.check location = .error (.scheme location.scheme) := by
  unfold check
  exact if_neg silent

/-- Rules with the same entries decide alike, about the refusal also. -/
theorem check_congr (same : ∀ entry, entry ∈ policy.hosts ↔ entry ∈ other.hosts)
    (location : Location) : policy.check location = other.check location := by
  have lists : policy.Lists (Text.lower location.hostText) ↔
      other.Lists (Text.lower location.hostText) := by
    simp only [Lists, same]
  by_cases spoken : Spoken location
  · by_cases listed : policy.Lists (Text.lower location.hostText)
    · rw [check_of_lists spoken listed, check_of_lists spoken (lists.mp listed)]
    · rw [check_of_not_lists spoken listed, check_of_not_lists spoken fun h => listed (lists.mpr h)]
  · rw [check_of_not_spoken spoken, check_of_not_spoken spoken]

/-- Why a location is refused that no list of entries has to let pass: its scheme, or else its host. -/
def refusal (location : Location) : Refusal :=
  if Spoken location then .host (Text.lower location.hostText) else .scheme location.scheme

theorem admits_iff : Admits entries location ↔
    Spoken location ∧ (ofEntries entries).Lists (Text.lower location.hostText) := by
  rw [Admits, lists_ofEntries]

/-- What a list of entries decides about a location. -/
structure Decides (entries : List Text) (location : Location) : Prop where
  /-- The location passes exactly if its scheme is spoken and an entry stands for its host, or there
  are none but blank ones. -/
  passes : (ofEntries entries).guard location = .ok () ↔ Admits entries location
  /-- Otherwise the error names the location, and the scheme or the host that is refused. -/
  refused : ¬ Admits entries location → (ofEntries entries).guard location =
    .error ⟨location.write, .notAllowed (refusal location).message⟩
  /-- It makes no difference how often, in which order and how the entries are written. -/
  respelled : ∀ others, Respelled entries others →
    (ofEntries others).guard location = (ofEntries entries).guard location

/-- A list of entries decides about whole labels of hosts, by the entries alone and not by how they are
written. -/
theorem decides_ofEntries (entries : List Text) (location : Location) :
    Decides entries location := by
  have refused (missing : ¬ Admits entries location) : (ofEntries entries).guard location =
      .error ⟨location.write, .notAllowed (refusal location).message⟩ := by
    have error : (ofEntries entries).check location = .error (refusal location) := by
      unfold refusal
      split
      · next spoken =>
        exact check_of_not_lists spoken fun lists => missing (admits_iff.mpr ⟨spoken, lists⟩)
      · next silent => exact check_of_not_spoken silent
    rw [guard, error]
  refine ⟨?_, refused, fun others respelled => ?_⟩
  · constructor
    · intro passed
      by_contra missing
      cases passed.symm.trans (refused missing)
    · intro admitted
      obtain ⟨spoken, lists⟩ := admits_iff.mp admitted
      rw [guard, check_of_lists spoken lists]
  · rw [guard, guard, check_congr fun host => (respelled.mem_hosts_iff host).symm]

/-- The root of a host. -/
def rootOf (host : Text) : Location where
  scheme := "https".toList
  host := some (.name host)
  path := .rooted ['/']

/-- A list with a host and a domain, in which one entry is blank. -/
def hostAndDomain : List Text := [" Docs.b ".toList, [' '], "*.A.b".toList]

/-- The same entries in another order and form. -/
def domainAndHost : List Text := ["*.a.B ".toList, "docs.b".toList]

theorem respelled_hostAndDomain : Respelled hostAndDomain domainAndHost := by
  have docs : Alike " Docs.b ".toList "docs.b".toList :=
    ⟨"Docs.b".toList, "docs.b".toList, ⟨[' '], [' '], rfl, rfl, rfl⟩, ⟨[], [], rfl, rfl, rfl⟩, rfl⟩
  have below : Alike "*.A.b".toList "*.a.B ".toList :=
    ⟨"*.A.b".toList, "*.a.B".toList, ⟨[], [], rfl, rfl, rfl⟩, ⟨[], [' '], rfl, rfl, rfl⟩, rfl⟩
  constructor
  · simp only [hostAndDomain, List.forall_mem_cons]
    exact ⟨fun _ => ⟨_, .tail _ (.head _), docs⟩, fun text => (by cases text),
      fun _ => ⟨_, .head _, below⟩, by simp⟩
  · simp only [domainAndHost, List.forall_mem_cons]
    exact ⟨fun _ => ⟨_, .tail _ (.tail _ (.head _)), below⟩, fun _ => ⟨_, .head _, docs⟩, by simp⟩

/-- The hosts below the domain pass, but neither the domain itself nor one that ends in its letters; the
same entries in another form say the same. -/
theorem decides_ofEntries_hostAndDomain :
    Admits hostAndDomain (rootOf "x.a.b".toList) ∧ Admits hostAndDomain (rootOf "docs.b".toList) ∧
      ¬ Admits hostAndDomain (rootOf "a.b".toList) ∧
      ¬ Admits hostAndDomain (rootOf "xa.b".toList) ∧
      (ofEntries domainAndHost).guard (rootOf "x.a.b".toList) = .ok () := by
  have decides (host : Text) := decides_ofEntries hostAndDomain (rootOf host)
  have below : (ofEntries hostAndDomain).guard (rootOf "x.a.b".toList) = .ok () := rfl
  refine ⟨(decides _).passes.mp below, (decides _).passes.mp rfl, fun passed => ?_, fun passed => ?_,
    ?_⟩
  · cases (decides _).passes.mpr passed
  · cases (decides _).passes.mpr passed
  · rw [(decides _).respelled _ respelled_hostAndDomain, below]

end LocationPolicy

end WordMerge
