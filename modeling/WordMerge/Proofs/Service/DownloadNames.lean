import WordMerge.Proofs.Location.Percent
import WordMerge.Proofs.Service.FileNames
import WordMerge.Service.Routing

namespace WordMerge

namespace Disposition

/-- The value whose opening quotation mark is passed, and what stands behind its closing one. The
character behind a backslash stands for itself. -/
def unquote? : Text → Option (Text × Text)
  | [] => none
  | '"' :: rest => some ([], rest)
  | '\\' :: c :: rest => (unquote? rest).map fun read => (c :: read.1, read.2)
  | c :: rest => (unquote? rest).map fun read => (c :: read.1, read.2)

/-- A value, quoted or up to the next semicolon, and what stands behind it. -/
def value? : Text → Option (Text × Text)
  | '"' :: rest => unquote? rest
  | s => some (s.takeWhile (· != ';'), s.dropWhile (· != ';'))

theorem length_of_unquote? {s value after : Text} (read : unquote? s = some (value, after)) :
    after.length ≤ s.length := by
  fun_induction unquote? s generalizing value after with
  | case1 => cases read
  | case2 rest =>
    cases read
    exact Nat.le_succ _
  | case3 c rest ih =>
    obtain ⟨⟨inner, behind⟩, found, same⟩ := Option.map_eq_some_iff.mp read
    cases same
    exact Nat.le_trans (ih found) (Nat.le_add_right _ 2)
  | case4 c rest _ _ ih =>
    obtain ⟨⟨inner, behind⟩, found, same⟩ := Option.map_eq_some_iff.mp read
    cases same
    exact Nat.le_trans (ih found) (Nat.le_succ _)

theorem length_of_value? {s value after : Text} (read : value? s = some (value, after)) :
    after.length ≤ s.length := by
  unfold value? at read
  split at read
  · exact Nat.le_trans (length_of_unquote? read) (Nat.le_succ _)
  · cases read
    exact (List.dropWhile_suffix _).length_le

/-- A parameter behind its semicolon, with its name in small letters, and what stands behind it. -/
def parameter? (s : Text) : Option ((Text × Text) × Text) :=
  let named := s.dropWhile (· == ' ')
  (value? (named.dropWhile (· != '=')).tail).map fun read =>
    ((Text.lower (named.takeWhile (· != '=')), read.1), read.2)

/-- Reading a parameter takes some of the text, so the reading of all of them ends. -/
theorem length_of_parameter? {s after : Text} {parameter : Text × Text}
    (read : parameter? s = some (parameter, after)) : after.length ≤ s.length := by
  obtain ⟨⟨value, behind⟩, found, same⟩ := Option.map_eq_some_iff.mp read
  cases same
  refine Nat.le_trans (length_of_value? found) ?_
  have shorter : (((s.dropWhile (· == ' ')).dropWhile (· != '=')).tail).length ≤
      ((s.dropWhile (· == ' ')).dropWhile (· != '=')).length := (List.tail_suffix _).length_le
  exact shorter.trans
    ((List.dropWhile_suffix _).trans (List.dropWhile_suffix _)).length_le

/-- The parameters of a field, each behind a semicolon. -/
def parameters? (s : Text) : Option (List (Text × Text)) :=
  match s with
  | [] => some []
  | ';' :: rest =>
    match _found : parameter? rest with
    | none => none
    | some (parameter, after) => (parameters? after).map (parameter :: ·)
  | _ => none
termination_by s.length
decreasing_by exact Nat.lt_succ_of_le (length_of_parameter? _found)

/-- The text of an extended value: a character set, a language and, behind percent signs, the text, with
apostrophes between them. -/
def extended? (value : Text) : Option Text :=
  match value.dropWhile (· != '\'') with
  | '\'' :: tagged =>
    match tagged.dropWhile (· != '\'') with
    | '\'' :: coded =>
      if Text.lower (value.takeWhile (· != '\'')) = "utf-8".toList then
        (Utf8.decode (Percent.decode (Utf8.encode coded))).toOption
      else none
    | _ => none
  | _ => none

/-- The name under which a document with the field is saved: the extended one if there is one. -/
def savedName? (field : Text) : Option Text := do
  let parameters ← parameters? (field.dropWhile (· != ';'))
  match parameters.lookup "filename*".toList with
  | some value => extended? value
  | none => parameters.lookup "filename".toList

example : savedName? "inline; FileName=\"a\\\"b;c\"; size=2".toList = some "a\"b;c".toList := by cbv

/-- Whether a character is printable ASCII. -/
def IsPrintable (c : Char) : Prop :=
  0x20 ≤ c.toNat ∧ c.toNat ≤ 0x7E

theorem isPrintable_of_mem_encode {name : Text} {c : Char}
    (member : c ∈ Percent.encode Percent.strictReserved name) : IsPrintable c := by
  rcases Percent.unreserved_of_mem_encode member with rfl | unreserved
  · exact ⟨by decide, by decide⟩
  · exact Percent.printable_of_unreserved unreserved

/-- A name without control characters is printable once it is in ASCII. -/
theorem isPrintable_of_mem_fallback {name : Text} (clean : ∀ c ∈ name, isControl c = false) {c : Char}
    (member : c ∈ fallback name) : IsPrintable c := by
  obtain ⟨d, inside, rfl⟩ := List.mem_map.mp member
  have visible := clean d inside
  split
  · next plain =>
    simp only [isControl, isPlain, Bool.or_eq_false_iff, Bool.and_eq_false_iff,
      decide_eq_false_iff_not, decide_eq_true_eq] at visible plain
    exact ⟨by omega, by omega⟩
  · exact ⟨by decide, by decide⟩

/-- The field of a name without control characters is printable ASCII. -/
theorem isPrintable_of_mem_write {name : Text} (clean : ∀ c ∈ name, isControl c = false) {c : Char}
    (member : c ∈ write name) : IsPrintable c := by
  have front : ∀ c ∈ "attachment; filename=\"".toList, IsPrintable c := by
    simp [IsPrintable]
  have middle : ∀ c ∈ "; filename*=UTF-8''".toList, IsPrintable c := by
    simp [IsPrintable]
  have simple : ∀ c ∈ "attachment; filename=\"".toList ++ fallback name ++ ['"'], IsPrintable c := by
    intro c member
    simp only [List.mem_append, List.mem_singleton] at member
    rcases member with (inFront | inName) | rfl
    · exact front c inFront
    · exact isPrintable_of_mem_fallback clean inName
    · exact ⟨by decide, by decide⟩
  unfold write at member
  dsimp only at member
  split at member
  · exact simple c member
  · rcases List.mem_append.mp member with before | encoded
    · exact (List.mem_append.mp before).elim (simple c) (middle c)
    · exact isPrintable_of_mem_encode encoded

/-- What is printable can stand in a header field. -/
theorem isFieldText_of_printable {s : Text} (printable : ∀ c ∈ s, IsPrintable c) :
    isFieldText s = true := by
  refine List.all_eq_true.mpr fun c member => ?_
  obtain ⟨low, high⟩ := printable c member
  have other : c.toNat ≠ 0x7F := by omega
  simp [low, other]

/-- The name that a request gets can stand in a header field. -/
theorem isFieldText_write_resolve (asked : Option Text) (data : Value) :
    isFieldText (write (FileName.resolve asked data)) = true :=
  isFieldText_of_printable fun _ member =>
    isPrintable_of_mem_write (fun c inside =>
      ((FileName.proper_resolve asked data).allowed c inside).2) member

/-- A quoted value without quotation marks and backslashes stands for itself. -/
theorem unquote?_of_plain {s : Text} (plain : ∀ c ∈ s, c ≠ '"' ∧ c ≠ '\\') (rest : Text) :
    unquote? (s ++ '"' :: rest) = some (s, rest) := by
  induction s with
  | nil => rfl
  | cons c s ih =>
    rw [List.forall_mem_cons] at plain
    rw [List.cons_append, unquote?, ih plain.2]
    · rfl
    · exact plain.1.1
    · exact fun d after same _ => plain.1.2 same

/-- A bare value goes to its end if there is no semicolon in it. -/
theorem value?_of_bare {s : Text} (bare : s.head? ≠ some '"') (closed : ';' ∉ s) :
    value? s = some (s, []) := by
  have passes : ∀ c ∈ s, (c != ';') = true := fun c member => by
    simpa using fun same : c = ';' => closed (same ▸ member)
  unfold value?
  split
  · exact absurd rfl bare
  · rw [List.takeWhile_eq_self_iff.mpr passes, List.dropWhile_eq_nil_iff.mpr passes]

/-- A parameter is read off the front. -/
theorem parameters?_cons {name key s value after : Text} (lowered : Text.lower name = key)
    (spaceless : name.head? ≠ some ' ') (plain : '=' ∉ name)
    (read : value? s = some (value, after)) :
    parameters? (';' :: ' ' :: (name ++ '=' :: s)) =
      (parameters? after).map ((key, value) :: ·) := by
  subst lowered
  have named : (' ' :: (name ++ '=' :: s)).dropWhile (· == ' ') = name ++ '=' :: s := by
    rw [List.dropWhile_cons_of_pos (by decide)]
    cases name with
    | nil => rfl
    | cons c name => exact List.dropWhile_cons_of_neg (by simpa using spaceless)
  have passes : ∀ c ∈ name, (c != '=') = true := fun c member => by
    simpa using fun same : c = '=' => plain (same ▸ member)
  have inFront : (name ++ '=' :: s).takeWhile (· != '=') = name := by
    rw [List.takeWhile_append_of_pos passes, List.takeWhile_cons_of_neg (by decide), List.append_nil]
  have behind : (name ++ '=' :: s).dropWhile (· != '=') = '=' :: s := by
    rw [List.dropWhile_append_of_pos passes, List.dropWhile_cons_of_neg (by decide)]
  have found : parameter? (' ' :: (name ++ '=' :: s)) = some ((Text.lower name, value), after) := by
    rw [parameter?, named, inFront, behind, List.tail_cons, read, Option.map_some]
  rw [parameters?, found]

/-- A text behind percent signs is read back. -/
theorem extended?_encode (s : Text) :
    extended? ("UTF-8''".toList ++ Percent.encode Percent.strictReserved s) = some s := by
  have front : "UTF-8''".toList = ['U', 'T', 'F', '-', '8', '\'', '\''] := by decide
  have charset : Text.lower ['U', 'T', 'F', '-', '8'] = "utf-8".toList := by decide
  rw [front]
  simp [extended?, charset, Percent.decode_encode, Percent.strictReserved, Utf8.decode_encode,
    Except.toOption]

theorem ne_of_mem_fallback {name : Text} {sign : Char} (other : sign ≠ '_') (absent : sign ∉ name) :
    ∀ c ∈ fallback name, c ≠ sign := by
  rintro c member rfl
  obtain ⟨d, inside, same⟩ := List.mem_map.mp member
  split at same
  · exact absent (same ▸ inside)
  · exact other same.symm

theorem fallback_of_plain {name : Text} (plain : name.all isPlain = true) : fallback name = name := by
  refine (List.map_congr_left fun c member => ?_).trans (List.map_id name)
  rw [if_pos (List.all_eq_true.mp plain c member)]
  rfl

/-- What stands behind the quoted name in a field. -/
def extendedPart (name : Text) : Text :=
  if name.all isPlain then []
  else "; filename*=UTF-8''".toList ++ Percent.encode Percent.strictReserved name

theorem write_eq (name : Text) :
    write name = "attachment; filename=\"".toList ++ fallback name ++ '"' :: extendedPart name := by
  unfold write extendedPart
  dsimp only
  split <;> simp

/-- The extended name is there exactly if the name is not all ASCII, and is read with its character
set in front. -/
theorem parameters?_extendedPart (name : Text) : parameters? (extendedPart name) =
    some (if name.all isPlain then []
      else [("filename*".toList,
        "UTF-8''".toList ++ Percent.encode Percent.strictReserved name)]) := by
  unfold extendedPart
  split
  · rw [parameters?]
  · have closed : ';' ∉ "UTF-8''".toList ++ Percent.encode Percent.strictReserved name := by
      rw [List.mem_append, not_or]
      refine ⟨by decide, fun member => ?_⟩
      rcases Percent.unreserved_of_mem_encode member with same | unreserved
      · exact absurd same (by decide)
      · exact absurd unreserved (by decide)
    have split : "; filename*=UTF-8''".toList =
        ';' :: ' ' :: ("filename*".toList ++ '=' :: "UTF-8''".toList) := by decide
    have small : Text.lower "filename*".toList = "filename*".toList := by decide
    rw [split, List.cons_append, List.cons_append, List.append_assoc, List.cons_append,
      parameters?_cons small (by decide) (by decide) (value?_of_bare (by simp) closed),
      parameters?]
    rfl

/-- The parameters of a field are those that were written. -/
theorem parameters?_write {name : Text} (unquoted : '"' ∉ name) (straight : '\\' ∉ name) :
    parameters? ((write name).dropWhile (· != ';')) =
      (parameters? (extendedPart name)).map (("filename".toList, fallback name) :: ·) := by
  have quoted : value? ('"' :: (fallback name ++ '"' :: extendedPart name)) =
      some (fallback name, extendedPart name) :=
    unquote?_of_plain (fun c member => ⟨ne_of_mem_fallback (by decide) unquoted c member,
      ne_of_mem_fallback (by decide) straight c member⟩) _
  have split : "attachment; filename=\"".toList =
      "attachment".toList ++ ';' :: ' ' :: ("filename".toList ++ ['=', '"']) := by decide
  have kind : ∀ c ∈ "attachment".toList, (c != ';') = true := by simp
  rw [write_eq, split, List.append_assoc, List.append_assoc, List.dropWhile_append_of_pos kind,
    List.cons_append, List.dropWhile_cons_of_neg (by decide), List.cons_append, List.append_assoc]
  exact parameters?_cons (by decide) (by decide) (by decide) quoted

/-- The name comes out of the field as it went in. -/
theorem savedName?_write {name : Text} (unquoted : '"' ∉ name) (straight : '\\' ∉ name) :
    savedName? (write name) = some name := by
  have other : ("filename*".toList == "filename".toList) = false := by decide
  rw [savedName?, parameters?_write unquoted straight, parameters?_extendedPart]
  cases plain : name.all isPlain with
  | true =>
    simp only [if_true, Option.map_some, Option.bind_eq_bind, Option.bind_some, List.lookup_cons,
      other, List.lookup_nil, beq_self_eq_true, fallback_of_plain plain]
  | false =>
    simp only [Bool.false_eq_true, if_false, Option.map_some, Option.bind_eq_bind, Option.bind_some,
      List.lookup_cons, other, beq_self_eq_true, extended?_encode]

end Disposition

namespace FileName

/-- What makes a name fit for a download. -/
structure Downloads (name : Text) : Prop where
  /-- It has no character that no file name may have. -/
  allowed : ∀ c ∈ name, c ∉ forbidden ∧ isControl c = false
  /-- There is no white space at its ends. -/
  trimmed : (∀ c ∈ name.head?, isBlank c = false) ∧ ∀ c ∈ name.getLast?, isBlank c = false
  /-- The end of names, in any case, stands behind something. -/
  ends : ∃ stem ending, name = stem ++ ending ∧ stem ≠ [] ∧ Text.lower ending = suffix
  /-- Who asks for it gets it, whatever the data asks for. -/
  kept : ∀ data, resolve (some name) data = name
  /-- Its field is printable ASCII. -/
  printable : ∀ c ∈ Disposition.write name, 0x20 ≤ c.toNat ∧ c.toNat ≤ 0x7E
  /-- The field quotes a name in which nothing needs a backslash. -/
  quoted : ∃ rest, Disposition.write name =
    "attachment; filename=\"".toList ++ Disposition.fallback name ++ '"' :: rest ∧
    '"' ∉ Disposition.fallback name ∧ '\\' ∉ Disposition.fallback name
  /-- The name is read from the field as it is. -/
  saved : Disposition.savedName? (Disposition.write name) = some name
  /-- Every document can be sent under it. -/
  sent : ∀ document, ∃ response, Service.documentResponse document name = .ok response ∧
    response.header? "content-disposition".toList = some (Disposition.write name)

theorem Proper.downloads {name : Text} (proper : Proper name) : Downloads name := by
  have absent {sign : Char} (listed : sign ∈ forbidden) : sign ∉ name :=
    fun member => (proper.allowed sign member).1 listed
  have unquoted : '"' ∉ name := absent (by decide)
  have straight : '\\' ∉ name := absent (by decide)
  have printable : ∀ c ∈ Disposition.write name, Disposition.IsPrintable c := fun c =>
    Disposition.isPrintable_of_mem_write fun d member => (proper.allowed d member).2
  exact {
    allowed := proper.allowed
    trimmed := proper.toSanitized.ends
    ends := proper.ends
    kept := proper.resolve_self
    printable
    quoted := ⟨_, Disposition.write_eq name,
      fun member => Disposition.ne_of_mem_fallback (by decide) unquoted _ member rfl,
      fun member => Disposition.ne_of_mem_fallback (by decide) straight _ member rfl⟩
    saved := Disposition.savedName?_write unquoted straight
    sent := fun document => by
      rw [Service.documentResponse, if_pos (Disposition.isFieldText_of_printable printable)]
      exact ⟨_, rfl, rfl⟩ }

/-- Every document gets a name that is fit for a download. -/
theorem downloads_resolve (asked : Option Text) (data : Value) : Downloads (resolve asked data) :=
  (proper_resolve asked data).downloads

end FileName

end WordMerge
