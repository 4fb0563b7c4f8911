import WordMerge.Json.Value
import WordMerge.Text.Utf8

namespace WordMerge

namespace Json

/-- The byte of an ASCII character. -/
def byte (c : Char) : UInt8 :=
  UInt8.ofNat c.toNat

/-- The bytes without the space, tab, line feed and carriage return at their front. -/
def skipBlank (s : Bytes) : Bytes :=
  s.dropWhile fun b => b == 0x20 || b == 0x09 || b == 0x0A || b == 0x0D

/-- Reads exactly the given ASCII word. -/
def word (w : Text) (s : Bytes) : Option Bytes :=
  (w.map byte).isPrefixOf? s

/-- Whether a byte is a decimal digit. -/
def isDigit (b : UInt8) : Bool :=
  byte '0' ≤ b && b ≤ byte '9'

/-- The value of a digit byte. -/
def digitValue (b : UInt8) : Nat :=
  b.toNat - '0'.toNat

/-- A number as it is written. -/
structure Numeral where
  /-- Whether a minus sign leads. -/
  negative : Bool
  /-- The digits before the point. -/
  whole : List Nat
  /-- The digits behind the point, if there is one. -/
  fraction : Option (List Nat)
  /-- The exponent, if there is one. -/
  exponent : Option Int

/-- Reads a row of digits, which may be empty. -/
def digits (s : Bytes) : List Nat × Bytes :=
  ((s.takeWhile isDigit).map digitValue, s.dropWhile isDigit)

/-- The number that a row of digits spells. -/
def spell (ds : List Nat) : Nat :=
  ds.foldl (fun n d => n * 10 + d) 0

/-- Reads the fraction behind a point: at least one digit. -/
def fraction (s : Bytes) : Option (Option (List Nat) × Bytes) :=
  match s with
  | b :: rest =>
    if b = byte '.' then
      let ds := digits rest
      if ds.1.isEmpty then none else some (some ds.1, ds.2)
    else some (none, s)
  | [] => some (none, s)

/-- Reads the exponent behind its letter: an optional sign and at least one digit. -/
def exponent (s : Bytes) : Option (Option Int × Bytes) :=
  match s with
  | b :: rest =>
    if b = byte 'e' ∨ b = byte 'E' then
      let sign : Int := if rest.head? = some (byte '-') then -1 else 1
      let unsigned :=
        if rest.head? = some (byte '-') ∨ rest.head? = some (byte '+') then rest.tail else rest
      let ds := digits unsigned
      if ds.1.isEmpty then none else some (some (sign * spell ds.1), ds.2)
    else some (none, s)
  | [] => some (none, s)

/-- Reads a number: a zero leads only if it is the whole part. -/
def numeral (s : Bytes) : Option (Numeral × Bytes) := do
  let negative := s.head? = some (byte '-')
  let ds := digits (if negative then s.tail else s)
  guard !ds.1.isEmpty
  guard !(ds.1.head? = some 0 && ds.1.length > 1)
  let (fraction, s) ← fraction ds.2
  let (exponent, s) ← exponent s
  return (⟨negative, ds.1, fraction, exponent⟩, s)

/-- Appends digits to a significand as long as it stays below `2 ^ 64`; gives the number of digits
appended and the number of those left out. -/
def append (significand : Nat) (ds : List Nat) : Nat × Nat × Nat :=
  go significand 0 ds
where
  /-- Goes on after `taken` digits. -/
  go (n taken : Nat) : List Nat → Nat × Nat × Nat
    | [] => (n, taken, 0)
    | d :: rest =>
      if n * 10 + d < Nat.pow 2 64 then go (n * 10 + d) (taken + 1) rest
      else (n, taken, rest.length + 1)

/-- The value of a number: a whole number if it is written as one and fits, otherwise the double
made of the first digits that fit 64 bits and of the power of ten. A number past the greatest
double has no value. -/
def Numeral.value? (n : Numeral) : Option Number :=
  let whole := append 0 n.whole
  let significand := whole.1
  let dropped := whole.2.2
  if dropped = 0 ∧ n.fraction.isNone ∧ n.exponent.isNone ∧
      (if n.negative then 0 < significand ∧ significand ≤ Nat.pow 2 63 else True) then
    some (.whole (if n.negative then -(significand : Int) else significand))
  else
    let all := append significand (n.fraction.getD [])
    let power : Int := (dropped : Int) - all.2.1 + n.exponent.getD 0
    (Double.ofScientific? all.1 power).map fun d =>
      .double (if n.negative then d.neg else d)

/-- Reads the four hexadecimal digits of an escape. -/
def hex4? : Bytes → Option (Nat × Bytes)
  | a :: b :: c :: d :: rest => do
    let ds ← [a, b, c, d].mapM fun x => digit? 16 (Char.ofNat x.toNat)
    return (ds.foldl (fun n x => n * 16 + x) 0, rest)
  | _ => none

/-- The character that a one letter escape stands for. -/
def shortEscape? (b : UInt8) : Option Char :=
  if b = byte '"' then some '"'
  else if b = byte '\\' then some '\\'
  else if b = byte '/' then some '/'
  else if b = byte 'b' then some '\x08'
  else if b = byte 'f' then some '\x0C'
  else if b = byte 'n' then some '\n'
  else if b = byte 'r' then some '\r'
  else if b = byte 't' then some '\t'
  else none

/-- Reads what follows a backslash and the letter u: a number outside the surrogates, or a leading
surrogate with its trailing one behind another backslash and u. -/
def unicodeEscape? (s : Bytes) : Option (Char × Bytes) :=
  match hex4? s with
  | none => none
  | some (n, s) =>
    if n < 0xD800 ∨ 0xDFFF < n then some (Char.ofNat n, s)
    else if 0xDBFF < n then none
    else
      match (word ['\\', 'u'] s).bind hex4? with
      | none => none
      | some (low, s) =>
        if 0xDC00 ≤ low ∧ low ≤ 0xDFFF then
          some (Char.ofNat ((n - 0xD800) * 1024 + (low - 0xDC00) + 0x10000), s)
        else none

theorem hex4?_length {s rest : Bytes} {n : Nat} (read : hex4? s = some (n, rest)) :
    rest.length < s.length := by
  unfold hex4? at read
  split at read
  · next a b c d tail =>
    cases h : [a, b, c, d].mapM (fun x => digit? 16 (Char.ofNat x.toNat)) with
    | none => simp [h] at read
    | some ds =>
      simp [h] at read
      simp [← read.2]
      omega
  · simp at read

theorem word_length {w : Text} {s rest : Bytes} (read : word w s = some rest) :
    rest.length + w.length = s.length := by
  have found : (w.map byte).isPrefixOf? s = some rest := read
  have whole := Text.append_eq_of_isPrefixOf? found
  simp [← whole]
  omega

theorem unicodeEscape?_length {s rest : Bytes} {c : Char}
    (read : unicodeEscape? s = some (c, rest)) : rest.length < s.length := by
  unfold unicodeEscape? at read
  split at read
  · simp at read
  · next n after first =>
    have short := hex4?_length first
    split at read
    · simp only [Option.some.injEq, Prod.mk.injEq] at read
      simpa only [← read.2] using short
    · split at read
      · simp at read
      · split at read
        · simp at read
        · next low final second =>
          obtain ⟨tail, marked, trailing⟩ := Option.bind_eq_some_iff.mp second
          have shorter := hex4?_length trailing
          have same := word_length marked
          split at read
          · simp only [Option.some.injEq, Prod.mk.injEq] at read
            simp only [← read.2]
            omega
          · simp at read

/-- Reads a string behind its opening quote. -/
def stringTail (s : Bytes) : Option (Text × Bytes) :=
  go [] s
where
  /-- Goes on after the bytes `done`, the last one first. -/
  go (done : Bytes) : Bytes → Option (Text × Bytes)
    | [] => none
    | b :: rest =>
      if b = byte '"' then
        match Utf8.decode done.reverse with
        | .ok text => some (text, rest)
        | .error _ => none
      else if b = byte '\\' then
        match rest with
        | [] => none
        | e :: rest =>
          if e = byte 'u' then
            match escaped : unicodeEscape? rest with
            | some (c, after) =>
              have := unicodeEscape?_length escaped
              go ((String.utf8EncodeChar c).reverse ++ done) after
            | none => none
          else
            match shortEscape? e with
            | some c => go ((String.utf8EncodeChar c).reverse ++ done) rest
            | none => none
      else if b < 0x20 then none
      else go (b :: done) rest
  termination_by s => s.length
  decreasing_by all_goals simp_all; try omega

/-- Skips a string behind its opening quote. -/
def skipString (s : Bytes) : Option Bytes :=
  match s with
  | [] => none
  | b :: rest =>
    if b = byte '"' then some rest
    else if b = byte '\\' then
      match rest with
      | [] => none
      | e :: rest =>
        if e = byte 'u' then
          match escaped : hex4? rest with
          | some (_, after) =>
            have := hex4?_length escaped
            skipString after
          | none => none
        else if (shortEscape? e).isSome then skipString rest
        else none
    else if b < 0x20 then none
    else skipString rest
termination_by s.length
decreasing_by all_goals simp_all; try omega

/-- Reads a member's key with its quotes, and the colon behind it. -/
def key (s : Bytes) : Option (Text × Bytes) := do
  let s ← word ['"'] (skipBlank s)
  let (k, s) ← stringTail s
  let s ← word [':'] (skipBlank s)
  return (k, s)

/-- The number of levels in which lists and objects may be nested. -/
def depthLimit : Nat := 127

/-- Reads the items of a list behind its opening bracket and its blanks, if it is not empty. -/
def items (value : Bytes → Option (Value × Bytes)) :
    Nat → List Value → Bytes → Option (List Value × Bytes)
  | 0, _, _ => none
  | fuel + 1, done, s =>
    match value s with
    | none => none
    | some (v, s) =>
      match skipBlank s with
      | [] => none
      | b :: rest =>
        if b = byte ',' then items value fuel (v :: done) rest
        else if b = byte ']' then some ((v :: done).reverse, rest)
        else none

/-- Reads the members of an object behind its opening brace, if it is not empty. -/
def members (value : Bytes → Option (Value × Bytes)) :
    Nat → List (Text × Value) → Bytes → Option (List (Text × Value) × Bytes)
  | 0, _, _ => none
  | fuel + 1, done, s =>
    match key s with
    | none => none
    | some (k, s) =>
      match value s with
      | none => none
      | some (v, s) =>
        match skipBlank s with
        | [] => none
        | b :: rest =>
          if b = byte ',' then members value fuel ((k, v) :: done) rest
          else if b = byte '\x7d' then some (((k, v) :: done).reverse, rest)
          else none

/-- Reads a value with the blanks before it, in which lists and objects are nested in at most
`depth` levels and none has more than `bound` parts. -/
def value (bound depth : Nat) (s : Bytes) : Option (Value × Bytes) :=
  let s := skipBlank s
  match s with
  | [] => none
  | b :: rest =>
    if b = byte 'n' then (word "null".toList s).map (.null, ·)
    else if b = byte 't' then (word "true".toList s).map (.bool true, ·)
    else if b = byte 'f' then (word "false".toList s).map (.bool false, ·)
    else if b = byte '"' then (stringTail rest).map fun r => (.string r.1, r.2)
    else if b = byte '-' ∨ isDigit b then
      (numeral s).bind fun r => r.1.value?.map (.number ·, r.2)
    else if b = byte '[' then
      match depth with
      | 0 => none
      | depth + 1 =>
        match word [']'] (skipBlank rest) with
        | some after => some (.list [], after)
        | none => (items (value bound depth) bound [] rest).map fun r => (.list r.1, r.2)
    else if b = byte '\x7b' then
      match depth with
      | 0 => none
      | depth + 1 =>
        match word ['\x7d'] (skipBlank rest) with
        | some after => some (.object [], after)
        | none =>
          (members (value bound depth) bound [] rest).map fun r =>
            (Value.ofMembers r.1, r.2)
    else none

/-- The value that the bytes spell, with nothing but blanks around it. -/
def read (s : Bytes) : Option Value := do
  let (v, rest) ← value s.length depthLimit s
  guard (skipBlank rest).isEmpty
  return v

/-- What stands around the place where a reader is. -/
inductive Frame where
  | list
  | object
  deriving DecidableEq

/-- The byte that ends a list or an object. -/
def Frame.closer : Frame → UInt8
  | .list => byte ']'
  | .object => byte '\x7d'

/-- Skips a value that is neither a list nor an object. -/
def skipScalar (s : Bytes) : Option Bytes :=
  match s with
  | [] => none
  | b :: rest =>
    if b = byte 'n' then word "null".toList s
    else if b = byte 't' then word "true".toList s
    else if b = byte 'f' then word "false".toList s
    else if b = byte '"' then skipString rest
    else if b = byte '-' ∨ isDigit b then (numeral s).map (·.2)
    else none

/-- Skips a key and its colon where the innermost frame is an object. -/
def skipKey (frame : Frame) (s : Bytes) : Option Bytes :=
  match frame with
  | .list => some s
  | .object => do
    let s ← word ['"'] (skipBlank s)
    let s ← skipString s
    word [':'] (skipBlank s)

/-- Where a skipping reader stands. -/
inductive Stand where
  /-- A value has to follow. -/
  | atValue
  /-- A value or the end of the innermost frame has to follow. -/
  | atOpening
  /-- A comma or the end of the innermost frame has to follow. -/
  | afterValue

/-- Skips a value by the grammar alone, however deep it is nested, in a text of at most `bound`
bytes: only its brackets, quotes and digits have to be right. -/
def skipValue (bound : Nat) (s : Bytes) : Option Bytes :=
  go (3 * bound + 3) .atValue [] s
where
  /-- Goes on inside the given frames, the innermost one first. Of three rounds at least one takes a
  byte. -/
  go : Nat → Stand → List Frame → Bytes → Option Bytes
    | 0, _, _, _ => none
    | fuel + 1, .atValue, frames, s =>
      let s := skipBlank s
      match s with
      | [] => none
      | b :: rest =>
        if b = byte '[' then go fuel .atOpening (.list :: frames) rest
        else if b = byte '\x7b' then go fuel .atOpening (.object :: frames) rest
        else
          match skipScalar s with
          | some s => go fuel .afterValue frames s
          | none => none
    | _ + 1, .atOpening, [], _ => none
    | fuel + 1, .atOpening, frame :: frames, s =>
      let s := skipBlank s
      if s.head? = some frame.closer then go fuel .afterValue frames s.tail
      else
        match skipKey frame s with
        | some s => go fuel .atValue (frame :: frames) s
        | none => none
    | _ + 1, .afterValue, [], s => some s
    | fuel + 1, .afterValue, frame :: frames, s =>
      match skipBlank s with
      | [] => none
      | b :: rest =>
        if b = frame.closer then go fuel .afterValue frames rest
        else if b = byte ',' then
          match skipKey frame rest with
          | some s => go fuel .atValue (frame :: frames) s
          | none => none
        else none

end Json

end WordMerge
