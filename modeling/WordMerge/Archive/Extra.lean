import WordMerge.Archive.Checksum
import WordMerge.Archive.Entry

namespace WordMerge

namespace Archive

/-- The greatest number of two bytes, which stands for a number kept elsewhere. -/
def fullShort : Nat := 0xFFFF
/-- The greatest number of four bytes, which stands for a number kept elsewhere. -/
def fullLong : Nat := 0xFFFFFFFF

/-- The number in the place of the method in entries with strong encryption. -/
def strongMethod : Nat := 99

/-- An entry as the directory describes it. -/
structure Header where
  /-- The name. -/
  name : Text
  /-- The bytes of the name. -/
  rawName : Bytes
  /-- The comment. -/
  comment : Text
  /-- Whether the data is encrypted. -/
  encrypted : Bool
  /-- Whether a field tells of strong encryption. -/
  strong : Bool
  /-- The number of the packing method. -/
  method : Nat
  /-- The checksum of the unpacked data. -/
  checksum : Nat
  /-- The number of packed bytes. -/
  packedSize : Nat
  /-- The number of unpacked bytes. -/
  size : Nat
  /-- The offset of the entry in the archive. -/
  offset : Nat
  deriving DecidableEq, Repr

namespace Extra

/-- How the extra fields end before their bytes do. -/
inductive Ending where
  /-- The bytes break off; the header is as it was then. -/
  | brokenOff (header : Header)
  /-- A field has a wrong content. -/
  | wrong
  deriving DecidableEq, Repr

/-- The header behind a field with the bytes that are left. -/
abbrev Step := Except Ending (Header × Bytes)

/-- Takes a number of so many bytes. -/
def takeNumber (header : Header) (width : Nat) (bytes : Bytes) : Except Ending (Nat × Bytes) :=
  match slice? bytes 0 width with
  | some found => .ok (number found, bytes.drop width)
  | none => .error (.brokenOff header)

/-- Takes so many bytes. -/
def takeBytes (header : Header) (length : Nat) (bytes : Bytes) : Except Ending (Bytes × Bytes) :=
  match slice? bytes 0 length with
  | some found => .ok (found, bytes.drop length)
  | none => .error (.brokenOff header)

/-- Passes over so many bytes. -/
def skip (header : Header) (length : Nat) (bytes : Bytes) : Step := do
  let (_, rest) ← takeBytes header length bytes
  return (header, rest)

/-- Goes on unless something is wrong. -/
def check (fine : Bool) : Except Ending Unit :=
  if fine then .ok () else .error .wrong

/-- Takes a number of eight bytes for the header if it is wanted. -/
def widen (wanted : Bool) (put : Nat → Header) (header : Header) (bytes : Bytes) : Step :=
  if wanted then do
    let (n, rest) ← takeNumber header 8 bytes
    return (put n, rest)
  else return (header, bytes)

/-- The field of wide numbers: those that did not fit the header, or all three. -/
def wideField (header : Header) (length : Nat) (bytes : Bytes) : Step := do
  let wanted := fun n => 24 ≤ length || n == fullLong
  let (header, rest) ←
    widen (wanted header.size) (fun n => { header with size := n }) header bytes
  let (header, rest) ←
    widen (wanted header.packedSize) (fun n => { header with packedSize := n }) header rest
  let (header, rest) ←
    widen (wanted header.offset) (fun n => { header with offset := n }) header rest
  let taken := bytes.length - rest.length
  check (taken ≤ length)
  skip header (length - taken) rest

/-- The field of fine times: a tag and three times of eight bytes. -/
def fineTimes (header : Header) (length : Nat) (bytes : Bytes) : Step := do
  check (length == 32)
  let (_, rest) ← takeNumber header 4 bytes
  let (tag, rest) ← takeNumber header 2 rest
  check (tag == 1)
  let (size, rest) ← takeNumber header 2 rest
  check (size == 24)
  skip header 24 rest

/-- The field of up to three times of four bytes; a flag tells of each whether it is there. A field
with room for one time has one, whatever the flags say. -/
def times (header : Header) (length : Nat) (bytes : Bytes) : Step := do
  let (flags, rest) ← takeNumber header 1 bytes
  let ones := (List.range 8).countP flags.testBit
  check ((length == 5 || length == 1 + 4 * ones) && flags < 8)
  skip header (if length = 5 then 4 else 4 * ones) rest

/-- The content of a Unicode field, which carries the checksum of what it replaces. -/
def unicode (header : Header) (replaced : Bytes) (length : Nat) (bytes : Bytes) :
    Except Ending (Text × Bytes) := do
  let (_, rest) ← takeNumber header 1 bytes
  let (checksum, rest) ← takeNumber header 4 rest
  check (5 ≤ length)
  let (content, rest) ← takeBytes header (length - 5) rest
  check (checksum == (Checksum.ofBytes replaced).toNat)
  match Utf8.decode content with
  | .ok text => return (text, rest)
  | .error _ => .error .wrong

/-- The field of strong encryption: version, maker, strength, and the method of packing. -/
def encryption (header : Header) (length : Nat) (bytes : Bytes) : Step := do
  check (length == 7)
  let (version, rest) ← takeNumber header 2 bytes
  let (maker, rest) ← takeNumber header 2 rest
  let (strength, rest) ← takeNumber header 1 rest
  let (method, rest) ← takeNumber header 2 rest
  check (maker == 0x4541 && (version == 1 || version == 2) && 1 ≤ strength && strength ≤ 3)
  return ({ header with strong := true, method }, rest)

/-- Reads the content of a field of the given kind and length. -/
def content (header : Header) (kind length : Nat) (bytes : Bytes) : Step :=
  if kind = 0x0001 then wideField header length bytes
  else if kind = 0x000A then fineTimes header length bytes
  else if kind = 0x9901 then encryption header length bytes
  else if kind = 0x5455 then times header length bytes
  else if kind = 0x6375 then do
    let (comment, rest) ← unicode header (Utf8.encode header.comment) length bytes
    return ({ header with comment }, rest)
  else if kind = 0x7075 then do
    let (name, rest) ← unicode header header.rawName length bytes
    return ({ header with name, rawName := Utf8.encode name }, rest)
  else skip header length bytes

/-- Reads one field. -/
def one (header : Header) (bytes : Bytes) : Step := do
  let (kind, rest) ← takeNumber header 2 bytes
  let (length, rest) ← takeNumber header 2 rest
  content header kind length rest

/-- Reads at most `bound` fields. -/
def upTo? : (bound : Nat) → Header → Bytes → Option Header
  | 0, header, _ => some header
  | bound + 1, header, bytes =>
    if bytes.isEmpty then some header
    else
      match one header bytes with
      | .ok (header, rest) => upTo? bound header rest
      | .error (.brokenOff header) => some header
      | .error .wrong => none

/-- The header with its extra fields taken into account: numbers of eight bytes, names in UTF-8, how
the data is encrypted. If the bytes break off within a field, what was read before counts; a field
with a wrong content spoils the directory. -/
def read? (header : Header) (bytes : Bytes) : Option Header :=
  upTo? bytes.length header bytes

end Extra

end Archive

end WordMerge
