import WordMerge.Archive.CodePage
import WordMerge.Archive.Extra

namespace WordMerge

namespace Archive

/-- Where a directory is and how many entries it has. -/
structure Place where
  /-- The number of bytes in front of the archive. -/
  shift : Nat
  /-- The offset of the directory. -/
  start : Nat
  /-- The number of entries. -/
  count : Nat
  deriving DecidableEq, Repr

/-- The place that a wide record gives, found through the locator in front of the end record. -/
def widePlace? (bytes : Bytes) (endOffset : Nat) (locator : Bytes) : Option Place :=
  let locatorOffset := endOffset - 20
  let base := field locator 8 8
  let disk := field locator 4 4
  if locatorOffset ≤ base ∨ 1 < field locator 16 4 then none
  else do
    let found := (offsets wideEndMark bytes base locatorOffset).findSome? fun offset => do
      let record ← record? wideEndMark 56 bytes offset
      let length := field record 4 8
      guard (field record 20 4 = disk ∧ 44 ≤ length ∧ length + 12 = locatorOffset - offset)
      guard (field record 32 8 * 46 + field record 48 8 ≤ offset)
      return (offset, record)
    let (offset, record) ← found
    let files := field record 32 8
    guard (field record 24 8 ≤ files ∧ field record 14 2 ≤ field record 12 2)
    guard (field record 16 4 = field record 20 4)
    return ⟨offset - base, field record 48 8 + (offset - base), files⟩

/-- The place that an end record without a wide one gives. In an archive that is not empty, the
first directory entry at or behind the recorded offset is the start of the directory. -/
def narrowPlace? (bytes : Bytes) (endOffset : Nat) (record : Bytes) : Option Place :=
  let start := field record 16 4
  let here := field record 8 2
  if field record 10 2 = 0 then some ⟨endOffset - start, start + (endOffset - start), here⟩
  else if endOffset ≤ start then none
  else
    (offsets centralMark bytes start endOffset).head?.map fun found => ⟨found - start, found, here⟩

/-- The place that the end record at an offset gives. Its comment has to fit; archives on several
disks are refused. -/
def place? (bytes : Bytes) (endOffset : Nat) : Option Place := do
  let record ← record? endMark 22 bytes endOffset
  let _comment ← slice? bytes (endOffset + 22) (field record 20 2)
  let locator :=
    if (field record 10 2 = fullShort ∨ field record 16 4 = fullLong) ∧ 20 ≤ endOffset then
      record? locatorMark 20 bytes (endOffset - 20)
    else none
  match locator with
  | some locator => widePlace? bytes endOffset locator
  | none =>
    guard (field record 4 2 = field record 6 2)
    narrowPlace? bytes endOffset record

/-- The entry of the directory at the front of some bytes, and the bytes behind it. Offsets are
shifted by the bytes in front of the archive. -/
def header? (shift : Nat) (bytes : Bytes) : Option (Header × Bytes) := do
  let record ← record? centralMark 46 bytes 0
  let nameLength := field record 28 2
  let extraLength := field record 30 2
  let commentLength := field record 32 2
  let rawName ← slice? bytes 46 nameLength
  let extra ← slice? bytes (46 + nameLength) extraLength
  let comment ← slice? bytes (46 + nameLength + extraLength) commentLength
  let flags := field record 8 2
  let text := fun raw => if flags.testBit 11 then Utf8.decodeLossy raw else CodePage.decode raw
  let plain : Header :=
    { name := text rawName
      rawName
      comment := text comment
      encrypted := flags.testBit 0
      strong := false
      method := field record 10 2
      checksum := field record 16 4
      packedSize := field record 20 4
      size := field record 24 4
      offset := field record 42 4 }
  let header ← Extra.read? plain extra
  guard (header.method ≠ strongMethod ∨ header.strong)
  return ({ header with offset := header.offset + shift },
    bytes.drop (46 + nameLength + extraLength + commentLength))

/-- The offset of an entry's data. A local header in front of it repeats the name, with extra fields
of its own. -/
def dataStart? (bytes : Bytes) (header : Header) : Option Nat :=
  (record? localMark 30 bytes header.offset).map fun record =>
    header.offset + 30 + field record 26 2 + field record 28 2

/-- Whether an entry is in front of the directory, at least up to where its data starts. -/
def isBefore (bytes : Bytes) (start : Nat) (header : Header) : Bool :=
  header.offset < start && (dataStart? bytes header).any (· ≤ start)

/-- The entries of the directory at a place. -/
def headers? (bytes : Bytes) (place : Place) : Option (List Header) :=
  go [] place.count (bytes.drop place.start)
where
  /-- Goes on after the entries `done`, the last one first. -/
  go (done : List Header) : Nat → Bytes → Option (List Header)
    | 0, _ => some done.reverse
    | count + 1, rest =>
      match (header? place.shift rest).filter fun found => isBefore bytes place.start found.1 with
      | none => none
      | some (header, rest) => go (header :: done) count rest

/-- Puts a header behind the others, or in the place of the one with its name. -/
def insertHeader (headers : List Header) (header : Header) : List Header :=
  if headers.any (·.name == header.name) then
    headers.map fun h => if h.name = header.name then header else h
  else headers ++ [header]

/-- The directory of an archive. Every record that looks like the end of the archive is tried, the
last one first, until one leads to a directory that can be read and whose entries are in front of
it; bytes in front of the archive shift all offsets. Of entries with one name the last counts, in
the place of the first. -/
def directory? (bytes : Bytes) : Option (List Header) := do
  let headers ← (offsets endMark bytes 0 bytes.length).reverse.findSome? fun endOffset =>
    (place? bytes endOffset).bind (headers? bytes)
  return headers.foldl insertHeader []

end Archive

end WordMerge
