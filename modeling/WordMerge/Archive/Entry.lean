import WordMerge.Text.Utf8

namespace WordMerge

/-- How the data of an entry is kept. -/
inductive Packing where
  /-- As it is. -/
  | stored
  /-- In the deflate format. -/
  | deflated
  deriving DecidableEq, Repr

namespace Archive

/-- Whether a name is that of a directory. -/
def isDirectoryName (name : Text) : Bool :=
  name.getLast? == some '/' || name.getLast? == some '\\'

/-- An entry of an archive. -/
structure Entry where
  /-- The name with its path. -/
  name : Text
  /-- The data, unpacked. -/
  data : Bytes
  /-- How the data is kept. -/
  packing : Packing
  deriving DecidableEq, Repr

/-- Whether an entry is a directory. -/
def Entry.isDirectory (entry : Entry) : Bool :=
  isDirectoryName entry.name

/-- A number in so many bytes, the low byte first. -/
def littleEndian : (width : Nat) → Nat → Bytes
  | 0, _ => []
  | width + 1, n => UInt8.ofNat (n % 256) :: littleEndian width (n / 256)

/-- The number that some bytes stand for, the low byte first. -/
def number (bytes : Bytes) : Nat :=
  bytes.foldr (fun b n => b.toNat + 256 * n) 0

/-- So many bytes from an offset on; nothing if there are not so many. -/
def slice? (bytes : Bytes) (offset length : Nat) : Option Bytes :=
  let found := (bytes.drop offset).take length
  if found.length = length then some found else none

/-- The number in a field of a record. -/
def field (record : Bytes) (offset width : Nat) : Nat :=
  number ((record.drop offset).take width)

/-- The marks at the front of the records. -/
def localMark : Bytes := [0x50, 0x4B, 0x03, 0x04]
/-- The mark of an entry of the directory. -/
def centralMark : Bytes := [0x50, 0x4B, 0x01, 0x02]
/-- The mark of the record at the end. -/
def endMark : Bytes := [0x50, 0x4B, 0x05, 0x06]
/-- The mark of the wide record at the end. -/
def wideEndMark : Bytes := [0x50, 0x4B, 0x06, 0x06]
/-- The mark of the record that tells where the wide record is. -/
def locatorMark : Bytes := [0x50, 0x4B, 0x06, 0x07]

/-- A record of the given length at an offset, if it is there with its mark. -/
def record? (mark : Bytes) (length : Nat) (bytes : Bytes) (offset : Nat) : Option Bytes :=
  (slice? bytes offset length).filter fun found => mark.isPrefixOf found

/-- The offsets in a range at which a mark begins and ends, in order. -/
def offsets (mark : Bytes) (bytes : Bytes) (low high : Nat) : List Nat :=
  go low [] (bytes.drop low)
where
  /-- Goes on at an offset after the ones `found`, the last one first. -/
  go (offset : Nat) (found : List Nat) : Bytes → List Nat
    | [] => found.reverse
    | b :: rest =>
      if high < offset + mark.length then found.reverse
      else
        go (offset + 1) (if mark.isPrefixOf (b :: rest) then offset :: found else found) rest

end Archive

end WordMerge
