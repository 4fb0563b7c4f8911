import WordMerge.Archive.Checksum
import WordMerge.Archive.Deflate
import WordMerge.Archive.Entry

namespace WordMerge

namespace Archive

/-- Why entries cannot be written. -/
inductive WriteFault where
  /-- Two entries have one name. -/
  | duplicateName (name : Text)
  /-- A name, the data of an entry, or the archive is too large for the format. -/
  | tooLarge
  deriving DecidableEq, Repr

/-- The fault in words. -/
def WriteFault.message : WriteFault → Text
  | .duplicateName name => "Duplicate filename: ".toList ++ name
  | .tooLarge => "Archive is too large".toList

/-- An entry ready to be written. -/
structure Packed where
  /-- The bytes of the name. -/
  name : Bytes
  /-- Whether the name goes beyond ASCII. -/
  wide : Bool
  /-- The number of the packing method. -/
  method : Nat
  /-- The checksum of the data. -/
  checksum : Nat
  /-- The number of unpacked bytes. -/
  size : Nat
  /-- The packed data. -/
  data : Bytes

/-- Packs an entry. -/
def pack (entry : Entry) : Packed :=
  { name := Utf8.encode entry.name
    wide := entry.name.any fun c => 0x7F < c.toNat
    method := match entry.packing with
      | .stored => 0
      | .deflated => 8
    checksum := (Checksum.ofBytes entry.data).toNat
    size := entry.data.length
    data := match entry.packing with
      | .stored => entry.data
      | .deflated => Deflate.store entry.data }

/-- The version of the format that a reader has to know. -/
def formatVersion : Nat := 20

/-- The first day that the format can name, 1 January 1980. -/
def firstDay : Nat := 0x21

/-- The fields that the local header and the directory share. -/
def commonFields (packed : Packed) : Bytes :=
  littleEndian 2 formatVersion ++ littleEndian 2 (if packed.wide then Nat.pow 2 11 else 0)
    ++ littleEndian 2 packed.method ++ littleEndian 2 0 ++ littleEndian 2 firstDay
    ++ littleEndian 4 packed.checksum ++ littleEndian 4 packed.data.length
    ++ littleEndian 4 packed.size ++ littleEndian 2 packed.name.length ++ littleEndian 2 0

/-- An entry with its local header. -/
def localRecord (packed : Packed) : Bytes :=
  localMark ++ commonFields packed ++ packed.name ++ packed.data

/-- The entry of the directory for an entry at the given offset. -/
def centralRecord (packed : Packed) (offset : Nat) : Bytes :=
  centralMark ++ littleEndian 2 formatVersion ++ commonFields packed ++ littleEndian 2 0
    ++ littleEndian 2 0 ++ littleEndian 2 0 ++ littleEndian 4 0 ++ littleEndian 4 offset
    ++ packed.name

/-- The record at the end, for so many entries in a directory of the given size and offset. -/
def endRecord (count size offset : Nat) : Bytes :=
  endMark ++ littleEndian 2 0 ++ littleEndian 2 0 ++ littleEndian 2 count ++ littleEndian 2 count
    ++ littleEndian 4 size ++ littleEndian 4 offset ++ littleEndian 2 0

/-- The offsets at which records of the given lengths start. -/
def startOffsets (lengths : List Nat) : List Nat :=
  go 0 lengths
where
  /-- Goes on at an offset. -/
  go (offset : Nat) : List Nat → List Nat
    | [] => []
    | length :: rest => offset :: go (offset + length) rest

/-- The archive of some packed entries: each with a local header, then the directory, then the
record that tells where the directory is. -/
def assemble (entries : List Packed) : Bytes :=
  let records := entries.map localRecord
  let body := records.flatten
  let directory := (entries.zip (startOffsets (records.map List.length))).flatMap fun placed =>
    centralRecord placed.1 placed.2
  body ++ directory ++ endRecord entries.length directory.length body.length

/-- The first name that stands twice among some names. -/
def duplicate? : List Text → Option Text
  | [] => none
  | name :: rest => if name ∈ rest then some name else duplicate? rest

/-- The archive of some entries. -/
def write (entries : List Entry) : Except WriteFault Bytes :=
  match duplicate? (entries.map Entry.name) with
  | some name => .error (.duplicateName name)
  | none =>
    let packed := entries.map pack
    let archive := assemble packed
    if packed.all (fun p => p.name.length < Nat.pow 2 16) ∧ entries.length < Nat.pow 2 16 - 1
        ∧ archive.length < Nat.pow 2 32 - 1 then .ok archive
    else .error .tooLarge

end Archive

end WordMerge
