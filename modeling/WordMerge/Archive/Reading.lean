import WordMerge.Archive.Deflate
import WordMerge.Archive.Directory

namespace WordMerge

namespace Archive

/-- Why an archive cannot be read. -/
inductive ReadFault where
  /-- The bytes are no archive, or an entry is kept in a way that is not known. -/
  | notArchive
  /-- The data of an entry is damaged. -/
  | damaged (name : Text)
  deriving DecidableEq, Repr

/-- The packed data of an entry. An archive that breaks off has less data than the directory says. -/
def packed? (bytes : Bytes) (header : Header) : Option Bytes :=
  (dataStart? bytes header).map fun start => (bytes.drop start).take header.packedSize

/-- The way of packing with the given number. -/
def packingOf? (method : Nat) : Option Packing :=
  if method = 0 then some .stored
  else if method = 8 then some .deflated
  else none

/-- Unpacks data. -/
def unpack? (packing : Packing) (packed : Bytes) : Option Bytes :=
  match packing with
  | .stored => some packed
  | .deflated => Deflate.inflate? packed

/-- Reads one entry. -/
def readEntry (bytes : Bytes) (header : Header) : Except ReadFault Entry :=
  if header.encrypted || header.strong then .error .notArchive
  else
    match packed? bytes header, packingOf? header.method with
    | some packed, some packing =>
      match unpack? packing packed with
      | none => .error (.damaged header.name)
      | some data =>
        if (Checksum.ofBytes data).toNat = header.checksum then .ok ⟨header.name, data, packing⟩
        else .error (.damaged header.name)
    | _, _ => .error .notArchive

/-- Reads an archive: every entry of the directory with its data, unpacked and checked. -/
def read (bytes : Bytes) : Except ReadFault (List Entry) :=
  match directory? bytes with
  | none => .error .notArchive
  | some headers => headers.mapM (readEntry bytes)

end Archive

end WordMerge
