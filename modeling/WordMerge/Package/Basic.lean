import WordMerge.Archive.Reading
import WordMerge.Archive.Writing
import WordMerge.Template.Fault

namespace WordMerge

/-- The part that every package has. -/
def mainPart : Text :=
  "word/document.xml".toList

/-- A part of a package. -/
structure Part where
  /-- The name with its path. -/
  name : Text
  /-- The content. -/
  data : Bytes
  /-- How the content is kept in the archive. -/
  packing : Packing
  deriving DecidableEq, Repr

/-- What a package holds: parts, and directories without content. -/
inductive PackageEntry where
  | directory (name : Text)
  | part (part : Part)
  deriving DecidableEq, Repr

/-- The part that an entry is. -/
def PackageEntry.part? : PackageEntry → Option Part
  | .directory _ => none
  | .part p => some p

/-- Why a package cannot be used. -/
inductive PackageFault where
  /-- The bytes are no archive that can be read. -/
  | notArchive
  /-- The data of an archive entry is damaged. -/
  | damaged (name : Text)
  /-- There is no main document. -/
  | noMainPart
  /-- There is no part of the given name. -/
  | noPart (name : Text)
  /-- A part that has to be text is not UTF-8. -/
  | notText (name : Text) (fault : Utf8.Fault)
  deriving DecidableEq, Repr

/-- The fault in words. -/
def PackageFault.message : PackageFault → Text
  | .notArchive => "Not a readable archive".toList
  | .damaged name => "Failed to read '".toList ++ name ++ "': damaged data".toList
  | .noMainPart => "Missing main document part '".toList ++ mainPart ++ "'".toList
  | .noPart name => "Missing part '".toList ++ name ++ "'".toList
  | .notText name fault =>
    "Part '".toList ++ name ++ "' is not valid UTF-8: ".toList ++ fault.message.toList

/-- A fault of a tag in a part of a package. -/
structure TagError where
  /-- The part. -/
  part : Text
  /-- What is wrong. -/
  fault : TagFault
  deriving DecidableEq, Repr

/-- Why a document cannot be made. -/
inductive EngineError where
  /-- The template is no usable package. -/
  | package (fault : PackageFault)
  /-- Tags of the template are at fault; all of them are listed. -/
  | template (errors : List TagError)
  /-- The document cannot be written. -/
  | serialize (reason : Text)
  deriving DecidableEq, Repr

namespace EngineError

/-- The number of faulty tags in words. -/
def tagCountMessage (count : Nat) : Text :=
  "Template has ".toList ++ Text.ofNat count ++ " unresolved or invalid tag(s)".toList

/-- The error in words. -/
def message : EngineError → Text
  | .package fault => "Invalid archive: ".toList ++ fault.message
  | .template errors => tagCountMessage errors.length
  | .serialize reason => "Failed to write document package: ".toList ++ reason

end EngineError

/-- A format of archives. -/
structure ArchiveFormat where
  /-- Writes entries. -/
  write : List Archive.Entry → Except Archive.WriteFault Bytes
  /-- Reads entries. -/
  read : Bytes → Except Archive.ReadFault (List Archive.Entry)

/-- The format of this library. -/
def ArchiveFormat.zip : ArchiveFormat where
  write := Archive.write
  read := Archive.read

/-- A Word package: an archive of XML parts, one of which is the main document. -/
structure Package where
  /-- The entries in the order of the archive. -/
  entries : List PackageEntry
  deriving DecidableEq, Repr

namespace Package

/-- The parts in the order of the archive. -/
def parts (package : Package) : List Part :=
  package.entries.filterMap PackageEntry.part?

/-- The names of the parts in the order of the archive. -/
def partNames (package : Package) : List Text :=
  package.parts.map Part.name

/-- The content of a part. -/
def part? (package : Package) (name : Text) : Option Bytes :=
  (package.parts.find? (·.name == name)).map Part.data

/-- Whether there is a part of the given name. -/
def contains (package : Package) (name : Text) : Bool :=
  package.parts.any (·.name == name)

/-- The text of a part. -/
def text (package : Package) (name : Text) : Except PackageFault Text :=
  match package.part? name with
  | none => .error (.noPart name)
  | some data =>
    match Utf8.decode data with
    | .ok text => .ok text
    | .error fault => .error (.notText name fault)

/-- Puts content into the first part of the given name. -/
def replace (name : Text) (data : Bytes) : List PackageEntry → List PackageEntry
  | [] => []
  | .directory d :: rest => .directory d :: replace name data rest
  | .part p :: rest =>
    if p.name = name then .part { p with data := data } :: rest
    else .part p :: replace name data rest

/-- Puts in a part: in the place of the part of its name, or behind all entries. -/
def insert (package : Package) (name : Text) (data : Bytes) : Package :=
  if package.contains name then ⟨replace name data package.entries⟩
  else ⟨package.entries ++ [.part ⟨name, data, .deflated⟩]⟩

/-- Whether the engine fills in a part: the main document, the notes, headers and footers. -/
def isTemplated (name : Text) : Bool :=
  match "word/".toList.isPrefixOf? name with
  | none => false
  | some file =>
    !file.contains '/' && ".xml".toList.isSuffixOf file &&
      (file == "document.xml".toList || file == "footnotes.xml".toList
        || file == "endnotes.xml".toList || "header".toList.isPrefixOf file
        || "footer".toList.isPrefixOf file)

/-- The names of the parts that are filled in: the main document first, then the others in the
order of the archive. -/
def templatedParts (package : Package) : List Text :=
  let names := package.partNames.filter isTemplated
  names.filter (· == mainPart) ++ names.filter (· != mainPart)

/-- The XML declaration with the line feed behind it. -/
def declaration : Text :=
  "<?xml version=\"1.0\" encoding=\"UTF-8\" standalone=\"yes\"?>\n".toList

/-- The part that tells the types of the other parts. -/
def contentTypes : Text :=
  declaration ++ ("<Types xmlns=\"http://schemas.openxmlformats.org/package/2006/content-types\">"
    ++ "<Default Extension=\"rels\" "
    ++ "ContentType=\"application/vnd.openxmlformats-package.relationships+xml\"/>"
    ++ "<Default Extension=\"xml\" ContentType=\"application/xml\"/>"
    ++ "<Override PartName=\"/word/document.xml\" ContentType=\""
    ++ "application/vnd.openxmlformats-officedocument.wordprocessingml.document.main+xml\"/>"
    ++ "</Types>").toList

/-- The part that tells which part is the main document. -/
def relationships : Text :=
  declaration
    ++ ("<Relationships xmlns=\"http://schemas.openxmlformats.org/package/2006/relationships\">"
    ++ "<Relationship Id=\"rId1\" Type=\""
    ++ "http://schemas.openxmlformats.org/officeDocument/2006/relationships/officeDocument\" "
    ++ "Target=\"word/document.xml\"/></Relationships>").toList

/-- A main document with the given body. -/
def documentWith (body : Text) : Text :=
  declaration
    ++ ("<w:document xmlns:w=\"http://schemas.openxmlformats.org/wordprocessingml/2006/main\">"
    ++ "<w:body>").toList ++ body ++ "</w:body></w:document>".toList

/-- The smallest package with the given body. -/
def withBody (body : Text) : Package :=
  (((Package.mk []).insert "[Content_Types].xml".toList (Utf8.encode contentTypes)).insert
    "_rels/.rels".toList (Utf8.encode relationships)).insert mainPart
    (Utf8.encode (documentWith body))

/-- The entry of a package for an entry of an archive. -/
def entryOf (entry : Archive.Entry) : PackageEntry :=
  if entry.isDirectory then .directory entry.name
  else .part ⟨entry.name, entry.data, entry.packing⟩

/-- Opens a package that is kept in the given format. It has to hold a main document. -/
def openIn (format : ArchiveFormat) (bytes : Bytes) : Except PackageFault Package :=
  match format.read bytes with
  | .error .notArchive => .error .notArchive
  | .error (.damaged name) => .error (.damaged name)
  | .ok entries =>
    let package : Package := ⟨entries.map entryOf⟩
    if package.contains mainPart then .ok package else .error .noMainPart

/-- Opens a package. -/
def openBytes (bytes : Bytes) : Except PackageFault Package :=
  openIn .zip bytes

/-- The entry of an archive for an entry of a package. -/
def archived : PackageEntry → Archive.Entry
  | .directory name => ⟨name, [], .stored⟩
  | .part p => ⟨p.name, p.data, p.packing⟩

/-- The bytes of a package in the given format. -/
def saveIn (format : ArchiveFormat) (package : Package) : Except Archive.WriteFault Bytes :=
  format.write (package.entries.map archived)

/-- The bytes of a package. -/
def save (package : Package) : Except Archive.WriteFault Bytes :=
  package.saveIn .zip

end Package

end WordMerge
