import WordMerge.Markup.PlainText
import WordMerge.Package.Basic
import WordMerge.Render.Part

namespace WordMerge

namespace Package

/-- The results for the parts so far. -/
structure Batch where
  /-- The rendered parts, the last one first. -/
  rendered : List (Text × Text) := []
  /-- The faults in order. -/
  errors : List TagError := []

/-- Renders some parts of a package one after the other. It stops at a part that is no text. -/
def renderParts (package : Package) (data : Value) (options : RenderOptions) (batch : Batch) :
    List Text → Except PackageFault Batch
  | [] => .ok batch
  | name :: rest =>
    match package.text name with
    | .error fault => .error fault
    | .ok source =>
      match renderPart source data options with
      | .ok xml =>
        package.renderParts data options
          { batch with rendered := (name, xml) :: batch.rendered } rest
      | .error faults =>
        package.renderParts data options
          { batch with errors := batch.errors ++ faults.map (TagError.mk name) } rest

/-- Renders a package with data. Every part with tags is rendered from its own text; if anything is
wrong with any of them, nothing is written and all faults are told. -/
def render (package : Package) (data : Value) (options : RenderOptions) :
    Except EngineError Package :=
  match package.renderParts data options {} package.templatedParts with
  | .error fault => .error (.package fault)
  | .ok batch =>
    if batch.errors.isEmpty then
      .ok (batch.rendered.reverse.foldl
        (fun package part => package.insert part.1 (Utf8.encode part.2)) package)
    else .error (.template batch.errors)

/-- Opens a package that is kept in the given format, with the error of an engine. -/
def openTemplateIn (format : ArchiveFormat) (bytes : Bytes) : Except EngineError Package :=
  match openIn format bytes with
  | .ok package => .ok package
  | .error fault => .error (.package fault)

/-- Opens a package, with the error of an engine. -/
def openTemplate (bytes : Bytes) : Except EngineError Package :=
  openTemplateIn .zip bytes

/-- The bytes of a package in the given format, with the error of an engine. -/
def saveDocumentIn (format : ArchiveFormat) (package : Package) : Except EngineError Bytes :=
  match package.saveIn format with
  | .ok bytes => .ok bytes
  | .error fault => .error (.serialize fault.message)

/-- The bytes of a package, with the error of an engine. -/
def saveDocument (package : Package) : Except EngineError Bytes :=
  package.saveDocumentIn .zip

end Package

/-- Fills the template in some bytes with data and gives the bytes of the document, both kept in the
given format. -/
def renderDocumentIn (format : ArchiveFormat) (template : Bytes) (data : Value)
    (options : RenderOptions) : Except EngineError Bytes :=
  match Package.openTemplateIn format template with
  | .error error => .error error
  | .ok package =>
    match package.render data options with
    | .error error => .error error
    | .ok document => document.saveDocumentIn format

/-- Fills the template in some bytes with data and gives the bytes of the document. -/
def renderDocument (template : Bytes) (data : Value) (options : RenderOptions) :
    Except EngineError Bytes :=
  renderDocumentIn .zip template data options

/-- The text of the main document in some bytes, which are kept in the given format. -/
def extractTextIn (format : ArchiveFormat) (bytes : Bytes) : Except EngineError Text :=
  match Package.openTemplateIn format bytes with
  | .error error => .error error
  | .ok package =>
    match package.text mainPart with
    | .error fault => .error (.package fault)
    | .ok source => .ok (PlainText.ofPart source)

/-- The text of the main document in some bytes. -/
def extractText (bytes : Bytes) : Except EngineError Text :=
  extractTextIn .zip bytes

end WordMerge
