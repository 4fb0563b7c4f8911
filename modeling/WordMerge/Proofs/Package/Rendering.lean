import WordMerge.Proofs.Package.Parts

namespace WordMerge

/-- A part is never refused without a fault. -/
theorem ne_nil_of_renderPart {source : Text} {data : Value} {options : RenderOptions}
    {faults : List TagFault} (refused : renderPart source data options = .error faults) :
    faults ≠ [] := by
  unfold renderPart at refused
  dsimp only at refused
  split at refused
  · exact absurd refused (by nofun)
  · next some =>
    rw [← Except.error.inj refused]
    exact fun none => some (List.isEmpty_iff.mpr none)

namespace Package

variable (package : Package) (data : Value) (options : RenderOptions)

/-- A part is text. -/
def IsText (name : Text) : Prop :=
  ∃ source, package.text name = .ok source

/-- What is wrong with the tags of a part. -/
def tagErrors (name : Text) : List TagError :=
  match package.text name with
  | .error _ => []
  | .ok source =>
    match renderPart source data options with
    | .ok _ => []
    | .error faults => faults.map (TagError.mk name)

/-- A part with what is made of it, if nothing is wrong with it. -/
def rendered? (name : Text) : Option (Text × Text) :=
  match package.text name with
  | .error _ => none
  | .ok source =>
    match renderPart source data options with
    | .ok xml => some (name, xml)
    | .error _ => none

variable {package data options}

section

variable {name source : Text} (text : package.text name = .ok source)
include text

theorem rendered?_of_ok {xml : Text} (made : renderPart source data options = .ok xml) :
    package.rendered? data options name = some (name, xml) := by
  rw [rendered?, text]
  simp only [made]

theorem tagErrors_of_ok {xml : Text} (made : renderPart source data options = .ok xml) :
    package.tagErrors data options name = [] := by
  rw [tagErrors, text]
  simp only [made]

theorem rendered?_of_error {faults : List TagFault}
    (refused : renderPart source data options = .error faults) :
    package.rendered? data options name = none := by
  rw [rendered?, text]
  simp only [refused]

theorem tagErrors_of_error {faults : List TagFault}
    (refused : renderPart source data options = .error faults) :
    package.tagErrors data options name = faults.map (TagError.mk name) := by
  rw [tagErrors, text]
  simp only [refused]

end

/-- Parts that are text are rendered one after the other; what is made of them and what is wrong
with them is collected. -/
theorem renderParts_append {before : List Text} (texts : ∀ name ∈ before, package.IsText name)
    (batch : Batch) (rest : List Text) :
    package.renderParts data options batch (before ++ rest)
      = package.renderParts data options
        ⟨(before.filterMap (package.rendered? data options)).reverse ++ batch.rendered,
          batch.errors ++ before.flatMap (package.tagErrors data options)⟩ rest := by
  induction before generalizing batch with
  | nil => simp
  | cons name before ih =>
    obtain ⟨source, text⟩ := texts name List.mem_cons_self
    have others := @ih fun other member => texts other (List.mem_cons_of_mem name member)
    rw [List.cons_append, renderParts, text]
    cases outcome : renderPart source data options with
    | ok xml =>
      simp only [outcome]
      rw [others]
      simp [rendered?_of_ok text outcome, tagErrors_of_ok text outcome]
    | error faults =>
      simp only [outcome]
      rw [others]
      simp [rendered?_of_error text outcome, tagErrors_of_error text outcome]

/-- A part that is no text ends the rendering, whatever was found before. -/
theorem renderParts_stops {before after : List Text} {name : Text} {fault : PackageFault}
    (texts : ∀ name ∈ before, package.IsText name) (unread : package.text name = .error fault)
    (batch : Batch) :
    package.renderParts data options batch (before ++ name :: after) = .error fault := by
  rw [renderParts_append texts, renderParts, unread]

theorem renderParts_all {names : List Text} (texts : ∀ name ∈ names, package.IsText name) :
    package.renderParts data options {} names
      = .ok ⟨(names.filterMap (package.rendered? data options)).reverse,
          names.flatMap (package.tagErrors data options)⟩ := by
  have all := @renderParts_append package data options names texts {} []
  rw [List.append_nil] at all
  rw [all, renderParts]
  simp

/-- A text with nothing wrong in it is rendered. -/
theorem exists_of_tagErrors_eq_nil {name : Text} (text : package.IsText name)
    (fine : package.tagErrors data options name = []) :
    ∃ source xml, package.text name = .ok source ∧ renderPart source data options = .ok xml ∧
      package.rendered? data options name = some (name, xml) := by
  obtain ⟨source, read⟩ := text
  cases outcome : renderPart source data options with
  | ok xml => exact ⟨source, xml, read, outcome, rendered?_of_ok read outcome⟩
  | error faults =>
    rw [tagErrors_of_error read outcome] at fine
    exact absurd (List.map_eq_nil_iff.mp fine) (ne_nil_of_renderPart outcome)

/-- What becomes of an entry of a package: a templated part holds what is made of its text, any
other entry is as it was. -/
inductive Carried (data : Value) (options : RenderOptions) : PackageEntry → PackageEntry → Prop where
  | directory (name : Text) : Carried data options (.directory name) (.directory name)
  | untouched {part : Part} (plain : isTemplated part.name = false) :
      Carried data options (.part part) (.part part)
  | filled {part : Part} {source xml : Text} (templated : isTemplated part.name = true)
      (read : Utf8.decode part.data = .ok source)
      (made : renderPart source data options = .ok xml) :
      Carried data options (.part part) (.part { part with data := Utf8.encode xml })

theorem name_of_rendered? {name : Text} {part : Text × Text}
    (made : package.rendered? data options name = some part) : part.1 = name := by
  unfold rendered? at made
  split at made
  · exact absurd made (by nofun)
  · split at made
    · rw [← Option.some.inj made]
    · exact absurd made (by nofun)

theorem map_fst_filterMap_rendered? (names : List Text) :
    ((names.filterMap (package.rendered? data options)).map Prod.fst).Sublist names := by
  induction names with
  | nil => exact List.Sublist.slnil
  | cons name names ih =>
    cases made : package.rendered? data options name with
    | none => rw [List.filterMap_cons_none made]; exact List.Sublist.cons name ih
    | some part =>
      rw [List.filterMap_cons_some made, List.map_cons, name_of_rendered? made]
      exact List.Sublist.cons_cons name ih

theorem decode_of_text (proper : package.Proper) {part : Part} {source : Text}
    (member : .part part ∈ package.entries) (read : package.text part.name = .ok source) :
    Utf8.decode part.data = .ok source := by
  rw [proper.text_eq member] at read
  cases decoded : Utf8.decode part.data with
  | ok text => rw [decoded] at read; exact congrArg Except.ok (Except.ok.inj read)
  | error reason => rw [decoded] at read; exact absurd read (by nofun)

/-- The only fault of a part that is there is that it is no text. -/
theorem notText_of_text {name : Text} {fault : PackageFault} (there : name ∈ package.partNames)
    (proper : package.Proper) (unread : package.text name = .error fault) :
    ∃ reason, fault = .notText name reason := by
  obtain ⟨part, member, rfl⟩ := mem_partNames.mp there
  rw [proper.text_eq member] at unread
  cases decoded : Utf8.decode part.data with
  | ok text => rw [decoded] at unread; exact absurd unread (by nofun)
  | error reason =>
    rw [decoded] at unread
    exact ⟨reason, (Except.error.inj unread).symm⟩

/-- If nothing is wrong, every entry becomes what it has to: templated parts are filled, all else
stays. -/
theorem carried_putAll (proper : package.Proper) (main : package.contains mainPart = true)
    (texts : ∀ name ∈ package.templatedParts, package.IsText name)
    (fine : package.templatedParts.flatMap (package.tagErrors data options) = [])
    {entry : PackageEntry} (member : entry ∈ package.entries) :
    Carried data options entry (entry.putAll
      (package.templatedParts.filterMap (package.rendered? data options))) := by
  have names := @map_fst_filterMap_rendered? package data options package.templatedParts
  cases entry with
  | directory name =>
    rw [PackageEntry.putAll_directory]
    exact .directory name
  | part p =>
    have listed : p.name ∈ package.partNames := mem_partNames.mpr ⟨p, member, rfl⟩
    by_cases templated : isTemplated p.name = true
    · have inside : p.name ∈ package.templatedParts := mem_templatedParts.mpr ⟨listed, templated⟩
      obtain ⟨source, xml, read, made, result⟩ := exists_of_tagErrors_eq_nil (texts p.name inside)
        (List.flatMap_eq_nil_iff.mp fine p.name inside)
      rw [PackageEntry.putAll_of_mem (names.nodup (proper.nodup_templatedParts main))
        (List.mem_filterMap.mpr ⟨p.name, inside, result⟩)]
      exact .filled templated (decode_of_text proper member read) made
    · have outside : p.name ∉ package.templatedParts :=
        fun inside => templated (mem_templatedParts.mp inside).2
      rw [PackageEntry.putAll_of_not_mem fun inside => outside (names.subset inside)]
      exact .untouched (Bool.eq_false_iff.mpr templated)

theorem Carried.name_eq {entry result : PackageEntry} (carried : Carried data options entry result) :
    result.name = entry.name := by
  cases carried <;> rfl

theorem Carried.untouched_eq {part : Part} {result : PackageEntry}
    (carried : Carried data options (.part part) result) (plain : isTemplated part.name = false) :
    result = .part part := by
  cases carried with
  | untouched _ => rfl
  | filled templated _ _ => rw [plain] at templated; exact absurd templated (by decide)

/-- A templated part was filled from its own text. -/
theorem Carried.exists_filled {part : Part} {result : PackageEntry}
    (carried : Carried data options (.part part) result) (templated : isTemplated part.name = true) :
    ∃ source xml, Utf8.decode part.data = .ok source ∧ renderPart source data options = .ok xml ∧
      result = .part { part with data := Utf8.encode xml } := by
  cases carried with
  | untouched plain => rw [plain] at templated; exact absurd templated (by decide)
  | filled _ read made => exact ⟨_, _, read, made, rfl⟩

/-- Parts stay parts, and directories stay directories. -/
theorem Carried.kind_eq {entry result : PackageEntry} (carried : Carried data options entry result)
    (kind : entryOf (archived entry) = entry) : entryOf (archived result) = result := by
  cases carried with
  | directory name => exact kind
  | untouched plain => exact kind
  | @filled part source xml templated read made =>
    by_cases directory : Archive.isDirectoryName part.name
    · have wrong : entryOf (archived (.part part)) = .directory part.name := if_pos directory
      rw [wrong] at kind
      exact absurd kind (by nofun)
    · exact if_neg directory

/-- A document that was made of a template: the entries are those of the template in their order,
each with its name and its packing; the parts without tags are the same byte for byte, and the
others hold what is made of their own text. -/
structure MadeFrom (data : Value) (options : RenderOptions) (package document : Package) :
    Prop where
  entries : List.Forall₂ (Carried data options) package.entries document.entries
  names : document.partNames = package.partNames
  untouched : ∀ name, isTemplated name = false → document.part? name = package.part? name
  filled : ∀ name ∈ package.templatedParts, ∃ source xml, package.text name = .ok source ∧
    renderPart source data options = .ok xml ∧ document.part? name = some (Utf8.encode xml)

section Carrying

variable {document : Package} {become : PackageEntry → PackageEntry}

/-- A document has no name twice if its template has none. -/
theorem Proper.of_carried (proper : package.Proper)
    (entries : document.entries = package.entries.map become)
    (carried : ∀ entry ∈ package.entries, Carried data options entry (become entry)) :
    document.Proper := by
  constructor
  · have names : document.entries.map PackageEntry.name = package.entries.map PackageEntry.name := by
      rw [entries, List.map_map]
      exact List.map_congr_left fun entry member => (carried entry member).name_eq
    rw [names]
    exact proper.distinct
  · intro result member
    rw [entries] at member
    obtain ⟨entry, inside, rfl⟩ := List.mem_map.mp member
    exact (carried entry inside).kind_eq (proper.kinds entry inside)

theorem MadeFrom.of_carried (proper : package.Proper)
    (entries : document.entries = package.entries.map become)
    (names : document.partNames = package.partNames)
    (carried : ∀ entry ∈ package.entries, Carried data options entry (become entry)) :
    MadeFrom data options package document := by
  have kept := proper.of_carried entries carried
  have there {entry} (member : entry ∈ package.entries) : become entry ∈ document.entries := by
    rw [entries]
    exact List.mem_map_of_mem member
  refine ⟨?entries, names, ?untouched, ?filled⟩
  case entries =>
    rw [entries]
    exact List.forall₂_map_right_iff.mpr (List.forall₂_same.mpr carried)
  case untouched =>
    intro name plain
    by_cases listed : name ∈ package.partNames
    · obtain ⟨part, member, rfl⟩ := mem_partNames.mp listed
      have inside := there member
      rw [(carried _ member).untouched_eq plain] at inside
      rw [kept.part?_eq inside, proper.part?_eq member]
    · rw [part?_eq_none listed, part?_eq_none (by rwa [names])]
  case filled =>
    intro name inside
    obtain ⟨listed, templated⟩ := mem_templatedParts.mp inside
    obtain ⟨part, member, rfl⟩ := mem_partNames.mp listed
    obtain ⟨source, xml, read, made, result⟩ := (carried _ member).exists_filled templated
    have after := there member
    rw [result] at after
    refine ⟨source, xml, ?_, made, kept.part?_eq after⟩
    rw [proper.text_eq member, read]
    rfl

end Carrying

/-- If all templated parts are text without faults, there is a document made of the package. -/
theorem exists_of_render (proper : package.Proper) (main : package.contains mainPart = true)
    (texts : ∀ name ∈ package.templatedParts, package.IsText name)
    (fine : package.templatedParts.flatMap (package.tagErrors data options) = []) :
    ∃ document, package.render data options = .ok document ∧ document.Proper ∧
      MadeFrom data options package document := by
  have there : ∀ part ∈ package.templatedParts.filterMap (package.rendered? data options),
      part.1 ∈ package.partNames := by
    intro part member
    obtain ⟨name, inside, made⟩ := List.mem_filterMap.mp member
    rw [name_of_rendered? made]
    exact (mem_templatedParts.mp inside).1
  obtain ⟨entries, names⟩ := foldl_insert proper.nodup_partNames there
  have carried := fun entry member =>
    @carried_putAll package data options proper main texts fine entry member
  refine ⟨_, ?_, proper.of_carried entries carried, .of_carried proper entries names carried⟩
  rw [render, renderParts_all texts]
  dsimp only
  rw [fine, List.reverse_reverse]
  rfl

/-- If some part is no text, one of them is the first. -/
theorem exists_first_unread {names : List Text} (some : ∃ name ∈ names, ¬package.IsText name) :
    ∃ before name after, names = before ++ name :: after ∧
      (∀ other ∈ before, package.IsText other) ∧ ¬package.IsText name := by
  induction names with
  | nil =>
    obtain ⟨name, member, -⟩ := some
    exact absurd member List.not_mem_nil
  | cons first names ih =>
    by_cases text : package.IsText first
    · obtain ⟨name, member, unread⟩ := some
      have later : name ∈ names := by
        rcases List.mem_cons.mp member with rfl | later
        · exact absurd text unread
        · exact later
      obtain ⟨before, found, after, split, texts, none⟩ := ih ⟨name, later, unread⟩
      refine ⟨first :: before, found, after, by rw [split, List.cons_append], ?_, none⟩
      intro other inside
      rcases List.mem_cons.mp inside with rfl | inside
      · exact text
      · exact texts other inside
    · exact ⟨[], first, names, rfl, fun _ member => absurd member List.not_mem_nil, text⟩

theorem exists_error_of_not_isText {name : Text} (unread : ¬package.IsText name) :
    ∃ fault, package.text name = .error fault := by
  cases read : package.text name with
  | ok source => exact absurd ⟨source, read⟩ unread
  | error fault => exact ⟨fault, rfl⟩

end Package

open Package

section Format

variable {format : ArchiveFormat} {bytes : Bytes} {package document : Package}

/-- For a template that opens, making a document is rendering its package and saving what comes of
it. -/
theorem renderDocumentIn_eq (opens : openIn format bytes = .ok package) (data : Value)
    (options : RenderOptions) : renderDocumentIn format bytes data options =
      (package.render data options).bind (saveDocumentIn format) := by
  rw [renderDocumentIn, openTemplateIn, opens]
  dsimp only
  cases package.render data options <;> rfl

theorem extractTextIn_of_openIn {xml : Text} (opens : openIn format bytes = .ok document)
    (main : document.part? mainPart = some (Utf8.encode xml)) :
    extractTextIn format bytes = .ok (PlainText.ofPart xml) := by
  have text : document.text mainPart = .ok xml := by
    rw [Package.text, main]
    dsimp only
    rw [Utf8.decode_encode]
  rw [extractTextIn, openTemplateIn, opens]
  dsimp only
  rw [text]

end Format

/-- What becomes of a template that can be opened, in any format of archives that is lawful. The
templated parts are gone through with the main document first and the others as the archive has them.
If one of them is no text, the first such part is told and nothing else. If all are text and something
is wrong with their tags, all of it is told, part after part. Otherwise there is a document, made of
the template and of nothing else. If the format has room for it, its bytes open as that document, whose
text is that of the rendered main part; if the format cannot write it, that is what is told. The format
of this library cannot write what is too large for it. -/
theorem renderDocument_allOrNothing {format : ArchiveFormat} {room : List Archive.Entry → Prop}
    (lawful : format.Lawful room) {bytes : Bytes} {package : Package}
    (opens : openIn format bytes = .ok package) (data : Value) (options : RenderOptions) :
    package.templatedParts = mainPart ::
        package.partNames.filter (fun name => name != mainPart && isTemplated name) ∧
      ((∃ name ∈ package.templatedParts, ¬package.IsText name) →
        ∃ before name after reason, package.templatedParts = before ++ name :: after ∧
          (∀ other ∈ before, package.IsText other) ∧
          package.text name = .error (.notText name reason) ∧
          renderDocumentIn format bytes data options
            = .error (.package (.notText name reason))) ∧
      ((∀ name ∈ package.templatedParts, package.IsText name) →
        package.templatedParts.flatMap (package.tagErrors data options) ≠ [] →
        renderDocumentIn format bytes data options
          = .error (.template (package.templatedParts.flatMap (package.tagErrors data options)))) ∧
      ((∀ name ∈ package.templatedParts, package.IsText name) →
        package.templatedParts.flatMap (package.tagErrors data options) = [] →
        ∃ document, MadeFrom data options package document ∧
          (room (document.entries.map archived) →
            ∃ result, renderDocumentIn format bytes data options = .ok result ∧
              openIn format result = .ok document ∧
              ∃ source xml, package.text mainPart = .ok source ∧
                renderPart source data options = .ok xml ∧
                extractTextIn format result = .ok (PlainText.ofPart xml)) ∧
          (∀ fault, document.saveIn format = .error fault →
            renderDocumentIn format bytes data options = .error (.serialize fault.message)) ∧
          (¬document.Fitting → document.saveIn .zip = .error .tooLarge)) := by
  obtain ⟨proper, main⟩ := proper_of_openIn lawful opens
  have order := proper.templatedParts_eq main
  have opened := renderDocumentIn_eq opens data options
  refine ⟨order, ?unread, ?faulty, ?fine⟩
  case unread =>
    intro some
    obtain ⟨before, name, after, split, texts, unread⟩ := exists_first_unread some
    obtain ⟨fault, read⟩ := exists_error_of_not_isText unread
    have listed : name ∈ package.partNames :=
      (mem_templatedParts.mp (split ▸ List.mem_append_right _ List.mem_cons_self)).1
    obtain ⟨reason, rfl⟩ := notText_of_text listed proper read
    refine ⟨before, name, after, reason, split, texts, read, ?_⟩
    rw [opened, render, split, renderParts_stops texts read]
    rfl
  case faulty =>
    intro texts some
    rw [opened, render, renderParts_all texts]
    dsimp only
    rw [List.isEmpty_eq_false_iff.mpr some]
    rfl
  case fine =>
    intro texts none
    obtain ⟨document, rendered, kept, made⟩ := exists_of_render proper main texts none
    rw [rendered, Except.bind] at opened
    refine ⟨document, made, fun fits => ?_, fun fault refused => ?_, save_eq_tooLarge kept⟩
    · have mainLeft : document.contains mainPart = true := by
        rw [contains_iff, made.names]
        exact contains_iff.mp main
      obtain ⟨result, saved, again⟩ := openIn_of_saveIn lawful kept mainLeft fits
      obtain ⟨source, xml, read, xmlMade, part⟩ := made.filled mainPart (by
        rw [order]
        exact List.mem_cons_self)
      refine ⟨result, ?_, again, source, xml, read, xmlMade, extractTextIn_of_openIn again part⟩
      rw [opened, saveDocumentIn, saved]
    · rw [opened, saveDocumentIn, refused]

/-- A letter with a header that stands in front of its main document. -/
def letter : Package :=
  ⟨[.directory "word/".toList,
    .part ⟨"word/header1.xml".toList, Utf8.encode "<w:t>{b}</w:t>".toList, .stored⟩,
    .part ⟨mainPart, Utf8.encode "<w:t>{a}</w:t>".toList, .deflated⟩]⟩

theorem letter_proper : letter.Proper := by
  constructor <;> decide +kernel

theorem exists_openBytes_letter : ∃ bytes, openBytes bytes = .ok letter := by
  have fits : letter.Fitting := by
    unfold Package.Fitting Archive.Fitting
    decide +kernel
  obtain ⟨bytes, -, opens⟩ := openBytes_of_save letter_proper (by decide +kernel) fits
  exact ⟨bytes, opens⟩

theorem letter_text :
    letter.text mainPart = .ok "<w:t>{a}</w:t>".toList ∧
      letter.text "word/header1.xml".toList = .ok "<w:t>{b}</w:t>".toList := by
  constructor
  · have there : .part ⟨mainPart, Utf8.encode "<w:t>{a}</w:t>".toList, .deflated⟩
        ∈ letter.entries := by decide +kernel
    rw [letter_proper.text_eq there, Utf8.decode_encode]
    rfl
  · have there : .part ⟨"word/header1.xml".toList, Utf8.encode "<w:t>{b}</w:t>".toList, .stored⟩
        ∈ letter.entries := by decide +kernel
    rw [letter_proper.text_eq there, Utf8.decode_encode]
    rfl

theorem renderPart_letter :
    renderPart "<w:t>{a}</w:t>".toList (.object []) {} = .error [.undefinedTag "a".toList] ∧
      renderPart "<w:t>{b}</w:t>".toList (.object []) {} = .error [.undefinedTag "b".toList] := by
  have main : (SectionPairs.scan {} 0
      (Layout.ofPart "<w:t>{a}</w:t>".toList).pieces.toList).pairs = [] := by decide +kernel
  have header : (SectionPairs.scan {} 0
      (Layout.ofPart "<w:t>{b}</w:t>".toList).pieces.toList).pairs = [] := by decide +kernel
  unfold renderPart Layout.nesting Layout.widened Layout.plan SectionPairs.ofPieces
  dsimp only
  rw [main, header, List.mergeSort_nil]
  decide +kernel

theorem renderDocument_letter : ∃ bytes, openBytes bytes = .ok letter ∧
    renderDocument bytes (.object []) {} = .error (.template
      [⟨mainPart, .undefinedTag "a".toList⟩,
        ⟨"word/header1.xml".toList, .undefinedTag "b".toList⟩]) := by
  obtain ⟨bytes, opens⟩ := exists_openBytes_letter
  obtain ⟨main, header⟩ := letter_text
  have listed : letter.templatedParts = [mainPart, "word/header1.xml".toList] := by decide +kernel
  have texts : ∀ name ∈ letter.templatedParts, letter.IsText name := by
    rw [listed]
    simp only [List.mem_cons, List.not_mem_nil, or_false, forall_eq_or_imp, forall_eq]
    exact ⟨⟨_, main⟩, ⟨_, header⟩⟩
  have errors : letter.templatedParts.flatMap (letter.tagErrors (.object []) {})
      = [⟨mainPart, .undefinedTag "a".toList⟩,
        ⟨"word/header1.xml".toList, .undefinedTag "b".toList⟩] := by
    rw [listed]
    simp only [List.flatMap_cons, List.flatMap_nil, tagErrors, main, header, renderPart_letter]
    rfl
  obtain ⟨-, -, faulty, -⟩ :=
    renderDocument_allOrNothing ArchiveFormat.lawful_zip opens (.object []) {}
  refine ⟨bytes, opens, ?_⟩
  rw [← errors]
  exact faulty texts (by rw [errors]; exact List.cons_ne_nil _ _)

end WordMerge
