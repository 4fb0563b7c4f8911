import WordMerge.Text.Blank

namespace WordMerge

/-- The role of a tag. -/
inductive TagKind where
  /-- A name alone: its value goes here. -/
  | value
  /-- A hash sign and a name: a section starts. -/
  | opening
  /-- A caret and a name: a section starts that stands in where the value is empty. -/
  | inverted
  /-- A slash and a name: a section ends. -/
  | closing
  deriving DecidableEq, Repr

/-- Whether a tag of this kind starts a section. -/
def TagKind.opens : TagKind → Bool
  | .opening => true
  | .inverted => true
  | _ => false

/-- A tag by its role and its name. It stands between braces in a template, with a sign before the
name that gives the role. -/
structure Tag where
  /-- The role. -/
  kind : TagKind
  /-- The name without sign and without white space around it. -/
  name : Text
  deriving DecidableEq, Repr

namespace Tag

/-- The role and the name that a trimmed text between braces spells. -/
def split : Text → Tag
  | '#' :: rest => ⟨.opening, Text.trim rest⟩
  | '^' :: rest => ⟨.inverted, Text.trim rest⟩
  | '/' :: rest => ⟨.closing, Text.trim rest⟩
  | s => ⟨.value, Text.trim s⟩

/-- The tag that the text between braces spells. A tag needs a name. -/
def ofText? (s : Text) : Option Tag :=
  let tag := split (Text.trim s)
  if tag.name.isEmpty then none else some tag

example : ofText? " # rows ".toList = some ⟨.opening, "rows".toList⟩ := by decide
example : ofText? "/".toList = none := by decide

end Tag

end WordMerge
