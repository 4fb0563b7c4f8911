import WordMerge.Json.Value
import WordMerge.Text.Blank

namespace WordMerge

namespace FileName

/-- The characters that no file name may have. -/
def forbidden : Text :=
  "\\/:*?\"<>|".toList

/-- The name without forbidden characters, control characters and white space around it. -/
def sanitize (name : Text) : Text :=
  Text.trim (name.filter fun c => !(forbidden.contains c || isControl c))

/-- The end of every name. -/
def suffix : Text :=
  ".docx".toList

/-- The name with its end; one that has it already, in any case, stays. -/
def withSuffix (stem : Text) : Text :=
  if suffix.length < stem.length ∧ suffix.isSuffixOf (Text.lower stem) then stem
  else stem ++ suffix

/-- The stem that is used when nobody asks for one. -/
def defaultStem : Text :=
  "Filled".toList

/-- The name that the data asks for: a text or a number. -/
def ofData? (data : Value) : Option Text :=
  match data.member? "FileName".toList with
  | some (.string s) => some s
  | some (.number n) => some n.write
  | _ => none

/-- The name of a document, asked for in the request or in the data: the first name that is not
empty when it is sanitized. -/
def resolve (asked : Option Text) (data : Value) : Text :=
  let candidates := (asked.toList ++ (ofData? data).toList).map sanitize
  withSuffix ((candidates.find? fun name => !name.isEmpty).getD defaultStem)

example : resolve none (.object []) = "Filled.docx".toList := rfl
example : resolve (some "a/b:c".toList) .null = "abc.docx".toList := rfl
example : resolve (some " Contract.DOCX ".toList) .null = "Contract.DOCX".toList := rfl
example : resolve (some ".docx".toList) .null = ".docx.docx".toList := rfl

end FileName

end WordMerge
