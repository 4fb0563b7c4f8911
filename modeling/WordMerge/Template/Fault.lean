import WordMerge.Text.Basic

namespace WordMerge

/-- The classes of faults, by which a program can tell them apart. -/
inductive FaultKind where
  | undefinedTag
  | valueTypeMismatch
  | loopTypeMismatch
  | unclosedTag
  | unopenedTag
  | emptyTag
  | unclosedLoop
  | unopenedLoop
  | closingMismatch
  | unbalancedLoop
  | nestingTooDeep
  deriving DecidableEq, Repr

namespace FaultKind

/-- The stable name of a class. -/
def code : FaultKind → String
  | .undefinedTag => "undefined_tag"
  | .valueTypeMismatch => "value_type_mismatch"
  | .loopTypeMismatch => "loop_type_mismatch"
  | .unclosedTag => "unclosed_tag"
  | .unopenedTag => "unopened_tag"
  | .emptyTag => "empty_tag"
  | .unclosedLoop => "unclosed_loop"
  | .unopenedLoop => "unopened_loop"
  | .closingMismatch => "closing_tag_does_not_match_opening_tag"
  | .unbalancedLoop => "unbalanced_loop"
  | .nestingTooDeep => "nesting_too_deep"

/-- All classes. -/
def all : List FaultKind :=
  [.undefinedTag, .valueTypeMismatch, .loopTypeMismatch, .unclosedTag, .unopenedTag, .emptyTag,
    .unclosedLoop, .unopenedLoop, .closingMismatch, .unbalancedLoop, .nestingTooDeep]

/-- The class with the given name. -/
def ofCode? (code : Text) : Option FaultKind :=
  all.find? fun kind => kind.code.toList == code

end FaultKind

/-- A fault of a tag. -/
inductive TagFault where
  /-- The name stands for nothing in the data. -/
  | undefinedTag (name : Text)
  /-- A value tag stands for a list or an object. -/
  | valueTypeMismatch (name found : Text)
  /-- A section tag stands for a string or a number. -/
  | loopTypeMismatch (name found : Text)
  /-- An opening brace has no closing one. -/
  | unclosedTag (text : Text)
  /-- A closing brace has no opening one. -/
  | unopenedTag (text : Text)
  /-- There is no name between the braces. -/
  | emptyTag (text : Text)
  /-- A section has no end. -/
  | unclosedLoop (name : Text)
  /-- A section has no start. -/
  | unopenedLoop (name : Text)
  /-- A section is closed under another name. -/
  | closingMismatch (opened closed : Text)
  /-- A section takes apart elements that it does not close. -/
  | unbalancedLoop (name : Text)
  /-- A section stands inside too many others. -/
  | nestingTooDeep (name : Text) (limit : Nat)
  deriving DecidableEq, Repr

namespace TagFault

/-- The class of a fault. -/
def kind : TagFault → FaultKind
  | .undefinedTag _ => .undefinedTag
  | .valueTypeMismatch _ _ => .valueTypeMismatch
  | .loopTypeMismatch _ _ => .loopTypeMismatch
  | .unclosedTag _ => .unclosedTag
  | .unopenedTag _ => .unopenedTag
  | .emptyTag _ => .emptyTag
  | .unclosedLoop _ => .unclosedLoop
  | .unopenedLoop _ => .unopenedLoop
  | .closingMismatch _ _ => .closingMismatch
  | .unbalancedLoop _ => .unbalancedLoop
  | .nestingTooDeep _ _ => .nestingTooDeep

/-- The name or the text of the tag that is at fault. -/
def tag : TagFault → Text
  | .undefinedTag name => name
  | .valueTypeMismatch name _ => name
  | .loopTypeMismatch name _ => name
  | .unclosedTag text => text
  | .unopenedTag text => text
  | .emptyTag text => text
  | .unclosedLoop name => name
  | .unopenedLoop name => name
  | .closingMismatch _ closed => closed
  | .unbalancedLoop name => name
  | .nestingTooDeep name _ => name

/-- A text in double quotes. -/
def quoted (s : Text) : Text :=
  '"' :: s ++ ['"']

/-- The fault in words. -/
def explanation : TagFault → Text
  | .undefinedTag name =>
    "The tag ".toList ++ quoted name ++ " has no value in the supplied data".toList
  | .valueTypeMismatch name found =>
    "The tag ".toList ++ quoted name ++ " resolves to ".toList ++ found
      ++ " which cannot be rendered as text".toList
  | .loopTypeMismatch name found =>
    "The section ".toList ++ quoted name ++ " resolves to ".toList ++ found
      ++ "; expected a list, an object or a boolean".toList
  | .unclosedTag text =>
    "The tag beginning with ".toList ++ quoted ('\x7b' :: text) ++ " is not closed".toList
  | .unopenedTag text =>
    "The tag ending with ".toList ++ quoted (text ++ ['\x7d']) ++ " has no opening delimiter".toList
  | .emptyTag text =>
    "The tag ".toList ++ quoted ('\x7b' :: text ++ ['\x7d']) ++ " has no name".toList
  | .unclosedLoop name =>
    "The section ".toList ++ quoted name ++ " is opened but never closed".toList
  | .unopenedLoop name =>
    "The section ".toList ++ quoted name ++ " is closed but was never opened".toList
  | .closingMismatch opened closed =>
    "The section ".toList ++ quoted opened ++ " is closed by ".toList
      ++ quoted ('\x7b' :: '/' :: closed ++ ['\x7d'])
  | .unbalancedLoop name =>
    "The section ".toList ++ quoted name ++ (" spans document structure it does not close, "
      ++ "move both tags into the same paragraph, cell or row").toList
  | .nestingTooDeep name limit =>
    "The section ".toList ++ quoted name ++ " is nested more than ".toList ++ Text.ofNat limit
      ++ " levels deep".toList

end TagFault

/-- A fault as it is reported. -/
structure TagReport where
  /-- The class of the fault. -/
  kind : FaultKind
  /-- The name or the text of the tag. -/
  tag : Text
  /-- The fault in words. -/
  explanation : Text
  /-- The part of the package that holds the tag. -/
  part : Text
  deriving DecidableEq, Repr

/-- The report of a fault that was found in a part. -/
def TagFault.report (fault : TagFault) (part : Text) : TagReport :=
  ⟨fault.kind, fault.tag, fault.explanation, part⟩

end WordMerge
