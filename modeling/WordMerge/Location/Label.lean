import WordMerge.Location.Punycode
import WordMerge.Unicode.Direction
import WordMerge.Unicode.Joining
import WordMerge.Unicode.NameFold
import WordMerge.Unicode.Normal

namespace WordMerge

/-- A label of a domain name. -/
structure DomainLabel where
  /-- The label in ASCII. -/
  written : Text
  /-- The label in its own characters. -/
  full : Text
  deriving DecidableEq, Repr

namespace DomainLabel

/-- The characters that no domain name may have. -/
def isForbidden (c : Char) : Bool :=
  c.toNat < 0x21 || c.toNat == 0x7F || "%#/:<>?@[\\]^|".toList.contains c

/-- The character that keeps letters from joining. -/
def nonJoiner : Char := '\u200C'
/-- The character that makes letters join. -/
def joiner : Char := '\u200D'

/-- Whether the first character that counts joins to one of the given sides. -/
def joins (sides : List Joining) (s : Text) : Bool :=
  (s.find? fun c => Joining.ofChar c != .transparent).any fun c => sides.contains (Joining.ofChar c)

/-- Whether a character is no joiner, or one at its place between the text `before`, the last
character first, and the text `after`. -/
def joinerFits (before : Text) (c : Char) (after : Text) : Bool :=
  if c = nonJoiner ∨ c = joiner then
    before.head?.any (Decomposition.classOf · == Decomposition.viramaClass)
      || (c == nonJoiner && joins [.left, .dual] before && joins [.right, .dual] after)
  else true

/-- Whether all joiners of a text are at their place, behind the text `before`, the last character
first. -/
def joinersFit (before : Text) : Text → Bool
  | [] => true
  | c :: rest => joinerFits before c rest && joinersFit (c :: before) rest

/-- Whether a label with other characters than ASCII keeps the rules that concern it alone. -/
def isSound (label : Text) : Bool :=
  !label.head?.any Mark.isMark && joinersFit [] label

/-- Whether a character belongs to a text written to the left. The first one is U+0590. -/
def isLeftward (c : Char) : Bool :=
  0x590 ≤ c.toNat && [Direction.right, .arabic, .arabicDigit].contains (Direction.ofChar c)

/-- What may stand within a label in either direction. -/
def inner : List Direction :=
  [.digit, .separator, .commonSeparator, .terminator, .neutral, .boundary, .mark]

/-- Whether the directions within a label fit. The first one decides: it is that of a letter, and the
last one apart from marks is that of a letter or a digit. Digits of both kinds do not mix. -/
def directionsFit (label : Text) : Bool :=
  match label.map Direction.ofChar with
  | [] => true
  | first :: rest =>
    match rest.reverse.dropWhile (· == .mark) with
    | [] => [.left, .right, .arabic].contains first
    | last :: middle =>
      if first = .left then
        [.left, .digit].contains last && middle.all ((.left :: inner).contains ·)
      else
        [.right, .arabic].contains first
          && [.right, .arabic, .digit, .arabicDigit].contains last
          && middle.all ((.right :: .arabic :: .arabicDigit :: inner).contains ·)
          && !((last :: middle).contains .digit && (last :: middle).contains .arabicDigit)

/-- What stands in front of the ASCII form of a label. -/
def mark : Text :=
  "xn--".toList

/-- The greatest length of an ASCII form, without its mark. -/
def maxCode : Nat := 2000

/-- The greatest length of a label with other characters than ASCII. -/
def maxLabel : Nat := 1000

/-- The label that an ASCII form spells. It has to need that form, and to be what domain names make
of it. -/
def ofCode? (code : Text) : Option Text := do
  guard (code.getLast?.any (· != '-') ∧ code.length ≤ maxCode)
  let label ← Punycode.decode? code
  guard (!label.all Punycode.isAscii ∧ label.all NameFold.isSteady
    ∧ label.all (fun c => !isForbidden c && c != '.') ∧ Normal.form label = label ∧ isSound label)
  return label

/-- The label that a text stands for in which domain names have nothing left to change. A label with
other characters than ASCII begins with no mark, has joiners only where they change how letters
look, and does not mix letters of both directions. -/
def ofText? (s : Text) : Option DomainLabel :=
  match mark.isPrefixOf? s with
  | some code =>
    if s.all Punycode.isAscii then (ofCode? code).map fun full => ⟨s, full⟩ else none
  | none =>
    if s.all Punycode.isAscii then some ⟨s, s⟩
    else if isSound s && s.length ≤ maxLabel then some ⟨mark ++ Punycode.encode s, s⟩
    else none

example : ofText? "a-b".toList = some ⟨"a-b".toList, "a-b".toList⟩ := by decide
example : ofText? "xn--a-".toList = none := by decide

end DomainLabel

/-- The domain name that a text stands for, in ASCII. Where a label has letters written to the left,
the directions in all labels have to fit. -/
def domainName? (s : Text) : Option Text := do
  let folded := Normal.form (← NameFold.ofText? s)
  guard (!folded.any DomainLabel.isForbidden)
  let labels ← (folded.splitOn '.').mapM DomainLabel.ofText?
  guard (labels.all (fun label => !label.full.any DomainLabel.isLeftward)
    ∨ labels.all fun label => DomainLabel.directionsFit label.full)
  return ['.'].intercalate (labels.map DomainLabel.written)

example : domainName? "WWW.a".toList = some "www.a".toList := by decide

end WordMerge
