import WordMerge.Text.Utf8
import WordMerge.Text.Unsigned

namespace WordMerge

namespace Percent

/-- A number below sixteen as a capital hexadecimal digit. -/
def hexDigit (n : Nat) : Char :=
  (Nat.digitChar n).toUpper

/-- A byte as a percent sign and two digits. -/
def encodeByte (b : UInt8) : Text :=
  ['%', hexDigit (b.toNat / 16), hexDigit (b.toNat % 16)]

/-- A character, or its bytes behind percent signs if it must not stand for itself. Which characters
these are depends on the place, so the set is a predicate. -/
def encodeChar (reserved : Char → Bool) (c : Char) : Text :=
  if reserved c then (String.utf8EncodeChar c).flatMap encodeByte else [c]

/-- A text in which no reserved character stands for itself. -/
def encode (reserved : Char → Bool) (s : Text) : Text :=
  s.flatMap (encodeChar reserved)

/-- The byte that two hexadecimal digits spell. -/
def pair? (a b : UInt8) : Option UInt8 :=
  match digit? 16 (Char.ofNat a.toNat), digit? 16 (Char.ofNat b.toNat) with
  | some high, some low => some (UInt8.ofNat (high * 16 + low))
  | _, _ => none

/-- The bytes in which every percent sign with two hexadecimal digits behind it gave way to the byte
that they spell. A percent sign without them stands for itself. -/
def decode : Bytes → Bytes
  | mark :: a :: b :: rest =>
    match if mark = 0x25 then pair? a b else none with
    | some byte => byte :: decode rest
    | none => mark :: decode (a :: b :: rest)
  | s => s

/-- The characters outside printable ASCII, and the given ones. -/
def beyond (others : Text) (c : Char) : Bool :=
  c.toNat < 0x20 || 0x7E < c.toNat || others.contains c

/-- What is reserved in a path without segments and in the name of a host that is no domain. -/
def plainReserved : Char → Bool :=
  beyond []

/-- What is reserved in a fragment. -/
def fragmentReserved : Char → Bool :=
  beyond " \"<>`".toList

/-- What is reserved in a query. -/
def queryReserved : Char → Bool :=
  beyond " \"#<>".toList

/-- What is reserved in a query of a well-known scheme. -/
def knownQueryReserved : Char → Bool :=
  beyond " \"#<>'".toList

/-- What is reserved in a segment of a path. -/
def pathReserved : Char → Bool :=
  beyond " \"<>`#?\x7b\x7d".toList

/-- What is reserved in the name and the password of a user. -/
def userReserved : Char → Bool :=
  beyond " \"<>`#?\x7b\x7d/:;=@[\\]^|".toList

/-- What is reserved where only letters, digits and four marks stand for themselves. -/
def strictReserved (c : Char) : Bool :=
  !(c.isAlphanum || "-._~".toList.contains c)

example : encode pathReserved "a b".toList = "a%20b".toList := by decide
example : encode strictReserved ['ü', '(', 'x'] = "%C3%BC%28x".toList := by decide
example : decode [0x25, 0x34, 0x31, 0x25, 0x7A] = [0x41, 0x25, 0x7A] := by decide

end Percent

end WordMerge
