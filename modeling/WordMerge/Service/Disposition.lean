import WordMerge.Location.Percent

namespace WordMerge

namespace Disposition

/-- Whether a character is ASCII. -/
def isPlain (c : Char) : Bool :=
  c.toNat < 0x80

/-- The name in ASCII. -/
def fallback (name : Text) : Text :=
  name.map fun c => if isPlain c then c else '_'

/-- The field for an attachment of the given name. A name with characters beyond ASCII is given
twice: with a mark in the place of each of them, and in full behind percent signs. -/
def write (name : Text) : Text :=
  let simple := "attachment; filename=\"".toList ++ fallback name ++ ['"']
  if name.all isPlain then simple
  else simple ++ "; filename*=UTF-8''".toList ++ Percent.encode Percent.strictReserved name

/-- Whether a text can stand in a header field. -/
def isFieldText (s : Text) : Bool :=
  s.all fun c => c == '\t' || (0x20 ≤ c.toNat && c.toNat != 0x7F)

end Disposition

end WordMerge
