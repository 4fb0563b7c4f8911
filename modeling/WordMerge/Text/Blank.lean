import WordMerge.Text.Basic

namespace WordMerge

/-- The characters with the property `White_Space`. The file separators U+001C to U+001F, the
zero width space U+200B and the byte order mark U+FEFF are not among them. -/
def isBlank (c : Char) : Bool :=
  let n := c.toNat
  (0x09 ≤ n && n ≤ 0x0D) || n == 0x20 || n == 0x85 || n == 0xA0 || n == 0x1680 ||
    (0x2000 ≤ n && n ≤ 0x200A) || n == 0x2028 || n == 0x2029 || n == 0x202F ||
    n == 0x205F || n == 0x3000

/-- The control characters of both ranges, U+0000 to U+001F and U+007F to U+009F. -/
def isControl (c : Char) : Bool :=
  c.toNat < 0x20 || (0x7F ≤ c.toNat && c.toNat < 0xA0)

namespace Text

/-- The text without the white space at its ends. -/
def trim (s : Text) : Text :=
  ((s.dropWhile isBlank).reverse.dropWhile isBlank).reverse

/-- Whether the text holds nothing but white space. -/
def blank (s : Text) : Bool :=
  s.all isBlank

end Text

example : [' ', '\t', '\n', '\u000B', '\u00A0', '\u2003', '\u3000'].all isBlank = true := by decide
example : ['\u001C', '\u180E', '\u200B', '\u2060', '\uFEFF', 'a'].any isBlank = false := by decide

end WordMerge
