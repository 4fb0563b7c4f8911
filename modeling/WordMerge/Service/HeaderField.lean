import WordMerge.Text.Utf8

namespace WordMerge

namespace HeaderField

/-- Whether a byte is printable ASCII or a tab. -/
def isPlain (b : UInt8) : Bool :=
  b == 0x09 || (0x20 ≤ b && b < 0x7F)

/-- The text of a value that has nothing but printable ASCII and tabs. -/
def text? (value : Bytes) : Option Text :=
  if value.all isPlain then some (value.map fun b => Char.ofNat b.toNat) else none

end HeaderField

end WordMerge
