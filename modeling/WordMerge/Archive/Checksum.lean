import WordMerge.Text.Utf8

namespace WordMerge

namespace Checksum

/-- Divides one bit out of the register. -/
def shift (register : UInt32) : UInt32 :=
  if register &&& 1 = 1 then (register >>> 1) ^^^ 0xEDB88320 else register >>> 1

/-- Takes a byte into the register. -/
def step (register : UInt32) (b : UInt8) : UInt32 :=
  shift (shift (shift (shift (shift (shift (shift (shift (register ^^^ b.toUInt32))))))))

/-- The cyclic redundancy check of some bytes: 32 bits with the reflected polynomial
`0xEDB88320`. -/
def ofBytes (bytes : Bytes) : UInt32 :=
  bytes.foldl step 0xFFFFFFFF ^^^ 0xFFFFFFFF

example : ofBytes "123456789".toUTF8.toList = 0xCBF43926 := by cbv

end Checksum

end WordMerge
