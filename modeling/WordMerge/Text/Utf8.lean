import WordMerge.Text.Basic

namespace WordMerge

/-- A file, a message body or a part of one. -/
abbrev Bytes := List UInt8

namespace Utf8

/-- What stands at the front of some bytes. -/
inductive Step where
  /-- A character written in `width` bytes. -/
  | char (c : Char) (width : Nat)
  /-- An ill-formed sequence whose well-begun part has `width` bytes. -/
  | invalid (width : Nat)
  /-- A sequence that is fine so far and ends with the bytes. -/
  | incomplete

/-- Whether a byte continues a character. -/
def isTail (b : UInt8) : Bool :=
  0x80 ≤ b && b ≤ 0xBF

/-- The bytes that may follow a given first byte of a three or four byte character. The narrower
ranges keep out overlong forms, surrogates and numbers past U+10FFFF. -/
def mayFollow (first second : UInt8) : Bool :=
  if first == 0xE0 then 0xA0 ≤ second && second ≤ 0xBF
  else if first == 0xED then 0x80 ≤ second && second ≤ 0x9F
  else if first == 0xF0 then 0x90 ≤ second && second ≤ 0xBF
  else if first == 0xF4 then 0x80 ≤ second && second ≤ 0x8F
  else isTail second

/-- The six low bits that a byte carries for its character. -/
def load (b : UInt8) : Nat :=
  b.toNat % 64

/-- Looks at the front of non-empty bytes `a :: rest`. -/
def step (a : UInt8) (rest : Bytes) : Step :=
  if a < 0x80 then .char (Char.ofNat a.toNat) 1
  else if 0xC2 ≤ a && a ≤ 0xDF then
    match rest with
    | [] => .incomplete
    | b :: _ =>
      if isTail b then .char (Char.ofNat ((a.toNat - 0xC0) * 64 + load b)) 2 else .invalid 1
  else if 0xE0 ≤ a && a ≤ 0xEF then
    match rest with
    | [] => .incomplete
    | b :: rest =>
      if !mayFollow a b then .invalid 1
      else match rest with
        | [] => .incomplete
        | c :: _ =>
          if isTail c then .char (Char.ofNat (((a.toNat - 0xE0) * 64 + load b) * 64 + load c)) 3
          else .invalid 2
  else if 0xF0 ≤ a && a ≤ 0xF4 then
    match rest with
    | [] => .incomplete
    | b :: rest =>
      if !mayFollow a b then .invalid 1
      else match rest with
        | [] => .incomplete
        | c :: rest =>
          if !isTail c then .invalid 2
          else match rest with
            | [] => .incomplete
            | d :: _ =>
              if isTail d then
                .char
                  (Char.ofNat ((((a.toNat - 0xF0) * 64 + load b) * 64 + load c) * 64 + load d)) 4
              else .invalid 3
  else .invalid 1

/-- Why some bytes are not UTF-8. -/
inductive Fault where
  /-- After `index` good bytes stands an ill-formed sequence of `width` bytes. -/
  | invalid (index width : Nat)
  /-- After `index` good bytes the text breaks off inside a character. -/
  | incomplete (index : Nat)
  deriving DecidableEq, Repr

/-- The fault in words. -/
def Fault.message : Fault → String
  | .invalid index width => s!"invalid utf-8 sequence of {width} bytes from index {index}"
  | .incomplete index => s!"incomplete utf-8 byte sequence from index {index}"

/-- The text that the bytes spell. It is strict: it stops at the first ill-formed sequence and says
where that is and how long its longest well-begun part is. -/
def decode (bytes : Bytes) : Except Fault Text :=
  go 0 [] bytes
where
  /-- Decodes the rest after `index` bytes gave the characters `done`, the last one first. -/
  go (index : Nat) (done : Text) : Bytes → Except Fault Text
    | [] => .ok done.reverse
    | a :: rest =>
      match step a rest with
      | .char c width => go (index + width) (c :: done) (rest.drop (width - 1))
      | .invalid width => .error (.invalid index width)
      | .incomplete => .error (.incomplete index)
  termination_by bytes => bytes.length
  decreasing_by simp only [List.length_drop, List.length_cons]; omega

/-- The text that the bytes spell, with U+FFFD in place of every ill-formed sequence. -/
def decodeLossy (bytes : Bytes) : Text :=
  go [] bytes
where
  /-- Decodes the rest after the characters `done`, the last one first. -/
  go (done : Text) : Bytes → Text
    | [] => done.reverse
    | a :: rest =>
      match step a rest with
      | .char c width => go (c :: done) (rest.drop (width - 1))
      | .invalid width => go ('\uFFFD' :: done) (rest.drop (width - 1))
      | .incomplete => ('\uFFFD' :: done).reverse
  termination_by bytes => bytes.length
  decreasing_by all_goals simp only [List.length_drop, List.length_cons]; omega

/-- The bytes that spell a text. -/
def encode (s : Text) : Bytes :=
  s.flatMap String.utf8EncodeChar

example : decode [0x68, 0xC3, 0xA9] = .ok ['h', 'é'] := by cbv
example : decode [0x61, 0xFF] = .error (.invalid 1 1) := by cbv
example : decode [0x61, 0xE2, 0x82] = .error (.incomplete 1) := by cbv
example : decode [0xE2, 0x82, 0x61] = .error (.invalid 0 2) := by cbv
example : decode [0xED, 0xA0, 0x80] = .error (.invalid 0 1) := by cbv

end Utf8

end WordMerge
