import WordMerge.Text.Basic

namespace WordMerge

namespace Punycode

/-- A number below 36 as a letter or a digit. -/
def digit (n : Nat) : Char :=
  if n < 26 then Char.ofNat ('a'.toNat + n) else Char.ofNat ('0'.toNat + (n - 26))

/-- The number of values that the digit at a place spares for the last digit of a number. -/
def threshold (place bias : Nat) : Nat :=
  if place ≤ bias + 1 then 1 else if bias + 26 ≤ place then 26 else place - bias

theorem threshold_pos (place bias : Nat) : 1 ≤ threshold place bias := by
  unfold threshold
  split
  · omega
  · split <;> omega

/-- A number in digits, the lowest one first. -/
def digits (bias place n : Nat) : Text :=
  let t := threshold place bias
  if n < t then [digit n]
  else digit (t + (n - t) % (36 - t)) :: digits bias (place + 36) ((n - t) / (36 - t))
termination_by n
decreasing_by
  have positive := threshold_pos place bias
  have small := Nat.div_le_self (n - threshold place bias) (36 - threshold place bias)
  omega

/-- Takes a distance down to where the last step of the bias is made. -/
def settle (distance base : Nat) : Nat :=
  if 455 < distance then settle (distance / 35) (base + 36)
  else base + 36 * distance / (distance + 38)
termination_by distance
decreasing_by omega

/-- The bias for the numbers behind a number, with so many characters handled. -/
def adapt (distance handled : Nat) (first : Bool) : Nat :=
  let scaled := if first then distance / 700 else distance / 2
  settle (scaled + scaled / handled) 0

/-- Where the walk is. -/
structure Walk where
  /-- The distance since the last character that was written. -/
  distance : Nat := 0
  /-- The bias of the next number. -/
  bias : Nat := 72
  /-- The number of characters written. -/
  handled : Nat
  /-- The digits so far, the last one first. -/
  written : Text

/-- Goes on to the next place, which holds `c`, in the round of the character `turn`. -/
def Walk.pass (turn : Char) (ascii : Nat) (walk : Walk) (c : Char) : Walk :=
  if c < turn then { walk with distance := walk.distance + 1 }
  else if c = turn then
    { distance := 0
      bias := adapt walk.distance (walk.handled + 1) (walk.handled == ascii)
      handled := walk.handled + 1
      written := (digits walk.bias 36 walk.distance).reverse ++ walk.written }
  else walk

/-- Walks the rounds of the given characters, in order, from the character with number `next`. -/
def rounds (label : Text) (ascii : Nat) (walk : Walk) (next : Nat) : List Char → Walk
  | [] => walk
  | turn :: rest =>
    let start :=
      { walk with distance := walk.distance + (turn.toNat - next) * (walk.handled + 1) }
    let done := label.foldl (Walk.pass turn ascii) start
    rounds label ascii { done with distance := done.distance + 1 } (turn.toNat + 1) rest

/-- Whether a character is ASCII. -/
def isAscii (c : Char) : Bool :=
  c.toNat < 0x80

/-- The characters of a text that are not ASCII, each once and in order. -/
def turns (label : Text) : List Char :=
  ((label.filter fun c => !isAscii c).mergeSort (· ≤ ·)).eraseDups

/-- The ASCII form of a label, without the mark in front of it. -/
def encode (label : Text) : Text :=
  let ascii := label.filter isAscii
  let lead := if ascii.isEmpty then [] else ascii ++ ['-']
  let walk := rounds label ascii.length ⟨0, 72, ascii.length, []⟩ 0x80 (turns label)
  lead ++ walk.written.reverse

/-- The number that a letter or a digit stands for. -/
def digitValue? (c : Char) : Option Nat :=
  if 'a' ≤ c ∧ c ≤ 'z' then some (c.toNat - 'a'.toNat)
  else if '0' ≤ c ∧ c ≤ '9' then some (c.toNat - '0'.toNat + 26)
  else none

/-- The number that numbers must stay below while a label is read. -/
def numberLimit : Nat := Nat.pow 2 32

/-- Reads one number: digits, the lowest one first, up to one below the threshold of its place. Gives
the number added to `total`, and the text behind it. -/
def number? (bias place weight total : Nat) : Text → Option (Nat × Text)
  | [] => none
  | c :: rest =>
    match digitValue? c with
    | none => none
    | some value =>
      let total := total + value * weight
      let t := threshold place bias
      if numberLimit ≤ total then none
      else if value < t then some (total, rest)
      else if numberLimit ≤ weight * (36 - t) then none
      else number? bias (place + 36) (weight * (36 - t)) total rest

/-- Reads numbers and puts a character into the text `done` for each: a number tells how far to go
on in the walk through all characters and places. The walk is at the character with the number
`turn` and at the place `place`. Each number takes at least one of the `bound` digits. -/
def insertions? : (bound : Nat) → (bias turn place : Nat) → (done : Text) → Text → Option Text
  | _, _, _, _, done, [] => some done
  | 0, _, _, _, _, _ => none
  | bound + 1, bias, turn, place, done, s =>
    match number? bias 36 1 place s with
    | none => none
    | some (total, rest) =>
      let handled := done.length + 1
      let turn := turn + total / handled
      let next := total % handled
      if turn.isValidChar then
        insertions? bound (adapt (total - place) handled (place == 0)) turn (next + 1)
          (done.insertIdx next (Char.ofNat turn)) rest
      else none

/-- The label that an ASCII form without its mark spells. The ASCII characters of the label stand
before the last hyphen, unless that is the first character. -/
def decode? (s : Text) : Option Text :=
  let back := s.reverse.takeWhile (· != '-')
  let front := s.take (s.length - back.length - 1)
  if front.isEmpty then insertions? s.length 72 0x80 0 [] s
  else insertions? s.length 72 0x80 0 front back.reverse

end Punycode

end WordMerge
