import WordMerge.Unicode.Decomposition

namespace WordMerge

namespace Normal

/-- The first syllable. -/
def firstSyllable : Nat := 0xAC00
/-- The first leading consonant. -/
def firstLead : Nat := 0x1100
/-- The first vowel. -/
def firstVowel : Nat := 0x1161
/-- The number below the first trailing consonant. -/
def beforeTrail : Nat := 0x11A7
/-- The number of leading consonants. -/
def leadCount : Nat := 19
/-- The number of vowels. -/
def vowelCount : Nat := 21
/-- The number of trailing consonants, and one for none. -/
def trailCount : Nat := 28

/-- The letters of a syllable. -/
def letters? (c : Char) : Option Text :=
  let n := c.toNat - firstSyllable
  if firstSyllable ≤ c.toNat ∧ n < leadCount * vowelCount * trailCount then
    let lead := Char.ofNat (firstLead + n / (vowelCount * trailCount))
    let vowel := Char.ofNat (firstVowel + n % (vowelCount * trailCount) / trailCount)
    let trail := if n % trailCount = 0 then [] else [Char.ofNat (beforeTrail + n % trailCount)]
    some (lead :: vowel :: trail)
  else none

/-- The syllable of two letters, or of a syllable without trailing consonant and a letter. -/
def syllable? (a b : Char) : Option Char :=
  let lead := a.toNat - firstLead
  let vowel := b.toNat - firstVowel
  let bare := a.toNat - firstSyllable
  let trail := b.toNat - beforeTrail
  if firstLead ≤ a.toNat ∧ lead < leadCount ∧ firstVowel ≤ b.toNat ∧ vowel < vowelCount then
    some (Char.ofNat (firstSyllable + (lead * vowelCount + vowel) * trailCount))
  else if firstSyllable ≤ a.toNat ∧ bare < leadCount * vowelCount * trailCount
      ∧ bare % trailCount = 0 ∧ beforeTrail < b.toNat ∧ trail < trailCount then
    some (Char.ofNat (a.toNat + trail))
  else none

/-- What a character is made of, taken apart at most so many times. -/
def partsUpTo : (bound : Nat) → Char → Text
  | 0, c => [c]
  | bound + 1, c =>
    match Decomposition.table.value? c with
    | some made => made.parts.flatMap (partsUpTo bound)
    | none => (letters? c).getD [c]

/-- What a character is made of. Four steps take every character apart; the first one that is made of
others is U+00C0. -/
def parts (c : Char) : Text :=
  if c.toNat < 0xC0 then [c] else partsUpTo 4 c

/-- Puts a character in front of a text, behind the marks of lower classes. -/
def putMark (c : Char) : Text → Text
  | [] => [c]
  | d :: rest =>
    if Decomposition.classOf d ≠ 0 ∧ Decomposition.classOf d < Decomposition.classOf c then
      d :: putMark c rest
    else c :: d :: rest

/-- The text taken apart, with its marks in order. -/
def decompose (s : Text) : Text :=
  (s.flatMap parts).foldr putMark []

/-- The character that two characters become. No second one stands before U+0300. -/
def pair? (a b : Char) : Option Char :=
  if b.toNat < 0x300 then none
  else
    match syllable? a b with
    | some c => some c
    | none =>
      (Decomposition.pairs.find? fun entry => entry.1 == a && entry.2.1 == b).map (·.2.2)

/-- Puts a text together behind the character `base` and the marks `marks` that stayed apart from it,
the last one first. A mark reaches the base unless one of its class or a higher one is between. -/
def composeBehind (base : Char) (marks : Text) : Text → Text
  | [] => base :: marks.reverse
  | c :: rest =>
    let rank := Decomposition.classOf c
    let reaches := !marks.head?.any fun mark => rank ≤ Decomposition.classOf mark
    match if reaches then pair? base c else none with
    | some made => composeBehind made marks rest
    | none =>
      if rank = 0 then base :: (marks.reverse ++ composeBehind c [] rest)
      else composeBehind base (c :: marks) rest

/-- Puts a text together. Marks at its front belong to nothing. -/
def compose (s : Text) : Text :=
  let marks := s.takeWhile (Decomposition.classOf · != 0)
  match s.drop marks.length with
  | [] => marks
  | base :: rest => marks ++ composeBehind base [] rest

/-- The canonical composed form of a text: its characters are taken apart as far as possible, marks
brought into the order of their classes, then put together again where that is possible. Texts that
look the same have the same form. -/
def form (s : Text) : Text :=
  compose (decompose s)

end Normal

end WordMerge
