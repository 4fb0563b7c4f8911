namespace WordMerge

/-- A finite double: `significand * 2 ^ exponent`, with a sign that zero has too. A normal number
has a significand of 53 bits; smaller ones have the least exponent. -/
structure Double where
  /-- Whether the sign is minus. -/
  negative : Bool
  /-- The binary digits as a whole number below `2 ^ 53`. -/
  significand : Nat
  /-- The power of two that scales it, from -1074 to 971. -/
  exponent : Int
  deriving DecidableEq, Repr

namespace Double

/-- The least exponent of the format. -/
def leastExponent : Int := -1074

/-- The greatest exponent of the format. -/
def greatestExponent : Int := 971

/-- Zero with the plus sign. -/
def zero : Double := ⟨false, 0, leastExponent⟩

/-- Whether the number is zero, of either sign. -/
def isZero (d : Double) : Bool :=
  d.significand == 0

/-- The number with the other sign. -/
def neg (d : Double) : Double :=
  { d with negative := !d.negative }

/-- The whole number nearest to a quotient, an exact half going to the even one. -/
def roundHalfEven (num den : Nat) : Nat :=
  let q := num / den
  let r := num % den
  if 2 * r < den then q
  else if den < 2 * r then q + 1
  else if q % 2 = 0 then q else q + 1

/-- The quotient `num / den / 2 ^ e` as a quotient of whole numbers. -/
def scaleDown (num den : Nat) (e : Int) : Nat × Nat :=
  if e < 0 then (num * Nat.pow 2 (-e).toNat, den) else (num, den * Nat.pow 2 e.toNat)

/-- The double nearest to the quotient `num / den`, without a sign; none if it lies past the
greatest one. -/
def ofQuotient? (num den : Nat) : Option Double :=
  if num = 0 then some zero
  else
    let guess := (num.log2 : Int) - (den.log2 : Int) - 53
    let low := max leastExponent guess
    let atLow := scaleDown num den low
    let e := if atLow.1 / atLow.2 < Nat.pow 2 53 then low else low + 1
    let scaled := scaleDown num den e
    let m := roundHalfEven scaled.1 scaled.2
    let d := if m < Nat.pow 2 53 then Double.mk false m e else Double.mk false (Nat.pow 2 52) (e + 1)
    if d.exponent ≤ greatestExponent then some d else none

/-- The absolute value as a quotient of whole numbers. -/
def quotient (d : Double) : Nat × Nat :=
  if d.exponent < 0 then (d.significand, Nat.pow 2 (-d.exponent).toNat)
  else (d.significand * Nat.pow 2 d.exponent.toNat, 1)

/-- The rounded product of the absolute values. -/
def mul? (a b : Double) : Option Double :=
  let p := a.quotient
  let q := b.quotient
  ofQuotient? (p.1 * q.1) (p.2 * q.2)

/-- The rounded quotient of the absolute values. -/
def div? (a b : Double) : Option Double :=
  let p := a.quotient
  let q := b.quotient
  if q.1 = 0 then none else ofQuotient? (p.1 * q.2) (p.2 * q.1)

/-- The greatest power of ten that is a finite double. -/
def tenLimit : Nat := 308

/-- Divides by a power of ten that has been rounded to a double. -/
def divByPower (d : Double) (n : Nat) : Option Double :=
  (ofQuotient? (Nat.pow 10 n) 1).bind (div? d)

/-- Divides by `10 ^ n` rounded to a double, in steps of `10 ^ 308` where `n` is greater. There are
at most `steps` such steps. -/
def divByTen (d : Double) : (steps n : Nat) → Option Double
  | 0, n => divByPower d n
  | steps + 1, n =>
    if n ≤ tenLimit then divByPower d n
    else if d.isZero then some d
    else (divByPower d tenLimit).bind fun smaller => divByTen smaller steps (n - tenLimit)

/-- Multiplies by `10 ^ n` rounded to a double; none if the result or a power that is not needed
for zero is past the greatest double. -/
def mulByTen (d : Double) (n : Nat) : Option Double :=
  if n ≤ tenLimit then (ofQuotient? (Nat.pow 10 n) 1).bind (mul? d)
  else if d.isZero then some d
  else none

/-- The double for `significand * 10 ^ exponent`: the significand is rounded first and the power of
ten is rounded too, so the result can be one step off the nearest double. -/
def ofScientific? (significand : Nat) (exponent : Int) : Option Double :=
  (ofQuotient? significand 1).bind fun d =>
    if exponent < 0 then divByTen d (-exponent).toNat (-exponent).toNat
    else mulByTen d exponent.toNat

end Double

end WordMerge
