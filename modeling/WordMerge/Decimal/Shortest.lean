import WordMerge.Decimal.Double
import WordMerge.Text.Basic

namespace WordMerge

/-- A decimal number `digits * 10 ^ exponent`. -/
structure Decimal where
  /-- The digits as a whole number. -/
  digits : Nat
  /-- The power of ten of the last digit. -/
  exponent : Int
  deriving DecidableEq, Repr

namespace Decimal

/-- The exponent of the first decimal digit of the positive quotient `num / den`. -/
def leading (num den : Nat) : Int :=
  if den ≤ num then ((Nat.toDigits 10 (num / den)).length : Int) - 1
  else -((Nat.toDigits 10 ((den + num - 1) / num - 1)).length : Int)

/-- The digits without zeros at their end, which go into the exponent. -/
def normal (d : Decimal) : Decimal :=
  go d.digits d.digits d.exponent
where
  /-- Drops one zero at a time; there are fewer of them than `fuel`. -/
  go : Nat → Nat → Int → Decimal
    | 0, n, e => ⟨n, e⟩
    | fuel + 1, n, e => if n ≠ 0 ∧ n % 10 = 0 then go fuel (n / 10) (e + 1) else ⟨n, e⟩

/-- Whether `a / den` lies in the interval of reals that round to the double `m * 2 ^ e`, all three
numbers of the interval (its middle and its half widths) being given over the denominator `den`.
The ends belong to it when the significand is even. -/
def within (a value below above : Nat) (even : Bool) : Bool :=
  if a < value then (if even then value - a ≤ below else value - a < below)
  else (if even then a - value ≤ above else a - value < above)

/-- The hit with the given number of digits, if that grid has one. -/
def onGrid? (d : Double) (count : Nat) : Option Decimal :=
  let q := d.quotient
  let first := leading q.1 q.2
  let place := first - (count : Int) + 1
  -- one unit of the grid is `10 ^ place`; everything is brought over four times the denominator
  let unit := if place < 0 then 4 * q.2 else 4 * q.2 * Nat.pow 10 place.toNat
  let factor := if place < 0 then Nat.pow 10 (-place).toNat else 1
  let value := 4 * q.1 * factor
  let halfGap := 2 * (if d.exponent < 0 then 1 else Nat.pow 2 d.exponent.toNat) * factor
  let narrow := d.significand = Nat.pow 2 52 ∧ d.exponent ≠ Double.leastExponent
  let below := if narrow then halfGap / 2 else halfGap
  let even := d.significand % 2 == 0
  let low := value / unit
  let high := low + 1
  let hitLow := within (low * unit) value below halfGap even
  let hitHigh := within (high * unit) value below halfGap even
  let choice :=
    if hitLow && hitHigh then
      let toLow := value - low * unit
      let toHigh := high * unit - value
      some (if toLow < toHigh then low
        else if toHigh < toLow then high
        else if low % 2 = 0 then low else high)
    else if hitLow then some low
    else if hitHigh then some high
    else none
  choice.map fun c => (Decimal.mk c place).normal

/-- The shortest decimal that reads back as the non-zero double. Seventeen digits always do. -/
def shortest (d : Double) : Decimal :=
  if d.isZero then ⟨0, 0⟩
  else ((List.range 17).findSome? fun n => onGrid? d (n + 1)).getD ⟨d.significand, 0⟩

end Decimal

/-- How a decimal is laid out as text. -/
structure DecimalLayout where
  /-- The least exponent of the first digit that is written in positions. -/
  leastPositional : Int
  /-- The greatest exponent of the first digit that is written in positions. -/
  greatestPositional : Int

namespace DecimalLayout

/-- Positional notation always has a fraction; scientific notation has one digit before the point,
no point if that is all, and an exponent with a sign. -/
def write (layout : DecimalLayout) (d : Decimal) : Text :=
  let digits := Text.ofNat d.digits
  let first := d.exponent + digits.length - 1
  if layout.leastPositional ≤ first ∧ first ≤ layout.greatestPositional then
    if first < 0 then
      ['0', '.'] ++ List.replicate (-first - 1).toNat '0' ++ digits
    else
      let whole := first.toNat + 1
      let padded := digits ++ List.replicate (whole - digits.length) '0'
      let fraction := padded.drop whole
      padded.take whole ++ '.' :: (if fraction.isEmpty then ['0'] else fraction)
  else
    let mantissa := match digits with
      | [] => []
      | [c] => [c]
      | c :: rest => c :: '.' :: rest
    let sign := if first < 0 then '-' else '+'
    mantissa ++ 'e' :: sign :: Text.ofNat first.natAbs

end DecimalLayout

/-- Numbers are written in positions from 0.00001 up to below 1e+16. -/
def Double.layout : DecimalLayout :=
  ⟨-5, 15⟩

/-- The double as text; zero is `0.0` or `-0.0`. -/
def Double.write (d : Double) : Text :=
  (if d.negative then ['-'] else []) ++ Double.layout.write (Decimal.shortest d)

end WordMerge
