import WordMerge.Text.Basic

namespace WordMerge

/-- The value of a digit in the given radix; both cases of a letter count. -/
def digit? (radix : Nat) (c : Char) : Option Nat :=
  let value :=
    if '0' ≤ c ∧ c ≤ '9' then some (c.toNat - '0'.toNat)
    else if 'a' ≤ c ∧ c ≤ 'f' then some (c.toNat - 'a'.toNat + 10)
    else if 'A' ≤ c ∧ c ≤ 'F' then some (c.toNat - 'A'.toNat + 10)
    else none
  value.filter (· < radix)

namespace Text

/-- The number that a non-empty row of digits spells. -/
def digits? (radix : Nat) : Text → Option Nat
  | [] => none
  | s => s.foldlM (fun total c => (digit? radix c).map (total * radix + ·)) 0

/-- An unsigned numeral: one plus sign may stand before the digits, zeros may lead them, and the
number has to stay below the bound. -/
def unsigned? (radix bound : Nat) (s : Text) : Option Nat :=
  let digits := match s with
    | '+' :: rest => rest
    | _ => s
  (digits? radix digits).filter (· < bound)

end Text

example : Text.unsigned? 10 100 "+007".toList = some 7 := by decide
example : Text.unsigned? 10 100 "100".toList = none := by decide
example : Text.unsigned? 16 256 "fF".toList = some 255 := by decide
example : Text.unsigned? 10 100 "++1".toList = none := by decide
example : Text.unsigned? 10 100 "+".toList = none := by decide

end WordMerge
