import WordMerge.Decimal.Shortest
import WordMerge.Text.Unsigned

namespace WordMerge

/-- A JSON number. -/
inductive Number where
  /-- A whole number from `-2 ^ 63` up to below `2 ^ 64`. -/
  | whole (n : Int)
  /-- Any other number. -/
  | double (d : Double)
  deriving DecidableEq, Repr

namespace Number

/-- The number as text. -/
def write : Number → Text
  | .whole n => if n < 0 then '-' :: Text.ofNat n.natAbs else Text.ofNat n.natAbs
  | .double d => d.write

/-- Whether the number is zero. -/
def isZero : Number → Bool
  | .whole n => n == 0
  | .double d => d.isZero

end Number

/-- A JSON value. -/
inductive Value where
  | null
  | bool (b : Bool)
  | number (n : Number)
  | string (s : Text)
  | list (items : List Value)
  | object (members : List (Text × Value))

namespace Value

instance : Inhabited Value := ⟨.null⟩

/-- The order of keys: by code points, which is also the order of their bytes. -/
def keyBefore : Text → Text → Bool
  | [], [] => false
  | [], _ :: _ => true
  | _ :: _, [] => false
  | a :: s, b :: t => a < b || (a == b && keyBefore s t)

/-- Sets a member; a key that is there already gets the new value. -/
def setMember (key : Text) (value : Value) (members : List (Text × Value)) : List (Text × Value) :=
  go [] members
where
  /-- Looks for the place of the key behind the members `passed`, the last one first. -/
  go (passed : List (Text × Value)) : List (Text × Value) → List (Text × Value)
    | [] => passed.reverse ++ [(key, value)]
    | (k, v) :: rest =>
      if k = key then passed.reverse ++ (key, value) :: rest
      else if keyBefore k key then go ((k, v) :: passed) rest
      else passed.reverse ++ (key, value) :: (k, v) :: rest

/-- The object with the given members; of members with one key the last counts. -/
def ofMembers (members : List (Text × Value)) : Value :=
  .object (members.foldl (fun sorted m => setMember m.1 m.2 sorted) [])

/-- The member of an object with the given key; other values have no members. -/
def member? (value : Value) (key : Text) : Option Value :=
  match value with
  | .object members => members.lookup key
  | _ => none

/-- The item of a list at the given place, counted from zero; other values have no items. -/
def item? (value : Value) (place : Nat) : Option Value :=
  match value with
  | .list items => items[place]?
  | _ => none

/-- Whether the value is an object. -/
def isObject : Value → Bool
  | .object _ => true
  | _ => false

end Value

end WordMerge
