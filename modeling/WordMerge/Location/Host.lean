import WordMerge.Location.Label
import WordMerge.Location.Percent

namespace WordMerge

/-- Why a text is no location. -/
inductive LocationFault where
  /-- There is no scheme, and nothing to complete the text from. -/
  | noScheme
  /-- There is no scheme, and the location to complete the text from has no segments. -/
  | noSegments
  /-- There is no host where one has to be. -/
  | noHost
  /-- The port is no number below `2 ^ 16`. -/
  | port
  /-- The host ends in a number, but is no address. -/
  | shortAddress
  /-- What stands in brackets is no address. -/
  | longAddress
  /-- A domain name has characters that it must not have. -/
  | domain
  /-- The name of a host has characters that it must not have. -/
  | hostCharacter
  deriving DecidableEq, Repr

/-- The fault in words. -/
def LocationFault.message : LocationFault → String
  | .noScheme => "relative URL without a base"
  | .noSegments => "relative URL with a cannot-be-a-base base"
  | .noHost => "empty host"
  | .port => "invalid port number"
  | .shortAddress => "invalid IPv4 address"
  | .longAddress => "invalid IPv6 address"
  | .domain => "invalid international domain name"
  | .hostCharacter => "invalid domain character"

/-- A host. -/
inductive Host where
  /-- A name, in normal form. -/
  | name (text : Text)
  /-- An address of four bytes, as one number. -/
  | short (address : Nat)
  /-- An address of eight numbers below `2 ^ 16`. -/
  | long (groups : List Nat)
  deriving DecidableEq, Repr

namespace Host

/-- The number in a part of an address: hexadecimal behind `0x`, octal behind a zero. -/
def addressPart? (part : Text) : Option Nat :=
  let number := fun radix (digits : Text) =>
    if digits.isEmpty then some 0 else Text.digits? radix digits
  match part with
  | [] => none
  | '0' :: 'x' :: digits => number 16 digits
  | '0' :: 'X' :: digits => number 16 digits
  | '0' :: d :: digits => number 8 (d :: digits)
  | digits => number 10 digits

/-- The parts of a name between its points, without the empty part behind a last point. -/
def addressParts (name : Text) : List Text :=
  let parts := name.splitOn '.'
  if parts.length > 1 ∧ parts.getLast? = some [] then parts.dropLast else parts

/-- Whether the last part of a name is a number, so that the name has to be an address. -/
def endsInNumber (name : Text) : Bool :=
  match (addressParts name).getLast? with
  | none => false
  | some last =>
    (!last.isEmpty && last.all Char.isDigit) || (addressPart? last).isSome

/-- The address of four bytes that a name spells. The last part fills the bytes that are left. -/
def shortAddress? (name : Text) : Option Nat := do
  let numbers ← (addressParts name).mapM addressPart?
  let last ← numbers.getLast?
  let bytes := numbers.dropLast
  guard (bytes.length ≤ 3 ∧ bytes.all (· < 256) ∧ last < Nat.pow 256 (4 - bytes.length))
  return bytes.foldl (fun n b => n * 256 + b) 0 * Nat.pow 256 (4 - bytes.length) + last

/-- An address of four bytes in decimal. -/
def writeShort (address : Nat) : Text :=
  ['.'].intercalate ([3, 2, 1, 0].map fun place => Text.ofNat (address / Nat.pow 256 place % 256))

/-- The number in a group of an address: one to four hexadecimal digits. -/
def group? (group : Text) : Option Nat :=
  if group.length ≤ 4 then Text.digits? 16 group else none

/-- A byte in decimal without leading zeros. -/
def decimalByte? (part : Text) : Option Nat :=
  if part.length > 1 ∧ part.head? = some '0' then none
  else (Text.digits? 10 part).filter (· < 256)

/-- The two groups that four bytes in decimal stand for. -/
def bytesGroup? (group : Text) : Option (List Nat) :=
  match (group.splitOn '.').mapM decimalByte? with
  | some [a, b, c, d] => some [a * 256 + b, c * 256 + d]
  | _ => none

/-- The groups between colons. The last one may be four bytes in decimal. -/
def groups? (closing : Bool) (s : Text) : Option (List Nat) :=
  if s.isEmpty then some [] else
    let parts := s.splitOn ':'
    match parts.getLast? with
    | none => none
    | some last =>
      if closing ∧ '.' ∈ last then
        match parts.dropLast.mapM group?, bytesGroup? last with
        | some front, some back => some (front ++ back)
        | _, _ => none
      else parts.mapM group?

/-- The address of eight numbers that a text spells. Two colons stand for the zeros that are left
out, which is at least one. -/
def longAddress? (s : Text) : Option (List Nat) :=
  if Text.occurs "::".toList s then
    let cut := Text.cutThrough "::".toList s
    match groups? false (cut.1.dropLast.dropLast), groups? true cut.2 with
    | some front, some back =>
      let given := front.length + back.length
      if given < 8 then some (front ++ List.replicate (8 - given) 0 ++ back) else none
    | _, _ => none
  else (groups? true s).filter (·.length = 8)

/-- The length of the row of zeros at the front of some numbers. -/
def zeros (groups : List Nat) : Nat :=
  (groups.takeWhile (· == 0)).length

/-- The place and the length of the longest row of zeros; of rows as long as each other the first
counts. -/
def longestZeros (groups : List Nat) : Nat × Nat :=
  go 0 (0, 0) groups
where
  /-- Goes on from a place with the best row so far. -/
  go (place : Nat) (best : Nat × Nat) : List Nat → Nat × Nat
    | [] => best
    | group :: rest =>
      let length := zeros (group :: rest)
      go (place + 1) (if best.2 < length then (place, length) else best) rest

/-- Numbers in hexadecimal between colons. -/
def writeGroups (groups : List Nat) : Text :=
  [':'].intercalate (groups.map (Nat.toDigits 16))

/-- An address of eight numbers in brackets. The longest row of more than one zero is left out. -/
def writeLong (groups : List Nat) : Text :=
  let row := longestZeros groups
  let inner :=
    if row.2 < 2 then writeGroups groups
    else writeGroups (groups.take row.1) ++ "::".toList
      ++ writeGroups (groups.drop (row.1 + row.2))
  '[' :: inner ++ [']']

/-- A host in its normal form. -/
def write : Host → Text
  | .name text => text
  | .short address => writeShort address
  | .long groups => writeLong groups

/-- The characters that no name of a host may have. -/
def isForbidden (c : Char) : Bool :=
  "\x00\t\n\r #/:<>?@[\\]^|".toList.contains c

/-- The host that a text in a well-known scheme names: an address, or a name in its one normal form,
with percent signs undone, letters made small and labels written in ASCII. -/
def ofDomain (s : Text) : Except LocationFault Host :=
  match s with
  | '[' :: rest =>
    if rest.getLast? = some ']' then
      match longAddress? rest.dropLast with
      | some groups => .ok (.long groups)
      | none => .error .longAddress
    else .error .longAddress
  | _ =>
    match (Utf8.decode (Percent.decode (Utf8.encode s))).toOption.bind domainName? with
    | none => .error .domain
    | some domain =>
      if domain.isEmpty then .error .noHost
      else if endsInNumber domain then
        match shortAddress? domain with
        | some address => .ok (.short address)
        | none => .error .shortAddress
      else .ok (.name domain)

/-- The host that a text in any other scheme names. -/
def ofName (s : Text) : Except LocationFault Host :=
  match s with
  | '[' :: _ => ofDomain s
  | _ =>
    if s.any isForbidden then .error .hostCharacter
    else .ok (.name (Percent.encode Percent.plainReserved s))

end Host

end WordMerge
