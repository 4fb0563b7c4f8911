import WordMerge.Text.Utf8

namespace WordMerge

namespace Deflate

/-- Bytes read bit by bit, the low bits of a byte first. -/
structure BitSource where
  /-- The bits of the last byte that were not taken yet, as a number. -/
  held : Nat := 0
  /-- How many bits are held. -/
  count : Nat := 0
  /-- The bytes behind them. -/
  rest : Bytes

namespace BitSource

/-- Takes one bit. -/
def bit? (s : BitSource) : Option (Nat × BitSource) :=
  match s.count with
  | count + 1 => some (s.held % 2, ⟨s.held / 2, count, s.rest⟩)
  | 0 =>
    match s.rest with
    | [] => none
    | b :: rest => some (b.toNat % 2, ⟨b.toNat / 2, 7, rest⟩)

/-- Takes a number of so many bits, the low bit first. -/
def bits? (s : BitSource) : Nat → Option (Nat × BitSource)
  | 0 => some (0, s)
  | n + 1 =>
    match s.bit? with
    | none => none
    | some (low, s) =>
      match s.bits? n with
      | none => none
      | some (high, s) => some (low + 2 * high, s)

end BitSource

/-- A canonical prefix code: how many codes there are of each length, and the symbols in the order
of their codes. -/
structure PrefixCode where
  /-- The number of codes of each length from 1 to 15. -/
  counts : List Nat
  /-- The symbols, the shortest codes first. -/
  symbols : Array Nat

namespace PrefixCode

/-- The greatest length of a code. -/
def lengthLimit : Nat := 15

/-- The space that codes of all lengths leave of `2 ^ 15` codes of the greatest length; none if they
need more than there is. -/
def unused? (counts : List Nat) : Option Nat :=
  go 1 counts
where
  /-- Doubles the space at each length and takes the codes of that length off. -/
  go (space : Nat) : List Nat → Option Nat
    | [] => some space
    | count :: rest => if 2 * space < count then none else go (2 * space - count) rest

/-- The code in which each symbol has the given length, zero for a symbol without a code. The code
has to be complete. Only where `sparse` is set it may also have no symbol, or one of length one. -/
def ofLengths? (sparse : Bool) (lengths : List Nat) : Option PrefixCode :=
  let counts := (List.range lengthLimit).map fun n => lengths.count (n + 1)
  let symbols := (List.range lengthLimit).flatMap fun n =>
    (lengths.zipIdx.filter fun entry => entry.1 == n + 1).map (·.2)
  let alone := symbols.isEmpty || (symbols.length == 1 && counts.head? == some 1)
  if unused? counts = some 0 ∨ sparse ∧ alone then some ⟨counts, symbols.toArray⟩ else none

/-- Takes one symbol, its code the high bit first. -/
def symbol? (code : PrefixCode) (s : BitSource) : Option (Nat × BitSource) :=
  go 0 0 0 s code.counts
where
  /-- Goes on with the bits `value` taken; `first` is the first code of the length before, doubled,
  and `index` the number of symbols with shorter codes. -/
  go (value first index : Nat) (s : BitSource) : List Nat → Option (Nat × BitSource)
    | [] => none
    | count :: longer =>
      match s.bit? with
      | none => none
      | some (b, s) =>
        let value := 2 * value + b
        if value < first + count then
          (code.symbols[index + (value - first)]?).map (·, s)
        else go value (2 * (first + count)) (index + count) s longer

end PrefixCode

/-- The code of literals and lengths in blocks with fixed codes. -/
def fixedLiterals : List Nat :=
  List.replicate 144 8 ++ List.replicate 112 9 ++ List.replicate 24 7 ++ List.replicate 8 8

/-- The code of distances in blocks with fixed codes. -/
def fixedDistances : List Nat :=
  List.replicate 32 5

/-- For the symbols from 257 on, the least length and the number of bits that are added to it. -/
def lengthTable : Array (Nat × Nat) :=
  #[(3, 0), (4, 0), (5, 0), (6, 0), (7, 0), (8, 0), (9, 0), (10, 0), (11, 1), (13, 1), (15, 1),
    (17, 1), (19, 2), (23, 2), (27, 2), (31, 2), (35, 3), (43, 3), (51, 3), (59, 3), (67, 4),
    (83, 4), (99, 4), (115, 4), (131, 5), (163, 5), (195, 5), (227, 5), (258, 0)]

/-- For each distance symbol, the least distance and the number of bits that are added to it. -/
def distanceTable : Array (Nat × Nat) :=
  #[(1, 0), (2, 0), (3, 0), (4, 0), (5, 1), (7, 1), (9, 2), (13, 2), (17, 3), (25, 3), (33, 4),
    (49, 4), (65, 5), (97, 5), (129, 6), (193, 6), (257, 7), (385, 7), (513, 8), (769, 8),
    (1025, 9), (1537, 9), (2049, 10), (3073, 10), (4097, 11), (6145, 11), (8193, 12), (12289, 12),
    (16385, 13), (24577, 13)]

/-- Takes the bits that a table entry asks for and adds them to its base. -/
def tableValue? (table : Array (Nat × Nat)) (index : Nat) (s : BitSource) :
    Option (Nat × BitSource) := do
  let (base, extra) ← table[index]?
  let (more, s) ← s.bits? extra
  return (base + more, s)

/-- Writes `length` bytes again that were written `distance` bytes ago. Before the first byte there
are zeros. -/
def copyBack (out : Array UInt8) (distance : Nat) : Nat → Array UInt8
  | 0 => out
  | length + 1 =>
    let b := if distance ≤ out.size then out.getD (out.size - distance) 0 else 0
    copyBack (out.push b) distance length

/-- Reads literals and references until the end of the block; each takes at least one bit. -/
def symbols? (literals distances : PrefixCode) :
    Nat → Array UInt8 → BitSource → Option (Array UInt8 × BitSource)
  | 0, _, _ => none
  | bound + 1, out, s =>
    match literals.symbol? s with
    | none => none
    | some (symbol, s) =>
      if symbol < 256 then symbols? literals distances bound (out.push (UInt8.ofNat symbol)) s
      else if symbol = 256 then some (out, s)
      else
        match tableValue? lengthTable (symbol - 257) s with
        | none => none
        | some (length, s) =>
          match (distances.symbol? s).bind fun r => tableValue? distanceTable r.1 r.2 with
          | none => none
          | some (distance, s) => symbols? literals distances bound (copyBack out distance length) s

/-- The order in which the lengths of the code for code lengths are given. -/
def lengthOrder : List Nat :=
  [16, 17, 18, 0, 8, 7, 9, 6, 10, 5, 11, 4, 12, 3, 13, 2, 14, 1, 15]

/-- Reads `total` code lengths, of which some are there already, the last one first. -/
def codeLengths? (code : PrefixCode) (total : Nat) :
    Nat → List Nat → BitSource → Option (List Nat × BitSource)
  | 0, done, s => if done.length = total then some (done.reverse, s) else none
  | bound + 1, done, s =>
    if total ≤ done.length then
      if done.length = total then some (done.reverse, s) else none
    else
      match code.symbol? s with
      | none => none
      | some (symbol, s) =>
        if symbol < 16 then codeLengths? code total bound (symbol :: done) s
        else
          let repetition : Option (Nat × Nat × Nat) :=
            if symbol = 16 then done.head?.map (·, 2, 3)
            else if symbol = 17 then some (0, 3, 3)
            else some (0, 7, 11)
          match repetition with
          | none => none
          | some (value, extra, least) =>
            match s.bits? extra with
            | none => none
            | some (more, s) =>
              codeLengths? code total bound (List.replicate (least + more) value ++ done) s

/-- Reads the two codes at the front of a block. -/
def codes? (s : BitSource) : Option (PrefixCode × PrefixCode × BitSource) := do
  let (literalCount, s) ← s.bits? 5
  let (distanceCount, s) ← s.bits? 5
  let (orderCount, s) ← s.bits? 4
  let literalCount := literalCount + 257
  let distanceCount := distanceCount + 1
  guard (literalCount ≤ 286 ∧ distanceCount ≤ 30)
  let (given, s) ← orderLengths (orderCount + 4) [] s
  let lengths := (List.range 19).map fun symbol =>
    ((lengthOrder.zip given).lookup symbol).getD 0
  let code ← PrefixCode.ofLengths? false lengths
  let total := literalCount + distanceCount
  let (all, s) ← codeLengths? code total total [] s
  let literals ← PrefixCode.ofLengths? true (all.take literalCount)
  let distances ← PrefixCode.ofLengths? true (all.drop literalCount)
  return (literals, distances, s)
where
  /-- Reads so many lengths of three bits. -/
  orderLengths : Nat → List Nat → BitSource → Option (List Nat × BitSource)
    | 0, done, s => some (done.reverse, s)
    | n + 1, done, s =>
      match s.bits? 3 with
      | none => none
      | some (length, s) => orderLengths n (length :: done) s

/-- Reads a stored block behind its header: the bits up to the next whole byte are skipped, the
length comes twice, the second time with all bits turned. -/
def stored? (out : Array UInt8) (s : BitSource) : Option (Array UInt8 × BitSource) :=
  match s.rest with
  | a :: b :: c :: d :: rest =>
    let length := a.toNat + 256 * b.toNat
    let data := rest.take length
    if length + (c.toNat + 256 * d.toNat) = 0xFFFF ∧ data.length = length then
      some (out ++ data.toArray, ⟨0, 0, rest.drop length⟩)
    else none
  | _ => none

/-- Reads the blocks of some data up to the last one; each takes at least one bit. -/
def blocks? (bound : Nat) : Nat → Array UInt8 → BitSource → Option (Array UInt8)
  | 0, _, _ => none
  | more + 1, out, s =>
    match s.bit? with
    | none => none
    | some (last, s) =>
      match s.bits? 2 with
      | none => none
      | some (kind, s) =>
        let block :=
          if kind = 0 then stored? out s
          else if kind = 1 then do
            let literals ← PrefixCode.ofLengths? false fixedLiterals
            let distances ← PrefixCode.ofLengths? false fixedDistances
            symbols? literals distances bound out s
          else if kind = 2 then do
            let (literals, distances, s) ← codes? s
            symbols? literals distances bound out s
          else none
        match block with
        | none => none
        | some (out, s) => if last = 1 then some out else blocks? bound more out s

/-- The data that the bytes stand for; nothing if the format is broken or the last block does not
end. Blocks hold data as it is, or literals and references back in prefix codes that are fixed or
described in the block. What follows the last block is ignored. No bytes stand for no data. -/
def inflate? (bytes : Bytes) : Option Bytes :=
  let bound := 8 * bytes.length + 1
  if bytes.isEmpty then some []
  else (blocks? bound bound #[] ⟨0, 0, bytes⟩).map Array.toList

/-- The greatest length of a stored block. -/
def storedLimit : Nat := 0xFFFF

/-- One stored block; the flag says whether it is the last one. -/
def storedBlock (last : Bool) (data : Bytes) : Bytes :=
  let n := data.length
  (if last then 1 else 0) :: UInt8.ofNat (n % 256) :: UInt8.ofNat (n / 256)
    :: UInt8.ofNat (255 - n % 256) :: UInt8.ofNat (255 - n / 256) :: data

/-- The data as stored blocks. -/
def store (data : Bytes) : Bytes :=
  go [] (data.length / storedLimit) data
where
  /-- Adds so many full blocks and a last one to the blocks `done`, the last of them first. -/
  go (done : List Bytes) : Nat → Bytes → Bytes
    | 0, data => (storedBlock true data :: done).reverse.flatten
    | n + 1, data =>
      go (storedBlock false (data.take storedLimit) :: done) n (data.drop storedLimit)

end Deflate

end WordMerge
