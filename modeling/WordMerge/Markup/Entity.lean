import WordMerge.Text.Unsigned

namespace WordMerge

namespace Entity

/-- How a character stands in character data. -/
def escapeChar (c : Char) : Text :=
  if c = '&' then ['&', 'a', 'm', 'p', ';']
  else if c = '<' then ['&', 'l', 't', ';']
  else if c = '>' then ['&', 'g', 't', ';']
  else [c]

/-- A text as character data. -/
def escape (s : Text) : Text :=
  s.flatMap escapeChar

/-- The character with the given number. Surrogates and numbers past U+10FFFF have none. -/
def charOf? (n : Nat) : Option Char :=
  if h : n.isValidChar then some (Char.ofNatAux n h) else none

/-- The character that the name between ampersand and semicolon stands for. Numbers are below
`2 ^ 32`, decimal, or hexadecimal behind the letter x. -/
def resolve? (name : Text) : Option Char :=
  match name with
  | ['a', 'm', 'p'] => some '&'
  | ['l', 't'] => some '<'
  | ['g', 't'] => some '>'
  | ['q', 'u', 'o', 't'] => some '"'
  | ['a', 'p', 'o', 's'] => some '\''
  | '#' :: 'x' :: hex => (Text.unsigned? 16 (Nat.pow 2 32) hex).bind charOf?
  | '#' :: 'X' :: hex => (Text.unsigned? 16 (Nat.pow 2 32) hex).bind charOf?
  | '#' :: decimal => (Text.unsigned? 10 (Nat.pow 2 32) decimal).bind charOf?
  | _ => none

/-- Reads a reference behind its ampersand: the name runs to the next semicolon, wherever that
stands. -/
def reference? (s : Text) : Option (Char × Text) :=
  match s.dropWhile (· ≠ ';') with
  | [] => none
  | _ :: rest => (resolve? (s.takeWhile (· ≠ ';'))).map (·, rest)

theorem reference?_length {s rest : Text} {c : Char} (read : reference? s = some (c, rest)) :
    rest.length < s.length := by
  have short := (List.dropWhile_suffix (l := s) (· ≠ ';')).length_le
  unfold reference? at read
  split at read
  · simp at read
  · next d tail found =>
    simp only [Option.map_eq_some_iff, Prod.mk.injEq] at read
    obtain ⟨_, _, _, same⟩ := read
    rw [found] at short
    simp only [List.length_cons] at short
    rw [← same]
    omega

/-- The text that character data stands for. An ampersand that begins no known reference stays. -/
def unescape (s : Text) : Text :=
  go [] s
where
  /-- Goes on after the characters `done`, the last one first. -/
  go (done : Text) : Text → Text
    | [] => done.reverse
    | c :: rest =>
      if c = '&' then
        match found : reference? rest with
        | some (d, after) =>
          have := reference?_length found
          go (d :: done) after
        | none => go ('&' :: done) rest
      else go (c :: done) rest
  termination_by s => s.length
  decreasing_by all_goals simp; try omega

example : unescape "a &amp;&#60;&#X3e; &nbsp;&".toList = "a &<> &nbsp;&".toList := by cbv

end Entity

end WordMerge
