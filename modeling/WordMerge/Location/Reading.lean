import WordMerge.Location.Basic

namespace WordMerge

namespace Location

open PathDraft (isSlash isFiller)

/-- The text without blanks and control characters at its ends. -/
def trimEdges (s : Text) : Text :=
  let isEdge := fun (c : Char) => c.toNat ≤ 0x20
  ((s.dropWhile isEdge).reverse.dropWhile isEdge).reverse

/-- The text without tabs and line ends. -/
def withoutFillers (s : Text) : Text :=
  s.filter (!isFiller ·)

/-- The scheme of a text in small letters, and what follows its colon. -/
def splitScheme? (s : Text) : Option (Text × Text) :=
  match s.dropWhile (· != ':') with
  | [] => none
  | _ :: rest =>
    let name := withoutFillers (s.takeWhile (· != ':'))
    let isPart := fun (c : Char) => c.isAlphanum || c == '+' || c == '-' || c == '.'
    if name.head?.any Char.isAlpha && name.all isPart then some (Text.lower name, rest) else none

/-- The text before the first mark, and what follows it. -/
def splitBehind (mark : Char) (s : Text) : Text × Option Text :=
  match s.dropWhile (· != mark) with
  | [] => (s, none)
  | _ :: rest => (s.takeWhile (· != mark), some rest)

/-- The text before the last mark, and what follows it. -/
def splitLast? (mark : Char) (s : Text) : Option (Text × Text) :=
  if mark ∈ s then
    let back := s.reverse.takeWhile (· != mark)
    some ((s.take (s.length - back.length - 1)), back.reverse)
  else none

/-- The text behind a slash at its front. -/
def behindSlash? (known : Bool) (s : Text) : Option Text :=
  match s.dropWhile isFiller with
  | [] => none
  | c :: rest => if isSlash known c then some rest else none

/-- A port with one more digit, as long as it is below `2 ^ 16`. -/
def appendDigit? (port : Nat) (c : Char) : Option Nat :=
  ((digit? 10 c).map (port * 10 + ·)).filter (· < Nat.pow 2 16)

/-- The port that a text of digits spells, unless it is the one of the scheme. -/
def readPort (scheme : Text) (digits : Text) : Except LocationFault (Option Nat) :=
  if digits.isEmpty then .ok none
  else
    match digits.foldlM appendDigit? 0 with
    | none => .error .port
    | some port => .ok (if defaultPort? scheme = some port then none else some port)

/-- The text of a host, and what follows it. A slash ends it, or a colon that is not in brackets. -/
def splitHost (known : Bool) (s : Text) : Text × Text :=
  go false [] s
where
  /-- Goes on behind the characters `done`, the last one first. -/
  go (bracketed : Bool) (done : Text) : Text → Text × Text
    | [] => (done.reverse, [])
    | c :: rest =>
      if (c = ':' ∧ !bracketed) ∨ isSlash known c then (done.reverse, c :: rest)
      else go (if c = '[' then true else if c = ']' then false else bracketed) (c :: done) rest

/-- The text of a port behind its colon, and what follows it: nothing, or a slash or backslash with
the path. -/
def splitPort (s : Text) : Except LocationFault (Text × Text) :=
  match s with
  | ':' :: rest =>
    let digits := rest.takeWhile Char.isDigit
    let behind := rest.drop digits.length
    if behind.head?.all (isSlash true) then .ok (digits, behind) else .error .port
  | _ => .ok ([], s)

/-- The name and the password of the user in front of a host, and what follows the sign behind them.
The last such sign before a slash counts. Where nothing stands before the sign, a host has to follow
it or the location has to end; `ended` tells that nothing follows the text. -/
def splitUser (known ended : Bool) (s : Text) : Except LocationFault (Text × Text × Text) :=
  let authority := s.takeWhile (!isSlash known ·)
  match splitLast? '@' authority with
  | none => .ok ([], [], s)
  | some (login, address) =>
    let behind := address ++ s.drop authority.length
    if login.isEmpty then
      if behind.head?.any (isSlash known) || (behind.isEmpty && !ended) then .error .noHost
      else .ok ([], [], behind)
    else
      let (user, password) := splitBehind ':' login
      .ok (user, password.getD [], behind)

/-- The path behind a host. In a well-known scheme it begins with a slash at least. -/
def pathBehindHost (known : Option KnownScheme) (s : Text) : Text × Bool :=
  if known.isSome then PathDraft.read known ['/'] ((behindSlash? true s).getD s)
  else PathDraft.read none (if s.isEmpty || s.head? = some '/' then [] else ['/']) s

/-- The location behind two slashes in a scheme; `ended` tells that it ends with the text. -/
def remoteLocation (scheme s : Text) (ended : Bool) : Except LocationFault Location := do
  let known := KnownScheme.ofScheme? scheme
  let (user, password, s) ← splitUser known.isSome ended s
  let (hostText, s) := splitHost known.isSome s
  if hostText.isEmpty && known.isSome then throw .noHost
  let host ← if known.isSome then Host.ofDomain hostText else Host.ofName hostText
  if hostText.isEmpty && s.head? = some ':' then throw .noHost
  let (digits, s) ← splitPort s
  let port ← readPort scheme digits
  if hostText.isEmpty && !(user.isEmpty && password.isEmpty) then throw .noHost
  let quoted := Percent.encode Percent.userReserved
  return { scheme, user := quoted user, password := quoted password, host := some host, port,
           path := .rooted (pathBehindHost known s).1 }

/-- The host of a local file; there may be none. The name of the own machine counts as none. -/
def fileHost (s : Text) : Except LocationFault Host :=
  if s.isEmpty then .ok (.name [])
  else
    (Host.ofDomain s).map fun host =>
      if host = .name "localhost".toList then .name [] else host

/-- The location of a local file. Behind two slashes the letter of a drive is no host, and behind a
host it takes its place. -/
def fileLocation (s : Text) : Except LocationFault Location :=
  let known := some KnownScheme.file
  let located := fun host (path : Text) =>
    ({ scheme := "file".toList, host := some host, path := .rooted path } : Location)
  match behindSlash? true s with
  | none => .ok (located (.name []) (PathDraft.read known ['/'] s).1)
  | some rest =>
    match behindSlash? true rest with
    | none => .ok (located (.name []) (PathDraft.read known [] s).1)
    | some rest =>
      let hostText := rest.takeWhile (!isSlash true ·)
      let behind := rest.drop hostText.length
      if PathDraft.isDrive (withoutFillers hostText) then
        .ok (located (.name []) (PathDraft.read known ['/'] rest).1)
      else
        (fileHost (withoutFillers hostText)).map fun host =>
          if host = .name [] then located host (PathDraft.read known ['/'] behind).1
          else
            let (path, onDrive) := pathBehindHost known behind
            located (if onDrive then .name [] else host) path

/-- The location behind the colon of a scheme; `ended` tells that it ends with the text. -/
def schemeLocation (scheme s : Text) (ended : Bool) : Except LocationFault Location :=
  match KnownScheme.ofScheme? scheme with
  | some .file => fileLocation s
  | some .remote => remoteLocation scheme ((withoutFillers s).dropWhile (isSlash true)) ended
  | none =>
    let s := withoutFillers s
    match "//".toList.isPrefixOf? s with
    | some rest => remoteLocation scheme rest ended
    | none =>
      match s with
      | '/' :: rest => .ok { scheme, path := .rooted (PathDraft.read none ['/'] rest).1 }
      | _ => .ok { scheme, path := .plain (Percent.encode Percent.plainReserved s) }

/-- A text in three parts: what stands before the query, the query, and the fragment. -/
structure Pieces where
  /-- What stands before the query. -/
  body : Text
  /-- The query. -/
  query : Option Text
  /-- The fragment. -/
  fragment : Option Text

/-- Takes a text apart. -/
def Pieces.ofText (s : Text) : Pieces :=
  let (resource, fragment) := splitBehind '#' s
  let (body, query) := splitBehind '?' resource
  ⟨body, query.map withoutFillers, fragment.map withoutFillers⟩

/-- Whether nothing stands behind the body. -/
def Pieces.isBody (pieces : Pieces) : Bool :=
  pieces.query.isNone && pieces.fragment.isNone

/-- The location with the query and the fragment of a text. -/
def withPieces (location : Location) (pieces : Pieces) : Location :=
  let reserved :=
    if (KnownScheme.ofScheme? location.scheme).isSome then Percent.knownQueryReserved
    else Percent.queryReserved
  { location with
    query := pieces.query.map (Percent.encode reserved)
    fragment := pieces.fragment.map (Percent.encode Percent.fragmentReserved) }

/-- The location that a text spells behind the colon of its scheme. -/
def ofSchemeAndRest (scheme rest : Text) : Except LocationFault Location :=
  let pieces := Pieces.ofText rest
  (schemeLocation scheme pieces.body pieces.isBody).map fun location => location.withPieces pieces

/-- The location that a text spells. Blanks around it and line ends in it do not count; in a
well-known scheme a backslash is a slash. -/
def ofText (s : Text) : Except LocationFault Location :=
  match splitScheme? (trimEdges s) with
  | none => .error .noScheme
  | some (scheme, rest) => ofSchemeAndRest scheme rest

/-- The location that a text without a scheme stands for at the place of another location. -/
def completed (base : Location) (s : Text) : Except LocationFault Location :=
  let known := KnownScheme.ofScheme? base.scheme
  let pieces := Pieces.ofText (withoutFillers s)
  let slashes := pieces.body.takeWhile (isSlash true)
  match base.path with
  | .plain _ =>
    if pieces.body.isEmpty && pieces.query.isNone && pieces.fragment.isSome then
      .ok { base with fragment := pieces.fragment.map (Percent.encode Percent.fragmentReserved) }
    else .error .noSegments
  | .rooted path =>
    if pieces.body.isEmpty then
      let query := base.query
      let located := base.withPieces pieces
      .ok (if pieces.query.isSome then located else { located with query := query })
    else if 2 ≤ slashes.length then
      let rest := ("//".toList.isPrefixOf? pieces.body).getD (pieces.body.drop slashes.length)
      (remoteLocation base.scheme rest pieces.isBody).map (·.withPieces pieces)
    else
      let above := (PathDraft.withoutLast (known == some .file) path.reverse).reverse
      let front := if slashes.isEmpty && !above.isEmpty then above else ['/']
      let path := (PathDraft.read known front (pieces.body.drop slashes.length)).1
      .ok (withPieces { base with path := .rooted path } pieces)

/-- The location that a text stands for at the place of another location. -/
def join (base : Location) (s : Text) : Except LocationFault Location :=
  let s := trimEdges s
  match splitScheme? s with
  | none => completed base s
  | some (scheme, rest) =>
    let close := KnownScheme.ofScheme? scheme = some .remote ∧ scheme = base.scheme
    if close ∧ ((withoutFillers rest).takeWhile (isSlash true)).length < 2 then completed base rest
    else ofSchemeAndRest scheme rest

end Location

end WordMerge
