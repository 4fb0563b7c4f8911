import WordMerge.Location.Percent

namespace WordMerge

/-- The kinds of well-known schemes, whose locations have a host and a path that begins with a
slash. -/
inductive KnownScheme where
  /-- Schemes with a host that has to be named. -/
  | remote
  /-- The scheme of local files. -/
  | file
  deriving DecidableEq, Repr

/-- A path while it is written, from left to right: each segment that ends is put behind what is
written so far, or, if it consists of points, leads back over a part of it. It is kept backwards, so
that its end is at hand. -/
structure PathDraft where
  /-- What is written in front of the segment, the last character first. -/
  front : Text
  /-- What is settled of the segment, the last character first. -/
  settled : Text := []
  /-- What was read of the segment since then, the last character first. -/
  pending : Text := []
  /-- Whether the letter of a drive took the place of a host. -/
  onDrive : Bool := false
  deriving DecidableEq, Repr

namespace PathDraft

/-- Whether a character separates segments. -/
def isSlash (known : Bool) (c : Char) : Bool :=
  c == '/' || (known && c == '\\')

/-- Whether a character does not count: tabs and line ends. -/
def isFiller (c : Char) : Bool :=
  c == '\t' || c == '\n' || c == '\r'

/-- Whether a segment stands for the place where it is. -/
def isHere (segment : Text) : Bool :=
  [".", "%2e"].any (·.toList == Text.lower segment)

/-- Whether a segment leads one segment up. -/
def isUp (segment : Text) : Bool :=
  ["..", ".%2e", "%2e.", "%2e%2e"].any (·.toList == Text.lower segment)

/-- Whether a segment begins with the letter of a drive; the bar is an older spelling of the colon. -/
def beginsWithDrive : Text → Bool
  | letter :: mark :: rest =>
    letter.isAlpha && (mark == ':' || mark == '|') && (rest.isEmpty || rest.head? == some '\\')
  | _ => false

/-- Whether a segment is the letter of a drive. -/
def isDrive (segment : Text) : Bool :=
  segment.length == 2 && beginsWithDrive segment

/-- Whether a segment is the letter of a drive with a colon. -/
def isPlainDrive (segment : Text) : Bool :=
  isDrive segment && segment.getLast? == some ':'

/-- The last segment of a path. -/
def lastOf (path : Text) : Text :=
  (path.takeWhile (· != '/')).reverse

/-- The path without the slash at its end, unless that is the first slash or stands behind the letter
of a drive. -/
def withoutSlash (path : Text) : Text :=
  match path with
  | '/' :: before =>
    if before.contains '/' && !beginsWithDrive (lastOf before) then before else path
  | _ => path

/-- The path without its last segment. Among local files the letter of a drive stays. -/
def withoutLast (isFile : Bool) (path : Text) : Text :=
  if isFile && isPlainDrive (lastOf path) then path else path.drop (lastOf path).length

/-- The path with a slash at its end. -/
def withSlash (path : Text) : Text :=
  if path.head? = some '/' then path else '/' :: path

/-- Ends the segment; `slashed` tells that a slash ends it. -/
def close (isFile slashed : Bool) (draft : PathDraft) : PathDraft :=
  let segment := draft.pending ++ draft.settled
  let written := segment.reverse
  let ending := if slashed then ['/'] else []
  if isUp written then
    let path := withoutLast isFile (withoutSlash draft.front)
    { draft with front := if slashed then withSlash path else path, settled := [], pending := [] }
  else if isHere written then
    { draft with front := withSlash draft.front, settled := [], pending := [] }
  else if isFile && draft.front.length == 1 && isDrive written then
    { front := ending ++ ':' :: (written.take 1 ++ draft.front), onDrive := true }
  else { draft with front := ending ++ segment ++ draft.front, settled := [], pending := [] }

/-- Settles what was read. -/
def settle (draft : PathDraft) : PathDraft :=
  { draft with settled := draft.pending ++ draft.settled, pending := [] }

/-- Whether the settled path is a slash and the letter of a drive. -/
def isAtDrive (draft : PathDraft) : Bool :=
  match draft.settled.take 4 ++ draft.front.take 4 with
  | [':', letter, _] => letter.isAlpha
  | _ => false

/-- Puts a slash behind the letter of a drive. The segment goes on from its second character. -/
def partDrive (draft : PathDraft) : PathDraft :=
  let segment := '/' :: (draft.pending ++ draft.settled)
  { draft with
    front := segment.getLast?.toList ++ draft.front, settled := segment.dropLast, pending := [] }

/-- Takes a character into the segment. -/
def take (isFile : Bool) (draft : PathDraft) (c : Char) : PathDraft :=
  let draft := if isFile && isAtDrive draft then partDrive draft else draft
  { draft with
    pending := (Percent.encodeChar Percent.pathReserved c).reverse ++ draft.pending }

/-- Reads a text to its end. -/
def readAll (known : Option KnownScheme) (draft : PathDraft) : Text → PathDraft
  | [] => draft.close (known == some .file) false
  | c :: rest =>
    if isFiller c then readAll known draft.settle rest
    else if isSlash known.isSome c then
      readAll known (draft.close (known == some .file) true) rest
    else readAll known (draft.take (known == some .file) c) rest

/-- The path of a draft. A path of local files begins with one slash. -/
def path (isFile : Bool) (draft : PathDraft) : Text :=
  let path := draft.front.reverse
  if isFile then '/' :: path.dropWhile (· == '/') else path

/-- The path that a text spells behind the path `front`, and whether the letter of a drive took the
place of a host. -/
def read (known : Option KnownScheme) (front : Text) (s : Text) : Text × Bool :=
  let draft := readAll known { front := front.reverse } s
  (draft.path (known == some .file), draft.onDrive)

example : (read (some .remote) ['/'] "a/./b/../c".toList).1 = "/a/c".toList := by decide
example : (read (some .remote) ['/'] "C:/..".toList).1 = "/C:/".toList := by decide
example : (read (some .file) ['/'] "C|/x".toList).1 = "/C:/x".toList := by decide
example : (read none [] "/a//..".toList).1 = "/a/".toList := by decide

end PathDraft

end WordMerge
