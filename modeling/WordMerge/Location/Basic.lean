import WordMerge.Location.Host
import WordMerge.Location.Path

namespace WordMerge

/-- The path of a location. -/
inductive LocationPath where
  /-- Segments with slashes between them: a text that is empty or begins with a slash. -/
  | rooted (text : Text)
  /-- A text without segments. -/
  | plain (text : Text)
  deriving DecidableEq, Repr

/-- A location. -/
structure Location where
  /-- The scheme in small letters. -/
  scheme : Text
  /-- The name of the user. -/
  user : Text := []
  /-- The password of the user. -/
  password : Text := []
  /-- The host; a location like `mailto:me` has none. -/
  host : Option Host := none
  /-- The port, if it is not that of the scheme. -/
  port : Option Nat := none
  /-- The path. -/
  path : LocationPath
  /-- What stands behind the question mark. -/
  query : Option Text := none
  /-- What stands behind the number sign. -/
  fragment : Option Text := none
  deriving DecidableEq, Repr

/-- What is known about a scheme. -/
def KnownScheme.ofScheme? (scheme : Text) : Option KnownScheme :=
  if ["http", "https", "ws", "wss", "ftp"].any (·.toList == scheme) then some .remote
  else if scheme = "file".toList then some .file
  else none

/-- The port of a scheme. -/
def defaultPort? (scheme : Text) : Option Nat :=
  if scheme = "http".toList ∨ scheme = "ws".toList then some 80
  else if scheme = "https".toList ∨ scheme = "wss".toList then some 443
  else if scheme = "ftp".toList then some 21
  else none

namespace Location

/-- The written path. Without a host, an empty first segment needs a point before it, or it would
be taken for a host. -/
def writePath (hasHost : Bool) : LocationPath → Text
  | .plain text => text
  | .rooted text => if !hasHost && "//".toList.isPrefixOf text then '/' :: '.' :: text else text

/-- The name and the password of the user, in front of the host. -/
def writeUser (location : Location) : Text :=
  if location.user.isEmpty && location.password.isEmpty then []
  else if location.password.isEmpty then location.user ++ ['@']
  else location.user ++ ':' :: location.password ++ ['@']

/-- The host with what belongs to it. -/
def writeAuthority (location : Location) : Text :=
  match location.host with
  | none => []
  | some host =>
    let port := match location.port with
      | none => []
      | some port => ':' :: Text.ofNat port
    "//".toList ++ location.writeUser ++ host.write ++ port

/-- What stands behind a mark, if it is there. -/
def writeBehind (mark : Char) : Option Text → Text
  | none => []
  | some text => mark :: text

/-- The location up to its query. -/
def writeResource (location : Location) : Text :=
  location.scheme ++ ':' :: location.writeAuthority ++ writePath location.host.isSome location.path
    ++ writeBehind '?' location.query

/-- The location as text. -/
def write (location : Location) : Text :=
  location.writeResource ++ writeBehind '#' location.fragment

/-- The written host; empty if there is none. -/
def hostText (location : Location) : Text :=
  match location.host with
  | none => []
  | some host => host.write

end Location

end WordMerge
