import WordMerge.Location.Percent
import WordMerge.Service.ByteRange
import WordMerge.Service.FileType
import WordMerge.Service.HeaderField
import WordMerge.Service.Message
import WordMerge.Service.Moment

namespace WordMerge

/-- A file by the names that lead to it. -/
structure HostedFile where
  /-- The names of the directories and of the file. -/
  path : List Text
  /-- The bytes of the file. -/
  data : Bytes
  /-- When the file was modified, in seconds since the start of the year 1970. -/
  modified : Nat
  deriving Repr

namespace Hosting

/-- The names between the slashes of a file's path. -/
def names (path : Text) : List Text :=
  (path.splitOn '/').filter fun name => !name.isEmpty && name != ['.']

/-- The names that a path in a request leads along, if it can lead anywhere. -/
def route? (path : Text) : Option (List Text) :=
  match Utf8.decode (Percent.decode (Utf8.encode (path.dropWhile (· == '/')))) with
  | .error _ => none
  | .ok decoded =>
    if decoded.head? = some '/' then none
    else
      let route := names decoded
      if route.any (· == "..".toList) then none else some route

/-- Whether some names lead to a directory. The root always is one. -/
def isDirectory (files : List HostedFile) (route : List Text) : Bool :=
  route.isEmpty ||
    files.any fun file => route.isPrefixOf file.path && route.length < file.path.length

/-- The greatest number of bytes in a name. -/
def maxName : Nat := 255

/-- The number of bytes that a path must stay below. -/
def maxPath : Nat := 4096

/-- The number of bytes in the path of the root. -/
def rootLength : Nat := 15

/-- The number of bytes in a name. -/
def nameLength (name : Text) : Nat :=
  (Utf8.encode name).length

/-- The number of bytes in the path that a route leads along from the root. -/
def pathLength (route : List Text) : Nat :=
  route.foldl (fun n name => n + 1 + nameLength name) rootLength

/-- Whether a name in some directory on the way is too long. Behind a name that leads to no directory
nothing is looked up any more. -/
def meetsLongName (files : List HostedFile) (done : List Text) : List Text → Bool
  | [] => false
  | name :: rest =>
    isDirectory files done && (maxName < nameLength name || meetsLongName files (done ++ [name]) rest)

/-- Whether looking up a route breaks down. -/
def breaksDown (files : List HostedFile) (route : List Text) : Bool :=
  route.any (·.contains '\x00')
    || maxPath ≤ pathLength route
    || meetsLongName files [] route

/-- Whether a condition on a moment in a header field fails. A field without a moment does not
count. -/
def failsOn (request : Request) (name : String) (fails : Nat → Bool) : Bool :=
  let moment := ((request.header? name.toList).bind HeaderField.text?).bind Moment.ofText?
  (moment.map Moment.seconds).any fails

/-- The rows of bytes that a request asks for, if it asks for any; `some none` if they cannot be
had. -/
def wantedRows (request : Request) (size : Nat) : Option (Option (List (Nat × Nat))) :=
  ((request.header? "range".toList).bind HeaderField.text?).map (ByteRange.rows? size)

/-- The response with a file or with a row of its bytes. -/
def dataResponse (file : HostedFile) (type : Text) (request : Request) : Response :=
  let headers := [("content-type".toList, type)]
  let sent := fun (data : Bytes) =>
    if request.method = "HEAD".toList then .empty else Content.bytes data
  match wantedRows request file.data.length with
  | none => { status := 200, headers, content := sent file.data }
  | some (some [(first, last)]) =>
    { status := 206, headers, content := sent ((file.data.drop first).take (last + 1 - first)) }
  | some (some _) =>
    { status := 416, headers
      content := .bytes (Utf8.encode "Cannot serve multipart range requests".toList) }
  | some none => { status := 416, headers }

/-- The response to a request for the file at the end of a route. -/
def fileResponse (files : List HostedFile) (route : List Text) (request : Request) : Response :=
  match files.find? fun file => file.path == route with
  | none => { status := 404 }
  | some file =>
    if failsOn request "if-unmodified-since" (· < file.modified) then { status := 412 }
    else if failsOn request "if-modified-since" (file.modified ≤ ·) then { status := 304 }
    else dataResponse file (FileType.ofName (route.getLast?.getD [])) request

/-- The response to a request for what is at a path below the root. -/
def find (files : List HostedFile) (path : Text) (request : Request) : Response :=
  match route? path with
  | none => { status := 404 }
  | some route =>
    if breaksDown files route then { status := 500 }
    else if isDirectory files route then
      if path.getLast? = some '/' then fileResponse files (route ++ ["index.html".toList]) request
      else { status := 307 }
    else fileResponse files route request

/-- The response to a request for what is at a path below the root. Only reading is possible: of the
file, of some of its bytes, or of the file only if it was modified since a moment. -/
def respond (files : List HostedFile) (path : Text) (request : Request) : Response :=
  let response :=
    if request.method = "GET".toList ∨ request.method = "HEAD".toList then find files path request
    else ({ status := 405 } : Response).withHeader "allow" "GET,HEAD"
  response.withHeader "cache-control" "public, max-age=31536000, immutable"

end Hosting

end WordMerge
