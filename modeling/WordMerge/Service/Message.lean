import WordMerge.Json.Writer
import WordMerge.Service.ServiceError

namespace WordMerge

/-- A request. -/
structure Request where
  /-- What is to be done. -/
  method : Text
  /-- What it is about: a path, and a query behind a question mark. A scheme and a host may stand in
  front, and a fragment may follow. -/
  target : Text
  /-- The header fields in order. -/
  headers : List (Text × Bytes)
  /-- The body. -/
  body : Bytes
  deriving Repr

namespace Request

/-- The first header field of the given name, whose case does not count. -/
def header? (request : Request) (name : Text) : Option Bytes :=
  (request.headers.find? fun field => Text.lower field.1 == name).map Prod.snd

/-- The path: what stands before the query and the fragment. Behind a scheme and a host it may be left
out. A target that begins neither with a slash nor with a scheme has none. -/
def path (request : Request) : Text :=
  let resource := request.target.takeWhile fun c => c != '?' && c != '#'
  if resource.head? = some '/' ∨ resource = ['*'] then resource
  else if Text.occurs "://".toList resource then
    let path := (Text.cutThrough "://".toList resource).2.dropWhile (· != '/')
    if path.isEmpty then ['/'] else path
  else []

end Request

/-- What a response carries. -/
inductive Content where
  /-- Nothing. -/
  | empty
  /-- A JSON value. -/
  | json (value : Value)
  /-- The bytes of a document or a file. -/
  | bytes (data : Bytes)

/-- The bytes of a content. -/
def Content.toBytes : Content → Bytes
  | .empty => []
  | .json value => Utf8.encode (Json.write value)
  | .bytes data => data

/-- A response. -/
structure Response where
  /-- The status. -/
  status : Nat
  /-- The header fields. -/
  headers : List (Text × Text) := []
  /-- The body. -/
  content : Content := .empty

namespace Response

/-- The response with one more header field. -/
def withHeader (response : Response) (name value : String) : Response :=
  { response with headers := response.headers ++ [(name.toList, value.toList)] }

/-- The response without its body. -/
def withoutContent (response : Response) : Response :=
  { response with content := .empty }

/-- A header field of the response. -/
def header? (response : Response) (name : Text) : Option Text :=
  response.headers.lookup name

/-- A response with a JSON value. -/
def ofValue (status : Nat) (value : Value) : Response :=
  { status
    headers := [("content-type".toList, "application/json".toList)]
    content := .json value }

/-- The response that tells an error. -/
def ofError (error : ServiceError) : Response :=
  ofValue error.status error.value

end Response

end WordMerge
