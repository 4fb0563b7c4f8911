import WordMerge.Package.Render
import WordMerge.Service.Disposition
import WordMerge.Service.Hosting
import WordMerge.Service.MediaType
import WordMerge.Service.RenderRequest

namespace WordMerge

/-- What comes of making a document. -/
inductive MakingResult where
  /-- It is finished. -/
  | finished (result : Except EngineFailure Bytes)
  /-- It broke down. -/
  | crashed

/-- The making of a document. -/
structure Making where
  /-- What comes of it. -/
  result : MakingResult
  /-- How long it takes. -/
  milliseconds : Nat := 0

/-- The service. -/
structure Service where
  /-- Fetches a template. -/
  fetch : Location → Except FetchError Bytes
  /-- Makes a document from a template and data. -/
  make : Bytes → Value → Making
  /-- How long the making of a document may take. -/
  timeout : Nat := 10000
  /-- The key that clients have to show, if there is one. -/
  apiKey : Option Text := none
  /-- Whether pages of other origins may use the service. -/
  cors : Bool := true
  /-- The files that are handed out. -/
  files : List HostedFile := []

/-- A response, and what was done for it. -/
structure Exchange where
  /-- The response. -/
  response : Response
  /-- The number of templates that were fetched or tried to fetch. -/
  fetches : Nat := 0
  /-- The number of documents that were made or tried to make. -/
  renders : Nat := 0

/-- The exchange with a response for which nothing had to be done. -/
def Response.alone (response : Response) : Exchange :=
  { response }

namespace Service

/-- The making of a document by the engine of this library. -/
def engine (template : Bytes) (data : Value) : Making :=
  { result := .finished ((renderDocument template data {}).mapError EngineError.failure) }

/-- The greatest number of bytes in the body of a request. -/
def maxBody : Nat := 10485760

/-- The request that a body with its header fields holds. -/
def payload (request : Request) : Except Text RenderRequest :=
  if !(request.header? "content-type".toList).any MediaType.isJson then
    .error "Expected request with `Content-Type: application/json`".toList
  else if maxBody < request.body.length then
    .error "Failed to buffer the request body: length limit exceeded".toList
  else
    match RenderRequest.read request.body with
    | .ok request => .ok request
    | .error fault => .error fault.message.toList

/-- The job that a request asks for. -/
def job (request : Request) : Except ServiceError RenderJob :=
  match payload request with
  | .error reason => .error (.badRequest reason)
  | .ok wanted =>
    match wanted.validate with
    | .ok job => .ok job
    | .error fault => .error (.badRequest fault.message)

/-- The type of the content of a document. -/
def documentType : String :=
  "application/vnd.openxmlformats-officedocument.wordprocessingml.document"

/-- The response with a document. -/
def documentResponse (document : Bytes) (fileName : Text) : Except ServiceError Response :=
  let disposition := Disposition.write fileName
  if Disposition.isFieldText disposition then
    .ok { status := 200
          headers := [("content-type".toList, documentType.toList),
            ("content-disposition".toList, disposition)]
          content := .bytes document }
  else .error (.internal "Invalid Content-Disposition: failed to parse header value".toList)

/-- The document that comes of its making, unless that takes too long. -/
def made (service : Service) (making : Making) : Except ServiceError Bytes :=
  if service.timeout ≤ making.milliseconds then .error (.timeout service.timeout)
  else
    match making.result with
    | .crashed => .error (.internal "Render task failed".toList)
    | .finished (.ok document) => .ok document
    | .finished (.error failure) => .error (.ofEngine failure)

/-- The response that a result stands for. -/
def answer (result : Except ServiceError Response) : Response :=
  match result with
  | .ok response => response
  | .error error => Response.ofError error

/-- Makes the document that a request asks for. -/
def render (service : Service) (request : Request) : Exchange :=
  match job request with
  | .error error => (Response.ofError error).alone
  | .ok job =>
    match service.fetch job.location with
    | .error error => ⟨Response.ofError (.fetchFailed error), 1, 0⟩
    | .ok template =>
      match service.made (service.make template job.data) with
      | .error error => ⟨Response.ofError error, 1, 1⟩
      | .ok document => ⟨answer (documentResponse document job.fileName), 1, 1⟩

/-- Whether a request shows the key. A request without the header field shows the empty key. -/
def admits (service : Service) (request : Request) : Bool :=
  match service.apiKey with
  | none => true
  | some key => (request.header? "x-api-key".toList).getD [] == Utf8.encode key

/-- The response to a method that a route does not have. -/
def wrongMethod : Response :=
  { status := 405 }

/-- The methods of making documents. -/
def renderMethods : String := "POST"

/-- The methods of asking for the state. -/
def healthMethods : String := "GET,HEAD"

/-- What the service says about its state. -/
def health : Value :=
  Value.ofMembers [("ok".toList, .bool true),
    ("service".toList, .string "docx-render-server".toList),
    ("version".toList, .string "0.1.0".toList)]

/-- The response about the state. -/
def healthResponse (method : Text) : Response :=
  if method = "GET".toList then .ofValue 200 health
  else if method = "HEAD".toList then (Response.ofValue 200 health).withoutContent
  else wrongMethod.withHeader "allow" healthMethods

/-- The exchange about making a document. -/
def renderExchange (service : Service) (request : Request) : Exchange :=
  let posted := request.method = "POST".toList
  if !service.admits request then
    let response := Response.ofError .unauthorized
    (if posted then response else response.withHeader "allow" renderMethods).alone
  else if posted then service.render request
  else (wrongMethod.withHeader "allow" renderMethods).alone

/-- What the path of a request leads to. -/
inductive Route where
  /-- The state. -/
  | health
  /-- Making documents. -/
  | render
  /-- A file, by its path. -/
  | file (path : Text)
  /-- Nothing. -/
  | nowhere
  deriving DecidableEq, Repr

/-- The path below which the files are. -/
def filesRoot : Text :=
  "/templates".toList

/-- The route of a path. -/
def Route.ofPath (path : Text) : Route :=
  if path = "/health".toList then .health
  else if path = "/render".toList then .render
  else
    match filesRoot.isPrefixOf? path with
    | some [] => .file ['/']
    | some ('/' :: rest) => .file ('/' :: rest)
    | _ => .nowhere

/-- The exchange about a request, apart from what concerns other origins. -/
def exchange (service : Service) (request : Request) : Exchange :=
  match Route.ofPath request.path with
  | .health => (healthResponse request.method).alone
  | .render => service.renderExchange request
  | .file path => (Hosting.respond service.files path request).alone
  | .nowhere => Response.alone { status := 404 }

/-- The response tells pages of every origin that they may read it. -/
def shared (response : Response) : Response :=
  response.withHeader "access-control-allow-origin" "*"

/-- The response to the question what pages of other origins may ask for. -/
def preflight (route : Route) : Response :=
  let response := (shared { status := 200 }).withHeader "access-control-allow-headers"
    "content-type,x-api-key"
  let response := response.withHeader "access-control-allow-methods" "GET,POST,OPTIONS"
  match route with
  | .health => response.withHeader "allow" healthMethods
  | .render => response.withHeader "allow" renderMethods
  | _ => response

/-- Responds to a request. The path and the method are looked at, then the key, then the body; the
template is fetched, the document made and sent. The first step that fails decides the response, and
no later step is taken. -/
def respond (service : Service) (request : Request) : Exchange :=
  if !service.cors then service.exchange request
  else if request.method = "OPTIONS".toList then
    (preflight (Route.ofPath request.path)).alone
  else
    let exchange := service.exchange request
    { exchange with response := shared exchange.response }

/-- Responds to requests one after the other. -/
def respondAll (service : Service) (requests : List Request) : List Exchange :=
  requests.map service.respond

end Service

end WordMerge
