import WordMerge.Proofs.Fetch.Requests
import WordMerge.Proofs.Service.DownloadNames
import WordMerge.Proofs.Service.Responses

namespace WordMerge

theorem Utf8.encode_ne_nil {s : Text} (filled : s ≠ []) : encode s ≠ [] := by
  cases s with
  | nil => exact absurd rfl filled
  | cons c rest =>
    obtain ⟨first, tail, spelled, _⟩ := step_encodeChar c
    rw [encode_cons spelled]
    exact List.cons_ne_nil _ _

/-- Whether an exchange says no more than a notice, after so many attempts to fetch a template and to
make a document. -/
structure Exchange.Refuses (exchange : Exchange) (notice : Notice) (fetches renders : Nat) : Prop where
  sent : notice.SentBy exchange.response
  fetches : exchange.fetches = fetches
  renders : exchange.renders = renders

/-- Whether a request asks for the making of a document. -/
def Request.Posted (request : Request) : Prop :=
  request.method = "POST".toList ∧ request.path = "/render".toList

instance (request : Request) : Decidable request.Posted :=
  inferInstanceAs (Decidable (request.method = _ ∧ request.path = _))

namespace Service

/-- Whether a request shows the key, if there is one. -/
def Admitted (service : Service) (request : Request) : Prop :=
  ∀ key, service.apiKey = some key →
    request.header? "x-api-key".toList = some (Utf8.encode key)

/-- Whether a request may have a job done. -/
structure Accepts (service : Service) (request : Request) (wanted : RenderRequest) (job : RenderJob) :
    Prop where
  admitted : service.Admitted request
  read : payload request = .ok wanted
  valid : wanted.validate = .ok job

/-- Whether a request may have a job done and its template is there. -/
structure Obtains (service : Service) (request : Request) (wanted : RenderRequest) (job : RenderJob)
    (template : Bytes) : Prop extends service.Accepts request wanted job where
  fetched : service.fetch job.location = .ok template

/-- Whether the making of a document ends in time. -/
def InTime (service : Service) (making : Making) : Prop :=
  making.milliseconds < service.timeout

/-- What an exchange has to be, step by step: the first step that fails decides it. -/
structure Classified (service : Service) (request : Request) (exchange : Exchange) : Prop where
  /-- The key is wrong or missing. -/
  unauthorized : ¬ service.Admitted request →
    exchange.Refuses { status := 401, code := "unauthorized" } 0 0
  /-- The body is no request. -/
  unread : service.Admitted request → ∀ reason, payload request = .error reason →
    exchange.Refuses { status := 400, code := "bad_request" } 0 0
  /-- The request makes no sense. -/
  invalid : service.Admitted request → ∀ wanted fault, payload request = .ok wanted →
    wanted.validate = .error fault → exchange.Refuses { status := 400, code := "bad_request" } 0 0
  /-- The host of the template answered with a status that is no success. -/
  refused : ∀ wanted job url code, service.Accepts request wanted job →
    service.fetch job.location = .error ⟨url, .status code⟩ →
    exchange.Refuses
      { status := 400, code := "failed_to_fetch_template", url := some url, upstream := some code } 1 0
  /-- The template could not be fetched for another reason. -/
  unfetched : ∀ wanted job error, service.Accepts request wanted job →
    service.fetch job.location = .error error → (∀ code, error.cause ≠ .status code) →
    exchange.Refuses { status := 400, code := "failed_to_fetch_template", url := some error.url } 1 0
  /-- The making took too long. -/
  late : ∀ wanted job template, service.Obtains request wanted job template →
    ¬ service.InTime (service.make template job.data) →
    exchange.Refuses { status := 500, code := "server_error" } 1 1
  /-- The making broke down. -/
  crashed : ∀ wanted job template, service.Obtains request wanted job template →
    service.InTime (service.make template job.data) →
    (service.make template job.data).result = .crashed →
    exchange.Refuses { status := 500, code := "server_error" } 1 1
  /-- The document could not be written. -/
  unwritten : ∀ wanted job template reason, service.Obtains request wanted job template →
    service.InTime (service.make template job.data) →
    (service.make template job.data).result = .finished (.error (.serialize reason)) →
    exchange.Refuses { status := 500, code := "server_error" } 1 1
  /-- The template is no package. -/
  noPackage : ∀ wanted job template reason, service.Obtains request wanted job template →
    service.InTime (service.make template job.data) →
    (service.make template job.data).result = .finished (.error (.invalidArchive reason)) →
    exchange.Refuses { status := 400, code := "invalid_docx_zip" } 1 1
  /-- Tags are at fault. -/
  faulty : ∀ wanted job template details, service.Obtains request wanted job template →
    service.InTime (service.make template job.data) →
    (service.make template job.data).result = .finished (.error (.template details)) →
    exchange.Refuses
      { status := 400, code := "template_render_error", details := some details } 1 1
  /-- There is a document. -/
  finished : ∀ wanted job template document, service.Obtains request wanted job template →
    service.InTime (service.make template job.data) →
    (service.make template job.data).result = .finished (.ok document) →
    exchange.response.status = 200 ∧ exchange.response.content = .bytes document ∧
      exchange.response.header? "content-disposition".toList =
        some (Disposition.write (FileName.resolve wanted.outputName job.data)) ∧
      exchange.fetches = 1 ∧ exchange.renders = 1
  /-- Nothing but the steps that were taken matters. -/
  determined : ∀ fetch make,
    (∀ wanted job, service.Accepts request wanted job →
      fetch job.location = service.fetch job.location) →
    (∀ wanted job template, service.Obtains request wanted job template →
      make template job.data = service.make template job.data) →
    { service with fetch := fetch, make := make }.respond request = exchange

variable {service : Service} {request : Request} {wanted : RenderRequest} {job : RenderJob}
  {template : Bytes}

/-- A request without the header field shows the empty key, so the key must not be empty. -/
theorem admits_iff (keyed : service.apiKey ≠ some []) :
    service.admits request = true ↔ service.Admitted request := by
  unfold admits Admitted
  cases configured : service.apiKey with
  | none => simp
  | some key =>
    have filled : Utf8.encode key ≠ [] := by
      refine Utf8.encode_ne_nil fun empty => keyed ?_
      rw [configured, empty]
    cases shown : request.header? "x-api-key".toList with
    | none => simpa using filled.symm
    | some value => simp

/-- The exchange as pages of other origins get to see it. -/
def sent (service : Service) (exchange : Exchange) : Exchange :=
  if service.cors then { exchange with response := shared exchange.response } else exchange

/-- How a request for a document is answered. -/
theorem respond_of_posted (posted : request.Posted) :
    service.respond request = service.sent
      (if service.admits request then service.render request
        else (Response.ofError .unauthorized).alone) := by
  obtain ⟨method, path⟩ := posted
  have route : Route.ofPath request.path = .render := by
    rw [path]
    decide
  have answered : service.exchange request =
      if service.admits request then service.render request
        else (Response.ofError .unauthorized).alone := by
    rw [exchange, route]
    dsimp only
    rw [renderExchange, method]
    cases service.admits request <;> rfl
  have asked : "POST".toList ≠ "OPTIONS".toList := by decide
  rw [respond, sent, method, if_neg asked, answered]
  cases service.cors <;> rfl

/-- Sending a refusal does not change what it says. -/
theorem refuses_sent {exchange : Exchange} {notice : Notice} {fetches renders : Nat}
    (refuses : exchange.Refuses notice fetches renders) :
    (service.sent exchange).Refuses notice fetches renders := by
  unfold sent
  split
  · exact ⟨refuses.sent, refuses.fetches, refuses.renders⟩
  · exact refuses

theorem refuses_ofError (error : ServiceError) (fetches renders : Nat) :
    Exchange.Refuses ⟨Response.ofError error, fetches, renders⟩ error.notice fetches renders :=
  ⟨error.sentBy_ofError, rfl, rfl⟩

theorem job_of_unread {reason : Text} (unread : payload request = .error reason) :
    Service.job request = .error (.badRequest reason) := by
  rw [Service.job, unread]

theorem job_of_invalid {fault : RequestFault} (read : payload request = .ok wanted)
    (invalid : wanted.validate = .error fault) :
    Service.job request = .error (.badRequest fault.message) := by
  rw [Service.job, read]
  dsimp only
  rw [invalid]

theorem Accepts.job_eq (accepts : service.Accepts request wanted job) :
    Service.job request = .ok job := by
  rw [Service.job, accepts.read]
  dsimp only
  rw [accepts.valid]

/-- Whoever gets a job was accepted. -/
theorem exists_accepts (admitted : service.Admitted request)
    (asked : Service.job request = .ok job) : ∃ wanted, service.Accepts request wanted job := by
  unfold Service.job at asked
  split at asked
  · cases asked
  · next wanted read =>
    split at asked
    · next valid =>
      cases asked
      exact ⟨wanted, admitted, read, valid⟩
    · cases asked

/-- The name of the document is the one that is resolved from the request. -/
theorem Accepts.fileName_eq (accepts : service.Accepts request wanted job) :
    job.fileName = FileName.resolve wanted.outputName job.data := by
  have valid := accepts.valid
  unfold RenderRequest.validate at valid
  split at valid
  · split at valid
    · cases valid
    · split at valid
      · cases valid
      · split at valid
        · cases valid
        · cases valid
          rfl
  · cases valid

section Answers

variable (keyed : service.apiKey ≠ some []) (posted : request.Posted)
include keyed posted

theorem respond_of_unadmitted (unadmitted : ¬ service.Admitted request) :
    service.respond request = service.sent ⟨Response.ofError .unauthorized, 0, 0⟩ := by
  rw [respond_of_posted posted, if_neg (mt (admits_iff keyed).mp unadmitted)]
  rfl

theorem respond_of_admitted (admitted : service.Admitted request) :
    service.respond request = service.sent (service.render request) := by
  rw [respond_of_posted posted, if_pos ((admits_iff keyed).mpr admitted)]

theorem respond_of_job_error (admitted : service.Admitted request) {error : ServiceError}
    (failed : Service.job request = .error error) :
    service.respond request = service.sent ⟨Response.ofError error, 0, 0⟩ := by
  rw [respond_of_admitted keyed posted admitted, Service.render, failed]
  rfl

theorem respond_of_unfetched (accepts : service.Accepts request wanted job) {error : FetchError}
    (failed : service.fetch job.location = .error error) :
    service.respond request = service.sent ⟨Response.ofError (.fetchFailed error), 1, 0⟩ := by
  rw [respond_of_admitted keyed posted accepts.admitted, Service.render, accepts.job_eq]
  dsimp only
  rw [failed]

/-- If no document is made, the error of the engine is what is sent. -/
theorem respond_of_unmade (obtains : service.Obtains request wanted job template)
    {error : ServiceError} (failed : service.made (service.make template job.data) = .error error) :
    service.respond request = service.sent ⟨Response.ofError error, 1, 1⟩ := by
  rw [respond_of_admitted keyed posted obtains.admitted, Service.render, obtains.job_eq]
  dsimp only
  rw [obtains.fetched]
  dsimp only
  rw [failed]

/-- The name of a document never keeps it from being sent. -/
theorem respond_of_made (obtains : service.Obtains request wanted job template) {document : Bytes}
    (done : service.made (service.make template job.data) = .ok document) :
    service.respond request = service.sent
      ⟨{ status := 200
         headers := [("content-type".toList, documentType.toList),
           ("content-disposition".toList,
             Disposition.write (FileName.resolve wanted.outputName job.data))]
         content := .bytes document }, 1, 1⟩ := by
  have fits := Disposition.isFieldText_write_resolve wanted.outputName job.data
  rw [respond_of_admitted keyed posted obtains.admitted, Service.render, obtains.job_eq]
  dsimp only
  rw [obtains.fetched]
  dsimp only
  rw [done]
  dsimp only
  rw [obtains.fileName_eq, documentResponse, if_pos fits]
  rfl

end Answers

theorem made_of_late {making : Making} (late : ¬ service.InTime making) :
    service.made making = .error (.timeout service.timeout) := by
  rw [made, if_pos (Nat.le_of_not_lt late)]

/-- What is made in time is taken as it is, and a crash is an error of the service. -/
theorem made_of_inTime {making : Making} (inTime : service.InTime making) :
    service.made making = match making.result with
      | .crashed => .error (.internal "Render task failed".toList)
      | .finished (.ok document) => .ok document
      | .finished (.error failure) => .error (.ofEngine failure) := by
  unfold made
  exact if_neg (Nat.not_le_of_lt inTime)

/-- Services that differ only in what no step of a request asks for respond alike. -/
theorem respond_eq_of_steps (keyed : service.apiKey ≠ some []) (posted : request.Posted)
    (fetch : Location → Except FetchError Bytes) (make : Bytes → Value → Making)
    (sameFetch : ∀ wanted job, service.Accepts request wanted job →
      fetch job.location = service.fetch job.location)
    (sameMake : ∀ wanted job template, service.Obtains request wanted job template →
      make template job.data = service.make template job.data) :
    { service with fetch := fetch, make := make }.respond request = service.respond request := by
  have keyed' : { service with fetch := fetch, make := make }.apiKey ≠ some [] := keyed
  have render (admitted : service.Admitted request) :
      { service with fetch := fetch, make := make }.render request = service.render request := by
    unfold Service.render
    cases asked : Service.job request with
    | error error => rfl
    | ok job =>
      obtain ⟨wanted, accepts⟩ := exists_accepts admitted asked
      dsimp only
      rw [sameFetch wanted job accepts]
      cases fetched : service.fetch job.location with
      | error error => rfl
      | ok template =>
        dsimp only
        rw [sameMake wanted job template ⟨accepts, fetched⟩]
        rfl
  by_cases admitted : service.Admitted request
  · calc { service with fetch := fetch, make := make }.respond request
      _ = service.sent ({ service with fetch := fetch, make := make }.render request) :=
        respond_of_admitted keyed' posted admitted
      _ = service.sent (service.render request) := by rw [render admitted]
      _ = service.respond request := (respond_of_admitted keyed posted admitted).symm
  · calc { service with fetch := fetch, make := make }.respond request
      _ = service.sent ⟨Response.ofError .unauthorized, 0, 0⟩ :=
        respond_of_unadmitted keyed' posted admitted
      _ = service.respond request := (respond_of_unadmitted keyed posted admitted).symm

/-- A single request for a document. -/
theorem classified_respond (keyed : service.apiKey ≠ some []) (posted : request.Posted) :
    service.Classified request (service.respond request) where
  unauthorized unadmitted := by
    rw [respond_of_unadmitted keyed posted unadmitted]
    exact refuses_sent (refuses_ofError .unauthorized 0 0)
  unread admitted reason unread := by
    rw [respond_of_job_error keyed posted admitted (job_of_unread unread)]
    exact refuses_sent (refuses_ofError (.badRequest reason) 0 0)
  invalid admitted wanted fault read invalid := by
    rw [respond_of_job_error keyed posted admitted (job_of_invalid read invalid)]
    exact refuses_sent (refuses_ofError (.badRequest fault.message) 0 0)
  refused wanted job url code accepts failed := by
    rw [respond_of_unfetched keyed posted accepts failed]
    exact refuses_sent (refuses_ofError (.fetchFailed ⟨url, .status code⟩) 1 0)
  unfetched wanted job error accepts failed other := by
    rw [respond_of_unfetched keyed posted accepts failed]
    obtain ⟨url, cause⟩ := error
    cases cause with
    | status code => exact absurd rfl (other code)
    | _ => exact refuses_sent (refuses_ofError (.fetchFailed ⟨url, _⟩) 1 0)
  late wanted job template obtains late := by
    rw [respond_of_unmade keyed posted obtains (made_of_late late)]
    exact refuses_sent (refuses_ofError (.timeout service.timeout) 1 1)
  crashed wanted job template obtains inTime result := by
    have failed := service.made_of_inTime inTime
    rw [result] at failed
    rw [respond_of_unmade keyed posted obtains failed]
    exact refuses_sent (refuses_ofError (.internal _) 1 1)
  unwritten wanted job template reason obtains inTime result := by
    have failed := service.made_of_inTime inTime
    rw [result] at failed
    rw [respond_of_unmade keyed posted obtains failed]
    exact refuses_sent (refuses_ofError (.internal reason) 1 1)
  noPackage wanted job template reason obtains inTime result := by
    have failed := service.made_of_inTime inTime
    rw [result] at failed
    rw [respond_of_unmade keyed posted obtains failed]
    exact refuses_sent (refuses_ofError (.invalidArchive reason) 1 1)
  faulty wanted job template details obtains inTime result := by
    have failed := service.made_of_inTime inTime
    rw [result] at failed
    rw [respond_of_unmade keyed posted obtains failed]
    exact refuses_sent (refuses_ofError (.renderFailed details) 1 1)
  finished wanted job template document obtains inTime result := by
    have done := service.made_of_inTime inTime
    rw [result] at done
    rw [respond_of_made keyed posted obtains done]
    unfold sent
    split <;> exact ⟨rfl, rfl, rfl, rfl, rfl⟩
  determined := respond_eq_of_steps keyed posted

/-- Every request for a document gets one response, the one that it gets alone, and the first step
that fails decides it: a wrong or missing key, a body that is no request, a request that makes no
sense, a template that cannot be fetched, and a document that cannot be made each have their class, and
no later step is taken. Errors of fetching carry the location, and the status if the host answered
with one; errors of tags carry the tags; no other error carries any of these. -/
theorem forall₂_classified_respondAll (service : Service) (keyed : service.apiKey ≠ some [])
    {requests : List Request} (posted : ∀ request ∈ requests, request.Posted) :
    List.Forall₂ (fun request exchange => service.Classified request exchange ∧
        service.respondAll [request] = [exchange]) requests (service.respondAll requests) ∧
      ∀ (fetcher : Fetcher) network, service.fetch = fetcher.fetch network → ∀ location error,
        service.fetch location = .error error → error.url = location.write := by
  refine ⟨?_, ?_⟩
  · induction requests with
    | nil => exact .nil
    | cons request rest ih =>
      rw [List.forall_mem_cons] at posted
      exact .cons ⟨classified_respond keyed posted.1, rfl⟩ (ih posted.2)
  · rintro fetcher network same location error failed
    rw [same] at failed
    exact Fetcher.url_of_fetch failed

/-- A service with a key that finds no template. -/
def emptyHanded : Service where
  fetch location := .error ⟨location.write, .status 404⟩
  make _ _ := ⟨.crashed, 0⟩
  apiKey := some ['k']

/-- A request for a document that does not show the key. -/
def keylessRequest : Request where
  method := "POST".toList
  target := "/render".toList
  headers := [("content-type".toList, Utf8.encode "application/json".toList)]
  body := Utf8.encode "\x7b\"templateUrl\":\"http://a/t\",\"data\":\x7b\x7d\x7d".toList

/-- The same request with the key. -/
def keyedRequest : Request :=
  { keylessRequest with headers := ("X-Api-Key".toList, Utf8.encode ['k']) :: keylessRequest.headers }

theorem forall₂_classified_respondAll_emptyHanded :
    ∃ denied missing url, emptyHanded.respondAll [keylessRequest, keyedRequest] = [denied, missing] ∧
      denied.Refuses { status := 401, code := "unauthorized" } 0 0 ∧
      missing.Refuses
        { status := 400, code := "failed_to_fetch_template", url := some url, upstream := some 404 }
        1 0 := by
  have posted : ∀ request ∈ [keylessRequest, keyedRequest], request.Posted := by
    unfold Request.Posted
    decide
  have unadmitted : ¬ emptyHanded.Admitted keylessRequest := by
    intro shown
    have same := shown ['k'] rfl
    revert same
    decide
  have admitted : emptyHanded.Admitted keyedRequest := by
    rintro key same
    cases same
    decide
  have asked : ∃ job, Service.job keyedRequest = .ok job := by
    have fine : (Service.job keyedRequest).isOk = true := by decide +kernel
    cases result : Service.job keyedRequest with
    | ok job => exact ⟨job, rfl⟩
    | error error =>
      rw [result] at fine
      cases fine
  obtain ⟨job, asked⟩ := asked
  obtain ⟨wanted, accepts⟩ := exists_accepts admitted asked
  obtain ⟨related, _⟩ := forall₂_classified_respondAll emptyHanded nofun posted
  obtain ⟨⟨first, _⟩, later⟩ := List.forall₂_cons.mp related
  obtain ⟨⟨second, _⟩, _⟩ := List.forall₂_cons.mp later
  exact ⟨_, _, _, rfl, first.unauthorized unadmitted,
    second.refused wanted job _ 404 accepts rfl⟩

end Service

end WordMerge
