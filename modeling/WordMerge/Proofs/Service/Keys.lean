import WordMerge.CommandLine.Reading
import WordMerge.Proofs.Service.Classification

namespace WordMerge

namespace CommandLine

/-- Every text can be set as the key on the command line, and it is taken as it stands. -/
theorem read_keyArgument (key : Text) :
    (read ["--api-key=".toList ++ key] fun _ => none).map Options.apiKey = .ok (some key) := by
  rfl

/-- Every text can be set as the key in the environment. -/
theorem read_keyVariable (key : Text) :
    (read [] fun name => if name = "API_KEY".toList then some key else none).map Options.apiKey =
      .ok (some key) := by
  rfl

end CommandLine

namespace Service

variable {service : Service} {request : Request} {key : Text}

/-- Whether a request is turned away for its key: the response says so, nothing was fetched or made for
it, and it would be the same with any other way to fetch and to make. -/
structure Bars (service : Service) (request : Request) : Prop where
  refuses : (service.respond request).Refuses { status := 401, code := "unauthorized" } 0 0
  idle : ∀ fetch make,
    { service with fetch := fetch, make := make }.respond request = service.respond request

/-- Whether a request gets to the making of documents. -/
def Serves (service : Service) (request : Request) : Prop :=
  service.respond request = service.sent (service.render request)

/-- Whoever is not let in is turned away before anything is done. -/
theorem bars_of_not_admits (posted : request.Posted) (denied : service.admits request = false) :
    service.Bars request := by
  have answered (fetch : Location → Except FetchError Bytes) (make : Bytes → Value → Making) :
      { service with fetch := fetch, make := make }.respond request =
        service.sent ⟨Response.ofError .unauthorized, 0, 0⟩ := by
    have still : { service with fetch := fetch, make := make }.admits request = false := denied
    rw [respond_of_posted posted, still]
    rfl
  have here : service.respond request = service.sent ⟨Response.ofError .unauthorized, 0, 0⟩ :=
    answered service.fetch service.make
  refine ⟨?_, fun fetch make => (answered fetch make).trans here.symm⟩
  rw [here]
  exact refuses_sent (refuses_ofError .unauthorized 0 0)

theorem serves_of_admits (posted : request.Posted) (admitted : service.admits request = true) :
    service.Serves request := by
  rw [Serves, respond_of_posted posted, if_pos admitted]

/-- Where a key is set, a request that shows another one is turned away, and so is a request that shows
none, if the key is not empty; a request that shows the key is served. The first field of the name
counts. -/
theorem keyed_respond (configured : service.apiKey = some key) (posted : request.Posted) :
    (∀ shown, request.header? "x-api-key".toList = some shown → shown ≠ Utf8.encode key →
      service.Bars request) ∧
    (request.header? "x-api-key".toList = none → key ≠ [] → service.Bars request) ∧
    (request.header? "x-api-key".toList = some (Utf8.encode key) → service.Serves request) := by
  have admits : service.admits request =
      ((request.header? "x-api-key".toList).getD [] == Utf8.encode key) := by
    rw [Service.admits, configured]
  refine ⟨fun shown field wrong => ?wrong, fun missing filled => ?missing, fun field => ?right⟩
  case wrong =>
    refine bars_of_not_admits posted ?_
    rw [admits, field, Option.getD_some]
    exact beq_eq_false_iff_ne.mpr wrong
  case missing =>
    refine bars_of_not_admits posted ?_
    rw [admits, missing, Option.getD_none]
    exact beq_eq_false_iff_ne.mpr (Utf8.encode_ne_nil filled).symm
  case right =>
    refine serves_of_admits posted ?_
    rw [admits, field, Option.getD_some]
    exact beq_self_eq_true _

theorem keyed_respond_emptyHanded :
    emptyHanded.Bars keylessRequest ∧ emptyHanded.Serves keyedRequest := by
  have configured : emptyHanded.apiKey = some ['k'] := rfl
  have keyless : keylessRequest.Posted := by decide
  have keyed : keyedRequest.Posted := by decide
  obtain ⟨_, missing, _⟩ := keyed_respond configured keyless
  obtain ⟨_, _, right⟩ := keyed_respond configured keyed
  exact ⟨missing (by decide) (by decide), right (by decide)⟩

/-- A service whose key is the empty text. -/
def emptyKeyed : Service :=
  { emptyHanded with apiKey := some [] }

/-- The empty key can be set in both ways, and a request that shows no key gets past it. -/
theorem not_bars_emptyKeyed :
    (CommandLine.read ["--api-key=".toList] fun _ => none).map Options.apiKey =
        .ok emptyKeyed.apiKey ∧
      (CommandLine.read [] fun name => if name = "API_KEY".toList then some [] else none).map
        Options.apiKey = .ok emptyKeyed.apiKey ∧
      keylessRequest.Posted ∧ keylessRequest.header? "x-api-key".toList = none ∧
      ¬ emptyKeyed.Bars keylessRequest := by
  have fetched : (emptyKeyed.respond keylessRequest).fetches = 1 := by decide +kernel
  refine ⟨CommandLine.read_keyArgument [], CommandLine.read_keyVariable [], by decide, by decide,
    fun bars => ?_⟩
  exact absurd (fetched.symm.trans bars.refuses.fetches) (by decide)

end Service

end WordMerge
