import WordMerge.Fetch.Retrieval

namespace WordMerge

namespace Fetcher

variable {fetcher : Fetcher} {network : Network} {start current last : Location}
  {asked : List Location} {answer : Answer} {template : Bytes}

/-- The chunks are taken unless they have too many bytes, wherever the border is passed; then it is told
how the answer breaks off. -/
theorem result_takeChunks {limit : Nat} {intake : Intake} (fits : intake.size ≤ limit)
    (breakage : Option Text) (chunks : List Bytes) :
    (takeChunks limit breakage intake chunks).result =
      if limit < intake.size + chunks.flatten.length then .error (.tooLarge limit)
      else match breakage with
        | some reason => .error (.transport reason)
        | none => .ok (intake.chunks.reverse.flatten ++ chunks.flatten) := by
  induction chunks generalizing intake with
  | nil =>
    have inside : ¬ limit < intake.size + ([] : List Bytes).flatten.length := by simpa using fits
    rw [if_neg inside, List.flatten_nil, List.append_nil]
    cases breakage <;> rfl
  | cons chunk rest ih =>
    have total : intake.size + (chunk :: rest).flatten.length =
        intake.size + chunk.length + rest.flatten.length := by
      rw [List.flatten_cons, List.length_append, Nat.add_assoc]
    rw [takeChunks, total, Intake.keep]
    by_cases long : limit < intake.size + chunk.length
    · rw [if_pos long, if_pos (by omega)]
    · have later : intake.size + chunk.length ≤ limit := Nat.le_of_not_lt long
      rw [if_neg long]
      dsimp only
      rw [ih later]
      simp

/-- What comes of an answer depends on its status, on what it announces and on the bytes of its chunks. -/
theorem body_eq : fetcher.body answer =
    if !isSuccess answer.status then .error (.status answer.status)
    else if answer.announced.any (fetcher.maxBytes < ·) then .error (.tooLarge fetcher.maxBytes)
    else if fetcher.maxBytes < answer.chunks.flatten.length then .error (.tooLarge fetcher.maxBytes)
    else match answer.breakage with
      | some reason => .error (.transport reason)
      | none => .ok answer.chunks.flatten := by
  rw [body, take]
  split
  · rfl
  · split
    · rfl
    · rw [result_takeChunks (Nat.zero_le _), Nat.zero_add]
      rfl

/-- There is a template in an answer exactly if its status is a success, no length over the limit is
announced, and all of it arrives and has no more bytes than wanted. -/
theorem body_eq_ok_iff : fetcher.body answer = .ok template ↔
    isSuccess answer.status = true ∧ (∀ length ∈ answer.announced, length ≤ fetcher.maxBytes) ∧
      answer.breakage = none ∧ template = answer.chunks.flatten ∧
      template.length ≤ fetcher.maxBytes := by
  have announced : (∀ length ∈ answer.announced, length ≤ fetcher.maxBytes) ↔
      answer.announced.any (fetcher.maxBytes < ·) = false := by
    cases answer.announced <;> simp
  rw [body_eq, announced]
  generalize answer.announced.any (fetcher.maxBytes < ·) = long
  generalize answer.chunks.flatten = whole
  cases isSuccess answer.status with
  | false => simp
  | true =>
    cases long with
    | true => simp
    | false =>
      by_cases large : fetcher.maxBytes < whole.length
      · simp only [Bool.not_true, Bool.false_eq_true, if_false, if_pos large, reduceCtorEq, true_and,
          false_iff]
        rintro ⟨_, rfl, fits⟩
        omega
      · simp only [Bool.not_true, Bool.false_eq_true, if_false, if_neg large, true_and]
        cases answer.breakage with
        | some reason => simp
        | none =>
          simp only [Except.ok.injEq, true_and]
          constructor
          · rintro rfl
            exact ⟨rfl, by omega⟩
          · exact fun found => found.1.symm

/-- The status of an answer is what is wrong with it exactly if it is no success. -/
theorem body_eq_status_iff {code : Nat} : fetcher.body answer = .error (.status code) ↔
    isSuccess answer.status = false ∧ answer.status = code := by
  rw [body_eq]
  cases isSuccess answer.status with
  | false => simp
  | true =>
    simp only [Bool.not_true, Bool.false_eq_true, if_false]
    split
    · simp
    · split
      · simp
      · split <;> simp

/-- A row of requests, the last one first. The rule lets each of them pass, and each but the first goes
where the answer to the one before leads. -/
inductive Trail (fetcher : Fetcher) (network : Network) (start : Location) : List Location → Prop
  | start (allowed : fetcher.policy.check start = .ok ()) : Trail fetcher network start [start]
  | redirect {current next : Location} {asked : List Location} {answer : Answer}
      (trail : Trail fetcher network start (current :: asked))
      (answered : network asked.length current = .answered answer)
      (leads : target? current answer = some next)
      (allowed : fetcher.policy.check next = .ok ()) :
      Trail fetcher network start (next :: current :: asked)

/-- Every location of such a row may be asked. -/
theorem Trail.allowed (trail : Trail fetcher network start asked) {location : Location}
    (member : location ∈ asked) : fetcher.policy.check location = .ok () := by
  induction trail with
  | start allowed =>
    cases List.mem_singleton.mp member
    exact allowed
  | redirect _ _ _ allowed ih =>
    rcases List.mem_cons.mp member with rfl | earlier
    · exact allowed
    · exact ih earlier

/-- How a row of requests ends with its last one, and what comes of it then: there is no answer, or an
answer that leads nowhere else, or one that leads where no further request is made. -/
inductive Ends (fetcher : Fetcher) (network : Network) (asked : List Location) (last : Location) :
    Except FetchCause Bytes → Prop
  | silent (silence : network asked.length last = .silence) :
      Ends fetcher network asked last (.error (.transport (reasonFor "error sending request" last)))
  | answered {answer : Answer} (answered : network asked.length last = .answered answer)
      (stays : target? last answer = none) : Ends fetcher network asked last (fetcher.body answer)
  | refused {answer : Answer} {next : Location}
      (answered : network asked.length last = .answered answer)
      (leads : target? last answer = some next)
      (stopped : maxRequests ≤ asked.length + 1 ∨
        ∃ refusal, fetcher.policy.check next = .error refusal) :
      Ends fetcher network asked last
        (.error (.transport (reasonFor "error following redirect" last)))

/-- Following redirects makes a row of requests longer, up to the limit, until one of them ends it. -/
theorem exists_trail_of_pursue {left : Nat} (trail : Trail fetcher network start (current :: asked))
    (room : asked.length + 1 + left = maxRequests) :
    ∃ before last, (fetcher.pursue network asked current left).requests = (last :: before).reverse ∧
      Trail fetcher network start (last :: before) ∧ before.length + 1 ≤ maxRequests ∧
      Ends fetcher network before last (fetcher.pursue network asked current left).result := by
  induction left generalizing asked current with
  | zero =>
    refine ⟨asked, current, ?_⟩
    rw [pursue]
    cases outcome : network asked.length current with
    | silence => exact ⟨rfl, trail, by omega, .silent outcome⟩
    | answered answer =>
      dsimp only
      cases leads : target? current answer with
      | none => exact ⟨rfl, trail, by omega, .answered outcome leads⟩
      | some next => exact ⟨rfl, trail, by omega, .refused outcome leads (.inl (by omega))⟩
  | succ left ih =>
    rw [pursue]
    cases outcome : network asked.length current with
    | silence => exact ⟨asked, current, rfl, trail, by omega, .silent outcome⟩
    | answered answer =>
      dsimp only
      cases leads : target? current answer with
      | none => exact ⟨asked, current, rfl, trail, by omega, .answered outcome leads⟩
      | some next =>
        dsimp only
        cases passes : fetcher.policy.check next with
        | error refusal =>
          exact ⟨asked, current, rfl, trail, by omega, .refused outcome leads (.inr ⟨_, passes⟩)⟩
        | ok =>
          exact ih (trail.redirect outcome leads passes) (by rw [List.length_cons]; omega)

theorem exists_trail_of_retrieve (network : Network) (allowed : fetcher.policy.check start = .ok ()) :
    ∃ before last, (fetcher.retrieve network start).requests = (last :: before).reverse ∧
      Trail fetcher network start (last :: before) ∧ before.length + 1 ≤ maxRequests ∧
      Ends fetcher network before last (fetcher.retrieve network start).result := by
  rw [retrieve, allowed]
  exact exists_trail_of_pursue (.start allowed) rfl

/-- A start that the rule refuses is not asked. -/
theorem retrieve_of_refused {refusal : Refusal}
    (refused : fetcher.policy.check start = .error refusal) :
    fetcher.retrieve network start = ⟨.error (.notAllowed refusal.message), []⟩ := by
  rw [retrieve, refused]

/-- Whether an answer is that to the last of some requests and leads nowhere else. -/
def Concludes (network : Network) (requests : List Location) (answer : Answer) : Prop :=
  ∃ asked last, requests = asked ++ [last] ∧ network asked.length last = .answered answer ∧
    target? last answer = none

/-- An answer that leads nowhere else is what the whole comes to. -/
theorem Ends.eq_body {result : Except FetchCause Bytes}
    (ends : Ends fetcher network asked last result)
    (concludes : Concludes network (last :: asked).reverse answer) :
    result = fetcher.body answer := by
  obtain ⟨before, final, split, outcome, stays⟩ := concludes
  rw [List.reverse_cons, List.append_singleton_inj] at split
  obtain ⟨rfl, rfl⟩ := split
  rw [List.length_reverse] at outcome
  cases ends with
  | silent silence => cases silence.symm.trans outcome
  | answered answered _ =>
    cases answered.symm.trans outcome
    rfl
  | refused answered leads _ =>
    cases answered.symm.trans outcome
    cases leads.symm.trans stays

/-- A redirect that was not followed was one too many or leads where the rule refuses. -/
theorem Ends.stopped {result : Except FetchCause Bytes}
    (ends : Ends fetcher network asked last result) {next : Location}
    (answered : network asked.length last = .answered answer)
    (leads : target? last answer = some next) :
    maxRequests ≤ asked.length + 1 ∨ ∃ refusal, fetcher.policy.check next = .error refusal := by
  cases ends with
  | silent silence => cases silence.symm.trans answered
  | answered here stays =>
    cases here.symm.trans answered
    cases stays.symm.trans leads
  | refused here elsewhere stopped =>
    cases here.symm.trans answered
    cases elsewhere.symm.trans leads
    exact stopped

/-- What is no failed transport is what the answer to the last request comes to. -/
theorem Ends.exists_concludes {result : Except FetchCause Bytes}
    (ends : Ends fetcher network asked last result)
    (carried : ∀ reason, result ≠ .error (.transport reason)) :
    ∃ answer, Concludes network (last :: asked).reverse answer ∧ fetcher.body answer = result := by
  cases ends with
  | silent => exact absurd rfl (carried _)
  | refused => exact absurd rfl (carried _)
  | @answered answer answered stays =>
    refine ⟨answer, ⟨asked.reverse, last, List.reverse_cons, ?_, stays⟩, rfl⟩
    rwa [List.length_reverse]

/-- A template and a status come from the answer to the last request. -/
theorem result_eq_iff {result : Except FetchCause Bytes}
    (carried : ∀ reason, result ≠ .error (.transport reason))
    (sent : ∀ reason, result ≠ .error (.notAllowed reason)) :
    (fetcher.retrieve network start).result = result ↔
      ∃ answer, Concludes network (fetcher.retrieve network start).requests answer ∧
        fetcher.body answer = result := by
  cases passes : fetcher.policy.check start with
  | error refusal =>
    rw [retrieve_of_refused passes]
    constructor
    · exact fun same => absurd same.symm (sent _)
    · rintro ⟨_, ⟨asked, last, split, _⟩, _⟩
      simp at split
  | ok =>
    obtain ⟨before, last, requests, _, _, ends⟩ := exists_trail_of_retrieve network passes
    rw [requests]
    constructor
    · rintro rfl
      exact ends.exists_concludes carried
    · rintro ⟨answer, concludes, rfl⟩
      exact ends.eq_body concludes

/-- What fetching a template does, whatever the network answers. -/
structure Guarded (fetcher : Fetcher) (network : Network) (location : Location) : Prop where
  /-- No location is asked that the rule refuses. -/
  allowed : ∀ asked ∈ (fetcher.retrieve network location).requests,
    fetcher.policy.check asked = .ok ()
  /-- Nothing is sent for a refused start, and the refusal is the error. -/
  unsent : ∀ refusal, fetcher.policy.check location = .error refusal →
    (fetcher.retrieve network location).requests = [] ∧
      fetcher.fetch network location = .error ⟨location.write, .notAllowed refusal.message⟩
  /-- Otherwise the requests go from redirect to redirect. -/
  pursued : fetcher.policy.check location = .ok () →
    Trail fetcher network location (fetcher.retrieve network location).requests.reverse
  /-- There are no more requests than allowed; the redirects are one fewer. -/
  bounded : (fetcher.retrieve network location).requests.length ≤ maxRequests
  /-- A redirect is followed unless there were too many or the rule refuses where it leads. -/
  stopped : ∀ asked last answer next,
    (fetcher.retrieve network location).requests = asked ++ [last] →
    network asked.length last = .answered answer → target? last answer = some next →
    maxRequests ≤ asked.length + 1 ∨ ∃ refusal, fetcher.policy.check next = .error refusal
  /-- A template is what the last answer holds, with a success as its status and no more bytes than
  wanted. -/
  found : ∀ template, fetcher.fetch network location = .ok template ↔
    ∃ answer, Concludes network (fetcher.retrieve network location).requests answer ∧
      isSuccess answer.status = true ∧
      (∀ length ∈ answer.announced, length ≤ fetcher.maxBytes) ∧ answer.breakage = none ∧
      template = answer.chunks.flatten ∧ template.length ≤ fetcher.maxBytes
  /-- A status is told exactly if it is that of the last answer and no success. -/
  status : ∀ code,
    (∃ error, fetcher.fetch network location = .error error ∧ error.status? = some code) ↔
      ∃ answer, Concludes network (fetcher.retrieve network location).requests answer ∧
        isSuccess answer.status = false ∧ answer.status = code
  /-- Every error names the location that was asked for in the first place. -/
  named : ∀ error, fetcher.fetch network location = .error error → error.url = location.write

/-- An error of the library's own fetching names the location that was asked for. -/
theorem url_of_fetch {error : FetchError}
    (failed : fetcher.fetch network start = .error error) : error.url = start.write := by
  unfold fetch at failed
  split at failed
  · cases failed
  · cases failed
    rfl

theorem fetch_eq_ok_iff : fetcher.fetch network start = .ok template ↔
    (fetcher.retrieve network start).result = .ok template := by
  rw [fetch]
  cases (fetcher.retrieve network start).result <;> simp

theorem exists_status_iff {code : Nat} :
    (∃ error, fetcher.fetch network start = .error error ∧ error.status? = some code) ↔
      (fetcher.retrieve network start).result = .error (.status code) := by
  rw [fetch]
  cases (fetcher.retrieve network start).result with
  | ok => simp
  | error cause => cases cause <;> simp [FetchError.status?]

/-- The rule for locations guards all requests of fetching a template, redirects are followed only so
far, and template, status and location in what comes of it are those of the last answer and of the
start. -/
theorem guarded_retrieve (fetcher : Fetcher) (network : Network) (location : Location) :
    fetcher.Guarded network location where
  allowed asked member := by
    cases passes : fetcher.policy.check location with
    | error refusal =>
      rw [retrieve_of_refused passes] at member
      cases member
    | ok =>
      obtain ⟨before, last, requests, trail, _⟩ := exists_trail_of_retrieve network passes
      rw [requests, List.mem_reverse] at member
      exact trail.allowed member
  unsent refusal refused := by
    rw [fetch, retrieve_of_refused refused]
    exact ⟨rfl, rfl⟩
  pursued passes := by
    obtain ⟨before, last, requests, trail, _⟩ := exists_trail_of_retrieve network passes
    rw [requests, List.reverse_reverse]
    exact trail
  bounded := by
    cases passes : fetcher.policy.check location with
    | error refusal =>
      rw [retrieve_of_refused passes]
      exact Nat.zero_le _
    | ok =>
      obtain ⟨before, last, requests, _, bounded, _⟩ := exists_trail_of_retrieve network passes
      rwa [requests, List.length_reverse, List.length_cons]
  stopped asked last answer next split answered leads := by
    cases passes : fetcher.policy.check location with
    | error refusal =>
      rw [retrieve_of_refused passes] at split
      simp at split
    | ok =>
      obtain ⟨before, final, requests, _, _, ends⟩ := exists_trail_of_retrieve network passes
      rw [requests, List.reverse_cons, List.append_singleton_inj] at split
      obtain ⟨rfl, rfl⟩ := split
      rw [List.length_reverse] at answered ⊢
      exact ends.stopped answered leads
  found template := by
    rw [fetch_eq_ok_iff, result_eq_iff (by simp) (by simp)]
    simp only [body_eq_ok_iff]
  status code := by
    rw [exists_status_iff, result_eq_iff (by simp) (by simp)]
    simp only [body_eq_status_iff]
  named error := url_of_fetch

/-- A fetcher that may ask one host. -/
def oneHost : Fetcher where
  policy := .ofEntries [['a']]

/-- A network that leads to another page of the same host, and from there to another host. -/
def detour : Network := fun count _ =>
  .answered
    { status := 302
      redirect := some (if count = 0 then "/next".toList else "http://b/".toList)
      announced := none, chunks := [], breakage := none }

/-- The root of the host that may be asked. -/
def hostRoot : Location where
  scheme := "http".toList
  host := some (.name ['a'])
  path := .rooted ['/']

/-- The second redirect of the detour is not followed. -/
theorem guarded_retrieve_detour :
    (oneHost.retrieve detour hostRoot).requests.map Location.write =
        ["http://a/".toList, "http://a/next".toList] ∧ oneHost.Guarded detour hostRoot :=
  ⟨by decide +kernel, guarded_retrieve oneHost detour hostRoot⟩

end Fetcher

end WordMerge
