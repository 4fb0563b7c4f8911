import WordMerge.Proofs.Fetch.Requests

namespace WordMerge

namespace Fetcher

variable {fetcher : Fetcher} {network : Network} {start current next last : Location}
  {asked : List Location} {answer : Answer} {template : Bytes}

/-- An answer that gives a template: a success whose body arrives as a whole, within the limit that
is also kept by the length it announces. -/
structure Gives (fetcher : Fetcher) (answer : Answer) (template : Bytes) : Prop where
  /-- The status is a success. -/
  success : isSuccess answer.status = true
  /-- What is announced is within the limit. -/
  announced : ∀ length ∈ answer.announced, length ≤ fetcher.maxBytes
  /-- The template does not break off. -/
  whole : answer.breakage = none
  /-- It is what arrives. -/
  arrived : template = answer.chunks.flatten
  /-- It is within the limit. -/
  fits : template.length ≤ fetcher.maxBytes

theorem Gives.body_eq (gives : fetcher.Gives answer template) : fetcher.body answer = .ok template :=
  body_eq_ok_iff.mpr ⟨gives.success, gives.announced, gives.whole, gives.arrived, gives.fits⟩

/-- A success leads nowhere else. -/
theorem target?_eq_none_of_isSuccess (success : isSuccess answer.status = true) :
    target? current answer = none := by
  have stays : isRedirect answer.status = false := by
    simp only [isSuccess, Bool.and_eq_true, decide_eq_true_eq] at success
    simp only [isRedirect, List.contains_eq_mem, List.mem_cons, List.not_mem_nil, or_false,
      decide_eq_false_iff_not]
    omega
  rw [target?, stays, if_neg Bool.false_ne_true]

/-- A redirect that the rule lets pass is followed while requests are left. -/
theorem pursue_of_leads {left : Nat} (answered : network asked.length current = .answered answer)
    (leads : target? current answer = some next) (allowed : fetcher.policy.check next = .ok ()) :
    fetcher.pursue network asked current (left + 1) =
      fetcher.pursue network (current :: asked) next left := by
  rw [pursue]
  simp only [answered, leads, allowed]

/-- When no request is left, a redirect is the end. -/
theorem pursue_zero_of_leads (answered : network asked.length current = .answered answer)
    (leads : target? current answer = some next) :
    fetcher.pursue network asked current 0 =
      ⟨.error (.transport (reasonFor "error following redirect" current)),
        (current :: asked).reverse⟩ := by
  rw [pursue]
  simp only [answered, leads]

/-- An answer that leads nowhere else is the end. -/
theorem pursue_of_stays {left : Nat} (answered : network asked.length current = .answered answer)
    (stays : target? current answer = none) :
    fetcher.pursue network asked current left =
      ⟨fetcher.body answer, (current :: asked).reverse⟩ := by
  rw [pursue]
  simp only [answered, stays]

/-- An answer that gives a template is the end. -/
theorem pursue_of_gives {left : Nat} (answered : network asked.length current = .answered answer)
    (gives : fetcher.Gives answer template) :
    fetcher.pursue network asked current left = ⟨.ok template, (current :: asked).reverse⟩ := by
  rw [pursue_of_stays answered (target?_eq_none_of_isSuccess gives.success), gives.body_eq]

/-- A row of requests without its last ones. -/
theorem Trail.drop (trail : Trail fetcher network start asked) (count : Nat)
    (short : count < asked.length) : Trail fetcher network start (asked.drop count) := by
  induction trail generalizing count with
  | start allowed =>
    obtain rfl : count = 0 := Nat.lt_one_iff.mp short
    exact .start allowed
  | redirect trail answered leads allowed ih =>
    cases count with
    | zero => exact .redirect trail answered leads allowed
    | succ count => exact ih count (Nat.lt_of_succ_lt_succ short)

/-- A row of requests that has room is gone to its end. -/
theorem Trail.retrieve_eq (trail : Trail fetcher network start (current :: asked)) (left : Nat)
    (room : asked.length + 1 + left = maxRequests) :
    fetcher.retrieve network start = fetcher.pursue network asked current left := by
  generalize row : current :: asked = whole at trail
  induction trail generalizing current asked left with
  | start allowed =>
    cases row
    rw [List.length_nil] at room
    obtain rfl : left = maxRequests - 1 := by omega
    rw [retrieve, allowed]
  | redirect trail answered leads allowed ih =>
    cases row
    rw [List.length_cons] at room
    rw [ih (left + 1) (by omega) rfl, pursue_of_leads answered leads allowed]

/-- A row of requests that leads on where no more are allowed is gone so far, and the last redirect on
the way is what fails. -/
theorem Trail.retrieve_eq_of_full
    (trail : Trail fetcher network start (next :: current :: asked))
    (full : asked.length + 1 = maxRequests) :
    fetcher.retrieve network start =
      ⟨.error (.transport (reasonFor "error following redirect" current)),
        (current :: asked).reverse⟩ := by
  cases trail with
  | redirect trail answered leads _ =>
    rw [trail.retrieve_eq 0 full, pursue_zero_of_leads answered leads]

/-- The requests of a row that is too long, up to where it is left. -/
theorem Trail.exists_cut (trail : Trail fetcher network start (last :: asked))
    (long : maxRequests ≤ asked.length) :
    ∃ next current before, Trail fetcher network start (next :: current :: before) ∧
      before.length + 1 = maxRequests ∧
      (last :: asked).reverse.take maxRequests = (current :: before).reverse := by
  have size : ((last :: asked).drop (asked.length - maxRequests)).length = maxRequests + 1 := by
    rw [List.length_drop, List.length_cons]
    omega
  have cut := trail.drop (asked.length - maxRequests) (by rw [List.length_cons]; omega)
  generalize remaining : (last :: asked).drop (asked.length - maxRequests) = rest at cut size
  match rest, size with
  | next :: current :: before, size =>
    refine ⟨next, current, before, cut, by simpa using size, ?_⟩
    have step : asked.length + 1 - maxRequests = asked.length - maxRequests + 1 := by omega
    rw [List.take_reverse, List.length_cons, step, ← List.drop_drop, remaining]
    rfl

/-- A row of requests that ends in a template is gone as far as it may, and the template is had exactly
if that is the whole row. Otherwise the transport fails at the last request that was made, and the error
names the start and has no status. -/
theorem fetch_of_trail (trail : Trail fetcher network start (last :: asked))
    (answered : network asked.length last = .answered answer)
    (gives : fetcher.Gives answer template) :
    (fetcher.retrieve network start).requests = (last :: asked).reverse.take maxRequests ∧
      (fetcher.fetch network start = .ok template ↔ asked.length + 1 ≤ maxRequests) ∧
      (¬ asked.length + 1 ≤ maxRequests → ∃ through error,
        (fetcher.retrieve network start).requests.getLast? = some through ∧
        fetcher.fetch network start = .error error ∧ error.url = start.write ∧
        error.cause = .transport (reasonFor "error following redirect" through) ∧
        error.status? = none) := by
  by_cases room : asked.length + 1 ≤ maxRequests
  · have reached : fetcher.retrieve network start = ⟨.ok template, (last :: asked).reverse⟩ := by
      rw [trail.retrieve_eq (maxRequests - (asked.length + 1)) (by omega),
        pursue_of_gives answered gives]
    have all : (last :: asked).reverse.take maxRequests = (last :: asked).reverse :=
      List.take_of_length_le (by rwa [List.length_reverse])
    refine ⟨by rw [reached, all], ?_, fun tooMany => absurd room tooMany⟩
    rw [fetch, reached]
    exact iff_of_true rfl room
  · obtain ⟨next, through, before, cut, full, requests⟩ := trail.exists_cut (by omega)
    have stopped := cut.retrieve_eq_of_full full
    have failed : fetcher.fetch network start =
        .error ⟨start.write, .transport (reasonFor "error following redirect" through)⟩ := by
      rw [fetch, stopped]
    rw [stopped, requests, failed]
    exact ⟨rfl, iff_of_false (by simp) room,
      fun _ => ⟨through, _, by simp, rfl, rfl, rfl, rfl⟩⟩

/-- A page of the host that may be asked, so many steps above its root. -/
def page (height : Nat) : Location :=
  { hostRoot with path := .rooted ('/' :: List.replicate height 'x') }

/-- An answer that leads to a page. -/
def leadTo (height : Nat) : Answer where
  status := 302
  redirect := some ('/' :: List.replicate height 'x')
  announced := none
  chunks := []
  breakage := none

/-- An answer that gives one byte. -/
def oneByte : Answer where
  status := 200
  redirect := none
  announced := some 1
  chunks := [[0x78]]
  breakage := none

/-- A host on which each page leads one step higher, up to a height where there is a template. -/
def stairs (height : Nat) : Network := fun _ location =>
  match location.path with
  | .rooted path => .answered (if path.length ≤ height then leadTo path.length else oneByte)
  | .plain _ => .silence

/-- The pages below a height, the highest first. -/
def pagesBelow : Nat → List Location
  | 0 => []
  | height + 1 => page height :: pagesBelow height

theorem length_pagesBelow (height : Nat) : (pagesBelow height).length = height := by
  induction height with
  | zero => rfl
  | succ height ih => rw [pagesBelow, List.length_cons, ih]

theorem stairs_page (height count step : Nat) :
    stairs height count (page step) =
      .answered (if step + 1 ≤ height then leadTo (step + 1) else oneByte) := by
  simp [stairs, page]

/-- The stairs are climbed page by page, as far as they are checked here. -/
theorem trail_stairs {height : Nat} (low : height ≤ 10) {step : Nat} (within : step ≤ height) :
    Trail oneHost (stairs height) hostRoot (page step :: pagesBelow step) := by
  have leads : ∀ step < 10, target? (page step) (leadTo (step + 1)) = some (page (step + 1)) := by
    decide +kernel
  induction step with
  | zero => exact .start rfl
  | succ step ih =>
    refine .redirect (ih (by omega)) ?_ (leads step (by omega)) rfl
    rw [stairs_page, if_pos within]

theorem gives_oneByte : oneHost.Gives oneByte [0x78] := by
  constructor <;> decide

/-- Nine redirects lead to the template. Of ten the last is not followed. -/
theorem fetch_of_trail_stairs :
    oneHost.fetch (stairs 9) hostRoot = .ok [0x78] ∧
      (oneHost.retrieve (stairs 10) hostRoot).requests = (pagesBelow 10).reverse ∧
      ∃ error, oneHost.fetch (stairs 10) hostRoot = .error error ∧ error.status? = none := by
  obtain ⟨_, reached, _⟩ :=
    fetch_of_trail (trail_stairs (by decide) (Nat.le_refl 9)) (stairs_page 9 _ 9) gives_oneByte
  obtain ⟨requests, _, missed⟩ :=
    fetch_of_trail (trail_stairs (by decide) (Nat.le_refl 10)) (stairs_page 10 _ 10) gives_oneByte
  obtain ⟨_, error, _, failed, _, _, noStatus⟩ := missed (by decide)
  exact ⟨reached.mpr (by decide), requests, error, failed, noStatus⟩

/-- Ten redirects between pages that are all different, to a template within the limit: as many as are
to be followed at most, and yet there is no template. -/
theorem fetch_ten_redirects :
    Trail oneHost (stairs 10) hostRoot (page 10 :: pagesBelow 10) ∧
      (pagesBelow 10).length = maxRequests ∧
      (page 10 :: pagesBelow 10).Nodup ∧ stairs 10 10 (page 10) = .answered oneByte ∧
      oneHost.Gives oneByte [0x78] ∧ oneHost.fetch (stairs 10) hostRoot ≠ .ok [0x78] := by
  have trail : Trail oneHost (stairs 10) hostRoot (page 10 :: page 9 :: pagesBelow 9) :=
    trail_stairs (Nat.le_refl _) (Nat.le_refl _)
  refine ⟨trail, length_pagesBelow 10, by decide +kernel, stairs_page 10 10 10, gives_oneByte, ?_⟩
  rw [fetch, trail.retrieve_eq_of_full (congrArg (· + 1) (length_pagesBelow 9))]
  simp

end Fetcher

end WordMerge
