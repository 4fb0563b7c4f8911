import WordMerge.Proofs.Fetch.RedirectLimit

namespace WordMerge

/-- Whether an intake is what a template has so far, with the chunks in `coming` still to come: it has
the chunks before them, its bytes are counted, and there are no more of them than allowed. -/
structure Intake.Holds (limit : Nat) (chunks : List Bytes) (intake : Intake) (coming : List Bytes) :
    Prop where
  split : intake.chunks.reverse ++ coming = chunks
  counted : intake.chunks.flatten.length = intake.size
  fits : intake.size ≤ limit

/-- A chunk is kept exactly if there are no more bytes with it than allowed. -/
theorem Intake.keep_eq_ok_iff {limit : Nat} {intake later : Intake} {chunk : Bytes} :
    intake.keep limit chunk = .ok later ↔ intake.size + chunk.length ≤ limit ∧
      later = ⟨chunk :: intake.chunks, intake.size + chunk.length⟩ := by
  rw [keep]
  by_cases long : limit < intake.size + chunk.length
  · simp [if_pos long, Nat.not_le.mpr long]
  · simp [if_neg long, Nat.le_of_not_lt long, eq_comm]

theorem Intake.holds_start (limit : Nat) (chunks : List Bytes) :
    Intake.Holds limit chunks {} chunks :=
  ⟨rfl, rfl, Nat.zero_le limit⟩

/-- Keeping a chunk does not go past the limit. -/
theorem Intake.Holds.keep {limit : Nat} {intake later : Intake} {chunk : Bytes}
    {chunks coming : List Bytes} (holds : intake.Holds limit chunks (chunk :: coming))
    (kept : intake.keep limit chunk = .ok later) : later.Holds limit chunks coming := by
  obtain ⟨fits, rfl⟩ := keep_eq_ok_iff.mp kept
  refine ⟨?_, ?_, fits⟩
  · rw [List.reverse_cons, List.append_assoc]
    exact holds.split
  · rw [List.flatten_cons, List.length_append, holds.counted, Nat.add_comm]

namespace Fetcher

variable {fetcher : Fetcher} {network : Network} {start last : Location} {asked : List Location}
  {answer : Answer} {limit : Nat} {intake round : Intake} {breakage : Option Text}
  {chunks coming : List Bytes}

theorem mem_rounds_takeChunks (limit : Nat) (breakage : Option Text) (intake : Intake)
    (chunks : List Bytes) : intake ∈ (takeChunks limit breakage intake chunks).rounds := by
  cases chunks with
  | nil => cases breakage <;> exact List.mem_cons_self
  | cons chunk rest =>
    rw [takeChunks]
    cases intake.keep limit chunk <;> exact List.mem_cons_self

/-- Every round of taking chunks is within the limit, and taking the rest of them from there comes to
the same. -/
theorem exists_holds_of_mem_rounds (holds : intake.Holds limit chunks coming)
    (member : round ∈ (takeChunks limit breakage intake coming).rounds) :
    ∃ later, round.Holds limit chunks later ∧
      (takeChunks limit breakage round later).result =
        (takeChunks limit breakage intake coming).result := by
  induction coming generalizing intake with
  | nil =>
    have same : round = intake := by cases breakage <;> exact List.mem_singleton.mp member
    exact ⟨[], same ▸ holds, by rw [same]⟩
  | cons chunk rest ih =>
    -- The first round is the intake itself; the others are those of the chunks behind this one.
    by_cases first : round = intake
    · exact ⟨chunk :: rest, first ▸ holds, by rw [first]⟩
    · rw [takeChunks] at member ⊢
      cases kept : intake.keep limit chunk with
      | error cause =>
        rw [kept] at member
        exact absurd (List.mem_singleton.mp member) first
      | ok later =>
        rw [kept] at member
        exact ih (holds.keep kept) ((List.mem_cons.mp member).resolve_left first)

/-- Chunks that are within the limit are kept, whatever comes behind them. -/
theorem mem_rounds_of_fits {front : List Bytes} (fits : intake.size + front.flatten.length ≤ limit)
    (breakage : Option Text) (coming : List Bytes) :
    ⟨front.reverse ++ intake.chunks, intake.size + front.flatten.length⟩ ∈
      (takeChunks limit breakage intake (front ++ coming)).rounds := by
  induction front generalizing intake with
  | nil => exact mem_rounds_takeChunks limit breakage intake coming
  | cons chunk rest ih =>
    rw [List.flatten_cons, List.length_append, ← Nat.add_assoc] at fits ⊢
    have kept := Intake.keep_eq_ok_iff.mpr ⟨Nat.le_of_add_right_le fits, rfl⟩
    rw [List.cons_append, takeChunks, kept, List.reverse_cons, List.append_assoc]
    exact List.mem_cons_of_mem _ (ih fits)

/-- A row of requests that has room for its last one comes to what the answer to it is worth. -/
theorem Trail.fetch_eq_body (trail : Trail fetcher network start (last :: asked))
    (room : asked.length + 1 ≤ maxRequests)
    (answered : network asked.length last = .answered answer)
    (stays : target? last answer = none) :
    fetcher.fetch network start = (fetcher.body answer).mapError (FetchError.mk start.write) := by
  rw [fetch, trail.retrieve_eq (maxRequests - (asked.length + 1)) (by omega),
    pursue_of_stays answered stays]
  cases fetcher.body answer <;> rfl

/-- Of a success that announces too many bytes nothing is taken. -/
theorem take_of_large (success : isSuccess answer.status = true) {length : Nat}
    (announced : length ∈ answer.announced) (large : fetcher.maxBytes < length) :
    fetcher.take answer = ⟨.error (.tooLarge fetcher.maxBytes), []⟩ := by
  have refused : answer.announced.any (fetcher.maxBytes < ·) = true :=
    (Option.any_eq_true _ _).mpr ⟨length, announced, decide_eq_true large⟩
  rw [take, success, if_pos refused]
  rfl

/-- Of any other success the chunks are taken. -/
theorem take_of_small (success : isSuccess answer.status = true)
    (small : ∀ length ∈ answer.announced, length ≤ fetcher.maxBytes) :
    fetcher.take answer = takeChunks fetcher.maxBytes answer.breakage {} answer.chunks := by
  have taken : ¬ answer.announced.any (fetcher.maxBytes < ·) = true := by
    simpa [Option.any_eq_true] using small
  rw [take, success, if_neg taken]
  rfl

/-- What comes of the chunks depends on their bytes alone. -/
theorem body_of_small (success : isSuccess answer.status = true)
    (small : ∀ length ∈ answer.announced, length ≤ fetcher.maxBytes) :
    fetcher.body answer = if answer.chunks.flatten.length ≤ fetcher.maxBytes then
        answer.breakage.elim (.ok answer.chunks.flatten) fun reason => .error (.transport reason)
      else .error (.tooLarge fetcher.maxBytes) := by
  rw [body, take_of_small success small, result_takeChunks (Nat.zero_le _), Nat.zero_add]
  by_cases fits : answer.chunks.flatten.length ≤ fetcher.maxBytes
  · rw [if_pos fits, if_neg (Nat.not_lt.mpr fits)]
    cases answer.breakage <;> rfl
  · rw [if_neg fits, if_pos (Nat.lt_of_not_le fits)]

/-- What fetching a template comes to when the last answer is a success. -/
structure SizeLimited (fetcher : Fetcher) (network : Network) (start : Location)
    (answer : Answer) : Prop where
  /-- A template that arrives as a whole is had if it is within the limit and is too large otherwise,
  whatever its chunks are and whether its length is announced or nothing is. -/
  whole : ∀ template : Bytes, answer.chunks.flatten = template → answer.breakage = none →
    answer.announced = none ∨ answer.announced = some template.length →
    fetcher.fetch network start =
      if template.length ≤ fetcher.maxBytes then .ok template
      else .error ⟨start.write, .tooLarge fetcher.maxBytes⟩
  /-- A template that breaks off is too large if it already was when it did, and a failed transport
  otherwise. -/
  broken : ∀ reason, answer.breakage = some reason →
    (∀ length ∈ answer.announced, length ≤ fetcher.maxBytes) →
    fetcher.fetch network start = .error ⟨start.write,
      if answer.chunks.flatten.length ≤ fetcher.maxBytes then .transport reason
      else .tooLarge fetcher.maxBytes⟩
  /-- Of a template that is announced as too large nothing is taken. -/
  refused : ∀ length ∈ answer.announced, fetcher.maxBytes < length →
    fetcher.fetch network start = .error ⟨start.write, .tooLarge fetcher.maxBytes⟩ ∧
      (fetcher.take answer).rounds = []
  /-- In every round of taking it, what is kept is a front of the chunks and has no more bytes than
  allowed, and what comes of the round is what is fetched. -/
  kept : ∀ round ∈ (fetcher.take answer).rounds,
    round.chunks.flatten.length = round.size ∧ round.size ≤ fetcher.maxBytes ∧
    ∃ coming, round.chunks.reverse ++ coming = answer.chunks ∧
      fetcher.fetch network start =
        (takeChunks fetcher.maxBytes answer.breakage round coming).result.mapError
          (FetchError.mk start.write)
  /-- Every front of the chunks that is within the limit is kept in some round. -/
  reached : (∀ length ∈ answer.announced, length ≤ fetcher.maxBytes) →
    ∀ front coming, front ++ coming = answer.chunks → front.flatten.length ≤ fetcher.maxBytes →
    ⟨front.reverse, front.flatten.length⟩ ∈ (fetcher.take answer).rounds

/-- The limit for the size is kept whatever the chunks of a template are and whatever is announced. -/
theorem sizeLimited_fetch (trail : Trail fetcher network start (last :: asked))
    (room : asked.length + 1 ≤ maxRequests)
    (answered : network asked.length last = .answered answer)
    (success : isSuccess answer.status = true) : SizeLimited fetcher network start answer := by
  have fetched := trail.fetch_eq_body room answered (target?_eq_none_of_isSuccess success)
  refine ⟨?whole, ?broken, ?refused, ?kept, ?reached⟩
  case whole =>
    rintro template rfl unbroken (silent | announced)
    · rw [fetched, body_of_small success (by simp [silent]), unbroken]
      split <;> rfl
    · -- The check of what is announced and the one of what arrives are of the same number.
      by_cases fits : answer.chunks.flatten.length ≤ fetcher.maxBytes
      · rw [fetched, body_of_small success (by simpa [announced] using fits), unbroken,
          if_pos fits, if_pos fits]
        rfl
      · rw [fetched, body, take_of_large success announced (Nat.lt_of_not_le fits), if_neg fits]
        rfl
  case broken =>
    intro reason breaks small
    rw [fetched, body_of_small success small, breaks]
    split <;> rfl
  case refused =>
    intro length announced large
    rw [fetched, body, take_of_large success announced large]
    exact ⟨rfl, rfl⟩
  case kept =>
    intro round member
    have small : ∀ length ∈ answer.announced, length ≤ fetcher.maxBytes := by
      refine fun length announced => Nat.le_of_not_lt fun large => ?_
      rw [take_of_large success announced large] at member
      cases member
    rw [take_of_small success small] at member
    obtain ⟨coming, holds, same⟩ := exists_holds_of_mem_rounds (Intake.holds_start _ _) member
    refine ⟨holds.counted, holds.fits, coming, holds.split, ?_⟩
    rw [fetched, body, take_of_small success small, same]
  case reached =>
    intro small front coming split fits
    have inside : ({} : Intake).size + front.flatten.length ≤ fetcher.maxBytes := by
      rwa [Nat.zero_add]
    rw [take_of_small success small, ← split]
    simpa using mem_rounds_of_fits inside answer.breakage coming

/-- A fetcher of templates of up to three bytes. -/
def threeBytes : Fetcher := { oneHost with maxBytes := 3 }

/-- A network in which every request has the same answer. -/
def always (answer : Answer) : Network := fun _ _ => .answered answer

/-- An answer that gives three bytes, with an empty chunk between them. -/
def threeInChunks : Answer where
  status := 200
  redirect := none
  announced := some 3
  chunks := [[1], [], [2, 3]]
  breakage := none

/-- An answer that gives one byte more, of which nothing is announced, and then breaks off. -/
def fourInChunks : Answer where
  status := 200
  redirect := none
  announced := none
  chunks := [[1, 2], [3], [4]]
  breakage := some "reset".toList

theorem sizeLimited_fetch_threeBytes :
    threeBytes.fetch (always threeInChunks) hostRoot = .ok [1, 2, 3] ∧
      threeBytes.fetch (always fourInChunks) hostRoot =
        .error ⟨hostRoot.write, .tooLarge 3⟩ ∧
      threeBytes.fetch (always { fourInChunks with chunks := [[1, 2], [3]] }) hostRoot =
        .error ⟨hostRoot.write, .transport "reset".toList⟩ ∧
      (threeBytes.take fourInChunks).rounds = [{}, ⟨[[1, 2]], 2⟩, ⟨[[3], [1, 2]], 3⟩] := by
  have limited (answer : Answer) (success : isSuccess answer.status = true) :
      SizeLimited threeBytes (always answer) hostRoot answer :=
    sizeLimited_fetch (.start rfl) (by decide) rfl success
  exact ⟨(limited threeInChunks rfl).whole _ rfl rfl (.inr rfl),
    (limited fourInChunks rfl).broken _ rfl (by simp [fourInChunks]),
    (limited { fourInChunks with chunks := [[1, 2], [3]] } rfl).broken _ rfl (by simp [fourInChunks]),
    rfl⟩

end Fetcher

end WordMerge
