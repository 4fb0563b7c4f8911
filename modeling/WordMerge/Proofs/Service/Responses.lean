import Mathlib.Data.List.Forall2
import WordMerge.Service.Message

namespace WordMerge

namespace Value

theorem lookup_cons_of_ne {key other : Text} (differ : other ≠ key) (value : Value)
    (rest : List (Text × Value)) : ((key, value) :: rest).lookup other = rest.lookup other := by
  rw [List.lookup_cons, beq_eq_false_iff_ne.mpr differ]

/-- A member counts at any place behind which its key is new. -/
theorem lookup_append_member {key : Text} {passed : List (Text × Value)}
    (absent : passed.lookup key = none) (value : Value) (rest : List (Text × Value))
    (other : Text) : (passed ++ (key, value) :: rest).lookup other =
      if other = key then some value else (passed ++ rest).lookup other := by
  by_cases same : other = key
  · subst same
    simp [List.lookup_append, absent]
  · rw [if_neg same, List.lookup_append, List.lookup_append, lookup_cons_of_ne same]

theorem lookup_setMember_go (key : Text) (value : Value) (passed members : List (Text × Value))
    (other : Text) (absent : passed.reverse.lookup key = none) :
    (setMember.go key value passed members).lookup other =
      if other = key then some value else (passed.reverse ++ members).lookup other := by
  induction members generalizing passed with
  | nil => exact lookup_append_member absent value [] other
  | cons member rest ih =>
    obtain ⟨k, v⟩ := member
    rw [setMember.go]
    split
    · next same =>
      subst same
      rw [lookup_append_member absent value rest, lookup_append_member absent v rest]
      split <;> rfl
    · next differ =>
      split
      · have later : ((k, v) :: passed).reverse.lookup key = none := by
          rw [List.reverse_cons, List.lookup_append, absent, Option.none_or,
            lookup_cons_of_ne (Ne.symm differ), List.lookup_nil]
        rw [ih _ later, List.reverse_cons, List.append_assoc, List.singleton_append]
      · exact lookup_append_member absent value _ other

/-- Setting a member changes this member and no other. -/
theorem lookup_setMember (key : Text) (value : Value) (members : List (Text × Value))
    (other : Text) : (setMember key value members).lookup other =
      if other = key then some value else members.lookup other :=
  lookup_setMember_go key value [] members other rfl

/-- An object has the last member that it was given under a key. -/
theorem member?_ofMembers (members : List (Text × Value)) (key : Text) :
    (ofMembers members).member? key = members.reverse.lookup key := by
  have set (sorted : List (Text × Value)) :
      (members.foldl (fun sorted m => setMember m.1 m.2 sorted) sorted).lookup key =
        (members.reverse.lookup key).or (sorted.lookup key) := by
    induction members generalizing sorted with
    | nil => rfl
    | cons member rest ih =>
      obtain ⟨k, v⟩ := member
      rw [List.foldl_cons, ih, lookup_setMember, List.reverse_cons, List.lookup_append, Option.or_assoc]
      by_cases same : key = k
      · subst same
        simp
      · rw [if_neg same, lookup_cons_of_ne same]
        rfl
  rw [ofMembers, member?, set, List.lookup_nil, Option.or_none]

end Value

/-- What an error response has to say. -/
structure Notice where
  /-- The status. -/
  status : Nat
  /-- The class of the error. -/
  code : String
  /-- The location of the template. -/
  url : Option Text := none
  /-- The status of the answer of its host. -/
  upstream : Option Nat := none
  /-- What is wrong with the tags. -/
  details : Option (List TagReport) := none

/-- Whether an item shows a report. -/
structure TagReport.ShownBy (report : TagReport) (item : Value) : Prop where
  id : item.member? "id".toList = some (.string report.kind.code.toList)
  tag : item.member? "tag".toList = some (.string report.tag)
  explanation : item.member? "explanation".toList = some (.string report.explanation)
  part : item.member? "part".toList = some (.string report.part)

/-- Whether an object says what a notice has to say, and none of the rest. -/
structure Notice.ToldBy (notice : Notice) (value : Value) : Prop where
  code : value.member? "error".toList = some (.string notice.code.toList)
  url : value.member? "url".toList = notice.url.map .string
  upstream : value.member? "status".toList = notice.upstream.map fun status => .number (.whole status)
  details : Option.Rel (fun reports items => ∃ list, items = .list list ∧
    List.Forall₂ TagReport.ShownBy reports list) notice.details (value.member? "details".toList)

/-- Whether a response says what a notice has to say. -/
def Notice.SentBy (notice : Notice) (response : Response) : Prop :=
  response.status = notice.status ∧ ∃ value, response.content = .json value ∧ notice.ToldBy value

namespace ServiceError

/-- What the response to an error has to say. -/
def notice (error : ServiceError) : Notice where
  status := error.status
  code := error.code
  url := match error with
    | .fetchFailed error => some error.url
    | _ => none
  upstream := match error with
    | .fetchFailed error => error.status?
    | _ => none
  details := match error with
    | .renderFailed details => some details
    | _ => none

theorem shownBy_reportValue (report : TagReport) : report.ShownBy (reportValue report) := by
  constructor <;> rw [reportValue, Value.member?_ofMembers] <;> rfl

/-- The JSON of an error says what it has to say. -/
theorem toldBy_value (error : ServiceError) : error.notice.ToldBy error.value := by
  have read (key : Text) : error.value.member? key = (("error".toList, .string error.code.toList)
      :: ("message".toList, .string error.message) :: error.extras).reverse.lookup key :=
    Value.member?_ofMembers _ key
  have shown (details : List TagReport) :
      List.Forall₂ TagReport.ShownBy details (details.map reportValue) := by
    induction details with
    | nil => exact .nil
    | cons report rest ih => exact .cons (shownBy_reportValue report) ih
  constructor <;> rw [read]
  case details =>
    cases error with
    | fetchFailed error => obtain ⟨url, _ | _ | _ | _⟩ := error <;> exact .none
    | renderFailed details => exact .some ⟨_, rfl, shown details⟩
    | _ => exact .none
  all_goals
    cases error with
    | fetchFailed error => obtain ⟨url, _ | _ | _ | _⟩ := error <;> rfl
    | _ => rfl

theorem sentBy_ofError (error : ServiceError) : error.notice.SentBy (Response.ofError error) :=
  ⟨rfl, error.value, rfl, error.toldBy_value⟩

end ServiceError

end WordMerge
