import WordMerge.Location.Basic
import WordMerge.Text.Blank

namespace WordMerge

/-- The rule for locations. -/
structure LocationPolicy where
  /-- The entries of the list of hosts, in small letters; none of them is blank. -/
  hosts : List Text
  deriving DecidableEq, Repr

/-- Why a location is refused. -/
inductive Refusal where
  /-- The scheme is not one of those that are spoken. -/
  | scheme (name : Text)
  /-- The host is not on the list. -/
  | host (name : Text)
  deriving DecidableEq, Repr

/-- The refusal in words. -/
def Refusal.message : Refusal → Text
  | .scheme name => "scheme '".toList ++ name ++ "' is not supported".toList
  | .host name => "host '".toList ++ name ++ "' is not in the allow-list".toList

namespace LocationPolicy

/-- The rule for the given entries. Blanks around an entry and its case do not count, and neither do
blank entries. -/
def ofEntries (entries : List Text) : LocationPolicy :=
  ⟨(entries.map fun entry => Text.lower (Text.trim entry)).filter (!·.isEmpty)⟩

/-- Whether every host is allowed. -/
def isUnrestricted (policy : LocationPolicy) : Bool :=
  policy.hosts.isEmpty

/-- The domain of an entry that stands for all hosts below it. -/
def domain? (entry : Text) : Option Text :=
  "*.".toList.isPrefixOf? entry

/-- Whether an entry of the list covers a host. -/
def covers (entry host : Text) : Bool :=
  match domain? entry with
  | none => entry == host
  | some domain =>
    match domain.isSuffixOf? host with
    | none => false
    | some above => above.getLast? == some '.' && above.length > 1

/-- Lets a location pass or tells why it is refused. Only two schemes are ever let pass, and a list
of hosts narrows this down. -/
def check (policy : LocationPolicy) (location : Location) : Except Refusal Unit :=
  if location.scheme = "http".toList ∨ location.scheme = "https".toList then
    let host := Text.lower location.hostText
    if policy.isUnrestricted ∨ policy.hosts.any (covers · host) then .ok ()
    else .error (.host host)
  else .error (.scheme location.scheme)

end LocationPolicy

end WordMerge
