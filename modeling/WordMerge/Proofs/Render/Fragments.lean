import Mathlib.Data.List.Basic
import WordMerge.Proofs.Markup.ShownText
import WordMerge.Proofs.Render.Structure
import WordMerge.Proofs.Template.Spelling

namespace WordMerge

namespace Value

/-- The own text of a value: a string is its own text, a truth value its word, a whole number its
decimal digits behind the sign, any other number its shortest decimal. Nothing has an empty text;
lists and objects have none. -/
def ownText? : Value → Option Text
  | .string s => some s
  | .bool b => some (toString b).toList
  | .number (.whole n) => some (toString n).toList
  | .number (.double d) => some d.write
  | .null => some []
  | .list _ | .object _ => none

/-- Whether there is nothing in a value: the values for which an inverted section stands in. -/
def isVoid : Value → Bool
  | .null | .bool false | .number (.whole 0) | .string [] | .list [] => true
  | .number (.double d) => d.significand = 0
  | _ => false

end Value

namespace PlacedTag

/-- The own text of what a value tag names, if it names something that has one. -/
def ownText? (scopes : List Value) (tag : PlacedTag) : Option Text :=
  (Scope.lookup? scopes tag.name).bind Value.ownText?

/-- The scopes of the turns of a section, if its data says how many there are: a list gives one turn
for each item, an object one with it, a truth value one or none. An inverted section has a turn where
there is nothing. -/
def turns? (scopes : List Value) (tag : PlacedTag) : Option (List (List Value)) :=
  match tag.kind, Scope.lookup? scopes tag.name with
  | .inverted, none => some [scopes]
  | .inverted, some value => some (if value.isVoid then [scopes] else [])
  | _, some (.list items) => some (items.map fun item => item :: scopes)
  | _, some (.object members) => some [.object members :: scopes]
  | _, some (.bool true) => some [scopes]
  | _, some (.bool false) | _, some .null => some []
  | _, some (.string _) | _, some (.number _) | _, none => none

end PlacedTag

/-- A piece of what a template comes to with data: an item of its XML, or the own text of a value. -/
inductive Fragment where
  | verbatim (item : Item)
  | own (text : Text)

mutual

/-- What a node comes to: its XML item by item, a value its own text, and a section its body once for
each turn. A value without a text and a section without turns to count come to nothing at all. -/
def Node.fragments? (scopes : List Value) : Node → Option (List Fragment)
  | .verbatim xml => some ((Item.scan xml).map .verbatim)
  | .value tag => (tag.ownText? scopes).map fun text => [.own text]
  | .block tag body =>
    (tag.turns? scopes).bind fun turns =>
      (turns.mapM fun inner => Node.fragmentsAll? inner body).map List.flatten

/-- What some nodes come to one after the other. -/
def Node.fragmentsAll? (scopes : List Value) : List Node → Option (List Fragment)
  | [] => some []
  | node :: rest =>
    (Node.fragments? scopes node).bind fun row => (Node.fragmentsAll? scopes rest).map (row ++ ·)

end

/-- What a reader sees of an item: character data in a text element stands for what its references
say, and a line break and the end of a paragraph are line feeds. -/
def Item.visible (inside : Bool) : Item → Text
  | .text raw => if inside then Entity.unescape raw else []
  | .markup raw => if Landmark.ofMarkup raw ∈ [.lineBreak, .paragraphEnd] then ['\n'] else []

/-- A text as its lines are read where line breaks are wanted: every line without one carriage return
at its end. -/
def ownLines (linebreaks : Bool) (text : Text) : Text :=
  if linebreaks then
    ['\n'].intercalate ((text.splitOn '\n').map fun line => (line.dropSuffix? ['\r']).getD line)
  else text

/-- The text of what a template comes to, behind a place that is inside a text element or not. -/
def Fragment.textAll (linebreaks inside : Bool) : List Fragment → Text
  | [] => []
  | .own text :: rest => ownLines linebreaks text ++ textAll linebreaks inside rest
  | .verbatim item :: rest =>
    item.visible inside ++ textAll linebreaks (item.insideAfter inside) rest

/-- The text of a template with data, taken from its tree without writing any XML. -/
def Node.textAll? (linebreaks : Bool) (scopes : List Value) (nodes : List Node) : Option Text :=
  (Node.fragmentsAll? scopes nodes).map (Fragment.textAll linebreaks false)

/-- A whole number is written as everywhere: its decimal digits behind a minus sign if it has one. -/
theorem Number.write_whole (n : Int) : (Number.whole n).write = (toString n).toList := by
  cases n with
  | ofNat n =>
    have digits : toString (Int.ofNat n) = Nat.repr n := rfl
    rw [digits, Nat.repr, String.toList_ofList]
    rfl
  | negSucc n =>
    have digits : toString (Int.negSucc n) = "-" ++ Nat.repr (n + 1) := rfl
    rw [digits, String.toList_append, Nat.repr, String.toList_ofList, String.toList_ofList, write,
      if_pos (Int.negSucc_lt_zero n)]
    rfl

namespace Value

/-- The text that is written for a value is its own text. -/
theorem text?_eq_ownText? (value : Value) : value.text? = value.ownText? := by
  cases value with
  | bool b => cases b <;> rfl
  | number n =>
    cases n with
    | double d => rfl
    | whole n => exact congrArg some (Number.write_whole n)
  | null | string s | list items | object members => rfl

/-- An inverted section is evaluated exactly where there is nothing. -/
theorem isFalsy_eq_isVoid (value : Value) : value.isFalsy = value.isVoid := by
  cases value with
  | bool b => cases b <;> rfl
  | number n =>
    cases n with
    | double d => rfl
    | whole n =>
      cases n with
      | ofNat n => cases n <;> rfl
      | negSucc n => rfl
  | string s => cases s <;> rfl
  | list items => cases items <;> rfl
  | null | object members => rfl

end Value

theorem chomp_eq_dropSuffix? (line : Text) : chomp line = (line.dropSuffix? ['\r']).getD line := by
  unfold chomp
  by_cases ends : line.getLast? = some '\r'
  · obtain ⟨front, rfl⟩ := List.getLast?_eq_some_iff.mp ends
    have dropped : (front ++ ['\r']).dropSuffix? ['\r'] = some front :=
      List.dropSuffix?_eq_some_iff.mpr ⟨['\r'], rfl, by simp⟩
    rw [if_pos ends, dropped, Option.getD_some, List.dropLast_concat]
  · have kept : line.dropSuffix? ['\r'] = none := by
      cases dropped : line.dropSuffix? ['\r'] with
      | none => rfl
      | some front =>
        obtain ⟨last, rfl, same⟩ := List.dropSuffix?_eq_some_iff.mp dropped
        rw [eq_of_beq same] at ends
        exact absurd List.getLast?_concat ends
    rw [if_neg ends, kept, Option.getD_none]

/-- The lines of a text lose what its lines lose when they are written. -/
theorem ownLines_eq (linebreaks : Bool) (text : Text) : ownLines linebreaks text =
    if linebreaks then ['\n'].intercalate ((text.splitOn '\n').map chomp) else text := by
  have lines : chomp = fun line => (line.dropSuffix? ['\r']).getD line :=
    funext chomp_eq_dropSuffix?
  rw [ownLines, lines]

namespace PlacedTag

/-- A value tag writes the XML of the own text of what it names, or fails without one. -/
theorem valueXml_cases (linebreaks : Bool) (scopes : List Value) (tag : PlacedTag) :
    (∃ text, tag.ownText? scopes = some text ∧
      tag.valueXml linebreaks scopes = .ok (WordMerge.valueXml linebreaks text)) ∨
    tag.ownText? scopes = none ∧ ∃ fault, tag.valueXml linebreaks scopes = .error fault := by
  unfold valueXml ownText?
  cases Scope.lookup? scopes tag.name with
  | none => exact .inr ⟨rfl, _, rfl⟩
  | some value =>
    rw [Option.bind_some, ← value.text?_eq_ownText?]
    cases own : value.text? with
    | none => exact .inr ⟨rfl, .valueTypeMismatch tag.name value.kindName, by simp [own]⟩
    | some text => exact .inl ⟨text, rfl, by simp [own]⟩

/-- A section has the turns that its data says, or fails where the data does not say any. -/
theorem turns?_cases (scopes : List Value) (tag : PlacedTag) :
    (∃ turns, tag.turns? scopes = some turns ∧ tag.sectionScopes scopes = .ok turns) ∨
    tag.turns? scopes = none ∧ ∃ fault, tag.sectionScopes scopes = .error fault := by
  unfold sectionScopes turns?
  cases tag.kind with
  | inverted =>
    cases Scope.lookup? scopes tag.name with
    | none => exact .inl ⟨_, rfl, rfl⟩
    | some value => exact .inl ⟨_, rfl, by simp [value.isFalsy_eq_isVoid]⟩
  | value | opening | closing =>
    cases Scope.lookup? scopes tag.name with
    | none => exact .inr ⟨rfl, _, rfl⟩
    | some value =>
      cases value with
      | bool b => cases b <;> exact .inl ⟨_, rfl, rfl⟩
      | null | list items | object members => exact .inl ⟨_, rfl, rfl⟩
      | string s | number n => exact .inr ⟨rfl, _, rfl⟩

end PlacedTag

namespace PlainText

/-- Places a fragment behind what is there. -/
def place (linebreaks : Bool) (plain : PlainText) : Fragment → PlainText
  | .verbatim item => plain.step item
  | .own text => plain.add (ownLines linebreaks text)

/-- An item adds what a reader sees of it. -/
theorem step_eq (plain : PlainText) (item : Item) :
    (plain.step item).text = plain.text ++ item.visible plain.inText ∧
      (plain.step item).inText = item.insideAfter plain.inText := by
  cases item with
  | text raw =>
    cases inside : plain.inText with
    | true => simp [step, inside, Item.visible, Item.insideAfter, PlainText.text]
    | false => simp [step, inside, Item.visible, Item.insideAfter]
  | markup raw =>
    simp only [step, Item.visible, Item.insideAfter]
    cases Landmark.ofMarkup raw <;> simp [PlainText.text]

/-- The text of a row of fragments is what an extraction finds in them. -/
theorem text_foldl_place (linebreaks : Bool) (plain : PlainText) (row : List Fragment) :
    (row.foldl (place linebreaks) plain).text =
      plain.text ++ Fragment.textAll linebreaks plain.inText row := by
  induction row generalizing plain with
  | nil => simp [Fragment.textAll]
  | cons fragment rest ih =>
    rw [List.foldl_cons, ih]
    cases fragment with
    | own text => simp [place, Fragment.textAll]
    | verbatim item =>
      obtain ⟨seen, inside⟩ := plain.step_eq item
      rw [place, seen, inside, Fragment.textAll, List.append_assoc]

theorem foldl_place_items (linebreaks : Bool) (plain : PlainText) (items : List Item) :
    (items.map Fragment.verbatim).foldl (place linebreaks) plain = items.foldl step plain := by
  rw [List.foldl_map]
  rfl

end PlainText

namespace Node

@[simp] theorem fragmentsAll?_nil (scopes : List Value) : fragmentsAll? scopes [] = some [] := rfl

theorem fragmentsAll?_cons (scopes : List Value) (node : Node) (rest : List Node) :
    fragmentsAll? scopes (node :: rest) = (fragments? scopes node).bind fun row =>
      (fragmentsAll? scopes rest).map (row ++ ·) := rfl

/-- What a row of nodes comes to is what its first node comes to, and then the others. -/
theorem fragmentsAll?_cons_eq_some {scopes : List Value} {node : Node} {rest : List Node}
    {row : List Fragment} : fragmentsAll? scopes (node :: rest) = some row ↔
      ∃ front back, fragments? scopes node = some front ∧ fragmentsAll? scopes rest = some back ∧
        row = front ++ back := by
  rw [fragmentsAll?_cons, Option.bind_eq_some_iff]
  simp only [Option.map_eq_some_iff, eq_comm (b := row)]
  exact ⟨fun ⟨front, here, back, later, same⟩ => ⟨front, back, here, later, same⟩,
    fun ⟨front, back, here, later, same⟩ => ⟨front, here, back, later, same⟩⟩

theorem fragments?_value_eq_some {scopes : List Value} {tag : PlacedTag} {row : List Fragment} :
    fragments? scopes (.value tag) = some row ↔
      ∃ text, tag.ownText? scopes = some text ∧ row = [.own text] := by
  rw [fragments?, Option.map_eq_some_iff]
  exact exists_congr fun text => and_congr_right fun _ => eq_comm

/-- Every element of a row gives something, one after the other. -/
theorem mapM_eq_some {α β : Type} {f : α → Option β} {as : List α} {bs : List β} :
    as.mapM f = some bs ↔ List.Forall₂ (fun a b => f a = some b) as bs := by
  induction as generalizing bs with
  | nil => simp [eq_comm]
  | cons a as ih =>
    simp only [List.mapM_cons, Option.bind_eq_bind, Option.pure_def, Option.bind_eq_some_iff,
      List.forall₂_cons_left_iff, Option.some.injEq, ih]
    exact exists_congr fun b => by simp [eq_comm]

/-- What a section comes to is what its body comes to in one turn after the other. -/
theorem fragments?_block_eq_some {scopes : List Value} {tag : PlacedTag} {body : List Node}
    {row : List Fragment} : fragments? scopes (.block tag body) = some row ↔
      ∃ turns rows, tag.turns? scopes = some turns ∧
        List.Forall₂ (fun inner row => fragmentsAll? inner body = some row) turns rows ∧
          row = rows.flatten := by
  rw [fragments?, Option.bind_eq_some_iff]
  refine exists_congr fun turns => ?_
  rw [Option.map_eq_some_iff]
  constructor
  · rintro ⟨given, rows, all, same⟩
    exact ⟨rows, given, mapM_eq_some.mp all, same.symm⟩
  · rintro ⟨rows, given, all, same⟩
    exact ⟨given, rows, mapM_eq_some.mpr all, same.symm⟩

/-- Faults that are noted before some turns stay noted if each turn keeps those before it. -/
theorem faults_suffix_turns {linebreaks : Bool} {body : List Node}
    (keeps : ∀ inner draft, draft.faults <:+ (renderAll linebreaks inner draft body).faults)
    (turns : List (List Value)) (draft : Draft) : draft.faults <:+
      (turns.foldl (fun draft inner => renderAll linebreaks inner draft body) draft).faults :=
  List.foldlRecOn (motive := fun later : Draft => draft.faults <:+ later.faults) turns _
    List.suffix_rfl fun later kept turn _ => kept.trans (keeps turn later)

/-- Faults that are noted stay noted. -/
theorem faults_suffix_renderAll (linebreaks : Bool) (nodes : List Node) (scopes : List Value)
    (draft : Draft) : draft.faults <:+ (renderAll linebreaks scopes draft nodes).faults := by
  induction nodes using Node.row_induction generalizing scopes draft with
  | nil => exact List.suffix_rfl
  | verbatim xml rest ih => exact ih scopes (draft.write xml)
  | value tag rest ih =>
    rw [renderAll_value]
    refine List.IsSuffix.trans ?_ (ih scopes _)
    split
    · exact List.suffix_rfl
    · exact List.suffix_cons _ _
  | block tag body rest ihBody ih =>
    rw [renderAll_block]
    refine List.IsSuffix.trans ?_ (ih scopes _)
    split
    · next turns _ => exact faults_suffix_turns ihBody turns draft
    · exact List.suffix_cons _ _

/-- An evaluation that ends without faults began without faults. -/
theorem faults_eq_nil_of_renderAll {linebreaks : Bool} {nodes : List Node} {scopes : List Value}
    {draft : Draft} (clean : (renderAll linebreaks scopes draft nodes).faults = []) :
    draft.faults = [] := by
  have kept := faults_suffix_renderAll linebreaks nodes scopes draft
  rwa [clean, List.suffix_nil] at kept

/-- Turns that are evaluated without a fault come to something, each of them. -/
theorem exists_rows_of_turns {linebreaks : Bool} {body : List Node}
    (comes : ∀ inner draft, (renderAll linebreaks inner draft body).faults = [] →
      ∃ row, fragmentsAll? inner body = some row) (turns : List (List Value)) (draft : Draft)
    (clean : (turns.foldl (fun draft inner => renderAll linebreaks inner draft body) draft).faults
      = []) :
    ∃ rows, List.Forall₂ (fun inner row => fragmentsAll? inner body = some row) turns rows := by
  induction turns generalizing draft with
  | nil => exact ⟨[], .nil⟩
  | cons inner turns ih =>
    obtain ⟨rows, later⟩ := ih _ clean
    have kept := faults_suffix_turns (faults_suffix_renderAll linebreaks body) turns
      (renderAll linebreaks inner draft body)
    rw [List.foldl_cons] at clean
    rw [clean, List.suffix_nil] at kept
    obtain ⟨row, here⟩ := comes inner draft kept
    exact ⟨row :: rows, .cons here later⟩

/-- Nodes that are evaluated without a fault come to something. -/
theorem exists_fragments {linebreaks : Bool} (nodes : List Node) (scopes : List Value) (draft : Draft)
    (clean : (renderAll linebreaks scopes draft nodes).faults = []) :
    ∃ row, fragmentsAll? scopes nodes = some row := by
  induction nodes using Node.row_induction generalizing scopes draft with
  | nil => exact ⟨[], rfl⟩
  | verbatim xml rest ih =>
    obtain ⟨back, later⟩ := ih scopes _ clean
    exact ⟨_, fragmentsAll?_cons_eq_some.mpr ⟨_, back, rfl, later, rfl⟩⟩
  | value tag rest ih =>
    rw [renderAll_value] at clean
    obtain ⟨back, later⟩ := ih scopes _ clean
    rcases tag.valueXml_cases linebreaks scopes with ⟨text, own, _⟩ | ⟨_, fault, failed⟩
    · have here := fragments?_value_eq_some.mpr ⟨text, own, rfl⟩
      exact ⟨_, fragmentsAll?_cons_eq_some.mpr ⟨_, back, here, later, rfl⟩⟩
    · rw [failed] at clean
      cases faults_eq_nil_of_renderAll clean
  | block tag body rest ihBody ih =>
    rw [renderAll_block] at clean
    obtain ⟨back, later⟩ := ih scopes _ clean
    rcases tag.turns?_cases scopes with ⟨turns, given, same⟩ | ⟨_, fault, failed⟩
    · rw [same] at clean
      obtain ⟨rows, all⟩ := exists_rows_of_turns ihBody turns draft (faults_eq_nil_of_renderAll clean)
      have here := fragments?_block_eq_some.mpr ⟨turns, rows, given, all, rfl⟩
      exact ⟨_, fragmentsAll?_cons_eq_some.mpr ⟨_, back, here, later, rfl⟩⟩
    · rw [failed] at clean
      cases faults_eq_nil_of_renderAll clean

end Node

end WordMerge
