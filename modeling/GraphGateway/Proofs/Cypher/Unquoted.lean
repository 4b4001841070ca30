import GraphGateway.Cypher.Clause
import GraphGateway.Graphql.Token

/-!
Words outside quotes.  In the text of some clauses, all names of a user's choice stand in backquotes.
Outside them are the words of the clauses and the variables and parameters that a statement gives out,
so a clause that writes is in the text only if it is among the clauses.
-/
namespace GraphGateway.Cypher

open Graphql.Token (isNamePart)

/-- Where a reader of a text stands: outside quotes, in a name, in a text, or in it behind a
backslash. -/
inductive Reading where
  | bare
  | name
  | text
  | slash
  deriving DecidableEq

def Reading.next : Reading → Char → Reading
  | .bare, c => if c = '\x60' then .name else if c = '\'' then .text else .bare
  | .name, c => if c = '\x60' then .bare else .name
  | .text, c => if c = '\'' then .bare else if c = '\\' then .slash else .text
  | .slash, _ => .text

/-- A text with a blank for every character in quotes, and for the quotes. -/
def unquotedFrom (reading : Reading) : List Char → List Char
  | [] => []
  | c :: rest =>
      (if reading = .bare ∧ reading.next c = .bare then c else ' ') ::
        unquotedFrom (reading.next c) rest

def wordsOf (text : List Char) : List (List Char) := text.splitOnP fun c => !isNamePart c

/-- The words of a text that stand outside its quotes. -/
def bareWords (text : String) : List (List Char) := wordsOf (unquotedFrom .bare text.toList)

/-- Whether a word, in letters of any case, makes or deletes something. -/
def isWriting (word : List Char) : Bool :=
  ["create".toList, "merge".toList, "delete".toList].contains (word.map Char.toLower)

/-- A word with anything but letters in it does not write. -/
theorem isWriting_of_mem {word : List Char} {c : Char} (member : c ∈ word)
    (foreign : c.toLower.isAlpha = false) : isWriting word = false := by
  have inside : c.toLower ∈ word.map Char.toLower := List.mem_map_of_mem member
  have letters : ["create".toList, "merge".toList, "delete".toList].all
      (fun other => other.all Char.isAlpha) = true := by decide
  refine Bool.eq_false_iff.mpr fun writes => ?_
  have among := List.all_eq_true.mp letters _ (List.contains_iff_mem.mp writes)
  exact absurd (List.all_eq_true.mp among _ inside) (Bool.eq_false_iff.mp foreign)

theorem isNamePart_of_mem_toDigits {number : Nat} {c : Char} (member : c ∈ Nat.toDigits 10 number) :
    isNamePart c = true := by
  have digit := Nat.isDigit_of_mem_toDigits (by decide) (by decide) member
  simp [isNamePart, Char.isAlphanum, digit]

/-- Whether a text starts with what is no part of a word. -/
def startsApart (text : List Char) : Bool := text.head?.any fun c => !isNamePart c

/-- Whether a text ends with what is no part of a word. -/
def endsApart (text : List Char) : Bool := text.getLast?.any fun c => !isNamePart c

theorem endsApart_append {rest : List Char} (apart : endsApart rest = true)
    (first : List Char) : endsApart (first ++ rest) = true := by
  unfold endsApart at apart ⊢
  obtain ⟨c, last, foreign⟩ := (Option.any_eq_true _ _).mp apart
  rw [List.getLast?_append, last]
  exact foreign

theorem unquotedFrom_append (reading : Reading) (first rest : List Char) :
    unquotedFrom reading (first ++ rest) =
      unquotedFrom reading first ++ unquotedFrom (first.foldl Reading.next reading) rest := by
  induction first generalizing reading with
  | nil => rfl
  | cons c others ih => rw [List.cons_append, unquotedFrom, unquotedFrom, ih]; rfl

theorem startsApart_unquotedFrom {text : List Char} (apart : startsApart text = true)
    (reading : Reading) : startsApart (unquotedFrom reading text) = true := by
  cases text with
  | nil => cases apart
  | cons c rest =>
      rw [unquotedFrom]
      split
      · exact apart
      · rfl

theorem endsApart_unquotedFrom {text : List Char} (apart : endsApart text = true)
    (reading : Reading) : endsApart (unquotedFrom reading text) = true := by
  rcases List.eq_nil_or_concat text with rfl | ⟨before, c, rfl⟩
  · cases apart
  · rw [List.concat_eq_append] at apart ⊢
    rw [unquotedFrom_append]
    refine endsApart_append ?_ _
    rw [unquotedFrom, unquotedFrom]
    split
    · simpa [endsApart] using apart
    · rfl

theorem wordsOf_append_cons {c : Char} (apart : isNamePart c = false) (first rest : List Char) :
    wordsOf (first ++ c :: rest) = wordsOf first ++ wordsOf rest :=
  List.splitOnP_append_cons first rest (by rw [apart]; rfl)

theorem wordsOf_cons {c : Char} (apart : isNamePart c = false) (rest : List Char) :
    wordsOf (c :: rest) = [] :: wordsOf rest :=
  wordsOf_append_cons apart [] rest

/-- Where one of two texts keeps words apart, their words are those of both. -/
theorem wordsOf_append {first rest : List Char}
    (apart : endsApart first = true ∨ startsApart rest = true) {word : List Char}
    (member : word ∈ wordsOf (first ++ rest)) : word ∈ wordsOf first ∨ word ∈ wordsOf rest := by
  rcases apart with ends | starts
  · rcases List.eq_nil_or_concat first with rfl | ⟨before, c, rfl⟩
    · cases ends
    · rw [List.concat_eq_append] at ends member ⊢
      have apart : isNamePart c = false := by simpa [endsApart] using ends
      rw [List.append_assoc, List.singleton_append, wordsOf_append_cons apart,
        List.mem_append] at member
      rw [wordsOf_append_cons apart, List.mem_append]
      exact member.imp_left .inl
  · cases rest with
    | nil => cases starts
    | cons c others =>
        have apart : isNamePart c = false := by simpa [startsApart] using starts
        rw [wordsOf_append_cons apart, List.mem_append] at member
        rw [wordsOf_cons apart]
        exact member.imp_right (List.mem_cons_of_mem _)

/-- A text that closes its quotes, and none of whose words outside them writes. -/
structure IsHarmless (text : String) : Prop where
  closed : text.toList.foldl Reading.next .bare = .bare
  quiet : ∀ word ∈ bareWords text, isWriting word = false

instance (text : String) : Decidable (IsHarmless text) :=
  decidable_of_iff (text.toList.foldl Reading.next .bare = .bare ∧
    ∀ word ∈ bareWords text, isWriting word = false) ⟨fun ⟨closed, quiet⟩ => ⟨closed, quiet⟩,
      fun ⟨closed, quiet⟩ => ⟨closed, quiet⟩⟩

/-- A word that does not write. -/
structure IsPlainWord (name : String) : Prop where
  spelt : ∀ c ∈ name.toList, isNamePart c = true
  quiet : isWriting name.toList = false

instance (name : String) : Decidable (IsPlainWord name) :=
  decidable_of_iff (name.toList.all isNamePart = true ∧ isWriting name.toList = false)
    ⟨fun ⟨spelt, quiet⟩ => ⟨List.all_eq_true.mp spelt, quiet⟩,
      fun ⟨spelt, quiet⟩ => ⟨List.all_eq_true.mpr spelt, quiet⟩⟩

namespace IsHarmless

variable {first rest : String}

theorem append (one : IsHarmless first) (other : IsHarmless rest)
    (apart : endsApart first.toList = true ∨ startsApart rest.toList = true) :
    IsHarmless (first ++ rest) where
  closed := by rw [String.toList_append, List.foldl_append, one.closed, other.closed]
  quiet := by
    intro word member
    unfold bareWords at member
    rw [String.toList_append, unquotedFrom_append, one.closed] at member
    have parts := wordsOf_append (apart.imp (endsApart_unquotedFrom · _)
      (startsApart_unquotedFrom · _)) member
    exact parts.elim (one.quiet word) (other.quiet word)

theorem next_of_isNamePart {c : Char} (part : isNamePart c = true) : Reading.bare.next c = .bare := by
  have apart : c ≠ '\x60' ∧ c ≠ '\'' := by
    constructor <;> rintro rfl <;> exact absurd part (by decide)
  rw [Reading.next, if_neg apart.1, if_neg apart.2]

theorem word {name : String} (plain : IsPlainWord name) : IsHarmless name := by
  have reads : ∀ text : List Char, (∀ c ∈ text, isNamePart c = true) →
      text.foldl Reading.next .bare = .bare ∧ unquotedFrom .bare text = text := by
    intro text
    induction text with
    | nil => exact fun _ => ⟨rfl, rfl⟩
    | cons c rest ih =>
        intro spelt
        obtain ⟨here, later⟩ := List.forall_mem_cons.mp spelt
        obtain ⟨closed, same⟩ := ih later
        have stays := next_of_isNamePart here
        rw [List.foldl_cons, unquotedFrom, stays]
        exact ⟨closed, by rw [if_pos ⟨rfl, rfl⟩, same]⟩
  obtain ⟨closed, same⟩ := reads name.toList plain.spelt
  refine ⟨closed, fun word member => ?_⟩
  unfold bareWords wordsOf at member
  rw [same, List.splitOnP_eq_singleton fun c inside => by rw [plain.spelt c inside]; rfl] at member
  rw [List.mem_singleton.mp member]
  exact plain.quiet

/-- Between two quotes there are no words. -/
theorem of_blank {text : String} (closed : text.toList.foldl Reading.next .bare = .bare)
    (blank : ∀ c ∈ unquotedFrom .bare text.toList, c = ' ') : IsHarmless text := by
  refine ⟨closed, fun word member => ?_⟩
  have empty : ∀ chars : List Char, (∀ c ∈ chars, c = ' ') → ∀ word ∈ wordsOf chars, word = [] := by
    intro chars
    induction chars with
    | nil => simp [wordsOf]
    | cons c rest ih =>
        intro blank word member
        obtain ⟨rfl, later⟩ := List.forall_mem_cons.mp blank
        rw [wordsOf_cons (by decide), List.mem_cons] at member
        exact member.elim id (ih later word)
  rw [empty _ blank word member]
  decide

theorem doubled_reads (name : List Char) : (doubled name).foldl Reading.next .name = .name ∧
    ∀ c ∈ unquotedFrom .name (doubled name), c = ' ' := by
  induction name with
  | nil => exact ⟨rfl, List.forall_mem_nil _⟩
  | cons c rest ih =>
      obtain ⟨closed, blank⟩ := ih
      rw [doubled]
      split
      · next quote =>
        subst quote
        exact ⟨closed, List.forall_mem_cons.mpr ⟨rfl, List.forall_mem_cons.mpr ⟨rfl, blank⟩⟩⟩
      · next other =>
        have stays : Reading.name.next c = .name := if_neg other
        rw [List.foldl_cons, unquotedFrom, stays]
        exact ⟨closed, List.forall_mem_cons.mpr ⟨rfl, blank⟩⟩

theorem slashed_reads (text : List Char) : (slashed text).foldl Reading.next .text = .text ∧
    ∀ c ∈ unquotedFrom .text (slashed text), c = ' ' := by
  induction text with
  | nil => exact ⟨rfl, List.forall_mem_nil _⟩
  | cons c rest ih =>
      obtain ⟨closed, blank⟩ := ih
      rw [slashed]
      split
      · exact ⟨closed, List.forall_mem_cons.mpr ⟨rfl, List.forall_mem_cons.mpr ⟨rfl, blank⟩⟩⟩
      · next other =>
        rw [Bool.or_eq_true, decide_eq_true_eq, decide_eq_true_eq, not_or] at other
        have stays : Reading.text.next c = .text := by
          rw [Reading.next, if_neg other.2, if_neg other.1]
        rw [List.foldl_cons, unquotedFrom, stays]
        exact ⟨closed, List.forall_mem_cons.mpr ⟨rfl, blank⟩⟩

/-- In the quotes of a name or of a text there are no words. -/
theorem of_quoted {text : String} {mark : Char} {inside : List Char} {reading : Reading}
    (spelt : text.toList = mark :: (inside ++ [mark])) (opens : Reading.bare.next mark = reading)
    (within : reading ≠ .bare) (closes : reading.next mark = .bare)
    (reads : inside.foldl Reading.next reading = reading ∧
      ∀ c ∈ unquotedFrom reading inside, c = ' ') : IsHarmless text := by
  apply of_blank
  · rw [spelt, List.foldl_cons, List.foldl_append, opens, reads.1]
    exact closes
  · rw [spelt, unquotedFrom, unquotedFrom_append, opens, reads.1, if_neg (within ·.2)]
    refine List.forall_mem_cons.mpr ⟨rfl, List.forall_mem_append.mpr ⟨reads.2, ?_⟩⟩
    rw [unquotedFrom, if_neg (within ·.1)]
    exact List.forall_mem_singleton.mpr rfl

theorem escape (name : String) : IsHarmless (escape name) :=
  of_quoted String.toList_ofList rfl nofun rfl (doubled_reads name.toList)

theorem quote (content : String) : IsHarmless (quote content) :=
  of_quoted String.toList_ofList rfl nofun rfl (slashed_reads content.toList)

/-- Texts with something between them that keeps words apart. -/
theorem intercalate {sep : String} (harmless : IsHarmless sep)
    (starts : startsApart sep.toList = true) (ends : endsApart sep.toList = true)
    {texts : List String} (each : ∀ text ∈ texts, IsHarmless text) :
    IsHarmless (sep.intercalate texts) := by
  induction texts with
  | nil =>
      rw [String.intercalate_nil]
      decide
  | cons first others ih =>
      obtain ⟨here, later⟩ := List.forall_mem_cons.mp each
      cases others with
      | nil =>
          rw [String.intercalate_singleton]
          exact here
      | cons second more =>
          rw [String.intercalate_cons_cons]
          refine (here.append harmless (.inr starts)).append (ih later) (.inl ?_)
          rw [String.toList_append]
          exact endsApart_append ends _

/-- Behind a mark that keeps words apart. -/
theorem behind {mark : String} (one : IsHarmless (first ++ mark))
    (ends : endsApart mark.toList = true) (other : IsHarmless rest) :
    IsHarmless (first ++ mark ++ rest) := by
  refine one.append other (.inl ?_)
  rw [String.toList_append]
  exact endsApart_append ends _

theorem number (value : Nat) : IsHarmless (toString value) := by
  have digits : (toString value).toList = Nat.toDigits 10 value := String.toList_ofList
  refine word ⟨fun c member => ?_, ?_⟩
  · rw [digits] at member
    exact isNamePart_of_mem_toDigits member
  · rw [digits]
    have foreign : ∀ digit < 10, (Nat.digitChar digit).toLower.isAlpha = false := by decide
    by_cases single : value < 10
    · rw [Nat.toDigits_of_lt_base single]
      exact isWriting_of_mem (List.mem_singleton_self _) (foreign value single)
    · rw [Nat.toDigits_of_base_le (by decide) (Nat.le_of_not_lt single)]
      exact isWriting_of_mem (List.mem_append_right _ (List.mem_singleton_self _))
        (foreign _ (Nat.mod_lt _ (by decide)))

end IsHarmless

mutual

/-- An expression in which all variables and parameters are words that do not write. -/
def Expression.IsWorded : Expression → Prop
  | .variable name => IsPlainWord name
  | .parameter name => IsPlainWord name
  | .property owner _ => IsPlainWord owner
  | .counted counter => IsPlainWord counter
  | .number _ => True
  | .text _ => True
  | .no => True
  | .freshIdentifier => True
  | .compare _ first second => first.IsWorded ∧ second.IsWorded
  | .isMissing item => item.IsWorded
  | .isPresent item => item.IsWorded
  | .plus first second => first.IsWorded ∧ second.IsWorded
  | .map entries => Expression.AreWordedEntries entries
  | .list items => Expression.AreWorded items
  | .report path matched => path.IsWorded ∧ matched.IsWorded
  | .collect item => item.IsWorded
  | .head items => items.IsWorded
  | .count item => item.IsWorded
  | .positions items => items.IsWorded
  | .at items position => items.IsWorded ∧ position.IsWorded

def Expression.AreWorded : List Expression → Prop
  | [] => True
  | item :: rest => item.IsWorded ∧ Expression.AreWorded rest

def Expression.AreWordedEntries : List (String × Expression) → Prop
  | [] => True
  | (_, item) :: rest => item.IsWorded ∧ Expression.AreWordedEntries rest

end

theorem mapText_harmless {entries : List (String × String)}
    (each : ∀ entry ∈ entries, IsHarmless entry.2) : IsHarmless (mapText entries) := by
  unfold mapText
  have body : IsHarmless (", ".intercalate
      (entries.map fun entry => escape entry.1 ++ ": " ++ entry.2)) := by
    refine .intercalate (by decide) rfl rfl fun text member => ?_
    obtain ⟨entry, inside, rfl⟩ := List.mem_map.mp member
    exact ((IsHarmless.escape entry.1).append (by decide) (.inr rfl)).behind rfl (each _ inside)
  exact (IsHarmless.append (by decide) body (.inl rfl)).append (by decide) (.inr rfl)

mutual

theorem Expression.render_harmless : (expression : Expression) → expression.IsWorded →
    IsHarmless expression.render
  | .variable _, word => .word word
  | .parameter _, word => .append (by decide) (.word word) (.inl rfl)
  | .property _ key, word => .behind ((IsHarmless.word word).append (by decide) (.inr rfl)) rfl (.escape key)
  | .counted _, word => .append (.word word) (by decide) (.inr rfl)
  | .number value, _ => .number value
  | .text content, _ => .quote content
  | .no, _ => by decide
  | .freshIdentifier, _ => by decide
  | .compare relation first second, ⟨one, other⟩ => by
      have sign : IsHarmless relation.sign := by cases relation <;> decide
      exact ((((first.render_harmless one).append (by decide) (.inr rfl)).behind rfl sign).append
        (by decide) (.inr rfl)).behind rfl (second.render_harmless other)
  | .isMissing item, word => (item.render_harmless word).append (by decide) (.inr rfl)
  | .isPresent item, word => (item.render_harmless word).append (by decide) (.inr rfl)
  | .plus first second, ⟨one, other⟩ =>
      ((first.render_harmless one).append (by decide) (.inr rfl)).behind rfl
        (second.render_harmless other)
  | .map entries, words => mapText_harmless (Expression.renderEntries_harmless entries words)
  | .list items, words =>
      (IsHarmless.append (by decide) (.intercalate (by decide) rfl rfl
        (Expression.renderItems_harmless items words)) (.inl rfl)).append (by decide) (.inr rfl)
  | .report path matched, ⟨one, other⟩ =>
      (((IsHarmless.append (by decide) (path.render_harmless one) (.inl rfl)).append (by decide)
        (.inr rfl)).behind rfl (matched.render_harmless other)).append (by decide) (.inr rfl)
  | .collect item, word =>
      (IsHarmless.append (by decide) (item.render_harmless word) (.inl rfl)).append (by decide)
        (.inr rfl)
  | .head items, word =>
      (IsHarmless.append (by decide) (items.render_harmless word) (.inl rfl)).append (by decide)
        (.inr rfl)
  | .count item, word =>
      (IsHarmless.append (by decide) (item.render_harmless word) (.inl rfl)).append (by decide)
        (.inr rfl)
  | .positions items, word =>
      (IsHarmless.append (by decide) (items.render_harmless word) (.inl rfl)).append (by decide)
        (.inr rfl)
  | .at items position, ⟨one, other⟩ =>
      (((items.render_harmless one).append (by decide) (.inr rfl)).behind rfl
        (position.render_harmless other)).append (by decide) (.inr rfl)

theorem Expression.renderItems_harmless : (items : List Expression) → Expression.AreWorded items →
    ∀ text ∈ Expression.renderItems items, IsHarmless text
  | [], _ => List.forall_mem_nil _
  | item :: rest, ⟨first, others⟩ =>
      List.forall_mem_cons.mpr ⟨item.render_harmless first, renderItems_harmless rest others⟩

theorem Expression.renderEntries_harmless : (entries : List (String × Expression)) →
    Expression.AreWordedEntries entries →
    ∀ entry ∈ Expression.renderEntries entries, IsHarmless entry.2
  | [], _ => List.forall_mem_nil _
  | (_, item) :: rest, ⟨first, others⟩ =>
      List.forall_mem_cons.mpr ⟨item.render_harmless first, renderEntries_harmless rest others⟩

end

/-- A node pattern whose variable is a word that does not write. -/
def NodePattern.IsWorded (node : NodePattern) : Prop := IsPlainWord node.name

structure RelationshipPattern.IsWorded (pattern : RelationshipPattern) : Prop where
  source : IsPlainWord pattern.source
  name : IsPlainWord pattern.name
  target : pattern.target.IsWorded

def Pattern.IsWorded : Pattern → Prop
  | .node pattern => pattern.IsWorded
  | .relationship pattern => pattern.IsWorded

structure Column.IsWorded (column : Column) : Prop where
  value : column.value.IsWorded
  name : ∀ name, column.name = some name → IsPlainWord name

theorem NodePattern.render_harmless {node : NodePattern} (word : node.IsWorded) :
    IsHarmless node.render := by
  have opened : IsHarmless ("(" ++ node.name) := .append (by decide) (.word word) (.inl rfl)
  unfold NodePattern.render
  split
  · exact ((opened.append (by decide) (.inr rfl)).behind rfl (.escape _)).append (by decide)
      (.inr rfl)
  · exact opened.append (by decide) (.inr rfl)

theorem RelationshipPattern.render_harmless {pattern : RelationshipPattern}
    (words : pattern.IsWorded) : IsHarmless pattern.render := by
  have source : IsHarmless ("(" ++ pattern.source) :=
    .append (by decide) (.word words.source) (.inl rfl)
  have opened : IsHarmless ("[" ++ pattern.name) :=
    .append (by decide) (.word words.name) (.inl rfl)
  have relationship : IsHarmless ("[" ++ pattern.name ++ ":" ++ escape pattern.label ++ "]") :=
    ((opened.append (by decide) (.inr rfl)).behind rfl (.escape _)).append (by decide) (.inr rfl)
  have target := NodePattern.render_harmless words.target
  unfold RelationshipPattern.render
  dsimp only
  split
  · exact (((source.append (by decide) (.inr rfl)).behind rfl relationship).append (by decide)
      (.inr rfl)).behind rfl target
  · exact (((source.append (by decide) (.inr rfl)).behind rfl relationship).append (by decide)
      (.inr rfl)).behind rfl target

theorem Pattern.render_harmless {pattern : Pattern} (words : pattern.IsWorded) :
    IsHarmless pattern.render := by
  cases pattern with
  | node inner => exact NodePattern.render_harmless words
  | relationship inner => exact RelationshipPattern.render_harmless words

theorem Column.render_harmless {column : Column} (words : column.IsWorded) :
    IsHarmless column.render := by
  have value := column.value.render_harmless words.value
  unfold Column.render
  split
  · next name named =>
    exact (value.append (by decide) (.inr rfl)).behind rfl (.word (words.name name named))
  · exact value

/-- An assignment in which all variables and parameters are words that do not write. -/
def IsWordedAssignment (assignment : Expression × Expression) : Prop :=
  assignment.1.IsWorded ∧ assignment.2.IsWorded

mutual

/-- A clause that makes nothing, nor do the clauses in it, and whose variables and parameters are
words that do not write. -/
def Clause.IsMild : Clause → Prop
  | .find pattern => pattern.IsWorded
  | .findOptional pattern => pattern.IsWorded
  | .filter conditions => ∀ condition ∈ conditions, condition.IsWorded
  | .create _ => False
  | .merge _ _ _ => False
  | .set assignments => ∀ assignment ∈ assignments, IsWordedAssignment assignment
  | .setOnCreate _ _ => False
  | .carry columns => ∀ column ∈ columns, column.IsWorded
  | .order key => key.IsWorded
  | .limit count => count.IsWorded
  | .unwind items name => items.IsWorded ∧ IsPlainWord name
  | .answer columns => ∀ column ∈ columns, column.IsWorded
  | .union => True
  | .subquery imports body => (∀ name ∈ imports, IsPlainWord name) ∧ Clause.AreMild body

def Clause.AreMild : List Clause → Prop
  | [] => True
  | clause :: rest => clause.IsMild ∧ Clause.AreMild rest

end

theorem columnsText_harmless {columns : List Column}
    (words : ∀ column ∈ columns, column.IsWorded) : IsHarmless (columnsText columns) := by
  refine .intercalate (by decide) rfl rfl fun text member => ?_
  obtain ⟨column, inside, rfl⟩ := List.mem_map.mp member
  exact Column.render_harmless (words column inside)

theorem assignmentText_harmless {assignment : Expression × Expression}
    (words : IsWordedAssignment assignment) : IsHarmless (assignmentText assignment) :=
  ((assignment.1.render_harmless words.1).append (by decide) (.inr rfl)).behind rfl
    (assignment.2.render_harmless words.2)

theorem subqueryLines_harmless {imports lines : List String}
    (names : ∀ name ∈ imports, IsPlainWord name) (each : ∀ line ∈ lines, IsHarmless line) :
    ∀ line ∈ subqueryLines imports lines, IsHarmless line := by
  have indented : ∀ line, IsHarmless line → IsHarmless (indent line) :=
    fun line harmless => .append (by decide) harmless (.inl rfl)
  have imported : IsHarmless ("WITH " ++ ", ".intercalate imports) :=
    .append (by decide) (.intercalate (by decide) rfl rfl fun name member =>
      .word (names name member)) (.inl rfl)
  unfold subqueryLines
  refine List.forall_mem_cons.mpr ⟨by decide, ?_⟩
  refine List.forall_mem_append.mpr ⟨List.forall_mem_append.mpr ⟨?_, ?_⟩, ?_⟩
  · split
    · exact List.forall_mem_nil _
    · exact List.forall_mem_singleton.mpr (indented _ imported)
  · exact List.forall_mem_map.mpr fun line member => indented line (each line member)
  · exact List.forall_mem_singleton.mpr (by decide)

mutual

theorem Clause.lines_harmless : (clause : Clause) → clause.IsMild →
    ∀ line ∈ clause.lines, IsHarmless line
  | .find pattern, words => List.forall_mem_singleton.mpr
      (.append (by decide) (Pattern.render_harmless words) (.inl rfl))
  | .findOptional pattern, words => List.forall_mem_singleton.mpr
      (.append (by decide) (Pattern.render_harmless words) (.inl rfl))
  | .filter conditions, words => by
      refine List.forall_mem_singleton.mpr (.append (by decide) ?_ (.inl rfl))
      refine .intercalate (by decide) rfl rfl (List.forall_mem_map.mpr fun condition member => ?_)
      exact condition.render_harmless (words condition member)
  | .set assignments, words => by
      refine List.forall_mem_singleton.mpr (.append (by decide) ?_ (.inl rfl))
      refine .intercalate (by decide) rfl rfl (List.forall_mem_map.mpr fun assignment member => ?_)
      exact assignmentText_harmless (words assignment member)
  | .carry columns, words => List.forall_mem_singleton.mpr
      (.append (by decide) (columnsText_harmless words) (.inl rfl))
  | .order key, word => List.forall_mem_singleton.mpr
      ((IsHarmless.append (by decide) (key.render_harmless word) (.inl rfl)).append (by decide)
        (.inr rfl))
  | .limit count, word => List.forall_mem_singleton.mpr
      (.append (by decide) (count.render_harmless word) (.inl rfl))
  | .unwind items name, ⟨value, word⟩ => List.forall_mem_singleton.mpr
      (((IsHarmless.append (by decide) (items.render_harmless value) (.inl rfl)).append (by decide)
        (.inr rfl)).behind rfl (.word word))
  | .answer columns, words => List.forall_mem_singleton.mpr
      (.append (by decide) (columnsText_harmless words) (.inl rfl))
  | .union, _ => List.forall_mem_singleton.mpr (by decide)
  | .subquery imports body, ⟨names, mild⟩ =>
      subqueryLines_harmless names (Clause.linesOf_harmless body mild)

theorem Clause.linesOf_harmless : (clauses : List Clause) → Clause.AreMild clauses →
    ∀ line ∈ Clause.linesOf clauses, IsHarmless line
  | [], _ => List.forall_mem_nil _
  | clause :: rest, ⟨first, others⟩ =>
      List.forall_mem_append.mpr ⟨clause.lines_harmless first, linesOf_harmless rest others⟩

end

/-- Outside quotes, the text of mild clauses has no word that writes. -/
theorem Clause.text_harmless {clauses : List Clause} (mild : Clause.AreMild clauses) :
    IsHarmless (Clause.text clauses) :=
  .intercalate (by decide) (by decide) (by decide) (Clause.linesOf_harmless clauses mild)

theorem Clause.AreMild.append {clauses rest : List Clause} (first : Clause.AreMild clauses)
    (others : Clause.AreMild rest) : Clause.AreMild (clauses ++ rest) := by
  induction clauses with
  | nil => exact others
  | cons clause more ih => exact ⟨first.1, ih first.2⟩

end GraphGateway.Cypher
