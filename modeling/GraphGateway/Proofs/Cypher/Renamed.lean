import GraphGateway.Proofs.Cypher.Lexeme
import GraphGateway.Proofs.Cypher.Unquoted

/-!
Statements with other names.  Labels, relationship types, stored properties and keys stand in
quotes.  If all of them are replaced, the lexemes of the text stay the same but for what is in the
quotes: no name ends its quotes early, or makes a lexeme out of what stands next to it.  Outside the
quotes, the parameters of the clauses are referred to, in their order.
-/
namespace GraphGateway.Cypher

open Graphql (IsName)
open Graphql.Token (isNamePart)

namespace Lexeme

/-- A lexeme with another name in its quotes. -/
def renamed (rename : String → String) : Lexeme → Lexeme
  | name content => name (rename content)
  | text content => text (rename content)
  | reference parameter => reference parameter
  | plain c => plain c

/-- The parameter that a lexeme refers to. -/
def parameter? : Lexeme → Option String
  | reference parameter => some parameter
  | _ => none

theorem mem_parameters {lexemes : List Lexeme} {parameter : String} :
    parameter ∈ lexemes.filterMap parameter? ↔ reference parameter ∈ lexemes := by
  rw [List.mem_filterMap]
  constructor
  · rintro ⟨lexeme, member, same⟩
    cases lexeme with
    | reference other => exact Option.some.inj same ▸ member
    | _ => cases same
  · exact fun member => ⟨_, member, rfl⟩

end Lexeme

section

variable (rename : String → String)

mutual

/-- An expression with other names in its quotes. -/
def Expression.renamed : Expression → Expression
  | .variable name => .variable name
  | .parameter name => .parameter name
  | .property owner key => .property owner (rename key)
  | .counted counter => .counted counter
  | .number value => .number value
  | .text content => .text (rename content)
  | .no => .no
  | .freshIdentifier => .freshIdentifier
  | .compare relation first second => .compare relation first.renamed second.renamed
  | .isMissing item => .isMissing item.renamed
  | .isPresent item => .isPresent item.renamed
  | .plus first second => .plus first.renamed second.renamed
  | .map entries => .map (Expression.renamedEntries entries)
  | .list items => .list (Expression.renamedItems items)
  | .report path matched => .report path.renamed matched.renamed
  | .collect item => .collect item.renamed
  | .head items => .head items.renamed
  | .count item => .count item.renamed
  | .positions items => .positions items.renamed
  | .at items position => .at items.renamed position.renamed

def Expression.renamedItems : List Expression → List Expression
  | [] => []
  | item :: rest => item.renamed :: Expression.renamedItems rest

def Expression.renamedEntries : List (String × Expression) → List (String × Expression)
  | [] => []
  | (key, item) :: rest => (rename key, item.renamed) :: Expression.renamedEntries rest

end

def NodePattern.renamed (node : NodePattern) : NodePattern :=
  { node with label := node.label.map rename }

def RelationshipPattern.renamed (pattern : RelationshipPattern) : RelationshipPattern :=
  { pattern with label := rename pattern.label, target := pattern.target.renamed rename }

def Pattern.renamed : Pattern → Pattern
  | node pattern => node (pattern.renamed rename)
  | relationship pattern => relationship (pattern.renamed rename)

def Column.renamed (column : Column) : Column :=
  { column with value := column.value.renamed rename }

def renamedAssignment (assignment : Expression × Expression) : Expression × Expression :=
  (assignment.1.renamed rename, assignment.2.renamed rename)

mutual

/-- A clause with other names in its quotes. -/
def Clause.renamed : Clause → Clause
  | .find pattern => .find (pattern.renamed rename)
  | .findOptional pattern => .findOptional (pattern.renamed rename)
  | .filter conditions => .filter (conditions.map (Expression.renamed rename))
  | .create pattern => .create (pattern.renamed rename)
  | .merge counter label name => .merge counter (rename label) (name.renamed rename)
  | .set assignments => .set (assignments.map (renamedAssignment rename))
  | .setOnCreate target value => .setOnCreate (target.renamed rename) (value.renamed rename)
  | .carry columns => .carry (columns.map (Column.renamed rename))
  | .order key => .order (key.renamed rename)
  | .limit count => .limit (count.renamed rename)
  | .unwind items name => .unwind (items.renamed rename) name
  | .answer columns => .answer (columns.map (Column.renamed rename))
  | .union => .union
  | .subquery imports body => .subquery imports (Clause.renamedAll body)

def Clause.renamedAll : List Clause → List Clause
  | [] => []
  | clause :: rest => clause.renamed :: Clause.renamedAll rest

end

end

mutual

/-- The parameters that an expression uses. -/
@[simp]
def Expression.parameters : Expression → List String
  | .variable _ => []
  | .parameter name => [name]
  | .property _ _ => []
  | .counted _ => []
  | .number _ => []
  | .text _ => []
  | .no => []
  | .freshIdentifier => []
  | .compare _ first second => first.parameters ++ second.parameters
  | .isMissing item => item.parameters
  | .isPresent item => item.parameters
  | .plus first second => first.parameters ++ second.parameters
  | .map entries => Expression.entryParameters entries
  | .list items => Expression.itemParameters items
  | .report path matched => path.parameters ++ matched.parameters
  | .collect item => item.parameters
  | .head items => items.parameters
  | .count item => item.parameters
  | .positions items => items.parameters
  | .at items position => items.parameters ++ position.parameters

@[simp]
def Expression.itemParameters : List Expression → List String
  | [] => []
  | item :: rest => item.parameters ++ Expression.itemParameters rest

@[simp]
def Expression.entryParameters : List (String × Expression) → List String
  | [] => []
  | (_, item) :: rest => item.parameters ++ Expression.entryParameters rest

end

@[simp]
def columnParameters (columns : List Column) : List String :=
  columns.flatMap fun column => column.value.parameters

def assignmentParameters (assignments : List (Expression × Expression)) : List String :=
  assignments.flatMap fun assignment => assignment.1.parameters ++ assignment.2.parameters

@[simp] theorem assignmentParameters_nil : assignmentParameters [] = [] := rfl

@[simp] theorem assignmentParameters_cons (assignment : Expression × Expression)
    (rest : List (Expression × Expression)) :
    assignmentParameters (assignment :: rest) =
      assignment.1.parameters ++ (assignment.2.parameters ++ assignmentParameters rest) :=
  List.append_assoc ..

mutual

/-- The parameters that a clause uses, in the order of its text. -/
@[simp]
def Clause.parameters : Clause → List String
  | .find _ => []
  | .findOptional _ => []
  | .filter conditions => conditions.flatMap Expression.parameters
  | .create _ => []
  | .merge _ _ name => name.parameters
  | .set assignments => assignmentParameters assignments
  | .setOnCreate target value => target.parameters ++ value.parameters
  | .carry columns => columnParameters columns
  | .order key => key.parameters
  | .limit count => count.parameters
  | .unwind items _ => items.parameters
  | .answer columns => columnParameters columns
  | .union => []
  | .subquery _ body => Clause.parametersOf body

@[simp]
def Clause.parametersOf : List Clause → List String
  | [] => []
  | clause :: rest => clause.parameters ++ Clause.parametersOf rest

end

@[simp] theorem Expression.entryParameters_append (entries others : List (String × Expression)) :
    entryParameters (entries ++ others) = entryParameters entries ++ entryParameters others := by
  induction entries with
  | nil => rfl
  | cons entry rest ih =>
      rw [List.cons_append, entryParameters, entryParameters, ih, List.append_assoc]

@[simp] theorem Expression.itemParameters_map_variable (names : List String) :
    itemParameters (names.map .variable) = [] := by
  induction names with
  | nil => rfl
  | cons name rest ih => exact ih

@[simp] theorem parameters_concatenation (names : List String) :
    (concatenation names).parameters = [] := by
  have folded : ∀ (rest : List String) (first : Expression),
      (rest.foldl (fun sum next => Expression.plus sum (.variable next)) first).parameters =
        first.parameters := by
    intro rest
    induction rest with
    | nil => exact fun _ => rfl
    | cons next rest ih =>
        intro first
        rw [List.foldl_cons, ih, Expression.parameters]
        exact List.append_nil _
  cases names with
  | nil => rfl
  | cons name rest => exact folded rest (.variable name)

@[simp] theorem Column.value_as (value : Expression) (name : String) :
    (Column.as value name).value = value := rfl

@[simp] theorem Column.value_kept (name : String) : (Column.kept name).value = .variable name := rfl

@[simp] theorem Clause.parametersOf_append (clauses others : List Clause) :
    parametersOf (clauses ++ others) = parametersOf clauses ++ parametersOf others := by
  induction clauses with
  | nil => rfl
  | cons clause rest ih => rw [List.cons_append, parametersOf, parametersOf, ih, List.append_assoc]

@[simp] theorem Clause.parametersOf_filtering (conditions : List Expression) :
    parametersOf (filtering conditions) = conditions.flatMap Expression.parameters := by
  cases conditions with
  | nil => rfl
  | cons condition rest => exact List.append_nil _

@[simp] theorem Clause.parametersOf_setting (assignments : List (Expression × Expression)) :
    parametersOf (setting assignments) = assignmentParameters assignments := by
  cases assignments with
  | nil => rfl
  | cons assignment rest => exact List.append_nil _

/-- What ends a name in front of it: the end of a text, or a mark. -/
def IsApart (rest : List Char) : Prop :=
  ∀ c, rest.head? = some c → isNamePart c = false ∧ c ≠ '\x60'

/-- A text that is read as some lexemes in front of whatever keeps apart from it. -/
def Lexes (text : String) (lexemes : List Lexeme) : Prop :=
  ∀ rest, IsApart rest →
    Lexeme.readAll (text.toList ++ rest) = (Lexeme.readAll rest).map (lexemes ++ ·)

/-- Whether a text has nothing but plain characters, of which the first is no part of a name. -/
def isMark (text : String) : Bool :=
  text.toList.all Lexeme.isPlain && startsApart text.toList

theorem isApart_of_mark {mark : String} (marks : isMark mark = true) (rest : List Char) :
    IsApart (mark.toList ++ rest) := by
  obtain ⟨plain, starts⟩ := (Bool.and_eq_true _ _).mp marks
  cases chars : mark.toList with
  | nil =>
      rw [chars] at starts
      cases starts
  | cons first others =>
      rw [chars, List.all_cons, Bool.and_eq_true] at plain
      rw [chars] at starts
      intro c same
      obtain rfl := Option.some.inj same
      have unquote := plain.1
      simp only [Lexeme.isPlain, Bool.and_eq_true, decide_eq_true_eq, ne_eq] at unquote
      refine ⟨?_, unquote.1.1⟩
      simpa [startsApart] using starts

namespace Lexes

variable {one other mark : String} {first second : List Lexeme}

theorem plain {text : String} (plain : text.toList.all Lexeme.isPlain = true) :
    Lexes text (text.toList.map .plain) :=
  fun rest _ => Lexeme.readAll_plain plain rest

theorem escape (name : String) : Lexes (escape name) [.name name] :=
  fun _ apart => Lexeme.readAll_escape name fun quote => (apart _ quote).2 rfl

theorem quote (content : String) : Lexes (quote content) [.text content] :=
  fun rest _ => Lexeme.readAll_quote content rest

theorem reference {parameter : String} (named : IsName parameter) :
    Lexes ("$" ++ parameter) [.reference parameter] := by
  intro rest apart
  rw [String.toList_append, List.append_assoc]
  exact Lexeme.readAll_reference named fun c head => (apart c head).1

theorem lead (plain : mark.toList.all Lexeme.isPlain = true) (read : Lexes one first) :
    Lexes (mark ++ one) (mark.toList.map .plain ++ first) := by
  intro rest apart
  rw [String.toList_append, List.append_assoc, Lexeme.readAll_plain plain, read rest apart,
    Option.map_map]
  exact congrArg (Option.map · _) (funext fun _ => (List.append_assoc ..).symm)

theorem close (marks : isMark mark = true) (read : Lexes one first) :
    Lexes (one ++ mark) (first ++ mark.toList.map .plain) := by
  intro rest _
  rw [String.toList_append, List.append_assoc, read _ (isApart_of_mark marks rest),
    Lexeme.readAll_plain ((Bool.and_eq_true _ _).mp marks).1, Option.map_map]
  exact congrArg (Option.map · _) (funext fun _ => (List.append_assoc ..).symm)

/-- A mark keeps what is in front of it apart from what follows it. -/
theorem join (marks : isMark mark = true) (read : Lexes one first) (next : Lexes other second) :
    Lexes (one ++ mark ++ other) (first ++ (mark.toList.map .plain ++ second)) := by
  intro rest apart
  rw [String.append_assoc, String.toList_append, String.toList_append, List.append_assoc,
    List.append_assoc, read _ (isApart_of_mark marks _),
    Lexeme.readAll_plain ((Bool.and_eq_true _ _).mp marks).1, next rest apart, Option.map_map,
    Option.map_map]
  refine congrArg (Option.map · _) (funext fun _ => ?_)
  rw [List.append_assoc, List.append_assoc]
  rfl

end Lexes

/-- Two texts whose lexemes differ in nothing but the names in quotes, and that refer to some
parameters. -/
def Alike (rename : String → String) (one other : String) (parameters : List String) : Prop :=
  ∃ lexemes, Lexes one lexemes ∧ Lexes other (lexemes.map (Lexeme.renamed rename)) ∧
    lexemes.filterMap Lexeme.parameter? = parameters

/-- Texts one after another, each like another one. -/
inductive AreAlike (rename : String → String) : List String → List String → List String → Prop
  | nil : AreAlike rename [] [] []
  | cons {one other : String} {ones others parameters more : List String}
      (first : Alike rename one other parameters) (rest : AreAlike rename ones others more) :
      AreAlike rename (one :: ones) (other :: others) (parameters ++ more)

section

variable {rename : String → String}

theorem renamed_plain (chars : List Char) :
    (chars.map Lexeme.plain).map (Lexeme.renamed rename) = chars.map .plain := by
  rw [List.map_map]
  rfl

theorem parameters_plain (chars : List Char) :
    (chars.map Lexeme.plain).filterMap Lexeme.parameter? = [] := by
  rw [List.filterMap_map]
  exact List.filterMap_eq_nil_iff.mpr fun _ _ => rfl

namespace Alike

variable {one other next later mark : String} {parameters more : List String}

theorem plain {text : String} (plain : text.toList.all Lexeme.isPlain = true) :
    Alike rename text text [] := by
  refine ⟨_, .plain plain, ?_, parameters_plain _⟩
  rw [renamed_plain]
  exact .plain plain

theorem spelt {name : String} (named : IsName name) : Alike rename name name [] := by
  refine plain (List.all_eq_true.mpr fun c member => ?_)
  have part := named c member
  have apart : c ≠ '\x60' ∧ c ≠ '\'' ∧ c ≠ '$' := by
    refine ⟨?_, ?_, ?_⟩ <;> rintro rfl <;> exact absurd part (by decide)
  simp [Lexeme.isPlain, apart]

theorem word {name : String} (word : IsPlainWord name) : Alike rename name name [] :=
  spelt word.spelt

theorem parameter {name : String} (word : IsPlainWord name) :
    Alike rename ("$" ++ name) ("$" ++ name) [name] :=
  ⟨_, .reference word.spelt, .reference word.spelt, rfl⟩

theorem escape (name : String) : Alike rename (escape name) (escape (rename name)) [] :=
  ⟨_, .escape name, .escape (rename name), rfl⟩

theorem quote (content : String) : Alike rename (quote content) (quote (rename content)) [] :=
  ⟨_, .quote content, .quote (rename content), rfl⟩

theorem number (value : Nat) : Alike rename (toString value) (toString value) [] := by
  have digits : (toString value).toList = Nat.toDigits 10 value := String.toList_ofList
  refine spelt fun c member => ?_
  rw [digits] at member
  exact isNamePart_of_mem_toDigits member

theorem lead (plain : mark.toList.all Lexeme.isPlain = true)
    (alike : Alike rename one other parameters) :
    Alike rename (mark ++ one) (mark ++ other) parameters := by
  obtain ⟨lexemes, read, renamed, rfl⟩ := alike
  refine ⟨_, read.lead plain, ?_, ?_⟩
  · rw [List.map_append, renamed_plain]
    exact renamed.lead plain
  · rw [List.filterMap_append, parameters_plain]
    rfl

theorem close (marks : isMark mark = true) (alike : Alike rename one other parameters) :
    Alike rename (one ++ mark) (other ++ mark) parameters := by
  obtain ⟨lexemes, read, renamed, rfl⟩ := alike
  refine ⟨_, read.close marks, ?_, ?_⟩
  · rw [List.map_append, renamed_plain]
    exact renamed.close marks
  · rw [List.filterMap_append, parameters_plain, List.append_nil]

theorem join (marks : isMark mark = true) (alike : Alike rename one other parameters)
    (behind : Alike rename next later more) :
    Alike rename (one ++ mark ++ next) (other ++ mark ++ later) (parameters ++ more) := by
  obtain ⟨lexemes, read, renamed, rfl⟩ := alike
  obtain ⟨others, readNext, renamedNext, rfl⟩ := behind
  refine ⟨_, read.join marks readNext, ?_, ?_⟩
  · rw [List.map_append, List.map_append, renamed_plain]
    exact renamed.join marks renamedNext
  · rw [List.filterMap_append, List.filterMap_append, parameters_plain]
    rfl

theorem named {name : String} (marks : isMark mark = true)
    (alike : Alike rename one other parameters) (plain : IsPlainWord name) :
    Alike rename (one ++ mark ++ name) (other ++ mark ++ name) parameters := by
  have joined := alike.join marks (.word plain)
  rw [List.append_nil] at joined
  exact joined

end Alike

namespace AreAlike

variable {ones others nexts laters parameters more : List String}

theorem append (alike : AreAlike rename ones others parameters)
    (behind : AreAlike rename nexts laters more) :
    AreAlike rename (ones ++ nexts) (others ++ laters) (parameters ++ more) := by
  induction alike with
  | nil => exact behind
  | cons first rest ih =>
      rw [List.append_assoc]
      exact .cons first ih

theorem single {one other : String} (alike : Alike rename one other parameters) :
    AreAlike rename [one] [other] parameters :=
  List.append_nil parameters ▸ .cons alike .nil

/-- The texts of some items, and of the same items with other names. -/
theorem map {α : Type} (render : α → String) (change : α → α) {items : List α}
    {used : α → List String}
    (each : ∀ item ∈ items, Alike rename (render item) (render (change item)) (used item)) :
    AreAlike rename (items.map render) ((items.map change).map render) (items.flatMap used) := by
  induction items with
  | nil => exact .nil
  | cons item rest ih =>
      obtain ⟨here, later⟩ := List.forall_mem_cons.mp each
      exact .cons here (ih later)

theorem words {names : List String} (plain : ∀ name ∈ names, IsPlainWord name) :
    AreAlike rename names names [] := by
  induction names with
  | nil => exact .nil
  | cons name rest ih =>
      obtain ⟨here, later⟩ := List.forall_mem_cons.mp plain
      exact .cons (.word here) (ih later)

theorem indent (alike : AreAlike rename ones others parameters) :
    AreAlike rename (ones.map indent) (others.map indent) parameters := by
  induction alike with
  | nil => exact .nil
  | cons first rest ih => exact .cons (first.lead (by decide)) ih

theorem intercalate {mark : String} (marks : isMark mark = true)
    (alike : AreAlike rename ones others parameters) :
    Alike rename (mark.intercalate ones) (mark.intercalate others) parameters := by
  induction alike with
  | nil =>
      rw [String.intercalate_nil]
      exact .plain rfl
  | cons first rest ih =>
      cases rest with
      | nil =>
          rw [String.intercalate_singleton, String.intercalate_singleton, List.append_nil]
          exact first
      | cons second others =>
          rw [String.intercalate_cons_cons, String.intercalate_cons_cons]
          exact first.join marks ih

end AreAlike

theorem mapText_alike {entries others : List (String × String)} {parameters : List String}
    (alike : AreAlike rename (entries.map fun entry => escape entry.1 ++ ": " ++ entry.2)
      (others.map fun entry => escape entry.1 ++ ": " ++ entry.2) parameters) :
    Alike rename (mapText entries) (mapText others) parameters :=
  ((alike.intercalate (by decide)).lead (by decide)).close (by decide)

mutual

theorem Expression.render_alike : (expression : Expression) → expression.IsWorded →
    Alike rename expression.render (expression.renamed rename).render expression.parameters
  | .variable _, word => .word word
  | .parameter _, word => .parameter word
  | .property _ key, word => (Alike.word word).join (by decide) (.escape key)
  | .counted _, word => (Alike.word word).close (by decide)
  | .number value, _ => .number value
  | .text content, _ => .quote content
  | .no, _ => .plain (by decide)
  | .freshIdentifier, _ => .plain (by decide)
  | .compare relation first second, ⟨one, other⟩ => by
      have sign : isMark relation.sign = true := by cases relation <;> decide
      exact (((first.render_alike one).close (by decide)).close sign).join (by decide)
        (second.render_alike other)
  | .isMissing item, word => (item.render_alike word).close (by decide)
  | .isPresent item, word => (item.render_alike word).close (by decide)
  | .plus first second, ⟨one, other⟩ =>
      (first.render_alike one).join (by decide) (second.render_alike other)
  | .map entries, words => mapText_alike (Expression.renderEntries_alike entries words)
  | .list items, words =>
      (((Expression.renderItems_alike items words).intercalate (by decide)).lead
        (by decide)).close (by decide)
  | .report path matched, ⟨one, other⟩ =>
      (((path.render_alike one).lead (by decide)).join (by decide)
        (matched.render_alike other)).close (by decide)
  | .collect item, word => ((item.render_alike word).lead (by decide)).close (by decide)
  | .head items, word => ((items.render_alike word).lead (by decide)).close (by decide)
  | .count item, word => ((item.render_alike word).lead (by decide)).close (by decide)
  | .positions items, word => ((items.render_alike word).lead (by decide)).close (by decide)
  | .at items position, ⟨one, other⟩ =>
      ((items.render_alike one).join (by decide) (position.render_alike other)).close (by decide)

theorem Expression.renderItems_alike : (items : List Expression) → Expression.AreWorded items →
    AreAlike rename (Expression.renderItems items)
      (Expression.renderItems (Expression.renamedItems rename items))
      (Expression.itemParameters items)
  | [], _ => .nil
  | item :: rest, ⟨first, others⟩ =>
      .cons (item.render_alike first) (renderItems_alike rest others)

theorem Expression.renderEntries_alike : (entries : List (String × Expression)) →
    Expression.AreWordedEntries entries →
    AreAlike rename
      ((Expression.renderEntries entries).map fun entry => escape entry.1 ++ ": " ++ entry.2)
      ((Expression.renderEntries (Expression.renamedEntries rename entries)).map
        fun entry => escape entry.1 ++ ": " ++ entry.2)
      (Expression.entryParameters entries)
  | [], _ => .nil
  | (key, item) :: rest, ⟨first, others⟩ =>
      .cons ((Alike.escape key).join (by decide) (item.render_alike first))
        (renderEntries_alike rest others)

end

theorem NodePattern.render_alike {node : NodePattern} (word : node.IsWorded) :
    Alike rename node.render (node.renamed rename).render [] := by
  have opened : Alike rename ("(" ++ node.name) ("(" ++ node.name) [] :=
    (Alike.word word).lead (by decide)
  unfold NodePattern.render NodePattern.renamed
  cases node.label with
  | some label => exact (opened.join (by decide) (.escape label)).close (by decide)
  | none => exact opened.close (by decide)

theorem RelationshipPattern.render_alike {pattern : RelationshipPattern}
    (words : pattern.IsWorded) :
    Alike rename pattern.render (pattern.renamed rename).render [] := by
  have source : Alike rename ("(" ++ pattern.source) ("(" ++ pattern.source) [] :=
    (Alike.word words.source).lead (by decide)
  have relationship : Alike rename ("[" ++ pattern.name ++ ":" ++ escape pattern.label ++ "]")
      ("[" ++ pattern.name ++ ":" ++ escape (rename pattern.label) ++ "]") [] :=
    (((Alike.word words.name).lead (by decide)).join (by decide) (.escape _)).close (by decide)
  have target : Alike rename _ _ [] := NodePattern.render_alike words.target
  unfold RelationshipPattern.render RelationshipPattern.renamed
  cases pattern.direction with
  | outgoing => exact (source.join (by decide) relationship).join (by decide) target
  | incoming => exact (source.join (by decide) relationship).join (by decide) target

theorem Pattern.render_alike {pattern : Pattern} (words : pattern.IsWorded) :
    Alike rename pattern.render (pattern.renamed rename).render [] := by
  cases pattern with
  | node inner => exact NodePattern.render_alike words
  | relationship inner => exact RelationshipPattern.render_alike words

theorem Column.render_alike {column : Column} (words : column.IsWorded) :
    Alike rename column.render (column.renamed rename).render column.value.parameters := by
  have value : Alike rename _ _ _ := column.value.render_alike words.value
  unfold Column.render Column.renamed
  cases named : column.name with
  | some name => exact value.named (by decide) (words.name name named)
  | none => exact value

theorem columnsText_alike {columns : List Column}
    (words : ∀ column ∈ columns, column.IsWorded) :
    Alike rename (columnsText columns) (columnsText (columns.map (Column.renamed rename)))
      (columnParameters columns) :=
  (AreAlike.map Column.render (Column.renamed rename) fun column member =>
    Column.render_alike (words column member)).intercalate (by decide)

theorem assignmentText_alike {assignment : Expression × Expression}
    (words : IsWordedAssignment assignment) :
    Alike rename (assignmentText assignment)
      (assignmentText (renamedAssignment rename assignment))
      (assignment.1.parameters ++ assignment.2.parameters) :=
  (assignment.1.render_alike words.1).join (by decide) (assignment.2.render_alike words.2)

end

mutual

/-- A clause whose variables and parameters are words that do not write. -/
def Clause.IsWorded : Clause → Prop
  | .find pattern => pattern.IsWorded
  | .findOptional pattern => pattern.IsWorded
  | .filter conditions => ∀ condition ∈ conditions, condition.IsWorded
  | .create pattern => pattern.IsWorded
  | .merge counter _ name => IsPlainWord counter ∧ name.IsWorded
  | .set assignments => ∀ assignment ∈ assignments, IsWordedAssignment assignment
  | .setOnCreate target value => IsWordedAssignment (target, value)
  | .carry columns => ∀ column ∈ columns, column.IsWorded
  | .order key => key.IsWorded
  | .limit count => count.IsWorded
  | .unwind items name => items.IsWorded ∧ IsPlainWord name
  | .answer columns => ∀ column ∈ columns, column.IsWorded
  | .union => True
  | .subquery imports body => (∀ name ∈ imports, IsPlainWord name) ∧ Clause.AreWorded body

def Clause.AreWorded : List Clause → Prop
  | [] => True
  | clause :: rest => clause.IsWorded ∧ Clause.AreWorded rest

end

theorem Clause.AreWorded.append {clauses rest : List Clause} (first : Clause.AreWorded clauses)
    (others : Clause.AreWorded rest) : Clause.AreWorded (clauses ++ rest) := by
  induction clauses with
  | nil => exact others
  | cons clause more ih => exact ⟨first.1, ih first.2⟩

mutual

theorem Clause.IsMild.worded : {clause : Clause} → clause.IsMild → clause.IsWorded
  | .find _, mild | .findOptional _, mild | .filter _, mild | .set _, mild | .carry _, mild
  | .order _, mild | .limit _, mild | .unwind _ _, mild | .answer _, mild | .union, mild => mild
  | .subquery _ _, ⟨names, mild⟩ => ⟨names, mild.worded⟩

theorem Clause.AreMild.worded : {clauses : List Clause} → Clause.AreMild clauses →
    Clause.AreWorded clauses
  | [], _ => trivial
  | _ :: _, ⟨first, others⟩ => ⟨first.worded, others.worded⟩

end

section

variable {rename : String → String}

theorem subqueryLines_alike {imports lines others parameters : List String}
    (names : ∀ name ∈ imports, IsPlainWord name)
    (alike : AreAlike rename lines others parameters) :
    AreAlike rename (subqueryLines imports lines) (subqueryLines imports others) parameters := by
  have imported : Alike rename ("WITH " ++ ", ".intercalate imports)
      ("WITH " ++ ", ".intercalate imports) [] :=
    ((AreAlike.words names).intercalate (by decide)).lead (by decide)
  have front : AreAlike rename
      (if imports.isEmpty then [] else [indent ("WITH " ++ ", ".intercalate imports)])
      (if imports.isEmpty then [] else [indent ("WITH " ++ ", ".intercalate imports)]) [] := by
    split
    · exact .nil
    · exact (AreAlike.single imported).indent
  have last : AreAlike rename ["\x7d"] ["\x7d"] [] := .single (.plain (by decide))
  have inside := (front.append alike.indent).append last
  rw [List.append_nil, List.nil_append] at inside
  exact .cons (.plain (by decide)) inside

mutual

theorem Clause.lines_alike : (clause : Clause) → clause.IsWorded →
    AreAlike rename clause.lines (clause.renamed rename).lines clause.parameters
  | .find _, words => .single ((Pattern.render_alike words).lead (by decide))
  | .findOptional _, words => .single ((Pattern.render_alike words).lead (by decide))
  | .filter _, words => .single (((AreAlike.map Expression.render (Expression.renamed rename)
      fun condition member => condition.render_alike (words condition member)).intercalate
        (by decide)).lead (by decide))
  | .create _, words => .single ((Pattern.render_alike words).lead (by decide))
  | .merge _ label name, ⟨counter, word⟩ =>
      .single (((((Alike.word counter).lead (by decide)).join (by decide) (.escape label)).join
        (by decide) (name.render_alike word)).close (by decide))
  | .set _, words => .single (((AreAlike.map assignmentText (renamedAssignment rename)
      fun assignment member => assignmentText_alike (words assignment member)).intercalate
        (by decide)).lead (by decide))
  | .setOnCreate _ _, words => .single ((assignmentText_alike words).lead (by decide))
  | .carry _, words => .single ((columnsText_alike words).lead (by decide))
  | .order key, word => .single (((key.render_alike word).lead (by decide)).close (by decide))
  | .limit count, word => .single ((count.render_alike word).lead (by decide))
  | .unwind items _, ⟨value, word⟩ =>
      .single (((items.render_alike value).lead (by decide)).named (by decide) word)
  | .answer _, words => .single ((columnsText_alike words).lead (by decide))
  | .union, _ => .single (.plain (by decide))
  | .subquery _ body, ⟨names, words⟩ => subqueryLines_alike names (Clause.linesOf_alike body words)

theorem Clause.linesOf_alike : (clauses : List Clause) → Clause.AreWorded clauses →
    AreAlike rename (Clause.linesOf clauses)
      (Clause.linesOf (Clause.renamedAll rename clauses)) (Clause.parametersOf clauses)
  | [], _ => .nil
  | clause :: rest, ⟨first, others⟩ =>
      (clause.lines_alike first).append (linesOf_alike rest others)

end

end

/-- With other names in its quotes, the text of some clauses has the same lexemes but for these
names, and it refers to the parameters of the clauses. -/
theorem Clause.text_alike (rename : String → String) {clauses : List Clause}
    (words : Clause.AreWorded clauses) :
    ∃ lexemes, Lexeme.readAll (Clause.text clauses).toList = some lexemes ∧
      Lexeme.readAll (Clause.text (Clause.renamedAll rename clauses)).toList =
        some (lexemes.map (Lexeme.renamed rename)) ∧
      lexemes.filterMap Lexeme.parameter? = Clause.parametersOf clauses := by
  have alike : Alike rename (Clause.text clauses) (Clause.text (Clause.renamedAll rename clauses))
      (Clause.parametersOf clauses) :=
    (Clause.linesOf_alike clauses words).intercalate (by decide)
  obtain ⟨lexemes, read, renamed, used⟩ := alike
  have ending : IsApart [] := fun _ impossible => nomatch impossible
  have here := read [] ending
  have there := renamed [] ending
  rw [List.append_nil, Lexeme.readAll, Option.map_some, List.append_nil] at here there
  exact ⟨lexemes, here, there, used⟩

end GraphGateway.Cypher
