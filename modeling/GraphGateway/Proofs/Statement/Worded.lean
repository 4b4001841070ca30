import GraphGateway.Proofs.Cypher.Renamed
import GraphGateway.Proofs.Statement.Named
import GraphGateway.Proofs.Statement.PlanScoping
import GraphGateway.Proofs.Statement.Required

/-!
Words of statements.  Whatever a statement reads or writes, its variables and parameters are words:
they are fixed, or named after fields of the schema with a number behind them.  So all that could be
taken for something else stands in quotes, and other labels, relationship types, properties or keys
do not change how the statement is read.
-/
namespace GraphGateway.Statement

open Cypher Request Schema
open Graphql (IsName)
open Naming (Ensures)
open Settings (Features)

mutual

/-- A plan of a node whose values, and those of the nodes with it, are for fields with names. -/
def NodePlan.IsNamed : NodePlan → Prop
  | .mk _ _ _ properties entries => AreNamedAssignments properties ∧ EntryPlan.AreNamed entries

def EntryPlan.IsNamed : EntryPlan → Prop
  | .create _ properties node => AreNamedAssignments properties ∧ node.IsNamed
  | .connect _ _ filter properties =>
      AreNamedAssignments filter ∧ AreNamedAssignments properties

def EntryPlan.AreNamed : List EntryPlan → Prop
  | [] => True
  | entry :: rest => entry.IsNamed ∧ EntryPlan.AreNamed rest

end

theorem EntryPlan.areNamed_of_mem {entries : List EntryPlan}
    (each : ∀ entry ∈ entries, entry.IsNamed) : EntryPlan.AreNamed entries := by
  induction entries with
  | nil => trivial
  | cons entry rest ih =>
      obtain ⟨here, later⟩ := List.forall_mem_cons.mp each
      exact ⟨here, ih later⟩

theorem isPlainWord_rootAt (index : Nat) : IsPlainWord (rootAt index) := by
  constructor
  · rw [rootAt_toList]
    exact List.forall_mem_append.mpr
      ⟨rootName_plain.spelt, fun c member => isNamePart_of_mem_toDigits member⟩
  · rw [rootAt_toList]
    rfl

theorem isPlainWord_reportsOf {name : String} (plain : IsPlainWord name) :
    IsPlainWord (reportsOf name) := by
  constructor
  · rw [reportsOf_toList]
    have ending : IsName "_matches" := by decide
    exact List.forall_mem_append.mpr ⟨plain.spelt, ending⟩
  · rw [reportsOf_toList]
    exact isWriting_of_mem (List.mem_append_right _ (List.mem_cons_self ..)) (by decide)

section

variable (features : Features)

theorem emitDraw_worded (label : String) : Ensures (emitDraw features label) fun answer _ =>
    answer.1.IsWorded ∧ IsPlainWord answer.2 := by
  refine .bind_of (.newName_plain (by decide)) fun counter counts => ?_
  refine .bind_of (.newName_plain (by decide)) fun drawn draws => ?_
  refine .bind_of (.bindValue_worded (by decide) _) fun name word => .pure fun _ => ?_
  exact ⟨⟨List.forall_mem_nil _, ⟨counts, word⟩, ⟨counts, trivial⟩,
    List.forall_mem_singleton.mpr ⟨counts, counts, trivial⟩,
    List.forall_mem_singleton.mpr (.as counts draws), trivial⟩, draws⟩

theorem emitRelationship_worded {source target : String} (step : Step)
    {properties : List Assignment} (bound : IsPlainWord source) (found : IsPlainWord target)
    (named : AreNamedAssignments properties) :
    Ensures (emitRelationship features source step target properties) fun answer _ =>
      Clause.AreWorded answer.1 ∧ IsPlainWord answer.2 := by
  refine .bind_of (emitDraw_worded features step.label) fun draw ⟨drawn, draws⟩ => ?_
  refine .bind_of (.newName_plain (by decide)) fun edge held => ?_
  refine .bind_of (emitAssignments_worded held named) fun assignments set => .pure fun _ => ?_
  exact ⟨⟨drawn, ⟨bound, held, found⟩, List.forall_mem_cons.mpr ⟨⟨held, draws⟩, set⟩, trivial⟩,
    held⟩

omit features in
theorem emitIdentifier_worded (id : Option Value) :
    Ensures (emitIdentifier id) fun expression _ => expression.IsWorded := by
  cases id with
  | none => exact .pure fun _ => trivial
  | some value => exact .bindValue_worded (by decide) value

mutual

/-- The clauses that create a node, whatever is in front of them. -/
theorem emitNode_worded {name : String} {kept : List String} (plain : IsPlainWord name)
    (around : ∀ other ∈ kept, IsPlainWord other) : (plan : NodePlan) → plan.IsNamed →
    Ensures (emitNode features name kept plan) fun answer _ =>
      Clause.AreWorded answer.1 ∧ ∀ report ∈ answer.2, IsPlainWord report
  | .mk _ _ id properties entries, ⟨named, nested⟩ => by
      refine .bind_of (emitIdentifier_worded id) fun id word => ?_
      refine .bind_of (emitAssignments_worded plain named) fun assignments set => ?_
      refine .bind_of (emitEntries_worded plain entries nested) fun inner words => .pure fun _ => ?_
      have columns : ∀ column ∈ (kept ++ [name]).map Column.kept, column.IsWorded :=
        List.forall_mem_map.mpr fun other member => .kept <|
          (List.forall_mem_append.mpr ⟨around, List.forall_mem_singleton.mpr plain⟩) other member
      exact ⟨⟨plain, List.forall_mem_cons.mpr ⟨⟨plain, word⟩, set⟩, columns, words.1⟩, words.2⟩

theorem emitEntry_worded {source : String} (plain : IsPlainWord source) : (plan : EntryPlan) →
    plan.IsNamed → Ensures (emitEntry features source plan) fun answer _ =>
      answer.1.IsWorded ∧ IsPlainWord answer.2
  | .create step properties node, ⟨named, nested⟩ => by
      refine .bind_of (.newName_plain (by decide)) fun target found => ?_
      refine .bind_of (.newName_plain (by decide)) fun report held => ?_
      refine .bind_of (emitNode_worded found (List.forall_mem_singleton.mpr plain) node nested)
        fun body words => ?_
      refine .bind_of (emitRelationship_worded features step plain found named)
        fun relationship joins => .pure fun _ => ?_
      have answers : Clause.AreWorded [.answer [.as (concatenation body.2) report]] :=
        ⟨List.forall_mem_singleton.mpr (.as (concatenation_worded words.2) held), trivial⟩
      exact ⟨⟨List.forall_mem_singleton.mpr plain, (words.1.append joins.1).append answers⟩, held⟩
  | .connect step path filter properties, ⟨filtered, named⟩ => by
      refine .bind_of (.newName_plain (by decide)) fun target found => ?_
      refine .bind_of (.newName_plain (by decide)) fun count counted => ?_
      refine .bind_of (.newName_plain (by decide)) fun report held => ?_
      refine .bind_of (emitConditions_worded found filtered) fun conditions words => ?_
      refine .bind_of (emitRelationship_worded features step plain found named)
        fun relationship joins => ?_
      refine .bind_of (emitReport_mild joins.2 counted held path) fun reported mild => ?_
      refine .pure fun _ => ⟨⟨List.forall_mem_singleton.mpr plain, found, ?_⟩, held⟩
      exact ((Clause.AreMild.filtering words).worded.append joins.1).append mild.worded

theorem emitEntries_worded {source : String} (plain : IsPlainWord source) :
    (plans : List EntryPlan) → EntryPlan.AreNamed plans →
    Ensures (emitEntries features source plans) fun answer _ =>
      Clause.AreWorded answer.1 ∧ ∀ report ∈ answer.2, IsPlainWord report
  | [], _ => .pure fun _ => ⟨trivial, List.forall_mem_nil _⟩
  | plan :: rest, ⟨first, others⟩ => by
      refine .bind (emitEntry_worded plain plan first) fun _ => ?_
      refine .bind (emitEntries_worded plain rest others) fun _ => .pure fun _ more one => ?_
      exact ⟨⟨one.1, more.1⟩, List.forall_mem_cons.mpr ⟨one.2, more.2⟩⟩

end

theorem emitRoots_worded (nodes : List NodePlan) (named : ∀ node ∈ nodes, node.IsNamed)
    (index : Nat) : Ensures (emitRoots features index nodes) fun answer _ =>
      Clause.AreWorded answer.1 ∧
        ∀ name ∈ answer.2, IsPlainWord name ∧ IsPlainWord (reportsOf name) := by
  induction nodes generalizing index with
  | nil => exact .pure fun _ => ⟨trivial, List.forall_mem_nil _⟩
  | cons node rest ih =>
      obtain ⟨here, later⟩ := List.forall_mem_cons.mp named
      have plain := isPlainWord_rootAt index
      have reports := isPlainWord_reportsOf plain
      refine .bind_of (emitNode_worded features plain (List.forall_mem_nil _) node here)
        fun body words => ?_
      refine .bind_of (ih later (index + 1)) fun others more => .pure fun _ => ?_
      have answers : Clause.AreWorded [.answer [.kept (rootAt index),
          .as (concatenation body.2) (reportsOf (rootAt index))]] :=
        ⟨List.forall_mem_cons.mpr ⟨.kept plain, List.forall_mem_singleton.mpr
          (.as (concatenation_worded words.2) reports)⟩, trivial⟩
      exact ⟨⟨⟨List.forall_mem_nil _, words.1.append answers⟩, more.1⟩,
        List.forall_mem_cons.mpr ⟨⟨plain, reports⟩, more.2⟩⟩

theorem emitVariants_worded {id : Expression} (word : id.IsWorded) (variants : List VariantPlan)
    (named : ∀ variant ∈ variants, FieldPlan.AreNamed variant.fields) :
    Ensures (emitVariants features id variants) fun clauses _ => Clause.AreWorded clauses := by
  induction variants with
  | nil => exact .pure fun _ => trivial
  | cons variant rest ih =>
      obtain ⟨here, later⟩ := List.forall_mem_cons.mp named
      have first : Ensures (emitVariant features id variant) fun clauses _ =>
          Clause.AreWorded clauses := by
        refine .bind_of (emitFields_mild features rootName_plain variant.fields here)
          fun nested mild => .pure fun _ => ?_
        have front : Clause.AreWorded
            [.find (.node { name := rootName, label := some variant.label }),
              .filter [.compare .equal (.property rootName variant.identifier) id]] :=
          ⟨rootName_plain, List.forall_mem_singleton.mpr ⟨rootName_plain, word⟩, trivial⟩
        refine (front.append mild.clauses.worded).append ⟨?_, trivial⟩
        exact List.forall_mem_singleton.mpr (.as ⟨trivial, mild.entries⟩ rootName_plain)
      refine .bind_of first fun clauses words => ?_
      refine .bind_of (ih later) fun others more => .pure fun _ => (words.append ?_).append more
      split
      · trivial
      · exact ⟨trivial, trivial⟩

end

/-- A plan whose values are for fields with names, and whose relationships have names. -/
def Plan.IsNamed : Plan → Prop
  | .list _ filter fields => AreNamedAssignments filter ∧ FieldPlan.AreNamed fields
  | .lookup _ variants => ∀ variant ∈ variants, FieldPlan.AreNamed variant.fields
  | .create nodes response => (∀ node ∈ nodes, node.IsNamed) ∧ AreNamedAnswers response
  | .update _ filter assignments entries connections response =>
      AreNamedAssignments filter ∧ AreNamedAssignments assignments ∧
        EntryPlan.AreNamed entries ∧ (∀ update ∈ connections, update.IsNamed) ∧
        AreNamedAnswers response

theorem variables_worded {names : List String} (each : ∀ name ∈ names, IsPlainWord name) :
    (Expression.list (names.map .variable)).IsWorded := by
  induction names with
  | nil => trivial
  | cons name rest ih =>
      obtain ⟨here, later⟩ := List.forall_mem_cons.mp each
      exact ⟨here, ih later⟩

/-- The clauses that take created nodes one by one with their positions have words only. -/
theorem positions_worded {created reports : Expression} (nodes : created.IsWorded)
    (matched : reports.IsWorded) :
    Clause.AreWorded
      [.carry [.as created "created", .as reports "matches"],
       .unwind (.positions (.variable "created")) "position",
       .carry [.as (.at (.variable "created") (.variable "position")) rootName,
         .kept "position", .kept "matches"]] := by
  have at_ : (Column.as (.at (.variable "created") (.variable "position")) rootName).IsWorded :=
    .as ⟨(by decide : IsPlainWord "created"), (by decide : IsPlainWord "position")⟩ rootName_plain
  refine ⟨?_, ⟨(by decide : IsPlainWord "created"), by decide⟩, ?_, trivial⟩
  · exact List.forall_mem_cons.mpr ⟨.as nodes (by decide),
      List.forall_mem_singleton.mpr (.as matched (by decide))⟩
  · exact List.forall_mem_cons.mpr ⟨at_, List.forall_mem_cons.mpr ⟨.kept (by decide),
      List.forall_mem_singleton.mpr (.kept (by decide))⟩⟩

/-- All variables and parameters of a statement are words. -/
theorem emit_worded (features : Features) : (plan : Plan) → plan.IsNamed →
    Ensures (plan.emit features) fun clauses _ => Clause.AreWorded clauses
  | .list label filter fields, ⟨filtered, named⟩ => by
      refine .bind_of (emitConditions_worded rootName_plain filtered) fun conditions words => ?_
      refine .bind_of (emitFields_mild features rootName_plain fields named) fun nested mild => ?_
      refine .pure fun _ => ⟨rootName_plain,
        ((Clause.AreMild.filtering words).worded.append mild.clauses.worded).append ⟨?_, trivial⟩⟩
      exact List.forall_mem_singleton.mpr (.as mild.entries rootName_plain)
  | .lookup id variants, named => by
      refine .bind_of (.bindValue_worded (by decide) id) fun wanted word => ?_
      refine .bind_of (emitVariants_worded features word variants named) fun branches words => ?_
      exact .pure fun _ => ⟨⟨List.forall_mem_nil _, words⟩,
        List.forall_mem_singleton.mpr (.kept rootName_plain), trivial, trivial⟩
  | .create nodes response, ⟨named, answers⟩ => by
      refine .bind_of (emitRoots_worded features nodes named 0) fun roots words => ?_
      refine .bind_of (emitAnswer_mild features answers (by decide)) fun answer mild => ?_
      have created := variables_worded fun name member => (words.2 name member).1
      have reports : (concatenation (roots.2.map reportsOf)).IsWorded :=
        concatenation_worded (List.forall_mem_map.mpr fun name member => (words.2 name member).2)
      exact .pure fun _ => (words.1.append (positions_worded created reports)).append mild.worded
  | .update label filter assignments entries connections response,
      ⟨filtered, assigned, nested, named, answers⟩ => by
      refine .bind_of (emitConditions_worded rootName_plain filtered) fun conditions words => ?_
      refine .bind_of (emitAssignments_worded rootName_plain assigned) fun assignments set => ?_
      refine .bind_of (emitEntries_worded features rootName_plain entries nested)
        fun inner writes => ?_
      refine .bind_of (emitConnectionUpdates_mild rootName_plain named) fun updates mild => ?_
      refine .bind_of (emitAnswer_mild features answers (by decide)) fun answer read => ?_
      have carried : Clause.AreWorded [.carry [.kept rootName]] :=
        ⟨List.forall_mem_singleton.mpr (.kept rootName_plain), trivial⟩
      have all := List.forall_mem_append.mpr ⟨writes.2, mild.2⟩
      have reports : Clause.AreWorded
          [.carry [.kept rootName, .as (concatenation (inner.2 ++ updates.2)) "matches"]] :=
        ⟨List.forall_mem_cons.mpr ⟨.kept rootName_plain,
          List.forall_mem_singleton.mpr (.as (concatenation_worded all) (by decide))⟩, trivial⟩
      have changed := (Clause.AreMild.filtering words).append (Clause.AreMild.setting set)
      exact .pure fun _ => ⟨rootName_plain, ((((changed.worded.append carried).append
        writes.1).append mild.1.worded).append reports).append read.worded⟩

section

variable {basis : Basis} (named : basis.model.IsNamed)

include named

mutual

/-- The values that a node is created with are for fields with names. -/
theorem planNode_named {node : NodeType} (known : node ∈ basis.model.nodes) {input : Value}
    {path : String} {plan : NodePlan} (planned : basis.planNode node path input = .ok plan) :
    plan.IsNamed := by
  obtain ⟨entries, nested, whole, -, -, entered, rfl⟩ := planNode_ok_iff.mp planned
  subst whole
  refine ⟨propertiesIn_named named known entries, EntryPlan.areNamed_of_mem fun entry inside => ?_⟩
  obtain ⟨relationship, -, field, found, path, plans, done, placed⟩ :=
    planEntries_of_mem_plans entered inside
  exact planFieldInput_named done placed
  termination_by sizeOf input
  decreasing_by
    subst_vars
    exact sizeOf_get?_lt found

theorem planFieldInput_named {relationship : Relationship} {input : Value} {path : String}
    {plans : List EntryPlan} (planned : basis.planFieldInput relationship path input = .ok plans)
    {plan : EntryPlan} (placed : plan ∈ plans) : plan.IsNamed := by
  obtain ⟨entries, items, whole, ⟨listed, path, item, inside, done⟩ |
    ⟨listed, path, item, inside, done⟩⟩ := planFieldInput_of_mem_plans planned placed
  · subst whole
    exact planCreate_named done
  · obtain ⟨_, related, properties, filter, -, there, assigned, -, filtered, rfl⟩ :=
      (planConnect_ok_iff basis).mp done
    exact ⟨readFilter_named named (Model.node_mem there) filtered,
      planProperties_named named assigned⟩
  termination_by sizeOf input
  decreasing_by
    subst_vars
    exact sizeOf_item_lt listed inside

theorem planCreate_named {relationship : Relationship} {input : Value} {path : String}
    {plan : EntryPlan} (planned : basis.planCreate relationship path input = .ok plan) :
    plan.IsNamed := by
  obtain ⟨entries, target, properties, inner, made, whole, there, assigned, given, nested, rfl⟩ :=
    planCreate_ok_iff.mp planned
  subst whole
  exact ⟨planProperties_named named assigned, planNode_named (Model.node_mem there) nested⟩
  termination_by sizeOf input
  decreasing_by
    subst_vars
    exact sizeOf_get?_lt given

end

theorem planVariants_named {selections : List NodeSelection} {variants : List VariantPlan}
    (planned : basis.planVariants selections = .ok variants) :
    ∀ variant ∈ variants, FieldPlan.AreNamed variant.fields := by
  induction selections generalizing variants with
  | nil =>
      cases planned
      exact List.forall_mem_nil _
  | cons selection rest ih =>
      obtain ⟨node, found, planned⟩ := Outcome.bind_ok_iff.mp planned
      obtain ⟨fields, read, planned⟩ := Outcome.bind_ok_iff.mp planned
      obtain ⟨others, later, made⟩ := Outcome.bind_ok_iff.mp planned
      rw [Failure.ofLookup, Outcome.mapError_ok_iff] at found
      cases made
      exact List.forall_mem_cons.mpr
        ⟨planFields_named named (Model.node_mem found) selection.fields read, ih later⟩

/-- Whatever a root field asks for, it is planned with the names of fields. -/
theorem plan_named {field : RootField} {plan : Plan} (planned : basis.plan field = .ok plan) :
    plan.IsNamed := by
  cases field with
  | list key typeName selection filter =>
      obtain ⟨node, found, planned⟩ := Outcome.bind_ok_iff.mp planned
      obtain ⟨condition, read, planned⟩ := Outcome.bind_ok_iff.mp planned
      obtain ⟨fields, answers, made⟩ := Outcome.bind_ok_iff.mp planned
      rw [Failure.ofLookup, Outcome.mapError_ok_iff] at found
      cases made
      have known := Model.node_mem found
      exact ⟨readFilter_named named known read,
        planFields_named named known selection.fields answers⟩
  | lookup key id selections =>
      rw [Basis.plan] at planned
      split at planned
      · cases planned
      · split at planned
        · cases planned
        · obtain ⟨variants, each, made⟩ := Outcome.bind_ok_iff.mp planned
          cases made
          exact planVariants_named named each
  | create key typeName inputs response =>
      obtain ⟨node, found, planned⟩ := Outcome.bind_ok_iff.mp planned
      obtain ⟨nodes, each, planned⟩ := Outcome.bind_ok_iff.mp planned
      obtain ⟨answer, answers, made⟩ := Outcome.bind_ok_iff.mp planned
      rw [Failure.ofLookup, Outcome.mapError_ok_iff] at found
      cases made
      have known := Model.node_mem found
      refine ⟨fun made member => ?_, planResponse_named named known answers⟩
      obtain ⟨⟨input, index⟩, -, done⟩ := Outcome.mapM_ok_of_mem_answers each member
      exact planNode_named named known done
  | update key typeName response filter assignments connections =>
      obtain ⟨_, _, _, _, _, _, rfl, filtered, assigned, answers⟩ :=
        plan_update_named named planned
      obtain ⟨node, entries, given, nested, updates, condition, answer, found, -, -, entered, -,
        updated, same⟩ := plan_update_ok planned
      cases same
      have known := Model.node_mem found
      refine ⟨filtered, assigned, EntryPlan.areNamed_of_mem fun entry inside => ?_,
        fun update inside => ?_, answers⟩
      · obtain ⟨relationship, -, input, -, path, plans, done, placed⟩ :=
          planEntries_of_mem_plans entered inside
        exact planFieldInput_named named done placed
      · obtain ⟨_, _, _, relationship, -, -, -, path, done⟩ :=
          planConnectionUpdates_of_mem_updates updated inside
        exact planConnectionUpdate_named named done
  | typename key typeName => cases planned

/-- All variables and parameters of a compiled statement are words. -/
theorem compile_worded {field : RootField} {compiled : Compiled}
    (compiles : basis.compile field = .ok compiled) :
    ∃ plan, basis.plan field = .ok plan ∧
      compiled = plan.compiled basis.features (Shape.ofField field) ∧
      Clause.AreWorded (plan.emit basis.features {}).1 := by
  obtain ⟨plan, planned, made⟩ := Outcome.bind_ok_iff.mp compiles
  cases made
  exact ⟨plan, planned, rfl, (emit_worded basis.features plan (plan_named named planned)).run⟩

end

/-- Quotes end where they are closed, and nowhere else.

A name in backquotes is read back whatever it is, in front of anything but another backquote; a text
in single quotes is read back in front of anything.  So no two names are written alike, nor two
texts.  The text of a statement that compiles has lexemes, and if all labels, relationship types,
properties and keys in its clauses are replaced, the same lexemes are read with the others in their
quotes. -/
theorem quotes_delimit :
    (∀ (name : String) (rest : List Char), rest.head? ≠ some '\x60' →
      readEscaped ((escape name).toList ++ rest) = some (name.toList, rest)) ∧
    (∀ (content : String) (rest : List Char),
      readQuoted ((quote content).toList ++ rest) = some (content.toList, rest)) ∧
    Function.Injective escape ∧ Function.Injective quote ∧
    ∀ (basis : Basis), basis.model.IsNamed → ∀ (field : RootField) (compiled : Compiled),
      basis.compile field = .ok compiled → ∃ plan lexemes, basis.plan field = .ok plan ∧
        compiled.text = Clause.text (plan.emit basis.features {}).1 ∧
        Lexeme.readAll compiled.text.toList = some lexemes ∧
        ∀ rename, Lexeme.readAll (Clause.text
            (Clause.renamedAll rename (plan.emit basis.features {}).1)).toList =
          some (lexemes.map (Lexeme.renamed rename)) := by
  refine ⟨fun name rest apart => readEscaped_escape name apart, readQuoted_quote, escape_injective,
    quote_injective, fun basis named field compiled compiles => ?_⟩
  obtain ⟨plan, planned, rfl, words⟩ := compile_worded named compiles
  obtain ⟨lexemes, read, -⟩ := Clause.text_alike id words
  refine ⟨plan, lexemes, planned, rfl, read, fun rename => ?_⟩
  obtain ⟨others, again, renamed, -⟩ := Clause.text_alike rename words
  rw [Option.some.inj (read.symm.trans again)]
  exact renamed

/-- People with a field and a relationship that are called like names given out, and with quotes and
a clause in the type of the relationship. -/
def punning : Basis where
  model :=
    { nodes :=
        [{ name := "Person"
           fields := [{ name := "edge_1", type := { name := "String" }, stored := "edge_1" }]
           relationships :=
            [{ name := "var_2", type := { name := "Person", isList := true },
               relatedType := "Person", direction := .outgoing,
               label := "\x60]-() DETACH DELETE this //'\\$this" }] }] }
  features := {}
  codec := .ofSecret []

/-- A request for a person with another one to create and one to connect. -/
def punned : RootField :=
  .create "createPeople" "Person"
    [.object
      [("edge_1", .text "Ann"),
       ("var_2", .object
        [("create", .list [.object [("node", .object [("edge_1", .text "Bea")])]]),
         ("connect", .list [.object [("where", .object [("edge_1", .text "Cleo")])]])])]]
    { typeName := "CreatePeopleMutationResponse"
      fields :=
        [.nodes "people"
          { typeName := "Person"
            fields := [.relationship "matches" "var_2" "Person" [.leaf ⟨"edge_1", "edge_1"⟩]] }] }

theorem isNamed_punning : punning.model.IsNamed := ⟨by decide, by decide, by decide⟩

theorem quotes_delimit_punned :
    readEscaped ((escape "\x60a\x60\x60").toList ++ [':', '\x60']) =
      some ("\x60a\x60\x60".toList, [':', '\x60']) ∧
    ∃ (compiled : Compiled) (plan : Plan) (lexemes : List Lexeme),
      punning.compile punned = .ok compiled ∧
      Lexeme.readAll compiled.text.toList = some lexemes ∧
      Lexeme.readAll (Clause.text (Clause.renamedAll (fun _ => "'\x60")
          (plan.emit punning.features {}).1)).toList =
        some (lexemes.map (Lexeme.renamed fun _ => "'\x60")) := by
  obtain ⟨delimited, -, -, -, kept⟩ := quotes_delimit
  have compiles : punning.compile punned = _ := Outcome.eq_ok_of_isSome (by decide +kernel)
  obtain ⟨plan, lexemes, -, -, read, renamed⟩ := kept punning isNamed_punning punned _ compiles
  exact ⟨delimited _ _ (by decide), _, plan, lexemes, compiles, read, renamed _⟩

end GraphGateway.Statement
