import GraphGateway.Proofs.Cypher.Unquoted
import GraphGateway.Proofs.Graphql.Names
import GraphGateway.Proofs.Statement.Asked
import GraphGateway.Proofs.Statement.Effect
import GraphGateway.Proofs.Statement.ReadPlan

/-!
Names in statements.  The variables and parameters of a statement are named after fields of the
schema, with a number behind them.  Where the fields have names of the schema language, these are
words that do not write; the statement of an update that creates and connects nothing is then mild,
whatever its filters, its values and its answer are.
-/
namespace GraphGateway.Graphql

instance (text : String) : Decidable (IsName text) :=
  decidable_of_iff (text.toList.all Token.isNamePart = true) List.all_eq_true

end GraphGateway.Graphql

namespace GraphGateway.Cypher

open Graphql (IsName)

/-- A name that is given out is a word that does not write, since it has a mark and a number. -/
theorem numbered_plain {base : String} (named : IsName base) (number : Nat) :
    IsPlainWord (numbered base number) := by
  constructor
  · rw [numbered_toList]
    refine List.forall_mem_append.mpr ⟨named, List.forall_mem_cons.mpr ⟨by decide, ?_⟩⟩
    exact fun c member => isNamePart_of_mem_toDigits member
  · rw [numbered_toList]
    exact isWriting_of_mem (List.mem_append_right _ (List.mem_cons_self ..)) (by decide)

namespace Naming.Ensures

theorem newName_plain {base : String} (named : IsName base) :
    Ensures (Cypher.newName base) fun name _ => IsPlainWord name :=
  (newName base).imp fun _ _ ⟨number, same⟩ => same ▸ numbered_plain named number

theorem bindValue_worded {base : String} (named : IsName base) (value : Value) :
    Ensures (Cypher.bindValue value base) fun parameter _ => parameter.IsWorded := by
  intro supply sound
  obtain ⟨final, grown, -⟩ := bindValue value base supply sound
  exact ⟨final, grown, fun _ _ => numbered_plain named _⟩

end Naming.Ensures

theorem Expression.AreWordedEntries.append {entries rest : List (String × Expression)}
    (first : Expression.AreWordedEntries entries) (others : Expression.AreWordedEntries rest) :
    Expression.AreWordedEntries (entries ++ rest) := by
  induction entries with
  | nil => exact others
  | cons entry more ih => exact ⟨first.1, ih first.2⟩

theorem Clause.AreMild.filtering {conditions : List Expression}
    (words : ∀ condition ∈ conditions, condition.IsWorded) :
    Clause.AreMild (Clause.filtering conditions) := by
  unfold Clause.filtering
  split
  · trivial
  · exact ⟨words, trivial⟩

theorem Clause.AreMild.setting {assignments : List (Expression × Expression)}
    (words : ∀ assignment ∈ assignments, IsWordedAssignment assignment) :
    Clause.AreMild (Clause.setting assignments) := by
  unfold Clause.setting
  split
  · trivial
  · exact ⟨words, trivial⟩

theorem Column.IsWorded.as {value : Expression} {name : String} (word : value.IsWorded)
    (plain : IsPlainWord name) : (Column.as value name).IsWorded where
  value := word
  name _ same := Option.some.inj same ▸ plain

theorem Column.IsWorded.kept {name : String} (plain : IsPlainWord name) :
    (Column.kept name).IsWorded where
  value := plain
  name _ impossible := nomatch impossible

theorem concatenation_worded {names : List String} (plain : ∀ name ∈ names, IsPlainWord name) :
    (concatenation names).IsWorded := by
  cases names with
  | nil => trivial
  | cons name rest =>
      obtain ⟨here, later⟩ := List.forall_mem_cons.mp plain
      have folds : ∀ (names : List String) (sum : Expression), sum.IsWorded →
          (∀ name ∈ names, IsPlainWord name) →
          (names.foldl (fun sum next => .plus sum (.variable next)) sum).IsWorded := by
        intro names
        induction names with
        | nil => exact fun sum word _ => word
        | cons next others ih =>
            intro sum word plain
            obtain ⟨first, more⟩ := List.forall_mem_cons.mp plain
            exact ih _ ⟨word, first⟩ more
      exact folds rest _ here later

end GraphGateway.Cypher

namespace GraphGateway.Statement

open Cypher Request Schema
open Graphql (IsName)
open Naming (Ensures Holds)

mutual

/-- A plan whose relationships have the names of fields. -/
def FieldPlan.IsNamed : FieldPlan → Prop
  | .property _ _ => True
  | .related _ step fields => IsName step.field ∧ FieldPlan.AreNamed fields
  | .connection _ step _ sets => IsName step.field ∧ EdgeSetPlan.AreNamed sets

def FieldPlan.AreNamed : List FieldPlan → Prop
  | [] => True
  | field :: rest => field.IsNamed ∧ FieldPlan.AreNamed rest

def EdgeSetPlan.AreNamed : List EdgeSetPlan → Prop
  | [] => True
  | .mk _ fields :: rest => EdgePlan.AreNamed fields ∧ EdgeSetPlan.AreNamed rest

def EdgePlan.AreNamed : List EdgePlan → Prop
  | [] => True
  | .property _ _ :: rest => EdgePlan.AreNamed rest
  | .node _ fields :: rest => FieldPlan.AreNamed fields ∧ EdgePlan.AreNamed rest

end

theorem FieldPlan.AreNamed.append {fields rest : List FieldPlan} (first : FieldPlan.AreNamed fields)
    (others : FieldPlan.AreNamed rest) : FieldPlan.AreNamed (fields ++ rest) := by
  induction fields with
  | nil => exact others
  | cons field more ih => exact ⟨first.1, ih first.2⟩

/-- Values for fields with names. -/
def AreNamedAssignments (entries : List Assignment) : Prop := ∀ entry ∈ entries, IsName entry.field

theorem empty_plain : IsPlainWord "" := by decide

theorem rootName_plain : IsPlainWord rootName := by decide

theorem Step.pattern_worded (step : Step) {source name target : String}
    (bound : IsPlainWord source) (edge : IsPlainWord name) (found : IsPlainWord target) :
    (step.pattern source name target).IsWorded :=
  ⟨bound, edge, found⟩

section

variable (features : Settings.Features) {source : String} (plain : IsPlainWord source)

include plain

theorem emitConditions_worded {entries : List Assignment} (named : AreNamedAssignments entries) :
    Ensures (emitConditions source entries) fun conditions _ =>
      ∀ condition ∈ conditions, condition.IsWorded := by
  induction entries with
  | nil => exact .pure fun _ => List.forall_mem_nil _
  | cons entry rest ih =>
      obtain ⟨here, later⟩ := List.forall_mem_cons.mp named
      have first : Ensures (emitCondition source entry) fun condition _ => condition.IsWorded := by
        unfold emitCondition
        dsimp only
        split
        · exact .pure fun _ => plain
        · exact .bind (.bindValue_worded here _) fun _ => .pure fun _ word => ⟨plain, word⟩
      refine .bind first fun _ => .bind (ih later) fun _ => .pure fun _ others word => ?_
      exact List.forall_mem_cons.mpr ⟨word, others⟩

theorem emitAssignments_worded {entries : List Assignment} (named : AreNamedAssignments entries) :
    Ensures (emitAssignments source entries) fun assignments _ =>
      ∀ assignment ∈ assignments, IsWordedAssignment assignment := by
  induction entries with
  | nil => exact .pure fun _ => List.forall_mem_nil _
  | cons entry rest ih =>
      obtain ⟨here, later⟩ := List.forall_mem_cons.mp named
      refine .bind (.bindValue_worded here _) fun _ => .bind (ih later) fun _ => ?_
      exact .pure fun _ others word => List.forall_mem_cons.mpr ⟨⟨plain, word⟩, others⟩

omit plain in
theorem emitStart_worded (start : Option Int) :
    Ensures (emitStart start) fun answer _ => ∀ place, answer = some place → place.IsWorded := by
  cases start with
  | none => exact .pure fun _ _ impossible => nomatch impossible
  | some key =>
      refine .bind (.bindValue_worded (by decide) _) fun _ => .pure fun _ word place same => ?_
      exact Option.some.inj same ▸ word

omit plain in
theorem emitLimit_mild (limit : Option Value) :
    Ensures (emitLimit limit) fun clauses _ => Clause.AreMild clauses := by
  cases limit with
  | none => exact .pure fun _ => trivial
  | some limit =>
      exact .bind (.bindValue_worded (by decide) _) fun _ => .pure fun _ word => ⟨word, trivial⟩

theorem emitPrevious_mild (step : Step) {start : Option Expression}
    (word : ∀ place, start = some place → place.IsWorded) :
    Ensures (emitPrevious features source step start) fun answer _ =>
      Clause.AreMild answer.1 ∧ answer.2.IsWorded := by
  cases start with
  | none => exact .pure fun _ => ⟨trivial, trivial⟩
  | some place =>
      refine .bind (.newName_plain (by decide)) fun edge => ?_
      refine .bind (.newName_plain (by decide)) fun previous => .pure fun _ named found => ?_
      refine ⟨⟨⟨List.forall_mem_singleton.mpr plain, step.pattern_worded plain found empty_plain,
        ?_, ?_, trivial⟩, trivial⟩, named⟩
      · exact List.forall_mem_singleton.mpr ⟨found, word place rfl⟩
      · exact List.forall_mem_singleton.mpr (.as ⟨found, trivial⟩ named)

end

section

variable (features : Settings.Features)

/-- Mild clauses and worded entries of a map. -/
structure IsMildAnswer (answer : List Clause × MapEntries) : Prop where
  clauses : Clause.AreMild answer.1
  entries : Expression.AreWordedEntries answer.2

theorem IsMildAnswer.append {first others : List Clause × MapEntries}
    (one : IsMildAnswer first) (more : IsMildAnswer others) :
    IsMildAnswer (first.1 ++ others.1, first.2 ++ others.2) :=
  ⟨one.clauses.append more.clauses, one.entries.append more.entries⟩

mutual

/-- The clauses of a field are mild if the relationships in it have names. -/
theorem emitField_mild {source : String} (plain : IsPlainWord source) : (plan : FieldPlan) →
    plan.IsNamed → Ensures (emitField features source plan) fun answer _ => IsMildAnswer answer
  | .property _ _, _ => .pure fun _ => ⟨trivial, plain, trivial⟩
  | .related _ step fields, ⟨named, inner⟩ => by
      refine .bind_of (.newName_plain named) fun target found => ?_
      refine .bind_of (.newName_plain (by decide)) fun result held => ?_
      refine .bind_of (emitFields_mild found fields inner) fun answer mild => .pure fun _ => ?_
      have answers : (if step.isList then Expression.collect (.map answer.2)
          else .head (.collect (.map answer.2))).IsWorded := by
        split <;> exact mild.entries
      refine ⟨⟨⟨List.forall_mem_singleton.mpr plain, step.pattern_worded plain empty_plain found,
        mild.clauses.append ⟨List.forall_mem_singleton.mpr (.as answers held), trivial⟩⟩, trivial⟩,
        held, trivial⟩
  | .connection _ step page sets, ⟨named, inner⟩ => by
      refine .bind_of (emitStart_worded page.start) fun start placed => ?_
      refine .bind_of (.newName_plain (by decide)) fun edge bound => ?_
      refine .bind_of (.newName_plain named) fun target found => ?_
      refine .bind_of (.newName_plain (by decide)) fun edges held => ?_
      refine .bind_of (emitLimit_mild page.limit) fun limit limited => ?_
      refine .bind_of (emitSets_mild bound found sets inner) fun answer mild => ?_
      refine .bind_of (emitPrevious_mild features plain step placed) fun before previous => ?_
      refine .pure fun _ => ⟨⟨⟨List.forall_mem_singleton.mpr plain, ?_⟩, previous.1⟩,
        ⟨held, previous.2, trivial⟩, trivial⟩
      have behind : ∀ condition ∈ (start.map
          (Expression.compare .above (.property edge features.sequenceProperty) ·)).toList,
          condition.IsWorded := by
        intro condition member
        obtain ⟨place, same, rfl⟩ := Option.map_eq_some_iff.mp (Option.mem_toList.mp member)
        exact ⟨bound, placed place same⟩
      have front : Clause.AreMild
          [.find (step.pattern source edge target), .filter (.isPresent
              (.property edge features.sequenceProperty) ::
            (start.map (.compare .above (.property edge features.sequenceProperty) ·)).toList),
            .carry [.kept edge, .kept target],
            .order (.property edge features.sequenceProperty)] :=
        ⟨step.pattern_worded plain bound found, List.forall_mem_cons.mpr ⟨bound, behind⟩,
          List.forall_mem_cons.mpr ⟨.kept bound, List.forall_mem_singleton.mpr (.kept found)⟩,
          bound, trivial⟩
      refine ((front.append limited).append mild.clauses).append ⟨?_, trivial⟩
      exact List.forall_mem_singleton.mpr (.as ⟨bound, mild.entries⟩ held)

theorem emitFields_mild {source : String} (plain : IsPlainWord source) :
    (plans : List FieldPlan) → FieldPlan.AreNamed plans →
    Ensures (emitFields features source plans) fun answer _ => IsMildAnswer answer
  | [], _ => .pure fun _ => ⟨trivial, trivial⟩
  | plan :: rest, ⟨first, others⟩ => by
      refine .bind (emitField_mild plain plan first) fun _ => ?_
      refine .bind (emitFields_mild plain rest others) fun _ => ?_
      exact .pure fun _ more one => one.append more

theorem emitSets_mild {edge target : String} (plain : IsPlainWord edge)
    (found : IsPlainWord target) : (sets : List EdgeSetPlan) → EdgeSetPlan.AreNamed sets →
    Ensures (emitSets features edge target sets) fun answer _ => IsMildAnswer answer
  | [], _ => .pure fun _ => ⟨trivial, trivial⟩
  | .mk _ fields :: rest, ⟨first, others⟩ => by
      refine .bind (emitEdges_mild plain found fields first) fun _ => ?_
      refine .bind (emitSets_mild plain found rest others) fun _ => ?_
      exact .pure fun _ more one => ⟨one.clauses.append more.clauses, one.entries, more.entries⟩

theorem emitEdges_mild {edge target : String} (plain : IsPlainWord edge)
    (found : IsPlainWord target) : (plans : List EdgePlan) → EdgePlan.AreNamed plans →
    Ensures (emitEdges features edge target plans) fun answer _ => IsMildAnswer answer
  | [], _ => .pure fun _ => ⟨trivial, trivial⟩
  | .property _ _ :: rest, others => by
      refine .bind (emitEdges_mild plain found rest others) fun _ => ?_
      exact .pure fun _ more => ⟨more.clauses, plain, more.entries⟩
  | .node _ fields :: rest, ⟨first, others⟩ => by
      refine .bind (emitFields_mild found fields first) fun _ => ?_
      refine .bind (emitEdges_mild plain found rest others) fun _ => ?_
      exact .pure fun _ more one => ⟨one.clauses.append more.clauses, one.entries, more.entries⟩

end

/-- The fields of an answer have relationships with names. -/
def AreNamedAnswers (response : ResponsePlan) : Prop :=
  ∀ entry ∈ response, FieldPlan.AreNamed entry.2

theorem emitResponse_mild {response : ResponsePlan} (named : AreNamedAnswers response) :
    Ensures (emitResponse features response) fun answer _ => IsMildAnswer answer := by
  induction response with
  | nil => exact .pure fun _ => ⟨trivial, trivial⟩
  | cons entry rest ih =>
      obtain ⟨here, later⟩ := List.forall_mem_cons.mp named
      refine .bind (emitFields_mild features rootName_plain entry.2 here) fun _ => ?_
      refine .bind (ih later) fun _ => .pure fun _ more one => ?_
      exact ⟨one.clauses.append more.clauses, one.entries, more.entries⟩

theorem emitAnswer_mild {response : ResponsePlan} (named : AreNamedAnswers response)
    {columns : List String} (plain : ∀ column ∈ columns, IsPlainWord column) :
    Ensures (emitAnswer features response columns) fun clauses _ => Clause.AreMild clauses := by
  refine .bind (emitResponse_mild features named) fun _ => .pure fun _ mild => ?_
  have kept : ∀ column ∈ columns.map Column.kept, column.IsWorded :=
    List.forall_mem_map.mpr fun column member => .kept (plain column member)
  exact mild.clauses.append
    ⟨List.forall_mem_cons.mpr ⟨.as mild.entries (by decide), kept⟩, trivial⟩

omit features in
theorem emitReport_mild {edge count report : String} (bound : IsPlainWord edge)
    (counted : IsPlainWord count) (held : IsPlainWord report) (path : String) :
    Ensures (emitReport path edge count report) fun clauses _ => Clause.AreMild clauses := by
  refine .bind (.bindValue_worded (by decide) _) fun name => .pure fun _ word => ?_
  exact ⟨List.forall_mem_singleton.mpr (.as bound counted),
    List.forall_mem_singleton.mpr (.as ⟨word, counted⟩ held), trivial⟩

/-- An update of relationships with the names of fields. -/
structure ConnectionUpdate.IsNamed (update : ConnectionUpdate) : Prop where
  filter : AreNamedAssignments update.filter
  properties : AreNamedAssignments update.properties

omit features in
theorem emitConnectionUpdate_mild {source : String} (plain : IsPlainWord source)
    {update : ConnectionUpdate} (named : update.IsNamed) :
    Ensures (emitConnectionUpdate source update) fun answer _ =>
      answer.1.IsMild ∧ IsPlainWord answer.2 := by
  refine .bind_of (.newName_plain (by decide)) fun edge bound => ?_
  refine .bind_of (.newName_plain (by decide)) fun target found => ?_
  refine .bind_of (.newName_plain (by decide)) fun count counted => ?_
  refine .bind_of (.newName_plain (by decide)) fun report held => ?_
  refine .bind_of (emitConditions_worded found named.filter) fun conditions filtered => ?_
  refine .bind_of (emitAssignments_worded bound named.properties) fun assignments set => ?_
  refine .bind_of (emitReport_mild bound counted held update.path) fun reported mild => ?_
  refine .pure fun _ => ⟨⟨List.forall_mem_singleton.mpr plain,
    update.step.pattern_worded plain bound found, ?_⟩, held⟩
  exact ((Clause.AreMild.filtering filtered).append (.setting set)).append mild

omit features in
theorem emitConnectionUpdates_mild {source : String} (plain : IsPlainWord source)
    {updates : List ConnectionUpdate} (named : ∀ update ∈ updates, update.IsNamed) :
    Ensures (emitConnectionUpdates source updates) fun answer _ =>
      Clause.AreMild answer.1 ∧ ∀ report ∈ answer.2, IsPlainWord report := by
  induction updates with
  | nil => exact .pure fun _ => ⟨trivial, List.forall_mem_nil _⟩
  | cons update rest ih =>
      obtain ⟨here, later⟩ := List.forall_mem_cons.mp named
      refine .bind (emitConnectionUpdate_mild plain here) fun _ => ?_
      refine .bind (ih later) fun _ => .pure fun _ others one => ?_
      exact ⟨⟨one.1, others.1⟩, List.forall_mem_cons.mpr ⟨one.2, others.2⟩⟩

/-- The statement of an update that creates and connects nothing is mild. -/
theorem emit_mild {label : String} {filter assignments : List Assignment}
    {updates : List ConnectionUpdate} {response : ResponsePlan}
    (filtered : AreNamedAssignments filter) (assigned : AreNamedAssignments assignments)
    (named : ∀ update ∈ updates, update.IsNamed) (answers : AreNamedAnswers response) :
    Ensures ((Plan.update label filter assignments [] updates response).emit features)
      fun clauses _ => Clause.AreMild clauses := by
  refine .bind_of (emitConditions_worded rootName_plain filtered) fun conditions words => ?_
  refine .bind_of (emitAssignments_worded rootName_plain assigned) fun assignments set => ?_
  have none_ : Ensures (emitEntries features rootName []) fun answer _ => answer = ([], []) :=
    .pure fun _ => rfl
  refine .bind_of none_ ?_
  rintro _ rfl
  refine .bind_of (emitConnectionUpdates_mild rootName_plain named) fun nested mild => ?_
  refine .bind_of (emitAnswer_mild features answers (by decide)) fun answer read => ?_
  refine .pure fun _ => ?_
  have carried : Clause.AreMild [.carry [.kept rootName]] :=
    ⟨List.forall_mem_singleton.mpr (.kept rootName_plain), trivial⟩
  have reports : Clause.AreMild
      [.carry [.kept rootName, .as (concatenation ([] ++ nested.2)) "matches"]] :=
    ⟨List.forall_mem_cons.mpr ⟨.kept rootName_plain,
      List.forall_mem_singleton.mpr (.as (concatenation_worded mild.2) (by decide))⟩, trivial⟩
  have created : Clause.AreMild [] := trivial
  exact ⟨rootName_plain, ((((((Clause.AreMild.filtering words).append (.setting set)).append
    carried).append created).append mild.1).append reports).append read⟩

end

end GraphGateway.Statement

namespace GraphGateway.Schema

open Graphql (IsName)

/-- A model whose fields have names, and whose properties are stored under theirs. -/
structure Model.IsNamed (model : Model) : Prop where
  fields : ∀ node ∈ model.nodes, ∀ field ∈ node.fields,
    IsName field.name ∧ field.stored = field.name
  relationships : ∀ node ∈ model.nodes, ∀ relationship ∈ node.relationships,
    IsName relationship.name
  properties : ∀ type ∈ model.properties, ∀ field ∈ type.fields,
    IsName field.name ∧ field.stored = field.name

variable {model : Model} (named : model.IsNamed)

include named

theorem Model.IsNamed.field? {node : NodeType} (known : node ∈ model.nodes) {name : String}
    {field : PropertyField} (found : node.field? name = some field) : IsName name := by
  unfold NodeType.field? at found
  split at found
  · next same =>
    rw [same]
    decide
  · have matched := List.find?_some found
    rw [← eq_of_beq matched]
    exact (named.fields node known field (List.mem_of_find?_eq_some found)).1

theorem Model.IsNamed.relationship? {node : NodeType} (known : node ∈ model.nodes) {name : String}
    {relationship : Relationship} (found : node.relationship? name = some relationship) :
    IsName relationship.name :=
  named.relationships node known relationship (List.mem_of_find?_eq_some found)

end GraphGateway.Schema

namespace GraphGateway.Statement

open Request Schema
open Graphql (IsName)

section

variable {basis : Basis} (named : basis.model.IsNamed)

include named

theorem readFilter_named {node : NodeType} (known : node ∈ basis.model.nodes) {filter : Value}
    {path : String} {accepted : List Assignment}
    (read : readFilter node filter path = .ok accepted) : AreNamedAssignments accepted := by
  obtain ⟨entries, -, filtered⟩ := readFilter_ok_iff.mp read
  clear read
  induction entries generalizing accepted with
  | nil =>
      cases filtered
      exact List.forall_mem_nil _
  | cons entry rest ih =>
      obtain ⟨name, value⟩ := entry
      rw [filterEntries] at filtered
      split at filtered
      · next field found =>
        rcases later : filterEntries node rest with ⟨others, stopped⟩
        rw [later] at filtered
        cases filtered
        exact List.forall_mem_cons.mpr
          ⟨named.field? known (Option.eq_some_of_filter_eq_some found), ih later⟩
      · cases filtered

theorem propertiesIn_named {node : NodeType} (known : node ∈ basis.model.nodes)
    (entries : Entries Value) : AreNamedAssignments (propertiesIn node entries) := by
  intro entry member
  obtain ⟨field, inside, made⟩ := List.mem_filterMap.mp member
  obtain ⟨value, -, rfl⟩ := Option.map_eq_some_iff.mp made
  exact (named.fields node known field inside).1

theorem planProperties_named {relationship : Relationship} {given : Value} {path : String}
    {creating : Bool} {accepted : List Assignment}
    (planned : basis.planProperties relationship given path creating = .ok accepted) :
    AreNamedAssignments accepted := by
  rw [planProperties_ok_iff] at planned
  split at planned
  · obtain ⟨-, rfl⟩ := planned
    exact List.forall_mem_nil _
  · next type offered =>
    obtain ⟨entries, -, assigned⟩ := planned
    obtain ⟨-, -, -, rfl⟩ := relationshipAssignments_ok_iff.mp assigned
    intro entry member
    obtain ⟨⟨name, value⟩, -, made⟩ := List.mem_filterMap.mp member
    obtain ⟨field, found, rfl⟩ := Option.map_eq_some_iff.mp made
    have known : type ∈ basis.model.properties := by
      unfold Model.offeredProperties? at offered
      split at offered
      · exact Model.properties_mem offered
      · cases offered
    obtain ⟨spelt, stored⟩ :=
      named.properties type known field (List.mem_of_find?_eq_some found)
    exact stored.symm ▸ spelt

end

section

variable {basis : Basis}

mutual

/-- The relationships in a planned field have names. -/
theorem planField_named (named : basis.model.IsNamed) {node : NodeType}
    (known : node ∈ basis.model.nodes) : (field : NodeField) → {plans : List FieldPlan} →
    basis.planField node field = .ok plans → FieldPlan.AreNamed plans
  | .leaf leaf, plans, planned => by
      rw [Basis.planField] at planned
      obtain rfl | ⟨stored, rfl⟩ := planLeaf_cases planned
      · trivial
      · exact ⟨trivial, trivial⟩
  | .relationship key name typeName fields, plans, planned => by
      rw [Basis.planField] at planned
      obtain ⟨⟨relationship, related⟩, found, planned⟩ := Outcome.bind_ok_iff.mp planned
      obtain ⟨inner, done, made⟩ := Outcome.bind_ok_iff.mp planned
      cases made
      obtain ⟨declared, leads⟩ := relationshipOf_ok_iff.mp found
      exact ⟨⟨named.relationship? known declared,
        planFields_named named (Model.node_mem leads) fields done⟩, trivial⟩
  | .connection key name first after fields, plans, planned => by
      rw [Basis.planField] at planned
      split at planned
      · cases planned
      · obtain ⟨⟨relationship, related⟩, found, planned⟩ := Outcome.bind_ok_iff.mp planned
        obtain ⟨page, -, planned⟩ := Outcome.bind_ok_iff.mp planned
        obtain ⟨sets, done, made⟩ := Outcome.bind_ok_iff.mp planned
        cases made
        obtain ⟨declared, leads⟩ := relationshipOf_ok_iff.mp found
        exact ⟨⟨named.relationship? known declared,
          planSets_named named (Model.node_mem leads) _ _ fields done⟩, trivial⟩

theorem planFields_named (named : basis.model.IsNamed) {node : NodeType}
    (known : node ∈ basis.model.nodes) : (fields : List NodeField) → {plans : List FieldPlan} →
    basis.planFields node fields = .ok plans → FieldPlan.AreNamed plans
  | [], plans, planned => by
      cases planned
      trivial
  | field :: rest, plans, planned => by
      rw [Basis.planFields] at planned
      obtain ⟨first, here, planned⟩ := Outcome.bind_ok_iff.mp planned
      obtain ⟨others, later, made⟩ := Outcome.bind_ok_iff.mp planned
      cases made
      exact (planField_named named known field here).append
        (planFields_named named known rest later)

theorem planSets_named (named : basis.model.IsNamed) {related : NodeType}
    (known : related ∈ basis.model.nodes) (issuer : String)
    (properties : Option PropertiesType) : (fields : List ConnectionField) →
    {sets : List EdgeSetPlan} → basis.planSets issuer properties related fields = .ok sets →
    EdgeSetPlan.AreNamed sets
  | [], sets, planned => by
      cases planned
      trivial
  | .edges key edges :: rest, sets, planned => by
      rw [Basis.planSets] at planned
      obtain ⟨first, here, planned⟩ := Outcome.bind_ok_iff.mp planned
      obtain ⟨others, later, made⟩ := Outcome.bind_ok_iff.mp planned
      cases made
      exact ⟨planEdges_named named known issuer properties edges here,
        planSets_named named known issuer properties rest later⟩
  | .leaf _ :: rest, sets, planned => by
      rw [Basis.planSets] at planned
      exact planSets_named named known issuer properties rest planned
  | .pageInfo _ _ :: rest, sets, planned => by
      rw [Basis.planSets] at planned
      exact planSets_named named known issuer properties rest planned

theorem planEdges_named (named : basis.model.IsNamed) {related : NodeType}
    (known : related ∈ basis.model.nodes) (issuer : String)
    (properties : Option PropertiesType) : (edges : List EdgeField) → {plans : List EdgePlan} →
    basis.planEdges issuer properties related edges = .ok plans → EdgePlan.AreNamed plans
  | [], plans, planned => by
      cases planned
      trivial
  | .leaf leaf :: rest, plans, planned => by
      rw [Basis.planEdges] at planned
      obtain ⟨first, here, planned⟩ := Outcome.bind_ok_iff.mp planned
      obtain ⟨others, later, made⟩ := Outcome.bind_ok_iff.mp planned
      cases made
      have behind := planEdges_named named known issuer properties rest later
      obtain rfl | ⟨stored, rfl⟩ := planEdgeLeaf_cases here
      · exact behind
      · exact behind
  | .node key typeName fields :: rest, plans, planned => by
      rw [Basis.planEdges] at planned
      obtain ⟨inner, here, planned⟩ := Outcome.bind_ok_iff.mp planned
      obtain ⟨others, later, made⟩ := Outcome.bind_ok_iff.mp planned
      cases made
      exact ⟨planFields_named named known fields here,
        planEdges_named named known issuer properties rest later⟩

end

theorem planResponse_named (named : basis.model.IsNamed) {node : NodeType}
    (known : node ∈ basis.model.nodes) {fields : List ResponseField} {response : ResponsePlan}
    (planned : basis.planResponse node fields = .ok response) : AreNamedAnswers response := by
  induction fields generalizing response with
  | nil =>
      cases planned
      exact List.forall_mem_nil _
  | cons field rest ih =>
      cases field with
      | leaf leaf => exact ih planned
      | nodes key selection =>
          obtain ⟨inner, here, planned⟩ := Outcome.bind_ok_iff.mp planned
          obtain ⟨others, later, made⟩ := Outcome.bind_ok_iff.mp planned
          cases made
          exact List.forall_mem_cons.mpr
            ⟨planFields_named named known selection.fields here, ih later⟩

theorem planConnectionUpdate_named (named : basis.model.IsNamed) {relationship : Relationship}
    {path : String} {entry : Value} {update : ConnectionUpdate}
    (planned : basis.planConnectionUpdate relationship path entry = .ok update) : update.IsNamed := by
  obtain ⟨entries, related, properties, filter, -, leads, -, assigned, read, rfl⟩ :=
    (planConnectionUpdate_ok_iff basis).mp planned
  exact ⟨readFilter_named named (Model.node_mem leads) read, planProperties_named named assigned⟩

/-- An update is filtered by fields with names, and answers with relationships that have names. -/
theorem plan_update_named (named : basis.model.IsNamed) {key typeName : String}
    {response : ResponseSelection} {filter assignments connections : Value} {plan : Plan}
    (planned : basis.plan (.update key typeName response filter assignments connections) =
      .ok plan) :
    ∃ label condition values entries updates answer,
      plan = .update label condition values entries updates answer ∧
      AreNamedAssignments condition ∧ AreNamedAssignments values ∧ AreNamedAnswers answer := by
  obtain ⟨node, found, planned⟩ := Outcome.bind_ok_iff.mp planned
  obtain ⟨condition, read, planned⟩ := Outcome.bind_ok_iff.mp planned
  obtain ⟨input, -, planned⟩ := Outcome.bind_ok_iff.mp planned
  obtain ⟨⟨⟩, -, planned⟩ := Outcome.bind_ok_iff.mp planned
  obtain ⟨entries, -, planned⟩ := Outcome.bind_ok_iff.mp planned
  obtain ⟨given, -, planned⟩ := Outcome.bind_ok_iff.mp planned
  obtain ⟨updates, -, planned⟩ := Outcome.bind_ok_iff.mp planned
  obtain ⟨answer, answers, made⟩ := Outcome.bind_ok_iff.mp planned
  rw [Failure.ofLookup, Outcome.mapError_ok_iff] at found
  cases made
  have known := Model.node_mem found
  exact ⟨_, _, _, _, _, _, rfl, readFilter_named named known read,
    propertiesIn_named named known input, planResponse_named named known answers⟩

end

end GraphGateway.Statement
