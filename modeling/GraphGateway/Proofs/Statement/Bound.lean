import GraphGateway.Proofs.Cypher.Supply
import GraphGateway.Proofs.Entries
import GraphGateway.Proofs.Statement.Worded

/-!
The names that a course of naming gives out.  Each of them has a number of its own, so no two are
the same, and the parameters among them are bound to their values in the order in which they are
given out.  What a course answers uses some parameters; it leaves nothing unbound if these are the
ones that it binds.
-/
namespace GraphGateway.Cypher

/-- A name given out: that of a variable, or that of a parameter for a value. -/
inductive Issue where
  | variable (name : String)
  | parameter (name : String) (value : Value)

namespace Issue

def name : Issue → String
  | .variable name => name
  | .parameter name _ => name

def binding? : Issue → Option (String × Value)
  | .variable _ => none
  | .parameter name value => some (name, value)

end Issue

namespace Naming

/-- The names that a course of naming gives out from a supply on, in their order. -/
inductive Issues : {α : Type} → Naming α → Supply → List Issue → Prop where
  | pure {α : Type} (answer : α) (supply : Supply) : Issues (Pure.pure answer) supply []
  | bind {α β : Type} {naming : Naming α} {next : α → Naming β} {supply : Supply}
      {first rest : List Issue} (here : Issues naming supply first)
      (later : Issues (next (naming supply).1) (naming supply).2 rest) :
      Issues (naming >>= next) supply (first ++ rest)
  | newName (base : String) (supply : Supply) :
      Issues (newName base) supply [.variable (Cypher.newName base supply).1]
  | bindValue (value : Value) (base : String) (supply : Supply) :
      Issues (bindValue value base) supply [.parameter (Cypher.newName base supply).1 value]

variable {α β : Type} {naming : Naming α} {supply : Supply} {issued : List Issue}

/-- Courses that take their steps one after another give out names at each. -/
theorem Together.issues {other : Naming α} (together : Together naming other) (supply : Supply) :
    ∃ issued, Issues naming supply issued := by
  induction together generalizing supply with
  | pure answer => exact ⟨_, .pure answer supply⟩
  | bind together goOn ih next =>
      obtain ⟨first, here⟩ := ih supply
      obtain ⟨rest, later⟩ := next _ _
      exact ⟨_, .bind here later⟩
  | newName base => exact ⟨_, .newName base supply⟩
  | bindValue value _ base => exact ⟨_, .bindValue value base supply⟩

/-- Names given out are numbered on, each above those before it. -/
theorem Issues.numbered (issues : Issues naming supply issued) :
    supply.issued ≤ (naming supply).2.issued ∧
      (∀ issue ∈ issued, Between supply.issued (naming supply).2.issued issue.name) ∧
      (issued.map Issue.name).Nodup := by
  induction issues with
  | pure answer supply => exact ⟨Nat.le_refl _, List.forall_mem_nil _, .nil⟩
  | bind here later first rest =>
      obtain ⟨before, lower, distinct⟩ := first
      obtain ⟨behind, upper, others⟩ := rest
      rw [bind_apply, List.map_append]
      refine ⟨Nat.le_trans before behind, ?_, List.nodup_append.mpr ⟨distinct, others, ?_⟩⟩
      · intro issue member
        rcases List.mem_append.mp member with early | late
        · exact (lower issue early).mono (Nat.le_refl _) behind
        · exact (upper issue late).mono before (Nat.le_refl _)
      · -- The second course starts at the number where the first one ends.
        intro name early other late
        obtain ⟨issue, member, rfl⟩ := List.mem_map.mp early
        obtain ⟨another, placed, rfl⟩ := List.mem_map.mp late
        exact (lower issue member).ne (upper another placed) (Nat.le_refl _)
  | newName base supply =>
      rw [newName_apply]
      exact ⟨Nat.le_succ _, List.forall_mem_singleton.mpr
        ⟨base, _, rfl, Nat.lt_succ_self _, Nat.le_refl _⟩, List.nodup_singleton _⟩
  | bindValue value base supply =>
      rw [newName_apply, bindValue_apply]
      exact ⟨Nat.le_succ _, List.forall_mem_singleton.mpr
        ⟨base, _, rfl, Nat.lt_succ_self _, Nat.le_refl _⟩, List.nodup_singleton _⟩

end Naming

/-- In a sound supply, a value stands behind those of all parameters before it. -/
theorem bindValue_parameters {supply : Supply} (sound : supply.IsSound) (value : Value)
    (base : String) : (bindValue value base supply).2.parameters =
      supply.parameters ++ [(numbered base (supply.issued + 1), value)] := by
  rw [bindValue_apply]
  refine Entries.put_of_not_mem value fun member => ?_
  obtain ⟨other, number, same, bound⟩ := sound _ member
  have numbers := number_eq_of_numbered_eq same
  omega

namespace Naming

variable {α β : Type} {naming : Naming α} {supply : Supply} {issued : List Issue}

/-- The parameters are those given out, each with its value: none is bound twice. -/
theorem Issues.parameters (issues : Issues naming supply issued) (sound : supply.IsSound) :
    (naming supply).2.IsSound ∧
      (naming supply).2.parameters = supply.parameters ++ issued.filterMap Issue.binding? := by
  induction issues with
  | pure answer supply => exact ⟨sound, (List.append_nil _).symm⟩
  | bind here later first rest =>
      obtain ⟨middle, bound⟩ := first sound
      obtain ⟨final, behind⟩ := rest middle
      rw [bind_apply, List.filterMap_append, ← List.append_assoc, ← bound]
      exact ⟨final, behind⟩
  | newName base supply =>
      exact ⟨((Together.newName base).extends sound).1, (List.append_nil _).symm⟩
  | bindValue value base supply =>
      exact ⟨((Together.bindValue value value base).extends sound).1,
        bindValue_parameters sound value base⟩

/-- A course that binds parameters, and a fact about the names of these and its answer. -/
def Binds (naming : Naming α) (fact : List String → α → Prop) : Prop :=
  ∀ supply, supply.IsSound → (naming supply).2.IsSound ∧ ∃ bound,
    (naming supply).2.parameters.keys = supply.parameters.keys ++ bound ∧
      fact bound (naming supply).1

namespace Binds

variable {next : α → Naming β} {fact : List String → α → Prop} {goal : List String → β → Prop}

theorem pure {answer : α} (holds : fact [] answer) : Binds (Pure.pure answer) fact :=
  fun _ sound => ⟨sound, [], (List.append_nil _).symm, holds⟩

theorem bind (first : Binds naming fact)
    (rest : ∀ answer bound, fact bound answer →
      Binds (next answer) fun others result => goal (bound ++ others) result) :
    Binds (naming >>= next) goal := by
  intro supply sound
  obtain ⟨middle, bound, grown, holds⟩ := first supply sound
  obtain ⟨final, others, more, reached⟩ := rest _ bound holds (naming supply).2 middle
  rw [bind_apply, more, grown, List.append_assoc]
  exact ⟨final, bound ++ others, rfl, reached⟩

/-- What is made of an answer in the end binds nothing more. -/
theorem bind_pure {make : α → β} (first : Binds naming fact)
    (holds : ∀ answer bound, fact bound answer → goal bound (make answer)) :
    Binds (naming >>= fun answer => Pure.pure (make answer)) goal := by
  intro supply sound
  obtain ⟨final, bound, grown, told⟩ := first supply sound
  exact ⟨final, bound, grown, holds _ bound told⟩

/-- A new variable binds nothing. -/
theorem newName (base : String) {next : String → Naming β}
    (rest : ∀ name, Binds (next name) goal) : Binds (newName base >>= next) goal := by
  intro supply sound
  obtain ⟨middle, -⟩ := (Together.newName base).extends sound
  exact rest _ _ middle

theorem bindValue (value : Value) (base : String) : Binds (bindValue value base)
    fun bound parameter => parameter.parameters = bound := by
  intro supply sound
  obtain ⟨final, -⟩ := (Together.bindValue value value base).extends sound
  refine ⟨final, [numbered base (supply.issued + 1)], ?_, rfl⟩
  rw [bindValue_parameters sound, Entries.keys, List.map_append]
  rfl

/-- What is bound from the start on is all that is bound. -/
theorem run (first : Binds naming fact) :
    fact (naming {}).2.parameters.keys (naming {}).1 := by
  obtain ⟨-, bound, grown, holds⟩ := first {} Supply.isSound_empty
  rw [grown]
  exact holds

end Binds

end Naming

end GraphGateway.Cypher

/-!
Closed statements.  Every parameter that a statement refers to is bound to a value, and every value
that is bound is referred to.  The names that a statement gives out differ from one another, and
from the names that it always has.
-/
namespace GraphGateway.Statement

open Cypher Request Schema
open Naming (Binds)
open Settings (Features)

section

theorem emitConditions_binds (owner : String) (entries : List Assignment) :
    Binds (emitConditions owner entries) fun bound conditions =>
      conditions.flatMap Expression.parameters = bound := by
  induction entries with
  | nil => exact .pure rfl
  | cons entry rest ih =>
      have first : Binds (emitCondition owner entry) fun bound condition =>
          condition.parameters = bound := by
        unfold emitCondition
        dsimp only
        split
        · exact .pure rfl
        · exact .bind (.bindValue _ _) fun wanted bound same => .pure <| by simp [same]
      refine .bind first fun condition bound same => .bind ih fun others more behind => .pure ?_
      simp [same, behind]

theorem emitAssignments_binds (owner : String) (entries : List Assignment) :
    Binds (emitAssignments owner entries) fun bound assignments =>
      assignmentParameters assignments = bound := by
  induction entries with
  | nil => exact .pure rfl
  | cons entry rest ih =>
      refine .bind (.bindValue _ _) fun value bound same => ?_
      refine .bind ih fun others more behind => .pure ?_
      simp [same, behind]

theorem emitStart_binds (start : Option Int) :
    Binds (emitStart start) fun bound place =>
      place.toList.flatMap Expression.parameters = bound := by
  cases start with
  | none => exact .pure rfl
  | some key => exact .bind (.bindValue _ _) fun place bound same => .pure <| by simp [same]

theorem emitLimit_binds (limit : Option Value) :
    Binds (emitLimit limit) fun bound clauses => Clause.parametersOf clauses = bound := by
  cases limit with
  | none => exact .pure rfl
  | some limit => exact .bind (.bindValue _ _) fun count bound same => .pure <| by simp [same]

end

section

variable (features : Features)

/-- Where a page starts is bound before. -/
theorem emitPrevious_binds (source : String) (step : Step) (start : Option Expression) :
    Binds (emitPrevious features source step start) fun bound answer =>
      bound = [] ∧ answer.2.parameters = [] ∧
        Clause.parametersOf answer.1 = start.toList.flatMap Expression.parameters := by
  cases start with
  | none => exact .pure ⟨rfl, rfl, rfl⟩
  | some place =>
      refine .newName _ fun edge => .newName _ fun previous => .pure ⟨rfl, rfl, ?_⟩
      simp

/-- The parameters of some clauses and of the entries of a map are those that are bound, in whatever
order. -/
def Uses (bound : List String) (answer : List Clause × MapEntries) : Prop :=
  ∀ name, name ∈ bound ↔
    name ∈ Clause.parametersOf answer.1 ∨ name ∈ Expression.entryParameters answer.2

omit features in
theorem Uses.append {bound more : List String} {answer others : List Clause × MapEntries}
    (uses : Uses bound answer) (behind : Uses more others) :
    Uses (bound ++ more) (answer.1 ++ others.1, answer.2 ++ others.2) := by
  intro name
  rw [List.mem_append, uses name, behind name, Clause.parametersOf_append,
    Expression.entryParameters_append, List.mem_append, List.mem_append]
  exact or_or_or_comm

omit features in
theorem Uses.keyed {bound : List String} {answer : List Clause × MapEntries}
    (uses : Uses bound answer) (key : String) : Uses bound (answer.1, [(key, .map answer.2)]) := by
  intro name
  rw [uses name, Expression.entryParameters, Expression.parameters, Expression.entryParameters,
    List.append_nil]

mutual

/-- The parameters of a field are those that are bound for it. -/
theorem emitField_binds (source : String) : (plan : FieldPlan) →
    Binds (emitField features source plan) Uses
  | .property _ _ => .pure fun _ => by simp
  | .related _ step fields => by
      refine .newName _ fun target => .newName _ fun result => ?_
      refine .bind (emitFields_binds target fields) fun answer bound uses => .pure fun name => ?_
      have collected : (if step.isList then Expression.collect (.map answer.2)
          else .head (.collect (.map answer.2))).parameters =
            Expression.entryParameters answer.2 := by
        split <;> rfl
      simp [uses name, collected]
  | .connection _ step page sets => by
      refine .bind (emitStart_binds page.start) fun start bound starts => ?_
      refine .newName _ fun edge => .newName _ fun target => .newName _ fun edges => ?_
      refine .bind (emitLimit_binds page.limit) fun limit limited limits => ?_
      refine .bind (emitSets_binds edge target sets) fun answer nested uses => ?_
      refine .bind (emitPrevious_binds features source step start) fun before none_ previous => ?_
      obtain ⟨rfl, has, reads⟩ := previous
      -- The start of the page stands in both subqueries but is bound once, so the lists differ.
      refine .pure fun name => ?_
      have condition : ((start.map (Expression.compare .above
          (.property edge features.sequenceProperty) ·)).toList.flatMap Expression.parameters) =
            bound := by
        rw [← starts]
        cases start <;> simp
      simp only [Clause.parameters, Clause.parametersOf, Clause.parametersOf_append, columnParameters,
        Expression.parameters, Expression.entryParameters, Column.value_as, Column.value_kept,
        List.flatMap_cons, List.flatMap_nil, List.mem_append, List.append_nil, List.nil_append,
        List.not_mem_nil, or_false, condition, limits, has, reads, starts, uses name]
      tauto

theorem emitFields_binds (source : String) : (plans : List FieldPlan) →
    Binds (emitFields features source plans) Uses
  | [] => .pure fun _ => by simp
  | plan :: rest => by
      refine .bind (emitField_binds source plan) fun answer bound uses => ?_
      exact .bind_pure (emitFields_binds source rest) fun others more behind => uses.append behind

theorem emitSets_binds (edge target : String) : (sets : List EdgeSetPlan) →
    Binds (emitSets features edge target sets) Uses
  | [] => .pure fun _ => by simp
  | .mk _ fields :: rest => by
      refine .bind (emitEdges_binds edge target fields) fun answer bound uses => ?_
      exact .bind_pure (emitSets_binds edge target rest) fun others more behind =>
        (uses.keyed _).append behind

theorem emitEdges_binds (edge target : String) : (plans : List EdgePlan) →
    Binds (emitEdges features edge target plans) Uses
  | [] => .pure fun _ => by simp
  | .property _ _ :: rest => by
      refine .bind (emitEdges_binds edge target rest) fun others more behind => .pure fun name => ?_
      simp [behind name]
  | .node _ fields :: rest => by
      refine .bind (emitFields_binds target fields) fun answer bound uses => ?_
      exact .bind_pure (emitEdges_binds edge target rest) fun others more behind =>
        (uses.keyed _).append behind

end

theorem emitResponse_binds (response : ResponsePlan) :
    Binds (emitResponse features response) Uses := by
  induction response with
  | nil => exact .pure fun _ => by simp
  | cons entry rest ih =>
      refine .bind (emitFields_binds features rootName entry.2) fun answer bound uses => ?_
      exact .bind_pure ih fun others more behind => (uses.keyed _).append behind

theorem emitAnswer_binds (response : ResponsePlan) (columns : List String) :
    Binds (emitAnswer features response columns) fun bound clauses =>
      ∀ name, name ∈ bound ↔ name ∈ Clause.parametersOf clauses := by
  refine .bind (emitResponse_binds features response) fun answer bound uses => .pure fun name => ?_
  simp [uses name]

omit features in
theorem emitReport_binds (path edge count report : String) :
    Binds (emitReport path edge count report) fun bound clauses =>
      Clause.parametersOf clauses = bound := by
  refine .bind (.bindValue _ _) fun name bound same => .pure ?_
  simp [same]

theorem emitDraw_binds (label : String) : Binds (emitDraw features label) fun bound answer =>
    answer.1.parameters = bound := by
  refine .newName _ fun counter => .newName _ fun drawn => ?_
  refine .bind (.bindValue _ _) fun name bound same => .pure ?_
  simp [same]

theorem emitRelationship_binds (source : String) (step : Step) (target : String)
    (properties : List Assignment) :
    Binds (emitRelationship features source step target properties) fun bound answer =>
      Clause.parametersOf answer.1 = bound := by
  refine .bind (emitDraw_binds features step.label) fun draw bound draws => .newName _ fun edge => ?_
  refine .bind (emitAssignments_binds edge properties) fun assignments more assigns => .pure ?_
  simp [draws, assigns]

omit features in
theorem emitIdentifier_binds (id : Option Value) :
    Binds (emitIdentifier id) fun bound expression => expression.parameters = bound := by
  cases id with
  | none => exact .pure rfl
  | some value => exact .bindValue value "id"

mutual

/-- The parameters of a created node are those that are bound for it, in their order. -/
theorem emitNode_binds (name : String) (kept : List String) : (plan : NodePlan) →
    Binds (emitNode features name kept plan) fun bound answer =>
      Clause.parametersOf answer.1 = bound
  | .mk _ _ id properties entries => by
      refine .bind (emitIdentifier_binds id) fun id bound same => ?_
      refine .bind (emitAssignments_binds name properties) fun assignments more assigns => ?_
      refine .bind (emitEntries_binds name entries) fun nested others writes => .pure ?_
      simp [same, assigns, writes]

theorem emitEntry_binds (source : String) : (plan : EntryPlan) →
    Binds (emitEntry features source plan) fun bound answer => answer.1.parameters = bound
  | .create step properties node => by
      refine .newName _ fun target => .newName _ fun report => ?_
      refine .bind (emitNode_binds target [source] node) fun body bound creates => ?_
      refine .bind (emitRelationship_binds features source step target properties)
        fun relationship more joins => .pure ?_
      simp [creates, joins]
  | .connect step path filter properties => by
      refine .newName _ fun target => .newName _ fun count => .newName _ fun report => ?_
      refine .bind (emitConditions_binds target filter) fun conditions bound filters => ?_
      refine .bind (emitRelationship_binds features source step target properties)
        fun relationship more joins => ?_
      refine .bind (emitReport_binds path relationship.2 count report)
        fun reported others reports => .pure ?_
      simp [filters, joins, reports]

theorem emitEntries_binds (source : String) : (plans : List EntryPlan) →
    Binds (emitEntries features source plans) fun bound answer =>
      Clause.parametersOf answer.1 = bound
  | [] => .pure rfl
  | plan :: rest => by
      refine .bind (emitEntry_binds source plan) fun first bound here => ?_
      refine .bind (emitEntries_binds source rest) fun others more later => .pure ?_
      simp [here, later]

end

omit features in
theorem emitConnectionUpdates_binds (source : String) (updates : List ConnectionUpdate) :
    Binds (emitConnectionUpdates source updates) fun bound answer =>
      Clause.parametersOf answer.1 = bound := by
  induction updates with
  | nil => exact .pure rfl
  | cons update rest ih =>
      have first : Binds (emitConnectionUpdate source update) fun bound answer =>
          answer.1.parameters = bound := by
        refine .newName _ fun edge => .newName _ fun target => .newName _ fun count => ?_
        refine .newName _ fun report => ?_
        refine .bind (emitConditions_binds target update.filter) fun conditions bound filters => ?_
        refine .bind (emitAssignments_binds edge update.properties)
          fun assignments more assigns => ?_
        refine .bind (emitReport_binds update.path edge count report)
          fun reported others reports => .pure ?_
        simp [filters, assigns, reports]
      refine .bind first fun answer bound here => .bind ih fun others more later => .pure ?_
      simp [here, later]

theorem emitRoots_binds (nodes : List NodePlan) (index : Nat) :
    Binds (emitRoots features index nodes) fun bound answer =>
      Clause.parametersOf answer.1 = bound := by
  induction nodes generalizing index with
  | nil => exact .pure rfl
  | cons node rest ih =>
      refine .bind (emitNode_binds features _ [] node) fun body bound here => ?_
      refine .bind (ih (index + 1)) fun others more later => .pure ?_
      simp [here, later]

/-- The clauses of a lookup use the identifier that is looked up, if there are any. -/
theorem emitVariants_binds (id : Expression) (variants : List VariantPlan) :
    Binds (emitVariants features id variants) fun bound clauses =>
      ∀ name, name ∈ bound ∨ variants ≠ [] ∧ name ∈ id.parameters ↔
        name ∈ Clause.parametersOf clauses := by
  induction variants with
  | nil => exact .pure fun _ => by simp
  | cons variant rest ih =>
      have first : Binds (emitVariant features id variant) fun bound clauses =>
          ∀ name, name ∈ id.parameters ∨ name ∈ bound ↔ name ∈ Clause.parametersOf clauses := by
        refine .bind (emitFields_binds features rootName variant.fields) fun nested bound uses => ?_
        refine .pure fun name => ?_
        simp [uses name]
      refine .bind first fun clauses bound here => .bind ih fun others more later => ?_
      refine .pure fun name => ?_
      have union : Clause.parametersOf (if rest = [] then [] else [.union]) = [] := by
        split <;> rfl
      simp only [Clause.parametersOf_append, List.isEmpty_iff, union, List.append_nil,
        List.mem_append, ← here name, ← later name, ne_eq, reduceCtorEq, not_false_eq_true, true_and]
      tauto

/-- The parameters that a statement refers to are those that are bound. -/
theorem emit_binds : (plan : Plan) → plan.HasVariant → Binds (plan.emit features)
    fun bound clauses => ∀ name, name ∈ bound ↔ name ∈ Clause.parametersOf clauses
  | .list label filter fields, _ => by
      refine .bind (emitConditions_binds rootName filter) fun conditions bound filters => ?_
      refine .bind (emitFields_binds features rootName fields) fun nested more uses => ?_
      refine .pure fun name => ?_
      simp [filters, uses name]
  | .lookup id variants, some_ => by
      refine .bind (.bindValue id "id") fun wanted bound same => ?_
      refine .bind (emitVariants_binds features wanted variants) fun branches more uses => ?_
      refine .pure fun name => ?_
      have branch : variants ≠ [] := some_
      simp only [Clause.parameters, Clause.parametersOf, columnParameters, Expression.parameters,
        Column.value_kept, List.flatMap_cons, List.flatMap_nil, List.mem_append, List.append_nil,
        ← uses name, same, ne_eq, branch, not_false_eq_true, true_and]
      tauto
  | .create nodes response, _ => by
      refine .bind (emitRoots_binds features nodes 0) fun roots bound creates => ?_
      refine .bind (emitAnswer_binds features response _) fun answer more uses => ?_
      refine .pure fun name => ?_
      simp [creates, uses name]
  | .update label filter assignments entries connections response, _ => by
      refine .bind (emitConditions_binds rootName filter) fun conditions first filters => ?_
      refine .bind (emitAssignments_binds rootName assignments) fun assigned second assigns => ?_
      refine .bind (emitEntries_binds features rootName entries) fun nested third writes => ?_
      refine .bind (emitConnectionUpdates_binds rootName connections)
        fun updates fourth changes => ?_
      refine .bind (emitAnswer_binds features response _) fun answer last uses => ?_
      refine .pure fun name => ?_
      simp [filters, assigns, writes, changes, uses name]

end

/-- The names that statements have without giving them out. -/
inductive IsFixedName : String → Prop
  | root : IsFixedName rootName
  | created (index : Nat) : IsFixedName (rootAt index)
  | reports (index : Nat) : IsFixedName (reportsOf (rootAt index))
  | column {name : String} (member : name ∈ ["created", "position", "matches", "data"]) :
      IsFixedName name

/-- No name given out is fixed. -/
theorem IsFixedName.ne_numbered {name : String} (fixed : IsFixedName name) (base : String)
    (number : Nat) : name ≠ numbered base number := by
  intro same
  cases fixed with
  | root => exact ne_numbered_of_not_mem (by decide) base number same
  | created index => exact ne_numbered_of_not_mem (underscore_not_mem_rootAt index) base number same
  | reports index => exact reportsOf_ne_numbered _ base number same
  | column member =>
      have bare : ∀ name ∈ ["created", "position", "matches", "data"], '_' ∉ name.toList := by
        decide
      exact ne_numbered_of_not_mem (bare name member) base number same

/-- The names that a course gives out differ from one another and from those that are fixed, and its
parameters are those among them, each bound to its value. -/
theorem issued_apart {α : Type} {naming : Naming α} {issued : List Issue}
    (issues : naming.Issues {} issued) :
    (issued.map Issue.name).Nodup ∧ (∀ name ∈ issued.map Issue.name, ¬ IsFixedName name) ∧
      (naming {}).2.parameters = issued.filterMap Issue.binding? := by
  obtain ⟨-, between, distinct⟩ := issues.numbered
  refine ⟨distinct, List.forall_mem_map.mpr fun issue member fixed => ?_,
    (issues.parameters Supply.isSound_empty).2⟩
  obtain ⟨base, number, same, -⟩ := between issue member
  exact fixed.ne_numbered base number same

/-- Statements are closed.

The names that a statement gives out for its variables and parameters are all different, and none of
them is a name that statements always have.  Its parameters are those given out, in their order,
each with the one value that it is bound to.  And outside quotes, its text refers to these
parameters and to no others. -/
theorem compile_closed {basis : Basis} (named : basis.model.IsNamed) {field : RootField}
    {compiled : Compiled} (compiles : basis.compile field = .ok compiled) :
    ∃ (plan : Plan) (lexemes : List Lexeme), basis.plan field = .ok plan ∧
      compiled.text = Clause.text (plan.emit basis.features {}).1 ∧
      (∃ issued, (plan.emit basis.features).Issues {} issued) ∧
      (∀ issued, (plan.emit basis.features).Issues {} issued →
        (issued.map Issue.name).Nodup ∧ (∀ name ∈ issued.map Issue.name, ¬ IsFixedName name) ∧
        compiled.parameters = issued.filterMap Issue.binding?) ∧
      Lexeme.readAll compiled.text.toList = some lexemes ∧
      ∀ name, Lexeme.reference name ∈ lexemes ↔ name ∈ compiled.parameters.keys := by
  obtain ⟨plan, planned, rfl, words⟩ := compile_worded named compiles
  obtain ⟨lexemes, read, -, used⟩ := Clause.text_alike id words
  have closed := (emit_binds basis.features plan (Basis.plan_hasVariant planned)).run
  refine ⟨plan, lexemes, planned, rfl, (emit_together basis.features plan).issues {},
    fun issued issues => issued_apart issues, read, fun name => ?_⟩
  rw [← Lexeme.mem_parameters, used]
  exact (closed name).symm

theorem compile_closed_punned :
    ∃ (compiled : Compiled) (plan : Plan) (lexemes : List Lexeme) (issued : List Issue),
      punning.compile punned = .ok compiled ∧ (plan.emit punning.features).Issues {} issued ∧
      (issued.map Issue.name).Nodup ∧ compiled.parameters = issued.filterMap Issue.binding? ∧
      compiled.parameters.keys =
        ["edge_1_1", "edge_1_4", "sequence_name_7", "edge_1_12", "sequence_name_15", "path_17"] ∧
      Lexeme.readAll compiled.text.toList = some lexemes ∧
      Lexeme.reference "edge_1_12" ∈ lexemes ∧ Lexeme.reference "this" ∉ lexemes := by
  have told : ((punning.compile punned).toOption.any fun compiled => compiled.parameters.keys ==
      ["edge_1_1", "edge_1_4", "sequence_name_7", "edge_1_12", "sequence_name_15", "path_17"]) =
        true := by
    decide +kernel
  obtain ⟨compiled, made, keys⟩ := (Option.any_eq_true _ _).mp told
  rw [beq_iff_eq] at keys
  rw [Outcome.toOption_eq_some_iff] at made
  obtain ⟨plan, lexemes, -, -, ⟨issued, issues⟩, apart, read, refers⟩ :=
    compile_closed isNamed_punning made
  obtain ⟨distinct, -, bound⟩ := apart issued issues
  refine ⟨compiled, plan, lexemes, issued, made, issues, distinct, bound, keys, read, ?_, ?_⟩
  · rw [refers, keys]
    decide
  · rw [refers, keys]
    decide

end GraphGateway.Statement
