import GraphGateway.Proofs.Cypher.Keys
import GraphGateway.Proofs.Request.Keyed
import GraphGateway.Proofs.Service.AllOrNothing
import GraphGateway.Proofs.Statement.ReadPlan
import GraphGateway.Proofs.Statement.Required

/-!
Keys of answers.  A map of a statement has the keys that a request gives to the selected fields and,
in the maps of edges and of looked-up nodes, one key of the statement's own.  All keys of each map are
different unless a request gives that key to a field that stands beside it.
-/
namespace GraphGateway.Statement

open Cypher Request Schema Settings
open Naming (Ensures)

mutual

/-- A plan whose fields have different keys at every depth, the statement's own included. -/
def FieldPlan.IsClear : FieldPlan → Prop
  | .property _ _ => True
  | .related _ _ fields => (fields.map FieldPlan.key).Nodup ∧ FieldPlan.AllClear fields
  | .connection _ _ _ sets =>
      (sequenceKey :: sets.map EdgeSetPlan.key).Nodup ∧ EdgeSetPlan.AllClear sets

def FieldPlan.AllClear : List FieldPlan → Prop
  | [] => True
  | field :: rest => field.IsClear ∧ FieldPlan.AllClear rest

def EdgeSetPlan.AllClear : List EdgeSetPlan → Prop
  | [] => True
  | .mk _ fields :: rest =>
      ((fields.map EdgePlan.key).Nodup ∧ EdgePlan.AllClear fields) ∧ EdgeSetPlan.AllClear rest

def EdgePlan.AllClear : List EdgePlan → Prop
  | [] => True
  | .property _ _ :: rest => EdgePlan.AllClear rest
  | .node _ fields :: rest =>
      ((fields.map FieldPlan.key).Nodup ∧ FieldPlan.AllClear fields) ∧ EdgePlan.AllClear rest

end

/-- The fields of a map, clear beside some keys of the statement's own. -/
def ClearBeside (own : List String) (fields : List FieldPlan) : Prop :=
  (own ++ fields.map FieldPlan.key).Nodup ∧ FieldPlan.AllClear fields

def ResponsePlan.IsClear (response : ResponsePlan) : Prop :=
  (response.map Prod.fst).Nodup ∧ ∀ entry ∈ response, ClearBeside [] entry.2

def Plan.IsClear : Plan → Prop
  | .list _ _ fields => ClearBeside [] fields
  | .lookup _ variants => ∀ variant ∈ variants, ClearBeside [resolvedTypeKey] variant.fields
  | .create _ response => ResponsePlan.IsClear response
  | .update _ _ _ _ _ response => ResponsePlan.IsClear response

/-- Clauses with entries of a map: the maps are distinct exactly if something is clear. -/
structure Projects (keys : List String) (clear : Prop) (clauses : List Clause)
    (entries : MapEntries) : Prop where
  keys : entries.map Prod.fst = keys
  distinct : AreDistinct (Clause.mapKeysOf clauses) ∧
    AreDistinct (Expression.entryMapKeys entries) ↔ clear

section

variable (features : Features)

/-- The start of a page is a parameter. -/
def IsPlain (start : Option Expression) : Prop :=
  ∀ value, start = some value → ∃ name, value = .parameter name

theorem emitStart_isPlain (start : Option Int) :
    Ensures (emitStart start) fun expression _ => IsPlain expression := by
  cases start with
  | none => exact .pure fun _ _ impossible => nomatch impossible
  | some key =>
      refine .bind (.bindValue _ _) fun value => .pure fun _ held other same => ?_
      obtain ⟨name, rfl, -⟩ := held
      cases same
      exact ⟨name, rfl⟩

theorem emitLimit_mapKeys (limit : Option Value) :
    Ensures (emitLimit limit) fun clauses _ => Clause.mapKeysOf clauses = [] := by
  cases limit with
  | none => exact .pure fun _ => rfl
  | some limit =>
      refine .bind (.bindValue _ _) fun value => .pure fun _ held => ?_
      obtain ⟨name, rfl, -⟩ := held
      rfl

theorem emitPrevious_mapKeys (source : String) (step : Step) (start : Option Expression) :
    Ensures (emitPrevious features source step start) fun answer _ => IsPlain start →
      Clause.mapKeysOf answer.1 = [] ∧ answer.2.mapKeys = [] := by
  cases start with
  | none => exact .pure fun _ _ => ⟨rfl, rfl⟩
  | some start =>
      refine .bind (.newName _) fun _ => .bind (.newName _) fun _ => .pure fun _ _ _ plain => ?_
      obtain ⟨name, rfl⟩ := plain start rfl
      exact ⟨rfl, rfl⟩

mutual

theorem emitField_projects (source : String) : (plan : FieldPlan) →
    Ensures (emitField features source plan) fun answer _ =>
      Projects [plan.key] plan.IsClear answer.1 answer.2
  | .property _ _ => .pure fun _ => ⟨rfl, by
      simp [Clause.mapKeysOf, Expression.entryMapKeys, Expression.mapKeys, FieldPlan.IsClear]⟩
  | .related _ step fields => by
      refine .bind (.newName step.field) fun target => .bind (.newName "var") fun _ => ?_
      refine .bind (emitFields_projects target fields) fun answer => ?_
      refine .pure fun _ nested _ _ => ⟨rfl, ?_⟩
      rw [FieldPlan.IsClear, ← nested.keys, ← nested.distinct]
      cases step.isList <;>
        simp [Clause.mapKeysOf, Clause.mapKeys, Expression.entryMapKeys, Expression.mapKeys,
          columnMapKeys, Column.as] <;> tauto
  | .connection _ step page sets => by
      refine .bind (emitStart_isPlain page.start) fun start => .bind (.newName "edge") fun edge => ?_
      refine .bind (.newName step.field) fun target => .bind (.newName "edges") fun _ => ?_
      refine .bind (emitLimit_mapKeys page.limit) fun _ => ?_
      refine .bind (emitSets_projects edge target sets) fun answer => ?_
      refine .bind (emitPrevious_mapKeys features source step start) fun before => ?_
      refine .pure fun _ previous nested limited _ _ _ plain => ⟨rfl, ?_⟩
      obtain ⟨quiet, flat⟩ := previous plain
      have conditions : Expression.itemMapKeys ((start.map
          (.compare .above (.property edge features.sequenceProperty) ·)).toList) = [] := by
        cases start with
        | none => rfl
        | some value =>
            obtain ⟨name, rfl⟩ := plain value rfl
            rfl
      have own : edgesKey ≠ hasPreviousKey := by decide
      rw [FieldPlan.IsClear, ← nested.keys, ← nested.distinct]
      simp [Clause.mapKeysOf, Clause.mapKeys, Expression.entryMapKeys, Expression.mapKeys,
        Expression.itemMapKeys, columnMapKeys, Column.as, Column.kept, limited, quiet, flat,
        conditions, own]
      tauto

theorem emitFields_projects (source : String) : (plans : List FieldPlan) →
    Ensures (emitFields features source plans) fun answer _ =>
      Projects (plans.map FieldPlan.key) (FieldPlan.AllClear plans) answer.1 answer.2
  | [] => .pure fun _ => ⟨rfl, by simp [Clause.mapKeysOf, Expression.entryMapKeys, FieldPlan.AllClear]⟩
  | plan :: rest => by
      refine .bind (emitField_projects source plan) fun _ => ?_
      refine .bind (emitFields_projects source rest) fun _ => ?_
      refine .pure fun _ others first => ⟨?_, ?_⟩
      · simp [first.keys, others.keys]
      · rw [FieldPlan.AllClear, ← first.distinct, ← others.distinct]
        simp
        tauto

theorem emitSets_projects (edge target : String) : (sets : List EdgeSetPlan) →
    Ensures (emitSets features edge target sets) fun answer _ =>
      Projects (sets.map EdgeSetPlan.key) (EdgeSetPlan.AllClear sets) answer.1 answer.2
  | [] => .pure fun _ => ⟨rfl, by simp [Clause.mapKeysOf, Expression.entryMapKeys, EdgeSetPlan.AllClear]⟩
  | .mk _ fields :: rest => by
      refine .bind (emitEdges_projects edge target fields) fun _ => ?_
      refine .bind (emitSets_projects edge target rest) fun _ => ?_
      refine .pure fun _ others first => ⟨?_, ?_⟩
      · simp [EdgeSetPlan.key, others.keys]
      · rw [EdgeSetPlan.AllClear, ← first.keys, ← first.distinct, ← others.distinct]
        simp [Expression.entryMapKeys, Expression.mapKeys]
        tauto

theorem emitEdges_projects (edge target : String) : (plans : List EdgePlan) →
    Ensures (emitEdges features edge target plans) fun answer _ =>
      Projects (plans.map EdgePlan.key) (EdgePlan.AllClear plans) answer.1 answer.2
  | [] => .pure fun _ => ⟨rfl, by simp [Clause.mapKeysOf, Expression.entryMapKeys, EdgePlan.AllClear]⟩
  | .property _ _ :: rest => by
      refine .bind (emitEdges_projects edge target rest) fun _ => ?_
      refine .pure fun _ others => ⟨?_, ?_⟩
      · simp [EdgePlan.key, others.keys]
      · rw [EdgePlan.AllClear, ← others.distinct]
        simp [Expression.entryMapKeys, Expression.mapKeys]
  | .node _ fields :: rest => by
      refine .bind (emitFields_projects target fields) fun _ => ?_
      refine .bind (emitEdges_projects edge target rest) fun _ => ?_
      refine .pure fun _ others first => ⟨?_, ?_⟩
      · simp [EdgePlan.key, others.keys]
      · rw [EdgePlan.AllClear, ← first.keys, ← first.distinct, ← others.distinct]
        simp [Expression.entryMapKeys, Expression.mapKeys]
        tauto

end

theorem emitResponse_projects (response : ResponsePlan) :
    Ensures (emitResponse features response) fun answer _ =>
      Projects (response.map Prod.fst) (∀ entry ∈ response, ClearBeside [] entry.2)
        answer.1 answer.2 := by
  induction response with
  | nil => exact .pure fun _ => ⟨rfl, by simp [Clause.mapKeysOf, Expression.entryMapKeys]⟩
  | cons entry rest ih =>
      refine .bind (emitFields_projects features rootName entry.2) fun _ => .bind ih fun _ => ?_
      refine .pure fun _ others first => ⟨?_, ?_⟩
      · simp [others.keys]
      · rw [List.forall_mem_cons, ← others.distinct, ClearBeside, ← first.keys, ← first.distinct]
        simp [Expression.entryMapKeys, Expression.mapKeys]
        tauto

theorem emitAnswer_distinct (response : ResponsePlan) (columns : List String) :
    Ensures (emitAnswer features response columns) fun clauses _ =>
      (AreDistinct (Clause.mapKeysOf clauses) ↔ response.IsClear) := by
  refine .bind (emitResponse_projects features response) fun answer => .pure fun _ projects => ?_
  have kept := columnMapKeys_kept columns
  unfold columnMapKeys at kept
  rw [ResponsePlan.IsClear, ← projects.keys, ← projects.distinct]
  simp [Clause.mapKeysOf, Clause.mapKeys, Expression.mapKeys, columnMapKeys, Column.as, kept]
  tauto

theorem emitVariants_distinct (id : Expression) (variants : List VariantPlan) :
    Ensures (emitVariants features id variants) fun clauses _ => id.mapKeys = [] →
      (AreDistinct (Clause.mapKeysOf clauses) ↔
        ∀ variant ∈ variants, ClearBeside [resolvedTypeKey] variant.fields) := by
  induction variants with
  | nil => exact .pure fun _ _ => by simp [Clause.mapKeysOf]
  | cons variant rest ih =>
      have first : Ensures (emitVariant features id variant) fun clauses _ => id.mapKeys = [] →
          (AreDistinct (Clause.mapKeysOf clauses) ↔
            ClearBeside [resolvedTypeKey] variant.fields) := by
        refine .bind (emitFields_projects features rootName variant.fields) fun answer => ?_
        refine .pure fun _ projects plain => ?_
        rw [ClearBeside, ← projects.keys, ← projects.distinct]
        simp [Clause.mapKeysOf, Clause.mapKeys, Expression.mapKeys, Expression.itemMapKeys,
          columnMapKeys, Column.as, Expression.entryMapKeys, plain]
        tauto
      refine .bind first fun begun => .bind ih fun others => .pure fun _ later here plain => ?_
      have between : Clause.mapKeysOf (if rest.isEmpty then [] else [.union]) = [] := by
        split <;> rfl
      rw [List.forall_mem_cons, ← here plain, ← later plain]
      simp only [Clause.mapKeysOf_append, areDistinct_append, between, areDistinct_nil, and_true]

theorem emitConditions_mapKeys (owner : String) (entries : List Assignment) :
    Ensures (emitConditions owner entries) fun conditions _ =>
      Expression.itemMapKeys conditions = [] := by
  induction entries with
  | nil => exact .pure fun _ => rfl
  | cons entry rest ih =>
      have first : Ensures (emitCondition owner entry) fun condition _ =>
          condition.mapKeys = [] := by
        unfold emitCondition
        dsimp only
        split
        · exact .pure fun _ => rfl
        · refine .bind (.bindValue _ _) fun value => .pure fun _ held => ?_
          obtain ⟨name, rfl, -⟩ := held
          rfl
      refine .bind first fun condition => .bind ih fun others => .pure fun _ later here => ?_
      rw [Expression.itemMapKeys, here, later, List.nil_append]

theorem assignmentMapKeys_of_assigns {parameters : Entries Value} {owner : String}
    {properties : List Assignment} {assignments : List (Expression × Expression)}
    (each : List.Forall₂ (Assigns parameters owner) properties assignments) :
    assignmentMapKeys assignments = [] := by
  refine List.flatMap_eq_nil_iff.mpr fun assignment member => ?_
  obtain ⟨entry, -, target, name, value, -⟩ := Outcome.partner_of_mem_others each member
  rw [target, value]
  rfl

theorem emitReport_distinct (path edge count report : String) :
    Ensures (emitReport path edge count report) fun clauses _ =>
      AreDistinct (Clause.mapKeysOf clauses) := by
  refine .bind (.bindValue _ _) fun name => .pure fun _ held => ?_
  obtain ⟨parameter, rfl, -⟩ := held
  simp [Clause.mapKeysOf, Clause.mapKeys, columnMapKeys, Column.as, Expression.mapKeys]

theorem emitRelationship_distinct (source : String) (step : Step) (target : String)
    (properties : List Assignment) :
    Ensures (emitRelationship features source step target properties) fun answer _ =>
      AreDistinct (Clause.mapKeysOf answer.1) := by
  have draws : Ensures (emitDraw features step.label) fun answer _ =>
      AreDistinct answer.1.mapKeys := by
    refine .bind (.newName _) fun _ => .bind (.newName _) fun _ => ?_
    refine .bind (.bindValue _ _) fun name => .pure fun _ held _ _ => ?_
    obtain ⟨parameter, rfl, -⟩ := held
    simp [Clause.mapKeysOf, Clause.mapKeys, columnMapKeys, Column.as, Expression.mapKeys,
      assignmentMapKeys]
  refine .bind draws fun draw => .bind (.newName "edge") fun edge => ?_
  refine .bind (emitAssignments_ensures edge properties) fun assignments => ?_
  refine .pure fun _ assigned _ distinct => ?_
  have none_ := assignmentMapKeys_of_assigns assigned
  unfold assignmentMapKeys at none_
  simp [Clause.mapKeysOf, Clause.mapKeys, Expression.mapKeys, assignmentMapKeys, distinct, none_]

mutual

/-- What creates a node has no map with a key of a request. -/
theorem emitNode_distinct (name : String) (kept : List String) : (node : NodePlan) →
    Ensures (emitNode features name kept node) fun answer _ =>
      AreDistinct (Clause.mapKeysOf answer.1)
  | .mk label identifier id properties entries => by
      refine .bind (emitIdentifier_ensures id) fun expression => ?_
      refine .bind (emitAssignments_ensures name properties) fun assignments => ?_
      refine .bind (emitEntries_distinct name entries) fun nested => ?_
      refine .pure fun _ entered assigned identified => ?_
      have none_ := assignmentMapKeys_of_assigns assigned
      have flat : expression.mapKeys = [] := by
        cases id with
        | none =>
            cases identified
            rfl
        | some value =>
            obtain ⟨parameter, rfl, -⟩ := identified
            rfl
      have columns := columnMapKeys_kept (kept ++ [name])
      simp only [List.map_append, List.map_cons, List.map_nil] at columns
      unfold assignmentMapKeys at none_
      simp [Clause.mapKeysOf, Clause.mapKeys, Expression.mapKeys, assignmentMapKeys, none_, flat,
        entered, columns]

theorem emitEntry_distinct (source : String) : (entry : EntryPlan) →
    Ensures (emitEntry features source entry) fun answer _ => AreDistinct answer.1.mapKeys
  | .create step properties node => by
      refine .bind (.newName "create") fun target => .bind (.newName "matches") fun _ => ?_
      refine .bind (emitNode_distinct target [source] node) fun _ => ?_
      refine .bind (emitRelationship_distinct features source step target properties) fun _ => ?_
      refine .pure fun _ related created _ _ => ?_
      simp [Clause.mapKeysOf, Clause.mapKeys, columnMapKeys, Column.as, related, created]
  | .connect step path filter properties => by
      refine .bind (.newName "connect") fun target => .bind (.newName "count") fun count => ?_
      refine .bind (.newName "matches") fun report => ?_
      refine .bind (emitConditions_mapKeys target filter) fun conditions => ?_
      refine .bind (emitRelationship_distinct features source step target properties) fun made => ?_
      refine .bind (emitReport_distinct path made.2 count report) fun reported => ?_
      refine .pure fun _ reporting related filtered _ _ _ => ?_
      simp [Clause.mapKeysOf, Clause.mapKeys, filtered, related, reporting]

theorem emitEntries_distinct (source : String) : (entries : List EntryPlan) →
    Ensures (emitEntries features source entries) fun answer _ =>
      AreDistinct (Clause.mapKeysOf answer.1)
  | [] => .pure fun _ => areDistinct_nil
  | entry :: rest => by
      refine .bind (emitEntry_distinct source entry) fun _ => ?_
      refine .bind (emitEntries_distinct source rest) fun _ => ?_
      exact .pure fun _ others first => by simp [Clause.mapKeysOf, first, others]

end

theorem emitConnectionUpdates_distinct (source : String) (updates : List ConnectionUpdate) :
    Ensures (emitConnectionUpdates source updates) fun answer _ =>
      AreDistinct (Clause.mapKeysOf answer.1) := by
  induction updates with
  | nil => exact .pure fun _ => areDistinct_nil
  | cons update rest ih =>
      have first : Ensures (emitConnectionUpdate source update) fun answer _ =>
          AreDistinct answer.1.mapKeys := by
        refine .bind (.newName "edge") fun edge => .bind (.newName "node") fun target => ?_
        refine .bind (.newName "count") fun count => .bind (.newName "matches") fun report => ?_
        refine .bind (emitConditions_mapKeys target update.filter) fun conditions => ?_
        refine .bind (emitAssignments_ensures edge update.properties) fun assignments => ?_
        refine .bind (emitReport_distinct update.path edge count report) fun reported => ?_
        refine .pure fun _ reporting assigned filtered _ _ _ _ => ?_
        have none_ := assignmentMapKeys_of_assigns assigned
        simp [Clause.mapKeysOf, Clause.mapKeys, filtered, none_, reporting]
      refine .bind first fun _ => .bind ih fun _ => ?_
      exact .pure fun _ others begun => by simp [Clause.mapKeysOf, begun, others]

theorem emitRoots_distinct (index : Nat) (nodes : List NodePlan) :
    Ensures (emitRoots features index nodes) fun answer _ =>
      AreDistinct (Clause.mapKeysOf answer.1) := by
  induction nodes generalizing index with
  | nil => exact .pure fun _ => areDistinct_nil
  | cons node rest ih =>
      refine .bind (emitNode_distinct features _ [] node) fun _ => .bind (ih (index + 1)) fun _ => ?_
      refine .pure fun _ others made => ?_
      simp [Clause.mapKeysOf, Clause.mapKeys, columnMapKeys, Column.as, Column.kept,
        Expression.mapKeys, made, others]

/-- The maps of a statement have different keys exactly if its plan is clear. -/
theorem emit_distinct (plan : Plan) :
    Ensures (plan.emit features) fun clauses _ =>
      (AreDistinct (Clause.mapKeysOf clauses) ↔ plan.IsClear) := by
  cases plan with
  | list label filter fields =>
      refine .bind (emitConditions_mapKeys rootName filter) fun conditions => ?_
      refine .bind (emitFields_projects features rootName fields) fun answer => ?_
      refine .pure fun _ projects filtered => ?_
      rw [Plan.IsClear, ClearBeside, ← projects.keys, ← projects.distinct]
      simp [Clause.mapKeysOf, Clause.mapKeys, Expression.mapKeys, columnMapKeys, Column.as, filtered]
      tauto
  | lookup id variants =>
      refine .bind (.bindValue id "id") fun wanted => ?_
      refine .bind (emitVariants_distinct features wanted variants) fun _ => ?_
      refine .pure fun _ found held => ?_
      obtain ⟨name, rfl, -⟩ := held
      rw [Plan.IsClear, ← found rfl]
      simp [Clause.mapKeysOf, Clause.mapKeys, columnMapKeys, Column.kept, Expression.mapKeys]
  | create nodes response =>
      refine .bind (emitRoots_distinct features 0 nodes) fun made => ?_
      refine .bind (emitAnswer_distinct features response _) fun _ => ?_
      refine .pure fun _ answered created => ?_
      rw [Plan.IsClear, ← answered]
      simp [Clause.mapKeysOf, Clause.mapKeys, Expression.mapKeys, columnMapKeys, Column.as,
        Column.kept, itemMapKeys_variables, created]
  | update label filter assignments entries connections response =>
      refine .bind (emitConditions_mapKeys rootName filter) fun conditions => ?_
      refine .bind (emitAssignments_ensures rootName assignments) fun _ => ?_
      refine .bind (emitEntries_distinct features rootName entries) fun _ => ?_
      refine .bind (emitConnectionUpdates_distinct rootName connections) fun _ => ?_
      refine .bind (emitAnswer_distinct features response _) fun _ => ?_
      refine .pure fun _ answered updated entered assigned filtered => ?_
      have none_ := assignmentMapKeys_of_assigns assigned
      rw [Plan.IsClear, ← answered]
      simp [Clause.mapKeysOf, Clause.mapKeys, Expression.mapKeys, columnMapKeys, Column.as,
        Column.kept, filtered, none_, entered, updated]

end

/-- Edges with a field under the key of the order of further edges. -/
def EdgesHideOrder (edges : List EdgeField) : Prop :=
  ∃ key typeName nested, .node key typeName nested ∈ edges ∧ ∃ field ∈ nested, HidesOrder field

theorem edgesHideOrder_node_cons {key typeName : String} {nested : List NodeField}
    {rest : List EdgeField} : EdgesHideOrder (.node key typeName nested :: rest) ↔
      (∃ field ∈ nested, HidesOrder field) ∨ EdgesHideOrder rest := by
  constructor
  · rintro ⟨inside, name, fields, member, hides⟩
    rcases List.mem_cons.mp member with here | later
    · cases here
      exact .inl hides
    · exact .inr ⟨inside, name, fields, later, hides⟩
  · rintro (hides | ⟨inside, name, fields, member, hides⟩)
    · exact ⟨key, typeName, nested, List.mem_cons_self .., hides⟩
    · exact ⟨inside, name, fields, List.mem_cons_of_mem _ member, hides⟩

theorem hidesOrder_relationship_iff {key name typeName : String} {fields : List NodeField} :
    HidesOrder (.relationship key name typeName fields) ↔ ∃ field ∈ fields, HidesOrder field := by
  constructor
  · rintro (_ | ⟨member, inner⟩)
    exact ⟨_, member, inner⟩
  · rintro ⟨field, member, inner⟩
    exact .relationship member inner

theorem hidesOrder_connection_iff {key name : String} {first after : Value}
    {fields : List ConnectionField} : HidesOrder (.connection key name first after fields) ↔
      (∃ inner, .edges sequenceKey inner ∈ fields) ∨
        ∃ set edges, .edges set edges ∈ fields ∧ EdgesHideOrder edges := by
  constructor
  · intro hides
    cases hides with
    | edges member => exact .inl ⟨_, member⟩
    | node among within member inner => exact .inr ⟨_, _, among, _, _, _, within, _, member, inner⟩
  · rintro (⟨inner, member⟩ | ⟨set, edges, among, inside, typeName, nested, within, field, member,
      inner⟩)
    · exact .edges member
    · exact .node among within member inner

/-- Whether a field of a node is answered from the map of the node. -/
def isProjected : NodeField → Bool
  | .leaf leaf => leaf.name != Graphql.typenameName
  | _ => true

/-- A selection with a field under the key of the type of a looked-up node. -/
def HidesType (selection : NodeSelection) : Prop :=
  ∃ field ∈ selection.fields, isProjected field = true ∧ field.key = resolvedTypeKey

/-- A root field in which a key of the statement's own is given to a field beside it. -/
def HidesKey : RootField → Prop
  | .list _ _ selection _ => ∃ field ∈ selection.fields, HidesOrder field
  | .lookup _ _ variants => ∃ selection ∈ variants, HidesType selection ∨
      ∃ field ∈ selection.fields, HidesOrder field
  | .create _ _ _ response => ∃ key selection, .nodes key selection ∈ response.fields ∧
      ∃ field ∈ selection.fields, HidesOrder field
  | .update _ _ response _ _ _ => ∃ key selection, .nodes key selection ∈ response.fields ∧
      ∃ field ∈ selection.fields, HidesOrder field
  | .typename _ _ => False

theorem FieldPlan.allClear_append (first second : List FieldPlan) :
    FieldPlan.AllClear (first ++ second) ↔
      FieldPlan.AllClear first ∧ FieldPlan.AllClear second := by
  induction first with
  | nil => simp [FieldPlan.AllClear]
  | cons plan rest ih => simp [FieldPlan.AllClear, ih, and_assoc]

theorem EdgePlan.allClear_append (first second : List EdgePlan) :
    EdgePlan.AllClear (first ++ second) ↔ EdgePlan.AllClear first ∧ EdgePlan.AllClear second := by
  induction first with
  | nil => simp [EdgePlan.AllClear]
  | cons plan rest ih => cases plan <;> simp [EdgePlan.AllClear, ih, and_assoc]

section

variable {basis : Basis}

/-- A field has one plan, under its key, if it is answered from the map of its node. -/
theorem planField_keys {node : NodeType} {field : NodeField} {plans : List FieldPlan}
    (planned : basis.planField node field = .ok plans) :
    plans.map FieldPlan.key = if isProjected field then [field.key] else [] := by
  cases field with
  | leaf leaf =>
      unfold Basis.planField Basis.planLeaf at planned
      by_cases named : leaf.name = Graphql.typenameName
      · rw [if_pos named] at planned
        cases planned
        simp [isProjected, named]
      · rw [if_neg named] at planned
        split at planned
        · cases planned
          simp [isProjected, named, FieldPlan.key, NodeField.key]
        · cases planned
  | relationship key name typeName fields =>
      obtain ⟨⟨relationship, related⟩, -, planned⟩ := Outcome.bind_ok_iff.mp planned
      obtain ⟨inner, -, made⟩ := Outcome.bind_ok_iff.mp planned
      cases made
      rfl
  | connection key name first after fields =>
      unfold Basis.planField at planned
      split at planned
      · cases planned
      · obtain ⟨⟨relationship, related⟩, -, planned⟩ := Outcome.bind_ok_iff.mp planned
        obtain ⟨page, -, planned⟩ := Outcome.bind_ok_iff.mp planned
        obtain ⟨sets, -, made⟩ := Outcome.bind_ok_iff.mp planned
        cases made
        rfl

theorem planFields_keys {node : NodeType} {fields : List NodeField} {plans : List FieldPlan}
    (planned : basis.planFields node fields = .ok plans) :
    plans.map FieldPlan.key = (fields.filter isProjected).map NodeField.key := by
  induction fields generalizing plans with
  | nil =>
      cases planned
      rfl
  | cons field rest ih =>
      obtain ⟨first, one, planned⟩ := Outcome.bind_ok_iff.mp planned
      obtain ⟨others, all, made⟩ := Outcome.bind_ok_iff.mp planned
      cases made
      rw [List.map_append, planField_keys one, ih all, List.filter_cons]
      split <;> simp

theorem planEdges_keys {issuer : String} {properties : Option PropertiesType} {related : NodeType}
    {fields : List EdgeField} {plans : List EdgePlan}
    (planned : basis.planEdges issuer properties related fields = .ok plans) :
    (plans.map EdgePlan.key).Sublist (fields.map EdgeField.key) := by
  induction fields generalizing plans with
  | nil =>
      cases planned
      exact .slnil
  | cons field rest ih =>
      cases field with
      | leaf leaf =>
          obtain ⟨first, one, planned⟩ := Outcome.bind_ok_iff.mp planned
          obtain ⟨others, all, made⟩ := Outcome.bind_ok_iff.mp planned
          cases made
          unfold Basis.planEdgeLeaf at one
          split at one
          · cases one
            exact (ih all).cons _
          · split at one
            · cases one
              exact (ih all).cons_cons _
            · cases one
      | node key typeName fields =>
          obtain ⟨inner, -, planned⟩ := Outcome.bind_ok_iff.mp planned
          obtain ⟨others, all, made⟩ := Outcome.bind_ok_iff.mp planned
          cases made
          exact (ih all).cons_cons _

theorem planFields_nodup {node : NodeType} {fields : List NodeField} {plans : List FieldPlan}
    (distinct : (fields.map NodeField.key).Nodup)
    (planned : basis.planFields node fields = .ok plans) : (plans.map FieldPlan.key).Nodup := by
  rw [planFields_keys planned]
  exact distinct.sublist (List.filter_sublist.map _)

mutual

/-- The plan of a field is clear unless edges in it are under the key of their order. -/
theorem planField_clear (node : NodeType) : (field : NodeField) → field.Keyed →
    ∀ plans, basis.planField node field = .ok plans →
      (FieldPlan.AllClear plans ↔ ¬ HidesOrder field)
  | .leaf leaf, _, plans, planned => by
      have apart : ¬ HidesOrder (.leaf leaf) := fun impossible => nomatch impossible
      simp only [apart, not_false_eq_true, iff_true]
      unfold Basis.planField Basis.planLeaf at planned
      split at planned
      · cases planned
        trivial
      · split at planned
        · cases planned
          exact ⟨trivial, trivial⟩
        · cases planned
  | .relationship key name typeName fields, keyed, plans, planned => by
      obtain ⟨distinct, inner⟩ := keyed.fields_keyed
      obtain ⟨⟨relationship, related⟩, -, planned⟩ := Outcome.bind_ok_iff.mp planned
      obtain ⟨nested, here, made⟩ := Outcome.bind_ok_iff.mp planned
      cases made
      simp only [FieldPlan.AllClear, FieldPlan.IsClear, planFields_nodup distinct here,
        planFields_clear related fields inner nested here, hidesOrder_relationship_iff, true_and,
        and_true, not_exists, not_and]
  | .connection key name first after fields, keyed, plans, planned => by
      have edges := keyed.edges_of_mem
      unfold Basis.planField at planned
      split at planned
      · cases planned
      · obtain ⟨⟨relationship, related⟩, -, planned⟩ := Outcome.bind_ok_iff.mp planned
        obtain ⟨page, -, planned⟩ := Outcome.bind_ok_iff.mp planned
        obtain ⟨sets, here, made⟩ := Outcome.bind_ok_iff.mp planned
        cases made
        obtain ⟨kept, members⟩ := planSets_keys here
        simp only [FieldPlan.AllClear, FieldPlan.IsClear, List.nodup_cons, members,
          keyed.connection_nodup.sublist kept, planSets_clear _ _ related fields edges sets here,
          hidesOrder_connection_iff, and_true, not_or, not_exists, not_and]

theorem planFields_clear (node : NodeType) : (fields : List NodeField) →
    (∀ field ∈ fields, field.Keyed) → ∀ plans, basis.planFields node fields = .ok plans →
      (FieldPlan.AllClear plans ↔ ∀ field ∈ fields, ¬ HidesOrder field)
  | [], _, plans, planned => by
      cases planned
      simp [FieldPlan.AllClear]
  | field :: rest, keyed, plans, planned => by
      obtain ⟨first, one, planned⟩ := Outcome.bind_ok_iff.mp planned
      obtain ⟨others, all, made⟩ := Outcome.bind_ok_iff.mp planned
      cases made
      rw [List.forall_mem_cons] at keyed
      rw [FieldPlan.allClear_append, planField_clear node field keyed.1 first one,
        planFields_clear node rest keyed.2 others all, List.forall_mem_cons]

theorem planSets_clear (issuer : String) (properties : Option PropertiesType) (related : NodeType) :
    (fields : List ConnectionField) →
    (∀ set edges, .edges set edges ∈ fields → EdgeField.AllKeyed edges) →
    ∀ sets, basis.planSets issuer properties related fields = .ok sets →
      (EdgeSetPlan.AllClear sets ↔
        ∀ set edges, .edges set edges ∈ fields → ¬ EdgesHideOrder edges)
  | [], _, sets, planned => by
      cases planned
      simp [EdgeSetPlan.AllClear]
  | .edges key fields :: rest, keyed, sets, planned => by
      obtain ⟨first, one, planned⟩ := Outcome.bind_ok_iff.mp planned
      obtain ⟨others, all, made⟩ := Outcome.bind_ok_iff.mp planned
      cases made
      have first_ := keyed key fields (List.mem_cons_self ..)
      have here := planEdges_clear issuer properties related fields first_ first one
      have later := planSets_clear issuer properties related rest
        (fun set edges member => keyed set edges (List.mem_cons_of_mem _ member)) others all
      simp only [EdgeSetPlan.AllClear, first_.distinct.sublist (planEdges_keys one), here, later,
        true_and, List.mem_cons, ConnectionField.edges.injEq]
      constructor
      · rintro ⟨apart, free⟩ set edges (⟨rfl, rfl⟩ | member)
        · exact apart
        · exact free set edges member
      · intro apart
        exact ⟨apart key fields (.inl ⟨rfl, rfl⟩), fun set edges member =>
          apart set edges (.inr member)⟩
  | .leaf leaf :: rest, keyed, sets, planned => by
      have later := planSets_clear issuer properties related rest
        (fun set edges member => keyed set edges (List.mem_cons_of_mem _ member)) sets planned
      simp [later]
  | .pageInfo key leaves :: rest, keyed, sets, planned => by
      have later := planSets_clear issuer properties related rest
        (fun set edges member => keyed set edges (List.mem_cons_of_mem _ member)) sets planned
      simp [later]

theorem planEdges_clear (issuer : String) (properties : Option PropertiesType)
    (related : NodeType) : (fields : List EdgeField) → EdgeField.AllKeyed fields →
    ∀ plans, basis.planEdges issuer properties related fields = .ok plans →
      (EdgePlan.AllClear plans ↔ ¬ EdgesHideOrder fields)
  | [], _, plans, planned => by
      cases planned
      simp [EdgePlan.AllClear, EdgesHideOrder]
  | .leaf leaf :: rest, keyed, plans, planned => by
      obtain ⟨first, one, planned⟩ := Outcome.bind_ok_iff.mp planned
      obtain ⟨others, all, made⟩ := Outcome.bind_ok_iff.mp planned
      cases made
      have later := planEdges_clear issuer properties related rest keyed.tail others all
      have clear : EdgePlan.AllClear first := by
        unfold Basis.planEdgeLeaf at one
        split at one
        · cases one
          trivial
        · split at one
          · cases one
            trivial
          · cases one
      rw [EdgePlan.allClear_append, later]
      simp [EdgesHideOrder, clear]
  | .node key typeName fields :: rest, keyed, plans, planned => by
      obtain ⟨inner, here, planned⟩ := Outcome.bind_ok_iff.mp planned
      obtain ⟨others, all, made⟩ := Outcome.bind_ok_iff.mp planned
      cases made
      have nested := keyed.nodes key typeName fields (List.mem_cons_self ..)
      have later := planEdges_clear issuer properties related rest keyed.tail others all
      simp only [EdgePlan.AllClear, planFields_nodup nested.distinct here, later,
        planFields_clear related fields nested.each inner here, edgesHideOrder_node_cons, true_and,
        not_or, not_exists, not_and]

end

theorem clearBeside_nil_iff {node : NodeType} {fields : List NodeField} {plans : List FieldPlan}
    (keyed : NodeField.AllKeyed fields) (planned : basis.planFields node fields = .ok plans) :
    ClearBeside [] plans ↔ ¬ ∃ field ∈ fields, HidesOrder field := by
  rw [ClearBeside, List.nil_append, planFields_clear node fields keyed.each plans planned]
  simp only [planFields_nodup keyed.distinct planned, true_and, not_exists, not_and]

theorem clearBeside_type_iff {node : NodeType} {selection : NodeSelection} {plans : List FieldPlan}
    (keyed : NodeField.AllKeyed selection.fields)
    (planned : basis.planFields node selection.fields = .ok plans) :
    ClearBeside [resolvedTypeKey] plans ↔
      ¬ (HidesType selection ∨ ∃ field ∈ selection.fields, HidesOrder field) := by
  have hidden : resolvedTypeKey ∈ plans.map FieldPlan.key ↔ HidesType selection := by
    rw [planFields_keys planned]
    simp [HidesType, and_assoc]
  rw [ClearBeside, List.singleton_append, List.nodup_cons, hidden, not_or]
  rw [planFields_clear node selection.fields keyed.each plans planned]
  simp only [planFields_nodup keyed.distinct planned, and_true, not_exists, not_and]

theorem planVariants_clear {selections : List NodeSelection} {variants : List VariantPlan}
    (keyed : ∀ selection ∈ selections, NodeField.AllKeyed selection.fields)
    (planned : basis.planVariants selections = .ok variants) :
    (∀ variant ∈ variants, ClearBeside [resolvedTypeKey] variant.fields) ↔
      ∀ selection ∈ selections,
        ¬ (HidesType selection ∨ ∃ field ∈ selection.fields, HidesOrder field) := by
  induction selections generalizing variants with
  | nil =>
      cases planned
      simp
  | cons selection rest ih =>
      obtain ⟨node, -, planned⟩ := Outcome.bind_ok_iff.mp planned
      obtain ⟨fields, here, planned⟩ := Outcome.bind_ok_iff.mp planned
      obtain ⟨others, later, made⟩ := Outcome.bind_ok_iff.mp planned
      cases made
      rw [List.forall_mem_cons] at keyed
      rw [List.forall_mem_cons, List.forall_mem_cons, ih keyed.2 later,
        clearBeside_type_iff keyed.1 here]

theorem planResponse_keys {node : NodeType} {fields : List ResponseField} {response : ResponsePlan}
    (planned : basis.planResponse node fields = .ok response) :
    (response.map Prod.fst).Sublist (fields.map ResponseField.key) := by
  induction fields generalizing response with
  | nil =>
      cases planned
      exact .slnil
  | cons field rest ih =>
      cases field with
      | leaf leaf => exact (ih planned).cons _
      | nodes key selection =>
          obtain ⟨first, -, planned⟩ := Outcome.bind_ok_iff.mp planned
          obtain ⟨others, later, made⟩ := Outcome.bind_ok_iff.mp planned
          cases made
          exact (ih later).cons_cons _

theorem planResponse_each {node : NodeType} {fields : List ResponseField} {response : ResponsePlan}
    (keyed : ∀ key selection, .nodes key selection ∈ fields → NodeField.AllKeyed selection.fields)
    (planned : basis.planResponse node fields = .ok response) :
    (∀ entry ∈ response, ClearBeside [] entry.2) ↔
      ¬ ∃ key selection, .nodes key selection ∈ fields ∧
        ∃ field ∈ selection.fields, HidesOrder field := by
  induction fields generalizing response with
  | nil =>
      cases planned
      simp
  | cons field rest ih =>
      have others_ := fun key selection member =>
        keyed key selection (List.mem_cons_of_mem field member)
      cases field with
      | leaf leaf =>
          rw [ih others_ planned]
          simp
      | nodes key selection =>
          obtain ⟨first, here, planned⟩ := Outcome.bind_ok_iff.mp planned
          obtain ⟨others, later, made⟩ := Outcome.bind_ok_iff.mp planned
          cases made
          have nested := keyed key selection (List.mem_cons_self ..)
          rw [List.forall_mem_cons, ih others_ later, clearBeside_nil_iff nested here, ← not_or]
          simp only [List.mem_cons, ResponseField.nodes.injEq, or_and_right, exists_or, and_assoc,
            exists_and_left, exists_eq_left]

theorem planResponse_clear {node : NodeType} {fields : List ResponseField}
    {response : ResponsePlan} (keyed : ResponseField.AllKeyed fields)
    (planned : basis.planResponse node fields = .ok response) :
    response.IsClear ↔ ¬ ∃ key selection, .nodes key selection ∈ fields ∧
      ∃ field ∈ selection.fields, HidesOrder field := by
  rw [ResponsePlan.IsClear, planResponse_each keyed.each planned]
  exact and_iff_right (keyed.distinct.sublist (planResponse_keys planned))

/-- The plan of a root field is clear unless a key of the statement's own is given to a field. -/
theorem plan_clear {field : RootField} {plan : Plan} (keyed : field.Keyed)
    (planned : basis.plan field = .ok plan) : plan.IsClear ↔ ¬ HidesKey field := by
  cases field with
  | list key typeName selection filter =>
      obtain ⟨node, -, planned⟩ := Outcome.bind_ok_iff.mp planned
      obtain ⟨condition, -, planned⟩ := Outcome.bind_ok_iff.mp planned
      obtain ⟨fields, here, made⟩ := Outcome.bind_ok_iff.mp planned
      cases made
      exact clearBeside_nil_iff keyed here
  | lookup key id variants =>
      unfold Basis.plan at planned
      dsimp only at planned
      split at planned
      · cases planned
      · split at planned
        · cases planned
        · obtain ⟨plans, here, made⟩ := Outcome.bind_ok_iff.mp planned
          cases made
          rw [Plan.IsClear, planVariants_clear keyed here, HidesKey]
          simp only [not_exists, not_and]
  | create key typeName inputs response =>
      obtain ⟨node, -, planned⟩ := Outcome.bind_ok_iff.mp planned
      obtain ⟨nodes, -, planned⟩ := Outcome.bind_ok_iff.mp planned
      obtain ⟨answer, here, made⟩ := Outcome.bind_ok_iff.mp planned
      cases made
      exact planResponse_clear keyed here
  | update key typeName response filter assignments connections =>
      obtain ⟨node, -, planned⟩ := Outcome.bind_ok_iff.mp planned
      obtain ⟨condition, -, planned⟩ := Outcome.bind_ok_iff.mp planned
      obtain ⟨entries, -, planned⟩ := Outcome.bind_ok_iff.mp planned
      obtain ⟨⟨⟩, -, planned⟩ := Outcome.bind_ok_iff.mp planned
      obtain ⟨nested, -, planned⟩ := Outcome.bind_ok_iff.mp planned
      obtain ⟨given, -, planned⟩ := Outcome.bind_ok_iff.mp planned
      obtain ⟨updates, -, planned⟩ := Outcome.bind_ok_iff.mp planned
      obtain ⟨answer, here, made⟩ := Outcome.bind_ok_iff.mp planned
      cases made
      exact planResponse_clear keyed here
  | typename key typeName => cases planned

end

/-- Whatever a request names its fields, all keys of each map in its statements are different, unless
it gives a key of the statement's own to a field beside it: edges under the key of their order, or a
field of a looked-up node under the key of its type. -/
theorem mapKeys_distinct_iff {surface : Surface} {document : Graphql.Document}
    {bindings : Entries Value} {wanted : Option String} {operation : Operation}
    (read : surface.read document bindings wanted = .ok operation) (basis : Basis) :
    ∀ field ∈ operation.fields, ∀ compiled, basis.compile field = .ok compiled →
      ∃ plan, basis.plan field = .ok plan ∧
        compiled.text = Clause.text (plan.emit basis.features {}).1 ∧
        (AreDistinct (Clause.mapKeysOf (plan.emit basis.features {}).1) ↔ ¬ HidesKey field) := by
  intro field member compiled done
  obtain ⟨plan, planned, same⟩ := Outcome.bind_ok_iff.mp done
  cases same
  refine ⟨plan, planned, rfl, ?_⟩
  rw [(emit_distinct basis.features plan).run, plan_clear (Surface.read_keyed read field member)
    planned]

end GraphGateway.Statement

namespace GraphGateway.Service

open Cypher Request Statement

/-- A request for the actors of all movies, with a key for their edges. -/
def billing (key : Option String) : Graphql.Document :=
  [.operation
    { kind := .query, name := none, declarations := [], directives := []
      selections :=
        [.field none "movies" [] []
          [.field none "actorsConnection" [] []
            [.field key "edges" [] [] [.field none "cursor" [] [] []]]]] }]

def plainBilling : Operation :=
  (stage.surface.read (billing none) [] none).toOption.get (by decide +kernel)

theorem mapKeys_distinct_iff_billing :
    ∃ field ∈ plainBilling.fields, ∃ plan compiled, stage.basis.plan field = .ok plan ∧
      stage.basis.compile field = .ok compiled ∧
      AreDistinct (Clause.mapKeysOf (plan.emit {} {}).1) ∧ ¬ HidesKey field := by
  have distinct : (plainBilling.fields.any fun field => (stage.basis.plan field).toOption.any
      fun plan => decide (AreDistinct (Clause.mapKeysOf (plan.emit {} {}).1))) = true := by
    rw [stage_basis]
    decide +kernel
  obtain ⟨field, member, plan, done, planned⟩ := Outcome.exists_ok_of_any distinct
  have read : stage.surface.read (billing none) [] none = .ok plainBilling :=
    Outcome.eq_ok_of_isSome _
  have compiled : stage.basis.compile field = .ok _ := Outcome.bind_ok_iff.mpr ⟨plan, done, rfl⟩
  obtain ⟨other, again, -, clear⟩ := mapKeys_distinct_iff read stage.basis field member _ compiled
  cases done.symm.trans again
  have here := of_decide_eq_true planned
  exact ⟨field, member, plan, _, done, compiled, here, clear.mp here⟩

def hidingBilling : Operation :=
  (stage.surface.read (billing (some "__seq")) [] none).toOption.get (by decide +kernel)

theorem hidingBilling_reads :
    stage.Reads (billing (some "__seq")) [] none hidingBilling :=
  .of_undeclared stage_servable (by decide +kernel) (Outcome.eq_ok_of_isSome _)

theorem exists_repeated_key_billing :
    stage.Reads (billing (some "__seq")) [] none hidingBilling ∧
    ∃ field ∈ hidingBilling.fields, ∃ plan compiled, stage.basis.plan field = .ok plan ∧
      stage.basis.compile field = .ok compiled ∧
      compiled.text = Clause.text (plan.emit {} {}).1 ∧
      ["__seq", "__seq"] ∈ Clause.mapKeysOf (plan.emit {} {}).1 := by
  refine ⟨hidingBilling_reads, ?_⟩
  have repeated : (hidingBilling.fields.any fun field => (stage.basis.plan field).toOption.any
      fun plan => decide (["__seq", "__seq"] ∈ Clause.mapKeysOf (plan.emit {} {}).1)) = true := by
    rw [stage_basis]
    decide +kernel
  obtain ⟨field, member, plan, done, planned⟩ := Outcome.exists_ok_of_any repeated
  exact ⟨field, member, plan, _, done, Outcome.bind_ok_iff.mpr ⟨plan, done, rfl⟩, rfl,
    of_decide_eq_true planned⟩

end GraphGateway.Service
