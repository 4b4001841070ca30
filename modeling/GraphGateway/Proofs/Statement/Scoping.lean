import GraphGateway.Proofs.Cypher.Scope
import GraphGateway.Statement.Emission

/-!
Scopes of what reads.  To read a field, at any depth, needs nothing in scope but the variable of its
node, and adds the names that its subqueries answer.  These are new ones, so that neither siblings
nor what they are nested in get in their way.
-/
namespace GraphGateway.Statement

open Cypher Settings
open Naming (Spans)
open Clause (AreScoped Passes Widen answered)

section

variable {outer scope : Scope} {start last : Nat}

theorem emitCondition_variables (owner : String) (entry : Assignment) :
    Spans (emitCondition owner entry) fun _ _ condition => condition.variables ⊆ [owner] := by
  unfold emitCondition
  split
  · exact .pure fun _ => List.Subset.refl _
  · refine .bind (.bindValue _ _) fun wanted => .pure fun _ _ _ bound => ?_
    obtain ⟨name, rfl⟩ := bound
    exact List.Subset.refl _

theorem emitConditions_variables (owner : String) (entries : List Assignment) :
    Spans (emitConditions owner entries) fun _ _ conditions =>
      ∀ condition ∈ conditions, condition.variables ⊆ [owner] := by
  induction entries with
  | nil => exact .pure fun _ _ member => absurd member List.not_mem_nil
  | cons entry rest ih =>
      refine .bind (emitCondition_variables owner entry) fun first => ?_
      refine .bind ih fun others => .pure fun _ _ _ later _ _ here condition member => ?_
      rcases List.mem_cons.mp member with rfl | member
      · exact here
      · exact later condition member

theorem passes_filtering {owner : String} {conditions : List Expression} (bound : owner ∈ scope)
    (uses : ∀ condition ∈ conditions, condition.variables ⊆ [owner]) :
    Passes outer scope (Clause.filtering conditions) scope := by
  unfold Clause.filtering
  split
  · exact .nil
  · refine .cons (fun condition member => ?_) .nil
    exact List.Subset.trans (uses condition member) (Scope.single bound)

/-- A node that is found brings its variable. -/
theorem passes_findNode {name : String} (label : Option String) (some_ : name ≠ "")
    (new : name ∉ scope) : Passes outer scope [.find (.node { name, label })] (scope ++ [name]) := by
  have matched : (Pattern.node { name, label }).matched = [name] := Pattern.named_of_ne_empty some_
  exact .find (List.nil_subset _) matched (.single new)

section

variable (step : Step) (source : String) {edge target : String} {middle final : Nat}

theorem matched_target (new : Between start last target) :
    (step.pattern source "" target).matched = [target] :=
  Pattern.named_of_ne_empty new.ne_empty

theorem matched_edge (new : Between start last edge) :
    (step.pattern source edge "").matched = [edge] := by
  rw [Step.pattern, Pattern.matched, Pattern.named_of_ne_empty new.ne_empty]
  rfl

theorem matched_both (edgeNew : Between start middle edge) (targetNew : Between last final target) :
    (step.pattern source edge target).matched = [edge, target] := by
  rw [Step.pattern, Pattern.matched, Pattern.named_of_ne_empty edgeNew.ne_empty,
    Pattern.named_of_ne_empty targetNew.ne_empty]
  rfl

end

end

/-- Keys of a start that use no variables. -/
def IsBare (start : Option Expression) : Prop := ∀ key ∈ start, key.variables = []

theorem emitStart_variables (start : Option Int) :
    Spans (emitStart start) fun _ _ answer => IsBare answer := by
  cases start with
  | none => exact .pure fun _ _ member => nomatch member
  | some key =>
      refine .bind (.bindValue _ _) fun parameter => .pure fun _ _ _ bound key same => ?_
      obtain ⟨name, rfl⟩ := bound
      cases same
      rfl

theorem emitLimit_passes (limit : Option Value) :
    Spans (emitLimit limit) fun _ _ clauses => ∀ outer scope, Passes outer scope clauses scope := by
  cases limit with
  | none => exact .pure fun _ _ _ => .nil
  | some limit =>
      refine .bind (.bindValue _ _) fun count => .pure fun _ _ _ bound outer scope => ?_
      obtain ⟨name, rfl⟩ := bound
      exact .cons (List.nil_subset _) .nil

theorem emitPrevious_widen (features : Features) (source : String) (step : Step)
    (start : Option Expression) :
    Spans (emitPrevious features source step start) fun first last answer =>
      IsBare start → Widen [source] first last answer.1 answer.2.variables := by
  cases start with
  | none => exact .pure fun _ _ => .nil (List.nil_subset _) (Nat.le_refl _)
  | some start =>
      refine .bind (.newName "edge") fun edge => ?_
      refine .bind (.newName "previous") fun previous => ?_
      refine .pure fun last second _ previousNew first before edgeNew bare => ?_
      have body : ∀ outer, KnownBy first [source] → ∃ left, Passes outer [source]
          [.findOptional (step.pattern source edge ""),
            .filter [.compare .atMost (.property edge features.sequenceProperty) start]] left ∧
          (Expression.compare .above (.count (.variable edge)) (.number 0)).variables ⊆ left := by
        intro outer known
        have found : Passes outer [source] [.findOptional (step.pattern source edge "")]
            ([source] ++ [edge]) :=
          .findOptional (List.Subset.refl _) (matched_edge step source edgeNew) (known.lacks edgeNew)
        refine ⟨_, found.append (.cons ?_ .nil), List.subset_append_right [source] [edge]⟩
        intro condition member
        rw [List.mem_singleton.mp member, Expression.variables, bare start rfl, List.append_nil]
        exact List.subset_append_right [source] [edge]
      exact Widen.subquery (previousNew.mono before (Nat.le_refl _)) (Nat.le_refl _) body

/-- The clauses that find the edges of a page and their targets. -/
def pageClauses (features : Features) (step : Step) (source edge target : String)
    (start : Option Expression) (limit : List Clause) : List Clause :=
  [.find (step.pattern source edge target),
    .filter (.isPresent (.property edge features.sequenceProperty) ::
      (start.map (.compare .above (.property edge features.sequenceProperty) ·)).toList),
    .carry [.kept edge, .kept target],
    .order (.property edge features.sequenceProperty)] ++ limit

/-- They leave the edges and their targets in scope, and nothing else. -/
theorem passes_pageClauses (features : Features) (step : Step) {outer : Scope}
    {source edge target : String} {start : Option Expression} (bare : IsBare start)
    {limit : List Clause} (limited : ∀ outer scope, Passes outer scope limit scope)
    {first middle last : Nat} (known : KnownBy first [source])
    (edgeNew : Between first middle edge) (targetNew : Between middle last target) :
    Passes outer [source] (pageClauses features step source edge target start limit)
      [edge, target] := by
  have inside : [edge] ⊆ [source] ++ [edge, target] := by simp
  have found : Passes outer [source] [.find (step.pattern source edge target)]
      ([source] ++ [edge, target]) :=
    .find (List.Subset.refl _) (matched_both step source edgeNew targetNew)
      (known.lacks_pair edgeNew targetNew (Nat.le_refl _))
  refine Passes.append (found.append (.cons ?_ (.cons ?_ (.cons ?_ .nil)))) (limited _ _)
  · intro condition member
    rcases List.mem_cons.mp member with rfl | member
    · exact inside
    · obtain ⟨key, given, rfl⟩ := Option.map_eq_some_iff.mp (Option.mem_toList.mp member)
      rw [Expression.variables, bare key given, List.append_nil]
      exact inside
  · refine ⟨?_, ?_⟩
    · intro column member
      rcases List.mem_cons.mp member with rfl | member
      · exact ⟨inside, rfl⟩
      · rw [List.mem_singleton.mp member]
        exact ⟨by simp [Column.kept, Expression.variables, Clause.behind], rfl⟩
    · have apart : edge ≠ target := edgeNew.ne targetNew (Nat.le_refl _)
      simp [Column.keys, Column.kept, Column.key?, apart]
  · exact List.subset_append_left [edge] [target]

mutual

/-- What reads a field needs the variable of its node only. -/
theorem emitField_widen (features : Features) (source : String) : (plan : FieldPlan) →
    Spans (emitField features source plan) fun start last answer =>
      Widen [source] start last answer.1 (Expression.entryVariables answer.2)
  | .property key stored => .pure fun _ => .nil (List.Subset.refl _) (Nat.le_refl _)
  | .related key step fields => by
      refine .bind (.newName step.field) fun target => ?_
      refine .bind (.newName "var") fun result => ?_
      refine .bind (emitFields_widen features target fields) fun nested => ?_
      refine .pure fun last third later nestedWiden second _ resultNew first before targetNew => ?_
      have single : Expression.entryVariables [(key, .variable result)] = [result] := rfl
      rw [single, ← List.cons_append]
      refine Widen.subquery (resultNew.mono before (Nat.le_refl _)) later fun outer known => ?_
      have found : Passes outer [source] [.find (step.pattern source "" target)]
          ([source] ++ [target]) :=
        .find (List.Subset.refl _) (matched_target step source targetNew) (known.lacks targetNew)
      have reached : KnownBy third ([source] ++ [target]) :=
        ((known.mono before).append targetNew.known).mono (by assumption)
      obtain ⟨left, passes, -, inside, -⟩ :=
        nestedWiden outer _ (List.subset_append_right [source] [target]) reached
      refine ⟨left, found.append passes, ?_⟩
      split <;> exact inside
  | .connection key step page sets => by
      refine .bind (emitStart_variables page.start) fun start => ?_
      refine .bind (.newName "edge") fun edge => ?_
      refine .bind (.newName step.field) fun target => ?_
      refine .bind (.newName "edges") fun edges => ?_
      refine .bind (emitLimit_passes page.limit) fun limit => ?_
      refine .bind (emitSets_widen features edge target sets) fun nested => ?_
      refine .bind (emitPrevious_widen features source step start) fun before => ?_
      refine .pure fun last seventh finish beforeWiden sixth _ nestedWiden fifth _ limited fourth _
        edgesNew third _ targetNew second _ edgeNew first _ bare => ?_
      have page : Widen [source] first seventh [.subquery [source]
          ((pageClauses features step source edge target start limit ++ nested.1) ++
            [.answer [.as (.collect (.map ((sequenceKey,
              .property edge features.sequenceProperty) :: nested.2))) edges]])] [edges] := by
        refine Widen.subquery (edgesNew.mono (by omega) (Nat.le_refl _)) (by omega)
          fun outer known => ?_
        have body : Passes outer [source] (pageClauses features step source edge target start limit)
            [edge, target] :=
          passes_pageClauses features step bare limited (known.mono (by omega : first ≤ second))
            edgeNew targetNew
        have reached : KnownBy sixth [edge, target] :=
          (edgeNew.known.mono (by omega)).append (targetNew.known.mono (by omega))
        obtain ⟨left, passes, kept, inside, -⟩ :=
          nestedWiden outer _ (List.Subset.refl _) reached
        refine ⟨left, body.append passes, ?_⟩
        have edgeKept := List.Subset.trans (List.subset_append_left [edge] [target]) kept
        exact List.append_subset.mpr ⟨edgeKept, inside⟩
      have used : Expression.entryVariables [(key, .map [(edgesKey, .variable edges),
          (hasPreviousKey, before.2)])] = [edges] ++ before.2.variables := by
        simp [Expression.entryVariables, Expression.variables]
      rw [used]
      exact page.append (beforeWiden bare)

theorem emitFields_widen (features : Features) (source : String) : (plans : List FieldPlan) →
    Spans (emitFields features source plans) fun start last answer =>
      Widen [source] start last answer.1 (Expression.entryVariables answer.2)
  | [] => .pure fun _ => .nil (List.nil_subset _) (Nat.le_refl _)
  | plan :: rest => by
      refine .bind (emitField_widen features source plan) fun first => ?_
      refine .bind (emitFields_widen features source rest) fun others => ?_
      refine .pure fun last middle _ later start _ here => ?_
      rw [Expression.entryVariables_append]
      exact here.append later

theorem emitSets_widen (features : Features) (edge target : String) : (sets : List EdgeSetPlan) →
    Spans (emitSets features edge target sets) fun start last answer =>
      Widen [edge, target] start last answer.1 (Expression.entryVariables answer.2)
  | [] => .pure fun _ => .nil (List.nil_subset _) (Nat.le_refl _)
  | .mk key fields :: rest => by
      refine .bind (emitEdges_widen features edge target fields) fun first => ?_
      refine .bind (emitSets_widen features edge target rest) fun others => ?_
      exact .pure fun last middle _ later start _ here => here.append later

theorem emitEdges_widen (features : Features) (edge target : String) : (plans : List EdgePlan) →
    Spans (emitEdges features edge target plans) fun start last answer =>
      Widen [edge, target] start last answer.1 (Expression.entryVariables answer.2)
  | [] => .pure fun _ => .nil (List.nil_subset _) (Nat.le_refl _)
  | .property key stored :: rest => by
      refine .bind (emitEdges_widen features edge target rest) fun others => ?_
      refine .pure fun last start _ later => ?_
      have here : Widen [edge, target] start start [] [edge] :=
        .nil (List.subset_append_left [edge] [target]) (Nat.le_refl _)
      exact here.append later
  | .node key fields :: rest => by
      refine .bind (emitFields_widen features target fields) fun nested => ?_
      refine .bind (emitEdges_widen features edge target rest) fun others => ?_
      refine .pure fun last middle _ later start _ here => ?_
      have inner : Widen [edge, target] start middle nested.1 (Expression.entryVariables nested.2) :=
        here.mono (List.subset_append_right [edge] [target]) (List.Subset.refl _) (Nat.le_refl _)
      exact inner.append later

end

/-!
Scopes of what writes: creating and connecting at any depth, and updating relationships.  Every
entry is a subquery that answers the report of its matches under a new name.  A created node has to
be carried on by name, together with what is still to be used behind it.
-/

/-- Assignments to an owner of values that use no variables. -/
def AssignTo (owner : String) (assignments : List (Expression × Expression)) : Prop :=
  ∀ assignment ∈ assignments, assignment.1.variables ⊆ [owner] ∧ assignment.2.variables = []

theorem emitAssignments_assignTo (owner : String) (entries : List Assignment) :
    Spans (emitAssignments owner entries) fun _ _ assignments => AssignTo owner assignments := by
  induction entries with
  | nil => exact .pure fun _ _ member => absurd member List.not_mem_nil
  | cons entry rest ih =>
      refine .bind (.bindValue _ _) fun value => ?_
      refine .bind ih fun others => .pure fun _ _ _ later _ _ bound assignment member => ?_
      obtain ⟨name, rfl⟩ := bound
      rcases List.mem_cons.mp member with rfl | member
      · exact ⟨List.Subset.refl _, rfl⟩
      · exact later assignment member

section

variable {outer scope : Scope}

theorem AssignTo.bound {owner : String} {assignments : List (Expression × Expression)}
    (assign : AssignTo owner assignments) (bound : owner ∈ scope) :
    ∀ assignment ∈ assignments,
      assignment.1.variables ⊆ scope ∧ assignment.2.variables ⊆ scope := by
  intro assignment member
  obtain ⟨target, value⟩ := assign assignment member
  exact ⟨List.Subset.trans target (Scope.single bound), value ▸ List.nil_subset scope⟩

theorem passes_setting {owner : String} {assignments : List (Expression × Expression)}
    (assign : AssignTo owner assignments) (bound : owner ∈ scope) :
    Passes outer scope (Clause.setting assignments) scope := by
  unfold Clause.setting
  split
  · exact .nil
  · exact .cons (assign.bound bound) .nil

end

/-- To draw a number needs no variable and adds the one that holds it. -/
theorem emitDraw_widen (features : Features) (label : String) :
    Spans (emitDraw features label) fun start last answer =>
      Widen [] start last [answer.1] [answer.2] := by
  refine .bind (.newName "sequence") fun counter => ?_
  refine .bind (.newName "seq") fun drawn => ?_
  refine .bind (.bindValue _ "sequence_name") fun name => ?_
  refine .pure fun last third finish bound second _ drawnNew first before counterNew => ?_
  obtain ⟨parameter, rfl⟩ := bound
  have body : ∀ outer, KnownBy first [] → ∃ left, Passes outer []
      [.merge counter features.sequenceLabel (.parameter parameter),
        .setOnCreate (.counted counter) (.number 0),
        .set [(.counted counter, .plus (.counted counter) (.number 1))]] left ∧
      (Expression.counted counter).variables ⊆ left := by
    intro outer known
    refine ⟨[counter], .cons ⟨List.nil_subset _, known.lacks counterNew⟩
      (.cons ⟨List.Subset.refl _, List.nil_subset _⟩ (.cons ?_ .nil)), List.Subset.refl _⟩
    intro assignment member
    rw [List.mem_singleton.mp member]
    exact ⟨List.Subset.refl _, List.Subset.refl _⟩
  exact Widen.subquery (drawnNew.mono before (Nat.le_refl _)) finish body

/-- To create a relationship needs both its ends and adds the variable of the relationship. -/
theorem emitRelationship_widen (features : Features) (source : String) (step : Step)
    (target : String) (properties : List Assignment) :
    Spans (emitRelationship features source step target properties) fun start last answer =>
      Widen [source, target] start last answer.1 [answer.2] := by
  refine .bind (emitDraw_widen features step.label) fun draw => ?_
  refine .bind (.newName "edge") fun edge => ?_
  refine .bind (emitAssignments_assignTo edge properties) fun assignments => ?_
  refine .pure fun last third finish assign second _ edgeNew first before drawWiden => ?_
  intro outer scope bound known
  obtain ⟨middle, passes, kept, drawn, reached⟩ := drawWiden outer scope (List.nil_subset _) known
  have named := Pattern.named_of_ne_empty edgeNew.ne_empty
  have created : Passes outer middle [.create (.relationship
      { source, direction := step.direction, name := edge, label := step.label,
        target := { name := target, label := none } })] (middle ++ [edge]) :=
    .create (List.Subset.trans bound kept) named (reached.lacks edgeNew)
  have edgeBound : edge ∈ middle ++ [edge] := List.mem_append_right _ (List.mem_singleton_self edge)
  have drawnBound : [draw.2] ⊆ middle ++ [edge] :=
    List.Subset.trans drawn (List.subset_append_left _ _)
  refine ⟨middle ++ [edge], passes.append (created.append (.cons ?_ .nil)),
    List.Subset.trans kept (List.subset_append_left _ _), Scope.single edgeBound, ?_⟩
  · intro assignment member
    rcases List.mem_cons.mp member with rfl | member
    · exact ⟨Scope.single edgeBound, drawnBound⟩
    · exact assign.bound edgeBound assignment member
  · exact ((reached.mono (by assumption)).append edgeNew.known).mono finish

theorem emitReport_eq (path edge count report : String) :
    Spans (emitReport path edge count report) fun _ _ clauses => ∃ parameter,
      clauses = [.carry [.as (.count (.variable edge)) count]] ++
        [.answer [.as (.report (.parameter parameter) (.variable count)) report]] := by
  refine .bind (.bindValue _ _) fun name => .pure fun _ _ _ bound => ?_
  obtain ⟨parameter, rfl⟩ := bound
  exact ⟨parameter, rfl⟩

/-- To count the matches of an edge leaves the count in scope. -/
theorem passes_count {outer scope : Scope} {edge : String} (count : String) (bound : edge ∈ scope) :
    Passes outer scope [.carry [.as (.count (.variable edge)) count]] [count] := by
  refine .carry ?_ rfl (List.pairwise_singleton _ count)
  intro column member
  rw [List.mem_singleton.mp member]
  exact ⟨Scope.single bound, rfl⟩

theorem emitIdentifier_variables (id : Option Value) :
    Spans (emitIdentifier id) fun _ _ expression => expression.variables = [] := by
  cases id with
  | none => exact .pure fun _ => rfl
  | some id =>
      refine (Spans.bindValue id "id").imp fun _ _ expression _ bound => ?_
      obtain ⟨name, rfl⟩ := bound
      rfl

/-- Clauses that create a node under a new variable, wherever some variables are to be kept: they
leave these, the new one and the reports in scope. -/
def CreatesIn (name : String) (kept : List String) (start last : Nat)
    (answer : List Clause × List String) : Prop :=
  ∀ outer scope, kept ⊆ scope → (kept ++ [name]).Nodup → name ∉ scope → name ≠ "" →
    KnownBy start (kept ++ [name]) → ∃ left, Passes outer scope answer.1 left ∧
      kept ++ [name] ⊆ left ∧ answer.2 ⊆ left ∧ KnownBy last left

mutual

theorem emitNode_creates (features : Features) (name : String) (kept : List String) :
    (node : NodePlan) → Spans (emitNode features name kept node) (CreatesIn name kept)
  | .mk label identifier id properties entries => by
      refine .bind (emitIdentifier_variables id) fun expression => ?_
      refine .bind (emitAssignments_assignTo name properties) fun assignments => ?_
      refine .bind (emitEntries_widen features name entries) fun nested => ?_
      refine .pure fun last third _ nestedWiden second _ assign first before bare => ?_
      intro outer scope inside distinct new some_ known
      have named := Pattern.named_of_ne_empty some_
      have bound : name ∈ scope ++ [name] := List.mem_append_right _ (List.mem_singleton_self name)
      have created : Passes outer scope [.create (.node { name, label := some label })]
          (scope ++ [name]) := .create (List.nil_subset _) named (.single new)
      have carried : Passes outer (scope ++ [name])
          [.carry ((kept ++ [name]).map Column.kept)] (kept ++ [name]) := by
        refine .carry ?_ (Column.keys_kept _) distinct
        intro column member
        obtain ⟨other, here, rfl⟩ := List.mem_map.mp member
        refine ⟨Scope.single ?_, rfl⟩
        rcases List.mem_append.mp here with there | there
        · exact List.mem_append_left _ (inside there)
        · exact List.mem_append_right _ there
      have set : Passes outer (scope ++ [name])
          [.set ((.property name identifier, expression) :: assignments)] (scope ++ [name]) := by
        refine .cons ?_ .nil
        intro assignment member
        rcases List.mem_cons.mp member with rfl | member
        · refine ⟨Scope.single bound, ?_⟩
          rw [bare]
          exact List.nil_subset _
        · exact assign.bound bound assignment member
      obtain ⟨left, passes, more, reports, reached⟩ := nestedWiden outer (kept ++ [name])
        (List.subset_append_right _ _) (known.mono (by omega))
      exact ⟨left, (created.append (set.append carried)).append passes, more, reports, reached⟩

theorem emitEntry_widen (features : Features) (source : String) : (entry : EntryPlan) →
    Spans (emitEntry features source entry) fun start last answer =>
      Widen [source] start last [answer.1] [answer.2]
  | .create step properties node => by
      refine .bind (.newName "create") fun target => ?_
      refine .bind (.newName "matches") fun report => ?_
      refine .bind (emitNode_creates features target [source] node) fun made => ?_
      refine .bind (emitRelationship_widen features source step target properties) fun related => ?_
      refine .pure fun last fourth finish relates third _ creates second _ reportNew first _
        targetNew => ?_
      refine Widen.subquery (reportNew.mono (by assumption) (Nat.le_refl _)) (by omega)
        fun outer known => ?_
      have new : target ∉ [source] := known.not_mem targetNew
      have distinct : ([source] ++ [target]).Nodup :=
        List.nodup_append.mpr ⟨List.pairwise_singleton _ _, List.pairwise_singleton _ _,
          fun one here other there same => new (by simp_all)⟩
      have reached : KnownBy third ([source] ++ [target]) :=
        (known.mono (by omega)).append (targetNew.known.mono (by omega))
      obtain ⟨middle, passes, kept, reports, knownMiddle⟩ :=
        creates outer [source] (List.Subset.refl _) distinct new targetNew.ne_empty reached
      obtain ⟨left, passesOn, keptOn, -, -⟩ := relates outer middle kept knownMiddle
      refine ⟨left, passes.append passesOn, ?_⟩
      rw [variables_concatenation]
      exact List.Subset.trans reports keptOn
  | .connect step path filter properties => by
      refine .bind (.newName "connect") fun target => ?_
      refine .bind (.newName "count") fun count => ?_
      refine .bind (.newName "matches") fun report => ?_
      refine .bind (emitConditions_variables target filter) fun conditions => ?_
      refine .bind (emitRelationship_widen features source step target properties) fun related => ?_
      refine .bind (emitReport_eq path related.2 count report) fun reported => ?_
      refine .pure fun last sixth finish answered fifth _ relates fourth _ uses third _ reportNew
        second _ countNew first _ targetNew => ?_
      obtain ⟨parameter, rfl⟩ := answered
      rw [← List.append_assoc (Clause.filtering conditions ++ related.1), ← List.cons_append]
      refine Widen.subquery (reportNew.mono (by omega) (Nat.le_refl _)) (by omega)
        fun outer known => ?_
      have new : target ∉ [source] := known.not_mem targetNew
      have found : Passes outer [source] [.find (.node { name := target, label := some step.target })]
          ([source] ++ [target]) := passes_findNode (some step.target) targetNew.ne_empty new
      have bound : target ∈ [source] ++ [target] := List.mem_append_right _ (List.mem_singleton_self _)
      have reached : KnownBy fifth ([source] ++ [target]) :=
        (known.mono (by omega)).append (targetNew.known.mono (by omega))
      obtain ⟨left, passes, -, edge, -⟩ := relates outer _ (List.Subset.refl _) reached
      refine ⟨[count], found.append (((passes_filtering bound uses).append passes).append
        (passes_count count (edge (List.mem_singleton_self _)))), ?_⟩
      exact List.Subset.refl _

theorem emitEntries_widen (features : Features) (source : String) : (entries : List EntryPlan) →
    Spans (emitEntries features source entries) fun start last answer =>
      Widen [source] start last answer.1 answer.2
  | [] => .pure fun _ => .nil (List.nil_subset _) (Nat.le_refl _)
  | entry :: rest => by
      refine .bind (emitEntry_widen features source entry) fun first => ?_
      refine .bind (emitEntries_widen features source rest) fun others => ?_
      exact .pure fun last middle _ later start _ here => here.append later

end

theorem emitConnectionUpdate_widen (source : String) (update : ConnectionUpdate) :
    Spans (emitConnectionUpdate source update) fun start last answer =>
      Widen [source] start last [answer.1] [answer.2] := by
  refine .bind (.newName "edge") fun edge => ?_
  refine .bind (.newName "node") fun target => ?_
  refine .bind (.newName "count") fun count => ?_
  refine .bind (.newName "matches") fun report => ?_
  refine .bind (emitConditions_variables target update.filter) fun conditions => ?_
  refine .bind (emitAssignments_assignTo edge update.properties) fun assignments => ?_
  refine .bind (emitReport_eq update.path edge count report) fun reported => ?_
  refine .pure fun last seventh finish answered sixth _ assign fifth _ uses fourth _ reportNew
    third _ countNew second _ targetNew first _ edgeNew => ?_
  obtain ⟨parameter, rfl⟩ := answered
  rw [← List.append_assoc (Clause.filtering conditions ++ Clause.setting assignments),
    ← List.cons_append]
  refine Widen.subquery (reportNew.mono (by omega) (Nat.le_refl _)) (by omega)
    fun outer known => ?_
  have found : Passes outer [source] [.find (update.step.pattern source edge target)]
      ([source] ++ [edge, target]) :=
    .find (List.Subset.refl _) (matched_both update.step source edgeNew targetNew)
      (known.lacks_pair edgeNew targetNew (Nat.le_refl _))
  have edgeBound : edge ∈ [source] ++ [edge, target] := by simp
  have targetBound : target ∈ [source] ++ [edge, target] := by simp
  refine ⟨[count], found.append (((passes_filtering targetBound uses).append
    (passes_setting assign edgeBound)).append (passes_count count edgeBound)), ?_⟩
  exact List.Subset.refl _

theorem emitConnectionUpdates_widen (source : String) (updates : List ConnectionUpdate) :
    Spans (emitConnectionUpdates source updates) fun start last answer =>
      Widen [source] start last answer.1 answer.2 := by
  induction updates with
  | nil => exact .pure fun _ => .nil (List.nil_subset _) (Nat.le_refl _)
  | cons update rest ih =>
      refine .bind (emitConnectionUpdate_widen source update) fun first => ?_
      refine .bind ih fun others => ?_
      exact .pure fun last middle _ later start _ here => here.append later

end GraphGateway.Statement
