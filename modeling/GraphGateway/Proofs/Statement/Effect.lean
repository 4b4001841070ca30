import Mathlib.Data.List.Forall2
import GraphGateway.Proofs.Cypher.Supply
import GraphGateway.Proofs.Cypher.Written
import GraphGateway.Statement.Compiled

/-!
Effects of plans.  A plan has a list of effects: nodes and relationships that it creates, and
updates.  Whatever the clauses of a plan write is one of its effects, with a parameter for each value
that the effect assigns.
-/
namespace GraphGateway.Statement

open Cypher Settings
open Naming (Ensures Holds)

inductive Effect where
  | node (label identifier : String) (id : Option Value) (properties : List Assignment)
  | relationship (step : Step) (properties : List Assignment)
  /-- An update of the node that a statement is about, or of relationships. -/
  | update (ofNode : Bool) (properties : List Assignment)

mutual

def NodePlan.effects : NodePlan → List Effect
  | .mk label identifier id properties entries =>
      .node label identifier id properties :: EntryPlan.effectsOf entries

def EntryPlan.effects : EntryPlan → List Effect
  | .create step properties node => .relationship step properties :: node.effects
  | .connect step _ _ properties => [.relationship step properties]

def EntryPlan.effectsOf : List EntryPlan → List Effect
  | [] => []
  | entry :: rest => entry.effects ++ EntryPlan.effectsOf rest

end

def Plan.effects : Plan → List Effect
  | .list _ _ _ => []
  | .lookup _ _ => []
  | .create nodes _ => nodes.flatMap NodePlan.effects
  | .update _ _ assignments entries connections _ =>
      .update true assignments :: (EntryPlan.effectsOf entries ++
        connections.map fun connection => .update false connection.properties)

theorem EntryPlan.mem_effectsOf {effect : Effect} {entries : List EntryPlan} :
    effect ∈ EntryPlan.effectsOf entries ↔ ∃ entry ∈ entries, effect ∈ entry.effects := by
  induction entries with
  | nil => simp [EntryPlan.effectsOf]
  | cons entry rest ih => simp [EntryPlan.effectsOf, ih]

/-- An assignment of a value to a stored property of an owner. -/
def Assigns (parameters : Entries Value) (owner : String) (entry : Assignment)
    (assignment : Expression × Expression) : Prop :=
  assignment.1 = .property owner entry.stored ∧ Holds entry.value assignment.2 parameters

/-- The identifier of a new node: the one that is given, or a fresh one. -/
def Identifies (parameters : Entries Value) (id : Option Value) (expression : Expression) : Prop :=
  match id with
  | some value => Holds value expression parameters
  | none => expression = .freshIdentifier

/-- What an effect is in a statement with some parameters. -/
inductive Effect.Done (parameters : Entries Value) : Effect → Written → Prop where
  | node {label name identifier : String} {id : Option Value} {properties : List Assignment}
      {expression : Expression} {assignments : List (Expression × Expression)}
      (named : name ≠ "") (identified : Identifies parameters id expression)
      (each : List.Forall₂ (Assigns parameters name) properties assignments) :
      Done parameters (.node label identifier id properties)
        ⟨some (.node { name, label := some label }),
          (.property name identifier, expression) :: assignments⟩
  | relationship {source edge target sequence drawn : String} {step : Step}
      {properties : List Assignment} {assignments : List (Expression × Expression)}
      (each : List.Forall₂ (Assigns parameters edge) properties assignments) :
      Done parameters (.relationship step properties)
        ⟨some (.relationship
            { source, direction := step.direction, name := edge, label := step.label,
              target := { name := target, label := none } }),
          (.property edge sequence, .variable drawn) :: assignments⟩
  | update {ofNode : Bool} {owner : String} {properties : List Assignment}
      {assignments : List (Expression × Expression)}
      (owned : if ofNode then owner = rootName else ∃ number, owner = numbered "edge" number)
      (each : List.Forall₂ (Assigns parameters owner) properties assignments) :
      Done parameters (.update ofNode properties) ⟨none, assignments⟩

/-- Clauses that write nothing but some effects. -/
def Performs (effects : List Effect) (clauses : List Clause) (parameters : Entries Value) : Prop :=
  ∀ written ∈ Clause.written clauses, ∃ effect ∈ effects, effect.Done parameters written

theorem emitAssignments_ensures (owner : String) (entries : List Assignment) :
    Ensures (emitAssignments owner entries) fun assignments parameters =>
      List.Forall₂ (Assigns parameters owner) entries assignments := by
  induction entries with
  | nil => exact .pure fun _ => .nil
  | cons entry rest ih =>
      refine .bind (.bindValue entry.value entry.field) fun value => ?_
      refine .bind ih fun others => ?_
      exact .pure fun _ assigned held => .cons ⟨rfl, held⟩ assigned

theorem emitConditions_ensures (owner : String) (entries : List Assignment) :
    Ensures (emitConditions owner entries) fun _ _ => True := by
  induction entries with
  | nil => exact .pure fun _ => trivial
  | cons entry rest ih =>
      have first : Ensures (emitCondition owner entry) fun _ _ => True := by
        unfold emitCondition
        dsimp only
        split
        · exact .pure fun _ => trivial
        · exact .bind (.bindValue _ _) fun _ => .pure fun _ _ => trivial
      exact .bind first fun _ => .bind ih fun _ => .pure fun _ _ _ => trivial

section

variable (features : Features)

section

variable {features}

theorem emitStart_ensures (start : Option Int) : Ensures (emitStart start) fun _ _ => True := by
  cases start with
  | none => exact .pure fun _ => trivial
  | some key => exact .bind (.bindValue _ _) fun _ => .pure fun _ _ => trivial

theorem emitLimit_reads (limit : Option Value) :
    Ensures (emitLimit limit) fun clauses _ => Clause.readsAll clauses = true := by
  cases limit with
  | none => exact .pure fun _ => rfl
  | some limit => exact .bind (.bindValue _ _) fun _ => .pure fun _ _ => rfl

end

theorem emitPrevious_reads (source : String) (step : Step) (start : Option Expression) :
    Ensures (emitPrevious features source step start) fun answer _ =>
      Clause.readsAll answer.1 = true := by
  cases start with
  | none => exact .pure fun _ => rfl
  | some start =>
      exact .bind (.newName _) fun _ => .bind (.newName _) fun _ => .pure fun _ _ _ => rfl

mutual

/-- The clauses of a field read. -/
theorem emitField_reads (source : String) : (plan : FieldPlan) →
    Ensures (emitField features source plan) fun answer _ => Clause.readsAll answer.1 = true
  | .property _ _ => .pure fun _ => rfl
  | .related _ step fields => by
      refine .bind (.newName step.field) fun target => ?_
      refine .bind (.newName "var") fun _ => ?_
      refine .bind (emitFields_reads target fields) fun _ => ?_
      exact .pure fun _ nested _ _ => by simp [Clause.readsAll, Clause.reads, nested]
  | .connection _ step page sets => by
      refine .bind (emitStart_ensures page.start) fun start => ?_
      refine .bind (.newName "edge") fun edge => ?_
      refine .bind (.newName step.field) fun target => ?_
      refine .bind (.newName "edges") fun _ => ?_
      refine .bind (emitLimit_reads page.limit) fun _ => ?_
      refine .bind (emitSets_reads edge target sets) fun _ => ?_
      refine .bind (emitPrevious_reads features source step start) fun _ => ?_
      exact .pure fun _ before nested limited _ _ _ _ => by
        simp [Clause.readsAll, Clause.reads, nested, limited, before]

theorem emitFields_reads (source : String) : (plans : List FieldPlan) →
    Ensures (emitFields features source plans) fun answer _ => Clause.readsAll answer.1 = true
  | [] => .pure fun _ => rfl
  | plan :: rest => by
      refine .bind (emitField_reads source plan) fun _ => ?_
      refine .bind (emitFields_reads source rest) fun _ => ?_
      exact .pure fun _ others first => by simp [first, others]

theorem emitSets_reads (edge target : String) : (sets : List EdgeSetPlan) →
    Ensures (emitSets features edge target sets) fun answer _ => Clause.readsAll answer.1 = true
  | [] => .pure fun _ => rfl
  | .mk _ fields :: rest => by
      refine .bind (emitEdges_reads edge target fields) fun _ => ?_
      refine .bind (emitSets_reads edge target rest) fun _ => ?_
      exact .pure fun _ others first => by simp [first, others]

theorem emitEdges_reads (edge target : String) : (plans : List EdgePlan) →
    Ensures (emitEdges features edge target plans) fun answer _ =>
      Clause.readsAll answer.1 = true
  | [] => .pure fun _ => rfl
  | .property _ _ :: rest => by
      refine .bind (emitEdges_reads edge target rest) fun _ => ?_
      exact .pure fun _ others => others
  | .node _ fields :: rest => by
      refine .bind (emitFields_reads target fields) fun _ => ?_
      refine .bind (emitEdges_reads edge target rest) fun _ => ?_
      exact .pure fun _ others first => by simp [first, others]

end

theorem emitAnswer_reads (response : ResponsePlan) (columns : List String) :
    Ensures (emitAnswer features response columns) fun clauses _ =>
      Clause.readsAll clauses = true := by
  have inner : Ensures (emitResponse features response) fun answer _ =>
      Clause.readsAll answer.1 = true := by
    induction response with
    | nil => exact .pure fun _ => rfl
    | cons entry rest ih =>
        refine .bind (emitFields_reads features rootName entry.2) fun _ => ?_
        exact .bind ih fun _ => .pure fun _ others first => by simp [first, others]
  exact .bind inner fun _ => .pure fun _ answered => by
    simp [answered, Clause.readsAll, Clause.reads]

theorem emitVariants_reads (id : Expression) (variants : List VariantPlan) :
    Ensures (emitVariants features id variants) fun clauses _ =>
      Clause.readsAll clauses = true := by
  induction variants with
  | nil => exact .pure fun _ => rfl
  | cons variant rest ih =>
      have first : Ensures (emitVariant features id variant) fun clauses _ =>
          Clause.readsAll clauses = true := by
        refine .bind (emitFields_reads features rootName variant.fields) fun _ => ?_
        exact .pure fun _ nested => by simp [nested, Clause.readsAll, Clause.reads]
      refine .bind first fun _ => .bind ih fun _ => .pure fun _ others begun => ?_
      split <;> simp [begun, others, Clause.readsAll, Clause.reads]

theorem emitIdentifier_ensures (id : Option Value) :
    Ensures (emitIdentifier id) fun expression parameters =>
      Identifies parameters id expression := by
  cases id with
  | none => exact .pure fun _ => rfl
  | some id => exact .bindValue id "id"

theorem emitReport_reads (path edge count report : String) :
    Ensures (emitReport path edge count report) fun clauses _ =>
      Clause.readsAll clauses = true :=
  .bind (.bindValue _ _) fun _ => .pure fun _ _ => rfl

section

variable {effects others : List Effect} {clauses rest : List Clause} {parameters : Entries Value}

theorem performs_of_reads (reading : Clause.readsAll clauses = true) :
    Performs effects clauses parameters := by
  intro written member
  rw [Clause.written_of_readsAll reading] at member
  cases member

theorem Performs.left (others : List Effect) (performs : Performs effects clauses parameters) :
    Performs (effects ++ others) clauses parameters := by
  intro written member
  obtain ⟨effect, inside, done⟩ := performs written member
  exact ⟨effect, List.mem_append_left _ inside, done⟩

theorem Performs.right (effects : List Effect) (performs : Performs others clauses parameters) :
    Performs (effects ++ others) clauses parameters := by
  intro written member
  obtain ⟨effect, inside, done⟩ := performs written member
  exact ⟨effect, List.mem_append_right _ inside, done⟩

/-- Lists of clauses perform what they both perform, if no creation is at the seam. -/
theorem Performs.append (performs : Performs effects clauses parameters)
    (performing : Performs effects rest parameters)
    (seam : (∀ clause ∈ clauses, clause.created? = none) ∨
      (rest.head?.map Clause.isSetting).getD false = false) :
    Performs effects (clauses ++ rest) parameters := by
  have split : Clause.written (clauses ++ rest) = Clause.written clauses ++ Clause.written rest :=
    seam.elim Clause.written_append_of_settled (Clause.written_append clauses)
  intro written member
  rw [split] at member
  exact (List.mem_append.mp member).elim (performs written) (performing written)

theorem Performs.quiet {clause : Clause} (quiet : clause.isQuiet = true)
    (performs : Performs effects rest parameters) : Performs effects (clause :: rest) parameters := by
  unfold Performs
  rw [Clause.written_quiet quiet]
  exact performs

theorem Performs.subquery {imports : List String} (performs : Performs effects clauses parameters)
    (performing : Performs effects rest parameters) :
    Performs effects (.subquery imports clauses :: rest) parameters := by
  intro written member
  rw [Clause.written_subquery] at member
  exact (List.mem_append.mp member).elim (performs written) (performing written)

theorem Performs.create {pattern : Pattern} {assignments : List (Expression × Expression)}
    {effect : Effect} (inside : effect ∈ effects)
    (done : effect.Done parameters ⟨some pattern, assignments⟩)
    (performs : Performs effects rest parameters) :
    Performs effects (.create pattern :: .set assignments :: rest) parameters := by
  intro written member
  rw [Clause.written_create] at member
  rcases List.mem_cons.mp member with rfl | later
  · exact ⟨effect, inside, done⟩
  · exact performs written later

/-- Assignments behind clauses that create nothing are an update. -/
theorem Performs.setting {assignments : List (Expression × Expression)} {effect : Effect}
    (inside : effect ∈ effects) (done : effect.Done parameters ⟨none, assignments⟩)
    (performs : Performs effects rest parameters) :
    Performs effects (Clause.setting assignments ++ rest) parameters := by
  unfold Clause.setting
  split
  · exact performs
  · intro written member
    rw [List.singleton_append, Clause.written_set] at member
    rcases List.mem_append.mp member with here | later
    · split at here
      · rw [List.mem_singleton.mp here]
        exact ⟨effect, inside, done⟩
      · cases here
    · exact performs written later

theorem Performs.filtering {conditions : List Expression}
    (performs : Performs effects rest parameters) :
    Performs effects (Clause.filtering conditions ++ rest) parameters := by
  unfold Performs
  rw [Clause.written_filtering]
  exact performs

end

/-- To draw a number writes nothing but the counter. -/
theorem emitDraw_ensures (label : String) :
    Ensures (emitDraw features label) fun answer _ =>
      ∃ body, answer.1 = .subquery [] body ∧ Clause.written body = [] := by
  refine .bind (.newName "sequence") fun counter => ?_
  refine .bind (.newName "seq") fun drawn => ?_
  refine .bind (.bindValue _ "sequence_name") fun name => ?_
  exact .pure fun _ _ _ _ => ⟨_, rfl, rfl⟩

/-- The clauses of a new relationship, with others behind them. -/
theorem emitRelationship_performs (source : String) (step : Step) (target : String)
    (properties : List Assignment) :
    Ensures (emitRelationship features source step target properties) fun answer parameters =>
      ∀ effects clauses, Performs effects clauses parameters → ∀ rest,
        Performs effects rest parameters → .relationship step properties ∈ effects →
          Performs effects (clauses ++ answer.1 ++ rest) parameters := by
  refine .bind (emitDraw_ensures features step.label) fun draw => ?_
  refine .bind (.newName "edge") fun edge => ?_
  refine .bind (emitAssignments_ensures edge properties) fun assignments => ?_
  refine .pure fun parameters assigned _ ⟨body, drawn, quiet⟩ => ?_
  intro effects clauses before rest performs inside
  rw [List.append_assoc, drawn]
  have drawing : Performs effects body parameters := by
    intro written member
    rw [quiet] at member
    cases member
  refine before.append ?_ (.inr rfl)
  exact drawing.subquery (.create inside (.relationship assigned) performs)

mutual

/-- The clauses of a node plan have its effects. -/
theorem emitNode_performs (name : String) (kept : List String) : (node : NodePlan) →
    Ensures (emitNode features name kept node) fun answer parameters =>
      name ≠ "" → Performs node.effects answer.1 parameters
  | .mk label identifier id properties entries => by
      refine .bind (emitIdentifier_ensures id) fun expression => ?_
      refine .bind (emitAssignments_ensures name properties) fun assignments => ?_
      refine .bind (emitEntries_performs name entries) fun nested => ?_
      refine .pure fun parameters ⟨performs, _⟩ assigned identified named => ?_
      refine .create (List.mem_cons_self ..) (.node named identified assigned) (.quiet rfl ?_)
      exact performs.right [_]

/-- The clause of an entry is a subquery that has the effects of the entry. -/
theorem emitEntry_performs (source : String) : (entry : EntryPlan) →
    Ensures (emitEntry features source entry) fun answer parameters =>
      ∃ body, answer.1 = .subquery [source] body ∧ Performs entry.effects body parameters
  | .create step properties node => by
      refine .bind (.newName "create") fun target => ?_
      refine .bind (.newName "matches") fun _ => ?_
      refine .bind (emitNode_performs target [source] node) fun made => ?_
      refine .bind (emitRelationship_performs features source step target properties) fun _ => ?_
      refine .pure fun parameters related created _ ⟨number, same⟩ => ⟨_, rfl, ?_⟩
      have made := created (same ▸ numbered_ne_empty "create" number)
      exact related _ _ (made.right [_]) _ (performs_of_reads rfl) (List.mem_cons_self ..)
  | .connect step path filter properties => by
      refine .bind (.newName "connect") fun target => ?_
      refine .bind (.newName "count") fun count => ?_
      refine .bind (.newName "matches") fun report => ?_
      refine .bind (emitConditions_ensures target filter) fun conditions => ?_
      refine .bind (emitRelationship_performs features source step target properties) fun made => ?_
      refine .bind (emitReport_reads path made.2 count report) fun reported => ?_
      refine .pure fun parameters reading related _ _ _ _ => ⟨_, rfl, .quiet rfl ?_⟩
      have found : Performs (EntryPlan.connect step path filter properties).effects
          (Clause.filtering conditions) parameters := by
        rw [← List.append_nil (Clause.filtering conditions)]
        exact .filtering (performs_of_reads rfl)
      exact related _ _ found _ (performs_of_reads reading) (List.mem_cons_self ..)

/-- The clauses of entries are subqueries. -/
theorem emitEntries_performs (source : String) : (entries : List EntryPlan) →
    Ensures (emitEntries features source entries) fun answer parameters =>
      Performs (EntryPlan.effectsOf entries) answer.1 parameters ∧
        ∀ clause ∈ answer.1, clause.created? = none
  | [] => .pure fun _ => ⟨performs_of_reads rfl, fun _ member => nomatch member⟩
  | entry :: rest => by
      refine .bind (emitEntry_performs source entry) fun first => ?_
      refine .bind (emitEntries_performs source rest) fun others => ?_
      refine .pure fun parameters ⟨performs, settled⟩ ⟨body, whole, performing⟩ => ?_
      dsimp only
      rw [whole]
      refine ⟨.subquery (performing.left _) (performs.right _), ?_⟩
      intro clause member
      rcases List.mem_cons.mp member with rfl | later
      · rfl
      · exact settled clause later

end

theorem emitConnectionUpdates_performs (source : String) (updates : List ConnectionUpdate) :
    Ensures (emitConnectionUpdates source updates) fun answer parameters =>
      Performs (updates.map fun update => .update false update.properties) answer.1 parameters ∧
        ∀ clause ∈ answer.1, clause.created? = none := by
  induction updates with
  | nil => exact .pure fun _ => ⟨performs_of_reads rfl, fun _ member => nomatch member⟩
  | cons update rest ih =>
      have first : Ensures (emitConnectionUpdate source update) fun answer parameters =>
          ∃ body, answer.1 = .subquery [source] body ∧
            Performs [.update false update.properties] body parameters := by
        refine .bind (.newName "edge") fun edge => ?_
        refine .bind (.newName "node") fun target => ?_
        refine .bind (.newName "count") fun count => ?_
        refine .bind (.newName "matches") fun report => ?_
        refine .bind (emitConditions_ensures target update.filter) fun conditions => ?_
        refine .bind (emitAssignments_ensures edge update.properties) fun assignments => ?_
        refine .bind (emitReport_reads update.path edge count report) fun reported => ?_
        refine .pure fun parameters reading assigned _ _ _ _ edged => ⟨_, rfl, .quiet rfl ?_⟩
        rw [List.append_assoc]
        exact .filtering (.setting (List.mem_cons_self ..) (.update edged assigned)
          (performs_of_reads reading))
      refine .bind first fun clause => ?_
      refine .bind ih fun others => ?_
      refine .pure fun parameters ⟨performs, settled⟩ ⟨body, whole, performing⟩ => ?_
      dsimp only
      rw [whole]
      refine ⟨.subquery (performing.left _) (performs.right [_]), ?_⟩
      intro clause member
      rcases List.mem_cons.mp member with rfl | later
      · rfl
      · exact settled clause later

theorem emitRoots_performs (index : Nat) (nodes : List NodePlan) :
    Ensures (emitRoots features index nodes) fun answer parameters =>
      Performs (nodes.flatMap NodePlan.effects) answer.1 parameters ∧
        ∀ clause ∈ answer.1, clause.created? = none := by
  induction nodes generalizing index with
  | nil => exact .pure fun _ => ⟨performs_of_reads rfl, fun _ member => nomatch member⟩
  | cons node rest ih =>
      refine .bind (emitNode_performs features _ [] node) fun made => ?_
      refine .bind (ih (index + 1)) fun others => ?_
      refine .pure fun parameters ⟨performs, settled⟩ created => ?_
      rw [List.flatMap_cons]
      have named : s!"{rootName}{index}" ≠ "" := by
        intro empty
        have chars := congrArg String.toList empty
        simp [rootName, String.toList_append] at chars
      refine ⟨.subquery ?_ (performs.right _), ?_⟩
      · exact ((created named).left _).append (performs_of_reads rfl) (.inr rfl)
      · intro clause member
        rcases List.mem_cons.mp member with rfl | later
        · rfl
        · exact settled clause later

/-- Whatever the clauses of a plan write is an effect of the plan. -/
theorem emit_performs (plan : Plan) :
    Ensures (plan.emit features) fun clauses parameters =>
      Performs plan.effects clauses parameters := by
  cases plan with
  | list label filter fields =>
      refine .bind (emitConditions_ensures rootName filter) fun conditions => ?_
      refine .bind (emitFields_reads features rootName fields) fun answer => ?_
      refine .pure fun parameters reading _ => .quiet rfl ?_
      rw [List.append_assoc]
      exact .filtering (performs_of_reads (by simp [reading, Clause.readsAll, Clause.reads]))
  | lookup id variants =>
      refine .bind (.bindValue _ "id") fun id => ?_
      refine .bind (emitVariants_reads features id variants) fun _ => ?_
      exact .pure fun parameters reading _ => .subquery (performs_of_reads reading)
        (performs_of_reads rfl)
  | create nodes response =>
      refine .bind (emitRoots_performs features 0 nodes) fun made => ?_
      refine .bind (emitAnswer_reads features response _) fun answer => ?_
      refine .pure fun parameters reading ⟨performs, settled⟩ => ?_
      rw [List.append_assoc]
      refine performs.append (performs_of_reads ?_) (.inl settled)
      simp [reading, Clause.readsAll, Clause.reads]
  | update label filter assignments entries connections response =>
      refine .bind (emitConditions_ensures rootName filter) fun conditions => ?_
      refine .bind (emitAssignments_ensures rootName assignments) fun assigned => ?_
      refine .bind (emitEntries_performs features rootName entries) fun nested => ?_
      refine .bind (emitConnectionUpdates_performs rootName connections) fun updates => ?_
      refine .bind (emitAnswer_reads features response _) fun answer => ?_
      refine .pure fun parameters reading ⟨updating, updatesSettled⟩ ⟨entering, settled⟩ set _ =>
        .quiet rfl ?_
      simp only [List.append_assoc, List.cons_append, List.nil_append]
      refine .filtering (.setting (List.mem_cons_self ..) (.update rfl set) (.quiet rfl ?_))
      refine Performs.append ((entering.left _).right [_]) ?_ (.inl settled)
      refine Performs.append ((updating.right _).right [_]) ?_ (.inl updatesSettled)
      exact performs_of_reads (by simp [reading, Clause.readsAll, Clause.reads])

end

end GraphGateway.Statement
