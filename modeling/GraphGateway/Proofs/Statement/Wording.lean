import GraphGateway.Proofs.Cypher.Supply
import GraphGateway.Proofs.Statement.PlanOutline

/-!
The wording of statements.  The clauses of a plan are those of its outline, and so are the names of
its parameters.  Requests of one outline thus become statements with one text: whatever leaf a value
has, it is nowhere in the text and decides nothing about it.
-/
namespace GraphGateway.Statement

open Cypher Request Schema Settings
open Naming (Together)

theorem emitCondition_together (owner : String) (entry : Assignment) :
    Together (emitCondition owner entry) (emitCondition owner entry.outline) := by
  unfold emitCondition
  rw [show entry.outline.value.isNull = entry.value.isNull from Value.isNull_outline entry.value]
  dsimp only
  split
  · exact .pure _
  · exact .bind (.bindValue _ _ _) fun wanted => .pure _

theorem emitConditions_together (owner : String) (entries : List Assignment) :
    Together (emitConditions owner entries)
      (emitConditions owner (entries.map Assignment.outline)) := by
  induction entries with
  | nil => exact .pure _
  | cons entry rest ih =>
      exact .bind (emitCondition_together owner entry) fun first => .bind ih fun others => .pure _

theorem emitAssignments_together (owner : String) (entries : List Assignment) :
    Together (emitAssignments owner entries)
      (emitAssignments owner (entries.map Assignment.outline)) := by
  induction entries with
  | nil => exact .pure _
  | cons entry rest ih =>
      exact .bind (.bindValue _ _ _) fun value => .bind ih fun others => .pure _

section

variable (features : Features)

theorem emitPrevious_together (source : String) (step : Step) (start : Option Expression) :
    Together (emitPrevious features source step start) (emitPrevious features source step start) := by
  cases start with
  | none => exact .pure _
  | some start => exact .bind (.newName _) fun edge => .bind (.newName _) fun previous => .pure _

theorem emitLimit_together (page : Page) :
    Together (emitLimit page.limit) (emitLimit page.outline.limit) := by
  obtain ⟨start, limit⟩ := page
  cases limit with
  | none => exact .pure _
  | some limit => exact .bind (.bindValue _ _ _) fun count => .pure _

theorem emitStart_together (page : Page) :
    Together (emitStart page.start) (emitStart page.outline.start) := by
  obtain ⟨start, limit⟩ := page
  cases start with
  | none => exact .pure _
  | some key => exact .bind (.bindValue _ _ _) fun start => .pure _

mutual

theorem emitField_together (source : String) : (plan : FieldPlan) →
    Together (emitField features source plan) (emitField features source plan.outline)
  | .property _ _ => .pure _
  | .related _ step fields => by
      refine .bind (.newName step.field) fun target => ?_
      refine .bind (.newName "var") fun _ => ?_
      refine .bind (emitFields_together target fields) fun _ => ?_
      exact .pure _
  | .connection _ step page sets => by
      refine .bind (emitStart_together page) fun start => ?_
      refine .bind (.newName "edge") fun edge => ?_
      refine .bind (.newName step.field) fun target => ?_
      refine .bind (.newName "edges") fun _ => ?_
      refine .bind (emitLimit_together page) fun _ => ?_
      refine .bind (emitSets_together edge target sets) fun _ => ?_
      refine .bind (emitPrevious_together features source step start) fun _ => ?_
      exact .pure _

theorem emitFields_together (source : String) : (plans : List FieldPlan) →
    Together (emitFields features source plans)
      (emitFields features source (FieldPlan.outlineAll plans))
  | [] => .pure _
  | plan :: rest => by
      refine .bind (emitField_together source plan) fun _ => ?_
      refine .bind (emitFields_together source rest) fun _ => ?_
      exact .pure _

theorem emitSets_together (edge target : String) : (sets : List EdgeSetPlan) →
    Together (emitSets features edge target sets)
      (emitSets features edge target (EdgeSetPlan.outlineAll sets))
  | [] => .pure _
  | .mk _ fields :: rest => by
      refine .bind (emitEdges_together edge target fields) fun _ => ?_
      refine .bind (emitSets_together edge target rest) fun _ => ?_
      exact .pure _

theorem emitEdges_together (edge target : String) : (plans : List EdgePlan) →
    Together (emitEdges features edge target plans)
      (emitEdges features edge target (EdgePlan.outlineAll plans))
  | [] => .pure _
  | .property _ _ :: rest => by
      refine .bind (emitEdges_together edge target rest) fun _ => ?_
      exact .pure _
  | .node _ fields :: rest => by
      refine .bind (emitFields_together target fields) fun _ => ?_
      refine .bind (emitEdges_together edge target rest) fun _ => ?_
      exact .pure _

end

theorem emitDraw_together (label : String) :
    Together (emitDraw features label) (emitDraw features label) := by
  refine .bind (.newName "sequence") fun _ => ?_
  refine .bind (.newName "seq") fun _ => ?_
  refine .bind (.bindValue _ _ "sequence_name") fun _ => ?_
  exact .pure _

theorem emitRelationship_together (source : String) (step : Step) (target : String)
    (properties : List Assignment) :
    Together (emitRelationship features source step target properties)
      (emitRelationship features source step target (properties.map Assignment.outline)) := by
  refine .bind (emitDraw_together features step.label) fun _ => ?_
  refine .bind (.newName "edge") fun edge => ?_
  refine .bind (emitAssignments_together edge properties) fun _ => ?_
  exact .pure _

theorem emitReport_together (path edge count report : String) :
    Together (emitReport path edge count report) (emitReport path edge count report) := by
  refine .bind (.bindValue _ _ "path") fun _ => ?_
  exact .pure _

theorem emitIdentifier_together (id : Option Value) :
    Together (emitIdentifier id) (emitIdentifier (id.map Value.outline)) := by
  cases id with
  | none => exact .pure _
  | some id => exact .bindValue _ _ "id"

mutual

theorem emitNode_together (name : String) (kept : List String) : (node : NodePlan) →
    Together (emitNode features name kept node) (emitNode features name kept node.outline)
  | .mk _ _ id properties entries => by
      refine .bind (emitIdentifier_together id) fun _ => ?_
      refine .bind (emitAssignments_together name properties) fun _ => ?_
      refine .bind (emitEntries_together name entries) fun _ => ?_
      exact .pure _

theorem emitEntry_together (source : String) : (entry : EntryPlan) →
    Together (emitEntry features source entry) (emitEntry features source entry.outline)
  | .create step properties node => by
      refine .bind (.newName "create") fun target => ?_
      refine .bind (.newName "matches") fun _ => ?_
      refine .bind (emitNode_together target [source] node) fun _ => ?_
      refine .bind (emitRelationship_together features source step target properties) fun _ => ?_
      exact .pure _
  | .connect step path filter properties => by
      refine .bind (.newName "connect") fun target => ?_
      refine .bind (.newName "count") fun count => ?_
      refine .bind (.newName "matches") fun report => ?_
      refine .bind (emitConditions_together target filter) fun _ => ?_
      refine .bind (emitRelationship_together features source step target properties) fun made => ?_
      refine .bind (emitReport_together path made.2 count report) fun _ => ?_
      exact .pure _

theorem emitEntries_together (source : String) : (entries : List EntryPlan) →
    Together (emitEntries features source entries)
      (emitEntries features source (EntryPlan.outlineAll entries))
  | [] => .pure _
  | entry :: rest => by
      refine .bind (emitEntry_together source entry) fun _ => ?_
      refine .bind (emitEntries_together source rest) fun _ => ?_
      exact .pure _

end

theorem emitConnectionUpdate_together (source : String) (update : ConnectionUpdate) :
    Together (emitConnectionUpdate source update) (emitConnectionUpdate source update.outline) := by
  refine .bind (.newName "edge") fun edge => ?_
  refine .bind (.newName "node") fun target => ?_
  refine .bind (.newName "count") fun count => ?_
  refine .bind (.newName "matches") fun report => ?_
  refine .bind (emitConditions_together target update.filter) fun _ => ?_
  refine .bind (emitAssignments_together edge update.properties) fun _ => ?_
  refine .bind (emitReport_together update.path edge count report) fun _ => ?_
  exact .pure _

theorem emitConnectionUpdates_together (source : String) (updates : List ConnectionUpdate) :
    Together (emitConnectionUpdates source updates)
      (emitConnectionUpdates source (updates.map ConnectionUpdate.outline)) := by
  induction updates with
  | nil => exact .pure _
  | cons update rest ih =>
      refine .bind (emitConnectionUpdate_together source update) fun _ => ?_
      refine .bind ih fun _ => ?_
      exact .pure _

theorem emitResponse_together (response : ResponsePlan) :
    Together (emitResponse features response) (emitResponse features response.outline) := by
  induction response with
  | nil => exact .pure _
  | cons entry rest ih =>
      refine .bind (emitFields_together features rootName entry.2) fun _ => ?_
      refine .bind ih fun _ => ?_
      exact .pure _

theorem emitAnswer_together (response : ResponsePlan) (columns : List String) :
    Together (emitAnswer features response columns)
      (emitAnswer features response.outline columns) := by
  refine .bind (emitResponse_together features response) fun _ => ?_
  exact .pure _

theorem emitVariant_together (id : Expression) (variant : VariantPlan) :
    Together (emitVariant features id variant) (emitVariant features id variant.outline) := by
  refine .bind (emitFields_together features rootName variant.fields) fun _ => ?_
  exact .pure _

theorem emitVariants_together (id : Expression) (variants : List VariantPlan) :
    Together (emitVariants features id variants)
      (emitVariants features id (variants.map VariantPlan.outline)) := by
  induction variants with
  | nil => exact .pure _
  | cons variant rest ih =>
      refine .bind (emitVariant_together features id variant) fun _ => ?_
      refine .bind ih fun _ => ?_
      rw [List.isEmpty_map]
      exact .pure _

theorem emitRoots_together (index : Nat) (nodes : List NodePlan) :
    Together (emitRoots features index nodes)
      (emitRoots features index (nodes.map NodePlan.outline)) := by
  induction nodes generalizing index with
  | nil => exact .pure _
  | cons node rest ih =>
      refine .bind (emitNode_together features _ [] node) fun _ => ?_
      refine .bind (ih (index + 1)) fun _ => ?_
      exact .pure _

/-- The clauses of a plan are those of its outline. -/
theorem emit_together (plan : Plan) :
    Together (plan.emit features) (plan.outline.emit features) := by
  cases plan with
  | list label filter fields =>
      refine .bind (emitConditions_together rootName filter) fun _ => ?_
      refine .bind (emitFields_together features rootName fields) fun _ => ?_
      exact .pure _
  | lookup id variants =>
      refine .bind (.bindValue _ _ "id") fun id => ?_
      refine .bind (emitVariants_together features id variants) fun _ => ?_
      exact .pure _
  | create nodes response =>
      refine .bind (emitRoots_together features 0 nodes) fun _ => ?_
      refine .bind (emitAnswer_together features response _) fun _ => ?_
      exact .pure _
  | update label filter assignments entries connections response =>
      refine .bind (emitConditions_together rootName filter) fun _ => ?_
      refine .bind (emitAssignments_together rootName assignments) fun _ => ?_
      refine .bind (emitEntries_together features rootName entries) fun _ => ?_
      refine .bind (emitConnectionUpdates_together rootName connections) fun _ => ?_
      refine .bind (emitAnswer_together features response _) fun _ => ?_
      exact .pure _

/-- Plans of one outline become statements that differ in the values of their parameters only. -/
theorem compiled_same {one other : Plan} (same : one.outline = other.outline) (first second : Shape) :
    (one.compiled features first).text = (other.compiled features second).text ∧
      (one.compiled features first).parameters.keys =
        (other.compiled features second).parameters.keys ∧
      (one.compiled features first).writes = (other.compiled features second).writes ∧
      (one.compiled features first).requireMatch =
        (other.compiled features second).requireMatch ∧
      (one.compiled features first).paths = (other.compiled features second).paths := by
  obtain ⟨clauses, supply⟩ := (emit_together features one).alike (.refl {})
  obtain ⟨otherClauses, otherSupply⟩ := (emit_together features other).alike (.refl {})
  rw [same] at clauses supply
  have writes : one.writes = other.writes := by
    rw [← Plan.writes_outline one, same, Plan.writes_outline]
  have paths : one.paths = other.paths := by
    rw [← Plan.paths_outline one, same, Plan.paths_outline]
  unfold Plan.compiled
  refine ⟨congrArg Clause.text (clauses.trans otherClauses.symm),
    supply.keys.trans otherSupply.keys.symm, writes, ?_, paths⟩
  exact congrArg (fun flag => flag && features.requireMatch) writes

end

/-- Two root fields with the same keys, names and nulls, and whatever leaves, become statements with
the same text: the leaves are values of parameters, which have the same names. -/
theorem compile_same_text (basis : Basis) {one other : RootField} {first second : Compiled}
    (same : one.outline = other.outline) (here : basis.compile one = .ok first)
    (there : basis.compile other = .ok second) :
    first.text = second.text ∧ first.parameters.keys = second.parameters.keys ∧
      first.writes = second.writes ∧ first.requireMatch = second.requireMatch ∧
      first.paths = second.paths := by
  obtain ⟨plan, planned, made⟩ := Outcome.bind_ok_iff.mp here
  obtain ⟨another, plannedAgain, madeAgain⟩ := Outcome.bind_ok_iff.mp there
  cases made
  cases madeAgain
  have outlines := plan_agree basis same plan another planned plannedAgain
  exact compiled_same basis.features outlines (.ofField one) (.ofField other)

/-- Movies with their actors and the roles of these. -/
def filming : Basis where
  model :=
    { nodes :=
        [{ name := "Movie"
           fields := [{ name := "title", type := { name := "String" }, stored := "title" }]
           relationships :=
            [{ name := "actors", type := { name := "Person", isList := true },
               relatedType := "Person", direction := .incoming, label := "ACTED_IN",
               properties := some "ActedIn" }] },
         { name := "Person"
           fields := [{ name := "name", type := { name := "String" }, stored := "name" }] }]
      properties :=
        [{ name := "ActedIn"
           fields :=
            [{ name := "role", type := { name := "String", nonNull := true },
               stored := "role" }] }] }
  features := {}
  codec := .ofSecret []

/-- A request for a movie with one actor, and for a page of its actors. -/
def filmed (title name role : String) (size : Int) : RootField :=
  .create "createMovies" "Movie"
    [.object
      [("title", .text title),
       ("actors", .object
        [("connect", .list [.object
          [("where", .object [("name", .text name)]),
           ("properties", .object [("role", .text role)])]])])]]
    { typeName := "CreateMoviesMutationResponse"
      fields :=
        [.nodes "movies"
          { typeName := "Movie"
            fields :=
              [.leaf ⟨"title", "title"⟩,
               .connection "cast" "actors" (.int size) .null
                [.edges "edges" [.leaf ⟨"role", "role"⟩]]] }] }

/-- Values with quotes, backquotes and clauses of their own. -/
def filmedSly : RootField := filmed "'\x7d) DETACH DELETE n //" "\\'" "\x60" 20

theorem compile_same_text_filmed :
    ∃ first second, filming.compile (filmed "Alien" "Sigourney" "Ripley" 2) = .ok first ∧
      filming.compile filmedSly = .ok second ∧
      first.text = second.text ∧ first.parameters.keys = second.parameters.keys := by
  have same : (filmed "Alien" "Sigourney" "Ripley" 2).outline = filmedSly.outline := rfl
  have here : filming.compile (filmed "Alien" "Sigourney" "Ripley" 2) = _ :=
    Outcome.eq_ok_of_isSome (by decide +kernel)
  have there : filming.compile filmedSly = _ := Outcome.eq_ok_of_isSome (by decide +kernel)
  obtain ⟨text, keys, -⟩ := compile_same_text filming same here there
  exact ⟨_, _, here, there, text, keys⟩

end GraphGateway.Statement
