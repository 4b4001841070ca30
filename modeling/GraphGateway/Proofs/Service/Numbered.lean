import GraphGateway.Proofs.Cypher.Counting
import GraphGateway.Proofs.Cypher.Ledger
import GraphGateway.Proofs.Statement.Drawn
import GraphGateway.Proofs.Statement.Sequence

/-!
Numbers of relationships.  In every statement that a served schema compiles, the relationships that
it creates and the numbers that it draws are in pairs, and the entries of a `create` list draw in the
order of the list.  Over a run of statements, the relationships of a type thus get increasing numbers,
unless a node type has the name of the counters' label: then a request can set the counters back.
-/
namespace GraphGateway.Service

open Cypher Request Schema Settings Statement
open Cypher.Clause (AreIdle DrawsInPairs NumbersOne Within)
open Cypher.Event (Numbers)
open Cypher.View (following)

/-- The subqueries of the entries of a `create` list follow one another in the order of the list, and
each of them creates one relationship with a number of its own. -/
def DrawsInOrder (basis : Basis) (parameters : Entries Value) (edge : Relationship)
    (items : List Value) (clauses : List Clause) : Prop :=
  ∃ source front made back, Within (front ++ made ++ back) clauses ∧
    List.Forall₂ (fun item clause => ∃ path entry body,
      basis.planCreate edge path item = .ok entry ∧
      ClauseOf basis.features source entry clause ∧ clause = .subquery [source] body ∧
      NumbersOne basis.features parameters edge.label body) items made

theorem drawsInOrder {basis : Basis} {field : RootField} {plan : Plan} {parameters : Entries Value}
    {edge : Relationship} {items : List Value} (lists : Lists basis.model field edge items)
    (planned : basis.plan field = .ok plan) (supply : Supply)
    (pairs : DrawsInPairs basis.features parameters (plan.emit basis.features supply).1) :
    DrawsInOrder basis parameters edge items (plan.emit basis.features supply).1 := by
  obtain ⟨source, front, made, back, within, each⟩ := lists.emitted basis.features planned supply
  refine ⟨source, front, made, back, within, Outcome.related_of_mem each ?_⟩
  rintro item - clause among ⟨path, entry, done, emitted⟩
  obtain ⟨body, pattern, rfl, member, labelled⟩ := emitted.relates
  have inside : Within body (front ++ made ++ back) :=
    .subquery (List.mem_append_left _ (List.mem_append_right _ among)) (.self body)
  obtain ⟨_, _, _, _, _, -, -, -, -, -, rfl⟩ := planCreate_ok_iff.mp done
  have numbers := pairs.numbersOne (inside.trans within) member
  rw [labelled] at numbers
  exact ⟨path, _, body, done, emitted, rfl, numbers⟩

namespace Served

/-- What the clauses for a root field create and draw. -/
structure Draws (served : Served) (field : RootField) (parameters : Entries Value)
    (clauses : List Clause) : Prop where
  idle : AreIdle clauses
  pairs : DrawsInPairs served.features parameters clauses
  order : ∀ edge items, Lists served.model field edge items →
    DrawsInOrder served.basis parameters edge items clauses

theorem draws (served : Served) {field : RootField} {plan : Plan}
    (planned : served.basis.plan field = .ok plan) :
    served.Draws field (plan.emit served.features {}).2.parameters
      (plan.emit served.features {}).1 := by
  have paired : Clause.Paired served.features (plan.emit served.features {}).2.parameters
      (fun _ => True) none (plan.emit served.features {}).1 :=
    (emit_paired served.features fun _ _ => trivial).run
  exact ⟨paired.tells, paired.drawsInPairs, fun edge items lists =>
    drawsInOrder lists planned {} paired.drawsInPairs⟩

/-- The parameters and the clauses of a statement that a served schema compiles. -/
def Compiles (served : Served) (parameters : Entries Value) (clauses : List Clause) : Prop :=
  ∃ field compiled plan, served.basis.compile field = .ok compiled ∧
    served.basis.plan field = .ok plan ∧ compiled.text = Clause.text clauses ∧
    compiled.parameters = parameters ∧ (plan.emit served.features {}).1 = clauses

/-- Where no node type has the name of the counters' label, statements write no such nodes. -/
theorem Compiles.paired {served : Served}
    (apart : ∀ node ∈ served.model.nodes, node.name ≠ served.features.sequenceLabel)
    {parameters : Entries Value} {clauses : List Clause}
    (compiles : served.Compiles parameters clauses) :
    Clause.Paired served.features parameters (· ≠ served.features.sequenceLabel) none clauses := by
  obtain ⟨field, compiled, plan, done, planned, -, rfl, rfl⟩ := compiles
  obtain ⟨_, plannedAgain, same⟩ := Outcome.bind_ok_iff.mp done
  cases planned.symm.trans plannedAgain
  cases same
  refine (emit_paired served.features fun label member => ?_).run
  obtain ⟨node, known, rfl⟩ := plan_labels planned member
  exact apart node known

/-- In each statement, relationships and draws are in pairs.  Over a run of statements, the
relationships of a type get the next numbers of its counter in the order in which they are created, so
that their numbers increase, unless a node type has the name of the counters' label. -/
theorem relationships_numbered (served : Served) :
    (∀ field compiled, served.basis.compile field = .ok compiled →
      ∃ plan, served.basis.plan field = .ok plan ∧
        compiled.text = Clause.text (plan.emit served.features {}).1 ∧
        served.Draws field compiled.parameters (plan.emit served.features {}).1) ∧
    ((∀ node ∈ served.model.nodes, node.name ≠ served.features.sequenceLabel) →
      ∀ {σ : Type} {db : Database σ} (ledger : db.Ledger served.features.sequenceLabel)
        {start state : σ}, Runs db served.Compiles start state →
      ∀ type number, ledger.Counts db type number start → ∃ (count : Nat) (events : List Event),
        ledger.journal state = ledger.journal start ++ events ∧
        Numbers served.features.sequenceProperty type events ((following number count).map .int) ∧
        (following number count).Pairwise (· < ·) ∧
        ledger.Counts db type (number + count) state) := by
  constructor
  · intro field compiled done
    obtain ⟨plan, planned, same⟩ := Outcome.bind_ok_iff.mp done
    cases same
    exact ⟨plan, planned, rfl, served.draws planned⟩
  · intro apart σ db ledger start state runs type number counts
    obtain ⟨events, written, numbered⟩ :=
      runs.advances ledger (fun _ _ compiles => compiles.paired apart) type
    obtain ⟨count, counting, numbers⟩ := numbered number counts
    exact ⟨count, events, written, numbers, View.following_increasing number count, counting⟩

section

variable {σ : Type} (served : Served) (db : Database σ)

/-- The state to which the statements of some root fields lead, if all of them compile. -/
def performed : List RootField → σ → Option σ
  | [], state => some state
  | field :: rest, state => do
      let plan ← (served.basis.plan field).toOption
      let (clauses, supply) := plan.emit served.features {}
      performed rest (Clause.result db supply.parameters clauses state).state

variable {served db}

theorem runs_performed {fields : List RootField} {start middle state : σ}
    (before : Runs db served.Compiles start middle)
    (done : served.performed db fields middle = some state) :
    Runs db served.Compiles start state := by
  induction fields generalizing middle with
  | nil => exact Option.some.inj done ▸ before
  | cons field rest ih =>
      obtain ⟨plan, planned, done⟩ := Option.bind_eq_some_iff.mp done
      have planned := Outcome.toOption_eq_some_iff.mp planned
      exact ih (.next before ⟨field, _, plan, Outcome.bind_ok_iff.mpr ⟨plan, planned, rfl⟩, planned,
        rfl, rfl, rfl⟩) done

end

end Served

/-- The numbers of the relationships of a type on a shelf, in the order in which these were made. -/
def numbersOn (key type : String) (shelf : Shelf) : List Int :=
  shelf.things.filterMap fun thing =>
    match thing.ends, thing.properties.get? key with
    | some _, some (.int number) => if thing.label = some type then some number else none
    | _, _ => none

/-- A database with counters under the default label. -/
def shelves : Database Shelf := Shelf.database "_RelationshipSequence"

/-- Two requests for a movie with an actor. -/
def stagings : List RootField :=
  [staging [("role", .text "Ripley")], staging [("role", .text "Ripley")]]

/-- The actor in such a request. -/
def stagedActor : Value :=
  .object
    [("node", .object [("name", .text "Sigourney")]),
     ("properties", .object [("role", .text "Ripley")])]

theorem stagings_lists :
    Lists stage.model (staging [("role", .text "Ripley")]) stageActors [stagedActor] := by
  obtain ⟨movie, found, alone⟩ := stage_movie
  exact .create found (List.mem_singleton_self _)
    (.field (alone ▸ List.mem_singleton_self _) rfl (.here rfl))

theorem relationships_numbered_staged :
    (∃ compiled plan, stage.basis.compile (staging [("role", .text "Ripley")]) = .ok compiled ∧
      stage.basis.plan (staging [("role", .text "Ripley")]) = .ok plan ∧
      DrawsInOrder stage.basis compiled.parameters stageActors [stagedActor]
        (plan.emit stage.features {}).1) ∧
    ∃ state, stage.performed shelves stagings {} = some state ∧
      numbersOn "_seq" "ACTED_IN" state = [1, 2] ∧
      ∃ count : Nat, Numbers "_seq" "ACTED_IN" state.journal ((following 0 count).map .int) ∧
        (following 0 count).Pairwise (· < ·) := by
  obtain ⟨statements, runs⟩ := Served.relationships_numbered stage
  constructor
  · obtain ⟨plan, planned, -⟩ := staging_planned
    have done : stage.basis.compile (staging [("role", .text "Ripley")]) = _ :=
      Outcome.bind_ok_iff.mpr ⟨plan, planned, rfl⟩
    obtain ⟨plan, planned, -, draws⟩ := statements _ _ done
    exact ⟨_, plan, done, planned, draws.order _ _ stagings_lists⟩
  · have performed : (stage.performed shelves stagings {}).map (numbersOn "_seq" "ACTED_IN") =
        some [1, 2] := by
      decide +kernel
    obtain ⟨state, done, numbers⟩ := Option.map_eq_some_iff.mp performed
    have features : stage.features = {} := congrArg Basis.features stage_basis
    rw [features, stage_model] at runs
    obtain ⟨count, events, written, numbered, increasing, -⟩ :=
      runs (by decide) (Shelf.ledger "_RelationshipSequence")
        (Served.runs_performed (.refl _) done) "ACTED_IN" 0 rfl
    refine ⟨state, done, numbers, count, ?_, increasing⟩
    have journal : state.journal = [] ++ events := written
    exact journal ▸ numbered

/-- Movies with actors, and nodes under the label of the counters. -/
def clashDocument : Graphql.Document :=
  [.object
    { name := "Person", directives := []
      fields := [⟨"name", .nonNull (.named "String"), []⟩] },
   .object
    { name := "Movie", directives := []
      fields :=
        [⟨"title", .nonNull (.named "String"), []⟩,
         ⟨"actors", .nonNull (.list (.nonNull (.named "Person"))),
          [⟨"relationship",
            [("type", .string "ACTED_IN" false), ("direction", .enum "IN")]⟩]⟩] },
   .object
    { name := "_RelationshipSequence", directives := []
      fields := [⟨"name", .nonNull (.named "String"), []⟩, ⟨"value", .named "Int", []⟩] }]

def clash : Served := (Served.ofDocument clashDocument {} []).toOption.get (by decide +kernel)

/-- A movie with an actor. -/
def clashMovie (key title name : String) : Graphql.Selection :=
  .field (some key) "createMovies"
    [("input", .object
      [("title", .string title false), ("actors", .object
        [("create", .list
          [.object [("node", .object [("name", .string name false)])]])])])] []
    [.field none "movies" [] [] [.field none "title" [] [] []]]

/-- A request that sets the counters back between two movies. -/
def clashRequest : Graphql.Document :=
  [.operation
    { kind := .mutation, name := none, declarations := [], directives := []
      selections :=
        [clashMovie "first" "Alien" "Sigourney",
         .field none "update_RelationshipSequences" [("update", .object [("value", .int "0")])] []
          [.field none "_RelationshipSequences" [] [] [.field none "value" [] [] []]],
         clashMovie "second" "Aliens" "Michael"] }]

def clashOperation : Operation :=
  (clash.surface.read clashRequest [] none).toOption.get (by decide +kernel)

theorem clash_reads : clash.Reads clashRequest [] none clashOperation :=
  .of_undeclared (by decide +kernel) (by decide +kernel) (Outcome.eq_ok_of_isSome _)

theorem exists_repeated_number_clash :
    Served.ofDocument clashDocument {} [] = .ok clash ∧
    clash.Reads clashRequest [] none clashOperation ∧
    ∃ state, clash.performed shelves clashOperation.fields {} = some state ∧
      Runs shelves clash.Compiles {} state ∧ numbersOn "_seq" "ACTED_IN" state = [1, 1] := by
  refine ⟨Outcome.eq_ok_of_isSome _, clash_reads, ?_⟩
  have performed : (clash.performed shelves clashOperation.fields {}).map
      (numbersOn "_seq" "ACTED_IN") = some [1, 1] := by
    decide +kernel
  obtain ⟨state, done, numbers⟩ := Option.map_eq_some_iff.mp performed
  exact ⟨state, done, Served.runs_performed (.refl _) done, numbers⟩

end GraphGateway.Service
