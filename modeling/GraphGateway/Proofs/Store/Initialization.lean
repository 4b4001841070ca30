import GraphGateway.Proofs.Schema.Created
import GraphGateway.Proofs.Entries
import GraphGateway.Proofs.Store.Trial
import GraphGateway.Store.Script

/-!
How a model's constraints and indices come into being.  Each statement is run once, in order, also
behind one that is refused.  Since the names that the statements give are all different, no refusal
is hidden by another statement: the names of all statements that were refused are told.
-/
namespace GraphGateway.Store

open Access
open Schema (createdName?)
open Settings (Connection Features)

variable {σ : Type}

namespace Server

variable (server : Server σ)

/-- What a server replies to statements that are run one after another: whether each of them is
accepted, and the state that they leave behind. -/
def runEach (state : σ) : List String → List (String × Bool) × σ
  | [] => ([], state)
  | statement :: rest =>
      let (reply, next) := server.runAlone statement state
      let (others, final) := runEach next rest
      ((statement, reply.isOk) :: others, final)

/-- The statements that a server refuses when they are run one after another. -/
def refused (state : σ) (statements : List String) : List String :=
  ((server.runEach state statements).1.filter (!·.2)).map Prod.fst

theorem runEach_statements (state : σ) (statements : List String) :
    (server.runEach state statements).1.map Prod.fst = statements := by
  induction statements generalizing state with
  | nil => rfl
  | cons statement rest ih =>
      rw [runEach]
      exact congrArg (statement :: ·) (ih _)

theorem refused_subset (state : σ) (statements : List String) :
    server.refused state statements ⊆ statements := by
  intro statement member
  obtain ⟨reply, kept, rfl⟩ := List.mem_map.mp member
  rw [← server.runEach_statements state statements]
  exact List.mem_map_of_mem (List.mem_of_mem_filter kept)

/-- Where nothing is refused, every statement is accepted. -/
theorem runEach_of_refused_eq_nil {state : σ} {statements : List String}
    (none_ : server.refused state statements = []) :
    (server.runEach state statements).1 = statements.map (·, true) := by
  have accepted : ∀ reply ∈ (server.runEach state statements).1, reply.2 = true := by
    intro reply member
    by_contra refusal
    have kept : reply ∈ (server.runEach state statements).1.filter (!·.2) :=
      List.mem_filter.mpr ⟨member, by simpa using refusal⟩
    rw [List.map_eq_nil_iff.mp none_] at kept
    cases kept
  conv_rhs => rw [← server.runEach_statements state statements, List.map_map]
  apply (List.map_id _).symm.trans
  apply List.map_congr_left
  intro reply member
  rw [← accepted reply member]
  rfl

/-- A server that always refuses the same statements refuses those of them that are run. -/
theorem refused_eq_filter {refuses : String → Bool}
    (always : ∀ statement state, (server.runAlone statement state).1.isOk = !refuses statement)
    (state : σ) (statements : List String) :
    server.refused state statements = statements.filter refuses := by
  induction statements generalizing state with
  | nil => rfl
  | cons statement rest ih =>
      have reply := always statement state
      have further := ih (server.runAlone statement state).2
      unfold refused at further ⊢
      rw [runEach, List.filter_cons, List.filter_cons, reply, Bool.not_not]
      split
      · exact congrArg (statement :: ·) further
      · exact further

end Server

section

variable (server : Server σ)

/-- The name that a statement is reported under. -/
def reportedName (statement : String) : String :=
  (createdName? statement).getD ""

/-- Statements with different names are each run once, and each reported by its name. -/
theorem run_createEach {done : Entries Bool} {statements : List String} (link : Link σ)
    (distinct : (done.keys ++ statements.map reportedName).Nodup) :
    (createEach server true done statements).run link =
      (.ok (done ++ (server.runEach link.state statements).1.map fun reply =>
          (reportedName reply.1, reply.2)),
        { link with
          state := (server.runEach link.state statements).2
          journal := link.journal ++ statements.map (Event.ran · none) }) := by
  induction statements generalizing done link with
  | nil => simp [createEach, Server.runEach, run_pure]
  | cons statement rest ih =>
      have unused : reportedName statement ∉ done.keys := by
        intro used
        exact List.disjoint_of_nodup_append distinct used (List.mem_cons_self ..)
      have apart : ∀ accepted, ((done.put (reportedName statement) accepted).keys ++
          rest.map reportedName).Nodup := by
        intro accepted
        rw [Entries.put_of_not_mem accepted unused]
        simpa [Entries.keys] using distinct
      unfold createEach
      rw [run_bind_ok (run_note _ _), run_bind_ok (run_replyTo _ _)]
      rcases reply : server.runAlone statement link.state with ⟨answer, next⟩
      have further := fun accepted => ih
        { link with state := next, journal := link.journal ++ [.ran statement none] }
        (apart accepted)
      simp only [Server.runEach, reply]
      cases answer with
      | ok _ =>
          refine (further true).trans ?_
          rw [Entries.put_of_not_mem true unused]
          simp [Except.isOk, Except.toBool]
      | error fault =>
          refine (further false).trans ?_
          rw [Entries.put_of_not_mem false unused]
          simp [Except.isOk, Except.toBool]

variable (model : Schema.Model) (features : Features) {link : Link σ} {driver : Nat} {opened : σ}

theorem reportedNames_eq :
    (model.constraints features ++ model.indices features).map reportedName =
      model.createdNames features := by
  have recovered := congrArg (List.map (Option.getD · "")) (model.createdName?_statements features)
  rw [List.map_map, List.map_map] at recovered
  exact recovered.trans (List.map_id _)

/-- In a session that opens, all statements are run. -/
theorem run_createConstraints (database : Option String)
    (opening : server.openSession driver link.state = (.ok (), opened)) :
    let statements := model.constraints features ++ model.indices features
    (createConstraints server (some driver) model features database true).run link =
      (.ok ((server.runEach opened statements).1.map fun reply => (reportedName reply.1, reply.2)),
        { link with
          state := (server.runEach opened statements).2
          journal := link.journal ++ .session [databaseOption database] ::
            (statements.map (Event.ran · none) ++ [.sessionClosed]) }) := by
  intro statements
  let noted : Link σ :=
    { link with journal := link.journal ++ [.session [databaseOption database]] }
  have distinct : (Entries.keys ([] : Entries Bool) ++ statements.map reportedName).Nodup := by
    rw [reportedNames_eq model features]
    exact model.createdNames_nodup features
  have asked := run_ask_ok noted opening
  unfold createConstraints inSession
  dsimp only
  rw [run_bind_ok (run_note _ _), run_bind_ok asked, run_endingWith_note,
    run_createEach server _ distinct]
  simp [noted, statements]

/-- Creating the constraints and indices of a model accounts for each of them.  There is one for each
node type, one for the counters and one for each relationship type; each has a name of its own, which
its statement tells; each statement is run once, and the names of those that the server refuses are
told, in order. -/
theorem run_createAllConstraints (connection : Connection) (connected : link.driver = some driver)
    (opening : server.openSession driver link.state = (.ok (), opened)) :
    let statements := model.constraints features ++ model.indices features
    ∃ names : List String,
      (statements = List.zipWith (Schema.Element.statement features) model.elements names ∧
        model.elements.length = names.length ∧ model.labels.Nodup ∧
        ∀ label, label ∈ model.labels ↔
          ∃ node ∈ model.nodes, ∃ relationship ∈ node.relationships, relationship.label = label) ∧
      (names.Nodup ∧ statements.map createdName? = names.map some) ∧
      (createAllConstraints server connection model features).run link =
        (match server.refused opened statements with
          | [] => .ok (names.map (·, true))
          | refused => .error (.store (.initialization
              s!"Failed to initialize {refused.length} schema elements"
              (refused.filterMap createdName?))),
          { link with
            state := (server.runEach opened statements).2
            journal := link.journal ++ .session [databaseOption connection.database] ::
              (statements.map (Event.ran · none) ++ [.sessionClosed]) }) ∧
      ∀ refuses : String → Bool,
        (∀ statement state, (server.runAlone statement state).1.isOk = !refuses statement) →
          server.refused opened statements = statements.filter refuses := by
  intro statements
  refine ⟨model.createdNames features,
    ⟨model.statements_eq features, (model.createdNames_madeFrom features).length_eq,
      model.labels_nodup, fun label => model.mem_labels⟩,
    ⟨model.createdNames_nodup features, model.createdName?_statements features⟩, ?_,
    fun refuses always => server.refused_eq_filter always opened statements⟩
  have known : (driverInUse : Access σ Nat).run link = (.ok driver, link) := by
    unfold driverInUse
    rw [run_bind_ok (run_get link), connected]
    rfl
  have created := run_createConstraints server model features connection.database opening
  -- What was not created are the statements that were refused, each by its name.
  have failed : (((server.runEach opened statements).1.map fun reply =>
      (reportedName reply.1, reply.2)).filter (!·.2)).map Prod.fst =
        (server.refused opened statements).map reportedName := by
    unfold Server.refused
    rw [List.filter_map, List.map_map, List.map_map]
    rfl
  unfold createAllConstraints
  rw [run_bind_ok known, run_bind_ok (run_outcome _ _), created]
  dsimp only
  rw [failed]
  cases refusals : server.refused opened statements with
  | nil =>
      rw [server.runEach_of_refused_eq_nil refusals, List.map_map, ← reportedNames_eq model features, List.map_map]
      rfl
  | cons statement rest =>
      have recovered : ∀ refusal ∈ statement :: rest,
          createdName? refusal = some (reportedName refusal) := by
        intro refusal member
        rw [← refusals] at member
        have among := List.mem_map_of_mem (f := createdName?) (server.refused_subset _ _ member)
        rw [model.createdName?_statements features] at among
        obtain ⟨name, -, same⟩ := List.mem_map.mp among
        unfold reportedName
        rw [← same]
        rfl
      have told : (statement :: rest).filterMap createdName? =
          (statement :: rest).map reportedName := by
        rw [List.filterMap_congr recovered]
        exact congrFun List.filterMap_eq_map _
      rw [List.map_cons]
      dsimp only
      rw [told, run_throw, List.length_cons, List.length_map]
      rfl

end

/-- A model with two labels that differ in case only. -/
def caseModel : Schema.Model where
  nodes := [{ name := "Movie" }, { name := "movie" }]

/-- A server that counts the statements it was asked to run, and refuses the second one. -/
def refusingSecond : Server Nat where
  makeDriver _ count := (.ok (), count)
  verifyDriver _ count := (.ok (), count)
  closeDriver _ count := (.ok (), count)
  openSession _ count := (.ok (), count)
  runAlone _ count := (if count = 1 then .error (.failure "refused") else .ok (), count + 1)
  run _ _ count := (.ok .null, count)
  commit count := (.ok (), count)

def caseLink : Link Nat where
  state := 0
  driver := some 1

theorem refused_refusingSecond (first second third : String) :
    refusingSecond.refused 0 [first, second, third] = [second] := rfl

theorem run_createAllConstraints_case :
    (caseLink.driver = some 1 ∧ refusingSecond.openSession 1 caseLink.state = (.ok (), 0)) ∧
    ((createAllConstraints refusingSecond {} caseModel {}).run caseLink).1 =
      .error (.store (.initialization "Failed to initialize 1 schema elements"
        ["movie_id_unique_2"])) := by
  have connected : caseLink.driver = some 1 := rfl
  have opening : refusingSecond.openSession 1 caseLink.state = (.ok (), 0) := rfl
  obtain ⟨names, -, -, ran, -⟩ :=
    run_createAllConstraints refusingSecond caseModel {} {} connected opening
  let second :=
    "CREATE CONSTRAINT movie_id_unique_2 IF NOT EXISTS FOR (n:`movie`) REQUIRE n.`id` IS UNIQUE"
  have statements : caseModel.constraints {} ++ caseModel.indices {} =
      ["CREATE CONSTRAINT movie_id_unique IF NOT EXISTS FOR (n:`Movie`) REQUIRE n.`id` IS UNIQUE",
       second,
       "CREATE CONSTRAINT relationshipsequence_name_unique IF NOT EXISTS " ++
         "FOR (s:`_RelationshipSequence`) REQUIRE s.name IS UNIQUE"] := by
    decide +kernel
  have message : s!"Failed to initialize {[second].length} schema elements" =
      "Failed to initialize 1 schema elements" := by
    decide +kernel
  have named : createdName? second = some "movie_id_unique_2" := by decide +kernel
  constructor
  · exact ⟨connected, opening⟩
  · rw [ran, statements, refused_refusingSecond]
    dsimp only
    rw [List.filterMap_cons_some named, List.filterMap_nil, message]

end GraphGateway.Store
