import GraphGateway.Proofs.Entries
import GraphGateway.Proofs.Request.Keyed
import GraphGateway.Proofs.Service.AllOrNothing
import GraphGateway.Proofs.Statement.Asked
import GraphGateway.Service.Recorder

/-!
The course of a request.  Its root fields are compiled, run and answered in three passes, which are
joined by the keys of the fields and by places in lists, and the names of root types take no part in
the second.  As the keys differ, every answer is made of the rows of the field's own statement.
-/
namespace GraphGateway.Service

open Request (Failure Operation RootField Surface)
open Statement (Compiled Report RowsReport matchedIn)
open Store (Interruption)

/-- A call of an executor. -/
structure Call where
  statements : List Compiled
  writes : Bool

/-- An executor beside the calls that it got. -/
def Executor.observed {σ : Type} (executor : Executor σ) : Executor (List Call × σ) :=
  fun statements writes => ExceptT.mk fun state =>
    let (result, after) := (executor statements writes).run state.2
    (result, state.1 ++ [⟨statements, writes⟩], after)

/-- The root fields that need a statement. -/
def asking (fields : List RootField) : List RootField :=
  fields.filter fun field => !field.isTypename

/-- The answers of root fields in their order, each made of the rows of its own statement.  Rows
behind those of the last statement are left alone. -/
inductive Answers (codec : Paging.CursorCodec) :
    List RootField → List Compiled → List Value → Entries Value → List ClientError → Prop where
  | nil (rows : List Value) : Answers codec [] [] rows [] []
  | typename {fields : List RootField} {statements : List Compiled} {rows : List Value}
      {data : Entries Value} {errors : List ClientError} (key typeName : String)
      (rest : Answers codec fields statements rows data errors) :
      Answers codec (.typename key typeName :: fields) statements rows
        ((key, .text typeName) :: data) errors
  | statement {field : RootField} {fields : List RootField} {statement : Compiled}
      {statements : List Compiled} {own : Value} {rows : List Value} {value : Value}
      {unmatched : List Value} {data : Entries Value} {errors : List ClientError}
      (asks : field.isTypename = false)
      (shaped : Statement.answer codec own statement.shape = .ok value)
      (lacking : statement.unmatched own = .ok unmatched)
      (rest : Answers codec fields statements rows data errors) :
      Answers codec (field :: fields) (statement :: statements) (own :: rows)
        ((field.key, value) :: data) (Served.unmatchedErrors field.key unmatched ++ errors)

theorem Answers.keys {codec : Paging.CursorCodec} {fields : List RootField}
    {statements : List Compiled} {rows : List Value} {data : Entries Value}
    {errors : List ClientError} (answers : Answers codec fields statements rows data errors) :
    data.keys = fields.map RootField.key := by
  induction answers with
  | nil rows => rfl
  | typename key typeName rest ih => exact congrArg (key :: ·) ih
  | statement asks shaped lacking rest ih => exact congrArg (RootField.key _ :: ·) ih

/-- Steps with answers that are taken in one after another may all be taken before. -/
theorem foldlM_eq_mapM {ε α ι τ : Type} (step : ι → Except ε α) (take : τ → ι → α → τ)
    (items : List ι) (start : τ) :
    items.foldlM (fun sofar item => do
        let value ← step item
        pure (take sofar item value)) start =
      (fun values => (items.zip values).foldl (fun sofar pair => take sofar pair.1 pair.2) start) <$>
        items.mapM step := by
  induction items generalizing start with
  | nil => rfl
  | cons item rest ih =>
      rw [List.foldlM_cons, List.mapM_cons]
      cases step item with
      | error fault => rfl
      | ok value =>
          refine (ih (take start item value)).trans ?_
          cases rest.mapM step <;> rfl

theorem map_fst_zip_sublist {α β : Type} (firsts : List α) (seconds : List β) :
    ((firsts.zip seconds).map Prod.fst).Sublist firsts := by
  induction firsts generalizing seconds with
  | nil => exact .slnil
  | cons first rest ih =>
      cases seconds with
      | nil => exact List.nil_sublist _
      | cons second others => exact (ih others).cons_cons first

/-- What is put under keys that differ stands at the keys in order. -/
theorem foldl_put {α ι : Type} (key : ι → String) {items : List ι}
    (distinct : (items.map key).Nodup) (values : List α) :
    (items.zip values).foldl (fun (sofar : Entries α) pair => sofar.put (key pair.1) pair.2) [] =
      (items.map key).zip values := by
  have apart : (((items.map key).zip values).map Prod.fst).Nodup :=
    distinct.sublist (map_fst_zip_sublist ..)
  rw [← Entries.ofPairs_eq apart, List.zip_map_left, Entries.ofPairs, List.foldl_map]
  rfl

/-- Where lists are appended beside what is put, they end up one after another. -/
theorem foldl_put_append {α β ι : Type} (key : ι → String) {items : List ι}
    (distinct : (items.map key).Nodup) {answers : List (α × List β)}
    (count : items.length = answers.length) :
    (items.zip answers).foldl (fun (sofar : Entries α × List β) pair =>
        (sofar.1.put (key pair.1) pair.2.1, sofar.2 ++ pair.2.2)) ([], []) =
      ((items.map key).zip (answers.map Prod.fst), answers.flatMap Prod.snd) := by
  apply Prod.ext
  · have apart : ((items.zip answers).foldl (fun (sofar : Entries α × List β) pair =>
        (sofar.1.put (key pair.1) pair.2.1, sofar.2 ++ pair.2.2)) ([], [])).1 =
        (items.zip answers).foldl (fun (sofar : Entries α) pair =>
          sofar.put (key pair.1) pair.2.1) [] :=
      (List.foldl_hom Prod.fst fun _ _ => rfl).symm
    rw [apart, ← foldl_put key distinct, List.zip_map_right, List.foldl_map]
    rfl
  · have apart : ((items.zip answers).foldl (fun (sofar : Entries α × List β) pair =>
        (sofar.1.put (key pair.1) pair.2.1, sofar.2 ++ pair.2.2)) ([], [])).2 =
        (items.zip answers).foldl (fun (sofar : List β) pair => sofar ++ pair.2.2) [] :=
      (List.foldl_hom Prod.snd fun _ _ => rfl).symm
    have seconds : (items.zip answers).map Prod.snd = answers :=
      List.map_snd_zip (Nat.le_of_eq count.symm)
    calc _ = ((items.zip answers).map fun pair => pair.2.2).flatten := by
          rw [apart, List.foldl_append_eq_append, List.nil_append]
      _ = (((items.zip answers).map Prod.snd).map Prod.snd).flatten := by
          rw [List.map_map]
          rfl
      _ = (answers.map Prod.snd).flatten := by rw [seconds]

section

variable {served : Served} {fields : List RootField} {statements : List Compiled}

theorem asking_cons {field : RootField} (asks : field.isTypename = false) :
    asking (field :: fields) = field :: asking fields := by
  unfold asking
  rw [List.filter_cons, asks]
  rfl

theorem mem_asking {field : RootField} :
    field ∈ asking fields ↔ field ∈ fields ∧ field.isTypename = false := by
  unfold asking
  rw [List.mem_filter, Bool.not_eq_true']

theorem asking_keys_sublist (fields : List RootField) :
    ((asking fields).map RootField.key).Sublist (fields.map RootField.key) :=
  List.filter_sublist.map _

/-- One statement for each field that asks, in their order. -/
theorem compileEach_ok_iff :
    served.compileEach fields = .ok statements ↔
      List.Forall₂ (fun field statement => served.basis.compile field = .ok statement)
        (asking fields) statements :=
  Outcome.mapM_ok_iff

/-- Where each field that asks compiles, all of them do. -/
theorem compileEach_total (total : ∀ field ∈ fields, field.isTypename = false →
    ∃ statement, served.basis.compile field = .ok statement) :
    ∃ statements, served.compileEach fields = .ok statements := by
  have same : List.Forall₂ Eq (asking fields) (asking fields) := List.forall₂_same.mpr fun _ _ => rfl
  obtain ⟨statements, done, -⟩ : ∃ statements,
      (asking fields).mapM served.basis.compile = .ok statements ∧
        List.Forall₂ (fun (_ : Compiled) (_ : RootField) => True) statements (asking fields) := by
    refine Outcome.mapM_ok_of_related same ?_
    rintro field _ member rfl
    obtain ⟨inside, asks⟩ := mem_asking.mp member
    obtain ⟨statement, compiled⟩ := total field inside asks
    exact ⟨statement, compiled, trivial⟩
  exact ⟨statements, done⟩

/-- A field that does not compile fails the whole operation, with the failure of some such field. -/
theorem compileEach_failed {field : RootField} (member : field ∈ fields)
    (asks : field.isTypename = false) {failure : Failure}
    (failed : served.basis.compile field = .error failure) :
    ∃ first, served.compileEach fields = .error first ∧
      ∃ other ∈ fields, other.isTypename = false ∧ served.basis.compile other = .error first := by
  cases compiled : served.compileEach fields with
  | ok statements =>
      have asked : field ∈ asking fields := mem_asking.mpr ⟨member, asks⟩
      obtain ⟨statement, -, done⟩ := Outcome.mapM_ok_of_mem compiled asked
      rw [failed] at done
      cases done
  | error first =>
      have only : Outcome.Only (fun fault => ∃ other ∈ fields, other.isTypename = false ∧
          served.basis.compile other = .error fault) (served.compileEach fields) := by
        apply Outcome.Only.mapM
        intro other asked fault same
        obtain ⟨inside, unnamed⟩ := mem_asking.mp asked
        exact ⟨other, inside, unnamed, same⟩
      exact ⟨first, rfl, only first compiled⟩

/-- Under keys that differ, each statement stands at the key of its field. -/
theorem compileAll_eq (distinct : (fields.map RootField.key).Nodup) :
    served.compileAll fields =
      (((asking fields).map RootField.key).zip ·) <$> served.compileEach fields := by
  have skipping : served.compileAll fields =
      (asking fields).foldlM (fun (sofar : Entries Compiled) field => do
        let statement ← served.basis.compile field
        pure (sofar.put field.key statement)) [] := by
    unfold Served.compileAll asking
    rw [List.foldlM_filter]
    congr 1
    funext sofar field
    cases field.isTypename <;> rfl
  have asked : ((asking fields).map RootField.key).Nodup :=
    distinct.sublist (asking_keys_sublist fields)
  rw [skipping, foldlM_eq_mapM served.basis.compile fun sofar field statement =>
    Entries.put sofar field.key statement]
  simp only [foldl_put RootField.key asked]
  rfl

end

/-- A map has at the keys of the fields that ask what a list has at their places. -/
def AtPlaces {α : Type} (fields : List RootField) (items : List α) (map : Entries α) : Prop :=
  ∀ key ∈ fields.map RootField.key,
    map.get? key = Entries.get? (((asking fields).map RootField.key).zip items) key

namespace AtPlaces

variable {α : Type} {field : RootField} {fields : List RootField} {items : List α} {item : α}
  {map : Entries α}

theorem of_typename {key typeName : String}
    (places : AtPlaces (.typename key typeName :: fields) items map) :
    AtPlaces fields items map :=
  fun key member => places key (List.mem_cons_of_mem _ member)

theorem here (asks : field.isTypename = false)
    (places : AtPlaces (field :: fields) (item :: items) map) : map.get? field.key = some item := by
  rw [places _ (List.mem_cons_self ..), asking_cons asks, List.map_cons, List.zip_cons_cons,
    Entries.get?_cons, if_pos rfl]

theorem missing (places : AtPlaces (field :: fields) [] map) : map.get? field.key = none := by
  rw [places _ (List.mem_cons_self ..), List.zip_nil_right]
  rfl

theorem rest (asks : field.isTypename = false)
    (distinct : ((field :: fields).map RootField.key).Nodup)
    (places : AtPlaces (field :: fields) (item :: items) map) : AtPlaces fields items map := by
  intro key member
  have apart : field.key ≠ key := by
    rintro rfl
    exact (List.nodup_cons.mp distinct).1 member
  rw [places key (List.mem_cons_of_mem _ member), asking_cons asks, List.map_cons,
    List.zip_cons_cons, Entries.get?_cons, if_neg apart]

end AtPlaces

section

variable {served : Served} {found : Entries Compiled} {given : Entries Value}

/-- The answer of a field that asks, from the rows under its key if there are any. -/
def answerRows (served : Served) (key : String) (statement : Compiled) :
    Option Value → Except Failure (Value × List ClientError)
  | some own => do
      let value ← Statement.answer served.codec own statement.shape
      let unmatched ← statement.unmatched own
      pure (value, Served.unmatchedErrors key unmatched)
  | none => .error (.missingKey key)

/-- A field that asks is answered from the rows under its key. -/
theorem answerRoot_ok_iff {field : RootField} (asks : field.isTypename = false)
    {statement : Compiled} (stated : found.get? field.key = some statement)
    {answered : Value × List ClientError} :
    served.answerRoot found given field = .ok answered ↔
      ∃ own value unmatched, given.get? field.key = some own ∧
        Statement.answer served.codec own statement.shape = .ok value ∧
        statement.unmatched own = .ok unmatched ∧
        answered = (value, Served.unmatchedErrors field.key unmatched) := by
  have opened : served.answerRoot found given field =
      answerRows served field.key statement (given.get? field.key) := by
    cases field with
    | typename key typeName => cases asks
    | _ =>
        simp only [Served.answerRoot, stated]
        generalize given.get? _ = held
        cases held <;> rfl
  rw [opened]
  cases held : given.get? field.key with
  | none => simp [answerRows]
  | some own =>
      simp only [answerRows, Outcome.bind_ok_iff, Outcome.pure_ok_iff, Option.some.injEq]
      constructor
      · rintro ⟨value, shaped, unmatched, lacking, rfl⟩
        exact ⟨own, value, unmatched, rfl, shaped, lacking, rfl⟩
      · rintro ⟨_, value, unmatched, rfl, shaped, lacking, rfl⟩
        exact ⟨value, shaped, unmatched, lacking, rfl⟩

/-- Where the maps have what the fields to come need at their places, the answers of the fields are
those from their own rows. -/
theorem mapM_answerRoot {fields : List RootField} (distinct : (fields.map RootField.key).Nodup)
    {statements : List Compiled} {rows : List Value}
    (one : (asking fields).length = statements.length) (stated : AtPlaces fields statements found)
    (held : AtPlaces fields rows given) {data : Entries Value} {errors : List ClientError} :
    (∃ answers, fields.mapM (served.answerRoot found given) = .ok answers ∧
        data = (fields.map RootField.key).zip (answers.map Prod.fst) ∧
        errors = answers.flatMap Prod.snd) ↔
      Answers served.codec fields statements rows data errors := by
  induction fields generalizing statements rows data errors with
  | nil =>
      cases List.eq_nil_of_length_eq_zero one.symm
      constructor
      · rintro ⟨answers, done, rfl, rfl⟩
        cases done
        exact .nil rows
      · intro answers
        cases answers
        exact ⟨[], rfl, rfl, rfl⟩
  | cons field rest ih =>
      have others : (rest.map RootField.key).Nodup := (List.nodup_cons.mp distinct).2
      simp only [List.mapM_cons, Outcome.bind_ok_iff, Outcome.pure_ok_iff]
      cases asks : field.isTypename with
      | true =>
          cases field with
          | typename key typeName =>
              have later (data : Entries Value) (errors : List ClientError) :
                  _ ↔ Answers served.codec rest statements rows data errors :=
                ih others one stated.of_typename held.of_typename
              constructor
              · rintro ⟨_, ⟨first, done, answers, last, rfl⟩, rfl, rfl⟩
                cases done
                exact .typename key typeName
                  ((later _ _).mp ⟨answers, last, rfl, rfl⟩)
              · intro answers
                cases answers with
                | statement asked => cases asked
                | typename _ _ answers =>
                    obtain ⟨more, last, rfl, rfl⟩ := (later _ _).mpr answers
                    exact ⟨_, ⟨_, rfl, more, last, rfl⟩, rfl, rfl⟩
          | _ => cases asks
      | false =>
          rw [asking_cons asks] at one
          cases statements with
          | nil => cases one
          | cons statement statements =>
              have root := fun answered =>
                @answerRoot_ok_iff served found given field asks statement (stated.here asks) answered
              cases rows with
              | nil =>
                  constructor
                  · rintro ⟨_, ⟨first, done, -⟩, -⟩
                    obtain ⟨own, -, -, has, -⟩ := (root first).mp done
                    rw [held.missing] at has
                    cases has
                  · intro answers
                    cases answers with
                    | typename => cases asks
              | cons own rows =>
                  have later (data : Entries Value) (errors : List ClientError) :
                      _ ↔ Answers served.codec rest statements rows data errors :=
                    ih others (Nat.succ.inj one) (stated.rest asks distinct) (held.rest asks distinct)
                  constructor
                  · rintro ⟨_, ⟨first, done, answers, last, rfl⟩, rfl, rfl⟩
                    obtain ⟨_, value, unmatched, has, shaped, lacking, rfl⟩ := (root first).mp done
                    rw [held.here asks] at has
                    cases has
                    exact .statement asks shaped lacking ((later _ _).mp ⟨answers, last, rfl, rfl⟩)
                  · intro answers
                    cases answers with
                    | typename => cases asks
                    | statement _ shaped lacking answers =>
                        obtain ⟨more, last, rfl, rfl⟩ := (later _ _).mpr answers
                        have done := (root _).mpr ⟨own, _, _, held.here asks, shaped, lacking, rfl⟩
                        exact ⟨_, ⟨_, done, more, last, rfl⟩, rfl, rfl⟩

/-- Answers under keys that differ stand at the keys in order, and so do their errors. -/
theorem answerAll_eq {fields : List RootField} (distinct : (fields.map RootField.key).Nodup) :
    served.answerAll found given fields =
      (fun answers => ((fields.map RootField.key).zip (answers.map Prod.fst),
        answers.flatMap Prod.snd)) <$> fields.mapM (served.answerRoot found given) := by
  have taken := foldlM_eq_mapM (served.answerRoot found given)
    (fun (sofar : Entries Value × List ClientError) field answer =>
      (sofar.1.put field.key answer.1, sofar.2 ++ answer.2)) fields ([], [])
  refine taken.trans ?_
  cases done : fields.mapM (served.answerRoot found given) with
  | error failure => rfl
  | ok answers =>
      have count : fields.length = answers.length := (Outcome.mapM_ok_iff.mp done).length_eq
      exact congrArg Except.ok (foldl_put_append RootField.key distinct count)

end

/-- Whether the statement of a root field changes the database. -/
def writing : RootField → Bool
  | .create _ _ _ _ => true
  | .update _ _ _ _ _ _ => true
  | _ => false

theorem compile_writes {basis : Statement.Basis} {field : RootField} {statement : Compiled}
    (compiled : basis.compile field = .ok statement) : statement.writes = writing field := by
  obtain ⟨plan, planned, done⟩ := Outcome.bind_ok_iff.mp compiled
  cases Outcome.pure_ok_iff.mp done
  change plan.writes = writing field
  have told := Statement.plan_told planned
  cases field with
  | typename key typeName => exact told.elim
  | list key typeName selection filter =>
      obtain ⟨_, _, _, -, rfl⟩ := told
      rfl
  | lookup key id variants =>
      obtain ⟨_, rfl⟩ := told
      rfl
  | create key typeName inputs response =>
      obtain ⟨_, _, _, -, -, rfl⟩ := told
      rfl
  | update key typeName response filter assignments connections =>
      obtain ⟨_, _, _, _, _, _, _, -, -, -, -, -, -, rfl⟩ := told
      rfl

/-- Whether what a root field does changes the database. -/
def changing : Request.RootAction → Bool
  | .create _ | .update _ => true
  | .lookup | .list _ => false

/-- Queries only read, and mutations only write. -/
theorem action?_changing {surface : Surface} {kind : Graphql.OperationKind} {name : String}
    {action : Request.RootAction} (acts : surface.action? kind name = some action) :
    changing action = (kind == .mutation) := by
  unfold Surface.action? at acts
  cases kind with
  | query =>
      dsimp only at acts
      split at acts
      · cases acts
        rfl
      · split at acts
        · cases acts
          rfl
        · cases acts
  | mutation =>
      dsimp only at acts
      split at acts
      · cases acts
        rfl
      · cases acts
        rfl
      · cases acts
  | subscription => cases acts

/-- A root field stands under its key and writes if it belongs to a mutation. -/
theorem rootField_told {context : Request.Context} {kind : Graphql.OperationKind}
    {root : Graphql.TypeDefinition} {key : String} {selected : List Request.Selected}
    {field : RootField} (read : context.rootField kind root key selected = .ok field) :
    field.key = key ∧ (field.isTypename = false → writing field = (kind == .mutation)) := by
  unfold Request.Context.rootField at read
  dsimp only at read
  split at read
  · cases read
    exact ⟨rfl, fun asks => nomatch asks⟩
  · split at read
    · cases read
    · next action acts =>
        rw [← action?_changing acts]
        obtain ⟨given, -, read⟩ := Outcome.bind_ok_iff.mp read
        cases action with
        | lookup =>
            dsimp only at read
            split at read
            · cases read
            · obtain ⟨variants, -, made⟩ := Outcome.bind_ok_iff.mp read
              cases made
              exact ⟨rfl, fun _ => rfl⟩
        | list node =>
            obtain ⟨selection, -, made⟩ := Outcome.bind_ok_iff.mp read
            cases made
            exact ⟨rfl, fun _ => rfl⟩
        | create node =>
            obtain ⟨response, -, read⟩ := Outcome.bind_ok_iff.mp read
            obtain ⟨inputs, -, made⟩ := Outcome.bind_ok_iff.mp read
            cases made
            exact ⟨rfl, fun _ => rfl⟩
        | update node =>
            obtain ⟨response, -, made⟩ := Outcome.bind_ok_iff.mp read
            cases made
            exact ⟨rfl, fun _ => rfl⟩

/-- The root fields of an operation have different keys, and all or none of them write. -/
theorem read_told {surface : Surface} {document : Graphql.Document} {bindings : Entries Value}
    {wanted : Option String} {operation : Operation}
    (read : surface.read document bindings wanted = .ok operation) :
    (operation.fields.map RootField.key).Nodup ∧
      ∀ field ∈ operation.fields, field.isTypename = false →
        writing field = operation.isMutation := by
  unfold Surface.read at read
  split at read
  · unfold Request.Context.operation at read
    split at read
    · cases read
    · split at read
      · cases read
      · obtain ⟨collected, gathered, read⟩ := Outcome.bind_ok_iff.mp read
        obtain ⟨fields, each, made⟩ := Outcome.bind_ok_iff.mp read
        cases made
        constructor
        · rw [Request.Context.keys_of_mapM (fun _ _ done => (rootField_told done).1) each]
          exact Request.Context.collect_nodup gathered
        · intro field member
          obtain ⟨entry, -, done⟩ := Outcome.mapM_ok_of_mem_answers each member
          exact (rootField_told done).2
  · cases read

section

variable {served : Served} {operation : Operation} {σ : Type}

/-- How a request ends whose rows are answered so. -/
def ending : Except Failure (Entries Value × List ClientError) → Except Interruption Response
  | .error failure => .error (.request failure)
  | .ok (data, errors) => .ok { data := some data, errors }

theorem ending_ok_iff {answered : Except Failure (Entries Value × List ClientError)}
    {response : Response} :
    ending answered = .ok response ↔
      ∃ data errors, response = { data := some data, errors } ∧ answered = .ok (data, errors) := by
  cases answered with
  | error failure =>
      constructor
      · intro impossible
        cases impossible
      · rintro ⟨_, _, _, impossible⟩
        cases impossible
  | ok answer =>
      constructor
      · rintro ⟨⟩
        exact ⟨_, _, rfl, rfl⟩
      · rintro ⟨_, _, rfl, ⟨⟩⟩
        rfl

theorem ending_error {answered : Except Failure (Entries Value × List ClientError)}
    {interruption : Interruption} (ended : ending answered = .error interruption) :
    ∃ failure, interruption = .request failure := by
  cases answered with
  | error failure =>
      cases ended
      exact ⟨failure, rfl⟩
  | ok answer => cases ended

/-- An operation is compiled, then run by one call, then answered. -/
theorem run_eq (executor : Executor σ) (state : σ)
    (distinct : (operation.fields.map RootField.key).Nodup) :
    (served.run executor operation).run state =
      match served.compileEach operation.fields with
      | .error failure => (.error (.request failure), state)
      | .ok statements =>
          match (executor statements operation.isMutation).run state with
          | (.error interruption, after) => (.error interruption, after)
          | (.ok rows, after) =>
              let keys := (asking operation.fields).map RootField.key
              (ending (served.answerAll (keys.zip statements) (keys.zip rows) operation.fields),
                after) := by
  unfold Served.run
  rw [compileAll_eq distinct]
  cases compiled : served.compileEach operation.fields with
  | error failure => rfl
  | ok statements =>
      have count : (asking operation.fields).length = statements.length :=
        (compileEach_ok_iff.mp compiled).length_eq
      have values : (((asking operation.fields).map RootField.key).zip statements).map Prod.snd =
          statements := List.map_snd_zip (by rw [List.length_map, count])
      have keys : Entries.keys (((asking operation.fields).map RootField.key).zip statements) =
          (asking operation.fields).map RootField.key :=
        List.map_fst_zip (by rw [List.length_map, count])
      have paired (rows : List Value) :
          Entries.ofPairs (((asking operation.fields).map RootField.key).zip rows) =
            ((asking operation.fields).map RootField.key).zip rows :=
        Entries.ofPairs_eq (distinct.sublist ((map_fst_zip_sublist ..).trans
          (asking_keys_sublist operation.fields)))
      change (executor (List.map Prod.snd _) operation.isMutation >>= fun rows => _ :
        Course σ Response).run state = _
      rw [values, keys, Store.interruptible_bind]
      dsimp only
      rcases (executor statements operation.isMutation).run state with ⟨result, after⟩
      cases result with
      | error interruption => rfl
      | ok rows =>
          dsimp only
          rw [paired]
          cases served.answerAll _ _ operation.fields <;> rfl

theorem atPlaces_zip {α : Type} (fields : List RootField) (items : List α) :
    AtPlaces fields items (((asking fields).map RootField.key).zip items) := by
  intro key member
  rfl

/-- What a call answers is told field by field. -/
theorem answerAll_iff (distinct : (operation.fields.map RootField.key).Nodup)
    {statements : List Compiled} (compiled : served.compileEach operation.fields = .ok statements)
    (rows : List Value) {data : Entries Value} {errors : List ClientError} :
    served.answerAll (((asking operation.fields).map RootField.key).zip statements)
        (((asking operation.fields).map RootField.key).zip rows) operation.fields =
        .ok (data, errors) ↔
      Answers served.codec operation.fields statements rows data errors := by
  have count : (asking operation.fields).length = statements.length :=
    (compileEach_ok_iff.mp compiled).length_eq
  rw [← mapM_answerRoot distinct count (atPlaces_zip _ statements) (atPlaces_zip _ rows), answerAll_eq distinct,
    Outcome.map_ok_iff]
  refine exists_congr fun answers => and_congr_right fun _ => ?_
  rw [Prod.mk.injEq, eq_comm, @eq_comm _ _ errors]

end

/-- The paths without a match, each once, are among those that are expected or reported. -/
theorem unmatched_told (statement : Compiled) {rows : Value} {reports : List Report}
    (reported : RowsReport rows reports) :
    ∃ paths : List String, statement.unmatched rows = .ok (paths.map .text) ∧ paths.Nodup ∧
      ∀ path, path ∈ paths ↔
        (path ∈ statement.paths ∨ path ∈ reports.map Prod.fst) ∧
          matchedIn reports path = false := by
  have apart : (reports.foldl Statement.Tally.count
      (Statement.Tally.expecting statement.paths)).keys.Nodup :=
    Statement.Tally.keys_foldl_count_nodup _ _
      (Statement.Tally.keys_expecting_nodup statement.paths [] List.nodup_nil)
  refine ⟨_, Statement.unmatched_eq statement.paths reported, ?_, ?_⟩
  · rw [Statement.Tally.missing_eq_filter _ apart]
    exact apart.filter _
  · intro path
    have expected : (Statement.Tally.expecting statement.paths).get? path =
        if path ∈ statement.paths then some 0 else none :=
      Statement.Tally.get?_expecting statement.paths [] path
    rw [Statement.Tally.missing_eq_filter _ apart, List.mem_filter, decide_eq_true_eq]
    have stands : (reports.foldl Statement.Tally.count
        (Statement.Tally.expecting statement.paths)).get? path = some 0 →
        path ∈ (reports.foldl Statement.Tally.count
          (Statement.Tally.expecting statement.paths)).keys := by
      intro found
      rw [← Entries.get?_isSome_iff, found]
      rfl
    rw [and_iff_right_of_imp stands, Statement.Tally.get?_foldl_count, expected, and_comm]
    apply and_congr_left
    intro _
    by_cases inside : path ∈ statement.paths
    · simp [inside]
    · simp [inside]

end GraphGateway.Service
