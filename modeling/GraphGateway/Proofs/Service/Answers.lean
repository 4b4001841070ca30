import GraphGateway.Proofs.Statement.Rows
import GraphGateway.Proofs.Statement.Selected

/-!
Answers to valid requests.  Whatever rows its statements may answer, a request is answered with maps
that have the keys of its selections, and no key that answering takes from a row is missing.  The one
exception is a looked-up node with a field under the key of its type: its map may pass for one of
another type.
-/
namespace GraphGateway.Service

open Cypher Request Statement

/-- Whatever is read of a valid request is answered by the model. -/
theorem Served.Reads.isAnswerable {schema : Graphql.Document} {features : Settings.Features}
    {spareKey : List UInt8} {served : Served}
    (made : Served.ofDocument schema features spareKey = .ok served) {document : Graphql.Document}
    {sent : Entries Value} {wanted : Option String} {operation : Operation}
    (reads : served.Reads document sent wanted operation) :
    served.model.IsGrown served.features.relationshipProperties served.types ∧
      ∀ field ∈ operation.fields,
        field.IsAnswerable served.surface served.features.relationshipProperties := by
  obtain ⟨bindings, given, read⟩ := reads.read
  unfold Surface.read at read
  split at read
  · next original found =>
    have readable := Served.isReadable made reads.servable reads.valid found given
    exact ⟨readable.grown, (operation_answerable readable).of_sound read⟩
  · cases read

/-- What a statement may answer is answered with the keys that are selected, unless the type of a
looked-up node is hidden. -/
theorem Served.gives_selected {schema : Graphql.Document} {features : Settings.Features}
    {spareKey : List UInt8} {served : Served}
    (made : Served.ofDocument schema features spareKey = .ok served) {document : Graphql.Document}
    {sent : Entries Value} {wanted : Option String} {operation : Operation}
    (reads : served.Reads document sent wanted operation) {field : RootField}
    (member : field ∈ operation.fields) (plain : ¬ HidesTypeOf field) {plan : Plan}
    (planned : served.basis.plan field = .ok plan) {stored : Stored} {rows : Value}
    (may : Clause.MayAnswer stored (plan.emit served.features {}).1 rows) :
    Gives (¬ HidesKey field ∧ HasPositions stored served.features) (Shape.ofField field).Answers
      (answer served.codec rows (Shape.ofField field)) := by
  obtain ⟨bindings, -, read⟩ := reads.read
  have keyed := Surface.read_keyed read field member
  have placed : (¬ HidesKey field ∧ HasPositions stored served.features) →
      HasPositions stored served.features := And.right
  have shaped := (emit_reads placed keyed And.left plain planned).run rows may
  exact answer_gives served.codec ((reads.isAnswerable made).2 field member).fits keyed shaped

/-- What a statement may answer has all keys that answering it takes from its rows, and each map of the
answer has just the keys that are selected there, in the order of the selection.  Only a field of a
looked-up node under the key of its type may break this.  Unless a field hides a key of the statement's
own, and as long as edges have positions, there is an answer. -/
theorem Served.answers_selected {schema : Graphql.Document} {features : Settings.Features}
    {spareKey : List UInt8} {served : Served}
    (made : Served.ofDocument schema features spareKey = .ok served) {document : Graphql.Document}
    {sent : Entries Value} {wanted : Option String} {operation : Operation}
    (reads : served.Reads document sent wanted operation) :
    ∀ field ∈ operation.fields, ∀ compiled, served.basis.compile field = .ok compiled →
      ∃ plan, served.basis.plan field = .ok plan ∧
        compiled.text = Clause.text (plan.emit served.features {}).1 ∧
        (¬ HidesTypeOf field → ∀ stored rows,
          Clause.MayAnswer stored (plan.emit served.features {}).1 rows →
            (∀ key, answer served.codec rows compiled.shape ≠ .error (.missingKey key)) ∧
            (∀ answered, answer served.codec rows compiled.shape = .ok answered →
              compiled.shape.Answers answered) ∧
            (¬ HidesKey field → HasPositions stored served.features →
              ∃ answered, answer served.codec rows compiled.shape = .ok answered)) := by
  intro field member compiled done
  obtain ⟨plan, planned, same⟩ := Outcome.bind_ok_iff.mp done
  cases same
  refine ⟨plan, planned, rfl, fun plain stored rows may => ?_⟩
  have gives := Served.gives_selected made reads member plain planned may
  refine ⟨fun key missing => gives.only _ missing key rfl, fun _ => gives.of_sound, ?_⟩
  intro clear positions
  obtain ⟨answered, there, -⟩ := gives.total ⟨clear, positions⟩
  exact ⟨answered, there⟩

/-- Stored properties that all hold one number. -/
def fifth : Stored where
  holds _ _ value := value = .int 5
  flat _ _ _ same := nomatch same

theorem fifth_hasPositions (features : Settings.Features) : HasPositions fifth features :=
  fun _ _ same => ⟨5, Paging.isShort_of_lt (by decide), same⟩

/-- A movie with one actor. -/
def billedRows : Value :=
  .list [.object [(rootName, .object [("actorsConnection", .object
    [(edgesKey, .list [.object [(sequenceKey, .int 5), ("edges", .object [])]]),
     (hasPreviousKey, .bool false)])])]]

theorem mayAnswer_billedRows (features : Settings.Features) (label : String) (step : Step) :
    Clause.MayAnswer fifth
      ((Plan.list label [] [.connection "actorsConnection" step ⟨none, none⟩
        [.mk "edges" []]]).emit features {}).1 billedRows := by
  refine ⟨_, rfl, List.forall_mem_singleton.mpr ?_⟩
  refine @Clause.mayRow_of_single _ [_, _] _ _ _ (by simp [Clause.returned]) ?_
  refine ⟨_, rfl, by simp [Entries.keys], List.forall_mem_singleton.mpr (.inl ⟨rfl, ?_⟩)⟩
  refine ⟨_, rfl, by simp [Entries.keys], List.forall_mem_cons.mpr ⟨.inl ⟨rfl, ?_⟩, ?_⟩⟩
  · rw [Expression.MayBe, Clause.afterAll, List.foldl_cons, List.foldl_cons, List.foldl_nil,
      Clause.after_subquery_iff (by simp [Clause.returned])]
    refine ⟨_, rfl, List.forall_mem_singleton.mpr ⟨_, rfl, by simp [Entries.keys], ?_⟩⟩
    simp [Expression.OneMayBe, Expression.MayBe, fifth]
  · exact List.forall_mem_singleton.mpr (.inr (.inl ⟨rfl, trivial⟩))

theorem plainBilling_reads : stage.Reads (billing none) [] none plainBilling :=
  .of_undeclared stage_servable (by decide +kernel) (Outcome.eq_ok_of_isSome _)

/-- Whether a plan lists nodes with the page of one connection, and no more. -/
def listsActorsPage : Plan → Bool
  | .list _ [] [.connection "actorsConnection" _ ⟨none, none⟩ [.mk "edges" []]] => true
  | _ => false

theorem eq_of_listsActorsPage {plan : Plan} (lists : listsActorsPage plan = true) :
    ∃ label step, plan =
      .list label [] [.connection "actorsConnection" step ⟨none, none⟩ [.mk "edges" []]] := by
  unfold listsActorsPage at lists
  split at lists
  · exact ⟨_, _, rfl⟩
  · cases lists

theorem answers_selected_billing :
    ∃ field ∈ plainBilling.fields, ∃ compiled answered,
      stage.basis.compile field = .ok compiled ∧
      answer stage.codec billedRows compiled.shape = .ok answered ∧
      compiled.shape.Answers answered := by
  have planned : (plainBilling.fields.any fun field =>
      (stage.basis.plan field).toOption.any listsActorsPage) = true := by
    rw [stage_basis]
    decide +kernel
  obtain ⟨field, member, plan, done, same⟩ := Outcome.exists_ok_of_any planned
  have compiled : stage.basis.compile field = .ok _ := Outcome.bind_ok_iff.mpr ⟨plan, done, rfl⟩
  obtain ⟨other, again, -, gives⟩ :=
    Served.answers_selected stage_made plainBilling_reads field member _ compiled
  cases done.symm.trans again
  obtain ⟨bindings, given, read⟩ := plainBilling_reads.read
  have keyed := Surface.read_keyed read field member
  obtain ⟨label, step, rfl⟩ := eq_of_listsActorsPage same
  have clear := (plan_clear keyed done).mp (by simp [Plan.IsClear, ClearBeside,
    FieldPlan.AllClear, FieldPlan.IsClear, EdgeSetPlan.AllClear, EdgePlan.AllClear,
    EdgeSetPlan.key, sequenceKey])
  obtain ⟨-, selected, total⟩ := gives (fun hides => clear hides.hidesKey) fifth billedRows
    (mayAnswer_billedRows _ label step)
  obtain ⟨answered, there⟩ := total clear (fifth_hasPositions _)
  exact ⟨field, member, _, answered, compiled, there, selected answered there⟩

/-- A lookup of a movie or of a person, whose name has the key of the type of a node. -/
def disguising : Graphql.Document :=
  [.operation
    { kind := .query, name := none, declarations := [], directives := []
      selections :=
        [.field none "node" [("id", .string "m1" false)] []
          [.inline (some "Person") [] [.field (some "__resolveType") "name" [] [] []],
           .inline (some "Movie") []
            [.field none "actorsConnection" [] []
              [.field none "edges" [] [] [.field none "cursor" [] [] []]]]]] }]

def disguised : Operation :=
  (stage.surface.read disguising [] none).toOption.get (by decide +kernel)

theorem disguised_reads : stage.Reads disguising [] none disguised :=
  .of_undeclared stage_servable (by decide +kernel) (Outcome.eq_ok_of_isSome _)

/-- Stored properties that all hold the name of a type. -/
def typeNamed : Stored where
  holds _ _ value := value = .text "Movie"
  flat _ _ _ same := nomatch same

/-- A person whose name is that of a type. -/
def disguisedRows : Value :=
  .list [.object [(rootName, .object [(resolvedTypeKey, .text "Movie")])]]

theorem mayAnswer_disguisedRows (features : Settings.Features) (id : Value)
    (label identifier stored : String) (other : VariantPlan) :
    Clause.MayAnswer typeNamed
      ((Plan.lookup id [⟨label, identifier, [.property resolvedTypeKey stored]⟩, other]).emit
        features {}).1 disguisedRows := by
  refine ⟨_, rfl, List.forall_mem_singleton.mpr ?_⟩
  refine ⟨_, List.mem_singleton_self _, _, rfl, rfl, List.forall_mem_singleton.mpr ?_⟩
  refine ⟨_, List.mem_singleton_self _, rfl, ?_⟩
  change Clause.after _ _ _ _ _
  rw [Clause.after, Possible.rebind_of_mem ?_, List.append_assoc, Clause.answers_append,
    Clause.answers_concat (by simp [Clause.returned])]
  · refine ⟨_, List.mem_cons_self .., Column.mayBe_as.mpr ⟨_, rfl, by simp [Entries.keys], ?_⟩⟩
    exact List.forall_mem_singleton.mpr (.inr (.inl ⟨rfl, rfl⟩))
  · simp [Clause.answered, List.getLast?_cons, Column.keys, Column.key?, Column.as]

/-- Whether a plan looks a node up of one of two types, of the first with a key for its type. -/
def looksUpType : Plan → Bool
  | .lookup _ [⟨_, _, [.property "__resolveType" _]⟩, _] => true
  | _ => false

theorem eq_of_looksUpType {plan : Plan} (looksUp : looksUpType plan = true) :
    ∃ id label identifier stored other, plan =
      .lookup id [⟨label, identifier, [.property "__resolveType" stored]⟩, other] := by
  unfold looksUpType at looksUp
  split at looksUp
  · exact ⟨_, _, _, _, _, rfl⟩
  · cases looksUp

/-- Whether an answer lacks a key. -/
def lacksKey {α : Type} (key : String) : Except Failure α → Bool
  | .error (.missingKey missing) => missing == key
  | _ => false

theorem eq_missingKey {α : Type} {key : String} {answer : Except Failure α}
    (lacks : lacksKey key answer = true) : answer = .error (.missingKey key) := by
  unfold lacksKey at lacks
  split at lacks
  · rw [eq_of_beq lacks]
  · cases lacks

theorem exists_missing_key_disguised :
    stage.Reads disguising [] none disguised ∧
    ∃ field ∈ disguised.fields, ∃ plan compiled, stage.basis.plan field = .ok plan ∧
      stage.basis.compile field = .ok compiled ∧
      compiled.text = Clause.text (plan.emit stage.features {}).1 ∧
      ∃ stored rows, Clause.MayAnswer stored (plan.emit stage.features {}).1 rows ∧
        answer stage.codec rows compiled.shape = .error (.missingKey "actorsConnection") := by
  refine ⟨disguised_reads, ?_⟩
  have planned : (disguised.fields.any fun field => (stage.basis.plan field).toOption.any fun plan =>
      looksUpType plan && lacksKey "actorsConnection"
        (answer stage.codec disguisedRows (Shape.ofField field))) = true := by
    rw [stage_basis]
    decide +kernel
  obtain ⟨field, member, plan, done, same⟩ := Outcome.exists_ok_of_any planned
  have compiled : stage.basis.compile field = .ok _ := Outcome.bind_ok_iff.mpr ⟨plan, done, rfl⟩
  refine ⟨field, member, plan, _, done, compiled, rfl, typeNamed, disguisedRows, ?_⟩
  obtain ⟨looksUp, lacks⟩ := Bool.and_eq_true_iff.mp same
  obtain ⟨id, label, identifier, stored, other, rfl⟩ := eq_of_looksUpType looksUp
  exact ⟨mayAnswer_disguisedRows .., eq_missingKey lacks⟩

end GraphGateway.Service
