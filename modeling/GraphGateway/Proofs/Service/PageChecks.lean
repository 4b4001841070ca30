import GraphGateway.Proofs.Paging.Spelling
import GraphGateway.Proofs.Statement.Paged

/-!
Checked pages.  Where a request compiles but for its pages, it fails over one of them or not at all; and
it compiles only if all of them are sound.  So no statement of an operation runs if a page anywhere in it
is out of bounds or starts at what is no cursor of its connection.
-/
namespace GraphGateway.Request

mutual

/-- A field of a node that asks for all edges wherever it asks for a page. -/
def NodeField.unpaged : NodeField → NodeField
  | .leaf inner => .leaf inner
  | .relationship key name typeName fields =>
      .relationship key name typeName (NodeField.unpagedAll fields)
  | .connection key name _ _ fields =>
      .connection key name .null .null (ConnectionField.unpagedAll fields)

def NodeField.unpagedAll : List NodeField → List NodeField
  | [] => []
  | field :: rest => field.unpaged :: NodeField.unpagedAll rest

def ConnectionField.unpagedAll : List ConnectionField → List ConnectionField
  | [] => []
  | .edges key fields :: rest =>
      .edges key (EdgeField.unpagedAll fields) :: ConnectionField.unpagedAll rest
  | .leaf inner :: rest => .leaf inner :: ConnectionField.unpagedAll rest
  | .pageInfo key fields :: rest => .pageInfo key fields :: ConnectionField.unpagedAll rest

def EdgeField.unpagedAll : List EdgeField → List EdgeField
  | [] => []
  | .leaf inner :: rest => .leaf inner :: EdgeField.unpagedAll rest
  | .node key typeName fields :: rest =>
      .node key typeName (NodeField.unpagedAll fields) :: EdgeField.unpagedAll rest

end

def NodeSelection.unpaged (selection : NodeSelection) : NodeSelection :=
  { selection with fields := NodeField.unpagedAll selection.fields }

def ResponseField.unpaged : ResponseField → ResponseField
  | .leaf inner => .leaf inner
  | .nodes key selection => .nodes key selection.unpaged

def ResponseSelection.unpaged (response : ResponseSelection) : ResponseSelection :=
  { response with fields := response.fields.map ResponseField.unpaged }

/-- A root field that asks for all edges wherever it asks for a page. -/
def RootField.unpaged : RootField → RootField
  | .list key typeName selection filter => .list key typeName selection.unpaged filter
  | .lookup key id variants => .lookup key id (variants.map NodeSelection.unpaged)
  | .create key typeName inputs response => .create key typeName inputs response.unpaged
  | .update key typeName response filter assignments connections =>
      .update key typeName response.unpaged filter assignments connections
  | .typename key typeName => .typename key typeName

end GraphGateway.Request

namespace GraphGateway.Request.PageRequest

open Statement

/-- A page is refused as a wrong input or for its cursor, unless that nests too deep. -/
theorem Refuses.kind {basis : Basis} {request : PageRequest} {failure : Failure}
    (refuses : request.Refuses basis failure) : failure = .endless ∨ ∃ fault,
      failure = .fault fault ∧ (fault.kind = "InvalidInputError" ∨ fault.kind = "CursorDecodeError") := by
  cases refuses with
  | negative asked below => exact .inr ⟨_, rfl, .inl rfl⟩
  | tooLarge asked bounded above => exact .inr ⟨_, rfl, .inl rfl⟩
  | @cursor rejection given refused =>
      by_cases endless : rejection.flaw = .endless
      · left
        unfold Failure.ofRejection
        rw [endless]
      · exact .inr ⟨_, Paging.ofRejection_of_flaw endless, .inr rfl⟩

/-- A cursor in which nothing is forged does not nest too deep. -/
theorem Refuses.ne_endless {basis : Basis} {request : PageRequest} {failure : Failure}
    (refuses : request.Refuses basis failure) {issued : List Paging.Position}
    (encoded : basis.codec.Encoded issued) (unforged : basis.codec.IsUnforged issued request.after) :
    failure ≠ .endless := by
  cases refuses with
  | negative asked below => nofun
  | tooLarge asked bounded above => nofun
  | cursor given refused =>
      rw [Paging.ofRejection_of_flaw (unforged.flaw_ne_endless encoded refused)]
      nofun

end GraphGateway.Request.PageRequest

namespace GraphGateway.Statement

open Outcome (Only)
open Request Schema

section

variable {basis : Basis}

/-- All pages are of whole sizes. -/
def AreSized (requests : List PageRequest) : Prop := ∀ request ∈ requests, request.IsSized

mutual

/-- A field that is planned without its pages is planned unless one of them is refused. -/
theorem planField_unpaged (node : NodeType) : (field : NodeField) →
    AreSized (field.pages basis.model node) → {plans : List FieldPlan} →
    basis.planField node field.unpaged = .ok plans →
    Only (RefusesSome basis (field.pages basis.model node)) (basis.planField node field)
  | .leaf leaf, _, plans, planned => by
      rw [NodeField.unpaged] at planned
      rw [planned]
      exact .ok _
  | .relationship key name typeName fields, sized, plans, planned => by
      rw [NodeField.unpaged, Basis.planField] at planned
      obtain ⟨⟨relationship, related⟩, found, planned⟩ := Outcome.bind_ok_iff.mp planned
      obtain ⟨inner, done, -⟩ := Outcome.bind_ok_iff.mp planned
      rw [NodeField.pages, target?_of_relationshipOf found] at sized ⊢
      rw [Basis.planField]
      refine .bind_ok found (.bind ?_ fun _ _ => .ok _)
      exact planFields_unpaged related fields sized done
  | .connection key name first after fields, sized, plans, planned => by
      rw [NodeField.unpaged, Basis.planField] at planned
      split at planned
      · cases planned
      · next offered =>
        obtain ⟨⟨relationship, related⟩, found, planned⟩ := Outcome.bind_ok_iff.mp planned
        obtain ⟨page, -, planned⟩ := Outcome.bind_ok_iff.mp planned
        obtain ⟨sets, done, -⟩ := Outcome.bind_ok_iff.mp planned
        rw [NodeField.pages, target?_of_relationshipOf found] at sized ⊢
        obtain ⟨here, inside⟩ := List.forall_mem_cons.mp sized
        rw [Basis.planField, if_neg offered]
        refine .bind_ok found (.bind ?_ fun page _ => .bind ?_ fun _ _ => .ok _)
        · exact (pageOf_refuses here).weaken fun failure refuses =>
            ⟨_, List.mem_cons_self .., refuses⟩
        · exact (planSets_unpaged _ _ related fields inside done).weaken
            (RefusesSome.right [_])

theorem planFields_unpaged (node : NodeType) : (fields : List NodeField) →
    AreSized (NodeField.pagesOf basis.model node fields) → {plans : List FieldPlan} →
    basis.planFields node (NodeField.unpagedAll fields) = .ok plans →
    Only (RefusesSome basis (NodeField.pagesOf basis.model node fields))
      (basis.planFields node fields)
  | [], _, _, _ => .ok _
  | field :: rest, sized, plans, planned => by
      rw [NodeField.unpagedAll, Basis.planFields] at planned
      obtain ⟨first, here, planned⟩ := Outcome.bind_ok_iff.mp planned
      obtain ⟨others, later, -⟩ := Outcome.bind_ok_iff.mp planned
      obtain ⟨front, behind⟩ := List.forall_mem_append.mp sized
      rw [Basis.planFields]
      refine .bind ((planField_unpaged node field front here).weaken RefusesSome.left) fun _ _ => ?_
      refine .bind ((planFields_unpaged node rest behind later).weaken (RefusesSome.right _)) fun _ _ => ?_
      exact .ok _

theorem planSets_unpaged (issuer : String) (properties : Option PropertiesType)
    (related : NodeType) : (fields : List ConnectionField) →
    AreSized (ConnectionField.pagesOf basis.model related fields) → {sets : List EdgeSetPlan} →
    basis.planSets issuer properties related (ConnectionField.unpagedAll fields) = .ok sets →
    Only (RefusesSome basis (ConnectionField.pagesOf basis.model related fields))
      (basis.planSets issuer properties related fields)
  | [], _, _, _ => .ok _
  | .edges key edges :: rest, sized, sets, planned => by
      rw [ConnectionField.unpagedAll, Basis.planSets] at planned
      obtain ⟨first, here, planned⟩ := Outcome.bind_ok_iff.mp planned
      obtain ⟨others, later, -⟩ := Outcome.bind_ok_iff.mp planned
      obtain ⟨front, behind⟩ := List.forall_mem_append.mp sized
      rw [Basis.planSets]
      refine .bind ((planEdges_unpaged issuer properties related edges front here).weaken
        RefusesSome.left) fun _ _ => ?_
      refine .bind ((planSets_unpaged issuer properties related rest behind later).weaken
        (RefusesSome.right _)) fun _ _ => ?_
      exact .ok _
  | .leaf _ :: rest, sized, sets, planned => by
      rw [ConnectionField.unpagedAll, Basis.planSets] at planned
      rw [Basis.planSets]
      exact planSets_unpaged issuer properties related rest sized planned
  | .pageInfo _ _ :: rest, sized, sets, planned => by
      rw [ConnectionField.unpagedAll, Basis.planSets] at planned
      rw [Basis.planSets]
      exact planSets_unpaged issuer properties related rest sized planned

theorem planEdges_unpaged (issuer : String) (properties : Option PropertiesType)
    (related : NodeType) : (edges : List EdgeField) →
    AreSized (EdgeField.pagesOf basis.model related edges) → {plans : List EdgePlan} →
    basis.planEdges issuer properties related (EdgeField.unpagedAll edges) = .ok plans →
    Only (RefusesSome basis (EdgeField.pagesOf basis.model related edges))
      (basis.planEdges issuer properties related edges)
  | [], _, _, _ => .ok _
  | .leaf leaf :: rest, sized, plans, planned => by
      rw [EdgeField.unpagedAll, Basis.planEdges] at planned
      obtain ⟨first, here, planned⟩ := Outcome.bind_ok_iff.mp planned
      obtain ⟨others, later, -⟩ := Outcome.bind_ok_iff.mp planned
      rw [Basis.planEdges]
      refine .bind_ok here (.bind ?_ fun _ _ => .ok _)
      exact planEdges_unpaged issuer properties related rest sized later
  | .node key typeName fields :: rest, sized, plans, planned => by
      rw [EdgeField.unpagedAll, Basis.planEdges] at planned
      obtain ⟨inner, here, planned⟩ := Outcome.bind_ok_iff.mp planned
      obtain ⟨others, later, -⟩ := Outcome.bind_ok_iff.mp planned
      obtain ⟨front, behind⟩ := List.forall_mem_append.mp sized
      rw [Basis.planEdges]
      refine .bind ((planFields_unpaged related fields front here).weaken
        RefusesSome.left) fun _ _ => ?_
      refine .bind ((planEdges_unpaged issuer properties related rest behind later).weaken
        (RefusesSome.right _)) fun _ _ => ?_
      exact .ok _

end

theorem planResponse_unpaged (node : NodeType) (fields : List ResponseField)
    (sized : AreSized (fields.flatMap (ResponseField.pages basis.model node)))
    {response : ResponsePlan}
    (planned : basis.planResponse node (fields.map ResponseField.unpaged) = .ok response) :
    Only (RefusesSome basis (fields.flatMap (ResponseField.pages basis.model node)))
      (basis.planResponse node fields) := by
  induction fields generalizing response with
  | nil => exact .ok _
  | cons field rest ih =>
      obtain ⟨front, behind⟩ := List.forall_mem_append.mp sized
      cases field with
      | leaf leaf => exact ih behind planned
      | nodes key selection =>
          obtain ⟨inner, here, planned⟩ := Outcome.bind_ok_iff.mp planned
          obtain ⟨others, later, -⟩ := Outcome.bind_ok_iff.mp planned
          rw [Basis.planResponse]
          refine .bind ((planFields_unpaged node selection.fields front here).weaken
            RefusesSome.left) fun _ _ => ?_
          exact .bind ((ih behind later).weaken (RefusesSome.right _)) fun _ _ => .ok _

theorem planVariants_unpaged (variants : List NodeSelection)
    (sized : AreSized (variants.flatMap fun selection => pagesAt basis.model selection.typeName
      fun node => NodeField.pagesOf basis.model node selection.fields)) {plans : List VariantPlan}
    (planned : basis.planVariants (variants.map NodeSelection.unpaged) = .ok plans) :
    Only (RefusesSome basis (variants.flatMap fun selection => pagesAt basis.model
      selection.typeName fun node => NodeField.pagesOf basis.model node selection.fields))
      (basis.planVariants variants) := by
  induction variants generalizing plans with
  | nil => exact .ok _
  | cons selection rest ih =>
      obtain ⟨node, found, planned⟩ := Outcome.bind_ok_iff.mp planned
      obtain ⟨inner, here, planned⟩ := Outcome.bind_ok_iff.mp planned
      obtain ⟨others, later, -⟩ := Outcome.bind_ok_iff.mp planned
      have known : basis.model.node selection.typeName = .ok node :=
        Outcome.mapError_ok_iff.mp found
      rw [List.flatMap_cons, pagesAt_of_ok known] at sized ⊢
      obtain ⟨front, behind⟩ := List.forall_mem_append.mp sized
      rw [Basis.planVariants]
      refine .bind_ok found (.bind ((planFields_unpaged node selection.fields front here).weaken
        RefusesSome.left) fun _ _ => ?_)
      exact .bind ((ih behind later).weaken (RefusesSome.right _)) fun _ _ => .ok _

/-- A root field that is planned without its pages is planned unless one of them is refused. -/
theorem plan_unpaged {field : RootField} (sized : AreSized (field.pages basis.model)) {plan : Plan}
    (planned : basis.plan field.unpaged = .ok plan) :
    Only (RefusesSome basis (field.pages basis.model)) (basis.plan field) := by
  cases field with
  | list key typeName selection filter =>
      obtain ⟨node, found, planned⟩ := Outcome.bind_ok_iff.mp planned
      obtain ⟨condition, read, planned⟩ := Outcome.bind_ok_iff.mp planned
      obtain ⟨fields, here, -⟩ := Outcome.bind_ok_iff.mp planned
      rw [RootField.pages, pagesAt_of_ok (Outcome.mapError_ok_iff.mp found)] at sized ⊢
      refine .bind_ok found (.bind_ok read (.bind ?_ fun _ _ => .ok _))
      exact planFields_unpaged node selection.fields sized here
  | lookup key id variants =>
      simp only [RootField.unpaged, Basis.plan, List.isEmpty_map] at planned ⊢
      split at planned
      · cases planned
      · next offered =>
        rw [if_neg offered]
        split at planned
        · cases planned
        · next some_ =>
          rw [if_neg some_]
          obtain ⟨branches, here, -⟩ := Outcome.bind_ok_iff.mp planned
          exact .bind (planVariants_unpaged variants sized here) fun _ _ => .ok _
  | create key typeName inputs response =>
      obtain ⟨node, found, planned⟩ := Outcome.bind_ok_iff.mp planned
      obtain ⟨nodes, given, planned⟩ := Outcome.bind_ok_iff.mp planned
      obtain ⟨answer, here, -⟩ := Outcome.bind_ok_iff.mp planned
      rw [RootField.pages, pagesAt_of_ok (Outcome.mapError_ok_iff.mp found)] at sized ⊢
      refine .bind_ok found (.bind_ok given (.bind ?_ fun _ _ => .ok _))
      exact planResponse_unpaged node response.fields sized here
  | update key typeName response filter assignments connections =>
      obtain ⟨node, found, planned⟩ := Outcome.bind_ok_iff.mp planned
      obtain ⟨condition, read, planned⟩ := Outcome.bind_ok_iff.mp planned
      obtain ⟨input, changes, planned⟩ := Outcome.bind_ok_iff.mp planned
      obtain ⟨⟨⟩, known, planned⟩ := Outcome.bind_ok_iff.mp planned
      obtain ⟨nested, entering, planned⟩ := Outcome.bind_ok_iff.mp planned
      obtain ⟨given, taken, planned⟩ := Outcome.bind_ok_iff.mp planned
      obtain ⟨updates, updating, planned⟩ := Outcome.bind_ok_iff.mp planned
      obtain ⟨answer, here, -⟩ := Outcome.bind_ok_iff.mp planned
      rw [RootField.pages, pagesAt_of_ok (Outcome.mapError_ok_iff.mp found)] at sized ⊢
      refine .bind_ok found (.bind_ok read (.bind_ok changes (.bind_ok known (.bind_ok entering
        (.bind_ok taken (.bind_ok updating (.bind ?_ fun _ _ => .ok _)))))))
      exact planResponse_unpaged node response.fields sized here
  | typename key typeName => cases planned

end

end GraphGateway.Statement

namespace GraphGateway.Service

open Cypher Request Schema Statement

namespace Served

variable (served : Served)

/-- A root field that does not compile lets no statement of its operation run. -/
theorem compileAll_error {field : RootField} {failure : Failure} (asks : field.isTypename = false)
    (failed : served.basis.compile field = .error failure) {fields : List RootField}
    (member : field ∈ fields) : ∃ failure, served.compileAll fields = .error failure := by
  cases ran : served.compileAll fields with
  | error failure => exact ⟨failure, rfl⟩
  | ok statements =>
      obtain ⟨before, after, done⟩ := Outcome.foldlM_ok_mem ran member
      rw [asks] at done
      obtain ⟨statement, compiled, -⟩ := Outcome.bind_ok_iff.mp done
      rw [failed] at compiled
      cases compiled

/-- A statement is compiled only if all pages of its root field are sound. -/
theorem isSound_of_compile {field : RootField} {compiled : Compiled}
    (done : served.basis.compile field = .ok compiled) :
    ∀ request ∈ field.pages served.model, request.IsSound served.basis := by
  intro request member
  obtain ⟨plan, planned, -⟩ := Outcome.bind_ok_iff.mp done
  obtain ⟨page, -, gets⟩ := Outcome.partner_of_mem (plan_pages planned) member
  exact gets.isSound

/-- Where a root field compiles without its pages, it fails over one of them only. -/
theorem compile_refuses {field : RootField} {compiled : Compiled}
    (done : served.basis.compile field.unpaged = .ok compiled)
    (sized : AreSized (field.pages served.model)) :
    Outcome.Only (RefusesSome served.basis (field.pages served.model))
      (served.basis.compile field) := by
  obtain ⟨plan, planned, -⟩ := Outcome.bind_ok_iff.mp done
  exact .bind (plan_unpaged sized planned) fun _ _ => .ok _

/-- Every page is checked, however deep it is in a query or in the answer to a mutation.  What
compiles limits and starts each page by a parameter for what was asked; where a page is out of bounds
or behind no cursor of its connection, nothing of the operation compiles.  If nothing else is wrong,
the failure is over such a page: it is a wrong input or a wrong cursor, or else a payload that nests
too deep, which only who can sign can send. -/
theorem pages_checked (field : RootField) :
    (∀ compiled, served.basis.compile field = .ok compiled →
      ∃ plan, served.basis.plan field = .ok plan ∧
        compiled.text = Clause.text (plan.emit served.features {}).1 ∧
        List.Forall₂ (PageRequest.IsMet served.basis compiled.parameters)
          (field.pages served.model) (Clause.pageBoundsOf (plan.emit served.features {}).1)) ∧
    (∀ request ∈ field.pages served.model, ¬ request.IsSound served.basis →
      (∃ failure, served.basis.compile field = .error failure) ∧
      ∀ fields, field ∈ fields → ∃ failure, served.compileAll fields = .error failure) ∧
    (∀ compiled, served.basis.compile field.unpaged = .ok compiled →
      AreSized (field.pages served.model) → ∀ failure, served.basis.compile field = .error failure →
      ∃ request ∈ field.pages served.model, request.Refuses served.basis failure ∧
        (failure = .endless ∨ ∃ fault, failure = .fault fault ∧
          (fault.kind = "InvalidInputError" ∨ fault.kind = "CursorDecodeError")) ∧
        ∀ issued, served.codec.Encoded issued → served.codec.IsUnforged issued request.after →
          failure ≠ .endless) := by
  refine ⟨fun compiled done => ?_, fun request member unsound => ?_,
    fun compiled done sized failure failed => ?_⟩
  · obtain ⟨plan, planned, same⟩ := Outcome.bind_ok_iff.mp done
    cases same
    refine ⟨plan, planned, rfl, ?_⟩
    refine (Outcome.related_through (plan_pages planned) (emit_pages served.features plan).run).imp ?_
    rintro request bounds ⟨page, gets, reads⟩
    exact gets.isMet reads
  · have failed : ∃ failure, served.basis.compile field = .error failure := by
      cases done : served.basis.compile field with
      | error failure => exact ⟨failure, rfl⟩
      | ok compiled => exact absurd (served.isSound_of_compile done request member) unsound
    obtain ⟨failure, fails⟩ := failed
    have asks : field.isTypename = false := by
      cases field with
      | typename key typeName => cases member
      | _ => rfl
    exact ⟨⟨failure, fails⟩, fun fields among => served.compileAll_error asks fails among⟩
  · obtain ⟨request, member, refuses⟩ := served.compile_refuses done sized failure failed
    exact ⟨request, member, refuses, refuses.kind, fun issued => refuses.ne_endless⟩

end Served

/-- A request for the movies that were not updated, with a page of their actors. -/
def repaging (first after : Value) : RootField :=
  .update "updateMovies" "Movie"
    { typeName := "UpdateMoviesMutationResponse"
      fields := [.nodes "movies"
        { typeName := "Movie"
          fields := [.connection "actorsConnection" "actors" first after
            [.edges "edges" [.leaf ⟨"cursor", "cursor"⟩]]] }] }
    (.object []) (.object []) (.object [])

theorem repaging_pages (first after : Value) :
    (repaging first after).pages stage.model = [⟨"Movie.actors", first, after⟩] := by
  obtain ⟨movie, found, alone⟩ := stage_movie
  obtain ⟨person, leads, -⟩ := stage_person
  have known : movie.relationship? "actors" = some stageActors := by
    unfold NodeType.relationship?
    rw [alone]
    rfl
  have target : stage.model.target? movie "actors" = some (stageActors, person) := by
    rw [Model.target?, known, Option.bind_some, leads]
    rfl
  have issuer : Basis.issuerOf movie stageActors = "Movie.actors" := by
    rw [Basis.issuerOf, Model.node_name found]
    rfl
  simp [RootField.pages, repaging, pagesAt_of_ok found, ResponseField.pages, NodeField.pagesOf,
    NodeField.pages, target, ConnectionField.pagesOf, EdgeField.pagesOf, issuer]

theorem repaging_unpaged (first after : Value) : ∃ compiled,
    stage.basis.compile (repaging first after).unpaged = .ok compiled := by
  have plain : (repaging first after).unpaged = repaging .null .null := rfl
  rw [plain, stage_basis]
  exact ⟨_, Outcome.eq_ok_of_isSome (by decide +kernel)⟩

/-- The cursor of the forty-second actor. -/
def stageCursor : String := stage.codec.encodePosition ⟨(42 : Nat), "Movie.actors"⟩

theorem decode_stageCursor : stage.basis.codec.decode (.text stageCursor) (.text "Movie.actors") =
    .ok ⟨(42 : Nat), "Movie.actors"⟩ :=
  (stage.codec.decode_issued Paging.CursorCodec.actors_whole Paging.CursorCodec.actors_short
    _).trans (if_pos (by simp))

/-- A page of two actors behind the forty-second is read by two parameters; a negative page size is
refused as a wrong input. -/
theorem pages_checked_repaging :
    (∃ (compiled : Compiled) (plan : Plan) (bounds : PageBounds),
      stage.basis.compile (repaging (.int 2) (.text stageCursor)) = .ok compiled ∧
      Clause.pageBoundsOf (plan.emit stage.features {}).1 = [bounds] ∧
      PageRequest.IsMet stage.basis compiled.parameters
        ⟨"Movie.actors", .int 2, .text stageCursor⟩ bounds) ∧
    ∃ fault, stage.basis.compile (repaging (.int (-1)) .null) = .error (.fault fault) ∧
      fault.kind = "InvalidInputError" := by
  constructor
  · obtain ⟨unpaged, plain⟩ := repaging_unpaged (.int 2) (.text stageCursor)
    obtain ⟨met, -, refused⟩ := stage.pages_checked (repaging (.int 2) (.text stageCursor))
    rw [repaging_pages] at met refused
    cases done : stage.basis.compile (repaging (.int 2) (.text stageCursor)) with
    | error failure =>
        obtain ⟨request, member, refuses, -⟩ := refused unpaged plain
          (List.forall_mem_singleton.mpr (.inr ⟨2, rfl⟩)) failure done
        rw [List.mem_singleton.mp member] at refuses
        cases refuses with
        | negative asked below =>
            cases asked
            exact absurd below (by decide)
        | tooLarge asked bounded above => cases bounded
        | cursor given fails => exact nomatch decode_stageCursor.symm.trans fails
    | ok compiled =>
        obtain ⟨plan, -, -, each⟩ := met compiled done
        obtain ⟨bounds, same⟩ := List.length_eq_one_iff.mp each.length_eq.symm
        rw [same] at each
        cases each with
        | cons first _ => exact ⟨compiled, plan, bounds, rfl, same, first⟩
  · obtain ⟨unpaged, plain⟩ := repaging_unpaged (.int (-1)) .null
    obtain ⟨-, unsound, refused⟩ := stage.pages_checked (repaging (.int (-1)) .null)
    rw [repaging_pages] at unsound refused
    obtain ⟨⟨failure, failed⟩, -⟩ := unsound _ (List.mem_singleton_self _)
      fun sound => absurd (sound.size _ rfl).1 (by decide)
    obtain ⟨request, member, refuses, -⟩ := refused unpaged plain
      (List.forall_mem_singleton.mpr (.inr ⟨-1, rfl⟩)) failure failed
    rw [List.mem_singleton.mp member] at refuses
    cases refuses with
    | negative asked below => exact ⟨_, failed, rfl⟩
    | tooLarge asked bounded above => cases bounded
    | cursor given fails => exact absurd rfl given

/-- A payload of lists that nest too deep. -/
def deepPayload : List UInt8 := List.replicate 1000 91

theorem deepPayload_endless (wanted : Value) :
    Paging.CursorCodec.readPayload deepPayload wanted = .error .endless := by
  have text : Bytes.decodeJson? deepPayload = some (List.replicate 1000 '[') := by decide +kernel
  have deep : (Json.readNested Paging.CursorCodec.payloadDepth (List.replicate 1000 '[')).map
      (fun _ => ()) = .error .tooDeep := by decide +kernel
  unfold Paging.CursorCodec.readPayload
  rw [text]
  dsimp only
  cases read : Json.readNested Paging.CursorCodec.payloadDepth (List.replicate 1000 '[') with
  | ok value =>
      rw [read] at deep
      cases deep
  | error fault =>
      rw [read] at deep
      cases deep
      rfl

/-- A signature with such a payload behind it. -/
def deepCursor : String := stage.basis.codec.sealed deepPayload

theorem decode_deepCursor : stage.basis.codec.decode (.text deepCursor) (.text "Movie.actors") =
    .error ⟨deepCursor, .endless, .text "Movie.actors"⟩ := by
  unfold Paging.CursorCodec.decode deepCursor
  dsimp only
  rw [stage.basis.codec.readText_sealed (by decide), deepPayload_endless]
  rfl

/-- A payload that nests too deep is no cursor even where its signature fits, and all else of this
request compiles.  Still the failure is neither over a wrong input nor over a wrong cursor. -/
theorem exists_unexplained_page_repaging :
    (repaging .null (.text deepCursor)).pages stage.model =
      [⟨"Movie.actors", .null, .text deepCursor⟩] ∧
    (∃ compiled, stage.basis.compile (repaging .null (.text deepCursor)).unpaged = .ok compiled) ∧
    stage.basis.compile (repaging .null (.text deepCursor)) = .error .endless := by
  obtain ⟨compiled, plain⟩ := repaging_unpaged .null (.text deepCursor)
  refine ⟨repaging_pages _ _, ⟨compiled, plain⟩, ?_⟩
  have sized : AreSized ((repaging .null (.text deepCursor)).pages stage.model) := by
    rw [repaging_pages]
    exact List.forall_mem_singleton.mpr (.inl rfl)
  cases done : stage.basis.compile (repaging .null (.text deepCursor)) with
  | ok compiled =>
      have sound := stage.isSound_of_compile done
      rw [repaging_pages] at sound
      obtain ⟨position, decoded⟩ := (List.forall_mem_singleton.mp sound).start nofun
      exact nomatch decode_deepCursor.symm.trans decoded
  | error failure =>
      obtain ⟨request, member, refuses⟩ := stage.compile_refuses plain sized failure done
      rw [repaging_pages] at member
      rw [List.mem_singleton.mp member] at refuses
      cases refuses with
      | negative asked below => cases asked
      | tooLarge asked bounded above => cases asked
      | cursor given refused =>
          rw [← Except.error.inj (decode_deepCursor.symm.trans refused)]
          rfl

end GraphGateway.Service
