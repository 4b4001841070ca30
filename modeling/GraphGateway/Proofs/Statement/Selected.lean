import GraphGateway.Proofs.Request.Rooted
import GraphGateway.Proofs.Statement.ReadPlan
import GraphGateway.Proofs.Statement.Required
import GraphGateway.Service.Response

/-!
Selections of valid requests.  Whatever a valid query or mutation selects is read and planned.  What
can still be wrong with it is a page: its size is out of bounds, or it starts at a cursor that is not
one of its connection.
-/
namespace GraphGateway.Request

open Statement

/-- What a connection asks for: a page of what bears the name of the connection. -/
structure PageRequest where
  issuer : String
  first : Value
  after : Value

namespace PageRequest

/-- A page size is a whole number, if there is one. -/
def IsSized (request : PageRequest) : Prop :=
  request.first = .null ∨ ∃ size, request.first = .int size

/-- Why a page that is asked for is refused. -/
inductive Refuses (basis : Basis) (request : PageRequest) : Failure → Prop
  | negative {size : Int} (asked : request.first = .int size) (below : size < 0) :
      request.Refuses basis (.fault (.invalidInput
        s!"'first' must not be negative, got {(Value.int size).plain}" (some request.issuer)))
  | tooLarge {size most : Int} (asked : request.first = .int size)
      (bounded : basis.features.maxPageSize = some most) (above : most < size) :
      request.Refuses basis (.fault (.invalidInput
        s!"'first' must not exceed {most}, got {(Value.int size).plain}" (some request.issuer)))
  | cursor {rejection : Paging.CursorRejection} (given : request.after ≠ .null)
      (refused : basis.codec.decode request.after (.text request.issuer) = .error rejection) :
      request.Refuses basis (.ofRejection rejection)

end PageRequest

end GraphGateway.Request

namespace GraphGateway.Schema

/-- A relationship of a node type with the type it leads to. -/
def Model.target? (model : Model) (node : NodeType) (name : String) :
    Option (Relationship × NodeType) :=
  (node.relationship? name).bind fun relationship =>
    (model.related relationship).toOption.map fun related => (relationship, related)

end GraphGateway.Schema

namespace GraphGateway.Request

open Schema Statement

mutual

/-- The pages that a field of a node asks for, outer ones first. -/
def NodeField.pages (model : Model) (node : NodeType) : NodeField → List PageRequest
  | .leaf _ => []
  | .relationship _ name _ fields =>
      match model.target? node name with
      | some (_, related) => NodeField.pagesOf model related fields
      | none => []
  | .connection _ name first after fields =>
      match model.target? node name with
      | some (relationship, related) =>
          ⟨Basis.issuerOf node relationship, first, after⟩ ::
            ConnectionField.pagesOf model related fields
      | none => []

def NodeField.pagesOf (model : Model) (node : NodeType) : List NodeField → List PageRequest
  | [] => []
  | field :: rest => field.pages model node ++ NodeField.pagesOf model node rest

def ConnectionField.pagesOf (model : Model) (related : NodeType) :
    List ConnectionField → List PageRequest
  | [] => []
  | .edges _ fields :: rest =>
      EdgeField.pagesOf model related fields ++ ConnectionField.pagesOf model related rest
  | .leaf _ :: rest => ConnectionField.pagesOf model related rest
  | .pageInfo _ _ :: rest => ConnectionField.pagesOf model related rest

def EdgeField.pagesOf (model : Model) (related : NodeType) : List EdgeField → List PageRequest
  | [] => []
  | .leaf _ :: rest => EdgeField.pagesOf model related rest
  | .node _ _ fields :: rest =>
      NodeField.pagesOf model related fields ++ EdgeField.pagesOf model related rest

end

/-- The pages that are asked for on the node type with a name. -/
def pagesAt (model : Model) (typeName : String) (pages : NodeType → List PageRequest) :
    List PageRequest :=
  match model.node typeName with
  | .ok node => pages node
  | .error _ => []

/-- The pages that a field of the answer to a mutation asks for. -/
def ResponseField.pages (model : Model) (node : NodeType) : ResponseField → List PageRequest
  | .leaf _ => []
  | .nodes _ selection => NodeField.pagesOf model node selection.fields

/-- The pages that a root field asks for. -/
def RootField.pages (model : Model) : RootField → List PageRequest
  | .list _ typeName selection _ =>
      pagesAt model typeName fun node => NodeField.pagesOf model node selection.fields
  | .lookup _ _ variants => variants.flatMap fun selection =>
      pagesAt model selection.typeName fun node => NodeField.pagesOf model node selection.fields
  | .create _ typeName _ response =>
      pagesAt model typeName fun node => response.fields.flatMap (ResponseField.pages model node)
  | .update _ typeName response _ _ _ =>
      pagesAt model typeName fun node => response.fields.flatMap (ResponseField.pages model node)
  | .typename _ _ => []

end GraphGateway.Request

namespace GraphGateway.Statement

open Outcome (Only)
open Request Schema

/-- A failure over a page: a size out of bounds, or a cursor that its connection refuses. -/
inductive Basis.IsPageFailure (basis : Basis) : Failure → Prop
  | negative {number : Int} {issuer : String} (below : number < 0) :
      basis.IsPageFailure (.fault (.invalidInput
        s!"'first' must not be negative, got {(Value.int number).plain}" (some issuer)))
  | tooLarge {number most : Int} {issuer : String}
      (bounded : basis.features.maxPageSize = some most) (above : most < number) :
      basis.IsPageFailure (.fault (.invalidInput
        s!"'first' must not exceed {most}, got {(Value.int number).plain}" (some issuer)))
  | cursor {after : Value} {issuer : String} {rejection : Paging.CursorRejection}
      (refused : basis.codec.decode after (.text issuer) = .error rejection) :
      basis.IsPageFailure (.ofRejection rejection)

section

variable {basis : Basis}

/-- A page that is asked for, somewhere among others, is refused. -/
def RefusesSome (basis : Basis) (requests : List PageRequest) (failure : Failure) : Prop :=
  ∃ request ∈ requests, request.Refuses basis failure

theorem RefusesSome.left {first rest : List PageRequest} (failure : Failure)
    (refuses : RefusesSome basis first failure) : RefusesSome basis (first ++ rest) failure := by
  obtain ⟨request, member, refuses⟩ := refuses
  exact ⟨request, List.mem_append_left _ member, refuses⟩

theorem RefusesSome.right (first : List PageRequest) {rest : List PageRequest} (failure : Failure)
    (refuses : RefusesSome basis rest failure) : RefusesSome basis (first ++ rest) failure := by
  obtain ⟨request, member, refuses⟩ := refuses
  exact ⟨request, List.mem_append_right _ member, refuses⟩

theorem RefusesSome.isPageFailure {requests : List PageRequest} {failure : Failure}
    (refuses : RefusesSome basis requests failure) : basis.IsPageFailure failure := by
  obtain ⟨request, -, refuses⟩ := refuses
  cases refuses with
  | negative _ below => exact .negative below
  | tooLarge _ bounded above => exact .tooLarge bounded above
  | cursor _ refused => exact .cursor refused

end

section

variable {basis : Basis} {request : PageRequest}

theorem pageLimit_refuses {size : Int} (asked : request.first = .int size) :
    Only (request.Refuses basis) (basis.pageLimit request.issuer (.int size)) := by
  unfold Basis.pageLimit
  rw [Value.less?_int]
  dsimp only [Basis.successor?]
  split
  · next below => exact .error (.negative asked (of_decide_eq_true below))
  · cases bounded : basis.features.maxPageSize with
    | none => exact .ok _
    | some most =>
        dsimp only
        rw [Value.less?_int]
        split
        · next above =>
          exact .error (.tooLarge asked bounded (of_decide_eq_true (Option.some.inj above)))
        · exact .ok _

/-- The page behind a cursor, once its size is known. -/
def pageBehind (basis : Basis) (issuer : String) (after : Value) (limit : Option Value) :
    Except Failure Page :=
  if after.isNull = true then do
    let start ← pure none
    pure { start, limit }
  else
    match basis.codec.decode after (.text issuer) with
    | .ok position => do
        let start ← pure (some position.orderingKey)
        pure { start, limit }
    | .error rejection => do
        let start ← throw (.ofRejection rejection)
        pure { start, limit }

theorem pageBehind_refuses (limit : Option Value) :
    Only (request.Refuses basis) (pageBehind basis request.issuer request.after limit) := by
  unfold pageBehind
  split
  · exact .ok _
  · next given =>
    split
    · exact .ok _
    · next refused => exact .error (.cursor (by simpa using given) refused)

/-- A page whose size is a whole number is planned unless something is wrong with it. -/
theorem pageOf_refuses (sized : request.IsSized) :
    Only (request.Refuses basis) (basis.pageOf request.issuer request.first request.after) := by
  unfold Basis.pageOf
  rcases sized with missing | ⟨size, asked⟩
  · rw [missing]
    exact pageBehind_refuses none
  · rw [asked]
    exact .bind (.map _ (pageLimit_refuses asked)) fun limit _ => pageBehind_refuses limit

theorem relationshipOf_eq {node related : NodeType} {relationship : Relationship} {name : String}
    (found : node.relationship? name = some relationship)
    (leads : basis.model.related relationship = .ok related) :
    basis.relationshipOf node name = .ok (relationship, related) :=
  relationshipOf_ok_iff.mpr ⟨found, leads⟩

theorem target?_of_relationshipOf {node related : NodeType} {name : String}
    {relationship : Relationship}
    (found : basis.relationshipOf node name = .ok (relationship, related)) :
    basis.model.target? node name = some (relationship, related) := by
  obtain ⟨known, leads⟩ := relationshipOf_ok_iff.mp found
  rw [Model.target?, known, Option.bind_some, leads]
  rfl

theorem pagesAt_of_ok {model : Model} {typeName : String} {node : NodeType}
    (found : model.node typeName = .ok node) (pages : NodeType → List PageRequest) :
    pagesAt model typeName pages = pages node := by
  unfold pagesAt
  rw [found]

end

variable {basis : Basis}

theorem planEdgeLeaf_only {allowed : Failure → Prop} {issuer : String}
    {properties : Option PropertiesType} {leaf : Leaf} (fits : leaf.FitsEdge properties) :
    Only allowed (Basis.planEdgeLeaf issuer properties leaf) := by
  unfold Basis.planEdgeLeaf
  split
  · exact .ok _
  · next other =>
    split
    · exact .ok _
    · next none_ =>
      simp only [Bool.or_eq_true, decide_eq_true_eq, not_or] at other
      rcases fits with cursor | name | known
      · exact absurd cursor other.1
      · exact absurd name other.2
      · rw [none_] at known
        cases known

mutual

/-- A field that fits the model is planned unless a page in it is refused. -/
theorem planField_only (node : NodeType) : (field : NodeField) →
    field.Fits basis.model basis.features.relationshipProperties node →
    Only (RefusesSome basis (field.pages basis.model node)) (basis.planField node field)
  | .leaf leaf, fits => by
      cases fits with
      | leaf known =>
          unfold Basis.planField Basis.planLeaf
          split
          · exact .ok _
          · next other =>
            split
            · exact .ok _
            · next none_ =>
              rw [none_] at known
              exact known.elim (absurd · other) (nomatch ·)
  | .relationship key name typeName fields, fits => by
      cases fits with
      | relationship found leads inner =>
          have resolved := relationshipOf_eq found leads
          rw [Basis.planField, NodeField.pages, target?_of_relationshipOf resolved]
          exact .bind_ok resolved (.bind (planFields_only _ fields inner) fun _ _ => .ok _)
  | .connection key name first after fields, fits => by
      obtain ⟨offered, sized, relationship, related, found, leads, each⟩ :=
        NodeField.Fits.connection_iff.mp fits
      have resolved := relationshipOf_eq found leads
      rw [Basis.planField, offered, NodeField.pages, target?_of_relationshipOf resolved]
      refine .bind_ok resolved (.bind ?_ fun page _ => .bind ?_ fun _ _ => .ok _)
      · have here : PageRequest.IsSized ⟨Basis.issuerOf node relationship, first, after⟩ := sized
        exact (pageOf_refuses here).weaken fun _ refuses => ⟨_, List.mem_cons_self .., refuses⟩
      · exact (planSets_only _ _ related fields each).weaken (RefusesSome.right [_])

theorem planFields_only (node : NodeType) : (fields : List NodeField) →
    (∀ field ∈ fields, field.Fits basis.model basis.features.relationshipProperties node) →
    Only (RefusesSome basis (NodeField.pagesOf basis.model node fields))
      (basis.planFields node fields)
  | [], _ => .ok _
  | field :: rest, each => by
      rw [List.forall_mem_cons] at each
      rw [Basis.planFields]
      refine .bind ((planField_only node field each.1).weaken RefusesSome.left) fun _ _ => ?_
      refine .bind ((planFields_only node rest each.2).weaken (RefusesSome.right _)) fun _ _ => ?_
      exact .ok _

theorem planSets_only (issuer : String) (properties : Option PropertiesType) (related : NodeType) :
    (fields : List ConnectionField) → (∀ field ∈ fields,
      field.Fits basis.model basis.features.relationshipProperties properties related) →
    Only (RefusesSome basis (ConnectionField.pagesOf basis.model related fields))
      (basis.planSets issuer properties related fields)
  | [], _ => .ok _
  | .edges key edges :: rest, each => by
      rw [List.forall_mem_cons] at each
      rw [Basis.planSets]
      refine .bind ((planEdges_only issuer properties related edges each.1).weaken
        RefusesSome.left) fun _ _ => ?_
      refine .bind ((planSets_only issuer properties related rest each.2).weaken
        (RefusesSome.right _)) fun _ _ => ?_
      exact .ok _
  | .leaf _ :: rest, each => by
      rw [Basis.planSets]
      exact planSets_only issuer properties related rest (List.forall_mem_cons.mp each).2
  | .pageInfo _ _ :: rest, each => by
      rw [Basis.planSets]
      exact planSets_only issuer properties related rest (List.forall_mem_cons.mp each).2

theorem planEdges_only (issuer : String) (properties : Option PropertiesType) (related : NodeType) :
    (edges : List EdgeField) → (∀ edge ∈ edges,
      edge.Fits basis.model basis.features.relationshipProperties properties related) →
    Only (RefusesSome basis (EdgeField.pagesOf basis.model related edges))
      (basis.planEdges issuer properties related edges)
  | [], _ => .ok _
  | .leaf leaf :: rest, each => by
      rw [List.forall_mem_cons] at each
      rw [Basis.planEdges]
      refine .bind (planEdgeLeaf_only each.1) fun _ _ => ?_
      exact .bind (planEdges_only issuer properties related rest each.2) fun _ _ => .ok _
  | .node key typeName fields :: rest, each => by
      rw [List.forall_mem_cons] at each
      rw [Basis.planEdges]
      refine .bind ((planFields_only related fields each.1).weaken RefusesSome.left) fun _ _ => ?_
      refine .bind ((planEdges_only issuer properties related rest each.2).weaken
        (RefusesSome.right _)) fun _ _ => ?_
      exact .ok _

end

theorem planVariants_only {variants : List NodeSelection} (each : ∀ selection ∈ variants,
    selection.Fits basis.model basis.features.relationshipProperties) :
    Only (RefusesSome basis (variants.flatMap fun selection =>
        pagesAt basis.model selection.typeName fun node =>
          NodeField.pagesOf basis.model node selection.fields))
      (basis.planVariants variants) := by
  induction variants with
  | nil => exact .ok _
  | cons selection rest ih =>
      obtain ⟨⟨node, found, fits⟩, later⟩ := List.forall_mem_cons.mp each
      rw [Basis.planVariants, found, List.flatMap_cons, pagesAt_of_ok found]
      refine .bind (.ok node) fun _ same => ?_
      cases same
      refine .bind ((planFields_only node _ fits).weaken RefusesSome.left) fun _ _ => ?_
      exact .bind ((ih later).weaken (RefusesSome.right _)) fun _ _ => .ok _

theorem planResponse_only {node : NodeType} {fields : List ResponseField}
    (found : basis.model.node node.name = .ok node) (each : ∀ field ∈ fields,
      field.Fits basis.model basis.features.relationshipProperties node.name) :
    Only (RefusesSome basis (fields.flatMap (ResponseField.pages basis.model node)))
      (basis.planResponse node fields) := by
  induction fields with
  | nil => exact .ok _
  | cons field rest ih =>
      obtain ⟨first, later⟩ := List.forall_mem_cons.mp each
      cases field with
      | leaf leaf => exact ih later
      | nodes key selection =>
          obtain ⟨named, other, known, fits⟩ := first
          rw [named, found] at known
          cases known
          rw [Basis.planResponse, List.flatMap_cons, ResponseField.pages]
          refine .bind ((planFields_only node _ fits).weaken RefusesSome.left) fun _ _ => ?_
          exact .bind ((ih later).weaken (RefusesSome.right _)) fun _ _ => .ok _

end GraphGateway.Statement

namespace GraphGateway.Request

/-- A root field with its arguments, but nothing selected. -/
def RootField.withoutSelections : RootField → RootField
  | .list key typeName selection filter =>
      .list key typeName { selection with fields := [] } filter
  | .lookup key id variants =>
      .lookup key id (variants.map fun selection => { selection with fields := [] })
  | .create key typeName inputs response =>
      .create key typeName inputs { response with fields := [] }
  | .update key typeName response filter assignments connections =>
      .update key typeName { response with fields := [] } filter assignments connections
  | .typename key typeName => .typename key typeName

/-- A root field with its selections, but no filter and no inputs. -/
def RootField.withoutInputs : RootField → RootField
  | .list key typeName selection _ => .list key typeName selection (.object [])
  | .lookup key id variants => .lookup key id variants
  | .create key typeName _ response => .create key typeName [] response
  | .update key typeName response _ _ _ =>
      .update key typeName response (.object []) (.object []) (.object [])
  | .typename key typeName => .typename key typeName

end GraphGateway.Request

namespace GraphGateway.Statement

open Outcome (Only)
open Request Schema

variable {basis : Basis}

/-- A root field that fits the model fails over one of its pages, or fails alike with nothing selected.
-/
theorem plan_only {field : RootField} (some_ : basis.model.nodes ≠ [])
    (fits : field.Fits basis.model basis.features.relationshipProperties) :
    Only (fun failure => RefusesSome basis (field.pages basis.model) failure ∨
      basis.plan field.withoutSelections = .error failure) (basis.plan field) := by
  cases field with
  | typename key typeName => exact fun failure failed => .inr failed
  | list key typeName selection filter =>
      obtain ⟨rfl, node, found, fits⟩ := fits
      unfold Basis.plan RootField.withoutSelections
      rw [RootField.pages, pagesAt_of_ok found]
      refine .bind_or fun latest same => ?_
      rw [found] at same
      cases same
      refine .bind_or fun filter _ => ?_
      exact (Only.bind (planFields_only node _ fits) fun _ _ => .ok _).weaken fun _ => .inl
  | lookup key id variants =>
      obtain ⟨offered, filled, fits, -⟩ := fits
      unfold Basis.plan
      simp only [offered, Bool.not_true, Bool.false_eq_true, if_false, List.isEmpty_iff, filled some_]
      exact (Only.bind (planVariants_only fits) fun _ _ => .ok _).weaken fun _ => .inl
  | create key typeName inputs response =>
      obtain ⟨⟨node, found⟩, fits⟩ := fits
      cases Model.node_name found
      unfold Basis.plan RootField.withoutSelections
      rw [RootField.pages, pagesAt_of_ok found]
      refine .bind_or fun latest same => ?_
      rw [found] at same
      cases same
      refine .bind_or fun nodes _ => ?_
      exact (Only.bind (planResponse_only found fits) fun _ _ => .ok _).weaken fun _ => .inl
  | update key typeName response filter assignments connections =>
      obtain ⟨⟨node, found⟩, fits⟩ := fits
      cases Model.node_name found
      unfold Basis.plan RootField.withoutSelections
      rw [RootField.pages, pagesAt_of_ok found]
      refine .bind_or fun latest same => ?_
      rw [found] at same
      cases same
      iterate 6 refine .bind_or fun _ _ => ?_
      exact (Only.bind (planResponse_only found fits) fun _ _ => .ok _).weaken fun _ => .inl

theorem planEntries_none {allowed : Failure → Prop} (node : NodeType) (path : String) :
    Only allowed (basis.planEntries node path []) :=
  .bind (.mapM fun _ _ => .ok _) fun _ _ => .ok _

/-- A root field that fits the model and has no inputs fails over one of its pages only. -/
theorem plan_withoutInputs_only {field : RootField} (some_ : basis.model.nodes ≠ [])
    (asks : field.isTypename = false) (fits : field.Fits basis.model basis.features.relationshipProperties) :
    Only (RefusesSome basis (field.pages basis.model)) (basis.plan field.withoutInputs) := by
  cases field with
  | typename key typeName => cases asks
  | list key typeName selection filter =>
      obtain ⟨rfl, node, found, fits⟩ := fits
      rw [RootField.withoutInputs, Basis.plan, found, RootField.pages, pagesAt_of_ok found]
      refine .bind (.ok node) fun latest same => ?_
      cases same
      refine .bind (.ok _) fun _ _ => ?_
      exact .bind (planFields_only node _ fits) fun _ _ => .ok _
  | lookup key id variants =>
      obtain ⟨offered, filled, fits, -⟩ := fits
      unfold RootField.withoutInputs Basis.plan
      simp only [offered, Bool.not_true, Bool.false_eq_true, if_false, List.isEmpty_iff, filled some_]
      exact .bind (planVariants_only fits) fun _ _ => .ok _
  | create key typeName inputs response =>
      obtain ⟨⟨node, found⟩, fits⟩ := fits
      cases Model.node_name found
      rw [RootField.withoutInputs, Basis.plan, found, RootField.pages, pagesAt_of_ok found]
      refine .bind (.ok node) fun latest same => ?_
      cases same
      refine .bind (.ok _) fun _ _ => ?_
      exact .bind (planResponse_only found fits) fun _ _ => .ok _
  | update key typeName response filter assignments connections =>
      obtain ⟨⟨node, found⟩, fits⟩ := fits
      cases Model.node_name found
      rw [RootField.withoutInputs, Basis.plan, found, RootField.pages, pagesAt_of_ok found]
      refine .bind (.ok node) fun latest same => ?_
      cases same
      refine .bind (.ok _) fun _ _ => .bind (.ok _) fun input given => ?_
      cases given
      refine .bind (.ok _) fun _ _ => .bind (planEntries_none node key) fun _ _ => ?_
      refine .bind (.ok _) fun connections given => ?_
      cases given
      refine .bind (.ok _) fun _ _ => ?_
      exact .bind (planResponse_only found fits) fun _ _ => .ok _

end GraphGateway.Statement

namespace GraphGateway.Service

open Graphql (Document Operation)
open Outcome (Only)
open Schema Settings

/-- The operation of a valid document that is wanted can be read. -/
theorem Served.isReadable {schema : Document} {features : Features} {spareKey : List UInt8}
    {served : Served} (made : Served.ofDocument schema features spareKey = .ok served)
    (servable : served.types.isServable = true) {document : Document} {sent : Entries Value}
    {wanted : Option String} {operation : Operation} {bindings : Entries Value}
    (valid : document.isValid served.types = true)
    (found : document.operation? wanted = some operation)
    (given : served.variablesFor? document sent wanted = some bindings) :
    Request.IsReadable ⟨served.surface, document, bindings⟩ operation
      served.features.relationshipProperties := by
  obtain ⟨declared, read, -, same, rfl, augmented, built⟩ := Served.of_document made
  rw [Served.variablesFor?, found] at given
  have settled := Graphql.IsSettled.of_coerceVariables? (Document.mem_of_operation? found) valid given
  have linked : served.model.IsLinked := same ▸ Declared.isLinked read
  exact ⟨settled, linked, augmented, built, servable⟩

/-- What is served of a schema with node types, none of which has the name of a builtin scalar, is
compiled wherever a valid query or mutation selects it: the operation is read, and selections fail
over pages only.  The limit that an interpreter's stack sets to nesting is modelled for the payloads of
cursors, but not for selections, which may nest as deep as they like. -/
theorem Served.selections_compile {schema : Document} {features : Features}
    {spareKey : List UInt8} {served : Served}
    (made : Served.ofDocument schema features spareKey = .ok served)
    (some_ : served.model.nodes ≠ [])
    (unscalared : ∀ node ∈ served.model.nodes, node.name ∉ builtinScalars)
    (servable : served.types.isServable = true) {document : Document} {sent : Entries Value}
    {wanted : Option String} {operation : Operation} {bindings : Entries Value}
    (valid : document.isValid served.types = true)
    (found : document.operation? wanted = some operation) (kind : operation.kind ≠ .subscription)
    (plain : operation.asksTypes served.types document = false)
    (given : served.variablesFor? document sent wanted = some bindings)
    (coerces : operation.coerces served.types document bindings = true) :
    ∃ parsed, served.surface.read document bindings wanted = .ok parsed ∧
      ∀ field ∈ parsed.fields, field.isTypename = false →
        Only served.basis.IsPageFailure (served.basis.compile field.withoutInputs) ∧
        ∀ failure, served.basis.compile field = .error failure →
          served.basis.IsPageFailure failure ∨
            served.basis.compile field.withoutSelections = .error failure := by
  have readable := Served.isReadable made servable valid found given
  obtain ⟨parsed, done, fits⟩ := (Request.operation_fitting readable).total
    ⟨⟨coerces, plain, some_, unscalared⟩, kind⟩
  refine ⟨parsed, ?_, fun field member asks => ⟨?_, fun failure failed => ?_⟩⟩
  · unfold Request.Surface.read
    rw [found]
    exact done
  · have only : Only _ (served.basis.plan field.withoutInputs) :=
      Statement.plan_withoutInputs_only some_ asks (fits field member)
    exact .bind (only.weaken fun _ => Statement.RefusesSome.isPageFailure) fun _ _ => .ok _
  · rcases Outcome.bind_error_iff.mp failed with here | ⟨_, -, impossible⟩
    · refine (Statement.plan_only some_ (fits field member) failure here).imp
        Statement.RefusesSome.isPageFailure fun alike => ?_
      exact Outcome.bind_error_iff.mpr (.inl alike)
    · cases impossible

/-- The operation that asks for movies with the first of their actors. -/
def starring : Operation where
  kind := .query
  name := none
  declarations := []
  directives := []
  selections :=
    [.field none "movies" [] []
      [.field none "title" [] [] [],
       .field (some "cast") "actorsConnection" [("first", .int "1")] []
        [.field none "edges" [] []
          [.field none "role" [] [] [], .field none "node" [] [] [.field none "name" [] [] []]],
         .field none "pageInfo" [] [] [.field none "hasNextPage" [] [] []]]]]

theorem selections_compile_starring :
    ∃ parsed, stage.surface.read [.operation starring] [] none = .ok parsed ∧
      ∀ field ∈ parsed.fields, field.isTypename = false →
        Only stage.basis.IsPageFailure (stage.basis.compile field.withoutInputs) ∧
        ∀ failure, stage.basis.compile field = .error failure →
          stage.basis.IsPageFailure failure ∨
            stage.basis.compile field.withoutSelections = .error failure := by
  have unscalared : (stage.model.nodes.all fun node => !builtinScalars.contains node.name) =
      true := by
    rw [stage_model]
    decide
  have sent : stage.variablesFor? [.operation starring] [] none = some [] := rfl
  have some_ : stage.model.nodes ≠ [] := by
    rw [stage_model]
    exact List.cons_ne_nil _ _
  refine Served.selections_compile stage_made some_ ?_ stage_servable
    (by decide +kernel) rfl (by decide) (by decide +kernel) sent (by decide +kernel)
  intro node member
  simpa using List.all_eq_true.mp unscalared node member

/-- A schema whose one node type has the name of a builtin scalar. -/
def scaled : Served :=
  (Served.ofDocument
    [.object { name := "Float", directives := [], fields := [⟨"a", .named "String", []⟩] }]
    {} []).toOption.get (by decide +kernel)

/-- The operation that asks for the nodes of that type, which the type system takes for scalars. -/
def floating : Operation where
  kind := .query
  name := none
  declarations := []
  directives := []
  selections := [.field none "floats" [] [] []]

/-- Whether an answer could not be read for a reason. -/
def isUnbuildable {α : Type} (reason : String) : Except Request.Failure α → Bool
  | .error (.fault (.unbuildable told none none)) => told == reason
  | _ => false

theorem eq_unbuildable {α : Type} {reason : String} {answer : Except Request.Failure α}
    (refused : isUnbuildable reason answer = true) :
    answer = .error (.fault (.unbuildable reason none none)) := by
  unfold isUnbuildable at refused
  split at refused
  · rw [eq_of_beq refused]
  · cases refused

theorem exists_unread_floats :
    Served.ofDocument
        [.object { name := "Float", directives := [], fields := [⟨"a", .named "String", []⟩] }]
        {} [] = .ok scaled ∧
      scaled.model.nodes ≠ [] ∧ scaled.types.isServable = true ∧
      Document.isValid scaled.types [.operation floating] = true ∧
      floating.asksTypes scaled.types [.operation floating] = false ∧
      scaled.variablesFor? [.operation floating] [] none = some [] ∧
      floating.coerces scaled.types [.operation floating] [] = true ∧
      scaled.surface.read [.operation floating] [] none =
        .error (.fault (.unbuildable "'Float' is not an object type" none none)) := by
  have refused : isUnbuildable "'Float' is not an object type"
      (scaled.surface.read [.operation floating] [] none) = true := by
    decide +kernel
  exact ⟨Outcome.eq_ok_of_isSome _, by decide +kernel, by decide +kernel, by decide +kernel,
    by decide +kernel, rfl, by decide +kernel, eq_unbuildable refused⟩

end GraphGateway.Service
