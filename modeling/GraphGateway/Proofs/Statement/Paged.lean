import GraphGateway.Proofs.Statement.PageBounds
import GraphGateway.Proofs.Statement.Selected

/-!
Pages that are checked.  A selection asks for a page wherever it has a connection, however deep.  A
root field compiles only if each of them is within the bounds and starts at a cursor of its own
connection; its statement then limits and starts each page by parameters for just that.
-/
namespace GraphGateway.Request

open Cypher Statement

namespace PageRequest

/-- A page of a size within the bounds, behind a cursor of its connection if behind any. -/
structure IsSound (basis : Basis) (request : PageRequest) : Prop where
  size : ∀ size, request.first = .int size →
    0 ≤ size ∧ ∀ most, basis.features.maxPageSize = some most → size ≤ most
  start : request.after ≠ .null →
    ∃ position, basis.codec.decode request.after (.text request.issuer) = .ok position

/-- What bounds a page is one more than its size, and the position of its cursor: a parameter each,
the latter for the start of the page and for the test for an earlier edge. -/
structure IsMet (basis : Basis) (parameters : Entries Value) (request : PageRequest)
    (bounds : PageBounds) : Prop where
  sound : request.IsSound basis
  unlimited : request.first = .null → bounds.limits = []
  limited : ∀ size, request.first = .int size → ∃ name, bounds.limits = [.parameter name] ∧
    parameters.get? name = some (.int (size + 1))
  unstarted : request.after = .null → bounds.seeks = [] ∧ bounds.tests = []
  started : ∀ position, request.after ≠ .null →
    basis.codec.decode request.after (.text request.issuer) = .ok position →
    ∃ name edge other, parameters.get? name = some (.int position.orderingKey) ∧
      bounds.seeks = [.compare .above (.property edge basis.features.sequenceProperty)
        (.parameter name)] ∧
      bounds.tests = [.compare .atMost (.property other basis.features.sequenceProperty)
        (.parameter name)]

end PageRequest

end GraphGateway.Request

namespace GraphGateway.Statement

open Cypher Request Schema
open Naming (Holds)

/-- A page is planned for what was asked. -/
def Gets (basis : Basis) (request : PageRequest) (page : Page) : Prop :=
  basis.pageOf request.issuer request.first request.after = .ok page

section

variable {basis : Basis}

theorem planEdgeLeaf_pages {issuer : String} {properties : Option PropertiesType} {leaf : Leaf}
    {plans : List EdgePlan} (planned : Basis.planEdgeLeaf issuer properties leaf = .ok plans)
    (rest : List EdgePlan) : EdgePlan.pagesOf (plans ++ rest) = EdgePlan.pagesOf rest := by
  obtain rfl | ⟨stored, rfl⟩ := planEdgeLeaf_cases planned
  · rfl
  · rfl

mutual

/-- The pages of a planned field are those that it asks for. -/
theorem planField_pages (node : NodeType) : (field : NodeField) → {plans : List FieldPlan} →
    basis.planField node field = .ok plans →
    List.Forall₂ (Gets basis) (field.pages basis.model node) (FieldPlan.pagesOf plans)
  | .leaf leaf, plans, planned => by
      rw [Basis.planField] at planned
      obtain rfl | ⟨stored, rfl⟩ := planLeaf_cases planned
      · exact .nil
      · exact .nil
  | .relationship key name typeName fields, plans, planned => by
      rw [Basis.planField] at planned
      obtain ⟨⟨relationship, related⟩, found, planned⟩ := Outcome.bind_ok_iff.mp planned
      obtain ⟨inner, done, made⟩ := Outcome.bind_ok_iff.mp planned
      cases made
      rw [NodeField.pages, target?_of_relationshipOf found]
      simpa [FieldPlan.pagesOf, FieldPlan.pages] using planFields_pages related fields done
  | .connection key name first after fields, plans, planned => by
      rw [Basis.planField] at planned
      split at planned
      · cases planned
      · obtain ⟨⟨relationship, related⟩, found, planned⟩ := Outcome.bind_ok_iff.mp planned
        obtain ⟨page, paged, planned⟩ := Outcome.bind_ok_iff.mp planned
        obtain ⟨sets, done, made⟩ := Outcome.bind_ok_iff.mp planned
        cases made
        rw [NodeField.pages, target?_of_relationshipOf found]
        have gets : Gets basis ⟨Basis.issuerOf node relationship, first, after⟩ page := paged
        simpa [FieldPlan.pagesOf, FieldPlan.pages] using
          And.intro gets (planSets_pages _ _ related fields done)

theorem planFields_pages (node : NodeType) : (fields : List NodeField) →
    {plans : List FieldPlan} → basis.planFields node fields = .ok plans →
    List.Forall₂ (Gets basis) (NodeField.pagesOf basis.model node fields) (FieldPlan.pagesOf plans)
  | [], plans, planned => by
      cases planned
      exact .nil
  | field :: rest, plans, planned => by
      rw [Basis.planFields] at planned
      obtain ⟨first, here, planned⟩ := Outcome.bind_ok_iff.mp planned
      obtain ⟨others, later, made⟩ := Outcome.bind_ok_iff.mp planned
      cases made
      rw [NodeField.pagesOf, FieldPlan.pagesOf_append]
      exact List.rel_append (planField_pages node field here) (planFields_pages node rest later)

theorem planSets_pages (issuer : String) (properties : Option PropertiesType)
    (related : NodeType) : (fields : List ConnectionField) → {sets : List EdgeSetPlan} →
    basis.planSets issuer properties related fields = .ok sets →
    List.Forall₂ (Gets basis) (ConnectionField.pagesOf basis.model related fields)
      (EdgeSetPlan.pagesOf sets)
  | [], sets, planned => by
      cases planned
      exact .nil
  | .edges key edges :: rest, sets, planned => by
      rw [Basis.planSets] at planned
      obtain ⟨first, here, planned⟩ := Outcome.bind_ok_iff.mp planned
      obtain ⟨others, later, made⟩ := Outcome.bind_ok_iff.mp planned
      cases made
      exact List.rel_append (planEdges_pages issuer properties related edges here)
        (planSets_pages issuer properties related rest later)
  | .leaf _ :: rest, sets, planned => by
      rw [Basis.planSets] at planned
      exact planSets_pages issuer properties related rest planned
  | .pageInfo _ _ :: rest, sets, planned => by
      rw [Basis.planSets] at planned
      exact planSets_pages issuer properties related rest planned

theorem planEdges_pages (issuer : String) (properties : Option PropertiesType)
    (related : NodeType) : (edges : List EdgeField) → {plans : List EdgePlan} →
    basis.planEdges issuer properties related edges = .ok plans →
    List.Forall₂ (Gets basis) (EdgeField.pagesOf basis.model related edges)
      (EdgePlan.pagesOf plans)
  | [], plans, planned => by
      cases planned
      exact .nil
  | .leaf leaf :: rest, plans, planned => by
      rw [Basis.planEdges] at planned
      obtain ⟨first, here, planned⟩ := Outcome.bind_ok_iff.mp planned
      obtain ⟨others, later, made⟩ := Outcome.bind_ok_iff.mp planned
      cases made
      rw [EdgeField.pagesOf, planEdgeLeaf_pages here]
      exact planEdges_pages issuer properties related rest later
  | .node key typeName fields :: rest, plans, planned => by
      rw [Basis.planEdges] at planned
      obtain ⟨inner, here, planned⟩ := Outcome.bind_ok_iff.mp planned
      obtain ⟨others, later, made⟩ := Outcome.bind_ok_iff.mp planned
      cases made
      exact List.rel_append (planFields_pages related fields here)
        (planEdges_pages issuer properties related rest later)

end

end

section

variable {basis : Basis}

theorem planResponse_pages {node : NodeType} {fields : List ResponseField}
    {response : ResponsePlan} (planned : basis.planResponse node fields = .ok response) :
    List.Forall₂ (Gets basis) (fields.flatMap (ResponseField.pages basis.model node))
      (response.flatMap fun entry => FieldPlan.pagesOf entry.2) := by
  induction fields generalizing response with
  | nil =>
      cases planned
      exact .nil
  | cons field rest ih =>
      cases field with
      | leaf leaf => exact ih planned
      | nodes key selection =>
          obtain ⟨inner, here, planned⟩ := Outcome.bind_ok_iff.mp planned
          obtain ⟨others, later, made⟩ := Outcome.bind_ok_iff.mp planned
          cases made
          exact List.rel_append (planFields_pages node selection.fields here) (ih later)

theorem planVariants_pages {selections : List NodeSelection} {variants : List VariantPlan}
    (planned : basis.planVariants selections = .ok variants) :
    List.Forall₂ (Gets basis)
      (selections.flatMap fun selection => pagesAt basis.model selection.typeName fun node =>
        NodeField.pagesOf basis.model node selection.fields)
      (variants.flatMap fun variant => FieldPlan.pagesOf variant.fields) := by
  induction selections generalizing variants with
  | nil =>
      cases planned
      exact .nil
  | cons selection rest ih =>
      obtain ⟨node, found, planned⟩ := Outcome.bind_ok_iff.mp planned
      obtain ⟨inner, here, planned⟩ := Outcome.bind_ok_iff.mp planned
      obtain ⟨others, later, made⟩ := Outcome.bind_ok_iff.mp planned
      cases made
      rw [Failure.ofLookup, Outcome.mapError_ok_iff] at found
      rw [List.flatMap_cons, pagesAt_of_ok found]
      exact List.rel_append (planFields_pages node selection.fields here) (ih later)

/-- The pages of a plan are those that its root field asks for. -/
theorem plan_pages {field : RootField} {plan : Plan} (planned : basis.plan field = .ok plan) :
    List.Forall₂ (Gets basis) (field.pages basis.model) plan.pages := by
  cases field with
  | list key typeName selection filter =>
      obtain ⟨node, found, planned⟩ := Outcome.bind_ok_iff.mp planned
      obtain ⟨condition, -, planned⟩ := Outcome.bind_ok_iff.mp planned
      obtain ⟨fields, here, made⟩ := Outcome.bind_ok_iff.mp planned
      cases made
      rw [RootField.pages, pagesAt_of_ok (Outcome.mapError_ok_iff.mp found)]
      exact planFields_pages node selection.fields here
  | lookup key id variants =>
      simp only [Basis.plan] at planned
      split at planned
      · cases planned
      · split at planned
        · cases planned
        · obtain ⟨branches, here, made⟩ := Outcome.bind_ok_iff.mp planned
          cases made
          exact planVariants_pages here
  | create key typeName inputs response =>
      obtain ⟨node, found, planned⟩ := Outcome.bind_ok_iff.mp planned
      obtain ⟨nodes, -, planned⟩ := Outcome.bind_ok_iff.mp planned
      obtain ⟨answer, here, made⟩ := Outcome.bind_ok_iff.mp planned
      cases made
      rw [RootField.pages, pagesAt_of_ok (Outcome.mapError_ok_iff.mp found)]
      exact planResponse_pages here
  | update key typeName response filter assignments connections =>
      obtain ⟨node, found, planned⟩ := Outcome.bind_ok_iff.mp planned
      obtain ⟨condition, -, planned⟩ := Outcome.bind_ok_iff.mp planned
      obtain ⟨entries, -, planned⟩ := Outcome.bind_ok_iff.mp planned
      obtain ⟨⟨⟩, -, planned⟩ := Outcome.bind_ok_iff.mp planned
      obtain ⟨nested, -, planned⟩ := Outcome.bind_ok_iff.mp planned
      obtain ⟨given, -, planned⟩ := Outcome.bind_ok_iff.mp planned
      obtain ⟨updates, -, planned⟩ := Outcome.bind_ok_iff.mp planned
      obtain ⟨answer, here, made⟩ := Outcome.bind_ok_iff.mp planned
      cases made
      rw [RootField.pages, pagesAt_of_ok (Outcome.mapError_ok_iff.mp found)]
      exact planResponse_pages here
  | typename key typeName => cases planned

end

section

variable {basis : Basis} {request : PageRequest}

theorem pageLimit_int {issuer : String} {size : Int} {limit : Value} :
    basis.pageLimit issuer (.int size) = .ok limit ↔
      (0 ≤ size ∧ ∀ most, basis.features.maxPageSize = some most → size ≤ most) ∧
        limit = .int (size + 1) := by
  unfold Basis.pageLimit
  rw [Value.less?_int]
  dsimp only [Basis.successor?]
  by_cases below : size < 0
  · simp [below, Failure.invalid]
  · cases bounded : basis.features.maxPageSize with
    | none => simp [below, pure, Except.pure, eq_comm, Int.not_lt.mp below]
    | some most =>
        dsimp only
        rw [Value.less?_int]
        by_cases above : most < size
        · simp [below, above, Failure.invalid]
        · simp [below, above, pure, Except.pure, eq_comm, Int.not_lt.mp below, Int.not_lt.mp above]

theorem Gets.isSound {page : Page} (gets : Gets basis request page) : request.IsSound basis := by
  obtain ⟨limited, started⟩ := pageOf_ok_iff.mp gets
  constructor
  · intro size asked
    rw [asked] at limited
    rcases limited with ⟨missing, -⟩ | ⟨-, limit, done, -⟩
    · cases missing
    · exact (pageLimit_int.mp done).1
  · intro given
    rcases started with ⟨missing, -⟩ | ⟨-, position, decoded, -⟩
    · exact absurd ((Value.isNull_iff _).mp missing) given
    · exact ⟨position, decoded⟩

/-- What bounds a page that is planned for a request is what was asked. -/
theorem Gets.isMet {page : Page} (gets : Gets basis request page) {parameters : Entries Value}
    {bounds : PageBounds}
    (reads : Page.IsRead basis.features.sequenceProperty parameters page bounds) :
    request.IsMet basis parameters bounds := by
  obtain ⟨limited, started⟩ := pageOf_ok_iff.mp gets
  obtain ⟨⟨count, counted, limits⟩, edge, other, place, starting, seeks, tests⟩ := reads
  refine ⟨gets.isSound, fun missing => ?_, fun size asked => ?_, fun missing => ?_,
    fun position given decoded => ?_⟩
  · rw [missing] at limited
    rcases limited with ⟨-, none_⟩ | ⟨given, -⟩
    · rw [none_] at counted
      cases counted
      exact limits
    · cases given
  · rw [asked] at limited
    rcases limited with ⟨missing, -⟩ | ⟨-, limit, done, some_⟩
    · cases missing
    · obtain ⟨-, rfl⟩ := pageLimit_int.mp done
      rw [some_] at counted
      cases counted with
      | some held =>
          obtain ⟨name, rfl, bound⟩ := held
          exact ⟨name, limits, bound⟩
  · rw [missing] at started
    rcases started with ⟨-, none_⟩ | ⟨given, -⟩
    · rw [none_] at starting
      cases starting
      exact ⟨seeks, tests⟩
    · cases given
  · rcases started with ⟨missing, -⟩ | ⟨-, found, decodedAgain, some_⟩
    · exact absurd ((Value.isNull_iff _).mp missing) given
    · cases decoded.symm.trans decodedAgain
      rw [some_] at starting
      cases starting with
      | some held =>
          obtain ⟨name, rfl, bound⟩ := held
          exact ⟨name, edge, other, bound, seeks, tests⟩

end

end GraphGateway.Statement
