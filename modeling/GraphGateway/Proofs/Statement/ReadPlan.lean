import GraphGateway.Proofs.Request.Argument
import GraphGateway.Proofs.Request.Keyed
import GraphGateway.Statement.Projection

/-!
Laws of filters and of planned pages: what entries a filter is read from, what the size and the start
of a page come from, and under which keys what is planned is answered.
-/
namespace GraphGateway.Statement

open Request Schema

theorem readFilter_ok_iff {node : NodeType} {filter : Value} {path : String}
    {accepted : List Assignment} :
    readFilter node filter path = .ok accepted ↔
      ∃ entries, entriesOf? filter = some entries ∧
        filterEntries node entries = (accepted, none) := by
  unfold readFilter
  cases filter with
  | object entries =>
      rcases found : filterEntries node entries with ⟨first, stopped⟩
      cases stopped <;> simp [entriesOf?, found]
  | _ =>
      dsimp only [entriesOf?]
      split <;> simp [filterEntries, eq_comm]

def FieldPlan.key : FieldPlan → String
  | .property key _ => key
  | .related key _ _ => key
  | .connection key _ _ _ => key

def EdgeSetPlan.key : EdgeSetPlan → String
  | .mk key _ => key

def EdgePlan.key : EdgePlan → String
  | .property key _ => key
  | .node key _ => key

section

variable {basis : Basis} {issuer : String}

/-- A page is limited as its size says, and starts at the position that its cursor carries. -/
theorem pageOf_ok_iff {first after : Value} {page : Page} :
    basis.pageOf issuer first after = .ok page ↔
      (first.isNull = true ∧ page.limit = none ∨ first.isNull = false ∧
        ∃ limit, basis.pageLimit issuer first = .ok limit ∧ page.limit = some limit) ∧
      (after.isNull = true ∧ page.start = none ∨ after.isNull = false ∧
        ∃ position, basis.codec.decode after (.text issuer) = .ok position ∧
          page.start = some position.orderingKey) := by
  obtain ⟨start, limit⟩ := page
  unfold Basis.pageOf
  cases first.isNull with
  | true =>
      cases after.isNull with
      | true => simp [pure, Except.pure, bind, Except.bind, eq_comm, and_comm]
      | false =>
          cases basis.codec.decode after (.text issuer) with
          | error rejection =>
              simp [pure, Except.pure, bind, Except.bind, throw, throwThe, MonadExceptOf.throw]
          | ok position => simp [pure, Except.pure, bind, Except.bind, eq_comm, and_comm]
  | false =>
      cases basis.pageLimit issuer first with
      | error failure => simp [bind, Except.bind, Functor.map, Except.map]
      | ok bound =>
          cases after.isNull with
          | true =>
              simp [pure, Except.pure, bind, Except.bind, Functor.map, Except.map, eq_comm, and_comm]
          | false =>
              cases basis.codec.decode after (.text issuer) with
              | error rejection =>
                  simp [bind, Except.bind, Functor.map, Except.map, throw, throwThe,
                    MonadExceptOf.throw]
              | ok position =>
                  simp [pure, Except.pure, bind, Except.bind, Functor.map, Except.map, eq_comm,
                    and_comm]

theorem relationshipOf_ok_iff {node related : NodeType} {name : String}
    {relationship : Relationship} :
    basis.relationshipOf node name = .ok (relationship, related) ↔
      node.relationship? name = some relationship ∧
        basis.model.related relationship = .ok related := by
  unfold Basis.relationshipOf
  cases node.relationship? name with
  | none => simp [Failure.unbuildable]
  | some found =>
      simp only [Outcome.bind_ok_iff, Failure.ofLookup, Outcome.mapError_ok_iff, Option.some.injEq]
      constructor
      · rintro ⟨target, leads, made⟩
        cases made
        exact ⟨rfl, leads⟩
      · rintro ⟨rfl, leads⟩
        exact ⟨related, leads, rfl⟩

/-- A leaf of a node is planned as a stored property, or it is answered without the database. -/
theorem planLeaf_cases {node : NodeType} {leaf : Leaf} {plans : List FieldPlan}
    (planned : Basis.planLeaf node leaf = .ok plans) :
    plans = [] ∨ ∃ stored, plans = [.property leaf.key stored] := by
  unfold Basis.planLeaf at planned
  split at planned
  · cases planned
    exact .inl rfl
  · split at planned
    · cases planned
      exact .inr ⟨_, rfl⟩
    · cases planned

theorem planEdgeLeaf_cases {issuer : String} {properties : Option PropertiesType} {leaf : Leaf}
    {plans : List EdgePlan} (planned : Basis.planEdgeLeaf issuer properties leaf = .ok plans) :
    plans = [] ∨ ∃ stored, plans = [.property leaf.key stored] := by
  unfold Basis.planEdgeLeaf at planned
  split at planned
  · cases planned
    exact .inl rfl
  · split at planned
    · cases planned
      exact .inr ⟨_, rfl⟩
    · cases planned

theorem limit_isSome {first after : Value} {page : Page}
    (read : basis.pageOf issuer first after = .ok page) : page.limit.isSome = !first.isNull := by
  rcases (pageOf_ok_iff.mp read).1 with ⟨missing, none_⟩ | ⟨given, limit, -, some_⟩
  · rw [missing, none_]
    rfl
  · rw [given, some_]
    rfl

theorem start_isSome {first after : Value} {page : Page}
    (read : basis.pageOf issuer first after = .ok page) : page.start.isSome = !after.isNull := by
  rcases (pageOf_ok_iff.mp read).2 with ⟨missing, none_⟩ | ⟨given, position, -, some_⟩
  · rw [missing, none_]
    rfl
  · rw [given, some_]
    rfl

theorem planSets_keys {issuer : String} {properties : Option PropertiesType} {related : NodeType}
    {fields : List ConnectionField} {sets : List EdgeSetPlan}
    (planned : basis.planSets issuer properties related fields = .ok sets) :
    (sets.map EdgeSetPlan.key).Sublist (fields.map ConnectionField.key) ∧
      ∀ key, key ∈ sets.map EdgeSetPlan.key ↔ ∃ inner, .edges key inner ∈ fields := by
  induction fields generalizing sets with
  | nil =>
      cases planned
      exact ⟨.slnil, by simp⟩
  | cons field rest ih =>
      cases field with
      | edges name fields =>
          obtain ⟨first, -, planned⟩ := Outcome.bind_ok_iff.mp planned
          obtain ⟨others, all, made⟩ := Outcome.bind_ok_iff.mp planned
          cases made
          obtain ⟨kept, members⟩ := ih all
          refine ⟨kept.cons_cons name, fun key => ?_⟩
          simp [EdgeSetPlan.key, members key, exists_or]
      | leaf leaf =>
          obtain ⟨kept, members⟩ := ih planned
          exact ⟨kept.cons _, fun key => by simp [members key]⟩
      | pageInfo name leaves =>
          obtain ⟨kept, members⟩ := ih planned
          exact ⟨kept.cons _, fun key => by simp [members key]⟩

end

/-- A field with edges under the key of their order, at whatever depth. -/
inductive HidesOrder : NodeField → Prop where
  | edges {key name : String} {first after : Value} {fields : List ConnectionField}
      {inner : List EdgeField} (member : .edges sequenceKey inner ∈ fields) :
      HidesOrder (.connection key name first after fields)
  | relationship {key name typeName : String} {fields : List NodeField} {field : NodeField}
      (member : field ∈ fields) (inner : HidesOrder field) :
      HidesOrder (.relationship key name typeName fields)
  | node {key name set inside typeName : String} {first after : Value}
      {fields : List ConnectionField} {edges : List EdgeField} {nested : List NodeField}
      {field : NodeField} (among : .edges set edges ∈ fields)
      (within : .node inside typeName nested ∈ edges) (member : field ∈ nested)
      (inner : HidesOrder field) : HidesOrder (.connection key name first after fields)

end GraphGateway.Statement
