import GraphGateway.Proofs.Request.Argument
import GraphGateway.Statement.WritePlan

/-!
Laws of planned writes.  The functions that plan an input recur on the parts of it; these equations
say the same without the bounds that make the recursion end.
-/
namespace GraphGateway.Statement

open Request Schema

/-- The properties of a relationship among some entries. -/
def propertyAssignments (type : PropertiesType) (entries : Entries Value) : List Assignment :=
  entries.filterMap fun (name, value) =>
    (type.field? name).map fun field => { field := field.stored, stored := field.stored, value }

/-- Properties are accepted if they are all known, if a creation lacks none that is required, and if
an update makes none null that is required. -/
theorem relationshipAssignments_ok_iff {type : PropertiesType} {path : String} {creating : Bool}
    {entries : Entries Value} {accepted : List Assignment} :
    relationshipAssignments type path creating entries = .ok accepted ↔
      (entries.keys.find? fun name => (type.field? name).isNone) = none ∧
      (creating = true → missingProperty? type entries = none) ∧
      (creating = false → nulledProperty? type entries = none) ∧
      accepted = propertyAssignments type entries := by
  unfold relationshipAssignments
  cases entries.keys.find? fun name => (type.field? name).isNone with
  | some name => simp [Failure.invalid]
  | none =>
      cases creating with
      | true =>
          cases missingProperty? type entries with
          | some field => simp
          | none => simp [propertyAssignments, eq_comm]
      | false =>
          cases nulledProperty? type entries with
          | some name => simp [Failure.invalid]
          | none => simp [propertyAssignments, eq_comm]

/-- What has no properties in it is refused, whatever it is. -/
theorem refuseProperties_ne_ok {α : Type} {type : PropertiesType} {path : String} {given : Value}
    {accepted : α} : refuseProperties type path given ≠ .ok accepted := by
  intro impossible
  obtain ⟨names, -, refused⟩ := Outcome.bind_ok_iff.mp impossible
  dsimp only at refused
  split at refused
  · cases refused
  · cases refused

theorem noCreations_ok_iff {value : Value} {created : List EntryPlan} :
    Basis.noCreations value = .ok created ↔ value.isTruthy = false ∧ created = [] := by
  unfold Basis.noCreations
  cases value.isTruthy with
  | false => simp [eq_comm]
  | true => cases value <;> simp

theorem EntryPlan.flatten_paths (entries : List EntryPlan) :
    (entries.map EntryPlan.paths).flatten = EntryPlan.pathsOf entries := by
  induction entries with
  | nil => rfl
  | cons entry rest ih => rw [List.map_cons, List.flatten_cons, ih, EntryPlan.pathsOf]

theorem EntryPlan.pathsOf_append (entries rest : List EntryPlan) :
    EntryPlan.pathsOf (entries ++ rest) = EntryPlan.pathsOf entries ++ EntryPlan.pathsOf rest := by
  rw [← flatten_paths, List.map_append, List.flatten_append, flatten_paths, flatten_paths]

theorem EntryPlan.pathsOf_flatten (lists : List (List EntryPlan)) :
    EntryPlan.pathsOf lists.flatten = (lists.map EntryPlan.pathsOf).flatten := by
  induction lists with
  | nil => rfl
  | cons entries rest ih =>
      rw [List.flatten_cons, pathsOf_append, ih, List.map_cons, List.flatten_cons]

section

variable (basis : Basis)

/-- What one relationship gets of the entries of an input. -/
def Basis.planRelationship (path : String) (entries : Entries Value)
    (relationship : Relationship) : Except Failure (List EntryPlan) :=
  match entries.get? relationship.name with
  | none => pure []
  | some field => basis.planFieldInput relationship s!"{path}.{relationship.name}" field

/-- Relationships take the properties that their type has, and nothing where properties are not
offered. -/
theorem planProperties_ok_iff {relationship : Relationship} {given : Value} {path : String}
    {creating : Bool} {accepted : List Assignment} :
    basis.planProperties relationship given path creating = .ok accepted ↔
      match basis.model.offeredProperties? basis.features.relationshipProperties relationship with
      | none => given.isNull = true ∧ accepted = []
      | some type => ∃ entries, entriesOf? given = some entries ∧
          relationshipAssignments type path creating entries = .ok accepted := by
  unfold Basis.planProperties
  cases basis.model.offeredProperties? basis.features.relationshipProperties relationship with
  | none =>
      cases given.isNull with
      | true => simp [eq_comm]
      | false => simp [Failure.invalid]
  | some type =>
      cases given with
      | object entries => simp [entriesOf?]
      | _ =>
          dsimp only [entriesOf?]
          split <;> simp [refuseProperties_ne_ok]

theorem planConnect_ok_iff {relationship : Relationship} {path : String} {entry : Value}
    {plan : EntryPlan} :
    basis.planConnect relationship path entry = .ok plan ↔
      ∃ (entries : Entries Value) (related : NodeType) (properties filter : List Assignment),
        entry = .object entries ∧
        basis.model.related relationship = .ok related ∧
        basis.planProperties relationship ((entries.get? "properties").getD .null) path true =
          .ok properties ∧
        ((entries.get? "where").getD .null).isNull = false ∧
        readFilter related ((entries.get? "where").getD .null) path = .ok filter ∧
        plan = .connect (Basis.stepOf relationship related) path filter properties := by
  unfold Basis.planConnect
  simp only [Outcome.bind_ok_iff, objectEntries_ok_iff, Failure.ofLookup, Outcome.mapError_ok_iff]
  constructor
  · rintro ⟨entries, rfl, related, found, properties, assigned, planned⟩
    cases missing : ((entries.get? "where").getD .null).isNull with
    | true =>
        rw [missing, if_pos rfl] at planned
        cases planned
    | false =>
        rw [missing, if_neg (by decide)] at planned
        obtain ⟨filter, read, made⟩ := Outcome.bind_ok_iff.mp planned
        cases made
        exact ⟨entries, related, properties, filter, rfl, found, assigned, missing, read, rfl⟩
  · rintro ⟨entries, related, properties, filter, rfl, found, assigned, given, read, rfl⟩
    refine ⟨entries, rfl, related, found, properties, assigned, ?_⟩
    rw [given, if_neg (by decide)]
    exact Outcome.bind_ok_iff.mpr ⟨filter, read, rfl⟩

theorem planConnectionUpdate_ok_iff {relationship : Relationship} {path : String} {entry : Value}
    {update : ConnectionUpdate} :
    basis.planConnectionUpdate relationship path entry = .ok update ↔
      ∃ (entries : Entries Value) (related : NodeType) (properties filter : List Assignment),
        entry = .object entries ∧
        basis.model.related relationship = .ok related ∧
        ((entries.get? "where").getD .null).isNull = false ∧
        basis.planProperties relationship (orEmpty (entries.get? "properties")) path false =
          .ok properties ∧
        readFilter related ((entries.get? "where").getD .null) path = .ok filter ∧
        update = { step := Basis.stepOf relationship related, path, filter, properties } := by
  unfold Basis.planConnectionUpdate
  simp only [Outcome.bind_ok_iff, objectEntries_ok_iff, Failure.ofLookup, Outcome.mapError_ok_iff]
  constructor
  · rintro ⟨entries, rfl, related, found, planned⟩
    cases missing : ((entries.get? "where").getD .null).isNull with
    | true =>
        rw [missing, if_pos rfl] at planned
        cases planned
    | false =>
        rw [missing, if_neg (by decide)] at planned
        obtain ⟨properties, assigned, left⟩ := Outcome.bind_ok_iff.mp planned
        obtain ⟨filter, read, made⟩ := Outcome.bind_ok_iff.mp left
        cases made
        exact ⟨entries, related, properties, filter, rfl, found, missing, assigned, read, rfl⟩
  · rintro ⟨entries, related, properties, filter, rfl, found, given, assigned, read, rfl⟩
    refine ⟨entries, rfl, related, found, ?_⟩
    rw [given, if_neg (by decide)]
    exact Outcome.bind_ok_iff.mpr ⟨properties, assigned, Outcome.bind_ok_iff.mpr ⟨filter, read, rfl⟩⟩

theorem planEntries_eq (node : NodeType) (path : String) (entries : Entries Value) :
    basis.planEntries node path entries =
      List.flatten <$> node.relationships.mapM (basis.planRelationship path entries) := by
  unfold Basis.planEntries
  rw [map_eq_pure_bind]
  rfl

theorem planNode_object (node : NodeType) (path : String) (entries : Entries Value) :
    basis.planNode node path (.object entries) = (do
      checkKeys node path true entries
      checkRequired node path entries
      let nested ← basis.planEntries node path entries
      let id := (entries.get? identifierName).filter (!·.isNull)
      pure (.mk node.name node.identifier.stored id (propertiesIn node entries) nested)) := by
  rw [Basis.planNode]
  refine bind_congr fun _ => bind_congr fun _ => ?_
  rw [planEntries_eq, map_eq_pure_bind, bind_assoc]
  simp only [pure_bind]
  congr 2
  funext relationship
  unfold Basis.planRelationship
  split <;> simp_all

/-- The nodes that a field input creates. -/
def Basis.planCreations (relationship : Relationship) (path : String) (entries : Entries Value) :
    Except Failure (List EntryPlan) :=
  match entries.get? createKey with
  | none => pure []
  | some (.list items) => planEach path createKey (basis.planCreate relationship) items
  | some value => noCreations value

/-- The nodes that a field input connects. -/
def Basis.planConnections (relationship : Relationship) (path : String) (entries : Entries Value) :
    Except Failure (List EntryPlan) :=
  match entries.get? connectKey with
  | none => pure []
  | some value => do
      let items ← itemsOf value
      planEach path connectKey (basis.planConnect relationship) items

theorem planEach_attach {α : Type} (path key : String) (plan : String → Value → Except Failure α)
    (items : List Value) :
    (items.attach.zipIdx.mapM fun entry => plan s!"{path}.{key}[{entry.2}]" entry.1.val) =
      Basis.planEach path key plan items := by
  have dropped : items.zipIdx = items.attach.zipIdx.map fun entry => (entry.1.val, entry.2) := by
    conv_lhs => rw [← List.attach_map_subtype_val items, List.zipIdx_map]
    rfl
  unfold Basis.planEach
  rw [dropped, List.mapM_map]
  rfl

theorem planFieldInput_object (relationship : Relationship) (path : String)
    (entries : Entries Value) :
    basis.planFieldInput relationship path (.object entries) = (do
      checkFieldKeys path (entries.keys.map .text)
      let created ← basis.planCreations relationship path entries
      let connected ← basis.planConnections relationship path entries
      pure (created ++ connected)) := by
  rw [Basis.planFieldInput]
  refine bind_congr fun _ => ?_
  unfold Basis.planCreations Basis.planConnections
  dsimp only
  cases created : entries.get? createKey with
  | none => cases entries.get? connectKey <;> simp
  | some value =>
      cases value with
      | list items =>
          simp only [← planEach_attach path createKey]
          cases entries.get? connectKey <;> simp
      | _ => cases entries.get? connectKey <;> simp

theorem planCreate_object (relationship : Relationship) (path : String) (entries : Entries Value) :
    basis.planCreate relationship path (.object entries) = (do
      let related ← Failure.ofLookup (basis.model.related relationship)
      let properties ← basis.planProperties relationship
        ((entries.get? "properties").getD .null) path true
      match entries.get? "node" with
      | none => Failure.invalid "'node' is required" path
      | some .null => Failure.invalid "'node' is required" path
      | some input => do
          let node ← basis.planNode related s!"{path}.node" input
          pure (.create (Basis.stepOf relationship related) properties node)) := by
  rw [Basis.planCreate]
  refine bind_congr fun _ => bind_congr fun _ => ?_
  split
  · simp_all
  · simp_all
  · simp_all

variable {basis}

section

variable {relationship : Relationship} {path : String} {entries : Entries Value}
  {created : List EntryPlan}

theorem creations_of_none (found : entries.get? createKey = none)
    (made : basis.planCreations relationship path entries = .ok created) : created = [] := by
  unfold Basis.planCreations at made
  rw [found] at made
  cases made
  rfl

theorem creations_of_list {items : List Value}
    (found : entries.get? createKey = some (.list items)) :
    basis.planCreations relationship path entries =
      Basis.planEach path createKey (basis.planCreate relationship) items := by
  unfold Basis.planCreations
  rw [found]

/-- Where no list stands, nothing is created. -/
theorem creations_of_flat {value : Value} (found : entries.get? createKey = some value)
    (flat : ∀ items, value ≠ .list items)
    (made : basis.planCreations relationship path entries = .ok created) : created = [] := by
  unfold Basis.planCreations at made
  rw [found] at made
  cases value with
  | list items => exact absurd rfl (flat items)
  | _ => exact (noCreations_ok_iff.mp made).2

end

/-- A node to create is planned from an object whose keys and values pass the checks. -/
theorem planNode_ok_iff {node : NodeType} {path : String} {input : Value} {plan : NodePlan} :
    basis.planNode node path input = .ok plan ↔
      ∃ (entries : Entries Value) (nested : List EntryPlan), input = .object entries ∧
        checkKeys node path true entries = .ok () ∧ checkRequired node path entries = .ok () ∧
        basis.planEntries node path entries = .ok nested ∧
        plan = .mk node.name node.identifier.stored
          ((entries.get? identifierName).filter (!·.isNull)) (propertiesIn node entries) nested := by
  constructor
  · intro planned
    cases input with
    | object entries =>
        rw [planNode_object] at planned
        obtain ⟨⟨⟩, known, planned⟩ := Outcome.bind_ok_iff.mp planned
        obtain ⟨⟨⟩, complete, planned⟩ := Outcome.bind_ok_iff.mp planned
        obtain ⟨nested, entered, made⟩ := Outcome.bind_ok_iff.mp planned
        cases made
        exact ⟨entries, nested, rfl, known, complete, entered, rfl⟩
    | _ =>
        rw [Basis.planNode] at planned
        · cases planned
        · intro entries impossible
          cases impossible
  · rintro ⟨entries, nested, rfl, known, complete, entered, rfl⟩
    rw [planNode_object]
    exact Outcome.bind_ok_iff.mpr ⟨(), known, Outcome.bind_ok_iff.mpr ⟨(), complete,
      Outcome.bind_ok_iff.mpr ⟨nested, entered, rfl⟩⟩⟩

/-- What a relationship gets is planned from an object, or it is nothing. -/
theorem planFieldInput_ok_iff {relationship : Relationship} {path : String} {input : Value}
    {plans : List EntryPlan} :
    basis.planFieldInput relationship path input = .ok plans ↔
      input = .null ∧ plans = [] ∨
      ∃ (entries : Entries Value) (created connected : List EntryPlan), input = .object entries ∧
        checkFieldKeys path (entries.keys.map .text) = .ok () ∧
        basis.planCreations relationship path entries = .ok created ∧
        basis.planConnections relationship path entries = .ok connected ∧
        plans = created ++ connected := by
  constructor
  · intro planned
    cases input with
    | null =>
        rw [Basis.planFieldInput] at planned
        cases planned
        exact .inl ⟨rfl, rfl⟩
    | object entries =>
        rw [planFieldInput_object] at planned
        obtain ⟨⟨⟩, known, planned⟩ := Outcome.bind_ok_iff.mp planned
        obtain ⟨created, creations, planned⟩ := Outcome.bind_ok_iff.mp planned
        obtain ⟨connected, connections, made⟩ := Outcome.bind_ok_iff.mp planned
        cases made
        exact .inr ⟨entries, created, connected, rfl, known, creations, connections, rfl⟩
    | _ =>
        rw [Basis.planFieldInput] at planned
        · obtain ⟨names, -, planned⟩ := Outcome.bind_ok_iff.mp planned
          obtain ⟨-, -, refused⟩ := Outcome.bind_ok_iff.mp planned
          cases refused
        · intro impossible
          cases impossible
        · intro entries impossible
          cases impossible
  · rintro (⟨rfl, rfl⟩ | ⟨entries, created, connected, rfl, known, creations, connections, rfl⟩)
    · rw [Basis.planFieldInput]
    · rw [planFieldInput_object]
      exact Outcome.bind_ok_iff.mpr ⟨(), known, Outcome.bind_ok_iff.mpr ⟨created, creations,
        Outcome.bind_ok_iff.mpr ⟨connected, connections, rfl⟩⟩⟩

/-- A relationship to a new node is planned from an object with properties and a node. -/
theorem planCreate_ok_iff {relationship : Relationship} {path : String} {entry : Value}
    {plan : EntryPlan} :
    basis.planCreate relationship path entry = .ok plan ↔
      ∃ (entries : Entries Value) (related : NodeType) (properties : List Assignment)
        (input : Value) (node : NodePlan), entry = .object entries ∧
        basis.model.related relationship = .ok related ∧
        basis.planProperties relationship ((entries.get? "properties").getD .null) path true =
          .ok properties ∧
        entries.get? "node" = some input ∧
        basis.planNode related s!"{path}.node" input = .ok node ∧
        plan = .create (Basis.stepOf relationship related) properties node := by
  constructor
  · intro planned
    cases entry with
    | object entries =>
        rw [planCreate_object] at planned
        obtain ⟨related, found, planned⟩ := Outcome.bind_ok_iff.mp planned
        obtain ⟨properties, assigned, planned⟩ := Outcome.bind_ok_iff.mp planned
        rw [Failure.ofLookup, Outcome.mapError_ok_iff] at found
        split at planned
        · cases planned
        · cases planned
        · next input _ given =>
          obtain ⟨node, made, done⟩ := Outcome.bind_ok_iff.mp planned
          cases done
          exact ⟨entries, related, properties, input, node, rfl, found, assigned, given, made, rfl⟩
    | _ =>
        rw [Basis.planCreate] at planned
        · cases planned
        · intro entries impossible
          cases impossible
  · rintro ⟨entries, related, properties, input, node, rfl, found, assigned, given, made, rfl⟩
    rw [planCreate_object]
    refine Outcome.bind_ok_iff.mpr ⟨related, ?_, Outcome.bind_ok_iff.mpr ⟨properties, assigned, ?_⟩⟩
    · rw [Failure.ofLookup, Outcome.mapError_ok_iff]
      exact found
    · rw [given]
      obtain ⟨fields, nested, rfl, -⟩ := planNode_ok_iff.mp made
      exact Outcome.bind_ok_iff.mpr ⟨node, made, rfl⟩

end

end GraphGateway.Statement
