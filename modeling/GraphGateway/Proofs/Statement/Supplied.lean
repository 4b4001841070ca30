import GraphGateway.Proofs.Statement.Refusal
import GraphGateway.Proofs.Statement.Selected

/-!
Inputs of valid operations.  Whatever suits the inputs that are grown for a model has the shape that
mutations and filters are planned from: an object where entries are wanted, a list where items are, and
the same again in the inputs for related nodes.  So a root field that the model answers is planned or
refused; its inputs make planning fail in no other way.
-/
namespace GraphGateway.Schema

open Graphql (FieldDefinition TypeDefinition TypeExpr TypeSystem isStandardName isStandardName_made
  namedType optionalList requiredType)
open Statement (IsEntries IsItems)

/-- A type of a type system that is one for inputs, with a name for every field. -/
structure IsInput (types : TypeSystem) (input : TypeDefinition) : Prop where
  found : types.type? input.name = some input
  kind : input.kind = .input
  names : (input.fields.map FieldDefinition.name).Nodup

namespace IsInput

variable {types : TypeSystem} {input : TypeDefinition} {value : Value} {entries : Entries Value}
  (inputs : IsInput types input)

include inputs

/-- What suits an input is an object of entries for its fields. -/
theorem exists_entries (suits : types.Suits (.named input.name) value) :
    ∃ entries, value = .object entries ∧ ∀ entry ∈ entries, types.AllowsEntry input entry :=
  suits.exists_entries inputs.found inputs.kind

theorem isEntries (allows : types.Allows (.named input.name) value) : IsEntries value := by
  by_cases missing : value = .null
  · rw [missing]
    exact .null
  · obtain ⟨entries, rfl, -⟩ :=
      inputs.exists_entries (allows (TypeExpr.wants_of_ne_null missing))
    exact .object entries

/-- What is given for a field of an input may stand there. -/
theorem allows_of_get? (each : ∀ entry ∈ entries, types.AllowsEntry input entry)
    {field : FieldDefinition} (member : field ∈ input.fields)
    (given : entries.get? field.name = some value) : types.Allows field.type value := by
  obtain ⟨other, found, allows⟩ := each _ (Entries.mem_of_get? given)
  have known : input.field? field.name = some field := find?_name_of_mem inputs.names member
  cases known.symm.trans found
  exact allows

end IsInput

/-- What is no field of an input is not given. -/
theorem get?_eq_none_of_allowed {types : TypeSystem} {input : TypeDefinition}
    {entries : Entries Value} (each : ∀ entry ∈ entries, types.AllowsEntry input entry)
    {name : String} (outside : name ∉ input.fields.map FieldDefinition.name) :
    entries.get? name = none := by
  refine Option.eq_none_iff_forall_not_mem.mpr fun value given => ?_
  obtain ⟨field, found, -⟩ := each _ (Entries.mem_of_get? given)
  exact outside (List.mem_map.mpr ⟨field, List.mem_of_find?_eq_some found, name_of_find? found⟩)

theorem isEntries_getD {given : Option Value} (each : ∀ value, given = some value → IsEntries value) :
    IsEntries (given.getD .null) := by
  cases given with
  | none => exact .null
  | some value => exact each value rfl

/-- A list of what suits a type, or none. -/
theorem isItems_of_allows {types : TypeSystem} {name : String} {value : Value}
    (allows : types.Allows (optionalList name) value) :
    IsItems value ∧
      ∀ items, value = .list items → ∀ item ∈ items, types.Suits (.named name) item := by
  by_cases missing : value = .null
  · rw [missing]
    exact ⟨.null, nofun⟩
  · obtain ⟨items, rfl, each⟩ := (allows (TypeExpr.wants_of_ne_null missing)).exists_items
    refine ⟨.list items, fun others same item member => ?_⟩
    cases same
    exact (each item member).of_nonNull

namespace Model

/-- The field for the properties of a relationship, if they are offered. -/
def propertiesFields (model : Model) (paged : Bool) (relationship : Relationship) :
    List FieldDefinition :=
  match model.offeredProperties? paged relationship with
  | some type => [⟨"properties", namedType (propertiesInputName type.name), []⟩]
  | none => []

/-- The input for a relationship of a new or updated node. -/
def fieldInput (node : NodeType) (relationship : Relationship) : TypeDefinition where
  kind := .input
  name := fieldInputName node relationship
  fields :=
    [⟨"create", optionalList (relationshipInputName node.name relationship.name "CreateFieldInput"),
        []⟩,
      ⟨"connect", optionalList (relationshipInputName node.name relationship.name
        "ConnectFieldInput"), []⟩]

/-- The input for a relationship to a new node. -/
def createFieldInput (model : Model) (paged : Bool) (node : NodeType)
    (relationship : Relationship) : TypeDefinition where
  kind := .input
  name := relationshipInputName node.name relationship.name "CreateFieldInput"
  fields := ⟨"node", requiredType (createInputName relationship.relatedType), []⟩ ::
    model.propertiesFields paged relationship

/-- The input for relationships to nodes that are there. -/
def connectFieldInput (model : Model) (paged : Bool) (node : NodeType)
    (relationship : Relationship) : TypeDefinition where
  kind := .input
  name := relationshipInputName node.name relationship.name "ConnectFieldInput"
  fields := ⟨"where", requiredType (whereInputName relationship.relatedType), []⟩ ::
    model.propertiesFields paged relationship

/-- The input for a change of relationships. -/
def changeEntryInput (node : NodeType) (relationship : Relationship) (type : PropertiesType) :
    TypeDefinition where
  kind := .input
  name := connectionEntryName node relationship
  fields := [⟨"where", requiredType (whereInputName relationship.relatedType), []⟩,
    ⟨"properties", requiredType (updateInputName type.name), []⟩]

namespace IsGrown

variable {model : Model} {paged : Bool} {types : TypeSystem} {node : NodeType}
  {relationship : Relationship} (grown : model.IsGrown paged types)

include grown

theorem isInput {input : TypeDefinition} (offers : model.Offers paged input)
    (kind : input.kind = .input) (foreign : isStandardName input.name = false) :
    IsInput types input :=
  ⟨grown.type?_eq offers foreign, kind, grown.names_nodup offers⟩

theorem filter_isInput (declared : node ∈ model.nodes) : IsInput types (whereOffer node).type :=
  grown.isInput (.filter declared) rfl (isStandardName_made _ (by decide))

theorem fieldInput_isInput (declared : node ∈ model.nodes) (inside : relationship ∈ node.relationships) :
    IsInput types (fieldInput node relationship) ∧
      IsInput types (model.createFieldInput paged node relationship) ∧
      IsInput types (model.connectFieldInput paged node relationship) := by
  have create : model.Offers paged (model.createFieldInput paged node relationship) :=
    .fieldInput declared inside (List.mem_cons_self ..)
  have connect : model.Offers paged (model.connectFieldInput paged node relationship) :=
    .fieldInput declared inside (List.mem_cons_of_mem _ (List.mem_cons_self ..))
  have whole : model.Offers paged (fieldInput node relationship) :=
    .fieldInput declared inside
      (List.mem_cons_of_mem _ (List.mem_cons_of_mem _ (List.mem_cons_self ..)))
  exact ⟨grown.isInput whole rfl (isStandardName_made _ (by decide)),
    grown.isInput create rfl (isStandardName_made _ (by decide)),
    grown.isInput connect rfl (isStandardName_made _ (by decide))⟩

/-- What is given for the properties of a relationship are entries, and only given where the input for
them is offered. -/
theorem properties_isEntries {input : TypeDefinition} {entries : Entries Value} {label : String}
    {wanted : TypeExpr} (inputs : IsInput types input)
    (fields : input.fields = ⟨label, wanted, []⟩ :: model.propertiesFields paged relationship)
    (apart : label ≠ "properties") (each : ∀ entry ∈ entries, types.AllowsEntry input entry) :
    IsEntries ((entries.get? "properties").getD .null) := by
  refine isEntries_getD fun value given => ?_
  unfold propertiesFields at fields
  cases offered : model.offeredProperties? paged relationship with
  | none =>
      rw [offered] at fields
      have outside : "properties" ∉ input.fields.map FieldDefinition.name := by
        rw [fields]
        simp [apart.symm]
      rw [get?_eq_none_of_allowed each outside] at given
      cases given
  | some type =>
      rw [offered] at fields
      have member : ⟨"properties", namedType (propertiesInputName type.name), []⟩ ∈ input.fields := by
        rw [fields]
        exact List.mem_cons_of_mem _ (List.mem_cons_self ..)
      obtain ⟨paging, declared⟩ : paged = true ∧ type ∈ model.properties := by
        unfold offeredProperties? at offered
        split at offered
        · next paging => exact ⟨paging, properties_mem offered⟩
        · cases offered
      have last : inputOffer (propertiesInputName type.name) _ ∈ type.offers :=
        List.mem_cons_of_mem _ (List.mem_cons_of_mem _
          (List.mem_cons_of_mem _ (List.mem_cons_self ..)))
      have there : IsInput types (inputOffer (propertiesInputName type.name) _).type :=
        grown.isInput (.properties paging declared last) rfl (isStandardName_made _ (by decide))
      exact there.isEntries (inputs.allows_of_get? each member given)

/-- What is given for the condition of an entry are entries. -/
theorem condition_isEntries {input : TypeDefinition} {entries : Entries Value}
    (inputs : IsInput types input) (declared : node ∈ model.nodes)
    (inside : relationship ∈ node.relationships)
    (member : ⟨"where", requiredType (whereInputName relationship.relatedType), []⟩ ∈ input.fields)
    (each : ∀ entry ∈ entries, types.AllowsEntry input entry) :
    IsEntries ((entries.get? "where").getD .null) := by
  refine isEntries_getD fun value given => ?_
  obtain ⟨related, found, named, -⟩ := grown.exists_related declared inside
  have suits := (inputs.allows_of_get? each member given).of_nonNull
  rw [← named] at suits
  exact (grown.filter_isInput (node_mem found)).isEntries suits.allows

end IsGrown

end Model

end GraphGateway.Schema

namespace GraphGateway.Statement

open Outcome (Only)
open Graphql (FieldDefinition TypeDefinition TypeExpr TypeSystem isStandardName_made namedType
  optionalList requiredType)
open Request Schema

section

variable {model : Model} {paged : Bool} {types : TypeSystem} {node : NodeType}
  {relationship : Relationship} (grown : model.IsGrown paged types)

include grown

/-- What suits the input to connect nodes has the shape of an entry. -/
theorem isMatch_of_connect (declared : node ∈ model.nodes) (inside : relationship ∈ node.relationships)
    {entry : Value} (suits : types.Suits
      (.named (relationshipInputName node.name relationship.name "ConnectFieldInput")) entry) :
    IsMatch entry := by
  obtain ⟨-, -, connect⟩ := grown.fieldInput_isInput declared inside
  obtain ⟨entries, rfl, each⟩ := connect.exists_entries suits
  exact .mk (grown.condition_isEntries connect declared inside (List.mem_cons_self ..) each)
    (grown.properties_isEntries connect rfl (by decide) each)

mutual

/-- What suits the input for a new node has its shape. -/
theorem nodeShaped_of_suits {node : NodeType} {input : Value} (declared : node ∈ model.nodes)
    (suits : types.Suits (.named (createInputName node.name)) input) :
    NodeShaped model node input := by
  have inputs := grown.isInput (.creation declared) rfl (isStandardName_made _ (by decide))
  obtain ⟨entries, whole, each⟩ := inputs.exists_entries suits
  rw [whole]
  refine .mk fun relationship inside input given => ?_
  have member : ⟨relationship.name, namedType (Model.fieldInputName node relationship), []⟩ ∈
      Model.relationshipInputs node := List.mem_map.mpr ⟨relationship, inside, rfl⟩
  have allows := inputs.allows_of_get? each
    (List.mem_cons_of_mem _ (List.mem_append_right _ member)) given
  exact fieldShaped_of_allows declared inside allows
  termination_by sizeOf input
  decreasing_by
    subst_vars
    exact sizeOf_get?_lt given

/-- What may stand for a relationship of a node has the shape of its input. -/
theorem fieldShaped_of_allows {node : NodeType} {relationship : Relationship} {input : Value}
    (declared : node ∈ model.nodes) (inside : relationship ∈ node.relationships)
    (allows : types.Allows (namedType (Model.fieldInputName node relationship)) input) :
    FieldShaped model relationship input := by
  by_cases missing : input = .null
  · rw [missing]
    exact .null
  obtain ⟨whole, -, -⟩ := grown.fieldInput_isInput declared inside
  obtain ⟨entries, same, each⟩ := whole.exists_entries (allows (TypeExpr.wants_of_ne_null missing))
  rw [same]
  have listed {key name : String} (member : ⟨key, optionalList name, []⟩ ∈
      (Model.fieldInput node relationship).fields) {value : Value}
      (given : Entries.get? entries key = some value) := isItems_of_allows
    (whole.allows_of_get? each member given)
  have create := @listed createKey _ (List.mem_cons_self ..)
  have connect := @listed connectKey _ (List.mem_cons_of_mem _ (List.mem_cons_self ..))
  refine .mk (fun key member value given => ?_) (fun items given item member => ?_)
    fun items given item member => ?_
  · simp only [List.mem_cons, List.not_mem_nil, or_false] at member
    rcases member with rfl | rfl
    · exact (create given).1
    · exact (connect given).1
  · exact createShaped_of_suits declared inside ((create given).2 items rfl item member)
  · exact isMatch_of_connect grown declared inside ((connect given).2 items rfl item member)
  termination_by sizeOf input
  decreasing_by
    subst_vars
    exact sizeOf_item_lt given member

/-- What suits the input for a relationship to a new node has its shape. -/
theorem createShaped_of_suits {node : NodeType} {relationship : Relationship} {input : Value}
    (declared : node ∈ model.nodes) (inside : relationship ∈ node.relationships)
    (suits : types.Suits
      (.named (relationshipInputName node.name relationship.name "CreateFieldInput")) input) :
    CreateShaped model relationship input := by
  obtain ⟨-, create, -⟩ := grown.fieldInput_isInput declared inside
  obtain ⟨entries, same, each⟩ := create.exists_entries suits
  rw [same]
  refine .mk (grown.properties_isEntries create rfl (by decide) each) ?_
  intro related found input given _
  have suits := (create.allows_of_get? each (List.mem_cons_self ..) given).of_nonNull
  have named : related.name = relationship.relatedType := Model.node_name found
  rw [← named] at suits
  exact nodeShaped_of_suits (Model.node_mem found) suits
  termination_by sizeOf input
  decreasing_by
    subst_vars
    exact sizeOf_get?_lt given

end

/-- What suits the input to change relationships has the shape of an entry. -/
theorem isMatch_of_change (declared : node ∈ model.nodes) {type : PropertiesType}
    (among : (relationship, type) ∈ model.updatableConnections paged node) {entry : Value}
    (suits : types.Suits (.named (Model.connectionEntryName node relationship)) entry) :
    IsMatch entry := by
  obtain ⟨inside, offered, known⟩ := Model.mem_updatableConnections among
  have entryOffer : inputOffer (Model.connectionEntryName node relationship) _ ∈
      model.updateConnectionOffers paged node :=
    List.mem_append_left _ (List.mem_map.mpr ⟨_, among, rfl⟩)
  have change : IsInput types (Model.changeEntryInput node relationship type) :=
    grown.isInput (.connectionChange declared entryOffer) rfl (isStandardName_made _ (by decide))
  obtain ⟨entries, rfl, each⟩ := change.exists_entries suits
  refine .mk (grown.condition_isEntries change declared inside (List.mem_cons_self ..) each) ?_
  refine isEntries_getD fun value given => ?_
  have update : inputOffer (updateInputName type.name) _ ∈ type.offers :=
    List.mem_cons_of_mem _ (List.mem_cons_of_mem _ (List.mem_cons_self ..))
  have there : IsInput types (inputOffer (updateInputName type.name) _).type :=
    grown.isInput (.properties offered known update) rfl (isStandardName_made _ (by decide))
  have suits := (change.allows_of_get? each
    (List.mem_cons_of_mem _ (List.mem_cons_self ..)) given).of_nonNull
  exact there.isEntries suits.allows

theorem isEntries_of_filter (declared : node ∈ model.nodes) {filter : Value}
    (suits : SuitsInput types True (whereInputName node.name) filter) : IsEntries filter := by
  rcases suits with rfl | ⟨-, suits⟩
  · exact .object []
  · exact (grown.filter_isInput declared).isEntries suits.allows

/-- Changes of a node have the shape of such, in each of its relationships. -/
theorem changes_of_suits (declared : node ∈ model.nodes) {assignments : Value}
    (suits : SuitsInput types (Model.isUpdatable node = true) (updateInputName node.name)
      assignments) :
    ∃ entries, assignments = .object entries ∧ ∀ relationship ∈ node.relationships, ∀ input,
      Entries.get? entries relationship.name = some input → FieldShaped model relationship input := by
  rcases suits with rfl | ⟨updatable, suits⟩
  · exact ⟨[], rfl, fun _ _ _ => nofun⟩
  have inputs := grown.isInput (.change declared updatable) rfl (isStandardName_made _ (by decide))
  obtain ⟨entries, same, each⟩ := inputs.exists_entries suits
  refine ⟨entries, same, fun relationship inside input given => ?_⟩
  have member : ⟨relationship.name, namedType (Model.fieldInputName node relationship), []⟩ ∈
      Model.relationshipInputs node := List.mem_map.mpr ⟨relationship, inside, rfl⟩
  exact fieldShaped_of_allows grown declared inside
    (inputs.allows_of_get? each (List.mem_append_right _ member) given)

/-- Changes of the relationships of a node are lists of entries. -/
theorem connections_of_suits (declared : node ∈ model.nodes) {connections : Value}
    (suits : SuitsInput types (model.updatableConnections paged node ≠ [])
      (updateConnectionInputName node.name) connections) :
    ∃ entries, connections = .object entries ∧ ∀ name value, (name, value) ∈ entries →
      IsItems value ∧ ∀ items, value = .list items → ∀ item ∈ items, IsMatch item := by
  rcases suits with rfl | ⟨some_, suits⟩
  · exact ⟨[], rfl, fun _ _ => nofun⟩
  have offer := Model.connectionInput_mem (by simpa using some_)
  have inputs := grown.isInput (.connectionChange declared offer) rfl
    (isStandardName_made _ (by decide))
  obtain ⟨entries, same, each⟩ := inputs.exists_entries suits
  refine ⟨entries, same, fun name value member => ?_⟩
  obtain ⟨field, found, allows⟩ := each _ member
  obtain ⟨⟨relationship, type⟩, among, rfl⟩ := List.mem_map.mp (List.mem_of_find?_eq_some found)
  obtain ⟨listed, items⟩ := isItems_of_allows allows
  refine ⟨listed, fun others whole item inside => ?_⟩
  exact isMatch_of_change grown declared among (items others whole item inside)

/-- What suits the inputs of a mutation has the shape that it is planned from. -/
theorem shaped_of_suits {field : RootField} (suits : field.Suits model paged types)
    (mutates : Mutates model field) : Shaped model field := by
  cases field with
  | create key typeName inputs response =>
      refine .create fun node found input member => ?_
      have suits := suits input member
      rw [← Model.node_name found] at suits
      exact nodeShaped_of_suits grown (Model.node_mem found) suits
  | update key typeName response filter assignments connections =>
      obtain ⟨node, known⟩ := mutates
      have declared := Model.node_mem known
      obtain ⟨condition, inputs⟩ := suits
      obtain ⟨changes, updates⟩ := inputs node known
      rw [← Model.node_name known] at condition changes updates
      obtain ⟨entries, rfl, fields⟩ := changes_of_suits grown declared changes
      obtain ⟨others, rfl, each⟩ := connections_of_suits grown declared updates
      refine .update (isEntries_of_filter grown declared condition) (.object _) (.object _) ?_ ?_ ?_
      · intro latest found given same
        cases known.symm.trans found
        cases same
        exact fields
      · intro given same name value member
        cases same
        exact (each name value member).1
      · intro given same name items member
        cases same
        exact (each name _ member).2 items rfl
  | list _ _ _ _ => exact mutates.elim
  | lookup _ _ _ => exact mutates.elim
  | typename _ _ => exact mutates.elim

end

section

variable {basis : Basis} {types : TypeSystem}

/-- A failure with a reason, or one over a page that is asked for. -/
def IsExplained (basis : Basis) (field : RootField) (failure : Failure) : Prop :=
  RefusesSome basis (field.pages basis.model) failure ∨ ∃ fault, failure = .fault fault

theorem IsExplained.of_fault {field : RootField} (fault : Fault) :
    IsExplained basis field (.fault fault) :=
  .inr ⟨fault, rfl⟩

theorem IsRefusalOf.isExplained {lawful : Prop} {field : RootField} {failure : Failure}
    (refusal : IsRefusalOf lawful failure) : IsExplained basis field failure := by
  obtain ⟨fault, rfl, -⟩ := refusal
  exact .of_fault fault

/-- A mutation that the model answers is planned or refused with a reason. -/
theorem plan_mutation_explained (grown : basis.model.IsGrown basis.features.relationshipProperties types)
    {field : RootField} (fits : field.Fits basis.model basis.features.relationshipProperties)
    (suits : field.Suits basis.model basis.features.relationshipProperties types)
    (mutates : Mutates basis.model field) (alike : field.withoutSelections = unanswered field) :
    Only (IsExplained basis field) (basis.plan field) := by
  have some_ : basis.model.nodes ≠ [] := by
    intro none_
    have nowhere : ∀ typeName node, basis.model.node typeName ≠ .ok node := fun _ _ found => by
      have member := Model.node_mem found
      rw [none_] at member
      cases member
    cases field with
    | create _ _ _ _ => exact nowhere _ _ mutates.choose_spec
    | update _ _ _ _ _ _ => exact nowhere _ _ mutates.choose_spec
    | _ => exact mutates
  have linked : basis.model.FindsRelated := fun node declared relationship inside =>
    (grown.exists_related declared inside).imp fun _ => And.left
  refine (plan_only some_ fits).weaken fun failure => ?_
  rintro (refused | failed)
  · exact .inl refused
  · rw [alike] at failed
    exact (plan_unanswered_refuses linked (shaped_of_suits grown suits mutates) mutates failure
      failed).isExplained

/-- What the model answers is planned or refused with a reason. -/
theorem plan_explained (grown : basis.model.IsGrown basis.features.relationshipProperties types)
    {field : RootField} (fits : field.Fits basis.model basis.features.relationshipProperties)
    (suits : field.Suits basis.model basis.features.relationshipProperties types) :
    Only (IsExplained basis field) (basis.plan field) := by
  cases field with
  | list key typeName selection filter =>
      obtain ⟨rfl, node, found, fits⟩ := fits
      have condition : IsEntries filter :=
        isEntries_of_filter grown (Model.node_mem found) (Model.node_name found ▸ suits)
      rw [Basis.plan, found]
      refine .bind (.ok node) fun latest same => ?_
      cases same
      have read : Refuses True (readFilter node filter key) := readFilter_refuses condition
      refine .bind (read.weaken fun _ => IsRefusalOf.isExplained) fun filter _ => ?_
      refine .bind ((planFields_only node _ fits).weaken fun _ refused => .inl ?_) fun _ _ => .ok _
      rwa [RootField.pages, pagesAt_of_ok found]
  | lookup key id variants =>
      obtain ⟨-, -, fits, -⟩ := fits
      rw [Basis.plan]
      split
      · exact .error (IsExplained.of_fault _)
      · split
        · exact .error (IsExplained.of_fault _)
        · exact .bind ((planVariants_only fits).weaken fun _ => Or.inl) fun _ _ => .ok _
  | create key typeName inputs response =>
      exact plan_mutation_explained grown fits suits fits.known rfl
  | update key typeName response filter assignments connections =>
      exact plan_mutation_explained grown fits suits fits.known rfl
  | typename key typeName => exact .error (IsExplained.of_fault _)

end

end GraphGateway.Statement
