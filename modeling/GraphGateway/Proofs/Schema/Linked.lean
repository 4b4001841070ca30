import GraphGateway.Proofs.Schema.Spelt

/-!
Types that can be linked.  A reference in a grown type is to a scalar, to a declared type, or to a
type that is made beside it.  A name of the system itself stands for the type that the system has,
whatever is declared under it: such a type may be an object where a property is expected, or no
interface where an edge implements one, and nothing else goes wrong.
-/
namespace GraphGateway.Graphql

/-- The endings of the names that are made for declared types. -/
def madeEndings : List String :=
  ["Relationship", "Connection", "Where", "CreateInput", "UpdateInput", "PropertiesInput",
    "CreateFieldInput", "ConnectFieldInput", "FieldInput", "UpdateConnectionInput",
    "MutationResponse"]

/-- No name of the system itself ends as a made name does. -/
theorem isStandardName_made (stem : String) {ending : String} (made : ending ∈ madeEndings) :
    isStandardName (stem ++ ending) = false := by
  have foreign : ∀ ending ∈ madeEndings, ∀ type ∈ standardTypes,
      ending.toList.isSuffixOf type.name.toList = false := by
    decide +kernel
  unfold isStandardName
  rw [List.any_eq_false]
  intro type member same
  have none_ := foreign ending made type member
  rw [eq_of_beq same, String.toList_append] at none_
  have ends := List.isSuffixOf_iff_suffix.mpr (List.suffix_append stem.toList ending.toList)
  rw [ends] at none_
  cases none_

/-- Whether a name is that of an object type by which a type system describes itself. -/
def describesTypes (name : String) : Bool :=
  introspectionTypes.any fun type => type.kind == .object && type.name == name

theorem standardTypes_kinds : ∀ type ∈ standardTypes,
    (type.kind = .scalar ∨ type.kind = .enum) ∧ describesTypes type.name = false ∨
      type.kind = .object ∧ describesTypes type.name = true := by
  decide +kernel

theorem standardKind {name : String} {type : TypeDefinition}
    (found : standardTypes.find? (·.name == name) = some type) :
    type.kind = .scalar ∨ type.kind = .enum ∨ type.kind = .object ∧ describesTypes name = true := by
  have same : type.name = name := Schema.name_of_find? found
  rcases standardTypes_kinds type (List.mem_of_find?_eq_some found) with ⟨kind, -⟩ | described
  · exact kind.imp_right .inl
  · exact .inr (.inr (same ▸ described))

/-- The kinds that the fields of a type may be of. -/
def TypeKind.admitsField (kind : TypeKind) : TypeKind → Bool :=
  if kind = .input then TypeKind.isInput else TypeKind.isOutput

/-- A field whose names lead where they may, and that has no argument twice. -/
structure FieldDefinition.Leads (leads : (TypeKind → Bool) → String → Prop)
    (fits : TypeKind → Bool) (field : FieldDefinition) : Prop where
  type : leads fits field.type.core
  names : (field.arguments.map ArgumentDefinition.name).Nodup
  arguments : ∀ argument ∈ field.arguments, leads TypeKind.isInput argument.type.core

theorem FieldDefinition.Leads.bare {leads : (TypeKind → Bool) → String → Prop}
    {fits : TypeKind → Bool} {name : String} {expr : TypeExpr} (target : leads fits expr.core) :
    FieldDefinition.Leads leads fits ⟨name, expr, []⟩ where
  type := target
  names := .nil
  arguments _ none_ := absurd none_ List.not_mem_nil

/-- A definition whose names lead where they may: those of fields and arguments to types of a kind
that may stand there, and those it implements to interfaces. -/
structure TypeDefinition.Leads (leads : (TypeKind → Bool) → String → Prop)
    (type : TypeDefinition) : Prop where
  fields : ∀ field ∈ type.fields, field.Leads leads type.kind.admitsField
  interfaces : ∀ name ∈ type.interfaces, leads (· == .interface) name

/-- Names that lead somewhere lead wherever that leads. -/
theorem TypeDefinition.Leads.imp {before after : (TypeKind → Bool) → String → Prop}
    {type : TypeDefinition} (leads : type.Leads before)
    (step : ∀ fits name, before fits name → after fits name) : type.Leads after where
  fields field member := by
    obtain ⟨target, names, arguments⟩ := leads.fields field member
    exact ⟨step _ _ target, names, fun argument among => step _ _ (arguments argument among)⟩
  interfaces name member := step _ _ (leads.interfaces name member)

namespace TypeSystem

variable {system : TypeSystem} {fits : TypeKind → Bool} {name : String} {type : TypeDefinition}

/-- What a name in a type system stands for, and that it is of a fitting kind. -/
inductive Resolves (system : TypeSystem) (fits : TypeKind → Bool) (name : String) : Prop
  | standard {type : TypeDefinition} (found : standardTypes.find? (·.name == name) = some type)
      (fit : fits type.kind = true)
  | own {type : TypeDefinition} (other : isStandardName name = false)
      (found : system.definition? name = some type) (fit : fits type.kind = true)

theorem isStandardName_of_find? (found : standardTypes.find? (·.name == name) = some type) :
    isStandardName name = true :=
  List.any_eq_true.mpr ⟨type, List.mem_of_find?_eq_some found,
    List.find?_some (p := (TypeDefinition.name · == name)) found⟩

/-- A standard type is there once something of its name or type is. -/
theorem type?_of_usesScalar (used : system.usesScalar name = true)
    (known : isStandardName name = true) :
    system.type? name = standardTypes.find? (·.name == name) := by
  unfold type? standard
  rw [if_pos known, List.find?_filter]
  refine congrArg (standardTypes.find? ·) (funext fun type => ?_)
  by_cases same : type.name = name
  · simp [same, used]
  · simp [same]

theorem usesScalar_of_field (own : type ∈ system.own) {field : FieldDefinition}
    (member : field ∈ type.fields) : system.usesScalar field.type.core = true := by
  refine Bool.or_eq_true_iff.mpr (.inr (List.any_eq_true.mpr ⟨type, own, ?_⟩))
  exact List.any_eq_true.mpr ⟨field, member, by simp⟩

theorem usesScalar_of_argument (own : type ∈ system.own) {field : FieldDefinition}
    (member : field ∈ type.fields) {argument : ArgumentDefinition}
    (among : argument ∈ field.arguments) : system.usesScalar argument.type.core = true := by
  refine Bool.or_eq_true_iff.mpr (.inr (List.any_eq_true.mpr ⟨type, own, ?_⟩))
  refine List.any_eq_true.mpr ⟨field, member, Bool.or_eq_true_iff.mpr (.inr ?_)⟩
  exact List.any_eq_true.mpr ⟨argument, among, by simp⟩

namespace Resolves

theorem isKnown {expr : TypeExpr} (resolves : system.Resolves fits expr.core) :
    system.isKnown expr = true := by
  refine Bool.or_eq_true_iff.mpr ?_
  cases resolves with
  | standard found => exact .inl (isStandardName_of_find? found)
  | own other found =>
      right
      unfold refersTo kind? type?
      rw [if_neg (by simp [other]), show system.definitions.find? _ = some _ from found]
      rfl

theorem refersTo {expr : TypeExpr} (resolves : system.Resolves fits expr.core)
    (used : system.usesScalar expr.core = true) : system.refersTo fits expr = true := by
  unfold TypeSystem.refersTo kind?
  cases resolves with
  | standard found fit =>
      rw [type?_of_usesScalar used (isStandardName_of_find? found), found]
      exact fit
  | own other found fit =>
      unfold type?
      rw [if_neg (by simp [other]), show system.definitions.find? _ = some _ from found]
      exact fit

theorem isOwn_of_interface (resolves : system.Resolves (· == .interface) name) :
    isStandardName name = false ∧
      ∃ interface, system.definition? name = some interface ∧ interface.kind = .interface := by
  cases resolves with
  | standard found fit =>
      rcases standardKind found with kind | kind | ⟨kind, -⟩
      all_goals
        rw [kind] at fit
        cases fit
  | own other found fit => exact ⟨other, _, found, eq_of_beq fit⟩

end Resolves

end TypeSystem

end GraphGateway.Graphql

namespace GraphGateway.Schema

open Graphql (FieldDefinition TypeDefinition TypeKind TypeSystem describesTypes isStandardName)

theorem TypeReference.toExpr_core (reference : TypeReference) :
    reference.toExpr.core = reference.name := by
  unfold TypeReference.toExpr TypeReference.excludingNull
  cases reference.isList <;> cases reference.itemNonNull <;> cases reference.nonNull <;> rfl

namespace Model

/-- The names that properties can be typed with. -/
def leafNames (model : Model) : List String :=
  builtinScalars ++ model.enums.map EnumType.name ++ model.scalars

/-- A model whose references lead to what it declares. -/
structure IsLinked (model : Model) : Prop where
  nodeFields : ∀ node ∈ model.nodes, ∀ field ∈ node.fields, field.type.name ∈ model.leafNames
  propertyFields : ∀ type ∈ model.properties, ∀ field ∈ type.fields,
    field.type.name ∈ model.leafNames
  related : ∀ node ∈ model.nodes, ∀ relationship ∈ node.relationships,
    relationship.relatedType = relationship.type.name ∧
      ∃ related ∈ model.nodes, related.name = relationship.relatedType

/-- What a model has to say for its types to be linked once they are spelt: no enum value twice, and
no name of the system itself where that is of another kind. -/
structure IsLinkable (model : Model) (paged : Bool) : Prop where
  values : ∀ enum ∈ model.enums, enum.values.Nodup
  nodeFields : ∀ node ∈ model.nodes, ∀ field ∈ node.fields, describesTypes field.type.name = false
  propertyFields : paged = true → ∀ type ∈ model.properties, ∀ field ∈ type.fields,
    describesTypes field.type.name = false
  edges : paged = true → ∀ node ∈ model.nodes, ∀ relationship ∈ node.relationships,
    ∀ type, model.propertiesOf? relationship = some type → isStandardName type.name = false

end Model

section

variable (names : DeclaredNames) (typeName : String)

theorem FieldRole.ofLeaf_name {fieldName : String} {type : TypeReference} {field : PropertyField}
    (role : FieldRole.ofLeaf names typeName fieldName type = .property field) :
    field.type.name ∈ names.leaves := by
  unfold FieldRole.ofLeaf at role
  split at role
  · next known =>
    cases role
    exact List.contains_iff_mem.mp known
  · cases role

theorem FieldRole.ofRelationship_type {fieldName : String} {type : TypeReference}
    {mark : Graphql.Directive} {relationship : Relationship}
    (role : FieldRole.ofRelationship names typeName fieldName type mark =
      .relationship relationship) : relationship.relatedType = relationship.type.name := by
  unfold FieldRole.ofRelationship at role
  split at role
  · split at role
    · cases role
    · dsimp only at role
      split at role
      · cases role
      · split at role <;> cases role <;> rfl
  · cases role

theorem FieldReading.leaf_of_nodeField {declaration : Graphql.FieldDeclaration}
    {field : PropertyField}
    (found : (FieldReading.ofNodeField names typeName declaration).property? = some field) :
    field.type.name ∈ names.leaves := by
  have role := FieldReading.property?_eq_some found
  unfold FieldReading.ofNodeField at role
  split at role
  · cases role
  · dsimp only at role
    split at role
    · cases role
    · split at role
      · exact absurd role (FieldRole.ofRelationship_not_property names typeName)
      · split at role
        · cases role
        · exact FieldRole.ofLeaf_name names typeName role

theorem FieldReading.leaf_of_interfaceField {declaration : Graphql.FieldDeclaration}
    {field : PropertyField}
    (found : (FieldReading.ofInterfaceField names typeName declaration).property? = some field) :
    field.type.name ∈ names.leaves := by
  have role := FieldReading.property?_eq_some found
  unfold FieldReading.ofInterfaceField at role
  split at role
  · cases role
  · exact FieldRole.ofLeaf_name names typeName role

theorem FieldReading.type_of_nodeField {declaration : Graphql.FieldDeclaration}
    {relationship : Relationship}
    (found : (FieldReading.ofNodeField names typeName declaration).relationship? =
      some relationship) : relationship.relatedType = relationship.type.name := by
  have role := FieldReading.relationship?_eq_some found
  unfold FieldReading.ofNodeField at role
  split at role
  · cases role
  · dsimp only at role
    split at role
    · cases role
    · split at role
      · exact FieldRole.ofRelationship_type names typeName role
      · split at role
        · cases role
        · unfold FieldRole.ofLeaf at role
          split at role <;> cases role

end

namespace Declared

variable {document : Graphql.Document} {declared : Declared}

/-- The node types of a model are read from the object types of its document. -/
theorem nodes_eq (read : Declared.ofDocument? document = some declared) :
    declared.model.nodes = (objects document).map fun declaration =>
      NodeType.ofReadings declaration.name
        (declaration.fields.map (.ofNodeField (names document) declaration.name)) := by
  unfold Declared.ofDocument? at read
  dsimp only at read
  split at read
  · cases read
  · cases read
    simp only [List.map_map, Function.comp_def]

/-- The leaf types that a model declares are those that its document names. -/
theorem leafNames_eq (read : Declared.ofDocument? document = some declared) :
    declared.model.leafNames = (names document).leaves := by
  unfold Declared.ofDocument? at read
  dsimp only at read
  split at read
  · cases read
  · cases read
    rfl

/-- The properties types of a model are read from interfaces of its document. -/
theorem properties_of_mem (read : Declared.ofDocument? document = some declared)
    {type : PropertiesType} (member : type ∈ declared.model.properties) :
    ∃ declaration : Graphql.CompositeDeclaration, type = PropertiesType.ofReadings declaration.name
      (declaration.fields.map (.ofInterfaceField (names document) declaration.name)) := by
  unfold Declared.ofDocument? at read
  dsimp only at read
  split at read
  · cases read
  · cases read
    simp only [List.map_map, List.mem_map, Function.comp] at member
    obtain ⟨declaration, -, rfl⟩ := member
    exact ⟨declaration, rfl⟩

/-- The model of a document is linked, since fields that refer to nothing are left out of it. -/
theorem isLinked (read : Declared.ofDocument? document = some declared) :
    declared.model.IsLinked where
  nodeFields node member field inside := by
    rw [nodes_eq read] at member
    obtain ⟨declaration, -, rfl⟩ := List.mem_map.mp member
    obtain ⟨reading, readingMember, found⟩ := List.mem_filterMap.mp inside
    obtain ⟨fieldDeclaration, -, rfl⟩ := List.mem_map.mp readingMember
    rw [leafNames_eq read]
    exact FieldReading.leaf_of_nodeField _ _ found
  propertyFields type member field inside := by
    obtain ⟨declaration, rfl⟩ := properties_of_mem read member
    obtain ⟨reading, readingMember, found⟩ := List.mem_filterMap.mp inside
    obtain ⟨fieldDeclaration, -, rfl⟩ := List.mem_map.mp readingMember
    rw [leafNames_eq read]
    exact FieldReading.leaf_of_interfaceField _ _ found
  related node member relationship inside := by
    have nodes := nodes_eq read
    rw [nodes] at member ⊢
    obtain ⟨declaration, -, rfl⟩ := List.mem_map.mp member
    obtain ⟨reading, readingMember, found⟩ := List.mem_filterMap.mp inside
    obtain ⟨fieldDeclaration, -, rfl⟩ := List.mem_map.mp readingMember
    refine ⟨FieldReading.type_of_nodeField _ _ found, ?_⟩
    have known := FieldReading.related_of_nodeField _ _ found
    obtain ⟨related, declaredToo, same⟩ := List.mem_map.mp known
    exact ⟨_, List.mem_map_of_mem declaredToo, same⟩

end Declared

namespace Model

variable {model : Model} {paged : Bool} {types : TypeSystem} {type : TypeDefinition}
  {fits : TypeKind → Bool}

theorem Offers.resolves (offers : model.Offers paged type)
    (augmented : model.augmented paged = .ok types) (other : isStandardName type.name = false)
    (fit : fits type.kind = true) : types.Resolves fits type.name :=
  .own other (offers.definition?_eq augmented) fit

theorem builtinScalars_standard :
    ∀ name ∈ builtinScalars, isStandardName name = true ∧ describesTypes name = false := by
  decide +kernel

/-- A property is of a leaf type, unless its name is that of another type of the system. -/
theorem leaf_resolves (augmented : model.augmented paged = .ok types) {name : String}
    (known : name ∈ model.leafNames) (plain : describesTypes name = false)
    (scalar : fits .scalar = true) (enum : fits .enum = true) : types.Resolves fits name := by
  cases found : Graphql.standardTypes.find? (·.name == name) with
  | some type =>
      refine .standard found ?_
      rcases Graphql.standardKind found with kind | kind | ⟨-, other⟩
      · rwa [kind]
      · rwa [kind]
      · rw [plain] at other
        cases other
  | none =>
      have other : isStandardName name = false := by
        unfold isStandardName
        rw [List.any_eq_false]
        exact List.find?_eq_none.mp found
      simp only [leafNames, List.mem_append, List.mem_map] at known
      rcases known with (builtin | ⟨enum_, declared, rfl⟩) | declared
      · rw [(builtinScalars_standard name builtin).1] at other
        cases other
      · exact (Offers.enum declared).resolves augmented other enum
      · exact (Offers.scalar declared).resolves augmented other scalar

end Model

end GraphGateway.Schema
