import GraphGateway.Proofs.Request.Grown

/-!
Reading valid requests.  Whatever is read of a valid operation fits the model, at every depth: every
field is one that the model has at the place where it is selected.  Nothing is lost on the way either:
an operation that reading has no reason to refuse is read as a whole.  The names that reading makes of
types and connections are thus those under which the type system has them.
-/
namespace GraphGateway.Request

open Graphql (FieldDefinition IsSettled TypeDefinition TypeSystem isStandardName
  isStandardName_made typenameName)
open Outcome (Brings)
open Schema (Model NodeType PropertiesType Relationship builtinScalars connectionEnding
  connectionTypeName edgeTypeName name_of_find? pageInfoName)

/-- What can be asked of a page. -/
def pageFactNames : List String :=
  [typenameName, "hasNextPage", "hasPreviousPage", "startCursor", "endCursor"]

/-- A leaf that edges with some properties have. -/
def Leaf.FitsEdge (properties : Option PropertiesType) (leaf : Leaf) : Prop :=
  leaf.name = "cursor" ∨ leaf.name = typenameName ∨
    (properties.bind (·.field? leaf.name)).isSome = true

/-- A field that a node type of a model has, as have the types below it the fields selected there. -/
inductive NodeField.Fits (model : Model) (paged : Bool) : NodeType → NodeField → Prop
  | leaf {node : NodeType} {leaf : Leaf}
      (known : leaf.name = typenameName ∨ (node.field? leaf.name).isSome = true) :
      NodeField.Fits model paged node (.leaf leaf)
  | relationship {node related : NodeType} {relationship : Relationship}
      {key name typeName : String} {fields : List NodeField}
      (found : node.relationship? name = some relationship)
      (leads : model.related relationship = .ok related)
      (inner : ∀ field ∈ fields, NodeField.Fits model paged related field) :
      NodeField.Fits model paged node (.relationship key name typeName fields)
  | connection {node related : NodeType} {relationship : Relationship} {key name : String}
      {first after : Value} {fields : List ConnectionField} (offered : paged = true)
      (found : node.relationship? name = some relationship)
      (leads : model.related relationship = .ok related)
      (sized : first = .null ∨ ∃ number, first = .int number)
      (facts : ∀ inner leaves, .pageInfo inner leaves ∈ fields →
        ∀ leaf ∈ leaves, leaf.name ∈ pageFactNames)
      (leaves : ∀ set edges, .edges set edges ∈ fields → ∀ leaf, .leaf leaf ∈ edges →
        leaf.FitsEdge (model.propertiesOf? relationship))
      (nodes : ∀ set edges, .edges set edges ∈ fields → ∀ inner typeName nested,
        .node inner typeName nested ∈ edges →
          ∀ field ∈ nested, NodeField.Fits model paged related field) :
      NodeField.Fits model paged node (.connection key name first after fields)

/-- A field that the edges of a relationship have. -/
def EdgeField.Fits (model : Model) (paged : Bool) (properties : Option PropertiesType)
    (related : NodeType) : EdgeField → Prop
  | .leaf inner => inner.FitsEdge properties
  | .node _ _ nested => ∀ field ∈ nested, field.Fits model paged related

/-- A field that the connection of a relationship has. -/
def ConnectionField.Fits (model : Model) (paged : Bool) (properties : Option PropertiesType)
    (related : NodeType) : ConnectionField → Prop
  | .leaf _ => True
  | .edges _ inner => ∀ edge ∈ inner, edge.Fits model paged properties related
  | .pageInfo _ leaves => ∀ leaf ∈ leaves, leaf.name ∈ pageFactNames

/-- A selection on a node type of a model, with fields that the type has. -/
def NodeSelection.Fits (model : Model) (paged : Bool) (selection : NodeSelection) : Prop :=
  ∃ node, model.node selection.typeName = .ok node ∧
    ∀ field ∈ selection.fields, field.Fits model paged node

/-- A field of the answer to a mutation of nodes of a type. -/
def ResponseField.Fits (model : Model) (paged : Bool) (typeName : String) : ResponseField → Prop
  | .leaf _ => True
  | .nodes _ selection => selection.typeName = typeName ∧ selection.Fits model paged

/-- The answer to a mutation of nodes of a type, with fields that the type has. -/
structure ResponseSelection.Fits (model : Model) (paged : Bool) (typeName : String)
    (response : ResponseSelection) : Prop where
  known : ∃ node, model.node typeName = .ok node
  each : ∀ field ∈ response.fields, field.Fits model paged typeName

/-- A root field that selects what the types of a model have. -/
def RootField.Fits (model : Model) (paged : Bool) : RootField → Prop
  | .list _ typeName selection _ => selection.typeName = typeName ∧ selection.Fits model paged
  | .lookup _ _ variants =>
      paged = true ∧ (model.nodes ≠ [] → variants ≠ []) ∧
        (∀ selection ∈ variants, selection.Fits model paged) ∧
        ∀ first ∈ variants, ∀ second ∈ variants, first.typeName = second.typeName → first = second
  | .create _ typeName _ response => response.Fits model paged typeName
  | .update _ typeName response _ _ _ => response.Fits model paged typeName
  | .typename _ _ => True

section

variable {model : Model} {paged : Bool} {node : NodeType}

/-- A connection fits if each of its fields does. -/
theorem NodeField.Fits.connection_iff {key name : String} {first after : Value}
    {fields : List ConnectionField} :
    NodeField.Fits model paged node (.connection key name first after fields) ↔
      paged = true ∧ (first = .null ∨ ∃ number, first = .int number) ∧
        ∃ relationship related, node.relationship? name = some relationship ∧
          model.related relationship = .ok related ∧ ∀ field ∈ fields,
            field.Fits model paged (model.propertiesOf? relationship) related := by
  constructor
  · rintro (_ | _ | ⟨offered, found, leads, sized, facts, leaves, nodes⟩)
    refine ⟨offered, sized, _, _, found, leads, fun field member => ?_⟩
    cases field with
    | leaf leaf => trivial
    | pageInfo inner among => exact facts inner among member
    | edges set edges =>
        intro edge inside
        cases edge with
        | leaf leaf => exact leaves set edges member leaf inside
        | node inner typeName nested => exact nodes set edges member inner typeName nested inside
  · rintro ⟨offered, sized, relationship, related, found, leads, each⟩
    refine .connection offered found leads sized ?_ ?_ ?_
    · exact fun inner leaves member => each _ member
    · exact fun set edges member leaf inside => each _ member _ inside
    · exact fun set edges member inner typeName nested inside => each _ member _ inside

/-- A name made of that of a relationship with the ending of connections stands for its connection.
-/
theorem connectionOf?_eq {stem : String} :
    Context.connectionOf? node (stem ++ connectionEnding) = node.relationship? stem := by
  unfold Context.connectionOf?
  simp

theorem connectionOf?_eq_some {name : String} {relationship : Relationship}
    (found : Context.connectionOf? node name = some relationship) :
    node.relationship? relationship.name = some relationship ∧
      name = relationship.name ++ connectionEnding := by
  unfold Context.connectionOf? at found
  dsimp only at found
  split at found
  · next ending =>
    have named := name_of_find? found
    refine ⟨by rw [named]; exact found, ?_⟩
    have whole := List.take_append_drop (name.toList.length - connectionEnding.toList.length)
      name.toList
    rw [ending] at whole
    apply String.toList_inj.mp
    rw [named, String.toList_append, String.toList_ofList, whole]
  · cases found

end

/-- A valid operation on a type system that is grown from a model. -/
structure IsReadable (context : Context) (operation : Graphql.Operation) (paged : Bool) : Prop where
  settled : IsSettled context.surface.types context.document operation context.bindings
  grown : context.surface.model.IsGrown paged context.surface.types

/-- An operation that asks nothing about types, with values for all its arguments and conditions, where
there is a node type and none has the name of a builtin scalar. -/
structure IsUnhindered (context : Context) (operation : Graphql.Operation) : Prop where
  coerces : operation.coerces context.surface.types context.document context.bindings = true
  plain : operation.asksTypes context.surface.types context.document = false
  some_ : context.surface.model.nodes ≠ []
  unscalared : ∀ node ∈ context.surface.model.nodes, node.name ∉ builtinScalars

/-- How reading an operation fails: an argument or a condition has no value, or the client is told what
is wrong. -/
inductive IsReadingFailure (context : Context) (operation : Graphql.Operation) : Failure → Prop where
  | unmet {failure : Failure} (unmet : IsUnmet context operation failure) :
      IsReadingFailure context operation failure
  | fault (fault : Fault) : IsReadingFailure context operation (.fault fault)

/-- What is read is good, and reading cannot fail where nothing hinders it. -/
abbrev Yields (context : Context) (operation : Graphql.Operation) {α : Type} (good : α → Prop)
    (result : Except Failure α) : Prop :=
  Brings (IsUnhindered context operation) (IsReadingFailure context operation) good result

section

variable {context : Context} {operation : Graphql.Operation} {paged : Bool}
  {type parent : TypeDefinition} {depth : Nat} {name : String} {definition : FieldDefinition}
  {fields : List Selected}

theorem Covering.refl (has : context.surface.types.Has type) : Covering context type type :=
  ⟨has, by simp [TypeSystem.admits]⟩

namespace IsGroup

variable (group : IsGroup context operation type depth name definition fields)

include group

theorem first_mem : Context.firstOf fields ∈ fields := by
  obtain ⟨first, rest, rfl⟩ := List.exists_cons_of_ne_nil group.filled
  exact List.mem_cons_self ..

theorem first_name : (Context.firstOf fields).name = name :=
  group.named _ group.first_mem

/-- What is selected is the name of the type, one of its own fields, or a question about types. -/
theorem own_or : name = typenameName ∨ name ≠ typenameName ∧ type.field? name = some definition ∨
    type.name = TypeSystem.queryName ∧
      (name = Graphql.schemaField.name ∨ name = Graphql.typeField.name) := by
  have selectable := group.selectable
  unfold TypeDefinition.selectable? at selectable
  split at selectable
  · next same => exact .inl same
  next other =>
  split at selectable
  · next asks =>
    simp only [Bool.and_eq_true, decide_eq_true_eq] at asks
    exact .inr (.inr ⟨asks.1, .inl asks.2⟩)
  split at selectable
  · next asks =>
    simp only [Bool.and_eq_true, decide_eq_true_eq] at asks
    exact .inr (.inr ⟨asks.1, .inr asks.2⟩)
  · exact .inr (.inl ⟨other, selectable⟩)

theorem own (apart : type.name ≠ TypeSystem.queryName) :
    name = typenameName ∨ name ≠ typenameName ∧ type.field? name = some definition := by
  rcases group.own_or with typename | own | ⟨query, -⟩
  · exact .inl typename
  · exact .inr own
  · exact absurd query apart

/-- A question about types is one of the operation. -/
theorem asksTypes (asks : name = Graphql.schemaField.name ∨ name = Graphql.typeField.name) :
    operation.asksTypes context.surface.types context.document = true := by
  obtain ⟨place, directives, isNested, member⟩ := group.places _ group.first_mem
  refine List.any_eq_true.mpr ⟨_, member, ?_⟩
  simpa [Graphql.Site.asksTypes] using asks

/-- What is selected in fields of a composite type makes the next level. -/
theorem level (own : type.field? name = some definition)
    (found : context.surface.types.type? definition.type.core = some parent)
    (composite : parent.kind.isComposite = true) :
    Level context operation parent (depth - 1) (fields.map Selected.selections) :=
  group.inner parent own (Option.filter_eq_some_iff.mpr ⟨found, composite⟩)

end IsGroup

theorem objectType_eq (found : context.surface.types.type? name = some type)
    (kind : type.kind = .object) : context.objectType name = .ok type := by
  unfold Context.objectType
  rw [found]
  exact if_pos kind

namespace IsReadable

variable (readable : IsReadable context operation paged)

include readable

/-- The fields of an object type that are selected are collected in groups, each of one field. -/
theorem collect (has : context.surface.types.Has type) (kind : type.kind = .object)
    (covering : Covering context type parent)
    (level : Level context operation parent depth (fields.map Selected.selections)) :
    Yields context operation (fun collected => ∀ entry ∈ collected, ∃ name definition,
      IsGroup context operation type depth name definition entry.2)
      (context.subfields type fields) :=
  ((level.collect readable.settled readable.grown.isRegular covering has kind).of_imp
    IsUnhindered.coerces).allow fun _ => .unmet

/-- The arguments of a field have values that may stand there, and no others are given. -/
theorem fieldArguments (has : context.surface.types.Has type)
    (group : IsGroup context operation type depth name definition fields)
    (own : type.field? name = some definition) :
    Yields context operation
      (fun values => (∀ name, name ∉ definition.arguments.map Graphql.ArgumentDefinition.name →
          values.get? name = none) ∧
        ∀ argument ∈ definition.arguments,
          argument.Takes context.surface.types (values.get? argument.name))
      (context.fieldArguments type (Context.firstOf fields)) := by
  have distinct := readable.grown.isRegular.arguments type has definition
    (List.mem_of_find?_eq_some own)
  obtain ⟨place, directives, isNested, site⟩ := group.places _ group.first_mem
  have given : ((Context.firstOf fields).arguments, some definition.arguments) ∈
      (Graphql.Site.field place (some definition) name (Context.firstOf fields).arguments directives
        isNested).argumentSets :=
    List.mem_append_left _ (List.mem_singleton_self _)
  unfold Context.fieldArguments Context.argumentsOf
  rw [group.first_name, own]
  dsimp only
  split
  · next values done => exact readable.settled.takes site given distinct done
  · next missing =>
    have unmet : IsUnmet context operation .argument := .of_missing site given missing
    refine ⟨.unmet unmet, fun unhindered => ?_⟩
    exact Bool.false_ne_true (unmet.2.symm.trans unhindered.coerces)

/-- The object type under the name of a node type is that of the node type. -/
theorem nodeType {node : NodeType} (declared : node ∈ context.surface.model.nodes) :
    Yields context operation (fun type => type = Model.nodeDefinition paged node ∧
        context.surface.types.type? node.name = some type ∧ node.name ∉ builtinScalars)
      (context.objectType node.name) := by
  by_cases scalar : node.name ∈ builtinScalars
  · have standard : ∀ name ∈ builtinScalars, isStandardName name = true := by decide +kernel
    have refused : ∀ type ∈ Graphql.standardTypes, type.name ∈ builtinScalars →
        type.kind ≠ .object := by
      decide +kernel
    have hindered : ¬ IsUnhindered context operation := fun unhindered =>
      unhindered.unscalared node declared scalar
    unfold Context.objectType
    split
    · next type found =>
      obtain ⟨among, same⟩ := TypeSystem.type?_standard (standard _ scalar) found
      rw [if_neg (refused type among (same ▸ scalar))]
      exact ⟨.fault _, hindered⟩
    · exact ⟨.fault _, hindered⟩
  · have found := (readable.grown.node_type? declared scalar).1
    rw [objectType_eq found rfl]
    exact ⟨rfl, found, scalar⟩

/-- The facts that are asked of a page are read. -/
theorem pageInfoFields (offered : paged = true)
    (group : IsGroup context operation type depth name definition fields)
    (own : type.field? name = some definition) (leads : definition.type.core = pageInfoName) :
    Yields context operation (fun leaves => ∀ leaf ∈ leaves, leaf.name ∈ pageFactNames)
      (context.pageInfoFields fields) := by
  have found := readable.grown.pageInfo_type? offered
  have has := TypeSystem.has_of_type? found
  have level := group.level own (leads ▸ found) rfl
  unfold Context.pageInfoFields
  rw [found]
  refine .bind (readable.collect has rfl (.refl has) level) fun collected groups => ?_
  refine List.forall_mem_map.mpr fun entry member => ?_
  obtain ⟨name, definition, inner⟩ := groups entry member
  dsimp only
  rw [inner.first_name]
  rcases inner.own (by decide) with rfl | ⟨-, own⟩
  · exact List.mem_cons_self ..
  · have same : definition.name = name := name_of_find? own
    rw [← same]
    refine List.mem_cons_of_mem _ ?_
    exact List.mem_map_of_mem (f := FieldDefinition.name) (List.mem_of_find?_eq_some own)

end IsReadable

/-- Selections on a node type that nest no deeper than a bound. -/
def Reached (context : Context) (operation : Graphql.Operation) (paged : Bool) (bound : Nat)
    (node : NodeType) (fields : List Selected) : Prop :=
  ∃ parent depth, Covering context (Model.nodeDefinition paged node) parent ∧ depth ≤ bound ∧
    Level context operation parent depth (fields.map Selected.selections)

/-- Reads what is selected on a node type, unless it nests deeper than a bound. -/
def ReadsFitting (context : Context) (operation : Graphql.Operation) (paged : Bool) (bound : Nat)
    (readNode : String → List Selected → Except Failure (List NodeField)) : Prop :=
  0 < bound → ∀ node fields, context.surface.model.node node.name = .ok node → fields ≠ [] →
    (node.name ∉ builtinScalars → Reached context operation paged bound node fields) →
      Yields context operation
        (fun answers => ∀ field ∈ answers, field.Fits context.surface.model paged node)
        (readNode node.name fields)

section

variable {readNode : String → List Selected → Except Failure (List NodeField)} {bound : Nat}
  {node related : NodeType} {relationship : Relationship}
  (readable : IsReadable context operation paged)
  (reads : ReadsFitting context operation paged bound readNode)

/-- A field nests no deeper than a bound for what is selected in it. -/
theorem IsGroup.bound_pos
    (group : IsGroup context operation type depth name definition fields) (less : depth ≤ bound + 1) :
    0 < bound :=
  Nat.lt_of_succ_lt_succ (Nat.lt_of_lt_of_le group.nests less)

/-- What is selected in a field that leads to a node type is reached. -/
theorem IsGroup.reached (readable : IsReadable context operation paged)
    (group : IsGroup context operation type depth name definition fields)
    (own : type.field? name = some definition) (less : depth ≤ bound + 1)
    (known : node ∈ context.surface.model.nodes) (leads : definition.type.core = node.name) :
    node.name ∉ builtinScalars → Reached context operation paged bound node fields := by
  intro unscalared
  have found := (readable.grown.node_type? known unscalared).1
  exact ⟨_, _, .refl (TypeSystem.has_of_type? found), Nat.sub_le_of_le_add less,
    group.level own (leads ▸ found) rfl⟩

include readable reads

theorem edgeField_fitting (offered : paged = true) (declared : node ∈ context.surface.model.nodes)
    (inside : relationship ∈ node.relationships)
    (leads : context.surface.model.related relationship = .ok related) (less : depth ≤ bound + 1)
    {entry : String × List Selected}
    (group : IsGroup context operation (context.surface.model.edgeDefinition node relationship)
      depth name definition entry.2) :
    Yields context operation
      (EdgeField.Fits context.surface.model paged
        (context.surface.model.propertiesOf? relationship) related)
      (Context.edgeField readNode relationship.relatedType entry) := by
  have offers : context.surface.model.Offers paged
      (context.surface.model.edgeDefinition node relationship) :=
    .connection offered declared inside (List.mem_cons_self ..)
  have apart := readable.grown.name_ne_query offers (List.mem_cons_self ..) rfl
  obtain ⟨key, fields⟩ := entry
  unfold Context.edgeField
  dsimp only
  rw [group.first_name]
  rcases group.own apart with rfl | ⟨-, own⟩
  · exact .inr (.inl rfl)
  split
  · next same =>
    cases same
    have nested := readable.grown.field?_eq offers
      (List.mem_cons_of_mem _ (List.mem_cons_self ..))
    cases nested.symm.trans own
    have named : related.name = relationship.relatedType := Model.node_name leads
    have reached := group.reached readable own less (Model.node_mem leads) named.symm
    have lookup : context.surface.model.node related.name = .ok related := named ▸ leads
    rw [← named]
    exact .bind (reads (group.bound_pos less) related fields lookup group.filled reached)
      fun _ fits => fits
  · next other =>
    have same : definition.name = name := name_of_find? own
    rcases List.mem_cons.mp (List.mem_of_find?_eq_some own) with rfl | member
    · exact .inl same.symm
    rcases List.mem_cons.mp member with rfl | member
    · exact absurd same.symm other
    · refine .inr (.inr ?_)
      split at member
      · next properties has =>
        obtain ⟨field, among, rfl⟩ := List.mem_map.mp member
        rw [has, Option.bind_some]
        exact List.find?_isSome.mpr ⟨field, among, beq_iff_eq.mpr same⟩
      · cases member

/-- Every field of a connection is read. -/
theorem connectionField_fitting (offered : paged = true)
    (declared : node ∈ context.surface.model.nodes) (inside : relationship ∈ node.relationships)
    (leads : context.surface.model.related relationship = .ok related) (less : depth ≤ bound + 1)
    {entry : String × List Selected}
    (group : IsGroup context operation (Model.connectionDefinition node relationship)
      depth name definition entry.2) :
    Yields context operation
      (ConnectionField.Fits context.surface.model paged
        (context.surface.model.propertiesOf? relationship) related)
      (context.connectionField readNode (connectionTypeName node.name relationship.name)
        (context.surface.model.edgeDefinition node relationship) relationship.relatedType entry) := by
  have offers : context.surface.model.Offers paged
      (Model.connectionDefinition node relationship) :=
    .connection offered declared inside (List.mem_cons_of_mem _ (List.mem_cons_self ..))
  have bare := readable.grown.name_ne_query offers (List.mem_cons_self ..) rfl
  obtain ⟨key, fields⟩ := entry
  unfold Context.connectionField
  dsimp only
  rw [group.first_name]
  rcases group.own bare with rfl | ⟨apart, own⟩
  · exact trivial
  rw [if_neg apart]
  have same : definition.name = name := name_of_find? own
  rcases List.mem_cons.mp (List.mem_of_find?_eq_some own) with rfl | member
  · rw [if_pos same.symm, Context.edgeFields_eq]
    obtain ⟨found, -⟩ := readable.grown.connection_types offered declared inside
    have has := TypeSystem.has_of_type? found
    refine .bind (.bind (readable.collect has rfl (.refl has) (group.level own found rfl))
      fun collected groups => ?_) fun _ fits => fits
    refine .mapM_each fun entry member => ?_
    obtain ⟨name, definition, inner⟩ := groups entry member
    exact edgeField_fitting readable reads offered declared inside leads
      (Nat.le_trans (Nat.sub_le ..) less) inner
  rcases List.mem_cons.mp member with rfl | none_
  · rw [if_neg (by rw [← same]; decide), if_pos same.symm]
    exact .bind (readable.pageInfoFields offered group own rfl) fun _ facts => facts
  · cases none_

/-- A connection is read with all that is selected in it. -/
theorem connection_fitting (offered : paged = true)
    (declared : node ∈ context.surface.model.nodes) (inside : relationship ∈ node.relationships)
    (found : node.relationship? relationship.name = some relationship)
    (has : context.surface.types.Has type) (less : depth ≤ bound + 1) (key : String)
    (group : IsGroup context operation type depth name definition fields)
    (own : type.field? name = some definition)
    (connects : definition = Model.connectionField node relationship) :
    Yields context operation (NodeField.Fits context.surface.model paged node)
      (context.connection readNode type node relationship key fields) := by
  obtain ⟨related, leads, -⟩ := readable.grown.exists_related declared inside
  obtain ⟨edge, connection⟩ := readable.grown.connection_types offered declared inside
  have there := TypeSystem.has_of_type? connection
  have level := group.level own (by rw [connects]; exact connection) rfl
  rw [Context.connection_eq]
  refine .bind (readable.fieldArguments has group own) fun given ⟨_, takes⟩ => ?_
  refine .bind_ok (objectType_eq connection rfl) (.bind_ok (objectType_eq edge rfl) ?_)
  refine .bind (readable.collect there rfl (.refl there) level) fun collected groups => ?_
  have each : ∀ entry ∈ collected, Yields context operation
      (ConnectionField.Fits context.surface.model paged
        (context.surface.model.propertiesOf? relationship) related)
      (context.connectionField readNode (connectionTypeName node.name relationship.name)
        (context.surface.model.edgeDefinition node relationship) relationship.relatedType entry) := by
    intro entry member
    obtain ⟨name, definition, inner⟩ := groups entry member
    exact connectionField_fitting readable reads offered declared inside leads
      (Nat.le_trans (Nat.sub_le ..) less) inner
  refine .bind (.mapM_each each) fun answers fits => ?_
  have sized : (given.get? "first").getD .null = .null ∨
      ∃ number, (given.get? "first").getD .null = .int number := by
    have takes := takes ⟨"first", Graphql.namedType "Int"⟩
      (by rw [connects]; exact List.mem_cons_self ..)
    cases first : given.get? "first" with
    | none => exact .inl rfl
    | some value =>
        rw [first] at takes
        by_cases missing : value = .null
        · exact .inl missing
        · exact .inr (Graphql.TypeSystem.Suits.exists_int
            (takes (Graphql.TypeExpr.wants_of_ne_null missing)))
  exact NodeField.Fits.connection_iff.mpr
    ⟨offered, sized, relationship, related, found, leads, fits⟩

/-- A field of a node is read with all that is selected in it. -/
theorem nodeField_fitting (found : context.surface.model.node node.name = .ok node)
    (has : context.surface.types.Has (Model.nodeDefinition paged node))
    (less : depth ≤ bound + 1) {entry : String × List Selected}
    (group : IsGroup context operation (Model.nodeDefinition paged node) depth name definition
      entry.2) :
    Yields context operation (NodeField.Fits context.surface.model paged node)
      (context.nodeField readNode node.name (Model.nodeDefinition paged node) node entry) := by
  have declared := Model.node_mem found
  have offers : context.surface.model.Offers paged (Model.nodeDefinition paged node) :=
    .node declared
  have bare := readable.grown.name_ne_query offers (List.mem_cons_self ..) rfl
  obtain ⟨key, fields⟩ := entry
  unfold Context.nodeField
  dsimp only
  rw [group.first_name]
  rcases group.own bare with rfl | ⟨apart, own⟩
  · rw [if_pos (by simp)]
    exact .leaf (.inl rfl)
  have same : definition.name = name := name_of_find? own
  split
  · next known =>
    refine NodeField.Fits.leaf (.inr ?_)
    simpa [apart] using known
  next property =>
  have member := Model.nodeDefinition_field (List.mem_of_find?_eq_some own)
  split
  · next relationship known =>
    have inside := List.mem_of_find?_eq_some known
    have named : relationship.name = name := name_of_find? known
    obtain ⟨related, leads, target, core⟩ := readable.grown.exists_related declared inside
    have field := readable.grown.field?_eq offers
      (Model.relationshipFields_subset inside (List.mem_cons_self ..))
    rw [named] at field
    cases field.symm.trans own
    have reached := group.reached readable own less (Model.node_mem leads) (core.trans target.symm)
    have lookup : context.surface.model.node related.name = .ok related := target ▸ leads
    rw [← target]
    exact .bind (reads (group.bound_pos less) related fields lookup group.filled reached)
      fun _ fits => NodeField.Fits.relationship known leads fits
  next unrelated =>
  obtain ⟨offered, relationship, connects⟩ : paged = true ∧
      ∃ relationship, Context.connectionOf? node name = some relationship := by
    rw [same] at member
    rcases member with known | ⟨relationship, inside, either⟩
    · simp [known] at property
    have known : (node.relationship? relationship.name).isSome = true :=
      List.find?_isSome.mpr ⟨relationship, inside, beq_iff_eq.mpr rfl⟩
    rcases either with rfl | ⟨offered, rfl⟩
    · rw [unrelated] at known
      cases known
    · rw [connectionOf?_eq]
      exact ⟨offered, Option.isSome_iff_exists.mp known⟩
  rw [connects]
  obtain ⟨known, rfl⟩ := connectionOf?_eq_some connects
  have inside := List.mem_of_find?_eq_some known
  have field := readable.grown.field?_eq offers (Model.connectionField_mem offered inside)
  have connection : definition = Model.connectionField node relationship :=
    Option.some.inj (own.symm.trans field)
  exact connection_fitting readable reads offered declared inside known has less key group own
    connection

omit reads in
/-- The fields of a node are read as deep as they nest. -/
theorem nodeFields_fitting (bound : Nat) :
    ReadsFitting context operation paged bound (context.nodeFields bound) := by
  induction bound with
  | zero => exact fun impossible => absurd impossible (Nat.lt_irrefl 0)
  | succ bound ih =>
      intro _ node fields found filled reached
      rw [Context.nodeFields_succ, found]
      refine .bind (readable.nodeType (Model.node_mem found)) fun type object => ?_
      obtain ⟨rfl, there, unscalared⟩ := object
      obtain ⟨parent, depth, covering, less, level⟩ := reached unscalared
      have has := TypeSystem.has_of_type? there
      refine .bind_ok rfl (.bind (readable.collect has rfl covering level) fun collected groups => ?_)
      refine .mapM_each fun entry member => ?_
      obtain ⟨name, definition, inner⟩ := groups entry member
      exact nodeField_fitting readable ih found has less inner

omit reads in
/-- What is selected on a node type is read, on the type itself or on an interface of it. -/
theorem nodeSelection_fitting (found : context.surface.model.node name = .ok node)
    (filled : fields ≠ []) (reached : node.name ∉ builtinScalars →
      Reached context operation paged context.depthBound node fields) :
    Yields context operation
      (fun selection => selection.typeName = name ∧ selection.Fits context.surface.model paged)
      (context.nodeSelection name fields) := by
  cases Model.node_name found
  have positive : 0 < context.depthBound := Nat.mul_pos (Nat.succ_pos _) (Nat.succ_pos _)
  refine .bind (nodeFields_fitting readable _ positive node fields found filled reached) ?_
  exact fun answers fits => ⟨rfl, node, found, fits⟩

omit reads in
/-- What is selected in a field that leads to a node type is read. -/
theorem selection_fitting (found : context.surface.model.node name = .ok node)
    (less : depth ≤ context.depthBound + 1) {label : String}
    (group : IsGroup context operation type depth label definition fields)
    (own : type.field? label = some definition) (leads : definition.type.core = name) :
    Yields context operation
      (fun selection => selection.typeName = name ∧ selection.Fits context.surface.model paged)
      (context.nodeSelection name fields) :=
  nodeSelection_fitting readable found group.filled
    (group.reached readable own less (Model.node_mem found) (leads.trans (Model.node_name found).symm))

omit reads in
theorem responseField_fitting {response : String}
    (found : context.surface.model.node node.name = .ok node) (less : depth ≤ context.depthBound + 1)
    (apart : (Model.responseDefinition node response).name ≠ TypeSystem.queryName)
    {entry : String × List Selected}
    (group : IsGroup context operation (Model.responseDefinition node response) depth name
      definition entry.2) :
    Yields context operation (ResponseField.Fits context.surface.model paged node.name)
      (context.responseField response node.name entry) := by
  obtain ⟨key, fields⟩ := entry
  unfold Context.responseField
  dsimp only
  rw [group.first_name]
  rcases group.own apart with rfl | ⟨other, own⟩
  · rw [if_pos rfl]
    exact trivial
  rw [if_neg other]
  have same : definition.name = name := name_of_find? own
  have plural := Model.responseDefinition_field (List.mem_of_find?_eq_some own)
  rw [if_pos (same.symm.trans plural.1)]
  exact .bind (selection_fitting readable found less group own plural.2) fun _ fits => fits

omit reads in
/-- What is selected on the answer to a mutation is read. -/
theorem responseSelection_fitting (found : context.surface.model.node node.name = .ok node)
    (less : depth ≤ context.depthBound + 1) {label response : String}
    (made : response = Schema.createResponseName node.name ∨
      response = Schema.updateResponseName node.name)
    (group : IsGroup context operation type depth label definition fields)
    (own : type.field? label = some definition) (leads : definition.type.core = response) :
    Yields context operation
      (ResponseSelection.Fits context.surface.model paged node.name)
      (context.responseSelection response node.name fields) := by
  have declared := Model.node_mem found
  have there := readable.grown.response_type? declared made
  have apart := readable.grown.name_ne_query (Model.offers_response declared made)
    (List.mem_cons_self ..) rfl
  have has := TypeSystem.has_of_type? there
  have level := group.level own (by rw [leads]; exact there) rfl
  rw [Context.responseSelection_eq]
  refine .bind_ok (objectType_eq there rfl) ?_
  refine .bind (readable.collect has rfl (.refl has) level) fun collected groups => ?_
  have each : ∀ entry ∈ collected, Yields context operation
      (ResponseField.Fits context.surface.model paged node.name)
      (context.responseField response node.name entry) := by
    intro entry member
    obtain ⟨name, definition, inner⟩ := groups entry member
    exact responseField_fitting readable found (Nat.le_trans (Nat.sub_le ..) less) apart inner
  exact .bind (.mapM_each each) fun answers fits => ⟨⟨node, found⟩, fits⟩

end

end

end GraphGateway.Request
