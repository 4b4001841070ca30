import GraphGateway.Proofs.Entries
import GraphGateway.Proofs.Schema.Rearranged

/-!
Documents whose definitions come in another order.  A field is read by which names are declared, not
by where; so the same definitions give the same node types and the same types of properties, and the
same problems, each in the order of the document.
-/
namespace GraphGateway.Graphql

/-- The name of the type that a definition declares. -/
def Definition.typeName? : Definition → Option String
  | .object declaration => some declaration.name
  | .interface declaration => some declaration.name
  | .enum declaration => some declaration.name
  | .scalar name => some name
  | _ => none

/-- The fields that a definition declares. -/
def Definition.fields : Definition → List FieldDeclaration
  | .object declaration => declaration.fields
  | .interface declaration => declaration.fields
  | _ => []

/-- A document whose types have different names, as the fields of each of them do. -/
structure Document.IsUniquelyNamed (document : Document) : Prop where
  types : (document.filterMap Definition.typeName?).Nodup
  fields : ∀ definition ∈ document, (definition.fields.map FieldDeclaration.name).Nodup

end GraphGateway.Graphql

namespace GraphGateway.Schema

open Graphql (CompositeDeclaration Definition Document FieldDeclaration)

theorem filterMap_sublist_of_imp {α β : Type} {choose other : α → Option β}
    (agree : ∀ item value, choose item = some value → other item = some value) (items : List α) :
    (items.filterMap choose).Sublist (items.filterMap other) := by
  induction items with
  | nil => exact .slnil
  | cons item rest ih =>
      rw [List.filterMap_cons, List.filterMap_cons]
      cases chosen : choose item with
      | none =>
          cases other item with
          | none => exact ih
          | some value => exact ih.cons value
      | some value =>
          rw [agree item value chosen]
          exact ih.cons_cons value

/-- Names of which the same are declared. -/
structure DeclaredNames.Agree (names others : DeclaredNames) : Prop where
  nodes : ∀ name, names.nodes.contains name = others.nodes.contains name
  leaves : ∀ name, names.leaves.contains name = others.leaves.contains name
  interfaces : ∀ name, names.interfaces.contains name = others.interfaces.contains name

namespace FieldReading

variable {names others : DeclaredNames}

theorem ofNodeField_eq (agree : names.Agree others) : ofNodeField names = ofNodeField others := by
  funext typeName field
  unfold ofNodeField FieldRole.ofRelationship PropertiesName.ofValue FieldRole.ofLeaf
  simp only [agree.nodes, agree.leaves, agree.interfaces]

theorem ofInterfaceField_eq (agree : names.Agree others) :
    ofInterfaceField names = ofInterfaceField others := by
  funext typeName field
  unfold ofInterfaceField FieldRole.ofLeaf
  simp only [agree.leaves]

end FieldReading

/-- The relationships of a node type have different names if its fields do. -/
theorem relationshipNames_nodup {names : DeclaredNames} {typeName name : String}
    {fields : List FieldDeclaration} (distinct : (fields.map FieldDeclaration.name).Nodup) :
    ((NodeType.ofReadings name (fields.map (.ofNodeField names typeName))).relationships.map
      Relationship.name).Nodup := by
  rw [← List.filterMap_eq_map] at distinct
  unfold NodeType.ofReadings
  rw [List.map_filterMap, List.filterMap_map]
  refine distinct.sublist (filterMap_sublist_of_imp ?_ fields)
  intro field value found
  obtain ⟨relationship, read, rfl⟩ := Option.map_eq_some_iff.mp found
  exact congrArg some (FieldReading.name_of_nodeField read).symm

namespace Declared

variable {document other : Document}

def interface? : Definition → Option CompositeDeclaration
  | .interface declaration => some declaration
  | _ => none

theorem interfaceNames_nodup (named : document.IsUniquelyNamed) :
    ((document.filterMap interface?).map CompositeDeclaration.name).Nodup := by
  rw [List.map_filterMap]
  refine named.types.sublist (filterMap_sublist_of_imp ?_ document)
  intro definition name found
  obtain ⟨declaration, chosen, rfl⟩ := Option.map_eq_some_iff.mp found
  unfold interface? at chosen
  split at chosen <;> cases chosen
  rfl

/-- Interfaces of different names are all there. -/
theorem interfaces_eq (named : document.IsUniquelyNamed) :
    interfaces document =
      (document.filterMap interface?).map fun declaration => (declaration.name, declaration) := by
  have pairs : (document.filterMap fun
      | .interface declaration => some (declaration.name, declaration)
      | _ => none) =
        (document.filterMap interface?).map fun declaration => (declaration.name, declaration) := by
    rw [List.map_filterMap]
    refine List.filterMap_congr fun definition _ => ?_
    cases definition <;> rfl
  refine (congrArg Entries.ofPairs pairs).trans (Entries.ofPairs_eq ?_)
  rw [List.map_map]
  exact interfaceNames_nodup named

theorem objectNames_nodup (named : document.IsUniquelyNamed) :
    ((objects document).map CompositeDeclaration.name).Nodup := by
  unfold objects
  rw [List.map_filterMap]
  refine named.types.sublist (filterMap_sublist_of_imp ?_ document)
  intro definition name found
  obtain ⟨declaration, chosen, rfl⟩ := Option.map_eq_some_iff.mp found
  split at chosen
  · split at chosen <;> cases chosen
    rfl
  · cases chosen

theorem fields_nodup (named : document.IsUniquelyNamed) {declaration : CompositeDeclaration}
    (declared : declaration ∈ objects document) :
    (declaration.fields.map FieldDeclaration.name).Nodup := by
  obtain ⟨definition, member, chosen⟩ := List.mem_filterMap.mp declared
  split at chosen
  · split at chosen <;> cases chosen
    exact named.fields _ member
  · cases chosen

/-- The object types of a document with their fields as they are read. -/
def nodeReadings (document : Document) : List (String × List FieldReading) :=
  (objects document).map fun declaration =>
    (declaration.name, declaration.fields.map (.ofNodeField (names document) declaration.name))

def nodes (document : Document) : List NodeType :=
  (nodeReadings document).map fun (name, readings) => NodeType.ofReadings name readings

/-- The interfaces of a document that hold properties. -/
def held (document : Document) : List CompositeDeclaration :=
  ((interfaces document).map Prod.snd).filter (holdsProperties (nodes document))

def interfaceReadings (document : Document) : List (String × List FieldReading) :=
  (held document).map fun declaration =>
    (declaration.name, declaration.fields.map (.ofInterfaceField (names document) declaration.name))

theorem nodeNames_nodup (named : document.IsUniquelyNamed) :
    ((nodes document).map NodeType.name).Nodup := by
  unfold nodes nodeReadings
  rw [List.map_map, List.map_map]
  exact objectNames_nodup named

theorem relationships_nodup (named : document.IsUniquelyNamed) {node : NodeType}
    (member : node ∈ nodes document) : (node.relationships.map Relationship.name).Nodup := by
  unfold nodes nodeReadings at member
  rw [List.map_map] at member
  obtain ⟨declaration, declared, rfl⟩ := List.mem_map.mp member
  exact relationshipNames_nodup (fields_nodup named declared)

theorem propertiesNames_nodup (named : document.IsUniquelyNamed) :
    (((interfaceReadings document).map fun (name, readings) =>
      PropertiesType.ofReadings name readings).map PropertiesType.name).Nodup := by
  have kept : ((held document).map CompositeDeclaration.name).Sublist
      (((interfaces document).map Prod.snd).map CompositeDeclaration.name) :=
    List.filter_sublist.map _
  rw [interfaces_eq named, List.map_map] at kept
  unfold interfaceReadings
  rw [List.map_map, List.map_map]
  refine List.Nodup.sublist kept ?_
  rw [List.map_map]
  exact interfaceNames_nodup named

/-- A document is read by its fields. -/
theorem ofDocument?_eq (document : Document) : ∃ warnings, ofDocument? document =
    if (nodeReadings document).any fun entry => entry.2.any FieldReading.isUnreadable then none
    else some
      { model :=
          { nodes := nodes document
            properties := (interfaceReadings document).map fun (name, readings) =>
              PropertiesType.ofReadings name readings
            enums := enums document
            scalars := scalars document }
        problems := (nodeReadings document ++ interfaceReadings document).flatMap
          fun (_, readings) => readings.flatMap FieldReading.problems
        warnings } := by
  unfold ofDocument? interfaceReadings held
  dsimp only
  rw [List.partition_eq_filter_filter]
  exact ⟨_, rfl⟩

section

variable (named : document.IsUniquelyNamed) (perm : document.Perm other)
include named perm

theorem isUniquelyNamed_of_perm : other.IsUniquelyNamed where
  types := (perm.filterMap Definition.typeName?).nodup_iff.mp named.types
  fields definition member := named.fields definition (perm.mem_iff.mpr member)

theorem interfaces_perm : (interfaces document).Perm (interfaces other) := by
  rw [interfaces_eq named, interfaces_eq (isUniquelyNamed_of_perm named perm)]
  exact (perm.filterMap interface?).map _

theorem names_agree : (names document).Agree (names other) where
  nodes _ := ((perm.filterMap _).map _).contains_eq
  leaves _ := (((List.Perm.refl _).append ((perm.filterMap _).map _)).append
    (perm.filterMap _)).contains_eq
  interfaces _ := ((interfaces_perm named perm).map _).contains_eq

theorem nodeReadings_perm : (nodeReadings document).Perm (nodeReadings other) := by
  unfold nodeReadings
  rw [FieldReading.ofNodeField_eq (names_agree named perm)]
  exact (perm.filterMap _).map _

theorem nodes_perm : (nodes document).Perm (nodes other) :=
  (nodeReadings_perm named perm).map _

theorem held_perm : (held document).Perm (held other) := by
  have holds : holdsProperties (nodes document) = holdsProperties (nodes other) := by
    funext interface
    unfold holdsProperties
    rw [(nodes_perm named perm).any_eq]
  unfold held
  rw [holds]
  exact ((interfaces_perm named perm).map _).filter _

theorem interfaceReadings_perm : (interfaceReadings document).Perm (interfaceReadings other) := by
  unfold interfaceReadings
  rw [FieldReading.ofInterfaceField_eq (names_agree named perm)]
  exact (held_perm named perm).map _

end

/-- The same is declared in another order. -/
structure Rearranges (declared other : Declared) : Prop where
  model : declared.model.Rearranges other.model
  problems : declared.problems.Perm other.problems

/-- A document is read in any order of its definitions or in none, and the same is read of it. -/
theorem ofDocument?_rearranges (named : document.IsUniquelyNamed) (perm : document.Perm other) :
    Option.Rel Rearranges (ofDocument? document) (ofDocument? other) := by
  obtain ⟨_, here⟩ := ofDocument?_eq document
  obtain ⟨_, there⟩ := ofDocument?_eq other
  have readings := nodeReadings_perm named perm
  have interfaces := interfaceReadings_perm named perm
  rw [here, there, readings.any_eq]
  split
  · exact .none
  · exact .some
      { model :=
          { named := ⟨nodeNames_nodup named, fun _ => relationships_nodup named⟩
            distinct := propertiesNames_nodup named
            nodes := readings.map _
            properties := interfaces.map _
            enums := perm.filterMap _
            scalars := perm.filterMap _ }
        problems := (readings.append interfaces).flatMap_right _ }

end Declared

end GraphGateway.Schema
