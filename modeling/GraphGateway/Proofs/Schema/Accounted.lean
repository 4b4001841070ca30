import Mathlib.Data.List.Pairwise
import GraphGateway.Proofs.Schema.Collected
import GraphGateway.Proofs.Schema.Reordered

/-!
Fields that are accounted for.  Whatever a document declares, each field of its object types is kept
as one thing or is reported, and nothing is both.  What is kept refers to what is kept: a
relationship to a node type and to a type of properties, a property to a scalar or an enum.
-/
namespace GraphGateway.Schema

open Graphql (CompositeDeclaration Definition Document FieldDeclaration)

/-- What a field of an object type is kept as. -/
inductive Kept where
  | identifier (type : TypeReference)
  | property (field : PropertyField)
  | relationship (relationship : Relationship)

namespace Kept

def name : Kept → String
  | .identifier _ => identifierName
  | .property field => field.name
  | .relationship edge => edge.name

def type : Kept → TypeReference
  | .identifier type => type
  | .property field => field.type
  | .relationship edge => edge.type

end Kept

/-- All that is kept under the name of a field. -/
def NodeType.kept (node : NodeType) (fieldName : String) : List Kept :=
  (if fieldName = identifierName then (node.identifier.declared.map Kept.identifier).toList
    else []) ++
  (node.fields.filter (·.name == fieldName)).map Kept.property ++
  (node.relationships.filter (·.name == fieldName)).map Kept.relationship

/-- All that is kept under the names of an object type and of a field. -/
def Model.kept (model : Model) (typeName fieldName : String) : List Kept :=
  (model.nodes.filter (·.name == typeName)).flatMap (·.kept fieldName)

/-- A problem that names a type and a field of it. -/
structure Problem.IsOf (typeName fieldName : String) (problem : Problem) : Prop where
  type : problem.details.get? "type_name" = some (.text typeName)
  field : problem.details.get? "field_name" = some (.text fieldName)

theorem Problem.IsOf.unique {typeName fieldName otherType otherField : String} {problem : Problem}
    (here : problem.IsOf typeName fieldName) (there : problem.IsOf otherType otherField) :
    typeName = otherType ∧ fieldName = otherField := by
  have types := here.type.symm.trans there.type
  have fields := here.field.symm.trans there.field
  cases types
  cases fields
  exact ⟨rfl, rfl⟩

/-- How the reading of a field ends: it is kept under its name and with its type, or it is reported,
or the reading of the whole document stops at it. -/
inductive FieldRole.Settles (typeName : String) (field : FieldDeclaration) : FieldRole → Prop
  | identifier {stored : String} {type : TypeReference}
      (typed : TypeReference.ofExpr? field.type = some type) (own : field.name = identifierName) :
      Settles typeName field (.identifier { stored, declared := some type })
  | property {stored : String} {type : TypeReference}
      (typed : TypeReference.ofExpr? field.type = some type) :
      Settles typeName field (.property { name := field.name, type, stored })
  | relationship {relationship : Relationship} (named : relationship.name = field.name)
      (typed : TypeReference.ofExpr? field.type = some relationship.type) :
      Settles typeName field (.relationship relationship)
  | refused {problems : List Problem} (told : problems ≠ [])
      (each : ∀ problem ∈ problems, problem.IsOf typeName field.name) :
      Settles typeName field (.refused problems)
  | unreadable : Settles typeName field .unreadable

namespace FieldRole

variable {names : DeclaredNames} {typeName : String} {field : FieldDeclaration}

theorem Settles.reported {problem : Problem} (own : problem.IsOf typeName field.name) :
    Settles typeName field (.refused [problem]) :=
  .refused (List.cons_ne_nil _ _) (List.forall_mem_singleton.mpr own)

theorem settles_ofLeaf {type : TypeReference}
    (typed : TypeReference.ofExpr? field.type = some type) :
    Settles typeName field (.ofLeaf names typeName field.name type) := by
  unfold ofLeaf
  split
  · exact .property typed
  · exact .reported ⟨rfl, rfl⟩

theorem settles_ofRelationship {type : TypeReference} {mark : Graphql.Directive}
    (typed : TypeReference.ofExpr? field.type = some type) :
    Settles typeName field (.ofRelationship names typeName field.name type mark) := by
  unfold ofRelationship
  split
  · split
    · exact .reported ⟨rfl, rfl⟩
    · dsimp only
      split
      · exact .reported ⟨rfl, rfl⟩
      · generalize found : (if names.nodes.contains type.name = true then [] else
          [Problem.reference typeName field.name (.text type.name) none]) = strange
        have each : ∀ problem ∈ strange, problem.IsOf typeName field.name := by
          rw [← found]
          split
          · exact List.forall_mem_nil _
          · exact List.forall_mem_singleton.mpr ⟨rfl, rfl⟩
        split
        · exact .unreadable
        · refine .refused (by simp) ?_
          exact List.forall_mem_append.mpr ⟨each, List.forall_mem_singleton.mpr ⟨rfl, rfl⟩⟩
        · exact .relationship rfl typed
        · exact .relationship rfl typed
        · next readable given absent known =>
          refine .refused ?_ each
          rintro rfl
          -- Where nothing is strange, the branches above take every name of properties.
          cases named : PropertiesName.ofValue names (mark.argument "properties") with
          | absent => exact absent named rfl
          | declared name => exact known name named rfl
          | undeclared value => exact given value named
          | unreadable => exact readable named
  · exact .reported ⟨rfl, rfl⟩

end FieldRole

namespace FieldReading

variable {names : DeclaredNames} {typeName : String}

theorem settles_ofNodeField (field : FieldDeclaration) :
    (ofNodeField names typeName field).role.Settles typeName field := by
  unfold ofNodeField
  split
  · exact .reported ⟨rfl, rfl⟩
  · next type typed =>
    dsimp only
    split
    · next own => exact .identifier typed own
    · split
      · exact FieldRole.settles_ofRelationship typed
      · split
        · exact .reported ⟨rfl, rfl⟩
        · exact FieldRole.settles_ofLeaf typed

theorem settles_ofInterfaceField (field : FieldDeclaration) :
    (ofInterfaceField names typeName field).role.Settles typeName field := by
  unfold ofInterfaceField
  split
  · exact .reported ⟨rfl, rfl⟩
  · next type typed => exact FieldRole.settles_ofLeaf typed

/-- What a field is kept as by its reading. -/
def kept? (reading : FieldReading) : Option Kept :=
  match reading.role with
  | .identifier identifier => identifier.declared.map .identifier
  | .property field => some (.property field)
  | .relationship relationship => some (.relationship relationship)
  | _ => none

/-- A field that is kept is not reported. -/
theorem problems_of_kept? {reading : FieldReading} {kept : Kept}
    (found : reading.kept? = some kept) : reading.problems = [] := by
  unfold kept? at found
  unfold problems
  split at found
  · next role => rw [role]
  · next role => rw [role]
  · next role => rw [role]
  · cases found

theorem kept_or_reported {field : FieldDeclaration} {reading : FieldReading}
    (settles : reading.role.Settles typeName field) (readable : reading.isUnreadable = false) :
    (∃ kept, reading.kept? = some kept ∧ kept.name = field.name ∧
      TypeReference.ofExpr? field.type = some kept.type) ∨
    reading.kept? = none ∧ reading.problems ≠ [] := by
  obtain ⟨_, _, role⟩ := reading
  cases settles with
  | identifier typed own => exact .inl ⟨_, rfl, own.symm, typed⟩
  | property typed => exact .inl ⟨_, rfl, rfl, typed⟩
  | relationship named typed => exact .inl ⟨_, rfl, named, typed⟩
  | refused told each => exact .inr ⟨rfl, told⟩
  | unreadable => cases readable

theorem isOf_of_mem_problems {field : FieldDeclaration} {reading : FieldReading}
    (settles : reading.role.Settles typeName field) {problem : Problem}
    (member : problem ∈ reading.problems) : problem.IsOf typeName field.name := by
  obtain ⟨_, _, role⟩ := reading
  cases settles with
  | refused told each => exact each problem member
  | _ => cases member

end FieldReading

/-- Of items with different names, only what is made of one bears its name. -/
theorem filter_filterMap_of_mem {α β : Type} {name : α → String} (key : β → String)
    (choose : α → Option β) (keeps : ∀ item value, choose item = some value → key value = name item)
    {items : List α} (distinct : (items.map name).Nodup) {item : α} (member : item ∈ items) :
    (items.filterMap choose).filter (key · == name item) = (choose item).toList := by
  induction items with
  | nil => cases member
  | cons first rest ih =>
      obtain ⟨outside, distinct⟩ := List.nodup_cons.mp distinct
      rcases List.mem_cons.mp member with rfl | later
      · have others : (rest.filterMap choose).filter (key · == name item) = [] := by
          refine List.filter_eq_nil_iff.mpr fun value made same => outside ?_
          obtain ⟨other, inside, chosen⟩ := List.mem_filterMap.mp made
          rw [← eq_of_beq same, keeps other value chosen]
          exact List.mem_map_of_mem inside
        rw [List.filterMap_cons]
        cases chosen : choose item with
        | none => exact others
        | some value =>
            dsimp only
            rw [List.filter_cons, if_pos (beq_iff_eq.mpr (keeps item value chosen)), others]
            rfl
      · have apart : name first ≠ name item := fun same =>
          outside (same ▸ List.mem_map_of_mem later)
        rw [List.filterMap_cons]
        cases chosen : choose first with
        | none => exact ih distinct later
        | some value =>
            dsimp only
            have other : ¬ (key value == name item) = true := by
              rw [keeps first value chosen]
              exact fun same => apart (eq_of_beq same)
            rw [List.filter_cons, if_neg other]
            exact ih distinct later

/-- What is made of items comes in their order. -/
theorem names_filterMap_sublist {α β : Type} {name : α → String} {key : β → String}
    {choose : α → Option β} (keeps : ∀ item value, choose item = some value → key value = name item)
    (items : List α) : ((items.filterMap choose).map key).Sublist (items.map name) := by
  rw [List.map_filterMap, ← List.filterMap_eq_map]
  refine filterMap_sublist_of_imp ?_ items
  intro item made found
  obtain ⟨value, chosen, rfl⟩ := Option.map_eq_some_iff.mp found
  exact congrArg some (keeps item value chosen).symm

section

variable {names : DeclaredNames} {typeName : String} {field : FieldDeclaration}

theorem FieldReading.name_of_property? {reading : FieldReading}
    (settles : reading.role.Settles typeName field) {value : PropertyField}
    (found : reading.property? = some value) : value.name = field.name := by
  rw [property?_eq_some found] at settles
  cases settles
  rfl

theorem FieldReading.name_of_identifier? {reading : FieldReading}
    (settles : reading.role.Settles typeName field) {value : Identifier}
    (found : reading.identifier? = some value) : identifierName = field.name := by
  unfold identifier? at found
  split at found
  · next role =>
    rw [role] at settles
    cases settles with
    | identifier typed own => exact own.symm
  · cases found

/-- A node type keeps of a field what its reading says. -/
theorem NodeType.kept_ofReadings {fields : List FieldDeclaration}
    (distinct : (fields.map FieldDeclaration.name).Nodup) (member : field ∈ fields) :
    (NodeType.ofReadings typeName (fields.map (.ofNodeField names typeName))).kept field.name =
      (FieldReading.ofNodeField names typeName field).kept?.toList := by
  let read := FieldReading.ofNodeField names typeName
  have settle (field : FieldDeclaration) : (read field).role.Settles typeName field :=
    FieldReading.settles_ofNodeField field
  have properties := filter_filterMap_of_mem PropertyField.name
    (fun field => (read field).property?)
    (fun field _ => FieldReading.name_of_property? (settle field)) distinct member
  have relationships := filter_filterMap_of_mem Relationship.name
    (fun field => (read field).relationship?)
    (fun _ _ => FieldReading.name_of_nodeField) distinct member
  have identifiers := filter_filterMap_of_mem (fun _ => identifierName)
    (fun field => (read field).identifier?)
    (fun field _ => FieldReading.name_of_identifier? (settle field)) distinct member
  have identified (own : field.name = identifierName) :
      fields.filterMap (fun field => (read field).identifier?) =
        (read field).identifier?.toList := by
    simpa only [own, beq_self_eq_true, List.filter_true] using identifiers
  have settles := settle field
  unfold NodeType.kept NodeType.ofReadings
  simp only [List.filterMap_map, Function.comp_def]
  rw [properties, relationships]
  split
  · next own =>
    rw [identified own]
    change _ = (read field).kept?.toList
    generalize read field = reading at settles ⊢
    obtain ⟨_, _, role⟩ := reading
    cases settles <;> rfl
  · next other =>
    change _ = (read field).kept?.toList
    generalize read field = reading at settles ⊢
    obtain ⟨_, _, role⟩ := reading
    cases settles with
    | identifier typed own => exact absurd own other
    | _ => rfl

/-- The properties of a relationship that is read are those of a declared interface. -/
theorem FieldRole.ofRelationship_properties {type : TypeReference} {mark : Graphql.Directive}
    {fieldName : String} {relationship : Relationship}
    (role : FieldRole.ofRelationship names typeName fieldName type mark =
      .relationship relationship) {name : String}
    (given : relationship.properties = some name) : name ∈ names.interfaces := by
  unfold FieldRole.ofRelationship at role
  split at role
  · split at role
    · cases role
    · dsimp only at role
      split at role
      · cases role
      · split at role
        · cases role
        · cases role
        · cases role
          cases given
        · next read _ =>
          cases role
          cases given
          unfold PropertiesName.ofValue at read
          split at read
          · cases read
          · split at read
            · next known =>
              cases read
              exact List.contains_iff_mem.mp known
            · cases read
          all_goals cases read
        · cases role
  · cases role

theorem FieldReading.properties_of_nodeField {relationship : Relationship}
    (found : (ofNodeField names typeName field).relationship? = some relationship) {name : String}
    (given : relationship.properties = some name) : name ∈ names.interfaces := by
  have role := relationship?_eq_some found
  unfold ofNodeField at role
  split at role
  · cases role
  · dsimp only at role
    split at role
    · cases role
    · split at role
      · exact FieldRole.ofRelationship_properties role given
      · split at role
        · cases role
        · unfold FieldRole.ofLeaf at role
          split at role <;> cases role

end

namespace Declared

variable {document : Document} {declared : Declared}

/-- A document that is read has no field that stops the reading. -/
theorem readable (read : ofDocument? document = some declared)
    {declaration : CompositeDeclaration} (inside : declaration ∈ objects document)
    {field : FieldDeclaration} (member : field ∈ declaration.fields) :
    (FieldReading.ofNodeField (names document) declaration.name field).isUnreadable = false := by
  obtain ⟨_, eq⟩ := ofDocument?_eq document
  rw [eq] at read
  split at read
  · cases read
  · next none_ =>
    rw [Bool.not_eq_true, List.any_eq_false] at none_
    have entry := none_ _ (List.mem_map_of_mem inside)
    rw [Bool.not_eq_true, List.any_eq_false] at entry
    simpa using entry _ (List.mem_map_of_mem member)

theorem properties_eq (read : ofDocument? document = some declared) :
    declared.model.properties = (held document).map fun declaration =>
      PropertiesType.ofReadings declaration.name
        (declaration.fields.map (.ofInterfaceField (names document) declaration.name)) := by
  obtain ⟨_, eq⟩ := ofDocument?_eq document
  rw [eq] at read
  split at read
  · cases read
  · cases read
    unfold interfaceReadings
    simp only [List.map_map, Function.comp_def]

theorem problems_eq (read : ofDocument? document = some declared) :
    declared.problems = (nodeReadings document ++ interfaceReadings document).flatMap
      fun (_, readings) => readings.flatMap FieldReading.problems := by
  obtain ⟨_, eq⟩ := ofDocument?_eq document
  rw [eq] at read
  split at read
  · cases read
  · cases read
    rfl

section

variable (named : document.IsUniquelyNamed)
include named

/-- The interfaces that hold properties, in the order of the document. -/
theorem held_sublist : (held document).Sublist (document.filterMap interface?) := by
  unfold held
  rw [interfaces_eq named, List.map_map]
  exact List.filter_sublist.trans (List.map_id _ ▸ List.Sublist.refl _)

/-- No interface has the name of an object type. -/
theorem interface_name_ne {declaration interface : CompositeDeclaration}
    (inside : declaration ∈ objects document) (held : interface ∈ held document) :
    interface.name ≠ declaration.name := by
  obtain ⟨object, declares, isObject⟩ := List.mem_filterMap.mp inside
  obtain ⟨definition, among, isInterface⟩ :=
    List.mem_filterMap.mp ((held_sublist named).subset held)
  split at isObject
  · split at isObject <;> cases isObject
    cases definition with
    | interface other =>
        cases isInterface
        have apart := List.pairwise_filterMap.mp named.types
        have symmetric : Std.Symm fun first second : Definition =>
            ∀ name, first.typeName? = some name → ∀ other, second.typeName? = some other →
              name ≠ other :=
          ⟨fun _ _ apart _ here _ there => (apart _ there _ here).symm⟩
        exact apart.forall among declares nofun _ rfl _ rfl
    | _ => cases isInterface
  · cases isObject

/-- A problem names a field of an object type exactly if the reading of that field reports it. -/
theorem reported_iff (read : ofDocument? document = some declared)
    {declaration : CompositeDeclaration} (inside : declaration ∈ objects document)
    {field : FieldDeclaration} (member : field ∈ declaration.fields) :
    (∃ problem ∈ declared.problems, problem.IsOf declaration.name field.name) ↔
      (FieldReading.ofNodeField (names document) declaration.name field).problems ≠ [] := by
  rw [problems_eq read]
  constructor
  · rintro ⟨problem, told, own⟩
    obtain ⟨⟨name, readings⟩, entry, told⟩ := List.mem_flatMap.mp told
    obtain ⟨reading, among, told⟩ := List.mem_flatMap.mp told
    rcases List.mem_append.mp entry with ofNode | ofInterface
    · obtain ⟨other, insideToo, same⟩ := List.mem_map.mp ofNode
      cases same
      obtain ⟨field', memberToo, rfl⟩ := List.mem_map.mp among
      have names :=
        (FieldReading.isOf_of_mem_problems (FieldReading.settles_ofNodeField field') told).unique own
      obtain rfl := List.inj_on_of_nodup_map (objectNames_nodup named) insideToo inside names.1
      obtain rfl := List.inj_on_of_nodup_map (fields_nodup named inside) memberToo member names.2
      exact List.ne_nil_of_mem told
    · obtain ⟨interface, held, same⟩ := List.mem_map.mp ofInterface
      cases same
      obtain ⟨field', -, rfl⟩ := List.mem_map.mp among
      have names := (FieldReading.isOf_of_mem_problems (FieldReading.settles_ofInterfaceField field')
        told).unique own
      exact absurd names.1 (interface_name_ne named inside held)
  · intro told
    obtain ⟨problem, first⟩ := List.exists_mem_of_ne_nil _ told
    refine ⟨problem, List.mem_flatMap.mpr ⟨_, List.mem_append_left _ (List.mem_map_of_mem inside),
      List.mem_flatMap.mpr ⟨_, List.mem_map_of_mem member, first⟩⟩, ?_⟩
    exact FieldReading.isOf_of_mem_problems (FieldReading.settles_ofNodeField field) first

/-- The model keeps of a field of an object type what its reading says. -/
theorem kept_eq (read : ofDocument? document = some declared)
    {declaration : CompositeDeclaration} (inside : declaration ∈ objects document)
    {field : FieldDeclaration} (member : field ∈ declaration.fields) :
    declared.model.kept declaration.name field.name =
      (FieldReading.ofNodeField (names document) declaration.name field).kept?.toList := by
  have only := filter_filterMap_of_mem NodeType.name
    (fun declaration => some (NodeType.ofReadings declaration.name
      (declaration.fields.map (.ofNodeField (names document) declaration.name))))
    (by rintro _ _ ⟨⟩; rfl) (objectNames_nodup named) inside
  rw [List.filterMap_eq_map'] at only
  unfold Model.kept
  rw [nodes_eq read, only]
  simp only [Option.toList_some, List.flatMap_singleton]
  exact NodeType.kept_ofReadings (fields_nodup named inside) member

/-- The properties of a relationship are found, since their interface is held for its sake. -/
theorem properties_found (read : ofDocument? document = some declared) {node : NodeType}
    (member : node ∈ declared.model.nodes) {relationship : Relationship}
    (inside : relationship ∈ node.relationships) {name : String}
    (given : relationship.properties = some name) :
    ∃ type, declared.model.propertiesType? name = some type := by
  rw [nodes_eq read] at member
  have kept : node ∈ nodes document := by
    unfold nodes nodeReadings
    rwa [List.map_map]
  obtain ⟨declaration, -, rfl⟩ := List.mem_map.mp member
  obtain ⟨reading, among, found⟩ := List.mem_filterMap.mp inside
  obtain ⟨field, -, rfl⟩ := List.mem_map.mp among
  have known : name ∈ (interfaces document).keys :=
    FieldReading.properties_of_nodeField found given
  rw [interfaces_eq named] at known
  simp only [Entries.keys, List.map_map, List.mem_map, Function.comp] at known
  obtain ⟨interface, isInterface, rfl⟩ := known
  have isHeld : interface ∈ held document := by
    refine List.mem_filter.mpr ⟨?_, Bool.or_eq_true_iff.mpr (.inl ?_)⟩
    · rw [interfaces_eq named, List.map_map]
      exact List.mem_map.mpr ⟨interface, isInterface, rfl⟩
    · exact List.any_eq_true.mpr ⟨_, kept, List.any_eq_true.mpr
        ⟨relationship, inside, beq_iff_eq.mpr given⟩⟩
  refine Option.isSome_iff_exists.mp (List.find?_isSome.mpr ?_)
  rw [properties_eq read]
  exact ⟨_, List.mem_reverse.mpr (List.mem_map_of_mem isHeld), beq_self_eq_true interface.name⟩

end

/-- Whether a name is that of a scalar or an enum, built in or declared. -/
def IsLeaf (document : Document) (name : String) : Prop :=
  name ∈ builtinScalars ∨ (∃ values, .enum { name, values } ∈ document) ∨ .scalar name ∈ document

theorem isLeaf_of_mem {name : String} (known : name ∈ (names document).leaves) :
    IsLeaf document name := by
  rcases List.mem_append.mp known with known | isScalar
  · rcases List.mem_append.mp known with builtin | isEnum
    · exact .inl builtin
    · obtain ⟨enum, among, rfl⟩ := List.mem_map.mp isEnum
      obtain ⟨definition, member, chosen⟩ := List.mem_filterMap.mp among
      split at chosen <;> cases chosen
      exact .inr (.inl ⟨_, member⟩)
  · obtain ⟨definition, member, chosen⟩ := List.mem_filterMap.mp isScalar
    split at chosen <;> cases chosen
    exact .inr (.inr member)

/-- What is declared is accounted for: every field of an object type is kept as one thing with its
type and not reported, or it is reported and not kept; what is kept leads to what is kept; and all of
it comes in the order of the document. -/
structure Accounts (document : Document) (declared : Declared) : Prop where
  fields : ∀ declaration ∈ objects document, ∀ field ∈ declaration.fields,
    (∃ kept, declared.model.kept declaration.name field.name = [kept] ∧
      TypeReference.ofExpr? field.type = some kept.type ∧
      ∀ problem ∈ declared.problems, ¬ problem.IsOf declaration.name field.name) ∨
    declared.model.kept declaration.name field.name = [] ∧
      ∃ problem ∈ declared.problems, problem.IsOf declaration.name field.name
  related : ∀ node ∈ declared.model.nodes, ∀ relationship ∈ node.relationships,
    ∃ related, declared.model.related relationship = .ok related
  properties : ∀ node ∈ declared.model.nodes, ∀ relationship ∈ node.relationships, ∀ name,
    relationship.properties = some name → ∃ type, declared.model.propertiesType? name = some type
  leaves : ∀ node ∈ declared.model.nodes, ∀ field ∈ node.fields, IsLeaf document field.type.name
  propertyLeaves : ∀ type ∈ declared.model.properties, ∀ field ∈ type.fields,
    IsLeaf document field.type.name
  nodeOrder : List.Forall₂ (fun declaration node => node.name = declaration.name ∧
      (node.fields.map PropertyField.name).Sublist (declaration.fields.map FieldDeclaration.name) ∧
      (node.relationships.map Relationship.name).Sublist
        (declaration.fields.map FieldDeclaration.name))
    (objects document) declared.model.nodes
  propertiesOrder : ∃ interfaces, interfaces.Sublist (document.filterMap interface?) ∧
    List.Forall₂ (fun declaration type => type.name = declaration.name ∧
      (type.fields.map PropertyField.name).Sublist (declaration.fields.map FieldDeclaration.name))
      interfaces declared.model.properties

/-- A document with different names that can be read is accounted for. -/
theorem accounts_of_read (named : document.IsUniquelyNamed)
    (read : ofDocument? document = some declared) : declared.Accounts document where
  fields declaration inside field member := by
    have reported := reported_iff named read inside member
    rw [kept_eq named read inside member]
    rcases FieldReading.kept_or_reported (FieldReading.settles_ofNodeField field)
      (readable read inside member) with ⟨kept, found, -, typed⟩ | ⟨none_, told⟩
    · refine .inl ⟨kept, by rw [found]; rfl, typed, fun problem among own => ?_⟩
      exact reported.mp ⟨problem, among, own⟩ (FieldReading.problems_of_kept? found)
    · exact .inr ⟨by rw [none_]; rfl, reported.mpr told⟩
  related node member relationship inside := by
    obtain ⟨-, related, among, name⟩ := (isLinked read).related node member relationship inside
    exact Model.related_of_mem (name ▸ List.mem_map_of_mem among)
  properties _ member _ inside _ given := properties_found named read member inside given
  leaves node member field inside :=
    isLeaf_of_mem (leafNames_eq read ▸ (isLinked read).nodeFields node member field inside)
  propertyLeaves type member field inside :=
    isLeaf_of_mem (leafNames_eq read ▸ (isLinked read).propertyFields type member field inside)
  nodeOrder := by
    rw [nodes_eq read, List.forall₂_map_right_iff]
    refine List.forall₂_same.mpr fun declaration _ => ⟨rfl, ?_, ?_⟩
    · simp only [NodeType.ofReadings, List.filterMap_map, Function.comp_def]
      exact names_filterMap_sublist (fun field _ =>
        FieldReading.name_of_property? (FieldReading.settles_ofNodeField field)) _
    · simp only [NodeType.ofReadings, List.filterMap_map, Function.comp_def]
      exact names_filterMap_sublist (fun _ _ found => FieldReading.name_of_nodeField found) _
  propertiesOrder := by
    refine ⟨held document, held_sublist named, ?_⟩
    rw [properties_eq read, List.forall₂_map_right_iff]
    refine List.forall₂_same.mpr fun declaration _ => ⟨rfl, ?_⟩
    simp only [PropertiesType.ofReadings, List.filterMap_map, Function.comp_def]
    exact names_filterMap_sublist (fun field _ =>
      FieldReading.name_of_property? (FieldReading.settles_ofInterfaceField field)) _

/-- A document with a field of each kind, and one that each test of a field refuses. -/
def catalogueDocument : Document :=
  [.object
    { name := "Book", directives := []
      fields :=
        [⟨"id", .nonNull (.named "ID"), []⟩,
         ⟨"title", .nonNull (.named "String"), []⟩,
         ⟨"authors", .list (.named "Author"),
          [⟨"relationship",
            [("type", .string "WROTE" false), ("direction", .enum "IN"),
             ("properties", .string "Credit" false)]⟩]⟩,
         ⟨"editor", .named "Author", []⟩,
         ⟨"keywords", .list (.list (.named "String")), []⟩,
         ⟨"reviews", .list (.named "Review"),
          [⟨"relationship",
            [("type", .string "REVIEWS" false), ("direction", .enum "IN"),
             ("properties", .string "Score" false)]⟩]⟩,
         ⟨"shelf", .named "Shelf", []⟩,
         ⟨"genre", .named "Genre", []⟩] },
   .object { name := "Author", directives := [], fields := [⟨"name", .named "String", []⟩] },
   .object { name := "Query", directives := [], fields := [⟨"books", .named "Book", []⟩] },
   .interface { name := "Credit", directives := [], fields := [⟨"share", .named "Int", []⟩] },
   .enum { name := "Genre", values := ["NOVEL", "POETRY"] }]

theorem accounts_of_read_catalogue :
    catalogueDocument.IsUniquelyNamed ∧ ∃ declared,
      ofDocument? catalogueDocument = some declared ∧ declared.problems.length = 5 ∧
      declared.model.kept "Book" "authors" ≠ [] ∧ declared.Accounts catalogueDocument := by
  have named : catalogueDocument.IsUniquelyNamed := ⟨by decide, by decide⟩
  have told : (ofDocument? catalogueDocument).any (fun declared =>
      declared.problems.length == 5 &&
        !(declared.model.kept "Book" "authors").isEmpty) = true := by
    decide +kernel
  obtain ⟨declared, read, told⟩ := (Option.any_eq_true _ _).mp told
  rw [Bool.and_eq_true] at told
  have kept : declared.model.kept "Book" "authors" ≠ [] := by simpa using told.2
  exact ⟨named, declared, read, eq_of_beq told.1, kept, accounts_of_read named read⟩

end Declared

end GraphGateway.Schema
