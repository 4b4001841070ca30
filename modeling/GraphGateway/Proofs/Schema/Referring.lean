import GraphGateway.Proofs.Schema.Linked

/-!
What the names in offered types refer to.  A type is made from a declaration, and every name that it
gives for a field, an argument or an interface is one of a builtin scalar, of the type of a property,
of a node type, of the properties of a relationship, or of a type made beside it.  What a type system
makes of such a name is not said here.
-/
namespace GraphGateway.Schema

open Graphql (FieldDefinition TypeDefinition TypeKind TypeSystem isStandardName isStandardName_made)

theorem rootNames_plain : ∀ name ∈ [TypeSystem.queryName, TypeSystem.mutationName],
    isStandardName name = false := by
  decide +kernel

namespace Model

/-- What a name in an offered type refers to, where types of fitting kinds may stand. -/
inductive Refers (model : Model) (paged : Bool) : (TypeKind → Bool) → String → Prop
  | builtin {fits : TypeKind → Bool} {name : String} (known : name ∈ builtinScalars)
      (scalar : fits .scalar = true) : model.Refers paged fits name
  | nodeField {fits : TypeKind → Bool} {node : NodeType} {field : PropertyField}
      (declared : node ∈ model.nodes) (inside : field ∈ node.fields)
      (scalar : fits .scalar = true) (enum : fits .enum = true) :
      model.Refers paged fits field.type.name
  | propertyField {fits : TypeKind → Bool} {type : PropertiesType} {field : PropertyField}
      (offered : paged = true) (declared : type ∈ model.properties) (inside : field ∈ type.fields)
      (scalar : fits .scalar = true) (enum : fits .enum = true) :
      model.Refers paged fits field.type.name
  | node {node : NodeType} (declared : node ∈ model.nodes) :
      model.Refers paged TypeKind.isOutput node.name
  | edge {node : NodeType} {relationship : Relationship} {type : PropertiesType}
      (offered : paged = true) (declared : node ∈ model.nodes)
      (inside : relationship ∈ node.relationships)
      (found : model.propertiesOf? relationship = some type) :
      model.Refers paged (· == .interface) type.name
  | made {fits : TypeKind → Bool} {type : TypeDefinition} (offers : model.Offers paged type)
      (foreign : isStandardName type.name = false) (fit : fits type.kind = true) :
      model.Refers paged fits type.name

variable {model : Model} {paged : Bool} {type : TypeDefinition} {fits : TypeKind → Bool}
  {node : NodeType} {relationship : Relationship}

theorem pagingNames_foreign :
    isStandardName nodeInterface = false ∧ isStandardName pageInfoName = false := by
  decide +kernel

theorem mem_updatableConnections {properties : PropertiesType}
    (member : (relationship, properties) ∈ model.updatableConnections paged node) :
    relationship ∈ node.relationships ∧ paged = true ∧ properties ∈ model.properties := by
  obtain ⟨other, inside, found⟩ := List.mem_filterMap.mp member
  obtain ⟨type, here, same⟩ := Option.map_eq_some_iff.mp found
  cases same
  unfold offeredProperties? at here
  split at here
  · next offered => exact ⟨inside, offered, properties_mem here⟩
  · cases here

theorem connectionInput_mem (some_ : ¬ (model.updatableConnections paged node).isEmpty = true) :
    inputOffer (updateConnectionInputName node.name)
      ((model.updatableConnections paged node).map fun entry =>
        ⟨entry.1.name, Graphql.optionalList (connectionEntryName node entry.1), []⟩) ∈
          model.updateConnectionOffers paged node := by
  simp [updateConnectionOffers, some_]

namespace Refers

theorem filter (declared : node ∈ model.nodes) :
    model.Refers paged TypeKind.isInput (whereInputName node.name) :=
  .made (.filter declared) (isStandardName_made _ (by decide)) rfl

theorem creation (declared : node ∈ model.nodes) :
    model.Refers paged TypeKind.isInput (createInputName node.name) :=
  .made (.creation declared) (isStandardName_made _ (by decide)) rfl

theorem fieldInput (declared : node ∈ model.nodes) (inside : relationship ∈ node.relationships)
    {offer : Offer} (member : offer ∈ model.fieldInputOffers paged node relationship) :
    model.Refers paged TypeKind.isInput offer.type.name := by
  have offers := Offers.fieldInput declared inside member
  unfold fieldInputOffers at member
  simp only [List.mem_cons, List.not_mem_nil, or_false] at member
  rcases member with rfl | rfl | rfl
  · exact .made offers (isStandardName_made _ (by decide)) rfl
  · exact .made offers (isStandardName_made _ (by decide)) rfl
  · exact .made offers (isStandardName_made _ (by decide)) rfl

theorem connection (offered : paged = true) (declared : node ∈ model.nodes)
    (inside : relationship ∈ node.relationships) {offer : Offer}
    (member : offer ∈ model.connectionOffers node relationship) :
    model.Refers paged TypeKind.isOutput offer.type.name := by
  have offers := Offers.connection offered declared inside member
  unfold connectionOffers at member
  simp only [List.mem_cons, List.not_mem_nil, or_false] at member
  rcases member with rfl | rfl
  · exact .made offers (isStandardName_made _ (by decide)) rfl
  · exact .made offers (isStandardName_made _ (by decide)) rfl

theorem propertiesInput (offered : paged = true) {properties : PropertiesType}
    (declared : properties ∈ model.properties) {ending : String}
    (known : ending = "UpdateInput" ∨ ending = "PropertiesInput") :
    model.Refers paged TypeKind.isInput (properties.name ++ ending) := by
  rcases known with rfl | rfl
  · have member : inputOffer (updateInputName properties.name) _ ∈ properties.offers :=
      List.mem_cons_of_mem _ (List.mem_cons_of_mem _ (List.mem_cons_self ..))
    exact .made (.properties offered declared member) (isStandardName_made _ (by decide)) rfl
  · have member : inputOffer (propertiesInputName properties.name) _ ∈ properties.offers :=
      List.mem_cons_of_mem _ (List.mem_cons_of_mem _
        (List.mem_cons_of_mem _ (List.mem_cons_self ..)))
    exact .made (.properties offered declared member) (isStandardName_made _ (by decide)) rfl

theorem connectionChange (declared : node ∈ model.nodes) {offer : Offer}
    (member : offer ∈ model.updateConnectionOffers paged node) :
    model.Refers paged TypeKind.isInput offer.type.name := by
  have offers := Offers.connectionChange declared member
  have foreign (stem : String) : isStandardName (stem ++ "UpdateConnectionInput") = false :=
    isStandardName_made stem (by decide)
  unfold updateConnectionOffers at member
  rcases List.mem_append.mp member with entry | whole
  · obtain ⟨⟨relationship, properties⟩, -, rfl⟩ := List.mem_map.mp entry
    exact .made offers (foreign _) rfl
  · split at whole
    · cases whole
    · cases List.mem_singleton.mp whole
      exact .made offers (foreign _) rfl

theorem response (declared : node ∈ model.nodes) {offer : Offer}
    (member : offer ∈ responseOffers node) :
    model.Refers paged TypeKind.isOutput offer.type.name := by
  have offers : model.Offers paged offer.type := .response declared member
  simp only [responseOffers, List.mem_cons, List.not_mem_nil, or_false] at member
  rcases member with rfl | rfl
  · exact .made offers (isStandardName_made _ (by decide)) rfl
  · exact .made offers (isStandardName_made _ (by decide)) rfl

end Refers

/-- A property as a field and as a field that may be left out refers to the same leaf type. -/
theorem propertyField_leads {field : PropertyField}
    (refers : model.Refers paged fits field.type.name) :
    field.definition.Leads (model.Refers paged) fits ∧
      field.optionalDefinition.Leads (model.Refers paged) fits := by
  constructor
  · apply FieldDefinition.Leads.bare
    rwa [TypeReference.toExpr_core]
  · apply FieldDefinition.Leads.bare
    rwa [TypeReference.toExpr_core]

theorem nodeField_leads (declared : node ∈ model.nodes) (scalar : fits .scalar = true)
    (enum : fits .enum = true) {field : PropertyField} (inside : field ∈ node.fields) :
    field.definition.Leads (model.Refers paged) fits ∧
      field.optionalDefinition.Leads (model.Refers paged) fits :=
  propertyField_leads (.nodeField declared inside scalar enum)

theorem relationshipInputs_lead (declared : node ∈ model.nodes) :
    ∀ field ∈ relationshipInputs node, field.Leads (model.Refers paged) TypeKind.isInput := by
  refine List.forall_mem_map.mpr fun relationship inside => ?_
  apply FieldDefinition.Leads.bare
  exact Refers.fieldInput declared inside
    (List.mem_cons_of_mem _ (List.mem_cons_of_mem _ (List.mem_cons_self ..)))

theorem response_leads (declared : node ∈ model.nodes) {offer : Offer}
    (member : offer ∈ responseOffers node) : offer.type.Leads (model.Refers paged) := by
  have target : model.Refers paged TypeKind.isOutput node.name := .node declared
  simp only [responseOffers, List.mem_cons, List.not_mem_nil, or_false] at member
  rcases member with rfl | rfl
  · refine ⟨?_, by simp [objectOffer]⟩
    simp only [objectOffer, List.forall_mem_cons]
    exact ⟨.bare target, fun _ none_ => absurd none_ List.not_mem_nil⟩
  · refine ⟨?_, by simp [objectOffer]⟩
    simp only [objectOffer, List.forall_mem_cons]
    exact ⟨.bare target, fun _ none_ => absurd none_ List.not_mem_nil⟩

theorem listField_leads (declared : node ∈ model.nodes) :
    (listField node).Leads (model.Refers paged) TypeKind.isOutput where
  type := .node declared
  names := by simp [listField]
  arguments := by
    simp only [listField, List.forall_mem_cons]
    exact ⟨.filter declared, fun _ none_ => absurd none_ List.not_mem_nil⟩

theorem lookupField_leads (offered : paged = true) :
    lookupField.Leads (model.Refers paged) TypeKind.isOutput where
  type := by
    have offers : model.Offers paged _ := .paging offered (List.mem_cons_self ..)
    exact .made offers pagingNames_foreign.1 rfl
  names := by simp [lookupField]
  arguments := by
    simp only [lookupField, List.forall_mem_cons]
    exact ⟨.builtin (by decide) rfl, fun _ none_ => absurd none_ List.not_mem_nil⟩

theorem createField_leads (declared : node ∈ model.nodes) :
    (createField node).Leads (model.Refers paged) TypeKind.isOutput where
  type := .response declared (List.mem_cons_self ..)
  names := by simp [createField]
  arguments := by
    simp only [createField, List.forall_mem_cons]
    exact ⟨.creation declared, fun _ none_ => absurd none_ List.not_mem_nil⟩

theorem updateField_leads (declared : node ∈ model.nodes) :
    (model.updateField paged node).Leads (model.Refers paged) TypeKind.isOutput where
  type := .response declared (List.mem_cons_of_mem _ (List.mem_cons_self ..))
  names := by
    unfold updateField
    split <;> split <;> simp
  arguments := by
    refine List.forall_mem_cons.mpr ⟨.filter declared, ?_⟩
    refine List.forall_mem_append.mpr ⟨?_, ?_⟩
    · split
      · next updatable =>
        intro argument member
        cases List.mem_singleton.mp member
        exact .made (.change declared updatable) (isStandardName_made _ (by decide)) rfl
      · exact fun _ none_ => absurd none_ List.not_mem_nil
    · split
      · exact fun _ none_ => absurd none_ List.not_mem_nil
      · next some_ =>
        intro argument member
        cases List.mem_singleton.mp member
        exact .connectionChange declared (connectionInput_mem some_)

theorem root_leads {offer : Offer} (member : offer ∈ model.rootOffers paged) :
    offer.type.Leads (model.Refers paged) := by
  unfold rootOffers at member
  rcases List.mem_cons.mp member with rfl | mutation
  · refine ⟨List.forall_mem_append.mpr ⟨?_, ?_⟩, by simp [objectOffer]⟩
    · exact List.forall_mem_map.mpr fun node declared => listField_leads declared
    · split
      · next offered =>
        intro field among
        cases List.mem_singleton.mp among
        exact lookupField_leads offered
      · exact fun _ none_ => absurd none_ List.not_mem_nil
  · split at mutation
    · cases mutation
    · cases List.mem_singleton.mp mutation
      refine ⟨?_, by simp [objectOffer]⟩
      intro field among
      obtain ⟨node, declared, either⟩ := List.mem_flatMap.mp among
      simp only [List.mem_cons, List.not_mem_nil, or_false] at either
      rcases either with rfl | rfl
      · exact createField_leads declared
      · exact updateField_leads declared

theorem properties_leads (offered : paged = true) {properties : PropertiesType}
    (declared : properties ∈ model.properties) {offer : Offer}
    (member : offer ∈ properties.offers) : offer.type.Leads (model.Refers paged) := by
  have leads {fits : TypeKind → Bool} (scalar : fits .scalar = true) (enum : fits .enum = true)
      (field : PropertyField) (inside : field ∈ properties.fields) :
      field.definition.Leads (model.Refers paged) fits ∧
        field.optionalDefinition.Leads (model.Refers paged) fits :=
    propertyField_leads (.propertyField offered declared inside scalar enum)
  unfold PropertiesType.offers at member
  simp only [List.mem_cons, List.not_mem_nil, or_false] at member
  rcases member with rfl | rfl | rfl | rfl
  · exact ⟨List.forall_mem_map.mpr fun field inside => (leads rfl rfl field inside).1, by simp⟩
  · exact ⟨List.forall_mem_map.mpr fun field inside => (leads rfl rfl field inside).1,
      by simp [inputOffer]⟩
  · exact ⟨List.forall_mem_map.mpr fun field inside => (leads rfl rfl field inside).2,
      by simp [inputOffer]⟩
  · exact ⟨List.forall_mem_map.mpr fun field inside => (leads rfl rfl field inside).2,
      by simp [inputOffer]⟩

section

variable (linked : model.IsLinked)
include linked

theorem relationshipFields_lead (declared : node ∈ model.nodes)
    (inside : relationship ∈ node.relationships) :
    ∀ field ∈ relationshipFields paged node relationship,
      field.Leads (model.Refers paged) TypeKind.isOutput := by
  obtain ⟨type, related, known, name⟩ := linked.related node declared relationship inside
  have target : model.Refers paged TypeKind.isOutput related.name := .node known
  rw [name, type, ← TypeReference.toExpr_core] at target
  refine List.forall_mem_cons.mpr ⟨.bare target, ?_⟩
  split
  · next offered =>
    intro field member
    cases List.mem_singleton.mp member
    have page : model.Refers paged TypeKind.isOutput _ :=
      .connection offered declared inside (List.mem_cons_of_mem _ (List.mem_cons_self ..))
    refine ⟨page, by simp [connectionField], ?_⟩
    simp only [connectionField, List.forall_mem_cons]
    exact ⟨.builtin (by decide) rfl, .builtin (by decide) rfl,
      fun _ none_ => absurd none_ List.not_mem_nil⟩
  · exact fun _ none_ => absurd none_ List.not_mem_nil

/-- The field of an input for the properties of a relationship, if these are offered. -/
def propertiesInput (model : Model) (paged : Bool) (relationship : Relationship) :
    List FieldDefinition :=
  match model.offeredProperties? paged relationship with
  | some type => [⟨"properties", Graphql.namedType (propertiesInputName type.name), []⟩]
  | none => []

omit linked in
theorem propertiesInput_leads (relationship : Relationship) :
    ∀ field ∈ model.propertiesInput paged relationship,
      field.Leads (model.Refers paged) TypeKind.isInput := by
  unfold propertiesInput
  cases found : model.offeredProperties? paged relationship with
  | none => exact fun _ none_ => absurd none_ List.not_mem_nil
  | some type =>
      unfold offeredProperties? at found
      split at found
      · next offered =>
        intro field among
        cases List.mem_singleton.mp among
        exact .bare (.propertiesInput offered (properties_mem found) (.inr rfl))
      · cases found

theorem fieldInput_leads (declared : node ∈ model.nodes)
    (inside : relationship ∈ node.relationships) {offer : Offer}
    (member : offer ∈ model.fieldInputOffers paged node relationship) :
    offer.type.Leads (model.Refers paged) := by
  obtain ⟨-, related, known, name⟩ := linked.related node declared relationship inside
  have creation : model.Refers paged TypeKind.isInput _ := .creation known
  have filter : model.Refers paged TypeKind.isInput _ := .filter known
  rw [name] at creation filter
  have created : model.Refers paged TypeKind.isInput _ :=
    .fieldInput declared inside (List.mem_cons_self ..)
  have connected : model.Refers paged TypeKind.isInput _ :=
    .fieldInput declared inside (List.mem_cons_of_mem _ (List.mem_cons_self ..))
  have properties : ∀ field ∈ model.propertiesInput paged relationship,
      field.Leads (model.Refers paged) TypeKind.isInput := propertiesInput_leads relationship
  unfold fieldInputOffers at member
  simp only [List.mem_cons, List.not_mem_nil, or_false] at member
  rcases member with rfl | rfl | rfl
  · exact ⟨List.forall_mem_cons.mpr ⟨.bare creation, properties⟩, by simp [inputOffer]⟩
  · exact ⟨List.forall_mem_cons.mpr ⟨.bare filter, properties⟩, by simp [inputOffer]⟩
  · refine ⟨?_, by simp [inputOffer]⟩
    simp only [inputOffer, List.forall_mem_cons]
    exact ⟨.bare created, .bare connected, fun _ none_ => absurd none_ List.not_mem_nil⟩

theorem connectionChange_leads (declared : node ∈ model.nodes) {offer : Offer}
    (member : offer ∈ model.updateConnectionOffers paged node) :
    offer.type.Leads (model.Refers paged) := by
  unfold updateConnectionOffers at member
  rcases List.mem_append.mp member with entry | whole
  · obtain ⟨⟨relationship, properties⟩, among, rfl⟩ := List.mem_map.mp entry
    obtain ⟨inside, offered, known⟩ := mem_updatableConnections among
    obtain ⟨-, related, knownToo, name⟩ := linked.related node declared relationship inside
    have filter : model.Refers paged TypeKind.isInput _ := .filter knownToo
    rw [name] at filter
    have change : model.Refers paged TypeKind.isInput _ :=
      .propertiesInput offered known (.inl rfl)
    refine ⟨?_, by simp [inputOffer]⟩
    simp only [inputOffer, List.forall_mem_cons]
    exact ⟨.bare filter, .bare change, fun _ none_ => absurd none_ List.not_mem_nil⟩
  · split at whole
    · cases whole
    · cases List.mem_singleton.mp whole
      refine ⟨List.forall_mem_map.mpr fun entry among => ?_, by simp [inputOffer]⟩
      have inner : model.Refers paged TypeKind.isInput _ :=
        .connectionChange declared (List.mem_append_left _ (List.mem_map_of_mem among))
      exact .bare inner

theorem connection_leads (offered : paged = true) (declared : node ∈ model.nodes)
    (inside : relationship ∈ node.relationships) {offer : Offer}
    (member : offer ∈ model.connectionOffers node relationship) :
    offer.type.Leads (model.Refers paged) := by
  have edge : model.Refers paged TypeKind.isOutput _ :=
    .connection offered declared inside (List.mem_cons_self ..)
  have pageInfo : model.Offers paged _ :=
    .paging offered (List.mem_cons_of_mem _ (List.mem_cons_self ..))
  have page : model.Refers paged TypeKind.isOutput _ := .made pageInfo pagingNames_foreign.2 rfl
  obtain ⟨-, related, known, name⟩ := linked.related node declared relationship inside
  have target : model.Refers paged TypeKind.isOutput related.name := .node known
  rw [name] at target
  unfold connectionOffers at member
  simp only [List.mem_cons, List.not_mem_nil, or_false] at member
  rcases member with rfl | rfl
  · constructor
    · refine List.forall_mem_append.mpr ⟨?_, ?_⟩
      · simp only [List.forall_mem_cons]
        exact ⟨.bare (.builtin (by decide) rfl), .bare target,
          fun _ none_ => absurd none_ List.not_mem_nil⟩
      · cases found : model.propertiesOf? relationship with
        | none => exact fun _ none_ => absurd none_ List.not_mem_nil
        | some properties =>
            refine List.forall_mem_map.mpr fun field among => ?_
            exact (propertyField_leads
              (.propertyField offered (properties_mem found) among rfl rfl)).1
    · cases found : model.propertiesOf? relationship with
      | none => exact fun _ none_ => absurd none_ List.not_mem_nil
      | some properties =>
          intro name member
          cases List.mem_singleton.mp member
          exact .edge offered declared inside found
  · refine ⟨?_, by simp [objectOffer]⟩
    simp only [objectOffer, List.forall_mem_cons]
    exact ⟨.bare edge, .bare page, fun _ none_ => absurd none_ List.not_mem_nil⟩

theorem node_leads (declared : node ∈ model.nodes) :
    (nodeDefinition paged node).Leads (model.Refers paged) := by
  constructor
  · refine List.forall_mem_cons.mpr ⟨.bare (.builtin (by decide) rfl), ?_⟩
    refine List.forall_mem_append.mpr ⟨List.forall_mem_map.mpr fun field member => ?_, ?_⟩
    · exact (nodeField_leads declared rfl rfl member).1
    · intro field member
      obtain ⟨relationship, inside, among⟩ := List.mem_flatMap.mp member
      exact relationshipFields_lead linked declared inside field among
  · intro name member
    unfold nodeDefinition at member
    dsimp only at member
    split at member
    · next offered =>
      cases List.mem_singleton.mp member
      have offers : model.Offers paged _ := .paging offered (List.mem_cons_self ..)
      exact .made offers pagingNames_foreign.1 rfl
    · cases member

/-- Every name in a type that is offered refers to something that is declared or made. -/
theorem Offers.leads (offers : model.Offers paged type) : type.Leads (model.Refers paged) := by
  have id : model.Refers paged TypeKind.isInput "ID" := .builtin (by decide) rfl
  cases offers with
  | paging offered member =>
      have builtin (name : String) (known : name ∈ builtinScalars) :
          model.Refers paged TypeKind.isOutput name := .builtin known rfl
      have text := builtin "String" (by decide)
      have flag := builtin "Boolean" (by decide)
      simp only [pagingOffers, List.mem_cons, List.not_mem_nil, or_false] at member
      rcases member with rfl | rfl
      · refine ⟨?_, by simp⟩
        simp only [List.forall_mem_cons]
        exact ⟨.bare (builtin "ID" (by decide)), fun _ none_ => absurd none_ List.not_mem_nil⟩
      · refine ⟨?_, by simp [objectOffer]⟩
        simp only [objectOffer, List.forall_mem_cons]
        exact ⟨.bare flag, .bare flag, .bare text, .bare text,
          fun _ none_ => absurd none_ List.not_mem_nil⟩
  | scalar => exact ⟨by simp, by simp⟩
  | enum => exact ⟨by simp, by simp⟩
  | properties offered declared member => exact properties_leads offered declared member
  | connection offered declared inside member =>
      exact connection_leads linked offered declared inside member
  | node declared => exact node_leads linked declared
  | filter declared =>
      refine ⟨List.forall_mem_cons.mpr ⟨.bare id, ?_⟩, by simp [whereOffer, inputOffer]⟩
      refine List.forall_mem_map.mpr fun field member => ?_
      exact (nodeField_leads declared rfl rfl (List.mem_filter.mp member).1).2
  | fieldInput declared inside member => exact fieldInput_leads linked declared inside member
  | creation declared =>
      refine ⟨List.forall_mem_cons.mpr ⟨.bare id, ?_⟩, by simp⟩
      refine List.forall_mem_append.mpr ⟨List.forall_mem_map.mpr fun field member => ?_, ?_⟩
      · exact (nodeField_leads declared rfl rfl member).1
      · exact relationshipInputs_lead declared
  | change declared =>
      refine ⟨?_, by simp⟩
      refine List.forall_mem_append.mpr ⟨List.forall_mem_map.mpr fun field member => ?_, ?_⟩
      · exact (nodeField_leads declared rfl rfl member).2
      · exact relationshipInputs_lead declared
  | connectionChange declared member => exact connectionChange_leads linked declared member
  | response declared member => exact response_leads declared member
  | root member => exact root_leads member

end

end Model

end GraphGateway.Schema
