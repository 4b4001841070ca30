import GraphGateway.Graphql.TypeSystem
import GraphGateway.Schema.Model

/-!
Models and type systems described as values, for tools that show or compare them.  Every part stands
under a name of its own; what is missing is null.
-/
namespace GraphGateway

def Value.ofTexts (items : List String) : Value := .list (items.map .text)

namespace Schema

def TypeReference.described (type : TypeReference) : Entries Value :=
  [("name", .text type.name), ("non_null", .bool type.nonNull), ("is_list", .bool type.isList),
   ("item_non_null", .bool type.itemNonNull)]

def PropertyField.described (field : PropertyField) : Value :=
  .object [("name", .text field.name), ("type", .object field.type.described),
    ("source_property", .text field.stored)]

def Relationship.described (relationship : Relationship) : Value :=
  .object [("name", .text relationship.name), ("type", .object relationship.type.described),
    ("related_type", .text relationship.relatedType),
    ("direction", .text relationship.direction.text),
    ("relationship_type", .text relationship.label),
    ("properties", .textOrNull relationship.properties)]

def Identifier.described (identifier : Identifier) : Value :=
  .object [("field_name", .text identifierName), ("source_property", .text identifier.stored),
    ("declared_type", match identifier.declared with
      | some type => .object type.described
      | none => .null)]

def NodeType.described (node : NodeType) : Value :=
  .object [("name", .text node.name), ("identifier", node.identifier.described),
    ("fields", .list (node.fields.map PropertyField.described)),
    ("relationships", .list (node.relationships.map Relationship.described)),
    ("identifier_directive_fields", .ofTexts node.marked)]

def PropertiesType.described (type : PropertiesType) : Value :=
  .object [("name", .text type.name), ("fields", .list (type.fields.map PropertyField.described)),
    ("identifier_directive_fields", .ofTexts type.marked)]

def EnumType.described (type : EnumType) : Value :=
  .object [("name", .text type.name), ("values", .ofTexts type.values)]

def Model.described (model : Model) : Value :=
  .object [("nodes", .list (model.nodes.map NodeType.described)),
    ("properties", .list (model.properties.map PropertiesType.described)),
    ("enums", .list (model.enums.map EnumType.described)), ("scalars", .ofTexts model.scalars)]

end Schema

namespace Graphql

def ArgumentDefinition.described (argument : ArgumentDefinition) : Value :=
  .object [("name", .text argument.name), ("type", .text argument.type.text)]

def FieldDefinition.described (field : FieldDefinition) : Value :=
  .object [("name", .text field.name), ("type", .text field.type.text),
    ("arguments", .list (field.arguments.map ArgumentDefinition.described))]

def TypeDefinition.described (type : TypeDefinition) : Value :=
  .object [("kind", .text type.kind.text), ("name", .text type.name),
    ("fields", .list (type.fields.map FieldDefinition.described)),
    ("interfaces", .ofTexts type.interfaces), ("values", .ofTexts type.values)]

/-- The part of a type system at a path of names, down to an argument: its text and its
description. -/
def TypeSystem.part? (system : TypeSystem) : List String → Option (String × Value)
  | [name] => (system.definition? name).map fun type => (type.text, type.described)
  | [name, field] =>
      ((system.definition? name).bind (·.field? field)).map fun field =>
        (field.text, field.described)
  | name :: field :: argument :: _ =>
      (((system.definition? name).bind (·.field? field)).bind (·.argument? argument)).map
        fun argument => (argument.text, argument.described)
  | [] => none

end Graphql

end GraphGateway
