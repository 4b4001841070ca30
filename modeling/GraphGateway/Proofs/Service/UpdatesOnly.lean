import GraphGateway.Proofs.Service.Reported
import GraphGateway.Proofs.Schema.Accounted
import GraphGateway.Proofs.Statement.EdgeUpdates

/-!
Mutations of a served schema that only update.  Where an input creates and connects nothing, the
statement makes and deletes nothing, and each of its assignments sets what the input gives: on the
node that the mutation is about, or on the relationships that the subquery for an entry finds.
-/
namespace GraphGateway.Schema

open Graphql (CompositeDeclaration Definition Document IsName)

namespace Declared

variable {document : Document} {declared : Declared}

/-- The interfaces that hold properties are declared. -/
theorem declared_of_held {declaration : CompositeDeclaration} (member : declaration ∈ held document) :
    Definition.interface declaration ∈ document := by
  obtain ⟨⟨name, other⟩, inside, rfl⟩ := List.mem_map.mp (List.mem_of_mem_filter member)
  obtain ⟨definition, among, same⟩ := List.mem_filterMap.mp (Entries.mem_ofPairs inside)
  split at same
  · cases same
    exact among
  · cases same

theorem declared_of_object {declaration : CompositeDeclaration}
    (member : declaration ∈ objects document) : Definition.object declaration ∈ document := by
  obtain ⟨definition, among, same⟩ := List.mem_filterMap.mp member
  split at same
  · split at same
    · cases same
    · cases same
      exact among
  · cases same

/-- The model of a document whose fields have names has names. -/
theorem isNamed (read : ofDocument? document = some declared)
    (named : ∀ definition ∈ document, definition.HasNames) : declared.model.IsNamed where
  fields := by
    intro node member field inside
    refine ⟨?_, (Service.Declared.facts read).1 node member field inside⟩
    rw [nodes_eq read] at member
    obtain ⟨declaration, declares, rfl⟩ := List.mem_map.mp member
    obtain ⟨reading, among, found⟩ := List.mem_filterMap.mp inside
    obtain ⟨own, ownMember, rfl⟩ := List.mem_map.mp among
    rw [FieldReading.name_of_property? (FieldReading.settles_ofNodeField own) found]
    exact named _ (declared_of_object declares) own ownMember
  relationships := relationships_named read named
  properties := by
    intro type member field inside
    refine ⟨?_, (Service.Declared.facts read).2.1 type member field inside⟩
    rw [properties_eq read] at member
    obtain ⟨declaration, declares, rfl⟩ := List.mem_map.mp member
    obtain ⟨reading, among, found⟩ := List.mem_filterMap.mp inside
    obtain ⟨own, ownMember, rfl⟩ := List.mem_map.mp among
    rw [FieldReading.name_of_property? (FieldReading.settles_ofInterfaceField own) found]
    exact named _ (declared_of_held declares) own ownMember

end Declared

end GraphGateway.Schema

namespace GraphGateway.Service

open Cypher Request Schema Settings Statement

theorem Served.named_of_text {text : String} {features : Features} {spareKey : List UInt8}
    {served : Served} (made : Served.ofText text features spareKey = .ok served) :
    served.model.IsNamed := by
  obtain ⟨document, read, made⟩ := Outcome.bind_ok_iff.mp made
  rw [Outcome.mapError_ok_iff] at read
  obtain ⟨declared, declares, -, same, -⟩ := Served.of_document made
  exact same ▸ Declared.isNamed declares (Graphql.Document.ofText_hasNames read)

/-- People whose relationships have the words of clauses for names. -/
def wordyText : String :=
  "type Person \x7b name: String
    create: [Person!]! @relationship(type: \"MERGE\", direction: OUT, properties: \"Knows\")
    merge: [Person!]! @relationship(type: \"DELETE\", direction: IN, properties: \"Knows\") \x7d
  interface Knows \x7b since: Int delete: String \x7d"

def wordyModel : Model where
  nodes :=
    [{ name := "Person"
       fields := [{ name := "name", type := { name := "String" }, stored := "name" }]
       relationships :=
        [{ name := "create"
           type := { name := "Person", nonNull := true, isList := true, itemNonNull := true }
           relatedType := "Person", direction := .outgoing, label := "MERGE"
           properties := some "Knows" },
         { name := "merge"
           type := { name := "Person", nonNull := true, isList := true, itemNonNull := true }
           relatedType := "Person", direction := .incoming, label := "DELETE"
           properties := some "Knows" }] }]
  properties :=
    [{ name := "Knows"
       fields := [{ name := "since", type := { name := "Int" }, stored := "since" },
         { name := "delete", type := { name := "String" }, stored := "delete" }] }]

/-- What is given for the relationships of a person: two entries for one field and one for another. -/
def wordyEntries : Entries Value :=
  [("create", .list
      [.object [("where", .object [("name", .text "Dan")]),
        ("properties", .object [("delete", .text "CREATE"), ("since", .int 1984)])],
       .object [("where", .object []), ("properties", .object [("since", .null)])]]),
   ("merge", .list [.object [("where", .object [("name", .text "Eve")])]])]

/-- An update of a person and of three sets of relationships that answers with nested nodes. -/
def rewording : RootField :=
  .update "updatePeople" "Person"
    { typeName := "UpdatePeopleMutationResponse"
      fields := [.nodes "people"
        { typeName := "Person"
          fields := [.relationship "delete" "merge" "Person" [.leaf ⟨"name", "name"⟩]] }] }
    .null (.object [("name", .text "Ann")]) (.object wordyEntries)

end GraphGateway.Service
