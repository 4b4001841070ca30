import GraphGateway.Proofs.Cypher.Memory
import GraphGateway.Proofs.Graphql.Names
import GraphGateway.Proofs.Schema.Sound
import GraphGateway.Proofs.Statement.Addresses
import GraphGateway.Proofs.Statement.Reports

/-!
Matches of a served schema.  The relationships of its node types have names of their own without points
in them, so that every path of a mutation is the address of one entry; and every row of the mutation
reports each path once.
-/
namespace GraphGateway.Schema

open Graphql (Document IsName)

/-- The relationships that a document declares are named with characters of names. -/
theorem Declared.relationships_named {document : Document} {declared : Declared}
    (read : Declared.ofDocument? document = some declared)
    (named : ∀ definition ∈ document, definition.HasNames) :
    ∀ node ∈ declared.model.nodes, ∀ relationship ∈ node.relationships, IsName relationship.name := by
  unfold Declared.ofDocument? at read
  dsimp only at read
  split at read
  · cases read
  · cases read
    intro node member relationship inside
    simp only [List.map_map, List.mem_map, Function.comp] at member
    obtain ⟨declaration, declares, rfl⟩ := member
    obtain ⟨reading, readingMember, found⟩ := List.mem_filterMap.mp inside
    obtain ⟨field, among, rfl⟩ := List.mem_map.mp readingMember
    obtain ⟨definition, defines, same⟩ := List.mem_filterMap.mp declares
    rw [FieldReading.name_of_nodeField found]
    split at same
    · split at same
      · cases same
      · cases same
        exact named _ defines field among
    · cases same

/-- The relationships of a node type of a type system that can be built have names of their own. -/
theorem Model.relationships_nodup {model : Model} {types : Graphql.TypeSystem} {paged : Bool}
    (augmented : model.augmented paged = .ok types) (built : types.build = .ok ()) {node : NodeType}
    (member : node ∈ model.nodes) : (node.relationships.map Relationship.name).Nodup := by
  have whole := (Model.offered_names_nodup augmented built _ (nodeDefinition_offered member)).sublist
    (names_sublist_nodeDefinition paged node)
  exact (List.nodup_append.mp (List.nodup_cons.mp whole).2).2.1

end GraphGateway.Schema

namespace GraphGateway.Service

open Cypher Request Schema Settings Statement

theorem Served.apart_of_text {text : String} {features : Features} {spareKey : List UInt8}
    {served : Served} (made : Served.ofText text features spareKey = .ok served) :
    ApartByName served.model ∧ PlainlyNamed served.model := by
  obtain ⟨document, read, made⟩ := Outcome.bind_ok_iff.mp made
  rw [Outcome.mapError_ok_iff] at read
  obtain ⟨declared, declares, -, same, -, augmented, built⟩ := Served.of_document made
  constructor
  · exact fun node member => Model.relationships_nodup augmented built member
  · intro node member relationship inside
    rw [same] at member
    have named := Declared.relationships_named declares (Graphql.Document.ofText_hasNames read)
    exact (named node member relationship inside).not_mem rfl

/-- Match reports are complete and unambiguous.

The paths of a mutation that compiles against a schema read from a text are the addresses of the entries
that connect or update, at whatever depth of its inputs, each of them once, and no two of them are the
same text.  Whatever the database holds, every row of the statement has one report for each path, in
their order, in its `matches`: so what the subqueries of nested entries report has come through all the
nodes that are created around them. -/
theorem Served.reports_complete {text : String} {features : Features} {spareKey : List UInt8}
    {served : Served} (made : Served.ofText text features spareKey = .ok served) {field : RootField}
    (single : NamesOnce field) {compiled : Compiled}
    (compiles : served.basis.compile field = .ok compiled) (writes : compiled.writes = true) :
    Enumerates (Address.text field.key) (EntryAt served.model field) compiled.paths ∧
    compiled.paths.Nodup ∧
    ∃ plan, served.basis.plan field = .ok plan ∧
      compiled.text = Clause.text (plan.emit served.features {}).1 ∧
      ∀ {σ : Type} (db : Database σ) (state : σ), ∀ row ∈
          (Clause.result db compiled.parameters (plan.emit served.features {}).1 state).rows,
        ∃ reports, RowReports (.object row) reports ∧ reports.map Prod.fst = compiled.paths := by
  obtain ⟨apart, plain⟩ := Served.apart_of_text made
  obtain ⟨plan, planned, done⟩ := Outcome.bind_ok_iff.mp compiles
  cases done
  refine ⟨plan_enumerate apart planned single, plan_paths_nodup apart plain planned single,
    plan, planned, rfl, fun db state row member => ?_⟩
  exact plan_reports planned writes db state member

/-- People who know each other for some time. -/
def peopleText : String :=
  "type Person \x7b name: String! friends: [Person!]! " ++
    "@relationship(type: \"KNOWS\", direction: OUT, properties: \"Knows\") \x7d " ++
    "interface Knows @relationshipProperties \x7b since: Int \x7d"

def people : Served := (Served.ofText peopleText {} []).toOption.get (by
  unfold Served.ofText Graphql.Document.ofText peopleText
  rw [← String.ofList_append, ← String.ofList_append, Graphql.Token.ofText_ofList]
  decide +kernel)

theorem people_made : Served.ofText peopleText {} [] = .ok people := Outcome.eq_ok_of_isSome _

def peopleModel : Model where
  nodes :=
    [{ name := "Person"
       fields := [{ name := "name", type := { name := "String", nonNull := true }, stored := "name" }]
       relationships :=
        [{ name := "friends"
           type := { name := "Person", nonNull := true, isList := true, itemNonNull := true }
           relatedType := "Person", direction := .outgoing, label := "KNOWS"
           properties := some "Knows" }] }]
  properties :=
    [{ name := "Knows"
       fields := [{ name := "since", type := { name := "Int" }, stored := "since" }] }]

theorem people_basis : people.basis = ⟨peopleModel, {}, codecFor {} []⟩ := by
  have told : ((Served.ofText peopleText {} []).toOption.any
      fun served => served.model == peopleModel) = true := by
    unfold Served.ofText Graphql.Document.ofText peopleText
    rw [← String.ofList_append, ← String.ofList_append, Graphql.Token.ofText_ofList]
    decide +kernel
  obtain ⟨served, made, same⟩ := (Option.any_eq_true _ _).mp told
  rw [Outcome.toOption_eq_some_iff, people_made, Except.ok.injEq] at made
  rw [Served.basis_of_text people_made, made, eq_of_beq same]

/-- An update that creates a friend with a friend to connect, connects a friend and updates another. -/
def befriending : RootField :=
  .update "updatePeople" "Person" { typeName := "UpdatePeopleMutationResponse" } .null
    (.object [("friends", .object
      [("create", .list [.object [("node", .object
          [("name", .text "Ann"),
           ("friends", .object
             [("connect", .list [.object [("where", .object [("name", .text "Bob")])]])])])]]),
       ("connect", .list [.object [("where", .object [("name", .text "Cid")])]])])])
    (.object [("friends", .list
      [.object [("where", .object [("name", .text "Dan")]),
        ("properties", .object [("since", .int 1984)])]])])

/-- All three entries have paths of their own, and the row of the one person reports each of them. -/
theorem reports_complete_befriending :
    ∃ compiled plan, people.basis.compile befriending = .ok compiled ∧
      people.basis.plan befriending = .ok plan ∧ NamesOnce befriending ∧ compiled.writes = true ∧
      compiled.paths =
        ["updatePeople.friends.create[0].node.friends.connect[0]",
          "updatePeople.friends.connect[0]", "updatePeople.friends.updateConnection[0]"] ∧
      Enumerates (Address.text "updatePeople") (EntryAt people.model befriending) compiled.paths ∧
      ∃ row, (Clause.result Memory.database compiled.parameters
          (plan.emit people.features {}).1 { made := 1, nodes := [(0, some "Person")] }).rows = [row] ∧
        ∃ reports, RowReports (.object row) reports ∧ reports.map Prod.fst = compiled.paths := by
  have single : NamesOnce befriending := by
    rintro entries ⟨⟩
    exact List.nodup_singleton _
  have told : ((people.basis.compile befriending).toOption.any fun compiled =>
      compiled.writes && compiled.paths ==
        ["updatePeople.friends.create[0].node.friends.connect[0]",
          "updatePeople.friends.connect[0]", "updatePeople.friends.updateConnection[0]"] &&
      (people.basis.plan befriending).toOption.any fun plan =>
        (Clause.result Memory.database compiled.parameters (plan.emit people.features {}).1
          { made := 1, nodes := [(0, some "Person")] }).rows.length == 1) = true := by
    rw [Served.features_of_text people_made, people_basis]
    decide +kernel
  obtain ⟨compiled, compiles, told⟩ := (Option.any_eq_true _ _).mp told
  rw [Outcome.toOption_eq_some_iff] at compiles
  rw [Bool.and_eq_true, Bool.and_eq_true, beq_iff_eq] at told
  obtain ⟨⟨writes, paths⟩, run⟩ := told
  obtain ⟨listed, -, plan, planned, -, reported⟩ :=
    Served.reports_complete people_made single compiles writes
  rw [planned] at run
  obtain ⟨row, alone⟩ := List.length_eq_one_iff.mp (eq_of_beq run)
  refine ⟨compiled, plan, compiles, planned, single, writes, paths, listed, row, alone, ?_⟩
  exact reported Memory.database _ row (alone ▸ List.mem_singleton_self row)

end GraphGateway.Service
