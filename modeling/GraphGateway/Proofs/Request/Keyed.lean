import GraphGateway.Proofs.Entries
import GraphGateway.Proofs.Request.Collecting

/-!
Keys of what is read.  Fields that are selected together stand under different keys, on every type
and at every depth, as the selections under one key are taken together.
-/
namespace GraphGateway.Request

open Graphql (TypeDefinition)

def NodeField.key : NodeField → String
  | .leaf inner => inner.key
  | .relationship key _ _ _ => key
  | .connection key _ _ _ _ => key

def ConnectionField.key : ConnectionField → String
  | .leaf inner => inner.key
  | .edges key _ => key
  | .pageInfo key _ => key

def EdgeField.key : EdgeField → String
  | .leaf inner => inner.key
  | .node key _ _ => key

def ResponseField.key : ResponseField → String
  | .leaf inner => inner.key
  | .nodes key _ => key

/-- A field in which the keys of all fields that are selected together are different. -/
inductive NodeField.Keyed : NodeField → Prop where
  | leaf (leaf : Leaf) : Keyed (.leaf leaf)
  | relationship {key name typeName : String} {fields : List NodeField}
      (distinct : (fields.map NodeField.key).Nodup) (inner : ∀ field ∈ fields, Keyed field) :
      Keyed (.relationship key name typeName fields)
  | connection {key name : String} {first after : Value} {fields : List ConnectionField}
      (distinct : (fields.map ConnectionField.key).Nodup)
      (facts : ∀ inner leaves, .pageInfo inner leaves ∈ fields → (leaves.map Leaf.key).Nodup)
      (edges : ∀ set edges, .edges set edges ∈ fields → (edges.map EdgeField.key).Nodup)
      (nodes : ∀ set edges, .edges set edges ∈ fields → ∀ inner typeName nested,
        .node inner typeName nested ∈ edges → (nested.map NodeField.key).Nodup)
      (inner : ∀ set edges, .edges set edges ∈ fields → ∀ inner typeName nested,
        .node inner typeName nested ∈ edges → ∀ field ∈ nested, Keyed field) :
      Keyed (.connection key name first after fields)

/-- Fields of a node that are selected together. -/
structure NodeField.AllKeyed (fields : List NodeField) : Prop where
  distinct : (fields.map NodeField.key).Nodup
  each : ∀ field ∈ fields, field.Keyed

/-- Fields of an edge that are selected together. -/
structure EdgeField.AllKeyed (edges : List EdgeField) : Prop where
  distinct : (edges.map EdgeField.key).Nodup
  nodes : ∀ key typeName nested, .node key typeName nested ∈ edges → NodeField.AllKeyed nested

theorem NodeField.Keyed.edges_of_mem {key name : String} {first after : Value}
    {fields : List ConnectionField} (keyed : Keyed (.connection key name first after fields)) :
    ∀ set edges, .edges set edges ∈ fields → EdgeField.AllKeyed edges := by
  cases keyed with
  | connection distinct facts edges nodes inner =>
      intro set among member
      refine ⟨edges set among member, fun key typeName nested inside => ?_⟩
      exact ⟨nodes set among member key typeName nested inside,
        inner set among member key typeName nested inside⟩

theorem EdgeField.AllKeyed.tail {edge : EdgeField} {rest : List EdgeField}
    (keyed : AllKeyed (edge :: rest)) : AllKeyed rest where
  distinct := (List.nodup_cons.mp keyed.distinct).2
  nodes key typeName nested member :=
    keyed.nodes key typeName nested (List.mem_cons_of_mem _ member)

theorem NodeField.Keyed.fields_keyed {key name typeName : String} {fields : List NodeField}
    (keyed : Keyed (.relationship key name typeName fields)) : AllKeyed fields := by
  cases keyed with
  | relationship distinct inner => exact ⟨distinct, inner⟩

theorem NodeField.Keyed.connection_nodup {key name : String} {first after : Value}
    {fields : List ConnectionField} (keyed : Keyed (.connection key name first after fields)) :
    (fields.map ConnectionField.key).Nodup := by
  cases keyed with
  | connection distinct _ _ _ _ => exact distinct

theorem NodeField.Keyed.facts_nodup {key name : String} {first after : Value}
    {fields : List ConnectionField} (keyed : Keyed (.connection key name first after fields)) :
    ∀ inner leaves, .pageInfo inner leaves ∈ fields → (leaves.map Leaf.key).Nodup := by
  cases keyed with
  | connection _ facts _ _ _ => exact facts

/-- Fields of an answer that are selected together. -/
structure ResponseField.AllKeyed (fields : List ResponseField) : Prop where
  distinct : (fields.map ResponseField.key).Nodup
  each : ∀ key selection, .nodes key selection ∈ fields → NodeField.AllKeyed selection.fields

/-- A root field in which the keys of all fields that are selected together are different. -/
def RootField.Keyed : RootField → Prop
  | .list _ _ selection _ => NodeField.AllKeyed selection.fields
  | .lookup _ _ variants => ∀ selection ∈ variants, NodeField.AllKeyed selection.fields
  | .create _ _ _ response => ResponseField.AllKeyed response.fields
  | .update _ _ response _ _ _ => ResponseField.AllKeyed response.fields
  | .typename _ _ => True

namespace Context

variable {context : Context} {type : TypeDefinition}

/-- Fields are collected under different keys. -/
theorem collect_nodup {sets : List (List Graphql.Selection)}
    {fields : List (String × List Selected)} (collected : context.collect type sets = .ok fields) :
    (fields.map Prod.fst).Nodup := by
  have keeps : context.Keeps type (fun _ => True) fun collected =>
      (Entries.keys collected.fields).Nodup := by
    constructor
    · exact List.nodup_nil
    · intro _ _ _ _ _ collected _ distinct
      exact Entries.keys_put_nodup _ _ _ distinct
    · exact fun _ _ distinct => distinct
    · exact fun _ _ _ _ _ _ _ => trivial
    · exact fun _ _ _ _ _ _ _ _ => trivial
  obtain ⟨after, distinct, rfl⟩ := keeps.collect (fun _ _ _ _ => trivial) collected
  exact distinct

/-- What is read of each field keeps its key. -/
theorem keys_of_mapM {α : Type} {step : String × List Selected → Except Failure α}
    {key : α → String} {fields : List (String × List Selected)} {answers : List α}
    (each : ∀ entry answer, step entry = .ok answer → key answer = entry.1)
    (ran : fields.mapM step = .ok answers) : answers.map key = fields.map Prod.fst := by
  have related := Outcome.mapM_ok_iff.mp ran
  clear ran
  induction related with
  | nil => rfl
  | cons first _ ih => rw [List.map_cons, List.map_cons, each _ _ first, ih]

theorem pageInfoFields_nodup {fields : List Selected} {leaves : List Leaf}
    (read : context.pageInfoFields fields = .ok leaves) : (leaves.map Leaf.key).Nodup := by
  unfold pageInfoFields at read
  split at read
  · cases read
  · obtain ⟨subfields, collected, made⟩ := Outcome.bind_ok_iff.mp read
    cases made
    have keys := collect_nodup collected
    rwa [List.map_map]

/-- Reads the fields of a node under different keys, at every depth. -/
def ReadsKeyed (readNode : String → List Selected → Except Failure (List NodeField)) : Prop :=
  ∀ typeName fields answers, readNode typeName fields = .ok answers → NodeField.AllKeyed answers

section

variable {readNode : String → List Selected → Except Failure (List NodeField)}

theorem edgeFields_keyed (keyed : ReadsKeyed readNode) {edgeType : TypeDefinition}
    {relatedType : String} {fields : List Selected} {edges : List EdgeField}
    (read : context.edgeFields readNode edgeType relatedType fields = .ok edges) :
    EdgeField.AllKeyed edges := by
  obtain ⟨subfields, collected, each⟩ := Outcome.bind_ok_iff.mp read
  constructor
  · rw [keys_of_mapM _ each]
    · exact collect_nodup collected
    · intro entry answer done
      dsimp only at done
      split at done
      · obtain ⟨nested, -, made⟩ := Outcome.bind_ok_iff.mp done
        cases made
        rfl
      · cases done
        rfl
  · intro key typeName nested member
    obtain ⟨entry, -, done⟩ := Outcome.mapM_ok_of_mem_answers each member
    dsimp only at done
    split at done
    · obtain ⟨inner, here, made⟩ := Outcome.bind_ok_iff.mp done
      cases made
      exact keyed _ _ _ here
    · cases done

theorem connection_keyed (keyed : ReadsKeyed readNode) {node : Schema.NodeType}
    {relationship : Schema.Relationship} {key : String} {fields : List Selected}
    {answer : NodeField}
    (read : context.connection readNode type node relationship key fields = .ok answer) :
    answer.Keyed ∧ answer.key = key := by
  obtain ⟨given, -, read⟩ := Outcome.bind_ok_iff.mp read
  obtain ⟨connectionType, -, read⟩ := Outcome.bind_ok_iff.mp read
  obtain ⟨edgeType, -, read⟩ := Outcome.bind_ok_iff.mp read
  obtain ⟨subfields, collected, read⟩ := Outcome.bind_ok_iff.mp read
  obtain ⟨selected, each, made⟩ := Outcome.bind_ok_iff.mp read
  cases made
  have edges : ∀ set edges, ConnectionField.edges set edges ∈ selected →
      EdgeField.AllKeyed edges := by
    intro set edges member
    obtain ⟨entry, -, done⟩ := Outcome.mapM_ok_of_mem_answers each member
    dsimp only at done
    split at done
    · cases done
    · split at done
      · obtain ⟨inner, here, made⟩ := Outcome.bind_ok_iff.mp done
        cases made
        exact edgeFields_keyed keyed here
      · split at done
        · obtain ⟨leaves, -, made⟩ := Outcome.bind_ok_iff.mp done
          cases made
        · cases done
  have facts : ∀ inner leaves, ConnectionField.pageInfo inner leaves ∈ selected →
      (leaves.map Leaf.key).Nodup := by
    intro inner leaves member
    obtain ⟨entry, -, done⟩ := Outcome.mapM_ok_of_mem_answers each member
    dsimp only at done
    split at done
    · cases done
    · split at done
      · obtain ⟨edges, -, made⟩ := Outcome.bind_ok_iff.mp done
        cases made
      · split at done
        · obtain ⟨leaves, here, made⟩ := Outcome.bind_ok_iff.mp done
          cases made
          exact pageInfoFields_nodup here
        · cases done
  refine ⟨.connection ?_ facts ?_ ?_ ?_, rfl⟩
  · rw [keys_of_mapM _ each]
    · exact collect_nodup collected
    · intro entry answer done
      dsimp only at done
      split at done
      · cases done
        rfl
      · split at done
        · obtain ⟨inner, -, made⟩ := Outcome.bind_ok_iff.mp done
          cases made
          rfl
        · split at done
          · obtain ⟨leaves, -, made⟩ := Outcome.bind_ok_iff.mp done
            cases made
            rfl
          · cases done
  · exact fun set inner member => (edges set inner member).distinct
  · exact fun set inner member key typeName nested within =>
      ((edges set inner member).nodes key typeName nested within).distinct
  · exact fun set inner member key typeName nested within =>
      ((edges set inner member).nodes key typeName nested within).each

theorem nodeField_keyed (keyed : ReadsKeyed readNode) {typeName : String} {node : Schema.NodeType}
    {entry : String × List Selected} {answer : NodeField}
    (read : context.nodeField readNode typeName type node entry = .ok answer) :
    answer.Keyed ∧ answer.key = entry.1 := by
  unfold nodeField at read
  dsimp only at read
  split at read
  · cases read
    exact ⟨.leaf _, rfl⟩
  · split at read
    · obtain ⟨inner, here, made⟩ := Outcome.bind_ok_iff.mp read
      cases made
      have keys := keyed _ _ _ here
      exact ⟨.relationship keys.distinct keys.each, rfl⟩
    · split at read
      · exact connection_keyed keyed read
      · cases read

end

theorem nodeFields_keyed (depth : Nat) : ReadsKeyed (context.nodeFields depth) := by
  induction depth with
  | zero =>
      intro typeName fields answers impossible
      cases impossible
  | succ depth ih =>
      intro typeName fields answers read
      obtain ⟨type, -, read⟩ := Outcome.bind_ok_iff.mp read
      obtain ⟨node, -, read⟩ := Outcome.bind_ok_iff.mp read
      obtain ⟨subfields, collected, each⟩ := Outcome.bind_ok_iff.mp read
      have one : ∀ entry answer,
          context.nodeField (context.nodeFields depth) typeName type node entry = .ok answer →
            answer.Keyed ∧ answer.key = entry.1 :=
        fun entry answer => nodeField_keyed ih
      constructor
      · rw [keys_of_mapM (fun entry answer done => (one entry answer done).2) each]
        exact collect_nodup collected
      · intro field member
        obtain ⟨entry, -, done⟩ := Outcome.mapM_ok_of_mem_answers each member
        exact (one entry field done).1

theorem nodeSelection_keyed {typeName : String} {fields : List Selected}
    {selection : NodeSelection}
    (read : context.nodeSelection typeName fields = .ok selection) :
    NodeField.AllKeyed selection.fields := by
  obtain ⟨inner, here, made⟩ := Outcome.bind_ok_iff.mp read
  cases made
  exact nodeFields_keyed _ _ _ _ here

theorem responseSelection_keyed {responseName typeName : String} {fields : List Selected}
    {response : ResponseSelection}
    (read : context.responseSelection responseName typeName fields = .ok response) :
    ResponseField.AllKeyed response.fields := by
  obtain ⟨type, -, read⟩ := Outcome.bind_ok_iff.mp read
  obtain ⟨subfields, collected, read⟩ := Outcome.bind_ok_iff.mp read
  obtain ⟨selected, each, made⟩ := Outcome.bind_ok_iff.mp read
  cases made
  have one : ∀ entry answer, context.responseField type.name typeName entry = .ok answer →
      answer.key = entry.1 ∧
        ∀ key selection, answer = .nodes key selection → NodeField.AllKeyed selection.fields := by
    intro entry answer done
    unfold responseField at done
    dsimp only at done
    split at done
    · cases done
      exact ⟨rfl, fun _ _ impossible => nomatch impossible⟩
    · split at done
      · obtain ⟨selection, here, made⟩ := Outcome.bind_ok_iff.mp done
        cases made
        refine ⟨rfl, fun key other same => ?_⟩
        cases same
        exact nodeSelection_keyed here
      · cases done
  constructor
  · rw [keys_of_mapM (fun entry answer done => (one entry answer done).1) each]
    exact collect_nodup collected
  · intro key selection member
    obtain ⟨entry, -, done⟩ := Outcome.mapM_ok_of_mem_answers each member
    exact (one entry _ done).2 key selection rfl

theorem rootField_keyed {kind : Graphql.OperationKind} {root : TypeDefinition} {key : String}
    {fields : List Selected} {field : RootField}
    (read : context.rootField kind root key fields = .ok field) : field.Keyed := by
  unfold rootField at read
  dsimp only at read
  split at read
  · cases read
    trivial
  · split at read
    · cases read
    · obtain ⟨given, -, read⟩ := Outcome.bind_ok_iff.mp read
      split at read
      · split at read
        · cases read
        · obtain ⟨variants, each, made⟩ := Outcome.bind_ok_iff.mp read
          cases made
          intro selection member
          obtain ⟨node, -, done⟩ := Outcome.mapM_ok_of_mem_answers each member
          exact nodeSelection_keyed done
      · obtain ⟨selection, here, made⟩ := Outcome.bind_ok_iff.mp read
        cases made
        exact nodeSelection_keyed here
      · obtain ⟨response, here, read⟩ := Outcome.bind_ok_iff.mp read
        obtain ⟨inputs, -, made⟩ := Outcome.bind_ok_iff.mp read
        cases made
        exact responseSelection_keyed here
      · obtain ⟨response, here, made⟩ := Outcome.bind_ok_iff.mp read
        cases made
        exact responseSelection_keyed here

end Context

/-- In whatever is read of a document, fields that are selected together have different keys. -/
theorem Surface.read_keyed {surface : Surface} {document : Graphql.Document}
    {bindings : Entries Value} {wanted : Option String} {operation : Operation}
    (read : surface.read document bindings wanted = .ok operation) :
    ∀ field ∈ operation.fields, field.Keyed := by
  unfold Surface.read at read
  split at read
  · unfold Context.operation at read
    split at read
    · cases read
    · split at read
      · cases read
      · obtain ⟨collected, -, read⟩ := Outcome.bind_ok_iff.mp read
        obtain ⟨fields, each, made⟩ := Outcome.bind_ok_iff.mp read
        cases made
        intro field member
        obtain ⟨entry, -, done⟩ := Outcome.mapM_ok_of_mem_answers each member
        exact Context.rootField_keyed done
  · cases read

end GraphGateway.Request
