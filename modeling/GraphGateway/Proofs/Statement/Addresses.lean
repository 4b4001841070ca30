import Mathlib.Data.List.Nodup
import Mathlib.Data.List.Sigma
import GraphGateway.Proofs.Cypher.Supply
import GraphGateway.Proofs.Statement.Asked

/-!
Addresses of entries.  An entry that connects stands at the end of a route that goes through the nodes
to create around it, from the input for a node of a mutation; an entry that updates stands in a list
of its own.  The paths of a plan spell the addresses of all these entries, each of them once, and
addresses that are not the same are spelt apart.
-/
namespace GraphGateway.Statement

open Cypher Request Schema

/-- Texts that tell all things of a kind, each of them once. -/
def Enumerates {α : Type} (text : α → String) (kind : α → Prop) (texts : List String) : Prop :=
  ∃ things : List α, things.Nodup ∧ (∀ thing, thing ∈ things ↔ kind thing) ∧ texts = things.map text

namespace Enumerates

variable {α β γ δ : Type} {text : α → String} {kind other : α → Prop} {texts rest : List String}

theorem nil (free : ∀ thing, ¬ kind thing) : Enumerates text kind [] := by
  refine ⟨[], List.nodup_nil, fun thing => ?_, rfl⟩
  rw [List.mem_nil_iff, false_iff]
  exact free thing

theorem single (thing : α) : Enumerates text (· = thing) [text thing] :=
  ⟨[thing], List.nodup_singleton thing, fun _ => List.mem_singleton, rfl⟩

theorem congr (listed : Enumerates text kind texts) (same : ∀ thing, kind thing ↔ other thing) :
    Enumerates text other texts := by
  obtain ⟨things, once, told, spelt⟩ := listed
  exact ⟨things, once, fun thing => (told thing).trans (same thing), spelt⟩

theorem append (listed : Enumerates text kind texts) (more : Enumerates text other rest)
    (apart : ∀ thing, kind thing → ¬ other thing) :
    Enumerates text (fun thing => kind thing ∨ other thing) (texts ++ rest) := by
  obtain ⟨things, once, told, rfl⟩ := listed
  obtain ⟨others, onceMore, toldMore, rfl⟩ := more
  refine ⟨things ++ others, once.append onceMore ?_, fun thing => ?_, List.map_append.symm⟩
  · intro thing here there
    exact apart thing ((told thing).mp here) ((toldMore thing).mp there)
  · rw [List.mem_append, told, toldMore]

/-- Things told by what they are made of. -/
theorem along {make : β → α} {inner : β → String} {kind : β → Prop}
    (listed : Enumerates inner kind texts) (apart : Function.Injective make)
    (spelt : ∀ thing, text (make thing) = inner thing) :
    Enumerates text (fun made => ∃ thing, kind thing ∧ made = make thing) texts := by
  obtain ⟨things, once, told, rfl⟩ := listed
  refine ⟨things.map make, once.map apart, fun made => ?_, ?_⟩
  · rw [List.mem_map]
    exact exists_congr fun thing => and_congr (told thing) eq_comm
  · rw [List.map_map]
    exact List.map_congr_left fun thing _ => (spelt thing).symm

/-- Things in parts that have nothing in common, each told by what it was made into. -/
theorem flatten {relation : γ → δ → Prop} {items : List γ} {made : List δ}
    (related : List.Forall₂ relation items made) {paths : δ → List String} {part : γ → α → Prop}
    (each : ∀ item ∈ items, ∀ one, relation item one → Enumerates text (part item) (paths one))
    (apart : items.Pairwise fun item other => ∀ thing, part item thing → ¬ part other thing) :
    Enumerates text (fun thing => ∃ item ∈ items, part item thing) (made.map paths).flatten := by
  induction related with
  | nil => exact nil fun thing => by simp
  | @cons item one items made first _ ih =>
      obtain ⟨alone, others⟩ := List.pairwise_cons.mp apart
      have here := each item (List.mem_cons_self ..) one first
      have later := ih (fun other member => each other (List.mem_cons_of_mem _ member)) others
      refine (here.append later ?_).congr fun thing => by simp
      rintro thing inside ⟨other, member, there⟩
      exact alone other member thing inside there

theorem nodup (listed : Enumerates text kind texts)
    (apart : ∀ one another, kind one → kind another → text one = text another → one = another) :
    texts.Nodup := by
  obtain ⟨things, once, told, rfl⟩ := listed
  refine List.Nodup.map_on (fun one here another there => ?_) once
  exact apart one another ((told one).mp here) ((told another).mp there)

end Enumerates

/-- The path of an item of a list that stands under a key. -/
def itemPath (path key : String) (index : Nat) : String := s!"{path}.{key}[{index}]"

/-- The way from the input for a node to an entry that connects, through the nodes to create around
it. -/
inductive Route where
  | connect (name : String) (index : Nat)
  | under (name : String) (index : Nat) (inner : Route)
  deriving DecidableEq

namespace Route

def text : Route → String
  | .connect name index => s!".{name}.{connectKey}[{index}]"
  | .under name index inner => s!".{name}.{createKey}[{index}].node{inner.text}"

/-- The relationship that a route starts with. -/
def name : Route → String
  | .connect name _ => name
  | .under name _ _ => name

/-- Whether no relationship on a route has a point in its name. -/
def IsPlain : Route → Prop
  | .connect name _ => '.' ∉ name.toList
  | .under name _ inner => '.' ∉ name.toList ∧ inner.IsPlain

end Route

mutual

/-- A route leads from the input for a node to an entry that connects. -/
inductive Leads (model : Model) : NodeType → Value → Route → Prop where
  | through {node : NodeType} {entries : Entries Value} {relationship : Relationship}
      {input : Value} {route : Route} (member : relationship ∈ node.relationships)
      (given : entries.get? relationship.name = some input)
      (leads : FieldLeads model relationship input route) :
      Leads model node (.object entries) route

/-- A route leads from the input for a relationship to an entry that connects. -/
inductive FieldLeads (model : Model) : Relationship → Value → Route → Prop where
  | connect {relationship : Relationship} {entries : Entries Value} {items : List Value}
      {index : Nat} (listed : entries.get? connectKey = some (.list items))
      (inside : index < items.length) :
      FieldLeads model relationship (.object entries) (.connect relationship.name index)
  | under {relationship : Relationship} {entries : Entries Value} {items : List Value} {index : Nat}
      {item : Value} {route : Route} (listed : entries.get? createKey = some (.list items))
      (there : items[index]? = some item) (leads : CreateLeads model relationship item route) :
      FieldLeads model relationship (.object entries) (.under relationship.name index route)

/-- A route leads from an entry that creates a node on to an entry that connects. -/
inductive CreateLeads (model : Model) : Relationship → Value → Route → Prop where
  | node {relationship : Relationship} {entries : Entries Value} {related : NodeType}
      {input : Value} {route : Route} (resolved : model.related relationship = .ok related)
      (given : entries.get? "node" = some input) (leads : Leads model related input route) :
      CreateLeads model relationship (.object entries) route

end

theorem FieldLeads.name {model : Model} {relationship : Relationship} {input : Value} {route : Route}
    (leads : FieldLeads model relationship input route) : route.name = relationship.name := by
  cases leads <;> rfl

/-- Where an entry that connects or updates stands in a mutation. -/
inductive Address where
  /-- Below one of the nodes to create. -/
  | created (index : Nat) (route : Route)
  /-- Below what is updated. -/
  | nested (route : Route)
  | updated (name : String) (index : Nat)

/-- The text of an address in the field with a key. -/
def Address.text (key : String) : Address → String
  | .created index route => s!"{key}[{index}]{route.text}"
  | .nested route => s!"{key}{route.text}"
  | .updated name index => s!"{key}.{name}.updateConnection[{index}]"

/-- An entry that connects or updates stands at an address. -/
inductive EntryAt (model : Model) : RootField → Address → Prop where
  | created {key typeName : String} {inputs : List Value} {response : ResponseSelection}
      {node : NodeType} {index : Nat} {input : Value} {route : Route}
      (resolved : model.node typeName = .ok node) (there : inputs[index]? = some input)
      (leads : Leads model node input route) :
      EntryAt model (.create key typeName inputs response) (.created index route)
  | nested {key typeName : String} {response : ResponseSelection}
      {filter assignments connections : Value} {node : NodeType} {entries : Entries Value}
      {route : Route} (resolved : model.node typeName = .ok node)
      (read : entriesOf? assignments = some entries) (leads : Leads model node (.object entries) route) :
      EntryAt model (.update key typeName response filter assignments connections) (.nested route)
  | updated {key typeName : String} {response : ResponseSelection}
      {filter assignments connections : Value} {node : NodeType} {entries : Entries Value}
      {name : String} {items : List Value} {relationship : Relationship} {index : Nat}
      (resolved : model.node typeName = .ok node) (read : entriesOf? connections = some entries)
      (member : (name, Value.list items) ∈ entries)
      (known : node.relationship? name = some relationship) (inside : index < items.length) :
      EntryAt model (.update key typeName response filter assignments connections)
        (.updated name index)

/-- The relationships of each node type have names of their own. -/
def ApartByName (model : Model) : Prop :=
  ∀ node ∈ model.nodes, (node.relationships.map Relationship.name).Nodup

section

variable {basis : Basis} {relationship : Relationship} {path : String} {entries : Entries Value}

theorem zipIdx_apart {α : Type} (items : List α) :
    items.zipIdx.Pairwise fun item other => item.2 ≠ other.2 :=
  List.pairwise_map.mp (List.nodup_zipIdx_map_snd items)

/-- What is planned of each item of a list tells the things at the place of that item. -/
theorem planned_enumerate {α β : Type} (plan : Nat → Value → Except Failure β)
    (part : Nat → Value → α → Prop) {items : List Value} {plans : List β}
    (planned : (items.zipIdx.mapM fun (item, index) => plan index item) = .ok plans)
    {text : α → String} {paths : β → List String}
    (each : ∀ index, ∀ item ∈ items, ∀ made, plan index item = .ok made →
      Enumerates text (part index item) (paths made))
    (apart : ∀ index item other another thing, part index item thing → part other another thing →
      index = other) :
    Enumerates text (fun thing => ∃ index item, items[index]? = some item ∧ part index item thing)
      (plans.map paths).flatten := by
  have listed : Enumerates text (fun thing => ∃ entry ∈ items.zipIdx, part entry.2 entry.1 thing)
      (plans.map paths).flatten := by
    refine Enumerates.flatten (Outcome.mapM_ok_iff.mp planned) ?_ ?_
    · rintro ⟨item, index⟩ member made done
      exact each index item ((List.mem_zipIdx' member).2 ▸ List.getElem_mem _) made done
    · refine (zipIdx_apart items).imp fun differ thing here there => ?_
      exact differ (apart _ _ _ _ thing here there)
  refine listed.congr fun thing => ?_
  constructor
  · rintro ⟨⟨item, index⟩, member, here⟩
    exact ⟨index, item, List.mk_mem_zipIdx_iff_getElem?.mp member, here⟩
  · rintro ⟨index, item, there, here⟩
    exact ⟨(item, index), List.mk_mem_zipIdx_iff_getElem?.mpr there, here⟩

theorem planEach_enumerate {α β : Type} {place key : String}
    {plan : String → Value → Except Failure β} (part : Nat → Value → α → Prop) {items : List Value}
    {plans : List β} (planned : Basis.planEach place key plan items = .ok plans)
    {text : α → String} {paths : β → List String}
    (each : ∀ index, ∀ item ∈ items, ∀ made, plan (itemPath place key index) item = .ok made →
      Enumerates text (part index item) (paths made))
    (apart : ∀ index item other another thing, part index item thing → part other another thing →
      index = other) :
    Enumerates text (fun thing => ∃ index item, items[index]? = some item ∧ part index item thing)
      (plans.map paths).flatten :=
  planned_enumerate (fun index => plan (itemPath place key index)) part planned each apart

/-- Where every item has to be an object, only a list has items. -/
theorem eq_list_of_planEach {α : Type} {place key : String} {plan : String → Value → Except Failure α}
    {value : Value} {items : List Value} {plans : List α} (read : itemsOf value = .ok items)
    (planned : Basis.planEach place key plan items = .ok plans)
    (objects : ∀ place item made, plan place item = .ok made → ∃ entries, item = .object entries)
    {index : Nat} (inside : index < items.length) : value = .list items := by
  have member := List.getElem_mem inside
  obtain ⟨place, made, -, done⟩ := planEach_of_mem planned member
  obtain ⟨entries, same⟩ := objects place _ made done
  exact eq_list_of_itemsOf read (same ▸ member)

theorem text_connect (path name : String) (index : Nat) :
    path ++ (Route.connect name index).text = itemPath s!"{path}.{name}" connectKey index := by
  simp [Route.text, itemPath, toString, String.append_assoc]

theorem text_under (path name : String) (index : Nat) (inner : Route) :
    path ++ (Route.under name index inner).text =
      toString (itemPath s!"{path}.{name}" createKey index) ++ ".node" ++ inner.text := by
  simp [Route.text, itemPath, toString, String.append_assoc]

/-- Each entry of a list that connects is told, and nothing but a list has such entries. -/
theorem connections_enumerate {connected : List EntryPlan}
    (made : basis.planConnections relationship s!"{path}.{relationship.name}" entries = .ok connected) :
    Enumerates (path ++ Route.text ·) (fun route => ∃ items index,
      entries.get? connectKey = some (.list items) ∧ index < items.length ∧
        route = .connect relationship.name index) (EntryPlan.pathsOf connected) := by
  unfold Basis.planConnections at made
  cases listed : entries.get? connectKey with
  | none =>
      rw [listed] at made
      cases made
      exact .nil fun route => by simp
  | some value =>
      rw [listed] at made
      obtain ⟨items, read, each⟩ := Outcome.bind_ok_iff.mp made
      have single : ∀ index, ∀ item ∈ items, ∀ plan,
          basis.planConnect relationship
            (itemPath s!"{path}.{relationship.name}" connectKey index) item = .ok plan →
          Enumerates (path ++ Route.text ·) (· = .connect relationship.name index) plan.paths := by
        intro index item _ plan done
        obtain ⟨_, _, _, _, -, -, -, -, -, rfl⟩ := (planConnect_ok_iff basis).mp done
        rw [EntryPlan.paths, ← text_connect]
        exact .single _
      have all := planEach_enumerate (fun index _ route => route = Route.connect relationship.name index)
        each single (by rintro index _ other _ _ rfl ⟨⟩; rfl)
      rw [EntryPlan.flatten_paths] at all
      refine all.congr fun route => ?_
      have objects : ∀ place item plan, basis.planConnect relationship place item = .ok plan →
          ∃ fields, item = .object fields := by
        intro place item plan done
        obtain ⟨fields, _, _, _, same, -⟩ := (planConnect_ok_iff basis).mp done
        exact ⟨fields, same⟩
      constructor
      · rintro ⟨index, item, there, same⟩
        obtain ⟨inside, -⟩ := List.getElem?_eq_some_iff.mp there
        have whole := eq_list_of_planEach read each objects inside
        exact ⟨items, index, congrArg some whole, inside, same⟩
      · rintro ⟨others, index, same, inside, spelt⟩
        cases same
        rw [itemsOf_list] at read
        cases read
        exact ⟨index, _, List.getElem?_eq_getElem inside, spelt⟩

/-- Each entry of a list that creates tells the entries below it, if it does for each alone. -/
theorem creations_enumerate {created : List EntryPlan}
    (made : basis.planCreations relationship s!"{path}.{relationship.name}" entries = .ok created)
    (each : ∀ items, entries.get? createKey = some (.list items) → ∀ item ∈ items, ∀ place plan,
      basis.planCreate relationship place item = .ok plan →
        Enumerates (s!"{place}.node" ++ Route.text ·) (CreateLeads basis.model relationship item)
          plan.paths) :
    Enumerates (path ++ Route.text ·) (fun route => ∃ items index item inner,
      entries.get? createKey = some (.list items) ∧ items[index]? = some item ∧
        CreateLeads basis.model relationship item inner ∧
          route = .under relationship.name index inner) (EntryPlan.pathsOf created) := by
  cases listed : entries.get? createKey with
  | none =>
      cases creations_of_none listed made
      exact .nil fun route => by simp
  | some value =>
      by_cases flat : ∀ items, value ≠ .list items
      · cases creations_of_flat listed flat made
        refine .nil fun route => ?_
        rintro ⟨items, _, _, _, same, -⟩
        exact flat items (Option.some.inj same)
      · obtain ⟨items, whole⟩ := not_forall.mp flat
        cases not_not.mp whole
        rw [creations_of_list listed] at made
        let part (index : Nat) (item : Value) (route : Route) : Prop := ∃ inner,
          CreateLeads basis.model relationship item inner ∧
            route = .under relationship.name index inner
        have under : ∀ index, ∀ item ∈ items, ∀ plan,
            basis.planCreate relationship
              (itemPath s!"{path}.{relationship.name}" createKey index) item = .ok plan →
            Enumerates (path ++ Route.text ·) (part index item) plan.paths := by
          intro index item inside plan done
          exact (each items listed item inside _ plan done).along
            (fun _ _ same => (Route.under.inj same).2.2) (text_under path relationship.name index)
        have all := planEach_enumerate part made under
          (by rintro index _ other _ _ ⟨_, -, rfl⟩ ⟨_, -, ⟨⟩⟩; rfl)
        rw [EntryPlan.flatten_paths] at all
        refine all.congr fun route => ?_
        constructor
        · rintro ⟨index, item, there, inner, leads, same⟩
          exact ⟨items, index, item, inner, rfl, there, leads, same⟩
        · rintro ⟨_, index, item, inner, ⟨⟩, there, leads, same⟩
          exact ⟨index, item, there, inner, leads, same⟩

/-- What is planned for the relationships of a node tells the entries below them, if it does for each
relationship. -/
theorem planEntries_enumerate (apart : ApartByName basis.model) {node : NodeType}
    (known : node ∈ basis.model.nodes) {nested : List EntryPlan}
    (planned : basis.planEntries node path entries = .ok nested)
    (each : ∀ relationship ∈ node.relationships, ∀ input,
      entries.get? relationship.name = some input → ∀ plans,
        basis.planFieldInput relationship s!"{path}.{relationship.name}" input = .ok plans →
          Enumerates (path ++ Route.text ·) (FieldLeads basis.model relationship input)
            (EntryPlan.pathsOf plans)) :
    Enumerates (path ++ Route.text ·) (Leads basis.model node (.object entries))
      (EntryPlan.pathsOf nested) := by
  rw [planEntries_eq] at planned
  obtain ⟨lists, related, rfl⟩ := Outcome.map_ok_iff.mp planned
  rw [EntryPlan.pathsOf_flatten]
  have listed : Enumerates (path ++ Route.text ·) (fun route => ∃ relationship ∈ node.relationships,
      ∃ input, entries.get? relationship.name = some input ∧
        FieldLeads basis.model relationship input route) (lists.map EntryPlan.pathsOf).flatten := by
    refine Enumerates.flatten (Outcome.mapM_ok_iff.mp related) ?_ ?_
    · intro relationship member plans done
      unfold Basis.planRelationship at done
      split at done
      · next missing =>
        cases done
        exact .nil fun route => by simp [missing]
      · next input found =>
        refine (each relationship member input found plans done).congr fun route => ?_
        simp [found]
    · refine (List.pairwise_map.mp (apart node known)).imp fun differ route => ?_
      rintro ⟨_, -, here⟩ ⟨_, -, there⟩
      exact differ (here.name.symm.trans there.name)
  refine listed.congr fun route => ?_
  constructor
  · rintro ⟨relationship, member, input, found, leads⟩
    exact .through member found leads
  · rintro (⟨member, found, leads⟩)
    exact ⟨_, member, _, found, leads⟩

mutual

theorem planNode_enumerate (apart : ApartByName basis.model) {node : NodeType}
    (known : node ∈ basis.model.nodes) {path : String} {input : Value} {plan : NodePlan}
    (planned : basis.planNode node path input = .ok plan) :
    Enumerates (path ++ Route.text ·) (Leads basis.model node input) plan.paths := by
  obtain ⟨entries, nested, same, -, -, entered, made⟩ := planNode_ok_iff.mp planned
  rw [made, same, NodePlan.paths]
  refine planEntries_enumerate apart known entered fun relationship _ field found plans done => ?_
  exact planFieldInput_enumerate apart done
  termination_by sizeOf input
  decreasing_by
    subst_vars
    exact sizeOf_get?_lt found

theorem planFieldInput_enumerate (apart : ApartByName basis.model) {relationship : Relationship}
    {path : String} {input : Value} {plans : List EntryPlan}
    (planned : basis.planFieldInput relationship s!"{path}.{relationship.name}" input = .ok plans) :
    Enumerates (path ++ Route.text ·) (FieldLeads basis.model relationship input)
      (EntryPlan.pathsOf plans) := by
  rcases planFieldInput_ok_iff.mp planned with
    ⟨rfl, rfl⟩ | ⟨entries, created, connected, same, -, creations, connections, rfl⟩
  · exact .nil fun route leads => by cases leads
  · rw [same, EntryPlan.pathsOf_append]
    have below := creations_enumerate creations fun items listed item inside place plan done =>
      planCreate_enumerate apart done
    refine (below.append (connections_enumerate connections) ?_).congr fun route => ?_
    · rintro _ ⟨_, _, _, _, -, -, -, rfl⟩ ⟨_, _, -, -, impossible⟩
      cases impossible
    · constructor
      · rintro (⟨items, index, item, inner, listed, there, leads, rfl⟩ |
          ⟨items, index, listed, inside, rfl⟩)
        · exact .under listed there leads
        · exact .connect listed inside
      · intro leads
        cases leads with
        | under listed there leads => exact .inl ⟨_, _, _, _, listed, there, leads, rfl⟩
        | connect listed inside => exact .inr ⟨_, _, listed, inside, rfl⟩
  termination_by sizeOf input
  decreasing_by
    subst_vars
    have outer := sizeOf_get?_lt listed
    have inner := List.sizeOf_lt_of_mem inside
    simp only [Value.list.sizeOf_spec] at outer
    omega

theorem planCreate_enumerate (apart : ApartByName basis.model) {relationship : Relationship}
    {place : String} {entry : Value} {plan : EntryPlan}
    (planned : basis.planCreate relationship place entry = .ok plan) :
    Enumerates (s!"{place}.node" ++ Route.text ·) (CreateLeads basis.model relationship entry)
      plan.paths := by
  obtain ⟨entries, related, _, input, node, same, found, -, given, made, rfl⟩ :=
    planCreate_ok_iff.mp planned
  rw [same, EntryPlan.paths]
  refine (planNode_enumerate apart (Model.node_mem found) made).congr fun route => ?_
  constructor
  · exact fun leads => .node found given leads
  · rintro (⟨resolved, here, leads⟩)
    rw [found] at resolved
    rw [given] at here
    cases resolved
    cases here
    exact leads
  termination_by sizeOf entry
  decreasing_by
    subst_vars
    exact sizeOf_get?_lt given

end

theorem text_updated (key name : String) (index : Nat) :
    (Address.updated name index).text key = itemPath s!"{key}.{name}" "updateConnection" index := by
  apply String.toList_inj.mp
  simp [Address.text, itemPath, String.toList_append, toString]

/-- Each entry of a list that updates is told, where each list has a name of its own. -/
theorem planConnectionUpdates_enumerate {node : NodeType} {key : String}
    {entries : List (String × Value)} (single : (Entries.keys entries).Nodup)
    {updates : List ConnectionUpdate}
    (planned : basis.planConnectionUpdates node key entries = .ok updates) :
    Enumerates (Address.text key) (fun address => ∃ name items index relationship,
      (name, Value.list items) ∈ entries ∧ node.relationship? name = some relationship ∧
        index < items.length ∧ address = .updated name index)
      (updates.map ConnectionUpdate.path) := by
  induction entries generalizing updates with
  | nil =>
      cases planned
      exact .nil fun address => by simp
  | cons entry rest ih =>
      obtain ⟨name, value⟩ := entry
      obtain ⟨relationship, allowed, planned⟩ := Outcome.bind_ok_iff.mp planned
      obtain ⟨items, read, planned⟩ := Outcome.bind_ok_iff.mp planned
      obtain ⟨first, each, planned⟩ := Outcome.bind_ok_iff.mp planned
      obtain ⟨others, left, made⟩ := Outcome.bind_ok_iff.mp planned
      cases made
      obtain ⟨alone, single⟩ := List.nodup_cons.mp single
      have objects : ∀ place item update,
          basis.planConnectionUpdate relationship place item = .ok update →
            ∃ fields, item = .object fields := by
        intro place item update done
        obtain ⟨fields, _, _, _, same, -⟩ := (planConnectionUpdate_ok_iff basis).mp done
        exact ⟨fields, same⟩
      have one : ∀ index, ∀ item ∈ items, ∀ update, basis.planConnectionUpdate relationship
          (itemPath s!"{key}.{name}" "updateConnection" index) item = .ok update →
          Enumerates (Address.text key) (· = .updated name index) [update.path] := by
        intro index item _ update done
        obtain ⟨_, _, _, _, -, -, -, -, -, rfl⟩ := (planConnectionUpdate_ok_iff basis).mp done
        rw [← text_updated]
        exact .single _
      have all := planEach_enumerate (fun index _ address => address = Address.updated name index)
        each one (by rintro index _ other _ _ rfl ⟨⟩; rfl)
      rw [← List.flatMap_def, ← List.map_eq_flatMap] at all
      rw [List.map_append]
      refine (all.append (ih single left) ?_).congr fun address => ?_
      · rintro _ ⟨_, _, -, rfl⟩ ⟨_, _, _, _, member, -, -, same⟩
        cases same
        exact alone (List.mem_map.mpr ⟨_, member, rfl⟩)
      constructor
      · rintro (⟨index, item, there, same⟩ | ⟨other, others, index, edge, member, later⟩)
        · obtain ⟨inside, -⟩ := List.getElem?_eq_some_iff.mp there
          have whole := eq_list_of_planEach read each objects inside
          exact ⟨name, items, index, relationship, whole ▸ List.mem_cons_self ..,
            updatableRelationship_ok allowed, inside, same⟩
        · exact ⟨other, others, index, edge, List.mem_cons_of_mem _ member, later⟩
      · rintro ⟨other, others, index, edge, member, known, inside, same⟩
        rcases List.mem_cons.mp member with here | later
        · cases here
          rw [itemsOf_list] at read
          cases read
          exact .inl ⟨index, _, List.getElem?_eq_getElem inside, same⟩
        · exact .inr ⟨other, others, index, edge, later, known, inside, same⟩

end

/-- The argument that updates relationships names each of them once. -/
def NamesOnce : RootField → Prop
  | .update _ _ _ _ _ connections =>
      ∀ entries, connections = .object entries → (Entries.keys entries).Nodup
  | _ => True

theorem nodup_of_namesOnce {key typeName : String} {response : ResponseSelection}
    {filter assignments connections : Value} {entries : Entries Value}
    (single : NamesOnce (.update key typeName response filter assignments connections))
    (read : entriesOf? connections = some entries) : entries.keys.Nodup := by
  cases connections with
  | object others =>
      cases read
      exact single entries rfl
  | _ =>
      rw [entriesOf?_eq_nil (by simp) read]
      exact List.nodup_nil

section

variable {basis : Basis} {key typeName : String} {node : NodeType}
  (apart : ApartByName basis.model) (found : basis.model.node typeName = .ok node)

include apart found

/-- The paths of what is created tell every entry in the inputs. -/
theorem plan_create_enumerate {inputs : List Value} {nodes : List NodePlan}
    (each : (inputs.zipIdx.mapM fun (input, index) =>
      basis.planNode node s!"{key}[{index}]" input) = .ok nodes) (response : ResponseSelection) :
    Enumerates (Address.text key)
      (EntryAt basis.model (.create key typeName inputs response))
      (nodes.flatMap NodePlan.paths) := by
  let part (index : Nat) (input : Value) (address : Address) : Prop := ∃ route,
    Leads basis.model node input route ∧ address = .created index route
  have below : ∀ index, ∀ input ∈ inputs, ∀ made,
      basis.planNode node s!"{key}[{index}]" input = .ok made →
        Enumerates (Address.text key) (part index input) made.paths := by
    intro index input _ made done
    exact (planNode_enumerate apart (Model.node_mem found) done).along
      (fun _ _ same => (Address.created.inj same).2) fun _ => rfl
  have all := planned_enumerate (fun index => basis.planNode node s!"{key}[{index}]") part each
    below (by rintro index _ other _ _ ⟨_, -, rfl⟩ ⟨_, -, ⟨⟩⟩; rfl)
  rw [← List.flatMap_def] at all
  refine all.congr fun address => ?_
  constructor
  · rintro ⟨index, input, there, route, leads, rfl⟩
    exact .created found there leads
  · intro entry
    cases entry with
    | created resolved there leads =>
        rw [found] at resolved
        cases resolved
        exact ⟨_, _, there, _, leads, rfl⟩

/-- The paths of an update tell every entry in its inputs. -/
theorem plan_update_enumerate {assignments connections : Value} {entries given : Entries Value}
    {nested : List EntryPlan} {updates : List ConnectionUpdate}
    (read : entriesOf? assignments = some entries)
    (entered : basis.planEntries node key entries = .ok nested)
    (taken : entriesOf? connections = some given)
    (updated : basis.planConnectionUpdates node key given = .ok updates)
    (response : ResponseSelection) (filter : Value) (names : given.keys.Nodup) :
    Enumerates (Address.text key)
      (EntryAt basis.model (.update key typeName response filter assignments connections))
      (EntryPlan.pathsOf nested ++ updates.map ConnectionUpdate.path) := by
  have entries_ := planEntries_enumerate apart (Model.node_mem found) entered
    fun relationship _ field _ plans done => planFieldInput_enumerate apart done
  have below : Enumerates (Address.text key) (fun address => ∃ route,
      Leads basis.model node (.object entries) route ∧ address = .nested route)
        (EntryPlan.pathsOf nested) :=
    entries_.along (fun _ _ same => Address.nested.inj same) fun _ => rfl
  have beside := planConnectionUpdates_enumerate names updated
  refine (below.append beside ?_).congr fun address => ?_
  · rintro _ ⟨_, -, rfl⟩ ⟨_, _, _, _, -, -, -, impossible⟩
    cases impossible
  constructor
  · rintro (⟨route, leads, rfl⟩ | ⟨name, items, index, edge, member, same, inside, rfl⟩)
    · exact .nested found read leads
    · exact .updated found taken member same inside
  · intro entry
    cases entry with
    | nested resolved here leads =>
        rw [found] at resolved
        rw [read] at here
        cases resolved
        cases here
        exact .inl ⟨_, leads, rfl⟩
    | updated resolved here member same inside =>
        rw [found] at resolved
        rw [taken] at here
        cases resolved
        cases here
        exact .inr ⟨_, _, _, _, member, same, inside, rfl⟩

end

/-- The paths of a plan tell every entry that connects or updates. -/
theorem plan_enumerate {basis : Basis} (apart : ApartByName basis.model) {field : RootField}
    {plan : Plan} (planned : basis.plan field = .ok plan) (single : NamesOnce field) :
    Enumerates (Address.text field.key) (EntryAt basis.model field) plan.paths := by
  have told := plan_told planned
  cases field with
  | list key typeName selection filter =>
      obtain ⟨_, _, _, -, rfl⟩ := told
      exact .nil fun address entry => by cases entry
  | lookup key id variants =>
      obtain ⟨_, rfl⟩ := told
      exact .nil fun address entry => by cases entry
  | typename key typeName => exact told.elim
  | create key typeName inputs response =>
      obtain ⟨node, nodes, answer, found, each, rfl⟩ := told
      exact plan_create_enumerate apart found each response
  | update key typeName response filter assignments connections =>
      obtain ⟨node, entries, given, nested, updates, condition, answer, found, read, -, entered,
        taken, updated, rfl⟩ := told
      exact plan_update_enumerate apart found read entered taken updated response filter
        (nodup_of_namesOnce single taken)

/-- No relationship has a point in its name. -/
def PlainlyNamed (model : Model) : Prop :=
  ∀ node ∈ model.nodes, ∀ relationship ∈ node.relationships, '.' ∉ relationship.name.toList

mutual

theorem Leads.plain {model : Model} (named : PlainlyNamed model) {node : NodeType}
    (known : node ∈ model.nodes) {input : Value} {route : Route} :
    Leads model node input route → route.IsPlain
  | .through member _ leads => leads.plain named (named node known _ member)

theorem FieldLeads.plain {model : Model} (named : PlainlyNamed model) {relationship : Relationship}
    (plain : '.' ∉ relationship.name.toList) {input : Value} {route : Route} :
    FieldLeads model relationship input route → route.IsPlain
  | .connect _ _ => plain
  | .under _ _ leads => ⟨plain, leads.plain named⟩

theorem CreateLeads.plain {model : Model} (named : PlainlyNamed model) {relationship : Relationship}
    {input : Value} {route : Route} : CreateLeads model relationship input route → route.IsPlain
  | .node resolved _ leads => leads.plain named (Model.node_mem resolved)

end

theorem not_mem_toDigits {c : Char} (foreign : c.isDigit = false) (number : Nat) :
    c ∉ Nat.toDigits 10 number := by
  intro member
  rw [Nat.isDigit_of_mem_toDigits (by decide) (by decide) member] at foreign
  cases foreign

/-- What stands before the first occurrence of an item is determined by the whole, as is the rest. -/
theorem split_eq {α : Type} {item : α} {first second rest later : List α}
    (same : first ++ item :: rest = second ++ item :: later) (firstFree : item ∉ first)
    (secondFree : item ∉ second) : first = second ∧ rest = later := by
  have turned : rest.reverse ++ item :: first.reverse = later.reverse ++ item :: second.reverse := by
    simpa using congrArg List.reverse same
  have heads := suffix_eq turned (by simpa using firstFree) (by simpa using secondFree)
  cases List.reverse_inj.mp heads
  exact ⟨rfl, (List.cons.inj (List.append_cancel_left same)).2⟩

/-- A number ends at the bracket behind it. -/
theorem bracketed_eq {index other : Nat} {rest later : List Char}
    (same : Nat.toDigits 10 index ++ ']' :: rest = Nat.toDigits 10 other ++ ']' :: later) :
    index = other ∧ rest = later := by
  obtain ⟨digits, rests⟩ := split_eq same (not_mem_toDigits rfl _) (not_mem_toDigits rfl _)
  exact ⟨toDigits_injective digits, rests⟩

namespace Route

theorem toList_connect (name : String) (index : Nat) :
    (connect name index).text.toList = '.' :: (name.toList ++
      '.' :: 'c' :: 'o' :: ("nnect[".toList ++ (Nat.toDigits 10 index ++ [']']))) := by
  simp [text, connectKey, String.toList_append, toString]

theorem toList_under (name : String) (index : Nat) (inner : Route) :
    (under name index inner).text.toList = '.' :: (name.toList ++
      '.' :: 'c' :: 'r' :: ("eate[".toList ++ (Nat.toDigits 10 index ++
        ']' :: (".node".toList ++ inner.text.toList)))) := by
  simp [text, createKey, String.toList_append, toString]

/-- Routes are told by their texts. -/
theorem text_injective {one other : Route} (first : one.IsPlain) (second : other.IsPlain)
    (same : one.text = other.text) : one = other := by
  have chars := congrArg String.toList same
  induction one generalizing other with
  | connect name index =>
      cases other with
      | connect another place =>
          rw [toList_connect, toList_connect, List.cons_inj_right] at chars
          obtain ⟨names, rests⟩ := split_eq chars first second
          rw [List.cons_inj_right, List.cons_inj_right] at rests
          obtain ⟨rfl, -⟩ := bracketed_eq (List.append_cancel_left rests)
          rw [String.toList_inj.mp names]
      | under another place inner =>
          rw [toList_connect, toList_under, List.cons_inj_right] at chars
          obtain ⟨-, rests⟩ := split_eq chars first second.1
          simp at rests
  | under name index inner ih =>
      cases other with
      | connect another place =>
          rw [toList_connect, toList_under, List.cons_inj_right] at chars
          obtain ⟨-, rests⟩ := split_eq chars first.1 second
          simp at rests
      | under another place deeper =>
          rw [toList_under, toList_under, List.cons_inj_right] at chars
          obtain ⟨names, rests⟩ := split_eq chars first.1 second.1
          rw [List.cons_inj_right, List.cons_inj_right] at rests
          obtain ⟨rfl, left⟩ := bracketed_eq (List.append_cancel_left rests)
          have left := List.append_cancel_left left
          rw [String.toList_inj.mp names, ih first.2 second.2 (String.toList_inj.mp left) left]

end Route

namespace Address

theorem toList_created (key : String) (index : Nat) (route : Route) :
    ((created index route).text key).toList =
      key.toList ++ '[' :: (Nat.toDigits 10 index ++ ']' :: route.text.toList) := by
  simp [text, String.toList_append, toString]

theorem toList_nested (key : String) (route : Route) :
    ((nested route).text key).toList = key.toList ++ route.text.toList := by
  simp [text, String.toList_append, toString]

theorem toList_updated (key name : String) (index : Nat) :
    ((updated name index).text key).toList = key.toList ++ '.' :: (name.toList ++
      '.' :: 'u' :: ("pdateConnection[".toList ++ (Nat.toDigits 10 index ++ [']']))) := by
  simp [text, String.toList_append, toString]

/-- An entry below what is updated is not spelt like one that updates. -/
theorem nested_ne_updated {route : Route} (plain : route.IsPlain) {name : String}
    (named : '.' ∉ name.toList) (key : String) (index : Nat) :
    (nested route).text key ≠ (updated name index).text key := by
  intro same
  have chars := congrArg String.toList same
  rw [toList_nested, toList_updated] at chars
  have chars := List.append_cancel_left chars
  cases route with
  | connect another place =>
      rw [Route.toList_connect, List.cons_inj_right] at chars
      obtain ⟨-, rests⟩ := split_eq chars plain named
      simp at rests
  | under another place inner =>
      rw [Route.toList_under, List.cons_inj_right] at chars
      obtain ⟨-, rests⟩ := split_eq chars plain.1 named
      simp at rests

end Address

theorem PlainlyNamed.of_relationship? {model : Model} (plain : PlainlyNamed model) {node : NodeType}
    {name typeName : String} {relationship : Relationship} (resolved : model.node typeName = .ok node)
    (known : node.relationship? name = some relationship) : '.' ∉ name.toList := by
  unfold NodeType.relationship? at known
  have named := List.find?_some known
  rw [← eq_of_beq named]
  exact plain node (Model.node_mem resolved) relationship (List.mem_of_find?_eq_some known)

/-- The addresses of a field are told by their texts. -/
theorem EntryAt.text_injective {model : Model} (plain : PlainlyNamed model) {field : RootField}
    {one other : Address} (first : EntryAt model field one) (second : EntryAt model field other)
    {key : String} (same : one.text key = other.text key) : one = other := by
  have chars := congrArg String.toList same
  cases first with
  | created resolved there leads =>
      cases second with
      | created resolvedToo thereToo leadsToo =>
          rw [Address.toList_created, Address.toList_created] at chars
          have chars := (List.cons.inj (List.append_cancel_left chars)).2
          obtain ⟨rfl, left⟩ := bracketed_eq chars
          rw [Route.text_injective (leads.plain plain (Model.node_mem resolved))
            (leadsToo.plain plain (Model.node_mem resolvedToo)) (String.toList_inj.mp left)]
  | nested resolved read leads =>
      have here := leads.plain plain (Model.node_mem resolved)
      cases second with
      | nested resolvedToo readToo leadsToo =>
          rw [Address.toList_nested, Address.toList_nested] at chars
          rw [Route.text_injective here (leadsToo.plain plain (Model.node_mem resolvedToo))
            (String.toList_inj.mp (List.append_cancel_left chars))]
      | updated resolvedToo readToo member known inside =>
          exact absurd same
            (Address.nested_ne_updated here (plain.of_relationship? resolvedToo known) key _)
  | updated resolved read member known inside =>
      have here := plain.of_relationship? resolved known
      cases second with
      | nested resolvedToo readToo leadsToo =>
          have there := leadsToo.plain plain (Model.node_mem resolvedToo)
          exact absurd same.symm (Address.nested_ne_updated there here key _)
      | updated resolvedToo readToo memberToo knownToo insideToo =>
          rw [Address.toList_updated, Address.toList_updated] at chars
          have chars := (List.cons.inj (List.append_cancel_left chars)).2
          obtain ⟨names, rests⟩ := split_eq chars here (plain.of_relationship? resolvedToo knownToo)
          rw [List.cons_inj_right] at rests
          obtain ⟨rfl, -⟩ := bracketed_eq (List.append_cancel_left rests)
          rw [String.toList_inj.mp names]

/-- No two entries of a plan have the same path. -/
theorem plan_paths_nodup {basis : Basis} (apart : ApartByName basis.model)
    (plain : PlainlyNamed basis.model) {field : RootField} {plan : Plan}
    (planned : basis.plan field = .ok plan) (single : NamesOnce field) : plan.paths.Nodup :=
  (plan_enumerate apart planned single).nodup fun _ _ here there same =>
    here.text_injective plain there same

end GraphGateway.Statement
