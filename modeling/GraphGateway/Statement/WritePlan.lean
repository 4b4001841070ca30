import GraphGateway.Request.Argument
import GraphGateway.Statement.ReadPlan

/-!
Plans of what is written.  An input names the properties of a node and, for each relationship, the
nodes to create and the nodes to connect.  Planning refuses every key that an input does not have,
every required value that is missing and every required value that would become null.
-/
namespace GraphGateway.Statement

open Request Schema

mutual

/-- A node to create, with the relationships that it gets. -/
inductive NodePlan where
  | mk (label identifier : String) (id : Option Value) (properties : List Assignment)
      (entries : List EntryPlan)

/-- A relationship to create, to a node that is created with it or to nodes that are found. -/
inductive EntryPlan where
  | create (step : Step) (properties : List Assignment) (node : NodePlan)
  | connect (step : Step) (path : String) (filter properties : List Assignment)

end

/-- An update of the properties of relationships that are there. -/
structure ConnectionUpdate where
  step : Step
  path : String
  filter : List Assignment
  properties : List Assignment

/-- An entry of an object is smaller than the object. -/
theorem sizeOf_get?_lt {entries : Entries Value} {key : String} {value : Value}
    (found : entries.get? key = some value) : sizeOf value < sizeOf (Value.object entries) := by
  induction entries with
  | nil => simp [Entries.get?] at found
  | cons entry rest ih =>
      obtain ⟨other, item⟩ := entry
      rw [Entries.get?_cons] at found
      split at found
      · cases found
        simp only [Value.object.sizeOf_spec, List.cons.sizeOf_spec, Prod.mk.sizeOf_spec]
        omega
      · have smaller := ih found
        simp only [Value.object.sizeOf_spec, List.cons.sizeOf_spec] at smaller ⊢
        omega

/-- Whether an entry is there and not null. -/
def isGiven (entries : Entries Value) (key : String) : Bool :=
  match entries.get? key with
  | some value => !value.isNull
  | none => false

/-- The properties of a node that an input gives. -/
def propertiesIn (node : NodeType) (entries : Entries Value) : List Assignment :=
  node.fields.filterMap fun field =>
    (entries.get? field.name).map fun value =>
      { field := field.name, stored := field.stored, value }

/-- Refuses keys that the input of a node type does not have, and nulls where an update may not put
them. -/
def checkKeys (node : NodeType) (path : String) (creating : Bool) :
    List (String × Value) → Except Failure Unit
  | [] => .ok ()
  | (name, value) :: rest => do
      if (node.relationship? name).isSome then pure ()
      else if name = identifierName then
        if creating then pure () else Failure.invalid s!"'{name}' cannot be updated" path
      else
        match node.field? name with
        | none => Failure.invalid s!"{node.name} has no field '{name}'" path
        | some field =>
            if value.isNull && field.required && !creating then
              Failure.invalid s!"required field '{name}' cannot be set to null" path
            else pure ()
      checkKeys node path creating rest

/-- Refuses an input that lacks a required property. -/
def checkRequired (node : NodeType) (path : String) (entries : Entries Value) :
    Except Failure Unit :=
  match node.fields.find? fun field => field.required && !isGiven entries field.name with
  | some field =>
      Failure.invalid s!"missing required field '{node.name}.{field.name}'" path
  | none => .ok ()

def createKey : String := "create"

def connectKey : String := "connect"

/-- Refuses keys besides those for nodes to create and to connect. -/
def checkFieldKeys (path : String) (keys : List Value) : Except Failure Unit :=
  if !keys.all Value.isKey then .error .mismatched
  else
    let unknown := (Value.distinctItems keys).filter fun key =>
      !key.same (.text createKey) && !key.same (.text connectKey)
    if unknown.isEmpty then .ok ()
    else
      match Value.sortBy? (unknown.map fun key => (key, ())) with
      | none => .error .mismatched
      | some sorted =>
          Failure.invalid s!"unknown fields {(Value.list (sorted.map Prod.fst)).shown}" path

/-- The first property that a properties type requires and that is not given. -/
def missingProperty? (type : PropertiesType) (entries : Entries Value) : Option PropertyField :=
  type.requiredFields.find? fun field => !isGiven entries field.name

/-- The first property that a properties type requires and that is given as null. -/
def nulledProperty? (type : PropertiesType) (entries : Entries Value) : Option String :=
  (entries.find? fun (name, value) =>
    value.isNull && ((type.field? name).map PropertyField.required).getD false).map Prod.fst

/-- The properties of a relationship that an input gives, all of them known ones. -/
def relationshipAssignments (type : PropertiesType) (path : String) (creating : Bool)
    (entries : Entries Value) : Except Failure (List Assignment) :=
  match entries.keys.find? fun name => (type.field? name).isNone with
  | some name => Failure.invalid s!"{type.name} has no property '{name}'" path
  | none =>
      let assignments := entries.filterMap fun (name, value) =>
        (type.field? name).map fun field => { field := field.stored, stored := field.stored, value }
      if creating then
        match missingProperty? type entries with
        | some field => .error (.fault (.missingProperty type.name field.name (some path) none))
        | none => .ok assignments
      else
        match nulledProperty? type entries with
        | some name =>
            Failure.invalid s!"required property '{type.name}.{name}' cannot be set to null" path
        | none => .ok assignments

/-- Refuses what is no object in place of properties, after all the names in it. -/
def refuseProperties {α : Type} (type : PropertiesType) (path : String) (given : Value) :
    Except Failure α := do
  let names ← elementsOf given
  let isUnknown : Value → Bool
    | .text name => (type.field? name).isNone
    | _ => true
  match names.find? isUnknown with
  | some name => Failure.invalid s!"{type.name} has no property '{name.plain}'" path
  | none => throw .notObject

namespace Basis

variable (basis : Basis)

/-- The properties that a relationship gets.  A relationship without properties takes none. -/
def planProperties (relationship : Relationship) (given : Value) (path : String)
    (creating : Bool) : Except Failure (List Assignment) :=
  match basis.model.offeredProperties? basis.features.relationshipProperties relationship with
  | none =>
      if given.isNull then .ok []
      else Failure.invalid s!"'{relationship.name}' does not accept relationship properties" path
  | some type =>
      match given with
      | .object entries => relationshipAssignments type path creating entries
      | value =>
          if value.isTruthy then refuseProperties type path value
          else relationshipAssignments type path creating []

/-- A relationship whose other end is filtered, and the filter. -/
def planConnect (relationship : Relationship) (path : String) (entry : Value) :
    Except Failure EntryPlan := do
  let entries ← objectEntries entry
  let related ← Failure.ofLookup (basis.model.related relationship)
  let properties ←
    basis.planProperties relationship ((entries.get? "properties").getD .null) path true
  let filter := (entries.get? "where").getD .null
  if filter.isNull then Failure.invalid "'where' is required" path
  else
    let filter ← readFilter related filter path
    pure (.connect (stepOf relationship related) path filter properties)

/-- Plans the entries of a list, each under its place in it. -/
def planEach {α : Type} (path key : String) (plan : String → Value → Except Failure α)
    (items : List Value) : Except Failure (List α) :=
  items.zipIdx.mapM fun (item, index) => plan s!"{path}.{key}[{index}]" item

/-- What stands for no nodes to create, where no list of them stands. -/
def noCreations (value : Value) : Except Failure (List EntryPlan) :=
  if !value.isTruthy then .ok []
  else
    match value with
    | .text _ => .error .notObject
    | .object _ => .error .notObject
    | _ => .error .mismatched

mutual

/-- Plans a node to create. -/
def planNode (node : NodeType) (path : String) (input : Value) : Except Failure NodePlan :=
  match input with
  | .object entries => do
      checkKeys node path true entries
      checkRequired node path entries
      let nested ← node.relationships.mapM fun relationship =>
        match _found : Entries.get? entries relationship.name with
        | none => pure []
        | some field => planFieldInput relationship s!"{path}.{relationship.name}" field
      let id := (Entries.get? entries identifierName).filter (!·.isNull)
      pure (.mk node.name node.identifier.stored id (propertiesIn node entries) nested.flatten)
  | _ => .error .notObject
  termination_by sizeOf input
  decreasing_by exact sizeOf_get?_lt _found

/-- Plans what one relationship gets: first the nodes to create, then the nodes to connect. -/
def planFieldInput (relationship : Relationship) (path : String) (input : Value) :
    Except Failure (List EntryPlan) :=
  match input with
  | .null => .ok []
  | .object entries => do
      checkFieldKeys path ((Entries.keys entries).map .text)
      let created ←
        match _found : Entries.get? entries createKey with
        | none => pure []
        | some (.list items) =>
            items.attach.zipIdx.mapM fun (item, index) =>
              planCreate relationship s!"{path}.{createKey}[{index}]" item.val
        | some value => noCreations value
      let connected ←
        match Entries.get? entries connectKey with
        | none => pure []
        | some value => do
            let items ← itemsOf value
            planEach path connectKey (basis.planConnect relationship) items
      pure (created ++ connected)
  | other => do
      checkFieldKeys path (← elementsOf other)
      throw .notObject
  termination_by sizeOf input
  decreasing_by
    have outer := sizeOf_get?_lt _found
    have inner := List.sizeOf_lt_of_mem item.property
    simp only [Value.list.sizeOf_spec] at outer
    omega

/-- Plans a relationship to a node that is created with it. -/
def planCreate (relationship : Relationship) (path : String) (entry : Value) :
    Except Failure EntryPlan :=
  match entry with
  | .object entries => do
      let related ← Failure.ofLookup (basis.model.related relationship)
      let properties ← basis.planProperties relationship
        ((Entries.get? entries "properties").getD .null) path true
      match _found : Entries.get? entries "node" with
      | none => Failure.invalid "'node' is required" path
      | some .null => Failure.invalid "'node' is required" path
      | some input => do
          let node ← planNode related s!"{path}.node" input
          pure (.create (stepOf relationship related) properties node)
  | _ => .error .notObject
  termination_by sizeOf entry
  decreasing_by exact sizeOf_get?_lt _found

end

/-- Plans what the relationships of a node get from an input. -/
def planEntries (node : NodeType) (path : String) (entries : Entries Value) :
    Except Failure (List EntryPlan) := do
  let nested ← node.relationships.mapM fun relationship =>
    match entries.get? relationship.name with
    | none => pure []
    | some field => basis.planFieldInput relationship s!"{path}.{relationship.name}" field
  pure nested.flatten

/-- The relationship whose properties an update may set. -/
def updatableRelationship (node : NodeType) (name path : String) : Except Failure Relationship :=
  if !basis.features.relationshipProperties then
    Failure.invalid "updateConnection is not available" path
  else
    match node.relationship? name with
    | none => Failure.invalid s!"{node.name}.{name} has no relationship properties" path
    | some relationship =>
        if (basis.model.propertiesOf? relationship).isSome then .ok relationship
        else Failure.invalid s!"{node.name}.{name} has no relationship properties" path

/-- Plans an update of properties of relationships that are there. -/
def planConnectionUpdate (relationship : Relationship) (path : String) (entry : Value) :
    Except Failure ConnectionUpdate := do
  let entries ← objectEntries entry
  let related ← Failure.ofLookup (basis.model.related relationship)
  let filter := (entries.get? "where").getD .null
  if filter.isNull then Failure.invalid "'where' is required" path
  else
    let given := orEmpty (entries.get? "properties")
    let properties ← basis.planProperties relationship given path false
    let filter ← readFilter related filter path
    pure { step := stepOf relationship related, path, filter, properties }

def planConnectionUpdates (node : NodeType) (path : String) :
    List (String × Value) → Except Failure (List ConnectionUpdate)
  | [] => .ok []
  | (name, entries) :: rest => do
      let relationship ← basis.updatableRelationship node name path
      let items ← itemsOf entries
      let first ← planEach s!"{path}.{name}" "updateConnection"
        (basis.planConnectionUpdate relationship) items
      let others ← planConnectionUpdates node path rest
      pure (first ++ others)

end Basis

mutual

/-- The paths of the entries of a node that connect, in order. -/
def NodePlan.paths : NodePlan → List String
  | .mk _ _ _ _ entries => EntryPlan.pathsOf entries

def EntryPlan.paths : EntryPlan → List String
  | .create _ _ node => node.paths
  | .connect _ path _ _ => [path]

def EntryPlan.pathsOf : List EntryPlan → List String
  | [] => []
  | entry :: rest => entry.paths ++ EntryPlan.pathsOf rest

end

end GraphGateway.Statement
