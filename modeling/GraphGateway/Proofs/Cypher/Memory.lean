import GraphGateway.Proofs.Cypher.Counted
import GraphGateway.Value.Order

/-!
What is stored under the properties of a new node.  A database remembers if a property of a node that
it made holds what was stored there last.  Then a property of a new node holds what the last of its
assignments puts there.
-/
namespace GraphGateway.Cypher

/-- A property of a node holds what was stored there last, and nothing stored elsewhere. -/
structure Database.Remembers {σ : Type} (db : Database σ) : Prop where
  isThing : ∀ label state, (db.makeNode label state).1 ≠ .null
  stored : ∀ label made key value state,
    db.property (db.makeNode label made).1 key
      (db.store (db.makeNode label made).1 key value state) = value
  others : ∀ label made key other value state, other ≠ key →
    db.property (db.makeNode label made).1 other
      (db.store (db.makeNode label made).1 key value state) =
        db.property (db.makeNode label made).1 other state

section

variable {σ : Type} {db : Database σ} {parameters : Entries Value}

theorem Row.assigned_append (row : Row) (first rest : List (Expression × Expression)) (state : σ) :
    row.assigned db parameters (first ++ rest) state =
      row.assigned db parameters rest (row.assigned db parameters first state) :=
  List.foldl_append

theorem Row.assigned_property {row : Row} {owner : String} {entity : Value}
    (found : row.get? owner = some entity) (some_ : entity ≠ .null) (key : String)
    (value : Expression) (state : σ) :
    row.assigned db parameters [(.property owner key, value)] state =
      db.store entity key (row.value db parameters state value) state := by
  change Database.assign.storeIn db row _ state owner key = _
  unfold Database.assign.storeIn
  rw [found]
  cases entity with
  | null => exact absurd rfl some_
  | _ => rfl

/-- A row in which a variable stands for a new node. -/
def Row.HasNew (db : Database σ) (row : Row) (owner : String) (label : Option String) (made : σ) :
    Prop :=
  row.get? owner = some (db.makeNode label made).1

section

variable {row : Row} {owner : String} {label : Option String} {made : σ}
  (remembers : db.Remembers) (new : row.HasNew db owner label made)

include remembers new

theorem Row.HasNew.read (key : String) (state : σ) :
    db.read row owner key state = db.property (db.makeNode label made).1 key state := by
  have some_ := remembers.isThing label made
  unfold Database.read
  rw [show row.get? owner = _ from new]
  cases same : (db.makeNode label made).1 with
  | null => exact absurd same some_
  | _ => rfl

/-- Assignments to other properties leave a property as it is. -/
theorem Row.HasNew.read_assigned_others {key : String}
    {assignments : List (Expression × Expression)}
    (own : ∀ assignment ∈ assignments, ∃ other, assignment.1 = .property owner other ∧ other ≠ key)
    (state : σ) :
    db.read row owner key (row.assigned db parameters assignments state) =
      db.read row owner key state := by
  induction assignments generalizing state with
  | nil => rfl
  | cons assignment rest ih =>
      obtain ⟨target, value⟩ := assignment
      obtain ⟨other, same, apart⟩ := own _ (List.mem_cons_self ..)
      cases same
      rw [← List.singleton_append, Row.assigned_append,
        ih fun later member => own later (List.mem_cons_of_mem _ member),
        Row.assigned_property new (remembers.isThing label made), new.read remembers,
        new.read remembers, remembers.others _ _ _ _ _ _ (Ne.symm apart)]

/-- A property holds what the last assignment to it puts there. -/
theorem Row.HasNew.read_assigned {key : String} {value : Expression}
    (before : List (Expression × Expression)) {after : List (Expression × Expression)}
    (own : ∀ assignment ∈ after, ∃ other, assignment.1 = .property owner other ∧ other ≠ key)
    (state : σ) :
    db.read row owner key
        (row.assigned db parameters (before ++ (.property owner key, value) :: after) state) =
      row.value db parameters (row.assigned db parameters before state) value := by
  rw [← List.singleton_append, Row.assigned_append, Row.assigned_append,
    new.read_assigned_others remembers own,
    Row.assigned_property new (remembers.isThing label made), new.read remembers,
    remembers.stored]

end

/-- Behind the creation of a node and its first assignments there is one row, with the new node. -/
theorem Clause.through_created (pattern : NodePattern) (some_ : pattern.name ≠ "")
    (assignments : List (Expression × Expression)) (row : Row) (state : σ) :
    ∃ out, out.HasNew db pattern.name pattern.label state ∧
      Clause.through db parameters [.create (.node pattern), .set assignments]
          { rows := [row], state } =
        { rows := [out]
          state := out.assigned db parameters assignments (db.makeNode pattern.label state).2 } := by
  refine ⟨row.bind pattern.name (db.makeNode pattern.label state).1, ?_, rfl⟩
  unfold Row.HasNew Row.bind
  rw [if_neg some_, Entries.get?_cons, if_pos rfl]

end

end GraphGateway.Cypher

/-!
A database in memory, on which statements can be run.  Nodes, relationships and counters are numbered
in the order in which they are made, and the number stands for the thing.
-/
namespace GraphGateway.Cypher

open Schema (Direction)

/-- A relationship from a node to a node. -/
structure Memory.Edge where
  number : Nat
  source : Nat
  label : String
  target : Nat

structure Memory where
  /-- How many things were made. -/
  made : Nat := 0
  nodes : List (Nat × Option String) := []
  edges : List Memory.Edge := []
  counters : List (Nat × String × Value) := []
  /-- The counter that was made when a counter was last asked for. -/
  fresh : Option Nat := none
  /-- What is stored, the latest first. -/
  stored : List ((Nat × String) × Value) := []

namespace Memory

/-- The number of a thing. -/
def number? : Value → Option Nat
  | .int (.ofNat number) => some number
  | _ => none

def thing (number : Nat) : Value := .int number

def holdsLabel (memory : Memory) (number : Nat) (label : Option String) : Bool :=
  label.isNone || memory.nodes.contains (number, label)

/-- The edges of a node in a direction, each with the node at its other end. -/
def edgesOf (memory : Memory) (node : Nat) (direction : Direction) (label : String)
    (other : Option String) : List (Value × Value) :=
  memory.edges.filterMap fun edge =>
    let (near, far) :=
      match direction with
      | .outgoing => (edge.source, edge.target)
      | .incoming => (edge.target, edge.source)
    if near = node ∧ edge.label = label ∧ memory.holdsLabel far other then
      some (thing edge.number, thing far)
    else none

def property (memory : Memory) (number : Nat) (key : String) : Value :=
  ((memory.stored.find? fun entry => entry.1 = (number, key)).map Prod.snd).getD .null

def store (memory : Memory) (number : Nat) (key : String) (value : Value) : Memory :=
  { memory with stored := ((number, key), value) :: memory.stored }

def makeNode (label : Option String) (memory : Memory) : Value × Memory :=
  (thing memory.made,
    { memory with made := memory.made + 1, nodes := memory.nodes ++ [(memory.made, label)] })

def makeEdge (source : Value) (direction : Direction) (label : String) (target : Value)
    (memory : Memory) : Value × Memory :=
  match number? source, number? target with
  | some near, some far =>
      let edge : Edge :=
        match direction with
        | .outgoing => { number := memory.made, source := near, label, target := far }
        | .incoming => { number := memory.made, source := far, label, target := near }
      (thing memory.made, { memory with made := memory.made + 1, edges := memory.edges ++ [edge] })
  | _, _ => (.null, memory)

def counter (label : String) (name : Value) (memory : Memory) : Value × Memory :=
  match memory.counters.find? fun entry => entry.2.1 = label && entry.2.2.same name with
  | some (number, _, _) => (thing number, { memory with fresh := none })
  | none =>
      (thing memory.made,
        { memory with
          made := memory.made + 1
          counters := (memory.made, label, name) :: memory.counters
          fresh := some memory.made })

/-- The truth of a comparison, which is unknown about null. -/
def compare (relation : Comparison) (first second : Value) : Value :=
  if first.isNull || second.isNull then .null
  else
    match relation with
    | .equal => .bool (first.same second)
    | .above => .bool (second.less? first == some true)
    | .atMost => .bool (second.less? first == some false)

def add : Value → Value → Value
  | .int one, .int other => .int (one + other)
  | _, _ => .null

/-- The database in memory. -/
def database : Database Memory where
  nodes label memory :=
    (memory.nodes.filter fun entry => label.isNone || entry.2 = label).map fun entry => thing entry.1
  related source direction label other memory :=
    match number? source with
    | some node => memory.edgesOf node direction label other
    | none => []
  makeNode := makeNode
  makeRelationship := makeEdge
  counter := counter
  isNew value memory := (number? value).isSome && number? value == memory.fresh
  property value key memory :=
    match number? value with
    | some number => memory.property number key
    | none => .null
  store value key content memory :=
    match number? value with
    | some number => memory.store number key content
    | none => memory
  identifier memory := .text s!"new-{memory.made}"
  compare := compare
  add := add
  before one other := !(other.less? one == some true)
  same := Value.same

theorem property_store (memory : Memory) (number : Nat) (key other : String) (value : Value) :
    (memory.store number key value).property number other =
      if other = key then value else memory.property number other := by
  unfold property store
  by_cases same : other = key
  · simp [same]
  · simp [same, Ne.symm same]

theorem remembers : database.Remembers where
  isThing label memory := nofun
  stored label made key value memory := by
    change (memory.store made.made key value).property made.made key = value
    rw [property_store, if_pos rfl]
  others label made key other value memory apart := by
    change (memory.store made.made key value).property made.made other =
      memory.property made.made other
    rw [property_store, if_neg apart]

end Memory

end GraphGateway.Cypher
