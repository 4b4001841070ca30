import GraphGateway.Proofs.Cypher.Memory
import GraphGateway.Proofs.Cypher.Run

/-!
Ledgers of databases.  The journal of a database tells which relationships it made and what it stored,
in order.  A ledger says what a database does with its counters: there is at most one of a name, and
nothing changes it but the steps of a draw.  The number of a relationship is what is stored under a
property of it first.
-/
namespace GraphGateway.Cypher

inductive Event where
  | made (relationship : Value) (label : String)
  | stored (owner : Value) (key : String) (value : Value)

namespace Event

/-- The first value that is stored under a property of an owner. -/
def FirstStored (owner : Value) (key : String) (events : List Event) (value : Value) : Prop :=
  ∃ before after, events = before ++ .stored owner key value :: after ∧
    ∀ other, .stored owner key other ∉ before

/-- Events of which none makes a relationship. -/
def AreStores (events : List Event) : Prop :=
  ∀ event ∈ events, ∃ owner key value, event = .stored owner key value

/-- The first values of a property of the relationships of a type, in the order in which these are
made. -/
inductive Numbers (key label : String) : List Event → List Value → Prop where
  | nil : Numbers key label [] []
  | made {relationship value : Value} {events : List Event} {values : List Value}
      (first : FirstStored relationship key events value) (others : Numbers key label events values) :
      Numbers key label (.made relationship label :: events) (value :: values)
  | other {relationship : Value} {type : String} {events : List Event} {values : List Value}
      (apart : type ≠ label) (others : Numbers key label events values) :
      Numbers key label (.made relationship type :: events) values
  | stored {owner value : Value} {property : String} {events : List Event} {values : List Value}
      (others : Numbers key label events values) :
      Numbers key label (.stored owner property value :: events) values

section

variable {owner value : Value} {key label : String} {events rest : List Event}
  {values others : List Value}

theorem FirstStored.append (first : FirstStored owner key events value) (rest : List Event) :
    FirstStored owner key (events ++ rest) value := by
  obtain ⟨before, after, rfl, new⟩ := first
  exact ⟨before, after ++ rest, by rw [List.append_assoc, List.cons_append], new⟩

theorem FirstStored.behind (first : FirstStored owner key rest value)
    (new : ∀ other, .stored owner key other ∉ events) :
    FirstStored owner key (events ++ rest) value := by
  obtain ⟨before, after, rfl, unstored⟩ := first
  refine ⟨events ++ before, after, by rw [List.append_assoc], fun other member => ?_⟩
  exact (List.mem_append.mp member).elim (new other) (unstored other)

theorem Numbers.append (first : Numbers key label events values)
    (second : Numbers key label rest others) :
    Numbers key label (events ++ rest) (values ++ others) := by
  induction first with
  | nil => exact second
  | made first _ ih => exact .made (first.append rest) ih
  | other apart _ ih => exact .other apart ih
  | stored _ ih => exact .stored ih

theorem AreStores.append (first : AreStores events) (second : AreStores rest) :
    AreStores (events ++ rest) :=
  List.forall_mem_append.mpr ⟨first, second⟩

theorem areStores_singleton (owner : Value) (key : String) (value : Value) :
    AreStores [.stored owner key value] := by
  intro event member
  exact ⟨_, _, _, List.mem_singleton.mp member⟩

theorem numbers_of_areStores (stores : AreStores events) : Numbers key label events [] := by
  induction events with
  | nil => exact .nil
  | cons event rest ih =>
      obtain ⟨owner, property, value, rfl⟩ := stores event (List.mem_cons_self ..)
      exact .stored (ih fun other member => stores other (List.mem_cons_of_mem _ member))

/-- Relationships that are made get the numbers that are stored behind. -/
theorem numbers_made {pairs : List (Value × Value)} (stores : AreStores rest)
    (first : ∀ pair ∈ pairs, FirstStored pair.1 key rest pair.2) :
    Numbers key label (pairs.map (fun pair => .made pair.1 label) ++ rest) (pairs.map Prod.snd) := by
  have unstored : ∀ (pairs : List (Value × Value)) owner other,
      Event.stored owner key other ∉ pairs.map fun pair => .made pair.1 label := by
    intro pairs owner other member
    obtain ⟨_, -, impossible⟩ := List.mem_map.mp member
    cases impossible
  induction pairs with
  | nil => exact numbers_of_areStores stores
  | cons pair pairs ih =>
      refine .made ((first pair (List.mem_cons_self ..)).behind (unstored pairs pair.1)) ?_
      exact ih fun other member => first other (List.mem_cons_of_mem _ member)

theorem numbers_made_others {type : String} (apart : type ≠ label) (pairs : List (Value × Value))
    (numbers : Numbers key label rest values) :
    Numbers key label (pairs.map (fun pair => .made pair.1 type) ++ rest) values := by
  induction pairs with
  | nil => exact numbers
  | cons pair pairs ih => exact .other apart ih

end

end Event

open Event (AreStores Numbers)

/-- What is known of the states of a database: its counters by their names, what is a node or a
relationship but no counter, and its journal. -/
structure View (σ : Type) where
  counter? : String → σ → Option Value
  isData : Value → σ → Prop
  journal : σ → List Event

/-- What happens to a state by some events: no data is lost, and the counters stay as they are, but
for the one that is changed. -/
structure View.Leaves {σ : Type} (view : View σ) (db : Database σ) (changed : Option String)
    (events : List Event) (before after : σ) : Prop where
  data : ∀ value, view.isData value before → view.isData value after
  journal : view.journal after = view.journal before ++ events
  counters : ∀ name, changed ≠ some name → view.counter? name after = view.counter? name before ∧
    ∀ counter, view.counter? name before = some counter →
      db.property counter countedKey after = db.property counter countedKey before

/-- A database in which the counters of a label are unique, are no data, and count. -/
structure Database.Ledger {σ : Type} (db : Database σ) (label : String) extends View σ where
  data_some : ∀ {value state}, isData value state → value ≠ .null
  counter_some : ∀ {name counter state}, counter? name state = some counter → counter ≠ .null
  nodes : ∀ {other state value}, other ≠ label → value ∈ db.nodes (some other) state →
    isData value state
  related : ∀ {source direction type other state relationship node},
    (relationship, node) ∈ db.related source direction type other state → isData relationship state
  makeNode : ∀ {other} state, other ≠ label →
    toView.Leaves db none [] state (db.makeNode (some other) state).2 ∧
      isData (db.makeNode (some other) state).1 (db.makeNode (some other) state).2
  makeRelationship : ∀ source direction type target state,
    let made := db.makeRelationship source direction type target state
    toView.Leaves db none [.made made.1 type] state made.2 ∧ ¬ isData made.1 state ∧
      isData made.1 made.2
  store : ∀ {owner state} key value, isData owner state →
    toView.Leaves db none [.stored owner key value] state (db.store owner key value state)
  /-- A counter is found, or it is made. -/
  merge : ∀ name state,
    let asked := db.counter label (.text name) state
    toView.Leaves db (some name) [] state asked.2 ∧ counter? name asked.2 = some asked.1 ∧
      match counter? name state with
      | none => db.isNew asked.1 asked.2 = true
      | some counter => db.isNew asked.1 asked.2 = false ∧ asked.1 = counter ∧
          db.property counter countedKey asked.2 = db.property counter countedKey state
  count : ∀ {name counter state} value, counter? name state = some counter →
    let after := db.store counter countedKey value state
    toView.Leaves db (some name) [.stored counter countedKey value] state after ∧
      counter? name after = some counter ∧ db.property counter countedKey after = value
  add : ∀ one other : Int, db.add (.int one) (.int other) = .int (one + other)

namespace View

section

variable {σ : Type} {view : View σ} {db : Database σ} {changed : Option String}
  {events rest : List Event} {before middle after : σ}

theorem Leaves.refl (state : σ) : view.Leaves db changed [] state state where
  data _ := id
  journal := (List.append_nil _).symm
  counters _ _ := ⟨rfl, fun _ _ => rfl⟩

theorem Leaves.trans (first : view.Leaves db changed events before middle)
    (second : view.Leaves db changed rest middle after) :
    view.Leaves db changed (events ++ rest) before after where
  data value here := second.data value (first.data value here)
  journal := by rw [second.journal, first.journal, List.append_assoc]
  counters name other := by
    obtain ⟨same, kept⟩ := first.counters name other
    obtain ⟨still, left⟩ := second.counters name other
    exact ⟨still.trans same, fun counter found =>
      (left counter (same.trans found)).trans (kept counter found)⟩

theorem Leaves.weaken (leaves : view.Leaves db none events before after) :
    view.Leaves db changed events before after where
  data := leaves.data
  journal := leaves.journal
  counters name _ := leaves.counters name (by simp)

end

section

variable {σ : Type} (view : View σ) (db : Database σ)

/-- How far a counter is; one that is not there has not counted anything. -/
def Counts (name : String) (number : Int) (state : σ) : Prop :=
  match view.counter? name state with
  | none => number = 0
  | some counter => db.property counter countedKey state = .int number

/-- The numbers behind a number. -/
def following (number : Int) (count : Nat) : List Int :=
  (List.range count).map fun index : Nat => number + 1 + index

/-- A way from a state to a later one on which the relationships of a type that are made get the next
numbers of their counter, in order. -/
def Advances (key type : String) (before after : σ) : Prop :=
  ∃ events, view.journal after = view.journal before ++ events ∧
    ∀ number, view.Counts db type number before → ∃ count : Nat,
      view.Counts db type (number + count) after ∧
      Numbers key type events ((following number count).map .int)

end

section

variable {σ : Type} {view : View σ} {db : Database σ} {changed : Option String}
  {key type : String} {events : List Event} {before middle after : σ}

theorem Leaves.counts (leaves : view.Leaves db changed events before after) {name : String}
    (other : changed ≠ some name) {number : Int} (counts : view.Counts db name number before) :
    view.Counts db name number after := by
  obtain ⟨same, kept⟩ := leaves.counters name other
  unfold Counts at counts ⊢
  rw [same]
  cases found : view.counter? name before with
  | none =>
      rw [found] at counts
      exact counts
  | some counter =>
      rw [found] at counts
      exact (kept counter found).trans counts

theorem following_add (number : Int) (first second : Nat) :
    following number (first + second) =
      following number first ++ following (number + first) second := by
  unfold following
  rw [List.range_add, List.map_append, List.map_map]
  congr 1
  refine List.map_congr_left fun index _ => ?_
  simp only [Function.comp_apply, Int.natCast_add]
  omega

theorem following_succ (number : Int) (count : Nat) :
    following number (count + 1) = (number + 1) :: following (number + 1) count := by
  rw [Nat.add_comm, following_add]
  simp [following]

theorem following_increasing (number : Int) (count : Nat) :
    (following number count).Pairwise (· < ·) := by
  unfold following
  rw [List.pairwise_map]
  exact List.pairwise_lt_range.imp fun {_ _} less => by omega

theorem Advances.refl (state : σ) : view.Advances db key type state state :=
  ⟨[], (List.append_nil _).symm, fun number counts => ⟨0, by simpa using counts, .nil⟩⟩

theorem Advances.trans (first : view.Advances db key type before middle)
    (second : view.Advances db key type middle after) : view.Advances db key type before after := by
  obtain ⟨events, written, numbered⟩ := first
  obtain ⟨rest, added, others⟩ := second
  refine ⟨events ++ rest, by rw [added, written, List.append_assoc], fun number counts => ?_⟩
  obtain ⟨count, counting, numbers⟩ := numbered number counts
  obtain ⟨more, still, further⟩ := others _ counting
  refine ⟨count + more, ?_, ?_⟩
  · rw [Int.natCast_add, ← Int.add_assoc]
    exact still
  · rw [following_add, List.map_append]
    exact numbers.append further

/-- Where nothing but data is stored, no relationship gets a number. -/
theorem Leaves.advances (leaves : view.Leaves db none events before after)
    (stores : AreStores events) : view.Advances db key type before after :=
  ⟨events, leaves.journal, fun number counts => ⟨0,
    by simpa using leaves.counts (by simp) counts, Event.numbers_of_areStores stores⟩⟩

end

end View

/-!
A database with counters among its nodes.  Nodes and relationships are known by their places in the
order in which they are made, and a counter is known by its name, so that there is only one of a name.
-/

open Schema (Direction)

/-- A node, or a relationship between two ends. -/
structure Thing where
  label : Option String
  ends : Option (Value × Value) := none
  properties : Entries Value := []

structure Shelf where
  things : List Thing := []
  /-- The properties of the counters under their names. -/
  counters : Entries (Entries Value) := []
  /-- The counter that was made when a counter was last asked for. -/
  fresh : Option String := none
  journal : List Event := []

namespace Shelf

variable (label : String)

/-- The nodes with a label; counters are nodes, too. -/
def nodes (wanted : Option String) (shelf : Shelf) : List Value :=
  (shelf.things.zipIdx.filterMap fun (thing, place) =>
    if thing.ends.isNone ∧ (wanted.isNone ∨ thing.label = wanted) then some (.int place)
    else none) ++
  if wanted.isNone ∨ wanted = some label then shelf.counters.keys.map .text else []

def property (owner : Value) (key : String) (shelf : Shelf) : Value :=
  let properties? :=
    match owner with
    | .int (.ofNat place) => shelf.things[place]?.map Thing.properties
    | .text name => shelf.counters.get? name
    | _ => none
  ((properties?.bind fun properties => properties.get? key).getD .null)

def store (owner : Value) (key : String) (value : Value) (shelf : Shelf) : Shelf :=
  let journal := shelf.journal ++ [.stored owner key value]
  match owner with
  | .int (.ofNat place) =>
      { shelf with
        things := shelf.things.modify place fun thing =>
          { thing with properties := thing.properties.put key value }
        journal }
  | .text name =>
      match shelf.counters.get? name with
      | some properties =>
          { shelf with counters := shelf.counters.put name (properties.put key value), journal }
      | none => { shelf with journal }
  | _ => { shelf with journal }

def makeNode (label : Option String) (shelf : Shelf) : Value × Shelf :=
  (.int shelf.things.length, { shelf with things := shelf.things ++ [{ label }] })

/-- The ends of a relationship in a direction. -/
def endsOf (direction : Direction) (source target : Value) : Value × Value :=
  match direction with
  | .outgoing => (source, target)
  | .incoming => (target, source)

def makeRelationship (source : Value) (direction : Direction) (type : String) (target : Value)
    (shelf : Shelf) : Value × Shelf :=
  let made := .int shelf.things.length
  (made,
    { shelf with
      things := shelf.things ++ [{ label := some type, ends := some (endsOf direction source target) }]
      journal := shelf.journal ++ [.made made type] })

def hasLabel (shelf : Shelf) (node : Value) (wanted : Option String) : Bool :=
  match node with
  | .int (.ofNat place) => wanted.isNone || shelf.things[place]?.map Thing.label == some wanted
  | _ => false

def related (source : Value) (direction : Direction) (type : String) (other : Option String)
    (shelf : Shelf) : List (Value × Value) :=
  shelf.things.zipIdx.filterMap fun (thing, place) =>
    thing.ends.bind fun (first, second) =>
      let (near, far) := endsOf direction first second
      if thing.label = some type ∧ near.same source ∧ shelf.hasLabel far other then
        some (.int place, far)
      else none

def counter (name : Value) (shelf : Shelf) : Value × Shelf :=
  match name with
  | .text name =>
      match shelf.counters.get? name with
      | some _ => (.text name, { shelf with fresh := none })
      | none =>
          (.text name,
            { shelf with
              counters := shelf.counters.put name [("name", .text name)]
              fresh := some name })
  | _ => (.null, shelf)

/-- The database, with the label of its counters. -/
def database : Database Shelf where
  nodes := nodes label
  related := related
  makeNode := makeNode
  makeRelationship := makeRelationship
  counter _ := counter
  isNew value shelf := shelf.fresh.any fun name => value.isText name
  property := property
  store := store
  identifier shelf := .text s!"new-{shelf.things.length}"
  compare := Memory.compare
  add := Memory.add
  before one other := !(other.less? one == some true)
  same := Value.same

/-- The things on a shelf. -/
def IsThing (value : Value) (shelf : Shelf) : Prop :=
  ∃ place : Nat, value = .int place ∧ place < shelf.things.length

def view : View Shelf where
  counter? name shelf := (shelf.counters.get? name).map fun _ => .text name
  isData := IsThing
  journal := journal

theorem isThing_of_mem_nodes {other : String} (apart : other ≠ label) {shelf : Shelf} {value : Value}
    (member : value ∈ nodes label (some other) shelf) : IsThing value shelf := by
  unfold nodes at member
  rw [if_neg (by simpa using apart), List.append_nil] at member
  obtain ⟨⟨thing, place⟩, inside, found⟩ := List.mem_filterMap.mp member
  dsimp only at found
  split at found
  · cases found
    exact ⟨place, rfl, (List.mem_zipIdx' inside).1⟩
  · cases found

theorem isThing_of_mem_related {source node relationship : Value} {direction : Direction}
    {type : String} {other : Option String} {shelf : Shelf}
    (member : (relationship, node) ∈ related source direction type other shelf) :
    IsThing relationship shelf := by
  obtain ⟨⟨thing, place⟩, inside, found⟩ := List.mem_filterMap.mp member
  obtain ⟨ends, -, found⟩ := Option.bind_eq_some_iff.mp found
  dsimp only at found
  split at found
  · cases found
    exact ⟨place, rfl, (List.mem_zipIdx' inside).1⟩
  · cases found

section

variable {label : String} {shelf after : Shelf} {events : List Event}

theorem property_text (name key : String) (shelf : Shelf) :
    property (.text name) key shelf =
      ((shelf.counters.get? name).bind fun properties => properties.get? key).getD .null := rfl

theorem counter?_eq_some_iff {name : String} {counter : Value} :
    view.counter? name shelf = some counter ↔
      (∃ properties, shelf.counters.get? name = some properties) ∧ counter = .text name := by
  change (shelf.counters.get? name).map _ = _ ↔ _
  cases shelf.counters.get? name <;> simp [eq_comm]

/-- The counters that have the same properties as before are as they were. -/
theorem leaves_of_counters {changed : Option String}
    (more : shelf.things.length ≤ after.things.length)
    (written : after.journal = shelf.journal ++ events)
    (same : ∀ name, changed ≠ some name → after.counters.get? name = shelf.counters.get? name) :
    view.Leaves (database label) changed events shelf after where
  data := by
    rintro value ⟨place, rfl, bound⟩
    exact ⟨place, rfl, Nat.lt_of_lt_of_le bound more⟩
  journal := written
  counters name other := by
    have kept := same name other
    refine ⟨congrArg (Option.map _) kept, fun counter found => ?_⟩
    rw [(counter?_eq_some_iff.mp found).2]
    change property (.text name) countedKey after = property (.text name) countedKey shelf
    rw [property_text, property_text, kept]

end

/-- The counters of a shelf are unique, are no things, and count. -/
def ledger : (database label).Ledger label where
  toView := view
  data_some := by
    rintro _ shelf ⟨place, rfl, -⟩ impossible
    cases impossible
  counter_some := by
    rintro name counter shelf found rfl
    cases (counter?_eq_some_iff.mp found).2
  nodes apart member := isThing_of_mem_nodes label apart member
  related member := isThing_of_mem_related member
  makeNode shelf apart := by
    refine ⟨leaves_of_counters ?_ (List.append_nil _).symm fun _ _ => rfl, _, rfl, ?_⟩
    · simp [database, makeNode]
    · simp [database, makeNode]
  makeRelationship source direction type target shelf := by
    refine ⟨leaves_of_counters ?_ rfl fun _ _ => rfl, ?_, _, rfl, ?_⟩
    · simp [database, makeRelationship]
    · rintro ⟨place, same, bound⟩
      have here : ((shelf.things.length : Nat) : Int) = place := Value.int.inj same
      omega
    · simp [database, makeRelationship]
  store := by
    rintro _ shelf key value ⟨place, rfl, bound⟩
    refine leaves_of_counters ?_ rfl fun _ _ => rfl
    simp [database, store]
  merge name shelf := by
    dsimp only
    cases found : shelf.counters.get? name with
    | some properties =>
        have asked : (database label).counter label (.text name) shelf =
            (.text name, { shelf with fresh := none }) := by
          simp only [database, counter, found]
        have known : view.counter? name shelf = some (.text name) :=
          counter?_eq_some_iff.mpr ⟨⟨properties, found⟩, rfl⟩
        rw [asked, known]
        exact ⟨leaves_of_counters (Nat.le_refl _) (List.append_nil _).symm fun _ _ => rfl, known,
          rfl, rfl, rfl⟩
    | none =>
        have asked : (database label).counter label (.text name) shelf = (.text name,
            { shelf with
              counters := shelf.counters.put name [("name", .text name)]
              fresh := some name }) := by
          simp only [database, counter, found]
        have unknown : view.counter? name shelf = none := by
          change (shelf.counters.get? name).map _ = none
          rw [found]
          rfl
        rw [asked, unknown]
        refine ⟨leaves_of_counters (Nat.le_refl _) (List.append_nil _).symm fun other apart => ?_,
          counter?_eq_some_iff.mpr ⟨⟨_, (Entries.get?_put ..).trans (if_pos rfl)⟩, rfl⟩, ?_⟩
        · exact (Entries.get?_put ..).trans (if_neg fun same => apart (congrArg some same))
        · simp [database, Value.isText]
  count := by
    rintro name _ shelf value known
    obtain ⟨⟨properties, found⟩, rfl⟩ := counter?_eq_some_iff.mp known
    have stored : (database label).store (.text name) countedKey value shelf =
        { shelf with
          counters := shelf.counters.put name (properties.put countedKey value)
          journal := shelf.journal ++ [.stored (.text name) countedKey value] } := by
      simp only [database, store, found]
    dsimp only
    rw [stored]
    refine ⟨leaves_of_counters (Nat.le_refl _) rfl fun other apart => ?_, ?_, ?_⟩
    · exact (Entries.get?_put ..).trans (if_neg fun same => apart (congrArg some same))
    · exact counter?_eq_some_iff.mpr ⟨⟨_, (Entries.get?_put ..).trans (if_pos rfl)⟩, rfl⟩
    · change property (.text name) countedKey _ = value
      rw [property_text, Entries.get?_put, if_pos rfl, Option.bind_some, Entries.get?_put,
        if_pos rfl]
      rfl
  add one other := rfl

end Shelf

end GraphGateway.Cypher
