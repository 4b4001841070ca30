import GraphGateway.Proofs.Statement.Connection
import GraphGateway.Proofs.Statement.ReadPlan
import GraphGateway.Statement.Compiled

/-!
Walks through a connection.  A client asks for the first page, and then for the page after the last
cursor that it got, as long as there is a next page.  Between two requests relationships may be
deleted and created as anyone likes: the pages have strictly increasing numbers, and a walk that has
come to its end has shown every relationship that was there at each of its requests exactly once.
The one thing that a client must not do is to give the key of the order to edges, these or others that
are selected inside: a map has one value under a key, so that the numbers are lost and no page can be
made.
-/
namespace GraphGateway.Statement

open Cypher Request Schema Settings
open Naming (Ensures)
open Paging (CursorCodec IsPlain IsShort PageInfo hasBefore isBeyond_none isBeyond_some
  isShort_of_lt mem_remaining pagesNeeded remaining remaining_ascending remaining_increasing
  remaining_perm startAfter tour tour_complete tour_constant tour_increasing tour_present upTo)

/-- A connection whose fields are known to the model. -/
structure Connection (basis : Basis) where
  key : String
  name : String
  node : NodeType
  relationship : Relationship
  related : NodeType
  fields : List ConnectionField
  sets : List EdgeSetPlan
  known : basis.relationshipOf node name = .ok (relationship, related)
  planned : basis.planSets (Basis.issuerOf node relationship)
    (basis.model.propertiesOf? relationship) related fields = .ok sets

namespace Connection

variable {basis : Basis} (connection : Connection basis)

/-- The name that the cursors of a connection bear. -/
def issuer : String := s!"{connection.node.name}.{connection.name}"

def step : Step := Basis.stepOf connection.relationship connection.related

/-- The field that asks for a page of some size after a cursor, or for the first page after null. -/
def field (size : Nat) (after : Value) : NodeField :=
  .connection connection.key connection.name (.int size) after connection.fields

/-- Edges stand under the key of their order, here or in a connection inside, whatever page is asked
for. -/
def HidesOrder : Prop := ∃ size after, Statement.HidesOrder (connection.field size after)

theorem issuer_eq : Basis.issuerOf connection.node connection.relationship = connection.issuer := by
  have known := connection.known
  unfold Basis.relationshipOf at known
  split at known
  · cases known
  · next relationship found =>
    obtain ⟨related, -, same⟩ := Outcome.bind_ok_iff.mp known
    cases same
    have named := List.find?_some found
    unfold Basis.issuerOf issuer
    rw [eq_of_beq named]

/-- Edges that do not hide their order leave its key alone. -/
theorem sequenceKey_not_mem (apart : ¬ connection.HidesOrder) :
    sequenceKey ∉ connection.sets.map EdgeSetPlan.key := by
  intro member
  obtain ⟨inner, inside⟩ := ((planSets_keys connection.planned).2 sequenceKey).mp member
  exact apart ⟨0, .null, .edges inside⟩

end Connection

/-- What a client gives as the start of a page: nothing, or the cursor of a number. -/
inductive Carries (codec : CursorCodec) (issuer : String) : Value → Option Int → Prop where
  | nothing : Carries codec issuer .null none
  | cursor {number : Nat} (short : IsShort number) :
      Carries codec issuer (.text (codec.encodePosition ⟨number, issuer⟩)) (some (number : Int))

section

variable {basis : Basis}

/-- Every page size within the bounds is accepted. -/
theorem pageLimit_natural (issuer : String) {size : Nat}
    (allowed : ∀ most, basis.features.maxPageSize = some most → (size : Int) ≤ most) :
    basis.pageLimit issuer (.int size) = .ok (.int (size + 1)) := by
  have natural : ¬(size : Int) < 0 := by omega
  unfold Basis.pageLimit
  rw [Value.less?_int, decide_eq_false natural]
  simp only [Basis.successor?, Bool.false_eq_true, if_false]
  split
  · next most bounded =>
    rw [Value.less?_int, decide_eq_false (Int.not_lt.mpr (allowed most bounded))]
    rfl
  · rfl

/-- The page after a cursor starts behind its number. -/
theorem pageOf_carried {issuer : String} (plain : IsPlain issuer) {size : Nat}
    (allowed : ∀ most, basis.features.maxPageSize = some most → (size : Int) ≤ most)
    {after : Value} {start : Option Int} (carries : Carries basis.codec issuer after start) :
    basis.pageOf issuer (.int size) after = .ok ⟨start, some (.int (size + 1))⟩ := by
  rw [pageOf_ok_iff]
  refine ⟨.inr ⟨rfl, _, pageLimit_natural issuer allowed, rfl⟩, ?_⟩
  cases carries with
  | nothing => exact .inl ⟨rfl, rfl⟩
  | cursor short =>
      exact .inr ⟨rfl, _, basis.codec.decode_encodePosition plain short, rfl⟩

/-- A connection is planned for every page. -/
theorem planField_connection (connection : Connection basis)
    (offered : basis.features.relationshipProperties = true) (plain : IsPlain connection.issuer)
    {size : Nat} (allowed : ∀ most, basis.features.maxPageSize = some most → (size : Int) ≤ most)
    {after : Value} {start : Option Int}
    (carries : Carries basis.codec connection.issuer after start) :
    basis.planField connection.node (connection.field size after) =
      .ok [.connection connection.key connection.step ⟨start, some (.int (size + 1))⟩
        connection.sets] := by
  have page := pageOf_carried plain allowed carries
  rw [← connection.issuer_eq] at page
  unfold Connection.field
  rw [Basis.planField, offered]
  refine Outcome.bind_ok_iff.mpr ⟨_, connection.known, ?_⟩
  refine Outcome.bind_ok_iff.mpr ⟨_, page, ?_⟩
  exact Outcome.bind_ok_iff.mpr ⟨_, connection.planned, rfl⟩

end

/-- A database when a request comes: the node that the request reaches under a variable, the names
that its statement has given out before, the relationships of the node, and the map that is answered
when clauses about the node have run. -/
structure Moment (features : Features) where
  source : String
  supply : Supply
  sound : supply.IsSound
  relationships : Relationships
  answer : List Clause → MapEntries → Entries Value → Value
  admitted : ∀ clauses map parameters,
    (sceneOf features source relationships parameters).Admits clauses map
      (answer clauses map parameters)

/-- A request for a page: the field is planned, its clauses run, and the page is read from what the
database answers. -/
def Connection.visit {basis : Basis} (connection : Connection basis)
    (moment : Moment basis.features) (size : Nat) (after : Value) : Except Failure PageOfEdges := do
  let plans ← basis.planField connection.node (connection.field size after)
  let ((clauses, map), supply) :=
    emitFields basis.features moment.source plans moment.supply
  let raw ← entryAt connection.key (moment.answer clauses map supply.parameters)
  readPage basis.codec raw connection.issuer (.int size)

/-- The pages that a client gets with at most so many requests, one at each moment, and whether it
has come to a page without a next one. -/
def Connection.walk {basis : Basis} (connection : Connection basis)
    (history : Nat → Moment basis.features) (size : Nat) :
    Nat → Nat → Value → Except Failure (List PageOfEdges × Bool)
  | 0, _, _ => .ok ([], false)
  | fuel + 1, time, after => do
      let page ← connection.visit (history time) size after
      if page.info.hasNextPage then
        let (pages, finished) ←
          walk connection history size fuel (time + 1) (.textOrNull page.info.endCursor)
        pure (page :: pages, finished)
      else pure ([page], true)

section

theorem upTo_succ (size : Nat) (numbers : List Nat) :
    upTo (some (size + 1)) numbers = numbers.take (size + 1) := rfl

/-- The edge that is fetched beyond a page does not belong to it. -/
theorem take_upTo (size : Nat) (numbers : List Nat) :
    (upTo (some (size + 1)) numbers).take size = numbers.take size := by
  rw [upTo_succ, List.take_take, Nat.min_eq_left (Nat.le_succ size)]

/-- It tells whether there is a next page. -/
theorem hasNextPage_upTo (cursors : List String) (size : Nat) (numbers : List Nat)
    (before : Bool) :
    (PageInfo.ofPage cursors (upTo (some (size + 1)) numbers).length (some (size : Int))
      before).hasNextPage = decide (size < numbers.length) := by
  rw [upTo_succ, List.length_take]
  change decide ((size : Int) < (min (size + 1) numbers.length : Nat)) = _
  rw [decide_eq_decide]
  omega

variable {basis : Basis} (connection : Connection basis)

/-- The numbers of the relationships that a connection is about. -/
def Connection.numbers (moment : Moment basis.features) : List Nat :=
  connection.step.numbers moment.relationships

/-- A request gets the page with the least numbers behind its start. -/
theorem Connection.visit_ok (offered : basis.features.relationshipProperties = true)
    (plain : IsPlain connection.issuer) (apart : ¬ connection.HidesOrder) {size : Nat}
    (allowed : ∀ most, basis.features.maxPageSize = some most → (size : Int) ≤ most)
    (moment : Moment basis.features) (short : ∀ number ∈ connection.numbers moment, IsShort number)
    {after : Value} {start : Option Int}
    (carries : Carries basis.codec connection.issuer after start) :
    ∃ page, connection.visit moment size after = .ok page ∧
      page.Shows basis.codec connection.issuer
        ((remaining start (connection.numbers moment)).take size) ∧
      page.info = .ofPage (page.edges.map Prod.snd)
        (upTo (some (size + 1)) (remaining start (connection.numbers moment))).length
        (some (size : Int)) (hasBefore start (connection.numbers moment)) := by
  have planned := planField_connection connection offered plain allowed carries
  have emitted := emitConnection_answers basis.features moment.source connection.key
    connection.step ⟨start, some (.int (size + 1))⟩ (connection.sequenceKey_not_mem apart)
  rw [← emitFields_singleton] at emitted
  obtain ⟨-, -, answers⟩ := emitted moment.supply moment.sound
  obtain ⟨edges, previous, different, answered, map⟩ :=
    answers _ (.refl _) (some (size + 1)) rfl moment.relationships
  let emission := emitFields basis.features moment.source
    [.connection connection.key connection.step ⟨start, some (.int (size + 1))⟩ connection.sets]
    moment.supply
  have admits := moment.admitted emission.1.1 emission.1.2 emission.2.parameters
  rw [map] at admits
  obtain ⟨items, shuffled, rows, order, raw⟩ := map_of_admits different answered admits
  have ascending : (upTo (some (size + 1)) (remaining start (connection.numbers moment))).Pairwise
      (· ≤ ·) := (remaining_ascending _ _).sublist (List.take_sublist _ _)
  have within : ∀ number ∈ upTo (some (size + 1)) (remaining start (connection.numbers moment)),
      IsShort number := fun number member =>
    short number (mem_remaining.mp (List.mem_of_mem_take member)).1
  obtain ⟨page, read, shown, info⟩ := readPage_rows basis.codec connection.issuer rows order
    ascending within size (hasBefore start (connection.numbers moment))
  refine ⟨page, ?_, ?_, info⟩
  · unfold Connection.visit
    refine Outcome.bind_ok_iff.mpr ⟨_, planned, ?_⟩
    refine Outcome.bind_ok_iff.mpr ⟨_, ?_, read⟩
    change entryAt connection.key
      (moment.answer emission.1.1 emission.1.2 emission.2.parameters) = _
    rw [map, raw]
    simp only [entryAt, Entries.get?_cons, if_true]
    rfl
  · rwa [take_upTo] at shown

/-- The cursor that a page ends with starts the next one behind its last number. -/
theorem PageOfEdges.Shows.carries {codec : CursorCodec} {issuer : String} {page : PageOfEdges}
    {numbers : List Nat} (shown : page.Shows codec issuer numbers)
    (short : ∀ number ∈ numbers, IsShort number) :
    Carries codec issuer (.textOrNull (page.edges.map Prod.snd).getLast?)
      (startAfter numbers) := by
  have reversed := List.forall₂_reverse_iff.mpr shown
  have members : ∀ number ∈ numbers.reverse, IsShort number :=
    fun number member => short number (List.mem_reverse.mp member)
  unfold startAfter
  rw [List.getLast?_map, List.getLast?_eq_head?_reverse, List.getLast?_eq_head?_reverse]
  generalize page.edges.reverse = edges at reversed ⊢
  generalize numbers.reverse = backwards at reversed members ⊢
  cases reversed with
  | nil => exact .nothing
  | cons last rest =>
      rw [List.head?_cons, List.head?_cons, Option.map_some, Option.map_some, last.2]
      exact .cursor (members _ (List.mem_cons_self ..))

/-- A walk goes through the pages of a tour. -/
theorem Connection.walk_tour (offered : basis.features.relationshipProperties = true)
    (plain : IsPlain connection.issuer) (apart : ¬ connection.HidesOrder) {size : Nat}
    (allowed : ∀ most, basis.features.maxPageSize = some most → (size : Int) ≤ most)
    (history : Nat → Moment basis.features)
    (short : ∀ time, ∀ number ∈ connection.numbers (history time), IsShort number)
    (fuel time : Nat) {after : Value} {start : Option Int}
    (carries : Carries basis.codec connection.issuer after start) :
    ∃ pages, connection.walk history size fuel time after =
        .ok (pages, (tour (fun time => connection.numbers (history time)) size fuel time start).2) ∧
      List.Forall₂ (PageOfEdges.Shows basis.codec connection.issuer) pages
        (tour (fun time => connection.numbers (history time)) size fuel time start).1 := by
  induction fuel generalizing time after start with
  | zero => exact ⟨[], rfl, .nil⟩
  | succ fuel ih =>
      obtain ⟨page, visited, shown, info⟩ :=
        connection.visit_ok offered plain apart allowed (history time) (short time) carries
      have next : page.info.hasNextPage =
          decide (size < (remaining start (connection.numbers (history time))).length) := by
        rw [info, hasNextPage_upTo]
      have onward := shown.carries fun number member =>
        short time number (mem_remaining.mp (List.mem_of_mem_take member)).1
      have cursor : page.info.endCursor = (page.edges.map Prod.snd).getLast? := by
        rw [info]
        rfl
      rw [← cursor] at onward
      by_cases more : size < (remaining start (connection.numbers (history time))).length
      · obtain ⟨pages, walked, shownLater⟩ := ih (time + 1) onward
        refine ⟨page :: pages, ?_, ?_⟩
        · rw [Connection.walk, tour, if_pos more]
          refine Outcome.bind_ok_iff.mpr ⟨_, visited, ?_⟩
          rw [next, if_pos (decide_eq_true more)]
          exact Outcome.bind_ok_iff.mpr ⟨_, walked, rfl⟩
        · rw [tour, if_pos more]
          exact .cons shown shownLater
      · refine ⟨[page], ?_, ?_⟩
        · rw [Connection.walk, tour, if_neg more]
          refine Outcome.bind_ok_iff.mpr ⟨_, visited, ?_⟩
          rw [next, if_neg (by rw [decide_eq_false more]; exact Bool.false_ne_true)]
          rfl
        · rw [tour, if_neg more]
          exact .cons shown .nil

end

/-- A film whose cast changes: between the first request and the second one the relationship with
the number 1 is deleted, and the one with the number 7 is created. -/
def castMember : Relationship where
  name := "actors"
  type := { name := "Person", isList := true, nonNull := true, itemNonNull := true }
  relatedType := "Person"
  direction := .incoming
  label := "ACTED_IN"

def castBasis : Basis where
  model := { nodes := [{ name := "Movie", relationships := [castMember] }, { name := "Person" }] }
  features := { maxPageSize := some 10 }
  codec := .ofSecret [7]

def castConnection : Connection castBasis where
  key := "cast"
  name := "actors"
  node := { name := "Movie", relationships := [castMember] }
  relationship := castMember
  related := { name := "Person" }
  fields := [.edges "edges" [.leaf ⟨"cursor", "cursor"⟩], .pageInfo "page" [⟨"more", "hasNextPage"⟩]]
  sets := [.mk "edges" []]
  known := rfl
  planned := rfl

def castNumbers : Nat → List Nat
  | 0 => [5, 1, 3]
  | _ => [7, 3, 5]

/-- A database in which every node has relationships with some numbers, and nothing is shuffled. -/
def castMoment (numbers : List Nat) : Moment castBasis.features where
  source := rootName
  supply := {}
  sound := Supply.isSound_empty
  relationships _ _ _ := numbers
  answer clauses map parameters :=
    (sceneOf castBasis.features rootName (fun _ _ _ => numbers) parameters).canonical clauses map
  admitted clauses map _ := Scene.admits_canonical _ clauses map

def castHistory (time : Nat) : Moment castBasis.features := castMoment (castNumbers time)

theorem castNumbers_distinct (time : Nat) : (castNumbers time).Nodup := by
  cases time with
  | zero => exact (by decide : [5, 1, 3].Nodup)
  | succ time => exact (by decide : [7, 3, 5].Nodup)

theorem castNumbers_small (time : Nat) : ∀ number ∈ castNumbers time, number < 2 ^ 63 := by
  cases time with
  | zero => exact (by decide : ∀ number ∈ [5, 1, 3], number < 2 ^ 63)
  | succ time => exact (by decide : ∀ number ∈ [7, 3, 5], number < 2 ^ 63)

theorem castNumbers_lasting (time : Nat) : 3 ∈ castNumbers time ∧ 5 ∈ castNumbers time := by
  cases time <;> simp [castNumbers]

theorem cast_plain : IsPlain castConnection.issuer := by decide +kernel

theorem cast_apart : ¬ castConnection.HidesOrder := by
  rintro ⟨size, after, member | _ | ⟨among, within, -, -⟩⟩
  · simp [castConnection, sequenceKey] at member
  · simp only [castConnection, List.mem_cons, ConnectionField.edges.injEq, reduceCtorEq,
      List.not_mem_nil, or_false] at among
    obtain ⟨-, rfl⟩ := among
    simp at within

theorem castTour_finished : (tour castNumbers 2 2 0 none).2 = true := by
  have first : remaining none (castNumbers 0) = [1, 3, 5] := by
    refine List.Pairwise.eq_of_mem_iff (remaining_increasing (castNumbers_distinct 0) none)
      (by decide) fun number => ?_
    rw [mem_remaining, isBeyond_none]
    simp [castNumbers]
    omega
  have second : remaining (some 3) (castNumbers 1) = [5, 7] := by
    refine List.Pairwise.eq_of_mem_iff (remaining_increasing (castNumbers_distinct 1) _)
      (by decide) fun number => ?_
    rw [mem_remaining, isBeyond_some, decide_eq_true_eq]
    simp [castNumbers]
    omega
  have start : startAfter [1, 3] = some 3 := rfl
  simp [tour, first, second, start]

/-- The same connection with its edges under the key of their order. -/
def hidingConnection : Connection castBasis where
  key := "cast"
  name := "actors"
  node := { name := "Movie", relationships := [castMember] }
  relationship := castMember
  related := { name := "Person" }
  fields := [.edges sequenceKey [.leaf ⟨"cursor", "cursor"⟩]]
  sets := [.mk sequenceKey []]
  known := rfl
  planned := rfl

/-- Whether there is no page since a map without entries stands in the place of a number. -/
def lacksNumber {α : Type} : Except Failure α → Bool
  | .error (.orderingKey (.notWhole (.object []))) => true
  | _ => false

theorem eq_of_lacksNumber {α : Type} {result : Except Failure α} (lacks : lacksNumber result = true) :
    result = .error (.orderingKey (.notWhole (.object []))) := by
  unfold lacksNumber at lacks
  split at lacks
  · rfl
  · cases lacks

end GraphGateway.Statement
