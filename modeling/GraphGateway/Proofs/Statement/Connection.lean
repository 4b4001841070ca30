import Mathlib.Data.List.Perm.Basic
import GraphGateway.Proofs.Cypher.Scene
import GraphGateway.Proofs.Cypher.Supply
import GraphGateway.Proofs.Paging.Cursor
import GraphGateway.Proofs.Paging.Pages
import GraphGateway.Proofs.Statement.ReadPlan
import GraphGateway.Proofs.Value.Order
import GraphGateway.Statement.Answer
import GraphGateway.Statement.Projection

/-!
What the clauses of a connection answer.  They answer the relationships behind the start of the page
with the least numbers, no more than its limit, and whether there is one at the start or before it.
-/
namespace GraphGateway.Statement

open Cypher Settings
open Naming (Ensures Holds)
open Paging (hasBefore hasBefore_none hasBefore_some isBeyond isBeyond_none isBeyond_some remaining upTo)

section

variable (features : Features)

theorem gathers_of_answer (imports : List String) (body : List Clause) {column : Column}
    (gathers : column.gathers = true) :
    (Clause.subquery imports (body ++ [.answer [column]])).gathers = true := by
  rw [Clause.gathers, List.getLast?_concat]
  exact gathers

theorem emitPrevious_gathers (source : String) (step : Step) (start : Option Expression) :
    Ensures (emitPrevious features source step start) fun answer _ =>
      ∀ clause ∈ answer.1, clause.gathers = true := by
  cases start with
  | none => exact .pure fun _ _ member => absurd member List.not_mem_nil
  | some start =>
      refine .bind (.newName "edge") fun edge => ?_
      refine .bind (.newName "previous") fun previous => ?_
      refine .pure fun _ _ _ clause member => ?_
      rw [List.mem_singleton.mp member]
      rfl

/-- The parameter of a start holds its key. -/
def StartsAt (parameters : Entries Value) : Option Int → Option Expression → Prop
  | none, none => True
  | some key, some parameter => Holds (.int key) parameter parameters
  | _, _ => False

theorem emitStart_starts (start : Option Int) :
    Ensures (emitStart start) fun answer parameters => StartsAt parameters start answer := by
  cases start with
  | none => exact .pure fun _ => trivial
  | some key => exact .bind (.bindValue _ _) fun _ => .pure fun _ held => held

/-- The clause of a limit has a parameter that holds it. -/
def LimitedTo (parameters : Entries Value) (clauses : List Clause) : Option Value → Prop
  | none => clauses = []
  | some limit => ∃ name, clauses = [.limit (.parameter name)] ∧ parameters.get? name = some limit

theorem emitLimit_limits (limit : Option Value) :
    Ensures (emitLimit limit) fun clauses parameters => LimitedTo parameters clauses limit := by
  cases limit with
  | none => exact .pure fun _ => rfl
  | some limit =>
      refine .bind (.bindValue _ _) fun parameter => .pure fun _ held => ?_
      obtain ⟨name, rfl, held⟩ := held
      exact ⟨name, rfl, held⟩

mutual

/-- Every clause of a field answers one row. -/
theorem emitField_gathers (source : String) : (plan : FieldPlan) →
    Ensures (emitField features source plan) fun answer _ =>
      ∀ clause ∈ answer.1, clause.gathers = true
  | .property _ _ => .pure fun _ _ member => absurd member List.not_mem_nil
  | .related _ step fields => by
      refine .bind (.newName step.field) fun target => ?_
      refine .bind (.newName "var") fun result => ?_
      refine .bind (emitFields_gathers target fields) fun nested => ?_
      refine .pure fun _ _ _ _ clause member => ?_
      rw [List.mem_singleton.mp member, ← List.cons_append]
      refine gathers_of_answer _ _ ?_
      cases step.isList <;> rfl
  | .connection _ step page sets => by
      refine .bind (emitStart_starts page.start) fun start => ?_
      refine .bind (.newName "edge") fun edge => ?_
      refine .bind (.newName step.field) fun target => ?_
      refine .bind (.newName "edges") fun edges => ?_
      refine .bind (emitLimit_limits page.limit) fun limit => ?_
      refine .bind (emitSets_gathers edge target sets) fun nested => ?_
      refine .bind (emitPrevious_gathers features source step start) fun before => ?_
      refine .pure fun _ gathering _ _ _ _ _ _ clause member => ?_
      rcases List.mem_cons.mp member with rfl | later
      · exact gathers_of_answer _ _ rfl
      · exact gathering clause later

theorem emitFields_gathers (source : String) : (plans : List FieldPlan) →
    Ensures (emitFields features source plans) fun answer _ =>
      ∀ clause ∈ answer.1, clause.gathers = true
  | [] => .pure fun _ _ member => absurd member List.not_mem_nil
  | plan :: rest => by
      refine .bind (emitField_gathers source plan) fun _ => ?_
      refine .bind (emitFields_gathers source rest) fun _ => ?_
      refine .pure fun _ others first clause member => ?_
      rcases List.mem_append.mp member with here | later
      · exact first clause here
      · exact others clause later

theorem emitSets_gathers (edge target : String) : (sets : List EdgeSetPlan) →
    Ensures (emitSets features edge target sets) fun answer _ =>
      (∀ clause ∈ answer.1, clause.gathers = true) ∧
        answer.2.map Prod.fst = sets.map EdgeSetPlan.key
  | [] => .pure fun _ => ⟨fun _ member => absurd member List.not_mem_nil, rfl⟩
  | .mk _ fields :: rest => by
      refine .bind (emitEdges_gathers edge target fields) fun _ => ?_
      refine .bind (emitSets_gathers edge target rest) fun _ => ?_
      refine .pure fun _ others first => ⟨fun clause member => ?_, ?_⟩
      · rcases List.mem_append.mp member with here | later
        · exact first clause here
        · exact others.1 clause later
      · rw [List.map_cons, List.map_cons, others.2, EdgeSetPlan.key]

theorem emitEdges_gathers (edge target : String) : (plans : List EdgePlan) →
    Ensures (emitEdges features edge target plans) fun answer _ =>
      ∀ clause ∈ answer.1, clause.gathers = true
  | [] => .pure fun _ _ member => absurd member List.not_mem_nil
  | .property _ _ :: rest => by
      refine .bind (emitEdges_gathers edge target rest) fun _ => ?_
      exact .pure fun _ others => others
  | .node _ fields :: rest => by
      refine .bind (emitFields_gathers target fields) fun _ => ?_
      refine .bind (emitEdges_gathers edge target rest) fun _ => ?_
      refine .pure fun _ others first clause member => ?_
      rcases List.mem_append.mp member with here | later
      · exact first clause here
      · exact others clause later

end

/-- The scene of clauses about the node under a variable. -/
def sceneOf (source : String) (relationships : Relationships) (parameters : Entries Value) : Scene :=
  { source, relationships, numbered := features.sequenceProperty, parameters }

/-- The relationship of a step's pattern. -/
def Step.toward (step : Step) (source name target : String) : RelationshipPattern where
  source := source
  direction := step.direction
  name := name
  label := step.label
  target := { name := target, label := some step.target }

theorem Step.pattern_eq (step : Step) (source name target : String) :
    step.pattern source name target = .relationship (step.toward source name target) := rfl

/-- The relationships of a step. -/
def Step.numbers (step : Step) (relationships : Relationships) : List Nat :=
  relationships step.direction step.label (some step.target)

/-- The map of a relationship with some number. -/
def rowOf (number : Nat) : Value := .object [(sequenceKey, .int number)]

/-- The answer to the question whether a relationship stands at a start or before it. -/
def previousOf (name : String) (start : Option Int) (numbers : List Nat) :
    List (String × Value) :=
  match start with
  | none => []
  | some _ => [(name, .bool (hasBefore start numbers))]

/-- Where that answer stands. -/
def previousEntry (name : String) : Option Int → Expression
  | none => .no
  | some _ => .variable name

theorem emitPrevious_answers (source : String) (step : Step) (start : Option Int)
    (parameter : Option Expression) :
    Ensures (emitPrevious features source step parameter) fun answer parameters =>
      StartsAt parameters start parameter → ∀ relationships, ∃ number,
        answer.1.mapM (sceneOf features source relationships parameters).answer? =
            some (previousOf (numbered "previous" number) start (step.numbers relationships)) ∧
          answer.2 = previousEntry (numbered "previous" number) start := by
  cases parameter with
  | none =>
      refine .pure fun parameters starts relationships => ⟨0, ?_⟩
      cases start with
      | none => exact ⟨rfl, rfl⟩
      | some key => exact absurd starts id
  | some parameter =>
      refine .bind (.newName "edge") fun edge => ?_
      refine .bind (.newName "previous") fun previous => ?_
      refine .pure fun parameters named _ starts relationships => ?_
      obtain ⟨number, rfl⟩ := named
      refine ⟨number, ?_⟩
      cases start with
      | none => exact absurd starts id
      | some key =>
          obtain ⟨name, rfl, held⟩ := starts
          have own : (step.toward source edge "").source = source := rfl
          have counted := (sceneOf features source relationships parameters).answer?_counted own
            held (numbered "previous" number)
          refine ⟨?_, rfl⟩
          rw [List.mapM_cons, step.pattern_eq, previousOf, hasBefore_some]
          exact congrArg (· >>= fun first => pure [first]) counted

section

variable (scene : Scene) {start : Option Int} {parameter : Option Expression}

/-- The conditions of a page hold of the numbers behind its start. -/
theorem kept?_beyond (edge : String) (starts : StartsAt scene.parameters start parameter)
    (numbers : List Nat) :
    scene.kept? edge numbers (.isPresent (.property edge scene.numbered) ::
        (parameter.map (.compare .above (.property edge scene.numbered) ·)).toList) =
      some (numbers.filter (isBeyond start)) := by
  rw [Scene.kept?, List.mapM_cons, Scene.test?_isPresent]
  cases start with
  | none =>
      cases parameter with
      | none => simp [isBeyond_none]
      | some parameter => exact absurd starts id
  | some key =>
      cases parameter with
      | none => exact absurd starts id
      | some parameter =>
          obtain ⟨name, rfl, held⟩ := starts
          rw [Option.map_some, Option.toList_some, List.mapM_cons,
            Scene.test?_compare scene edge .above held]
          simp [isBeyond_some, Comparison.holds]

/-- The rows of a page are the least numbers behind its start, as many as its limit allows. -/
theorem flow?_page (edge target : String) (starts : StartsAt scene.parameters start parameter)
    {limit : Option Int} {limiting : List Clause}
    (limited : LimitedTo scene.parameters limiting (limit.map .int)) {nested : List Clause}
    (gathering : ∀ clause ∈ nested, clause.gathers = true) (numbers : List Nat)
    (column : Column) :
    scene.flow? edge numbers
        ([.filter (.isPresent (.property edge scene.numbered) ::
            (parameter.map (.compare .above (.property edge scene.numbered) ·)).toList),
          .carry [.kept edge, .kept target], .order (.property edge scene.numbered)] ++ limiting ++
            nested ++ [.answer [column]]) =
      some (upTo limit (remaining start numbers), column) := by
  have last : ∀ rows, scene.flow? edge rows (nested ++ [.answer [column]]) = some (rows, column) := by
    intro rows
    rw [Scene.flow?_gathering scene gathering, Scene.flow?]
  have limited : ∀ rows, scene.flow? edge rows (limiting ++ (nested ++ [.answer [column]])) =
      some (upTo limit rows, column) := by
    intro rows
    cases limit with
    | none =>
        have none_ : limiting = [] := limited
        rw [none_, List.nil_append, last]
        rfl
    | some most =>
        obtain ⟨name, rfl, held⟩ := limited
        rw [List.cons_append, List.nil_append, Scene.flow?, held]
        exact last _
  have kept : [Column.kept edge, Column.kept target].any (Column.keeps edge) = true := by
    simp [Column.kept, Column.keeps]
  rw [List.append_assoc, List.append_assoc, List.cons_append, List.cons_append, List.cons_append,
    List.nil_append, Scene.flow?, kept?_beyond scene edge starts, Option.bind_eq_bind,
    Option.bind_some, Scene.flow?, if_pos kept, Scene.flow?, if_pos ⟨rfl, rfl⟩, limited]
  rfl

/-- The subquery of a page collects its rows, unless edges hide their order. -/
theorem answer?_page {pattern : RelationshipPattern} (own : pattern.source = scene.source)
    (target : String) (starts : StartsAt scene.parameters start parameter)
    {limit : Option Int} {limiting : List Clause}
    (limited : LimitedTo scene.parameters limiting (limit.map .int)) {nested : List Clause}
    (gathering : ∀ clause ∈ nested, clause.gathers = true) {entries : MapEntries}
    (apart : sequenceKey ∉ entries.map Prod.fst) (result : String) :
    scene.answer? (.subquery [scene.source] (.find (.relationship pattern) ::
        ([.filter (.isPresent (.property pattern.name scene.numbered) ::
            (parameter.map (.compare .above (.property pattern.name scene.numbered) ·)).toList),
          .carry [.kept pattern.name, .kept target],
          .order (.property pattern.name scene.numbered)] ++ limiting ++ nested ++
        [.answer [.as (.collect (.map ((sequenceKey, .property pattern.name scene.numbered) ::
          entries))) result]]))) =
      some (result, .list ((upTo limit (remaining start (scene.relationships pattern.direction
        pattern.label pattern.target.label))).map rowOf)) := by
  rw [Scene.answer?, Scene.found?_own scene own, Option.bind_eq_bind, Option.bind_some,
    flow?_page scene pattern.name target starts limited gathering, Option.bind_eq_bind,
    Option.bind_some]
  exact scene.collected?_alone apart _ result

end

theorem emitFields_singleton (source : String) (plan : FieldPlan) :
    emitFields features source [plan] = emitField features source plan := by
  funext supply
  change (((emitField features source plan supply).1.1 ++ [],
    (emitField features source plan supply).1.2 ++ []), (emitField features source plan supply).2) = _
  rw [List.append_nil, List.append_nil]
  rfl

/-- Clauses that answer a page and whether something stands before it, and the map of both. -/
def AnswersPage (source key : String) (step : Step) (page : Page)
    (emitted : List Clause × MapEntries) (parameters : Entries Value) : Prop :=
  ∀ limit : Option Int, page.limit = limit.map .int → ∀ relationships, ∃ edges previous,
    edges ≠ previous ∧
    emitted.1.mapM (sceneOf features source relationships parameters).answer? =
      some ((edges, .list ((upTo limit (remaining page.start (step.numbers relationships))).map
        rowOf)) :: previousOf previous page.start (step.numbers relationships)) ∧
    emitted.2 = [(key, .map [(edgesKey, .variable edges),
      (hasPreviousKey, previousEntry previous page.start)])]

theorem emitConnection_answers (source key : String) (step : Step) (page : Page)
    {sets : List EdgeSetPlan} (apart : sequenceKey ∉ sets.map EdgeSetPlan.key) :
    Ensures (emitField features source (.connection key step page sets))
      (AnswersPage features source key step page) := by
  refine .bind (emitStart_starts page.start) fun start => ?_
  refine .bind (.newName "edge") fun edge => ?_
  refine .bind (.newName step.field) fun target => ?_
  refine .bind (.newName "edges") fun edges => ?_
  refine .bind (emitLimit_limits page.limit) fun limiting => ?_
  refine .bind (emitSets_gathers features edge target sets) fun nested => ?_
  refine .bind (emitPrevious_answers features source step page.start start) fun before => ?_
  refine .pure fun parameters previous gathering limited named _ _ starts limit same relationships => ?_
  obtain ⟨first, rfl⟩ := named
  obtain ⟨second, answered, entry⟩ := previous starts relationships
  rw [same] at limited
  refine ⟨numbered "edges" first, numbered "previous" second, ?_, ?_, ?_⟩
  · intro alike
    exact absurd (base_eq_of_numbered_eq alike) (by decide)
  · rw [List.mapM_cons, answered]
    have own : (step.toward source edge target).source = source := rfl
    have collected := answer?_page (sceneOf features source relationships parameters) own target
      starts limited gathering.1 (gathering.2 ▸ apart) (numbered "edges" first)
    rw [step.pattern_eq]
    exact congrArg (· >>= fun first => pure (first :: previousOf _ _ _)) collected
  · rw [← entry]

end

/-- A map that has the number of a relationship. -/
def IsRow (row : Value) (number : Nat) : Prop := HasEntriesOf row (rowOf number)

theorem isRow_rowOf (number : Nat) : IsRow (rowOf number) number :=
  ⟨_, rfl, fun _ _ found => found⟩

/-- An answer that fits the rows of a page has a row for each of them, in any order. -/
theorem rows_of_fits {answer : Value} {numbers : List Nat}
    (fits : Fits answer (.list (numbers.map rowOf))) :
    ∃ items shuffled, answer = .list items ∧ List.Forall₂ IsRow items shuffled ∧
      shuffled.Perm numbers := by
  cases fits with
  | same =>
      refine ⟨numbers.map rowOf, numbers, rfl, ?_, .refl _⟩
      rw [List.forall₂_map_left_iff, List.forall₂_same]
      exact fun number _ => isRow_rowOf number
  | collected order each =>
      rename_i items known
      have mapped : List.Forall₂ (fun row number => row = rowOf number) (numbers.map rowOf)
          numbers := by
        rw [List.forall₂_map_left_iff, List.forall₂_same]
        exact fun _ _ => rfl
      obtain ⟨shuffled, related, perm⟩ := List.perm_comp_forall₂ order mapped
      have same : known = shuffled.map rowOf := by
        clear order each perm mapped
        induction related with
        | nil => rfl
        | cons first _ ih => rw [List.map_cons, first, ih]
      rw [same, List.forall₂_map_right_iff] at each
      exact ⟨items, shuffled, rfl, each, perm⟩

theorem eq_of_fits_bool {answer : Value} {flag : Bool} (fits : Fits answer (.bool flag)) :
    answer = .bool flag := by
  cases fits
  rfl

/-- The two keys of the map of a connection are different. -/
theorem ofPairs_connection (edges previous : Value) :
    Entries.ofPairs [(edgesKey, edges), (hasPreviousKey, previous)] =
      [(edgesKey, edges), (hasPreviousKey, previous)] :=
  Entries.ofPairs_eq (show [edgesKey, hasPreviousKey].Nodup by decide)

/-- The map that is answered for a connection. -/
theorem map_of_admits {scene : Scene} {clauses : List Clause} {key edges previous : String}
    {start : Option Int} {page numbers : List Nat} {raw : Value} (apart : edges ≠ previous)
    (answered : clauses.mapM scene.answer? =
      some ((edges, .list (page.map rowOf)) :: previousOf previous start numbers))
    (admits : scene.Admits clauses [(key, .map [(edgesKey, .variable edges),
      (hasPreviousKey, previousEntry previous start)])] raw) :
    ∃ items shuffled, List.Forall₂ IsRow items shuffled ∧ shuffled.Perm page ∧
      raw = .object [(key, .object [(edgesKey, .list items),
        (hasPreviousKey, .bool (hasBefore start numbers))])] := by
  obtain ⟨given, fitting, valued⟩ := admits _ answered
  cases fitting with
  | cons first rest =>
      rename_i head tail
      obtain ⟨name, value⟩ := head
      obtain ⟨rfl, fits⟩ := first
      obtain ⟨items, shuffled, rfl, rows, perm⟩ := rows_of_fits fits
      refine ⟨items, shuffled, rows, perm, valued _ ?_⟩
      cases start with
      | none =>
          cases rest
          rw [hasBefore_none]
          simp [Expression.valueIn, Expression.entriesIn, previousEntry, Entries.get?_cons,
            ofPairs_connection]
      | some start =>
          cases rest with
          | cons second nothing =>
              rename_i before others
              cases nothing
              obtain ⟨name, value⟩ := before
              obtain ⟨rfl, fits⟩ := second
              obtain rfl := eq_of_fits_bool fits
              simp [Expression.valueIn, Expression.entriesIn, previousEntry, Entries.get?_cons, apart,
                ofPairs_connection]

end GraphGateway.Statement

/-!
The page that is read from fetched relationships.  Whatever order they come in, the page has those
with the least numbers, each with the cursor of its number.
-/
namespace GraphGateway.Statement

open Cypher (HasEntriesOf)
open Paging (CursorCodec IsShort PageInfo)
open Request

theorem IsRow.entryAt {row : Value} {number : Nat} (shown : IsRow row number) :
    entryAt sequenceKey row = .ok (.int number) := by
  obtain ⟨entries, rfl, has⟩ := shown
  have found := has sequenceKey (.int number) (by
    rw [rowOf, Value.get?_object, Entries.get?_cons, if_pos rfl])
  simp only [Statement.entryAt, found]

/-- The edges of a page have the numbers of some relationships and their cursors. -/
def PageOfEdges.Shows (codec : CursorCodec) (issuer : String) (page : PageOfEdges)
    (numbers : List Nat) : Prop :=
  List.Forall₂ (fun edge number => IsRow edge.1 number ∧
    edge.2 = codec.encodePosition ⟨number, issuer⟩) page.edges numbers

/-- A row with its key, which is the number of a relationship. -/
def IsKeyed (keyed : Value × Value) (number : Nat) : Prop :=
  keyed.1 = .int number ∧ IsRow keyed.2 number

theorem IsRow.keyedEdge {row : Value} {number : Nat} (shown : IsRow row number) :
    ∃ keyed, keyedEdge row = .ok keyed ∧ IsKeyed keyed number := by
  refine ⟨(.int number, row), ?_, rfl, shown⟩
  rw [Statement.keyedEdge, shown.entryAt]
  rfl

/-- The number of a key. -/
def rankOf : Value → Int
  | .int number => number
  | _ => 0

/-- What has the number of an item for its key is sorted as the items are by their numbers. -/
theorem sortedBy_related {α : Type} {relation : Value × Value → α → Prop} (number : α → Nat)
    (keys : ∀ keyed item, relation keyed item → keyed.1 = .int (number item))
    {keyed : List (Value × Value)} {items : List α} (related : List.Forall₂ relation keyed items) :
    ∃ sorted arranged, sortedBy keyed = .ok sorted ∧ List.Forall₂ relation sorted arranged ∧
      arranged.Perm items ∧
      arranged.Pairwise fun first second => number first ≤ number second := by
  have ranked : Value.Ranked rankOf keyed := by
    intro first firstMember second secondMember
    obtain ⟨one, -, oneRelated⟩ := Outcome.partner_of_mem related firstMember
    obtain ⟨other, -, otherRelated⟩ := Outcome.partner_of_mem related secondMember
    rw [keys _ _ oneRelated, keys _ _ otherRelated, Value.less?_int]
    rfl
  obtain ⟨sorted, done, perm, ordered⟩ := Value.sortBy?_spec ranked
  obtain ⟨arranged, arrangedRelated, arrangedPerm⟩ := List.perm_comp_forall₂ perm related
  refine ⟨sorted, arranged, by unfold sortedBy; rw [done], arrangedRelated, arrangedPerm, ?_⟩
  clear done perm arrangedPerm
  induction arrangedRelated with
  | nil => exact List.Pairwise.nil
  | cons first rest ih =>
      obtain ⟨least, later⟩ := List.pairwise_cons.mp ordered
      refine List.pairwise_cons.mpr ⟨?_, ih later⟩
      intro item member
      obtain ⟨keyedItem, inside, itemRelated⟩ := Outcome.partner_of_mem_others rest member
      have bound := least keyedItem inside
      rw [keys _ _ first, keys _ _ itemRelated] at bound
      exact Int.ofNat_le.mp bound

/-- Rows are sorted by the numbers of their relationships. -/
theorem sortedBy_keyed {keyed : List (Value × Value)} {shuffled numbers : List Nat}
    (related : List.Forall₂ IsKeyed keyed shuffled) (order : shuffled.Perm numbers)
    (ascending : numbers.Pairwise (· ≤ ·)) :
    ∃ sorted, sortedBy keyed = .ok sorted ∧ List.Forall₂ IsKeyed sorted numbers := by
  obtain ⟨sorted, arranged, done, sortedRelated, perm, arrangedAscending⟩ :=
    sortedBy_related id (fun _ _ has => has.1) related
  have same : arranged = numbers := (perm.trans order).eq_of_pairwise
    (fun _ _ _ _ one other => Nat.le_antisymm one other) arrangedAscending ascending
  rw [same] at sortedRelated
  exact ⟨sorted, done, sortedRelated⟩

theorem mem_of_mem_pageOfSize {α : Type} {size : Option Int} {edges : List α} {edge : α}
    (member : edge ∈ pageOfSize size edges) : edge ∈ edges := by
  unfold pageOfSize at member
  split at member
  · exact member
  · split at member <;> exact List.mem_of_mem_take member

/-- A keyed edge with the cursor of its key. -/
def withCursor (codec : CursorCodec) (issuer : String) (keyed : Value × Value) :
    Except Failure (Value × String) :=
  match codec.encode keyed.1 (.text issuer) with
  | .ok cursor => .ok (keyed.2, cursor)
  | .error fault => .error (.orderingKey fault)

theorem IsKeyed.withCursor {keyed : Value × Value} {number : Nat} (has : IsKeyed keyed number)
    (codec : CursorCodec) (issuer : String) (short : IsShort number) :
    ∃ edge, withCursor codec issuer keyed = .ok edge ∧
      IsRow edge.1 number ∧ edge.2 = codec.encodePosition ⟨number, issuer⟩ := by
  refine ⟨(keyed.2, codec.encodePosition ⟨number, issuer⟩), ?_, has.2, rfl⟩
  rw [Statement.withCursor, has.1, codec.encode_natural issuer short]

/-- The page of some size among fetched rows has the first of their numbers in order. -/
theorem readPage_rows (codec : CursorCodec) (issuer : String) {items : List Value}
    {shuffled numbers : List Nat} (rows : List.Forall₂ IsRow items shuffled)
    (order : shuffled.Perm numbers) (ascending : numbers.Pairwise (· ≤ ·))
    (short : ∀ number ∈ numbers, IsShort number) (size : Nat) (before : Bool) :
    ∃ page, readPage codec (.object [(edgesKey, .list items), (hasPreviousKey, .bool before)])
        issuer (.int size) = .ok page ∧
      page.Shows codec issuer (numbers.take size) ∧
      page.info = .ofPage (page.edges.map Prod.snd) numbers.length (some (size : Int)) before := by
  obtain ⟨keyed, keys, related⟩ := Outcome.mapM_ok_of_related rows
    fun row number _ shown => shown.keyedEdge
  obtain ⟨sorted, done, sortedRelated⟩ := sortedBy_keyed related order ascending
  have taken : List.Forall₂ IsKeyed (pageOfSize (some (size : Int)) sorted) (numbers.take size) := by
    have natural : ¬(size : Int) < 0 := by omega
    unfold pageOfSize
    dsimp only
    rw [if_neg natural, Int.toNat_natCast]
    exact List.forall₂_take size sortedRelated
  obtain ⟨edges, each, shown⟩ := Outcome.mapM_ok_of_related taken
    fun keyed number member has =>
      has.withCursor codec issuer (short number (List.mem_of_mem_take member))
  have fetched : entryAt edgesKey
      (.object [(edgesKey, .list items), (hasPreviousKey, .bool before)]) = .ok (.list items) := rfl
  have previous : entryAt hasPreviousKey
      (.object [(edgesKey, .list items), (hasPreviousKey, .bool before)]) = .ok (.bool before) := rfl
  have length : sorted.length = numbers.length := sortedRelated.length_eq
  refine ⟨⟨edges, .ofPage (edges.map Prod.snd) sorted.length (some (size : Int)) before⟩, ?_,
    shown, by rw [length]⟩
  unfold readPage
  refine Outcome.bind_ok_iff.mpr ⟨_, fetched, ?_⟩
  refine Outcome.bind_ok_iff.mpr ⟨_, rfl, ?_⟩
  refine Outcome.bind_ok_iff.mpr ⟨_, keys, ?_⟩
  refine Outcome.bind_ok_iff.mpr ⟨_, done, ?_⟩
  refine Outcome.bind_ok_iff.mpr ⟨_, rfl, ?_⟩
  refine Outcome.bind_ok_iff.mpr ⟨_, each, ?_⟩
  exact Outcome.bind_ok_iff.mpr ⟨_, previous, rfl⟩

end GraphGateway.Statement
