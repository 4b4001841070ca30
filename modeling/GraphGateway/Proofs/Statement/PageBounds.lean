import GraphGateway.Proofs.Statement.Effect

/-!
What bounds the pages of a statement.  Each page that is read has a subquery of its own, whose limit
and whose start are parameters; the test for an earlier edge stands right behind it and compares with
the same start.  Nothing else in a statement is a page.
-/
namespace GraphGateway.Cypher

def Clause.isOrder : Clause → Bool
  | .order _ => true
  | _ => false

/-- The counts that limit the rows of some clauses themselves. -/
def Clause.limitsOf (clauses : List Clause) : List Expression :=
  clauses.filterMap fun
    | .limit count => some count
    | _ => none

/-- The comparisons of one kind by which some clauses themselves filter. -/
def Clause.comparisonsOf (relation : Comparison) (clauses : List Clause) : List Expression :=
  clauses.flatMap fun
    | .filter conditions => conditions.filter fun
        | .compare other _ _ => other == relation
        | _ => false
    | _ => []

/-- What bounds a page in a statement: its limits, what its edges stand above, and what the test
for an earlier edge compares. -/
structure PageBounds where
  limits : List Expression
  seeks : List Expression
  tests : List Expression

/-- The comparisons of a test for an earlier edge, which stands right behind the page. -/
def Clause.testsOf : Option Clause → List Expression
  | some (.subquery _ body) => comparisonsOf .atMost body
  | _ => []

/-- The page that a subquery is, if it has an order. -/
def Clause.pageOf (body : List Clause) (next : Option Clause) : List PageBounds :=
  if body.any isOrder then [⟨limitsOf body, comparisonsOf .above body, testsOf next⟩] else []

mutual

/-- The bounds of the pages in a clause with another behind it. -/
def Clause.pageBounds (next : Option Clause) : Clause → List PageBounds
  | .subquery _ body => pageOf body next ++ Clause.pageBoundsOf body
  | _ => []

/-- The bounds of the pages in some clauses, outer ones first. -/
def Clause.pageBoundsOf : List Clause → List PageBounds
  | [] => []
  | clause :: rest => clause.pageBounds rest.head? ++ Clause.pageBoundsOf rest

end

section

variable {clauses rest : List Clause}

@[simp] theorem Clause.limitsOf_append :
    limitsOf (clauses ++ rest) = limitsOf clauses ++ limitsOf rest :=
  List.filterMap_append

@[simp] theorem Clause.comparisonsOf_append {relation : Comparison} :
    comparisonsOf relation (clauses ++ rest) =
      comparisonsOf relation clauses ++ comparisonsOf relation rest :=
  List.flatMap_append

/-- Whether a clause is a subquery, which has its own limits and filters. -/
def Clause.isSubquery : Clause → Bool
  | .subquery _ _ => true
  | _ => false

theorem Clause.limitsOf_subqueries (each : ∀ clause ∈ clauses, clause.isSubquery = true) :
    limitsOf clauses = [] := by
  refine List.filterMap_eq_nil_iff.mpr fun clause member => ?_
  have nested := each clause member
  cases clause <;> first | rfl | cases nested

theorem Clause.comparisonsOf_subqueries (relation : Comparison)
    (each : ∀ clause ∈ clauses, clause.isSubquery = true) :
    comparisonsOf relation clauses = [] := by
  refine List.flatMap_eq_nil_iff.mpr fun clause member => ?_
  have nested := each clause member
  cases clause <;> first | rfl | cases nested

theorem Clause.unordered_subqueries (each : ∀ clause ∈ clauses, clause.isSubquery = true) :
    clauses.any isOrder = false := by
  refine List.any_eq_false.mpr fun clause member => ?_
  have nested := each clause member
  cases clause <;> first | exact Bool.false_ne_true | cases nested

theorem Clause.pageBoundsOf_plain {clause : Clause} (plain : clause.isSubquery = false) :
    pageBoundsOf (clause :: rest) = pageBoundsOf rest := by
  cases clause <;> first | rfl | cases plain

/-- Clauses with no test in front end the pages before them. -/
theorem Clause.pageBoundsOf_append (plain : testsOf rest.head? = []) :
    pageBoundsOf (clauses ++ rest) = pageBoundsOf clauses ++ pageBoundsOf rest := by
  induction clauses with
  | nil => rfl
  | cons clause others ih =>
      have front : clause.pageBounds (others ++ rest).head? = clause.pageBounds others.head? := by
        cases others with
        | cons next later => rfl
        | nil =>
            cases clause with
            | subquery imports body =>
                rw [List.nil_append, pageBounds, pageBounds, pageOf, pageOf, plain]
                rfl
            | _ => rfl
      rw [List.cons_append, pageBoundsOf, pageBoundsOf, front, ih, List.append_assoc]

/-- Clauses that have neither an order nor a page. -/
structure Clause.IsUnpaged (clauses : List Clause) : Prop where
  unordered : clauses.any isOrder = false
  none_ : pageBoundsOf clauses = []

namespace Clause.IsUnpaged

theorem nil : Clause.IsUnpaged [] := ⟨rfl, rfl⟩

theorem plain {clause : Clause} (single : clause.isSubquery = false)
    (unordered : clause.isOrder = false) (others : Clause.IsUnpaged rest) :
    Clause.IsUnpaged (clause :: rest) where
  unordered := by rw [List.any_cons, unordered, others.unordered, Bool.or_self]
  none_ := (pageBoundsOf_plain single).trans others.none_

theorem subquery {imports : List String} (inner : Clause.IsUnpaged clauses)
    (others : Clause.IsUnpaged rest) : Clause.IsUnpaged (.subquery imports clauses :: rest) where
  unordered := others.unordered
  none_ := by
    rw [pageBoundsOf, pageBounds, pageOf, inner.unordered, inner.none_, others.none_]
    rfl

/-- Behind clauses without pages all pages stay. -/
theorem pageBoundsOf_append (unpaged : Clause.IsUnpaged clauses) :
    pageBoundsOf (clauses ++ rest) = pageBoundsOf rest := by
  obtain ⟨-, none_⟩ := unpaged
  induction clauses with
  | nil => rfl
  | cons clause others ih =>
      rw [pageBoundsOf, List.append_eq_nil_iff] at none_
      have front : clause.pageBounds (others ++ rest).head? = [] := by
        cases clause with
        | subquery imports body =>
            have inside := none_.1
            rw [pageBounds, List.append_eq_nil_iff, pageOf] at inside
            rw [pageBounds, inside.2, List.append_nil, pageOf]
            split
            · next ordered =>
              rw [if_pos ordered] at inside
              cases inside.1
            · rfl
        | _ => rfl
      rw [List.cons_append, pageBoundsOf, front, List.nil_append, ih none_.2]

theorem append (unpaged : Clause.IsUnpaged clauses) (others : Clause.IsUnpaged rest) :
    Clause.IsUnpaged (clauses ++ rest) where
  unordered := by rw [List.any_append, unpaged.unordered, others.unordered, Bool.or_self]
  none_ := unpaged.pageBoundsOf_append.trans others.none_

theorem filtering (conditions : List Expression) : Clause.IsUnpaged (filtering conditions) := by
  unfold Clause.filtering
  split
  · exact nil
  · exact plain rfl rfl nil

theorem setting (assignments : List (Expression × Expression)) :
    Clause.IsUnpaged (setting assignments) := by
  unfold Clause.setting
  split
  · exact nil
  · exact plain rfl rfl nil

end Clause.IsUnpaged

end

end GraphGateway.Cypher

namespace GraphGateway.Statement

open Cypher Request Schema
open Naming (Ensures Holds)

mutual

/-- The pages of a plan, outer ones first. -/
def FieldPlan.pages : FieldPlan → List Page
  | .property _ _ => []
  | .related _ _ fields => FieldPlan.pagesOf fields
  | .connection _ _ page sets => page :: EdgeSetPlan.pagesOf sets

def FieldPlan.pagesOf : List FieldPlan → List Page
  | [] => []
  | field :: rest => field.pages ++ FieldPlan.pagesOf rest

def EdgeSetPlan.pagesOf : List EdgeSetPlan → List Page
  | [] => []
  | .mk _ fields :: rest => EdgePlan.pagesOf fields ++ EdgeSetPlan.pagesOf rest

def EdgePlan.pagesOf : List EdgePlan → List Page
  | [] => []
  | .property _ _ :: rest => EdgePlan.pagesOf rest
  | .node _ fields :: rest => FieldPlan.pagesOf fields ++ EdgePlan.pagesOf rest

end

def Plan.pages : Plan → List Page
  | .list _ _ fields => FieldPlan.pagesOf fields
  | .lookup _ variants => variants.flatMap fun variant => FieldPlan.pagesOf variant.fields
  | .create _ response => response.flatMap fun entry => FieldPlan.pagesOf entry.2
  | .update _ _ _ _ _ response => response.flatMap fun entry => FieldPlan.pagesOf entry.2

theorem FieldPlan.pagesOf_append (fields rest : List FieldPlan) :
    FieldPlan.pagesOf (fields ++ rest) = FieldPlan.pagesOf fields ++ FieldPlan.pagesOf rest := by
  induction fields with
  | nil => rfl
  | cons field others ih =>
      rw [List.cons_append, FieldPlan.pagesOf, FieldPlan.pagesOf, ih, List.append_assoc]

/-- What bounds a page in a statement: one parameter for its limit, and one for the position that its
edges stand above and that the test for an earlier edge compares with. -/
structure Page.IsRead (sequence : String) (parameters : Entries Value) (page : Page)
    (bounds : PageBounds) : Prop where
  limits : ∃ count, Option.Rel (Holds · · parameters) page.limit count ∧
    bounds.limits = count.toList
  start : ∃ edge other position,
    Option.Rel (fun key position => Holds (.int key) position parameters) page.start position ∧
    bounds.seeks = (position.map (.compare .above (.property edge sequence) ·)).toList ∧
    bounds.tests = (position.map (.compare .atMost (.property other sequence) ·)).toList

/-- Subqueries that read some pages, in order. -/
structure ReadsPages (sequence : String) (parameters : Entries Value) (pages : List Page)
    (clauses : List Clause) : Prop where
  each : List.Forall₂ (Page.IsRead sequence parameters) pages (Clause.pageBoundsOf clauses)
  front : Clause.testsOf clauses.head? = []
  nested : ∀ clause ∈ clauses, clause.isSubquery = true

namespace ReadsPages

variable {sequence : String} {parameters : Entries Value} {pages others : List Page}
  {clauses rest : List Clause}

theorem nil : ReadsPages sequence parameters [] [] where
  each := .nil
  front := rfl
  nested _ none_ := absurd none_ List.not_mem_nil

theorem append (first : ReadsPages sequence parameters pages clauses)
    (second : ReadsPages sequence parameters others rest) :
    ReadsPages sequence parameters (pages ++ others) (clauses ++ rest) where
  each := by
    rw [Clause.pageBoundsOf_append second.front]
    exact List.rel_append first.each second.each
  front := by
    cases clauses with
    | nil => exact second.front
    | cons clause later => exact first.front
  nested := List.forall_mem_append.mpr ⟨first.nested, second.nested⟩

/-- What stands behind the subqueries of some pages bounds none of them. -/
theorem behind (reads : ReadsPages sequence parameters pages clauses)
    (front : Clause.testsOf rest.head? = []) (none_ : Clause.pageBoundsOf rest = []) :
    List.Forall₂ (Page.IsRead sequence parameters) pages (Clause.pageBoundsOf (clauses ++ rest)) := by
  rw [Clause.pageBoundsOf_append front, none_, List.append_nil]
  exact reads.each

/-- A subquery without an order reads the pages of its own subqueries. -/
theorem subquery (reads : ReadsPages sequence parameters pages clauses) {imports : List String}
    {pattern : Pattern} {columns : List Column} :
    ReadsPages sequence parameters pages
      [.subquery imports (.find pattern :: (clauses ++ [.answer columns]))] where
  each := by
    have unordered : (Clause.find pattern :: (clauses ++ [.answer columns])).any Clause.isOrder =
        false := by
      simp [Clause.isOrder, Clause.unordered_subqueries reads.nested]
    rw [Clause.pageBoundsOf, Clause.pageBounds, Clause.pageOf, unordered, Clause.pageBoundsOf_plain rfl]
    have each : List.Forall₂ (Page.IsRead sequence parameters) pages
        (Clause.pageBoundsOf (clauses ++ [.answer columns])) := reads.behind rfl rfl
    simpa [Clause.pageBoundsOf] using each
  front := by
    have inner := Clause.comparisonsOf_subqueries .atMost reads.nested
    change Clause.comparisonsOf .atMost ([.find pattern] ++ (clauses ++ [.answer columns])) = []
    rw [Clause.comparisonsOf_append, Clause.comparisonsOf_append, inner]
    rfl
  nested := List.forall_mem_singleton.mpr rfl

end ReadsPages

section

variable (features : Settings.Features)

theorem emitStart_holds (start : Option Int) :
    Ensures (emitStart start) fun answer parameters =>
      Option.Rel (fun key position => Holds (.int key) position parameters) start answer := by
  cases start with
  | none => exact .pure fun _ => .none
  | some key => exact .bind (.bindValue _ _) fun position => .pure fun _ held => .some held

theorem emitLimit_holds (limit : Option Value) :
    Ensures (emitLimit limit) fun clauses parameters => ∃ count,
      Option.Rel (Holds · · parameters) limit count ∧ clauses = (count.map Clause.limit).toList := by
  cases limit with
  | none => exact .pure fun _ => ⟨none, .none, rfl⟩
  | some limit =>
      exact .bind (.bindValue _ _) fun count => .pure fun _ held => ⟨some count, .some held, rfl⟩

/-- Subqueries that test for an edge at or before a position, if there is one. -/
structure TestsFor (sequence : String) (start : Option Expression) (clauses : List Clause) :
    Prop where
  inner : Clause.pageBoundsOf clauses = []
  nested : ∀ clause ∈ clauses, clause.isSubquery = true
  tests : ∃ other, Clause.testsOf clauses.head? =
    (start.map (.compare .atMost (.property other sequence) ·)).toList

theorem emitPrevious_tests (source : String) (step : Step) (start : Option Expression) :
    Ensures (emitPrevious features source step start) fun answer _ =>
      TestsFor features.sequenceProperty start answer.1 := by
  cases start with
  | none => exact .pure fun _ => ⟨rfl, List.forall_mem_nil _, "", rfl⟩
  | some position =>
      refine .bind (.newName _) fun edge => .bind (.newName _) fun previous => ?_
      exact .pure fun _ _ _ => ⟨rfl, List.forall_mem_singleton.mpr rfl, edge, rfl⟩

/-- The subquery of a connection, with the test for an earlier edge behind it, reads the page of the
connection and those below. -/
theorem ReadsPages.page {sequence : String} {parameters : Entries Value} {pages : List Page}
    {clauses tests : List Clause} (reads : ReadsPages sequence parameters pages clauses)
    {asked : Page} {start count : Option Expression}
    (started : Option.Rel (fun key position => Holds (.int key) position parameters) asked.start
      start)
    (limited : Option.Rel (Holds · · parameters) asked.limit count)
    (tested : TestsFor sequence start tests) {imports : List String} {pattern : Pattern}
    {edge : String} {carried columns : List Column} :
    ReadsPages sequence parameters (asked :: pages)
      (.subquery imports
        ([.find pattern, .filter (.isPresent (.property edge sequence) ::
            (start.map (.compare .above (.property edge sequence) ·)).toList),
          .carry carried, .order (.property edge sequence)] ++ (count.map Clause.limit).toList ++
          clauses ++ [.answer columns]) :: tests) := by
  have unpaged : Clause.IsUnpaged (count.map Clause.limit).toList := by
    cases count with
    | none => exact .nil
    | some count => exact .plain rfl rfl .nil
  have uncompared (relation : Comparison) :
      Clause.comparisonsOf relation (count.map Clause.limit).toList = [] := by
    cases count <;> rfl
  have counted : Clause.limitsOf (count.map Clause.limit).toList = count.toList := by
    cases count <;> rfl
  have compared (relation : Comparison) :=
    Clause.comparisonsOf_subqueries relation reads.nested
  obtain ⟨inner, nested, other, front⟩ := tested
  constructor
  · rw [Clause.pageBoundsOf, Clause.pageBounds, inner, List.append_nil, Clause.pageOf,
      if_pos (by simp [Clause.isOrder])]
    refine .cons ⟨⟨count, limited, ?_⟩, edge, other, start, started, ?_, front⟩ ?_
    · simp only [Clause.limitsOf_append, counted, Clause.limitsOf_subqueries reads.nested]
      simp [Clause.limitsOf]
    · simp only [Clause.comparisonsOf_append, uncompared, compared]
      cases start <;> rfl
    · simp only [List.cons_append, List.nil_append, List.append_assoc]
      rw [Clause.pageBoundsOf_plain rfl, Clause.pageBoundsOf_plain rfl,
        Clause.pageBoundsOf_plain rfl, Clause.pageBoundsOf_plain rfl, unpaged.pageBoundsOf_append]
      exact reads.behind rfl rfl
  · change Clause.comparisonsOf .atMost _ = []
    simp only [Clause.comparisonsOf_append, uncompared, compared]
    cases start <;> rfl
  · exact List.forall_mem_cons.mpr ⟨rfl, nested⟩

mutual

/-- The subqueries of a field read its pages. -/
theorem emitField_pages (source : String) : (plan : FieldPlan) →
    Ensures (emitField features source plan) fun answer parameters =>
      ReadsPages features.sequenceProperty parameters plan.pages answer.1
  | .property _ _ => .pure fun _ => .nil
  | .related _ step fields => by
      refine .bind (.newName step.field) fun target => ?_
      refine .bind (.newName "var") fun result => ?_
      refine .bind (emitFields_pages target fields) fun inner => ?_
      exact .pure fun parameters reads _ _ => reads.subquery
  | .connection _ step page sets => by
      refine .bind (emitStart_holds page.start) fun start => ?_
      refine .bind (.newName "edge") fun edge => ?_
      refine .bind (.newName step.field) fun target => ?_
      refine .bind (.newName "edges") fun _ => ?_
      refine .bind (emitLimit_holds page.limit) fun limit => ?_
      refine .bind (emitSets_pages edge target sets) fun nested => ?_
      refine .bind (emitPrevious_tests features source step start) fun previous => ?_
      refine .pure fun parameters tested reads ⟨count, limited, clauses⟩ _ _ _ started => ?_
      rw [clauses]
      exact reads.page started limited tested

theorem emitFields_pages (source : String) : (plans : List FieldPlan) →
    Ensures (emitFields features source plans) fun answer parameters =>
      ReadsPages features.sequenceProperty parameters (FieldPlan.pagesOf plans) answer.1
  | [] => .pure fun _ => .nil
  | plan :: rest => by
      refine .bind (emitField_pages source plan) fun _ => ?_
      refine .bind (emitFields_pages source rest) fun _ => ?_
      exact .pure fun _ others first => first.append others

theorem emitSets_pages (edge target : String) : (sets : List EdgeSetPlan) →
    Ensures (emitSets features edge target sets) fun answer parameters =>
      ReadsPages features.sequenceProperty parameters (EdgeSetPlan.pagesOf sets) answer.1
  | [] => .pure fun _ => .nil
  | .mk _ fields :: rest => by
      refine .bind (emitEdges_pages edge target fields) fun _ => ?_
      refine .bind (emitSets_pages edge target rest) fun _ => ?_
      exact .pure fun _ others first => first.append others

theorem emitEdges_pages (edge target : String) : (plans : List EdgePlan) →
    Ensures (emitEdges features edge target plans) fun answer parameters =>
      ReadsPages features.sequenceProperty parameters (EdgePlan.pagesOf plans) answer.1
  | [] => .pure fun _ => .nil
  | .property _ _ :: rest => by
      refine .bind (emitEdges_pages edge target rest) fun _ => ?_
      exact .pure fun _ others => others
  | .node _ fields :: rest => by
      refine .bind (emitFields_pages target fields) fun _ => ?_
      refine .bind (emitEdges_pages edge target rest) fun _ => ?_
      exact .pure fun _ others first => first.append others

end

theorem emitResponse_pages (response : ResponsePlan) :
    Ensures (emitResponse features response) fun answer parameters =>
      ReadsPages features.sequenceProperty parameters
        (response.flatMap fun entry => FieldPlan.pagesOf entry.2) answer.1 := by
  induction response with
  | nil => exact .pure fun _ => .nil
  | cons entry rest ih =>
      refine .bind (emitFields_pages features rootName entry.2) fun _ => .bind ih fun _ => ?_
      exact .pure fun _ others first => first.append others

theorem emitAnswer_pages (response : ResponsePlan) (columns : List String) :
    Ensures (emitAnswer features response columns) fun clauses parameters =>
      List.Forall₂ (Page.IsRead features.sequenceProperty parameters)
        (response.flatMap fun entry => FieldPlan.pagesOf entry.2) (Clause.pageBoundsOf clauses) := by
  refine .bind (emitResponse_pages features response) fun _ => ?_
  exact .pure fun _ reads => reads.behind rfl rfl

/-- Clauses of a union that read some pages. -/
structure ReadsBranch (sequence : String) (parameters : Entries Value) (pages : List Page)
    (clauses : List Clause) : Prop where
  each : List.Forall₂ (Page.IsRead sequence parameters) pages (Clause.pageBoundsOf clauses)
  front : Clause.testsOf clauses.head? = []
  unordered : clauses.any Clause.isOrder = false

theorem emitVariant_pages (id : Expression) (variant : VariantPlan) :
    Ensures (emitVariant features id variant) fun clauses parameters =>
      ReadsBranch features.sequenceProperty parameters (FieldPlan.pagesOf variant.fields)
        clauses := by
  refine .bind (emitFields_pages features rootName variant.fields) fun nested => ?_
  refine .pure fun parameters reads => ⟨?_, rfl, ?_⟩
  · simp only [List.cons_append, List.nil_append]
    rw [Clause.pageBoundsOf_plain rfl, Clause.pageBoundsOf_plain rfl]
    exact reads.behind rfl rfl
  · simp [Clause.isOrder, Clause.unordered_subqueries reads.nested]

/-- The clauses for the types that a node may be of read the pages of all of them. -/
theorem emitVariants_pages (id : Expression) (variants : List VariantPlan) :
    Ensures (emitVariants features id variants) fun clauses parameters =>
      ReadsBranch features.sequenceProperty parameters
        (variants.flatMap fun variant => FieldPlan.pagesOf variant.fields) clauses := by
  induction variants with
  | nil => exact .pure fun _ => ⟨.nil, rfl, rfl⟩
  | cons variant rest ih =>
      refine .bind (emitVariant_pages features id variant) fun first => .bind ih fun others => ?_
      refine .pure fun parameters later here => ?_
      have behind : ReadsBranch features.sequenceProperty parameters
          (rest.flatMap fun variant => FieldPlan.pagesOf variant.fields)
          ((if rest.isEmpty then [] else [.union]) ++ others) := by
        split
        · exact later
        · exact ⟨later.each, rfl, later.unordered⟩
      rw [List.append_assoc]
      refine ⟨?_, ?_, ?_⟩
      · rw [Clause.pageBoundsOf_append behind.front]
        exact List.rel_append here.each behind.each
      · cases first with
        | nil => exact behind.front
        | cons clause more => exact here.front
      · rw [List.any_append, here.unordered, behind.unordered, Bool.or_self]

/-- A relationship is created without any page. -/
theorem emitRelationship_unpaged (source : String) (step : Step) (target : String)
    (properties : List Assignment) :
    Ensures (emitRelationship features source step target properties) fun answer _ =>
      Clause.IsUnpaged answer.1 := by
  have draw : Ensures (emitDraw features step.label) fun answer _ =>
      Clause.IsUnpaged [answer.1] := by
    refine .bind (.newName "sequence") fun _ => .bind (.newName "seq") fun _ => ?_
    exact .bind (.bindValue _ "sequence_name") fun _ => .pure fun _ _ _ _ => ⟨rfl, rfl⟩
  refine .bind draw fun drawn => .bind (.newName "edge") fun edge => ?_
  refine .bind (emitAssignments_ensures edge properties) fun _ => .pure fun _ _ _ single => ?_
  exact single.append (.plain rfl rfl (.plain rfl rfl .nil))

theorem emitReport_unpaged (path edge count report : String) :
    Ensures (emitReport path edge count report) fun clauses _ => Clause.IsUnpaged clauses :=
  .bind (.bindValue _ _) fun _ => .pure fun _ _ => .plain rfl rfl (.plain rfl rfl .nil)

mutual

/-- A node is created without any page. -/
theorem emitNode_unpaged (name : String) (kept : List String) : (node : NodePlan) →
    Ensures (emitNode features name kept node) fun answer _ => Clause.IsUnpaged answer.1
  | .mk label identifier id properties entries => by
      refine .bind (emitIdentifier_ensures id) fun _ => ?_
      refine .bind (emitAssignments_ensures name properties) fun _ => ?_
      refine .bind (emitEntries_unpaged name entries) fun _ => .pure fun _ nested _ _ => ?_
      exact .plain rfl rfl (.plain rfl rfl (.plain rfl rfl nested))

theorem emitEntry_unpaged (source : String) : (entry : EntryPlan) →
    Ensures (emitEntry features source entry) fun answer _ =>
      ∃ body, answer.1 = .subquery [source] body ∧ Clause.IsUnpaged body
  | .create step properties node => by
      refine .bind (.newName "create") fun target => .bind (.newName "matches") fun _ => ?_
      refine .bind (emitNode_unpaged target [source] node) fun _ => ?_
      refine .bind (emitRelationship_unpaged features source step target properties) fun _ => ?_
      refine .pure fun _ related made _ _ => ⟨_, rfl, ?_⟩
      exact (made.append related).append (.plain rfl rfl .nil)
  | .connect step path filter properties => by
      refine .bind (.newName "connect") fun target => .bind (.newName "count") fun count => ?_
      refine .bind (.newName "matches") fun report => ?_
      refine .bind (emitConditions_ensures target filter) fun conditions => ?_
      refine .bind (emitRelationship_unpaged features source step target properties) fun made => ?_
      refine .bind (emitReport_unpaged path made.2 count report) fun _ => ?_
      refine .pure fun _ reported related _ _ _ _ => ⟨_, rfl, .plain rfl rfl ?_⟩
      exact ((Clause.IsUnpaged.filtering conditions).append related).append reported

theorem emitEntries_unpaged (source : String) : (entries : List EntryPlan) →
    Ensures (emitEntries features source entries) fun answer _ => Clause.IsUnpaged answer.1
  | [] => .pure fun _ => .nil
  | entry :: rest => by
      refine .bind (emitEntry_unpaged source entry) fun first => ?_
      refine .bind (emitEntries_unpaged source rest) fun others => ?_
      refine .pure fun _ later ⟨body, whole, inner⟩ => ?_
      dsimp only
      rw [whole]
      exact .subquery inner later

end

theorem emitConnectionUpdates_unpaged (source : String) (updates : List ConnectionUpdate) :
    Ensures (emitConnectionUpdates source updates) fun answer _ => Clause.IsUnpaged answer.1 := by
  induction updates with
  | nil => exact .pure fun _ => .nil
  | cons update rest ih =>
      have first : Ensures (emitConnectionUpdate source update) fun answer _ =>
          ∃ body, answer.1 = .subquery [source] body ∧ Clause.IsUnpaged body := by
        refine .bind (.newName "edge") fun edge => .bind (.newName "node") fun target => ?_
        refine .bind (.newName "count") fun count => .bind (.newName "matches") fun report => ?_
        refine .bind (emitConditions_ensures target update.filter) fun conditions => ?_
        refine .bind (emitAssignments_ensures edge update.properties) fun assignments => ?_
        refine .bind (emitReport_unpaged update.path edge count report) fun _ => ?_
        refine .pure fun _ reported _ _ _ _ _ _ => ⟨_, rfl, .plain rfl rfl ?_⟩
        exact ((Clause.IsUnpaged.filtering conditions).append
          (Clause.IsUnpaged.setting assignments)).append reported
      refine .bind first fun clause => .bind ih fun others => ?_
      refine .pure fun _ later ⟨body, whole, inner⟩ => ?_
      dsimp only
      rw [whole]
      exact .subquery inner later

theorem emitRoots_unpaged (index : Nat) (nodes : List NodePlan) :
    Ensures (emitRoots features index nodes) fun answer _ => Clause.IsUnpaged answer.1 := by
  induction nodes generalizing index with
  | nil => exact .pure fun _ => .nil
  | cons node rest ih =>
      refine .bind (emitNode_unpaged features _ [] node) fun _ => .bind (ih (index + 1)) fun _ => ?_
      exact .pure fun _ others made => .subquery (made.append (.plain rfl rfl .nil)) others

/-- The statement of a plan reads the pages of the plan, and no others. -/
theorem emit_pages (plan : Plan) :
    Ensures (plan.emit features) fun clauses parameters =>
      List.Forall₂ (Page.IsRead features.sequenceProperty parameters) plan.pages
        (Clause.pageBoundsOf clauses) := by
  cases plan with
  | list label filter fields =>
      refine .bind (emitConditions_ensures rootName filter) fun conditions => ?_
      refine .bind (emitFields_pages features rootName fields) fun _ => ?_
      refine .pure fun _ reads _ => ?_
      rw [Clause.pageBoundsOf_plain rfl, List.append_assoc,
        (Clause.IsUnpaged.filtering conditions).pageBoundsOf_append]
      exact reads.behind rfl rfl
  | lookup id variants =>
      refine .bind (.bindValue _ "id") fun id => ?_
      refine .bind (emitVariants_pages features id variants) fun branches => ?_
      refine .pure fun _ reads _ => ?_
      rw [Clause.pageBoundsOf, Clause.pageBounds, Clause.pageOf, reads.unordered]
      simpa [Clause.pageBoundsOf, Clause.pageBounds, Plan.pages] using reads.each
  | create nodes response =>
      refine .bind (emitRoots_unpaged features 0 nodes) fun made => ?_
      refine .bind (emitAnswer_pages features response _) fun answer => ?_
      refine .pure fun _ reads roots => ?_
      rw [List.append_assoc, roots.pageBoundsOf_append]
      exact reads
  | update label filter assignments entries connections response =>
      refine .bind (emitConditions_ensures rootName filter) fun conditions => ?_
      refine .bind (emitAssignments_ensures rootName assignments) fun assigned => ?_
      refine .bind (emitEntries_unpaged features rootName entries) fun nested => ?_
      refine .bind (emitConnectionUpdates_unpaged rootName connections) fun updates => ?_
      refine .bind (emitAnswer_pages features response _) fun answer => ?_
      refine .pure fun _ reads updating entering _ _ => ?_
      have carried (column : List Column) : Clause.IsUnpaged [.carry column] := .plain rfl rfl .nil
      rw [Clause.pageBoundsOf_plain rfl, Clause.IsUnpaged.pageBoundsOf_append]
      · exact reads
      · exact (((((Clause.IsUnpaged.filtering conditions).append
          (Clause.IsUnpaged.setting assigned)).append (carried _)).append entering).append
            updating).append (carried _)

end

end GraphGateway.Statement
