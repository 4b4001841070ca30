import GraphGateway.Proofs.Outcome
import GraphGateway.Statement.Matches

/-!
Answers without a reason to fail.  Whatever rows a statement is answered with, turning them into the
answer of a root field, and counting the matches they report, fails for nothing that a client is told.
So what rejects a request comes before its statements are run.
-/
namespace GraphGateway.Statement

open Outcome (Only)
open Request

/-- A failure that is no reason for a client. -/
def IsUntold : Failure → Prop
  | .fault _ => False
  | _ => True

theorem entryAt_untold (key : String) (value : Value) : Only IsUntold (entryAt key value) := by
  unfold entryAt
  split
  · split
    · exact .ok _
    · exact .error trivial
  · exact .error trivial

theorem entryOrNull_untold (key : String) (value : Value) :
    Only IsUntold (entryOrNull key value) := by
  unfold entryOrNull
  split
  · exact .ok _
  · exact .error trivial

theorem elementsOf_untold (value : Value) : Only IsUntold (elementsOf value) := by
  cases value with
  | list items => exact .ok _
  | object entries => exact .ok _
  | text content => exact .ok _
  | _ => exact .error trivial

theorem sortedBy_untold (items : List (Value × Value)) : Only IsUntold (sortedBy items) := by
  unfold sortedBy
  split
  · exact .ok _
  · exact .error trivial

theorem unlessNull_untold {answer : Value → Except Failure (List (String × Value))}
    (each : ∀ raw, Only IsUntold (answer raw)) (raw : Value) :
    Only IsUntold (unlessNull answer raw) := by
  cases raw with
  | null => exact .ok _
  | _ => exact .bind (each _) fun _ _ => .ok _

theorem answerAll_untold {α : Type} {answer : α → Except Failure (String × Value)}
    (each : ∀ item, Only IsUntold (answer item)) (items : List α) :
    Only IsUntold (answerAll answer items) :=
  .bind (.mapM fun item _ => each item) fun _ _ => .ok _

theorem pageFact_untold (info : Paging.PageInfo) (leaf : Leaf) :
    Only IsUntold (pageFact info leaf) := by
  unfold pageFact
  split
  · exact .ok _
  · split
    all_goals first | exact .ok _ | exact .error trivial

section

variable (codec : Paging.CursorCodec)

theorem readPage_untold (raw : Value) (issuer : String) (first : Value) :
    Only IsUntold (readPage codec raw issuer first) := by
  refine .bind (entryAt_untold _ _) fun fetched _ => .bind (elementsOf_untold _) fun fetched _ => ?_
  refine .bind (.mapM fun edge _ => .bind (entryAt_untold _ _) fun _ _ => .ok _) fun keyed _ => ?_
  refine .bind (sortedBy_untold _) fun sorted _ => .bind ?size fun size _ => ?_
  case size =>
    cases first with
    | null => exact .ok _
    | int number => exact .ok _
    | bool flag => exact .ok _
    | _ => exact .error trivial
  refine .bind (.mapM fun edge _ => ?cursor) fun edges _ => ?_
  case cursor =>
    obtain ⟨key, edge⟩ := edge
    dsimp only
    split
    · exact .ok _
    · exact .error trivial
  exact .bind (entryAt_untold _ _) fun _ _ => .ok _

mutual

theorem answerField_untold (typeName : String) (raw : Value) : (field : NodeField) →
    Only IsUntold (answerField codec typeName raw field)
  | .leaf leaf => by
      rw [answerField]
      split
      · exact .ok _
      · exact .bind (entryOrNull_untold _ _) fun _ _ => .ok _
  | .relationship key name relatedType fields => by
      rw [answerField]
      refine .bind (entryOrNull_untold _ _) fun related _ => ?_
      have each := unlessNull_untold fun item => answerFields_untold relatedType item fields
      split
      · exact .bind (.mapM fun item _ => each item) fun _ _ => .ok _
      · exact .bind (each _) fun _ _ => .ok _
  | .connection key name first after fields => by
      rw [answerField]
      refine .bind (entryAt_untold _ _) fun connection _ => .bind (readPage_untold codec _ _ _) fun page _ => ?_
      exact .bind (answerConnection_untold typeName name page fields) fun _ _ => .ok _

theorem answerFields_untold (typeName : String) (raw : Value) : (fields : List NodeField) →
    Only IsUntold (answerFields codec typeName raw fields)
  | [] => .ok _
  | field :: rest => by
      rw [answerFields]
      refine .bind (answerField_untold typeName raw field) fun _ _ => ?_
      exact .bind (answerFields_untold typeName raw rest) fun _ _ => .ok _

theorem answerConnection_untold (typeName name : String) (page : PageOfEdges) :
    (fields : List ConnectionField) →
    Only IsUntold (answerConnection codec typeName name page fields)
  | [] => .ok _
  | .leaf leaf :: rest => by
      rw [answerConnection]
      exact .bind (answerConnection_untold typeName name page rest) fun _ _ => .ok _
  | .edges key fields :: rest => by
      rw [answerConnection]
      refine .bind (.mapM fun edge _ => ?_) fun _ _ => ?_
      · refine .bind (entryAt_untold _ _) fun raw _ => ?_
        exact .bind (answerEdge_untold _ _ raw fields) fun _ _ => .ok _
      · exact .bind (answerConnection_untold typeName name page rest) fun _ _ => .ok _
  | .pageInfo key leaves :: rest => by
      rw [answerConnection]
      refine .bind (answerAll_untold (fun leaf => .map _ (pageFact_untold _ _)) leaves) fun _ _ => ?_
      exact .bind (answerConnection_untold typeName name page rest) fun _ _ => .ok _

theorem answerEdge_untold (edgeType cursor : String) (raw : Value) : (fields : List EdgeField) →
    Only IsUntold (answerEdge codec edgeType cursor raw fields)
  | [] => .ok _
  | .node key typeName fields :: rest => by
      rw [answerEdge]
      refine .bind (entryAt_untold _ _) fun item _ => .bind ?_ fun _ _ => ?_
      · exact unlessNull_untold (fun item => answerFields_untold typeName item fields) item
      · exact .bind (answerEdge_untold edgeType cursor raw rest) fun _ _ => .ok _
  | .leaf leaf :: rest => by
      have others (value : Value) := Only.bind (answerEdge_untold edgeType cursor raw rest)
        fun others _ => .ok ((leaf.key, value) :: others)
      rw [answerEdge]
      split
      · exact others _
      · split
        · exact others _
        · exact .bind (entryOrNull_untold _ _) fun value _ => others value

end

theorem answerNode_untold (raw : Value) (selection : NodeSelection) :
    Only IsUntold (answerNode codec raw selection) :=
  unlessNull_untold (fun raw => answerFields_untold codec selection.typeName raw selection.fields) raw

theorem answerResponse_untold (rows : Value) (selection : ResponseSelection) :
    Only IsUntold (answerResponse codec rows selection) := by
  refine .bind (elementsOf_untold _) fun rows _ => .bind (.mapM fun row _ => ?_) fun keyed _ => ?_
  · exact .bind (entryOrNull_untold _ _) fun _ _ => .ok _
  refine .bind (sortedBy_untold _) fun sorted _ => answerAll_untold (fun field => ?_) _
  cases field with
  | leaf leaf => exact .ok _
  | nodes key nodes =>
      refine .bind (.mapM fun row _ => ?_) fun _ _ => .ok _
      refine .bind (entryAt_untold _ _) fun data _ => .bind (entryAt_untold _ _) fun raw _ => ?_
      exact answerNode_untold codec raw nodes

theorem answerLookup_untold (variants : List NodeSelection) (rows : Value) :
    Only IsUntold (answerLookup codec variants rows) := by
  unfold answerLookup
  split
  · exact .ok _
  have first : Only IsUntold (firstRow rows) := by
    unfold firstRow
    split
    · exact .ok _
    · exact .error trivial
    · exact .error trivial
  refine .bind first fun row _ => .bind (entryAt_untold _ _) fun raw _ => ?_
  refine .bind (entryAt_untold _ _) fun resolved _ => ?_
  split
  · exact answerNode_untold codec raw _
  · exact .error trivial

/-- The rows of a statement are answered, or the answer fails for no reason that is told. -/
theorem answer_untold (rows : Value) (shape : Shape) : Only IsUntold (answer codec rows shape) := by
  cases shape with
  | rows => exact .ok _
  | list selection =>
      refine .bind (elementsOf_untold _) fun items _ => .bind (.mapM fun row _ => ?_) fun _ _ => .ok _
      exact .bind (entryAt_untold _ _) fun raw _ => answerNode_untold codec raw selection
  | lookup variants => exact answerLookup_untold codec variants rows
  | response selection => exact answerResponse_untold codec rows selection

end

theorem pathKey_untold (path : Value) : Only IsUntold (pathKey path) := by
  unfold pathKey
  split
  · exact .ok _
  · exact .error trivial

theorem larger_untold (first second : Value) : Only IsUntold (larger first second) := by
  unfold larger
  split
  · exact .ok _
  · exact .ok _
  · exact .error trivial

theorem countReport_untold (counts : Counts) (report : Value) :
    Only IsUntold (countReport counts report) := by
  refine .bind (entryAt_untold _ _) fun path _ => .bind (pathKey_untold path) fun path _ => ?_
  refine .bind (entryAt_untold _ _) fun matched _ => .bind (larger_untold _ _) fun _ _ => .ok _

theorem countRow_untold (counts : Counts) (row : Value) : Only IsUntold (countRow counts row) := by
  refine .bind (entryOrNull_untold _ _) fun reports _ => .bind ?_ fun reports _ => ?_
  · unfold itemsOf
    split
    · exact elementsOf_untold _
    · exact .ok _
  · exact .foldlM fun counts report _ => countReport_untold counts report

/-- The paths without a match are told, or they fail to be for no reason that is told. -/
theorem unmatched_untold (rows : Value) (expected : List Value) :
    Only IsUntold (unmatched rows expected) := by
  refine .bind (.mapM fun path _ => pathKey_untold path) fun expected _ => ?_
  refine .bind (elementsOf_untold rows) fun rows _ => .bind ?_ fun _ _ => .ok _
  exact .foldlM fun counts row _ => countRow_untold counts row

end GraphGateway.Statement
