import GraphGateway.Cypher.Clause

/-!
What clauses write.  A node or a relationship is created together with the assignments that follow
at once; all other assignments to properties update what is there.  The counters that number
relationships hold no data of a request, and what is done to them is left out.
-/
namespace GraphGateway.Cypher

/-- The variable of what a pattern is about. -/
def Pattern.name : Pattern → String
  | node pattern => pattern.name
  | relationship pattern => pattern.name

/-- Assignments, and the pattern that they are the first assignments of if it is created. -/
structure Written where
  created : Option Pattern
  assignments : List (Expression × Expression)

def Expression.isProperty : Expression → Bool
  | .property _ _ => true
  | _ => false

namespace Clause

def isSetting : Clause → Bool
  | .set _ => true
  | _ => false

/-- The pattern that a clause creates. -/
def created? : Clause → Option Pattern
  | .create pattern => some pattern
  | _ => none

/-- A pattern that is created without assignments. -/
def bare (pending : Option Pattern) : List Written :=
  (pending.map fun pattern => ⟨some pattern, []⟩).toList

mutual

/-- What a clause writes behind a clause that creates a pattern, or behind another clause. -/
def writtenBehind (pending : Option Pattern) : Clause → List Written
  | .set assignments =>
      if pending.isSome || assignments.any (·.1.isProperty) then [⟨pending, assignments⟩] else []
  | .subquery _ body => bare pending ++ writtenAfter none body
  | _ => bare pending

def writtenAfter (pending : Option Pattern) : List Clause → List Written
  | [] => bare pending
  | clause :: rest => clause.writtenBehind pending ++ writtenAfter clause.created? rest

end

/-- What clauses write, those of subqueries included. -/
def written (clauses : List Clause) : List Written := writtenAfter none clauses

section

variable {rest : List Clause}

/-- A clause that neither creates nor sets anything, and holds no other clauses. -/
def isQuiet : Clause → Bool
  | .create _ => false
  | .set _ => false
  | .subquery _ _ => false
  | _ => true

theorem written_quiet {clause : Clause} (quiet : clause.isQuiet = true) :
    written (clause :: rest) = written rest := by
  cases clause with
  | create pattern => cases quiet
  | set assignments => cases quiet
  | subquery imports body => cases quiet
  | _ => rfl

theorem written_subquery (imports : List String) (body : List Clause) :
    written (.subquery imports body :: rest) = written body ++ written rest := rfl

theorem written_create (pattern : Pattern) (assignments : List (Expression × Expression)) :
    written (.create pattern :: .set assignments :: rest) =
      ⟨some pattern, assignments⟩ :: written rest := rfl

theorem written_set (assignments : List (Expression × Expression)) :
    written (.set assignments :: rest) =
      (if assignments.any (·.1.isProperty) then [⟨none, assignments⟩] else []) ++ written rest :=
  rfl

/-- Clauses that do not start with assignments write the same behind whatever clause. -/
theorem writtenAfter_apart (pending : Option Pattern)
    (apart : (rest.head?.map isSetting).getD false = false) :
    writtenAfter pending rest = bare pending ++ written rest := by
  cases rest with
  | nil => exact (List.append_nil _).symm
  | cons clause others =>
      cases clause with
      | set assignments => cases apart
      | subquery imports body => exact List.append_assoc ..
      | _ => rfl

/-- Behind clauses, others that do not start with assignments write for themselves. -/
theorem writtenAfter_append (pending : Option Pattern) (clauses : List Clause)
    (apart : (rest.head?.map isSetting).getD false = false) :
    writtenAfter pending (clauses ++ rest) = writtenAfter pending clauses ++ written rest := by
  induction clauses generalizing pending with
  | nil => exact writtenAfter_apart pending apart
  | cons clause others ih =>
      rw [List.cons_append, writtenAfter, ih, writtenAfter, List.append_assoc]

theorem written_append (clauses : List Clause)
    (apart : (rest.head?.map isSetting).getD false = false) :
    written (clauses ++ rest) = written clauses ++ written rest :=
  writtenAfter_append none clauses apart

/-- Behind clauses of which none creates anything, others write for themselves. -/
theorem written_append_of_settled {clauses : List Clause}
    (settled : ∀ clause ∈ clauses, clause.created? = none) :
    written (clauses ++ rest) = written clauses ++ written rest := by
  have behind : ∀ pending : Option Pattern, clauses ≠ [] ∨ pending = none →
      writtenAfter pending (clauses ++ rest) = writtenAfter pending clauses ++ written rest := by
    induction clauses with
    | nil =>
        intro pending free
        rw [free.resolve_left fun apart => apart rfl]
        rfl
    | cons clause others ih =>
        intro pending _
        have later := ih (fun other member => settled other (List.mem_cons_of_mem _ member))
          none (.inr rfl)
        rw [List.cons_append, writtenAfter, writtenAfter, settled clause (List.mem_cons_self ..),
          later, List.append_assoc]
  exact behind none (.inr rfl)

mutual

/-- Whether a clause neither makes nor sets anything, nor do the clauses in it. -/
def reads : Clause → Bool
  | .create _ => false
  | .merge _ _ _ => false
  | .set _ => false
  | .setOnCreate _ _ => false
  | .subquery _ body => readsAll body
  | _ => true

def readsAll : List Clause → Bool
  | [] => true
  | clause :: rest => clause.reads && readsAll rest

end

@[simp] theorem readsAll_append (clauses others : List Clause) :
    readsAll (clauses ++ others) = (readsAll clauses && readsAll others) := by
  induction clauses with
  | nil => rfl
  | cons clause rest ih => rw [List.cons_append, readsAll, readsAll, ih, Bool.and_assoc]

mutual

theorem writtenBehind_of_reads (pending : Option Pattern) : (clause : Clause) →
    clause.reads = true → clause.writtenBehind pending = bare pending
  | .create _, impossible => nomatch impossible
  | .merge _ _ _, impossible => nomatch impossible
  | .set _, impossible => nomatch impossible
  | .setOnCreate _ _, impossible => nomatch impossible
  | .subquery _ body, reading => by
      rw [writtenBehind, writtenAfter_of_readsAll none body reading]
      exact List.append_nil _
  | .find _, _ => rfl
  | .findOptional _, _ => rfl
  | .filter _, _ => rfl
  | .carry _, _ => rfl
  | .order _, _ => rfl
  | .limit _, _ => rfl
  | .unwind _ _, _ => rfl
  | .answer _, _ => rfl
  | .union, _ => rfl

theorem writtenAfter_of_readsAll (pending : Option Pattern) : (clauses : List Clause) →
    readsAll clauses = true → writtenAfter pending clauses = bare pending
  | [], _ => rfl
  | clause :: rest, reading => by
      rw [readsAll, Bool.and_eq_true] at reading
      have none_ : clause.created? = none := by
        cases clause <;> first | rfl | cases reading.1
      rw [writtenAfter, writtenBehind_of_reads pending clause reading.1, none_,
        writtenAfter_of_readsAll none rest reading.2]
      exact List.append_nil _

end

/-- Clauses that read write nothing. -/
theorem written_of_readsAll {clauses : List Clause} (reading : readsAll clauses = true) :
    written clauses = [] :=
  writtenAfter_of_readsAll none clauses reading

theorem written_filtering (conditions : List Expression) :
    written (filtering conditions ++ rest) = written rest := by
  unfold filtering
  split <;> rfl

end

end Clause

end GraphGateway.Cypher
