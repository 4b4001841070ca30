import Mathlib.Data.List.Sort

/-!
Pages of numbers.  A page has the least numbers behind its start.  A tour takes one page after the
other, each behind the last number of the one before it, as long as a page leaves numbers behind it;
meanwhile numbers may come and go.
-/
namespace GraphGateway.Paging

/-- Whether a number stands behind the start of a page. -/
def isBeyond (start : Option Int) (number : Nat) : Bool :=
  match start with
  | none => true
  | some key => decide (key < (number : Int))

theorem isBeyond_none : isBeyond none = fun _ => true := rfl

theorem isBeyond_some (key : Int) :
    isBeyond (some key) = fun number : Nat => decide (key < (number : Int)) := rfl

/-- Whether a number stands at the start or before it. -/
def hasBefore (start : Option Int) (numbers : List Nat) : Bool :=
  numbers.any fun number => !isBeyond start number

theorem hasBefore_none (numbers : List Nat) : hasBefore none numbers = false := by
  unfold hasBefore
  rw [isBeyond_none]
  simp

theorem hasBefore_some (key : Int) (numbers : List Nat) :
    hasBefore (some key) numbers = numbers.any fun number : Nat => decide ((number : Int) ≤ key) := by
  unfold hasBefore
  rw [isBeyond_some]
  congr 1
  funext number
  rw [← decide_not, decide_eq_decide, Int.not_lt]

/-- The numbers behind a start, from the least on. -/
def remaining (start : Option Int) (numbers : List Nat) : List Nat :=
  (numbers.filter (isBeyond start)).mergeSort (· ≤ ·)

/-- As many numbers as a limit allows. -/
def upTo (limit : Option Int) (numbers : List Nat) : List Nat :=
  match limit with
  | none => numbers
  | some most => numbers.take most.toNat

section

variable {start : Option Int} {numbers : List Nat}

theorem remaining_perm (start : Option Int) (numbers : List Nat) :
    (remaining start numbers).Perm (numbers.filter (isBeyond start)) :=
  List.mergeSort_perm _ _

theorem mem_remaining {number : Nat} :
    number ∈ remaining start numbers ↔ number ∈ numbers ∧ isBeyond start number = true := by
  rw [(remaining_perm start numbers).mem_iff, List.mem_filter]

theorem remaining_ascending (start : Option Int) (numbers : List Nat) :
    (remaining start numbers).Pairwise (· ≤ ·) := by
  have transitive : ∀ first second third : Nat, decide (first ≤ second) = true →
      decide (second ≤ third) = true → decide (first ≤ third) = true := by
    intro first second third one other
    exact decide_eq_true (Nat.le_trans (of_decide_eq_true one) (of_decide_eq_true other))
  have total : ∀ first second : Nat,
      (decide (first ≤ second) || decide (second ≤ first)) = true := by
    intro first second
    rw [Bool.or_eq_true, decide_eq_true_eq, decide_eq_true_eq]
    exact Nat.le_total first second
  have sorted := List.pairwise_mergeSort transitive total (numbers.filter (isBeyond start))
  exact sorted.imp of_decide_eq_true

/-- Numbers that are pairwise distinct stand in strictly increasing order. -/
theorem remaining_increasing (distinct : numbers.Nodup) (start : Option Int) :
    (remaining start numbers).Pairwise (· < ·) := by
  have apart : (remaining start numbers).Nodup :=
    (remaining_perm start numbers).nodup_iff.mpr (distinct.filter _)
  exact (remaining_ascending start numbers).imp₂ (fun _ _ le ne => Nat.lt_of_le_of_ne le ne) apart

end

/-- The start behind the last number of a page. -/
def startAfter (page : List Nat) : Option Int :=
  page.getLast?.map fun number : Nat => (number : Int)

/-- The pages of a tour that starts at some time, and whether its last page leaves nothing behind.
At each time the numbers are those that there are then. -/
def tour (numbers : Nat → List Nat) (size : Nat) : Nat → Nat → Option Int → List (List Nat) × Bool
  | 0, _, _ => ([], false)
  | fuel + 1, time, start =>
      let ahead := remaining start (numbers time)
      if size < ahead.length then
        let rest := tour numbers size fuel (time + 1) (startAfter (ahead.take size))
        (ahead.take size :: rest.1, rest.2)
      else ([ahead.take size], true)

section

variable {size : Nat} {start : Option Int} {numbers : List Nat}

/-- What a page that leaves numbers behind it has, and what it has left. -/
theorem startAfter_take (positive : 1 ≤ size) {ahead : List Nat}
    (increasing : ahead.Pairwise (· < ·)) (more : size < ahead.length) :
    ∃ last ∈ ahead, startAfter (ahead.take size) = some (last : Int) ∧
      (∀ number ∈ ahead.take size, number ≤ last) ∧ ∀ number ∈ ahead.drop size, last < number := by
  have within : size - 1 < ahead.length := by omega
  have last : (ahead.take size).getLast? = some ahead[size - 1] := by
    rw [List.getLast?_eq_getElem?, List.length_take, Nat.min_eq_left (Nat.le_of_lt more),
      List.getElem?_take_of_lt (by omega), List.getElem?_eq_getElem within]
  refine ⟨ahead[size - 1], List.getElem_mem within, ?_, ?_, ?_⟩
  · unfold startAfter
    rw [last]
    rfl
  · intro number member
    obtain ⟨index, inside, rfl⟩ := List.mem_iff_getElem.mp member
    rw [List.length_take] at inside
    rw [List.getElem_take]
    rcases Nat.eq_or_lt_of_le (show index ≤ size - 1 by omega) with same | before
    · subst same
      exact Nat.le_refl _
    · exact Nat.le_of_lt (List.pairwise_iff_getElem.mp increasing index (size - 1) (by omega) within
        before)
  · intro number member
    obtain ⟨index, inside, rfl⟩ := List.mem_iff_getElem.mp member
    rw [List.length_drop] at inside
    rw [List.getElem_drop]
    exact List.pairwise_iff_getElem.mp increasing (size - 1) (size + index) within (by omega)
      (by omega)

/-- What follows a number behind a start stands behind it, too. -/
theorem isBeyond_of_le {first second : Nat} (beyond : isBeyond start first = true)
    (le : first ≤ second) : isBeyond start second = true := by
  cases start with
  | none => rfl
  | some key =>
      rw [isBeyond_some, decide_eq_true_eq] at beyond ⊢
      omega

theorem isBeyond_natural (last number : Nat) :
    isBeyond (some (last : Int)) number = true ↔ last < number := by
  rw [isBeyond_some, decide_eq_true_eq, Int.ofNat_lt]

/-- Behind the page that is taken from some numbers there are those that it has left. -/
theorem remaining_startAfter (positive : 1 ≤ size) (distinct : numbers.Nodup)
    (more : size < (remaining start numbers).length) :
    remaining (startAfter ((remaining start numbers).take size)) numbers =
      (remaining start numbers).drop size := by
  have increasing := remaining_increasing distinct start
  obtain ⟨last, member, found, before, behind⟩ := startAfter_take positive increasing more
  have reached := (mem_remaining.mp member).2
  refine List.Pairwise.eq_of_mem_iff (remaining_increasing distinct _)
    (increasing.sublist (List.drop_sublist _ _)) fun number => ?_
  rw [found, mem_remaining, isBeyond_natural]
  constructor
  · rintro ⟨member, later⟩
    have ahead : number ∈ remaining start numbers :=
      mem_remaining.mpr ⟨member, isBeyond_of_le reached (Nat.le_of_lt later)⟩
    rw [← List.take_append_drop size (remaining start numbers)] at ahead
    rcases List.mem_append.mp ahead with here | there
    · exact absurd (before number here) (Nat.not_le.mpr later)
    · exact there
  · intro member
    exact ⟨(mem_remaining.mp (List.mem_of_mem_drop member)).1, behind number member⟩

end

section

variable {numbers : Nat → List Nat} {size : Nat} (distinct : ∀ time, (numbers time).Nodup)
  (positive : 1 ≤ size) (fuel time : Nat) (start : Option Int)

include distinct positive

/-- The numbers of a tour are strictly increasing, and all of them stand behind its start. -/
theorem tour_increasing :
    (tour numbers size fuel time start).1.flatten.Pairwise (· < ·) ∧
      ∀ number ∈ (tour numbers size fuel time start).1.flatten, isBeyond start number = true := by
  induction fuel generalizing time start with
  | zero => exact ⟨List.Pairwise.nil, fun _ member => absurd member List.not_mem_nil⟩
  | succ fuel ih =>
      have increasing := remaining_increasing (distinct time) start
      have first : ((remaining start (numbers time)).take size).Pairwise (· < ·) :=
        increasing.sublist (List.take_sublist _ _)
      have beyond : ∀ number ∈ (remaining start (numbers time)).take size,
          isBeyond start number = true :=
        fun number member => (mem_remaining.mp (List.mem_of_mem_take member)).2
      rw [tour]
      dsimp only
      split
      · next more =>
        obtain ⟨last, member, found, before, -⟩ := startAfter_take positive increasing more
        obtain ⟨later, behind⟩ := ih (time + 1)
          (startAfter ((remaining start (numbers time)).take size))
        rw [found] at later behind ⊢
        have after : ∀ number ∈ (tour numbers size fuel (time + 1) (some (last : Int))).1.flatten,
            last < number :=
          fun number member => (isBeyond_natural last number).mp (behind number member)
        rw [List.flatten_cons]
        constructor
        · refine List.pairwise_append.mpr ⟨first, later, ?_⟩
          intro one oneMember other otherMember
          exact Nat.lt_of_le_of_lt (before one oneMember) (after other otherMember)
        · intro number inside
          rcases List.mem_append.mp inside with here | there
          · exact beyond number here
          · exact isBeyond_of_le (mem_remaining.mp member).2 (Nat.le_of_lt (after number there))
      · rw [List.flatten_singleton]
        exact ⟨first, beyond⟩

/-- A tour that has come to its end has every number behind its start that was there all the time. -/
theorem tour_complete (finished : (tour numbers size fuel time start).2 = true) {number : Nat}
    (beyond : isBeyond start number = true)
    (lasting : ∀ index < (tour numbers size fuel time start).1.length,
      number ∈ numbers (time + index)) :
    number ∈ (tour numbers size fuel time start).1.flatten := by
  induction fuel generalizing time start with
  | zero => cases finished
  | succ fuel ih =>
      have increasing := remaining_increasing (distinct time) start
      rw [tour] at finished lasting ⊢
      dsimp only at finished lasting ⊢
      split at finished
      · next more =>
        rw [if_pos more] at lasting ⊢
        dsimp only at finished lasting ⊢
        rw [List.length_cons] at lasting
        have ahead : number ∈ remaining start (numbers time) :=
          mem_remaining.mpr ⟨lasting 0 (Nat.succ_pos _), beyond⟩
        obtain ⟨last, -, found, -, behind⟩ := startAfter_take positive increasing more
        rw [List.flatten_cons, List.mem_append]
        rw [← List.take_append_drop size (remaining start (numbers time)), List.mem_append] at ahead
        refine ahead.imp_right fun later => ?_
        refine ih (time + 1) _ finished ?_ fun index inside => ?_
        · rw [found, isBeyond_natural]
          exact behind number later
        · rw [Nat.add_assoc, Nat.add_comm 1]
          exact lasting (index + 1) (Nat.succ_lt_succ inside)
      · next less =>
        rw [if_neg less] at lasting ⊢
        rw [List.flatten_singleton, List.take_of_length_le (Nat.not_lt.mp less)]
        exact mem_remaining.mpr ⟨lasting 0 (by simp), beyond⟩

omit distinct positive in
/-- The numbers of a page are there at the time of the page. -/
theorem tour_present {index : Nat} {page : List Nat}
    (placed : (tour numbers size fuel time start).1[index]? = some page) {number : Nat}
    (member : number ∈ page) : number ∈ numbers (time + index) := by
  induction fuel generalizing time start index with
  | zero => cases placed
  | succ fuel ih =>
      have here : ∀ number ∈ (remaining start (numbers time)).take size, number ∈ numbers time :=
        fun number member => (mem_remaining.mp (List.mem_of_mem_take member)).1
      rw [tour] at placed
      dsimp only at placed
      split at placed
      · cases index with
        | zero =>
            cases placed
            exact here number member
        | succ index =>
            rw [List.getElem?_cons_succ] at placed
            have there := ih (time + 1) _ placed
            rwa [Nat.add_assoc, Nat.add_comm 1] at there
      · cases index with
        | zero =>
            cases placed
            exact here number member
        | succ index => cases placed

/-- How many pages of some size a number of items takes; there is always one. -/
def pagesNeeded (size count : Nat) : Nat := max 1 ((count + size - 1) / size)

omit distinct in
theorem pagesNeeded_of_lt {count : Nat} (more : size < count) :
    pagesNeeded size count = pagesNeeded size (count - size) + 1 := by
  have split : count + size - 1 = (count - size + size - 1) + size := by omega
  have some_ : 1 ≤ (count - size + size - 1) / size :=
    (Nat.one_le_div_iff (by omega)).mpr (by omega)
  unfold pagesNeeded
  rw [split, Nat.add_div_right _ (by omega)]
  omega

/-- If nothing changes, a tour ends when all numbers are on its pages, and no page more is taken. -/
theorem tour_constant (still : ∀ time, (numbers time).Perm (numbers 0))
    (enough : pagesNeeded size (remaining start (numbers time)).length ≤ fuel) :
    (tour numbers size fuel time start).2 = true ∧
      (tour numbers size fuel time start).1.length =
        pagesNeeded size (remaining start (numbers time)).length := by
  induction fuel generalizing time start with
  | zero =>
      have one : 1 ≤ pagesNeeded size (remaining start (numbers time)).length := Nat.le_max_left _ _
      omega
  | succ fuel ih =>
      rw [tour]
      dsimp only
      split
      · next more =>
        have same : ∀ start, (remaining start (numbers (time + 1))).length =
            (remaining start (numbers time)).length := by
          intro start
          rw [(remaining_perm _ _).length_eq, (remaining_perm _ _).length_eq]
          exact (((still _).trans (still _).symm).filter _).length_eq
        have left : (remaining (startAfter ((remaining start (numbers time)).take size))
            (numbers (time + 1))).length = (remaining start (numbers time)).length - size := by
          rw [same, remaining_startAfter positive (distinct time) more, List.length_drop]
        rw [pagesNeeded_of_lt positive more] at enough ⊢
        have later := ih (time + 1) (startAfter ((remaining start (numbers time)).take size))
          (by rw [left]; exact Nat.le_of_succ_le_succ enough)
        rw [left] at later
        exact ⟨later.1, by rw [List.length_cons, later.2]⟩
      · next less =>
        refine ⟨rfl, ?_⟩
        have few : ((remaining start (numbers time)).length + size - 1) / size ≤ 1 := by
          rw [← Nat.lt_succ_iff, Nat.div_lt_iff_lt_mul (by omega)]
          omega
        unfold pagesNeeded
        rw [List.length_singleton]
        omega

end

end GraphGateway.Paging
