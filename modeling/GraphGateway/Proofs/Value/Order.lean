import Mathlib.Order.Lattice
import Mathlib.Data.List.Pairwise
import GraphGateway.Value.Order

/-!
Sorting of values.  Sorting answers all the items, and where the keys are ordered as some ranks are,
it answers them in order of their ranks, whatever order they came in.
-/
namespace GraphGateway.Value

/-- Whole numbers are ordered by their size. -/
theorem less?_int (first second : Int) :
    (Value.int first).less? (.int second) = some (decide (first < second)) := by
  simp [less?, lessMagnitude?, magnitude?, Decimal.Extended.ofInt, Decimal.Extended.less,
    Decimal.quotientLess]

section

variable {α : Type}

theorem insertSorted?_perm {sorted result : List (Value × α)} {item : Value × α}
    (inserted : insertSorted? sorted item = some result) : result.Perm (item :: sorted) := by
  obtain ⟨place, -, rfl⟩ := Option.map_eq_some_iff.mp inserted
  have whole : (sorted.take place ++ item :: sorted.drop place).Perm
      (item :: (sorted.take place ++ sorted.drop place)) := List.perm_middle
  rwa [List.take_append_drop] at whole

theorem foldlM_insertSorted?_perm {items sorted result : List (Value × α)}
    (folded : items.foldlM insertSorted? sorted = some result) :
    result.Perm (sorted ++ items) := by
  induction items generalizing sorted with
  | nil =>
      cases folded
      rw [List.append_nil]
  | cons item rest ih =>
      rw [List.foldlM_cons] at folded
      obtain ⟨middle, inserted, folded⟩ := Option.bind_eq_some_iff.mp folded
      refine (ih folded).trans ?_
      exact ((insertSorted?_perm inserted).append_right rest).trans List.perm_middle.symm

theorem runFrom?_append {falls : Bool} {last : Value} {items run others : List (Value × α)}
    (found : runFrom? falls last items = some (run, others)) : run ++ others = items := by
  induction items generalizing last run others with
  | nil =>
      cases found
      rfl
  | cons item rest ih =>
      unfold runFrom? at found
      split at found
      · cases found
      · split at found
        · obtain ⟨⟨longer, left⟩, further, same⟩ := Option.map_eq_some_iff.mp found
          cases same
          rw [List.cons_append, ih further]
        · cases found
          rfl

/-- Sorting answers the items that it is given, whatever their order is. -/
theorem sortBy?_perm {items sorted : List (Value × α)} (done : sortBy? items = some sorted) :
    sorted.Perm items := by
  match items with
  | [] =>
      cases done
      exact .refl _
  | [item] =>
      cases done
      exact .refl _
  | first :: second :: rest =>
      simp only [sortBy?] at done
      split at done
      · cases done
      · split at done
        · cases done
        · next run others found =>
          refine (foldlM_insertSorted?_perm done).trans ?_
          rw [← runFrom?_append found, ← List.cons_append]
          refine List.Perm.append_right others ?_
          split
          · exact List.reverse_perm _
          · exact .refl _

end

section

variable {L α : Type} [LinearOrder L] (rank : Value → L)

/-- The order of some keys is that of their ranks. -/
def Ranked (items : List (Value × α)) : Prop :=
  ∀ first ∈ items, ∀ second ∈ items,
    first.1.less? second.1 = some (decide (rank first.1 < rank second.1))

/-- Items in order of their ranks. -/
def Ordered (items : List (Value × α)) : Prop :=
  items.Pairwise fun first second => rank first.1 ≤ rank second.1

variable {rank}

theorem Ordered.le_of_lt {items : List (Value × α)} (ordered : Ordered rank items)
    {first second : Nat} (before : first < second) (within : first < items.length)
    (inside : second < items.length) : rank items[first].1 ≤ rank items[second].1 :=
  List.pairwise_iff_getElem.mp ordered first second within inside before

/-- The search ends at a place with no greater items before it and no smaller ones from it on. -/
theorem placeOf?_spec {sorted : List (Value × α)} {key : Value} (ordered : Ordered rank sorted)
    (ranked : ∀ item ∈ sorted, key.less? item.1 = some (decide (rank key < rank item.1)))
    {low high : Nat} (bounds : low ≤ high) (end_ : high ≤ sorted.length)
    (before : ∀ index (inside : index < sorted.length), index < low →
      rank sorted[index].1 ≤ rank key)
    (behind : ∀ index (inside : index < sorted.length), high ≤ index →
      rank key ≤ rank sorted[index].1) :
    ∃ place, placeOf? sorted key low high = some place ∧
      (∀ index (inside : index < sorted.length), index < place →
        rank sorted[index].1 ≤ rank key) ∧
      ∀ index (inside : index < sorted.length), place ≤ index →
        rank key ≤ rank sorted[index].1 := by
  induction gap : high - low using Nat.strongRecOn generalizing low high with
  | _ gap ih =>
      unfold placeOf?
      by_cases apart : low < high
      · have inside : (low + high) / 2 < sorted.length := by omega
        rw [if_pos apart]
        simp only [List.getElem?_eq_getElem inside, ranked _ (List.getElem_mem inside)]
        by_cases less : rank key < rank sorted[(low + high) / 2].1
        · rw [decide_eq_true less]
          refine ih ((low + high) / 2 - low) (by omega) (by omega) (by omega) before ?_ rfl
          intro index within reached
          rcases Nat.eq_or_lt_of_le reached with here | beyond
          · subst here
            exact le_of_lt less
          · exact le_trans (le_of_lt less) (ordered.le_of_lt beyond inside within)
        · rw [decide_eq_false less]
          refine ih (high - ((low + high) / 2 + 1)) (by omega) (by omega) end_ ?_ behind rfl
          intro index within reached
          rcases Nat.eq_or_lt_of_le (Nat.le_of_lt_succ reached) with here | earlier
          · subst here
            exact not_lt.mp less
          · exact le_trans (ordered.le_of_lt earlier within inside) (not_lt.mp less)
      · rw [if_neg apart]
        have met : low = high := by omega
        subst met
        exact ⟨low, rfl, before, behind⟩

/-- An item that is put in its place leaves the items in order. -/
theorem insertSorted?_spec {sorted : List (Value × α)} {item : Value × α}
    (ordered : Ordered rank sorted)
    (ranked : ∀ other ∈ sorted, item.1.less? other.1 = some (decide (rank item.1 < rank other.1))) :
    ∃ result, insertSorted? sorted item = some result ∧ result.Perm (item :: sorted) ∧
      Ordered rank result := by
  obtain ⟨place, found, before, behind⟩ := placeOf?_spec ordered ranked (Nat.zero_le _) (Nat.le_refl _)
    (fun _ _ impossible => absurd impossible (Nat.not_lt_zero _))
    (fun _ inside reached => absurd inside (Nat.not_lt.mpr reached))
  have inserted : insertSorted? sorted item =
      some (sorted.take place ++ item :: sorted.drop place) := by
    unfold insertSorted?
    rw [found]
    rfl
  refine ⟨_, inserted, insertSorted?_perm inserted, ?_⟩
  · have smaller : ∀ other ∈ sorted.take place, rank other.1 ≤ rank item.1 := by
      intro other member
      obtain ⟨index, inside, rfl⟩ := List.mem_iff_getElem.mp member
      rw [List.getElem_take]
      rw [List.length_take] at inside
      exact before index (by omega) (by omega)
    have greater : ∀ other ∈ sorted.drop place, rank item.1 ≤ rank other.1 := by
      intro other member
      obtain ⟨index, inside, rfl⟩ := List.mem_iff_getElem.mp member
      rw [List.getElem_drop]
      rw [List.length_drop] at inside
      exact behind (place + index) (by omega) (by omega)
    have parts := ordered
    rw [← List.take_append_drop place sorted] at parts
    obtain ⟨first, second, across⟩ := List.pairwise_append.mp parts
    refine List.pairwise_append.mpr ⟨first, List.pairwise_cons.mpr ⟨greater, second⟩, ?_⟩
    intro one oneMember other otherMember
    rcases List.mem_cons.mp otherMember with rfl | later
    · exact smaller one oneMember
    · exact across one oneMember other later

/-- Items that are put in their places one after another are in order at last. -/
theorem foldlM_insertSorted?_spec {items sorted : List (Value × α)} (ordered : Ordered rank sorted)
    (ranked : Ranked rank (sorted ++ items)) :
    ∃ result, items.foldlM insertSorted? sorted = some result ∧ result.Perm (sorted ++ items) ∧
      Ordered rank result := by
  induction items generalizing sorted with
  | nil => exact ⟨sorted, rfl, by rw [List.append_nil], ordered⟩
  | cons item rest ih =>
      obtain ⟨middle, inserted, perm, middleOrdered⟩ := insertSorted?_spec ordered
        fun other member => ranked item (by simp) other (List.mem_append_left _ member)
      have whole : (middle ++ rest).Perm (sorted ++ item :: rest) :=
        (perm.append_right rest).trans List.perm_middle.symm
      obtain ⟨result, folded, resultPerm, resultOrdered⟩ := ih middleOrdered
        fun first firstMember second secondMember =>
          ranked first (whole.mem_iff.mp firstMember) second (whole.mem_iff.mp secondMember)
      refine ⟨result, ?_, resultPerm.trans whole, resultOrdered⟩
      rw [List.foldlM_cons, inserted]
      exact folded

/-- How the ranks of a run go on. -/
def goesOn (falls : Bool) (first second : L) : Prop :=
  if falls then second < first else first ≤ second

theorem goesOn_trans {falls : Bool} {first second third : L} (before : goesOn falls first second)
    (behind : goesOn falls second third) : goesOn falls first third := by
  cases falls with
  | true => exact lt_trans behind before
  | false => exact le_trans before behind

theorem goesOn_of_decide {falls : Bool} {first second : L}
    (same : decide (second < first) = falls) : goesOn falls first second := by
  cases falls with
  | true =>
      have less : second < first := of_decide_eq_true same
      exact less
  | false => exact not_lt.mp (of_decide_eq_false same)

/-- A run is the head of the items, and its ranks go on in its direction. -/
theorem runFrom?_spec (falls : Bool) {last : Value × α} {items : List (Value × α)}
    (ranked : Ranked rank (last :: items)) :
    ∃ run others, runFrom? falls last.1 items = some (run, others) ∧ run ++ others = items ∧
      (last :: run).Pairwise fun first second => goesOn falls (rank first.1) (rank second.1) := by
  induction items generalizing last with
  | nil => exact ⟨[], [], rfl, rfl, List.pairwise_singleton _ _⟩
  | cons item rest ih =>
      have compared := ranked item (by simp) last (List.mem_cons_self ..)
      unfold runFrom?
      simp only [compared]
      by_cases on : decide (rank item.1 < rank last.1) = falls
      · have left : Ranked rank (item :: rest) := fun first firstMember second secondMember =>
          ranked first (List.mem_cons_of_mem _ firstMember) second
            (List.mem_cons_of_mem _ secondMember)
        obtain ⟨run, others, found, whole, chain⟩ := ih left
        have next := goesOn_of_decide on
        refine ⟨item :: run, others, ?_, by rw [List.cons_append, whole], ?_⟩
        · rw [if_pos on, found]
          rfl
        · refine List.pairwise_cons.mpr ⟨?_, chain⟩
          intro other member
          rcases List.mem_cons.mp member with rfl | later
          · exact next
          · exact goesOn_trans next ((List.pairwise_cons.mp chain).1 other later)
      · refine ⟨[], item :: rest, ?_, rfl, List.pairwise_singleton _ _⟩
        rw [if_neg on]

/-- Sorting answers the items in the order of their ranks. -/
theorem sortBy?_spec {items : List (Value × α)} (ranked : Ranked rank items) :
    ∃ sorted, sortBy? items = some sorted ∧ sorted.Perm items ∧ Ordered rank sorted := by
  match items with
  | [] => exact ⟨[], rfl, .refl _, List.Pairwise.nil⟩
  | [item] => exact ⟨[item], rfl, .refl _, List.pairwise_singleton _ _⟩
  | first :: second :: rest =>
      have compared := ranked second (by simp) first (List.mem_cons_self ..)
      obtain ⟨run, others, found, whole, chain⟩ :=
        runFrom?_spec (decide (rank second.1 < rank first.1)) ranked
      let start := if decide (rank second.1 < rank first.1) then (first :: run).reverse
        else first :: run
      have startPerm : (start ++ others).Perm (first :: second :: rest) := by
        rw [← whole]
        change (start ++ others).Perm ((first :: run) ++ others)
        refine List.Perm.append_right others ?_
        unfold start
        split
        · exact List.reverse_perm _
        · exact .refl _
      have startOrdered : Ordered rank start := by
        unfold start Ordered
        split
        · next falls =>
          rw [falls] at chain
          exact List.pairwise_reverse.mpr (chain.imp fun less => le_of_lt less)
        · next rises =>
          rw [Bool.not_eq_true] at rises
          rw [rises] at chain
          exact chain
      have startRanked : Ranked rank (start ++ others) := fun one oneMember other otherMember =>
        ranked one (startPerm.mem_iff.mp oneMember) other (startPerm.mem_iff.mp otherMember)
      obtain ⟨sorted, folded, perm, ordered⟩ := foldlM_insertSorted?_spec startOrdered startRanked
      refine ⟨sorted, ?_, perm.trans startPerm, ordered⟩
      unfold sortBy?
      simp only [compared, found]
      exact folded

end

end GraphGateway.Value
