import Mathlib.Data.List.Nodup
import GraphGateway.Entries

/-!
Further laws of ordered maps, for those in which every key stands once.
-/
namespace GraphGateway.Entries

variable {α : Type}

theorem mem_of_get? {entries : Entries α} {key : String} {value : α}
    (found : entries.get? key = some value) : (key, value) ∈ entries := by
  induction entries with
  | nil => cases found
  | cons entry rest ih =>
      obtain ⟨other, old⟩ := entry
      rw [get?_cons] at found
      split at found
      · next same =>
          cases found
          rw [same]
          exact List.mem_cons_self ..
      · exact List.mem_cons_of_mem _ (ih found)

theorem get?_append (first second : Entries α) (key : String) :
    get? (first ++ second) key = (get? first key).or (get? second key) := by
  induction first with
  | nil => rfl
  | cons entry rest ih =>
      obtain ⟨other, old⟩ := entry
      rw [List.cons_append, get?_cons, get?_cons, ih]
      split <;> rfl

theorem mem_put {entries : Entries α} {key : String} {value : α} {entry : String × α}
    (member : entry ∈ entries.put key value) : entry = (key, value) ∨ entry ∈ entries := by
  induction entries with
  | nil => exact .inl (List.mem_singleton.mp member)
  | cons first rest ih =>
      obtain ⟨other, old⟩ := first
      unfold put at member
      split at member
      · rcases List.mem_cons.mp member with here | later
        · exact .inl here
        · exact .inr (List.mem_cons_of_mem _ later)
      · rcases List.mem_cons.mp member with here | later
        · exact .inr (List.mem_cons.mpr (.inl here))
        · exact (ih later).imp id (List.mem_cons_of_mem _)

@[simp] theorem ofPairs_singleton (pair : String × α) : ofPairs [pair] = [pair] := rfl

/-- All that stands in a map of pairs is one of the pairs. -/
theorem mem_ofPairs {pairs : List (String × α)} {entry : String × α}
    (member : entry ∈ ofPairs pairs) : entry ∈ pairs := by
  have folded : ∀ (rest : List (String × α)) (before : Entries α),
      entry ∈ rest.foldl (fun entries pair => entries.put pair.1 pair.2) before →
        entry ∈ before ∨ entry ∈ rest := by
    intro rest
    induction rest with
    | nil => exact fun _ inside => .inl inside
    | cons pair rest ih =>
        intro before inside
        rcases ih _ inside with old | later
        · rcases mem_put old with rfl | old
          · exact .inr (List.mem_cons_self ..)
          · exact .inl old
        · exact .inr (List.mem_cons_of_mem _ later)
  exact (folded pairs [] member).resolve_left List.not_mem_nil

theorem get?_eq_some_of_mem {entries : Entries α} {key : String} {value : α}
    (distinct : entries.keys.Nodup) (member : (key, value) ∈ entries) :
    entries.get? key = some value := by
  induction entries with
  | nil => cases member
  | cons entry rest ih =>
      obtain ⟨other, old⟩ := entry
      simp only [keys, List.map_cons, List.nodup_cons] at distinct
      rcases List.mem_cons.mp member with here | later
      · cases here
        rw [get?_cons, if_pos rfl]
      · have inside : key ∈ rest.map Prod.fst := List.mem_map_of_mem (f := Prod.fst) later
        have apart : other ≠ key := fun same => distinct.1 (same ▸ inside)
        rw [get?_cons, if_neg apart]
        exact ih distinct.2 later

theorem put_of_not_mem {entries : Entries α} {key : String} (value : α)
    (other : key ∉ entries.keys) : entries.put key value = entries ++ [(key, value)] := by
  induction entries with
  | nil => rfl
  | cons entry rest ih =>
      obtain ⟨first, old⟩ := entry
      simp only [keys, List.map_cons, List.mem_cons, not_or] at other
      rw [put, if_neg (Ne.symm other.1), ih other.2, List.cons_append]

/-- Pairs under different keys stay as they are. -/
theorem ofPairs_eq {pairs : List (String × α)} (distinct : (pairs.map Prod.fst).Nodup) :
    ofPairs pairs = pairs := by
  have folded : ∀ (rest : List (String × α)) (before : Entries α),
      (before.keys ++ rest.map Prod.fst).Nodup →
        rest.foldl (fun entries pair => entries.put pair.1 pair.2) before = before ++ rest := by
    intro rest
    induction rest with
    | nil => exact fun before _ => (List.append_nil before).symm
    | cons pair rest ih =>
        intro before distinct
        rw [List.map_cons, List.nodup_middle, List.nodup_cons] at distinct
        have other : pair.1 ∉ before.keys := fun member =>
          distinct.1 (List.mem_append_left _ member)
        rw [List.foldl_cons, put_of_not_mem _ other, ih]
        · rw [List.append_assoc]
          rfl
        · rw [keys, List.map_append, List.append_assoc]
          exact List.nodup_middle.mpr (List.nodup_cons.mpr distinct)
  exact folded pairs [] distinct

/-- The first of some pairs stays at the head of their map, if its key does not come again. -/
theorem head?_ofPairs {key : String} {value : α} {rest : List (String × α)}
    (alone : key ∉ rest.map Prod.fst) : (ofPairs ((key, value) :: rest)).head? = some (key, value) := by
  have folded : ∀ (rest : List (String × α)) (before : Entries α), key ∉ rest.map Prod.fst →
      (rest.foldl (fun entries pair => put entries pair.1 pair.2) ((key, value) :: before)).head? =
        some (key, value) := by
    intro rest
    induction rest with
    | nil => exact fun _ _ => rfl
    | cons pair rest ih =>
        intro before alone
        rw [List.map_cons, List.mem_cons, not_or] at alone
        have stays : put ((key, value) :: before) pair.1 pair.2 =
            (key, value) :: put before pair.1 pair.2 := if_neg alone.1
        rw [List.foldl_cons, stays]
        exact ih _ alone.2
  exact folded rest [] alone

end GraphGateway.Entries
