/-!
Maps that keep the order in which their keys came, as lists of pairs.  The first pair of a key
counts.
-/
namespace GraphGateway

abbrev Entries (α : Type) := List (String × α)

namespace Entries

variable {α : Type}

/-- The value under a key. -/
def get? : Entries α → String → Option α
  | [], _ => none
  | (other, value) :: rest, key => if other = key then some value else get? rest key

/-- Puts a value under a key: in place if the key is there, at the end otherwise. -/
def put : Entries α → String → α → Entries α
  | [], key, value => [(key, value)]
  | (other, old) :: rest, key, value =>
      if other = key then (key, value) :: rest else (other, old) :: put rest key value

def keys (entries : Entries α) : List String :=
  entries.map Prod.fst

def has (entries : Entries α) (key : String) : Bool :=
  (entries.get? key).isSome

/-- The pairs of a list put one after another. -/
def ofPairs (pairs : List (String × α)) : Entries α :=
  pairs.foldl (fun entries pair => entries.put pair.1 pair.2) []

@[simp] theorem get?_nil (key : String) : get? ([] : Entries α) key = none := rfl

theorem get?_cons (other key : String) (value : α) (rest : Entries α) :
    get? ((other, value) :: rest) key = if other = key then some value else get? rest key := rfl

theorem get?_put (entries : Entries α) (key wanted : String) (value : α) :
    (entries.put key value).get? wanted =
      if key = wanted then some value else entries.get? wanted := by
  induction entries with
  | nil => rfl
  | cons entry rest ih =>
      obtain ⟨other, old⟩ := entry
      by_cases here : other = key
      · subst here
        by_cases same : other = wanted <;> simp [put, get?, same]
      · by_cases found : other = wanted
        · subst found
          simp [put, get?, here, Ne.symm here]
        · simp [put, get?, here, found, ih]

theorem get?_isSome_iff (entries : Entries α) (key : String) :
    (entries.get? key).isSome = true ↔ key ∈ entries.keys := by
  induction entries with
  | nil => simp [keys]
  | cons entry rest ih =>
      obtain ⟨other, value⟩ := entry
      by_cases here : other = key
      · simp [get?, keys, here]
      · have apart : ¬ key = other := fun same => here same.symm
        simpa [get?, keys, here, apart] using ih

theorem keys_put (entries : Entries α) (key : String) (value : α) :
    (entries.put key value).keys =
      if key ∈ entries.keys then entries.keys else entries.keys ++ [key] := by
  induction entries with
  | nil => simp [put, keys]
  | cons entry rest ih =>
      obtain ⟨other, old⟩ := entry
      by_cases here : other = key
      · subst here
        simp [put, keys]
      · have apart : ¬ key = other := fun same => here same.symm
        simp only [keys] at ih
        by_cases inside : key ∈ rest.map Prod.fst <;> simp [put, keys, here, apart, ih, inside]

theorem keys_put_nodup (entries : Entries α) (key : String) (value : α)
    (distinct : entries.keys.Nodup) : (entries.put key value).keys.Nodup := by
  rw [keys_put]
  split
  · exact distinct
  · rename_i outside
    exact List.nodup_append.mpr ⟨distinct, by simp, by
      intro first member second last same
      simp only [List.mem_singleton] at last
      exact outside (last ▸ same ▸ member)⟩

end Entries

end GraphGateway
