import GraphGateway.Cypher.Supply

/-!
Laws of naming.  A name ends in its number, so that no two names of one statement are the same, and
a parameter keeps its value whatever is named later.

Two courses of naming go together if they take the same steps and differ in the values of parameters
only.  Then they answer the same, and their parameters have the same names.
-/
namespace GraphGateway.Cypher

/-- The name with a base and a number. -/
def numbered (base : String) (number : Nat) : String := s!"{base}_{number}"

theorem numbered_toList (base : String) (number : Nat) :
    (numbered base number).toList = base.toList ++ '_' :: Nat.toDigits 10 number := by
  simp [numbered, String.toList_append, toString]

theorem numbered_ne_empty (base : String) (number : Nat) : numbered base number ≠ "" := by
  intro empty
  have chars := congrArg String.toList empty
  rw [numbered_toList] at chars
  exact List.append_ne_nil_of_right_ne_nil _ (List.cons_ne_nil _ _) chars

theorem underscore_not_mem_toDigits (number : Nat) : '_' ∉ Nat.toDigits 10 number := by
  intro member
  have digit := Nat.isDigit_of_mem_toDigits (by decide) (by decide) member
  revert digit
  decide

theorem toDigits_injective : Function.Injective (Nat.toDigits 10) := by
  intro number another same
  rw [← Nat.ofDigitChars_toDigits (b := 10) (n := number) (by decide) (by decide), same,
    Nat.ofDigitChars_toDigits (by decide) (by decide)]

/-- What follows the last occurrence of an item is determined by the whole. -/
theorem suffix_eq {α : Type} {item : α} {first second last final : List α}
    (same : first ++ item :: last = second ++ item :: final) (lastFree : item ∉ last)
    (finalFree : item ∉ final) : last = final := by
  induction first generalizing second with
  | nil =>
      cases second with
      | nil => exact (List.cons.inj same).2
      | cons head tail =>
          have left := (List.cons.inj same).2
          rw [left] at lastFree
          exact absurd (List.mem_append_right tail (List.mem_cons_self ..)) lastFree
  | cons head tail ih =>
      cases second with
      | nil =>
          have left := (List.cons.inj same).2
          rw [← left] at finalFree
          exact absurd (List.mem_append_right tail (List.mem_cons_self ..)) finalFree
      | cons other rest => exact ih (List.cons.inj same).2

theorem number_eq_of_numbered_eq {base other : String} {number another : Nat}
    (same : numbered base number = numbered other another) : number = another := by
  have chars := congrArg String.toList same
  rw [numbered_toList, numbered_toList] at chars
  exact toDigits_injective (suffix_eq chars (underscore_not_mem_toDigits number)
    (underscore_not_mem_toDigits another))

theorem base_eq_of_numbered_eq {base other : String} {number another : Nat}
    (same : numbered base number = numbered other another) : base = other := by
  have chars := congrArg String.toList same
  rw [numbered_toList, numbered_toList, number_eq_of_numbered_eq same] at chars
  exact String.toList_inj.mp (List.append_cancel_right chars)

namespace Supply

/-- Supplies that differ in nothing but the values of their parameters. -/
structure Alike (one other : Supply) : Prop where
  issued : one.issued = other.issued
  keys : one.parameters.keys = other.parameters.keys

theorem Alike.refl (supply : Supply) : supply.Alike supply := ⟨rfl, rfl⟩

/-- All parameters of a supply bear numbers that it has issued. -/
def IsSound (supply : Supply) : Prop :=
  ∀ name ∈ supply.parameters.keys, ∃ base number,
    name = numbered base number ∧ number ≤ supply.issued

/-- Nothing is taken back from a supply on the way to a later one. -/
structure Extends (supply later : Supply) : Prop where
  issued : supply.issued ≤ later.issued
  kept : ∀ name value, supply.parameters.get? name = some value →
    later.parameters.get? name = some value

theorem Extends.refl (supply : Supply) : supply.Extends supply := ⟨Nat.le_refl _, fun _ _ => id⟩

theorem Extends.trans {supply middle later : Supply} (first : supply.Extends middle)
    (second : middle.Extends later) : supply.Extends later where
  issued := Nat.le_trans first.issued second.issued
  kept name value found := second.kept name value (first.kept name value found)

/-- A number that is not issued yet makes a new name. -/
theorem IsSound.ne_of_get? {supply : Supply} (sound : supply.IsSound) {name : String}
    {value : Value} (found : supply.parameters.get? name = some value) (base : String) :
    numbered base (supply.issued + 1) ≠ name := by
  intro same
  have member : name ∈ supply.parameters.keys := by
    rw [← Entries.get?_isSome_iff, found]
    rfl
  obtain ⟨other, number, spelled, bound⟩ := sound name member
  have numbers := number_eq_of_numbered_eq (same.trans spelled)
  omega

theorem isSound_empty : IsSound {} := fun _ member => absurd member List.not_mem_nil

end Supply

theorem newName_apply (base : String) (supply : Supply) :
    newName base supply =
      (numbered base (supply.issued + 1), { supply with issued := supply.issued + 1 }) := rfl

theorem bindValue_apply (value : Value) (base : String) (supply : Supply) :
    bindValue value base supply =
      (.parameter (numbered base (supply.issued + 1)),
        { issued := supply.issued + 1
          parameters := supply.parameters.put (numbered base (supply.issued + 1)) value }) := rfl

/-- A value stands under the name of its parameter. -/
theorem get?_bindValue (value : Value) (base : String) (supply : Supply) :
    (bindValue value base supply).2.parameters.get? (numbered base (supply.issued + 1)) =
      some value := by
  rw [bindValue_apply, Entries.get?_put, if_pos rfl]

namespace Naming

variable {α β : Type}

theorem bind_apply (naming : Naming α) (next : α → Naming β) (supply : Supply) :
    (naming >>= next) supply = next (naming supply).1 (naming supply).2 := rfl

/-- Two courses of naming that take the same steps, with whatever values for the parameters. -/
inductive Together : {α : Type} → Naming α → Naming α → Prop where
  | pure {α : Type} (answer : α) : Together (Pure.pure answer) (Pure.pure answer)
  | bind {α β : Type} {one other : Naming α} {next later : α → Naming β}
      (together : Together one other)
      (goOn : ∀ answer, Together (next answer) (later answer)) :
      Together (one >>= next) (other >>= later)
  | newName (base : String) : Together (newName base) (newName base)
  | bindValue (one other : Value) (base : String) :
      Together (bindValue one base) (bindValue other base)

/-- Courses that go together answer the same, and leave alike supplies behind. -/
theorem Together.alike {one other : Naming α} (together : Together one other)
    {first second : Supply} (alike : first.Alike second) :
    (one first).1 = (other second).1 ∧ (one first).2.Alike (other second).2 := by
  induction together generalizing first second with
  | pure answer => exact ⟨rfl, alike⟩
  | bind together goOn ih next =>
      obtain ⟨same, left⟩ := ih alike
      rw [bind_apply, bind_apply, same]
      exact next _ left
  | newName base =>
      rw [newName_apply, newName_apply, alike.issued]
      exact ⟨rfl, rfl, alike.keys⟩
  | bindValue value another base =>
      rw [bindValue_apply, bindValue_apply, alike.issued]
      refine ⟨rfl, rfl, ?_⟩
      rw [Entries.keys_put, Entries.keys_put, alike.keys]

/-- A course that goes with another one takes nothing back of a sound supply. -/
theorem Together.extends {one other : Naming α} (together : Together one other) {supply : Supply}
    (sound : supply.IsSound) : (one supply).2.IsSound ∧ supply.Extends (one supply).2 := by
  induction together generalizing supply with
  | pure answer => exact ⟨sound, .refl supply⟩
  | bind together goOn ih next =>
      obtain ⟨middle, first⟩ := ih sound
      obtain ⟨later, second⟩ := next _ middle
      exact ⟨later, first.trans second⟩
  | newName base =>
      rw [newName_apply]
      refine ⟨?_, Nat.le_succ _, fun _ _ => id⟩
      intro name member
      obtain ⟨base, number, same, bound⟩ := sound name member
      exact ⟨base, number, same, Nat.le_succ_of_le bound⟩
  | bindValue value another base =>
      rw [bindValue_apply]
      refine ⟨?_, Nat.le_succ _, ?_⟩
      · intro name member
        rw [Entries.keys_put] at member
        split at member
        · obtain ⟨base, number, same, bound⟩ := sound name member
          exact ⟨base, number, same, Nat.le_succ_of_le bound⟩
        · rcases List.mem_append.mp member with old | new
          · obtain ⟨base, number, same, bound⟩ := sound name old
            exact ⟨base, number, same, Nat.le_succ_of_le bound⟩
          · exact ⟨base, _, List.mem_singleton.mp new, Nat.le_refl _⟩
      · intro name value found
        rw [Entries.get?_put, if_neg (sound.ne_of_get? found base)]
        exact found

end Naming

end GraphGateway.Cypher

/-!
What naming ensures.  A course of naming ensures a fact about its answer and the values of the
parameters if the fact holds whatever is named later: no parameter loses the value that it got.
-/
namespace GraphGateway.Cypher.Naming

variable {α β : Type}

/-- A course that takes nothing back, and after which a fact holds for good. -/
def Ensures (naming : Naming α) (fact : α → Entries Value → Prop) : Prop :=
  ∀ supply, supply.IsSound → (naming supply).2.IsSound ∧ supply.Extends (naming supply).2 ∧
    ∀ later, (naming supply).2.Extends later → fact (naming supply).1 later.parameters

/-- A parameter with a value. -/
def Holds (value : Value) (parameter : Expression) (parameters : Entries Value) : Prop :=
  ∃ name, parameter = .parameter name ∧ parameters.get? name = some value

namespace Ensures

variable {naming : Naming α} {next : α → Naming β} {fact : α → Entries Value → Prop}
  {goal : β → Entries Value → Prop}

theorem pure {answer : α} (holds : ∀ parameters, fact answer parameters) :
    Ensures (Pure.pure answer) fact :=
  fun supply sound => ⟨sound, .refl supply, fun later _ => holds later.parameters⟩

theorem bind (first : Ensures naming fact)
    (rest : ∀ answer, Ensures (next answer) fun result parameters =>
      fact answer parameters → goal result parameters) : Ensures (naming >>= next) goal := by
  intro supply sound
  obtain ⟨middle, kept, holds⟩ := first supply sound
  obtain ⟨final, grown, reached⟩ := rest (naming supply).1 (naming supply).2 middle
  refine ⟨final, kept.trans grown, fun later extended => ?_⟩
  exact reached later extended (holds later (grown.trans extended))

/-- What an answer satisfies whatever the parameters are may be used in what follows it. -/
theorem bind_of {fact : α → Prop} (first : Ensures naming fun answer _ => fact answer)
    (rest : ∀ answer, fact answer → Ensures (next answer) goal) :
    Ensures (naming >>= next) goal := by
  intro supply sound
  obtain ⟨middle, kept, holds⟩ := first supply sound
  obtain ⟨final, grown, reached⟩ := rest _ (holds _ (.refl _)) (naming supply).2 middle
  exact ⟨final, kept.trans grown, reached⟩

theorem imp {weaker : α → Entries Value → Prop} (first : Ensures naming fact)
    (weaken : ∀ answer parameters, fact answer parameters → weaker answer parameters) :
    Ensures naming weaker := by
  intro supply sound
  obtain ⟨final, grown, holds⟩ := first supply sound
  exact ⟨final, grown, fun later extended => weaken _ _ (holds later extended)⟩

theorem newName (base : String) :
    Ensures (newName base) fun name _ => ∃ number, name = numbered base number := by
  intro supply sound
  obtain ⟨final, grown⟩ := (Together.newName base).extends sound
  exact ⟨final, grown, fun _ _ => ⟨_, rfl⟩⟩

/-- A parameter keeps the value that it is made for. -/
theorem bindValue (value : Value) (base : String) :
    Ensures (bindValue value base) fun parameter parameters => Holds value parameter parameters := by
  intro supply sound
  obtain ⟨final, grown⟩ := (Together.bindValue value value base).extends sound
  refine ⟨final, grown, fun later extended => ?_⟩
  exact ⟨_, rfl, extended.kept _ value (get?_bindValue value base supply)⟩

/-- What is ensured holds of what is named from the start on. -/
theorem run (first : Ensures naming fact) : fact (naming {}).1 (naming {}).2.parameters :=
  (first {} Supply.isSound_empty).2.2 _ (.refl _)

end Ensures

end GraphGateway.Cypher.Naming

/-!
Which names are new.  A name that a course of naming gives out has a number above all that were
given out before.  So it differs from every name that is known by then: those have a smaller number,
or no number at all.
-/
namespace GraphGateway.Cypher

/-- A name with a number above `start` and up to `last`. -/
def Between (start last : Nat) (name : String) : Prop :=
  ∃ base number, name = numbered base number ∧ start < number ∧ number ≤ last

/-- Names whose numbers, where they have any, go up to `last`. -/
def KnownBy (last : Nat) (names : List String) : Prop :=
  ∀ name ∈ names, ∀ base number, name = numbered base number → number ≤ last

section

variable {start middle last final : Nat} {name other : String} {names others : List String}

theorem Between.mono (between : Between middle last name) (lower : start ≤ middle)
    (upper : last ≤ final) : Between start final name := by
  obtain ⟨base, number, same, above, below⟩ := between
  exact ⟨base, number, same, by omega, by omega⟩

/-- Names from two stretches of numbers differ. -/
theorem Between.ne (first : Between start middle name) (second : Between last final other)
    (apart : middle ≤ last) : name ≠ other := by
  obtain ⟨base, number, rfl, -, below⟩ := first
  obtain ⟨another, larger, rfl, above, -⟩ := second
  intro same
  have numbers := number_eq_of_numbered_eq same
  omega

theorem Between.ne_empty (between : Between start last name) : name ≠ "" := by
  obtain ⟨base, number, rfl, -⟩ := between
  exact numbered_ne_empty base number

theorem Between.known (between : Between start last name) : KnownBy last [name] := by
  obtain ⟨base, number, rfl, -, below⟩ := between
  intro other member another larger same
  rw [List.mem_singleton.mp member] at same
  rw [← number_eq_of_numbered_eq same]
  exact below

theorem KnownBy.nil : KnownBy last [] := fun _ member => absurd member List.not_mem_nil

theorem KnownBy.mono (known : KnownBy start names) (later : start ≤ last) : KnownBy last names :=
  fun name member base number same => Nat.le_trans (known name member base number same) later

theorem KnownBy.append (known : KnownBy last names) (added : KnownBy last others) :
    KnownBy last (names ++ others) := by
  intro name member
  rcases List.mem_append.mp member with here | there
  · exact known name here
  · exact added name there

theorem KnownBy.of_subset (known : KnownBy last others) (fewer : names ⊆ others) :
    KnownBy last names :=
  fun name member => known name (fewer member)

/-- A name with a number above those of all known names is new. -/
theorem KnownBy.not_mem (known : KnownBy start names) (between : Between start last name) :
    name ∉ names := by
  obtain ⟨base, number, rfl, above, -⟩ := between
  intro member
  have below := known _ member base number rfl
  omega

/-- A name that has no number is known from the start. -/
theorem KnownBy.cons_unnumbered (known : KnownBy last names)
    (bare : ∀ base number, name ≠ numbered base number) : KnownBy last (name :: names) := by
  intro other member base number same
  rcases List.mem_cons.mp member with rfl | later
  · exact absurd same (bare base number)
  · exact known other later base number same

end

/-- A name without an underscore has no number. -/
theorem ne_numbered_of_not_mem {name : String} (bare : '_' ∉ name.toList) (base : String)
    (number : Nat) : name ≠ numbered base number := by
  rintro rfl
  rw [numbered_toList] at bare
  exact bare (List.mem_append_right _ (List.mem_cons_self ..))

/-- A name that does not end in a digit has no number. -/
theorem ne_numbered_of_ending {name : String} {head : List Char} {c : Char}
    (ends : name.toList = head ++ [c]) (other : c.isDigit = false) (base : String) (number : Nat) :
    name ≠ numbered base number := by
  rintro rfl
  rw [numbered_toList] at ends
  have digits : Nat.toDigits 10 number ≠ [] := Nat.toDigits_ne_nil
  obtain ⟨front, final, split⟩ : ∃ front final, Nat.toDigits 10 number = front ++ [final] :=
    ⟨_, _, (List.dropLast_concat_getLast digits).symm⟩
  have digit : final.isDigit = true :=
    Nat.isDigit_of_mem_toDigits (b := 10) (n := number) (by decide) (by decide) (by simp [split])
  rw [split, ← List.cons_append, ← List.append_assoc] at ends
  rw [List.cons.inj (List.append_inj' ends rfl).2 |>.1, other] at digit
  cases digit

namespace Naming

variable {α β : Type}

/-- A course that issues numbers on, and a fact about its answer that refers to the numbers issued
before it and behind it. -/
def Spans (naming : Naming α) (fact : Nat → Nat → α → Prop) : Prop :=
  ∀ supply, supply.issued ≤ (naming supply).2.issued ∧
    fact supply.issued (naming supply).2.issued (naming supply).1

namespace Spans

variable {naming : Naming α} {next : α → Naming β} {fact : Nat → Nat → α → Prop}
  {goal : Nat → Nat → β → Prop}

theorem pure {answer : α} (holds : ∀ issued, fact issued issued answer) :
    Spans (Pure.pure answer) fact :=
  fun supply => ⟨Nat.le_refl _, holds supply.issued⟩

theorem bind (first : Spans naming fact)
    (rest : ∀ answer, Spans (next answer) fun middle last result =>
      ∀ start ≤ middle, fact start middle answer → goal start last result) :
    Spans (naming >>= next) goal := by
  intro supply
  obtain ⟨before, holds⟩ := first supply
  obtain ⟨behind, reached⟩ := rest (naming supply).1 (naming supply).2
  exact ⟨Nat.le_trans before behind, reached supply.issued before holds⟩

theorem imp {weaker : Nat → Nat → α → Prop} (first : Spans naming fact)
    (weaken : ∀ start last answer, start ≤ last → fact start last answer →
      weaker start last answer) : Spans naming weaker := by
  intro supply
  obtain ⟨grown, holds⟩ := first supply
  exact ⟨grown, weaken _ _ _ grown holds⟩

theorem and {other : Nat → Nat → α → Prop} (first : Spans naming fact)
    (second : Spans naming other) : Spans naming fun start last answer =>
      fact start last answer ∧ other start last answer :=
  fun supply => ⟨(first supply).1, (first supply).2, (second supply).2⟩

theorem newName (base : String) : Spans (newName base) Between := by
  intro supply
  rw [newName_apply]
  exact ⟨Nat.le_succ _, base, _, rfl, Nat.lt_succ_self _, Nat.le_refl _⟩

theorem bindValue (value : Value) (base : String) :
    Spans (bindValue value base) fun _ _ parameter => ∃ name, parameter = .parameter name := by
  intro supply
  rw [bindValue_apply]
  exact ⟨Nat.le_succ _, _, rfl⟩

/-- What holds of a course holds of the names given out from the start on. -/
theorem run (first : Spans naming fact) : fact 0 (naming {}).2.issued (naming {}).1 :=
  (first {}).2

end Spans

end Naming

end GraphGateway.Cypher
