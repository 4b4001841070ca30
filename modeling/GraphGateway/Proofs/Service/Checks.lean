import GraphGateway.Proofs.Schema.Reordered

/-!
The checks of a base schema do not see the order of its definitions.  What is served passed checks of
its own before its type system was built: it was read, it had no problem and no names were in
conflict.  The same definitions in another order pass them too, with the same types.
-/
namespace GraphGateway.Service

open Graphql (Document TypeSystem)
open Schema (Declared)
open Settings (Features)

namespace Served

/-- The types of a base schema that passes its checks. -/
def checked (document : Document) (features : Features) : Except Refusal TypeSystem :=
  match Declared.ofDocument? document with
  | none => .error .unreadable
  | some declared => do
      match ← problemsOf declared features with
      | [] => (declared.model.augmented features.relationshipProperties).mapError .problems
      | problems => throw (.problems problems)

/-- A base schema is served exactly if it passes the checks and its types can be built. -/
theorem ofDocument_types (document : Document) (features : Features) (spareKey : List UInt8) :
    (types <$> ofDocument document features spareKey) = (do
      let types ← checked document features
      types.build.mapError .types
      pure types) := by
  unfold ofDocument checked
  cases Declared.ofDocument? document with
  | none => rfl
  | some declared =>
      dsimp only
      cases problemsOf declared features with
      | error refusal => rfl
      | ok problems =>
          cases problems with
          | cons => rfl
          | nil =>
              change types <$> ofModel declared.model features spareKey = _
              unfold ofModel
              cases declared.model.augmented features.relationshipProperties with
              | error problems => rfl
              | ok types =>
                  dsimp only [bind, Except.bind, Except.mapError]
                  cases types.build <;> rfl

section

variable {document other : Document} {features : Features}

theorem checked_ok_iff {types : TypeSystem} : checked document features = .ok types ↔
    ∃ declared, Declared.ofDocument? document = some declared ∧
      problemsOf declared features = .ok [] ∧
      declared.model.augmented features.relationshipProperties = .ok types := by
  unfold checked
  constructor
  · intro passed
    split at passed
    · cases passed
    · next declared read =>
      obtain ⟨problems, found, grown⟩ := Outcome.bind_ok_iff.mp passed
      split at grown
      · exact ⟨declared, read, found, Outcome.mapError_ok_iff.mp grown⟩
      · cases grown
  · rintro ⟨declared, read, found, augmented⟩
    rw [read]
    dsimp only
    rw [found]
    exact Outcome.mapError_ok_iff.mpr augmented

/-- Whether there is a problem is no matter of order. -/
theorem problemsOf_nil {declared rearranged : Declared}
    (rearranges : declared.Rearranges rearranged) (found : problemsOf declared features = .ok []) :
    problemsOf rearranged features = .ok [] := by
  have problems (none_ : declared.problems = []) : rearranged.problems = [] :=
    (none_ ▸ rearranges.problems).nil_eq.symm
  unfold problemsOf at found ⊢
  split at found
  · next offered =>
    rw [if_pos offered]
    obtain ⟨violations, ran, none_⟩ := Outcome.map_ok_iff.mp found
    obtain ⟨own, kept⟩ := List.append_eq_nil_iff.mp none_
    rw [Outcome.mapError_ok_iff, kept] at ran
    rw [rearranges.model.violations_nil ran, problems own]
    rfl
  · next plain =>
    rw [if_neg plain]
    exact congrArg Except.ok (problems (Except.ok.inj found))

/-- What passes in one order passes in another, with the same types. -/
theorem exists_checked (named : document.IsUniquelyNamed) (perm : document.Perm other)
    {types : TypeSystem} (passed : checked document features = .ok types) :
    ∃ others, checked other features = .ok others ∧ types.Alike others := by
  obtain ⟨declared, read, found, augmented⟩ := checked_ok_iff.mp passed
  have related := Declared.ofDocument?_rearranges named perm
  rw [read] at related
  cases readToo : Declared.ofDocument? other with
  | none =>
      rw [readToo] at related
      cases related
  | some rearranged =>
      rw [readToo] at related
      cases related with
      | some rearranges =>
          obtain ⟨others, augmentedToo⟩ := rearranges.model.augmented_ok_iff.mp ⟨types, augmented⟩
          exact ⟨others,
            checked_ok_iff.mpr ⟨rearranged, readToo, problemsOf_nil rearranges found, augmentedToo⟩,
            rearranges.model.augmented_alike augmented augmentedToo⟩

end

/-- Definitions of different names pass the checks in any order or in none, and grow into the same
types, of which only the root types may have their fields in another order. -/
theorem checked_reordered {document other : Document} (named : document.IsUniquelyNamed)
    (perm : document.Perm other) (features : Features) :
    ((∃ types, checked document features = .ok types) ↔
      ∃ others, checked other features = .ok others) ∧
    ∀ types others, checked document features = .ok types → checked other features = .ok others →
      types.Alike others := by
  refine ⟨⟨?_, ?_⟩, ?_⟩
  · rintro ⟨types, passed⟩
    obtain ⟨others, passedToo, -⟩ := exists_checked named perm passed
    exact ⟨others, passedToo⟩
  · rintro ⟨others, passed⟩
    obtain ⟨types, passedToo, -⟩ :=
      exists_checked (Declared.isUniquelyNamed_of_perm named perm) perm.symm passed
    exact ⟨types, passedToo⟩
  · intro types others passed passedToo
    obtain ⟨again, same, alike⟩ := exists_checked named perm passed
    rw [passedToo] at same
    cases same
    exact alike

/-- A relationship between films and people, which both ends declare with its properties. -/
def castDocument : Document :=
  [.object
    { name := "Film", directives := []
      fields :=
        [⟨"genre", .named "Genre", []⟩,
         ⟨"actors", .list (.named "Person"),
          [⟨"relationship",
            [("type", .string "ACTED_IN" false), ("direction", .enum "IN"),
             ("properties", .string "ActedIn" false)]⟩]⟩] },
   .object
    { name := "Person", directives := []
      fields :=
        [⟨"films", .list (.named "Film"),
          [⟨"relationship",
            [("type", .string "ACTED_IN" false), ("direction", .enum "OUT"),
             ("properties", .string "ActedIn" false)]⟩]⟩] },
   .interface { name := "ActedIn", directives := [], fields := [⟨"role", .named "String", []⟩] },
   .enum { name := "Genre", values := ["DRAMA", "COMEDY"] }]

theorem checked_reordered_cast :
    castDocument.IsUniquelyNamed ∧ ∃ types others, checked castDocument {} = .ok types ∧
      checked castDocument.reverse {} = .ok others ∧ types.definitions ≠ others.definitions ∧
      types.Alike others := by
  have named : castDocument.IsUniquelyNamed := ⟨by decide, by decide⟩
  obtain ⟨-, alike⟩ := checked_reordered named castDocument.reverse_perm.symm {}
  have differ : (checked castDocument {}).toOption.any (fun types =>
      (checked castDocument.reverse {}).toOption.any fun others =>
        types.definitions ≠ others.definitions) = true := by
    decide +kernel
  obtain ⟨types, passed, differ⟩ := (Option.any_eq_true _ _).mp differ
  obtain ⟨others, passedToo, differ⟩ := (Option.any_eq_true _ _).mp differ
  rw [Outcome.toOption_eq_some_iff] at passed passedToo
  exact ⟨named, types, others, passed, passedToo, of_decide_eq_true differ,
    alike types others passed passedToo⟩

end Served

end GraphGateway.Service
