import GraphGateway.Proofs.Graphql.Reach
import GraphGateway.Proofs.Outcome

/-!
Spreads written out.  In the place of a spread may stand an inline fragment with the directives of the
spread, and with the condition and the selections of the fragment; inside these, spreads may be
written out again.  A document with spreads written out has the same operations and fragments apart
from that, and where no fragment reached itself none does so afterwards.
-/
namespace GraphGateway.Graphql

open Outcome (partner_of_mem_others)

mutual

/-- The second selection is the first one with any number of spreads written out. -/
inductive Selection.WrittenOut (document : Document) : Selection → Selection → Prop where
  | field (key : Option String) (name : String) (arguments : Arguments)
      (directives : List Directive) {selections others : List Selection}
      (inside : Selection.AllWrittenOut document selections others) :
      Selection.WrittenOut document (.field key name arguments directives selections)
        (.field key name arguments directives others)
  | inline (condition : Option String) (directives : List Directive)
      {selections others : List Selection}
      (inside : Selection.AllWrittenOut document selections others) :
      Selection.WrittenOut document (.inline condition directives selections)
        (.inline condition directives others)
  | spread (name : String) (directives : List Directive) :
      Selection.WrittenOut document (.spread name directives) (.spread name directives)
  | opened {name : String} {fragment : Fragment} (directives : List Directive)
      {others : List Selection} (found : document.fragment? name = some fragment)
      (inside : Selection.AllWrittenOut document fragment.selections others) :
      Selection.WrittenOut document (.spread name directives)
        (.inline (some fragment.condition) directives others)

inductive Selection.AllWrittenOut (document : Document) : List Selection → List Selection → Prop where
  | nil : Selection.AllWrittenOut document [] []
  | cons {selection other : Selection} {selections others : List Selection}
      (first : Selection.WrittenOut document selection other)
      (rest : Selection.AllWrittenOut document selections others) :
      Selection.AllWrittenOut document (selection :: selections) (other :: others)

end

section

variable {document : Document}

mutual

/-- Every spread may stay. -/
theorem Selection.WrittenOut.refl : (selection : Selection) →
    Selection.WrittenOut document selection selection
  | .field key name arguments directives selections =>
      .field key name arguments directives (Selection.AllWrittenOut.refl selections)
  | .inline condition directives selections =>
      .inline condition directives (Selection.AllWrittenOut.refl selections)
  | .spread name directives => .spread name directives

theorem Selection.AllWrittenOut.refl : (selections : List Selection) →
    Selection.AllWrittenOut document selections selections
  | [] => .nil
  | selection :: rest =>
      .cons (Selection.WrittenOut.refl selection) (Selection.AllWrittenOut.refl rest)

end

theorem Selection.AllWrittenOut.append {first others second more : List Selection}
    (one : Selection.AllWrittenOut document first others)
    (rest : Selection.AllWrittenOut document second more) :
    Selection.AllWrittenOut document (first ++ second) (others ++ more) :=
  match one with
  | .nil => rest
  | .cons selection later => .cons selection (later.append rest)

mutual

theorem Selection.WrittenOut.spreads {selection other : Selection} :
    Selection.WrittenOut document selection other →
    ∀ name ∈ other.spreads, document.Reaches [selection] name
  | .field _ _ _ _ inside, name, member => by
      refine (inside.spreads name member).mono fun next spread => .spread ?_
      rwa [Selection.spreadsOf, Selection.spreads, Selection.spreadsOf, List.append_nil]
  | .inline _ _ inside, name, member => by
      refine (inside.spreads name member).mono fun next spread => .spread ?_
      rwa [Selection.spreadsOf, Selection.spreads, Selection.spreadsOf, List.append_nil]
  | .spread _ _, name, member => .spread member
  | .opened _ found inside, name, member =>
      (inside.spreads name member).mono fun _ spread =>
        .through (.spread (List.mem_singleton_self _)) found spread

/-- What is spread after writing out was reached before. -/
theorem Selection.AllWrittenOut.spreads {selections others : List Selection} :
    Selection.AllWrittenOut document selections others →
    ∀ name ∈ Selection.spreadsOf others, document.Reaches selections name
  | .nil, name, member => by cases member
  | .cons first rest, name, member => by
      rcases List.mem_append.mp member with here | later
      · refine (first.spreads name here).mono fun next spread => .spread ?_
        rw [Selection.spreadsOf, Selection.spreadsOf, List.append_nil] at spread
        exact List.mem_append_left _ spread
      · exact (rest.spreads name later).mono fun next spread =>
          .spread (List.mem_append_right _ spread)

end

end

/-- The second definition is the first one with spreads written out. -/
inductive Definition.WrittenOut (document : Document) : Definition → Definition → Prop where
  | operation (operation : Operation) {others : List Selection}
      (inside : Selection.AllWrittenOut document operation.selections others) :
      Definition.WrittenOut document (.operation operation)
        (.operation { operation with selections := others })
  | fragment (fragment : Fragment) {others : List Selection}
      (inside : Selection.AllWrittenOut document fragment.selections others) :
      Definition.WrittenOut document (.fragment fragment)
        (.fragment { fragment with selections := others })
  | same (definition : Definition) : Definition.WrittenOut document definition definition

/-- The second operation is the first one but for what it selects. -/
structure Operation.WrittenOut (document : Document) (operation other : Operation) : Prop where
  kind : other.kind = operation.kind
  name : other.name = operation.name
  inside : Selection.AllWrittenOut document operation.selections other.selections

structure Fragment.WrittenOut (document : Document) (fragment other : Fragment) : Prop where
  name : other.name = fragment.name
  condition : other.condition = fragment.condition
  inside : Selection.AllWrittenOut document fragment.selections other.selections

namespace Document

/-- The second document is the first one with spreads written out, by its own fragments. -/
def WrittenOut (document replaced : Document) : Prop :=
  List.Forall₂ (Definition.WrittenOut document) document replaced

section

variable {document : Document} {definitions others : List Definition}
  (related : List.Forall₂ (Definition.WrittenOut document) definitions others)

include related

theorem operations_writtenOut :
    List.Forall₂ (Operation.WrittenOut document) (operations definitions) (operations others) := by
  induction related with
  | nil => exact .nil
  | @cons definition _ _ _ first _ ih =>
      cases first with
      | operation operation inside => exact .cons ⟨rfl, rfl, inside⟩ ih
      | fragment fragment inside => exact ih
      | same =>
          cases definition with
          | operation operation =>
              exact .cons ⟨rfl, rfl, .refl _⟩ ih
          | _ => exact ih

theorem fragments_writtenOut :
    List.Forall₂ (Fragment.WrittenOut document) (fragments definitions) (fragments others) := by
  induction related with
  | nil => exact .nil
  | @cons definition _ _ _ first _ ih =>
      cases first with
      | operation operation inside => exact ih
      | fragment fragment inside => exact .cons ⟨rfl, rfl, inside⟩ ih
      | same =>
          cases definition with
          | fragment fragment => exact .cons ⟨rfl, rfl, .refl _⟩ ih
          | _ => exact ih

end

namespace WrittenOut

variable {document replaced : Document} (writtenOut : document.WrittenOut replaced)

include writtenOut

/-- Under a name either document has a fragment, the same one, or neither. -/
theorem fragment?_cases (name : String) :
    document.fragment? name = none ∧ replaced.fragment? name = none ∨
      ∃ fragment other, document.fragment? name = some fragment ∧
        replaced.fragment? name = some other ∧ fragment.WrittenOut document other := by
  have related : Option.Rel (Fragment.WrittenOut document) (document.fragment? name)
      (replaced.fragment? name) := by
    refine Outcome.find?_related (List.forall₂_reverse_iff.mpr (fragments_writtenOut writtenOut)) ?_
    intro fragment other same
    rw [same.name]
  generalize document.fragment? name = one, replaced.fragment? name = another at related
  cases related with
  | none => exact .inl ⟨rfl, rfl⟩
  | some same => exact .inr ⟨_, _, rfl, rfl, same⟩

/-- A request means the same operation of either document, or none of either. -/
theorem operation?_cases (wanted : Option String) :
    document.operation? wanted = none ∧ replaced.operation? wanted = none ∨
      ∃ operation other, document.operation? wanted = some operation ∧
        replaced.operation? wanted = some other ∧ operation.WrittenOut document other := by
  have related := operations_writtenOut writtenOut
  have found : Option.Rel (Operation.WrittenOut document) (document.operation? wanted)
      (replaced.operation? wanted) := by
    cases wanted with
    | some name =>
        refine Outcome.find?_related related ?_
        intro operation other same
        rw [same.name]
    | none =>
        unfold Document.operation?
        generalize document.operations = operations, replaced.operations = others at related
        rcases related with _ | ⟨first, _ | _⟩
        · exact .none
        · exact .some first
        · exact .none
  generalize document.operation? wanted = one, replaced.operation? wanted = another at found
  cases found with
  | none => exact .inl ⟨rfl, rfl⟩
  | some same => exact .inr ⟨_, _, rfl, rfl, same⟩

theorem fragment?_isSome (name : String) :
    (replaced.fragment? name).isSome = (document.fragment? name).isSome := by
  obtain ⟨one, other⟩ | ⟨fragment, another, one, other, -⟩ := writtenOut.fragment?_cases name
  · rw [one, other]
  · rw [one, other]
    rfl

/-- Selections with spreads written out reach nothing else. -/
theorem reaches {selections others : List Selection}
    (inside : Selection.AllWrittenOut document selections others) {name : String}
    (reaches : replaced.Reaches others name) : document.Reaches selections name := by
  induction reaches with
  | spread member => exact inside.spreads _ member
  | @through name other fragment _ found member ih =>
      obtain ⟨-, missing⟩ | ⟨first, _, known, same, writtenOut⟩ := writtenOut.fragment?_cases name
      · cases found.symm.trans missing
      · cases found.symm.trans same
        exact (writtenOut.inside.spreads _ member).mono fun next spread => .through ih known spread

/-- Where no fragment reaches itself none does so with spreads written out. -/
theorem isAcyclic (acyclic : document.IsAcyclic) : replaced.IsAcyclic := by
  intro other member reached
  obtain ⟨reaches, there⟩ := mem_reachable_iff.mp reached
  obtain ⟨fragment, among, same⟩ := partner_of_mem_others (fragments_writtenOut writtenOut) member
  refine acyclic fragment among (mem_reachable_iff.mpr ⟨?_, ?_⟩)
  · rw [← same.name]
    exact writtenOut.reaches same.inside reaches
  · rwa [← same.name, ← writtenOut.fragment?_isSome]

end WrittenOut

end Document

end GraphGateway.Graphql
