import GraphGateway.Proofs.Graphql.Inlining
import GraphGateway.Proofs.Request.Unrolled

/-!
Fields of a document with spreads written out.  What is unrolled of the two documents are the same
fields one by one.  Collecting keeps the first of them in either document, so that the groups of the
two are alike but for fields that come again; what is selected inside such groups is collected alike
again.
-/
namespace GraphGateway.Request

open Graphql (Document Selection TypeDefinition)
open Outcome (Related)

/-- A field, and one that selects what it selects with spreads written out. -/
structure Selected.WrittenOut (document : Document) (field other : Selected) : Prop where
  name : field.name = other.name
  arguments : field.arguments = other.arguments
  inside : Selection.AllWrittenOut document field.selections other.selections

theorem Selected.WrittenOut.flatten {document : Document} {fields others : List Selected}
    (related : List.Forall₂ (Selected.WrittenOut document) fields others) :
    Selection.AllWrittenOut document (fields.map Selected.selections).flatten
      (others.map Selected.selections).flatten := by
  induction related with
  | nil => exact .nil
  | cons first _ ih => exact first.inside.append ih

namespace Context

/-- The same values for another document. -/
def beside (context : Context) (document : Document) : Context := { context with document }

theorem beside_surface (context : Context) (document : Document) :
    (context.beside document).surface = context.surface := rfl

theorem beside_applies (context : Context) (document : Document) :
    (context.beside document).applies = context.applies := rfl

theorem beside_document (context : Context) (document : Document) :
    (context.beside document).document = document := rfl

section

variable {context : Context} {type : TypeDefinition}

theorem unroll_append (first second : List Selection) :
    context.unroll type (first ++ second) = (do
      let front ← context.unroll type first
      let back ← context.unroll type second
      pure (front ++ back)) := by
  unfold unroll
  induction first with
  | nil =>
      rw [List.nil_append, unrollAll]
      exact (bind_pure _).symm
  | cons selection rest ih =>
      rw [List.cons_append, unrollAll, unrollAll, ih]
      simp only [bind_assoc, pure_bind, List.append_assoc]

/-- Selections that stand among others have their fields among those of all. -/
theorem unroll_of_mem {sets : List (List Selection)} {set : List Selection} {entries : List Keyed}
    (member : set ∈ sets) (unrolled : context.unroll type sets.flatten = .ok entries) :
    ∃ part, context.unroll type set = .ok part ∧ part ⊆ entries := by
  obtain ⟨before, after, rfl⟩ := List.append_of_mem member
  rw [List.flatten_append, List.flatten_cons, unroll_append, unroll_append] at unrolled
  obtain ⟨front, -, unrolled⟩ := Outcome.bind_ok_iff.mp unrolled
  obtain ⟨others, middle, made⟩ := Outcome.bind_ok_iff.mp unrolled
  obtain ⟨part, here, middle⟩ := Outcome.bind_ok_iff.mp middle
  obtain ⟨back, -, joined⟩ := Outcome.bind_ok_iff.mp middle
  cases Outcome.pure_ok_iff.mp made
  cases Outcome.pure_ok_iff.mp joined
  refine ⟨part, here, fun entry among => ?_⟩
  exact List.mem_append_right _ (List.mem_append_left _ among)

/-- Selections that come again have no field that is new. -/
theorem unroll_sameFirsts (context : Context) (type : TypeDefinition)
    {sets others : List (List Selection)} (same : SameFirsts sets others) :
    Related SameFirsts (context.unroll type sets.flatten)
      (context.unroll type others.flatten) := by
  refine same.induct (fun sets others => Related SameFirsts (context.unroll type sets.flatten)
    (context.unroll type others.flatten)) ?_ ?_ ?_ ?_
  · rintro _ _ ⟨before, after, member⟩
    simp only [List.flatten_append, List.flatten_cons]
    rw [unroll_append, unroll_append, unroll_append]
    cases front : context.unroll type before.flatten with
    | error fault => exact .error fault
    | ok entries =>
        obtain ⟨part, here, old⟩ := unroll_of_mem member front
        rw [here]
        cases context.unroll type after.flatten with
        | error fault => exact .error fault
        | ok rest =>
            refine .ok ?_
            rw [← List.append_assoc]
            exact (SameFirsts.append_of_subset old).append_right rest
  · exact fun _ => .refl .refl _
  · exact fun _ _ related => related.symm.weaken fun _ _ => .symm
  · intro _ _ _ first second
    exact (first.comp second).weaken fun _ _ ⟨_, one, other⟩ => one.trans other

variable {replaced : Document}

mutual

theorem unrollOne_writtenOut (acyclic : context.document.IsAcyclic) {selection other : Selection} :
    Selection.WrittenOut context.document selection other →
    (∀ name, context.document.Reaches [selection] name →
      Related (List.Forall₂ (KeyedBy (Selected.WrittenOut context.document)))
        (context.block type name) ((context.beside replaced).block type name)) →
    Related (List.Forall₂ (KeyedBy (Selected.WrittenOut context.document)))
      (context.unrollOne (context.block type) type selection)
      ((context.beside replaced).unrollOne ((context.beside replaced).block type) type other)
  | .field key name arguments directives inside, _ => by
      rw [unrollOne, unrollOne]
      refine .bind (.refl (fun _ => Eq.refl _) (context.isIncluded directives)) ?_
      rintro included _ rfl
      split
      · exact .ok (.cons ⟨rfl, rfl, rfl, inside⟩ .nil)
      · exact .ok .nil
  | .inline condition directives inside, blocks => by
      rw [unrollOne, unrollOne]
      refine .bind (.refl (fun _ => Eq.refl _) (context.isIncluded directives)) ?_
      rintro included _ rfl
      have next := unrollAll_writtenOut acyclic inside fun name reaches => blocks name ?_
      · rw [beside_applies]
        split
        · exact next
        · exact .ok .nil
      · refine reaches.mono fun other spread => .spread ?_
        rwa [Selection.spreadsOf, Selection.spreads, Selection.spreadsOf, List.append_nil]
  | .spread name directives, blocks => by
      rw [unrollOne, unrollOne]
      refine .bind (.refl (fun _ => Eq.refl _) (context.isIncluded directives)) ?_
      rintro included _ rfl
      split
      · exact blocks name (.spread (List.mem_singleton_self _))
      · exact .ok .nil
  | @Selection.WrittenOut.opened _ name fragment directives _ found inside, blocks => by
      rw [unrollOne, unrollOne, block_eq acyclic, found]
      refine .bind (.refl (fun _ => Eq.refl _) (context.isIncluded directives)) ?_
      rintro included _ rfl
      have next := unrollAll_writtenOut acyclic inside fun other reaches => blocks other ?_
      · rw [beside_applies]
        dsimp only
        cases included with
        | false => exact .ok .nil
        | true =>
            rw [if_pos rfl, Bool.true_and]
            split
            · exact next
            · exact .ok .nil
      · exact reaches.mono fun other spread =>
          .through (.spread (List.mem_singleton_self _)) found spread

theorem unrollAll_writtenOut (acyclic : context.document.IsAcyclic)
    {selections others : List Selection} :
    Selection.AllWrittenOut context.document selections others →
    (∀ name, context.document.Reaches selections name →
      Related (List.Forall₂ (KeyedBy (Selected.WrittenOut context.document)))
        (context.block type name) ((context.beside replaced).block type name)) →
    Related (List.Forall₂ (KeyedBy (Selected.WrittenOut context.document)))
      (context.unroll type selections) ((context.beside replaced).unroll type others)
  | .nil, _ => .ok .nil
  | .cons first rest, blocks => by
      rw [unroll, unroll, unrollAll, unrollAll]
      have one := unrollOne_writtenOut acyclic first fun name reaches =>
        blocks name (reaches.mono fun other spread => .spread ?_)
      · refine one.bind fun entries others here => ?_
        have more := unrollAll_writtenOut acyclic rest fun name reaches =>
          blocks name (reaches.mono fun other spread => .spread (List.mem_append_right _ spread))
        refine more.bind fun later further there => ?_
        exact .ok (List.rel_append here there)
      · rw [Selection.spreadsOf, Selection.spreadsOf, List.append_nil] at spread
        exact List.mem_append_left _ spread

end

variable (acyclic : context.document.IsAcyclic) (writtenOut : context.document.WrittenOut replaced)

include acyclic writtenOut

/-- A fragment has the same fields in both documents. -/
theorem block_writtenOut (name : String) :
    Related (List.Forall₂ (KeyedBy (Selected.WrittenOut context.document)))
      (context.block type name) ((context.beside replaced).block type name) := by
  have behind : (context.beside replaced).document.IsAcyclic := writtenOut.isAcyclic acyclic
  induction height : context.document.height [.spread name []] using Nat.strongRecOn
    generalizing name with
  | ind depth ih =>
      rw [block_eq acyclic, block_eq behind, beside_document]
      obtain ⟨one, other⟩ | ⟨fragment, other, here, there, same⟩ := writtenOut.fragment?_cases name
      · rw [one, other]
        exact .ok .nil
      · rw [here, there, beside_applies]
        dsimp only
        rw [same.condition]
        split
        · refine unrollAll_writtenOut acyclic same.inside fun next reaches => ?_
          have less := Document.height_reached acyclic here reaches
          exact ih _ (by omega) next rfl
        · exact .ok .nil

theorem unroll_writtenOut (type : TypeDefinition) {selections others : List Selection}
    (inside : Selection.AllWrittenOut context.document selections others) :
    Related (List.Forall₂ (KeyedBy (Selected.WrittenOut context.document)))
      (context.unroll type selections) ((context.beside replaced).unroll type others) :=
  unrollAll_writtenOut acyclic inside fun name _ => block_writtenOut acyclic writtenOut name

/-- Fields that are linked select the same keys, and under each key fields that are linked. -/
theorem subfields_linked (type : TypeDefinition) {fields others : List Selected}
    (linked : Linked (Selected.WrittenOut context.document) fields others) :
    Related (List.Forall₂ fun group other => group.1 = other.1 ∧
        Linked (Selected.WrittenOut context.document) group.2 other.2)
      (context.subfields type fields) ((context.beside replaced).subfields type others) := by
  obtain ⟨firsts, lasts, one, related, other⟩ := linked
  have behind : (context.beside replaced).document.IsAcyclic := writtenOut.isAcyclic acyclic
  have front := (collect_unrolled acyclic type (fields.map Selected.selections)).symm
  have same := context.unroll_sameFirsts type (one.map Selected.selections)
  have middle := unroll_writtenOut acyclic writtenOut type (Selected.WrittenOut.flatten related)
  have also := (context.beside replaced).unroll_sameFirsts type (other.map Selected.selections)
  have back := collect_unrolled behind type (others.map Selected.selections)
  refine ((((front.comp same).comp middle).comp also).comp back).weaken ?_
  rintro _ _ ⟨_, ⟨_, ⟨_, ⟨_, ⟨kept, rfl, first⟩, second⟩, third⟩, fourth⟩, last, rfl, fifth⟩
  exact Linked.grouped ⟨_, _, first.trans second, third, fourth.trans fifth.symm⟩

end

end Context

end GraphGateway.Request
