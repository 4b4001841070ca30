import GraphGateway.Proofs.Schema.Pairing
import Mathlib.Data.Sym.Sym2

/-!
Which pairs of ends are listed.  An end is paired with the first end on the opposite side only, so
two opposite ends are listed exactly if one of them is the first on its side.  What is listed is listed
once, and the mismatches that are told are those of the listed pairs.
-/
namespace GraphGateway.Schema

open Model (End)

/-- Whether a relationship is the first on its side: none of the type before it leads to the same
type under the same label in the same direction. -/
def NodeType.Leads (node : NodeType) (relationship : Relationship) : Prop :=
  node.relationships.find? (·.side node.name == relationship.side node.name) = some relationship

instance (node : NodeType) (relationship : Relationship) : Decidable (node.Leads relationship) :=
  inferInstanceAs (Decidable (_ = _))

/-- The ends that a mismatch names. -/
def Problem.mismatched? : Problem → Option (String × String)
  | .mismatch field paired _ => some (field, paired)
  | _ => none

theorem Problem.mismatched?_eq_none {problem : Problem} (other : problem.isMismatch = false) :
    problem.mismatched? = none := by
  cases problem with
  | mismatch => cases other
  | _ => rfl

theorem mismatched?_endProblems (first second : End) (here there : Option PropertiesType) :
    (endProblems first second here there).filterMap Problem.mismatched? =
      if here.map PropertiesType.signature = there.map PropertiesType.signature then []
      else [(first.text, second.text)] := by
  split
  · next same => rw [(endProblems_eq_nil_iff first second here there).mpr same, List.filterMap_nil]
  · next apart =>
    have some_ := mt (endProblems_eq_nil_iff first second here there).mp apart
    unfold endProblems at some_ ⊢
    split at some_
    · exact absurd rfl some_
    · rfl
    · rfl
    · split at some_
      · exact absurd rfl some_
      · next differ => rw [if_neg differ]; rfl

namespace Model

variable {model : Model} {pairs : List (End × End)}

theorem mismatched?_mismatchAt (pair : End × End) :
    (model.mismatchAt pair).filterMap Problem.mismatched? =
      if model.shapeAt? pair.1 = model.shapeAt? pair.2 then []
      else [(pair.1.text, pair.2.text)] :=
  mismatched?_endProblems pair.1 pair.2 _ _

/-- The mismatches that are told of some pairs are those of the pairs whose properties differ. -/
theorem mismatched?_flatMap (pairs : List (End × End)) :
    (pairs.flatMap model.mismatchAt).filterMap Problem.mismatched? =
      (pairs.filter fun pair => model.shapeAt? pair.1 != model.shapeAt? pair.2).map
        fun pair => (pair.1.text, pair.2.text) := by
  induction pairs with
  | nil => rfl
  | cons pair rest ih =>
      rw [List.flatMap_cons, List.filterMap_append, ih, mismatched?_mismatchAt, List.filter_cons]
      by_cases same : model.shapeAt? pair.1 = model.shapeAt? pair.2
      · rw [if_pos same, if_neg (by simp [same])]
        rfl
      · rw [if_neg same, if_pos (by simpa using same)]
        rfl

/-- An end that starts a pair is not in any pair before. -/
theorem pairsFrom_new {seen items : List End} (ran : model.pairsFrom seen items = .ok pairs) :
    (∀ pair ∈ pairs, pair.1 ∉ seen) ∧
      pairs.Pairwise fun earlier later => later.1 ≠ earlier.1 ∧ later.1 ≠ earlier.2 := by
  induction items generalizing seen pairs with
  | nil =>
      cases ran
      exact ⟨fun _ none_ => absurd none_ List.not_mem_nil, .nil⟩
  | cons first rest ih =>
      rcases pairsFrom_cons_iff.mp ran with ⟨-, later⟩ | ⟨new, other, more, -, later, rfl⟩
      · exact ih later
      · obtain ⟨unseen, apart⟩ := ih later
        have others : ∀ pair ∈ more, pair.1 ≠ first ∧ pair.1 ≠ other ∧ pair.1 ∉ seen := by
          intro pair member
          have outside := unseen pair member
          rw [List.mem_cons, List.mem_cons, not_or, not_or] at outside
          exact ⟨outside.2.1, outside.1, outside.2.2⟩
        constructor
        · exact List.forall_mem_cons.mpr ⟨new, fun pair member => (others pair member).2.2⟩
        · refine List.pairwise_cons.mpr ⟨fun pair member => ?_, apart⟩
          exact ⟨(others pair member).1, (others pair member).2.1⟩

/-- No two ends are listed twice, in whichever order. -/
theorem relationshipPairs_nodup (ran : model.relationshipPairs = .ok pairs) :
    (pairs.map fun pair => s(pair.1, pair.2)).Nodup := by
  refine List.pairwise_map.mpr ((pairsFrom_new ran).2.imp ?_)
  rintro ⟨first, second⟩ ⟨third, fourth⟩ ⟨apart, apartToo⟩ same
  rcases Sym2.eq_iff.mp same with ⟨alike, -⟩ | ⟨-, alike⟩
  · exact apart alike.symm
  · exact apartToo alike.symm

namespace IsUniquelyNamed

variable {side : Side} {first other : End}

/-- The first end on a side is listed with every end on the opposite side. -/
theorem listed_of_first (named : model.IsUniquelyNamed) (ran : model.relationshipPairs = .ok pairs)
    (declared : first ∈ model.ends) (lies : model.sideOf? first = some side)
    (foremost : model.firstOn? side.opposite = some other) :
    (first, other) ∈ pairs ∨ (other, first) ∈ pairs := by
  by_cases here : model.firstOn? side = some first
  · exact named.mem_of_firsts ran here foremost
  · obtain ⟨before, after, split, new⟩ := List.eq_append_cons_of_mem declared
    exact .inl (named.mem_relationshipPairs ran split new lies foremost fun _ _ _ => here)

/-- The end behind the first in a pair is the first on its side. -/
theorem first_of_listed (named : model.IsUniquelyNamed) (ran : model.relationshipPairs = .ok pairs)
    (lies : model.sideOf? first = some side) (listed : (first, other) ∈ pairs) :
    model.firstOn? side.opposite = some other := by
  obtain ⟨declared, paired⟩ := paired_of_mem_pairsFrom ran _ listed
  rw [named.paired_eq declared lies] at paired
  exact Except.ok.inj paired

theorem listed_iff (named : model.IsUniquelyNamed) (ran : model.relationshipPairs = .ok pairs)
    (declared : first ∈ model.ends) (declaredToo : other ∈ model.ends)
    (lies : model.sideOf? first = some side)
    (liesOpposite : model.sideOf? other = some side.opposite) :
    s(first, other) ∈ pairs.map (fun pair => s(pair.1, pair.2)) ↔
      model.firstOn? side = some first ∨ model.firstOn? side.opposite = some other := by
  have either : s(first, other) ∈ pairs.map (fun pair => s(pair.1, pair.2)) ↔
      (first, other) ∈ pairs ∨ (other, first) ∈ pairs := by
    simp only [List.mem_map, Sym2.eq_iff, Prod.exists]
    constructor
    · rintro ⟨one, two, member, ⟨rfl, rfl⟩ | ⟨rfl, rfl⟩⟩
      · exact .inl member
      · exact .inr member
    · rintro (member | member)
      · exact ⟨_, _, member, .inl ⟨rfl, rfl⟩⟩
      · exact ⟨_, _, member, .inr ⟨rfl, rfl⟩⟩
  have back : model.firstOn? side.opposite.opposite = model.firstOn? side :=
    congrArg model.firstOn? side.opposite_opposite
  rw [either]
  constructor
  · rintro (listed | listed)
    · exact .inr (named.first_of_listed ran lies listed)
    · exact .inl (back.symm.trans (named.first_of_listed ran liesOpposite listed))
  · rintro (foremost | foremost)
    · exact (named.listed_of_first ran declaredToo liesOpposite (back.trans foremost)).symm
    · exact named.listed_of_first ran declared lies foremost

theorem leads_iff (named : model.IsUniquelyNamed) {node : NodeType} {relationship : Relationship}
    (member : node ∈ model.nodes) (inside : relationship ∈ node.relationships) :
    model.firstOn? (relationship.side node.name) = some ⟨node.name, relationship.name⟩ ↔
      node.Leads relationship := by
  have known : model.node? (relationship.side node.name).typeName = some node :=
    named.node?_eq member
  rw [named.firstOn?_eq, known, Option.bind_some, Option.map_eq_some_iff]
  constructor
  · rintro ⟨found, leads, same⟩
    have among := List.mem_of_find?_eq_some leads
    have name : found.name = relationship.name := (End.mk.inj same).2
    have alike : found = relationship :=
      List.inj_on_of_nodup_map (named.relationships node member) among inside name
    exact alike ▸ leads
  · exact fun leads => ⟨relationship, leads, rfl⟩

end IsUniquelyNamed

/-- Two opposite ends are listed as a pair exactly if one of them is the first on its side.  No pair is
listed twice, nothing but opposite ends is listed, and a mismatch is told of each listed pair whose
properties differ in shape, and of nothing else. -/
theorem pairs_listed_iff (named : model.IsUniquelyNamed) :
    ∃ pairs problems, model.relationshipPairs = .ok pairs ∧ model.violations = .ok problems ∧
      (pairs.map fun pair => s(pair.1, pair.2)).Nodup ∧
      (∀ pair ∈ pairs, ∃ node ∈ model.nodes, ∃ relationship ∈ node.relationships,
        ∃ related ∈ model.nodes, ∃ other ∈ related.relationships,
          AreOpposite node relationship related other ∧
            pair = (⟨node.name, relationship.name⟩, ⟨related.name, other.name⟩)) ∧
      (∀ node ∈ model.nodes, ∀ relationship ∈ node.relationships,
        ∀ related ∈ model.nodes, ∀ other ∈ related.relationships,
          AreOpposite node relationship related other →
            (s(⟨node.name, relationship.name⟩, ⟨related.name, other.name⟩) ∈
                pairs.map (fun pair => s(pair.1, pair.2)) ↔
              node.Leads relationship ∨ related.Leads other)) ∧
      problems.filterMap Problem.mismatched? =
        (pairs.filter fun pair => model.shapeAt? pair.1 != model.shapeAt? pair.2).map
          fun pair => (pair.1.text, pair.2.text) := by
  obtain ⟨pairs, ran⟩ := named.relationshipPairs_ok
  refine ⟨pairs, _, ran, named.violations_eq ran, relationshipPairs_nodup ran, ?_, ?_, ?_⟩
  · rintro ⟨first, second⟩ member
    obtain ⟨declared, declaredToo, side, lies, liesOpposite⟩ := named.opposite_of_mem ran member
    obtain ⟨node, known, relationship, inside, rfl⟩ := mem_ends.mp declared
    obtain ⟨related, knownToo, other, among, rfl⟩ := mem_ends.mp declaredToo
    rw [named.sideOf?_eq known inside, Option.some.injEq] at lies
    rw [named.sideOf?_eq knownToo among, Option.some.injEq, ← lies] at liesOpposite
    exact ⟨node, known, relationship, inside, related, knownToo, other, among,
      areOpposite_iff.mpr liesOpposite, rfl⟩
  · intro node known relationship inside related knownToo other among opposite
    have across : other.side related.name = (relationship.side node.name).opposite :=
      areOpposite_iff.mp opposite
    rw [named.listed_iff ran (mem_ends.mpr ⟨_, known, _, inside, rfl⟩)
      (mem_ends.mpr ⟨_, knownToo, _, among, rfl⟩) (named.sideOf?_eq known inside)
      (across ▸ named.sideOf?_eq knownToo among), ← across, named.leads_iff known inside,
      named.leads_iff knownToo among]
  · have silent : model.typeProblems.filterMap Problem.mismatched? = [] :=
      List.filterMap_eq_nil_iff.mpr fun problem member =>
        Problem.mismatched?_eq_none (typeProblems_isMismatch member)
    rw [List.filterMap_append, silent, List.nil_append, mismatched?_flatMap]

/-- A way in which people are in films, as a film declares it. -/
def castField (name : String) (properties : Option String) : Relationship where
  name
  type := { name := "Person", isList := true }
  relatedType := "Person"
  direction := .incoming
  label := "ACTED_IN"
  properties

/-- A way in which people are in films, as a person declares it. -/
def roleField (name : String) (properties : Option String) : Relationship where
  name
  type := { name := "Film", isList := true }
  relatedType := "Film"
  direction := .outgoing
  label := "ACTED_IN"
  properties

/-- Films with leads and extras, and people who lead some films and appear in others.  Both ends for
those who lead store the same; of the others only the films store something. -/
def ensemble : Model where
  nodes :=
    [{ name := "Film"
       relationships := [castField "leads" (some "Part"), castField "extras" (some "Shift")] },
     { name := "Person"
       relationships := [roleField "leadIn" (some "Part"), roleField "appearsIn" none] }]
  properties :=
    [{ name := "Part"
       fields := [{ name := "role", type := { name := "String" }, stored := "role" }] },
     { name := "Shift"
       fields := [{ name := "days", type := { name := "Int" }, stored := "days" }] }]

theorem ensemble_isUniquelyNamed : ensemble.IsUniquelyNamed := ⟨by decide, by decide⟩

theorem pairs_listed_iff_ensemble :
    ensemble.IsUniquelyNamed ∧
      ∃ pairs problems, ensemble.relationshipPairs = .ok pairs ∧
        ensemble.violations = .ok problems ∧
        (pairs.map fun pair => s(pair.1, pair.2)).Nodup ∧
        s(⟨"Film", "extras"⟩, ⟨"Person", "leadIn"⟩) ∈ pairs.map (fun pair => s(pair.1, pair.2)) ∧
        problems.filterMap Problem.mismatched? =
          (pairs.filter fun pair => ensemble.shapeAt? pair.1 != ensemble.shapeAt? pair.2).map
            fun pair => (pair.1.text, pair.2.text) := by
  obtain ⟨pairs, problems, ran, told, nodup, -, listed, mismatches⟩ :=
    pairs_listed_iff ensemble_isUniquelyNamed
  refine ⟨ensemble_isUniquelyNamed, pairs, problems, ran, told, nodup, ?_, mismatches⟩
  refine (listed _ (.head _) (castField "extras" (some "Shift")) (.tail _ (.head _)) _
    (.tail _ (.head _)) (roleField "leadIn" (some "Part")) (.head _) ⟨rfl, rfl, rfl, rfl⟩).mpr ?_
  exact .inr (by decide)

/-- Two opposite ends that differ need not be listed, nor is it told that they differ. -/
theorem exists_unlisted_ensemble :
    ensemble.IsUniquelyNamed ∧
      ∃ film ∈ ensemble.nodes, ∃ extras ∈ film.relationships,
        ∃ person ∈ ensemble.nodes, ∃ appearsIn ∈ person.relationships,
          AreOpposite film extras person appearsIn ∧
          (ensemble.propertiesOf? extras).map PropertiesType.signature ≠
            (ensemble.propertiesOf? appearsIn).map PropertiesType.signature ∧
          ensemble.relationshipPairs = .ok
            [(⟨"Film", "leads"⟩, ⟨"Person", "leadIn"⟩), (⟨"Film", "extras"⟩, ⟨"Person", "leadIn"⟩),
             (⟨"Person", "appearsIn"⟩, ⟨"Film", "leads"⟩)] ∧
          ∃ problems, ensemble.violations = .ok problems ∧
            problems.filterMap Problem.mismatched? =
              [("Film.extras", "Person.leadIn"), ("Person.appearsIn", "Film.leads")] := by
  refine ⟨ensemble_isUniquelyNamed, _, .head _, castField "extras" (some "Shift"),
    .tail _ (.head _), _, .tail _ (.head _), roleField "appearsIn" none, .tail _ (.head _),
    ⟨rfl, rfl, rfl, rfl⟩, by decide +kernel, by decide +kernel, ?_⟩
  have told : ((ensemble.violations.toOption.getD []).filterMap Problem.mismatched?) =
      [("Film.extras", "Person.leadIn"), ("Person.appearsIn", "Film.leads")] := by
    decide +kernel
  obtain ⟨pairs, ran⟩ := ensemble_isUniquelyNamed.relationshipPairs_ok
  rw [ensemble_isUniquelyNamed.violations_eq ran] at told ⊢
  exact ⟨_, rfl, told⟩

end Model

end GraphGateway.Schema
