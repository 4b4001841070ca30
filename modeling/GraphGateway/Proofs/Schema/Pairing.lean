import GraphGateway.Proofs.Schema.Sound
import GraphGateway.Schema.Agreement

/-!
Pairs of ends.  An end lies on a side of its relationship, which may have many ends, and all ends on
the opposite side are opposite to it.  It is paired with the first of them only, and not at all once
it is in a pair.  Still the pairs connect all ends of both sides: an end that is not the first of
its side is paired with the first of the other, since nobody is paired with it before; and the
earlier one of the two first ends is paired with the later one.
-/
namespace GraphGateway.Schema

/-- A side of a relationship: the type that its ends are declared on, and what they say. -/
structure Side where
  typeName : String
  relatedType : String
  label : String
  direction : Direction
  deriving DecidableEq

namespace Side

def opposite (side : Side) : Side :=
  ⟨side.relatedType, side.typeName, side.label, side.direction.opposite⟩

theorem opposite_opposite (side : Side) : side.opposite.opposite = side := by
  unfold opposite
  rw [Direction.opposite_opposite]

theorem ne_opposite (side : Side) : side ≠ side.opposite := by
  intro same
  have direction : side.direction = side.direction.opposite := congrArg Side.direction same
  revert direction
  cases side.direction <;> decide

end Side

/-- The side that a relationship of a type is an end on. -/
def Relationship.side (relationship : Relationship) (typeName : String) : Side :=
  ⟨typeName, relationship.relatedType, relationship.label, relationship.direction⟩

theorem find?_eq_of_agree {α : Type} {test check : α → Bool} {items : List α}
    (agree : ∀ item ∈ items, test item = check item) : items.find? test = items.find? check := by
  induction items with
  | nil => rfl
  | cons item rest ih =>
      have later := ih fun other member => agree other (List.mem_cons_of_mem _ member)
      rw [List.find?_cons, List.find?_cons, agree item (List.mem_cons_self ..), later]

/-- The only item that gives an answer decides the first answer. -/
theorem findSome?_eq_of_alone {α β : Type} {answer : α → Option β} {items : List α} {item : α}
    (member : item ∈ items) (alone : ∀ other ∈ items, other ≠ item → answer other = none) :
    items.findSome? answer = answer item := by
  cases found : answer item with
  | none =>
      refine List.findSome?_eq_none_iff.mpr fun other among => ?_
      by_cases same : other = item
      · rw [same, found]
      · exact alone other among same
  | some value =>
      obtain ⟨before, after, rfl, outside⟩ := List.eq_append_cons_of_mem member
      refine List.findSome?_eq_some_iff.mpr ⟨before, item, after, rfl, found, ?_⟩
      intro other among
      exact alone other (List.mem_append_left _ among) fun same => outside (same ▸ among)

namespace Model

variable {model : Model}

/-- A model in which a name tells which node type or which relationship of a type is meant. -/
structure IsUniquelyNamed (model : Model) : Prop where
  nodes : (model.nodes.map NodeType.name).Nodup
  relationships : ∀ node ∈ model.nodes, (node.relationships.map Relationship.name).Nodup

/-- The side that a declared end lies on. -/
def sideOf? (model : Model) (first : End) : Option Side :=
  (model.relationship first.typeName first.fieldName).toOption.map (·.side first.typeName)

/-- The first end on a side. -/
def firstOn? (model : Model) (side : Side) : Option End :=
  model.ends.find? (model.sideOf? · == some side)

theorem mem_ends {first : End} : first ∈ model.ends ↔
    ∃ node ∈ model.nodes, ∃ relationship ∈ node.relationships,
      ⟨node.name, relationship.name⟩ = first := by
  simp only [ends, List.mem_flatMap, List.mem_map]

theorem firstOn?_some {side : Side} {first : End} (found : model.firstOn? side = some first) :
    first ∈ model.ends ∧ model.sideOf? first = some side :=
  ⟨List.mem_of_find?_eq_some found, eq_of_beq (List.find?_some (p := (model.sideOf? · == some side)) found)⟩

/-- The first end on a side, told by what stands before it. -/
theorem firstOn?_of_split {side : Side} {before after : List End} {first : End}
    (split : model.ends = before ++ first :: after) (lies : model.sideOf? first = some side)
    (none_ : ∀ item ∈ before, model.sideOf? item ≠ some side) :
    model.firstOn? side = some first := by
  refine List.find?_eq_some_iff_append.mpr ⟨beq_iff_eq.mpr lies, before, after, split, ?_⟩
  intro item member
  simpa using none_ item member

/-- One end is the first of all on two sides. -/
theorem exists_earliest {first : End} {one : Side} (declared : first ∈ model.ends)
    (lies : model.sideOf? first = some one) (other : Side) :
    ∃ before earliest after, model.ends = before ++ earliest :: after ∧
      (model.sideOf? earliest = some one ∨ model.sideOf? earliest = some other) ∧
      ∀ item ∈ before, model.sideOf? item ≠ some one ∧ model.sideOf? item ≠ some other := by
  have some_ : (model.ends.find? fun item =>
      model.sideOf? item == some one || model.sideOf? item == some other).isSome = true :=
    List.find?_isSome.mpr ⟨first, declared, by simp [lies]⟩
  obtain ⟨earliest, found⟩ := Option.isSome_iff_exists.mp some_
  obtain ⟨liesOn, before, after, split, none_⟩ := List.find?_eq_some_iff_append.mp found
  refine ⟨before, earliest, after, split, by simpa using liesOn, ?_⟩
  intro item member
  simpa using none_ item member

theorem exists_firstOn? {side : Side} {first : End} (member : first ∈ model.ends)
    (lies : model.sideOf? first = some side) : ∃ other, model.firstOn? side = some other :=
  Option.isSome_iff_exists.mp (List.find?_isSome.mpr ⟨first, member, beq_iff_eq.mpr lies⟩)

namespace IsUniquelyNamed

variable {node : NodeType} {relationship : Relationship}

theorem node?_eq (named : model.IsUniquelyNamed) (member : node ∈ model.nodes) :
    model.node? node.name = some node := by
  refine find?_name_of_mem ?_ (List.mem_reverse.mpr member)
  rw [List.map_reverse]
  exact (List.reverse_perm _).nodup_iff.mpr named.nodes

theorem relationship_eq (named : model.IsUniquelyNamed) (member : node ∈ model.nodes)
    (inside : relationship ∈ node.relationships) :
    model.relationship node.name relationship.name = .ok relationship := by
  have found : node.relationship? relationship.name = some relationship :=
    find?_name_of_mem (named.relationships node member) inside
  unfold Model.relationship Model.node
  rw [named.node?_eq member]
  dsimp only [bind, Except.bind]
  rw [found]
  rfl

theorem sideOf?_eq (named : model.IsUniquelyNamed) (member : node ∈ model.nodes)
    (inside : relationship ∈ node.relationships) :
    model.sideOf? ⟨node.name, relationship.name⟩ = some (relationship.side node.name) := by
  unfold Model.sideOf?
  rw [named.relationship_eq member inside]
  rfl

/-- The first end of a type on a side. -/
theorem find?_ends (named : model.IsUniquelyNamed) (member : node ∈ model.nodes) (side : Side) :
    (node.relationships.map fun relationship => End.mk node.name relationship.name).find?
        (model.sideOf? · == some side) =
      (node.relationships.find? (·.side node.name == side)).map (⟨node.name, ·.name⟩) := by
  rw [List.find?_map]
  refine congrArg _ (find?_eq_of_agree fun relationship inside => ?_)
  rw [Function.comp_apply, named.sideOf?_eq member inside, Option.some_beq_some]

/-- All ends on a side are of one type. -/
theorem firstOn?_eq (named : model.IsUniquelyNamed) (side : Side) :
    model.firstOn? side = (model.node? side.typeName).bind fun node =>
      (node.relationships.find? (·.side node.name == side)).map (⟨node.name, ·.name⟩) := by
  have elsewhere : ∀ node ∈ model.nodes, node.name ≠ side.typeName →
      (node.relationships.map fun relationship => End.mk node.name relationship.name).find?
        (model.sideOf? · == some side) = none := by
    intro node member apart
    rw [named.find?_ends member, Option.map_eq_none_iff]
    refine List.find?_eq_none.mpr fun relationship _ same => apart ?_
    exact congrArg Side.typeName (eq_of_beq same)
  unfold firstOn? ends
  rw [List.find?_flatMap]
  cases found : model.node? side.typeName with
  | none =>
      refine List.findSome?_eq_none_iff.mpr fun node member => elsewhere node member ?_
      have apart := List.find?_eq_none.mp found node (List.mem_reverse.mpr member)
      exact fun same => apart (beq_iff_eq.mpr same)
  | some node =>
      have member : node ∈ model.nodes := List.mem_reverse.mp (List.mem_of_find?_eq_some found)
      have same : node.name = side.typeName := name_of_find? found
      rw [findSome?_eq_of_alone member, named.find?_ends member]
      · rfl
      · intro other among apart
        refine elsewhere other among fun alike => apart ?_
        have again := named.node?_eq among
        rw [alike, found] at again
        exact (Option.some.inj again).symm

/-- The other ends are those on the opposite side, since no end is on both. -/
theorem isOtherEnd_eq (named : model.IsUniquelyNamed) (member : node ∈ model.nodes)
    (inside : relationship ∈ node.relationships) {related : NodeType} {candidate : Relationship}
    (known : related ∈ model.nodes) (among : candidate ∈ related.relationships)
    (name : related.name = relationship.relatedType) :
    isOtherEnd ⟨node.name, relationship.name⟩ relationship related candidate =
      (candidate.side related.name == (relationship.side node.name).opposite) := by
  rw [Bool.eq_iff_iff, beq_iff_eq]
  constructor
  · intro other
    simp only [isOtherEnd, Bool.and_eq_true, decide_eq_true_eq] at other
    obtain ⟨⟨⟨-, leadsBack⟩, label⟩, direction⟩ := other
    unfold Relationship.side Side.opposite
    rw [name, leadsBack, label, direction]
  · intro same
    have apart : ¬ (related.name = node.name ∧ candidate.name = relationship.name) := by
      rintro ⟨sameType, sameField⟩
      have here := named.sideOf?_eq member inside
      have there := named.sideOf?_eq known among
      rw [sameType, sameField, here, ← sameType, same, Option.some.injEq] at there
      exact Side.ne_opposite _ (sameType ▸ there)
    unfold Relationship.side Side.opposite at same
    injection same with _ leadsBack label direction
    simp only [isOtherEnd, leadsBack, label, direction, Bool.and_eq_true, decide_eq_true_eq,
      Bool.not_eq_true', decide_eq_false_iff_not, and_true, Bool.and_eq_false_iff]
    exact not_and_or.mp apart

/-- An end is paired with the first end on the opposite side. -/
theorem paired_eq (named : model.IsUniquelyNamed) {first : End} {side : Side}
    (member : first ∈ model.ends) (lies : model.sideOf? first = some side) :
    model.paired first = .ok (model.firstOn? side.opposite) := by
  obtain ⟨node, known, relationship, inside, rfl⟩ := mem_ends.mp member
  rw [named.sideOf?_eq known inside] at lies
  cases lies
  unfold paired
  rw [named.relationship_eq known inside, named.firstOn?_eq]
  dsimp only [bind, Except.bind]
  cases found : model.node? relationship.relatedType with
  | none =>
      have none_ : model.node? (relationship.side node.name).opposite.typeName = none := found
      rw [none_]
      rfl
  | some related =>
      have some_ : model.node? (relationship.side node.name).opposite.typeName = some related :=
        found
      have name : related.name = relationship.relatedType := name_of_find? found
      rw [some_, Option.bind_some]
      refine congrArg (fun other => Except.ok (Option.map _ other)) (find?_eq_of_agree ?_)
      intro candidate among
      exact named.isOtherEnd_eq known inside
        (List.mem_reverse.mp (List.mem_of_find?_eq_some found)) among name

theorem sideOf?_isSome (named : model.IsUniquelyNamed) {first : End}
    (member : first ∈ model.ends) : ∃ side, model.sideOf? first = some side := by
  obtain ⟨node, known, relationship, inside, rfl⟩ := mem_ends.mp member
  exact ⟨_, named.sideOf?_eq known inside⟩

end IsUniquelyNamed

/-- What happens to the first of some ends: it is passed over, or paired with nobody, or it makes a
pair. -/
theorem pairsFrom_cons_iff {seen rest : List End} {first : End} {pairs : List (End × End)} :
    model.pairsFrom seen (first :: rest) = .ok pairs ↔
      ((first ∈ seen ∨ model.paired first = .ok none) ∧ model.pairsFrom seen rest = .ok pairs) ∨
      (first ∉ seen ∧ ∃ other more, model.paired first = .ok (some other) ∧
        model.pairsFrom (other :: first :: seen) rest = .ok more ∧
        (first, other) :: more = pairs) := by
  rw [pairsFrom]
  by_cases known : first ∈ seen
  · simp [known]
  · cases model.paired first with
    | error fault => simp [known]
    | ok partner =>
        cases partner with
        | none => simp [known]
        | some other =>
            have mapped : (model.pairsFrom (other :: first :: seen) rest).map ((first, other) :: ·) =
                .ok pairs ↔ _ := Outcome.map_ok_iff
            simpa [known] using mapped

theorem pairsFrom_ok {items : List End}
    (found : ∀ item ∈ items, ∃ other, model.paired item = .ok other) (seen : List End) :
    ∃ pairs, model.pairsFrom seen items = .ok pairs := by
  induction items generalizing seen with
  | nil => exact ⟨[], rfl⟩
  | cons first rest ih =>
      have later := ih fun item member => found item (List.mem_cons_of_mem _ member)
      obtain ⟨partner, paired⟩ := found first (List.mem_cons_self ..)
      by_cases known : first ∈ seen
      · obtain ⟨pairs, ran⟩ := later seen
        exact ⟨pairs, pairsFrom_cons_iff.mpr (.inl ⟨.inl known, ran⟩)⟩
      · cases partner with
        | none =>
            obtain ⟨pairs, ran⟩ := later seen
            exact ⟨pairs, pairsFrom_cons_iff.mpr (.inl ⟨.inr paired, ran⟩)⟩
        | some other =>
            obtain ⟨pairs, ran⟩ := later (other :: first :: seen)
            exact ⟨_, pairsFrom_cons_iff.mpr (.inr ⟨known, other, pairs, paired, ran, rfl⟩)⟩

/-- Only ends that are paired make a pair. -/
theorem paired_of_mem_pairsFrom {items seen : List End} {pairs : List (End × End)}
    (ran : model.pairsFrom seen items = .ok pairs) :
    ∀ pair ∈ pairs, pair.1 ∈ items ∧ model.paired pair.1 = .ok (some pair.2) := by
  induction items generalizing seen pairs with
  | nil =>
      cases ran
      exact fun _ member => absurd member List.not_mem_nil
  | cons first rest ih =>
      intro pair member
      rcases pairsFrom_cons_iff.mp ran with ⟨-, later⟩ | ⟨-, other, more, paired, later, rfl⟩
      · exact (ih later pair member).imp_left (List.mem_cons_of_mem _)
      · rcases List.mem_cons.mp member with rfl | member
        · exact ⟨List.mem_cons_self .., paired⟩
        · exact (ih later pair member).imp_left (List.mem_cons_of_mem _)

/-- An end that nobody before it is paired with makes a pair. -/
theorem mem_pairsFrom {before after seen : List End} {first other : End}
    {pairs : List (End × End)} (ran : model.pairsFrom seen (before ++ first :: after) = .ok pairs)
    (leads : model.paired first = .ok (some other)) (unseen : first ∉ seen) (new : first ∉ before)
    (apart : ∀ earlier ∈ before, model.paired earlier ≠ .ok (some first)) :
    (first, other) ∈ pairs := by
  induction before generalizing seen pairs with
  | nil =>
      rcases pairsFrom_cons_iff.mp ran with ⟨passed, -⟩ | ⟨-, partner, more, paired, -, rfl⟩
      · rcases passed with known | none_
        · exact absurd known unseen
        · rw [leads] at none_
          cases none_
      · rw [leads] at paired
        cases paired
        exact List.mem_cons_self ..
  | cons earlier rest ih =>
      rw [List.mem_cons, not_or] at new
      have apartRest : ∀ later ∈ rest, model.paired later ≠ .ok (some first) :=
        fun later member => apart later (List.mem_cons_of_mem _ member)
      rcases pairsFrom_cons_iff.mp ran with ⟨-, later⟩ | ⟨-, partner, more, paired, later, rfl⟩
      · exact ih later unseen new.2 apartRest
      · refine List.mem_cons_of_mem _ (ih later ?_ new.2 apartRest)
        intro known
        rcases List.mem_cons.mp known with rfl | known
        · exact apart earlier (List.mem_cons_self ..) paired
        · rcases List.mem_cons.mp known with same | known
          · exact new.1 same
          · exact unseen known

namespace IsUniquelyNamed

theorem relationshipPairs_ok (named : model.IsUniquelyNamed) :
    ∃ pairs, model.relationshipPairs = .ok pairs := by
  refine pairsFrom_ok (fun first member => ?_) []
  obtain ⟨side, lies⟩ := named.sideOf?_isSome member
  exact ⟨_, named.paired_eq member lies⟩

/-- A pair is of ends on opposite sides. -/
theorem opposite_of_mem (named : model.IsUniquelyNamed) {pairs : List (End × End)}
    (ran : model.relationshipPairs = .ok pairs) {pair : End × End} (member : pair ∈ pairs) :
    pair.1 ∈ model.ends ∧ pair.2 ∈ model.ends ∧ ∃ side, model.sideOf? pair.1 = some side ∧
      model.sideOf? pair.2 = some side.opposite := by
  obtain ⟨declared, paired⟩ := paired_of_mem_pairsFrom ran pair member
  obtain ⟨side, lies⟩ := named.sideOf?_isSome declared
  rw [named.paired_eq declared lies, Except.ok.injEq] at paired
  obtain ⟨declaredToo, liesOpposite⟩ := firstOn?_some paired
  exact ⟨declared, declaredToo, side, lies, liesOpposite⟩

section

variable {pairs : List (End × End)} {side : Side} {first other : End}

/-- An end makes a pair with the first end on the opposite side, unless it is itself the first on
its side and one on the opposite side comes before it. -/
theorem mem_relationshipPairs (named : model.IsUniquelyNamed)
    (ran : model.relationshipPairs = .ok pairs) {before after : List End}
    (split : model.ends = before ++ first :: after) (new : first ∉ before)
    (lies : model.sideOf? first = some side) (leads : model.firstOn? side.opposite = some other)
    (apart : ∀ earlier ∈ before, model.sideOf? earlier = some side.opposite →
      model.firstOn? side ≠ some first) : (first, other) ∈ pairs := by
  have declared : ∀ item ∈ before ++ first :: after, item ∈ model.ends :=
    fun item member => split ▸ member
  unfold relationshipPairs at ran
  rw [split] at ran
  refine mem_pairsFrom ran ?_ List.not_mem_nil new ?_
  · rw [named.paired_eq (declared first (by simp)) lies, leads]
  · intro earlier among paired
    have member := declared earlier (List.mem_append_left _ among)
    obtain ⟨another, liesEarlier⟩ := named.sideOf?_isSome member
    rw [named.paired_eq member liesEarlier, Except.ok.injEq] at paired
    have same := (firstOn?_some paired).2
    rw [lies, Option.some.injEq] at same
    rw [← same] at paired
    refine apart earlier among ?_ paired
    rw [liesEarlier, same, Side.opposite_opposite]

/-- Of the first ends on two opposite sides the earlier one makes a pair with the other. -/
theorem mem_of_firsts (named : model.IsUniquelyNamed) (ran : model.relationshipPairs = .ok pairs)
    (here : model.firstOn? side = some first) (there : model.firstOn? side.opposite = some other) :
    (first, other) ∈ pairs ∨ (other, first) ∈ pairs := by
  obtain ⟨declared, lies⟩ := firstOn?_some here
  obtain ⟨before, earliest, after, split, on, outside⟩ :=
    exists_earliest declared lies side.opposite
  have new : earliest ∉ before := by
    intro member
    rcases on with on | on
    · exact (outside earliest member).1 on
    · exact (outside earliest member).2 on
  rcases on with on | on
  · rw [firstOn?_of_split split on fun item member => (outside item member).1,
      Option.some.injEq] at here
    subst here
    exact .inl (named.mem_relationshipPairs ran split new on there
      fun earlier among lies => absurd lies (outside earlier among).2)
  · rw [firstOn?_of_split split on fun item member => (outside item member).2,
      Option.some.injEq] at there
    subst there
    refine .inr (named.mem_relationshipPairs ran split new on ?_ ?_)
    · rw [Side.opposite_opposite]
      exact here
    · rw [Side.opposite_opposite]
      exact fun earlier among lies => absurd lies (outside earlier among).1

variable {γ : Type} {shape : End → γ}

theorem shape_firsts (named : model.IsUniquelyNamed) (ran : model.relationshipPairs = .ok pairs)
    (alike : ∀ pair ∈ pairs, shape pair.1 = shape pair.2)
    (here : model.firstOn? side = some first) (there : model.firstOn? side.opposite = some other) :
    shape first = shape other := by
  rcases named.mem_of_firsts ran here there with pair | pair
  · exact alike _ pair
  · exact (alike _ pair).symm

/-- What is the same for the ends of every pair is the same for an end and the first end on the
opposite side. -/
theorem shape_eq_first (named : model.IsUniquelyNamed) (ran : model.relationshipPairs = .ok pairs)
    (alike : ∀ pair ∈ pairs, shape pair.1 = shape pair.2) (declared : first ∈ model.ends)
    (lies : model.sideOf? first = some side) (there : model.firstOn? side.opposite = some other) :
    shape first = shape other := by
  obtain ⟨foremost, here⟩ := exists_firstOn? declared lies
  by_cases same : first = foremost
  · subst same
    exact named.shape_firsts ran alike here there
  · obtain ⟨before, after, split, new⟩ := List.eq_append_cons_of_mem declared
    refine alike _ (named.mem_relationshipPairs ran split new lies there fun _ _ _ found => same ?_)
    rw [here] at found
    exact (Option.some.inj found).symm

/-- What is the same for the ends of every pair is the same for every two ends on opposite
sides. -/
theorem shape_eq_of_opposite (named : model.IsUniquelyNamed)
    (ran : model.relationshipPairs = .ok pairs)
    (alike : ∀ pair ∈ pairs, shape pair.1 = shape pair.2) (declared : first ∈ model.ends)
    (declaredToo : other ∈ model.ends) (lies : model.sideOf? first = some side)
    (liesOpposite : model.sideOf? other = some side.opposite) : shape first = shape other := by
  obtain ⟨one, here⟩ := exists_firstOn? declared lies
  obtain ⟨another, there⟩ := exists_firstOn? declaredToo liesOpposite
  calc shape first
      _ = shape another := named.shape_eq_first ran alike declared lies there
      _ = shape one := (named.shape_firsts ran alike here there).symm
      _ = shape other := by
        refine (named.shape_eq_first ran alike declaredToo liesOpposite ?_).symm
        rw [Side.opposite_opposite]
        exact here

end

end IsUniquelyNamed

/-- Types that can be built leave no two node types and no two relationships of one name. -/
theorem isUniquelyNamed_of_augmented {paged : Bool} {types : Graphql.TypeSystem}
    (augmented : model.augmented paged = .ok types) (built : types.build = .ok ()) :
    model.IsUniquelyNamed where
  nodes := nodeNames_nodup augmented built
  relationships node member :=
    (offered_names_nodup augmented built _ (nodeDefinition_offered member)).sublist
      ((List.sublist_append_right _ _).trans
        ((List.sublist_cons_self _ _).trans (names_sublist_nodeDefinition paged node)))

end Model

/-!
What a model without mismatches promises.  Only pairs are checked, but the pairs connect all ends of
a relationship: if no pair is a mismatch, every two opposite ends store properties of one shape, and
if two opposite ends differ, some pair is a mismatch.
-/

open Model (End)

/-- Relationships of two types that are the two ends of one: each leads to the type of the other,
under one label and in opposite directions. -/
structure AreOpposite (node : NodeType) (relationship : Relationship) (related : NodeType)
    (other : Relationship) : Prop where
  leads : relationship.relatedType = related.name
  leadsBack : other.relatedType = node.name
  label : other.label = relationship.label
  direction : other.direction = relationship.direction.opposite

theorem areOpposite_iff {node related : NodeType} {relationship other : Relationship} :
    AreOpposite node relationship related other ↔
      other.side related.name = (relationship.side node.name).opposite := by
  constructor
  · rintro ⟨leads, leadsBack, label, direction⟩
    unfold Relationship.side Side.opposite
    rw [leads, leadsBack, label, direction]
  · intro same
    unfold Relationship.side Side.opposite at same
    injection same with leads leadsBack label direction
    exact ⟨leads.symm, leadsBack, label, direction⟩

theorem endProblems_eq_nil_iff (first second : End) (here there : Option PropertiesType) :
    endProblems first second here there = [] ↔
      here.map PropertiesType.signature = there.map PropertiesType.signature := by
  cases here <;> cases there <;> simp [endProblems, PropertiesType.agreesWith]

theorem eq_mismatch_of_mem_endProblems {first second : End} {here there : Option PropertiesType}
    {problem : Problem} (member : problem ∈ endProblems first second here there) :
    ∃ differences, problem = .mismatch first.text second.text differences := by
  unfold endProblems at member
  split at member
  · cases member
  · exact ⟨_, List.mem_singleton.mp member⟩
  · exact ⟨_, List.mem_singleton.mp member⟩
  · split at member
    · cases member
    · exact ⟨_, List.mem_singleton.mp member⟩

/-- Whether a problem is one of two ends that differ. -/
def Problem.isMismatch : Problem → Bool
  | .mismatch _ _ _ => true
  | _ => false

namespace Model

variable {model : Model}

/-- The properties of a declared end. -/
def propertiesAt? (model : Model) (first : End) : Option PropertiesType :=
  (model.relationship first.typeName first.fieldName).toOption.bind model.propertiesOf?

/-- The problems of a pair of declared ends. -/
def mismatchAt (model : Model) (pair : End × End) : List Problem :=
  endProblems pair.1 pair.2 (model.propertiesAt? pair.1) (model.propertiesAt? pair.2)

/-- The shape of the properties of a declared end, if it has properties. -/
def shapeAt? (model : Model) (first : End) : Option (List (String × String)) :=
  (model.propertiesAt? first).map PropertiesType.signature

/-- The problems of types by themselves. -/
def typeProblems (model : Model) : List Problem :=
  (model.nodes.flatMap fun node => node.identifierTypeProblems ++ node.markedFieldProblems) ++
    model.properties.flatMap PropertiesType.markedFieldProblems

theorem typeProblems_isMismatch {problem : Problem} (member : problem ∈ model.typeProblems) :
    problem.isMismatch = false := by
  rcases List.mem_append.mp member with ofNode | ofProperties
  · obtain ⟨node, -, here⟩ := List.mem_flatMap.mp ofNode
    rcases List.mem_append.mp here with declared | marked
    · unfold NodeType.identifierTypeProblems at declared
      split at declared
      · cases declared
      · split at declared
        · cases declared
        · rw [List.mem_singleton.mp declared]
          rfl
    · obtain ⟨field, -, rfl⟩ := List.mem_map.mp marked
      rfl
  · obtain ⟨type, -, here⟩ := List.mem_flatMap.mp ofProperties
    obtain ⟨field, -, rfl⟩ := List.mem_map.mp here
    rfl

/-- No pair of ends is a mismatch exactly if the ends of every pair have properties of one shape. -/
theorem no_mismatch_iff_alike {pairs : List (End × End)} :
    (∀ problem ∈ model.typeProblems ++ pairs.flatMap model.mismatchAt,
        problem.isMismatch = false) ↔
      ∀ pair ∈ pairs, model.shapeAt? pair.1 = model.shapeAt? pair.2 := by
  constructor
  · intro none_ pair member
    refine (endProblems_eq_nil_iff pair.1 pair.2 _ _).mp (List.eq_nil_iff_forall_not_mem.mpr ?_)
    intro problem here
    have passes := none_ problem
      (List.mem_append_right _ (List.mem_flatMap.mpr ⟨pair, member, here⟩))
    obtain ⟨differences, rfl⟩ := eq_mismatch_of_mem_endProblems here
    cases passes
  · intro alike problem member
    rcases List.mem_append.mp member with ofType | ofPair
    · exact typeProblems_isMismatch ofType
    · obtain ⟨pair, among, here⟩ := List.mem_flatMap.mp ofPair
      rw [mismatchAt, (endProblems_eq_nil_iff _ _ _ _).mpr (alike pair among)] at here
      cases here

namespace IsUniquelyNamed

theorem shapeAt?_eq (named : model.IsUniquelyNamed) {node : NodeType} {relationship : Relationship}
    (member : node ∈ model.nodes) (inside : relationship ∈ node.relationships) :
    model.shapeAt? ⟨node.name, relationship.name⟩ =
      (model.propertiesOf? relationship).map PropertiesType.signature := by
  unfold shapeAt? propertiesAt?
  rw [named.relationship_eq member inside]
  rfl

theorem pairProblems_eq (named : model.IsUniquelyNamed) {pair : End × End}
    (first : pair.1 ∈ model.ends) (second : pair.2 ∈ model.ends) :
    model.pairProblems pair = .ok (model.mismatchAt pair) := by
  obtain ⟨one, other⟩ := pair
  obtain ⟨node, known, relationship, inside, rfl⟩ := mem_ends.mp first
  obtain ⟨related, knownToo, candidate, among, rfl⟩ := mem_ends.mp second
  unfold pairProblems mismatchAt propertiesAt?
  rw [named.relationship_eq known inside, named.relationship_eq knownToo among]
  rfl

/-- All look-ups of the check succeed. -/
theorem violations_eq (named : model.IsUniquelyNamed) {pairs : List (End × End)}
    (ran : model.relationshipPairs = .ok pairs) :
    model.violations = .ok (model.typeProblems ++ pairs.flatMap model.mismatchAt) := by
  have mismatches : pairs.mapM model.pairProblems = .ok (pairs.map model.mismatchAt) := by
    refine Outcome.mapM_ok_iff.mpr (List.forall₂_map_right_iff.mpr (List.forall₂_same.mpr ?_))
    intro pair member
    obtain ⟨first, second, -⟩ := named.opposite_of_mem ran member
    exact named.pairProblems_eq first second
  unfold violations
  rw [ran]
  dsimp only [bind, Except.bind]
  rw [mismatches, List.flatMap_def]
  rfl

/-- The ends of every pair have properties of one shape exactly if every two opposite ends do. -/
theorem alike_iff_opposite_alike (named : model.IsUniquelyNamed) {pairs : List (End × End)}
    (ran : model.relationshipPairs = .ok pairs) :
    (∀ pair ∈ pairs, model.shapeAt? pair.1 = model.shapeAt? pair.2) ↔
      ∀ node ∈ model.nodes, ∀ relationship ∈ node.relationships,
        ∀ related ∈ model.nodes, ∀ other ∈ related.relationships,
          AreOpposite node relationship related other →
            (model.propertiesOf? relationship).map PropertiesType.signature =
              (model.propertiesOf? other).map PropertiesType.signature := by
  constructor
  · intro alike node known relationship inside related knownToo other among opposite
    rw [← named.shapeAt?_eq known inside, ← named.shapeAt?_eq knownToo among]
    refine named.shape_eq_of_opposite ran alike (mem_ends.mpr ⟨_, known, _, inside, rfl⟩)
      (mem_ends.mpr ⟨_, knownToo, _, among, rfl⟩) (named.sideOf?_eq known inside) ?_
    rw [named.sideOf?_eq knownToo among, areOpposite_iff.mp opposite]
  · rintro agree ⟨first, second⟩ member
    obtain ⟨declared, declaredToo, side, lies, liesOpposite⟩ := named.opposite_of_mem ran member
    obtain ⟨node, known, relationship, inside, rfl⟩ := mem_ends.mp declared
    obtain ⟨related, knownToo, other, among, rfl⟩ := mem_ends.mp declaredToo
    rw [named.sideOf?_eq known inside, Option.some.injEq] at lies
    rw [named.sideOf?_eq knownToo among, Option.some.injEq, ← lies] at liesOpposite
    rw [named.shapeAt?_eq known inside, named.shapeAt?_eq knownToo among]
    exact agree node known relationship inside related knownToo other among
      (areOpposite_iff.mpr liesOpposite)

end IsUniquelyNamed

/-- No two ends are told to differ exactly if every two opposite ends agree: both are without
properties, or the properties of both have the same signature. -/
theorem no_mismatch_iff_opposite_agree (named : model.IsUniquelyNamed) :
    ∃ problems, model.violations = .ok problems ∧
      ((∀ problem ∈ problems, problem.isMismatch = false) ↔
        ∀ node ∈ model.nodes, ∀ relationship ∈ node.relationships,
          ∀ related ∈ model.nodes, ∀ other ∈ related.relationships,
            AreOpposite node relationship related other →
              (model.propertiesOf? relationship).map PropertiesType.signature =
                (model.propertiesOf? other).map PropertiesType.signature) := by
  obtain ⟨pairs, ran⟩ := named.relationshipPairs_ok
  exact ⟨_, named.violations_eq ran,
    no_mismatch_iff_alike.trans (named.alike_iff_opposite_alike ran)⟩

/-- People who follow and are followed in several ways, which are declared in turn.  Two of the ways
store when, in two types of one shape; one of those followed stores nothing. -/
def followers : Model where
  nodes :=
    [{ name := "Person"
       relationships :=
        [{ name := "follows", type := { name := "Person", isList := true },
           relatedType := "Person", direction := .outgoing, label := "FOLLOWS",
           properties := some "Follows" },
         { name := "followers", type := { name := "Person", isList := true },
           relatedType := "Person", direction := .incoming, label := "FOLLOWS",
           properties := some "FollowedBy" },
         { name := "watches", type := { name := "Person", isList := true },
           relatedType := "Person", direction := .outgoing, label := "FOLLOWS",
           properties := some "Follows" },
         { name := "watchers", type := { name := "Person", isList := true },
           relatedType := "Person", direction := .incoming, label := "FOLLOWS" }] }]
  properties :=
    [{ name := "Follows"
       fields := [{ name := "since", type := { name := "Int" }, stored := "since" }] },
     { name := "FollowedBy"
       fields := [{ name := "since", type := { name := "Int" }, stored := "since" }] }]

theorem no_mismatch_iff_opposite_agree_followers :
    followers.IsUniquelyNamed ∧ ∃ problems, followers.violations = .ok problems ∧
      ((∀ problem ∈ problems, problem.isMismatch = false) ↔
        ∀ node ∈ followers.nodes, ∀ relationship ∈ node.relationships,
          ∀ related ∈ followers.nodes, ∀ other ∈ related.relationships,
            AreOpposite node relationship related other →
              (followers.propertiesOf? relationship).map PropertiesType.signature =
                (followers.propertiesOf? other).map PropertiesType.signature) := by
  have named : followers.IsUniquelyNamed := ⟨by decide, by decide⟩
  exact ⟨named, no_mismatch_iff_opposite_agree named⟩

/-- Of the four opposite pairs two differ, and one of them is told. -/
example : (followers.violations.toOption.getD []).map Problem.isMismatch = [true] := by
  decide +kernel

end Model

end GraphGateway.Schema
