import Mathlib.Algebra.GroupWithZero.Nat
import Mathlib.Algebra.Order.BigOperators.Group.List
import Mathlib.Algebra.Order.Group.Nat
import GraphGateway.Graphql.Merging

/-!
Fragments that are reached.  A walk takes names off a list, opens each of them once, and adds the
names behind it; with enough steps nothing is left to open.  The fragments that selections reach and
the fields of a selection set both come from such a walk.
-/
namespace GraphGateway.Graphql

section

variable {α : Type}

/-- What a walk opens: each name once, with what it holds.  `next` opens a name. -/
def walk (next : String → Option (α × List String)) :
    Nat → List String → List String → List (String × α)
  | 0, _, _ => []
  | _, [], _ => []
  | steps + 1, name :: pending, opened =>
      if opened.contains name then walk next steps pending opened
      else
        match next name with
        | none => walk next steps pending opened
        | some (item, names) =>
            (name, item) :: walk next steps (names ++ pending) (name :: opened)

/-- Names that a walk has opened, or opened before. -/
def IsOpened (opened : List String) (found : List (String × α)) (name : String) : Prop :=
  name ∈ opened ∨ name ∈ found.map Prod.fst

/-- What counts as opened beside a name that is opened now is opened behind it. -/
theorem IsOpened.of_cons {name other : String} {item : α} {opened : List String}
    {found : List (String × α)} (open_ : IsOpened (name :: opened) found other) :
    IsOpened opened ((name, item) :: found) other := by
  rcases open_ with here | later
  · rcases List.mem_cons.mp here with rfl | old
    · exact .inr (List.mem_cons_self ..)
    · exact .inl old
  · exact .inr (List.mem_cons_of_mem _ later)

/-- What holds of the pending names and goes on to the names behind holds of all opened ones. -/
theorem walk_sound (next : String → Option (α × List String)) {holds : String → Prop}
    (onward : ∀ name item names, holds name → next name = some (item, names) →
      ∀ other ∈ names, holds other) (steps : Nat) {pending : List String} (opened : List String)
    (start : ∀ name ∈ pending, holds name) :
    ∀ entry ∈ walk next steps pending opened,
      holds entry.1 ∧ ∃ names, next entry.1 = some (entry.2, names) := by
  induction steps generalizing pending opened with
  | zero =>
      intro entry member
      cases member
  | succ steps ih =>
      cases pending with
      | nil =>
          intro entry member
          cases member
      | cons name pending =>
          have others : ∀ other ∈ pending, holds other :=
            fun other member => start other (List.mem_cons_of_mem _ member)
          unfold walk
          split
          · exact ih opened others
          · split
            · exact ih opened others
            · next item names found =>
              have first := start name (List.mem_cons_self ..)
              intro entry member
              rcases List.mem_cons.mp member with rfl | later
              · exact ⟨first, names, found⟩
              · refine ih _ ?_ entry later
                intro other among
                rcases List.mem_append.mp among with here | before
                · exact onward name item names first found other here
                · exact others other before

/-- With enough steps a walk opens every pending name and every name behind one that it opens.  The
cost of a set of opened names bounds how many names are still to come. -/
theorem walk_complete (next : String → Option (α × List String)) {cost : List String → Nat}
    (falls : ∀ name item names opened, name ∉ opened → next name = some (item, names) →
      names.length + cost (name :: opened) ≤ cost opened)
    (steps : Nat) (pending opened : List String) (enough : pending.length + cost opened < steps) :
    (∀ name ∈ pending, (next name).isSome = true →
      IsOpened opened (walk next steps pending opened) name) ∧
    ∀ entry ∈ walk next steps pending opened, ∃ names, next entry.1 = some (entry.2, names) ∧
      ∀ name ∈ names, (next name).isSome = true →
        IsOpened opened (walk next steps pending opened) name := by
  induction steps generalizing pending opened with
  | zero => exact absurd enough (Nat.not_lt_zero _)
  | succ steps ih =>
      cases pending with
      | nil => simp [walk]
      | cons name pending =>
          rw [List.length_cons] at enough
          unfold walk
          split
          · next before =>
            obtain ⟨waiting, behind⟩ := ih pending opened (by omega)
            refine ⟨fun other member there => ?_, behind⟩
            rcases List.mem_cons.mp member with rfl | later
            · exact .inl (List.contains_iff_mem.mp before)
            · exact waiting other later there
          · next fresh =>
            have apart : name ∉ opened := fun inside => fresh (List.contains_iff_mem.mpr inside)
            split
            · next closed =>
              obtain ⟨waiting, behind⟩ := ih pending opened (by omega)
              refine ⟨fun other member there => ?_, behind⟩
              rcases List.mem_cons.mp member with rfl | later
              · rw [closed] at there
                cases there
              · exact waiting other later there
            · next item names found =>
              have cheaper := falls name item names opened apart found
              obtain ⟨waiting, behind⟩ := ih (names ++ pending) (name :: opened)
                (by rw [List.length_append]; omega)
              constructor
              · intro other member there
                rcases List.mem_cons.mp member with rfl | later
                · exact .inr (List.mem_cons_self ..)
                · exact (waiting other (List.mem_append_right _ later) there).of_cons
              · intro entry member
                rcases List.mem_cons.mp member with rfl | later
                · refine ⟨names, found, fun other among there => ?_⟩
                  exact (waiting other (List.mem_append_left _ among) there).of_cons
                · obtain ⟨others, opens, all⟩ := behind entry later
                  exact ⟨others, opens, fun other among there => (all other among there).of_cons⟩

end

section

variable {α : Type} (weight : α → Nat) {items : List α} {wide narrow : α → Bool}
  (within : ∀ item, narrow item = true → wide item = true)

include within

theorem sum_filter_le (items : List α) :
    ((items.filter narrow).map weight).sum ≤ ((items.filter wide).map weight).sum := by
  apply List.Sublist.sum_le_sum
  · exact (List.monotone_filter_right items within).map weight
  · exact fun _ _ => Nat.zero_le _

/-- A part of a list weighs less than the list by each item that it leaves out. -/
theorem sum_filter_add_le {item : α} (member : item ∈ items) (inside : wide item = true)
    (outside : narrow item = false) :
    weight item + ((items.filter narrow).map weight).sum ≤
      ((items.filter wide).map weight).sum := by
  induction items with
  | nil => cases member
  | cons first rest ih =>
      rcases List.mem_cons.mp member with rfl | later
      · have others := sum_filter_le weight within rest
        rw [List.filter_cons_of_neg (by simp [outside]), List.filter_cons_of_pos inside,
          List.map_cons, List.sum_cons]
        omega
      · have others := ih later
        by_cases kept : narrow first = true
        · rw [List.filter_cons_of_pos kept, List.filter_cons_of_pos (within first kept)]
          simp only [List.map_cons, List.sum_cons]
          omega
        · rw [List.filter_cons_of_neg kept]
          by_cases taken : wide first = true
          · rw [List.filter_cons_of_pos taken, List.map_cons, List.sum_cons]
            omega
          · rwa [List.filter_cons_of_neg taken]

end

namespace Document

variable (document : Document)

/-- Opens a fragment for the fragments spread in it. -/
def opened (name : String) : Option (Unit × List String) :=
  (document.fragment? name).map fun fragment => ((), Selection.spreadsOf fragment.selections)

variable {document}

theorem mem_of_fragment? {name : String} {fragment : Fragment}
    (found : document.fragment? name = some fragment) :
    fragment ∈ document.fragments ∧ fragment.name = name :=
  ⟨List.mem_reverse.mp (List.mem_of_find?_eq_some found),
    eq_of_beq (List.find?_some (p := (Fragment.name · == name)) found)⟩

theorem mem_of_operation? {wanted : Option String}
    {operation : Operation} (found : document.operation? wanted = some operation) :
    operation ∈ document.operations := by
  unfold operation? at found
  split at found
  · exact List.mem_of_find?_eq_some found
  · split at found
    · next only =>
      cases found
      rw [only]
      exact List.mem_singleton_self _
    · cases found

/-- The spreads in the fragments that are not opened yet. -/
def spreadsLeft (document : Document) (opened : List String) : Nat :=
  ((document.fragments.filter fun fragment => !opened.contains fragment.name).map fun fragment =>
    (Selection.spreadsOf fragment.selections).length).sum

theorem spreadsLeft_nil : document.spreadsLeft [] = document.spreadCount := by
  have whole : (document.fragments.filter fun fragment =>
      !([] : List String).contains fragment.name) = document.fragments :=
    List.filter_eq_self.mpr fun _ _ => rfl
  rw [spreadsLeft, spreadCount, whole, List.length_flatMap]

theorem spreadsLeft_cons {name : String} {fragment : Fragment} {opened : List String}
    (fresh : name ∉ opened) (found : document.fragment? name = some fragment) :
    (Selection.spreadsOf fragment.selections).length + document.spreadsLeft (name :: opened) ≤
      document.spreadsLeft opened := by
  obtain ⟨member, rfl⟩ := mem_of_fragment? found
  apply sum_filter_add_le _ ?_ member
  · simpa using fresh
  · simp
  · intro other
    simp only [List.contains_cons, Bool.not_or, Bool.and_eq_true]
    exact And.right

/-- The names of the fragments that selections spread, directly or through other fragments. -/
inductive Reaches (document : Document) (selections : List Selection) : String → Prop
  | spread {name : String} (member : name ∈ Selection.spreadsOf selections) :
      Reaches document selections name
  | through {name other : String} {fragment : Fragment} (first : Reaches document selections name)
      (found : document.fragment? name = some fragment)
      (member : other ∈ Selection.spreadsOf fragment.selections) :
      Reaches document selections other

theorem mem_reachFrom_iff {steps : Nat} {pending opened : List String} {name : String} :
    name ∈ document.reachFrom steps pending opened ↔
      IsOpened opened (walk document.opened steps pending opened) name := by
  induction steps generalizing pending opened with
  | zero => simp [reachFrom, walk, IsOpened]
  | succ steps ih =>
      cases pending with
      | nil => simp [reachFrom, walk, IsOpened]
      | cons first pending =>
          unfold reachFrom walk
          split
          · exact ih
          · cases found : document.fragment? first with
            | none => simp only [Document.opened, found, Option.map_none, ih]
            | some fragment =>
                simp only [Document.opened, found, Option.map_some, ih, IsOpened, List.mem_cons,
                  List.map_cons]
                exact or_assoc.trans or_left_comm

/-- The fragments that are reached are all that there are on the way. -/
theorem mem_reachable_iff {selections : List Selection} {name : String} :
    name ∈ document.reachable selections ↔
      document.Reaches selections name ∧ (document.fragment? name).isSome = true := by
  unfold reachable
  rw [mem_reachFrom_iff]
  have opens : ∀ name, (document.opened name).isSome = (document.fragment? name).isSome :=
    fun _ => Option.isSome_map
  constructor
  · rintro (impossible | member)
    · cases impossible
    · obtain ⟨entry, among, rfl⟩ := List.mem_map.mp member
      have onward : ∀ name item names, document.Reaches selections name →
          document.opened name = some (item, names) →
            ∀ other ∈ names, document.Reaches selections other := by
        intro name item names first found other inside
        obtain ⟨fragment, here, same⟩ := Option.map_eq_some_iff.mp found
        cases same
        exact .through first here inside
      obtain ⟨reaches, names, found⟩ :=
        walk_sound document.opened onward _ [] (fun _ => .spread) entry among
      exact ⟨reaches, by rw [← opens, found]; rfl⟩
  · rintro ⟨reaches, there⟩
    have falls : ∀ name item names opened, name ∉ opened →
        document.opened name = some (item, names) →
          names.length + document.spreadsLeft (name :: opened) ≤ document.spreadsLeft opened := by
      intro name item names opened fresh found
      obtain ⟨fragment, here, same⟩ := Option.map_eq_some_iff.mp found
      cases same
      exact spreadsLeft_cons fresh here
    obtain ⟨waiting, behind⟩ := walk_complete document.opened falls
      ((Selection.spreadsOf selections).length + document.spreadCount + 1)
      (Selection.spreadsOf selections) [] (by rw [spreadsLeft_nil]; omega)
    induction reaches with
    | spread member => exact waiting _ member (by rwa [opens])
    | @through name other fragment first found member ih =>
        have before := (ih (by rw [found]; rfl)).resolve_left List.not_mem_nil
        obtain ⟨entry, among, rfl⟩ := List.mem_map.mp before
        obtain ⟨names, opened, all⟩ := behind entry among
        unfold Document.opened at opened
        rw [found] at opened
        cases opened
        exact all _ member (by rwa [opens])

end Document

variable (system : TypeSystem)

mutual

/-- What is spread beside the fields of a selection is part of all that is spread in it. -/
theorem Selection.keyed_spreads (parent : Option TypeDefinition) : (selection : Selection) →
    ((selection.keyed system parent).2).Sublist selection.spreads
  | .field _ _ _ _ _ => List.nil_sublist _
  | .spread _ _ => .refl _
  | .inline condition _ selections =>
      Selection.keyedOf_spreads (system.narrowed parent condition) selections

theorem Selection.keyedOf_spreads (parent : Option TypeDefinition) :
    (selections : List Selection) →
    ((Selection.keyedOf system parent selections).2).Sublist (Selection.spreadsOf selections)
  | [] => .refl _
  | selection :: rest => (keyed_spreads parent selection).append (keyedOf_spreads parent rest)

end

variable (document : Document)

/-- Opens a fragment for its fields and the fragments spread beside them. -/
def Document.openedFields (name : String) : Option (List KeyedField × List String) :=
  (document.fragment? name).map fun fragment =>
    Selection.keyedOf system (system.composite? fragment.condition) fragment.selections

theorem fragmentFields_eq_walk (steps : Nat) (pending opened : List String) :
    fragmentFields system document steps pending opened =
      (walk (document.openedFields system) steps pending opened).flatMap Prod.snd := by
  induction steps generalizing pending opened with
  | zero => rfl
  | succ steps ih =>
      cases pending with
      | nil => rfl
      | cons name pending =>
          unfold fragmentFields walk
          split
          · exact ih _ _
          · cases found : document.fragment? name with
            | none => simp only [Document.openedFields, found, Option.map_none, ih]
            | some fragment =>
                simp only [Document.openedFields, found, Option.map_some, ih, List.flatMap_cons]

/-- Selections on a type whose fields are among some, where those of the named fragments are too. -/
structure Covers (system : TypeSystem) (document : Document) (fields : List KeyedField)
    (names : List String) (parent : Option TypeDefinition) (selections : List Selection) :
    Prop where
  fields : ∀ field ∈ (Selection.keyedOf system parent selections).1, field ∈ fields
  names : ∀ name ∈ (Selection.keyedOf system parent selections).2,
    (document.fragment? name).isSome = true → name ∈ names

/-- The fields of a selection set are those of its selections and of every fragment that is spread
beside them. -/
theorem TypedSelections.fields_closed (set : TypedSelections) :
    ∃ names, Covers system document (set.fields system document) names set.parent set.selections ∧
      ∀ name ∈ names, ∃ fragment, document.fragment? name = some fragment ∧
        Covers system document (set.fields system document) names
          (system.composite? fragment.condition) fragment.selections := by
  have opens : ∀ name,
      (document.openedFields system name).isSome = (document.fragment? name).isSome :=
    fun _ => Option.isSome_map
  let direct := Selection.keyedOf system set.parent set.selections
  let steps := direct.2.length + document.spreadCount + 1
  have falls : ∀ name item names opened, name ∉ opened →
      document.openedFields system name = some (item, names) →
        names.length + document.spreadsLeft (name :: opened) ≤ document.spreadsLeft opened := by
    intro name item names opened fresh found
    obtain ⟨fragment, here, same⟩ := Option.map_eq_some_iff.mp found
    have fewer := Document.spreadsLeft_cons fresh here
    have short := (Selection.keyedOf_spreads system (system.composite? fragment.condition)
      fragment.selections).length_le
    rw [same] at short
    dsimp only at short
    omega
  obtain ⟨waiting, behind⟩ := walk_complete (document.openedFields system) falls steps direct.2 []
    (by rw [Document.spreadsLeft_nil]; omega)
  have all : set.fields system document =
      direct.1 ++ (walk (document.openedFields system) steps direct.2 []).flatMap Prod.snd := by
    rw [← fragmentFields_eq_walk]
    rfl
  refine ⟨(walk (document.openedFields system) steps direct.2 []).map Prod.fst, ⟨?_, ?_⟩, ?_⟩
  · intro field member
    rw [all]
    exact List.mem_append_left _ member
  · intro name member there
    exact (waiting name member (by rwa [opens])).resolve_left List.not_mem_nil
  · intro name member
    obtain ⟨entry, among, rfl⟩ := List.mem_map.mp member
    obtain ⟨names, found, next⟩ := behind entry among
    obtain ⟨fragment, here, same⟩ := Option.map_eq_some_iff.mp found
    refine ⟨fragment, here, ⟨?_, ?_⟩⟩
    · intro field inside
      rw [same] at inside
      rw [all]
      exact List.mem_append_right _ (List.mem_flatMap.mpr ⟨entry, among, inside⟩)
    · intro other inside there
      rw [same] at inside
      exact (next other inside (by rwa [opens])).resolve_left List.not_mem_nil

end GraphGateway.Graphql

/-!
How deep fields and fragments nest.  Selections weigh as much as they have fields, those of the
fragments that they reach included, and they are as high as they reach fragments.  Where no fragment
reaches itself, what is selected in a field weighs less than the selections that the field stands in,
so that fields nest no deeper than a document has fields; and a fragment is less high than a spread of
it, so that fragments nest no deeper than there are any.
-/
namespace GraphGateway.Graphql

theorem Selection.spreadsOf_append (first second : List Selection) :
    Selection.spreadsOf (first ++ second) =
      Selection.spreadsOf first ++ Selection.spreadsOf second := by
  induction first with
  | nil => rfl
  | cons selection rest ih =>
      rw [List.cons_append, Selection.spreadsOf, Selection.spreadsOf, ih, List.append_assoc]

theorem Selection.fieldCountOf_append (first second : List Selection) :
    Selection.fieldCountOf (first ++ second) =
      Selection.fieldCountOf first + Selection.fieldCountOf second := by
  induction first with
  | nil => simp [Selection.fieldCountOf]
  | cons selection rest ih =>
      rw [List.cons_append, Selection.fieldCountOf, Selection.fieldCountOf, ih, Nat.add_assoc]

theorem Selection.fieldCountOf_flatMap {α : Type} (selections : α → List Selection)
    (items : List α) : Selection.fieldCountOf (items.flatMap selections) =
      (items.map fun item => Selection.fieldCountOf (selections item)).sum := by
  induction items with
  | nil => rfl
  | cons item rest ih =>
      rw [List.flatMap_cons, Selection.fieldCountOf_append, ih, List.map_cons, List.sum_cons]

theorem Selection.mem_spreadsOf {selections : List Selection} {selection : Selection}
    (member : selection ∈ selections) {name : String} (spread : name ∈ selection.spreads) :
    name ∈ Selection.spreadsOf selections := by
  obtain ⟨before, after, rfl⟩ := List.append_of_mem member
  rw [Selection.spreadsOf_append, Selection.spreadsOf]
  exact List.mem_append_right _ (List.mem_append_left _ spread)

theorem Selection.fieldCount_le {selections : List Selection} {selection : Selection}
    (member : selection ∈ selections) :
    selection.fieldCount ≤ Selection.fieldCountOf selections := by
  obtain ⟨before, after, rfl⟩ := List.append_of_mem member
  rw [Selection.fieldCountOf_append, Selection.fieldCountOf]
  omega

namespace Document

variable {document : Document}

/-- A document in which no fragment reaches itself. -/
def IsAcyclic (document : Document) : Prop :=
  ∀ fragment ∈ document.fragments, fragment.name ∉ document.reachable fragment.selections

theorem Reaches.mono {first second : List Selection}
    (within : ∀ name ∈ Selection.spreadsOf first, document.Reaches second name) {name : String}
    (reaches : document.Reaches first name) : document.Reaches second name := by
  induction reaches with
  | spread member => exact within _ member
  | through _ found member ih => exact .through ih found member

theorem mem_reachable_of_reaches {first second : List Selection}
    (within : ∀ name ∈ Selection.spreadsOf first, document.Reaches second name) {name : String}
    (reached : name ∈ document.reachable first) : name ∈ document.reachable second := by
  obtain ⟨reaches, there⟩ := mem_reachable_iff.mp reached
  exact mem_reachable_iff.mpr ⟨reaches.mono within, there⟩

/-- What the fragments with some names count for together. -/
def fragmentSum (document : Document) (weight : Fragment → Nat) (names : List String) : Nat :=
  ((document.fragments.filter fun fragment => names.contains fragment.name).map weight).sum

section

variable (weight : Fragment → Nat)

/-- Fragments that are reached from a part count for no more than those that are reached at all. -/
theorem fragmentSum_mono {first second : List Selection}
    (within : ∀ name ∈ Selection.spreadsOf first, document.Reaches second name) :
    document.fragmentSum weight (document.reachable first) ≤
      document.fragmentSum weight (document.reachable second) := by
  apply sum_filter_le
  intro fragment reached
  rw [List.contains_iff_mem] at reached ⊢
  exact mem_reachable_of_reaches within reached

/-- A spread counts for its fragment besides what the fragment reaches, as it does not reach itself. -/
theorem fragmentSum_fragment (acyclic : document.IsAcyclic) {name : String} {fragment : Fragment}
    (found : document.fragment? name = some fragment) (directives : List Directive) :
    weight fragment + document.fragmentSum weight (document.reachable fragment.selections) ≤
      document.fragmentSum weight (document.reachable [.spread name directives]) := by
  obtain ⟨member, rfl⟩ := mem_of_fragment? found
  have direct : document.Reaches [.spread fragment.name directives] fragment.name :=
    .spread (List.mem_singleton_self _)
  apply sum_filter_add_le weight ?_ member
  · rw [List.contains_iff_mem]
    exact mem_reachable_iff.mpr ⟨direct, by rw [found]; rfl⟩
  · rw [Bool.eq_false_iff]
    intro reached
    exact acyclic fragment member (List.contains_iff_mem.mp reached)
  · intro other reached
    rw [List.contains_iff_mem] at reached ⊢
    exact mem_reachable_of_reaches (fun name spread => .through direct found spread) reached

/-- All fragments count for no more than there are. -/
theorem fragmentSum_le (names : List String) :
    document.fragmentSum weight names ≤ (document.fragments.map weight).sum := by
  apply List.Sublist.sum_le_sum
  · exact List.filter_sublist.map _
  · exact fun _ _ => Nat.zero_le _

end

/-- The number of the fields in the fragments with some names. -/
def fragmentWeight (document : Document) (names : List String) : Nat :=
  document.fragmentSum (fun fragment => Selection.fieldCountOf fragment.selections) names

/-- The number of the fields that selections have, in the fragments that they reach too. -/
def weigh (document : Document) (selections : List Selection) : Nat :=
  Selection.fieldCountOf selections + document.fragmentWeight (document.reachable selections)

/-- The number of the fragments that selections reach. -/
def height (document : Document) (selections : List Selection) : Nat :=
  document.fragmentSum (fun _ => 1) (document.reachable selections)

/-- A fragment is less high than a spread of it. -/
theorem height_fragment (acyclic : document.IsAcyclic) {name : String} {fragment : Fragment}
    (found : document.fragment? name = some fragment) (directives : List Directive) :
    document.height fragment.selections < document.height [.spread name directives] := by
  have less := fragmentSum_fragment (fun _ => 1) acyclic found directives
  unfold height
  omega

/-- What a fragment reaches is less high than the fragment. -/
theorem height_reached (acyclic : document.IsAcyclic) {name other : String} {fragment : Fragment}
    (found : document.fragment? name = some fragment)
    (reaches : document.Reaches fragment.selections other) :
    document.height [.spread other []] < document.height [.spread name []] := by
  have below : document.height [.spread other []] ≤ document.height fragment.selections := by
    apply fragmentSum_mono
    intro next spread
    rwa [List.mem_singleton.mp spread]
  exact Nat.lt_of_le_of_lt below (height_fragment acyclic found [])

theorem height_le (selections : List Selection) :
    document.height selections ≤ document.fragments.length := by
  have most := document.fragmentSum_le (fun _ => 1) (document.reachable selections)
  rwa [List.map_const', List.sum_replicate_nat, Nat.mul_one] at most

theorem weigh_field (key : Option String) (name : String) (arguments : Arguments)
    (directives : List Directive) (selections : List Selection) :
    document.weigh [.field key name arguments directives selections] =
      document.weigh selections + 1 := by
  have same : Selection.spreadsOf [.field key name arguments directives selections] =
      Selection.spreadsOf selections := List.append_nil _
  unfold weigh reachable
  rw [same, Selection.fieldCountOf, Selection.fieldCount, Selection.fieldCountOf]
  omega

theorem weigh_inline (condition : Option String) (directives : List Directive)
    (selections : List Selection) :
    document.weigh [.inline condition directives selections] = document.weigh selections := by
  have same : Selection.spreadsOf [.inline condition directives selections] =
      Selection.spreadsOf selections := List.append_nil _
  unfold weigh reachable
  rw [same, Selection.fieldCountOf, Selection.fieldCount, Selection.fieldCountOf, Nat.add_zero]

theorem weigh_mem {selections : List Selection} {selection : Selection}
    (member : selection ∈ selections) :
    document.weigh [selection] ≤ document.weigh selections := by
  have fewer := Selection.fieldCount_le member
  have within : ∀ name ∈ Selection.spreadsOf [selection], document.Reaches selections name := by
    intro name spread
    rw [Selection.spreadsOf, Selection.spreadsOf, List.append_nil] at spread
    exact .spread (Selection.mem_spreadsOf member spread)
  have part : document.fragmentWeight (document.reachable [selection]) ≤
      document.fragmentWeight (document.reachable selections) := fragmentSum_mono _ within
  unfold weigh
  rw [Selection.fieldCountOf, Selection.fieldCountOf]
  omega

/-- A fragment weighs no more than a spread of it, as it does not reach itself. -/
theorem weigh_fragment (acyclic : document.IsAcyclic) {name : String} {fragment : Fragment}
    (found : document.fragment? name = some fragment) (directives : List Directive) :
    document.weigh fragment.selections ≤ document.weigh [.spread name directives] := by
  have less : Selection.fieldCountOf fragment.selections +
      document.fragmentWeight (document.reachable fragment.selections) ≤
      document.fragmentWeight (document.reachable [.spread name directives]) :=
    fragmentSum_fragment (fun fragment => Selection.fieldCountOf fragment.selections) acyclic found
      directives
  unfold weigh
  rw [Selection.fieldCountOf, Selection.fieldCount, Selection.fieldCountOf]
  omega

theorem weigh_operation {operation : Operation} (member : operation ∈ document.operations) :
    document.weigh operation.selections ≤ document.fieldCount := by
  have counted : Selection.fieldCountOf operation.selections ≤
      (document.operations.map fun operation => Selection.fieldCountOf operation.selections).sum :=
    List.le_sum_of_mem (List.mem_map_of_mem member)
  have part : document.fragmentWeight (document.reachable operation.selections) ≤
      (document.fragments.map fun fragment => Selection.fieldCountOf fragment.selections).sum :=
    fragmentSum_le _ _
  unfold weigh fieldCount
  rw [Selection.fieldCountOf_append, Selection.fieldCountOf_flatMap,
    Selection.fieldCountOf_flatMap]
  omega

end Document

end GraphGateway.Graphql
