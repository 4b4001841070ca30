import Mathlib.Data.List.Induction
import Mathlib.Logic.Relation
import GraphGateway.Proofs.Entries
import GraphGateway.Proofs.Graphql.Reach
import GraphGateway.Proofs.Outcome
import GraphGateway.Request.Reading

/-!
Fields that come again.  Two lists have the same items first if one comes from the other by leaving
out, or putting in, items that stand further in front already.  Fields are grouped by their keys; of
lists with the same items first the groups have the same keys, and under each key the same fields
first.
-/
namespace GraphGateway.Request

section

variable {α β : Type}

/-- The second list is the first one without an item that stands further in front too. -/
inductive Repeats : List α → List α → Prop where
  | drop (before : List α) {item : α} (after : List α) (member : item ∈ before) :
      Repeats (before ++ item :: after) (before ++ after)

/-- Lists that differ in no more than items that come again. -/
def SameFirsts : List α → List α → Prop := Relation.EqvGen Repeats

namespace SameFirsts

variable {first second third : List α}

theorem refl (items : List α) : SameFirsts items items := Relation.EqvGen.refl items

theorem symm (same : SameFirsts first second) : SameFirsts second first :=
  Relation.EqvGen.symm _ _ same

theorem trans (same : SameFirsts first second) (also : SameFirsts second third) :
    SameFirsts first third :=
  Relation.EqvGen.trans _ _ _ same also

theorem of_repeats (repeats : Repeats first second) : SameFirsts first second :=
  Relation.EqvGen.rel _ _ repeats

/-- What comes out the same from lists with one item less does so from lists with the same firsts. -/
theorem induct (relation : List α → List α → Prop) (same : SameFirsts first second)
    (drop : ∀ long short, Repeats long short → relation long short)
    (keep : ∀ items, relation items items) (flip : ∀ one other, relation one other →
      relation other one)
    (chain : ∀ one other last, relation one other → relation other last → relation one last) :
    relation first second := by
  induction same with
  | rel long short repeats => exact drop long short repeats
  | refl items => exact keep items
  | symm one other _ ih => exact flip one other ih
  | trans one other last _ _ ih also => exact chain one other last ih also

theorem lift (change : List α → List β) (same : SameFirsts first second)
    (drop : ∀ long short, Repeats long short → SameFirsts (change long) (change short)) :
    SameFirsts (change first) (change second) :=
  same.induct (fun one other => SameFirsts (change one) (change other)) drop (fun _ => .refl _)
    (fun _ _ => .symm) fun _ _ _ => .trans

theorem eq_of (view : List α → β) (same : SameFirsts first second)
    (drop : ∀ long short, Repeats long short → view long = view short) : view first = view second :=
  same.induct (fun one other => view one = view other) drop (fun _ => rfl) (fun _ _ => Eq.symm)
    fun _ _ _ => Eq.trans

theorem append_right (same : SameFirsts first second) (rest : List α) :
    SameFirsts (first ++ rest) (second ++ rest) := by
  refine lift (· ++ rest) same ?_
  rintro _ _ ⟨before, after, member⟩
  simp only [List.append_assoc, List.cons_append]
  exact .of_repeats (.drop before (after ++ rest) member)

/-- Items that stand in front may come again. -/
theorem append_of_subset {items extra : List α} (old : ∀ item ∈ extra, item ∈ items) :
    SameFirsts (items ++ extra) items := by
  induction extra with
  | nil =>
      rw [List.append_nil]
      exact .refl _
  | cons item rest ih =>
      refine (of_repeats (.drop items rest (old item (List.mem_cons_self ..)))).trans ?_
      exact ih fun other member => old other (List.mem_cons_of_mem _ member)

theorem filter (keeps : α → Bool) (same : SameFirsts first second) :
    SameFirsts (first.filter keeps) (second.filter keeps) := by
  refine lift (List.filter keeps) same ?_
  rintro _ _ ⟨before, after, member⟩
  simp only [List.filter_append, List.filter_cons]
  split
  · next kept =>
    exact .of_repeats (.drop _ _ (List.mem_filter.mpr ⟨member, kept⟩))
  · exact .refl _

theorem map (change : α → β) (same : SameFirsts first second) :
    SameFirsts (first.map change) (second.map change) := by
  refine lift (List.map change) same ?_
  rintro _ _ ⟨before, after, member⟩
  simp only [List.map_append, List.map_cons]
  exact .of_repeats (.drop _ _ (List.mem_map_of_mem member))

theorem head?_eq (same : SameFirsts first second) : first.head? = second.head? := by
  refine eq_of List.head? same ?_
  rintro _ _ ⟨before, after, member⟩
  cases before with
  | nil => cases member
  | cons item rest => rfl

end SameFirsts

/-- Lists that are related item by item but for items that come again. -/
def Linked (relation : α → β → Prop) (items : List α) (others : List β) : Prop :=
  ∃ firsts lasts, SameFirsts items firsts ∧ List.Forall₂ relation firsts lasts ∧
    SameFirsts lasts others

theorem Linked.of_forall {relation : α → β → Prop} {items : List α} {others : List β}
    (related : List.Forall₂ relation items others) : Linked relation items others :=
  ⟨items, others, .refl _, related, .refl _⟩

theorem Linked.head? {relation : α → β → Prop} {items : List α} {others : List β}
    (linked : Linked relation items others) : Option.Rel relation items.head? others.head? := by
  obtain ⟨firsts, lasts, one, related, other⟩ := linked
  rw [one.head?_eq, ← other.head?_eq]
  cases related with
  | nil => exact .none
  | cons first _ => exact .some first

end

/-! ## Groups -/

/-- A field with its key. -/
abbrev Keyed := String × Selected

/-- Puts a field behind those under its key. -/
def grouping (groups : List (String × List Selected)) (entry : Keyed) :
    List (String × List Selected) :=
  Entries.put groups entry.1 ((Entries.get? groups entry.1).getD [] ++ [entry.2])

/-- Fields by their keys, in order. -/
def grouped (entries : List Keyed) : List (String × List Selected) := entries.foldl grouping []

/-- Puts the key of a field behind the others if it is new. -/
def addKey (keys : List String) (entry : Keyed) : List String :=
  if entry.1 ∈ keys then keys else keys ++ [entry.1]

/-- The keys of fields, each where it comes first. -/
def keysOf (entries : List Keyed) : List String := entries.foldl addKey []

/-- The fields under a key. -/
def under (key : String) (entries : List Keyed) : List Selected :=
  (entries.filter (·.1 == key)).map Prod.snd

theorem grouped_concat (entries : List Keyed) (entry : Keyed) :
    grouped (entries ++ [entry]) = grouping (grouped entries) entry := by
  unfold grouped
  rw [List.foldl_append]
  rfl

theorem under_concat (key : String) (entries : List Keyed) (entry : Keyed) :
    under key (entries ++ [entry]) =
      under key entries ++ if entry.1 = key then [entry.2] else [] := by
  unfold under
  rw [List.filter_append, List.map_append]
  congr 1
  by_cases same : entry.1 = key <;> simp [same]

theorem keysOf_concat (entries : List Keyed) (entry : Keyed) :
    keysOf (entries ++ [entry]) =
      if entry.1 ∈ keysOf entries then keysOf entries else keysOf entries ++ [entry.1] := by
  unfold keysOf
  rw [List.foldl_append]
  rfl

theorem mem_keysOf_iff {entries : List Keyed} {key : String} :
    key ∈ keysOf entries ↔ ∃ entry ∈ entries, entry.1 = key := by
  induction entries using List.reverseRecOn with
  | nil => simp [keysOf]
  | append_singleton entries entry ih =>
      have last : (∃ other ∈ entries ++ [entry], other.1 = key) ↔
          (∃ other ∈ entries, other.1 = key) ∨ entry.1 = key := by
        simp only [List.mem_append, List.mem_singleton, or_and_right, exists_or, exists_eq_left]
      rw [keysOf_concat, last, ← ih]
      split
      · next old =>
        constructor
        · exact .inl
        · rintro (here | rfl)
          · exact here
          · exact old
      · rw [List.mem_append, List.mem_singleton]
        exact or_congr_right eq_comm

theorem keys_grouped (entries : List Keyed) : Entries.keys (grouped entries) = keysOf entries := by
  induction entries using List.reverseRecOn with
  | nil => rfl
  | append_singleton entries entry ih =>
      rw [grouped_concat, keysOf_concat, grouping, Entries.keys_put, ih]

theorem get?_grouped (entries : List Keyed) (key : String) :
    (Entries.get? (grouped entries) key).getD [] = under key entries := by
  induction entries using List.reverseRecOn with
  | nil => rfl
  | append_singleton entries entry ih =>
      rw [grouped_concat, under_concat, grouping, Entries.get?_put]
      split
      · next same =>
        subst same
        rw [Option.getD_some, ih]
      · rw [ih, List.append_nil]

theorem keysOf_nodup (entries : List Keyed) : (keysOf entries).Nodup := by
  rw [← keys_grouped]
  induction entries using List.reverseRecOn with
  | nil => exact List.nodup_nil
  | append_singleton entries entry ih =>
      rw [grouped_concat]
      exact Entries.keys_put_nodup _ _ _ ih

/-- Each key stands over the fields that have it. -/
theorem grouped_eq (entries : List Keyed) :
    grouped entries = (keysOf entries).map fun key => (key, under key entries) := by
  have distinct := keysOf_nodup entries
  rw [← keys_grouped] at distinct ⊢
  unfold Entries.keys
  rw [List.map_map]
  refine (List.map_id' _).symm.trans (List.map_congr_left fun entry member => ?_)
  have found := Entries.get?_eq_some_of_mem distinct member
  have fields := get?_grouped entries entry.1
  rw [found, Option.getD_some] at fields
  exact Prod.ext rfl fields

theorem SameFirsts.under {entries others : List Keyed} (same : SameFirsts entries others)
    (key : String) : SameFirsts (under key entries) (under key others) :=
  (same.filter _).map _

theorem SameFirsts.keysOf_eq {entries others : List Keyed} (same : SameFirsts entries others) :
    keysOf entries = keysOf others := by
  refine eq_of keysOf same ?_
  rintro _ _ ⟨before, after, member⟩
  have old := mem_keysOf_iff.mpr ⟨_, member, rfl⟩
  unfold keysOf at old ⊢
  rw [List.foldl_append, List.foldl_append, List.foldl_cons, addKey, if_pos old]

/-- Fields under the same key that are related. -/
def KeyedBy (relation : Selected → Selected → Prop) (entry other : Keyed) : Prop :=
  entry.1 = other.1 ∧ relation entry.2 other.2

section

variable {relation : Selected → Selected → Prop} {entries others : List Keyed}

theorem keysOf_of_related (related : List.Forall₂ (KeyedBy relation) entries others) :
    keysOf entries = keysOf others := by
  suffices every : ∀ keys, entries.foldl addKey keys = others.foldl addKey keys from every []
  induction related with
  | nil => exact fun _ => rfl
  | cons first _ ih =>
      intro keys
      rw [List.foldl_cons, List.foldl_cons, addKey, addKey, first.1]
      exact ih _

theorem under_related (related : List.Forall₂ (KeyedBy relation) entries others) (key : String) :
    List.Forall₂ relation (under key entries) (under key others) := by
  unfold under
  induction related with
  | nil => exact .nil
  | cons first _ ih =>
      rw [List.filter_cons, List.filter_cons, first.1]
      split
      · exact .cons first.2 ih
      · exact ih

/-- Linked fields have the same keys, and under each key linked fields. -/
theorem Linked.grouped (linked : Linked (KeyedBy relation) entries others) :
    List.Forall₂ (fun group other => group.1 = other.1 ∧ Linked relation group.2 other.2)
      (grouped entries) (grouped others) := by
  obtain ⟨firsts, lasts, one, related, other⟩ := linked
  have keys : keysOf others = keysOf entries := by
    rw [one.keysOf_eq, keysOf_of_related related, other.keysOf_eq]
  rw [grouped_eq, grouped_eq, keys, List.forall₂_map_left_iff, List.forall₂_map_right_iff,
    List.forall₂_same]
  intro key _
  exact ⟨rfl, under key firsts, under key lasts, one.under key, under_related related key,
    other.under key⟩

end

/-!
Selections unrolled.  Here every spread is followed each time it comes, so that the fields of a
fragment may come again.  Where no fragment reaches itself, collecting fields, which follows a spread
once only, finds the same fields first: what it passes over has been found in front already.
-/

open Graphql (Document Selection TypeDefinition)
open Outcome (Related)

namespace Context

variable (context : Context)

mutual

/-- The fields of a selection; `block` has those of a fragment. -/
def unrollOne (block : String → Except Failure (List Keyed)) (type : TypeDefinition) :
    Selection → Except Failure (List Keyed)
  | .field key name arguments directives selections => do
      if ← context.isIncluded directives then
        pure [(key.getD name, { name, arguments, selections })]
      else pure []
  | .inline condition directives selections => do
      if (← context.isIncluded directives) && context.applies type condition then
        unrollAll block type selections
      else pure []
  | .spread fragment directives => do
      if ← context.isIncluded directives then block fragment else pure []

def unrollAll (block : String → Except Failure (List Keyed)) (type : TypeDefinition) :
    List Selection → Except Failure (List Keyed)
  | [] => .ok []
  | selection :: rest => do
      let first ← unrollOne block type selection
      let others ← unrollAll block type rest
      pure (first ++ others)

end

/-- The fields of a fragment, down to some depth of fragments. -/
def unrollFragment (type : TypeDefinition) : Nat → String → Except Failure (List Keyed)
  | 0, _ => .ok []
  | depth + 1, name =>
      match context.document.fragment? name with
      | some fragment =>
          if context.applies type (some fragment.condition) then
            context.unrollAll (unrollFragment type depth) type fragment.selections
          else .ok []
      | none => .ok []

/-- The fields of a fragment.  Fragments nest no deeper than there are any. -/
def block (type : TypeDefinition) (name : String) : Except Failure (List Keyed) :=
  context.unrollFragment type (context.document.fragments.length + 1) name

/-- The fields of selections, those of a fragment each time it is spread. -/
def unroll (type : TypeDefinition) (selections : List Selection) : Except Failure (List Keyed) :=
  context.unrollAll (context.block type) type selections

section

variable {context : Context} {type : TypeDefinition}

mutual

theorem unrollOne_congr {block other : String → Except Failure (List Keyed)} :
    (selection : Selection) → (∀ name ∈ selection.spreads, block name = other name) →
    context.unrollOne block type selection = context.unrollOne other type selection
  | .field _ _ _ _ _, _ => rfl
  | .inline condition directives selections, same => by
      rw [unrollOne, unrollOne, unrollAll_congr selections same]
  | .spread fragment directives, same => by
      rw [unrollOne, unrollOne, same fragment (List.mem_singleton_self _)]

theorem unrollAll_congr {block other : String → Except Failure (List Keyed)} :
    (selections : List Selection) → (∀ name ∈ Selection.spreadsOf selections, block name = other name) →
    context.unrollAll block type selections = context.unrollAll other type selections
  | [], _ => rfl
  | selection :: rest, same => by
      rw [unrollAll, unrollAll,
        unrollOne_congr selection fun name member => same name (List.mem_append_left _ member),
        unrollAll_congr rest fun name member => same name (List.mem_append_right _ member)]

end

variable (acyclic : context.document.IsAcyclic)

include acyclic

/-- Below the height of a spread nothing is left to follow. -/
theorem unrollFragment_succ {depth : Nat} {name : String}
    (enough : context.document.height [.spread name []] ≤ depth) :
    context.unrollFragment type depth name = context.unrollFragment type (depth + 1) name := by
  induction depth generalizing name with
  | zero =>
      unfold unrollFragment
      split
      · next fragment found =>
        have less := Document.height_fragment acyclic found []
        omega
      · rfl
  | succ depth ih =>
      unfold unrollFragment
      split
      · next fragment found =>
        rw [unrollAll_congr fragment.selections fun other member => ih ?_]
        have less := Document.height_reached acyclic found (.spread member)
        omega
      · rfl

/-- A block has the fields of its fragment, if the fragment is there and applies. -/
theorem block_eq (name : String) :
    context.block type name =
      match context.document.fragment? name with
      | some fragment =>
          if context.applies type (some fragment.condition) then
            context.unroll type fragment.selections
          else .ok []
      | none => .ok [] := by
  have stable : ∀ other, context.unrollFragment type context.document.fragments.length other =
      context.block type other := fun other =>
    unrollFragment_succ acyclic (Document.height_le _)
  rw [block, unrollFragment, funext stable]
  rfl

end

/-! ## Spreads that are followed once -/

/-- What is collected has the same fields first as what is found so far, and of the fragments that
were seen those that may still be spread are found already. -/
structure Tracks (context : Context) (type : TypeDefinition) (pending : String → Prop)
    (sofar : List Keyed) (collected : Collected) : Prop where
  fields : ∃ kept, collected.fields = grouped kept ∧ SameFirsts kept sofar
  seen : ∀ name ∈ collected.seen, pending name →
    ∃ entries, context.block type name = .ok entries ∧ entries ⊆ sofar

/-- Following a spread for the first time finds the fields of its fragment. -/
def Follows (context : Context) (type : TypeDefinition)
    (spread : String → Collected → Except Failure Collected) (name : String) : Prop :=
  ∀ pending sofar collected, (∀ other, context.document.Reaches [.spread name []] other →
      pending other) → Tracks context type pending sofar collected →
    Related (fun entries after => Tracks context type pending (sofar ++ entries) after)
      (context.block type name) (spread name { collected with seen := name :: collected.seen })

section

variable {context : Context} {type : TypeDefinition} {pending : String → Prop}
  {sofar : List Keyed} {collected : Collected}

theorem Tracks.found_nothing (tracks : Tracks context type pending sofar collected) :
    Tracks context type pending (sofar ++ []) collected := by
  rwa [List.append_nil]

theorem Tracks.add (tracks : Tracks context type pending sofar collected) (entry : Keyed) :
    Tracks context type pending (sofar ++ [entry]) (collected.add entry.1 entry.2) := by
  obtain ⟨kept, same, firsts⟩ := tracks.fields
  refine ⟨⟨kept ++ [entry], ?_, firsts.append_right [entry]⟩, ?_⟩
  · rw [grouped_concat, ← same]
    rfl
  · intro name member awaited
    obtain ⟨entries, found, inside⟩ := tracks.seen name member awaited
    exact ⟨entries, found, fun item among => List.mem_append_left _ (inside among)⟩

/-- What was found already may be found again. -/
theorem Tracks.again (tracks : Tracks context type pending sofar collected) {entries : List Keyed}
    (old : entries ⊆ sofar) : Tracks context type pending (sofar ++ entries) collected := by
  obtain ⟨kept, same, firsts⟩ := tracks.fields
  refine ⟨⟨kept, same, firsts.trans (SameFirsts.append_of_subset old).symm⟩, ?_⟩
  intro name member awaited
  obtain ⟨others, found, inside⟩ := tracks.seen name member awaited
  exact ⟨others, found, fun item among => List.mem_append_left _ (inside among)⟩

mutual

theorem visit_tracks {spread : String → Collected → Except Failure Collected} :
    (selection : Selection) → (∀ name ∈ selection.spreads, Follows context type spread name) →
    (∀ name, context.document.Reaches [selection] name → pending name) →
    {sofar : List Keyed} → {collected : Collected} →
    Tracks context type pending sofar collected →
    Related (fun entries after => Tracks context type pending (sofar ++ entries) after)
      (context.unrollOne (context.block type) type selection)
      (context.visit spread type collected selection)
  | .field key name arguments directives selections, follows, reached, sofar, collected, tracks => by
      rw [Context.unrollOne, Context.visit]
      refine .bind (.refl (fun _ => Eq.refl _) _) fun included _ same => ?_
      subst same
      split
      · exact .ok (tracks.add (key.getD name, _))
      · exact .ok tracks.found_nothing
  | .inline condition directives selections, follows, reached, sofar, collected, tracks => by
      rw [Context.unrollOne, Context.visit]
      refine .bind (.refl (fun _ => Eq.refl _) _) fun included _ same => ?_
      subst same
      split
      · refine visitAll_tracks selections follows (fun name reaches => reached name ?_) tracks
        refine reaches.mono fun other spread => .spread ?_
        rwa [Selection.spreadsOf, Selection.spreads, Selection.spreadsOf, List.append_nil]
      · exact .ok tracks.found_nothing
  | .spread fragment directives, follows, reached, sofar, collected, tracks => by
      rw [Context.unrollOne, Context.visit]
      refine .bind (.refl (fun _ => Eq.refl _) _) fun included _ same => ?_
      subst same
      have direct : pending fragment := reached fragment (.spread (List.mem_singleton_self _))
      cases included with
      | false => exact .ok tracks.found_nothing
      | true =>
          cases seen : collected.seen.contains fragment with
          | true =>
              obtain ⟨entries, found, old⟩ :=
                tracks.seen fragment (List.contains_iff_mem.mp seen) direct
              rw [if_pos rfl, found]
              exact .ok (tracks.again old)
          | false =>
              refine follows fragment (List.mem_singleton_self _) pending sofar collected ?_ tracks
              intro other reaches
              refine reached other (reaches.mono fun name spread => ?_)
              exact .spread spread

theorem visitAll_tracks {spread : String → Collected → Except Failure Collected} :
    (selections : List Selection) →
    (∀ name ∈ Selection.spreadsOf selections, Follows context type spread name) →
    (∀ name, context.document.Reaches selections name → pending name) →
    {sofar : List Keyed} → {collected : Collected} →
    Tracks context type pending sofar collected →
    Related (fun entries after => Tracks context type pending (sofar ++ entries) after)
      (context.unroll type selections) (context.visitAll spread type collected selections)
  | [], _, _, sofar, collected, tracks => .ok tracks.found_nothing
  | selection :: rest, follows, reached, sofar, collected, tracks => by
      have first := visit_tracks selection
        (fun name member => follows name (List.mem_append_left _ member))
        (fun name reaches => reached name (reaches.mono fun other spread => .spread ?_)) tracks
      · rw [Context.unroll, Context.unrollAll, Context.visitAll]
        refine .bind first fun entries middle found => ?_
        rw [← bind_pure (Context.visitAll context spread type middle rest)]
        refine .bind (visitAll_tracks rest
          (fun name member => follows name (List.mem_append_right _ member))
          (fun name reaches => reached name (reaches.mono fun other spread => .spread ?_)) found) ?_
        · exact List.mem_append_right _ spread
        · intro others after all
          rw [List.append_assoc] at all
          exact .ok all
      · rw [Selection.spreadsOf, Selection.spreadsOf, List.append_nil] at spread
        exact List.mem_append_left _ spread

end

/-- A fragment that has no fields is followed without finding any. -/
theorem follows_nothing {spread : String → Collected → Except Failure Collected} {name : String}
    (nothing : context.block type name = .ok [])
    (stays : ∀ collected, spread name collected = .ok collected) :
    Follows context type spread name := by
  intro pending sofar collected _ tracks
  rw [nothing, stays]
  refine .ok ⟨?_, fun other member awaited => ?_⟩
  · rw [List.append_nil]
    exact tracks.fields
  · rcases List.mem_cons.mp member with rfl | old
    · exact ⟨[], nothing, List.nil_subset _⟩
    · rw [List.append_nil]
      exact tracks.seen other old awaited

/-- Inside a fragment its own name is not pending, so that it may have been seen. -/
theorem Tracks.enter (tracks : Tracks context type pending sofar collected) (name : String) :
    Tracks context type (fun other => pending other ∧ other ≠ name) sofar
      { collected with seen := name :: collected.seen } := by
  refine ⟨tracks.fields, fun other member awaited => ?_⟩
  rcases List.mem_cons.mp member with here | old
  · exact absurd here awaited.2
  · exact tracks.seen other old awaited.1

theorem Tracks.leave {name : String} {entries : List Keyed}
    (tracks : Tracks context type (fun other => pending other ∧ other ≠ name) (sofar ++ entries)
      collected) (found : context.block type name = .ok entries) :
    Tracks context type pending (sofar ++ entries) collected := by
  refine ⟨tracks.fields, fun other member awaited => ?_⟩
  by_cases same : other = name
  · subst same
    exact ⟨entries, found, List.subset_append_right _ _⟩
  · exact tracks.seen other member ⟨awaited, same⟩

variable (acyclic : context.document.IsAcyclic)

include acyclic

/-- A spread that is followed finds what its fragment has, as deep as the fragment may be. -/
theorem spread_follows {depth : Nat} {name : String}
    (enough : context.document.height [.spread name []] ≤ depth) :
    Follows context type (context.spread type depth) name := by
  induction depth generalizing name with
  | zero =>
      refine follows_nothing ?_ fun _ => rfl
      rw [block_eq acyclic]
      split
      · next fragment found =>
        have less := Document.height_fragment acyclic found []
        omega
      · rfl
  | succ depth ih =>
      cases found : context.document.fragment? name with
      | none =>
          refine follows_nothing ?_ fun _ => ?_
          · rw [block_eq acyclic, found]
          · rw [Context.spread, found]
      | some fragment =>
          cases applies : context.applies type (some fragment.condition) with
          | false =>
              refine follows_nothing ?_ fun _ => ?_
              · rw [block_eq acyclic, found]
                dsimp only
                rw [applies, if_neg Bool.false_ne_true]
              · rw [Context.spread, found]
                dsimp only
                rw [applies, if_neg Bool.false_ne_true]
          | true =>
              obtain ⟨member, named⟩ := Document.mem_of_fragment? found
              have block : context.block type name = context.unroll type fragment.selections := by
                rw [block_eq acyclic, found]
                dsimp only
                rw [applies, if_pos rfl]
              intro pending sofar collected reached tracks
              rw [Context.spread, found]
              dsimp only
              rw [applies, if_pos rfl, block]
              have follows : ∀ other ∈ Selection.spreadsOf fragment.selections,
                  Follows context type (context.spread type depth) other := by
                intro other spread
                have less := Document.height_reached acyclic found (.spread spread)
                exact ih (by omega)
              have awaited : ∀ other, context.document.Reaches fragment.selections other →
                  pending other ∧ other ≠ name := by
                intro other reaches
                refine ⟨reached other (reaches.mono fun next spread => ?_), ?_⟩
                · exact .through (.spread (List.mem_singleton_self _)) found spread
                · rintro rfl
                  refine acyclic fragment member ?_
                  rw [named]
                  exact Document.mem_reachable_iff.mpr ⟨reaches, by rw [found]; rfl⟩
              have inside := visitAll_tracks fragment.selections follows awaited (tracks.enter name)
              refine inside.attach.weaken fun entries after both => ?_
              exact both.1.leave (block.trans both.2)

/-- Collecting finds the same fields first as unrolling. -/
theorem collect_unrolled (type : TypeDefinition) (sets : List (List Selection)) :
    Related (fun entries groups => ∃ kept, groups = grouped kept ∧ SameFirsts kept entries)
      (context.unroll type sets.flatten) (context.collect type sets) := by
  have start : Tracks context type (fun _ => True) [] {} :=
    ⟨⟨[], rfl, .refl _⟩, fun _ impossible => absurd impossible List.not_mem_nil⟩
  have follows : ∀ name ∈ Selection.spreadsOf sets.flatten,
      Follows context type (context.spread type (context.document.fragments.length + 1)) name :=
    fun _ _ => spread_follows acyclic (Nat.le_succ_of_le (Document.height_le _))
  have visited := visitAll_tracks sets.flatten follows (fun _ _ => trivial) start
  rw [← bind_pure (context.unroll type sets.flatten)]
  exact visited.bind fun entries after tracks => .ok tracks.fields

end

end Context

end GraphGateway.Request
