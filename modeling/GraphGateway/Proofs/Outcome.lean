import Mathlib.Data.List.Forall2

/-!
Results that may be errors.  A sequence of steps succeeds exactly if every step of it does, and a
list of steps has as many results as steps.
-/
namespace GraphGateway.Outcome

variable {ε α β γ : Type}

/-- A step that succeeds hands its answer on. -/
theorem bind_of_ok {result : Except ε α} {next : α → Except ε β} {value : α}
    (done : result = .ok value) : (result >>= next) = next value := by
  rw [done]
  rfl

theorem bind_ok_iff {result : Except ε α} {next : α → Except ε β} {answer : β} :
    (result >>= next) = .ok answer ↔ ∃ value, result = .ok value ∧ next value = .ok answer := by
  cases result with
  | error fault => simp [bind, Except.bind]
  | ok value => simp [bind, Except.bind]

theorem bind_error_iff {result : Except ε α} {next : α → Except ε β} {fault : ε} :
    (result >>= next) = .error fault ↔
      result = .error fault ∨ ∃ value, result = .ok value ∧ next value = .error fault := by
  cases result with
  | error other => simp [bind, Except.bind]
  | ok value => simp [bind, Except.bind]

theorem map_ok_iff {result : Except ε α} {change : α → β} {answer : β} :
    (change <$> result) = .ok answer ↔ ∃ value, result = .ok value ∧ change value = answer := by
  cases result with
  | error fault => simp [Functor.map, Except.map]
  | ok value => simp [Functor.map, Except.map]

theorem pure_ok_iff {value answer : α} :
    (pure value : Except ε α) = .ok answer ↔ value = answer := by
  simp [pure, Except.pure]

theorem mapError_ok_iff {result : Except ε α} {change : ε → γ} {answer : α} :
    result.mapError change = .ok answer ↔ result = .ok answer := by
  cases result <;> simp [Except.mapError]

/-- A result that holds a value is that value. -/
theorem eq_ok_of_isSome {result : Except ε α} (some_ : result.toOption.isSome = true) :
    result = .ok (result.toOption.get some_) := by
  cases result with
  | error fault => cases some_
  | ok value => rfl

theorem toOption_eq_some_iff {result : Except ε α} {value : α} :
    result.toOption = some value ↔ result = .ok value := by
  cases result <;> simp [Except.toOption]

/-- Some step over a list succeeds with an answer that passes a test. -/
theorem exists_ok_of_any {step : α → Except ε β} {items : List α} {test : α → β → Bool}
    (passes : (items.any fun item => (step item).toOption.any (test item)) = true) :
    ∃ item ∈ items, ∃ answer, step item = .ok answer ∧ test item answer = true := by
  obtain ⟨item, member, tested⟩ := List.any_eq_true.mp passes
  cases done : step item with
  | error fault =>
      rw [done] at tested
      cases tested
  | ok answer =>
      rw [done] at tested
      exact ⟨item, member, answer, done, tested⟩

/-- Steps over a list succeed exactly if each of them does. -/
theorem mapM_ok_iff {step : α → Except ε β} {items : List α} {answers : List β} :
    items.mapM step = .ok answers ↔
      List.Forall₂ (fun item answer => step item = .ok answer) items answers := by
  induction items generalizing answers with
  | nil =>
      rw [List.mapM_nil, pure_ok_iff, List.forall₂_nil_left_iff]
      exact eq_comm
  | cons item rest ih =>
      rw [List.mapM_cons, bind_ok_iff]
      constructor
      · rintro ⟨answer, first, others⟩
        obtain ⟨left, rest, same⟩ := bind_ok_iff.mp others
        cases pure_ok_iff.mp same
        exact .cons first (ih.mp rest)
      · intro all
        cases all with
        | cons first rest =>
            exact ⟨_, first, bind_ok_iff.mpr ⟨_, ih.mpr rest, rfl⟩⟩

/-- Related lists have a partner in the other list for each item. -/
theorem partner_of_mem {relation : α → β → Prop} {items : List α} {others : List β}
    (related : List.Forall₂ relation items others) {item : α} (member : item ∈ items) :
    ∃ other ∈ others, relation item other := by
  induction related with
  | nil => cases member
  | cons first _ ih =>
      rcases List.mem_cons.mp member with rfl | later
      · exact ⟨_, List.mem_cons_self .., first⟩
      · obtain ⟨other, inside, same⟩ := ih later
        exact ⟨other, List.mem_cons_of_mem _ inside, same⟩

theorem partner_of_mem_others {relation : α → β → Prop} {items : List α} {others : List β}
    (related : List.Forall₂ relation items others) {other : β} (member : other ∈ others) :
    ∃ item ∈ items, relation item other :=
  partner_of_mem related.flip member

/-- A relation may use that its items are on the lists. -/
theorem related_of_mem {relation goal : α → β → Prop} {items : List α} {others : List β}
    (related : List.Forall₂ relation items others)
    (each : ∀ item ∈ items, ∀ other ∈ others, relation item other → goal item other) :
    List.Forall₂ goal items others := by
  induction related with
  | nil => exact .nil
  | cons first _ ih =>
      refine .cons (each _ (List.mem_cons_self ..) _ (List.mem_cons_self ..) first) (ih ?_)
      intro item member other among
      exact each item (List.mem_cons_of_mem _ member) other (List.mem_cons_of_mem _ among)

/-- Tests that agree on related items find related ones. -/
theorem find?_related {relation : α → β → Prop} {items : List α} {others : List β}
    {test : α → Bool} {check : β → Bool} (related : List.Forall₂ relation items others)
    (agree : ∀ item other, relation item other → test item = check other) :
    Option.Rel relation (items.find? test) (others.find? check) := by
  induction related with
  | nil => exact .none
  | cons first _ ih =>
      rw [List.find?_cons, List.find?_cons, agree _ _ first]
      split
      · exact .some first
      · exact ih

/-- What is related to joined lists is in two parts, too. -/
theorem related_append {relation : α → β → Prop} {first rest : List α} {others : List β}
    (related : List.Forall₂ relation (first ++ rest) others) :
    ∃ one other, others = one ++ other ∧ List.Forall₂ relation first one ∧
      List.Forall₂ relation rest other :=
  ⟨others.take first.length, others.drop first.length, (List.take_append_drop ..).symm,
    (List.forall₂_take_append _ _ _ related.flip).flip,
    (List.forall₂_drop_append _ _ _ related.flip).flip⟩

/-- Relations between three lists, through the one between the others. -/
theorem related_through {relation : α → β → Prop} {further : β → γ → Prop}
    {items : List α} {middle : List β} {others : List γ}
    (related : List.Forall₂ relation items middle) (onward : List.Forall₂ further middle others) :
    List.Forall₂ (fun item other => ∃ between, relation item between ∧ further between other) items
      others := by
  induction related generalizing others with
  | nil =>
      cases onward
      exact .nil
  | cons first _ ih =>
      cases onward with
      | cons second rest => exact .cons ⟨_, first, second⟩ (ih rest)

theorem mapM_ok_of_mem {step : α → Except ε β} {items : List α} {answers : List β}
    (ran : items.mapM step = .ok answers) {item : α} (member : item ∈ items) :
    ∃ answer ∈ answers, step item = .ok answer :=
  partner_of_mem (mapM_ok_iff.mp ran) member

theorem mapM_ok_of_mem_answers {step : α → Except ε β} {items : List α} {answers : List β}
    (ran : items.mapM step = .ok answers) {answer : β} (member : answer ∈ answers) :
    ∃ item ∈ items, step item = .ok answer :=
  partner_of_mem_others (mapM_ok_iff.mp ran) member

/-- Steps that succeed on related items answer what is related again. -/
theorem mapM_ok_of_related {relation : α → γ → Prop} {goal : β → γ → Prop}
    {step : α → Except ε β} {items : List α} {others : List γ}
    (related : List.Forall₂ relation items others)
    (each : ∀ item other, other ∈ others → relation item other →
      ∃ answer, step item = .ok answer ∧ goal answer other) :
    ∃ answers, items.mapM step = .ok answers ∧ List.Forall₂ goal answers others := by
  induction related with
  | nil => exact ⟨[], rfl, .nil⟩
  | cons first _ ih =>
      obtain ⟨answer, done, reached⟩ := each _ _ (List.mem_cons_self ..) first
      obtain ⟨answers, rest, all⟩ := ih fun item other member =>
        each item other (List.mem_cons_of_mem _ member)
      refine ⟨answer :: answers, ?_, .cons reached all⟩
      rw [List.mapM_cons, done, rest]
      rfl

/-- What the start and every step keep holds of the end. -/
theorem foldlM_ok_induct {step : β → α → Except ε β} {items : List α} {start answer : β}
    (kept : β → Prop) (ran : items.foldlM step start = .ok answer) (holds : kept start)
    (keeps : ∀ item ∈ items, ∀ before after, kept before → step before item = .ok after →
      kept after) : kept answer := by
  induction items generalizing start with
  | nil =>
      cases pure_ok_iff.mp ran
      exact holds
  | cons item rest ih =>
      rw [List.foldlM_cons, bind_ok_iff] at ran
      obtain ⟨middle, first, others⟩ := ran
      exact ih others (keeps item (List.mem_cons_self ..) start middle holds first)
        fun other member => keeps other (List.mem_cons_of_mem _ member)

/-- If all steps succeed, each does from where the ones before it have led. -/
theorem foldlM_ok_mem {step : β → α → Except ε β} {items : List α} {start answer : β}
    (ran : items.foldlM step start = .ok answer) {item : α} (member : item ∈ items) :
    ∃ before after, step before item = .ok after := by
  induction items generalizing start with
  | nil => cases member
  | cons first rest ih =>
      rw [List.foldlM_cons, bind_ok_iff] at ran
      obtain ⟨middle, here, others⟩ := ran
      rcases List.mem_cons.mp member with rfl | later
      · exact ⟨start, middle, here⟩
      · exact ih others later

/-- A result that is there unless it ends in one of the ways that are allowed. -/
def Only (allowed : ε → Prop) (result : Except ε α) : Prop :=
  ∀ fault, result = .error fault → allowed fault

namespace Only

variable {allowed : ε → Prop}

theorem ok (value : α) : Only allowed (.ok value) := fun _ impossible => nomatch impossible

theorem error {fault : ε} (known : allowed fault) : Only allowed (.error fault : Except ε α) := by
  intro other same
  cases same
  exact known

theorem bind {result : Except ε α} {next : α → Except ε β} (first : Only allowed result)
    (rest : ∀ value, result = .ok value → Only allowed (next value)) :
    Only allowed (result >>= next) := by
  intro fault same
  rcases bind_error_iff.mp same with here | ⟨value, done, later⟩
  · exact first fault here
  · exact rest value done fault later

theorem bind_ok {result : Except ε α} {next : α → Except ε β} {value : α}
    (done : result = .ok value) (rest : Only allowed (next value)) :
    Only allowed (result >>= next) := by
  rw [done]
  exact rest

/-- Where a first step is shared, a failure of it is one of both. -/
theorem bind_or {result : Except ε α} {next other : α → Except ε β}
    (rest : ∀ value, result = .ok value →
      Only (fun fault => allowed fault ∨ other value = .error fault) (next value)) :
    Only (fun fault => allowed fault ∨ (result >>= other) = .error fault) (result >>= next) := by
  intro fault same
  rcases bind_error_iff.mp same with here | ⟨value, done, later⟩
  · exact .inr (bind_error_iff.mpr (.inl here))
  · refine (rest value done fault later).imp_right fun left => ?_
    exact bind_error_iff.mpr (.inr ⟨value, done, left⟩)

theorem weaken {result : Except ε α} {before after : ε → Prop} (only : Only before result)
    (step : ∀ fault, before fault → after fault) : Only after result :=
  fun fault same => step fault (only fault same)

theorem map {result : Except ε α} (change : α → β) (only : Only allowed result) :
    Only allowed (change <$> result) := by
  cases result with
  | error fault => exact error (only fault rfl)
  | ok value => exact .ok _

theorem mapM {step : α → Except ε β} {items : List α}
    (each : ∀ item ∈ items, Only allowed (step item)) : Only allowed (items.mapM step) := by
  induction items with
  | nil => exact .ok _
  | cons item rest ih =>
      rw [List.mapM_cons]
      refine .bind (each item (List.mem_cons_self ..)) fun _ _ => ?_
      refine .bind (ih fun other member => each other (List.mem_cons_of_mem _ member)) fun _ _ => ?_
      exact .ok _

theorem foldlM {step : β → α → Except ε β} {items : List α} {start : β}
    (each : ∀ sofar, ∀ item ∈ items, Only allowed (step sofar item)) :
    Only allowed (items.foldlM step start) := by
  induction items generalizing start with
  | nil => exact .ok _
  | cons item rest ih =>
      rw [List.foldlM_cons]
      refine .bind (each start item (List.mem_cons_self ..)) fun _ _ => ih ?_
      exact fun sofar other member => each sofar other (List.mem_cons_of_mem _ member)

end Only

/-- A result that is good, or one of the errors that are allowed, which cannot come if it is sure to be
there. -/
def Brings (sure : Prop) (allowed : ε → Prop) (good : α → Prop) : Except ε α → Prop
  | .ok answer => good answer
  | .error fault => allowed fault ∧ ¬ sure

namespace Brings

variable {sure : Prop} {allowed : ε → Prop} {good : α → Prop} {best : β → Prop}

theorem of_sound {result : Except ε α} (brings : Brings sure allowed good result) {answer : α}
    (done : result = .ok answer) : good answer := by
  rw [done] at brings
  exact brings

theorem total {result : Except ε α} (brings : Brings sure allowed good result) (holds : sure) :
    ∃ answer, result = .ok answer ∧ good answer := by
  cases result with
  | ok answer => exact ⟨answer, rfl, brings⟩
  | error fault => exact absurd holds brings.2

theorem only {result : Except ε α} (brings : Brings sure allowed good result) :
    Only allowed result := by
  rintro fault rfl
  exact brings.1

theorem bind {result : Except ε α} {next : α → Except ε β}
    (first : Brings sure allowed good result)
    (rest : ∀ value, good value → Brings sure allowed best (next value)) :
    Brings sure allowed best (result >>= next) := by
  cases result with
  | ok value => exact rest value first
  | error fault => exact first

theorem bind_ok {result : Except ε α} {next : α → Except ε β} {value : α}
    (done : result = .ok value) (rest : Brings sure allowed best (next value)) :
    Brings sure allowed best (result >>= next) := by
  rw [done]
  exact rest

theorem weaken {result : Except ε α} {other : α → Prop} (brings : Brings sure allowed good result)
    (step : ∀ answer, good answer → other answer) : Brings sure allowed other result := by
  cases result with
  | ok answer => exact step answer brings
  | error fault => exact brings

/-- A good answer is the one that is there. -/
theorem attach {result : Except ε α} (brings : Brings sure allowed good result) :
    Brings sure allowed (fun answer => good answer ∧ result = .ok answer) result := by
  cases result with
  | ok answer => exact ⟨brings, rfl⟩
  | error fault => exact brings

theorem of_imp {other : Prop} {result : Except ε α} (brings : Brings sure allowed good result)
    (step : other → sure) : Brings other allowed good result := by
  cases result with
  | ok answer => exact brings
  | error fault => exact ⟨brings.1, brings.2 ∘ step⟩

theorem allow {other : ε → Prop} {result : Except ε α} (brings : Brings sure allowed good result)
    (step : ∀ fault, allowed fault → other fault) : Brings sure other good result := by
  cases result with
  | ok answer => exact brings
  | error fault => exact ⟨step fault brings.1, brings.2⟩

/-- Every item brings a good answer, in the place of the item. -/
theorem mapM {step : α → Except ε β} {items : List α} {fits : α → β → Prop}
    (each : ∀ item ∈ items, Brings sure allowed (fits item) (step item)) :
    Brings sure allowed (List.Forall₂ fits items) (items.mapM step) := by
  induction items with
  | nil => exact .nil
  | cons item rest ih =>
      rw [List.mapM_cons]
      refine .bind (each item (List.mem_cons_self ..)) fun answer first => ?_
      refine .bind (ih fun other member => each other (List.mem_cons_of_mem _ member)) ?_
      exact fun answers others => List.Forall₂.cons first others

/-- Every item brings a good answer. -/
theorem mapM_each {step : α → Except ε β} {items : List α}
    (each : ∀ item ∈ items, Brings sure allowed best (step item)) :
    Brings sure allowed (fun answers => ∀ answer ∈ answers, best answer) (items.mapM step) := by
  refine (@mapM ε α β sure allowed step items (fun _ => best) each).weaken ?_
  intro answers related answer member
  obtain ⟨-, -, holds⟩ := partner_of_mem_others related member
  exact holds

end Brings

/-- The same error twice, or two answers that are related. -/
inductive Related (relation : α → β → Prop) : Except ε α → Except ε β → Prop where
  | error (fault : ε) : Related relation (.error fault) (.error fault)
  | ok {one : α} {other : β} (inside : relation one other) :
      Related relation (.ok one) (.ok other)

namespace Related

variable {δ : Type} {relation : α → β → Prop} {goal : γ → δ → Prop} {one : Except ε α}
  {other : Except ε β}

theorem bind {next : α → Except ε γ} {later : β → Except ε δ} (related : Related relation one other)
    (each : ∀ first second, relation first second → Related goal (next first) (later second)) :
    Related goal (one >>= next) (other >>= later) := by
  cases related with
  | error fault => exact .error fault
  | ok inside => exact each _ _ inside

theorem weaken {wider : α → β → Prop} (related : Related relation one other)
    (step : ∀ first second, relation first second → wider first second) :
    Related wider one other := by
  cases related with
  | error fault => exact .error fault
  | ok inside => exact .ok (step _ _ inside)

/-- Of related answers the first is the one that is there. -/
theorem attach (related : Related relation one other) :
    Related (fun first second => relation first second ∧ one = .ok first) one other := by
  cases related with
  | error fault => exact .error fault
  | ok inside => exact .ok ⟨inside, rfl⟩

theorem refl {same : α → α → Prop} (each : ∀ answer, same answer answer) (result : Except ε α) :
    Related same result result := by
  cases result with
  | error fault => exact .error fault
  | ok answer => exact .ok (each answer)

theorem symm (related : Related relation one other) :
    Related (fun second first => relation first second) other one := by
  cases related with
  | error fault => exact .error fault
  | ok inside => exact .ok inside

theorem comp {third : Except ε γ} {next : β → γ → Prop} (related : Related relation one other)
    (further : Related next other third) :
    Related (fun first last => ∃ middle, relation first middle ∧ next middle last) one third := by
  cases related with
  | error fault =>
      cases further
      exact .error fault
  | ok inside =>
      cases further with
      | ok beside => exact .ok ⟨_, inside, beside⟩

end Related

/-- Related results that end in no error but the allowed ones. -/
structure Matched (allowed : ε → Prop) (relation : α → β → Prop) (one : Except ε α)
    (other : Except ε β) : Prop where
  related : Related relation one other
  only : Only allowed one

namespace Matched

variable {δ : Type} {allowed : ε → Prop} {relation : α → β → Prop} {goal : γ → δ → Prop}
  {one : Except ε α} {other : Except ε β}

theorem ok {first : α} {second : β} (inside : relation first second) :
    Matched allowed relation (.ok first) (.ok second) :=
  ⟨.ok inside, .ok first⟩

theorem eq {first second : Except ε α} (matched : Matched allowed Eq first second) :
    first = second := by
  obtain ⟨related, -⟩ := matched
  cases related with
  | error fault => rfl
  | ok same => rw [same]

/-- A result that two computations share. -/
theorem shared {result : Except ε α} (only : Only allowed result) :
    Matched allowed Eq result result :=
  ⟨.refl (fun _ => rfl) result, only⟩

theorem bind {next : α → Except ε γ} {later : β → Except ε δ}
    (matched : Matched allowed relation one other)
    (each : ∀ first second, relation first second →
      Matched allowed goal (next first) (later second)) :
    Matched allowed goal (one >>= next) (other >>= later) := by
  obtain ⟨related, only⟩ := matched
  cases related with
  | error fault => exact ⟨.error fault, .error (only fault rfl)⟩
  | ok inside => exact each _ _ inside

theorem weaken {wider : α → β → Prop} (matched : Matched allowed relation one other)
    (step : ∀ first second, relation first second → wider first second) :
    Matched allowed wider one other :=
  ⟨matched.related.weaken step, matched.only⟩

theorem mapM {step : α → Except ε γ} {later : β → Except ε γ} {items : List α} {others : List β}
    (related : List.Forall₂ relation items others)
    (each : ∀ item other, relation item other → Matched allowed Eq (step item) (later other)) :
    Matched allowed Eq (items.mapM step) (others.mapM later) := by
  induction related with
  | nil => exact .ok rfl
  | cons first _ ih =>
      rw [List.mapM_cons, List.mapM_cons]
      refine (each _ _ first).bind fun answer _ same => ?_
      refine ih.bind fun answers _ also => ?_
      rw [same, also]
      exact .ok rfl

end Matched

/-- Steps that agree on related items have the same results over the whole list. -/
theorem mapM_eq_of_related {relation : α → β → Prop} {step : α → Except ε γ} {later : β → Except ε γ}
    {items : List α} {others : List β} (related : List.Forall₂ relation items others)
    (each : ∀ item other, relation item other → step item = later other) :
    items.mapM step = others.mapM later := by
  induction related with
  | nil => rfl
  | cons first _ ih => rw [List.mapM_cons, List.mapM_cons, each _ _ first, ih]

section

variable {δ : Type}

/-- Two computations that look the same through a function, if neither is an error. -/
def Agree (view : α → γ) (one other : Except ε α) : Prop :=
  ∀ first second, one = .ok first → other = .ok second → view first = view second

theorem Agree.refl (view : α → γ) (result : Except ε α) : Agree view result result := by
  intro first second one other
  rw [one] at other
  cases other
  rfl

theorem Agree.of_unit (one other : Except ε Unit) : Agree id one other := fun _ _ _ _ => rfl

theorem Agree.ok {view : α → γ} {one other : α} (same : view one = view other) :
    Agree view (.ok one : Except ε α) (.ok other) := by
  intro first second here there
  cases here
  cases there
  exact same

theorem Agree.bind {view : α → γ} {seen : β → δ} {one other : Except ε α}
    {next later : α → Except ε β} (agree : Agree view one other)
    (agreeing : ∀ first second, one = .ok first → other = .ok second →
      view first = view second → Agree seen (next first) (later second)) :
    Agree seen (one >>= next) (other >>= later) := by
  intro first second here there
  obtain ⟨begun, oneBegun, goneOn⟩ := bind_ok_iff.mp here
  obtain ⟨started, otherStarted, wentOn⟩ := bind_ok_iff.mp there
  exact agreeing begun started oneBegun otherStarted
    (agree begun started oneBegun otherStarted) first second goneOn wentOn

/-- The same first step may be left out of the comparison. -/
theorem Agree.bind_same {seen : β → δ} {result : Except ε α} {next later : α → Except ε β}
    (agreeing : ∀ value, result = .ok value → Agree seen (next value) (later value)) :
    Agree seen (result >>= next) (result >>= later) := by
  refine Agree.bind (Agree.refl id result) ?_
  intro first second here there same
  cases same
  exact agreeing first here

theorem Agree.map {view : β → γ} {seen : α → δ} {one other : Except ε α} {change : α → β}
    (agree : Agree seen one other)
    (kept : ∀ first second, seen first = seen second → view (change first) = view (change second)) :
    Agree view (change <$> one) (change <$> other) := by
  intro first second here there
  obtain ⟨begun, oneBegun, rfl⟩ := map_ok_iff.mp here
  obtain ⟨started, otherStarted, rfl⟩ := map_ok_iff.mp there
  exact kept _ _ (agree begun started oneBegun otherStarted)

theorem Agree.mapM {view : β → γ} {step later : α → Except ε β} {items others : List α}
    (agreeing : List.Forall₂ (fun item other => Agree view (step item) (later other))
      items others) : Agree (List.map view) (items.mapM step) (others.mapM later) := by
  induction agreeing with
  | nil => exact .refl _ _
  | cons first rest ih =>
      rw [List.mapM_cons, List.mapM_cons]
      refine Agree.bind first ?_
      intro one other _ _ same
      refine Agree.bind ih ?_
      intro answers results _ _ alike
      exact .ok (by rw [List.map_cons, List.map_cons, same, alike])

end

end GraphGateway.Outcome
