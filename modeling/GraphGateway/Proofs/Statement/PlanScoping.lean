import GraphGateway.Proofs.Outcome
import GraphGateway.Proofs.Statement.Wording
import GraphGateway.Proofs.Statement.Scoping

/-!
Every statement keeps the rules of scopes.  The nodes that a mutation creates have names of their own,
which differ from all numbered names: the variable of a node has no underscore, and the name of its
reports does not end in a digit.
-/
namespace GraphGateway.Statement

open Cypher Request Settings
open Naming (Spans)
open Outcome (bind_ok_iff pure_ok_iff)
open Clause (AreScoped Passes Widen answered)

theorem emitResponse_widen (features : Features) (response : ResponsePlan) :
    Spans (emitResponse features response) fun start last answer =>
      Widen [rootName] start last answer.1 (Expression.entryVariables answer.2) := by
  induction response with
  | nil => exact .pure fun _ => .nil (List.nil_subset _) (Nat.le_refl _)
  | cons entry rest ih =>
      refine .bind (emitFields_widen features rootName entry.2) fun first => ?_
      refine .bind ih fun others => ?_
      exact .pure fun last middle _ later start _ here => here.append later

/-- A statement answers its data and the columns that are in scope. -/
theorem emitAnswer_scoped (features : Features) (response : ResponsePlan) (columns : List String) :
    Spans (emitAnswer features response columns) fun start _ clauses =>
      ∀ scope, rootName ∈ scope → columns ⊆ scope → ("data" :: columns).Nodup →
        KnownBy start scope → ∃ left, Passes [] scope clauses left := by
  refine .bind (emitResponse_widen features response) fun answer => ?_
  refine .pure fun last start _ widen scope root inside distinct known => ?_
  obtain ⟨left, passes, kept, used, -⟩ := widen [] scope (Scope.single root) known
  have keys : Column.keys (.as (.map answer.2) "data" :: columns.map Column.kept) =
      "data" :: columns := congrArg ("data" :: ·) (Column.keys_kept columns)
  refine ⟨_, passes.append (.answer ?_ keys distinct fun _ _ => List.not_mem_nil)⟩
  intro column member
  rcases List.mem_cons.mp member with rfl | member
  · exact ⟨used, rfl⟩
  · obtain ⟨name, here, rfl⟩ := List.mem_map.mp member
    exact ⟨Scope.single (kept (inside here)), rfl⟩

/-- Names without underscores are known from the start. -/
theorem known_of_bare {names : List String} (bare : ∀ name ∈ names, '_' ∉ name.toList)
    (last : Nat) : KnownBy last names :=
  fun name member base number same =>
    absurd same (ne_numbered_of_not_mem (bare name member) base number)

/-- The node that a statement is about is found under its own name. -/
theorem passes_findRoot (outer : Scope) (label : String) :
    Passes outer [] [.find (.node { name := rootName, label := some label })] [rootName] :=
  passes_findNode (some label) (by decide) List.not_mem_nil

/-- The entries of a node are answered under its name. -/
theorem passes_answerRoot {outer scope : Scope} {entries : List (String × Expression)}
    (used : Expression.entryVariables entries ⊆ scope) (new : rootName ∉ outer) :
    Passes outer scope [.answer [.as (.map entries) rootName]] [rootName] := by
  refine .answer ?_ rfl (List.pairwise_singleton _ rootName) ?_
  · intro column member
    rw [List.mem_singleton.mp member]
    exact ⟨used, rfl⟩
  · intro name member
    rw [List.mem_singleton.mp member]
    exact new

theorem emitVariant_scoped (features : Features) (id : Expression) (variant : VariantPlan) :
    Spans (emitVariant features id variant) fun _ _ clauses => id.variables = [] →
      answered clauses = [rootName] ∧
        ∀ outer, rootName ∉ outer → ∃ left, Passes outer [] clauses left := by
  refine .bind (emitFields_widen features rootName variant.fields) fun nested => ?_
  refine .pure fun last start _ widen bare => ⟨Clause.answered_concat _, fun outer new => ?_⟩
  obtain ⟨left, passes, -, used, -⟩ :=
    widen outer [rootName] (List.Subset.refl _) (known_of_bare (by decide) start)
  have found := passes_findRoot outer variant.label
  have filtered : Passes outer [rootName] [.filter [.compare .equal
      (.property rootName variant.identifier) id]] [rootName] := by
    refine .cons ?_ .nil
    intro condition member
    rw [List.mem_singleton.mp member, Expression.variables, bare]
    exact List.Subset.refl _
  exact ⟨_, ((found.append filtered).append passes).append (passes_answerRoot used new)⟩

/-- What is answered at the end is answered by the last of some clauses. -/
theorem answered_append {clauses others : List Clause} {name : String} {names : List String}
    (last : answered others = name :: names) : answered (clauses ++ others) = name :: names := by
  unfold answered at last ⊢
  rw [List.getLast?_append]
  cases ends : others.getLast? with
  | none =>
      rw [ends] at last
      cases last
  | some clause =>
      rw [ends] at last
      exact last

theorem emitVariants_scoped (features : Features) (id : Expression) (variants : List VariantPlan) :
    Spans (emitVariants features id variants) fun _ _ clauses => id.variables = [] →
      (variants = [] → clauses = []) ∧ (variants ≠ [] → answered clauses = [rootName]) ∧
        ∀ outer, rootName ∉ outer → ∃ left, Passes outer [] clauses left := by
  induction variants with
  | nil =>
      exact .pure fun _ _ => ⟨fun _ => rfl, fun some_ => absurd rfl some_, fun _ _ => ⟨_, .nil⟩⟩
  | cons variant rest ih =>
      refine .bind (emitVariant_scoped features id variant) fun first => ?_
      refine .bind ih fun others => ?_
      refine .pure fun _ _ _ othersScoped _ _ firstScoped bare => ?_
      obtain ⟨none_, ends, later⟩ := othersScoped bare
      obtain ⟨firstEnds, here⟩ := firstScoped bare
      refine ⟨fun impossible => (List.cons_ne_nil _ _ impossible).elim, fun _ => ?_, ?_⟩
      · cases rest with
        | nil =>
            rw [none_ rfl, List.append_nil]
            exact (congrArg answered (List.append_nil first)).trans firstEnds
        | cons other more => exact answered_append (ends (List.cons_ne_nil _ _))
      · intro outer new
        obtain ⟨left, passes⟩ := here outer new
        obtain ⟨final, passesOn⟩ := later outer new
        cases rest with
        | nil =>
            rw [none_ rfl, List.append_nil]
            exact ⟨left, passes.append .nil⟩
        | cons other more =>
            have joined : Passes outer left [.union] [] := .cons trivial .nil
            exact ⟨final, (passes.append joined).append passesOn⟩

/-- The variable of the node that is created from an input. -/
def rootAt (index : Nat) : String := s!"{rootName}{index}"

/-- The name of the reports of the entries of a created node. -/
def reportsOf (name : String) : String := s!"{name}_matches"

theorem rootAt_toList (index : Nat) :
    (rootAt index).toList = rootName.toList ++ Nat.toDigits 10 index := by
  simp [rootAt, String.toList_append, toString]

theorem reportsOf_toList (name : String) :
    (reportsOf name).toList = name.toList ++ "_matches".toList := by
  simp [reportsOf, String.toList_append, toString]

theorem underscore_not_mem_rootAt (index : Nat) : '_' ∉ (rootAt index).toList := by
  rw [rootAt_toList, List.mem_append, not_or]
  exact ⟨by decide, underscore_not_mem_toDigits index⟩

theorem rootAt_injective {index other : Nat} (same : rootAt index = rootAt other) :
    index = other := by
  have chars := congrArg String.toList same
  rw [rootAt_toList, rootAt_toList] at chars
  exact toDigits_injective (List.append_cancel_left chars)

theorem reportsOf_injective {name other : String} (same : reportsOf name = reportsOf other) :
    name = other := by
  have chars := congrArg String.toList same
  rw [reportsOf_toList, reportsOf_toList] at chars
  exact String.toList_inj.mp (List.append_cancel_right chars)

theorem rootAt_ne_reportsOf (index : Nat) (name : String) : rootAt index ≠ reportsOf name := by
  intro same
  apply underscore_not_mem_rootAt index
  rw [same, reportsOf_toList]
  exact List.mem_append_right _ (by decide)

theorem known_rootAt (index last : Nat) : KnownBy last [rootAt index] :=
  KnownBy.nil.cons_unnumbered (ne_numbered_of_not_mem (underscore_not_mem_rootAt index))

theorem reportsOf_ne_numbered (name base : String) (number : Nat) :
    reportsOf name ≠ numbered base number := by
  have ends : (reportsOf name).toList = (name.toList ++ "_matche".toList) ++ ['s'] := by
    rw [reportsOf_toList, List.append_assoc]
    rfl
  exact ne_numbered_of_ending ends (by decide) base number

theorem known_reportsOf (name : String) (last : Nat) : KnownBy last [reportsOf name] :=
  KnownBy.nil.cons_unnumbered (reportsOf_ne_numbered name)

/-- No node of an input from `index` on is in a scope, nor the reports of one. -/
def Awaits (scope : Scope) (index : Nat) : Prop :=
  ∀ later ≥ index, rootAt later ∉ scope ∧ reportsOf (rootAt later) ∉ scope

theorem Awaits.next {scope : Scope} {index : Nat} (awaits : Awaits scope index) :
    Awaits (scope ++ [rootAt index, reportsOf (rootAt index)]) (index + 1) := by
  intro later above
  obtain ⟨node, reports⟩ := awaits later (Nat.le_of_succ_le above)
  have apart : rootAt later ≠ rootAt index := fun same => by
    have := rootAt_injective same
    omega
  constructor <;> intro member
  · rcases List.mem_append.mp member with here | added
    · exact node here
    · rcases List.mem_cons.mp added with same | added
      · exact apart same
      · exact rootAt_ne_reportsOf later _ (List.mem_singleton.mp added)
  · rcases List.mem_append.mp member with here | added
    · exact reports here
    · rcases List.mem_cons.mp added with same | added
      · exact rootAt_ne_reportsOf index _ same.symm
      · exact apart (reportsOf_injective (List.mem_singleton.mp added))

/-- The clause that creates a node of an input answers the node and its reports. -/
theorem emitRoot_passes (features : Features) (index : Nat) (node : NodePlan) :
    Spans (emitNode features (rootAt index) [] node) fun start _ answer =>
      ∀ scope, Awaits scope index → KnownBy start scope →
        Passes [] scope [.subquery [] (answer.1 ++ [.answer [.kept (rootAt index),
            .as (concatenation answer.2) (reportsOf (rootAt index))]])]
          (scope ++ [rootAt index, reportsOf (rootAt index)]) := by
  refine (emitNode_creates features (rootAt index) [] node).imp
    fun start _ answer _ creates scope awaits known => ?_
  have some_ : rootAt index ≠ "" := fun empty => by
    have chars := congrArg String.toList empty
    rw [rootAt_toList] at chars
    exact absurd (List.append_eq_nil_iff.mp chars).1 (by decide)
  obtain ⟨left, passes, kept, reports, -⟩ := creates scope []
    (List.nil_subset _) (List.pairwise_singleton _ _) List.not_mem_nil some_ (known_rootAt index _)
  obtain ⟨newNode, newReports⟩ := awaits index (Nat.le_refl _)
  refine .subquery (List.nil_subset _) passes (.answer ?_ rfl ?_ ?_)
  · intro column member
    rcases List.mem_cons.mp member with rfl | member
    · exact ⟨kept, rfl⟩
    · rw [List.mem_singleton.mp member]
      exact ⟨concatenation_bound reports _, rfl⟩
  · refine List.nodup_cons.mpr ⟨fun member => ?_, List.pairwise_singleton _ _⟩
    exact rootAt_ne_reportsOf index _ (List.mem_singleton.mp member)
  · intro name member
    rcases List.mem_cons.mp member with rfl | member
    · exact newNode
    · rw [List.mem_singleton.mp member]
      exact newReports

/-- The nodes of all inputs end in scope, with their reports. -/
theorem emitRoots_passes (features : Features) (nodes : List NodePlan) :
    ∀ index, Spans (emitRoots features index nodes) fun start _ answer =>
      ∀ scope, Awaits scope index → KnownBy start scope → ∃ left,
        Passes [] scope answer.1 left ∧ scope ⊆ left ∧ answer.2 ⊆ left ∧
          answer.2.map reportsOf ⊆ left := by
  induction nodes with
  | nil =>
      exact fun index => .pure fun _ scope _ _ =>
        ⟨scope, .nil, List.Subset.refl _, List.nil_subset _, List.nil_subset _⟩
  | cons node rest ih =>
      intro index
      refine .bind (emitRoot_passes features index node) fun first => ?_
      refine .bind (ih (index + 1)) fun others => ?_
      refine .pure fun last middle _ later start before here scope awaits known => ?_
      have reached : KnownBy middle (scope ++ [rootAt index, reportsOf (rootAt index)]) :=
        (known.mono before).append
          ((known_rootAt index middle).append (known_reportsOf (rootAt index) middle))
      obtain ⟨left, passes, kept, names, reports⟩ := later _ awaits.next reached
      have added := List.Subset.trans (List.subset_append_right scope _) kept
      refine ⟨left, (here scope awaits known).append passes,
        List.Subset.trans (List.subset_append_left scope _) kept, ?_, ?_⟩
      · exact List.cons_subset.mpr ⟨added (List.mem_cons_self ..), names⟩
      · refine List.cons_subset.mpr ⟨added ?_, reports⟩
        exact List.mem_cons_of_mem _ (List.mem_singleton_self _)

/-- Behind the created nodes each of them is the node of the answer in turn. -/
theorem passes_positions {scope : Scope} {names : List String} (bound : names ⊆ scope)
    (reported : names.map reportsOf ⊆ scope) :
    Passes [] scope
      [.carry [.as (.list (names.map .variable)) "created",
          .as (concatenation (names.map reportsOf)) "matches"],
        .unwind (.positions (.variable "created")) "position",
        .carry [.as (.at (.variable "created") (.variable "position")) rootName,
          .kept "position", .kept "matches"]] [rootName, "position", "matches"] := by
  have gathered : Passes [] scope [.carry [.as (.list (names.map .variable)) "created",
      .as (concatenation (names.map reportsOf)) "matches"]] ["created", "matches"] := by
    refine .carry ?_ rfl (by decide)
    intro column member
    rcases List.mem_cons.mp member with rfl | member
    · refine ⟨?_, rfl⟩
      rw [Column.as, Expression.variables, Expression.itemVariables_map]
      exact bound
    · rw [List.mem_singleton.mp member]
      exact ⟨concatenation_bound reported _, rfl⟩
  exact gathered.append ⟨by decide, rfl⟩

/-- A plan to look up a node names a type that the node may be of. -/
def Plan.HasVariant : Plan → Prop
  | .lookup _ variants => variants ≠ []
  | _ => True

section

variable (features : Features)

theorem emit_list_scoped (label : String) (filter : List Assignment) (fields : List FieldPlan) :
    Spans (Plan.emit features (.list label filter fields))
      fun _ _ clauses => AreScoped [] [] clauses := by
  refine .bind (emitConditions_variables rootName filter) fun conditions => ?_
  refine .bind (emitFields_widen features rootName fields) fun nested => ?_
  refine .pure fun last middle _ widen start _ uses => ?_
  obtain ⟨left, passes, -, used, -⟩ :=
    widen [] [rootName] (List.Subset.refl _) (known_of_bare (by decide) middle)
  have filtered : Passes [] [rootName] (Clause.filtering conditions) [rootName] :=
    passes_filtering (List.mem_singleton_self rootName) uses
  have answers := passes_answerRoot used (List.not_mem_nil (a := rootName))
  exact ((passes_findRoot [] label).append ((filtered.append passes).append answers)).keeps

theorem emit_lookup_scoped (id : Value) {variants : List VariantPlan} (some_ : variants ≠ []) :
    Spans (Plan.emit features (.lookup id variants))
      fun _ _ clauses => AreScoped [] [] clauses := by
  refine .bind (.bindValue id "id") fun parameter => ?_
  refine .bind (emitVariants_scoped features parameter variants) fun branches => ?_
  refine .pure fun _ _ _ branchesScoped _ _ bound => ?_
  obtain ⟨name, rfl⟩ := bound
  obtain ⟨-, ends, passes⟩ := branchesScoped rfl
  obtain ⟨left, passes⟩ := passes [] List.not_mem_nil
  refine ⟨⟨List.nil_subset _, passes.keeps⟩, ?_⟩
  rw [Clause.behind, ends some_]
  decide

theorem emit_create_scoped (nodes : List NodePlan) (response : ResponsePlan) :
    Spans (Plan.emit features (.create nodes response))
      fun _ _ clauses => AreScoped [] [] clauses := by
  refine .bind (emitRoots_passes features nodes 0) fun roots => ?_
  refine .bind (emitAnswer_scoped features response ["position", "matches"]) fun answer => ?_
  refine .pure fun _ middle _ answers _ _ creates => ?_
  obtain ⟨left, passes, -, names, reports⟩ :=
    creates [] (fun _ _ => ⟨List.not_mem_nil, List.not_mem_nil⟩) .nil
  obtain ⟨final, answered⟩ := answers [rootName, "position", "matches"] (by decide) (by decide)
    (by decide) (known_of_bare (by decide) middle)
  exact ((passes.append (passes_positions names reports)).append answered).keeps

theorem emit_update_scoped (label : String) (filter assignments : List Assignment)
    (entries : List EntryPlan) (connections : List ConnectionUpdate) (response : ResponsePlan) :
    Spans (Plan.emit features (.update label filter assignments entries connections response))
      fun _ _ clauses => AreScoped [] [] clauses := by
  refine .bind (emitConditions_variables rootName filter) fun conditions => ?_
  refine .bind (emitAssignments_assignTo rootName assignments) fun assigned => ?_
  refine .bind (emitEntries_widen features rootName entries) fun nested => ?_
  refine .bind (emitConnectionUpdates_widen rootName connections) fun updates => ?_
  refine .bind (emitAnswer_scoped features response ["matches"]) fun answer => ?_
  refine .pure fun _ fifth _ answers fourth _ updatesWiden third _ entriesWiden second _ assign
    first _ uses => ?_
  have found := passes_findRoot [] label
  have root : rootName ∈ [rootName] := List.mem_singleton_self rootName
  have filtered : Passes [] [rootName] (Clause.filtering conditions) [rootName] :=
    passes_filtering root uses
  have changed := filtered.append (passes_setting assign root)
  have kept : Passes [] [rootName] [.carry [.kept rootName]] [rootName] := ⟨by decide, rfl⟩
  obtain ⟨middle, entered, keptEntries, reports, known⟩ := entriesWiden [] [rootName]
    (List.Subset.refl _) (known_of_bare (by decide) third)
  obtain ⟨left, updated, keptUpdates, otherReports, -⟩ := updatesWiden [] middle keptEntries known
  have gathered : Passes [] left [.carry [.kept rootName,
      .as (concatenation (nested.2 ++ updates.2)) "matches"]] [rootName, "matches"] := by
    refine .carry ?_ rfl (by decide)
    intro column member
    rcases List.mem_cons.mp member with rfl | member
    · exact ⟨List.Subset.trans keptEntries keptUpdates, rfl⟩
    · rw [List.mem_singleton.mp member]
      have all := List.append_subset.mpr ⟨List.Subset.trans reports keptUpdates, otherReports⟩
      exact ⟨concatenation_bound all _, rfl⟩
  obtain ⟨final, answered⟩ := answers [rootName, "matches"] (by decide) (by decide) (by decide)
    (known_of_bare (by decide) fifth)
  exact (found.append (((((changed.append kept).append entered).append updated).append
    gathered).append answered)).keeps

/-- The clauses of a plan use no names but those in scope. -/
theorem emit_scoped {plan : Plan} (some_ : plan.HasVariant) :
    Spans (plan.emit features) fun _ _ clauses => AreScoped [] [] clauses := by
  cases plan with
  | list label filter fields => exact emit_list_scoped features label filter fields
  | lookup id variants => exact emit_lookup_scoped features id some_
  | create nodes response => exact emit_create_scoped features nodes response
  | update label filter assignments entries connections response =>
      exact emit_update_scoped features label filter assignments entries connections response

end

theorem Basis.planVariants_ne_nil {basis : Basis} {selections : List NodeSelection}
    {variants : List VariantPlan} (planned : basis.planVariants selections = .ok variants)
    (some_ : selections ≠ []) : variants ≠ [] := by
  cases selections with
  | nil => exact absurd rfl some_
  | cons selection rest =>
      obtain ⟨node, -, planned⟩ := bind_ok_iff.mp planned
      obtain ⟨fields, -, planned⟩ := bind_ok_iff.mp planned
      obtain ⟨others, -, planned⟩ := bind_ok_iff.mp planned
      rw [← pure_ok_iff.mp planned]
      exact List.cons_ne_nil _ _

theorem Basis.plan_hasVariant {basis : Basis} {field : RootField} {plan : Plan}
    (planned : basis.plan field = .ok plan) : plan.HasVariant := by
  cases field with
  | list key typeName selection filter =>
      obtain ⟨node, -, planned⟩ := bind_ok_iff.mp planned
      obtain ⟨filter, -, planned⟩ := bind_ok_iff.mp planned
      obtain ⟨fields, -, planned⟩ := bind_ok_iff.mp planned
      rw [← pure_ok_iff.mp planned]
      trivial
  | lookup key id variants =>
      rw [Basis.plan] at planned
      split at planned
      · cases planned
      · split at planned
        · cases planned
        · rename_i some_
          obtain ⟨others, named, planned⟩ := bind_ok_iff.mp planned
          rw [← pure_ok_iff.mp planned]
          exact planVariants_ne_nil named fun empty => some_ (empty ▸ rfl)
  | create key typeName inputs response =>
      obtain ⟨node, -, planned⟩ := bind_ok_iff.mp planned
      obtain ⟨nodes, -, planned⟩ := bind_ok_iff.mp planned
      obtain ⟨response, -, planned⟩ := bind_ok_iff.mp planned
      rw [← pure_ok_iff.mp planned]
      trivial
  | update key typeName response filter assignments connections =>
      obtain ⟨node, -, planned⟩ := bind_ok_iff.mp planned
      obtain ⟨filter, -, planned⟩ := bind_ok_iff.mp planned
      obtain ⟨input, -, planned⟩ := bind_ok_iff.mp planned
      obtain ⟨_, -, planned⟩ := bind_ok_iff.mp planned
      obtain ⟨entries, -, planned⟩ := bind_ok_iff.mp planned
      obtain ⟨given, -, planned⟩ := bind_ok_iff.mp planned
      obtain ⟨updates, -, planned⟩ := bind_ok_iff.mp planned
      obtain ⟨response, -, planned⟩ := bind_ok_iff.mp planned
      rw [← pure_ok_iff.mp planned]
      trivial
  | typename key typeName => cases planned

/-- Every statement keeps the rules of scopes: what it uses is in scope where it is used, what a
pattern brings is new, and so is what a subquery answers, whose imports are in scope around it. -/
theorem compile_wellScoped {basis : Basis} {field : RootField} {compiled : Compiled}
    (compiles : basis.compile field = .ok compiled) :
    ∃ plan, basis.plan field = .ok plan ∧
      compiled.text = Clause.text (plan.emit basis.features {}).1 ∧
      AreScoped [] [] (plan.emit basis.features {}).1 := by
  obtain ⟨plan, planned, made⟩ := bind_ok_iff.mp compiles
  cases made
  exact ⟨plan, planned, rfl, (emit_scoped basis.features (Basis.plan_hasVariant planned)).run⟩

/-- A request for two movies, one of them with an actor to create and one to connect. -/
def filmedTwice : RootField :=
  .create "createMovies" "Movie"
    [.object
      [("title", .text "Alien"),
       ("actors", .object
        [("create", .list [.object
          [("node", .object [("name", .text "Sigourney")]),
           ("properties", .object [("role", .text "Ripley")])]]),
         ("connect", .list [.object
          [("where", .object [("name", .text "Ian")]),
           ("properties", .object [("role", .text "Ash")])]])])],
     .object [("title", .text "Aliens")]]
    { typeName := "CreateMoviesMutationResponse"
      fields :=
        [.nodes "movies"
          { typeName := "Movie"
            fields :=
              [.leaf ⟨"title", "title"⟩,
               .relationship "actors" "actors" "Person" [.leaf ⟨"name", "name"⟩],
               .connection "cast" "actors" (.int 2) .null
                [.edges "edges"
                  [.leaf ⟨"role", "role"⟩, .node "node" "Person" [.leaf ⟨"name", "name"⟩]]]] }] }

theorem compile_wellScoped_filmed :
    ∃ compiled plan, filming.compile filmedTwice = .ok compiled ∧
      filming.plan filmedTwice = .ok plan ∧
      compiled.text = Clause.text (plan.emit filming.features {}).1 ∧
      AreScoped [] [] (plan.emit filming.features {}).1 := by
  have compiles : filming.compile filmedTwice = _ := Outcome.eq_ok_of_isSome (by decide +kernel)
  obtain ⟨plan, planned, text, keeps⟩ := compile_wellScoped compiles
  exact ⟨_, plan, compiles, planned, text, keeps⟩

end GraphGateway.Statement
