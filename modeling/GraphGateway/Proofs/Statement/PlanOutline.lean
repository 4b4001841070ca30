import GraphGateway.Proofs.Statement.ReadOutline
import GraphGateway.Proofs.Statement.WritePlan
import GraphGateway.Statement.Compiled

/-!
Outlines of what is written.  Inputs of one outline that can both be planned have plans of one
outline.  A leaf where an object or a list is meant is refused, or it counts as nothing; so leaves
that differ there make no plans that differ.
-/
namespace GraphGateway.Statement

open Request Schema
open Outcome (Agree)

mutual

def NodePlan.outline : NodePlan → NodePlan
  | .mk label identifier id properties entries =>
      .mk label identifier (id.map Value.outline) (properties.map Assignment.outline)
        (EntryPlan.outlineAll entries)

def EntryPlan.outline : EntryPlan → EntryPlan
  | .create step properties node =>
      .create step (properties.map Assignment.outline) node.outline
  | .connect step path filter properties =>
      .connect step path (filter.map Assignment.outline) (properties.map Assignment.outline)

def EntryPlan.outlineAll : List EntryPlan → List EntryPlan
  | [] => []
  | entry :: rest => entry.outline :: EntryPlan.outlineAll rest

end

def ConnectionUpdate.outline (update : ConnectionUpdate) : ConnectionUpdate :=
  { update with
    filter := update.filter.map Assignment.outline
    properties := update.properties.map Assignment.outline }

theorem EntryPlan.outlineAll_eq_map (entries : List EntryPlan) :
    EntryPlan.outlineAll entries = entries.map EntryPlan.outline := by
  induction entries with
  | nil => rfl
  | cons entry rest ih => rw [EntryPlan.outlineAll, ih, List.map_cons]

theorem EntryPlan.outlineAll_append (first rest : List EntryPlan) :
    EntryPlan.outlineAll (first ++ rest) =
      EntryPlan.outlineAll first ++ EntryPlan.outlineAll rest := by
  simp only [EntryPlan.outlineAll_eq_map, List.map_append]

theorem EntryPlan.outlineAll_flatten (lists : List (List EntryPlan)) :
    EntryPlan.outlineAll lists.flatten = (lists.map EntryPlan.outlineAll).flatten := by
  simp only [funext EntryPlan.outlineAll_eq_map, List.map_flatten]

theorem filter_alike {one other : Option Value}
    (same : one.map Value.outline = other.map Value.outline) :
    (one.filter (!·.isNull)).map Value.outline = (other.filter (!·.isNull)).map Value.outline := by
  cases one with
  | none =>
      cases other with
      | none => rfl
      | some item => cases same
  | some value =>
      cases other with
      | none => cases same
      | some item =>
          have alike := Option.some.inj same
          rw [Option.filter_some, Option.filter_some, Value.isNull_eq_of_outline alike]
          split
          · exact same
          · rfl

theorem propertiesIn_agree (node : NodeType) {entries others : Entries Value}
    (same : Value.outlineEntries entries = Value.outlineEntries others) :
    (propertiesIn node entries).map Assignment.outline =
      (propertiesIn node others).map Assignment.outline := by
  unfold propertiesIn
  rw [List.map_filterMap, List.map_filterMap]
  congr 1
  funext field
  have found := Value.get?_alike same field.name
  rw [Option.map_map, Option.map_map]
  cases here : entries.get? field.name with
  | none =>
      cases there : others.get? field.name with
      | none => rfl
      | some other => simp [here, there] at found
  | some value =>
      cases there : others.get? field.name with
      | none => simp [here, there] at found
      | some other =>
          simp only [here, there, Option.map_some, Option.some.injEq] at found
          simp [Assignment.outline, found]

theorem propertyAssignments_agree (type : PropertiesType) {entries others : Entries Value}
    (same : Value.outlineEntries entries = Value.outlineEntries others) :
    (propertyAssignments type entries).map Assignment.outline =
      (propertyAssignments type others).map Assignment.outline := by
  induction entries generalizing others with
  | nil =>
      cases others with
      | nil => rfl
      | cons other left => cases same
  | cons entry rest ih =>
      obtain ⟨name, value⟩ := entry
      cases others with
      | nil => cases same
      | cons other left =>
          obtain ⟨label, item⟩ := other
          simp only [Value.outlineEntries, List.cons.injEq, Prod.mk.injEq] at same
          obtain ⟨⟨rfl, alike⟩, later⟩ := same
          have inner := ih later
          unfold propertyAssignments at inner ⊢
          cases found : type.field? name with
          | none => simpa [found] using inner
          | some field => simpa [found, Assignment.outline, alike] using inner

section

variable (basis : Basis)

/-- Properties of one outline become assignments of one outline, and so do values that stand for
properties of one outline and are null together. -/
theorem planProperties_agree (relationship : Relationship) {one other : Value} (path : String)
    (creating : Bool) (same : ∀ entries others, entriesOf? one = some entries →
      entriesOf? other = some others → Value.outlineEntries entries = Value.outlineEntries others) :
    Agree (List.map Assignment.outline) (basis.planProperties relationship one path creating)
      (basis.planProperties relationship other path creating) := by
  intro accepted taken here there
  rw [planProperties_ok_iff] at here there
  cases offered :
      basis.model.offeredProperties? basis.features.relationshipProperties relationship with
  | none =>
      simp only [offered] at here there
      rw [here.2, there.2]
  | some type =>
      simp only [offered] at here there
      obtain ⟨entries, entered, assigned⟩ := here
      obtain ⟨others, found, assignedAgain⟩ := there
      rw [(relationshipAssignments_ok_iff.mp assigned).2.2.2,
        (relationshipAssignments_ok_iff.mp assignedAgain).2.2.2]
      exact propertyAssignments_agree type (same entries others entered found)

theorem planConnect_agree (relationship : Relationship) (path : String) {one other : Value}
    (same : one.outline = other.outline) :
    Agree EntryPlan.outline (basis.planConnect relationship path one)
      (basis.planConnect relationship path other) := by
  intro plan planned here there
  obtain ⟨entries, related, properties, filter, rfl, found, assigned, -, read, rfl⟩ :=
    (planConnect_ok_iff basis).mp here
  obtain ⟨others, target, values, conditions, rfl, foundAgain, assignedAgain, -, readAgain, rfl⟩ :=
    (planConnect_ok_iff basis).mp there
  rw [found] at foundAgain
  cases foundAgain
  have alike := Value.object.inj same
  have sameProperties := planProperties_agree basis relationship path true
    (fun _ _ => entriesOf?_alike (Value.getD_alike alike "properties")) _ _ assigned assignedAgain
  have sameFilter := readFilter_agree related path (Value.getD_alike alike "where") _ _ read readAgain
  simp only [EntryPlan.outline, sameProperties, sameFilter]

theorem planConnectionUpdate_agree (relationship : Relationship) (path : String) {one other : Value}
    (same : one.outline = other.outline) :
    Agree ConnectionUpdate.outline (basis.planConnectionUpdate relationship path one)
      (basis.planConnectionUpdate relationship path other) := by
  intro update updated here there
  obtain ⟨entries, related, properties, filter, rfl, found, -, assigned, read, rfl⟩ :=
    (planConnectionUpdate_ok_iff basis).mp here
  obtain ⟨others, target, values, conditions, rfl, foundAgain, -, assignedAgain, readAgain, rfl⟩ :=
    (planConnectionUpdate_ok_iff basis).mp there
  rw [found] at foundAgain
  cases foundAgain
  have alike := Value.object.inj same
  have sameProperties := planProperties_agree basis relationship path false
    (fun _ _ => entriesOf?_orEmpty_alike (Value.get?_alike alike "properties")) _ _
    assigned assignedAgain
  have sameFilter := readFilter_agree related path (Value.getD_alike alike "where") _ _ read readAgain
  simp only [ConnectionUpdate.outline, sameProperties, sameFilter]

/-- Items of one outline stand at the same places. -/
theorem zipIdx_alike {items others : List Value}
    (same : items.map Value.outline = others.map Value.outline) (start : Nat) :
    List.Forall₂ (fun one other =>
      one.1 ∈ items ∧ one.1.outline = other.1.outline ∧ one.2 = other.2)
      (items.zipIdx start) (others.zipIdx start) := by
  induction items generalizing others start with
  | nil =>
      cases others with
      | nil => exact .nil
      | cons other left => cases same
  | cons item rest ih =>
      cases others with
      | nil => cases same
      | cons other left =>
          obtain ⟨here, later⟩ := List.cons.inj same
          refine .cons ⟨List.mem_cons_self .., here, rfl⟩ ?_
          exact (ih later (start + 1)).imp fun _ _ ⟨member, alike⟩ =>
            ⟨List.mem_cons_of_mem _ member, alike⟩

theorem planEach_agree {α γ : Type} {view : α → γ} {plan : String → Value → Except Failure α}
    (path key : String) {items others : List Value}
    (same : items.map Value.outline = others.map Value.outline)
    (agree : ∀ item ∈ items, ∀ other path, item.outline = other.outline →
      Agree view (plan path item) (plan path other)) :
    Agree (List.map view) (Basis.planEach path key plan items)
      (Basis.planEach path key plan others) := by
  unfold Basis.planEach
  refine Agree.mapM ((zipIdx_alike same 0).imp ?_)
  rintro ⟨item, index⟩ ⟨other, _⟩ ⟨member, alike, rfl⟩
  exact agree item member other _ alike

/-- Where texts are refused, there is nothing to plan for texts. -/
theorem planEach_texts {α : Type} {plan : String → Value → Except Failure α} {path key : String}
    {items : List Value} {plans : List α} (texts : ∀ item ∈ items, IsText item)
    (refuses : ∀ path content made, plan path (.text content) ≠ .ok made)
    (planned : Basis.planEach path key plan items = .ok plans) : plans = [] := by
  cases items with
  | nil =>
      cases planned
      rfl
  | cons item rest =>
      obtain ⟨content, rfl⟩ := texts item (List.mem_cons_self ..)
      unfold Basis.planEach at planned
      rw [List.zipIdx_cons, List.mapM_cons] at planned
      obtain ⟨made, impossible, -⟩ := Outcome.bind_ok_iff.mp planned
      exact absurd impossible (refuses _ _ _)

/-- Lists of one outline are planned into plans of one outline, and so are two values of one outline
that are no lists. -/
theorem planItems_agree {α γ : Type} {view : α → γ} {plan : String → Value → Except Failure α}
    (path key : String) {one other : Value} (same : one.outline = other.outline)
    (agree : ∀ item other path, item.outline = other.outline →
      Agree view (plan path item) (plan path other))
    (refuses : ∀ path content made, plan path (.text content) ≠ .ok made) :
    Agree (List.map view) (itemsOf one >>= Basis.planEach path key plan)
      (itemsOf other >>= Basis.planEach path key plan) := by
  intro plans planned here there
  obtain ⟨items, taken, made⟩ := Outcome.bind_ok_iff.mp here
  obtain ⟨others, found, done⟩ := Outcome.bind_ok_iff.mp there
  rcases itemsOf_alike same taken found with alike | ⟨texts, others_⟩
  · exact planEach_agree path key alike (fun item _ => agree item) plans planned made done
  · rw [planEach_texts texts refuses made, planEach_texts others_ refuses done]

theorem planConnections_agree (relationship : Relationship) (path : String)
    {entries others : Entries Value}
    (same : Value.outlineEntries entries = Value.outlineEntries others) :
    Agree EntryPlan.outlineAll (basis.planConnections relationship path entries)
      (basis.planConnections relationship path others) := by
  have found := Value.get?_alike same connectKey
  have refuses : ∀ path content made,
      basis.planConnect relationship path (.text content) ≠ .ok made := by
    intro path content made impossible
    obtain ⟨entries, -, -, -, no, -⟩ := (planConnect_ok_iff basis).mp impossible
    cases no
  unfold Basis.planConnections
  cases here : entries.get? connectKey with
  | none =>
      cases there : others.get? connectKey with
      | none => exact .refl _ _
      | some other => simp [here, there] at found
  | some value =>
      cases there : others.get? connectKey with
      | none => simp [here, there] at found
      | some other =>
          simp only [here, there, Option.map_some, Option.some.injEq] at found
          intro plans planned made done
          rw [EntryPlan.outlineAll_eq_map, EntryPlan.outlineAll_eq_map]
          exact planItems_agree path connectKey found
            (fun _ _ path => planConnect_agree basis relationship path) refuses plans planned made
            done

/-- What is created agrees if it does for the items of each list. -/
theorem planCreations_agree_of (relationship : Relationship) (path : String)
    {entries others : Entries Value}
    (same : Value.outlineEntries entries = Value.outlineEntries others)
    (agree : ∀ items, entries.get? createKey = some (.list items) → ∀ item ∈ items, ∀ other path,
      item.outline = other.outline → Agree EntryPlan.outline
        (basis.planCreate relationship path item) (basis.planCreate relationship path other)) :
    Agree EntryPlan.outlineAll (basis.planCreations relationship path entries)
      (basis.planCreations relationship path others) := by
  have found := Value.get?_alike same createKey
  intro plans planned made done
  cases here : entries.get? createKey with
  | none =>
      cases there : others.get? createKey with
      | some other => simp [here, there] at found
      | none => rw [creations_of_none here made, creations_of_none there done]
  | some value =>
      cases there : others.get? createKey with
      | none => simp [here, there] at found
      | some other =>
          simp only [here, there, Option.map_some, Option.some.injEq] at found
          cases Value.alike_of_outline found with
          | list itemsSame =>
              rw [creations_of_list here] at made
              rw [creations_of_list there] at done
              rw [EntryPlan.outlineAll_eq_map, EntryPlan.outlineAll_eq_map]
              exact planEach_agree path createKey itemsSame (agree _ here) plans planned made done
          | null =>
              rw [creations_of_flat here nofun made, creations_of_flat there nofun done]
          | object entriesSame =>
              rw [creations_of_flat here nofun made, creations_of_flat there nofun done]
          | leaf first second =>
              rw [creations_of_flat here (Value.ne_list_of_isLeaf first) made,
                creations_of_flat there (Value.ne_list_of_isLeaf second) done]

/-- What relationships get agrees if what is given for each of them does. -/
theorem planEntries_agree_of (node : NodeType) (path : String) {entries others : Entries Value}
    (same : Value.outlineEntries entries = Value.outlineEntries others)
    (agree : ∀ name value other, entries.get? name = some value → value.outline = other.outline →
      ∀ relationship path, Agree EntryPlan.outlineAll
        (basis.planFieldInput relationship path value)
        (basis.planFieldInput relationship path other)) :
    Agree EntryPlan.outlineAll (basis.planEntries node path entries)
      (basis.planEntries node path others) := by
  rw [planEntries_eq, planEntries_eq]
  have each : List.Forall₂ (fun one other => Agree EntryPlan.outlineAll
      (basis.planRelationship path entries one) (basis.planRelationship path others other))
      node.relationships node.relationships := by
    refine List.forall₂_same.mpr fun relationship _ => ?_
    have found := Value.get?_alike same relationship.name
    unfold Basis.planRelationship
    cases here : entries.get? relationship.name with
    | none =>
        cases there : others.get? relationship.name with
        | none => exact .refl _ _
        | some other => simp [here, there] at found
    | some value =>
        cases there : others.get? relationship.name with
        | none => simp [here, there] at found
        | some other =>
            simp only [here, there, Option.map_some, Option.some.injEq] at found
            exact agree _ value other here found relationship _
  refine Agree.map (Agree.mapM each) ?_
  intro first second alike
  rw [EntryPlan.outlineAll_flatten, EntryPlan.outlineAll_flatten, alike]

mutual

theorem planNode_agree (node : NodeType) (path : String) (one other : Value)
    (same : one.outline = other.outline) :
    Agree NodePlan.outline (basis.planNode node path one) (basis.planNode node path other) := by
  intro plan planned here there
  obtain ⟨entries, nested, whole, -, -, entered, rfl⟩ := planNode_ok_iff.mp here
  obtain ⟨others, inner, wholeOther, -, -, enteredAgain, rfl⟩ := planNode_ok_iff.mp there
  subst whole wholeOther
  have alike := Value.object.inj same
  have id : ((entries.get? identifierName).filter (!·.isNull)).map Value.outline =
      ((others.get? identifierName).filter (!·.isNull)).map Value.outline :=
    filter_alike (Value.get?_alike alike identifierName)
  have sameNested := planEntries_agree_of basis node path alike
    (fun name value item found valueSame relationship path =>
      planFieldInput_agree relationship path value item valueSame) nested inner entered enteredAgain
  simp only [NodePlan.outline, id, propertiesIn_agree node alike, sameNested]
  termination_by sizeOf one
  decreasing_by
    subst_vars
    exact sizeOf_get?_lt found

theorem planFieldInput_agree (relationship : Relationship) (path : String) (one other : Value)
    (same : one.outline = other.outline) :
    Agree EntryPlan.outlineAll (basis.planFieldInput relationship path one)
      (basis.planFieldInput relationship path other) := by
  intro plans planned here there
  rcases planFieldInput_ok_iff.mp here with
    ⟨rfl, rfl⟩ | ⟨entries, created, connected, whole, -, creations, connections, rfl⟩
  · rcases planFieldInput_ok_iff.mp there with ⟨-, rfl⟩ | ⟨others, _, _, rfl, _⟩
    · rfl
    · cases same
  · subst whole
    rcases planFieldInput_ok_iff.mp there with
      ⟨rfl, -⟩ | ⟨others, made, joined, rfl, -, creationsAgain, connectionsAgain, rfl⟩
    · cases same
    · have alike := Value.object.inj same
      have sameCreated := planCreations_agree_of basis relationship path alike
        (fun items found item member other path =>
          planCreate_agree relationship path item other) created made creations creationsAgain
      have sameConnected := planConnections_agree basis relationship path alike connected joined
        connections connectionsAgain
      rw [EntryPlan.outlineAll_append, EntryPlan.outlineAll_append, sameCreated, sameConnected]
  termination_by sizeOf one
  decreasing_by
    have outer := sizeOf_get?_lt found
    have inner := List.sizeOf_lt_of_mem member
    simp only [Value.list.sizeOf_spec] at outer
    subst_vars
    omega

theorem planCreate_agree (relationship : Relationship) (path : String) (one other : Value)
    (same : one.outline = other.outline) :
    Agree EntryPlan.outline (basis.planCreate relationship path one)
      (basis.planCreate relationship path other) := by
  intro plan planned here there
  obtain ⟨entries, related, properties, input, node, whole, found, assigned, given, made, rfl⟩ :=
    planCreate_ok_iff.mp here
  obtain ⟨others, target, values, inner, inside, rfl, foundAgain, assignedAgain, givenAgain,
    madeAgain, rfl⟩ := planCreate_ok_iff.mp there
  subst whole
  rw [found] at foundAgain
  cases foundAgain
  have alike := Value.object.inj same
  have sameProperties := planProperties_agree basis relationship path true
    (fun _ _ => entriesOf?_alike (Value.getD_alike alike "properties")) _ _ assigned assignedAgain
  have sameInput : input.outline = inner.outline := by
    have both := Value.get?_alike alike "node"
    rw [given, givenAgain] at both
    exact Option.some.inj both
  have sameNode := planNode_agree related s!"{path}.node" input inner sameInput node inside made
    madeAgain
  simp only [EntryPlan.outline, sameProperties, sameNode]
  termination_by sizeOf one
  decreasing_by
    subst_vars
    exact sizeOf_get?_lt given

end

theorem planEntries_agree (node : NodeType) (path : String) {entries others : Entries Value}
    (same : Value.outlineEntries entries = Value.outlineEntries others) :
    Agree EntryPlan.outlineAll (basis.planEntries node path entries)
      (basis.planEntries node path others) :=
  planEntries_agree_of basis node path same fun _ value other _ valueSame relationship path =>
    planFieldInput_agree basis relationship path value other valueSame

theorem planConnectionUpdates_agree (node : NodeType) (path : String)
    {entries others : Entries Value}
    (same : Value.outlineEntries entries = Value.outlineEntries others) :
    Agree (List.map ConnectionUpdate.outline) (basis.planConnectionUpdates node path entries)
      (basis.planConnectionUpdates node path others) := by
  have refuses : ∀ relationship path content made,
      basis.planConnectionUpdate relationship path (.text content) ≠ .ok made := by
    intro relationship path content made impossible
    obtain ⟨entries, -, -, -, no, -⟩ := (planConnectionUpdate_ok_iff basis).mp impossible
    cases no
  induction entries generalizing others with
  | nil =>
      cases others with
      | nil => exact .refl _ _
      | cons other left => cases same
  | cons entry rest ih =>
      obtain ⟨name, value⟩ := entry
      cases others with
      | nil => cases same
      | cons other left =>
          obtain ⟨label, item⟩ := other
          simp only [Value.outlineEntries, List.cons.injEq, Prod.mk.injEq] at same
          obtain ⟨⟨rfl, alike⟩, later⟩ := same
          intro updates updated here there
          obtain ⟨relationship, found, here⟩ := Outcome.bind_ok_iff.mp here
          obtain ⟨again, foundAgain, there⟩ := Outcome.bind_ok_iff.mp there
          rw [found] at foundAgain
          cases foundAgain
          rw [← bind_assoc] at here there
          obtain ⟨first, made, here⟩ := Outcome.bind_ok_iff.mp here
          obtain ⟨one, done, there⟩ := Outcome.bind_ok_iff.mp there
          obtain ⟨leftover, madeLeft, here⟩ := Outcome.bind_ok_iff.mp here
          obtain ⟨remaining, doneLeft, there⟩ := Outcome.bind_ok_iff.mp there
          cases here
          cases there
          have sameFirst := planItems_agree s!"{path}.{name}" "updateConnection" alike
            (fun _ _ path => planConnectionUpdate_agree basis relationship path)
            (refuses relationship) first one made done
          rw [List.map_append, List.map_append, sameFirst, ih later leftover remaining madeLeft
            doneLeft]

end

/-!
Outlines of plans.  Root fields of one outline that can both be planned have plans of one outline.
-/

def ResponsePlan.outline (response : ResponsePlan) : ResponsePlan :=
  response.map fun entry => (entry.1, FieldPlan.outlineAll entry.2)

def VariantPlan.outline (variant : VariantPlan) : VariantPlan :=
  { variant with fields := FieldPlan.outlineAll variant.fields }

/-- A plan with all leaves but nulls of its values made the same. -/
def Plan.outline : Plan → Plan
  | .list label filter fields =>
      .list label (filter.map Assignment.outline) (FieldPlan.outlineAll fields)
  | .lookup id variants => .lookup id.outline (variants.map VariantPlan.outline)
  | .create nodes response => .create (nodes.map NodePlan.outline) response.outline
  | .update label filter assignments entries connections response =>
      .update label (filter.map Assignment.outline) (assignments.map Assignment.outline)
        (EntryPlan.outlineAll entries) (connections.map ConnectionUpdate.outline) response.outline

theorem Plan.writes_outline (plan : Plan) : plan.outline.writes = plan.writes := by
  cases plan <;> rfl

mutual

theorem NodePlan.paths_outline : (node : NodePlan) → node.outline.paths = node.paths
  | .mk _ _ _ _ entries => EntryPlan.pathsOf_outline entries

theorem EntryPlan.paths_outline : (entry : EntryPlan) → entry.outline.paths = entry.paths
  | .create _ _ node => NodePlan.paths_outline node
  | .connect _ _ _ _ => rfl

theorem EntryPlan.pathsOf_outline : (entries : List EntryPlan) →
    EntryPlan.pathsOf (EntryPlan.outlineAll entries) = EntryPlan.pathsOf entries
  | [] => rfl
  | entry :: rest => by
      rw [EntryPlan.outlineAll, EntryPlan.pathsOf, EntryPlan.pathsOf, EntryPlan.paths_outline entry,
        EntryPlan.pathsOf_outline rest]

end

theorem Plan.paths_outline (plan : Plan) : plan.outline.paths = plan.paths := by
  cases plan with
  | list label filter fields => rfl
  | lookup id variants => rfl
  | create nodes response =>
      change (nodes.map NodePlan.outline).flatMap NodePlan.paths = nodes.flatMap NodePlan.paths
      rw [List.flatMap_map]
      simp only [NodePlan.paths_outline]
  | update label filter assignments entries connections response =>
      simp only [Plan.paths, Plan.outline, EntryPlan.pathsOf_outline, List.map_map]
      rfl

section

variable (basis : Basis)

theorem planResponse_agree (node : NodeType) {fields others : List ResponseField}
    (same : fields.map ResponseField.outline = others.map ResponseField.outline) :
    Agree ResponsePlan.outline (basis.planResponse node fields)
      (basis.planResponse node others) := by
  induction fields generalizing others with
  | nil =>
      cases others with
      | nil => exact .refl _ _
      | cons other left => cases same
  | cons field rest ih =>
      cases others with
      | nil => cases same
      | cons other left =>
          obtain ⟨here, later⟩ := List.cons.inj same
          cases field with
          | leaf selected =>
              cases other with
              | leaf another =>
                  have inner := ih later
                  exact inner
              | nodes key selection => cases here
          | nodes key selection =>
              cases other with
              | leaf another => cases here
              | nodes _ other =>
                  obtain ⟨rfl, alike⟩ := ResponseField.nodes.inj here
                  unfold Basis.planResponse
                  refine Agree.bind (planFields_agree basis node selection.fields other.fields
                    (congrArg NodeSelection.fields alike)) ?_
                  intro plans planned _ _ begun
                  refine Agree.bind (ih later) ?_
                  intro responses answered _ _ ended
                  exact .ok (congrArg₂ List.cons (congrArg (Prod.mk key) begun) ended)

theorem planVariants_agree {variants others : List NodeSelection}
    (same : variants.map NodeSelection.outline = others.map NodeSelection.outline) :
    Agree (List.map VariantPlan.outline) (basis.planVariants variants)
      (basis.planVariants others) := by
  induction variants generalizing others with
  | nil =>
      cases others with
      | nil => exact .refl _ _
      | cons other left => cases same
  | cons selection rest ih =>
      cases others with
      | nil => cases same
      | cons other left =>
          obtain ⟨here, later⟩ := List.cons.inj same
          obtain ⟨sameType, sameFields⟩ := NodeSelection.mk.inj here
          unfold Basis.planVariants
          rw [sameType]
          refine Agree.bind_same ?_
          intro node _
          refine Agree.bind (planFields_agree basis node selection.fields other.fields
            sameFields) ?_
          intro plans planned _ _ begun
          refine Agree.bind (ih later) ?_
          intro variants planned _ _ ended
          refine .ok ?_
          rw [List.map_cons, List.map_cons, ended]
          simp only [VariantPlan.outline, begun]

/-- Lists of one outline have plans of one outline. -/
theorem plan_list_agree (key typeName : String) {selection other : NodeSelection}
    {filter condition : Value} (sameSelection : selection.outline = other.outline)
    (sameFilter : filter.outline = condition.outline) :
    Agree Plan.outline (basis.plan (.list key typeName selection filter))
      (basis.plan (.list key typeName other condition)) := by
  unfold Basis.plan
  refine Agree.bind_same fun node _ => ?_
  refine Agree.bind (readFilter_agree node key sameFilter) ?_
  intro entries others _ _ alikeFilter
  refine Agree.bind (planFields_agree basis node selection.fields other.fields
    (NodeSelection.mk.inj sameSelection).2) ?_
  intro plans planned _ _ alikeFields
  exact .ok (by simp only [Plan.outline, alikeFilter, alikeFields])

/-- Lookups of one outline have plans of one outline. -/
theorem plan_lookup_agree (key : String) {id wanted : Value} {variants others : List NodeSelection}
    (sameId : id.outline = wanted.outline)
    (sameVariants : variants.map NodeSelection.outline = others.map NodeSelection.outline) :
    Agree Plan.outline (basis.plan (.lookup key id variants))
      (basis.plan (.lookup key wanted others)) := by
  have emptiness : variants.isEmpty = others.isEmpty := by
    rw [← List.isEmpty_map (f := NodeSelection.outline), sameVariants, List.isEmpty_map]
  unfold Basis.plan
  dsimp only
  rw [emptiness]
  split
  · exact .refl _ _
  · split
    · exact .refl _ _
    · refine Agree.bind (planVariants_agree basis sameVariants) ?_
      intro plans planned _ _ alikePlans
      exact .ok (by simp only [Plan.outline, sameId, alikePlans])

/-- Creations of one outline have plans of one outline. -/
theorem plan_create_agree (key typeName : String) {inputs others : List Value}
    {response answer : ResponseSelection}
    (sameInputs : inputs.map Value.outline = others.map Value.outline)
    (sameResponse : response.outline = answer.outline) :
    Agree Plan.outline (basis.plan (.create key typeName inputs response))
      (basis.plan (.create key typeName others answer)) := by
  unfold Basis.plan
  refine Agree.bind_same fun node _ => ?_
  have each := (zipIdx_alike sameInputs 0).imp
    fun input another ⟨_, alike, place⟩ =>
      (place ▸ planNode_agree basis node s!"{key}[{input.2}]" input.1 another.1 alike :
        Agree NodePlan.outline (basis.planNode node s!"{key}[{input.2}]" input.1)
          (basis.planNode node s!"{key}[{another.2}]" another.1))
  refine Agree.bind (Agree.mapM each) ?_
  intro nodes planned _ _ alikeNodes
  refine Agree.bind (planResponse_agree basis node (ResponseSelection.mk.inj sameResponse).2) ?_
  intro plans answered _ _ alikePlans
  exact .ok (by simp only [Plan.outline, alikeNodes, alikePlans])

/-- Updates of one outline have plans of one outline. -/
theorem plan_update_agree (key typeName : String) {response answer : ResponseSelection}
    {filter condition assignments values connections updates : Value}
    (sameResponse : response.outline = answer.outline)
    (sameFilter : filter.outline = condition.outline)
    (sameValues : assignments.outline = values.outline)
    (sameUpdates : connections.outline = updates.outline) :
    Agree Plan.outline (basis.plan (.update key typeName response filter assignments connections))
      (basis.plan (.update key typeName answer condition values updates)) := by
  unfold Basis.plan
  refine Agree.bind_same fun node _ => ?_
  refine Agree.bind (readFilter_agree node key sameFilter) ?_
  intro found conditions _ _ alikeFilter
  refine Agree.bind (objectEntries_orEmpty_agree sameValues) ?_
  intro entries others _ _ alikeValues
  refine Agree.bind (Agree.of_unit _ _) ?_
  intro _ _ _ _ _
  refine Agree.bind (planEntries_agree basis node key alikeValues) ?_
  intro nested inner _ _ alikeNested
  refine Agree.bind (objectEntries_orEmpty_agree sameUpdates) ?_
  intro given taken _ _ alikeGiven
  refine Agree.bind (planConnectionUpdates_agree basis node key alikeGiven) ?_
  intro changes updates _ _ alikeUpdates
  refine Agree.bind (planResponse_agree basis node (ResponseSelection.mk.inj sameResponse).2) ?_
  intro plans answered _ _ alikePlans
  exact .ok (by simp only [Plan.outline, alikeFilter, propertiesIn_agree node alikeValues,
    alikeNested, alikeUpdates, alikePlans])

/-- Root fields of one outline have plans of one outline. -/
theorem plan_agree {one other : RootField} (same : one.outline = other.outline) :
    Agree Plan.outline (basis.plan one) (basis.plan other) := by
  cases one with
  | list key typeName selection filter =>
      cases other with
      | list _ _ selected condition =>
          obtain ⟨rfl, rfl, sameSelection, sameFilter⟩ := RootField.list.inj same
          exact plan_list_agree basis key typeName sameSelection sameFilter
      | _ => cases same
  | lookup key id variants =>
      cases other with
      | lookup _ wanted selected =>
          obtain ⟨rfl, sameId, sameVariants⟩ := RootField.lookup.inj same
          exact plan_lookup_agree basis key sameId sameVariants
      | _ => cases same
  | create key typeName inputs response =>
      cases other with
      | create _ _ others answer =>
          obtain ⟨rfl, rfl, sameInputs, sameResponse⟩ := RootField.create.inj same
          exact plan_create_agree basis key typeName sameInputs sameResponse
      | _ => cases same
  | update key typeName response filter assignments connections =>
      cases other with
      | update _ _ answer condition values updates =>
          obtain ⟨rfl, rfl, sameResponse, sameFilter, sameValues, sameUpdates⟩ :=
            RootField.update.inj same
          exact plan_update_agree basis key typeName sameResponse sameFilter sameValues sameUpdates
      | _ => cases same
  | typename key typeName =>
      cases other with
      | typename _ _ =>
          cases same
          exact .refl _ _
      | _ => cases same

end

end GraphGateway.Statement
