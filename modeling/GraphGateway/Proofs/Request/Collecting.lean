import GraphGateway.Proofs.Entries
import GraphGateway.Proofs.Graphql.Reach
import GraphGateway.Proofs.Outcome
import GraphGateway.Request.Reading

/-!
Collected fields.  What holds of every field that is collected follows from what holds of every
selection that is passed on the way.  The fields of a selection are then read one by one; what is
read of one field has a name here.
-/
namespace GraphGateway.Request

open Graphql (TypeDefinition)
open Outcome (Only)

/-- What the fields collected on a type keep: a fact about them that every allowed field keeps,
where what is selected inside an allowed fragment is allowed. -/
structure Context.Keeps (context : Context) (type : TypeDefinition)
    (allowed : Graphql.Selection → Prop) (kept : Collected → Prop) : Prop where
  start : kept {}
  field : ∀ key name arguments directives selections collected,
    allowed (.field key name arguments directives selections) → kept collected →
      kept (collected.add (key.getD name) { name, arguments, selections })
  seen : ∀ name collected, kept collected → kept { collected with seen := name :: collected.seen }
  inline : ∀ condition directives selections, allowed (.inline condition directives selections) →
    context.applies type condition = true → ∀ selection ∈ selections, allowed selection
  fragment : ∀ name directives fragment, allowed (.spread name directives) →
    context.document.fragment? name = some fragment →
    context.applies type (some fragment.condition) = true →
      ∀ selection ∈ fragment.selections, allowed selection

/-- Fields that stand under a key after one is put there, and the fields that stood there. -/
theorem Collected.of_mem_add {collected : Collected} {key : String} {field : Selected}
    {entry : String × List Selected} (inside : entry ∈ (collected.add key field).fields) :
    entry ∈ collected.fields ∨ entry.1 = key ∧ entry.2 ≠ [] ∧ ∀ item ∈ entry.2,
      item = field ∨ ∃ fields, (key, fields) ∈ collected.fields ∧ item ∈ fields := by
  rcases Entries.mem_put inside with rfl | before
  · refine .inr ⟨rfl, by simp, fun item among => ?_⟩
    rcases List.mem_append.mp among with older | last
    · cases found : Entries.get? collected.fields key with
      | none =>
          rw [found] at older
          cases older
      | some fields =>
          rw [found] at older
          exact .inr ⟨fields, Entries.mem_of_get? found, older⟩
    · exact .inl (List.mem_singleton.mp last)
  · exact .inl before

/-- The directives of a selection. -/
def directivesOf : Graphql.Selection → List Graphql.Directive
  | .field _ _ _ directives _ => directives
  | .spread _ directives => directives
  | .inline _ directives _ => directives

namespace Context

variable {context : Context} {type : TypeDefinition} {allowed : Graphql.Selection → Prop}
  {kept : Collected → Prop}

mutual

theorem Keeps.visit (keeps : context.Keeps type allowed kept)
    {spread : String → Collected → Except Failure Collected}
    (spreads : ∀ name directives before after, allowed (.spread name directives) → kept before →
      spread name before = .ok after → kept after) {before after : Collected} (old : kept before) :
    (selection : Graphql.Selection) → allowed selection →
    context.visit spread type before selection = .ok after → kept after
  | .field key name arguments directives selections, member, visited => by
      obtain ⟨included, -, visited⟩ := Outcome.bind_ok_iff.mp visited
      split at visited
      · cases visited
        exact keeps.field key name arguments directives selections before member old
      · cases visited
        exact old
  | .inline condition directives selections, member, visited => by
      obtain ⟨included, -, visited⟩ := Outcome.bind_ok_iff.mp visited
      split at visited
      · next applied =>
        have holds := (Bool.and_eq_true_iff.mp applied).2
        exact keeps.visitAll spreads old selections
          (keeps.inline condition directives selections member holds) visited
      · cases visited
        exact old
  | .spread fragment directives, member, visited => by
      obtain ⟨included, -, visited⟩ := Outcome.bind_ok_iff.mp visited
      split at visited
      · exact spreads fragment directives _ after member (keeps.seen fragment before old) visited
      · cases visited
        exact old

theorem Keeps.visitAll (keeps : context.Keeps type allowed kept)
    {spread : String → Collected → Except Failure Collected}
    (spreads : ∀ name directives before after, allowed (.spread name directives) → kept before →
      spread name before = .ok after → kept after) {before after : Collected} (old : kept before) :
    (selections : List Graphql.Selection) → (∀ selection ∈ selections, allowed selection) →
    context.visitAll spread type before selections = .ok after → kept after
  | [], _, visited => by
      cases visited
      exact old
  | selection :: rest, members, visited => by
      obtain ⟨middle, first, others⟩ := Outcome.bind_ok_iff.mp visited
      have begun := keeps.visit spreads old selection (members _ (List.mem_cons_self ..)) first
      exact keeps.visitAll spreads begun rest
        (fun other member => members other (List.mem_cons_of_mem _ member)) others

end

theorem Keeps.spread (keeps : context.Keeps type allowed kept) (depth : Nat) (name : String)
    (directives : List Graphql.Directive) (before after : Collected)
    (member : allowed (.spread name directives)) (old : kept before)
    (done : context.spread type depth name before = .ok after) : kept after := by
  induction depth generalizing name directives before after with
  | zero =>
      cases done
      exact old
  | succ depth ih =>
      unfold Context.spread at done
      split at done
      · next fragment found =>
        split at done
        · next applied =>
          exact keeps.visitAll ih old _
            (keeps.fragment name directives fragment member found applied) done
        · cases done
          exact old
      · cases done
        exact old

/-- What is kept holds of the fields that are collected. -/
theorem Keeps.collect (keeps : context.Keeps type allowed kept)
    {sets : List (List Graphql.Selection)} (members : ∀ set ∈ sets, ∀ selection ∈ set,
      allowed selection) {fields : List (String × List Selected)}
    (collected : context.collect type sets = .ok fields) :
    ∃ after, kept after ∧ after.fields = fields := by
  obtain ⟨after, visited, made⟩ := Outcome.bind_ok_iff.mp collected
  refine ⟨after, ?_, Outcome.pure_ok_iff.mp made⟩
  apply keeps.visitAll (keeps.spread _) keeps.start _ _ visited
  intro selection member
  obtain ⟨set, inside, among⟩ := List.mem_flatten.mp member
  exact members set inside selection among

mutual

theorem Keeps.visit_only (keeps : context.Keeps type allowed kept) {refused : Failure → Prop}
    (flags : ∀ selection, allowed selection →
      Only refused (context.isIncluded (directivesOf selection)))
    {spread : String → Collected → Except Failure Collected}
    (spreads : ∀ name directives before, allowed (.spread name directives) →
      Only refused (spread name before)) (before : Collected) :
    (selection : Graphql.Selection) → allowed selection →
    Only refused (context.visit spread type before selection)
  | .field key name arguments directives selections, member => by
      rw [Context.visit]
      refine .bind (flags _ member) fun included _ => ?_
      split
      · exact .ok _
      · exact .ok _
  | .inline condition directives selections, member => by
      rw [Context.visit]
      refine .bind (flags _ member) fun included _ => ?_
      split
      · next applied =>
        have holds := (Bool.and_eq_true_iff.mp applied).2
        exact keeps.visitAll_only flags spreads before selections
          (keeps.inline condition directives selections member holds)
      · exact .ok _
  | .spread fragment directives, member => by
      rw [Context.visit]
      refine .bind (flags _ member) fun included _ => ?_
      split
      · exact spreads fragment directives _ member
      · exact .ok _

theorem Keeps.visitAll_only (keeps : context.Keeps type allowed kept) {refused : Failure → Prop}
    (flags : ∀ selection, allowed selection →
      Only refused (context.isIncluded (directivesOf selection)))
    {spread : String → Collected → Except Failure Collected}
    (spreads : ∀ name directives before, allowed (.spread name directives) →
      Only refused (spread name before)) (before : Collected) :
    (selections : List Graphql.Selection) → (∀ selection ∈ selections, allowed selection) →
    Only refused (context.visitAll spread type before selections)
  | [], _ => .ok _
  | selection :: rest, members => by
      rw [Context.visitAll]
      refine .bind (keeps.visit_only flags spreads before selection
        (members _ (List.mem_cons_self ..))) fun middle _ => ?_
      exact keeps.visitAll_only flags spreads middle rest
        fun other member => members other (List.mem_cons_of_mem _ member)

end

section

variable (keeps : context.Keeps type allowed kept) {refused : Failure → Prop}
  (flags : ∀ selection, allowed selection →
    Only refused (context.isIncluded (directivesOf selection)))

include keeps flags

theorem Keeps.spread_only (depth : Nat) (name : String) (directives : List Graphql.Directive)
    (before : Collected) (member : allowed (.spread name directives)) :
    Only refused (context.spread type depth name before) := by
  induction depth generalizing name directives before with
  | zero => exact .ok before
  | succ depth ih =>
      unfold Context.spread
      split
      · next fragment found =>
        split
        · next applied =>
          exact keeps.visitAll_only flags ih before _
            (keeps.fragment name directives fragment member found applied)
        · exact .ok before
      · exact .ok before

/-- Collecting fails over the conditions on the way only. -/
theorem Keeps.collect_only {sets : List (List Graphql.Selection)}
    (members : ∀ set ∈ sets, ∀ selection ∈ set, allowed selection) :
    Only refused (context.collect type sets) := by
  have each : ∀ selection ∈ sets.flatten, allowed selection := by
    intro selection member
    obtain ⟨set, inside, among⟩ := List.mem_flatten.mp member
    exact members set inside selection among
  exact .bind (keeps.visitAll_only flags (keeps.spread_only flags _) {} sets.flatten each)
    fun _ _ => .ok _

end

variable (context : Context)

/-- Reads one field of an edge. -/
def edgeField (readNode : String → List Selected → Except Failure (List NodeField))
    (relatedType : String) : String × List Selected → Except Failure EdgeField
  | (key, fields) => do
      let name := (firstOf fields).name
      if name = "node" then pure (.node key relatedType (← readNode relatedType fields))
      else pure (.leaf ⟨key, name⟩)

theorem edgeFields_eq (readNode : String → List Selected → Except Failure (List NodeField))
    (edgeType : TypeDefinition) (relatedType : String) (fields : List Selected) :
    context.edgeFields readNode edgeType relatedType fields =
      context.subfields edgeType fields >>= List.mapM (edgeField readNode relatedType) := (rfl)

/-- Reads one field of a connection. -/
def connectionField (readNode : String → List Selected → Except Failure (List NodeField))
    (connectionName : String) (edgeType : TypeDefinition) (relatedType : String) :
    String × List Selected → Except Failure ConnectionField
  | (inner, fields) => do
      let name := (firstOf fields).name
      if name = Graphql.typenameName then pure (ConnectionField.leaf ⟨inner, name⟩)
      else if name = "edges" then
        pure (.edges inner (← context.edgeFields readNode edgeType relatedType fields))
      else if name = "pageInfo" then pure (.pageInfo inner (← context.pageInfoFields fields))
      else Failure.unbuildable s!"unknown field '{name}' on {connectionName}" (some inner)

theorem connection_eq (readNode : String → List Selected → Except Failure (List NodeField))
    (type : TypeDefinition) (node : Schema.NodeType) (relationship : Schema.Relationship)
    (key : String) (fields : List Selected) :
    context.connection readNode type node relationship key fields = (do
      let given ← context.fieldArguments type (firstOf fields)
      let connectionType ← context.objectType (Schema.connectionTypeName node.name relationship.name)
      let edgeType ← context.objectType (Schema.edgeTypeName node.name relationship.name)
      let subfields ← context.subfields connectionType fields
      let selected ← subfields.mapM
        (context.connectionField readNode connectionType.name edgeType relationship.relatedType)
      pure (.connection key relationship.name ((given.get? "first").getD .null)
        ((given.get? "after").getD .null) selected)) := (rfl)

/-- Reads one field of a node. -/
def nodeField (readNode : String → List Selected → Except Failure (List NodeField))
    (typeName : String) (type : TypeDefinition) (node : Schema.NodeType) :
    String × List Selected → Except Failure NodeField
  | (key, fields) => do
      let name := (firstOf fields).name
      if name = Graphql.typenameName || (node.field? name).isSome then pure (.leaf ⟨key, name⟩)
      else
        match node.relationship? name with
        | some relationship =>
            let inner ← readNode relationship.relatedType fields
            pure (.relationship key name relationship.relatedType inner)
        | none =>
            match connectionOf? node name with
            | some relationship => context.connection readNode type node relationship key fields
            | none => Failure.unbuildable s!"unknown field '{name}' on {typeName}" (some key)

theorem nodeFields_succ (depth : Nat) (typeName : String) (fields : List Selected) :
    context.nodeFields (depth + 1) typeName fields = (do
      let type ← context.objectType typeName
      let node ← Failure.ofLookup (context.surface.model.node typeName)
      let subfields ← context.subfields type fields
      subfields.mapM (context.nodeField (context.nodeFields depth) typeName type node)) := (rfl)

/-- Reads one field of the answer to a mutation. -/
def responseField (responseName typeName : String) :
    String × List Selected → Except Failure ResponseField
  | (key, fields) => do
      let name := (firstOf fields).name
      if name = Graphql.typenameName then pure (ResponseField.leaf ⟨key, name⟩)
      else if name = Schema.pluralFieldName typeName then
        pure (.nodes key (← context.nodeSelection typeName fields))
      else Failure.unbuildable s!"unknown field '{name}' on {responseName}" (some key)

theorem responseSelection_eq (responseName typeName : String) (fields : List Selected) :
    context.responseSelection responseName typeName fields = (do
      let type ← context.objectType responseName
      let subfields ← context.subfields type fields
      let selected ← subfields.mapM (context.responseField type.name typeName)
      pure ⟨type.name, selected⟩) := (rfl)

end Context

/-!
Reading comes to an end.  Nothing but the reading of fields inside fields can run out of depth, and
where no fragment reaches itself, what is selected in fields is always less than they are.
-/

open Graphql (Document Selection TypeDefinition)
open Outcome (Only)

namespace Context

section

variable {context : Context} {type : TypeDefinition}

theorem isIncluded_only (directives : List Graphql.Directive) :
    Only (· ≠ Failure.endless) (context.isIncluded directives) := by
  have flag : ∀ name, Only (· ≠ Failure.endless) (context.flag? directives name) := by
    intro name
    unfold flag?
    split
    · exact .ok _
    · split
      · exact .ok _
      · exact .error nofun
  unfold isIncluded
  refine .bind (flag "skip") fun skip _ => ?_
  split
  · exact .ok _
  · refine .bind (flag "include") fun keep _ => ?_
    split
    · exact .ok _
    · exact .ok _

mutual

theorem visit_only {spread : String → Collected → Except Failure Collected}
    (spreads : ∀ name collected, Only (· ≠ Failure.endless) (spread name collected))
    (collected : Collected) : (selection : Selection) →
    Only (· ≠ Failure.endless) (context.visit spread type collected selection)
  | .field key name arguments directives selections => by
      rw [visit]
      refine .bind (isIncluded_only directives) fun included _ => ?_
      split
      · exact .ok _
      · exact .ok _
  | .inline condition directives selections => by
      rw [visit]
      refine .bind (isIncluded_only directives) fun included _ => ?_
      split
      · exact visitAll_only spreads collected selections
      · exact .ok _
  | .spread fragment directives => by
      rw [visit]
      refine .bind (isIncluded_only directives) fun included _ => ?_
      split
      · exact spreads fragment _
      · exact .ok _

theorem visitAll_only {spread : String → Collected → Except Failure Collected}
    (spreads : ∀ name collected, Only (· ≠ Failure.endless) (spread name collected))
    (collected : Collected) : (selections : List Selection) →
    Only (· ≠ Failure.endless) (context.visitAll spread type collected selections)
  | [] => .ok _
  | selection :: rest => by
      rw [visitAll]
      refine .bind (visit_only spreads collected selection) fun middle _ => ?_
      exact visitAll_only spreads middle rest

end

theorem spread_only (depth : Nat) (name : String) (collected : Collected) :
    Only (· ≠ Failure.endless) (context.spread type depth name collected) := by
  induction depth generalizing name collected with
  | zero => exact .ok _
  | succ depth ih =>
      unfold Context.spread
      split
      · split
        · exact visitAll_only ih collected _
        · exact .ok _
      · exact .ok _

theorem subfields_only (fields : List Selected) :
    Only (· ≠ Failure.endless) (context.subfields type fields) := by
  unfold subfields collect
  exact .bind (visitAll_only (spread_only _) {} _) fun _ _ => .ok _

theorem unbuildable_only {α : Type} (reason : String) :
    Only (· ≠ Failure.endless) (Failure.unbuildable reason none : Except _ α) := by
  rintro failure ⟨⟩ same
  cases same

theorem objectType_only (name : String) : Only (· ≠ Failure.endless) (context.objectType name) := by
  unfold objectType
  split
  · split
    · exact .ok _
    · exact unbuildable_only _
  · exact unbuildable_only _

theorem fieldArguments_only (type : TypeDefinition) (field : Selected) :
    Only (· ≠ Failure.endless) (context.fieldArguments type field) := by
  unfold fieldArguments argumentsOf
  split
  · split
    · exact .ok _
    · exact .error nofun
  · exact .error nofun

end

theorem ofLookup_only {α : Type} (result : Except Schema.LookupFault α) :
    Only (· ≠ Failure.endless) (Failure.ofLookup result) := by
  cases result with
  | error fault => exact .error nofun
  | ok found => exact .ok found

theorem itemsOf_only (value : Value) : Only (· ≠ Failure.endless) (itemsOf value) := by
  unfold itemsOf elementsOf
  split
  · split
    · exact .ok _
    · exact .ok _
    · exact .ok _
    · exact .error nofun
  · exact .ok _

/-- Fields, at least one, that select less than a bound. -/
structure Shallow (document : Document) (bound : Nat) (fields : List Selected) : Prop where
  filled : fields ≠ []
  light : ∀ field ∈ fields, document.weigh field.selections < bound

theorem Shallow.pos {document : Document} {bound : Nat} {fields : List Selected}
    (shallow : Shallow document bound fields) : 0 < bound := by
  obtain ⟨field, member⟩ := List.exists_mem_of_ne_nil fields shallow.filled
  exact Nat.lt_of_le_of_lt (Nat.zero_le _) (shallow.light field member)

theorem Shallow.mono {document : Document} {bound most : Nat} {fields : List Selected}
    (shallow : Shallow document bound fields) (less : bound ≤ most) :
    Shallow document most fields :=
  ⟨shallow.filled, fun field member => Nat.lt_of_lt_of_le (shallow.light field member) less⟩

section

variable {context : Context} {type : TypeDefinition} (acyclic : context.document.IsAcyclic)

include acyclic

theorem keeps_shallow (type : TypeDefinition) (bound : Nat) :
    context.Keeps type (fun selection => context.document.weigh [selection] ≤ bound)
      (fun collected => ∀ group ∈ collected.fields,
        Shallow context.document bound group.2) := by
  constructor
  · exact fun _ none_ => absurd none_ List.not_mem_nil
  · intro key name arguments directives selections collected light old group inside
    rw [Document.weigh_field] at light
    rcases Collected.of_mem_add inside with before | ⟨-, filled, all⟩
    · exact old group before
    · refine ⟨filled, fun field among => ?_⟩
      rcases all field among with rfl | ⟨fields, before, older⟩
      · exact light
      · exact (old _ before).light field older
  · exact fun _ _ old => old
  · intro condition directives selections light _ selection inside
    rw [Document.weigh_inline] at light
    exact (Document.weigh_mem inside).trans light
  · intro name directives fragment light found _ selection inside
    exact (Document.weigh_mem inside).trans
      ((Document.weigh_fragment acyclic found directives).trans light)

/-- What is selected in fields is less deep than they are. -/
theorem subfields_shallow {bound : Nat} {fields : List Selected}
    {groups : List (String × List Selected)} (shallow : Shallow context.document bound fields)
    (collected : context.subfields type fields = .ok groups) :
    ∀ group ∈ groups, Shallow context.document (bound - 1) group.2 := by
  have light : ∀ set ∈ fields.map Selected.selections, ∀ selection ∈ set,
      context.document.weigh [selection] ≤ bound - 1 := by
    intro set member selection inside
    obtain ⟨field, among, rfl⟩ := List.mem_map.mp member
    have whole := shallow.light field among
    have part : context.document.weigh [selection] ≤ context.document.weigh field.selections :=
      Document.weigh_mem inside
    omega
  obtain ⟨after, kept, rfl⟩ := (keeps_shallow acyclic type (bound - 1)).collect light collected
  exact kept

end

end Context

end GraphGateway.Request
