import GraphGateway.Proofs.Request.Argument
import GraphGateway.Proofs.Request.Fitting

/-!
Reading valid operations from their roots.  Every root field that is read of a valid operation is one
that the model answers: a list of nodes, the lookup of a node, or a mutation of nodes of one type.  What
it is given suits the inputs of the type, and what is selected in it fits the model.
-/
namespace GraphGateway.Request

open Graphql (ArgumentDefinition FieldDefinition TypeDefinition TypeSystem namedType typenameName)
open Outcome (Brings)
open Schema (Model NodeType createInputName name_of_find? updateConnectionInputName updateInputName
  whereInputName)

/-- An input for an argument that may be there, or an empty object in the place of none. -/
def SuitsInput (types : TypeSystem) (offered : Prop) (name : String) (value : Value) : Prop :=
  value = .object [] ∨ offered ∧ types.Suits (.named name) value

/-- A root field is given what suits the inputs of its node type, where there are such. -/
def RootField.Suits (model : Model) (paged : Bool) (types : TypeSystem) : RootField → Prop
  | .list _ typeName _ filter => SuitsInput types True (whereInputName typeName) filter
  | .lookup _ _ _ => True
  | .create _ typeName inputs _ =>
      ∀ input ∈ inputs, types.Suits (.named (createInputName typeName)) input
  | .update _ typeName _ filter assignments connections =>
      SuitsInput types True (whereInputName typeName) filter ∧
      ∀ node, model.node typeName = .ok node →
        SuitsInput types (Model.isUpdatable node = true) (updateInputName typeName) assignments ∧
        SuitsInput types (model.updatableConnections paged node ≠ [])
          (updateConnectionInputName typeName) connections
  | .typename _ _ => True

/-- A root field that a model answers: it selects what the types of the model have, and is given what
suits their inputs. -/
structure RootField.IsAnswerable (surface : Surface) (paged : Bool) (field : RootField) : Prop where
  fits : field.Fits surface.model paged
  suits : field.Suits surface.model paged surface.types

/-- The value of an argument is one for its input, if it is given where the argument is. -/
theorem suitsInput_of_takes {types : TypeSystem} {arguments : List ArgumentDefinition}
    {values : Entries Value} (others : ∀ name, name ∉ arguments.map ArgumentDefinition.name →
      values.get? name = none)
    (takes : ∀ argument ∈ arguments, argument.Takes types (values.get? argument.name))
    {label name : String} {offered : Prop} (known : offered ∧ ⟨label, namedType name⟩ ∈ arguments ∨
      label ∉ arguments.map ArgumentDefinition.name) :
    SuitsInput types offered name (orEmpty (values.get? label)) := by
  unfold orEmpty
  cases given : values.get? label with
  | none => exact .inl rfl
  | some value =>
      dsimp only
      split
      · next truthy =>
        obtain ⟨there, member⟩ := known.resolve_right fun outside => by
          rw [others label outside] at given
          cases given
        have allows := takes _ member
        rw [given] at allows
        refine .inr ⟨there, allows (Graphql.TypeExpr.wants_of_ne_null ?_)⟩
        rintro rfl
        cases truthy
      · exact .inl rfl

/-- The node type found for a root field has a field of that name, and is found under its own name. -/
theorem latest_of_find? {model : Model} {field : String → String} {name : String}
    {latest : NodeType}
    (found : model.nodes.reverse.find? (fun node => field node.name == name) = some latest) :
    model.node latest.name = .ok latest ∧ field latest.name = name := by
  have named : field latest.name = name :=
    eq_of_beq (List.find?_some (p := fun node : NodeType => field node.name == name) found)
  refine ⟨?_, named⟩
  -- No node type before it has the field, and so none before it has its name.
  obtain ⟨-, before, after, split, others⟩ := List.find?_eq_some_iff_append.mp found
  have first : model.node? latest.name = some latest := by
    unfold Model.node?
    refine List.find?_eq_some_iff_append.mpr ⟨beq_self_eq_true _, before, after, split, ?_⟩
    intro node member
    have apart := others node member
    rw [Bool.not_eq_true', beq_eq_false_iff_ne] at apart ⊢
    exact fun same => apart (by rw [same, named])
  unfold Model.node
  rw [first]

theorem not_of_find?_none {nodes : List NodeType} {field : String → String} {name : String}
    (none_ : nodes.reverse.find? (fun node => field node.name == name) = none) {node : NodeType}
    (member : node ∈ nodes) : field node.name ≠ name := by
  have apart := List.find?_eq_none.mp none_ node (List.mem_reverse.mpr member)
  simpa using apart

section

variable {context : Context} {operation : Graphql.Operation} {paged : Bool} {depth : Nat}
  {type : TypeDefinition} {name : String} {definition : FieldDefinition} {fields : List Selected}
  {node : NodeType} {kind : Graphql.OperationKind} (key : String)
  (readable : IsReadable context operation paged)

section

variable (has : context.surface.types.Has type)
  (group : IsGroup context operation type depth name definition fields)
  (own : type.field? name = some definition) (other : name ≠ typenameName)
  (less : depth ≤ context.depthBound + 1)

include readable has group own other less

/-- A list of nodes is read with what is selected on them. -/
theorem listRoot_fitting (found : context.surface.model.node node.name = .ok node)
    (action : context.surface.action? kind name = some (.list node))
    (field : definition = Model.listField node) :
    Yields context operation (RootField.IsAnswerable context.surface paged)
      (context.rootField kind type key fields) := by
  unfold Context.rootField
  dsimp only
  rw [group.first_name, if_neg other, action]
  refine .bind (readable.fieldArguments has group own) fun values ⟨others, takes⟩ => ?_
  refine .bind (selection_fitting readable found less group own (by rw [field]; rfl))
    fun _ fits => ⟨fits, ?_⟩
  exact suitsInput_of_takes others takes (.inl ⟨trivial, by rw [field]; exact List.mem_cons_self ..⟩)

/-- The lookup of a node is read with what is selected on each type that the node may be of. -/
theorem lookupRoot_fitting (offered : paged = true)
    (action : context.surface.action? kind name = some .lookup)
    (field : definition = Model.lookupField) :
    Yields context operation (RootField.IsAnswerable context.surface paged)
      (context.rootField kind type key fields) := by
  have found := readable.grown.interface_type? offered
  have level := group.level own (by rw [field]; exact found) rfl
  have each : ∀ node ∈ context.surface.model.nodes, Yields context operation
      (fun selection => selection.Fits context.surface.model paged ∧
        context.nodeSelection selection.typeName fields = .ok selection)
      (context.nodeSelection node.name fields) := by
    intro node declared
    obtain ⟨latest, there⟩ := Model.exists_node ⟨node, declared, rfl⟩
    have covering : Covering context (Model.nodeDefinition paged latest) Model.interfaceDefinition :=
      ⟨TypeSystem.has_of_type? found, Model.interface_admits offered latest⟩
    refine (nodeSelection_fitting readable there group.filled fun _ => ?_).attach.weaken ?_
    · exact ⟨_, _, covering, Nat.sub_le_of_le_add less, level⟩
    · rintro selection ⟨⟨named, fits⟩, done⟩
      exact ⟨fits, named ▸ done⟩
  unfold Context.rootField
  dsimp only
  rw [group.first_name, if_neg other, action]
  refine .bind (readable.fieldArguments has group own) fun values ⟨_, takes⟩ => ?_
  have takes := takes ⟨"id", Graphql.requiredType "ID"⟩ (by rw [field]; exact List.mem_cons_self ..)
  dsimp only
  split
  · next missing =>
    rw [missing] at takes
    cases takes
  · refine .bind (.mapM each) fun variants related => ?_
    have fits : ∀ selection ∈ variants, selection.Fits context.surface.model paged ∧
        context.nodeSelection selection.typeName fields = .ok selection := fun selection member =>
      (Outcome.partner_of_mem_others related member).elim fun _ both => both.2
    refine ⟨⟨offered, ?_, fun selection member => (fits selection member).1, ?_⟩, trivial⟩
    · rintro some_ rfl
      exact some_ (List.length_eq_zero_iff.mp related.length_eq)
    · intro first here second there same
      have done := (fits first here).2
      rw [same, (fits second there).2] at done
      exact (Except.ok.inj done).symm

/-- A creation of nodes is read with its inputs and what is selected on the answer. -/
theorem createRoot_fitting (found : context.surface.model.node node.name = .ok node)
    (action : context.surface.action? kind name = some (.create node))
    (field : definition = Model.createField node) :
    Yields context operation (RootField.IsAnswerable context.surface paged)
      (context.rootField kind type key fields) := by
  have response := responseSelection_fitting readable found less (.inl rfl) group own
    (by rw [field]; rfl)
  unfold Context.rootField
  dsimp only
  rw [group.first_name, if_neg other, action]
  refine .bind (readable.fieldArguments has group own) fun values ⟨_, takes⟩ => ?_
  refine .bind response fun response fits => ?_
  have takes := takes ⟨"input", Graphql.requiredList (createInputName node.name)⟩
    (by rw [field]; exact List.mem_cons_self ..)
  cases given : values.get? "input" with
  | none =>
      rw [given] at takes
      cases takes
  | some value =>
      rw [given] at takes
      obtain ⟨items, rfl, each⟩ := takes.of_nonNull.exists_items
      refine .bind_ok (itemsOf_list items) ⟨fits, fun input member => ?_⟩
      exact (each input member).of_nonNull

/-- An update of nodes is read with its inputs and what is selected on the answer. -/
theorem updateRoot_fitting (found : context.surface.model.node node.name = .ok node)
    (action : context.surface.action? kind name = some (.update node))
    (field : definition = context.surface.model.updateField paged node) :
    Yields context operation (RootField.IsAnswerable context.surface paged)
      (context.rootField kind type key fields) := by
  have response := responseSelection_fitting readable found less (.inr rfl) group own
    (by rw [field]; rfl)
  unfold Context.rootField
  dsimp only
  rw [group.first_name, if_neg other, action]
  refine .bind (readable.fieldArguments has group own) fun values ⟨others, takes⟩ => ?_
  rw [field] at others takes
  refine .bind response fun response fits => ⟨fits, ?filter, fun other known => ?inputs⟩
  case filter =>
    exact suitsInput_of_takes others takes (.inl ⟨trivial, List.mem_cons_self ..⟩)
  case inputs =>
    cases found.symm.trans known
    exact ⟨suitsInput_of_takes others takes (Model.updateField_assignments ..),
      suitsInput_of_takes others takes (Model.updateField_connections ..)⟩

end

/-- The name of a root type is read without the database. -/
theorem typenameRoot_fitting
    (group : IsGroup context operation type depth typenameName definition fields) :
    Yields context operation (RootField.IsAnswerable context.surface paged)
      (context.rootField kind type key fields) := by
  unfold Context.rootField
  dsimp only
  rw [group.first_name, if_pos rfl]
  exact ⟨trivial, trivial⟩

/-- What the model does not answer is refused. -/
theorem rootField_refused (first : (Context.firstOf fields).name = name)
    (none_ : context.surface.action? kind name = none)
    (hindered : ¬ IsUnhindered context operation) :
    Yields context operation (RootField.IsAnswerable context.surface paged)
      (context.rootField kind type key fields) := by
  unfold Context.rootField
  dsimp only
  rw [first]
  split
  · exact ⟨trivial, trivial⟩
  · rw [none_]
    exact ⟨.fault _, hindered⟩

include readable

/-- No root field asks about types. -/
theorem action?_asksTypes
    (asks : name = Graphql.schemaField.name ∨ name = Graphql.typeField.name) :
    context.surface.action? .query name = none := by
  have apart : ∀ node ∈ context.surface.model.nodes, Schema.pluralFieldName node.name ≠ name := by
    intro node declared same
    have query : Graphql.isStandardName TypeSystem.queryName = false := by decide +kernel
    have plain := readable.grown.plain Model.IsGrown.root_offers query
      (List.mem_append_left _ (List.mem_map_of_mem declared))
    rw [Model.listField_name, same] at plain
    rcases asks with rfl | rfl <;> exact absurd plain (by decide +kernel)
  have none_ : context.surface.model.nodes.reverse.find? (fun node =>
      Schema.pluralFieldName node.name == name) = none := by
    refine List.find?_eq_none.mpr fun node member => ?_
    simpa using apart node (List.mem_reverse.mp member)
  have other : name ≠ "node" := by
    rcases asks with rfl | rfl <;> decide
  simp only [Surface.action?, none_]
  exact if_neg other

/-- Every field that a query starts from is read. -/
theorem queryField_fitting (less : depth ≤ context.depthBound + 1)
    (group : IsGroup context operation (context.surface.model.queryDefinition paged) depth name
      definition fields) :
    Yields context operation (RootField.IsAnswerable context.surface paged)
      (context.rootField .query (context.surface.model.queryDefinition paged) key fields) := by
  have offers := @Model.IsGrown.root_offers context.surface.model paged
  have has := readable.grown.has_query
  rcases group.own_or with rfl | ⟨other, own⟩ | ⟨-, asks⟩
  · exact typenameRoot_fitting key group
  · have same : definition.name = name := name_of_find? own
    cases found : context.surface.model.nodes.reverse.find? fun node =>
        Schema.pluralFieldName node.name == name with
    | some node =>
        obtain ⟨known, named⟩ := latest_of_find? found
        have listed := readable.grown.field?_eq offers
          (List.mem_append_left _ (List.mem_map_of_mem (Model.node_mem known)))
        rw [Model.listField_name, named] at listed
        have field : definition = Model.listField node := Option.some.inj (own.symm.trans listed)
        refine listRoot_fitting key readable has group own other less known ?_ field
        simp [Surface.action?, found]
    | none =>
        rcases List.mem_append.mp (List.mem_of_find?_eq_some own) with listed | lookup
        · obtain ⟨node, declared, rfl⟩ := List.mem_map.mp listed
          rw [Model.listField_name] at same
          exact absurd same (not_of_find?_none found declared)
        · split at lookup
          · next offered =>
            cases List.mem_singleton.mp lookup
            cases same
            refine lookupRoot_fitting key readable has group own other less offered ?_ rfl
            simp only [Surface.action?, found]
            rfl
          · cases lookup
  · refine rootField_refused key group.first_name (action?_asksTypes readable asks) ?_
    exact fun unhindered =>
      Bool.false_ne_true (unhindered.plain.symm.trans (group.asksTypes asks))

/-- Every field that a mutation starts from is read. -/
theorem mutationField_fitting (some_ : context.surface.model.nodes ≠ [])
    (less : depth ≤ context.depthBound + 1)
    (group : IsGroup context operation (context.surface.model.mutationDefinition paged) depth name
      definition fields) :
    Yields context operation (RootField.IsAnswerable context.surface paged)
      (context.rootField .mutation (context.surface.model.mutationDefinition paged) key fields) := by
  have offers := @Model.IsGrown.mutation_offers context.surface.model paged some_
  have has := readable.grown.has_mutation some_
  have apart : TypeSystem.mutationName ≠ TypeSystem.queryName := by decide
  rcases group.own apart with rfl | ⟨other, own⟩
  · exact typenameRoot_fitting key group
  have same : definition.name = name := name_of_find? own
  cases creates : context.surface.model.nodes.reverse.find? fun node =>
      Schema.createFieldName node.name == name with
  | some node =>
      obtain ⟨known, named⟩ := latest_of_find? creates
      have listed := readable.grown.field?_eq offers
        (List.mem_flatMap.mpr ⟨node, Model.node_mem known, List.mem_cons_self ..⟩)
      rw [Model.createField_name, named] at listed
      refine createRoot_fitting key readable has group own other less known ?_
        (Option.some.inj (own.symm.trans listed))
      simp [Surface.action?, creates]
  | none =>
      cases updates : context.surface.model.nodes.reverse.find? fun node =>
          Schema.updateFieldName node.name == name with
      | some node =>
          obtain ⟨known, named⟩ := latest_of_find? updates
          have listed := readable.grown.field?_eq offers (List.mem_flatMap.mpr
            ⟨node, Model.node_mem known, List.mem_cons_of_mem _ (List.mem_cons_self ..)⟩)
          rw [Model.updateField_name, named] at listed
          refine updateRoot_fitting key readable has group own other less known ?_
            (Option.some.inj (own.symm.trans listed))
          simp [Surface.action?, creates, updates]
      | none =>
          obtain ⟨node, declared, either⟩ :=
            List.mem_flatMap.mp (List.mem_of_find?_eq_some own)
          simp only [List.mem_cons, List.not_mem_nil, or_false] at either
          rcases either with rfl | rfl
          · rw [Model.createField_name] at same
            exact absurd same (not_of_find?_none creates declared)
          · rw [Model.updateField_name] at same
            exact absurd same (not_of_find?_none updates declared)

/-- The selections of an operation make the first level, on the type that it starts from. -/
theorem root_level (has : context.surface.types.Has type)
    (root : context.surface.types.root? operation.kind = some type) :
    Level context operation type (context.document.fieldCount + 1) [operation.selections] := by
  have member := readable.settled.member
  obtain ⟨set, stands⟩ : _ ∈ context.document.sets context.surface.types ∧ _ :=
    Graphql.Stands.of_operation member
  rw [root] at set stands
  constructor
  · exact has
  · exact fun selections only => List.mem_singleton.mp only ▸ set
  · exact fun selections only => List.mem_singleton.mp only ▸ stands
  · intro first here second there
    cases List.mem_singleton.mp here
    cases List.mem_singleton.mp there
    exact fun one oneIn other otherIn same =>
      Graphql.agrees_of_allMerge (readable.settled.lawful.merges _ set) oneIn otherIn same
  · intro selections only
    rw [List.mem_singleton.mp only]
    exact Nat.lt_succ_of_le (Graphql.Document.weigh_operation member)

/-- Every root field of an operation is read, if each group of them is. -/
theorem operation_of_fields {root : TypeDefinition} (kind : root.kind = .object)
    (has : context.surface.types.Has root)
    (found : context.surface.types.root? operation.kind = some root)
    (each : ∀ depth name definition key fields, depth ≤ context.depthBound + 1 →
      IsGroup context operation root depth name definition fields →
        Yields context operation (RootField.IsAnswerable context.surface paged)
          (context.rootField operation.kind root key fields)) :
    Yields context operation
      (fun parsed => ∀ field ∈ parsed.fields, field.IsAnswerable context.surface paged)
      (context.operation operation) := by
  have less : context.document.fieldCount + 1 ≤ context.depthBound + 1 :=
    Nat.le_succ_of_le (Nat.le_mul_of_pos_right _ (Nat.succ_pos _))
  have collects := (((root_level readable has found).collect readable.settled
    readable.grown.isRegular (.refl has) has kind).of_imp IsUnhindered.coerces).allow fun _ =>
      IsReadingFailure.unmet
  unfold Context.operation
  rw [if_neg, found]
  · refine .bind collects fun collected groups => ?_
    refine .bind (.mapM_each fun entry member => ?_) fun answers fits => fits
    obtain ⟨name, definition, group⟩ := groups entry member
    exact each _ name definition entry.1 entry.2 less group
  · intro subscribes
    rw [subscribes] at found
    cases found

/-- Without node types nothing is mutated. -/
theorem mutation_refused (none_ : context.surface.model.nodes = [])
    (mutates : operation.kind = .mutation) :
    Yields context operation
      (fun parsed => ∀ field ∈ parsed.fields, field.IsAnswerable context.surface paged)
      (context.operation operation) := by
  have hindered : ¬ IsUnhindered context operation := fun unhindered => unhindered.some_ none_
  unfold Context.operation
  rw [mutates, if_neg (by decide),
    show context.surface.types.root? .mutation = none from readable.grown.mutation_eq_none none_]
  exact ⟨.fault _, hindered⟩

/-- Whatever is read of a valid operation is answered by the model, and a query or mutation is read.
What is not read is refused with a reason, or lacks an argument or a condition. -/
theorem operation_answerable :
    Brings (IsUnhindered context operation ∧ operation.kind ≠ .subscription)
      (IsReadingFailure context operation)
      (fun parsed => ∀ field ∈ parsed.fields, field.IsAnswerable context.surface paged)
      (context.operation operation) := by
  cases kind : operation.kind with
  | subscription =>
      unfold Context.operation
      rw [if_pos kind]
      exact ⟨.fault _, fun sure => sure.2 rfl⟩
  | query =>
      refine (operation_of_fields readable rfl readable.grown.has_query
        (kind ▸ readable.grown.query_eq) ?_).of_imp And.left
      rw [kind]
      exact fun _ _ _ key _ less group => queryField_fitting key readable less group
  | mutation =>
      by_cases some_ : context.surface.model.nodes = []
      · exact (mutation_refused readable some_ kind).of_imp And.left
      · have offers := @Model.IsGrown.mutation_offers context.surface.model paged some_
        refine (operation_of_fields readable rfl (readable.grown.has_mutation some_)
          (kind ▸ offers.definition?_eq readable.grown.augmented) ?_).of_imp And.left
        rw [kind]
        exact fun _ _ _ key _ less group => mutationField_fitting key readable some_ less group

/-- Whatever is read of a valid operation fits the model, and a query or mutation is read. -/
theorem operation_fitting :
    Brings (IsUnhindered context operation ∧ operation.kind ≠ .subscription)
      (IsReadingFailure context operation)
      (fun parsed => ∀ field ∈ parsed.fields, field.Fits context.surface.model paged)
      (context.operation operation) :=
  (operation_answerable readable).weaken fun _ answerable field member =>
    (answerable field member).fits

end

end GraphGateway.Request
