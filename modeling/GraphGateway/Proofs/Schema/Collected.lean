import GraphGateway.Proofs.Schema.Linked
import GraphGateway.Proofs.Schema.Pairing

/-!
Problems are collected.  A document is read whatever is wrong with its fields, with the one exception
of a relationship that gives a list or an object where the name of its properties belongs.  The rules
are checked whatever a model breaks, unless an earlier one of two node types of a name has a
relationship that the last one lacks: the look-up of its end then fails.
-/
namespace GraphGateway

/-- Whether a value is a list or an object. -/
def Value.hasParts : Value → Bool
  | .list _ => true
  | .object _ => true
  | _ => false

namespace Schema

open Graphql (CompositeDeclaration Directive Document FieldDeclaration directive?)

/-- A field that stops the reading of its document: everything that is read of it before its
properties is in order, and those are a list or an object where a name belongs. -/
inductive StopsReading (field : FieldDeclaration) : Prop
  | relationship {type : TypeReference} {mark : Directive} {label : String} {direction : Direction}
      (typed : TypeReference.ofExpr? field.type = some type)
      (other : field.name ≠ identifierName)
      (marked : directive? field.directives relationshipMark = some mark)
      (labelled : mark.argument "type" = .text label) (named : label ≠ "")
      (directed : directionOf? (mark.argument "direction") = some direction)
      (nested : (mark.argument "properties").hasParts = true)

theorem PropertiesName.ofValue_eq_unreadable_iff (names : DeclaredNames) (value : Value) :
    PropertiesName.ofValue names value = .unreadable ↔ value.hasParts = true := by
  constructor
  · intro unreadable
    unfold PropertiesName.ofValue at unreadable
    split at unreadable
    · cases unreadable
    · split at unreadable <;> cases unreadable
    · rfl
    · rfl
    · cases unreadable
  · intro nested
    cases value with
    | list items => rfl
    | object entries => rfl
    | _ => cases nested

section

variable {names : DeclaredNames} {typeName fieldName : String} {type : TypeReference}

theorem FieldRole.ofRelationship_eq_unreadable_iff {mark : Directive} :
    FieldRole.ofRelationship names typeName fieldName type mark = .unreadable ↔
      ∃ label direction, mark.argument "type" = .text label ∧ label ≠ "" ∧
        directionOf? (mark.argument "direction") = some direction ∧
        (mark.argument "properties").hasParts = true := by
  rw [← PropertiesName.ofValue_eq_unreadable_iff names]
  constructor
  · intro role
    unfold FieldRole.ofRelationship at role
    split at role
    · next label labelled =>
      split at role
      · cases role
      · next named =>
        dsimp only at role
        split at role
        · cases role
        · next direction directed =>
          split at role
          · next _ _ nested =>
            exact ⟨label, direction, labelled, fun empty => named (by simp [empty]), directed,
              nested⟩
          all_goals cases role
    · cases role
  · rintro ⟨label, direction, labelled, named, directed, nested⟩
    have filled : ¬ label.isEmpty = true := fun empty => named (String.isEmpty_iff.mp empty)
    unfold FieldRole.ofRelationship
    simp only [labelled, if_neg filled, directed, nested]

theorem FieldRole.ofLeaf_ne_unreadable :
    FieldRole.ofLeaf names typeName fieldName type ≠ .unreadable := by
  unfold FieldRole.ofLeaf
  split <;> exact nofun

theorem FieldReading.isUnreadable_iff_role {reading : FieldReading} :
    reading.isUnreadable = true ↔ reading.role = .unreadable := by
  unfold FieldReading.isUnreadable
  split
  · next role => exact ⟨fun _ => role, fun _ => rfl⟩
  · next other => exact ⟨nofun, fun role => absurd role other⟩

theorem FieldReading.isUnreadable_iff (field : FieldDeclaration) :
    (FieldReading.ofNodeField names typeName field).isUnreadable = true ↔ StopsReading field := by
  rw [FieldReading.isUnreadable_iff_role]
  constructor
  · intro role
    unfold FieldReading.ofNodeField at role
    split at role
    · cases role
    · next type typed =>
      dsimp only at role
      split at role
      · cases role
      · next other =>
        split at role
        · next mark marked =>
          obtain ⟨label, direction, labelled, named, directed, nested⟩ :=
            FieldRole.ofRelationship_eq_unreadable_iff.mp role
          exact .relationship typed other marked labelled named directed nested
        · split at role
          · cases role
          · exact absurd role FieldRole.ofLeaf_ne_unreadable
  · rintro ⟨typed, other, marked, labelled, named, directed, nested⟩
    unfold FieldReading.ofNodeField
    simp only [typed, if_neg other, marked]
    exact FieldRole.ofRelationship_eq_unreadable_iff.mpr
      ⟨_, _, labelled, named, directed, nested⟩

end

namespace Model

variable {model : Model}

/-- The field of an end is found in the last node type of its name. -/
def Resolves (model : Model) (first : End) : Prop :=
  ∃ relationship, model.relationship first.typeName first.fieldName = .ok relationship

/-- Of several node types of one name the last has a relationship of every name that one of them
has. -/
def IsCovered (model : Model) : Prop :=
  ∀ node ∈ model.nodes, ∀ relationship ∈ node.relationships, ∀ last,
    model.node? node.name = some last → relationship.name ∈ last.relationships.map Relationship.name

/-- The look-up of a field in a node type that is there. -/
theorem relationship_of_node? {typeName fieldName : String} {node : NodeType}
    (found : model.node? typeName = some node) :
    model.relationship typeName fieldName =
      match node.relationship? fieldName with
      | some relationship => .ok relationship
      | none => .error (.unknownRelationship typeName fieldName) := by
  unfold Model.relationship Model.node
  rw [found]
  dsimp only [bind, Except.bind]
  cases node.relationship? fieldName <;> rfl

theorem node?_of_mem {node : NodeType} (member : node ∈ model.nodes) :
    ∃ last, model.node? node.name = some last := by
  refine Option.isSome_iff_exists.mp (List.find?_isSome.mpr ⟨node, List.mem_reverse.mpr member, ?_⟩)
  exact beq_self_eq_true node.name

theorem relationship?_of_mem {node : NodeType} {name : String}
    (member : name ∈ node.relationships.map Relationship.name) :
    ∃ relationship, node.relationship? name = some relationship := by
  obtain ⟨relationship, inside, rfl⟩ := List.mem_map.mp member
  exact Option.isSome_iff_exists.mp
    (List.find?_isSome.mpr ⟨relationship, inside, beq_self_eq_true relationship.name⟩)

theorem resolves_iff {node last : NodeType} {name : String}
    (found : model.node? node.name = some last) :
    model.Resolves ⟨node.name, name⟩ ↔ name ∈ last.relationships.map Relationship.name := by
  unfold Resolves
  rw [relationship_of_node? found]
  constructor
  · rintro ⟨relationship, known⟩
    split at known
    · next candidate inside =>
      have named : candidate.name = name := name_of_find? inside
      exact List.mem_map.mpr ⟨candidate, List.mem_of_find?_eq_some inside, named⟩
    · cases known
  · intro member
    obtain ⟨relationship, inside⟩ := relationship?_of_mem member
    rw [inside]
    exact ⟨relationship, rfl⟩

/-- All ends are found exactly if the last node type of each name covers the others. -/
theorem isCovered_iff : model.IsCovered ↔ ∀ first ∈ model.ends, model.Resolves first := by
  constructor
  · intro covered first member
    obtain ⟨node, declared, relationship, inside, rfl⟩ := mem_ends.mp member
    obtain ⟨last, found⟩ := node?_of_mem declared
    exact (resolves_iff found).mpr (covered node declared relationship inside last found)
  · intro resolves node declared relationship inside last found
    exact (resolves_iff found).mp
      (resolves _ (mem_ends.mpr ⟨node, declared, relationship, inside, rfl⟩))

/-- An end that is not found lacks its field. -/
theorem fault_of_mem_ends {first : End} (member : first ∈ model.ends) {fault : LookupFault}
    (failed : model.relationship first.typeName first.fieldName = .error fault) :
    fault = .unknownRelationship first.typeName first.fieldName := by
  obtain ⟨node, declared, relationship, inside, rfl⟩ := mem_ends.mp member
  obtain ⟨last, found⟩ := node?_of_mem declared
  rw [relationship_of_node? found] at failed
  split at failed
  · cases failed
  · cases failed
    rfl

/-- An end is looked for in vain exactly if its own field is. -/
theorem paired_error_iff {first : End} {fault : LookupFault} :
    model.paired first = .error fault ↔
      model.relationship first.typeName first.fieldName = .error fault := by
  unfold paired
  rw [Outcome.bind_error_iff]
  constructor
  · rintro (failed | ⟨relationship, -, failed⟩)
    · exact failed
    · split at failed <;> cases failed
  · exact .inl

/-- An end whose other end is looked for is found itself. -/
theorem resolves_of_paired_ok {first : End} {partner : Option End}
    (paired : model.paired first = .ok partner) : model.Resolves first := by
  obtain ⟨relationship, known, -⟩ := Outcome.bind_ok_iff.mp paired
  exact ⟨relationship, known⟩

/-- The other end of a pair is found. -/
theorem resolves_of_paired {first other : End} (paired : model.paired first = .ok (some other)) :
    model.Resolves other := by
  obtain ⟨relationship, -, partner⟩ := Outcome.bind_ok_iff.mp paired
  split at partner
  · cases partner
  · next related found =>
    obtain ⟨candidate, chosen, rfl⟩ := Option.map_eq_some_iff.mp (Except.ok.inj partner)
    have name : related.name = relationship.relatedType := name_of_find? found
    rw [← name] at found
    exact (resolves_iff found).mpr (List.mem_map_of_mem (List.mem_of_find?_eq_some chosen))

/-- Whatever is paired is found, and so is every item that the pairing came by. -/
theorem resolves_of_pairsFrom {seen items : List End} {pairs : List (End × End)}
    (known : ∀ first ∈ seen, model.Resolves first) (ran : model.pairsFrom seen items = .ok pairs) :
    (∀ first ∈ items, model.Resolves first) ∧
      ∀ pair ∈ pairs, model.Resolves pair.1 ∧ model.Resolves pair.2 := by
  induction items generalizing seen pairs with
  | nil =>
      cases ran
      exact ⟨List.forall_mem_nil _, List.forall_mem_nil _⟩
  | cons first rest ih =>
      rcases pairsFrom_cons_iff.mp ran with ⟨passed, later⟩ | ⟨-, other, more, partner, later, rfl⟩
      · obtain ⟨others, ends⟩ := ih known later
        have here : model.Resolves first := passed.elim (known first) resolves_of_paired_ok
        exact ⟨List.forall_mem_cons.mpr ⟨here, others⟩, ends⟩
      · have here := resolves_of_paired_ok partner
        have there := resolves_of_paired partner
        have met : ∀ one ∈ other :: first :: seen, model.Resolves one :=
          List.forall_mem_cons.mpr ⟨there, List.forall_mem_cons.mpr ⟨here, known⟩⟩
        obtain ⟨others, ends⟩ := ih met later
        exact ⟨List.forall_mem_cons.mpr ⟨here, others⟩,
          List.forall_mem_cons.mpr ⟨⟨here, there⟩, ends⟩⟩

/-- The pairing fails only at an item that is looked for in vain. -/
theorem pairsFrom_only (seen items : List End) :
    Outcome.Only (fun fault => ∃ first ∈ items,
      model.relationship first.typeName first.fieldName = .error fault)
      (model.pairsFrom seen items) := by
  induction items generalizing seen with
  | nil => exact .ok _
  | cons first rest ih =>
      have later (met : List End) : Outcome.Only (fun fault => ∃ one ∈ first :: rest,
          model.relationship one.typeName one.fieldName = .error fault)
          (model.pairsFrom met rest) :=
        (ih met).weaken fun _ ⟨one, member, failed⟩ =>
          ⟨one, List.mem_cons_of_mem first member, failed⟩
      unfold pairsFrom
      split
      · exact later _
      · split
        · next failed => exact .error ⟨first, List.mem_cons_self .., paired_error_iff.mp failed⟩
        · exact later _
        · exact (later _).map _

/-- The shapes of two ends that are found can be compared. -/
theorem pairProblems_ok {pair : End × End} (first : model.Resolves pair.1)
    (second : model.Resolves pair.2) : ∃ problems, model.pairProblems pair = .ok problems := by
  obtain ⟨relationship, found⟩ := first
  obtain ⟨other, foundToo⟩ := second
  unfold pairProblems
  rw [found, foundToo]
  exact ⟨_, rfl⟩

theorem mapM_pairProblems_ok {pairs : List (End × End)}
    (found : ∀ pair ∈ pairs, model.Resolves pair.1 ∧ model.Resolves pair.2) :
    ∃ problems, pairs.mapM model.pairProblems = .ok problems := by
  induction pairs with
  | nil => exact ⟨[], rfl⟩
  | cons pair rest ih =>
      obtain ⟨⟨first, second⟩, others⟩ := List.forall_mem_cons.mp found
      obtain ⟨here, done⟩ := pairProblems_ok first second
      obtain ⟨later, finished⟩ := ih others
      rw [List.mapM_cons, done, finished]
      exact ⟨here :: later, rfl⟩

/-- Once the pairs are there, so are their problems. -/
theorem violations_ok_of_pairs {pairs : List (End × End)}
    (ran : model.relationshipPairs = .ok pairs) :
    ∃ problems, model.violations = .ok problems := by
  have found := (resolves_of_pairsFrom (List.forall_mem_nil _) ran).2
  obtain ⟨mismatches, compared⟩ := mapM_pairProblems_ok found
  unfold violations
  rw [ran]
  dsimp only [bind, Except.bind]
  rw [compared]
  exact ⟨_, rfl⟩

/-- A check that fails misses a declared field in the last node type of its name. -/
theorem violations_only (model : Model) :
    Outcome.Only (fun fault => ∃ node ∈ model.nodes, ∃ relationship ∈ node.relationships,
      fault = .unknownRelationship node.name relationship.name ∧ ¬ model.IsCovered)
      model.violations := by
  intro fault failed
  rcases paired : model.relationshipPairs with missing | pairs
  · have same : fault = missing := by
      unfold violations at failed
      rw [paired] at failed
      cases failed
      rfl
    obtain ⟨first, member, absent⟩ := pairsFrom_only [] model.ends missing paired
    have named := fault_of_mem_ends member absent
    obtain ⟨node, declared, relationship, inside, rfl⟩ := mem_ends.mp member
    refine ⟨node, declared, relationship, inside, same.trans named, fun covered => ?_⟩
    obtain ⟨found, known⟩ := isCovered_iff.mp covered _ member
    rw [absent] at known
    cases known
  · obtain ⟨problems, ran⟩ := violations_ok_of_pairs paired
    rw [ran] at failed
    cases failed

/-- The rules are checked exactly if the last node type of each name covers the others. -/
theorem violations_ok_iff : (∃ problems, model.violations = .ok problems) ↔ model.IsCovered := by
  constructor
  · rintro ⟨problems, ran⟩
    obtain ⟨pairs, paired, -⟩ := Outcome.bind_ok_iff.mp ran
    exact isCovered_iff.mpr (resolves_of_pairsFrom (List.forall_mem_nil _) paired).1
  · intro covered
    rcases checked : model.violations with fault | problems
    · obtain ⟨-, -, -, -, -, uncovered⟩ := violations_only model fault checked
      exact absurd covered uncovered
    · exact ⟨problems, rfl⟩

/-- Node types of different names cover each other. -/
theorem isCovered_of_nodup (different : (model.nodes.map NodeType.name).Nodup) :
    model.IsCovered := by
  intro node declared relationship inside last found
  have same : last = node := by
    have named : last.name = node.name := name_of_find? found
    exact List.inj_on_of_nodup_map different
      (List.mem_reverse.mp (List.mem_of_find?_eq_some found)) declared named
  exact same ▸ List.mem_map_of_mem inside

end Model

namespace Declared

/-- The reading of a document stops at a field of one of its object types, or it answers. -/
theorem ofDocument?_isSome_iff (document : Document) :
    (∃ declared, ofDocument? document = some declared) ↔
      ∀ declaration ∈ objects document, ∀ field ∈ declaration.fields, ¬ StopsReading field := by
  have stops : (((objects document).map fun declaration => (declaration.name,
        declaration.fields.map (FieldReading.ofNodeField (names document)
          declaration.name))).any fun entry => entry.2.any FieldReading.isUnreadable) = true ↔
      ∃ declaration ∈ objects document, ∃ field ∈ declaration.fields, StopsReading field := by
    simp only [List.any_map, List.any_eq_true, Function.comp_apply, FieldReading.isUnreadable_iff]
  unfold ofDocument?
  dsimp only
  split
  · next unreadable =>
    obtain ⟨declaration, declared, field, inside, stop⟩ := stops.mp unreadable
    exact ⟨nofun, fun clear => absurd stop (clear declaration declared field inside)⟩
  · next readable =>
    refine ⟨fun _ declaration declared field inside stop => ?_, fun _ => ⟨_, rfl⟩⟩
    exact readable (stops.mpr ⟨declaration, declared, field, inside, stop⟩)

theorem isCovered_of_nodup {document : Document} {declared : Declared}
    (read : ofDocument? document = some declared)
    (different : ((objects document).map CompositeDeclaration.name).Nodup) :
    declared.model.IsCovered := by
  refine Model.isCovered_of_nodup ?_
  rw [nodes_eq read, List.map_map]
  exact different

/-- The problems of a document are collected unless a relationship gives a list or an object for its
properties; those of its model are, unless of two node types of a name the last lacks a relationship
of the other, which a failing check names.  Node types of different names have all their problems
collected. -/
theorem problems_collected_iff (document : Document) :
    ((∃ declared, ofDocument? document = some declared) ↔
      ∀ declaration ∈ objects document, ∀ field ∈ declaration.fields, ¬ StopsReading field) ∧
    ∀ declared, ofDocument? document = some declared →
      ((∃ problems, declared.model.violations = .ok problems) ↔ declared.model.IsCovered) ∧
      Outcome.Only (fun fault => ∃ node ∈ declared.model.nodes,
        ∃ relationship ∈ node.relationships,
          fault = .unknownRelationship node.name relationship.name) declared.model.violations ∧
      (((objects document).map CompositeDeclaration.name).Nodup →
        declared.model.IsCovered) := by
  refine ⟨ofDocument?_isSome_iff document, fun declared read => ?_⟩
  refine ⟨Model.violations_ok_iff, ?_, isCovered_of_nodup read⟩
  refine (Model.violations_only declared.model).weaken ?_
  rintro fault ⟨node, known, relationship, inside, same, -⟩
  exact ⟨node, known, relationship, inside, same⟩

/-- A relationship whose properties are a number, which is a problem that is collected. -/
def numberedText : String :=
  "type Film \x7b sequel: Film @relationship(type: \"NEXT\", direction: OUT, properties: 5) \x7d"

theorem problems_collected_iff_numbered :
    ∃ document declared, Document.ofText numberedText = .ok document ∧
      ofDocument? document = some declared ∧ declared.problems ≠ [] ∧
      ∃ problems, declared.model.violations = .ok problems := by
  have told : (Document.ofText numberedText).toOption.any (fun document =>
      Graphql.distinct ((objects document).map CompositeDeclaration.name) &&
        (ofDocument? document).any fun declared => !declared.problems.isEmpty) = true := by
    decide +kernel
  obtain ⟨document, parsed, told⟩ := (Option.any_eq_true _ _).mp told
  obtain ⟨different, told⟩ := Bool.and_eq_true_iff.mp told
  obtain ⟨declared, read, told⟩ := (Option.any_eq_true _ _).mp told
  obtain ⟨collected, -, covered⟩ := (problems_collected_iff document).2 declared read
  refine ⟨document, declared, Outcome.toOption_eq_some_iff.mp parsed, read, ?_, ?_⟩
  · intro none_
    rw [none_] at told
    cases told
  · exact collected.mpr (covered ((distinct_iff _).mp different))

/-- A relationship whose properties are a list, be it empty. -/
def listedText : String :=
  "type Film \x7b sequel: Film @relationship(type: \"NEXT\", direction: OUT, properties: []) \x7d"

/-- A node type whose relationship its twin lacks. -/
def twinText : String :=
  "type Film \x7b sequel: Film @relationship(type: \"NEXT\", direction: OUT) \x7d " ++
    "type Film \x7b title: String \x7d"

/-- Documents are not all read, and models not all checked: of the first text nothing is read, and a
look-up fails in the model of the second. -/
theorem exists_uncollected :
    (∃ document, Document.ofText listedText = .ok document ∧ ofDocument? document = none) ∧
      ∃ document, Document.ofText twinText = .ok document ∧
        ∃ declared, ofDocument? document = some declared ∧
          declared.model.violations = .error (.unknownRelationship "Film" "sequel") := by
  constructor
  · have unread : (Document.ofText listedText).toOption.any (fun document =>
        (ofDocument? document).isNone) = true := by
      decide +kernel
    obtain ⟨document, parsed, none_⟩ := (Option.any_eq_true _ _).mp unread
    exact ⟨document, Outcome.toOption_eq_some_iff.mp parsed, Option.isNone_iff_eq_none.mp none_⟩
  · have failing : (Document.ofText twinText).toOption.any (fun document =>
        (ofDocument? document).any fun declared =>
          match declared.model.violations with
          | .error fault => fault = .unknownRelationship "Film" "sequel"
          | .ok _ => false) = true := by
      decide +kernel
    obtain ⟨document, parsed, failing⟩ := (Option.any_eq_true _ _).mp failing
    obtain ⟨declared, read, failing⟩ := (Option.any_eq_true _ _).mp failing
    refine ⟨document, Outcome.toOption_eq_some_iff.mp parsed, declared, read, ?_⟩
    split at failing
    · next failed => rw [failed, of_decide_eq_true failing]
    · cases failing

end Declared

end Schema

end GraphGateway
