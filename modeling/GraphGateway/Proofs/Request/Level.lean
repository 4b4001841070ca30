import GraphGateway.Proofs.Graphql.Checked
import GraphGateway.Proofs.Request.Collecting

/-!
Levels of a request.  The fields that are read together stand in selection sets on one type, which
agree wherever they use one key.  Collecting them succeeds, and under each key are selections of one
field of the type at hand, with good arguments; what they select is the next level.
-/
namespace GraphGateway.Graphql

namespace TypeSystem

variable {system : TypeSystem}

theorem type?_name {name : String} {type : TypeDefinition}
    (found : system.type? name = some type) : type.name = name := by
  unfold type? at found
  split at found
  · exact eq_of_beq (List.find?_some (p := (TypeDefinition.name · == name)) found)
  · exact eq_of_beq (List.find?_some (p := (TypeDefinition.name · == name)) found)

theorem composite?_eq_some {name : String} {type : TypeDefinition}
    (found : system.composite? name = some type) :
    system.type? name = some type ∧ type.kind.isComposite = true :=
  Option.filter_eq_some_iff.mp found

/-- A type that is found under its own name. -/
def Has (system : TypeSystem) (type : TypeDefinition) : Prop :=
  system.type? type.name = some type

theorem has_of_type? {name : String} {type : TypeDefinition}
    (found : system.type? name = some type) : system.Has type := by
  rw [Has, type?_name found, found]

/-- A type system whose types keep what requests rely on. -/
structure IsRegular (system : TypeSystem) : Prop where
  arguments : ∀ type, system.Has type → ∀ field ∈ type.fields,
    (field.arguments.map ArgumentDefinition.name).Nodup
  plain : ∀ type, system.Has type → ∀ field ∈ type.fields, isReservedName field.name = false
  admits : ∀ parent object, system.Has parent → system.Has object → object.kind = .object →
    TypeSystem.admits parent object = true → ∀ name definition,
      parent.selectable? name = some definition → object.selectable? name = some definition

theorem selectable?_of_plain {type : TypeDefinition} {name : String}
    (plain : isReservedName name = false) : type.selectable? name = type.field? name := by
  have apart : ∀ other, isReservedName other = true → name ≠ other := by
    rintro other reserved rfl
    rw [plain] at reserved
    cases reserved
  unfold TypeDefinition.selectable?
  rw [if_neg (apart _ (by decide)), if_neg, if_neg]
  · simp [apart typeField.name (by decide)]
  · simp [apart schemaField.name (by decide)]

/-- Only queries select the fields about types. -/
theorem selectable?_of_not_query {type : TypeDefinition} (other : type.name ≠ queryName)
    (name : String) : type.selectable? name =
      if name = typenameName then some typenameField else type.field? name := by
  unfold TypeDefinition.selectable?
  simp [other]

end TypeSystem

section

variable {system : TypeSystem} {document : Document} {fuel : Nat} {one other : KeyedField}

/-- Fields that can be merged are of one name, unless they are apart. -/
theorem canMerge_name (merge : canMerge system document fuel false one other = true)
    (beside : areApart one.parent other.parent = false) : one.name = other.name := by
  cases fuel with
  | zero => cases merge
  | succ fuel =>
      unfold canMerge at merge
      rw [beside] at merge
      obtain ⟨same, -⟩ := Bool.and_eq_true_iff.mp (Bool.and_eq_true_iff.mp merge).1
      exact eq_of_beq (Bool.and_eq_true_iff.mp same).1

theorem fields_of_isEmpty {set : TypedSelections} (empty : set.selections.isEmpty = true) :
    set.fields system document = [] := by
  obtain ⟨parent, selections⟩ := set
  cases selections with
  | nil => rfl
  | cons first rest => cases empty

/-- What is selected in fields that can be merged can be merged. -/
theorem canMerge_inner (merge : canMerge system document fuel false one other = true)
    (beside : areApart one.parent other.parent = false) {first second : KeyedField}
    (member : first ∈ (one.inner system).fields system document)
    (among : second ∈ (other.inner system).fields system document)
    (same : first.key = second.key) :
    ∃ fuel, canMerge system document fuel false first second = true := by
  cases fuel with
  | zero => cases merge
  | succ fuel =>
      unfold canMerge at merge
      rw [beside] at merge
      rcases Bool.or_eq_true_iff.mp (Bool.and_eq_true_iff.mp merge).2 with empty | each
      · rcases Bool.or_eq_true_iff.mp empty with here | there
        · rw [fields_of_isEmpty here] at member
          cases member
        · rw [fields_of_isEmpty there] at among
          cases among
      · have told := List.all_eq_true.mp (List.all_eq_true.mp each first member) second among
        exact ⟨fuel, by simpa [same] using told⟩

end

variable {system : TypeSystem} {document : Document}

theorem KeyedField.Agrees.name {one other : KeyedField}
    (agrees : one.Agrees system document other) (beside : areApart one.parent other.parent = false)
    (besides : areApart other.parent one.parent = false) : one.name = other.name := by
  rcases agrees with rfl | ⟨fuel, merge | merge⟩
  · rfl
  · exact canMerge_name merge beside
  · exact (canMerge_name merge besides).symm

/-- What is selected in fields that agree agrees, where the fields of one selection set do. -/
theorem KeyedField.Agrees.inner {one other : KeyedField}
    (agrees : one.Agrees system document other) (beside : areApart one.parent other.parent = false)
    (besides : areApart other.parent one.parent = false)
    (merges : allMerge system document (document.fieldCount + 1)
      ((one.inner system).fields system document) = true) {first second : KeyedField}
    (member : first ∈ (one.inner system).fields system document)
    (among : second ∈ (other.inner system).fields system document)
    (same : first.key = second.key) : first.Agrees system document second := by
  rcases agrees with rfl | ⟨fuel, merge | merge⟩
  · exact agrees_of_allMerge merges member among same
  · obtain ⟨less, done⟩ := canMerge_inner merge beside member among same
    exact .inr ⟨less, .inl done⟩
  · obtain ⟨less, done⟩ := canMerge_inner merge besides among member same.symm
    exact .inr ⟨less, .inr done⟩

section

variable {fields : List KeyedField} {names : List String} {parent : Option TypeDefinition}
  {selections : List Selection}

theorem Covers.of_inline {condition : Option String} {directives : List Directive}
    (covers : Covers system document fields names parent
      [.inline condition directives selections]) :
    Covers system document fields names (system.narrowed parent condition) selections := by
  have same : Selection.keyedOf system parent [.inline condition directives selections] =
      Selection.keyedOf system (system.narrowed parent condition) selections := by
    simp [Selection.keyedOf, Selection.keyed]
  constructor
  · rw [← same]
    exact covers.fields
  · rw [← same]
    exact covers.names

/-- Selections whose fields are known are known one by one. -/
theorem Covers.of_mem
    (covers : Covers system document fields names parent selections) {selection : Selection}
    (member : selection ∈ selections) :
    Covers system document fields names parent [selection] := by
  have part : ∀ selections : List Selection, selection ∈ selections →
      (∀ field ∈ (selection.keyed system parent).1,
        field ∈ (Selection.keyedOf system parent selections).1) ∧
      ∀ name ∈ (selection.keyed system parent).2,
        name ∈ (Selection.keyedOf system parent selections).2 := by
    intro selections member
    induction selections with
    | nil => cases member
    | cons first rest ih =>
        rw [Selection.keyedOf]
        rcases List.mem_cons.mp member with rfl | later
        · exact ⟨fun _ => List.mem_append_left _, fun _ => List.mem_append_left _⟩
        · obtain ⟨fields, names⟩ := ih later
          exact ⟨fun _ inside => List.mem_append_right _ (fields _ inside),
            fun _ inside => List.mem_append_right _ (names _ inside)⟩
  obtain ⟨fieldsIn, namesIn⟩ := part selections member
  have single : Selection.keyedOf system parent [selection] = selection.keyed system parent := by
    simp [Selection.keyedOf]
  constructor
  · intro field inside
    rw [single] at inside
    exact covers.fields field (fieldsIn field inside)
  · intro name inside
    rw [single] at inside
    exact covers.names name (namesIn name inside)

end

end GraphGateway.Graphql

namespace GraphGateway.Request

open Graphql (Covers Document FieldDefinition IsSettled KeyedField Stands TypeDefinition
  TypeSystem TypedSelections)
open Outcome (Brings Only)

/-- Selection sets on one type that are read together, and a bound for how deep fields nest in them.
-/
structure Level (context : Context) (operation : Graphql.Operation) (parent : TypeDefinition)
    (depth : Nat) (sets : List (List Graphql.Selection)) : Prop where
  has : context.surface.types.Has parent
  member : ∀ set ∈ sets, ⟨some parent, set⟩ ∈ context.document.sets context.surface.types
  stands : ∀ set ∈ sets, ∀ selection ∈ set,
    Stands context.surface.types context.document operation (some parent) selection
  agree : ∀ first ∈ sets, ∀ second ∈ sets,
    ∀ one ∈ (TypedSelections.mk (some parent) first).fields context.surface.types context.document,
    ∀ other ∈ (TypedSelections.mk (some parent) second).fields context.surface.types
        context.document,
      one.key = other.key → one.Agrees context.surface.types context.document other
  shallow : ∀ set ∈ sets, context.document.weigh set < depth

/-- Selections under one key: all of one field of a type. -/
structure IsGroup (context : Context) (operation : Graphql.Operation) (type : TypeDefinition)
    (depth : Nat) (name : String) (definition : FieldDefinition) (fields : List Selected) :
    Prop where
  filled : fields ≠ []
  nests : 1 < depth
  named : ∀ field ∈ fields, field.name = name
  places : ∀ field ∈ fields, ∃ parent directives isNested,
    .field parent (some definition) name field.arguments directives isNested ∈
      operation.places context.surface.types context.document
  selectable : type.selectable? name = some definition
  inner : ∀ parent, type.field? name = some definition →
    context.surface.types.composite? definition.type.core = some parent →
      Level context operation parent (depth - 1) (fields.map Selected.selections)

/-- A failure over an argument or a condition of an operation that has no value. -/
def IsUnmet (context : Context) (operation : Graphql.Operation) (failure : Failure) : Prop :=
  failure = .argument ∧
    operation.coerces context.surface.types context.document context.bindings = false

/-- A type whose values may be of an object type. -/
structure Covering (context : Context) (type parent : TypeDefinition) : Prop where
  has : context.surface.types.Has parent
  admits : TypeSystem.admits parent type = true

/-- The fields of a selection set on a type. -/
def Context.fieldsOf (context : Context) (parent : TypeDefinition)
    (set : List Graphql.Selection) : List KeyedField :=
  (TypedSelections.mk (some parent) set).fields context.surface.types context.document

/-- A selection that is passed on the way to what is read of a selection set. -/
structure IsPassed (context : Context) (operation : Graphql.Operation) (type : TypeDefinition)
    (depth : Nat) (fields : List KeyedField) (names : List String) (place : TypeDefinition)
    (selection : Graphql.Selection) : Prop where
  covering : Covering context type place
  stands : Stands context.surface.types context.document operation (some place) selection
  covers : Covers context.surface.types context.document fields names (some place) [selection]
  closed : ∀ name ∈ names, ∃ fragment, context.document.fragment? name = some fragment ∧
    Covers context.surface.types context.document fields names
      (context.surface.types.composite? fragment.condition) fragment.selections
  shallow : context.document.weigh [selection] < depth

/-- A field that is collected under a key. -/
structure IsTaken (context : Context) (operation : Graphql.Operation) (type : TypeDefinition)
    (depth : Nat) (fields : List KeyedField) (place : TypeDefinition) (key : String)
    (field : Selected) : Prop where
  covering : Covering context type place
  stands : ∃ label directives,
    Stands context.surface.types context.document operation (some place)
      (.field label field.name field.arguments directives field.selections)
  keyed : ⟨some place, key, field.name, field.arguments,
    Graphql.comparedType (some place) field.name, field.selections⟩ ∈ fields
  shallow : context.document.weigh field.selections + 1 < depth

section

variable {context : Context} {operation : Graphql.Operation} {parent type : TypeDefinition}
  {depth : Nat} {sets : List (List Graphql.Selection)}

theorem IsUnmet.of_missing {site : Graphql.Site}
    (place : site ∈ operation.places context.surface.types context.document)
    {given : Graphql.Arguments} {definitions : List Graphql.ArgumentDefinition}
    (member : (given, some definitions) ∈ site.argumentSets)
    (missing : Graphql.argumentValues? context.surface.types context.bindings definitions given =
      none) : IsUnmet context operation .argument := by
  refine ⟨rfl, Bool.eq_false_iff.mpr fun coerces => ?_⟩
  obtain ⟨values, done⟩ := Graphql.Operation.exists_values coerces place member
  cases missing.symm.trans done

theorem Covering.eq_of_object {place : TypeDefinition} (covering : Covering context type place)
    (has : context.surface.types.Has type) (kind : place.kind = .object) : place = type := by
  have admits := covering.admits
  unfold TypeSystem.admits at admits
  rw [kind] at admits
  have same : place.name = type.name := by simpa using admits
  have found := covering.has
  rw [TypeSystem.Has, same] at found
  exact Option.some.inj (found.symm.trans has)

/-- Two types whose values may be of one object type are not apart. -/
theorem Covering.areApart {first second : TypeDefinition} (one : Covering context type first)
    (other : Covering context type second) (has : context.surface.types.Has type) :
    Graphql.areApart (some first) (some second) = false := by
  unfold Graphql.areApart
  by_cases kind : first.kind = .object
  · by_cases kinds : second.kind = .object
    · rw [one.eq_of_object has kind, other.eq_of_object has kinds]
      simp
    · simp [kinds]
  · simp [kind]

/-- Where a condition applies, what it narrows to covers the type. -/
theorem Covering.narrowed {place : TypeDefinition} (covering : Covering context type place)
    (has : context.surface.types.Has type) (kind : type.kind = .object) {condition : Option String}
    (applies : context.applies type condition = true) :
    ∃ next, context.surface.types.narrowed (some place) condition = some next ∧
      Covering context type next := by
  cases condition with
  | none => exact ⟨place, rfl, covering⟩
  | some name =>
      unfold Context.applies at applies
      dsimp only at applies
      split at applies
      · next wanted found =>
        have known := TypeSystem.has_of_type? found
        refine ⟨wanted, Option.filter_eq_some_iff.mpr ⟨found, ?_⟩, known, applies⟩
        rcases Bool.or_eq_true_iff.mp applies with same | interface
        · rw [TypeSystem.Has, eq_of_beq same] at known
          cases known.symm.trans has
          rw [kind]
          rfl
        · rw [eq_of_beq (Bool.and_eq_true_iff.mp interface).1]
          rfl
      · cases applies

/-- The condition that a directive gives has a value, unless some argument has none. -/
theorem flag?_only {place : TypeDefinition} {selection : Graphql.Selection}
    (stands : Stands context.surface.types context.document operation (some place) selection)
    (name : String) :
    Only (IsUnmet context operation)
      (context.flag? (directivesOf selection) name) := by
  unfold Context.flag?
  cases found : Graphql.directive? (directivesOf selection) name with
  | none => exact .ok none
  | some directive =>
      have member : directive ∈ directivesOf selection := List.mem_of_find?_eq_some found
      obtain ⟨site, place, same⟩ : ∃ site ∈ operation.places context.surface.types context.document,
          site.directives = directivesOf selection := by
        cases selection with
        | field label name arguments directives selections =>
            exact ⟨_, stands.sites _ (List.mem_cons_self ..), rfl⟩
        | spread fragment directives =>
            exact ⟨_, stands.sites _ (List.mem_cons_self ..), rfl⟩
        | inline condition directives selections =>
            exact ⟨_, stands.sites _ (List.mem_cons_self ..), rfl⟩
      rw [← same] at member
      dsimp only
      split
      · exact .ok _
      · next missing =>
        exact .error (.of_missing place
          (List.mem_append_right _ (List.mem_map_of_mem member)) missing)

theorem isIncluded_only {place : TypeDefinition} {selection : Graphql.Selection}
    (stands : Stands context.surface.types context.document operation (some place) selection) :
    Only (IsUnmet context operation)
      (context.isIncluded (directivesOf selection)) := by
  unfold Context.isIncluded
  refine .bind (flag?_only stands "skip") fun skip _ => ?_
  split
  · exact .ok false
  · refine .bind (flag?_only stands "include") fun keep _ => ?_
    split
    · exact .ok false
    · exact .ok true

/-- What is passed on the way and what is taken keep to the level. -/
theorem keeps_level (operation : Graphql.Operation) (has : context.surface.types.Has type)
    (kind : type.kind = .object) (acyclic : context.document.IsAcyclic) (parent : TypeDefinition)
    (depth : Nat) (sets : List (List Graphql.Selection)) :
    context.Keeps type
      (fun selection => ∃ set ∈ sets, ∃ names place, IsPassed context operation type depth
        (context.fieldsOf parent set) names place selection)
      (fun collected => ∀ entry ∈ collected.fields, entry.2 ≠ [] ∧ ∀ field ∈ entry.2,
        ∃ set ∈ sets, ∃ place, IsTaken context operation type depth
          (context.fieldsOf parent set) place entry.1 field) := by
  constructor
  · exact fun _ none_ => absurd none_ List.not_mem_nil
  · rintro key name arguments directives selections collected ⟨set, member, names, place, passed⟩
      old entry inside
    have new : IsTaken context operation type depth (context.fieldsOf parent set) place
        (key.getD name) ⟨name, arguments, selections⟩ := by
      refine ⟨passed.covering, ⟨key, directives, passed.stands⟩, ?_, ?_⟩
      · exact passed.covers.fields _ (List.mem_cons_self ..)
      · have shallow := passed.shallow
        rwa [Document.weigh_field] at shallow
    rcases Collected.of_mem_add inside with before | ⟨named, filled, all⟩
    · exact old entry before
    · refine ⟨filled, fun field among => ?_⟩
      rw [named]
      rcases all field among with rfl | ⟨fields, before, older⟩
      · exact ⟨set, member, place, new⟩
      · exact (old _ before).2 field older
  · exact fun _ _ old => old
  · rintro condition directives selections ⟨set, member, names, place, passed⟩ applies selection
      inside
    obtain ⟨next, narrowed, covering⟩ := passed.covering.narrowed has kind applies
    refine ⟨set, member, names, next, covering, ?_, ?_, passed.closed, ?_⟩
    · rw [← narrowed]
      exact passed.stands.inline selection inside
    · rw [← narrowed]
      exact passed.covers.of_inline.of_mem inside
    · refine Nat.lt_of_le_of_lt (Document.weigh_mem inside) ?_
      rw [← Document.weigh_inline condition directives]
      exact passed.shallow
  · rintro name directives fragment ⟨set, member, names, place, passed⟩ found applies selection
      inside
    obtain ⟨next, narrowed, covering⟩ := passed.covering.narrowed has kind applies
    refine ⟨set, member, names, next, covering, ?_, ?_, passed.closed, ?_⟩
    · rw [← narrowed]
      exact passed.stands.fragment found selection inside
    · have there : name ∈ names :=
        passed.covers.names name (List.mem_cons_self ..) (by rw [found]; rfl)
      obtain ⟨other, same, covers⟩ := passed.closed name there
      cases found.symm.trans same
      rw [← narrowed]
      exact covers.of_mem inside
    · refine Nat.lt_of_le_of_lt (Document.weigh_mem inside) ?_
      exact Nat.lt_of_le_of_lt (Document.weigh_fragment acyclic found directives) passed.shallow

variable (settled : IsSettled context.surface.types context.document operation context.bindings)

include settled

/-- What is selected of fields under one key, each the one field of the type that it stands on, makes
the level below. -/
theorem Level.below (level : Level context operation parent depth sets)
    (has : context.surface.types.Has type) {key : String} {definition : FieldDefinition}
    {inner : TypeDefinition}
    (composite : context.surface.types.composite? definition.type.core = some inner)
    {fields : List Selected}
    (alike : ∀ field ∈ fields, ∃ set ∈ sets, ∃ place,
      IsTaken context operation type depth (context.fieldsOf parent set) place key field ∧
      place.field? field.name = some definition ∧
      place.selectable? field.name = some definition) :
    Level context operation inner (depth - 1) (fields.map Selected.selections) := by
  have below : ∀ field ∈ fields,
      ⟨some inner, field.selections⟩ ∈ context.document.sets context.surface.types ∧
        ∀ selection ∈ field.selections,
          Stands context.surface.types context.document operation (some inner) selection := by
    intro field inside
    obtain ⟨_, _, place, taken, -, known⟩ := alike field inside
    obtain ⟨label, directives, stands⟩ := taken.stands
    exact stands.field (by rw [Option.bind_some, known, Option.bind_some, composite])
  have keyed : ∀ (place : TypeDefinition) (field : Selected),
      place.field? field.name = some definition →
      (KeyedField.mk (some place) key field.name field.arguments
        (Graphql.comparedType (some place) field.name) field.selections).inner
          context.surface.types = ⟨some inner, field.selections⟩ := by
    intro place field known
    simp [KeyedField.inner, Graphql.comparedType, known, composite]
  constructor
  · exact TypeSystem.has_of_type? (TypeSystem.composite?_eq_some composite).1
  · exact List.forall_mem_map.mpr fun field inside => (below field inside).1
  · exact List.forall_mem_map.mpr fun field inside => (below field inside).2
  · refine List.forall_mem_map.mpr fun field here => List.forall_mem_map.mpr fun another there => ?_
    obtain ⟨_, upper, place, taken, known, -⟩ := alike field here
    obtain ⟨_, higher, spot, also, among, -⟩ := alike another there
    have agrees := level.agree _ upper _ higher _ taken.keyed _ also.keyed rfl
    intro one oneIn two twoIn same
    apply agrees.inner (taken.covering.areApart also.covering has)
      (also.covering.areApart taken.covering has)
    · rw [keyed place field known]
      exact settled.lawful.merges _ (below field here).1
    · rw [keyed place field known]
      exact oneIn
    · rw [keyed spot another among]
      exact twoIn
    · exact same
  · refine List.forall_mem_map.mpr fun field inside => ?_
    obtain ⟨_, _, place, taken, -⟩ := alike field inside
    exact Nat.lt_sub_of_add_lt taken.shallow

variable (regular : context.surface.types.IsRegular)

include regular

/-- A taken field is one of the type at hand. -/
theorem IsTaken.known {fields : List KeyedField} {place : TypeDefinition} {key : String}
    {field : Selected} (taken : IsTaken context operation type depth fields place key field)
    (has : context.surface.types.Has type) (kind : type.kind = .object) :
    ∃ definition, place.selectable? field.name = some definition ∧
      type.selectable? field.name = some definition ∧ ∃ directives isNested,
        .field (some place) (some definition) field.name field.arguments directives isNested ∈
          operation.places context.surface.types context.document := by
  obtain ⟨label, directives, stands⟩ := taken.stands
  have site := stands.sites _ (List.mem_cons_self ..)
  obtain ⟨definition, found⟩ := settled.known site
  rw [Option.bind_some] at found
  refine ⟨definition, found, ?_, directives, !field.selections.isEmpty, ?_⟩
  · exact regular.admits place type taken.covering.has has kind taken.covering.admits _ _ found
  · rw [Option.bind_some, found] at site
    exact site

/-- The fields under one key make a group. -/
theorem Level.isGroup (level : Level context operation parent depth sets)
    (has : context.surface.types.Has type) (kind : type.kind = .object) {key : String}
    {fields : List Selected} (filled : fields ≠ [])
    (taken : ∀ field ∈ fields, ∃ set ∈ sets, ∃ place,
      IsTaken context operation type depth (context.fieldsOf parent set) place key field) :
    ∃ name definition, IsGroup context operation type depth name definition fields := by
  obtain ⟨first, member⟩ := List.exists_mem_of_ne_nil fields filled
  obtain ⟨set, among, place, here⟩ := taken first member
  obtain ⟨definition, -, selectable, -⟩ := here.known settled regular has kind
  have named : ∀ field ∈ fields, field.name = first.name := by
    intro field inside
    obtain ⟨other, behind, there, later⟩ := taken field inside
    have agrees := level.agree _ among _ behind _ here.keyed _ later.keyed rfl
    exact (agrees.name (here.covering.areApart later.covering has)
      (later.covering.areApart here.covering has)).symm
  have nests : 1 < depth := Nat.lt_of_le_of_lt (Nat.le_add_left ..) here.shallow
  refine ⟨first.name, definition, filled, nests, named, ?_, selectable, ?_⟩
  · intro field inside
    obtain ⟨other, behind, there, later⟩ := taken field inside
    obtain ⟨same, -, found, directives, isNested, site⟩ := later.known settled regular has kind
    rw [named field inside, selectable] at found
    cases found
    exact ⟨some there, directives, isNested, named field inside ▸ site⟩
  · intro inner own composite
    have plain : Graphql.isReservedName first.name = false := by
      have told := regular.plain type has definition (List.mem_of_find?_eq_some own)
      rwa [eq_of_beq (List.find?_some (p := (FieldDefinition.name · == first.name)) own)] at told
    have alike : ∀ field ∈ fields, ∃ set ∈ sets, ∃ place,
        IsTaken context operation type depth (context.fieldsOf parent set) place key field ∧
        place.field? field.name = some definition ∧
        place.selectable? field.name = some definition := by
      intro field inside
      obtain ⟨set, behind, there, later⟩ := taken field inside
      obtain ⟨same, known, found, -⟩ := later.known settled regular has kind
      rw [named field inside, selectable] at found
      cases found
      refine ⟨set, behind, there, later, ?_, known⟩
      rwa [named field inside, TypeSystem.selectable?_of_plain plain, ← named field inside] at known
    exact level.below settled has composite alike

/-- The fields of a level are collected if the conditions on them have values, and those under one key
make a group. -/
theorem Level.collect (level : Level context operation parent depth sets)
    (covering : Covering context type parent) (has : context.surface.types.Has type)
    (kind : type.kind = .object) :
    Brings (operation.coerces context.surface.types context.document context.bindings = true)
      (IsUnmet context operation)
      (fun collected => ∀ entry ∈ collected, ∃ name definition,
        IsGroup context operation type depth name definition entry.2)
      (context.collect type sets) := by
  have keeps := keeps_level operation has kind settled.lawful.acyclic parent depth sets
  have start : ∀ set ∈ sets, ∀ selection ∈ set, ∃ set ∈ sets, ∃ names place,
      IsPassed context operation type depth (context.fieldsOf parent set) names place
        selection := by
    intro set member selection inside
    obtain ⟨names, covers, closed⟩ := TypedSelections.fields_closed
      context.surface.types context.document ⟨some parent, set⟩
    refine ⟨set, member, names, parent, covering, ?_, covers.of_mem inside, closed, ?_⟩
    · exact level.stands set member selection inside
    · exact Nat.lt_of_le_of_lt (Document.weigh_mem inside) (level.shallow set member)
  have only : Only (IsUnmet context operation) (context.collect type sets) := by
    refine keeps.collect_only ?_ start
    rintro selection ⟨set, member, names, place, passed⟩
    exact isIncluded_only passed.stands
  cases done : context.collect type sets with
  | error failure =>
      obtain ⟨same, lacking⟩ := only failure done
      exact ⟨⟨same, lacking⟩, fun coerces => Bool.false_ne_true (lacking.symm.trans coerces)⟩
  | ok collected =>
      obtain ⟨after, kept, rfl⟩ := keeps.collect start done
      intro entry member
      obtain ⟨filled, taken⟩ := kept entry member
      exact level.isGroup settled regular has kind filled taken

end

end GraphGateway.Request
