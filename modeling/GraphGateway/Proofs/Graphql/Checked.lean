import GraphGateway.Proofs.Graphql.Reach
import GraphGateway.Proofs.Graphql.Shaped
import GraphGateway.Proofs.Schema.Sound

/-!
What validity says of the places of an operation.  Wherever an operation selects something, in its
own selections or in a fragment that they reach, the field is one of its type, and the arguments and
directives that are given have values.  Fields under one key of a selection set agree.
-/
namespace GraphGateway.Graphql

/-- What a valid request keeps to. -/
structure Document.IsLawful (system : TypeSystem) (document : Document) : Prop where
  acyclic : document.IsAcyclic
  declarations : ∀ operation ∈ document.operations, operation.hasGoodDeclarations system = true
  fields : ∀ site ∈ document.sites system, site.isKnownField = true
  arguments : ∀ site ∈ document.sites system, site.hasGoodArguments system = true
  uses : ∀ operation ∈ document.operations, operation.hasGoodUses system document = true
  merges : ∀ set ∈ document.sets system,
    allMerge system document (document.fieldCount + 1) (set.fields system document) = true

theorem Document.isLawful_of_isValid {system : TypeSystem} {document : Document}
    (valid : document.isValid system = true) : document.IsLawful system := by
  simp only [Document.isValid, Bool.and_eq_true, List.all_eq_true] at valid
  obtain ⟨⟨⟨⟨⟨⟨-, fragments⟩, declared⟩, sites⟩, uses⟩, merges⟩, -⟩ := valid
  constructor
  · intro fragment member reached
    simp only [Document.hasGoodFragments, Bool.and_eq_true, List.all_eq_true] at fragments
    have apart := (fragments.2 fragment member).2
    simp [reached] at apart
  · exact fun operation member => (declared operation member).2
  · exact fun site member => (sites site member).1.1.1.1.1.2
  · exact fun site member => (sites site member).2
  · exact uses
  · exact fun set member => List.all_eq_true.mp merges set member

/-- Fields under one key agree if they are the same or can be merged. -/
def KeyedField.Agrees (system : TypeSystem) (document : Document) (one other : KeyedField) : Prop :=
  one = other ∨ ∃ fuel, canMerge system document fuel false one other = true ∨
    canMerge system document fuel false other one = true

theorem agrees_of_allMerge {system : TypeSystem} {document : Document} {fuel : Nat}
    {fields : List KeyedField} (merge : allMerge system document fuel fields = true)
    {one other : KeyedField} (member : one ∈ fields) (among : other ∈ fields)
    (same : one.key = other.key) : one.Agrees system document other := by
  induction fields with
  | nil => cases member
  | cons first rest ih =>
      obtain ⟨beside, later⟩ := Bool.and_eq_true_iff.mp merge
      have merges : ∀ field ∈ rest, first.key = field.key →
          canMerge system document fuel false first field = true := by
        intro field inside alike
        have told := List.all_eq_true.mp beside field inside
        simpa [alike] using told
      rcases List.mem_cons.mp member with rfl | here
      · rcases List.mem_cons.mp among with rfl | there
        · exact .inl rfl
        · exact .inr ⟨fuel, .inl (merges other there same)⟩
      · rcases List.mem_cons.mp among with rfl | there
        · exact .inr ⟨fuel, .inr (merges one here same.symm)⟩
        · exact ih later here there

/-- Whether the arguments and the conditions at a place have values. -/
def Site.hasValues (system : TypeSystem) (bindings : Entries Value) (site : Site) : Bool :=
  site.argumentSets.all fun (given, definitions) =>
    match definitions with
    | some definitions => (argumentValues? system bindings definitions given).isSome
    | none => true

/-- Whether a place asks about the types themselves. -/
def Site.asksTypes : Site → Bool
  | .field _ _ name _ _ _ => name == schemaField.name || name == typeField.name
  | _ => false

namespace Operation

variable (system : TypeSystem) (document : Document) (operation : Operation)

/-- The places of an operation, those in its fragments too. -/
def places : List Site :=
  Selection.sitesOf system (system.root? operation.kind) operation.selections ++
    ((document.reachable operation.selections).filterMap document.fragment?).flatMap fun fragment =>
      Selection.sitesOf system (system.composite? fragment.condition) fragment.selections

theorem uses_eq_places : operation.uses system document =
    (operation.places system document).flatMap (Site.uses system) := (rfl)

/-- Whether the arguments and the conditions of an operation all have values. -/
def coerces (bindings : Entries Value) : Bool :=
  (operation.places system document).all (Site.hasValues system bindings)

/-- Whether an operation asks about the types themselves. -/
def asksTypes : Bool := (operation.places system document).any Site.asksTypes

variable {system document operation}

theorem exists_values {bindings : Entries Value}
    (coerces : operation.coerces system document bindings = true) {site : Site}
    (place : site ∈ operation.places system document) {given : Arguments}
    {definitions : List ArgumentDefinition}
    (member : (given, some definitions) ∈ site.argumentSets) :
    ∃ values, argumentValues? system bindings definitions given = some values := by
  have told := List.all_eq_true.mp (List.all_eq_true.mp coerces site place) _ member
  exact Option.isSome_iff_exists.mp told

end Operation

/-- A valid request with values for the variables of one of its operations. -/
structure IsSettled (system : TypeSystem) (document : Document) (operation : Operation)
    (bindings : Entries Value) : Prop where
  member : operation ∈ document.operations
  lawful : document.IsLawful system
  allowed : ∀ declaration ∈ operation.declarations, ∀ value,
    bindings.get? declaration.name = some value → system.Allows declaration.type value

namespace IsSettled

variable {system : TypeSystem} {document : Document} {operation : Operation}
  {bindings : Entries Value}

theorem of_coerceVariables? {sent : Entries Value} (member : operation ∈ document.operations)
    (valid : document.isValid system = true)
    (coerced : coerceVariables? system operation.declarations sent = some bindings) :
    IsSettled system document operation bindings := by
  have lawful := Document.isLawful_of_isValid valid
  have good := lawful.declarations operation member
  simp only [Operation.hasGoodDeclarations, Bool.and_eq_true] at good
  exact ⟨member, lawful, allows_of_coerceVariables? ((Schema.distinct_iff _).mp good.1) coerced⟩

variable (settled : IsSettled system document operation bindings)

include settled

theorem mem_sites {site : Site} (place : site ∈ operation.places system document) :
    site ∈ document.sites system := by
  unfold Document.sites Document.roots
  rw [List.flatMap_append, List.flatMap_map, List.flatMap_map]
  rcases List.mem_append.mp place with here | inside
  · exact List.mem_append_left _ (List.mem_flatMap.mpr ⟨operation, settled.member, here⟩)
  · obtain ⟨fragment, reached, there⟩ := List.mem_flatMap.mp inside
    obtain ⟨name, -, found⟩ := List.mem_filterMap.mp reached
    exact List.mem_append_right _
      (List.mem_flatMap.mpr ⟨fragment, (Document.mem_of_fragment? found).1, there⟩)

/-- The field of a place is one of the type that it is selected on. -/
theorem known {type : TypeDefinition} {definition : Option FieldDefinition} {name : String}
    {given : Arguments} {directives : List Directive} {isNested : Bool}
    (place : .field (some type) definition name given directives isNested ∈
      operation.places system document) : ∃ field, definition = some field := by
  have known := settled.lawful.fields _ (settled.mem_sites place)
  cases definition with
  | none => cases known
  | some field => exact ⟨field, rfl⟩

/-- A variable has a value that suits the type that is wanted where it is used. -/
theorem bound {site : Site} (place : site ∈ operation.places system document) :
    AreBound system bindings (site.uses system) := by
  rintro ⟨name, _⟩ used wanted rfl value bound given
  have good := settled.lawful.uses operation settled.member
  simp only [Operation.hasGoodUses, Bool.and_eq_true, List.all_eq_true] at good
  have told := good.2 ⟨name, some wanted⟩ (by
    rw [Operation.uses_eq_places]
    exact List.mem_flatMap.mpr ⟨site, place, used⟩)
  split at told
  · cases told
  · next declaration found =>
    have among := List.mem_of_find?_eq_some found
    have same : declaration.name = name :=
      eq_of_beq (List.find?_some (p := (VariableDeclaration.name · == name)) found)
    rw [← same] at bound
    have suits := settled.allowed declaration among value bound (TypeExpr.wants_of_ne_null given)
    unfold VariableDeclaration.mayStand at told
    dsimp only at told
    split at told
    · exact .nonNull (suits.within (Bool.and_eq_true_iff.mp told).2)
    · exact suits.within told

/-- Arguments that have values at a place have such as may stand there, and no others are given. -/
theorem takes {site : Site} (place : site ∈ operation.places system document) {given : Arguments}
    {definitions : List ArgumentDefinition} (member : (given, some definitions) ∈ site.argumentSets)
    (distinct : (definitions.map ArgumentDefinition.name).Nodup) {values : Entries Value}
    (done : argumentValues? system bindings definitions given = some values) :
    (∀ name, name ∉ definitions.map ArgumentDefinition.name → values.get? name = none) ∧
    ∀ definition ∈ definitions, definition.Takes system (values.get? definition.name) := by
  refine takes_of_argumentValues? distinct ?_ done
  intro definition among literal here used inside
  have found : definitions.find? (·.name == definition.name) = some definition :=
    Schema.find?_name_of_mem distinct among
  refine settled.bound place used ?_
  refine List.mem_flatMap.mpr ⟨_, member, List.mem_flatMap.mpr ⟨_, here, ?_⟩⟩
  dsimp only
  rwa [Option.bind_some, found]

end IsSettled

section

variable {system : TypeSystem}

theorem Selection.mem_sitesOf {parent : Option TypeDefinition} {selections : List Selection}
    {selection : Selection} (member : selection ∈ selections) {site : Site}
    (inside : site ∈ selection.sites system parent) :
    site ∈ Selection.sitesOf system parent selections := by
  induction selections with
  | nil => cases member
  | cons first rest ih =>
      rw [Selection.sitesOf]
      rcases List.mem_cons.mp member with rfl | later
      · exact List.mem_append_left _ inside
      · exact List.mem_append_right _ (ih later)

theorem Selection.mem_setsOf {parent : Option TypeDefinition} {selections : List Selection}
    {selection : Selection} (member : selection ∈ selections) {set : TypedSelections}
    (inside : set ∈ selection.sets system parent) :
    set ∈ Selection.setsOf system parent selections := by
  induction selections with
  | nil => cases member
  | cons first rest ih =>
      rw [Selection.setsOf]
      rcases List.mem_cons.mp member with rfl | later
      · exact List.mem_append_left _ inside
      · exact List.mem_append_right _ (ih later)

end

/-- A selection that stands on a type in an operation or in a fragment that it reaches. -/
structure Stands (system : TypeSystem) (document : Document) (operation : Operation)
    (parent : Option TypeDefinition) (selection : Selection) : Prop where
  sites : ∀ site ∈ selection.sites system parent, site ∈ operation.places system document
  sets : ∀ set ∈ selection.sets system parent, set ∈ document.sets system
  spreads : ∀ name ∈ selection.spreads, document.Reaches operation.selections name

namespace Stands

variable {system : TypeSystem} {document : Document} {operation : Operation}
  {parent : Option TypeDefinition}

theorem each {selections : List Selection}
    (sites : ∀ site ∈ Selection.sitesOf system parent selections,
      site ∈ operation.places system document)
    (sets : ∀ set ∈ Selection.setsOf system parent selections, set ∈ document.sets system)
    (spreads : ∀ name ∈ Selection.spreadsOf selections,
      document.Reaches operation.selections name) :
    ∀ selection ∈ selections, Stands system document operation parent selection := by
  intro selection member
  constructor
  · exact fun site inside => sites site (Selection.mem_sitesOf member inside)
  · exact fun set inside => sets set (Selection.mem_setsOf member inside)
  · exact fun name spread => spreads name (Selection.mem_spreadsOf member spread)

theorem of_operation (member : operation ∈ document.operations) :
    ⟨system.root? operation.kind, operation.selections⟩ ∈ document.sets system ∧
    ∀ selection ∈ operation.selections,
      Stands system document operation (system.root? operation.kind) selection := by
  have root : (⟨system.root? operation.kind, operation.selections⟩ : TypedSelections) ∈
      document.roots system := List.mem_append_left _ (List.mem_map.mpr ⟨operation, member, rfl⟩)
  refine ⟨List.mem_flatMap.mpr ⟨_, root, List.mem_cons_self ..⟩, each ?_ ?_ ?_⟩
  · exact fun site inside => List.mem_append_left _ inside
  · exact fun set inside => List.mem_flatMap.mpr ⟨_, root, List.mem_cons_of_mem _ inside⟩
  · exact fun name spread => .spread spread

/-- What a field selects stands on the type of the field. -/
theorem field {key : Option String} {name : String} {arguments : Arguments}
    {directives : List Directive} {selections : List Selection}
    (stands : Stands system document operation parent
      (.field key name arguments directives selections))
    {inner : Option TypeDefinition}
    (same : inner = (parent.bind (·.selectable? name)).bind fun field =>
      system.composite? field.type.core) :
    ⟨inner, selections⟩ ∈ document.sets system ∧
    ∀ selection ∈ selections, Stands system document operation inner selection := by
  obtain ⟨sites, sets, spreads⟩ := stands
  rw [Selection.sites] at sites
  rw [Selection.sets] at sets
  rw [← same] at sites sets
  refine ⟨sets _ (List.mem_cons_self ..), each ?_ ?_ spreads⟩
  · exact fun site inside => sites site (List.mem_cons_of_mem _ inside)
  · exact fun set inside => sets set (List.mem_cons_of_mem _ inside)

theorem inline {condition : Option String} {directives : List Directive}
    {selections : List Selection}
    (stands : Stands system document operation parent (.inline condition directives selections)) :
    ∀ selection ∈ selections,
      Stands system document operation (system.narrowed parent condition) selection := by
  obtain ⟨sites, sets, spreads⟩ := stands
  rw [Selection.sites] at sites
  rw [Selection.sets] at sets
  refine each ?_ ?_ spreads
  · exact fun site inside => sites site (List.mem_cons_of_mem _ inside)
  · exact fun set inside => sets set (List.mem_cons_of_mem _ inside)

/-- What a fragment selects stands on the type of its condition, wherever it is spread. -/
theorem fragment {name : String} {directives : List Directive} {fragment : Fragment}
    (stands : Stands system document operation parent (.spread name directives))
    (found : document.fragment? name = some fragment) :
    ∀ selection ∈ fragment.selections,
      Stands system document operation (system.composite? fragment.condition) selection := by
  have reaches := stands.spreads name (List.mem_singleton_self _)
  have reached : name ∈ document.reachable operation.selections :=
    Document.mem_reachable_iff.mpr ⟨reaches, by rw [found]; rfl⟩
  have root : (⟨system.composite? fragment.condition, fragment.selections⟩ : TypedSelections) ∈
      document.roots system :=
    List.mem_append_right _
      (List.mem_map.mpr ⟨fragment, (Document.mem_of_fragment? found).1, rfl⟩)
  refine each ?_ ?_ ?_
  · intro site inside
    refine List.mem_append_right _ (List.mem_flatMap.mpr ⟨fragment, ?_, inside⟩)
    exact List.mem_filterMap.mpr ⟨name, reached, found⟩
  · exact fun set inside => List.mem_flatMap.mpr ⟨_, root, List.mem_cons_of_mem _ inside⟩
  · exact fun other spread => .through reaches found spread

end Stands

end GraphGateway.Graphql
