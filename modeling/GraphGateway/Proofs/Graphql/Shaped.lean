import GraphGateway.Graphql.Coercion
import GraphGateway.Graphql.Validity
import GraphGateway.Proofs.Entries

/-!
Values that suit a type.  A list suits a list of what its items suit, an object suits an input that has
its keys for fields, and a whole number is there where one is wanted.  Whatever a client sends for a
variable is coerced to what suits its type, and so is every literal that has a value, with the variables
in the places where they may stand.
-/
namespace GraphGateway.Graphql

/-- Whether a value is more than a null that a type lets pass. -/
def TypeExpr.Wants (type : TypeExpr) (value : Value) : Prop :=
  type.isNonNull = false → value ≠ .null

/-- Whether a value is one of a type.  Of a leaf no more is told than that `Int` stands for whole
numbers. -/
inductive TypeSystem.Suits (system : TypeSystem) : TypeExpr → Value → Prop where
  | nonNull {inner : TypeExpr} {value : Value} (suits : TypeSystem.Suits system inner value) :
      TypeSystem.Suits system (.nonNull inner) value
  | list {item : TypeExpr} {items : List Value}
      (each : ∀ value ∈ items, item.Wants value → TypeSystem.Suits system item value) :
      TypeSystem.Suits system (.list item) (.list items)
  | object {name : String} {input : TypeDefinition} {entries : Entries Value}
      (found : system.type? name = some input) (kind : input.kind = .input)
      (known : ∀ entry ∈ entries, (input.field? entry.1).isSome = true)
      (each : ∀ entry ∈ entries, ∀ field, input.field? entry.1 = some field →
        field.type.Wants entry.2 → TypeSystem.Suits system field.type entry.2) :
      TypeSystem.Suits system (.named name) (.object entries)
  | leaf {name : String} {value : Value}
      (other : ∀ type, system.type? name = some type → type.kind ≠ .input)
      (whole : name = "Int" → ∃ number, value = .int number) :
      TypeSystem.Suits system (.named name) value

/-- Whether a value may stand where a type is wanted: it is a null that the type lets pass, or one of
the type. -/
def TypeSystem.Allows (system : TypeSystem) (type : TypeExpr) (value : Value) : Prop :=
  type.Wants value → system.Suits type value

/-- The entry of an input is of one of its fields, and may stand there. -/
def TypeSystem.AllowsEntry (system : TypeSystem) (input : TypeDefinition)
    (entry : String × Value) : Prop :=
  ∃ field, input.field? entry.1 = some field ∧ system.Allows field.type entry.2

namespace TypeExpr

theorem wants_of_ne_null {type : TypeExpr} {value : Value} (given : value ≠ .null) :
    type.Wants value :=
  fun _ => given

theorem isNonNull_of_isWithin {first second : TypeExpr} (inside : first.isWithin second = true)
    (strict : second.isNonNull = true) : first.isNonNull = true := by
  cases second with
  | nonNull inner =>
      cases first with
      | nonNull other => rfl
      | named name => cases inside
      | list item => cases inside
  | named name => cases strict
  | list item => cases strict

theorem Wants.within {first second : TypeExpr} {value : Value} (wants : second.Wants value)
    (inside : first.isWithin second = true) : first.Wants value := by
  intro loose
  refine wants (Bool.eq_false_iff.mpr fun strict => ?_)
  rw [isNonNull_of_isWithin inside strict] at loose
  cases loose

end TypeExpr

section

variable {system : TypeSystem} {type : TypeExpr} {value result : Value}

theorem TypeSystem.Suits.allows (suits : system.Suits type value) : system.Allows type value :=
  fun _ => suits

theorem TypeSystem.Allows.of_nullable (loose : ¬ type.isNonNull = true) :
    system.Allows type .null :=
  fun wants => absurd rfl (wants (Bool.eq_false_iff.mpr loose))

/-- A value of a type is one of every type that it is within. -/
theorem TypeSystem.Suits.within {first second : TypeExpr} (suits : system.Suits first value)
    (inside : first.isWithin second = true) : system.Suits second value := by
  induction first, second using TypeExpr.isWithin.induct generalizing value with
  | case1 first second ih =>
      cases suits with
      | nonNull suits => exact .nonNull (ih suits (by simpa [TypeExpr.isWithin] using inside))
  | case2 first second other ih =>
      rw [TypeExpr.isWithin.eq_2 _ _ other] at inside
      cases suits with
      | nonNull suits => exact ih suits inside
  | case3 first second ih =>
      rw [TypeExpr.isWithin] at inside
      cases suits with
      | list each =>
          exact .list fun value member wants => ih (each value member (wants.within inside)) inside
  | case4 first second =>
      rw [TypeExpr.isWithin.eq_4, beq_iff_eq] at inside
      rwa [← inside]
  | case5 first second =>
      rw [TypeExpr.isWithin] at inside
      · cases inside
      all_goals assumption

/-- Where a type wants a list, a list suits it whose items may stand in it. -/
theorem TypeSystem.Suits.of_items (listed : type.isList = true) {items : List Value}
    (each : ∀ value ∈ items, system.Allows type.itemType value) :
    system.Suits type (.list items) := by
  cases type with
  | named name => cases listed
  | list item => exact .list each
  | nonNull inner =>
      cases inner with
      | list item => exact .nonNull (.list each)
      | named name => cases listed
      | nonNull other => cases listed

/-- A value in the lists of a type suits it, if it suits the core of the type. -/
theorem TypeSystem.Suits.wrap (suits : system.Suits (.named type.core) value) :
    system.Suits type (type.wrap value) := by
  induction type with
  | named name => exact suits
  | list item ih =>
      refine .list fun other member _ => ?_
      rw [List.mem_singleton.mp member]
      exact ih suits
  | nonNull inner ih => exact .nonNull (ih suits)

/-- What suits a list is one. -/
theorem TypeSystem.Suits.exists_items {item : TypeExpr} (suits : system.Suits (.list item) value) :
    ∃ items, value = .list items ∧ ∀ value ∈ items, system.Allows item value := by
  cases suits with
  | list each => exact ⟨_, rfl, each⟩

/-- What suits an input is an object with fields of the input. -/
theorem TypeSystem.Suits.exists_entries {name : String} {input : TypeDefinition}
    (found : system.type? name = some input) (kind : input.kind = .input)
    (suits : system.Suits (.named name) value) :
    ∃ entries, value = .object entries ∧ ∀ entry ∈ entries, system.AllowsEntry input entry := by
  cases suits with
  | @object _ other entries there _ known each =>
      cases found.symm.trans there
      refine ⟨entries, rfl, fun entry member => ?_⟩
      obtain ⟨field, has⟩ := Option.isSome_iff_exists.mp (known entry member)
      exact ⟨field, has, each entry member field has⟩
  | leaf other => exact absurd kind (other input found)

theorem TypeSystem.Suits.of_entries {name : String} {input : TypeDefinition}
    {entries : Entries Value} (found : system.type? name = some input) (kind : input.kind = .input)
    (each : ∀ entry ∈ entries, system.AllowsEntry input entry) :
    system.Suits (.named name) (.object entries) := by
  refine .object found kind (fun entry member => ?_) fun entry member field has => ?_
  · obtain ⟨field, has, -⟩ := each entry member
    rw [has]
    rfl
  · obtain ⟨other, there, allows⟩ := each entry member
    cases has.symm.trans there
    exact allows

/-- What suits a type that excludes null suits it without that. -/
theorem TypeSystem.Allows.of_nonNull (allows : system.Allows (.nonNull type) value) :
    system.Suits type value := by
  cases allows nofun with
  | nonNull suits => exact suits

end

theorem int32?_eq_some {number : Int} {value : Value} (fits : int32? number = some value) :
    value = .int number := by
  unfold int32? at fits
  split at fits
  · exact (Option.some.inj fits).symm
  · cases fits

theorem standardTypes_whole : ∀ type ∈ standardTypes, type.name = "Int" → type.kind = .scalar := by
  decide +kernel

section

variable {system : TypeSystem} {type : TypeExpr} {value result : Value}

theorem TypeSystem.type?_whole {core : TypeDefinition} {name : String} (same : name = "Int")
    (found : system.type? name = some core) : core.name = "Int" ∧ core.kind = .scalar := by
  have known : isStandardName name = true := by
    rw [same]
    decide +kernel
  unfold type? at found
  rw [if_pos known] at found
  have named : core.name = name :=
    eq_of_beq (List.find?_some (p := (TypeDefinition.name · == name)) found)
  have member := (List.mem_filter.mp (List.mem_of_find?_eq_some found)).1
  exact ⟨named.trans same, standardTypes_whole core member (named.trans same)⟩

/-- What suits `Int` is a whole number. -/
theorem TypeSystem.Suits.exists_int (suits : system.Suits (.named "Int") value) :
    ∃ number, value = .int number := by
  cases suits with
  | object found kind => cases kind.symm.trans (type?_whole rfl found).2
  | leaf other whole => exact whole rfl

/-- Only enums and scalars have values of their own. -/
theorem kind_of_coerceLeaf? {core : TypeDefinition} (made : coerceLeaf? core value = some result) :
    core.kind = .enum ∨ core.kind = .scalar := by
  unfold coerceLeaf? at made
  cases kind : core.kind with
  | enum => exact .inl rfl
  | scalar => exact .inr rfl
  | _ =>
      rw [kind] at made
      cases made

theorem coerceCore?_suits (coerced : coerceCore? system type value = some result) :
    system.Suits type result := by
  obtain ⟨leaf, found, rfl⟩ := Option.map_eq_some_iff.mp coerced
  obtain ⟨core, there, made⟩ := Option.bind_eq_some_iff.mp found
  refine TypeSystem.Suits.wrap (.leaf ?_ fun same => ?_)
  · intro other again input
    cases there.symm.trans again
    rcases kind_of_coerceLeaf? made with kind | kind
    · cases kind.symm.trans input
    · cases kind.symm.trans input
  · obtain ⟨name, kind⟩ := TypeSystem.type?_whole same there
    unfold coerceLeaf? at made
    rw [kind, name] at made
    cases value with
    | int number => exact ⟨number, int32?_eq_some made⟩
    | float number =>
        obtain ⟨whole, -, fits⟩ := Option.bind_eq_some_iff.mp made
        exact ⟨whole, int32?_eq_some fits⟩
    | _ => cases made

/-- What the start and every step keep holds of the end, if there is one. -/
theorem foldlM_some_induct {α β : Type} {step : β → α → Option β} {items : List α}
    {start answer : β} (kept : β → Prop) (ran : items.foldlM step start = some answer)
    (holds : kept start)
    (keeps : ∀ before item after, kept before → step before item = some after → kept after) :
    kept answer := by
  induction items generalizing start with
  | nil =>
      cases ran
      exact holds
  | cons item rest ih =>
      rw [List.foldlM_cons, Option.bind_eq_bind, Option.bind_eq_some_iff] at ran
      obtain ⟨middle, first, others⟩ := ran
      exact ih others (keeps start item middle holds first)

/-- What is put in the order of the fields of an input suits it. -/
theorem inFieldOrder?_suits {name : String} {input : TypeDefinition} {entries : Entries Value}
    (found : system.type? name = some input) (kind : input.kind = .input)
    (each : ∀ entry ∈ entries, system.AllowsEntry input entry)
    (ordered : inFieldOrder? input entries = some result) : system.Suits (.named name) result := by
  obtain ⟨made, done, rfl⟩ := Option.map_eq_some_iff.mp ordered
  have kept : ∀ entry ∈ made, entry ∈ entries := by
    refine foldlM_some_induct (fun made => ∀ entry ∈ made, entry ∈ entries) done
      (List.forall_mem_nil _) fun before field after inside here => ?_
    split at here
    · next value has =>
      cases here
      refine List.forall_mem_append.mpr ⟨inside, ?_⟩
      exact List.forall_mem_singleton.mpr (Entries.mem_of_get? has)
    · split at here
      · cases here
      · cases here
        exact inside
  exact .of_entries found kind fun entry member => each entry (kept entry member)

mutual

/-- What a sent value is coerced to may stand where its type is wanted. -/
theorem Value.coerced?_allowed {depth : Nat} {type : TypeExpr} {result : Value} :
    (value : Value) → Value.coerced? system depth type value = some result →
      system.Allows type result
  | .null, coerced => by
      rw [Value.coerced?] at coerced
      split at coerced
      · cases coerced
      · next loose =>
        cases coerced
        exact .of_nullable loose
  | .list items, coerced => by
      rw [Value.coerced?] at coerced
      split at coerced
      · next listed =>
        split at coerced
        · cases coerced
        · obtain ⟨results, done, rfl⟩ := Option.map_eq_some_iff.mp coerced
          exact (TypeSystem.Suits.of_items listed (Value.allCoerced?_allowed items done)).allows
      · exact (coerceCore?_suits coerced).allows
  | .object entries, coerced => by
      rw [Value.coerced?] at coerced
      split at coerced
      · next input found =>
        obtain ⟨there, kind⟩ := Option.filter_eq_some_iff.mp found
        split at coerced
        · cases coerced
        · obtain ⟨made, done, rfl⟩ := Option.map_eq_some_iff.mp coerced
          obtain ⟨given, read, ordered⟩ := Option.bind_eq_some_iff.mp done
          have each := Value.entriesCoerced?_allowed entries read
          exact (inFieldOrder?_suits there (eq_of_beq kind) each ordered).wrap.allows
      · exact (coerceCore?_suits coerced).allows
  | .bool _, coerced => (coerceCore?_suits coerced).allows
  | .int _, coerced => (coerceCore?_suits coerced).allows
  | .float _, coerced => (coerceCore?_suits coerced).allows
  | .text _, coerced => (coerceCore?_suits coerced).allows

theorem Value.allCoerced?_allowed {depth : Nat} {type : TypeExpr} {results : List Value} :
    (items : List Value) → Value.allCoerced? system depth type items = some results →
      ∀ result ∈ results, system.Allows type result
  | [], coerced => by
      cases coerced
      exact List.forall_mem_nil _
  | item :: rest, coerced => by
      rw [Value.allCoerced?] at coerced
      obtain ⟨first, here, coerced⟩ := Option.bind_eq_some_iff.mp coerced
      obtain ⟨others, later, made⟩ := Option.bind_eq_some_iff.mp coerced
      cases made
      exact List.forall_mem_cons.mpr
        ⟨Value.coerced?_allowed item here, Value.allCoerced?_allowed rest later⟩

theorem Value.entriesCoerced?_allowed {depth : Nat} {input : TypeDefinition}
    {results : Entries Value} : (entries : List (String × Value)) →
      Value.entriesCoerced? system depth input entries = some results →
      ∀ entry ∈ results, system.AllowsEntry input entry
  | [], coerced => by
      cases coerced
      exact List.forall_mem_nil _
  | (name, item) :: rest, coerced => by
      rw [Value.entriesCoerced?] at coerced
      obtain ⟨field, found, coerced⟩ := Option.bind_eq_some_iff.mp coerced
      obtain ⟨first, here, coerced⟩ := Option.bind_eq_some_iff.mp coerced
      obtain ⟨others, later, made⟩ := Option.bind_eq_some_iff.mp coerced
      cases made
      exact List.forall_mem_cons.mpr
        ⟨⟨field, found, Value.coerced?_allowed item here⟩, Value.entriesCoerced?_allowed rest later⟩

end

/-- A literal that fits whole numbers spells one. -/
theorem Literal.value_of_fits_int {core : TypeDefinition} {literal : Literal}
    (bindings : Entries Value) (kind : core.kind = .scalar) (name : core.name = "Int")
    (fits : literal.fitsLeaf core = true) : ∃ number, literal.value bindings = .int number := by
  unfold Literal.fitsLeaf at fits
  rw [kind, name] at fits
  split at fits
  any_goals contradiction
  next spelling _ _ =>
    unfold wholeValue? at fits
    rw [Literal.value]
    cases read : numberValue spelling with
    | int number => exact ⟨number, rfl⟩
    | _ =>
        rw [read] at fits
        cases fits

/-- Literals fit only enums and scalars of their own. -/
theorem Literal.kind_of_fitsLeaf {core : TypeDefinition} {literal : Literal}
    (fits : literal.fitsLeaf core = true) : core.kind = .enum ∨ core.kind = .scalar := by
  unfold Literal.fitsLeaf at fits
  cases kind : core.kind with
  | enum => exact .inl rfl
  | scalar => exact .inr rfl
  | _ =>
      rw [kind] at fits
      cases fits

theorem literalCore?_suits {bindings : Entries Value} {literal : Literal}
    (made : literalCore? system type bindings literal = some value) : system.Suits type value := by
  obtain ⟨leaf, found, rfl⟩ := Option.map_eq_some_iff.mp made
  obtain ⟨core, there, spelt⟩ := Option.bind_eq_some_iff.mp found
  unfold leafLiteral? at spelt
  split at spelt
  · cases spelt
  next fits =>
  have fits : literal.fitsLeaf core = true := by simpa using fits
  refine TypeSystem.Suits.wrap (.leaf ?_ fun same => ?_)
  · intro other again input
    cases there.symm.trans again
    rcases Literal.kind_of_fitsLeaf fits with kind | kind
    · cases kind.symm.trans input
    · cases kind.symm.trans input
  · obtain ⟨name, kind⟩ := TypeSystem.type?_whole same there
    rw [kind, name] at spelt
    cases spelt
    exact Literal.value_of_fits_int bindings kind name fits

/-- Whatever variable is used has a value that suits the type that is wanted there. -/
def AreBound (system : TypeSystem) (bindings : Entries Value) (uses : List VariableUse) : Prop :=
  ∀ used ∈ uses, ∀ type, used.wanted = some type → ∀ value, bindings.get? used.name = some value →
    value ≠ .null → system.Suits type value

theorem AreBound.nil_bindings (uses : List VariableUse) : AreBound system [] uses :=
  fun _ _ _ _ _ bound => nomatch bound

mutual

/-- The value of a literal may stand where its type is wanted, if its variables have values that do. -/
theorem Literal.typed?_allowed {bindings : Entries Value} {type : TypeExpr} {value : Value} :
    (literal : Literal) → AreBound system bindings (literal.uses system (some type)) →
      literal.typed? system bindings type = some value → system.Allows type value
  | .variable name, bound, typed => by
      rw [Literal.typed?] at typed
      split at typed
      · split at typed
        · cases typed
        · next loose =>
          cases typed
          exact .of_nullable loose
      · next given =>
        refine TypeSystem.Suits.allows ?_
        refine bound ⟨name, some type⟩ (List.mem_singleton_self _) type rfl value typed ?_
        rintro rfl
        exact given typed
  | .null, _, typed => by
      rw [Literal.typed?] at typed
      split at typed
      · cases typed
      · next loose =>
        cases typed
        exact .of_nullable loose
  | .list items, bound, typed => by
      rw [Literal.typed?] at typed
      split at typed
      · next listed =>
        obtain ⟨values, done, rfl⟩ := Option.map_eq_some_iff.mp typed
        exact (TypeSystem.Suits.of_items listed (Literal.allTyped?_allowed items bound done)).allows
      · exact (literalCore?_suits typed).allows
  | .object fields, bound, typed => by
      rw [Literal.typed?] at typed
      split at typed
      · next input found =>
        obtain ⟨there, kind⟩ := Option.filter_eq_some_iff.mp found
        obtain ⟨made, done, rfl⟩ := Option.map_eq_some_iff.mp typed
        obtain ⟨given, read, ordered⟩ := Option.bind_eq_some_iff.mp done
        rw [Literal.uses, Option.bind_some, found] at bound
        have each := Literal.fieldsTyped?_allowed fields bound read
        exact (inFieldOrder?_suits there (eq_of_beq kind) each ordered).wrap.allows
      · exact (literalCore?_suits typed).allows
  | .int _, _, typed => (literalCore?_suits typed).allows
  | .float _, _, typed => (literalCore?_suits typed).allows
  | .string _ _, _, typed => (literalCore?_suits typed).allows
  | .boolean _, _, typed => (literalCore?_suits typed).allows
  | .enum _, _, typed => (literalCore?_suits typed).allows

theorem Literal.allTyped?_allowed {bindings : Entries Value} {type : TypeExpr}
    {values : List Value} : (items : List Literal) →
      AreBound system bindings (Literal.usesOf system (some type) items) →
      Literal.allTyped? system bindings type items = some values →
      ∀ value ∈ values, system.Allows type value
  | [], _, typed => by
      cases typed
      exact List.forall_mem_nil _
  | item :: rest, bound, typed => by
      rw [Literal.usesOf] at bound
      obtain ⟨front, behind⟩ := List.forall_mem_append.mp bound
      have consed : ∀ first, system.Allows type first →
          ((Literal.allTyped? system bindings type rest).bind fun others => some (first :: others)) =
            some values → ∀ value ∈ values, system.Allows type value := by
        intro first here typed
        obtain ⟨others, later, made⟩ := Option.bind_eq_some_iff.mp typed
        cases made
        exact List.forall_mem_cons.mpr ⟨here, Literal.allTyped?_allowed rest behind later⟩
      rw [Literal.allTyped?] at typed
      split at typed
      · split at typed
        · cases typed
        · next loose => exact consed .null (.of_nullable loose) typed
      · obtain ⟨first, here, typed⟩ := Option.bind_eq_some_iff.mp typed
        exact consed first (Literal.typed?_allowed item front here) typed

theorem Literal.fieldsTyped?_allowed {bindings : Entries Value} {input : TypeDefinition}
    {made : Entries Value} : (fields : List (String × Literal)) →
      AreBound system bindings (Literal.fieldUses system (some input) fields) →
      Literal.fieldsTyped? system bindings input fields = some made →
      ∀ entry ∈ made, system.AllowsEntry input entry
  | [], _, typed => by
      cases typed
      exact List.forall_mem_nil _
  | (name, item) :: rest, bound, typed => by
      rw [Literal.fieldUses] at bound
      obtain ⟨front, behind⟩ := List.forall_mem_append.mp bound
      rw [Literal.fieldsTyped?] at typed
      obtain ⟨others, later, typed⟩ := Option.bind_eq_some_iff.mp typed
      have each := Literal.fieldsTyped?_allowed rest behind later
      split at typed
      · cases typed
        exact each
      · next field found =>
        split at typed
        · cases typed
          exact each
        · obtain ⟨first, here, made⟩ := Option.bind_eq_some_iff.mp typed
          cases made
          rw [Option.bind_some, found, Option.map_some] at front
          exact List.forall_mem_cons.mpr ⟨⟨field, found, Literal.typed?_allowed item front here⟩, each⟩

end

end

section

variable {system : TypeSystem}

namespace VariableDeclaration

/-- The value of a variable: absent if it is neither sent nor has a default, nothing if it does not
fit. -/
def value? (system : TypeSystem) (sent : Entries Value) (declaration : VariableDeclaration) :
    Option (Option Value) :=
  match sent.get? declaration.name, declaration.default with
  | some value, _ => (Value.coerced? system nestingLimit declaration.type value).map some
  | none, some literal => (Literal.typed? system [] declaration.type literal).map some
  | none, none => if declaration.type.isNonNull then none else some none

theorem allows_of_value? {sent : Entries Value} {declaration : VariableDeclaration} {value : Value}
    (taken : declaration.value? system sent = some (some value)) :
    system.Allows declaration.type value := by
  unfold value? at taken
  split at taken
  · obtain ⟨result, coerced, same⟩ := Option.map_eq_some_iff.mp taken
    cases same
    exact Value.coerced?_allowed _ coerced
  · obtain ⟨result, made, same⟩ := Option.map_eq_some_iff.mp taken
    cases same
    exact Literal.typed?_allowed _ (.nil_bindings _) made
  · split at taken <;> cases taken

/-- Puts the value of a variable, if it has one, behind those of the variables before it. -/
def bind (system : TypeSystem) (sent : Entries Value) (values : Entries Value)
    (declaration : VariableDeclaration) : Option (Entries Value) :=
  (declaration.value? system sent).map fun
    | some value => values.put declaration.name value
    | none => values

theorem get?_bind {sent values after : Entries Value} {declaration : VariableDeclaration}
    (done : declaration.bind system sent values = some after) :
    (∀ name, name ≠ declaration.name → after.get? name = values.get? name) ∧
    ∃ given, declaration.value? system sent = some given ∧
      (values.get? declaration.name = none → after.get? declaration.name = given) := by
  obtain ⟨given, taken, rfl⟩ := Option.map_eq_some_iff.mp done
  refine ⟨fun name apart => ?_, given, taken, fun fresh => ?_⟩
  · cases given with
    | none => rfl
    | some value => exact (Entries.get?_put ..).trans (if_neg apart.symm)
  · cases given with
    | none => exact fresh
    | some value => exact (Entries.get?_put ..).trans (if_pos rfl)

/-- Every variable of an operation has its value under its name. -/
theorem value?_of_bindAll {sent start bindings : Entries Value}
    {declarations : List VariableDeclaration}
    (distinct : (declarations.map VariableDeclaration.name).Nodup)
    (fresh : ∀ declaration ∈ declarations, start.get? declaration.name = none)
    (done : declarations.foldlM (bind system sent) start = some bindings) :
    (∀ name, name ∉ declarations.map VariableDeclaration.name →
      bindings.get? name = start.get? name) ∧
    ∀ declaration ∈ declarations,
      declaration.value? system sent = some (bindings.get? declaration.name) := by
  induction declarations generalizing start with
  | nil =>
      cases done
      exact ⟨fun _ _ => rfl, fun _ none_ => absurd none_ List.not_mem_nil⟩
  | cons declaration rest ih =>
      rw [List.foldlM_cons, Option.bind_eq_bind, Option.bind_eq_some_iff] at done
      obtain ⟨middle, first, others⟩ := done
      rw [List.map_cons, List.nodup_cons] at distinct
      obtain ⟨same, given, taken, bound⟩ := get?_bind first
      have still : ∀ other ∈ rest, middle.get? other.name = none := by
        intro other member
        rw [same other.name fun named => distinct.1 (named ▸ List.mem_map_of_mem member)]
        exact fresh other (List.mem_cons_of_mem _ member)
      obtain ⟨untouched, each⟩ := ih distinct.2 still others
      constructor
      · intro name outside
        rw [List.map_cons, List.mem_cons, not_or] at outside
        rw [untouched name outside.2, same name outside.1]
      · intro other member
        rcases List.mem_cons.mp member with rfl | later
        · rw [untouched _ distinct.1, bound (fresh _ (List.mem_cons_self ..)), taken]
        · exact each other later

end VariableDeclaration

theorem coerceVariables?_eq (declarations : List VariableDeclaration) (sent : Entries Value) :
    coerceVariables? system declarations sent =
      declarations.foldlM (VariableDeclaration.bind system sent) [] := by
  have step : ∀ (values : Entries Value) (declaration : VariableDeclaration),
      declaration.bind system sent values =
        match sent.get? declaration.name, declaration.default with
        | some value, _ =>
            (Value.coerced? system nestingLimit declaration.type value).map
              (values.put declaration.name)
        | none, some literal =>
            (Literal.typed? system [] declaration.type literal).map (values.put declaration.name)
        | none, none => if declaration.type.isNonNull then none else some values := by
    intro values declaration
    unfold VariableDeclaration.bind VariableDeclaration.value?
    split
    · rw [Option.map_map]
      rfl
    · rw [Option.map_map]
      rfl
    · split <;> rfl
  rw [funext fun values => funext (step values)]
  rfl

/-- What is bound to a variable of an operation may stand where its type is wanted. -/
theorem allows_of_coerceVariables? {declarations : List VariableDeclaration}
    {sent bindings : Entries Value} (distinct : (declarations.map VariableDeclaration.name).Nodup)
    (coerced : coerceVariables? system declarations sent = some bindings) :
    ∀ declaration ∈ declarations, ∀ value, bindings.get? declaration.name = some value →
      system.Allows declaration.type value := by
  intro declaration member value bound
  rw [coerceVariables?_eq] at coerced
  obtain ⟨-, values⟩ := VariableDeclaration.value?_of_bindAll distinct (fun _ _ => rfl) coerced
  have taken := values declaration member
  rw [bound] at taken
  exact VariableDeclaration.allows_of_value? taken

/-- Puts the value of an argument, if it is given, behind those of the arguments before it. -/
def giveArgument (system : TypeSystem) (bindings : Entries Value) (given : Arguments)
    (values : Entries Value) (definition : ArgumentDefinition) : Option (Entries Value) :=
  (argumentValue? system bindings definition given).map fun
    | some value => values ++ [(definition.name, value)]
    | none => values

/-- What is given for an argument: a value that may stand there, or nothing where it is not required.
-/
def ArgumentDefinition.Takes (system : TypeSystem) (definition : ArgumentDefinition)
    (given : Option Value) : Prop :=
  match given with
  | some value => system.Allows definition.type value
  | none => definition.isRequired = false

/-- Whatever variables are given for an argument have values that suit it. -/
def ArgumentDefinition.Bound (system : TypeSystem) (bindings : Entries Value) (given : Arguments)
    (definition : ArgumentDefinition) : Prop :=
  ∀ literal, (definition.name, literal) ∈ given →
    AreBound system bindings (literal.uses system (some definition.type))

theorem mem_of_lookup {α : Type} {entries : List (String × α)} {name : String} {item : α}
    (found : entries.reverse.lookup name = some item) : (name, item) ∈ entries := by
  obtain ⟨before, after, same, -⟩ := List.lookup_eq_some_iff.mp found
  rw [← List.mem_reverse, same]
  exact List.mem_append_right _ (List.mem_cons_self ..)

theorem takes_of_argumentValue? {bindings : Entries Value} {definition : ArgumentDefinition}
    {given : Arguments} {taken : Option Value} (bound : definition.Bound system bindings given)
    (done : argumentValue? system bindings definition given = some taken) :
    definition.Takes system taken := by
  have absent : (if definition.isRequired = true then none else some none) = some taken →
      definition.Takes system taken := by
    intro left
    split at left
    · cases left
    · next optional =>
      cases left
      exact Bool.eq_false_iff.mpr optional
  unfold argumentValue? at done
  dsimp only at done
  split at done
  · exact absent done
  · next literal found =>
    split at done
    · exact absent done
    · obtain ⟨value, typed, rfl⟩ := Option.map_eq_some_iff.mp done
      exact Literal.typed?_allowed literal (bound literal (mem_of_lookup found)) typed

theorem takes_of_giveArguments {bindings start values : Entries Value}
    {definitions : List ArgumentDefinition} {given : Arguments}
    (distinct : (definitions.map ArgumentDefinition.name).Nodup)
    (bound : ∀ definition ∈ definitions, definition.Bound system bindings given)
    (fresh : ∀ definition ∈ definitions, start.get? definition.name = none)
    (done : definitions.foldlM (giveArgument system bindings given) start = some values) :
    (∀ name, name ∉ definitions.map ArgumentDefinition.name →
      values.get? name = start.get? name) ∧
    ∀ definition ∈ definitions, definition.Takes system (values.get? definition.name) := by
  induction definitions generalizing start with
  | nil =>
      cases done
      exact ⟨fun _ _ => rfl, fun _ none_ => absurd none_ List.not_mem_nil⟩
  | cons definition rest ih =>
      rw [List.foldlM_cons, Option.bind_eq_bind, Option.bind_eq_some_iff] at done
      obtain ⟨middle, first, others⟩ := done
      obtain ⟨taken, found, made⟩ := Option.map_eq_some_iff.mp first
      have takes := takes_of_argumentValue? (bound definition (List.mem_cons_self ..)) found
      obtain ⟨same, here⟩ : (∀ name, name ≠ definition.name → middle.get? name = start.get? name) ∧
          middle.get? definition.name = taken := by
        cases taken with
        | none =>
            cases made
            exact ⟨fun _ _ => rfl, fresh definition (List.mem_cons_self ..)⟩
        | some value =>
            cases made
            refine ⟨fun name apart => ?_, ?_⟩
            · rw [Entries.get?_append, Entries.get?_cons, if_neg apart.symm, Entries.get?_nil,
                Option.or_none]
            · rw [Entries.get?_append, fresh definition (List.mem_cons_self ..), Entries.get?_cons,
                if_pos rfl, Option.none_or]
      rw [List.map_cons, List.nodup_cons] at distinct
      have still : ∀ other ∈ rest, middle.get? other.name = none := by
        intro other member
        rw [same other.name fun named => distinct.1 (named ▸ List.mem_map_of_mem member)]
        exact fresh other (List.mem_cons_of_mem _ member)
      obtain ⟨untouched, each⟩ := ih distinct.2
        (fun other member => bound other (List.mem_cons_of_mem _ member)) still others
      constructor
      · intro name outside
        rw [List.map_cons, List.mem_cons, not_or] at outside
        rw [untouched name outside.2, same name outside.1]
      · intro other member
        rcases List.mem_cons.mp member with rfl | later
        · rwa [untouched _ distinct.1, here]
        · exact each other later

/-- Arguments that have values have such as may stand there, and no others are given. -/
theorem takes_of_argumentValues? {bindings values : Entries Value}
    {definitions : List ArgumentDefinition} {given : Arguments}
    (distinct : (definitions.map ArgumentDefinition.name).Nodup)
    (bound : ∀ definition ∈ definitions, definition.Bound system bindings given)
    (done : argumentValues? system bindings definitions given = some values) :
    (∀ name, name ∉ definitions.map ArgumentDefinition.name → values.get? name = none) ∧
    ∀ definition ∈ definitions, definition.Takes system (values.get? definition.name) :=
  takes_of_giveArguments distinct bound (fun _ _ => rfl) done

end

end GraphGateway.Graphql
