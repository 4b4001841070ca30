import GraphGateway.Proofs.Decimal.Compared
import GraphGateway.Proofs.Outcome
import GraphGateway.Settings.Connection
import GraphGateway.Settings.Features

/-!
Settings that are changed field by field.  A value that is not fit for its field is refused and
changes nothing, so every field keeps within its bounds.  The rule that a pause is no longer than all
attempts together is looked at only once the new value is in its place: a value that breaks it is
refused as well, but stays.
-/
namespace GraphGateway.Settings

open Decimal (IsFinite IsNumber)

section Bounds

/-- A double between two bounds. -/
structure IsWithin (least most number : Float) : Prop where
  least : least ≤ number
  most : number ≤ most

theorem isWithin_of_readNumber {least most number : Float} {value : Value}
    (known : IsNumber least) (read : readNumber least most value = .ok number) :
    IsWithin least most number := by
  unfold readNumber at read
  obtain ⟨found, -, bounded⟩ := Outcome.bind_ok_iff.mp read
  by_cases below : found ≤ most
  · by_cases short : found < least
    · simp only [below, decide_true, Bool.not_true, Bool.false_eq_true, ↓reduceIte, short,
        bind_pure_comp] at bounded
      cases bounded
    · simp only [below, decide_true, Bool.not_true, Bool.false_eq_true, ↓reduceIte,
        short] at bounded
      cases bounded
      exact ⟨(Decimal.not_lt_iff_le (Decimal.isNumber_of_le below).1 known).mp short, below⟩
  · simp only [below, decide_false, Bool.not_false, ↓reduceIte] at bounded
    cases bounded

theorem le_of_readWhole {least most number : Int} {value : Value}
    (read : readWhole least most value = .ok number) : least ≤ number ∧ number ≤ most := by
  unfold readWhole at read
  obtain ⟨found, -, bounded⟩ := Outcome.bind_ok_iff.mp read
  by_cases large : most < found
  · simp only [large, ↓reduceIte] at bounded
    cases bounded
  · by_cases small : found < least
    · simp only [large, ↓reduceIte, small, bind_pure_comp] at bounded
      cases bounded
    · simp only [large, ↓reduceIte, small] at bounded
      cases bounded
      exact ⟨Int.not_lt.mp small, Int.not_lt.mp large⟩

theorem ne_empty_of_readFilledText {text : String} {value : Value}
    (read : readFilledText value = .ok text) : text ≠ "" := by
  unfold readFilledText at read
  obtain ⟨found, -, filled⟩ := Outcome.bind_ok_iff.mp read
  split at filled
  · cases filled
  · next some_ =>
    cases filled
    rintro rfl
    exact some_ rfl

end Bounds

/-- The address names one of the schemes in front of a `://`. -/
structure IsAddress (uri : String) : Prop where
  filled : uri ≠ ""
  marked : (Connection.schemeOf uri.toList).length ≠ uri.toList.length
  scheme : String.ofList (Connection.schemeOf uri.toList) ∈ Connection.schemes

theorem isAddress_of_readUri {uri : String} {value : Value}
    (read : Connection.readUri value = .ok uri) : IsAddress uri := by
  unfold Connection.readUri at read
  obtain ⟨found, filled, known⟩ := Outcome.bind_ok_iff.mp read
  dsimp only at known
  by_cases strange : ((Connection.schemeOf found.toList).length = found.toList.length ||
      !Connection.schemes.contains (String.ofList (Connection.schemeOf found.toList))) = true
  · rw [if_pos strange] at known
    cases known
  · rw [if_neg strange] at known
    cases known
    simp only [Bool.or_eq_true, decide_eq_true_eq, Bool.not_eq_true', not_or,
      Bool.not_eq_false, List.contains_iff_mem] at strange
    exact ⟨ne_empty_of_readFilledText filled, strange.1, strange.2⟩

namespace Connection

/-- All fields are within their bounds. -/
structure IsFit (connection : Connection) : Prop where
  uri : IsAddress connection.uri
  username : connection.username ≠ ""
  poolSize : 1 ≤ connection.poolSize ∧ connection.poolSize ≤ 200
  acquisitionTimeout : IsWithin 1.0 300.0 connection.acquisitionTimeout
  transactionRetryTime : IsWithin 1.0 120.0 connection.transactionRetryTime
  timeout : IsWithin 1.0 120.0 connection.timeout
  fetchSize : 100 ≤ connection.fetchSize ∧ connection.fetchSize ≤ 10000
  attempts : 1 ≤ connection.attempts ∧ connection.attempts ≤ 10
  retryDelay : IsWithin 0.0 30.0 connection.retryDelay

/-- The first pause is no longer than all attempts together. -/
def KeepsRetryRule (connection : Connection) : Prop :=
  connection.retryDelay ≤ connection.timeout * Float.ofInt connection.attempts

/-- The settings that may be had. -/
structure IsValid (connection : Connection) : Prop where
  fit : connection.IsFit
  rule : connection.KeepsRetryRule

variable {connection : Connection}

/-- The time of all attempts is a number, so the rule is kept or broken. -/
theorem IsFit.retryIssues_eq_nil_iff (fit : connection.IsFit) :
    connection.retryIssues = [] ↔ connection.KeepsRetryRule := by
  have least : IsFinite 1.0 := by decide +kernel
  have most : IsFinite 120.0 := by decide +kernel
  have counts : ∀ count : Fin 11, IsFinite (Float.ofInt (count : Nat)) := by decide +kernel
  have timeout : IsFinite connection.timeout :=
    Decimal.isFinite_of_between least most fit.timeout.least fit.timeout.most
  have attempts : IsFinite (Float.ofInt connection.attempts) := by
    obtain ⟨some_, few⟩ := fit.attempts
    have count := counts ⟨connection.attempts.toNat, by omega⟩
    rwa [Int.toNat_of_nonneg (by omega)] at count
  unfold KeepsRetryRule
  rw [← Decimal.not_lt_iff_le (Decimal.isNumber_mul timeout attempts)
    (Decimal.isNumber_of_le fit.retryDelay.most).1]
  unfold retryIssues attemptTime
  split
  · next broken => exact ⟨fun none_ => (List.cons_ne_nil _ _ none_).elim, absurd broken⟩
  · next kept => exact ⟨fun _ => kept, fun _ => rfl⟩

/-- The issue of a broken rule is one of the settings as a whole. -/
theorem retryIssues_ne_field (connection : Connection) (name : String) (flaw : Flaw) :
    connection.retryIssues ≠ [⟨some name, flaw⟩] := by
  unfold retryIssues
  split
  · rintro ⟨⟩
  · rintro ⟨⟩

end Connection

structure Features.IsFit (features : Features) : Prop where
  sequenceProperty : Schema.isSimpleIdentifier features.sequenceProperty = true
  sequenceLabel : Schema.isSimpleIdentifier features.sequenceLabel = true
  maxPageSize : ∀ size, features.maxPageSize = some size → 1 ≤ size ∧ size ≤ 10000

section Fields

variable {α β : Type} {fit : α → Prop} {settings : α} {name : String}

/-- What comes of setting one field: the value is refused and nothing changed, or it is set and the
settings are fit. -/
def SetsOrRefuses (fit : α → Prop) (settings : α) (name : String) (came : α × List Issue) : Prop :=
  (∃ changed, fit changed ∧ came = (changed, [])) ∨ ∃ flaw, came = (settings, [⟨some name, flaw⟩])

theorem setsOrRefuses_assigned {reading : Checked β} {set : β → α}
    (sets : ∀ value, reading = .ok value → fit (set value)) :
    SetsOrRefuses fit settings name (assigned settings name reading set) := by
  cases reading with
  | ok value => exact .inl ⟨_, sets value rfl, rfl⟩
  | error flaw => exact .inr ⟨flaw, rfl⟩

theorem setsOrRefuses_ite {condition : Prop} [Decidable condition] {came other : α × List Issue}
    (holds : SetsOrRefuses fit settings name came) (fails : SetsOrRefuses fit settings name other) :
    SetsOrRefuses fit settings name (if condition then came else other) := by
  split
  · exact holds
  · exact fails

theorem Connection.assignField_sets {connection : Connection} (fit : connection.IsFit)
    (name : String) (value : Value) :
    SetsOrRefuses Connection.IsFit connection name (connection.assignField name value) := by
  have zero : IsNumber 0.0 := Decimal.IsFinite.isNumber (by decide +kernel)
  have one : IsNumber 1.0 := Decimal.IsFinite.isNumber (by decide +kernel)
  unfold assignField
  apply setsOrRefuses_ite
  · exact setsOrRefuses_assigned fun _ read => { fit with uri := isAddress_of_readUri read }
  apply setsOrRefuses_ite
  · exact setsOrRefuses_assigned fun _ read =>
      { fit with username := ne_empty_of_readFilledText read }
  apply setsOrRefuses_ite
  · exact setsOrRefuses_assigned fun _ _ => { fit with }
  apply setsOrRefuses_ite
  · exact setsOrRefuses_assigned fun _ _ => { fit with }
  apply setsOrRefuses_ite
  · exact setsOrRefuses_assigned fun _ read => { fit with poolSize := le_of_readWhole read }
  apply setsOrRefuses_ite
  · exact setsOrRefuses_assigned fun _ read =>
      { fit with acquisitionTimeout := isWithin_of_readNumber one read }
  apply setsOrRefuses_ite
  · exact setsOrRefuses_assigned fun _ read =>
      { fit with transactionRetryTime := isWithin_of_readNumber one read }
  apply setsOrRefuses_ite
  · exact setsOrRefuses_assigned fun _ read =>
      { fit with timeout := isWithin_of_readNumber one read }
  apply setsOrRefuses_ite
  · exact setsOrRefuses_assigned fun _ read => { fit with fetchSize := le_of_readWhole read }
  apply setsOrRefuses_ite
  · exact setsOrRefuses_assigned fun _ read => { fit with attempts := le_of_readWhole read }
  apply setsOrRefuses_ite
  · exact setsOrRefuses_assigned fun _ read =>
      { fit with retryDelay := isWithin_of_readNumber zero read }
  exact .inr ⟨.noSuchField, rfl⟩

theorem isSimpleIdentifier_of_readIdentifier {text : String} {value : Value}
    (read : Features.readIdentifier value = .ok text) : Schema.isSimpleIdentifier text = true := by
  unfold Features.readIdentifier at read
  obtain ⟨found, -, plain⟩ := Outcome.bind_ok_iff.mp read
  cases simple : Schema.isSimpleIdentifier found with
  | false =>
      rw [simple] at plain
      cases plain
  | true =>
      rw [simple] at plain
      cases plain
      exact simple

theorem le_of_readPageSize {size : Option Int} {value : Value}
    (read : Features.readPageSize value = .ok size) :
    ∀ number, size = some number → 1 ≤ number ∧ number ≤ 10000 := by
  rintro number rfl
  unfold Features.readPageSize readOptional at read
  split at read
  · cases read
  · obtain ⟨found, same, told⟩ := Outcome.map_ok_iff.mp read
    cases told
    exact le_of_readWhole same

theorem Features.assignField_sets {features : Features} (fit : features.IsFit)
    (name : String) (value : Value) :
    SetsOrRefuses Features.IsFit features name (features.assignField name value) := by
  unfold assignField
  apply setsOrRefuses_ite
  · exact setsOrRefuses_assigned fun _ _ => { fit with }
  apply setsOrRefuses_ite
  · exact setsOrRefuses_assigned fun _ read =>
      { fit with sequenceProperty := isSimpleIdentifier_of_readIdentifier read }
  apply setsOrRefuses_ite
  · exact setsOrRefuses_assigned fun _ read =>
      { fit with sequenceLabel := isSimpleIdentifier_of_readIdentifier read }
  apply setsOrRefuses_ite
  · exact setsOrRefuses_assigned fun _ _ => { fit with }
  apply setsOrRefuses_ite
  · exact setsOrRefuses_assigned fun _ read => { fit with maxPageSize := le_of_readPageSize read }
  apply setsOrRefuses_ite
  · exact setsOrRefuses_assigned fun _ _ => { fit with }
  exact .inr ⟨.noSuchField, rfl⟩

end Fields

/-- One assignment: the settings before and after it, and why it is refused. -/
structure Assignment (α : Type) where
  name : String
  value : Value
  before : α
  after : α
  rejection : Option Rejection

/-- Assignments that are made one after another, each to the settings that the last one left. -/
def assigning {α : Type} (assign : α → String → Value → α × Option Rejection) (settings : α) :
    List (String × Value) → List (Assignment α)
  | [] => []
  | (name, value) :: rest =>
      let came := assign settings name value
      ⟨name, value, settings, came.1, came.2⟩ :: assigning assign came.1 rest

namespace Assignment

/-- An assignment that is refused leaves the settings as they were. -/
def IsAtomic {α : Type} (assignment : Assignment α) : Prop :=
  assignment.rejection.isSome = true → assignment.after = assignment.before

/-- The assignment is refused because the settings with the new value break the rule. -/
def IsLate (assignment : Assignment Connection) : Prop :=
  assignment.rejection = some (.issues assignment.after.retryIssues)

/-- The assignment is refused late, and leaves settings that break the rule, or else it leaves the
settings as they were if it is refused, and keeps the rule. -/
def Settles (assignment : Assignment Connection) : Prop :=
  (assignment.IsLate ∧ ¬ assignment.after.KeepsRetryRule) ∨
    (¬ assignment.IsLate ∧ assignment.IsAtomic ∧
      (assignment.before.KeepsRetryRule → assignment.after.KeepsRetryRule))

end Assignment

section Runs

/-- What each assignment to fit settings keeps, all of them keep. -/
theorem assigning_keeps {α : Type} {assign : α → String → Value → α × Option Rejection}
    {fit : α → Prop} {kept : Assignment α → Prop}
    (each : ∀ settings name value, fit settings →
      fit (assign settings name value).1 ∧
        kept ⟨name, value, settings, (assign settings name value).1,
          (assign settings name value).2⟩)
    {settings : α} (starts : fit settings) (assignments : List (String × Value)) :
    ∀ assignment ∈ assigning assign settings assignments, kept assignment := by
  induction assignments generalizing settings with
  | nil => exact fun _ none_ => absurd none_ List.not_mem_nil
  | cons first rest ih =>
      obtain ⟨name, value⟩ := first
      obtain ⟨stays, done⟩ := each settings name value starts
      exact List.forall_mem_cons.mpr ⟨done, ih stays⟩

variable {connection : Connection}

/-- An assignment to fit settings leaves them fit. -/
theorem Connection.assign_settles (fit : connection.IsFit) (name : String) (value : Value) :
    (connection.assign name value).1.IsFit ∧
      Assignment.Settles ⟨name, value, connection, (connection.assign name value).1,
        (connection.assign name value).2⟩ := by
  unfold assign assignedTo
  split
  · exact ⟨fit, .inr ⟨by rintro ⟨⟩, fun _ => rfl, id⟩⟩
  · split
    · exact ⟨fit, .inr ⟨by rintro ⟨⟩, fun _ => rfl, id⟩⟩
    · unfold assignChecked
      rcases Connection.assignField_sets fit name value with
        ⟨changed, stays, set⟩ | ⟨flaw, refused⟩
      · rw [set]
        refine ⟨stays, ?_⟩
        by_cases kept : changed.retryIssues = []
        · right
          simp only [kept, List.isEmpty_nil, ↓reduceIte]
          refine ⟨?_, ?_, fun _ => stays.retryIssues_eq_nil_iff.mp kept⟩
          · intro late
            cases late
          · intro some_
            cases some_
        · left
          constructor
          · exact if_neg (by simpa using kept)
          · exact fun keeps => kept (stays.retryIssues_eq_nil_iff.mpr keeps)
      · rw [refused]
        refine ⟨fit, .inr ⟨?_, fun _ => rfl, id⟩⟩
        intro late
        have issues := Rejection.issues.inj (Option.some.inj late)
        exact connection.retryIssues_ne_field name flaw issues.symm

theorem Features.assign_keeps {features : Features} (fit : features.IsFit) (name : String)
    (value : Value) :
    (features.assign name value).1.IsFit ∧
      ((features.assign name value).2.isSome = true → (features.assign name value).1 = features) := by
  have settable : ([] : List String).contains name ≠ true := Bool.false_ne_true
  unfold assign assignedTo
  rw [if_neg settable]
  split
  · exact ⟨fit, fun _ => rfl⟩
  · rcases Features.assignField_sets fit name value with
      ⟨changed, stays, set⟩ | ⟨flaw, refused⟩
    · rw [set]
      exact ⟨stays, fun some_ => Bool.noConfusion some_⟩
    · rw [refused]
      exact ⟨fit, fun _ => rfl⟩

/-- As long as no assignment breaks the rule, the settings stay valid. -/
theorem Connection.assigning_valid (valid : connection.IsValid)
    {assignments : List (String × Value)}
    (timely : ∀ assignment ∈ assigning Connection.assign connection assignments,
      ¬ assignment.IsLate) :
    ∀ assignment ∈ assigning Connection.assign connection assignments,
      assignment.after.IsValid ∧ assignment.IsAtomic := by
  induction assignments generalizing connection with
  | nil => exact fun _ none_ => absurd none_ List.not_mem_nil
  | cons first rest ih =>
      obtain ⟨name, value⟩ := first
      obtain ⟨now, later⟩ := List.forall_mem_cons.mp timely
      obtain ⟨fit, settles⟩ := Connection.assign_settles valid.fit name value
      rcases settles with ⟨late, -⟩ | ⟨-, atomic, keeps⟩
      · exact absurd late now
      · have stays : (connection.assign name value).1.IsValid := ⟨fit, keeps valid.rule⟩
        exact List.forall_mem_cons.mpr ⟨⟨stays, atomic⟩, ih stays later⟩

end Runs

/-- Assignments keep all settings within the bounds of their fields.  Those of a schema are left as
they were by each assignment that is refused.  Those of a connection are left so, and stay valid, as
long as no assignment breaks the rule on retries: such a one is refused, but its value stays. -/
theorem assignments_valid_iff {features : Features} {connection : Connection} (fit : features.IsFit)
    (valid : connection.IsValid) (assignments : List (String × Value)) :
    (∀ assignment ∈ assigning Features.assign features assignments,
      assignment.after.IsFit ∧ assignment.IsAtomic) ∧
    (∀ assignment ∈ assigning Connection.assign connection assignments,
      assignment.after.IsFit ∧ assignment.Settles) ∧
    ((∀ assignment ∈ assigning Connection.assign connection assignments,
        assignment.after.IsValid ∧ assignment.IsAtomic) ↔
      ∀ assignment ∈ assigning Connection.assign connection assignments, ¬ assignment.IsLate) := by
  have settled : ∀ assignment ∈ assigning Connection.assign connection assignments,
      assignment.after.IsFit ∧ assignment.Settles := by
    refine assigning_keeps ?_ valid.fit assignments
    intro connection name value fit
    obtain ⟨stays, settles⟩ := Connection.assign_settles fit name value
    exact ⟨stays, stays, settles⟩
  refine ⟨?_, settled, ?_, Connection.assigning_valid valid⟩
  · refine assigning_keeps ?_ fit assignments
    intro features name value fit
    obtain ⟨stays, unchanged⟩ := Features.assign_keeps fit name value
    exact ⟨stays, stays, unchanged⟩
  · intro valid assignment member late
    rcases (settled assignment member).2 with ⟨-, breaks⟩ | ⟨timely, -⟩
    · exact breaks (valid assignment member).1.rule
    · exact timely late

theorem Features.isFit_default : Features.IsFit {} where
  sequenceProperty := by decide
  sequenceLabel := by decide
  maxPageSize _ none_ := by cases none_

/-- The default settings with fit attempts are fit. -/
theorem Connection.isFit_of_attempts {timeout : Float} {attempts : Int}
    (seconds : IsWithin 1.0 120.0 timeout) (count : 1 ≤ attempts ∧ attempts ≤ 10) :
    Connection.IsFit { timeout, attempts } := by
  have uri : IsAddress "bolt://localhost:7687" := ⟨by decide, by decide, by decide +kernel⟩
  have username : "neo4j" ≠ "" := by decide
  have poolSize : (1 : Int) ≤ 10 ∧ (10 : Int) ≤ 200 := by decide
  have acquisition : IsWithin 1.0 300.0 60.0 := ⟨by decide +kernel, by decide +kernel⟩
  have transaction : IsWithin 1.0 120.0 30.0 := ⟨by decide +kernel, by decide +kernel⟩
  have fetchSize : (100 : Int) ≤ 1000 ∧ (1000 : Int) ≤ 10000 := by decide
  have delay : IsWithin 0.0 30.0 1.0 := ⟨by decide +kernel, by decide +kernel⟩
  exact ⟨uri, username, poolSize, acquisition, transaction, seconds, fetchSize, count, delay⟩

theorem Connection.isFit_default : Connection.IsFit {} :=
  Connection.isFit_of_attempts ⟨by decide +kernel, by decide +kernel⟩ (by decide)

/-- Settings with one short attempt. -/
def hastyConnection : Connection where
  timeout := 1.0
  attempts := 1

theorem hastyConnection_isValid : hastyConnection.IsValid where
  fit := Connection.isFit_of_attempts ⟨by decide +kernel, by decide +kernel⟩ (by decide)
  rule := by
    unfold Connection.KeepsRetryRule
    decide +kernel

theorem assignments_valid_iff_hasty :
    (∀ assignment ∈ assigning Features.assign {}
        [("max_page_size", .int 0), ("max_page_size", .int 50)],
      assignment.after.IsFit ∧ assignment.IsAtomic) ∧
    ∀ assignment ∈ assigning Connection.assign hastyConnection
        [("max_connection_retries", .int 0), ("retry_delay_seconds", .float 0.5)],
      assignment.after.IsValid ∧ assignment.IsAtomic := by
  constructor
  · exact (assignments_valid_iff Features.isFit_default hastyConnection_isValid _).1
  · apply (assignments_valid_iff Features.isFit_default hastyConnection_isValid _).2.2.mpr
    unfold Assignment.IsLate
    decide +kernel

/-- A pause that is too long for all attempts is refused, and set. -/
theorem exists_late_assignment :
    hastyConnection.IsValid ∧
      (hastyConnection.assign "retry_delay_seconds" (.float 5.0)).2.isSome = true ∧
      (hastyConnection.assign "retry_delay_seconds" (.float 5.0)).1.retryDelay = 5.0 ∧
      ¬ (hastyConnection.assign "retry_delay_seconds" (.float 5.0)).1.KeepsRetryRule := by
  refine ⟨hastyConnection_isValid, by decide +kernel, by decide +kernel, ?_⟩
  unfold Connection.KeepsRetryRule
  decide +kernel

end GraphGateway.Settings
