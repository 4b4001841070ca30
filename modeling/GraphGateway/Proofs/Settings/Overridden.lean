import GraphGateway.Proofs.Settings.Assigned

/-!
Settings with what the environment says of them.  Each variable speaks for one field and is heard if
its text can be read; every other field is that of the settings it starts from.  The settings that
come of it are refused exactly if they are not valid.
-/
namespace GraphGateway.Settings

open Decimal (IsNumber)

section Variables

variable {environment : Entries String} {override : Override} {overrides : List Override}
  {state : Entries Value × List String}

/-- What a variable says, if it is there and can be read. -/
def said {α : Type} (environment : Entries String) (source : String) (read : String → Option α) :
    Option α :=
  (environment.get? source).bind read

theorem get?_apply (key : String) : (override.apply environment state).1.get? key =
    if override.field = key then
      (said environment override.source override.read).or (state.1.get? key)
    else state.1.get? key := by
  unfold Override.apply said
  cases environment.get? override.source with
  | none => exact (ite_self (state.1.get? key)).symm
  | some text =>
      dsimp only [Option.bind_some]
      cases override.read text with
      | none => exact (ite_self (state.1.get? key)).symm
      | some value => exact Entries.get?_put state.1 override.field key value

theorem keys_apply_subset : (override.apply environment state).1.keys ⊆
    override.field :: state.1.keys := by
  unfold Override.apply
  split
  · exact List.subset_cons_self _ _
  · split
    · rw [Entries.keys_put]
      split
      · exact List.subset_cons_self _ _
      · exact fun key member => by simpa [or_comm] using member
    · exact List.subset_cons_self _ _

/-- A field that no variable speaks for stays as it is. -/
theorem get?_foldl_of_not_mem {key : String} (other : key ∉ overrides.map Override.field) :
    (overrides.foldl (fun state override => override.apply environment state) state).1.get? key =
      state.1.get? key := by
  induction overrides generalizing state with
  | nil => rfl
  | cons override rest ih =>
      rw [List.map_cons, List.mem_cons, not_or] at other
      rw [List.foldl_cons, ih other.2, get?_apply, if_neg (Ne.symm other.1)]

/-- A field that one variable speaks for is what the variable says, or stays as it is. -/
theorem get?_overridden (distinct : (overrides.map Override.field).Nodup)
    (member : override ∈ overrides) (base : Entries Value) :
    (overridden overrides environment base).1.get? override.field =
      (said environment override.source override.read).or (base.get? override.field) := by
  have folded : ∀ (state : Entries Value × List String),
      (overrides.foldl (fun state override => override.apply environment state) state).1.get?
          override.field =
        (said environment override.source override.read).or (state.1.get? override.field) := by
    induction overrides with
    | nil => cases member
    | cons first rest ih =>
        intro state
        obtain ⟨alone, others⟩ := List.nodup_cons.mp distinct
        rw [List.foldl_cons]
        rcases List.mem_cons.mp member with rfl | later
        · rw [get?_foldl_of_not_mem alone, get?_apply, if_pos rfl]
        · have apart : first.field ≠ override.field := fun same =>
            alone (same ▸ List.mem_map_of_mem later)
          rw [ih others later, get?_apply, if_neg apart]
  exact folded (base, [])

theorem keys_overridden_subset (overrides : List Override) (environment : Entries String)
    (base : Entries Value) : (overridden overrides environment base).1.keys ⊆
      overrides.map Override.field ++ base.keys := by
  have folded : ∀ (state : Entries Value × List String),
      (overrides.foldl (fun state override => override.apply environment state) state).1.keys ⊆
        overrides.map Override.field ++ state.1.keys := by
    induction overrides with
    | nil => exact fun state => List.Subset.refl _
    | cons first rest ih =>
        intro state key member
        rcases List.mem_append.mp (ih _ member) with later | before
        · exact List.mem_cons_of_mem _ (List.mem_append_left _ later)
        · rcases List.mem_cons.mp (keys_apply_subset before) with rfl | before
          · exact List.mem_cons_self ..
          · exact List.mem_cons_of_mem _ (List.mem_append_right _ before)
  exact folded (base, [])

theorem strangers_eq_nil_iff {known : List String} {given : Entries Value} :
    strangers known given = [] ↔ given.keys ⊆ known := by
  unfold strangers
  simp [List.filter_eq_nil_iff, List.subset_def]

end Variables

section Reading

variable {α : Type}

/-- Reading the form of a value gives the value back if it is fit, and is refused otherwise. -/
def ReadsBack (read : Value → Checked α) (form : α → Value) (fit : α → Prop) : Prop :=
  ∀ value found, read (form value) = .ok found ↔ found = value ∧ fit value

theorem readsBack_of_accepts {read : Value → Checked α} {form : α → Value} {fit : α → Prop}
    (accepts : ∀ value, fit value → read (form value) = .ok value)
    (refuses : ∀ value, ¬ fit value → ∃ flaw, read (form value) = .error flaw) :
    ReadsBack read form fit := by
  intro value found
  by_cases fits : fit value
  · rw [accepts value fits, Except.ok.injEq, eq_comm, and_iff_left fits]
  · obtain ⟨flaw, refused⟩ := refuses value fits
    rw [refused]
    exact ⟨fun impossible => (nomatch impossible), fun both => absurd both.2 fits⟩

/-- A value that is always read is read back. -/
theorem readsBack_of_eq {read : Value → Checked α} {form : α → Value}
    (same : ∀ value, read (form value) = .ok value) : ReadsBack read form fun _ => True :=
  readsBack_of_accepts (fun value _ => same value) fun _ unfit => absurd trivial unfit

theorem readsBack_whole (least most : Int) : ReadsBack (readWhole least most) .int
    fun number => least ≤ number ∧ number ≤ most := by
  apply readsBack_of_accepts <;> intro number fits <;> unfold readWhole <;>
    dsimp only [readAnyWhole, bind, Except.bind]
  · rw [if_neg (Int.not_lt.mpr fits.2), if_neg (Int.not_lt.mpr fits.1)]
    rfl
  · by_cases large : most < number
    · rw [if_pos large]
      exact ⟨_, rfl⟩
    · have small : number < least := by omega
      rw [if_neg large, if_pos small]
      exact ⟨_, rfl⟩

theorem readsBack_number {least : Float} (known : IsNumber least) (most : Float) :
    ReadsBack (readNumber least most) .float (IsWithin least most) := by
  apply readsBack_of_accepts <;> intro number fits <;> unfold readNumber <;>
    dsimp only [readAnyNumber, bind, Except.bind]
  · have above : ¬ number < least :=
      (Decimal.not_lt_iff_le (Decimal.isNumber_of_le fits.most).1 known).mpr fits.least
    simp only [fits.most, above, decide_true, Bool.not_true, Bool.false_eq_true, ↓reduceIte]
    rfl
  · by_cases below : number ≤ most
    · have less : number < least := by
        by_contra above
        have least := (Decimal.not_lt_iff_le (Decimal.isNumber_of_le below).1 known).mp above
        exact fits ⟨least, below⟩
      simp only [below, less, decide_true, Bool.not_true, Bool.false_eq_true, ↓reduceIte]
      exact ⟨_, rfl⟩
    · simp only [below, decide_false, Bool.not_false, ↓reduceIte]
      exact ⟨_, rfl⟩

theorem readsBack_filledText : ReadsBack readFilledText .text (· ≠ "") := by
  apply readsBack_of_accepts <;> intro text fits <;> unfold readFilledText <;>
    dsimp only [readText, bind, Except.bind]
  · rw [if_neg (by simpa using fits)]
    rfl
  · rw [if_pos (by simpa using fits)]
    exact ⟨_, rfl⟩

theorem readsBack_identifier : ReadsBack Features.readIdentifier .text
    fun name => Schema.isSimpleIdentifier name = true := by
  apply readsBack_of_accepts <;> intro name plain <;> unfold Features.readIdentifier
  · have filled : name ≠ "" := by
      rintro rfl
      exact absurd plain (by decide)
    rw [(readsBack_filledText name name).mpr ⟨rfl, filled⟩]
    dsimp only [bind, Except.bind]
    rw [plain]
    rfl
  · rcases read : readFilledText (.text name) with flaw | found
    · exact ⟨flaw, rfl⟩
    · rw [((readsBack_filledText name found).mp read).1]
      dsimp only [bind, Except.bind]
      rw [eq_false_of_ne_true plain]
      exact ⟨_, rfl⟩

theorem readsBack_uri : ReadsBack Connection.readUri .text IsAddress := by
  apply readsBack_of_accepts <;> intro uri fits <;> unfold Connection.readUri
  · rw [(readsBack_filledText uri uri).mpr ⟨rfl, fits.filled⟩]
    dsimp only [bind, Except.bind]
    rw [if_neg]
    · rfl
    · simp [fits.marked, fits.scheme]
  · rcases read : readFilledText (.text uri) with flaw | found
    · exact ⟨flaw, rfl⟩
    · obtain ⟨rfl, filled⟩ := (readsBack_filledText uri found).mp read
      dsimp only [bind, Except.bind]
      rw [if_pos]
      · exact ⟨_, rfl⟩
      · by_contra known
        simp only [Bool.or_eq_true, decide_eq_true_eq, Bool.not_eq_true', not_or,
          Bool.not_eq_false, List.contains_iff_mem] at known
        exact fits ⟨filled, known.1, known.2⟩

/-- The form of a value that may be missing. -/
def orNull (form : α → Value) (value : Option α) : Value := (value.map form).getD .null

/-- A value that may be missing reads back as one that may not does. -/
theorem ReadsBack.optional {read : Value → Checked α} {form : α → Value} {fit : α → Prop}
    (reads : ReadsBack read form fit) (some_ : ∀ value, form value ≠ .null) :
    ReadsBack (readOptional read) (orNull form) fun value =>
      ∀ inner, value = some inner → fit inner := by
  have present : ∀ value, readOptional read (form value) = some <$> read (form value) := by
    intro value
    unfold readOptional
    split
    · next missing => exact absurd missing (some_ value)
    · rfl
  apply readsBack_of_accepts
  · intro value fits
    cases value with
    | none => rfl
    | some inner =>
        rw [orNull, Option.map_some, Option.getD_some, present,
          (reads inner inner).mpr ⟨rfl, fits inner rfl⟩]
        rfl
  · intro value unfit
    cases value with
    | none => exact absurd (fun inner impossible => nomatch impossible) unfit
    | some inner =>
        rw [orNull, Option.map_some, Option.getD_some, present]
        rcases read_ : read (form inner) with flaw | found
        · exact ⟨flaw, rfl⟩
        · refine absurd (fun other same => ?_) unfit
          cases same
          exact ((reads inner found).mp read_).2

end Reading

section Fields

variable {α γ : Type} {overrides : List Override}

theorem said_eq_map {environment : Entries String} {read : String → Option Value}
    {parse : String → Option α} {form : α → Value}
    (parses : ∀ text, read text = (parse text).map form) (source : String) :
    said environment source read = (said environment source parse).map form := by
  unfold said
  cases environment.get? source with
  | none => rfl
  | some text => exact parses text

/-- A field is read as what its variable says, or else as it is in the settings to start from, which
are the default ones if there are no others. -/
theorem readField_overridden_iff (environment : Entries String) (base : Option γ)
    (entries : γ → Entries Value) (initial : γ) (get : γ → α) (parse : String → Option α)
    (distinct : (overrides.map Override.field).Nodup) {source field : String}
    {readSaid : String → Option Value} (member : ⟨source, field, readSaid⟩ ∈ overrides)
    {read : Value → Checked α} {form : α → Value} {fit : α → Prop} (reads : ReadsBack read form fit)
    (parses : ∀ text, readSaid text = (parse text).map form)
    (stands : ∀ settings, (entries settings).get? field = some (form (get settings)))
    (fits : fit (get initial)) (found : α) :
    readField (overridden overrides environment ((base.map entries).getD [])).1 field
        (get initial) read = .ok found ↔
      found = (said environment source parse).getD (get (base.getD initial)) ∧
        fit ((said environment source parse).getD (get (base.getD initial))) := by
  unfold readField
  have held : (overridden overrides environment ((base.map entries).getD [])).1.get? field =
      ((said environment source parse).map form).or (((base.map entries).getD []).get? field) := by
    rw [← said_eq_map parses]
    exact get?_overridden distinct member _
  rw [held]
  cases said environment source parse with
  | some value => exact reads value found
  | none =>
      cases base with
      | some settings =>
          rw [Option.map_none, Option.none_or, Option.map_some, Option.getD_some, stands]
          exact reads (get settings) found
      | none => exact ⟨fun same => ⟨(Except.ok.inj same).symm, fits⟩, fun same => same.1 ▸ rfl⟩

/-- No field is a stranger if the variables and the settings to start from have known ones only. -/
theorem strangers_overridden {known : List String} {entries : γ → Entries Value}
    (spoken : overrides.map Override.field ⊆ known)
    (own : ∀ settings, (entries settings).keys = known) (environment : Entries String)
    (base : Option γ) :
    strangers known (overridden overrides environment ((base.map entries).getD [])).1 = [] := by
  rw [strangers_eq_nil_iff]
  refine List.Subset.trans (keys_overridden_subset overrides environment _) ?_
  refine List.append_subset.mpr ⟨spoken, ?_⟩
  cases base with
  | none => exact List.nil_subset _
  | some settings => exact own settings ▸ List.Subset.refl _

end Fields

/-- The words for yes, and those for no, in either case and with blanks around them. -/
def switchOf? (text : String) : Option Bool :=
  let word := Text.lower (String.ofList (Text.trimBlanks text.toList))
  if word ∈ ["1", "true", "yes", "on"] then some true
  else if word ∈ ["0", "false", "no", "off"] then some false
  else none

theorem readSwitch_eq (text : String) : readSwitch text = (switchOf? text).map .bool := by
  unfold readSwitch switchOf?
  generalize Text.lower (String.ofList (Text.trimBlanks text.toList)) = word
  dsimp only
  split
  all_goals try rfl
  next one true_ yes on zero false_ no off =>
    have noYes : word ∉ ["1", "true", "yes", "on"] := by simpa using ⟨one, true_, yes, on⟩
    have noNo : word ∉ ["0", "false", "no", "off"] := by simpa using ⟨zero, false_, no, off⟩
    rw [if_neg noYes, if_neg noNo]
    rfl

theorem readWord_eq (text : String) : readWord text = (some text).map .text := rfl

theorem readCount_eq (text : String) : readCount text = (Decimal.wholeOfText? text).map .int := rfl

theorem readSeconds_eq (text : String) :
    readSeconds text = (Decimal.floatOfText? text).map .float := rfl

namespace Features

/-- The settings with what the environment says of them. -/
def withEnvironment (environment : Entries String) (features : Features) : Features where
  relationshipProperties :=
    (said environment "RELGRAPH_RELATIONSHIP_PROPERTIES" switchOf?).getD
      features.relationshipProperties
  sequenceProperty :=
    (said environment "RELGRAPH_SEQUENCE_PROPERTY" some).getD features.sequenceProperty
  sequenceLabel := (said environment "RELGRAPH_SEQUENCE_LABEL" some).getD features.sequenceLabel
  cursorSecret :=
    (said environment "RELGRAPH_CURSOR_SECRET" fun text => some (some ⟨text⟩)).getD
      features.cursorSecret
  maxPageSize :=
    (said environment "RELGRAPH_MAX_PAGE_SIZE" fun text =>
      (Decimal.wholeOfText? text).map some).getD features.maxPageSize
  requireMatch :=
    (said environment "RELGRAPH_REQUIRE_CONNECT_MATCH" switchOf?).getD features.requireMatch

theorem ofEntries_ok_iff {given : Entries Value} {features : Features} :
    ofEntries given = .ok features ↔
      (readField given propertiesKey true readFlag = .ok features.relationshipProperties ∧
        readField given sequencePropertyKey "_seq" readIdentifier = .ok features.sequenceProperty ∧
        readField given sequenceLabelKey "_RelationshipSequence" readIdentifier =
          .ok features.sequenceLabel ∧
        readField given secretKey none (readOptional readSecret) = .ok features.cursorSecret ∧
        readField given pageSizeKey none readPageSize = .ok features.maxPageSize ∧
        readField given matchKey false readFlag = .ok features.requireMatch) ∧
      strangers keys given = [] := by
  unfold ofEntries
  constructor
  · intro made
    dsimp only at made
    split at made
    · next properties property label secret size match_ none_ =>
      cases made
      exact ⟨⟨properties, property, label, secret, size, match_⟩, none_⟩
    · cases made
  · rintro ⟨⟨properties, property, label, secret, size, match_⟩, none_⟩
    simp only [properties, property, label, secret, size, match_, none_]

theorem ofEnvironment_iff (environment : Entries String) (base : Option Features)
    (features : Features) : (ofEnvironment environment base).1 = .ok features ↔
      features = (base.getD {}).withEnvironment environment ∧ features.IsFit := by
  have distinct : (overrides.map Override.field).Nodup := by decide
  have spoken : overrides.map Override.field ⊆ keys := by decide
  have flag : ReadsBack readFlag .bool fun _ => True := readsBack_of_eq fun _ => rfl
  have word : ReadsBack readSecret (fun secret => .text secret.text) fun _ => True :=
    readsBack_of_eq fun _ => rfl
  have secretOrNone := word.optional fun _ => by rintro ⟨⟩
  have sizeOrNone := (readsBack_whole 1 10000).optional fun _ => by rintro ⟨⟩
  have properties := readField_overridden_iff environment base entries {} relationshipProperties
    switchOf? distinct (List.mem_of_getElem? (i := 0) rfl) flag readSwitch_eq (fun _ => rfl) trivial
  have property := readField_overridden_iff environment base entries {} sequenceProperty some
    distinct (List.mem_of_getElem? (i := 1) rfl) readsBack_identifier readWord_eq (fun _ => rfl)
    isFit_default.sequenceProperty
  have label := readField_overridden_iff environment base entries {} sequenceLabel some distinct
    (List.mem_of_getElem? (i := 2) rfl) readsBack_identifier readWord_eq (fun _ => rfl)
    isFit_default.sequenceLabel
  have secret := readField_overridden_iff environment base entries {} cursorSecret
    (fun text => some (some ⟨text⟩)) distinct (List.mem_of_getElem? (i := 3) rfl) secretOrNone
    (fun _ => rfl) (fun features => by show some _ = some _; cases features.cursorSecret <;> rfl)
    (fun _ none_ => nomatch none_)
  have size := readField_overridden_iff environment base entries {} maxPageSize
    (fun text => (Decimal.wholeOfText? text).map some) distinct (List.mem_of_getElem? (i := 4) rfl)
    sizeOrNone (fun text => by unfold readCount; cases Decimal.wholeOfText? text <;> rfl)
    (fun features => by show some _ = some _; cases features.maxPageSize <;> rfl)
    isFit_default.maxPageSize
  have match_ := readField_overridden_iff environment base entries {} requireMatch switchOf?
    distinct (List.mem_of_getElem? (i := 5) rfl) flag readSwitch_eq (fun _ => rfl) trivial
  change ofEntries (overridden overrides environment ((base.map entries).getD [])).1 =
    .ok features ↔ _
  rw [ofEntries_ok_iff, and_iff_left (strangers_overridden spoken (fun _ => rfl) environment base)]
  refine (and_congr (properties _) (and_congr (property _) (and_congr (label _)
    (and_congr (secret _) (and_congr (size _) (match_ _)))))).trans ?_
  obtain ⟨_, _, _, _, _, _⟩ := features
  constructor
  · rintro ⟨⟨rfl, -⟩, ⟨rfl, property⟩, ⟨rfl, label⟩, ⟨rfl, -⟩, ⟨rfl, size⟩, ⟨rfl, -⟩⟩
    exact ⟨rfl, property, label, size⟩
  · rintro ⟨same, fit⟩
    cases same
    exact ⟨⟨rfl, trivial⟩, ⟨rfl, fit.sequenceProperty⟩, ⟨rfl, fit.sequenceLabel⟩,
      ⟨rfl, fun _ _ => trivial⟩, ⟨rfl, fit.maxPageSize⟩, ⟨rfl, trivial⟩⟩

end Features

namespace Connection

/-- The settings with what the environment says of them. -/
def withEnvironment (environment : Entries String) (connection : Connection) : Connection where
  uri := (said environment "RELGRAPH_NEO4J_URI" some).getD connection.uri
  username := (said environment "RELGRAPH_NEO4J_USERNAME" some).getD connection.username
  password :=
    (said environment "RELGRAPH_NEO4J_PASSWORD" fun text => some ⟨text⟩).getD connection.password
  database :=
    (said environment "RELGRAPH_NEO4J_DATABASE" fun text => some (some text)).getD
      connection.database
  poolSize :=
    (said environment "RELGRAPH_MAX_POOL_SIZE" Decimal.wholeOfText?).getD connection.poolSize
  acquisitionTimeout :=
    (said environment "RELGRAPH_CONNECTION_ACQUISITION_TIMEOUT" Decimal.floatOfText?).getD
      connection.acquisitionTimeout
  transactionRetryTime :=
    (said environment "RELGRAPH_MAX_TRANSACTION_RETRY_TIME" Decimal.floatOfText?).getD
      connection.transactionRetryTime
  timeout :=
    (said environment "RELGRAPH_CONNECTION_TIMEOUT" Decimal.floatOfText?).getD connection.timeout
  fetchSize :=
    (said environment "RELGRAPH_FETCH_SIZE" Decimal.wholeOfText?).getD connection.fetchSize
  attempts :=
    (said environment "RELGRAPH_MAX_CONNECTION_RETRIES" Decimal.wholeOfText?).getD
      connection.attempts
  retryDelay :=
    (said environment "RELGRAPH_RETRY_DELAY" Decimal.floatOfText?).getD connection.retryDelay

theorem ofEntries_ok_iff {given : Entries Value} {connection : Connection} :
    ofEntries given = .ok connection ↔
      ((readField given uriKey "bolt://localhost:7687" readUri = .ok connection.uri ∧
        readField given usernameKey "neo4j" readFilledText = .ok connection.username ∧
        readField given passwordKey ⟨"neo4j"⟩ readSecret = .ok connection.password ∧
        readField given databaseKey none (readOptional readText) = .ok connection.database ∧
        readField given poolSizeKey 10 (readWhole 1 200) = .ok connection.poolSize ∧
        readField given acquisitionKey 60.0 (readNumber 1.0 300.0) =
          .ok connection.acquisitionTimeout ∧
        readField given transactionKey 30.0 (readNumber 1.0 120.0) =
          .ok connection.transactionRetryTime ∧
        readField given timeoutKey 30.0 (readNumber 1.0 120.0) = .ok connection.timeout ∧
        readField given fetchSizeKey 1000 (readWhole 100 10000) = .ok connection.fetchSize ∧
        readField given attemptsKey 3 (readWhole 1 10) = .ok connection.attempts ∧
        readField given delayKey 1.0 (readNumber 0.0 30.0) = .ok connection.retryDelay) ∧
      strangers keys given = []) ∧ connection.retryIssues = [] := by
  unfold ofEntries
  constructor
  · intro made
    dsimp only at made
    split at made
    · next uri username password database pool acquisition transaction timeout fetch attempts delay
        none_ =>
      split at made
      · next kept =>
        cases made
        exact ⟨⟨⟨uri, username, password, database, pool, acquisition, transaction, timeout, fetch,
          attempts, delay⟩, none_⟩, List.isEmpty_iff.mp kept⟩
      · cases made
    · cases made
  · rintro ⟨⟨⟨uri, username, password, database, pool, acquisition, transaction, timeout, fetch,
      attempts, delay⟩, none_⟩, kept⟩
    simp only [uri, username, password, database, pool, acquisition, transaction, timeout, fetch,
      attempts, delay, none_, kept, List.isEmpty_nil, ↓reduceIte]

theorem ofEnvironment_iff (environment : Entries String) (base : Option Connection)
    (connection : Connection) : (ofEnvironment environment base).1 = .ok connection ↔
      connection = (base.getD {}).withEnvironment environment ∧ connection.IsValid := by
  have distinct : (overrides.map Override.field).Nodup := by decide
  have spoken : overrides.map Override.field ⊆ keys := by decide
  have zero : IsNumber 0.0 := Decimal.IsFinite.isNumber (by decide +kernel)
  have one : IsNumber 1.0 := Decimal.IsFinite.isNumber (by decide +kernel)
  have word : ReadsBack readSecret (fun secret => .text secret.text) fun _ => True :=
    readsBack_of_eq fun _ => rfl
  have text : ReadsBack readText .text fun _ => True := readsBack_of_eq fun _ => rfl
  have textOrNone := text.optional fun _ => by rintro ⟨⟩
  have uri := readField_overridden_iff environment base entries {} Connection.uri some distinct
    (List.mem_of_getElem? (i := 0) rfl) readsBack_uri readWord_eq (fun _ => rfl) isFit_default.uri
  have username := readField_overridden_iff environment base entries {} Connection.username some
    distinct (List.mem_of_getElem? (i := 1) rfl) readsBack_filledText readWord_eq (fun _ => rfl)
    isFit_default.username
  have password := readField_overridden_iff environment base entries {} Connection.password
    (fun text => some ⟨text⟩) distinct (List.mem_of_getElem? (i := 2) rfl) word (fun _ => rfl)
    (fun _ => rfl) trivial
  have database := readField_overridden_iff environment base entries {} Connection.database
    (fun text => some (some text)) distinct (List.mem_of_getElem? (i := 3) rfl) textOrNone
    (fun _ => rfl) (fun connection => by show some _ = some _; cases connection.database <;> rfl)
    (fun _ none_ => nomatch none_)
  have pool := readField_overridden_iff environment base entries {} poolSize Decimal.wholeOfText?
    distinct (List.mem_of_getElem? (i := 4) rfl) (readsBack_whole 1 200) readCount_eq (fun _ => rfl)
    isFit_default.poolSize
  have timeout := readField_overridden_iff environment base entries {} Connection.timeout
    Decimal.floatOfText? distinct (List.mem_of_getElem? (i := 5) rfl) (readsBack_number one 120.0)
    readSeconds_eq (fun _ => rfl) isFit_default.timeout
  have fetch := readField_overridden_iff environment base entries {} fetchSize Decimal.wholeOfText?
    distinct (List.mem_of_getElem? (i := 6) rfl) (readsBack_whole 100 10000) readCount_eq
    (fun _ => rfl) isFit_default.fetchSize
  have attempts := readField_overridden_iff environment base entries {} Connection.attempts
    Decimal.wholeOfText? distinct (List.mem_of_getElem? (i := 7) rfl) (readsBack_whole 1 10)
    readCount_eq (fun _ => rfl) isFit_default.attempts
  have delay := readField_overridden_iff environment base entries {} retryDelay Decimal.floatOfText?
    distinct (List.mem_of_getElem? (i := 8) rfl) (readsBack_number zero 30.0) readSeconds_eq
    (fun _ => rfl) isFit_default.retryDelay
  have acquisition := readField_overridden_iff environment base entries {} acquisitionTimeout
    Decimal.floatOfText? distinct (List.mem_of_getElem? (i := 9) rfl) (readsBack_number one 300.0)
    readSeconds_eq (fun _ => rfl) isFit_default.acquisitionTimeout
  have transaction := readField_overridden_iff environment base entries {} transactionRetryTime
    Decimal.floatOfText? distinct (List.mem_of_getElem? (i := 10) rfl) (readsBack_number one 120.0)
    readSeconds_eq (fun _ => rfl) isFit_default.transactionRetryTime
  change ofEntries (overridden overrides environment ((base.map entries).getD [])).1 =
    .ok connection ↔ _
  rw [ofEntries_ok_iff, and_iff_left (strangers_overridden spoken (fun _ => rfl) environment base)]
  refine (and_congr_left' (and_congr (uri _) (and_congr (username _) (and_congr (password _)
    (and_congr (database _) (and_congr (pool _) (and_congr (acquisition _)
    (and_congr (transaction _) (and_congr (timeout _) (and_congr (fetch _)
    (and_congr (attempts _) (delay _)))))))))))).trans ?_
  obtain ⟨_, _, _, _, _, _, _, _, _, _, _⟩ := connection
  constructor
  · rintro ⟨⟨⟨rfl, uri⟩, ⟨rfl, username⟩, ⟨rfl, -⟩, ⟨rfl, -⟩, ⟨rfl, pool⟩, ⟨rfl, acquisition⟩,
      ⟨rfl, transaction⟩, ⟨rfl, timeout⟩, ⟨rfl, fetch⟩, ⟨rfl, attempts⟩, ⟨rfl, delay⟩⟩, kept⟩
    have fit : ((base.getD {}).withEnvironment environment).IsFit :=
      ⟨uri, username, pool, acquisition, transaction, timeout, fetch, attempts, delay⟩
    exact ⟨rfl, fit, fit.retryIssues_eq_nil_iff.mp kept⟩
  · rintro ⟨same, fit, rule⟩
    cases same
    exact ⟨⟨⟨rfl, fit.uri⟩, ⟨rfl, fit.username⟩, ⟨rfl, trivial⟩, ⟨rfl, fun _ _ => trivial⟩,
      ⟨rfl, fit.poolSize⟩, ⟨rfl, fit.acquisitionTimeout⟩, ⟨rfl, fit.transactionRetryTime⟩,
      ⟨rfl, fit.timeout⟩, ⟨rfl, fit.fetchSize⟩, ⟨rfl, fit.attempts⟩, ⟨rfl, fit.retryDelay⟩⟩,
      fit.retryIssues_eq_nil_iff.mpr rule⟩

end Connection

/-- Settings are those they start from, the default ones if there are no others, with each field set
to what its variable says if that can be read.  They are had exactly if they are valid, so an empty
environment gives back what it is given. -/
theorem environment_overrides (environment : Entries String) :
    (∀ base features, (Features.ofEnvironment environment base).1 = .ok features ↔
      features = (base.getD {}).withEnvironment environment ∧ features.IsFit) ∧
    (∀ base connection, (Connection.ofEnvironment environment base).1 = .ok connection ↔
      connection = (base.getD {}).withEnvironment environment ∧ connection.IsValid) ∧
    (∀ features : Features, features.IsFit →
      (Features.ofEnvironment [] (some features)).1 = .ok features) ∧
    ∀ connection : Connection, connection.IsValid →
      (Connection.ofEnvironment [] (some connection)).1 = .ok connection := by
  refine ⟨Features.ofEnvironment_iff environment, Connection.ofEnvironment_iff environment, ?_, ?_⟩
  · intro features fit
    exact (Features.ofEnvironment_iff [] (some features) features).mpr ⟨rfl, fit⟩
  · intro connection valid
    exact (Connection.ofEnvironment_iff [] (some connection) connection).mpr ⟨rfl, valid⟩

/-- A secret stays, a page size is heard and an answer that is neither yes nor no is not; a pause
that is too long for one short attempt is refused. -/
theorem environment_overrides_hasty :
    (Features.ofEnvironment
        [("RELGRAPH_MAX_PAGE_SIZE", " 50 "), ("RELGRAPH_REQUIRE_CONNECT_MATCH", "perhaps")]
        (some { cursorSecret := some ⟨"key"⟩ })).1 =
      .ok { cursorSecret := some ⟨"key"⟩, maxPageSize := some 50 } ∧
    (∀ connection, (Connection.ofEnvironment [("RELGRAPH_RETRY_DELAY", "5.0")]
      (some hastyConnection)).1 ≠ .ok connection) ∧
    (Connection.ofEnvironment [] (some hastyConnection)).1 = .ok hastyConnection := by
  refine ⟨?_, ?_, ?_⟩
  · refine ((environment_overrides _).1 _ _).mpr ⟨by decide +kernel, ?_⟩
    exact ⟨by decide, by decide, by decide⟩
  · intro connection made
    obtain ⟨rfl, -, rule⟩ := ((environment_overrides _).2.1 _ _).mp made
    exact absurd rule (by unfold Connection.KeepsRetryRule; decide +kernel)
  · exact (environment_overrides []).2.2.2 hastyConnection hastyConnection_isValid

end GraphGateway.Settings

/-!
Names for the order of relationships.  A setting takes a plain identifier for such a name, and also
one with a line end behind it: the check looks for the end of the text, and a last line end counts
as one.  However the settings are obtained, nothing else gets in.
-/
namespace GraphGateway.Schema

/-- A letter of the Latin alphabet without marks, or an underscore. -/
def IsLetter (c : Char) : Prop :=
  ('A' ≤ c ∧ c ≤ 'Z') ∨ ('a' ≤ c ∧ c ≤ 'z') ∨ c = '_'

def IsLetterOrDigit (c : Char) : Prop :=
  IsLetter c ∨ ('0' ≤ c ∧ c ≤ '9')

/-- A letter or an underscore, and behind it nothing but letters, digits and underscores. -/
def IsPlainIdentifier (name : String) : Prop :=
  ∃ first rest, name.toList = first :: rest ∧ IsLetter first ∧ ∀ c ∈ rest, IsLetterOrDigit c

/-- A plain identifier, or one with a line end behind it. -/
def IsIdentifierLine (name : String) : Prop :=
  IsPlainIdentifier name ∨ ∃ plain, IsPlainIdentifier plain ∧ name = plain ++ "\n"

theorem isLetter_iff (c : Char) : IsLetter c ↔ (c.isAlpha || c = '_') = true := by
  have alpha : c.isAlpha = true ↔ c.isUpper = true ∨ c.isLower = true := Bool.or_eq_true_iff
  have upper : c.isUpper = true ↔ 'A' ≤ c ∧ c ≤ 'Z' := decide_eq_true_iff
  have lower : c.isLower = true ↔ 'a' ≤ c ∧ c ≤ 'z' :=
    Bool.and_eq_true_iff.trans (and_congr decide_eq_true_iff decide_eq_true_iff)
  rw [Bool.or_eq_true, alpha, upper, lower, decide_eq_true_eq, or_assoc, IsLetter]

theorem isLetterOrDigit_iff (c : Char) : IsLetterOrDigit c ↔ (c.isAlphanum || c = '_') = true := by
  unfold IsLetterOrDigit
  rw [isLetter_iff, Char.isAlphanum, Char.isDigit]
  simp only [Bool.or_eq_true, Bool.and_eq_true, decide_eq_true_eq, Char.le_def, or_right_comm]

theorem isIdentifier_iff (name : String) :
    isIdentifier name.toList = true ↔ IsPlainIdentifier name := by
  unfold IsPlainIdentifier
  cases name.toList with
  | nil => simp [isIdentifier]
  | cons first rest =>
      rw [isIdentifier, Bool.and_eq_true, List.all_eq_true, ← isLetter_iff]
      simp [isLetterOrDigit_iff]

/-- The last character of an identifier is no line end, so one is taken at most. -/
theorem isSimpleIdentifier_iff (name : String) :
    isSimpleIdentifier name = true ↔ IsIdentifierLine name := by
  unfold isSimpleIdentifier IsIdentifierLine
  rw [Bool.or_eq_true, Bool.and_eq_true, isIdentifier_iff, beq_iff_eq]
  refine or_congr_right ⟨?_, ?_⟩
  · rintro ⟨ends, plain⟩
    refine ⟨String.ofList name.toList.dropLast, ?_, ?_⟩
    · rwa [← isIdentifier_iff, String.toList_ofList]
    · apply String.toList_inj.mp
      rw [String.toList_append, String.toList_ofList]
      exact (List.dropLast_append_getLast? _ ends).symm
  · rintro ⟨plain, isPlain, rfl⟩
    have chars : (plain ++ "\n").toList = plain.toList ++ ['\n'] := String.toList_append
    rw [chars, List.dropLast_concat, isIdentifier_iff]
    exact ⟨List.getLast?_concat, isPlain⟩

end GraphGateway.Schema

namespace GraphGateway.Settings.Features

open Schema (IsIdentifierLine IsPlainIdentifier isSimpleIdentifier isSimpleIdentifier_iff)

/-- The settings that can be had: made from given fields, changed by an assignment, or made from
what the environment says. -/
inductive Obtained : Features → Prop where
  | made {given : Entries Value} {features : Features} (made : ofEntries given = .ok features) :
      Obtained features
  | assigned {features : Features} (before : Obtained features) (name : String) (value : Value) :
      Obtained (features.assign name value).1
  | overridden {environment : Entries String} {features : Features}
      (made : (ofEnvironment environment none).1 = .ok features) : Obtained features
  | rebased {environment : Entries String} {base features : Features} (before : Obtained base)
      (made : (ofEnvironment environment (some base)).1 = .ok features) : Obtained features

theorem isFit_of_ofEntries {given : Entries Value} {features : Features}
    (made : ofEntries given = .ok features) : features.IsFit := by
  obtain ⟨⟨-, property, label, -, size, -⟩, -⟩ := ofEntries_ok_iff.mp made
  have identifier : ∀ {key default name : String}, isSimpleIdentifier default = true →
      readField given key default readIdentifier = .ok name → isSimpleIdentifier name = true := by
    intro key default name fits read
    unfold readField at read
    split at read
    · exact isSimpleIdentifier_of_readIdentifier read
    · cases read
      exact fits
  refine ⟨identifier (by decide) property, identifier (by decide) label, ?_⟩
  unfold readField at size
  split at size
  · exact le_of_readPageSize size
  · intro _ some_
    rw [← Except.ok.inj size] at some_
    cases some_

theorem Obtained.isFit {features : Features} (obtained : Obtained features) : features.IsFit := by
  induction obtained with
  | made made => exact isFit_of_ofEntries made
  | assigned before name value ih => exact (assign_keeps ih name value).1
  | overridden made => exact isFit_of_ofEntries made
  | rebased before made ih => exact isFit_of_ofEntries made

theorem strangers_of_known {key : String} (known : key ∈ keys) (value : Value) :
    strangers keys [(key, value)] = [] :=
  strangers_eq_nil_iff.mpr (List.cons_subset.mpr ⟨known, List.nil_subset _⟩)

theorem ofEntries_sequenceProperty {name : String} (fits : isSimpleIdentifier name = true) :
    ofEntries [(sequencePropertyKey, .text name)] = .ok { sequenceProperty := name } := by
  have read : readIdentifier (.text name) = .ok name :=
    (readsBack_identifier name name).mpr ⟨rfl, fits⟩
  exact ofEntries_ok_iff.mpr ⟨⟨rfl, read, rfl, rfl, rfl, rfl⟩,
    strangers_of_known (by decide) _⟩

theorem ofEntries_sequenceLabel {name : String} (fits : isSimpleIdentifier name = true) :
    ofEntries [(sequenceLabelKey, .text name)] = .ok { sequenceLabel := name } := by
  have read : readIdentifier (.text name) = .ok name :=
    (readsBack_identifier name name).mpr ⟨rfl, fits⟩
  exact ofEntries_ok_iff.mpr ⟨⟨rfl, rfl, read, rfl, rfl, rfl⟩,
    strangers_of_known (by decide) _⟩

/-- The names that pass the check are the plain identifiers and these with one line end behind them,
and they are the names that settings come to have, for the property as for the label. -/
theorem sequence_names_iff (name : String) :
    (isSimpleIdentifier name = true ↔ IsIdentifierLine name) ∧
    ((∃ features, Obtained features ∧ features.sequenceProperty = name) ↔
      IsIdentifierLine name) ∧
    ((∃ features, Obtained features ∧ features.sequenceLabel = name) ↔ IsIdentifierLine name) := by
  have grammar := isSimpleIdentifier_iff name
  refine ⟨grammar, Iff.trans ⟨?_, fun fits => ?_⟩ grammar, Iff.trans ⟨?_, fun fits => ?_⟩ grammar⟩
  · rintro ⟨features, obtained, rfl⟩
    exact obtained.isFit.sequenceProperty
  · exact ⟨_, .made (ofEntries_sequenceProperty fits), rfl⟩
  · rintro ⟨features, obtained, rfl⟩
    exact obtained.isFit.sequenceLabel
  · exact ⟨_, .made (ofEntries_sequenceLabel fits), rfl⟩

/-- The default name with a line end behind it passes the check and gets into settings. -/
theorem exists_sequence_name_with_line_end :
    isSimpleIdentifier "_seq\n" = true ∧ ¬ IsPlainIdentifier "_seq\n" ∧
      ∃ features, Obtained features ∧ features.sequenceProperty = "_seq\n" := by
  have passes : isSimpleIdentifier "_seq\n" = true := by decide
  refine ⟨passes, ?_, _, .made (ofEntries_sequenceProperty passes), rfl⟩
  rw [← Schema.isIdentifier_iff]
  decide

end GraphGateway.Settings.Features
