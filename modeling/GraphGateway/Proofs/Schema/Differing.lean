import GraphGateway.Proofs.Entries
import GraphGateway.Proofs.Graphql.Names
import GraphGateway.Proofs.Schema.Pairing
import GraphGateway.Schema.Declared
import Mathlib.Data.List.Perm.Basic
import Mathlib.Data.Prod.Lex
import Mathlib.Data.String.Basic

/-!
How properties types differ.  Whether two types agree is told by everything that they declare, their
differences by the last type of each property only, in order of the texts.  So a difference that is
told is one, and the same properties differ seen from either type.  But a type that declares a property
twice may differ from another with no difference to tell.
-/
namespace GraphGateway

section Sorting

variable {α : Type} {le : α → α → Bool}

/-- Sorted lists are the same exactly if they have the same items. -/
theorem mergeSort_eq_iff_perm (trans : ∀ a b c, le a b = true → le b c = true → le a c = true)
    (total : ∀ a b, (le a b || le b a) = true)
    (antisymm : ∀ a b, le a b = true → le b a = true → a = b) {items others : List α} :
    items.mergeSort le = others.mergeSort le ↔ items.Perm others := by
  constructor
  · intro same
    exact (items.mergeSort_perm le).symm.trans (same ▸ others.mergeSort_perm le)
  · intro perm
    refine List.Perm.eq_of_pairwise (fun a b _ _ => antisymm a b)
      (List.pairwise_mergeSort trans total items) (List.pairwise_mergeSort trans total others) ?_
    exact (items.mergeSort_perm le).trans (perm.trans (others.mergeSort_perm le).symm)

end Sorting

namespace Entries

variable {α : Type}

/-- What stands under a key in a map of pairs is the last that a pair has for it. -/
theorem get?_ofPairs (pairs : List (String × α)) (key : String) :
    (ofPairs pairs).get? key = ((pairs.filter (·.1 = key)).map Prod.snd).getLast? := by
  have folded : ∀ (rest : List (String × α)) (before : Entries α),
      (rest.foldl (fun entries pair => entries.put pair.1 pair.2) before).get? key =
        ((rest.filter (·.1 = key)).map Prod.snd).getLast?.or (before.get? key) := by
    intro rest
    induction rest with
    | nil => exact fun before => rfl
    | cons pair rest ih =>
        intro before
        rw [List.foldl_cons, ih, get?_put, List.filter_cons]
        by_cases here : pair.1 = key
        · simp only [here, ↓reduceIte, decide_true, List.map_cons, List.getLast?_cons]
          cases ((rest.filter (·.1 = key)).map Prod.snd).getLast? <;> rfl
        · simp only [here, ↓reduceIte, decide_false, Bool.false_eq_true]
  rw [ofPairs, folded, get?_nil, Option.or_none]

end Entries

namespace Schema

theorem textLe_iff {first second : String} : textLe first second = true ↔ first ≤ second := by
  rw [textLe, Bool.not_eq_true', decide_eq_false_iff_not, String.not_lt]

theorem textLe_trans (a b c : String) (first : textLe a b = true) (second : textLe b c = true) :
    textLe a c = true :=
  textLe_iff.mpr (String.le_trans (textLe_iff.mp first) (textLe_iff.mp second))

theorem textLe_total (a b : String) : (textLe a b || textLe b a) = true := by
  rw [Bool.or_eq_true, textLe_iff, textLe_iff]
  exact String.le_total a b

theorem textLe_antisymm (a b : String) (first : textLe a b = true) (second : textLe b a = true) :
    a = b :=
  String.le_antisymm (textLe_iff.mp first) (textLe_iff.mp second)

/-- Pairs of texts stand in the order of the first texts, and then of the second. -/
theorem textPairLe_iff {first second : String × String} :
    textPairLe first second = true ↔ toLex first ≤ toLex second := by
  rw [Prod.Lex.toLex_le_toLex]
  unfold textPairLe
  split
  · next same =>
    rw [textLe_iff]
    exact ⟨fun below => .inr ⟨same, below⟩,
      fun below => below.elim (fun less => absurd same less.ne) And.right⟩
  · next apart =>
    rw [textLe_iff, le_iff_lt_or_eq]
    exact or_congr_right ⟨fun same => absurd same apart, fun both => absurd both.1 apart⟩

theorem textPairLe_trans (a b c : String × String) (first : textPairLe a b = true)
    (second : textPairLe b c = true) : textPairLe a c = true :=
  textPairLe_iff.mpr ((textPairLe_iff.mp first).trans (textPairLe_iff.mp second))

theorem textPairLe_total (a b : String × String) : (textPairLe a b || textPairLe b a) = true := by
  rw [Bool.or_eq_true, textPairLe_iff, textPairLe_iff]
  exact le_total _ _

theorem textPairLe_antisymm (a b : String × String) (first : textPairLe a b = true)
    (second : textPairLe b a = true) : a = b :=
  toLex_inj.mp (le_antisymm (textPairLe_iff.mp first) (textPairLe_iff.mp second))

namespace PropertiesType

/-- What is declared: each property with the text of its type. -/
def declarations (type : PropertiesType) : List (String × String) :=
  type.fields.map fun field => (field.name, field.type.text)

/-- The texts of the types that a property is declared with. -/
def typesOf (type : PropertiesType) (property : String) : List String :=
  (type.declarations.filter (·.1 = property)).map Prod.snd

/-- The last of the types of a property in the order of their texts. -/
def lastTypeOf? (type : PropertiesType) (property : String) : Option String :=
  ((type.typesOf property).mergeSort textLe).getLast?

variable {first second : PropertiesType} {property : String}

theorem count_typesOf (type : PropertiesType) (property text : String) :
    (type.typesOf property).count text = type.declarations.count (property, text) := by
  unfold typesOf
  induction type.declarations with
  | nil => rfl
  | cons pair rest ih =>
      obtain ⟨name, type⟩ := pair
      by_cases here : name = property
      · subst here
        simp [List.count_cons, ih]
      · simp [here, ih]

/-- Properties types agree exactly if they declare the same types for each property. -/
theorem agreesWith_iff : first.agreesWith second = true ↔
    ∀ property, (first.typesOf property).Perm (second.typesOf property) := by
  have sorted : first.agreesWith second = true ↔ first.declarations.Perm second.declarations := by
    unfold agreesWith signature
    rw [beq_iff_eq]
    exact mergeSort_eq_iff_perm textPairLe_trans textPairLe_total textPairLe_antisymm
  rw [sorted]
  simp only [List.perm_iff_count, count_typesOf, Prod.forall]

theorem lastTypeOf?_eq_of_perm (perm : (first.typesOf property).Perm (second.typesOf property)) :
    first.lastTypeOf? property = second.lastTypeOf? property :=
  congrArg List.getLast?
    ((mergeSort_eq_iff_perm textLe_trans textLe_total textLe_antisymm).mpr perm)

theorem lastTypeOf?_eq_none_iff :
    first.lastTypeOf? property = none ↔ first.typesOf property = [] := by
  unfold lastTypeOf?
  rw [List.getLast?_eq_none_iff]
  constructor
  · exact fun none_ => List.perm_nil.mp (none_ ▸ (List.mergeSort_perm _ textLe).symm)
  · intro none_
    rw [none_, List.mergeSort_nil]

theorem mem_typesOf_of_last {text : String} (last : first.lastTypeOf? property = some text) :
    text ∈ first.typesOf property :=
  List.mem_mergeSort.mp (List.mem_of_getLast? last)

/-- Of the types of a property the map of the shape keeps the last one. -/
theorem get?_signature (type : PropertiesType) (property : String) :
    (Entries.ofPairs type.signature).get? property = type.lastTypeOf? property := by
  rw [Entries.get?_ofPairs]
  refine congrArg List.getLast? ?_
  have sorted := (List.pairwise_mergeSort textPairLe_trans textPairLe_total type.declarations).filter
    (·.1 = property)
  refine List.Perm.eq_of_pairwise (fun a b _ _ => textLe_antisymm a b) ?_
    (List.pairwise_mergeSort textLe_trans textLe_total _) ?_
  · rw [List.pairwise_map]
    refine sorted.imp_of_mem ?_
    intro one other member among inOrder
    have name := of_decide_eq_true (List.mem_filter.mp member).2
    have nameToo := of_decide_eq_true (List.mem_filter.mp among).2
    rwa [textPairLe, if_pos (name.trans nameToo.symm)] at inOrder
  · exact (((type.declarations.mergeSort_perm textPairLe).filter _).map _).trans
      (List.mergeSort_perm _ _).symm

theorem difference?_eq_none_iff {firstTypes secondTypes : Entries String} :
    difference? first second firstTypes secondTypes property = none ↔
      firstTypes.get? property = secondTypes.get? property := by
  unfold difference?
  cases firstTypes.get? property with
  | none => cases secondTypes.get? property <;> simp
  | some one => cases secondTypes.get? property <;> simp

/-- There is no difference exactly if the last types of all properties are the same. -/
theorem differences_eq_nil_iff : first.differences second = [] ↔
    ∀ property, first.lastTypeOf? property = second.lastTypeOf? property := by
  unfold differences
  simp only [List.filterMap_eq_nil_iff, List.mem_mergeSort, List.mem_eraseDups, List.mem_append,
    difference?_eq_none_iff, get?_signature]
  constructor
  · intro same property
    by_cases known : property ∈ (Entries.ofPairs first.signature).keys ∨
        property ∈ (Entries.ofPairs second.signature).keys
    · exact same property known
    · rw [not_or] at known
      rw [← get?_signature, ← get?_signature,
        Option.not_isSome_iff_eq_none.mp (mt (Entries.get?_isSome_iff _ _).mp known.1),
        Option.not_isSome_iff_eq_none.mp (mt (Entries.get?_isSome_iff _ _).mp known.2)]
  · exact fun same property _ => same property

theorem differences_eq_nil_of_agreesWith (agrees : first.agreesWith second = true) :
    first.differences second = [] :=
  differences_eq_nil_iff.mpr fun property =>
    lastTypeOf?_eq_of_perm (agreesWith_iff.mp agrees property)

/-- Whether two properties types differ with no difference to tell: the last types of all properties
are the same, but not all types of some property. -/
def HideDifferences (first second : PropertiesType) : Prop :=
  (∀ property, first.lastTypeOf? property = second.lastTypeOf? property) ∧
    ∃ property, ¬ (first.typesOf property).Perm (second.typesOf property)

theorem hideDifferences_iff : first.HideDifferences second ↔
    first.agreesWith second = false ∧ first.differences second = [] := by
  rw [differences_eq_nil_iff, ← Bool.not_eq_true, agreesWith_iff, not_forall, and_comm]
  rfl

/-- A property that is declared once has no type but the last one. -/
theorem typesOf_eq_toList {type : PropertiesType}
    (distinct : (type.fields.map PropertyField.name).Nodup) (property : String) : type.typesOf property = (type.lastTypeOf? property).toList := by
  have once : (type.declarations.map Prod.fst).Nodup := by
    rw [declarations, List.map_map]
    exact distinct
  have apart : ((type.declarations.filter (·.1 = property)).map Prod.fst).Nodup :=
    once.sublist (List.filter_sublist.map Prod.fst)
  unfold lastTypeOf? typesOf
  cases kept : type.declarations.filter (·.1 = property) with
  | nil => simp
  | cons pair rest =>
      cases rest with
      | nil => simp
      | cons other more =>
          have names : ∀ item ∈ pair :: other :: more, item.1 = property := by
            intro item member
            rw [← kept] at member
            exact of_decide_eq_true (List.mem_filter.mp member).2
          rw [kept, List.map_cons, List.map_cons, names pair (.head _),
            names other (.tail _ (.head _))] at apart
          exact absurd (List.mem_cons_self ..) (List.nodup_cons.mp apart).1

/-- Types that declare each property once differ only in what is told. -/
theorem not_hideDifferences (distinct : (first.fields.map PropertyField.name).Nodup)
    (distinctToo : (second.fields.map PropertyField.name).Nodup) : ¬ first.HideDifferences second := by
  rintro ⟨same, property, differ⟩
  apply differ
  rw [typesOf_eq_toList distinct, typesOf_eq_toList distinctToo, same property]

end PropertiesType

/-- Whether a difference is one of two properties types: a property of only one of them, or a property
with different types, each of which is declared for it. -/
def Difference.IsBetween (first second : PropertiesType) : Difference → Prop
  | .onlyIn property owner =>
      (owner = first.name ∧ first.typesOf property ≠ [] ∧ second.typesOf property = []) ∨
        (owner = second.name ∧ first.typesOf property = [] ∧ second.typesOf property ≠ [])
  | .typed property firstType firstOwner secondType secondOwner =>
      firstOwner = first.name ∧ secondOwner = second.name ∧ firstType ≠ secondType ∧
        firstType ∈ first.typesOf property ∧ secondType ∈ second.typesOf property ∧
        ¬ (first.typesOf property).Perm (second.typesOf property)
  | .oneSided _ => False
  | .stated _ => False

theorem PropertiesType.isBetween_of_mem {first second : PropertiesType} {difference : Difference}
    (member : difference ∈ first.differences second) : difference.IsBetween first second := by
  obtain ⟨property, -, told⟩ := List.mem_filterMap.mp member
  unfold difference? at told
  simp only [get?_signature] at told
  split at told
  · next one none_ =>
    cases told
    refine .inl ⟨rfl, fun empty => ?_, lastTypeOf?_eq_none_iff.mp none_⟩
    rw [lastTypeOf?_eq_none_iff.mpr empty] at one
    cases one
  · next none_ other =>
    cases told
    refine .inr ⟨rfl, lastTypeOf?_eq_none_iff.mp none_, fun empty => ?_⟩
    rw [lastTypeOf?_eq_none_iff.mpr empty] at other
    cases other
  · next firstType secondType one other =>
    split at told
    · cases told
    · next apart =>
      cases told
      refine ⟨rfl, rfl, apart, mem_typesOf_of_last one, mem_typesOf_of_last other, fun perm => ?_⟩
      rw [lastTypeOf?_eq_of_perm perm, other] at one
      exact apart (Option.some.inj one).symm
  · cases told

theorem Model.mem_endProblems_of_mem_violations {model : Model} {problems : List Problem}
    {problem : Problem} (checked : model.violations = .ok problems) (member : problem ∈ problems)
    (mismatch : problem.isMismatch = true) :
    ∃ first second one other, problem ∈
      endProblems first second (model.propertiesOf? one) (model.propertiesOf? other) := by
  unfold violations at checked
  obtain ⟨pairs, -, checked⟩ := Outcome.bind_ok_iff.mp checked
  obtain ⟨mismatches, each, made⟩ := Outcome.bind_ok_iff.mp checked
  cases made
  rcases List.mem_append.mp member with ofType | ofPair
  · have ofType : problem ∈ model.typeProblems := ofType
    have silent : problem.isMismatch = false := typeProblems_isMismatch ofType
    rw [mismatch] at silent
    cases silent
  · obtain ⟨found, among, inside⟩ := List.mem_flatten.mp ofPair
    obtain ⟨pair, -, compared⟩ :=
      Outcome.partner_of_mem_others (Outcome.mapM_ok_iff.mp each) among
    obtain ⟨one, -, compared⟩ := Outcome.bind_ok_iff.mp compared
    obtain ⟨other, -, compared⟩ := Outcome.bind_ok_iff.mp compared
    cases compared
    exact ⟨pair.1, pair.2, one, other, inside⟩

/-- Two ends of which one has no properties come with a difference, and so do all whose properties do
not hide theirs. -/
theorem hideDifferences_of_mem_endProblems {first second : Model.End} {field paired : String}
    {here there : Option PropertiesType}
    (member : .mismatch field paired [] ∈ endProblems first second here there) :
    ∃ one other, here = some one ∧ there = some other ∧ one.HideDifferences other := by
  unfold endProblems at member
  split at member
  · cases member
  · cases List.mem_singleton.mp member
  · cases List.mem_singleton.mp member
  · next one other =>
    split at member
    · cases member
    · next differ =>
      have same := (Problem.mismatch.inj (List.mem_singleton.mp member)).2.2
      exact ⟨one, other, rfl, rfl, PropertiesType.hideDifferences_iff.mpr
        ⟨Bool.not_eq_true _ ▸ differ, same.symm⟩⟩

/-- Whether properties types agree and whether differences are told come to the same unless
differences are hidden.  Either way the same is told whichever type comes first, every difference that
is told is one, and only types that declare a property twice hide differences.  So a mismatch comes with
differences, unless there are properties types that hide theirs. -/
theorem differences_told_iff (first second : PropertiesType) :
    ((first.agreesWith second = true ↔ first.differences second = []) ↔
      ¬ first.HideDifferences second) ∧
    (first.differences second = [] ↔ second.differences first = []) ∧
    (∀ difference ∈ first.differences second, difference.IsBetween first second) ∧
    ((first.fields.map PropertyField.name).Nodup → (second.fields.map PropertyField.name).Nodup →
      ¬ first.HideDifferences second) ∧
    ∀ (model : Model) problems field paired, model.violations = .ok problems →
      .mismatch field paired [] ∈ problems →
        ∃ one ∈ model.properties, ∃ other ∈ model.properties, one.HideDifferences other := by
  refine ⟨?_, ?_, fun _ => PropertiesType.isBetween_of_mem, PropertiesType.not_hideDifferences, ?_⟩
  · rw [PropertiesType.hideDifferences_iff]
    constructor
    · rintro same ⟨differ, none_⟩
      rw [same.mpr none_] at differ
      cases differ
    · intro told
      refine ⟨PropertiesType.differences_eq_nil_of_agreesWith, fun none_ => ?_⟩
      exact Bool.not_eq_false _ ▸ fun differ => told ⟨differ, none_⟩
  · rw [PropertiesType.differences_eq_nil_iff, PropertiesType.differences_eq_nil_iff]
    exact forall_congr' fun property => eq_comm
  · intro model problems field paired checked member
    obtain ⟨_, _, edge, back, told⟩ := Model.mem_endProblems_of_mem_violations checked member rfl
    obtain ⟨one, other, here, there, hidden⟩ := hideDifferences_of_mem_endProblems told
    exact ⟨one, Model.properties_mem here, other, Model.properties_mem there, hidden⟩

/-- A property under one name, which it is also stored under. -/
def storedField (name typeName : String) (nonNull : Bool) : PropertyField where
  name
  type := { name := typeName, nonNull }
  stored := name

/-- A film with a sequel, the two of which store different things. -/
def serial (after before : PropertiesType) : Model where
  nodes :=
    [{ name := "Film"
       relationships :=
        [{ name := "sequel", type := { name := "Film" }, relatedType := "Film",
           direction := .outgoing, label := "NEXT", properties := some after.name },
         { name := "prequel", type := { name := "Film" }, relatedType := "Film",
           direction := .incoming, label := "NEXT", properties := some before.name }] }]
  properties := [after, before]

/-- What a sequel stores: why it is there, and how many years later. -/
def sequelTie : PropertiesType where
  name := "After"
  fields := [storedField "reason" "String" false, storedField "years" "Int" true]

/-- What the film before it stores, where the number of years may be missing. -/
def prequelTie : PropertiesType where
  name := "Before"
  fields := [storedField "years" "Int" false]

theorem differences_told_iff_ties :
    (sequelTie.fields.map PropertyField.name).Nodup ∧
      (prequelTie.fields.map PropertyField.name).Nodup ∧
      sequelTie.agreesWith prequelTie = false ∧ sequelTie.differences prequelTie ≠ [] ∧
      ∃ problems, (serial sequelTie prequelTie).violations = .ok problems ∧
        ∀ field paired, .mismatch field paired [] ∉ problems := by
  have distinct : (sequelTie.fields.map PropertyField.name).Nodup := by decide
  have distinctToo : (prequelTie.fields.map PropertyField.name).Nodup := by decide
  have differ : sequelTie.agreesWith prequelTie = false := by
    rw [← Bool.not_eq_true, PropertiesType.agreesWith_iff]
    exact fun same => absurd (same "years") (by decide)
  obtain ⟨told, -, -, shown, explained⟩ := differences_told_iff sequelTie prequelTie
  have named : (serial sequelTie prequelTie).IsUniquelyNamed := ⟨by decide, by decide⟩
  obtain ⟨pairs, ran⟩ := named.relationshipPairs_ok
  refine ⟨distinct, distinctToo, differ, fun none_ => ?_, _, named.violations_eq ran, ?_⟩
  · have agrees := (told.mpr (shown distinct distinctToo)).mpr none_
    rw [differ] at agrees
    cases agrees
  · intro field paired member
    obtain ⟨one, known, other, knownToo, hidden⟩ :=
      explained _ _ _ _ (named.violations_eq ran) member
    have once : ∀ type ∈ (serial sequelTie prequelTie).properties,
        (type.fields.map PropertyField.name).Nodup := by decide
    exact PropertiesType.not_hideDifferences (once one known) (once other knownToo) hidden

/-- A sequel for which the number of years is declared twice. -/
def doubledTie : PropertiesType where
  name := "After"
  fields := [storedField "years" "Int" false, storedField "years" "String" false]

def singleTie : PropertiesType where
  name := "Before"
  fields := [storedField "years" "String" false]

theorem doubledTie_hides : doubledTie.HideDifferences singleTie := by
  constructor
  · intro property
    by_cases years : property = "years"
    · subst years
      have sorted : ["Int", "String"].mergeSort textLe = ["Int", "String"] :=
        List.mergeSort_of_pairwise (by decide)
      have types : doubledTie.typesOf "years" = ["Int", "String"] := by decide
      have typesToo : singleTie.typesOf "years" = ["String"] := by decide
      unfold PropertiesType.lastTypeOf?
      rw [types, typesToo, sorted, List.mergeSort_singleton]
      rfl
    · have none_ : ∀ type ∈ [doubledTie, singleTie], type.typesOf property = [] := by
        simp [PropertiesType.typesOf, PropertiesType.declarations, doubledTie, singleTie, storedField,
          Ne.symm years]
      rw [PropertiesType.lastTypeOf?_eq_none_iff.mpr (none_ doubledTie (.head _)),
        PropertiesType.lastTypeOf?_eq_none_iff.mpr (none_ singleTie (.tail _ (.head _)))]
  · exact ⟨"years", by decide⟩

def doubledText : String :=
  "type Film \x7b sequel: Film @relationship(type: \"NEXT\", direction: OUT, properties: \"After\") " ++
    "prequel: Film @relationship(type: \"NEXT\", direction: IN, properties: \"Before\") \x7d " ++
    "interface After \x7b years: Int years: String \x7d interface Before \x7b years: String \x7d"

/-- A document may declare two properties types that do not agree and have no differences to tell.  The
mismatch of their ends comes without any. -/
theorem exists_unexplained_mismatch :
    ∃ document declared, Graphql.Document.ofText doubledText = .ok document ∧
      Declared.ofDocument? document = some declared ∧
      doubledTie ∈ declared.model.properties ∧ singleTie ∈ declared.model.properties ∧
      doubledTie.agreesWith singleTie = false ∧ doubledTie.differences singleTie = [] ∧
      ∃ problems, declared.model.violations = .ok problems ∧
        .mismatch "Film.sequel" "Film.prequel" [] ∈ problems := by
  have reads : (Graphql.Document.ofText doubledText).toOption.any (fun document =>
      (Declared.ofDocument? document).any fun declared =>
        declared.model = serial doubledTie singleTie) = true := by
    unfold Graphql.Document.ofText doubledText
    rw [← String.ofList_append, ← String.ofList_append, Graphql.Token.ofText_ofList]
    decide +kernel
  obtain ⟨document, parsed, reads⟩ := (Option.any_eq_true _ _).mp reads
  obtain ⟨declared, read, same⟩ := (Option.any_eq_true _ _).mp reads
  obtain ⟨differ, none_⟩ := PropertiesType.hideDifferences_iff.mp doubledTie_hides
  have named : (serial doubledTie singleTie).IsUniquelyNamed := ⟨by decide, by decide⟩
  have ran : (serial doubledTie singleTie).relationshipPairs =
      .ok [(⟨"Film", "sequel"⟩, ⟨"Film", "prequel"⟩)] := by
    decide +kernel
  refine ⟨document, declared, Outcome.toOption_eq_some_iff.mp parsed, read, ?_⟩
  rw [of_decide_eq_true same]
  refine ⟨.head _, .tail _ (.head _), differ, none_, _, named.violations_eq ran, ?_⟩
  refine List.mem_append_right _ (List.mem_flatMap.mpr ⟨_, .head _, ?_⟩)
  have after : (serial doubledTie singleTie).propertiesAt? ⟨"Film", "sequel"⟩ = some doubledTie := by
    decide +kernel
  have before : (serial doubledTie singleTie).propertiesAt? ⟨"Film", "prequel"⟩ = some singleTie := by
    decide +kernel
  rw [Model.mismatchAt, after, before, endProblems, differ, none_]
  exact .head _

end Schema

end GraphGateway
