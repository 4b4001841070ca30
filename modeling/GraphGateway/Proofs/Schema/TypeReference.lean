import GraphGateway.Graphql.LiteralFit
import GraphGateway.Proofs.Graphql.Names
import GraphGateway.Proofs.Text.Lowered
import GraphGateway.Schema.TypeReference

/-!
References to types.  The text of a type is read back as the type, and a reference stands for exactly
one type that is no list of lists.  So every such type has a reference, whose text is that of the type,
and a reference comes back from its own text.
-/
namespace GraphGateway

namespace Graphql

/-- A text that is a name: a letter or an underscore, behind which letters, digits and underscores
may stand. -/
structure IsWholeName (text : String) : Prop where
  isName : IsName text
  starts : ∃ c rest, text.toList = c :: rest ∧ Token.isNameStart c = true

namespace Token

section Characters

variable {c : Char}

theorem toNat_lt_of_isNamePart (part : isNamePart c = true) : c.toNat < 0x80 := by
  rcases Bool.or_eq_true_iff.mp part with ascii | score
  · have bounds := Text.isAlphanum_iff_toNat.mp ascii
    omega
  · cases of_decide_eq_true score
    decide

theorem carried?_of_isNamePart (part : isNamePart c = true) : Text.carried? c = none := by
  have ascii := toNat_lt_of_isNamePart part
  unfold Text.carried? Text.firstCarrier
  rw [if_neg]
  simp only [Bool.and_eq_true, decide_eq_true_eq]
  omega

theorem ofMark?_of_isNamePart (part : isNamePart c = true) : ofMark? c = none := by
  unfold ofMark?
  split <;> first | rfl | cases part

theorem isSkipped_of_isNamePart (part : isNamePart c = true) : isSkipped c = false := by
  cases skipped : isSkipped c with
  | false => rfl
  | true =>
      simp only [isSkipped, Bool.or_eq_true, decide_eq_true_eq] at skipped
      rcases skipped with ((((rfl | rfl) | rfl) | rfl) | rfl) | rfl <;> cases part

end Characters

/-- Whether a text starts with no character that a name in front of it would take in. -/
def StartsApart (text : List Char) : Prop := ∀ c ∈ text.head?, isNamePart c = false

/-- The characters make the tokens, whatever fuel there is beyond one for each character. -/
def Makes (text : List Char) (tokens : List Token) : Prop :=
  ∀ fuel, text.length ≤ fuel → readAll fuel text = .ok tokens

section Makes

variable {c : Char} {text after : List Char} {token : Token} {tokens : List Token}

theorem makes_nil : Makes [] [] := by
  intro fuel _
  cases fuel <;> rfl

/-- The token at the head of a text stands in front of those of what is left of it. -/
theorem Makes.cons (makes : Makes after tokens) (kept : isSkipped c = false) (other : c ≠ '#')
    (one : readOne c text = .ok (token, after)) (shorter : after.length ≤ text.length) :
    Makes (c :: text) (token :: tokens) := by
  intro fuel enough
  cases fuel with
  | zero => cases enough
  | succ fuel =>
      have later := makes fuel (shorter.trans (Nat.le_of_succ_le_succ enough))
      rw [readAll, kept, if_neg Bool.false_ne_true, if_neg other, one]
      dsimp only [bind, Except.bind]
      rw [later]
      rfl

theorem Makes.mark (makes : Makes text tokens) (marks : ofMark? c = some token)
    (kept : isSkipped c = false) (other : c ≠ '#') : Makes (c :: text) (token :: tokens) := by
  refine makes.cons kept other ?_ le_rfl
  unfold readOne
  rw [marks]

/-- A name in front of a text that does not go on with it is a token of its own. -/
theorem Makes.name {name : String} (makes : Makes text tokens) (whole : IsWholeName name)
    (apart : StartsApart text) : Makes (name.toList ++ text) (.name name :: tokens) := by
  obtain ⟨c, rest, spelt, starts⟩ := whole.starts
  have part : isNamePart c = true := isNamePart_of_start starts
  have parts : ∀ d ∈ rest, isNamePart d = true := fun d member =>
    whole.isName d (spelt ▸ List.mem_cons_of_mem _ member)
  have taken : (rest ++ text).takeWhile isNamePart = rest := by
    rw [List.takeWhile_append_of_pos parts]
    cases text with
    | nil => simp
    | cons d others => simp [apart d rfl]
  have left : (rest ++ text).dropWhile isNamePart = text := by
    rw [List.dropWhile_append_of_pos parts]
    cases text with
    | nil => rfl
    | cons d others => simp [apart d rfl]
  have hash : c ≠ '#' := by
    rintro rfl
    cases starts
  rw [spelt, List.cons_append]
  refine makes.cons (isSkipped_of_isNamePart part) hash ?_ (by simp)
  unfold readOne
  rw [ofMark?_of_isNamePart part, if_pos starts, taken, left, ← spelt, String.ofList_toList]

end Makes

end Token

namespace TypeExpr

/-- Whether a type can be spelt: its name is one, and nothing excludes null twice. -/
def IsGrammatical : TypeExpr → Prop
  | .named name => IsWholeName name
  | .list item => item.IsGrammatical
  | .nonNull inner => inner.isNonNull = false ∧ inner.IsGrammatical

/-- Whether a type has a list whose items are lists, be it that they exclude null. -/
def HasListOfLists : TypeExpr → Prop
  | .named _ => False
  | .list item => item.isList = true ∨ item.HasListOfLists
  | .nonNull inner => inner.HasListOfLists

/-- How many lists stand inside each other. -/
def depth : TypeExpr → Nat
  | .named _ => 0
  | .list item => item.depth + 1
  | .nonNull inner => inner.depth

def tokens : TypeExpr → List Token
  | .named name => [.name name]
  | .list item => .bracketOpen :: item.tokens ++ [.bracketClose]
  | .nonNull inner => inner.tokens ++ [.bang]

open Token (Makes StartsApart carried?_of_isNamePart makes_nil)

theorem makes_text {type : TypeExpr} (grammatical : type.IsGrammatical) {after : List Char}
    {later : List Token} (makes : Makes after later) (apart : StartsApart after) :
    Makes (type.text.toList ++ after) (type.tokens ++ later) := by
  induction type generalizing after later with
  | named name => exact makes.name grammatical apart
  | list item ih =>
      have closed : Makes (']' :: after) (.bracketClose :: later) :=
        makes.mark rfl (by decide) (by decide)
      have inside := ih grammatical closed (by rintro c ⟨⟩; rfl)
      have opened : Makes ('[' :: (item.text.toList ++ ']' :: after)) (.bracketOpen :: _) :=
        inside.mark rfl (by decide) (by decide)
      simpa [text, tokens, List.append_assoc] using opened
  | nonNull inner ih =>
      have banged : Makes ('!' :: after) (.bang :: later) := makes.mark rfl (by decide) (by decide)
      have inside := ih grammatical.2 banged (by rintro c ⟨⟩; rfl)
      simpa [text, tokens, List.append_assoc] using inside

theorem carried?_of_mem_text {type : TypeExpr} (grammatical : type.IsGrammatical) :
    ∀ c ∈ type.text.toList, Text.carried? c = none := by
  induction type with
  | named name => exact fun c member => carried?_of_isNamePart (grammatical.isName c member)
  | list item ih =>
      intro c member
      simp only [text, String.toList_append, List.mem_append] at member
      rcases member with (opens | inside) | closes
      · rw [List.mem_singleton.mp opens]
        rfl
      · exact ih grammatical c inside
      · rw [List.mem_singleton.mp closes]
        rfl
  | nonNull inner ih =>
      intro c member
      simp only [text, String.toList_append, List.mem_append] at member
      rcases member with inside | banged
      · exact ih grammatical.2 c inside
      · rw [List.mem_singleton.mp banged]
        rfl

/-- A type is read from its tokens, with the exclamation mark behind them if there is one and the
type takes it. -/
theorem read?_tokens {type : TypeExpr} (grammatical : type.IsGrammatical) {most : Nat}
    (fits : type.depth ≤ most) (rest : List Token) :
    (rest.head? ≠ some .bang → read? most (type.tokens ++ rest) = some (type, rest)) ∧
      (type.isNonNull = false →
        read? most (type.tokens ++ .bang :: rest) = some (.nonNull type, rest)) := by
  have bare : ∀ (type : TypeExpr) (rest : List Token), rest.head? ≠ some .bang →
      withBang type rest = (type, rest) := by
    intro type rest other
    unfold withBang
    split
    · exact absurd rfl other
    · rfl
  induction type generalizing most rest with
  | named name =>
      constructor
      · intro other
        simp only [tokens, List.cons_append, List.nil_append, read?, bare _ _ other]
      · intro _
        simp only [tokens, List.cons_append, List.nil_append, read?, withBang]
  | list item ih =>
      cases most with
      | zero => cases fits
      | succ most =>
          have inside := fun after => (ih grammatical (Nat.le_of_succ_le_succ fits)
            (.bracketClose :: after)).1 (by simp)
          constructor
          · intro other
            simp only [tokens, List.cons_append, List.append_assoc, List.nil_append, read?, inside,
              bare _ _ other]
          · intro _
            simp only [tokens, List.cons_append, List.append_assoc, List.nil_append, read?, inside,
              withBang]
  | nonNull inner ih =>
      constructor
      · intro _
        rw [tokens, List.append_assoc]
        exact (ih grammatical.2 fits rest).2 grammatical.1
      · intro impossible
        cases impossible

/-- A type is read back from its text, unless too many lists stand inside each other. -/
theorem ofText_text {type : TypeExpr} (grammatical : type.IsGrammatical)
    (fits : type.depth ≤ nestingLimit) : ofText type.text = .ok type := by
  have plain : (type.text.toList.any fun c => (Text.carried? c).isSome) = false := by
    rw [List.any_eq_false]
    intro c member
    rw [carried?_of_mem_text grammatical c member]
    exact Bool.false_ne_true
  have made := makes_text grammatical makes_nil (by rintro c ⟨⟩) (type.text.toList.length + 1)
    (by simp)
  simp only [List.append_nil] at made
  have read := (read?_tokens grammatical fits []).1 (by rintro ⟨⟩)
  rw [List.append_nil] at read
  unfold ofText Token.ofText
  dsimp only
  rw [plain, if_neg Bool.false_ne_true, made]
  dsimp only [bind, Except.bind]
  rw [read]
  rfl

end TypeExpr

end Graphql

namespace Schema.TypeReference

open Graphql (IsWholeName TypeExpr)

variable {type : TypeExpr} {reference : TypeReference}

theorem ofNullable?_eq_none_iff (nonNull : Bool) (grammatical : type.IsGrammatical)
    (bare : type.isNonNull = false) : ofNullable? nonNull type = none ↔ type.HasListOfLists := by
  cases type with
  | named name => simp [ofNullable?, TypeExpr.HasListOfLists]
  | nonNull inner => cases bare
  | list item =>
      cases item with
      | named name => simp [ofNullable?, TypeExpr.HasListOfLists, TypeExpr.isList, TypeExpr.nullable]
      | list inner => simp [ofNullable?, TypeExpr.HasListOfLists, TypeExpr.isList, TypeExpr.nullable]
      | nonNull inner =>
          cases inner with
          | named name =>
              simp [ofNullable?, TypeExpr.HasListOfLists, TypeExpr.isList, TypeExpr.nullable]
          | list innermost =>
              simp [ofNullable?, TypeExpr.HasListOfLists, TypeExpr.isList, TypeExpr.nullable]
          | nonNull innermost => cases grammatical.1

/-- There is no reference exactly to the types with a list of lists. -/
theorem ofExpr?_eq_none_iff (grammatical : type.IsGrammatical) :
    ofExpr? type = none ↔ type.HasListOfLists := by
  cases type with
  | named name => exact ofNullable?_eq_none_iff false grammatical rfl
  | list item => exact ofNullable?_eq_none_iff false grammatical rfl
  | nonNull inner => exact ofNullable?_eq_none_iff true grammatical.2 grammatical.1

theorem toExpr_of_ofNullable? {nonNull : Bool} (read : ofNullable? nonNull type = some reference) :
    reference.toExpr = excludingNull nonNull type := by
  unfold ofNullable? at read
  split at read <;> cases read <;> rfl

theorem toExpr_of_ofExpr? (read : ofExpr? type = some reference) : reference.toExpr = type := by
  unfold ofExpr? at read
  split at read
  · exact toExpr_of_ofNullable? read
  · exact toExpr_of_ofNullable? read

/-- A reference whose items exclude null only if it is a list is the reference to its type. -/
theorem ofExpr?_toExpr (listed : reference.itemNonNull = true → reference.isList = true) :
    ofExpr? reference.toExpr = some reference := by
  obtain ⟨name, nonNull, isList, itemNonNull⟩ := reference
  cases isList with
  | false =>
      cases itemNonNull with
      | true => cases listed rfl
      | false => cases nonNull <;> rfl
  | true => cases nonNull <;> cases itemNonNull <;> rfl

theorem ofNullable?_asOptional (nonNull : Bool) (type : TypeExpr) :
    ofNullable? false type = (ofNullable? nonNull type).map asOptional := by
  unfold ofNullable?
  split <;> rfl

/-- Leaving out the outermost exclusion of null is the same for a type and for its reference. -/
theorem ofExpr?_nullable (grammatical : type.IsGrammatical) (read : ofExpr? type = some reference) :
    ofExpr? type.nullable = some reference.asOptional := by
  have bare : ∀ {type : TypeExpr}, type.isNonNull = false → ofExpr? type = ofNullable? false type := by
    intro type bare
    cases type with
    | named name => rfl
    | list item => rfl
    | nonNull inner => cases bare
  have kept : ∀ {type : TypeExpr} {nonNull : Bool}, type.isNonNull = false →
      ofNullable? nonNull type = some reference → ofExpr? type = some reference.asOptional := by
    intro type nonNull single read
    rw [bare single, ofNullable?_asOptional nonNull, read]
    rfl
  cases type with
  | named name => exact kept rfl read
  | list item => exact kept rfl read
  | nonNull inner => exact kept grammatical.1 read

theorem toExpr_isGrammatical (named : IsWholeName reference.name) :
    reference.toExpr.IsGrammatical := by
  obtain ⟨name, nonNull, isList, itemNonNull⟩ := reference
  cases isList <;> cases nonNull <;> cases itemNonNull <;>
    simp [toExpr, excludingNull, TypeExpr.IsGrammatical, TypeExpr.isNonNull, named]

theorem depth_toExpr_le (reference : TypeReference) : reference.toExpr.depth ≤ 1 := by
  obtain ⟨name, nonNull, isList, itemNonNull⟩ := reference
  cases isList <;> cases nonNull <;> cases itemNonNull <;>
    simp [toExpr, excludingNull, TypeExpr.depth]

/-- The text of a reference is read as its type. -/
theorem ofText_text (grammatical : reference.toExpr.IsGrammatical) :
    TypeExpr.ofText reference.text = .ok reference.toExpr :=
  TypeExpr.ofText_text grammatical (reference.depth_toExpr_le.trans (by decide))

/-- A type has a reference exactly if it has no list of lists.  The text of the reference is that of
the type, from which type and reference are read again, and the reference to the type without its
outermost exclusion of null is the same but for that.  Every reference to a name, whose items exclude
null only if it is a list, comes back from its text. -/
theorem references_round_trip :
    (∀ type : TypeExpr, type.IsGrammatical →
      (ofExpr? type = none ↔ type.HasListOfLists) ∧
      ∀ reference, ofExpr? type = some reference →
        reference.text = type.text ∧ TypeExpr.ofText type.text = .ok type ∧
        (TypeExpr.ofText reference.text).map ofExpr? = .ok (some reference) ∧
        ofExpr? type.nullable = some reference.asOptional) ∧
    ∀ reference : TypeReference, IsWholeName reference.name →
      (reference.itemNonNull = true → reference.isList = true) →
        (TypeExpr.ofText reference.text).map ofExpr? = .ok (some reference) := by
  constructor
  · intro type grammatical
    refine ⟨ofExpr?_eq_none_iff grammatical, fun reference read => ?_⟩
    have same : reference.toExpr = type := toExpr_of_ofExpr? read
    have spelt : reference.text = type.text := congrArg TypeExpr.text same
    have back : TypeExpr.ofText type.text = .ok type := by
      rw [← spelt, ofText_text (same ▸ grammatical), same]
    refine ⟨spelt, back, ?_, ofExpr?_nullable grammatical read⟩
    rw [spelt, back, ← read]
    rfl
  · intro reference named listed
    rw [ofText_text (toExpr_isGrammatical named), ← ofExpr?_toExpr listed]
    rfl

/-- A list of actors of whom none is missing. -/
def actors : TypeReference where
  name := "Actor"
  nonNull := true
  isList := true
  itemNonNull := true

/-- A list of such lists, each of which may be missing. -/
def actorLists : TypeExpr := .list actors.toExpr

theorem references_round_trip_actors :
    actors.toExpr.IsGrammatical ∧ actorLists.IsGrammatical ∧ ofExpr? actorLists = none ∧
      ofExpr? actors.toExpr = some actors ∧ actors.text = "[Actor!]!" ∧
      TypeExpr.ofText "[Actor!]!" = .ok actors.toExpr ∧
      (TypeExpr.ofText actors.text).map ofExpr? = .ok (some actors) ∧
      ofExpr? actors.toExpr.nullable = some actors.asOptional := by
  have plain : "Actor".toList.all Graphql.Token.isNamePart = true := rfl
  have named : IsWholeName actors.name :=
    ⟨List.all_eq_true.mp plain, 'A', "ctor".toList, rfl, rfl⟩
  have grammatical : actors.toExpr.IsGrammatical := toExpr_isGrammatical named
  have read : ofExpr? actors.toExpr = some actors := rfl
  have nested : actorLists.HasListOfLists := .inl rfl
  have told := (references_round_trip.1 actors.toExpr grammatical).2 actors read
  exact ⟨grammatical, grammatical, (references_round_trip.1 actorLists grammatical).1.mpr nested, read,
    told.1, told.2.1, references_round_trip.2 actors named fun _ => rfl, told.2.2.2⟩

end Schema.TypeReference

end GraphGateway
