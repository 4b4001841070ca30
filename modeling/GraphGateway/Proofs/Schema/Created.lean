import GraphGateway.Proofs.Cypher.Supply
import GraphGateway.Proofs.Outcome
import GraphGateway.Proofs.Text.Lowered
import GraphGateway.Schema.Constraints
import Mathlib.Data.List.Forall2
import Mathlib.Data.List.Nodup
import Mathlib.Data.List.Perm.Subperm

/-!
What a served model has created in its database: a constraint for the identifiers of each node type
and for the counters, and an index for the order of each relationship type.  All of it goes by
different names, whatever the types are called, and each statement tells the name that it gives.
-/
namespace GraphGateway.Text

variable {text rest : List Char}

theorem wordsFrom_append (word : List Char) (solid : ∀ c ∈ text, isBlank c = false) :
    wordsFrom word (text ++ rest) = wordsFrom (text.reverse ++ word) rest := by
  induction text generalizing word with
  | nil => rfl
  | cons c text ih =>
      have first : isBlank c = false := solid c (List.mem_cons_self ..)
      have others : ∀ d ∈ text, isBlank d = false := fun d member =>
        solid d (List.mem_cons_of_mem c member)
      rw [List.cons_append, wordsFrom, if_neg (by simp [first]), ih (c :: word) others,
        List.reverse_cons, List.append_assoc, List.singleton_append]

/-- A stretch without a blank is a word if a blank follows it. -/
theorem wordsFrom_word (filled : text ≠ []) (solid : ∀ c ∈ text, isBlank c = false) :
    wordsFrom [] (text ++ ' ' :: rest) = text :: wordsFrom [] rest := by
  rw [wordsFrom_append [] solid, List.append_nil, wordsFrom, if_pos (by decide),
    if_neg (by simpa using filled), List.reverse_reverse]

end GraphGateway.Text

namespace GraphGateway.Schema

open Cypher (escape numbered numbered_toList number_eq_of_numbered_eq base_eq_of_numbered_eq)
open Settings (Features)

/-- A name that stands as one word in a statement. -/
structure IsWord (name : String) : Prop where
  filled : name.toList ≠ []
  solid : ∀ c ∈ name.toList, Text.isBlank c = false

theorem IsWord.of_all {name : String} (filled : name.toList ≠ [])
    (solid : (name.toList.all fun c => !Text.isBlank c) = true) : IsWord name where
  filled := filled
  solid c member := by simpa using List.all_eq_true.mp solid c member

/-- The third word of a statement that creates something is a name. -/
theorem createdName?_of_spelt {statement kind name : String}
    (creates : kind = "CONSTRAINT" ∨ kind = "INDEX") (word : IsWord name)
    (spelt : ∃ rest, statement.toList =
      "CREATE ".toList ++ (kind.toList ++ (" ".toList ++ (name.toList ++ (" ".toList ++ rest))))) :
    createdName? statement = some name := by
  have kinds : IsWord kind := by
    rcases creates with rfl | rfl
    · exact .of_all (by decide) (by decide)
    · exact .of_all (by decide) (by decide)
  have create : IsWord "CREATE" := .of_all (by decide) (by decide)
  obtain ⟨rest, spelt⟩ := spelt
  have blank : " ".toList = [' '] := by decide
  have verb : "CREATE ".toList = "CREATE".toList ++ [' '] := by decide
  rw [verb, blank, List.append_assoc] at spelt
  have words : Text.words statement =
      "CREATE" :: kind :: name :: (Text.wordsFrom [] rest).map String.ofList := by
    unfold Text.words
    rw [spelt]
    simp only [List.singleton_append]
    rw [Text.wordsFrom_word create.filled create.solid,
      Text.wordsFrom_word kinds.filled kinds.solid, Text.wordsFrom_word word.filled word.solid]
    simp only [List.map_cons, String.ofList_toList]
  unfold createdName?
  rw [words]
  rcases creates with rfl | rfl <;> rfl

/-- A list without its later repetitions has none. -/
theorem eraseDups_nodup (names : List String) : names.eraseDups.Nodup := by
  induction count : names.length using Nat.strongRecOn generalizing names with
  | ind count ih =>
      cases names with
      | nil => exact .nil
      | cons name names =>
          rw [List.eraseDups_cons]
          apply List.nodup_cons.mpr
          constructor
          · intro again
            have kept := List.of_mem_filter (List.mem_eraseDups.mp again)
            simp at kept
          · apply ih _ _ _ rfl
            have bound := List.length_filter_le (fun other => !other == name) names
            rw [List.length_cons] at count
            omega

section Naming

/-- The name is the base itself, or the base with a number. -/
def IsMadeFrom (base name : String) : Prop :=
  name = base ∨ ∃ number, name = numbered base number

variable {used bases : List String} {base name : String}

/-- If the number that was settled on is taken, so are all numbers that were tried. -/
theorem numbered_taken {steps number tried : Nat}
    (taken : numberedName used base steps number ∈ used) (bound : tried ≤ steps) :
    numbered base (number + tried) ∈ used := by
  induction steps generalizing number tried with
  | zero =>
      obtain rfl : tried = 0 := Nat.le_zero.mp bound
      exact taken
  | succ steps ih =>
      unfold numberedName at taken
      dsimp only at taken
      split at taken
      · next here =>
        cases tried with
        | zero => exact List.contains_iff_mem.mp here
        | succ tried =>
            rw [Nat.add_comm tried, ← Nat.add_assoc]
            exact ih taken (Nat.le_of_succ_le_succ bound)
      · next apart => exact absurd (List.contains_iff_mem.mpr taken) apart

theorem freshName_not_mem (used : List String) (base : String) : freshName used base ∉ used := by
  unfold freshName
  split
  · intro taken
    -- One number more is tried than there are names in use.
    let tried := (List.range (used.length + 1)).map fun number => numbered base (2 + number)
    have distinct : tried.Nodup :=
      List.Nodup.map (fun _ _ same => Nat.add_left_cancel (number_eq_of_numbered_eq same))
        List.nodup_range
    have within : tried ⊆ used := by
      intro name member
      obtain ⟨number, small, rfl⟩ := List.mem_map.mp member
      exact numbered_taken taken (Nat.le_of_lt_succ (List.mem_range.mp small))
    have bound := (List.subperm_of_subset distinct within).length_le
    simp only [tried, List.length_map, List.length_range] at bound
    omega
  · next apart => exact fun taken => apart (List.contains_iff_mem.mpr taken)

theorem numberedName_isMadeFrom (used : List String) (base : String) (steps number : Nat) :
    IsMadeFrom base (numberedName used base steps number) := by
  induction steps generalizing number with
  | zero => exact .inr ⟨number, rfl⟩
  | succ steps ih =>
      unfold numberedName
      dsimp only
      split
      · exact ih (number + 1)
      · exact .inr ⟨number, rfl⟩

theorem freshName_isMadeFrom (used : List String) (base : String) :
    IsMadeFrom base (freshName used base) := by
  unfold freshName
  split
  · exact numberedName_isMadeFrom used base used.length 2
  · exact .inl rfl

theorem freshNames_madeFrom (used bases : List String) :
    List.Forall₂ IsMadeFrom bases (freshNames used bases) := by
  induction bases generalizing used with
  | nil => exact .nil
  | cons base bases ih => exact .cons (freshName_isMadeFrom used base) (ih _)

theorem not_mem_of_mem_freshNames (member : name ∈ freshNames used bases) : name ∉ used := by
  induction bases generalizing used with
  | nil => cases member
  | cons base bases ih =>
      rcases List.mem_cons.mp member with rfl | later
      · exact freshName_not_mem used base
      · exact fun taken => ih later (List.mem_cons_of_mem _ taken)

theorem freshNames_nodup (used bases : List String) : (freshNames used bases).Nodup := by
  induction bases generalizing used with
  | nil => exact .nil
  | cons base bases ih =>
      apply List.nodup_cons.mpr
      constructor
      · intro again
        exact not_mem_of_mem_freshNames again (List.mem_cons_self ..)
      · exact ih _

theorem getLast?_numbered (base : String) (number : Nat) :
    ∃ d, (numbered base number).toList.getLast? = some d ∧ d.isDigit = true := by
  obtain ⟨digits, d, same⟩ :=
    (List.eq_nil_or_concat' (Nat.toDigits 10 number)).resolve_left Nat.toDigits_ne_nil
  use d
  constructor
  · rw [numbered_toList, same, ← List.cons_append, ← List.append_assoc, List.getLast?_concat]
  · apply Nat.isDigit_of_mem_toDigits (b := 10) (by decide) (by decide) (n := number)
    rw [same]
    simp

/-- No name is made from two bases with different last letters. -/
theorem IsMadeFrom.not_both {other : String} {c d : Char} (made : IsMadeFrom base name)
    (alsoMade : IsMadeFrom other name) (last : base.toList.getLast? = some c)
    (otherLast : other.toList.getLast? = some d) (apart : c ≠ d) (plain : c.isDigit = false)
    (otherPlain : d.isDigit = false) : False := by
  have differ : base ≠ other := by
    rintro rfl
    rw [last] at otherLast
    exact apart (Option.some.inj otherLast)
  have unnumbered : ∀ {base : String} {c : Char} (other : String) (number : Nat),
      base.toList.getLast? = some c → c.isDigit = false → base ≠ numbered other number := by
    rintro _ c other number last plain rfl
    obtain ⟨digit, same, isDigit⟩ := getLast?_numbered other number
    rw [last] at same
    cases same
    rw [plain] at isDigit
    cases isDigit
  rcases made with rfl | ⟨number, rfl⟩
  · rcases alsoMade with same | ⟨number, same⟩
    · exact differ same
    · exact unnumbered other number last plain same
  · rcases alsoMade with same | ⟨another, same⟩
    · exact unnumbered base number otherLast otherPlain same.symm
    · exact differ (base_eq_of_numbered_eq same)

end Naming

/-- What a served model has created in its database. -/
inductive Element where
  /-- The constraint that identifiers of a node type are unique. -/
  | identifier (node : NodeType)
  /-- The constraint that there is one counter of a name. -/
  | counters
  /-- The index for the order of the relationships of a type. -/
  | order (label : String)

namespace Element

variable (features : Features)

def label : Element → String
  | identifier node => node.name
  | counters => features.sequenceLabel
  | order label => label

def property : Element → String
  | identifier node => node.identifier.stored
  | counters => "name"
  | order _ => features.sequenceProperty

def ending : Element → String
  | identifier _ => "unique"
  | counters => "unique"
  | order _ => "index"

theorem ending_eq (element : Element) :
    element.ending = "unique" ∨ element.ending = "index" := by
  cases element with
  | identifier node => exact .inl rfl
  | counters => exact .inl rfl
  | order label => exact .inr rfl

/-- What the name of the element is made from. -/
def base (element : Element) : String :=
  baseName (element.label features) (element.property features) element.ending

/-- The statement that creates the element under a name. -/
def statement (element : Element) (name : String) : String :=
  match element with
  | identifier node => uniqueness name "n" node.name (escape node.identifier.stored)
  | counters => uniqueness name "s" features.sequenceLabel "name"
  | order label =>
      s!"CREATE INDEX {name} IF NOT EXISTS FOR ()-[r:{escape label}]-() " ++
        s!"ON (r.{escape features.sequenceProperty})"

/-- A statement tells the name that it gives. -/
theorem createdName?_statement (element : Element) {name : String} (word : IsWord name) :
    createdName? (element.statement features name) = some name := by
  have constraint : "CREATE CONSTRAINT ".toList =
      "CREATE ".toList ++ ("CONSTRAINT".toList ++ " ".toList) := by decide
  have index : "CREATE INDEX ".toList = "CREATE ".toList ++ ("INDEX".toList ++ " ".toList) := by
    decide
  have node : " IF NOT EXISTS FOR (".toList = " ".toList ++ "IF NOT EXISTS FOR (".toList := by decide
  have relationship : " IF NOT EXISTS FOR ()-[r:".toList =
      " ".toList ++ "IF NOT EXISTS FOR ()-[r:".toList := by decide
  cases element with
  | identifier _ =>
      apply createdName?_of_spelt (.inl rfl) word
      unfold statement uniqueness
      simp only [toString, String.toList_append, List.append_assoc]
      rw [constraint, node]
      simp only [List.append_assoc]
      exact ⟨_, rfl⟩
  | counters =>
      apply createdName?_of_spelt (.inl rfl) word
      unfold statement uniqueness
      simp only [toString, String.toList_append, List.append_assoc]
      rw [constraint, node]
      simp only [List.append_assoc]
      exact ⟨_, rfl⟩
  | order label =>
      apply createdName?_of_spelt (.inr rfl) word
      unfold statement
      simp only [toString, String.toList_append, List.append_assoc]
      rw [index, relationship]
      simp only [List.append_assoc]
      exact ⟨_, rfl⟩

end Element

section Words

/-- The characters of the names that are made: underscores, letters and numbers, and the mark beside
the lower case of a dotted I. -/
def IsNamePiece (c : Char) : Prop :=
  c = '_' ∨ Text.isAlphanumeric c = true ∨ c = Text.dotAbove

theorem IsNamePiece.not_blank {c : Char} (piece : IsNamePiece c) : Text.isBlank c = false := by
  rcases piece with rfl | word | rfl
  · decide
  · exact Text.not_isBlank_of_isAlphanumeric word
  · decide

theorem IsNamePiece.of_isDigit {c : Char} (digit : c.isDigit = true) : IsNamePiece c := by
  right
  left
  apply Text.isAlphanumeric_of_isAlphanum
  simp [Char.isAlphanum, digit]

/-- What a character of a label or property becomes in a name. -/
def cleaned (c : Char) : Char :=
  if Text.isAlphanumeric c then c else '_'

variable (label property ending : String)

theorem baseName_toList :
    (baseName label property ending).toList =
      Text.lowerFrom [] (trimUnderscores ((label ++ "_" ++ property).toList.map cleaned)) ++
        '_' :: ending.toList := by
  unfold baseName Text.lower
  rw [String.toList_append, String.toList_append, String.toList_ofList, String.toList_ofList,
    List.append_assoc]
  rfl

theorem getLast?_baseName {ending : String} {c : Char} (last : ending.toList.getLast? = some c) :
    (baseName label property ending).toList.getLast? = some c := by
  rw [baseName_toList, List.getLast?_append, List.getLast?_cons, last]
  rfl

theorem mem_of_mem_trimUnderscores {text : List Char} {c : Char}
    (member : c ∈ trimUnderscores text) : c ∈ text := by
  unfold trimUnderscores at member
  rw [List.mem_reverse] at member
  have inside := (List.dropWhile_sublist _).subset member
  rw [List.mem_reverse] at inside
  exact (List.dropWhile_sublist _).subset inside

theorem baseName_pieces {ending : String} (plain : ∀ c ∈ ending.toList, IsNamePiece c) {d : Char}
    (member : d ∈ (baseName label property ending).toList) : IsNamePiece d := by
  rw [baseName_toList, List.mem_append, List.mem_cons] at member
  rcases member with inside | rfl | after
  · obtain ⟨earlier, c, later, same, lowered⟩ := Text.mem_lowerFrom.mp inside
    have trimmed : c ∈ trimUnderscores ((label ++ "_" ++ property).toList.map cleaned) := by
      rw [same]
      simp
    obtain ⟨source, -, rfl⟩ := List.mem_map.mp (mem_of_mem_trimUnderscores trimmed)
    unfold cleaned at lowered
    split at lowered
    · next word =>
      right
      rcases Text.kindOf_lowerOf word lowered with kept | ⟨-, mark⟩
      · left
        rw [← Bool.not_eq_false, ← Text.kindOf_eq_other_iff, kept, Text.kindOf_eq_other_iff, word]
        decide
      · exact .inr mark
    · exact .inl (List.mem_singleton.mp lowered)
  · exact .inl rfl
  · exact plain d after

theorem IsMadeFrom.pieces {base name : String} (made : IsMadeFrom base name)
    (pieces : ∀ c ∈ base.toList, IsNamePiece c) : ∀ c ∈ name.toList, IsNamePiece c := by
  rcases made with rfl | ⟨number, rfl⟩
  · exact pieces
  · intro c member
    rw [numbered_toList, List.mem_append, List.mem_cons] at member
    rcases member with inside | rfl | digit
    · exact pieces c inside
    · exact .inl rfl
    · exact .of_isDigit (Nat.isDigit_of_mem_toDigits (by decide) (by decide) digit)

theorem IsMadeFrom.filled {base name : String} (made : IsMadeFrom base name)
    (filled : base.toList ≠ []) : name.toList ≠ [] := by
  rcases made with rfl | ⟨number, rfl⟩
  · exact filled
  · rw [numbered_toList]
    exact List.append_ne_nil_of_right_ne_nil _ (List.cons_ne_nil _ _)

/-- A name that is made for an element is one word. -/
theorem IsMadeFrom.isWord {features : Features} {element : Element} {name : String}
    (made : IsMadeFrom (element.base features) name) : IsWord name := by
  have basic : element.ending.toList.all Char.isAlphanum = true := by
    rcases element.ending_eq with same | same
    · rw [same]
      decide
    · rw [same]
      decide
  have plain : ∀ c ∈ element.ending.toList, IsNamePiece c := fun c member =>
    .inr (.inl (Text.isAlphanumeric_of_isAlphanum (List.all_eq_true.mp basic c member)))
  constructor
  · apply made.filled
    unfold Element.base
    rw [baseName_toList]
    exact List.append_ne_nil_of_right_ne_nil _ (List.cons_ne_nil _ _)
  · intro c member
    exact (made.pieces (fun c => baseName_pieces _ _ plain) c member).not_blank

end Words

namespace Model

variable (model : Model) (features : Features)

/-- What has to be unique. -/
def secured : List Element :=
  model.nodes.map .identifier ++ [.counters]

/-- What is kept in order. -/
def ordered : List Element :=
  model.labels.map .order

def elements : List Element :=
  model.secured ++ model.ordered

/-- The names of what is created, constraints before indices. -/
def createdNames : List String :=
  freshNames [] (model.secured.map (Element.base features)) ++
    freshNames [] (model.ordered.map (Element.base features))

theorem constraints_eq :
    model.constraints features =
      List.zipWith (Element.statement features) model.secured
        (freshNames [] (model.secured.map (Element.base features))) := by
  have bases : model.secured.map (Element.base features) =
      (model.nodes.map fun node => baseName node.name node.identifier.stored "unique") ++
        [baseName features.sequenceLabel "name" "unique"] := by
    unfold secured
    rw [List.map_append, List.map_map]
    rfl
  have count := (freshNames_madeFrom [] (model.secured.map (Element.base features))).length_eq
  unfold constraints
  dsimp only
  rw [← bases]
  rw [List.length_map] at count
  generalize freshNames [] (model.secured.map (Element.base features)) = names at count ⊢
  unfold secured at count ⊢
  obtain rfl | ⟨firsts, last, rfl⟩ := List.eq_nil_or_concat' names
  · simp at count
  · have firstCount : model.nodes.length = firsts.length := by simpa using count
    have zipped : (model.nodes ++ []).zip (firsts ++ [last]) =
        model.nodes.zip firsts ++ [].zip [last] := List.zip_append firstCount
    rw [List.append_nil, List.zip_nil_left, List.append_nil] at zipped
    rw [zipped, List.drop_left' firstCount.symm, List.zipWith_append (by simpa using firstCount),
      List.zipWith_map_left, List.map_zip_eq_zipWith]
    rfl

theorem indices_eq :
    model.indices features =
      List.zipWith (Element.statement features) model.ordered
        (freshNames [] (model.ordered.map (Element.base features))) := by
  unfold indices ordered
  dsimp only
  rw [List.map_map, List.zipWith_map_left, List.map_zip_eq_zipWith]
  rfl

theorem createdNames_madeFrom :
    List.Forall₂ (fun element name => IsMadeFrom (element.base features) name) model.elements
      (model.createdNames features) := by
  have made : ∀ elements : List Element,
      List.Forall₂ (fun element name => IsMadeFrom (element.base features) name) elements
        (freshNames [] (elements.map (Element.base features))) := fun elements =>
    List.forall₂_map_left_iff.mp (freshNames_madeFrom [] _)
  exact List.rel_append (made model.secured) (made model.ordered)

/-- Each element is created by a statement of its own, under a name of its own. -/
theorem statements_eq :
    model.constraints features ++ model.indices features =
      List.zipWith (Element.statement features) model.elements (model.createdNames features) := by
  have count := (freshNames_madeFrom [] (model.secured.map (Element.base features))).length_eq
  rw [List.length_map] at count
  unfold elements createdNames
  rw [constraints_eq, indices_eq, List.zipWith_append count]

theorem createdName?_statements :
    (model.constraints features ++ model.indices features).map createdName? =
      (model.createdNames features).map some := by
  rw [statements_eq]
  have made := model.createdNames_madeFrom features
  generalize model.elements = elements, model.createdNames features = names at made ⊢
  induction made with
  | nil => rfl
  | cons made _ ih =>
      rw [List.zipWith_cons_cons, List.map_cons, List.map_cons, ih,
        Element.createdName?_statement features _ made.isWord]

/-- The ends of their bases keep the names of constraints and of indices apart. -/
theorem createdNames_nodup : (model.createdNames features).Nodup := by
  apply List.nodup_append.mpr
  refine ⟨freshNames_nodup [] _, freshNames_nodup [] _, ?_⟩
  rintro name constrained _ indexed rfl
  obtain ⟨base, secured, made⟩ :=
    Outcome.partner_of_mem_others (freshNames_madeFrom [] _) constrained
  obtain ⟨other, ordered, alsoMade⟩ :=
    Outcome.partner_of_mem_others (freshNames_madeFrom [] _) indexed
  obtain ⟨element, among, rfl⟩ := List.mem_map.mp secured
  obtain ⟨_, kept, rfl⟩ := List.mem_map.mp ordered
  obtain ⟨label, -, rfl⟩ := List.mem_map.mp kept
  have unique : element.ending = "unique" := by
    rcases List.mem_append.mp among with node | counters
    · obtain ⟨node, -, rfl⟩ := List.mem_map.mp node
      rfl
    · rw [List.mem_singleton.mp counters]
      rfl
  have last : (element.base features).toList.getLast? = some 'e' := by
    apply getLast?_baseName
    rw [unique]
    rfl
  have otherLast : ((Element.order label).base features).toList.getLast? = some 'x' :=
    getLast?_baseName _ _ (by decide : "index".toList.getLast? = some 'x')
  exact made.not_both alsoMade last otherLast (by decide) (by decide) (by decide)

theorem labels_nodup : model.labels.Nodup := eraseDups_nodup _

theorem mem_labels {label : String} :
    label ∈ model.labels ↔
      ∃ node ∈ model.nodes, ∃ relationship ∈ node.relationships, relationship.label = label := by
  unfold labels
  rw [List.mem_eraseDups, List.mem_flatMap]
  simp only [List.mem_map]

end Model

end GraphGateway.Schema
