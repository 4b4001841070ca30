import GraphGateway.Proofs.Schema.Created
import GraphGateway.Schema.Declared
import Mathlib.Data.List.DropRight
import Mathlib.Data.List.TakeWhile

/-!
Which names stand in a statement without quotes.  Such a name begins with a letter or an underscore
and goes on with letters, digits and underscores.  The name of a constraint or an index is made from
a label and a property, and the underscores at the ends of these are dropped: so the name is one that
needs no quotes exactly if the first letter or number of the two is a letter and no number other than
a digit is among them.
-/
namespace GraphGateway.Schema

open Cypher (numbered numbered_toList)
open Settings (Features)
open Text (Kind kindOf)

/-- A character that a name without quotes may begin with. -/
def StartsBare (c : Char) : Prop :=
  c = '_' ∨ kindOf c = .letter

/-- A character that a name without quotes may go on with. -/
def IsBarePart (c : Char) : Prop :=
  c = '_' ∨ kindOf c = .letter ∨ kindOf c = .digit

instance : DecidablePred StartsBare := fun _ => inferInstanceAs (Decidable (_ ∨ _))

instance : DecidablePred IsBarePart := fun _ => inferInstanceAs (Decidable (_ ∨ _))

/-- A name that may stand in a statement without quotes. -/
structure IsBare (name : String) : Prop where
  starts : ∃ c, name.toList.head? = some c ∧ StartsBare c
  parts : ∀ c ∈ name.toList, IsBarePart c

/-- A label and a property that make a name without quotes: their letters and numbers are letters and
digits that have a lower case of one character, and a letter comes before any digit. -/
structure MakesBare (label property : String) : Prop where
  parts : ∀ c ∈ (label ++ "_" ++ property).toList, Text.isAlphanumeric c = true →
    IsBarePart c ∧ c ≠ Text.dottedI
  starts : ∀ c, (label ++ "_" ++ property).toList.find? Text.isAlphanumeric = some c →
    kindOf c = .letter

section Trimmed

variable {text : List Char} {c : Char}

theorem trimUnderscores_eq (text : List Char) :
    trimUnderscores text = (text.dropWhile (· = '_')).rdropWhile (· = '_') := rfl

/-- Only underscores are dropped. -/
theorem mem_trimUnderscores (member : c ∈ text) (other : c ≠ '_') : c ∈ trimUnderscores text := by
  have kept : c ∈ text.dropWhile (· = '_') := by
    rw [← List.takeWhile_append_dropWhile (p := (· = '_')) (l := text), List.mem_append] at member
    exact member.resolve_left fun dropped => other (by simpa using List.mem_takeWhile_imp dropped)
  rw [trimUnderscores_eq]
  rw [← List.rdropWhile_append_rtakeWhile (p := (· = '_')) (l := text.dropWhile (· = '_')),
    List.mem_append] at kept
  exact kept.resolve_right fun dropped => other (by simpa using List.mem_rtakeWhile_imp dropped)

/-- What is left begins with the first character that is no underscore. -/
theorem head?_trimUnderscores (text : List Char) :
    (trimUnderscores text).head? = text.find? fun c => !decide (c = '_') := by
  rw [List.find?_not_eq_head?_dropWhile, trimUnderscores_eq]
  cases left : text.dropWhile (· = '_') with
  | nil => rfl
  | cons c rest =>
      have first : ¬ c = '_' := by
        have head := List.head?_dropWhile_not (fun c => decide (c = '_')) text
        rw [left] at head
        simpa using head
      obtain ⟨dropped, same⟩ := List.rdropWhile_prefix (fun c => decide (c = '_')) (c :: rest)
      cases kept : (c :: rest).rdropWhile fun c => decide (c = '_') with
      | nil =>
          have all := List.rdropWhile_eq_nil_iff.mp kept c (List.mem_cons_self ..)
          exact absurd (by simpa using all) first
      | cons d others =>
          rw [kept] at same
          cases same
          rfl

end Trimmed

section Bare

variable {base name : String}

theorem IsBarePart.of_isDigit {c : Char} (digit : c.isDigit = true) : IsBarePart c :=
  .inr (.inr (Text.kindOf_of_isDigit digit))

/-- A number leaves a name with or without the need of quotes. -/
theorem IsMadeFrom.isBare_iff (made : IsMadeFrom base name) (filled : base.toList ≠ []) :
    IsBare name ↔ IsBare base := by
  rcases made with rfl | ⟨number, rfl⟩
  · rfl
  · have head : (numbered base number).toList.head? = base.toList.head? := by
      rw [numbered_toList]
      cases chars : base.toList with
      | nil => exact absurd chars filled
      | cons c rest => rfl
    constructor
    · intro bare
      constructor
      · rw [← head]
        exact bare.starts
      · intro c member
        apply bare.parts
        rw [numbered_toList]
        exact List.mem_append_left _ member
    · intro bare
      constructor
      · rw [head]
        exact bare.starts
      · intro c member
        rw [numbered_toList, List.mem_append, List.mem_cons] at member
        rcases member with inside | rfl | digit
        · exact bare.parts c inside
        · exact .inl rfl
        · exact .of_isDigit (Nat.isDigit_of_mem_toDigits (by decide) (by decide) digit)

theorem ne_underscore_of_isAlphanumeric {c : Char} (word : Text.isAlphanumeric c = true) :
    c ≠ '_' := by
  rintro rfl
  revert word
  decide +kernel

/-- A letter or number keeps its kind in lower case, so it is as good for a name as before. -/
theorem isBarePart_iff_of_kindOf {c d : Char} (word : Text.isAlphanumeric c = true)
    (same : kindOf d = kindOf c) :
    (IsBarePart d ↔ IsBarePart c) ∧ (StartsBare d ↔ kindOf c = .letter) := by
  have other : ∀ {c : Char}, kindOf c ≠ .other → c ≠ '_' := by
    rintro _ known rfl
    exact known (by decide +kernel)
  have known : kindOf c ≠ .other := by
    intro unknown
    rw [Text.kindOf_eq_other_iff, word] at unknown
    cases unknown
  have knownToo : kindOf d ≠ .other := same ▸ known
  unfold IsBarePart StartsBare
  rw [same]
  constructor
  · rw [eq_false (other known), eq_false (other knownToo)]
  · rw [eq_false (other knownToo), false_or]

/-- What is left of a label and a property begins with their first letter or number. -/
theorem head?_trimmed (source : List Char) :
    (trimUnderscores (source.map cleaned)).head? = source.find? Text.isAlphanumeric := by
  rw [head?_trimUnderscores, List.find?_map]
  induction source with
  | nil => rfl
  | cons c source ih =>
      cases word : Text.isAlphanumeric c with
      | false =>
          have dropped : cleaned c = '_' := by simp [cleaned, word]
          rw [List.find?_cons_of_neg (by simp [dropped]), List.find?_cons_of_neg (by simp [word])]
          exact ih
      | true =>
          have kept : cleaned c = c := by simp [cleaned, word]
          rw [List.find?_cons_of_pos (by simp [kept, ne_underscore_of_isAlphanumeric word]),
            List.find?_cons_of_pos word, Option.map_some, kept]

variable {label property ending : String}

/-- A letter or number of the label or the property comes into the name in lower case. -/
theorem lowered_of_mem (ending : String) {c : Char} (member : c ∈ (label ++ "_" ++ property).toList)
    (word : Text.isAlphanumeric c = true) :
    ∃ before after, ∀ d ∈ Text.lowerOf before c after,
      d ∈ (baseName label property ending).toList := by
  have kept : c ∈ (label ++ "_" ++ property).toList.map cleaned := by
    apply List.mem_map.mpr
    exact ⟨c, member, by simp [cleaned, word]⟩
  obtain ⟨earlier, later, same⟩ := List.append_of_mem
    (mem_trimUnderscores kept (ne_underscore_of_isAlphanumeric word))
  refine ⟨earlier.reverse ++ [], later, fun d inside => ?_⟩
  rw [baseName_toList]
  exact List.mem_append_left _ (Text.mem_lowerFrom.mpr ⟨earlier, c, later, same, inside⟩)

theorem IsBare.makesBare (bare : IsBare (baseName label property ending)) :
    MakesBare label property := by
  constructor
  · intro c member word
    obtain ⟨before, after, lowered⟩ := lowered_of_mem ending member word
    obtain ⟨d, rest, same, kind⟩ := Text.lowerOf_eq_cons before after word
    constructor
    · apply (isBarePart_iff_of_kindOf word kind).1.mp
      apply bare.parts
      apply lowered
      rw [same]
      exact List.mem_cons_self ..
    · rintro rfl
      have mark : IsBarePart Text.dotAbove := by
        apply bare.parts
        apply lowered
        exact List.mem_cons_of_mem _ (List.mem_cons_self ..)
      revert mark
      decide +kernel
  · intro c found
    have word := List.find?_some found
    rw [← head?_trimmed] at found
    obtain ⟨first, head, starts⟩ := bare.starts
    rw [baseName_toList] at head
    cases left : trimUnderscores ((label ++ "_" ++ property).toList.map cleaned) with
    | nil =>
        rw [left] at found
        cases found
    | cons c rest =>
        rw [left] at found head
        cases found
        obtain ⟨d, others, same, kind⟩ := Text.lowerOf_eq_cons [] rest word
        rw [Text.lowerFrom, same] at head
        cases head
        exact (isBarePart_iff_of_kindOf word kind).2.mp starts

theorem MakesBare.isBare (makes : MakesBare label property)
    (plain : ∀ c ∈ ending.toList, IsBarePart c) : IsBare (baseName label property ending) := by
  have first := head?_trimmed (label ++ "_" ++ property).toList
  constructor
  · rw [baseName_toList]
    cases left : trimUnderscores ((label ++ "_" ++ property).toList.map cleaned) with
    | nil => exact ⟨'_', rfl, .inl rfl⟩
    | cons c rest =>
        rw [left] at first
        have word := List.find?_some first.symm
        obtain ⟨d, others, same, kind⟩ := Text.lowerOf_eq_cons [] rest word
        refine ⟨d, ?_, (isBarePart_iff_of_kindOf word kind).2.mpr (makes.starts c first.symm)⟩
        rw [Text.lowerFrom, same]
        rfl
  · intro d member
    rw [baseName_toList, List.mem_append, List.mem_cons] at member
    rcases member with inside | rfl | after
    · obtain ⟨earlier, c, later, same, lowered⟩ := Text.mem_lowerFrom.mp inside
      have trimmed : c ∈ trimUnderscores ((label ++ "_" ++ property).toList.map cleaned) := by
        rw [same]
        simp
      obtain ⟨source, member, rfl⟩ := List.mem_map.mp (mem_of_mem_trimUnderscores trimmed)
      unfold cleaned at lowered
      split at lowered
      · next word =>
        obtain ⟨part, plain⟩ := makes.parts source member word
        rcases Text.kindOf_lowerOf word lowered with kept | ⟨dotted, -⟩
        · exact (isBarePart_iff_of_kindOf word kept).1.mpr part
        · exact absurd dotted plain
      · exact .inl (List.mem_singleton.mp lowered)
    · exact .inl rfl
    · exact plain d after

end Bare

/-- Every constraint and index goes by a name that its statement tells.  The name needs no quotes
exactly if its label and its property make such a name. -/
theorem Model.names_bare_iff (model : Model) (features : Features) :
    ∃ names,
      model.constraints features ++ model.indices features =
        List.zipWith (Element.statement features) model.elements names ∧
      (model.constraints features ++ model.indices features).map createdName? = names.map some ∧
      List.Forall₂ (fun element name =>
        IsBare name ↔ MakesBare (element.label features) (element.property features))
        model.elements names := by
  refine ⟨model.createdNames features, model.statements_eq features,
    model.createdName?_statements features, ?_⟩
  apply (model.createdNames_madeFrom features).imp
  intro element name made
  have filled : (element.base features).toList ≠ [] := by
    unfold Element.base
    rw [baseName_toList]
    exact List.append_ne_nil_of_right_ne_nil _ (List.cons_ne_nil _ _)
  have basic : element.ending.toList.all Char.isAlpha = true := by
    rcases element.ending_eq with same | same
    · rw [same]
      decide
    · rw [same]
      decide
  have plain : ∀ c ∈ element.ending.toList, IsBarePart c := fun c member =>
    .inr (.inl (Text.kindOf_of_isAlpha (List.all_eq_true.mp basic c member)))
  rw [made.isBare_iff filled]
  exact ⟨IsBare.makesBare, fun makes => makes.isBare plain⟩

/-- A document with a relationship type that begins with a digit. -/
def rankedDocument : Graphql.Document :=
  [.object
    { name := "Movie", directives := []
      fields :=
        [⟨"title", .named "String", []⟩,
         ⟨"lead", .list (.named "Person"),
          [⟨"relationship", [("type", .string "1ST" false), ("direction", .enum "IN")]⟩]⟩] },
   .object { name := "Person", directives := [], fields := [⟨"name", .named "String", []⟩] }]

/-- The name of an index begins with a digit if its relationship type does. -/
theorem exists_name_with_digit_first :
    ∃ declared, Declared.ofDocument? rankedDocument = some declared ∧ declared.problems = [] ∧
      ∃ statement ∈ declared.model.indices {}, ∃ name,
        createdName? statement = some name ∧ ¬ IsBare name := by
  let statement :=
    "CREATE INDEX 1st__seq_index IF NOT EXISTS FOR ()-[r:`1ST`]-() ON (r.`_seq`)"
  have told : (Declared.ofDocument? rankedDocument).any (fun declared =>
      declared.problems.isEmpty && declared.model.indices {} == [statement]) = true := by
    decide +kernel
  obtain ⟨declared, read, told⟩ := (Option.any_eq_true _ _).mp told
  obtain ⟨accepted, indices⟩ := Bool.and_eq_true_iff.mp told
  refine ⟨declared, read, List.isEmpty_iff.mp accepted, statement, ?_, "1st__seq_index", ?_, ?_⟩
  · rw [eq_of_beq indices]
    exact List.mem_singleton.mpr rfl
  · decide +kernel
  · rintro ⟨⟨c, head, starts⟩, -⟩
    have first : "1st__seq_index".toList.head? = some '1' := by decide
    rw [first] at head
    cases head
    revert starts
    decide +kernel

end GraphGateway.Schema
