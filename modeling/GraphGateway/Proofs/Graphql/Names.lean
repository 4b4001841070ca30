import Mathlib.Data.List.TakeWhile
import GraphGateway.Graphql.Reader
import GraphGateway.Proofs.Outcome

/-!
Names in documents.  A name in a text is made of letters, digits and underscores, and what is read of
its tokens has no names but those in it.  So the fields of all types that a document declares are named
with such characters and nothing else.
-/
namespace GraphGateway.Graphql

/-- Whether a text has no characters but those of names. -/
def IsName (text : String) : Prop := ∀ c ∈ text.toList, Token.isNamePart c = true

theorem IsName.not_mem {text : String} (name : IsName text) {c : Char}
    (foreign : Token.isNamePart c = false) : c ∉ text.toList := by
  intro member
  rw [name c member] at foreign
  cases foreign

namespace Token

/-- The tokens of a text whose characters are known. -/
theorem ofText_ofList (chars : List Char) :
    ofText (String.ofList chars) =
      if chars.any fun c => (Text.carried? c).isSome then .error .illegible
      else readAll (chars.length + 1) chars := by
  unfold ofText
  rw [String.toList_ofList]

/-- A token that is a name is spelt as one. -/
def IsSpelt : Token → Prop
  | .name text => IsName text
  | _ => True

theorem isNamePart_of_start {c : Char} (start : isNameStart c = true) : isNamePart c = true := by
  unfold isNameStart at start
  unfold isNamePart Char.isAlphanum
  rcases Bool.or_eq_true _ _ ▸ start with letter | other
  · simp [letter]
  · simp [other]

theorem ofMark?_spelt {c : Char} {token : Token} (marked : ofMark? c = some token) : token.IsSpelt := by
  unfold ofMark? at marked
  split at marked <;> cases marked <;> trivial

theorem readNumber_spelt {text after : List Char} {token : Token}
    (read : readNumber text = .ok (token, after)) : token.IsSpelt := by
  unfold readNumber at read
  obtain ⟨⟨whole, rest⟩, -, read⟩ := Outcome.bind_ok_iff.mp read
  obtain ⟨⟨fraction, rest⟩, -, read⟩ := Outcome.bind_ok_iff.mp read
  obtain ⟨⟨exponent, rest⟩, -, read⟩ := Outcome.bind_ok_iff.mp read
  dsimp only at read
  split at read
  · split at read
    · cases read
    · split at read <;> cases read <;> trivial
  · split at read <;> cases read <;> trivial

theorem readOne_spelt {c : Char} {rest after : List Char} {token : Token}
    (read : readOne c rest = .ok (token, after)) : token.IsSpelt := by
  unfold readOne at read
  split at read
  · next marked =>
    cases read
    exact ofMark?_spelt marked
  · split at read
    · next start =>
      cases read
      intro other member
      rw [String.toList_ofList] at member
      rcases List.mem_cons.mp member with rfl | member
      · exact isNamePart_of_start start
      · exact List.mem_takeWhile_imp member
    · split at read
      · exact readNumber_spelt read
      · split at read
        · cases read
          trivial
        · split at read
          · cases read
            trivial
          · cases read
        · obtain ⟨_, -, made⟩ := Outcome.bind_ok_iff.mp read
          cases made
          trivial
        · cases read

theorem readAll_spelt (fuel : Nat) {text : List Char} {tokens : List Token}
    (read : readAll fuel text = .ok tokens) : ∀ token ∈ tokens, token.IsSpelt := by
  fun_induction readAll fuel text generalizing tokens with
  | case1 =>
      cases read
      simp
  | case2 => cases read
  | case3 fuel c rest skipped ih => exact ih read
  | case4 fuel rest skipped ih => exact ih read
  | case5 fuel c rest kept other ih =>
      obtain ⟨⟨token, after⟩, first, read⟩ := Outcome.bind_ok_iff.mp read
      obtain ⟨others, later, made⟩ := Outcome.bind_ok_iff.mp read
      cases made
      exact List.forall_mem_cons.mpr ⟨readOne_spelt first, ih _ later⟩

end Token

namespace Reader

variable {α β : Type} {read item : Reader α} {good : α → Prop} {goal : β → Prop}

/-- From tokens that are spelt a reader reads something good and leaves tokens that are spelt. -/
def Reads (read : Reader α) (good : α → Prop) : Prop :=
  ∀ tokens : List Token, (∀ token ∈ tokens, token.IsSpelt) → ∀ item rest,
    read tokens = some (item, rest) → good item ∧ ∀ token ∈ rest, token.IsSpelt

/-- A reader that leaves tokens that are spelt, whatever it reads. -/
abbrev Passes (read : Reader α) : Prop := Reads read fun _ => True

namespace Reads

theorem imp {better : α → Prop} (reads : Reads read good) (weaker : ∀ item, good item → better item) :
    Reads read better :=
  fun tokens spelt item rest done => (reads tokens spelt item rest done).imp_left (weaker item)

theorem passes (reads : Reads read good) : Passes read := reads.imp fun _ _ => trivial

theorem pure {item : α} (is : good item) : Reads (Pure.pure item : Reader α) good := by
  rintro tokens spelt _ _ ⟨⟩
  exact ⟨is, spelt⟩

theorem refuse : Reads (refuse : Reader α) good := by
  rintro tokens spelt _ _ ⟨⟩

theorem bind {next : α → Reader β} (first : Reads read good)
    (others : ∀ item, good item → Reads (next item) goal) : Reads (read >>= next) goal := by
  intro tokens spelt item rest done
  change andThen read next tokens = _ at done
  unfold andThen at done
  cases begun : read tokens with
  | none =>
      rw [begun] at done
      cases done
  | some pair =>
      obtain ⟨value, left⟩ := pair
      rw [begun] at done
      obtain ⟨is, still⟩ := first tokens spelt value left begun
      exact others value is left still item rest done

theorem run (good : α → Prop) {tokens rest : List Token} {item : α} (done : read tokens = some (item, rest))
    (spelt : ∀ token ∈ tokens, token.IsSpelt) (reads : Reads read good) :
    good item ∧ ∀ token ∈ rest, token.IsSpelt := reads tokens spelt item rest done

/-- What takes some tokens off the head of others passes. -/
theorem of_subset (fewer : ∀ tokens item rest, read tokens = some (item, rest) → rest ⊆ tokens) :
    Passes read :=
  fun tokens spelt item rest done =>
    ⟨trivial, fun token member => spelt token (fewer tokens item rest done member)⟩

end Reads

theorem reads_name : Reads name IsName := by
  intro tokens spelt text rest done
  unfold name at done
  split at done
  · cases done
    exact List.forall_mem_cons.mp spelt
  · cases done

theorem passes_expect (token : Token) : Passes (expect token) := by
  apply Reads.of_subset
  intro tokens item rest done
  unfold expect at done
  split at done
  · split at done
    · cases done
      exact List.subset_cons_self _ _
    · cases done
  · cases done

theorem passes_skip (token : Token) : Passes (skip token) := by
  apply Reads.of_subset
  intro tokens item rest done
  unfold skip at done
  split at done
  · split at done
    · cases done
      exact List.subset_cons_self _ _
    · cases done
      exact List.Subset.refl _
  · cases done
    exact List.Subset.refl _

theorem passes_sees (token : Token) : Passes (sees token) := by
  apply Reads.of_subset
  rintro tokens _ _ ⟨⟩
  exact List.Subset.refl _

/-- Something good in front of good things. -/
theorem consFirst_good {first : α} {result : Option (List α × List Token)} {items : List α}
    {rest : List Token} (done : Json.consFirst first result = some (items, rest)) (is : good first)
    (later : ∀ items rest, result = some (items, rest) →
      (∀ item ∈ items, good item) ∧ ∀ token ∈ rest, token.IsSpelt) :
    (∀ item ∈ items, good item) ∧ ∀ token ∈ rest, token.IsSpelt := by
  cases result with
  | none => cases done
  | some pair =>
      obtain ⟨others, left⟩ := pair
      cases done
      obtain ⟨all, still⟩ := later others rest rfl
      exact ⟨List.forall_mem_cons.mpr ⟨is, all⟩, still⟩

theorem reads_many (each : Reads item good) (close : Token) (fuel : Nat) :
    Reads (many item close fuel) fun items => ∀ item ∈ items, good item := by
  induction fuel with
  | zero =>
      rintro tokens spelt _ _ ⟨⟩
  | succ fuel ih =>
      intro tokens spelt items rest done
      unfold many at done
      split at done
      · cases done
      · next first next left begun =>
        obtain ⟨is, still⟩ := each tokens spelt first _ begun
        split at done
        · cases done
          exact ⟨List.forall_mem_singleton.mpr is, (List.forall_mem_cons.mp still).2⟩
        · exact consFirst_good done is (ih _ still)
      · cases done

theorem reads_any (each : Reads item good) (close : Token) (fuel : Nat) :
    Reads (any item close fuel) fun items => ∀ item ∈ items, good item := by
  intro tokens spelt items rest done
  unfold any at done
  split at done
  · split at done
    · cases done
      exact ⟨fun _ member => absurd member List.not_mem_nil, (List.forall_mem_cons.mp spelt).2⟩
    · exact reads_many each close fuel _ spelt items rest done
  · cases done

theorem reads_optionalMany (opening : Token) (each : Reads item good) (close : Token) (fuel : Nat) :
    Reads (optionalMany opening item close fuel) fun items => ∀ item ∈ items, good item := by
  intro tokens spelt items rest done
  unfold optionalMany at done
  split at done
  · split at done
    · exact reads_many each close fuel _ (List.forall_mem_cons.mp spelt).2 items rest done
    · cases done
      exact ⟨fun _ member => absurd member List.not_mem_nil, spelt⟩
  · cases done
    exact ⟨fun _ member => absurd member List.not_mem_nil, spelt⟩

theorem reads_separated (each : Reads item good) (separator : Token) (fuel : Nat) :
    Reads (separated item separator fuel) fun items => ∀ item ∈ items, good item := by
  induction fuel with
  | zero =>
      rintro tokens spelt _ _ ⟨⟩
  | succ fuel ih =>
      intro tokens spelt items rest done
      unfold separated at done
      split at done
      · cases done
      · next first next left begun =>
        obtain ⟨is, still⟩ := each tokens spelt first _ begun
        split at done
        · exact consFirst_good done is (ih _ (List.forall_mem_cons.mp still).2)
        · cases done
          exact ⟨List.forall_mem_singleton.mpr is, still⟩
      · next first begun =>
        cases done
        obtain ⟨is, still⟩ := each tokens spelt first _ begun
        exact ⟨List.forall_mem_singleton.mpr is, still⟩

theorem reads_delimited (each : Reads item good) (separator : Token) (fuel : Nat) :
    Reads (delimited item separator fuel) fun items => ∀ item ∈ items, good item :=
  (passes_skip separator).bind fun _ _ => reads_separated each separator fuel

theorem reads_repeated (each : Reads item good) (start : Token) (fuel : Nat) :
    Reads (repeated item start fuel) fun items => ∀ item ∈ items, good item := by
  induction fuel with
  | zero =>
      rintro tokens spelt _ _ ⟨⟩
  | succ fuel ih =>
      intro tokens spelt items rest done
      unfold repeated at done
      split at done
      · split at done
        · next first left begun =>
          obtain ⟨is, still⟩ := each tokens spelt first _ begun
          exact consFirst_good done is (ih _ still)
        · cases done
      · cases done
        exact ⟨fun _ member => absurd member List.not_mem_nil, spelt⟩

theorem passes_entry {value : Reader α} (passes : Passes value) : Passes (entry value) :=
  reads_name.bind fun _ _ => (passes_expect .colon).bind fun _ _ => passes.bind fun _ _ => .pure trivial

end Reader

open Reader (Passes Reads passes_entry passes_expect passes_sees passes_skip reads_any reads_delimited
  reads_many reads_name reads_optionalMany reads_repeated)

section

variable {fuel depth : Nat} {constant : Bool}

theorem passes_leaf : Passes (readLeaf constant) := by
  apply Reads.of_subset
  intro tokens item rest done
  unfold readLeaf at done
  split at done
  all_goals try split at done
  all_goals
    cases done
    try simp

theorem passes_literal : Passes (readLiteral constant fuel depth) := by
  induction depth with
  | zero => exact passes_leaf
  | succ depth ih =>
      intro tokens spelt item rest done
      unfold readLiteral at done
      split at done
      · obtain ⟨⟨items, after⟩, read, same⟩ := Option.map_eq_some_iff.mp done
        cases same
        exact (reads_any ih _ _).passes _ (List.forall_mem_cons.mp spelt).2 items rest read
      · obtain ⟨⟨fields, after⟩, read, same⟩ := Option.map_eq_some_iff.mp done
        cases same
        exact (reads_any (passes_entry ih) _ _).passes _ (List.forall_mem_cons.mp spelt).2 fields rest
          read
      · exact passes_leaf tokens spelt item rest done

theorem passes_arguments : Passes (readArguments constant fuel depth) :=
  (reads_optionalMany _ (passes_entry passes_literal) _ _).passes

theorem passes_directive : Passes (readDirective constant fuel depth) := by
  refine (passes_expect .atSign).bind fun _ _ => reads_name.bind fun _ _ => ?_
  exact passes_arguments.bind fun _ _ => .pure trivial

theorem passes_directives : Passes (readDirectives constant fuel depth) :=
  (reads_repeated passes_directive _ _).passes

theorem passes_constantDirectives : Passes (readConstantDirectives fuel) := passes_directives

theorem passes_default : Passes (readDefault fuel) := by
  refine (passes_skip .equals).bind fun hasDefault _ => ?_
  split
  · exact passes_literal.bind fun _ _ => .pure trivial
  · exact .pure trivial

theorem withBang_subset (type : TypeExpr) (tokens : List Token) :
    (type.withBang tokens).2 ⊆ tokens := by
  unfold TypeExpr.withBang
  split
  · exact List.subset_cons_self _ _
  · exact List.Subset.refl _

theorem passes_type : Passes readType := by
  have nested : ∀ depth tokens item rest, TypeExpr.read? depth tokens = some (item, rest) →
      rest ⊆ tokens := by
    intro depth tokens item rest done
    fun_induction TypeExpr.read? depth tokens generalizing item rest with
    | case1 depth name after =>
        have bare := withBang_subset (.named name) after
        rw [Option.some.inj done] at bare
        exact List.subset_cons_of_subset _ bare
    | case2 depth after inner left read ih =>
        have bare := withBang_subset (.list inner) left
        rw [Option.some.inj done] at bare
        have behind := List.Subset.trans (List.subset_cons_self _ _) (ih _ _ read)
        exact List.subset_cons_of_subset _ (List.Subset.trans bare behind)
    | case3 => cases done
    | case4 => cases done
  exact .of_subset (nested nestingLimit)

theorem passes_description : Passes skipDescription := by
  apply Reads.of_subset
  intro tokens item rest done
  unfold skipDescription at done
  split at done
  · cases done
    exact List.subset_cons_self _ _
  · cases done
    exact List.Subset.refl _

theorem passes_inputValue : Passes (readInputValue fuel) := by
  refine passes_description.bind fun _ _ => reads_name.bind fun _ _ => ?_
  refine (passes_expect .colon).bind fun _ _ => passes_type.bind fun _ _ => ?_
  refine passes_default.bind fun _ _ => ?_
  exact passes_constantDirectives.bind fun _ _ => .pure trivial

theorem reads_fieldDeclaration : Reads (readFieldDeclaration fuel) fun field => IsName field.name := by
  refine passes_description.bind fun _ _ => reads_name.bind fun name named => ?_
  refine (reads_optionalMany _ passes_inputValue _ _).bind fun _ _ => ?_
  refine (passes_expect .colon).bind fun _ _ => passes_type.bind fun _ _ => ?_
  exact passes_constantDirectives.bind fun _ _ => .pure named

theorem passes_interfaces : Passes (readInterfaces fuel) := by
  intro tokens spelt item rest done
  unfold readInterfaces at done
  split at done
  · exact (reads_delimited reads_name _ _).passes _ (List.forall_mem_cons.mp spelt).2 item rest done
  · cases done
    exact ⟨trivial, spelt⟩

/-- The fields that a type declares are named with characters of names. -/
def CompositeDeclaration.HasNames (declaration : CompositeDeclaration) : Prop :=
  ∀ field ∈ declaration.fields, IsName field.name

theorem reads_composite : Reads (readComposite fuel) fun read => read.1.HasNames := by
  refine reads_name.bind fun _ _ => passes_interfaces.bind fun _ _ => ?_
  refine passes_constantDirectives.bind fun _ _ => ?_
  exact (reads_optionalMany _ reads_fieldDeclaration _ _).bind fun _ named => .pure named

theorem passes_union : Passes (readUnion fuel) := by
  refine reads_name.bind fun _ _ => passes_constantDirectives.bind fun _ _ => ?_
  refine (passes_skip .equals).bind fun hasMembers _ => ?_
  split
  · exact (reads_delimited reads_name _ _).bind fun _ _ => .pure trivial
  · exact .pure trivial

theorem passes_enumValue : Passes (readEnumValue fuel) := by
  refine passes_description.bind fun _ _ => reads_name.bind fun _ _ => ?_
  refine passes_constantDirectives.bind fun _ _ => ?_
  split
  · exact .refuse
  · exact .pure trivial

theorem passes_enum : Passes (readEnum fuel) := by
  refine reads_name.bind fun _ _ => passes_constantDirectives.bind fun _ _ => ?_
  exact (reads_optionalMany _ passes_enumValue _ _).bind fun _ _ => .pure trivial

theorem passes_input : Passes (readInput fuel) := by
  refine reads_name.bind fun _ _ => passes_constantDirectives.bind fun _ _ => ?_
  exact (reads_optionalMany _ passes_inputValue _ _).bind fun _ _ => .pure trivial

theorem passes_rootType : Passes readRootType := by
  refine reads_name.bind fun _ _ => (passes_expect .colon).bind fun _ _ => ?_
  refine reads_name.bind fun _ _ => ?_
  split
  · exact .pure trivial
  · exact .refuse

theorem passes_location : Passes readLocation := by
  refine reads_name.bind fun _ _ => ?_
  split
  · exact .pure trivial
  · exact .refuse

theorem passes_directiveDeclaration : Passes (readDirectiveDeclaration fuel) := by
  refine (passes_expect .atSign).bind fun _ _ => reads_name.bind fun _ _ => ?_
  refine (reads_optionalMany _ passes_inputValue _ _).bind fun _ _ => ?_
  refine (passes_skip _).bind fun _ _ => (passes_expect _).bind fun _ _ => ?_
  exact (reads_delimited passes_location _ _).bind fun _ _ => .pure trivial

/-- The fields of a type that a definition declares are named with characters of names. -/
def Definition.HasNames : Definition → Prop
  | .object declaration => declaration.HasNames
  | .interface declaration => declaration.HasNames
  | _ => True

theorem reads_declaration {word : String} {read : Reader Definition}
    (found : readDeclaration? word fuel = some read) : Reads read Definition.HasNames := by
  unfold readDeclaration? at found
  split at found <;> cases found
  · refine passes_constantDirectives.bind fun _ _ => (passes_expect _).bind fun _ _ => ?_
    exact (reads_many passes_rootType _ _).bind fun _ _ => .pure trivial
  · refine reads_name.bind fun _ _ => ?_
    exact passes_constantDirectives.bind fun _ _ => .pure trivial
  · exact reads_composite.bind fun _ named => .pure named
  · exact reads_composite.bind fun _ named => .pure named
  · exact passes_union.bind fun _ _ => .pure trivial
  · exact passes_enum.bind fun _ _ => .pure trivial
  · exact passes_input.bind fun _ _ => .pure trivial
  · exact passes_directiveDeclaration.bind fun _ _ => .pure trivial

theorem reads_extension : Reads (readExtension fuel) Definition.HasNames := by
  refine reads_name.bind fun word _ => ?_
  refine Reads.bind (show Passes _ from ?_) fun answer _ => ?_
  · split
    · refine passes_constantDirectives.bind fun _ _ => ?_
      exact (reads_optionalMany _ passes_rootType _ _).bind fun _ _ => .pure trivial
    · exact reads_name.bind fun _ _ => passes_constantDirectives.bind fun _ _ => .pure trivial
    · exact reads_composite.bind fun _ _ => .pure trivial
    · exact reads_composite.bind fun _ _ => .pure trivial
    · exact passes_union.bind fun _ _ => .pure trivial
    · exact passes_enum.bind fun _ _ => .pure trivial
    · exact passes_input.bind fun _ _ => .pure trivial
    · exact .refuse
  · dsimp only
    split
    · exact .pure trivial
    · exact .refuse

theorem passes_spread {selections : Reader (List Selection)} (passes : Passes selections) :
    Passes (readSpread selections fuel depth) := by
  intro tokens spelt item rest done
  unfold readSpread at done
  split at done
  · have left := (List.forall_mem_cons.mp spelt).2
    split at done
    · refine Reads.run (fun _ => True) done left (reads_name.bind fun _ _ => ?_)
      refine passes_directives.bind fun _ _ => ?_
      exact passes.bind fun _ _ => .pure trivial
    · exact Reads.run (fun _ => True) done left (passes_directives.bind fun _ _ => .pure trivial)
  · refine Reads.run (fun _ => True) done spelt (passes_directives.bind fun _ _ => ?_)
    exact passes.bind fun _ _ => .pure trivial

theorem passes_field {selections : Reader (List Selection)} (passes : Passes selections) :
    Passes (readField selections fuel depth) := by
  refine reads_name.bind fun first _ => (passes_skip .colon).bind fun renamed _ => ?_
  have ends : ∀ key name, Passes (do
      let arguments ← readArguments false fuel depth
      let directives ← readDirectives false fuel depth
      let nested ← Reader.sees .braceOpen
      let inner ← if nested then selections else pure []
      pure (Selection.field key name arguments directives inner)) := by
    intro key name
    refine passes_arguments.bind fun _ _ => passes_directives.bind fun _ _ => ?_
    refine (passes_sees .braceOpen).bind fun nested _ => ?_
    dsimp only
    split
    · exact passes.bind fun _ _ => .pure trivial
    · exact .pure trivial
  dsimp only
  split
  · exact reads_name.bind fun name _ => ends (some first) name
  · exact ends none first

theorem passes_selections : Passes (readSelections fuel depth) := by
  induction depth with
  | zero =>
      rintro tokens spelt item rest done
      cases tokens <;> cases done
  | succ depth ih =>
      intro tokens spelt item rest done
      unfold readSelections at done
      split at done
      · next depth rest same =>
        cases same
        refine Reads.run (fun _ => True) done (List.forall_mem_cons.mp spelt).2 ?_
        refine (reads_many (show Passes _ from ?_) _ _).passes
        intro tokens spelt item rest done
        dsimp only at done
        split at done
        · exact passes_spread ih _ (List.forall_mem_cons.mp spelt).2 item rest done
        · exact passes_field ih _ spelt item rest done
      · cases done

theorem passes_variable : Passes (readVariable fuel) := by
  refine passes_description.bind fun _ _ => (passes_expect _).bind fun _ _ => ?_
  refine reads_name.bind fun _ _ => (passes_expect _).bind fun _ _ => passes_type.bind fun _ _ => ?_
  refine passes_default.bind fun _ _ => ?_
  exact passes_constantDirectives.bind fun _ _ => .pure trivial

theorem reads_operation (kind : OperationKind) :
    Reads (readOperation kind fuel) Definition.HasNames := by
  refine Reads.bind (show Passes _ from ?_) fun _ _ => ?_
  · apply Reads.of_subset
    intro tokens item rest done
    split at done
    · cases done
      exact List.subset_cons_self _ _
    · cases done
      exact List.Subset.refl _
  · refine (reads_optionalMany _ passes_variable _ _).bind fun _ _ => ?_
    refine passes_directives.bind fun _ _ => ?_
    exact passes_selections.bind fun _ _ => .pure trivial

theorem reads_fragment : Reads (readFragment fuel) Definition.HasNames := by
  refine Reads.bind (show Passes _ from ?_) fun _ _ => ?_
  · refine reads_name.bind fun _ _ => ?_
    split
    · exact .refuse
    · exact .pure trivial
  · refine (passes_expect _).bind fun _ _ => reads_name.bind fun _ _ => ?_
    refine passes_directives.bind fun _ _ => ?_
    exact passes_selections.bind fun _ _ => .pure trivial

theorem reads_executable {word : String} {read : Reader Definition}
    (found : readExecutable? word fuel = some read) : Reads read Definition.HasNames := by
  unfold readExecutable? at found
  split at found
  · cases found
    exact reads_operation _
  · split at found <;> cases found
    exact reads_fragment

theorem reads_definition : Reads (readDefinition fuel) Definition.HasNames := by
  intro tokens spelt item rest done
  unfold readDefinition at done
  split at done
  · exact Reads.run _ done spelt (passes_selections.bind fun _ _ => .pure trivial)
  · refine Reads.run _ done spelt (passes_description.bind fun isDescribed _ => ?_)
    refine reads_name.bind fun word _ => ?_
    split
    · next read found =>
      cases declared : readDeclaration? word fuel with
      | some other =>
          rw [declared] at found
          cases found
          exact reads_declaration declared
      | none =>
          rw [declared] at found
          exact reads_executable found
    · split
      · exact reads_extension
      · exact .refuse

theorem readDefinitions_hasNames {tokens : List Token} (spelt : ∀ token ∈ tokens, token.IsSpelt)
    {steps : Nat} {document : Document} (read : readDefinitions fuel steps tokens = some document) :
    ∀ definition ∈ document, definition.HasNames := by
  induction steps generalizing tokens document with
  | zero => cases read
  | succ steps ih =>
      unfold readDefinitions at read
      split at read
      · cases read
      · next definition done =>
        cases read
        exact List.forall_mem_singleton.mpr (Reads.run _ done spelt reads_definition).1
      · next definition left _ done =>
        obtain ⟨others, later, same⟩ := Option.map_eq_some_iff.mp read
        cases same
        obtain ⟨named, still⟩ := Reads.run _ done spelt reads_definition
        exact List.forall_mem_cons.mpr ⟨named, ih still later⟩

end

/-- The fields of all types in a document that a text spells are named with characters of names. -/
theorem Document.ofText_hasNames {text : String} {document : Document}
    (read : Document.ofText text = .ok document) : ∀ definition ∈ document, definition.HasNames := by
  obtain ⟨tokens, lexed, read⟩ := Outcome.bind_ok_iff.mp read
  have spelt : ∀ token ∈ tokens, token.IsSpelt := by
    unfold Token.ofText at lexed
    dsimp only at lexed
    split at lexed
    · cases lexed
    · exact Token.readAll_spelt _ lexed
  dsimp only at read
  split at read
  · next found =>
    cases read
    exact readDefinitions_hasNames spelt found
  · cases read

end GraphGateway.Graphql
