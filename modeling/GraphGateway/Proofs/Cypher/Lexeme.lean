import GraphGateway.Cypher.Clause
import GraphGateway.Proofs.Graphql.Names

/-!
The lexemes of a text.  A reader of Cypher takes a name in backquotes up to the first backquote that
is not doubled, and a text in single quotes up to the first quote without a backslash.  What is
written as a name or as a text is read as just that, whatever is in it and whatever follows it.
-/
namespace GraphGateway.Cypher

open Graphql (IsName)
open Graphql.Token (isNamePart)

section Quotes

theorem readDoubled_quote_quote (after : List Char) : readDoubled ('\x60' :: '\x60' :: after) =
    (readDoubled after).map fun (name, left) => ('\x60' :: name, left) := by
  rw [readDoubled.eq_def]
  rfl

/-- A backquote that is not doubled ends a name. -/
theorem readDoubled_quote {rest : List Char} (apart : rest.head? ≠ some '\x60') :
    readDoubled ('\x60' :: rest) = some ([], rest) := by
  rw [readDoubled.eq_def]
  cases rest with
  | nil => rfl
  | cons d after => exact if_neg fun same => apart (congrArg some same)

theorem readDoubled_other {c : Char} (other : c ≠ '\x60') (rest : List Char) :
    readDoubled (c :: rest) = (readDoubled rest).map fun (name, left) => (c :: name, left) := by
  rw [readDoubled.eq_def]
  exact if_neg other

theorem readDoubled_doubled (name : List Char) {rest : List Char}
    (apart : rest.head? ≠ some '\x60') :
    readDoubled (doubled name ++ '\x60' :: rest) = some (name, rest) := by
  induction name with
  | nil => exact readDoubled_quote apart
  | cons c others ih =>
      rw [doubled]
      split
      · next quote =>
        subst quote
        rw [List.cons_append, List.cons_append, readDoubled_quote_quote, ih]
        rfl
      · next other =>
        rw [List.cons_append, readDoubled_other other, ih]
        rfl

/-- What is left behind a name is no longer than what was read. -/
theorem length_of_readDoubled {text name left : List Char}
    (read : readDoubled text = some (name, left)) : left.length ≤ text.length := by
  fun_induction readDoubled text generalizing name left with
  | case1 => cases read
  | case2 after ih =>
      obtain ⟨⟨inner, rest⟩, found, same⟩ := Option.map_eq_some_iff.mp read
      cases same
      exact Nat.le_add_right_of_le (Nat.le_add_right_of_le (ih found))
  | case3 d after other =>
      cases read
      exact Nat.le_succ _
  | case4 =>
      cases read
      exact Nat.zero_le _
  | case5 c rest other ih =>
      obtain ⟨⟨inner, rest⟩, found, same⟩ := Option.map_eq_some_iff.mp read
      cases same
      exact Nat.le_add_right_of_le (ih found)

theorem readSlashed_slash (c : Char) (after : List Char) : readSlashed ('\\' :: c :: after) =
    (readSlashed after).map fun (content, left) => (c :: content, left) := by
  rw [readSlashed.eq_def]
  rfl

theorem readSlashed_quote (rest : List Char) : readSlashed ('\'' :: rest) = some ([], rest) := by
  rw [readSlashed.eq_def]
  rfl

theorem readSlashed_other {c : Char} (unquote : c ≠ '\'') (unslash : c ≠ '\\') (rest : List Char) :
    readSlashed (c :: rest) =
      (readSlashed rest).map fun (content, left) => (c :: content, left) := by
  rw [readSlashed.eq_def]
  exact (if_neg unquote).trans (if_neg unslash)

theorem readSlashed_slashed (content rest : List Char) :
    readSlashed (slashed content ++ '\'' :: rest) = some (content, rest) := by
  induction content with
  | nil => exact readSlashed_quote rest
  | cons c others ih =>
      rw [slashed]
      split
      · rw [List.cons_append, List.cons_append, readSlashed_slash, ih]
        rfl
      · next other =>
        rw [Bool.or_eq_true, decide_eq_true_eq, decide_eq_true_eq, not_or] at other
        rw [List.cons_append, readSlashed_other other.2 other.1, ih]
        rfl

theorem length_of_readSlashed {text content left : List Char}
    (read : readSlashed text = some (content, left)) : left.length ≤ text.length := by
  fun_induction readSlashed text generalizing content left with
  | case1 => cases read
  | case2 rest =>
      cases read
      exact Nat.le_succ _
  | case3 d after _ ih =>
      obtain ⟨⟨inner, rest⟩, found, same⟩ := Option.map_eq_some_iff.mp read
      cases same
      exact Nat.le_add_right_of_le (Nat.le_add_right_of_le (ih found))
  | case4 => cases read
  | case5 c rest unquote unslash ih =>
      obtain ⟨⟨inner, rest⟩, found, same⟩ := Option.map_eq_some_iff.mp read
      cases same
      exact Nat.le_add_right_of_le (ih found)

/-- A name in backquotes is read back, and what follows it is left. -/
theorem readEscaped_escape (name : String) {rest : List Char} (apart : rest.head? ≠ some '\x60') :
    readEscaped ((escape name).toList ++ rest) = some (name.toList, rest) := by
  rw [escape, String.toList_ofList, escapeChars, List.cons_append, readEscaped, if_pos rfl,
    List.append_assoc]
  exact readDoubled_doubled name.toList apart

/-- A text in single quotes is read back, and what follows it is left. -/
theorem readQuoted_quote (content : String) (rest : List Char) :
    readQuoted ((quote content).toList ++ rest) = some (content.toList, rest) := by
  rw [quote, String.toList_ofList, quoteChars, List.cons_append, readQuoted, if_pos rfl,
    List.append_assoc]
  exact readSlashed_slashed content.toList rest

theorem escape_injective : Function.Injective escape := by
  intro name other same
  have unfollowed : ([] : List Char).head? ≠ some '\x60' := Option.some_ne_none _ |>.symm
  have read := readEscaped_escape name unfollowed
  rw [same, readEscaped_escape other unfollowed, Option.some.injEq, Prod.mk.injEq] at read
  exact String.toList_inj.mp read.1.symm

theorem quote_injective : Function.Injective quote := by
  intro content other same
  have read := readQuoted_quote content []
  rw [same, readQuoted_quote, Option.some.injEq, Prod.mk.injEq] at read
  exact String.toList_inj.mp read.1.symm

end Quotes

/-- A piece of the text of a statement. -/
inductive Lexeme where
  /-- A name in backquotes. -/
  | name (content : String)
  /-- A text in single quotes. -/
  | text (content : String)
  /-- A parameter behind its sign. -/
  | reference (parameter : String)
  /-- A character of anything else. -/
  | plain (c : Char)
  deriving DecidableEq

namespace Lexeme

/-- The lexemes of a text; nothing if a name or a text does not end. -/
def readAll (text : List Char) : Option (List Lexeme) :=
  match text with
  | [] => some []
  | c :: rest =>
      if c = '\x60' then
        match _read : readDoubled rest with
        | some (content, left) => (readAll left).map (name (String.ofList content) :: ·)
        | none => none
      else if c = '\'' then
        match _read : readSlashed rest with
        | some (content, left) => (readAll left).map (Lexeme.text (String.ofList content) :: ·)
        | none => none
      else if c = '$' then
        (readAll (rest.dropWhile isNamePart)).map
          (reference (String.ofList (rest.takeWhile isNamePart)) :: ·)
      else (readAll rest).map (plain c :: ·)
  termination_by text.length
  decreasing_by
    · exact Nat.lt_succ_of_le (length_of_readDoubled _read)
    · exact Nat.lt_succ_of_le (length_of_readSlashed _read)
    · exact Nat.lt_succ_of_le (List.length_dropWhile_le _ _)
    · exact Nat.lt_succ_self _

theorem readAll_escape (content : String) {rest : List Char} (apart : rest.head? ≠ some '\x60') :
    readAll ((escape content).toList ++ rest) = (readAll rest).map (name content :: ·) := by
  have read := readDoubled_doubled content.toList apart
  rw [escape, String.toList_ofList, escapeChars, List.cons_append, List.append_assoc,
    List.singleton_append, readAll, if_pos rfl]
  split
  · next content left same =>
    rw [read] at same
    cases same
    rw [String.ofList_toList]
  · next same =>
    rw [read] at same
    cases same

theorem readAll_quote (content : String) (rest : List Char) :
    readAll ((quote content).toList ++ rest) = (readAll rest).map (Lexeme.text content :: ·) := by
  have read := readSlashed_slashed content.toList rest
  rw [quote, String.toList_ofList, quoteChars, List.cons_append, List.append_assoc,
    List.singleton_append, readAll, if_neg (by decide), if_pos rfl]
  split
  · next content left same =>
    rw [read] at same
    cases same
    rw [String.ofList_toList]
  · next same =>
    rw [read] at same
    cases same

/-- A parameter ends where what follows is no part of a name. -/
theorem readAll_reference {parameter : String} (named : IsName parameter) {rest : List Char}
    (apart : ∀ c, rest.head? = some c → isNamePart c = false) :
    readAll ('$' :: (parameter.toList ++ rest)) =
      (readAll rest).map (reference parameter :: ·) := by
  have front : rest.takeWhile isNamePart = [] ∧ rest.dropWhile isNamePart = rest := by
    cases rest with
    | nil => exact ⟨rfl, rfl⟩
    | cons c others =>
        have foreign := apart c rfl
        rw [List.takeWhile_cons, List.dropWhile_cons, foreign]
        exact ⟨rfl, rfl⟩
  rw [readAll, if_neg (by decide), if_neg (by decide), if_pos rfl,
    List.takeWhile_append_of_pos named, List.dropWhile_append_of_pos named, front.1, front.2,
    List.append_nil, String.ofList_toList]

/-- A character that starts no name, text or parameter. -/
def isPlain (c : Char) : Bool := c ≠ '\x60' && c ≠ '\'' && c ≠ '$'

theorem readAll_plain {chars : List Char} (isPlain : chars.all isPlain = true) (rest : List Char) :
    readAll (chars ++ rest) = (readAll rest).map (chars.map plain ++ ·) := by
  induction chars with
  | nil => exact Option.map_id'.symm
  | cons c others ih =>
      rw [List.all_cons, Bool.and_eq_true] at isPlain
      obtain ⟨here, later⟩ := isPlain
      simp only [Lexeme.isPlain, Bool.and_eq_true, decide_eq_true_eq, ne_eq] at here
      rw [List.cons_append, readAll, if_neg here.1.1, if_neg here.1.2, if_neg here.2, ih later,
        Option.map_map]
      rfl

end Lexeme

end GraphGateway.Cypher
