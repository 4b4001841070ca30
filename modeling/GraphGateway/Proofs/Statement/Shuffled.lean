import GraphGateway.Proofs.Statement.ExactPage

/-!
The order of rows does not matter.  Two maps of a node are alike if they differ in no more than the
order in which rows of connections were fetched, at any depth of what is selected; they have the same
answer.
-/
namespace GraphGateway.Statement

open Json (IsWhole)
open Paging (CursorCodec)
open Request

/-! ## Maps that are alike -/

/-- The same result twice, or two values that are alike. -/
inductive AlikeResults (alike : Value → Value → Prop) :
    Except Failure Value → Except Failure Value → Prop where
  | same (result : Except Failure Value) : AlikeResults alike result result
  | ok {one other : Value} (inside : alike one other) : AlikeResults alike (.ok one) (.ok other)

/-- The same value twice, or the maps of two nodes that are alike. -/
inductive AlikeNodes (alike : Value → Value → Prop) : Value → Value → Prop where
  | same (value : Value) : AlikeNodes alike value value
  | node {one other : Entries Value} (inside : alike (.object one) (.object other)) :
      AlikeNodes alike (.object one) (.object other)

/-- Two nodes, or lists of nodes in the same order, that are alike. -/
inductive AlikeRelated (alike : Value → Value → Prop) : Value → Value → Prop where
  | single {one other : Value} (inside : AlikeNodes alike one other) :
      AlikeRelated alike one other
  | list {items others : List Value} (inside : List.Forall₂ (AlikeNodes alike) items others) :
      AlikeRelated alike (.list items) (.list others)

/-- Two rows with the same number that are alike. -/
def AlikeRows (alike : Value → Value → Prop) (one other : NumberedRow) : Prop :=
  one.2 = other.2 ∧ alike one.1 other.1

/-- Two connections whose rows are alike, in any order. -/
def AlikeConnections (alike : Value → Value → Prop) (one other : Value) : Prop :=
  ∃ rows others before, Fetched one rows before ∧ Fetched other others before ∧
    ∃ reordered, others.Perm reordered ∧ List.Forall₂ (AlikeRows alike) rows reordered

mutual

/-- Two maps of a node that are alike in what a field reads. -/
def AlikeIn : NodeField → Value → Value → Prop
  | .leaf leaf => fun one other =>
      leaf.name ≠ Graphql.typenameName → entryOrNull leaf.key one = entryOrNull leaf.key other
  | .relationship key _ _ fields => fun one other =>
      AlikeResults (AlikeRelated (AlikeInFields fields)) (entryOrNull key one) (entryOrNull key other)
  | .connection key _ _ _ fields => fun one other =>
      AlikeResults (AlikeConnections (AlikeInSets fields)) (entryAt key one) (entryAt key other)

def AlikeInFields : List NodeField → Value → Value → Prop
  | [] => fun _ _ => True
  | field :: rest => fun one other => AlikeIn field one other ∧ AlikeInFields rest one other

/-- Two rows of a connection that are alike in the sets of fields that are selected on its edges. -/
def AlikeInSets : List ConnectionField → Value → Value → Prop
  | [] => fun _ _ => True
  | .edges key fields :: rest => fun one other =>
      AlikeResults (AlikeInEdge fields) (entryAt key one) (entryAt key other) ∧
        AlikeInSets rest one other
  | .leaf _ :: rest => AlikeInSets rest
  | .pageInfo _ _ :: rest => AlikeInSets rest

def AlikeInEdge : List EdgeField → Value → Value → Prop
  | [] => fun _ _ => True
  | .leaf leaf :: rest => fun one other =>
      (leaf.name ≠ cursorName → leaf.name ≠ Graphql.typenameName →
        entryOrNull leaf.key one = entryOrNull leaf.key other) ∧ AlikeInEdge rest one other
  | .node key _ fields :: rest => fun one other =>
      AlikeResults (AlikeNodes (AlikeInFields fields)) (entryAt key one) (entryAt key other) ∧
        AlikeInEdge rest one other

end

theorem alikeInSets_refl (fields : List ConnectionField) (raw : Value) :
    AlikeInSets fields raw raw := by
  induction fields with
  | nil => trivial
  | cons field rest ih =>
      cases field with
      | leaf leaf => exact ih
      | edges key fields => exact ⟨.same _, ih⟩
      | pageInfo key leaves => exact ih

/-! ## The same answers -/

section

variable {alike : Value → Value → Prop}

theorem AlikeResults.bind_eq {α : Type} {one other : Except Failure Value}
    {next later : Value → Except Failure α} (results : AlikeResults alike one other)
    (same : ∀ value, next value = later value)
    (each : ∀ first second, alike first second → next first = later second) :
    (one >>= next) = (other >>= later) := by
  cases results with
  | same result => rw [funext same]
  | ok inside => exact each _ _ inside

theorem AlikeNodes.unlessNull_eq {answer : Value → Except Failure (List (String × Value))}
    {one other : Value} (nodes : AlikeNodes alike one other)
    (each : ∀ first second, alike first second → answer first = answer second) :
    unlessNull answer one = unlessNull answer other := by
  cases nodes with
  | same value => rfl
  | node inside =>
      unfold unlessNull
      dsimp only
      rw [each _ _ inside]

/-- Rows that are alike are so in the order of their numbers. -/
theorem ascending_alike {rows others reordered sorted arranged : List NumberedRow}
    (sortedPerm : sorted.Perm rows) (ascending : Ascending sorted)
    (arrangedPerm : arranged.Perm others) (order : Ascending arranged)
    (perm : others.Perm reordered) (related : List.Forall₂ (AlikeRows alike) rows reordered) :
    List.Forall₂ (AlikeRows alike) sorted arranged := by
  obtain ⟨partners, sortedRelated, partnersPerm⟩ := List.perm_comp_forall₂ sortedPerm related
  have partnersAscending : Ascending partners := by
    clear partnersPerm sortedPerm
    induction sortedRelated with
    | nil => exact List.Pairwise.nil
    | cons first rest ih =>
        obtain ⟨least, later⟩ := List.pairwise_cons.mp ascending
        refine List.pairwise_cons.mpr ⟨fun partner member => ?_, ih later⟩
        obtain ⟨row, inside, same, -⟩ := Outcome.partner_of_mem_others rest member
        rw [← first.1, ← same]
        exact least row inside
  have same : partners = arranged := Ascending.unique partnersAscending order
    (partnersPerm.trans (perm.symm.trans arrangedPerm.symm))
  rwa [same] at sortedRelated

theorem pageOfSize_related {α β : Type} {relation : α → β → Prop} {items : List α}
    {others : List β} (related : List.Forall₂ relation items others) (size : Option Int) :
    List.Forall₂ relation (pageOfSize size items) (pageOfSize size others) := by
  unfold pageOfSize
  rw [related.length_eq]
  split
  · exact related
  · split <;> exact List.forall₂_take _ related

/-- Two pages with the same cursors and facts, whose rows are alike. -/
structure AlikePages (alike : Value → Value → Prop) (one other : PageOfEdges) : Prop where
  edges : List.Forall₂ (fun first second => first.2 = second.2 ∧ alike first.1 second.1)
    one.edges other.edges
  info : one.info = other.info

theorem pageFrom_alike {sorted arranged : List NumberedRow}
    (related : List.Forall₂ (AlikeRows alike) sorted arranged) (codec : CursorCodec)
    (issuer : String) (before : Value) (size : Option Int) :
    AlikePages alike (pageFrom codec issuer sorted before size)
      (pageFrom codec issuer arranged before size) := by
  have shown := pageOfSize_related related size
  have cursors : ((pageOfSize size sorted).map (edgeOf codec issuer)).map Prod.snd =
      ((pageOfSize size arranged).map (edgeOf codec issuer)).map Prod.snd := by
    rw [← List.forall₂_eq_eq_eq, List.map_map, List.map_map, List.forall₂_map_left_iff,
      List.forall₂_map_right_iff]
    exact shown.imp fun first second both => by simp [edgeOf, both.1]
  refine ⟨?_, ?_⟩
  · unfold pageFrom
    rw [List.forall₂_map_left_iff, List.forall₂_map_right_iff]
    exact shown.imp fun first second both => ⟨by simp [edgeOf, both.1], both.2⟩
  · unfold pageFrom
    dsimp only
    rw [cursors, related.length_eq]

/-- What is done with a page does not depend on the order of its rows. -/
theorem AlikeConnections.bind_readPage {one other : Value} {α : Type}
    (connections : AlikeConnections alike one other) (codec : CursorCodec) (issuer : String)
    (first : Value) {next later : PageOfEdges → Except Failure α}
    (each : ∀ page partner, AlikePages alike page partner → next page = later partner) :
    (readPage codec one issuer first >>= next) = (readPage codec other issuer first >>= later) := by
  obtain ⟨rows, others, before, here, there, reordered, perm, related⟩ := connections
  obtain ⟨sorted, -, sortedPerm, ascending⟩ := sortedBy_numbered here.distinct
  obtain ⟨arranged, -, arrangedPerm, order⟩ := sortedBy_numbered there.distinct
  have alikeRows := ascending_alike sortedPerm ascending arrangedPerm order perm related
  rw [here.readPage_eq sortedPerm ascending, there.readPage_eq arrangedPerm order]
  cases sizeOfFirst first with
  | error fault => rfl
  | ok size => exact each _ _ (pageFrom_alike alikeRows codec issuer before size)

end

section

variable (codec : CursorCodec)

mutual

/-- Maps that are alike in what a field reads have the same answer for it. -/
theorem answerField_alike (typeName : String) : (field : NodeField) → {one other : Value} →
    AlikeIn field one other →
      answerField codec typeName one field = answerField codec typeName other field
  | .leaf leaf, one, other, alike => by
      rw [answerField, answerField]
      split
      · rfl
      · next unnamed => rw [alike unnamed]
  | .relationship key _ relatedType fields, one, other, alike => by
      rw [answerField, answerField]
      have nodes : ∀ first second, AlikeNodes (AlikeInFields fields) first second →
          unlessNull (fun item => answerFields codec relatedType item fields) first =
            unlessNull (fun item => answerFields codec relatedType item fields) second :=
        fun first second inside => inside.unlessNull_eq fun _ _ =>
          answerFields_alike relatedType fields
      refine AlikeResults.bind_eq alike (fun _ => rfl) fun related partner inside => ?_
      cases inside with
      | list inside =>
          dsimp only
          rw [Outcome.mapM_eq_of_related inside nodes]
      | single inside =>
          cases inside with
          | same value => rfl
          | node inside =>
              dsimp only
              rw [nodes _ _ (.node inside)]
  | .connection key name first after fields, one, other, alike => by
      rw [answerField, answerField]
      refine AlikeResults.bind_eq alike (fun _ => rfl) fun connection partner inside => ?_
      refine inside.bind_readPage codec _ first fun page other pages => ?_
      rw [answerConnection_alike typeName name fields pages]

theorem answerFields_alike (typeName : String) : (fields : List NodeField) → {one other : Value} →
    AlikeInFields fields one other →
      answerFields codec typeName one fields = answerFields codec typeName other fields
  | [], _, _, _ => rfl
  | field :: rest, one, other, alike => by
      rw [answerFields, answerFields, answerField_alike typeName field alike.1,
        answerFields_alike typeName rest alike.2]

theorem answerConnection_alike (typeName name : String) : (fields : List ConnectionField) →
    {page partner : PageOfEdges} → AlikePages (AlikeInSets fields) page partner →
      answerConnection codec typeName name page fields =
        answerConnection codec typeName name partner fields
  | [], _, _, _ => rfl
  | .leaf leaf :: rest, page, partner, pages => by
      rw [answerConnection, answerConnection,
        answerConnection_alike typeName name rest ⟨pages.edges, pages.info⟩]
  | .edges key fields :: rest, page, partner, pages => by
      have later : AlikePages (AlikeInSets rest) page partner :=
        ⟨pages.edges.imp fun _ _ both => ⟨both.1, both.2.2⟩, pages.info⟩
      rw [answerConnection, answerConnection, answerConnection_alike typeName name rest later]
      refine congrArg (· >>= _) (Outcome.mapM_eq_of_related pages.edges fun edge other both => ?_)
      obtain ⟨row, cursor⟩ := edge
      obtain ⟨partner, sameCursor⟩ := other
      obtain ⟨rfl, inside⟩ := both
      refine AlikeResults.bind_eq inside.1 (fun _ => rfl) fun raw other inside => ?_
      rw [answerEdge_alike _ _ fields inside]
  | .pageInfo key leaves :: rest, page, partner, pages => by
      rw [answerConnection, answerConnection, pages.info,
        answerConnection_alike typeName name rest ⟨pages.edges, pages.info⟩]

theorem answerEdge_alike (edgeType cursor : String) : (fields : List EdgeField) →
    {one other : Value} → AlikeInEdge fields one other →
      answerEdge codec edgeType cursor one fields = answerEdge codec edgeType cursor other fields
  | [], _, _, _ => rfl
  | .leaf leaf :: rest, one, other, alike => by
      rw [answerEdge, answerEdge, answerEdge_alike edgeType cursor rest alike.2]
      split
      · rfl
      · next uncursored =>
        split
        · rfl
        · next unnamed => rw [alike.1 uncursored unnamed]
  | .node key typeName fields :: rest, one, other, alike => by
      rw [answerEdge, answerEdge, answerEdge_alike edgeType cursor rest alike.2]
      refine AlikeResults.bind_eq alike.1 (fun _ => rfl) fun item partner inside => ?_
      rw [inside.unlessNull_eq fun _ _ => answerFields_alike typeName fields]

end

end

/-! ## One page -/

/-- Rows in another order are alike in every connection. -/
theorem alikeIn_connection_of_perm {key name : String} {first after : Value}
    {fields : List ConnectionField} {raw other connection shuffled before : Value}
    {rows others : List NumberedRow} (here : entryAt key raw = .ok connection)
    (there : entryAt key other = .ok shuffled) (fetched : Fetched connection rows before)
    (refetched : Fetched shuffled others before) (perm : others.Perm rows) :
    AlikeIn (.connection key name first after fields) raw other := by
  have same : List.Forall₂ (AlikeRows (AlikeInSets fields)) rows rows :=
    List.forall₂_same.mpr fun row _ => ⟨rfl, alikeInSets_refl fields row.1⟩
  unfold AlikeIn
  rw [here, there]
  exact .ok ⟨rows, others, before, fetched, refetched, rows, perm, same⟩

section

variable (codec : CursorCodec) {typeName key name : String} {after raw connection before : Value}
  {size : Option Nat} {fields : List ConnectionField} {rows : List NumberedRow}

end

/-- Rows of a cast with these numbers, each with the set of fields of its edge. -/
def castRows (numbers : List Nat) : List NumberedRow :=
  numbers.map fun number : Nat =>
    (.object [(sequenceKey, .int number), ("edges", .object [("role", .text "lead")])], number)

/-- A cast that is fetched with these numbers. -/
def fetchedCast (numbers : List Nat) : Value :=
  .object [(edgesKey, .list ((castRows numbers).map Prod.fst)), (hasPreviousKey, .bool false)]

def castFields : List ConnectionField :=
  [.edges "edges" [.leaf ⟨"role", "role"⟩, .leaf ⟨"place", cursorName⟩],
    .pageInfo "pageInfo" [⟨"more", "hasNextPage"⟩]]

/-- The first two edges of a cast. -/
def firstTwo : NodeField := .connection "cast" "actors" (sizeValue (some 2)) .null castFields

theorem fetchedCast_fetched (numbers : List Nat) (distinct : numbers.Nodup)
    (small : ∀ number ∈ numbers, number < 2 ^ 63) :
    Fetched (fetchedCast numbers) (castRows numbers) (.bool false) where
  edges := rfl
  previous := rfl
  numbered row member := by
    obtain ⟨number, -, rfl⟩ := List.mem_map.mp member
    rfl
  distinct := by
    have same : (castRows numbers).map Prod.snd = numbers := by
      unfold castRows
      rw [List.map_map]
      exact List.map_id numbers
    rwa [same]
  small row member := by
    obtain ⟨number, inside, rfl⟩ := List.mem_map.mp member
    exact small number inside

end GraphGateway.Statement
