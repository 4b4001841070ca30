import GraphGateway.Proofs.Request.Keyed
import GraphGateway.Proofs.Statement.Connection

/-!
One page of a connection.  Rows come with distinct numbers, in any order.  The page has the rows with
the least numbers, as many as are asked for, in the order of their numbers, each with the cursor of
its own number; whatever is selected is answered from that page, field by field.
-/
namespace GraphGateway.Statement

open Json (IsWhole)
open Paging (CursorCodec PageInfo)
open Request
open Schema (connectionTypeName edgeTypeName)

/-- A row with the number of its relationship. -/
abbrev NumberedRow := Value × Nat

/-- A connection as it is fetched: rows with distinct numbers of sixty-four bits, and whether an edge
lies before them. -/
structure Fetched (connection : Value) (rows : List NumberedRow) (before : Value) : Prop where
  edges : entryAt edgesKey connection = .ok (.list (rows.map Prod.fst))
  previous : entryAt hasPreviousKey connection = .ok before
  numbered : ∀ row ∈ rows, entryAt sequenceKey row.1 = .ok (.int row.2)
  distinct : (rows.map Prod.snd).Nodup
  small : ∀ row ∈ rows, row.2 < 2 ^ 63

/-- Rows in the order of their numbers. -/
abbrev Ascending (rows : List NumberedRow) : Prop :=
  rows.Pairwise fun first second => first.2 < second.2

/-- The rows with the least numbers, as many as a page has room for, in the order of their numbers. -/
structure IsPageOf (rows : List NumberedRow) (size : Option Nat) (shown : List NumberedRow) :
    Prop where
  ascending : Ascending shown
  among : shown ⊆ rows
  length : shown.length = size.elim rows.length (min · rows.length)
  least : ∀ row ∈ rows, row ∈ shown ∨ ∀ other ∈ shown, other.2 < row.2

/-- The value of an argument for the size of a page. -/
def sizeValue : Option Nat → Value
  | none => .null
  | some size => .int size

section

variable (codec : CursorCodec) (issuer : String)

/-- The edge that a row is shown as. -/
def edgeOf (row : NumberedRow) : Value × String := (row.1, codec.encodePosition ⟨row.2, issuer⟩)

/-- The page of some size from rows in order. -/
def pageFrom (sorted : List NumberedRow) (before : Value) (size : Option Int) : PageOfEdges :=
  let edges := (pageOfSize size sorted).map (edgeOf codec issuer)
  ⟨edges, .ofPage (edges.map Prod.snd) sorted.length size before.isTruthy⟩

end

section

variable {connection before : Value} {rows sorted : List NumberedRow}

/-- Rows have one order only. -/
theorem Ascending.unique {others : List NumberedRow} (ascending : Ascending rows)
    (alike : Ascending others) (perm : rows.Perm others) : rows = others :=
  perm.eq_of_pairwise (fun _ _ _ _ one other => absurd one (Nat.lt_asymm other)) ascending alike

theorem Ascending.nodup (ascending : Ascending rows) : rows.Nodup :=
  ascending.imp fun less same => Nat.ne_of_lt less (congrArg Prod.snd same)

/-- There is one page of a size only. -/
theorem IsPageOf.unique {size : Option Nat} {shown other : List NumberedRow}
    (one : IsPageOf rows size shown) (another : IsPageOf rows size other) : shown = other := by
  have inside : ∀ {first second}, IsPageOf rows size first → IsPageOf rows size second →
      first ⊆ second := by
    intro first second isPage isOther row member
    by_contra missing
    have below : ∀ left ∈ second, left.2 < row.2 :=
      (isOther.least row (isPage.among member)).resolve_left missing
    have others : second ⊆ first := fun left among =>
      (isPage.least left (isOther.among among)).resolve_right fun all =>
        Nat.lt_asymm (all row member) (below left among)
    have longer := (List.subperm_of_subset (List.nodup_cons.mpr ⟨missing, isOther.ascending.nodup⟩)
      (List.cons_subset.mpr ⟨member, others⟩)).length_le
    rw [List.length_cons, isPage.length, isOther.length] at longer
    omega
  exact Ascending.unique one.ascending another.ascending
    ((List.perm_ext_iff_of_nodup one.ascending.nodup another.ascending.nodup).mpr fun _ =>
      ⟨@inside _ _ one another _, @inside _ _ another one _⟩)

/-- The pair that a row is sorted as. -/
def keyedOf (row : NumberedRow) : Value × Value := (.int row.2, row.1)

theorem Fetched.keyed (fetched : Fetched connection rows before) :
    (rows.map Prod.fst).mapM keyedEdge = .ok (rows.map keyedOf) := by
  refine Outcome.mapM_ok_iff.mpr ?_
  rw [List.forall₂_map_left_iff, List.forall₂_map_right_iff, List.forall₂_same]
  intro row member
  unfold keyedEdge
  rw [fetched.numbered row member]
  rfl

theorem sortedBy_numbered (distinct : (rows.map Prod.snd).Nodup) :
    ∃ sorted, sortedBy (rows.map keyedOf) = .ok (sorted.map keyedOf) ∧ sorted.Perm rows ∧
      Ascending sorted := by
  have related : List.Forall₂ (fun keyed row => keyed = keyedOf row) (rows.map keyedOf) rows := by
    rw [List.forall₂_map_left_iff, List.forall₂_same]
    exact fun _ _ => rfl
  obtain ⟨keyed, sorted, done, same, perm, ordered⟩ :=
    sortedBy_related Prod.snd (fun _ _ same => by rw [same]; rfl) related
  have mapped : keyed = sorted.map keyedOf := by
    rw [← List.forall₂_eq_eq_eq, List.forall₂_map_right_iff]
    exact same
  have apart : sorted.Pairwise fun first second => first.2 ≠ second.2 :=
    List.pairwise_map.mp ((perm.map Prod.snd).nodup_iff.mpr distinct)
  refine ⟨sorted, by rw [done, mapped], perm, ?_⟩
  exact (ordered.and apart).imp fun both => Nat.lt_of_le_of_ne both.1 both.2

theorem pageOfSize_map {α β : Type} (change : α → β) (size : Option Int) (items : List α) :
    pageOfSize size (items.map change) = (pageOfSize size items).map change := by
  unfold pageOfSize
  split
  · rfl
  · split <;> simp

theorem withCursor_keyedOf (codec : CursorCodec) (issuer : String) {row : NumberedRow}
    (small : row.2 < 2 ^ 63) :
    withCursor codec issuer (keyedOf row) = .ok (edgeOf codec issuer row) := by
  unfold withCursor keyedOf
  dsimp only
  rw [codec.encode_natural issuer (Paging.isShort_of_lt small)]
  rfl

/-- The page that is read from fetched rows is that of the rows in order. -/
theorem Fetched.readPage_eq (fetched : Fetched connection rows before) (perm : sorted.Perm rows)
    (ascending : Ascending sorted) (codec : CursorCodec) (issuer : String) (first : Value) :
    readPage codec connection issuer first =
      pageFrom codec issuer sorted before <$> sizeOfFirst first := by
  obtain ⟨others, done, othersPerm, alike⟩ := sortedBy_numbered fetched.distinct
  obtain rfl := Ascending.unique ascending alike (perm.trans othersPerm.symm)
  have cursors : ∀ size, (pageOfSize size (sorted.map keyedOf)).mapM (withCursor codec issuer) =
      .ok ((pageOfSize size sorted).map (edgeOf codec issuer)) := by
    intro size
    rw [pageOfSize_map]
    refine Outcome.mapM_ok_iff.mpr ?_
    rw [List.forall₂_map_left_iff, List.forall₂_map_right_iff, List.forall₂_same]
    intro row member
    exact withCursor_keyedOf codec issuer
      (fetched.small row (perm.subset (mem_of_mem_pageOfSize member)))
  have listed : ∀ items : List Value, elementsOf (.list items) = .ok items := fun _ => rfl
  unfold readPage
  rw [Outcome.bind_of_ok fetched.edges, Outcome.bind_of_ok (listed _),
    Outcome.bind_of_ok fetched.keyed, Outcome.bind_of_ok done]
  cases sizeOfFirst first with
  | error fault => rfl
  | ok size =>
      rw [Outcome.bind_of_ok rfl, List.length_map]
      exact (Outcome.bind_of_ok (cursors size)).trans (Outcome.bind_of_ok fetched.previous)

/-- The first of the rows in order are the page of that size. -/
theorem isPageOf_pageOfSize (perm : sorted.Perm rows) (ascending : Ascending sorted)
    (size : Option Nat) : IsPageOf rows size (pageOfSize (size.map Int.ofNat) sorted) := by
  cases size with
  | none =>
      exact ⟨ascending, perm.subset, perm.length_eq, fun row member => .inl (perm.mem_iff.mpr member)⟩
  | some size =>
      have taken : pageOfSize ((some size).map Int.ofNat) sorted = sorted.take size := rfl
      rw [taken]
      refine ⟨ascending.sublist (List.take_sublist _ _),
        fun row member => perm.subset (List.mem_of_mem_take member), ?_, ?_⟩
      · rw [List.length_take, perm.length_eq]
        rfl
      · intro row member
        have inside := perm.mem_iff.mpr member
        rw [← List.take_append_drop size sorted] at inside ascending
        rcases List.mem_append.mp inside with here | later
        · exact .inl here
        · exact .inr fun other among => (List.pairwise_append.mp ascending).2.2 other among row later

end

/-- A page has the rows with the least numbers in their order, each with the cursor that its own
number is read back from, and tells whether rows are left behind it and where it starts and ends. -/
structure IsExactPage (codec : CursorCodec) (issuer : String) (rows : List NumberedRow)
    (before : Value) (size : Option Nat) (page : PageOfEdges) : Prop where
  shown : ∃ shown, IsPageOf rows size shown ∧
    List.Forall₂ (fun edge row => edge = edgeOf codec issuer row ∧
      codec.decode (.text edge.2) (.text issuer) = .ok ⟨row.2, issuer⟩) page.edges shown
  info : page.info =
    { hasNextPage := size.any (· < rows.length)
      hasPreviousPage := before.isTruthy
      startCursor := page.edges.head?.map Prod.snd
      endCursor := page.edges.getLast?.map Prod.snd }

theorem Fetched.readPage_exact {connection before : Value} {rows : List NumberedRow}
    (fetched : Fetched connection rows before) (codec : CursorCodec) {issuer : String}
    (whole : IsWhole issuer) (size : Option Nat) :
    ∃ page, IsExactPage codec issuer rows before size page ∧
      readPage codec connection issuer (sizeValue size) = .ok page := by
  obtain ⟨sorted, -, perm, ascending⟩ := sortedBy_numbered fetched.distinct
  have sized : sizeOfFirst (sizeValue size) = .ok (size.map Int.ofNat) := by cases size <;> rfl
  have least := isPageOf_pageOfSize perm ascending size
  refine ⟨pageFrom codec issuer sorted before (size.map Int.ofNat), ⟨⟨_, least, ?_⟩, ?_⟩, ?_⟩
  · unfold pageFrom
    rw [List.forall₂_map_left_iff, List.forall₂_same]
    intro row member
    refine ⟨rfl, ?_⟩
    have short := Paging.isShort_of_lt (fetched.small row (least.among member))
    exact (codec.decode_issued whole short _).trans (if_pos (by simp))
  · unfold pageFrom Paging.PageInfo.ofPage
    dsimp only
    rw [List.head?_map, List.getLast?_map, perm.length_eq]
    cases size with
    | none => rfl
    | some size => simp
  · rw [fetched.readPage_eq perm ascending, sized]
    rfl

/-! ## Fields -/

/-- A map with an entry for each of some fields, under its key. -/
def AnswersEach {α : Type} (key : α → String) (shows_ : α → Value → Prop) (fields : List α)
    (value : Value) : Prop :=
  ∃ entries, value = .object (Entries.ofPairs entries) ∧
    List.Forall₂ (fun field entry => entry.1 = key field ∧ shows_ field entry.2) fields entries

section

variable (codec : CursorCodec)

/-- What a field of an edge shows, from the map of the edge and the cursor of its row. -/
def ShowsOnEdge (edgeType cursor : String) (raw : Value) : EdgeField → Value → Prop
  | .leaf leaf, value =>
      if leaf.name = cursorName then value = .text cursor
      else if leaf.name = Graphql.typenameName then value = .text edgeType
      else entryOrNull leaf.key raw = .ok value
  | .node key typeName fields, value =>
      ∃ item, entryAt key raw = .ok item ∧ answerNode codec item ⟨typeName, fields⟩ = .ok value

/-- What an edge of a page shows under a key for edges. -/
def ShowsEdge (edgeType key : String) (fields : List EdgeField) (edge : Value × String)
    (answer : Value) : Prop :=
  ∃ raw, entryAt key edge.1 = .ok raw ∧
    AnswersEach EdgeField.key (ShowsOnEdge codec edgeType edge.2 raw) fields answer

/-- What a field of a connection shows: under every key for edges all edges of the page, in their
order, and under every key for facts those about the page. -/
def ShowsOnPage (typeName name : String) (page : PageOfEdges) : ConnectionField → Value → Prop
  | .leaf _, value => value = .text (connectionTypeName typeName name)
  | .edges key fields, value => ∃ answers, value = .list answers ∧
      List.Forall₂ (ShowsEdge codec (edgeTypeName typeName name) key fields) page.edges answers
  | .pageInfo _ leaves, value =>
      AnswersEach Leaf.key (fun leaf fact => pageFact page.info leaf = .ok fact) leaves value

variable {codec}

/-- An entry whose value is made from a result goes before the others. -/
theorem entry_ok_iff {α : Type} {key : String} (make : α → Value) {result : Except Failure α}
    {others : Except Failure (List (String × Value))} {entries : List (String × Value)} :
    (do let value ← result
        let rest ← others
        pure ((key, make value) :: rest)) = Except.ok entries ↔
      ∃ entry rest, (entry.1 = key ∧ ∃ value, result = .ok value ∧ entry.2 = make value) ∧
        others = .ok rest ∧ entries = entry :: rest := by
  simp only [Outcome.bind_ok_iff, Outcome.pure_ok_iff]
  constructor
  · rintro ⟨value, done, rest, later, rfl⟩
    exact ⟨_, rest, ⟨rfl, value, done, rfl⟩, later, rfl⟩
  · rintro ⟨⟨_, _⟩, rest, ⟨rfl, value, done, rfl⟩, later, rfl⟩
    exact ⟨value, done, rest, later, rfl⟩

theorem answersEach_iff {α : Type} {result : Except Failure (List (String × Value))}
    {key : α → String} {shows_ : α → Value → Prop} {fields : List α} {value : Value}
    (each : ∀ entries, result = .ok entries ↔ List.Forall₂
      (fun field entry => entry.1 = key field ∧ shows_ field entry.2) fields entries) :
    (do let entries ← result
        pure (Value.object (Entries.ofPairs entries))) = Except.ok value ↔
      AnswersEach key shows_ fields value := by
  simp only [Outcome.bind_ok_iff, Outcome.pure_ok_iff, each]
  exact exists_congr fun entries => and_comm.trans (and_congr_left fun _ => eq_comm)

/-- Each field of an edge shows what it has to. -/
theorem answerEdge_ok_iff {edgeType cursor : String} {raw : Value} {fields : List EdgeField}
    {entries : List (String × Value)} :
    answerEdge codec edgeType cursor raw fields = .ok entries ↔
      List.Forall₂ (fun field entry => entry.1 = field.key ∧
        ShowsOnEdge codec edgeType cursor raw field entry.2) fields entries := by
  induction fields generalizing entries with
  | nil =>
      rw [answerEdge, List.forall₂_nil_left_iff, Except.ok.injEq]
      exact eq_comm
  | cons field rest ih =>
      rw [List.forall₂_cons_left_iff]
      simp only [← ih]
      cases field with
      | leaf leaf =>
          rw [answerEdge]
          simp only [ShowsOnEdge]
          split
          · refine (entry_ok_iff id).trans ?_
            simp [EdgeField.key, Outcome.pure_ok_iff]
          · split
            · refine (entry_ok_iff id).trans ?_
              simp [EdgeField.key, Outcome.pure_ok_iff]
            · refine (entry_ok_iff id).trans ?_
              simp [EdgeField.key]
      | node key typeName fields =>
          rw [answerEdge]
          have node : ∀ value, (∃ item, entryAt key raw = .ok item ∧
              answerNode codec item ⟨typeName, fields⟩ = .ok value) ↔
              (entryAt key raw >>= fun item => answerNode codec item ⟨typeName, fields⟩) =
                .ok value := fun _ => Outcome.bind_ok_iff.symm
          simp only [ShowsOnEdge, node]
          rw [← bind_assoc]
          refine (entry_ok_iff id).trans ?_
          simp [EdgeField.key]
          rfl

theorem factEntry_iff {info : PageInfo} {leaf : Leaf} {entry : String × Value} :
    ((leaf.key, ·) <$> pageFact info leaf) = .ok entry ↔
      entry.1 = leaf.key ∧ pageFact info leaf = .ok entry.2 := by
  rw [Outcome.map_ok_iff]
  constructor
  · rintro ⟨value, done, rfl⟩
    exact ⟨rfl, done⟩
  · rintro ⟨same, done⟩
    exact ⟨entry.2, done, Prod.ext same.symm rfl⟩

theorem showsEdge_iff {edgeType key : String} {fields : List EdgeField} {edge : Value × String}
    {answer : Value} :
    (do let raw ← entryAt key edge.1
        let entries ← answerEdge codec edgeType edge.2 raw fields
        pure (Value.object (Entries.ofPairs entries))) = Except.ok answer ↔
      ShowsEdge codec edgeType key fields edge answer :=
  Outcome.bind_ok_iff.trans (exists_congr fun _ => and_congr_right fun _ =>
    answersEach_iff fun _ => answerEdge_ok_iff)

/-- Each field of a connection shows what it has to. -/
theorem answerConnection_ok_iff {typeName name : String} {page : PageOfEdges}
    {fields : List ConnectionField} {entries : List (String × Value)} :
    answerConnection codec typeName name page fields = .ok entries ↔
      List.Forall₂ (fun field entry => entry.1 = field.key ∧
        ShowsOnPage codec typeName name page field entry.2) fields entries := by
  induction fields generalizing entries with
  | nil =>
      rw [answerConnection, List.forall₂_nil_left_iff, Except.ok.injEq]
      exact eq_comm
  | cons field rest ih =>
      rw [List.forall₂_cons_left_iff]
      simp only [← ih]
      cases field with
      | leaf leaf =>
          rw [answerConnection]
          refine (@entry_ok_iff _ _ id (.ok _) _ _).trans ?_
          simp [ConnectionField.key, ShowsOnPage]
      | edges key fields =>
          rw [answerConnection]
          refine (entry_ok_iff Value.list).trans (exists_congr fun entry => exists_congr fun others =>
            and_congr_left fun _ => and_congr_right fun _ => exists_congr fun answers => ?_)
          refine and_comm.trans (and_congr_right fun _ => Outcome.mapM_ok_iff.trans ?_)
          exact ⟨fun each => each.imp fun _ _ => showsEdge_iff.mp,
            fun each => each.imp fun _ _ => showsEdge_iff.mpr⟩
      | pageInfo key leaves =>
          rw [answerConnection]
          refine (entry_ok_iff id).trans (exists_congr fun entry => exists_congr fun others =>
            and_congr_left fun _ => and_congr_right fun _ => ?_)
          simp only [id, ShowsOnPage, exists_eq_right']
          refine answersEach_iff fun facts => Outcome.mapM_ok_iff.trans ?_
          exact ⟨fun each => each.imp fun _ _ => factEntry_iff.mp,
            fun each => each.imp fun _ _ => factEntry_iff.mpr⟩

end

end GraphGateway.Statement
