import GraphGateway.Proofs.Request.Fitting
import GraphGateway.Proofs.Statement.Connection
import GraphGateway.Proofs.Statement.Slots

/-!
Answers from rows with their slots.  Where the maps of a row have the slots of a selection, nothing
that answering takes from them is missing, and every map that it makes has the keys of the selection
in their order.  It gets so far wherever the edges have positions and no slot is filled twice.
-/
namespace GraphGateway.Statement

open Outcome (Brings)
open Paging (CursorCodec PageInfo)
open Request
open Schema (Model NodeType PropertiesType)

/-- A failure other than that of a missing key. -/
def IsPresent (failure : Failure) : Prop := ∀ key, failure ≠ .missingKey key

/-- A good answer, or a failure over something else than a missing key, where nothing is sure. -/
abbrev Gives (sure : Prop) {α : Type} (good : α → Prop) (result : Except Failure α) : Prop :=
  Brings sure IsPresent good result

/-- Answers under the keys of some slots. -/
abbrev Fill (slots : List Slot) (entries : List (String × Value)) : Prop :=
  List.Forall₂ (fun slot entry => entry.1 = slot.1 ∧ slot.2 entry.2) slots entries

section

variable {sure : Prop} {slots : List Slot} {raw : Value}

theorem Fill.keys {entries : List (String × Value)} (fill : Fill slots entries) :
    entries.map Prod.fst = slots.map Prod.fst := by
  induction fill with
  | nil => rfl
  | cons first _ ih => rw [List.map_cons, List.map_cons, first.1, ih]

/-- Answers under different keys make a map of just these. -/
theorem Fill.isMapOf {entries : List (String × Value)} (fill : Fill slots entries)
    (distinct : (slots.map Prod.fst).Nodup) : IsMapOf slots (.object (Entries.ofPairs entries)) := by
  rw [← fill.keys] at distinct
  exact ⟨entries, by rw [Entries.ofPairs_eq distinct], fill⟩

theorem isPresent_mismatched : IsPresent .mismatched := fun _ same => nomatch same

theorem isPresent_notObject : IsPresent .notObject := fun _ same => nomatch same

theorem entryAt_gives {key : String} {good : Value → Prop} (has : HasSlots sure slots raw)
    (member : (key, good) ∈ slots) : Gives sure good (entryAt key raw) := by
  cases raw with
  | object entries =>
      obtain ⟨value, found, holds⟩ := has.get? member
      simp only [entryAt, found]
      exact holds
  | _ => exact ⟨isPresent_mismatched, has⟩

theorem entryOrNull_gives {key : String} {good : Value → Prop} (has : HasSlots sure slots raw)
    (member : (key, good) ∈ slots) : Gives sure good (entryOrNull key raw) := by
  cases raw with
  | object entries =>
      obtain ⟨value, found, holds⟩ := has.get? member
      rw [entryOrNull, found]
      exact holds
  | _ => exact ⟨isPresent_notObject, has⟩

theorem unlessNull_gives {answer : Value → Except Failure (List (String × Value))}
    {inside : Value → Prop} (isNode : IsNode inside raw)
    (gives : inside raw → Gives sure (Fill slots) (answer raw))
    (distinct : (slots.map Prod.fst).Nodup) :
    Gives sure (IsNode (IsMapOf slots)) (unlessNull answer raw) := by
  unfold unlessNull
  split
  · exact .inl rfl
  · next other =>
    refine .bind (gives (isNode.resolve_left other)) fun entries fill => ?_
    exact .inr (fill.isMapOf distinct)

theorem IsRelated.isNode {inside : Value → Prop} {value : Value} (related : IsRelated inside value)
    (single : ∀ items, value ≠ .list items) : IsNode inside value := by
  cases value with
  | list items => exact absurd rfl (single items)
  | _ => exact related

theorem IsNode.isRelated {value : Value} (isNode : IsNode (IsMapOf slots) value) :
    IsRelated (IsMapOf slots) value := by
  cases value with
  | list items =>
      rcases isNode with impossible | ⟨entries, impossible, -⟩
      · cases impossible
      · cases impossible
  | _ => exact isNode

end

section

variable {sure : Prop}

/-- Sorting loses nothing, and whole numbers can be sorted. -/
theorem sortedBy_gives {good : Value × Value → Prop} {keyed : List (Value × Value)}
    (each : ∀ pair ∈ keyed, good pair)
    (ranked : sure → ∀ pair ∈ keyed, ∃ number : Int, pair.1 = .int number) :
    Gives sure (fun sorted => ∀ pair ∈ sorted, good pair) (sortedBy keyed) := by
  unfold sortedBy
  split
  · next sorted done =>
    exact fun pair member => each pair ((Value.sortBy?_perm done).mem_iff.mp member)
  · next none_ =>
    refine ⟨isPresent_mismatched, fun holds => ?_⟩
    have order : Value.Ranked rankOf keyed := by
      intro first firstMember second secondMember
      obtain ⟨one, oneKey⟩ := ranked holds first firstMember
      obtain ⟨other, otherKey⟩ := ranked holds second secondMember
      rw [oneKey, otherKey, Value.less?_int]
      rfl
    obtain ⟨sorted, done, -⟩ := Value.sortBy?_spec order
    cases none_.symm.trans done

theorem sizeOfFirst_gives {first : Value} (sized : first = .null ∨ ∃ number, first = .int number) :
    Gives sure (fun _ => True) (sizeOfFirst first) := by
  obtain rfl | ⟨number, rfl⟩ := sized <;> trivial

/-- An edge whose place has a cursor keeps its slots. -/
theorem withCursor_gives (codec : CursorCodec) (issuer : String) {sets : List Slot}
    {pair : Value × Value} (position : sure → IsPosition pair.1)
    (inside : HasSlots sure sets pair.2) :
    Gives sure (fun edge => HasSlots sure sets edge.1) (withCursor codec issuer pair) := by
  unfold withCursor
  split
  · exact inside
  · next refused =>
    refine ⟨?_, fun holds => ?_⟩
    · intro _ same
      cases same
    · obtain ⟨number, short, same⟩ := position holds
      rw [same, codec.encode_natural issuer short] at refused
      cases refused

/-- The page of a connection has edges with the slots that are selected on them. -/
theorem readPage_gives (codec : CursorCodec) (issuer : String) {sets : List Slot}
    {raw first : Value} (has : HasSlots sure (pageSlots sure sets) raw)
    (sized : first = .null ∨ ∃ number, first = .int number) :
    Gives sure (fun page => ∀ edge ∈ page.edges, HasSlots sure sets edge.1)
      (readPage codec raw issuer first) := by
  refine .bind (entryAt_gives has (List.mem_cons_self ..)) fun fetched isList => ?_
  obtain ⟨items, rfl, rows⟩ := isList
  refine .bind_ok rfl ?_
  have keys : ∀ row ∈ items, Gives sure (fun pair : Value × Value => (sure → IsPosition pair.1) ∧
      HasSlots sure sets pair.2) (keyedEdge row) := fun row member =>
    .bind (entryAt_gives (rows row member) (List.mem_cons_self ..)) fun _ position =>
      ⟨position, (rows row member).tail⟩
  refine .bind (.mapM_each keys) fun keyed placed => ?_
  have whole : sure → ∀ pair ∈ keyed, ∃ number : Int, pair.1 = .int number := by
    intro holds pair member
    obtain ⟨number, -, same⟩ := (placed pair member).1 holds
    exact ⟨number, same⟩
  refine .bind (sortedBy_gives placed whole) fun sorted placed => ?_
  refine .bind (sizeOfFirst_gives sized) fun size _ => ?_
  have cursors : ∀ pair ∈ pageOfSize size sorted,
      Gives sure (fun edge => HasSlots sure sets edge.1) (withCursor codec issuer pair) := by
    intro pair member
    obtain ⟨position, inside⟩ := placed pair (mem_of_mem_pageOfSize member)
    exact withCursor_gives codec issuer position inside
  refine .bind (.mapM_each cursors) fun edges shown => ?_
  exact .bind (entryAt_gives has (List.mem_cons_of_mem _ (List.mem_singleton_self _))) fun _ _ =>
    shown

theorem pageFact_gives (info : PageInfo) {leaf : Leaf} (fits : leaf.name ∈ pageFactNames) :
    Gives sure IsFlat (pageFact info leaf) := by
  unfold pageFact
  split
  · exact isFlat_text _
  · next other =>
    simp only [pageFactNames, List.mem_cons, other, List.not_mem_nil, or_false, false_or] at fits
    obtain same | same | same | same := fits <;> rw [same]
    · exact isFlat_bool _
    · exact isFlat_bool _
    · exact isFlat_textOrNull _
    · exact isFlat_textOrNull _

/-- Fields that are answered one by one, each under its key, make a map of their keys. -/
theorem answerAll_gives {α : Type} {answer : α → Except Failure (String × Value)}
    {key : α → String} {fits : α → Value → Prop} {fields : List α}
    (each : ∀ field ∈ fields, Gives sure (fun entry => entry.1 = key field ∧ fits field entry.2)
      (answer field))
    (distinct : (fields.map key).Nodup) :
    Gives sure (IsMapOf (fields.map fun field => (key field, fits field)))
      (answerAll answer fields) := by
  refine .bind (.mapM each) fun entries related => ?_
  have fill : Fill (fields.map fun field => (key field, fits field)) entries :=
    List.forall₂_map_left_iff.mpr related
  refine fill.isMapOf ?_
  rwa [List.map_map]

end

section

variable {sure : Prop} {model : Model} {paged : Bool} (codec : CursorCodec)

mutual

theorem answerField_gives (node : NodeType) (typeName : String) (raw : Value) :
    (field : NodeField) → field.Fits model paged node → field.Keyed →
      HasSlots sure (fieldSlots sure field) raw →
      Gives sure (fun entry => entry.1 = field.key ∧ fieldAnswer field entry.2)
        (answerField codec typeName raw field)
  | .leaf leaf, _, _, has => by
      rw [fieldSlots] at has
      rw [answerField]
      split
      · exact ⟨rfl, isFlat_text _⟩
      · next other =>
        rw [if_neg other] at has
        exact .bind (entryOrNull_gives has (List.mem_singleton_self _)) fun _ flat => ⟨rfl, flat⟩
  | .relationship key name relatedType fields, fits, keyed, has => by
      obtain ⟨distinct, inner⟩ := keyed.fields_keyed
      rw [← nodeAnswers_keys] at distinct
      cases fits with
      | @relationship _ related _ _ _ _ _ _ _ each =>
          have nodes : ∀ item, IsNode (HasSlots sure (nodeSlots sure fields)) item →
              Gives sure (IsNode (IsMapOf (nodeAnswers fields)))
                (unlessNull (fun item => answerFields codec relatedType item fields) item) :=
            fun item isNode => unlessNull_gives isNode
              (answerFields_gives related relatedType item fields each inner) distinct
          rw [answerField]
          refine .bind (entryOrNull_gives has (List.mem_singleton_self _)) fun value holds => ?_
          split
          · next items =>
            have each : ∀ item ∈ items, Gives sure (IsNode (IsMapOf (nodeAnswers fields)))
                (unlessNull (fun item => answerFields codec relatedType item fields) item) :=
              fun item member => nodes item (holds item member)
            exact .bind (.mapM_each each) fun answers answered => ⟨rfl, answered⟩
          · next single =>
            exact .bind (nodes value (holds.isNode single)) fun _ answered =>
              ⟨rfl, answered.isRelated⟩
  | .connection key name first after fields, fits, keyed, has => by
      obtain ⟨-, sized, relationship, related, -, -, each⟩ :=
        NodeField.Fits.connection_iff.mp fits
      have distinct := keyed.connection_nodup
      rw [← connectionAnswers_keys] at distinct
      rw [answerField]
      refine .bind (entryAt_gives has (List.mem_singleton_self _)) fun connection page => ?_
      refine .bind (readPage_gives codec _ page sized) fun page edges => ?_
      refine .bind (answerConnection_gives _ related typeName name page fields each
        keyed.edges_of_mem keyed.facts_nodup edges) fun entries fill => ?_
      exact ⟨rfl, fill.isMapOf distinct⟩

theorem answerFields_gives (node : NodeType) (typeName : String) (raw : Value) :
    (fields : List NodeField) → (∀ field ∈ fields, field.Fits model paged node) →
      (∀ field ∈ fields, field.Keyed) → HasSlots sure (nodeSlots sure fields) raw →
      Gives sure (Fill (nodeAnswers fields)) (answerFields codec typeName raw fields)
  | [], _, _, _ => List.Forall₂.nil
  | field :: rest, fits, keyed, has => by
      rw [List.forall_mem_cons] at fits keyed
      rw [answerFields]
      refine .bind (answerField_gives node typeName raw field fits.1 keyed.1 has.left)
        fun first here => ?_
      refine .bind (answerFields_gives node typeName raw rest fits.2 keyed.2 has.right) ?_
      exact fun others there => List.Forall₂.cons here there

theorem answerConnection_gives (properties : Option PropertiesType) (related : NodeType)
    (typeName name : String) (page : PageOfEdges) : (fields : List ConnectionField) →
      (∀ field ∈ fields, field.Fits model paged properties related) →
      (∀ set edges, .edges set edges ∈ fields → EdgeField.AllKeyed edges) →
      (∀ inner leaves, .pageInfo inner leaves ∈ fields → (leaves.map Leaf.key).Nodup) →
      (∀ edge ∈ page.edges, HasSlots sure (connectionSlots sure fields) edge.1) →
      Gives sure (Fill (connectionAnswers fields))
        (answerConnection codec typeName name page fields)
  | [], _, _, _, _ => List.Forall₂.nil
  | field :: rest, fits, keyed, facts, has => by
      rw [List.forall_mem_cons] at fits
      have later (has : ∀ edge ∈ page.edges, HasSlots sure (connectionSlots sure rest) edge.1) :=
        answerConnection_gives properties related typeName name page rest fits.2
          (fun set edges member => keyed set edges (List.mem_cons_of_mem _ member))
          (fun inner leaves member => facts inner leaves (List.mem_cons_of_mem _ member)) has
      cases field with
      | leaf leaf =>
          rw [answerConnection]
          exact .bind (later has) fun others there => List.Forall₂.cons ⟨rfl, isFlat_text _⟩ there
      | edges key fields =>
          have inner := keyed key fields (List.mem_cons_self ..)
          have distinct := inner.distinct
          rw [← edgeAnswers_keys] at distinct
          rw [answerConnection]
          have each : ∀ edge ∈ page.edges, Gives sure (IsMapOf (edgeAnswers fields)) (do
              let raw ← entryAt key edge.1
              let entries ← answerEdge codec (Schema.edgeTypeName typeName name) edge.2 raw fields
              pure (Value.object (Entries.ofPairs entries))) := fun edge member =>
            .bind (entryAt_gives (has edge member) (List.mem_cons_self ..)) fun raw inside =>
              .bind (answerEdge_gives properties related _ edge.2 raw fields fits.1 inner.nodes
                inside) fun _ fill => fill.isMapOf distinct
          refine .bind (.mapM_each each) fun answers answered => ?_
          refine .bind (later fun edge member => (has edge member).tail) fun others there => ?_
          exact List.Forall₂.cons ⟨rfl, answers, rfl, answered⟩ there
      | pageInfo key leaves =>
          have one : ∀ leaf ∈ leaves, Gives sure (fun entry : String × Value =>
              entry.1 = leaf.key ∧ IsFlat entry.2) ((leaf.key, ·) <$> pageFact page.info leaf) :=
            fun leaf member => .bind (pageFact_gives page.info (fits.1 leaf member)) fun _ flat =>
              ⟨rfl, flat⟩
          rw [answerConnection]
          refine .bind (answerAll_gives one (facts key leaves (List.mem_cons_self ..)))
            fun answered isMap => ?_
          exact .bind (later has) fun others there => List.Forall₂.cons ⟨rfl, isMap⟩ there

theorem answerEdge_gives (properties : Option PropertiesType) (related : NodeType)
    (edgeType cursor : String) (raw : Value) : (fields : List EdgeField) →
      (∀ field ∈ fields, field.Fits model paged properties related) →
      (∀ key typeName nested, .node key typeName nested ∈ fields → NodeField.AllKeyed nested) →
      HasSlots sure (edgeSlots sure fields) raw →
      Gives sure (Fill (edgeAnswers fields)) (answerEdge codec edgeType cursor raw fields)
  | [], _, _, _ => List.Forall₂.nil
  | .leaf leaf :: rest, fits, keyed, has => by
      rw [List.forall_mem_cons] at fits
      have later := answerEdge_gives properties related edgeType cursor raw rest fits.2
        (fun key typeName nested member => keyed key typeName nested (List.mem_cons_of_mem _ member))
        has.right
      have finish : ∀ value, IsFlat value → Gives sure (Fill (edgeAnswers (.leaf leaf :: rest))) (do
          let others ← answerEdge codec edgeType cursor raw rest
          pure ((leaf.key, value) :: others)) := fun value flat =>
        .bind later fun others there => List.Forall₂.cons ⟨rfl, flat⟩ there
      rw [answerEdge]
      split
      · exact finish _ (isFlat_text _)
      · next notCursor =>
        split
        · exact finish _ (isFlat_text _)
        · next notName =>
          have here := has.left
          rw [if_neg (not_or.mpr ⟨notCursor, notName⟩)] at here
          exact .bind (entryOrNull_gives here (List.mem_singleton_self _)) finish
  | .node key typeName fields :: rest, fits, keyed, has => by
      rw [List.forall_mem_cons] at fits
      obtain ⟨distinct, inner⟩ := keyed key typeName fields (List.mem_cons_self ..)
      rw [← nodeAnswers_keys] at distinct
      have later := answerEdge_gives properties related edgeType cursor raw rest fits.2
        (fun key typeName nested member => keyed key typeName nested (List.mem_cons_of_mem _ member))
        has.tail
      rw [answerEdge]
      refine .bind (entryAt_gives has (List.mem_cons_self ..)) fun item isNode => ?_
      refine .bind (unlessNull_gives isNode
        (answerFields_gives related typeName item fields fits.1 inner) distinct) fun node answered => ?_
      exact .bind later fun others there => List.Forall₂.cons ⟨rfl, answered⟩ there

end

theorem answerNode_gives {node : NodeType} {raw : Value} {selection : NodeSelection}
    (fits : ∀ field ∈ selection.fields, field.Fits model paged node)
    (keyed : NodeField.AllKeyed selection.fields)
    (isNode : IsNode (HasSlots sure (nodeSlots sure selection.fields)) raw) :
    Gives sure (IsNode (IsMapOf (nodeAnswers selection.fields))) (answerNode codec raw selection) := by
  have distinct := keyed.distinct
  rw [← nodeAnswers_keys] at distinct
  exact unlessNull_gives isNode
    (answerFields_gives codec node selection.typeName raw selection.fields fits keyed.each) distinct

theorem nodes_mem_responseSlots {fields : List ResponseField} {key : String}
    {selection : NodeSelection} (member : .nodes key selection ∈ fields) :
    (key, IsNode (HasSlots sure (nodeSlots sure selection.fields))) ∈ responseSlots sure fields := by
  induction fields with
  | nil => cases member
  | cons field rest ih =>
      rcases List.mem_cons.mp member with rfl | later
      · exact List.mem_cons_self ..
      · cases field with
        | leaf leaf => exact ih later
        | nodes other nodes => exact List.mem_cons_of_mem _ (ih later)

/-- A row of a mutation is sorted by a number. -/
theorem positioned_gives {fields : List ResponseField} {row : Value}
    (isRow : IsResponseRow sure fields row) :
    Gives sure (fun pair => (∃ number : Int, pair.1 = .int number) ∧
      HasSlots sure [("data", HasSlots sure (responseSlots sure fields))] pair.2)
      (positioned row) := by
  obtain ⟨has, entries, rfl, placed⟩ := isRow
  have position : entryOrNull "position" (.object entries) =
      .ok ((Entries.get? entries "position").getD .null) := rfl
  refine .bind_ok position ⟨?_, has⟩
  split
  · next holds =>
    cases found : Entries.get? entries "position" with
    | none =>
        rw [found] at holds
        cases holds
    | some value => exact placed value found
  · exact ⟨0, rfl⟩

theorem answerResponse_gives {typeName : String} {selection : ResponseSelection} {rows : Value}
    (fits : selection.Fits model paged typeName) (keyed : ResponseField.AllKeyed selection.fields)
    (isList : IsListOf (IsResponseRow sure selection.fields) rows) :
    Gives sure (Shape.response selection).Answers (answerResponse codec rows selection) := by
  obtain ⟨items, rfl, each⟩ := isList
  refine .bind_ok rfl ?_
  refine .bind (.mapM_each fun row member => positioned_gives (each row member)) fun pairs placed => ?_
  refine .bind (sortedBy_gives placed fun _ pair member => (placed pair member).1) fun sorted placed => ?_
  refine answerAll_gives (fun field member => ?_) keyed.distinct
  cases field with
  | leaf leaf => exact ⟨rfl, isFlat_text _⟩
  | nodes key nodes =>
      obtain ⟨-, node, -, inner⟩ := fits.each _ member
      have one : ∀ pair ∈ sorted, Gives sure (IsNode (IsMapOf (nodeAnswers nodes.fields))) (do
          let data ← entryAt "data" pair.2
          let raw ← entryAt key data
          answerNode codec raw nodes) := fun pair among =>
        .bind (entryAt_gives (placed pair among).2 (List.mem_singleton_self _)) fun data has =>
          .bind (entryAt_gives has (nodes_mem_responseSlots member)) fun raw isNode =>
            answerNode_gives codec inner (keyed.each key nodes member) isNode
      exact .bind (.mapM_each one) fun answers answered => ⟨rfl, answers, rfl, answered⟩

theorem answerLookup_gives {variants : List NodeSelection} {rows : Value}
    (fits : ∀ selection ∈ variants, selection.Fits model paged)
    (alike : ∀ first ∈ variants, ∀ second ∈ variants, first.typeName = second.typeName →
      first = second)
    (keyed : ∀ selection ∈ variants, NodeField.AllKeyed selection.fields)
    (reads : (Shape.lookup variants).Reads sure rows) :
    Gives sure (Shape.lookup variants).Answers (answerLookup codec variants rows) := by
  obtain ⟨items, rfl, each⟩ := reads
  unfold answerLookup
  split
  · exact .inl rfl
  · next truthy =>
    cases items with
    | nil => exact absurd rfl truthy
    | cons row rest =>
        have has := each row (List.mem_cons_self ..)
        refine .bind_ok rfl (.bind (entryAt_gives has (List.mem_singleton_self _)) fun raw found => ?_)
        obtain ⟨selection, member, slots⟩ := found
        refine .bind (entryAt_gives slots (List.mem_cons_self ..)) fun resolved same => ?_
        subst same
        split
        · next variant chosen =>
          have named := (List.find?_eq_some_iff_append.mp chosen).1
          rw [Value.isText_iff, Value.text.injEq] at named
          cases alike variant (List.mem_of_find?_eq_some chosen) selection member named.symm
          obtain ⟨node, -, inner⟩ := fits selection member
          refine (answerNode_gives codec inner (keyed selection member) (.inr slots.tail)).weaken ?_
          exact fun answered isNode => isNode.imp_right fun isMap => ⟨selection, member, isMap⟩
        · next none_ =>
          exact absurd ((Value.isText_iff _ _).mpr rfl) (List.find?_eq_none.mp none_ selection member)

/-- What a root field is answered from its rows has the keys of its selections, in their order; no key
is missing in the rows. -/
theorem answer_gives {field : RootField} {rows : Value} (fits : field.Fits model paged)
    (keyed : field.Keyed) (reads : (Shape.ofField field).Reads sure rows) :
    Gives sure (Shape.ofField field).Answers (answer codec rows (Shape.ofField field)) := by
  cases field with
  | typename key typeName => trivial
  | list key typeName selection filter =>
      obtain ⟨-, node, -, inner⟩ := fits
      obtain ⟨items, rfl, each⟩ := reads
      have one : ∀ row ∈ items, Gives sure (IsNode (IsMapOf (nodeAnswers selection.fields))) (do
          let raw ← entryAt rootName row
          answerNode codec raw selection) := fun row member =>
        .bind (entryAt_gives (each row member) (List.mem_singleton_self _)) fun raw isNode =>
          answerNode_gives codec inner keyed isNode
      exact .bind_ok rfl (.bind (.mapM_each one) fun answers answered => ⟨answers, rfl, answered⟩)
  | lookup key id variants =>
      obtain ⟨-, -, each, alike⟩ := fits
      exact answerLookup_gives codec each alike keyed reads
  | create key typeName inputs response => exact answerResponse_gives codec fits keyed reads
  | update key typeName response filter assignments connections =>
      exact answerResponse_gives codec fits keyed reads

end

end GraphGateway.Statement
