import GraphGateway.Proofs.Cypher.Possible
import GraphGateway.Proofs.Statement.Connection
import GraphGateway.Proofs.Statement.PlanScoping
import GraphGateway.Proofs.Statement.Slots

/-!
Slots of what is projected.  The clauses that are emitted for a selection end in a map whose entries
fill the slots of the selection, whatever is stored.  An entry under a key of the statement's own may
hide a slot; then nothing is sure of what stands there, but that it is no map that misses a key.
-/
namespace GraphGateway.Statement

open Cypher Request Schema Settings
open Naming (Spans)

/-- Edges are stored with positions. -/
def HasPositions (stored : Stored) (features : Features) : Prop :=
  ∀ number value, stored.holds (numbered "edge" number) features.sequenceProperty value →
    IsPosition value

section

variable (stored : Stored)

/-- Entries of a map that fill slots, whatever values they have. -/
def FillsSlots (possible : Possible) (slots : List Slot) (entries : MapEntries) : Prop :=
  List.Forall₂ (fun slot entry => entry.1 = slot.1 ∧
    ∀ value, entry.2.MayBe stored possible value → slot.2 value) slots entries

/-- Subqueries with entries of a map.  The entries fill slots wherever the subqueries have answered,
as long as the names that these answered under are left alone. -/
structure Supplies (start last : Nat) (slots : List Slot) (answer : List Clause × MapEntries) :
    Prop where
  quiet : ∀ clause ∈ answer.1, clause.IsQuiet start last
  fills : ∀ possible later : Possible,
    (∀ name, Between start last name → later name = Clause.afterAll stored possible answer.1 name) →
      FillsSlots stored later slots answer.2

end

section

variable {stored : Stored} {possible : Possible} {sure : Prop} {start middle last : Nat}
  {slots gives others : List Slot} {entries : MapEntries}

theorem FillsSlots.keys (fills : FillsSlots stored possible slots entries) :
    entries.map Prod.fst = slots.map Prod.fst := by
  induction fills with
  | nil => rfl
  | cons first _ ih => rw [List.map_cons, List.map_cons, first.1, ih]

/-- A map has the slots that its entries fill well enough, whichever of them it takes a value from. -/
theorem FillsSlots.hasSlots (fills : FillsSlots stored possible gives entries)
    (enough : ∀ slot ∈ slots, slot.1 ∈ gives.map Prod.fst ∧ ∀ other ∈ gives, other.1 = slot.1 →
      ∀ value, other.2 value → slot.2 value) {raw : Value}
    (holds : (Expression.map entries).MayBe stored possible raw) : HasSlots sure slots raw := by
  obtain ⟨given, rfl, keys, each⟩ := holds
  intro slot member
  obtain ⟨among, weaker⟩ := enough slot member
  rw [← fills.keys] at among
  obtain ⟨entry, inside, named⟩ := List.mem_map.mp among
  have there := (Entries.get?_isSome_iff given slot.1).mpr (named ▸ keys entry inside)
  obtain ⟨value, found⟩ := Option.isSome_iff_exists.mp there
  obtain ⟨item, written, may⟩ := Expression.oneMayBe_iff.mp (each _ (Entries.mem_of_get? found))
  obtain ⟨other, filled, same, filling⟩ := Outcome.partner_of_mem_others fills written
  exact ⟨value, found, weaker other filled same.symm value (filling value may)⟩

theorem FillsSlots.hasSlots_of_nodup (fills : FillsSlots stored possible slots entries)
    (distinct : (slots.map Prod.fst).Nodup) {raw : Value}
    (holds : (Expression.map entries).MayBe stored possible raw) : HasSlots sure slots raw := by
  refine fills.hasSlots (fun slot member => ⟨List.mem_map_of_mem member, ?_⟩) holds
  intro other among same value
  rw [List.inj_on_of_nodup_map distinct among member same]
  exact id

theorem Supplies.nil : Supplies stored start last [] ([], []) :=
  ⟨(fun _ member => nomatch member), fun _ _ _ => List.Forall₂.nil⟩

/-- A stored property is no map. -/
theorem Supplies.property (key owner name : String) :
    Supplies stored start last [(key, IsFlat)] ([], [(key, .property owner name)]) := by
  refine ⟨(fun _ member => nomatch member), fun _ _ _ => List.Forall₂.cons ⟨rfl, ?_⟩ List.Forall₂.nil⟩
  rintro value there entries rfl
  exact stored.flat _ _ _ there

/-- What is supplied one after the other is supplied together. -/
theorem Supplies.append {first second : List Clause × MapEntries} (before : start ≤ middle)
    (behind : middle ≤ last) (one : Supplies stored start middle slots first)
    (other : Supplies stored middle last others second) :
    Supplies stored start last (slots ++ others) (first.1 ++ second.1, first.2 ++ second.2) where
  quiet clause member := by
    rcases List.mem_append.mp member with here | there
    · exact (one.quiet clause here).mono (Nat.le_refl _) behind
    · exact (other.quiet clause there).mono before (Nat.le_refl _)
  fills possible later agree := by
    simp only [Clause.afterAll_append] at agree
    refine List.rel_append (one.fills possible later fun name between => ?_)
      (other.fills _ later fun name between => agree name (between.mono before (Nat.le_refl _)))
    have apart : ¬ Between middle last name := fun impossible =>
      between.ne impossible (Nat.le_refl _) rfl
    rw [agree name (between.mono (Nat.le_refl _) behind), Clause.afterAll_of_quiet other.quiet apart]

/-- Right behind its subqueries a map has the slots that are supplied. -/
theorem Supplies.hasSlots {answer : List Clause × MapEntries}
    (supplies : Supplies stored start last slots answer) (distinct : (slots.map Prod.fst).Nodup)
    {raw : Value} (holds : (Expression.map answer.2).MayBe stored
      (Clause.afterAll stored possible answer.1) raw) : HasSlots sure slots raw :=
  (supplies.fills possible _ fun _ _ => rfl).hasSlots_of_nodup distinct holds

/-- The entries of a map make one entry. -/
theorem Supplies.map {clauses : List Clause} {key : String} {good : Value → Prop}
    (supplies : Supplies stored start last slots (clauses, entries))
    (distinct : (slots.map Prod.fst).Nodup) (suffices_ : ∀ raw, HasSlots sure slots raw → good raw) :
    Supplies stored start last [(key, good)] (clauses, [(key, .map entries)]) where
  quiet := supplies.quiet
  fills possible later agree := by
    refine List.Forall₂.cons ⟨rfl, fun value holds => ?_⟩ List.Forall₂.nil
    exact suffices_ value ((supplies.fills possible later agree).hasSlots_of_nodup distinct holds)

/-- A subquery with one column makes one entry. -/
theorem Supplies.subquery {imports : List String} {body : List Clause} {item : Expression}
    {name key : String} {good : Value → Prop} (new : Between start last name)
    (silent : ∀ clause ∈ body, clause.returned = [])
    (makes : ∀ possible value, item.MayBe stored (Clause.afterAll stored possible body) value →
      good value) :
    Supplies stored start last [(key, good)]
      ([.subquery imports (body ++ [.answer [.as item name]])], [(key, .variable name)]) where
  quiet clause member := by
    rw [List.mem_singleton.mp member]
    refine ⟨imports, _, rfl, fun other answered => ?_⟩
    rw [Clause.answered_concat] at answered
    rw [List.mem_singleton.mp answered]
    exact new
  fills possible later agree := by
    refine List.Forall₂.cons ⟨rfl, fun value holds => ?_⟩ List.Forall₂.nil
    rw [Expression.MayBe, agree name new] at holds
    exact makes _ value ((Clause.after_subquery_iff silent).mp holds)

end

theorem emitFields_append (features : Features) (source : String)
    (first others : List FieldPlan) : emitFields features source (first ++ others) = (do
      let (clauses, entries) ← emitFields features source first
      let (otherClauses, otherEntries) ← emitFields features source others
      pure (clauses ++ otherClauses, entries ++ otherEntries)) := by
  induction first with
  | nil => rfl
  | cons plan rest ih =>
      rw [List.cons_append, emitFields, emitFields, ih]
      simp only [bind_assoc, pure_bind, List.append_assoc]

/-- A new name shows what it was made from. -/
theorem spans_newName (base : String) : Spans (newName base) fun start last name =>
    Between start last name ∧ ∃ number, name = numbered base number := by
  intro supply
  obtain ⟨grown, between⟩ := Spans.newName base supply
  exact ⟨grown, between, supply.issued + 1, rfl⟩

theorem emitLimit_silent (limit : Option Value) :
    Spans (emitLimit limit) fun _ _ clauses => ∀ clause ∈ clauses, clause.returned = [] := by
  cases limit with
  | none => exact .pure fun _ _ member => nomatch member
  | some limit =>
      refine .bind (.bindValue _ _) fun count => .pure fun _ _ _ _ clause member => ?_
      rw [List.mem_singleton.mp member]
      rfl

theorem emitPrevious_quiet (features : Features) (source : String) (step : Step)
    (start : Option Expression) :
    Spans (emitPrevious features source step start) fun start last answer =>
      ∀ clause ∈ answer.1, clause.IsQuiet start last := by
  cases start with
  | none => exact .pure fun _ _ member => nomatch member
  | some start =>
      refine .bind (.newName "edge") fun edge => .bind (.newName "previous") fun previous => ?_
      refine .pure fun last middle _ new start before _ clause member => ?_
      rw [List.mem_singleton.mp member]
      refine ⟨_, _, rfl, fun name answered => ?_⟩
      rw [List.mem_singleton.mp answered]
      exact new.mono before (Nat.le_refl _)

theorem pageClauses_silent {features : Features} {step : Step} {source edge target : String}
    {start : Option Expression} {limit : List Clause}
    (silent : ∀ clause ∈ limit, clause.returned = []) :
    ∀ clause ∈ pageClauses features step source edge target start limit, clause.returned = [] := by
  unfold pageClauses
  rw [List.forall_mem_append]
  refine ⟨?_, silent⟩
  simp only [List.forall_mem_cons]
  exact ⟨rfl, rfl, rfl, rfl, fun _ member => nomatch member⟩

theorem emitStart_spans (start : Option Int) : Spans (emitStart start) fun _ _ _ => True := by
  cases start with
  | none => exact .pure fun _ => trivial
  | some key => exact .bind (.bindValue _ _) fun _ => .pure fun _ _ _ _ => trivial

section

variable {stored : Stored} {sure : Prop}

/-- Where nothing is sure, what is no map may stand for the fields of an edge. -/
theorem connectionSlots_of_flat (unsure : ¬ sure) {fields : List ConnectionField} {slot : Slot}
    (member : slot ∈ connectionSlots sure fields) {value : Value} (flat : IsFlat value) :
    slot.2 value := by
  induction fields with
  | nil => cases member
  | cons field rest ih =>
      cases field with
      | edges key fields =>
          rcases List.mem_cons.mp member with rfl | later
          · exact .of_flat flat unsure
          · exact ih later
      | leaf leaf => exact ih member
      | pageInfo key leaves => exact ih member

/-- The map of an edge has its position beside the sets of fields that are selected on it. -/
theorem hasSlots_of_edge {features : Features} {possible : Possible} {entries : MapEntries}
    {number : Nat} {fields : List ConnectionField} (positions : sure → HasPositions stored features)
    (free : sure → ¬ ∃ inner, .edges sequenceKey inner ∈ fields)
    (distinct : (fields.map ConnectionField.key).Nodup)
    (fills : FillsSlots stored possible (connectionSlots sure fields) entries) {raw : Value}
    (holds : (Expression.map ((sequenceKey, .property (numbered "edge" number)
      features.sequenceProperty) :: entries)).MayBe stored possible raw) :
    HasSlots sure (positionSlots sure (connectionSlots sure fields)) raw := by
  obtain ⟨kept, members⟩ := connectionSlots_keys sure fields
  have hides : ∀ slot ∈ connectionSlots sure fields, slot.1 = sequenceKey → ¬ sure :=
    fun slot member same holds => free holds (members _ (same ▸ List.mem_map_of_mem member))
  have position : FillsSlots stored possible ((sequenceKey, fun value => IsFlat value ∧
      (sure → IsPosition value)) :: connectionSlots sure fields)
      ((sequenceKey, .property (numbered "edge" number) features.sequenceProperty) :: entries) := by
    refine List.Forall₂.cons ⟨rfl, fun value there => ⟨?_, ?_⟩⟩ fills
    · rintro entries rfl
      exact stored.flat _ _ _ there
    · exact fun holds => positions holds number value there
  refine position.hasSlots ?_ holds
  intro slot member
  rcases List.mem_cons.mp member with rfl | among
  · refine ⟨List.mem_cons_self .., fun other inside same value => ?_⟩
    rcases List.mem_cons.mp inside with rfl | later
    · exact And.right
    · exact fun _ certain => absurd certain (hides other later same)
  · refine ⟨List.mem_cons_of_mem _ (List.mem_map_of_mem among), fun other inside same value => ?_⟩
    rcases List.mem_cons.mp inside with rfl | later
    · exact fun holds => connectionSlots_of_flat (hides slot among same.symm) among holds.1
    · rw [List.inj_on_of_nodup_map (distinct.sublist kept) later among same]
      exact id

end

section

variable {features : Features} {basis : Basis} {stored : Stored} {sure : Prop}

mutual

/-- What reads a field supplies its slot. -/
theorem emitField_supplies (positions : sure → HasPositions stored features) (node : NodeType)
    (source : String) : (field : NodeField) → field.Keyed → (sure → ¬ HidesOrder field) →
    ∀ plans, basis.planField node field = .ok plans →
      Spans (emitFields features source plans) fun start last answer =>
        Supplies stored start last (fieldSlots sure field) answer
  | .leaf leaf, _, _, plans, planned => by
      rw [fieldSlots]
      unfold Basis.planField Basis.planLeaf at planned
      split at planned
      · next named =>
        cases planned
        rw [if_pos named]
        exact .pure fun _ => .nil
      · next other =>
        rw [if_neg other]
        split at planned
        · next property found =>
          cases planned
          exact .pure fun _ => .property _ _ _
        · cases planned
  | .relationship key name typeName fields, keyed, apart, plans, planned => by
      obtain ⟨distinct, inner⟩ := keyed.fields_keyed
      obtain ⟨⟨relationship, related⟩, -, planned⟩ := Outcome.bind_ok_iff.mp planned
      obtain ⟨nested, here, made⟩ := Outcome.bind_ok_iff.mp planned
      cases made
      rw [emitFields_singleton]
      refine .bind (.newName _) fun target => .bind (.newName "var") fun result => ?_
      refine .bind (emitFields_supplies positions related target fields inner
        (fun holds field member hides => apart holds (.relationship member hides)) nested here)
        fun answer => ?_
      refine .pure fun last third later supplies second before resultNew first earlier _ => ?_
      rw [← List.cons_append]
      refine .subquery (resultNew.mono earlier later) ?_ fun possible value holds => ?_
      · rw [List.forall_mem_cons]
        exact ⟨rfl, fun clause member => (supplies.quiet clause member).returned_eq_nil⟩
      · have keys := nodeSlots_nodup sure distinct
        split at holds
        · obtain ⟨items, rfl, each⟩ := holds
          exact fun item member => .inr (supplies.hasSlots keys (each item member))
        · rcases holds with rfl | ⟨all, ⟨items, same, each⟩, member⟩
          · exact .inl rfl
          · cases same
            have may := each value member
            have has : HasSlots sure (nodeSlots sure fields) value := supplies.hasSlots keys may
            obtain ⟨given, rfl, -⟩ := may
            exact .inr has
  | .connection key name first after fields, keyed, apart, plans, planned => by
      unfold Basis.planField at planned
      split at planned
      · cases planned
      · obtain ⟨⟨relationship, related⟩, -, planned⟩ := Outcome.bind_ok_iff.mp planned
        obtain ⟨page, -, planned⟩ := Outcome.bind_ok_iff.mp planned
        obtain ⟨sets, here, made⟩ := Outcome.bind_ok_iff.mp planned
        cases made
        rw [emitFields_singleton]
        refine .bind (emitStart_spans page.start) fun start => ?_
        refine .bind (spans_newName "edge") fun edge => ?_
        refine .bind (.newName _) fun target => .bind (.newName "edges") fun edges => ?_
        refine .bind (emitLimit_silent page.limit) fun limit => ?_
        have free : sure → ¬ (∃ inner, .edges sequenceKey inner ∈ fields) ∧
            ∀ set edges, .edges set edges ∈ fields → ¬ EdgesHideOrder edges := fun holds =>
          ⟨fun ⟨_, member⟩ => apart holds (.edges member), fun set edges member hides =>
            apart holds (hidesOrder_connection_iff.mpr (.inr ⟨set, edges, member, hides⟩))⟩
        refine .bind (emitSets_supplies positions _ _ related edge target fields keyed.edges_of_mem
          (fun holds => (free holds).2) sets here) fun answer => ?_
        refine .bind (emitPrevious_quiet features source _ start) fun before => ?_
        refine .pure fun last seventh finish quiet sixth _ supplies fifth _ silent fourth _ edgesNew
          third _ _ second _ edgeNew first _ _ => ?_
        obtain ⟨-, number, rfl⟩ := edgeNew
        have page : Supplies stored first seventh
            [(edgesKey, IsListOf (HasSlots sure (positionSlots sure (connectionSlots sure fields))))]
            ([.subquery [source] ((pageClauses features (Basis.stepOf relationship related) source
                (numbered "edge" number) target start limit ++ answer.1) ++
              [.answer [.as (.collect (.map ((sequenceKey, .property (numbered "edge" number)
                features.sequenceProperty) :: answer.2))) edges]])],
            [(edgesKey, .variable edges)]) := by
          refine .subquery (edgesNew.mono (by omega) (by omega)) ?_ fun possible value holds => ?_
          · rw [List.forall_mem_append]
            exact ⟨pageClauses_silent silent, fun clause nested =>
              (supplies.quiet clause nested).returned_eq_nil⟩
          · rw [Clause.afterAll_append] at holds
            obtain ⟨items, rfl, each⟩ := holds
            exact ⟨items, rfl, fun item member => hasSlots_of_edge positions
              (fun certain => (free certain).1) keyed.connection_nodup
              (supplies.fills _ _ fun _ _ => rfl) (each item member)⟩
        have previous : Supplies stored seventh last [(hasPreviousKey, fun _ => True)]
            (before.1, [(hasPreviousKey, before.2)]) :=
          ⟨quiet, fun _ _ _ => List.Forall₂.cons ⟨rfl, fun _ _ => trivial⟩ List.Forall₂.nil⟩
        have distinct : [edgesKey, hasPreviousKey].Nodup := by decide
        exact (page.append (by omega) (by omega) previous).map distinct fun _ => id

theorem emitFields_supplies (positions : sure → HasPositions stored features) (node : NodeType)
    (source : String) : (fields : List NodeField) →
    (∀ field ∈ fields, field.Keyed) → (sure → ∀ field ∈ fields, ¬ HidesOrder field) →
    ∀ plans, basis.planFields node fields = .ok plans →
      Spans (emitFields features source plans) fun start last answer =>
        Supplies stored start last (nodeSlots sure fields) answer
  | [], _, _, plans, planned => by
      cases planned
      exact .pure fun _ => .nil
  | field :: rest, keyed, apart, plans, planned => by
      obtain ⟨first, one, planned⟩ := Outcome.bind_ok_iff.mp planned
      obtain ⟨others, all, made⟩ := Outcome.bind_ok_iff.mp planned
      cases made
      rw [List.forall_mem_cons] at keyed
      rw [emitFields_append]
      refine .bind (emitField_supplies positions node source field keyed.1
        (fun holds => (List.forall_mem_cons.mp (apart holds)).1) first one) fun answer => ?_
      refine .bind (emitFields_supplies positions node source rest keyed.2
        (fun holds => (List.forall_mem_cons.mp (apart holds)).2) others all) fun more => ?_
      exact .pure fun last middle behind later start before here => here.append before behind later

theorem emitSets_supplies (positions : sure → HasPositions stored features) (issuer : String)
    (properties : Option PropertiesType) (related : NodeType) (edge target : String) :
    (fields : List ConnectionField) →
    (∀ set edges, .edges set edges ∈ fields → EdgeField.AllKeyed edges) →
    (sure → ∀ set edges, .edges set edges ∈ fields → ¬ EdgesHideOrder edges) →
    ∀ sets, basis.planSets issuer properties related fields = .ok sets →
      Spans (emitSets features edge target sets) fun start last answer =>
        Supplies stored start last (connectionSlots sure fields) answer
  | [], _, _, sets, planned => by
      cases planned
      exact .pure fun _ => .nil
  | .edges key fields :: rest, keyed, apart, sets, planned => by
      obtain ⟨first, one, planned⟩ := Outcome.bind_ok_iff.mp planned
      obtain ⟨others, all, made⟩ := Outcome.bind_ok_iff.mp planned
      cases made
      have inner := keyed key fields (List.mem_cons_self ..)
      refine .bind (emitEdges_supplies positions issuer properties related edge target fields inner
        (fun holds => apart holds key fields (List.mem_cons_self ..)) first one) fun answer => ?_
      refine .bind (emitSets_supplies positions issuer properties related edge target rest
        (fun set edges member => keyed set edges (List.mem_cons_of_mem _ member))
        (fun holds set edges member => apart holds set edges (List.mem_cons_of_mem _ member))
        others all) fun more => ?_
      refine .pure fun last middle behind later start before here => ?_
      have map : Supplies stored start middle [(key, HasSlots sure (edgeSlots sure fields))]
          (answer.1, [(key, .map answer.2)]) :=
        here.map (inner.distinct.sublist (edgeSlots_keys sure fields)) fun _ => id
      exact map.append before behind later
  | .leaf leaf :: rest, keyed, apart, sets, planned =>
      emitSets_supplies positions issuer properties related edge target rest
        (fun set edges member => keyed set edges (List.mem_cons_of_mem _ member))
        (fun holds set edges member => apart holds set edges (List.mem_cons_of_mem _ member))
        sets planned
  | .pageInfo key leaves :: rest, keyed, apart, sets, planned =>
      emitSets_supplies positions issuer properties related edge target rest
        (fun set edges member => keyed set edges (List.mem_cons_of_mem _ member))
        (fun holds set edges member => apart holds set edges (List.mem_cons_of_mem _ member))
        sets planned

theorem emitEdges_supplies (positions : sure → HasPositions stored features) (issuer : String)
    (properties : Option PropertiesType) (related : NodeType) (edge target : String) :
    (fields : List EdgeField) →
    EdgeField.AllKeyed fields → (sure → ¬ EdgesHideOrder fields) →
    ∀ plans, basis.planEdges issuer properties related fields = .ok plans →
      Spans (emitEdges features edge target plans) fun start last answer =>
        Supplies stored start last (edgeSlots sure fields) answer
  | [], _, _, plans, planned => by
      cases planned
      exact .pure fun _ => .nil
  | .leaf leaf :: rest, keyed, apart, plans, planned => by
      obtain ⟨first, one, planned⟩ := Outcome.bind_ok_iff.mp planned
      obtain ⟨others, all, made⟩ := Outcome.bind_ok_iff.mp planned
      cases made
      have later := emitEdges_supplies positions issuer properties related edge target rest keyed.tail
        (fun holds ⟨key, typeName, nested, member, hides⟩ =>
          apart holds ⟨key, typeName, nested, List.mem_cons_of_mem _ member, hides⟩) others all
      rw [edgeSlots]
      unfold Basis.planEdgeLeaf at one
      simp only [Bool.or_eq_true, decide_eq_true_eq] at one
      split at one
      · next own =>
        cases one
        rw [if_pos own]
        exact later
      · next other =>
        rw [if_neg other]
        split at one
        · next property found =>
          cases one
          refine .bind later fun answer => .pure fun last start behind supplies => ?_
          have here : Supplies stored start start [(leaf.key, IsFlat)]
              ([], [(leaf.key, .property edge property.stored)]) := .property _ _ _
          exact here.append (Nat.le_refl _) behind supplies
        · cases one
  | .node key typeName fields :: rest, keyed, apart, plans, planned => by
      obtain ⟨inner, here, planned⟩ := Outcome.bind_ok_iff.mp planned
      obtain ⟨others, all, made⟩ := Outcome.bind_ok_iff.mp planned
      cases made
      have nested := keyed.nodes key typeName fields (List.mem_cons_self ..)
      refine .bind (emitFields_supplies positions related target fields nested.each
        (fun holds field member hides => apart holds (edgesHideOrder_node_cons.mpr
          (.inl ⟨field, member, hides⟩))) inner here) fun answer => ?_
      refine .bind (emitEdges_supplies positions issuer properties related edge target rest keyed.tail
        (fun holds hides => apart holds (edgesHideOrder_node_cons.mpr (.inr hides))) others all)
        fun more => ?_
      refine .pure fun last middle behind later start before supplies => ?_
      have map : Supplies stored start middle [(key, IsNode (HasSlots sure (nodeSlots sure fields)))]
          (answer.1, [(key, .map answer.2)]) :=
        supplies.map (nodeSlots_nodup sure nested.distinct) fun _ => .inr
      exact map.append before behind later

end

end

end GraphGateway.Statement
