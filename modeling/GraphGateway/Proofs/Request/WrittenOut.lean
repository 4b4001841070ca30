import GraphGateway.Proofs.Request.Inlined
import GraphGateway.Proofs.Request.Collecting

/-!
Requests with spreads written out.  A document with inline fragments in the place of its spreads is
read as the document itself, to the same operation or the same error.  Fields that select the same
have groups of fields that do so, and each group selects less than the fields did; so one step leads
from each level of a request to the next, and the bound for the depth of either document is high
enough.
-/
namespace GraphGateway.Request

open Graphql (Document TypeDefinition)
open Outcome (Matched)

namespace Context

/-- Fields of two documents that select the same, less than a bound in either. -/
structure SelectSame (document replaced : Document) (bound limit : Nat)
    (fields others : List Selected) : Prop where
  linked : Linked (Selected.WrittenOut document) fields others
  shallow : Shallow document bound fields
  beside : Shallow replaced limit others

section

variable {document replaced : Document} {bound limit : Nat} {fields others : List Selected}

theorem SelectSame.mono {most last : Nat} (same : SelectSame document replaced bound limit fields others)
    (less : bound ≤ most) (also : limit ≤ last) :
    SelectSame document replaced most last fields others :=
  ⟨same.linked, same.shallow.mono less, same.beside.mono also⟩

/-- The first of the fields is the same but for what it selects. -/
theorem SelectSame.firstOf (same : SelectSame document replaced bound limit fields others) :
    (firstOf fields).name = (firstOf others).name ∧
      (firstOf fields).arguments = (firstOf others).arguments := by
  have heads := same.linked.head?
  unfold Context.firstOf
  rw [List.headD_eq_head?_getD, List.headD_eq_head?_getD]
  generalize fields.head? = first, others.head? = other at heads
  cases heads with
  | none => exact ⟨rfl, rfl⟩
  | some alike => exact ⟨alike.name, alike.arguments⟩

end

theorem beside_fieldArguments {context : Context} {type : TypeDefinition} {field other : Selected}
    (same : field.name = other.name ∧ field.arguments = other.arguments) (document : Document) :
    (context.beside document).fieldArguments type other = context.fieldArguments type field := by
  unfold fieldArguments
  rw [same.1, same.2]
  rfl

/-- Groups under the same key that select the same. -/
inductive GroupSame (document replaced : Document) (bound limit : Nat) :
    String × List Selected → String × List Selected → Prop where
  | under (key : String) {fields others : List Selected}
      (same : SelectSame document replaced bound limit fields others) :
      GroupSame document replaced bound limit (key, fields) (key, others)

/-- Readers that read what selects the same alike. -/
def ReadAlike (document replaced : Document) (bound limit : Nat)
    (readNode readOther : String → List Selected → Except Failure (List NodeField)) : Prop :=
  ∀ typeName fields others, SelectSame document replaced bound limit fields others →
    Matched (· ≠ Failure.endless) Eq (readNode typeName fields) (readOther typeName others)

section

variable {context : Context} {type : TypeDefinition} {replaced : Document} {bound limit : Nat}
  {readNode readOther : String → List Selected → Except Failure (List NodeField)}
  (acyclic : context.document.IsAcyclic) (writtenOut : context.document.WrittenOut replaced)

include acyclic writtenOut

/-- One step: fields that select the same have groups that do so, with less to come. -/
theorem subfields_same {fields others : List Selected}
    (same : SelectSame context.document replaced bound limit fields others) :
    Matched (· ≠ Failure.endless)
      (List.Forall₂ (GroupSame context.document replaced (bound - 1) (limit - 1)))
      (context.subfields type fields) ((context.beside replaced).subfields type others) := by
  have behind : (context.beside replaced).document.IsAcyclic := writtenOut.isAcyclic acyclic
  have related := subfields_linked acyclic writtenOut type same.linked
  refine ⟨related.attach.symm.attach.symm.weaken ?_, subfields_only fields⟩
  rintro groups further ⟨⟨linked, one⟩, other⟩
  refine Outcome.related_of_mem linked ?_
  rintro ⟨key, fields⟩ member ⟨_, others⟩ among ⟨rfl, alike⟩
  exact .under key ⟨alike, subfields_shallow acyclic same.shallow one _ member,
    subfields_shallow behind same.beside other _ among⟩

/-- Any step leaves groups that select the same, within the same bounds. -/
theorem subfields_alike {fields others : List Selected}
    (same : SelectSame context.document replaced bound limit fields others) :
    Matched (· ≠ Failure.endless)
      (List.Forall₂ (GroupSame context.document replaced bound limit))
      (context.subfields type fields) ((context.beside replaced).subfields type others) := by
  refine (subfields_same acyclic writtenOut same).weaken fun groups further related => ?_
  refine related.imp ?_
  rintro _ _ ⟨key, selects⟩
  exact .under key (selects.mono (Nat.sub_le _ _) (Nat.sub_le _ _))

theorem pageInfoFields_same {fields others : List Selected}
    (same : SelectSame context.document replaced bound limit fields others) :
    Matched (· ≠ Failure.endless) Eq (context.pageInfoFields fields)
      ((context.beside replaced).pageInfoFields others) := by
  unfold pageInfoFields
  rw [beside_surface]
  split
  · exact .shared (.error nofun)
  · refine (subfields_alike acyclic writtenOut same).bind fun groups further related => .ok ?_
    induction related with
    | nil => rfl
    | cons first _ ih =>
        obtain ⟨key, selects⟩ := first
        rw [List.map_cons, List.map_cons, ih]
        dsimp only
        rw [selects.firstOf.1]

variable (alike : ReadAlike context.document replaced bound limit readNode readOther)

include alike

theorem edgeFields_same (edgeType : TypeDefinition) (relatedType : String)
    {fields others : List Selected}
    (same : SelectSame context.document replaced bound limit fields others) :
    Matched (· ≠ Failure.endless) Eq (context.edgeFields readNode edgeType relatedType fields)
      ((context.beside replaced).edgeFields readOther edgeType relatedType others) := by
  rw [edgeFields_eq, edgeFields_eq]
  refine (subfields_alike acyclic writtenOut same).bind fun groups further related => ?_
  refine .mapM related ?_
  rintro _ _ ⟨key, selects⟩
  unfold edgeField
  dsimp only
  rw [selects.firstOf.1]
  split
  · refine (alike relatedType _ _ selects).bind fun nested _ read => ?_
    rw [read]
    exact .ok rfl
  · exact .ok rfl

theorem connectionField_same (connectionName : String) (edgeType : TypeDefinition)
    (relatedType : String) {group next : String × List Selected}
    (same : GroupSame context.document replaced bound limit group next) :
    Matched (· ≠ Failure.endless) Eq
      (context.connectionField readNode connectionName edgeType relatedType group)
      ((context.beside replaced).connectionField readOther connectionName edgeType relatedType
        next) := by
  obtain ⟨key, selects⟩ := same
  unfold connectionField
  dsimp only
  rw [selects.firstOf.1]
  split
  · exact .ok rfl
  · split
    · refine (edgeFields_same acyclic writtenOut alike edgeType relatedType selects).bind
        fun edges _ read => ?_
      rw [read]
      exact .ok rfl
    · split
      · refine (pageInfoFields_same acyclic writtenOut selects).bind fun leaves _ read => ?_
        rw [read]
        exact .ok rfl
      · exact .shared (.error nofun)

theorem connection_same (type : TypeDefinition) (node : Schema.NodeType)
    (relationship : Schema.Relationship) (key : String) {fields others : List Selected}
    (same : SelectSame context.document replaced bound limit fields others) :
    Matched (· ≠ Failure.endless) Eq
      (context.connection readNode type node relationship key fields)
      ((context.beside replaced).connection readOther type node relationship key others) := by
  rw [connection_eq, connection_eq, beside_fieldArguments same.firstOf]
  refine (Matched.shared (fieldArguments_only type _)).bind fun given _ here => ?_
  refine (Matched.shared (objectType_only _)).bind fun connectionType _ first => ?_
  refine (Matched.shared (objectType_only _)).bind fun edgeType _ second => ?_
  subst here first second
  refine (subfields_alike acyclic writtenOut same).bind fun groups further related => ?_
  have each := Matched.mapM related fun group next same =>
    connectionField_same acyclic writtenOut alike connectionType.name edgeType
      relationship.relatedType same
  refine each.bind fun selected _ read => ?_
  rw [read]
  exact .ok rfl

theorem nodeField_same (typeName : String) (type : TypeDefinition) (node : Schema.NodeType)
    {group next : String × List Selected}
    (same : GroupSame context.document replaced bound limit group next) :
    Matched (· ≠ Failure.endless) Eq (context.nodeField readNode typeName type node group)
      ((context.beside replaced).nodeField readOther typeName type node next) := by
  obtain ⟨key, selects⟩ := same
  unfold nodeField
  dsimp only
  rw [selects.firstOf.1]
  split
  · exact .ok rfl
  · split
    · next relationship _ =>
      refine (alike relationship.relatedType _ _ selects).bind fun nested _ read => ?_
      rw [read]
      exact .ok rfl
    · split
      · exact connection_same acyclic writtenOut alike type node _ _ selects
      · exact .shared (.error nofun)

omit alike

/-- Fields that select the same are read alike, if either bound for the depth is high enough. -/
theorem nodeFields_same {depth further : Nat} (enough : bound ≤ depth) (also : limit ≤ further) :
    ReadAlike context.document replaced bound limit (context.nodeFields depth)
      ((context.beside replaced).nodeFields further) := by
  induction depth generalizing bound limit further with
  | zero =>
      intro typeName fields others same
      exact absurd same.shallow.pos (by omega)
  | succ depth ih =>
      intro typeName fields others same
      cases further with
      | zero => exact absurd same.beside.pos (by omega)
      | succ further =>
          rw [nodeFields_succ, nodeFields_succ]
          refine (Matched.shared (objectType_only _)).bind fun type _ here => ?_
          refine (Matched.shared (ofLookup_only _)).bind fun node _ there => ?_
          subst here there
          refine (subfields_same acyclic writtenOut same).bind fun groups later related => ?_
          have less : ReadAlike context.document replaced (bound - 1) (limit - 1)
              (context.nodeFields depth) ((context.beside replaced).nodeFields further) :=
            ih (by omega) (by omega)
          exact .mapM related fun group next same =>
            nodeField_same acyclic writtenOut less typeName type node same

end

theorem fieldCount_lt_depthBound (context : Context) :
    context.document.fieldCount < context.depthBound :=
  Nat.le_mul_of_pos_right _ (Nat.succ_pos _)

section

variable {context : Context} {replaced : Document} (acyclic : context.document.IsAcyclic)
  (writtenOut : context.document.WrittenOut replaced) {fields others : List Selected}
  (same : SelectSame context.document replaced context.document.fieldCount replaced.fieldCount
    fields others)

include acyclic writtenOut same

theorem nodeSelection_same (typeName : String) :
    Matched (· ≠ Failure.endless) Eq (context.nodeSelection typeName fields)
      ((context.beside replaced).nodeSelection typeName others) := by
  have enough := Nat.le_of_lt (fieldCount_lt_depthBound context)
  have also := Nat.le_of_lt (fieldCount_lt_depthBound (context.beside replaced))
  refine (nodeFields_same acyclic writtenOut enough also _ _ _ same).bind fun inner _ read => ?_
  rw [read]
  exact .ok rfl

theorem responseSelection_same (responseName typeName : String) :
    Matched (· ≠ Failure.endless) Eq (context.responseSelection responseName typeName fields)
      ((context.beside replaced).responseSelection responseName typeName others) := by
  rw [responseSelection_eq, responseSelection_eq]
  refine (Matched.shared (objectType_only _)).bind fun type _ here => ?_
  subst here
  refine (subfields_alike acyclic writtenOut same).bind fun groups further related => ?_
  have each : Matched (· ≠ Failure.endless) Eq
      (groups.mapM (context.responseField type.name typeName))
      (further.mapM ((context.beside replaced).responseField type.name typeName)) := by
    refine .mapM related ?_
    rintro _ _ ⟨key, selects⟩
    unfold responseField
    dsimp only
    rw [selects.firstOf.1]
    split
    · exact .ok rfl
    · split
      · refine (nodeSelection_same acyclic writtenOut selects typeName).bind fun inner _ read => ?_
        rw [read]
        exact .ok rfl
      · exact .shared (.error nofun)
  refine each.bind fun selected _ read => ?_
  rw [read]
  exact .ok rfl

theorem rootField_same (kind : Graphql.OperationKind) (root : TypeDefinition) (key : String) :
    Matched (· ≠ Failure.endless) Eq (context.rootField kind root key fields)
      ((context.beside replaced).rootField kind root key others) := by
  unfold rootField
  dsimp only
  rw [beside_surface, beside_fieldArguments same.firstOf, same.firstOf.1]
  split
  · exact .ok rfl
  · split
    · exact .shared (.error nofun)
    · refine (Matched.shared (fieldArguments_only root _)).bind fun given _ here => ?_
      subst here
      split
      · split
        · exact .shared (.error nofun)
        · have each : Matched (· ≠ Failure.endless) Eq
              (context.surface.model.nodes.mapM fun node => context.nodeSelection node.name fields)
              (context.surface.model.nodes.mapM fun node =>
                (context.beside replaced).nodeSelection node.name others) := by
            refine .mapM (List.forall₂_same.mpr fun _ _ => Eq.refl _) ?_
            rintro node _ rfl
            exact nodeSelection_same acyclic writtenOut same node.name
          refine each.bind fun variants _ read => ?_
          rw [read]
          exact .ok rfl
      · next node _ =>
        refine (nodeSelection_same acyclic writtenOut same node.name).bind fun selection _ read => ?_
        rw [read]
        exact .ok rfl
      · next node _ =>
        refine (responseSelection_same acyclic writtenOut same _ _).bind fun response _ read => ?_
        refine (Matched.shared (itemsOf_only _)).bind fun inputs _ there => ?_
        rw [read, there]
        exact .ok rfl
      · next node _ =>
        refine (responseSelection_same acyclic writtenOut same _ _).bind fun response _ read => ?_
        rw [read]
        exact .ok rfl

omit same

theorem operation_same {operation other : Graphql.Operation}
    (member : operation ∈ context.document.operations) (also : other ∈ replaced.operations)
    (alike : operation.WrittenOut context.document other) :
    Matched (· ≠ Failure.endless) Eq (context.operation operation)
      ((context.beside replaced).operation other) := by
  unfold Context.operation
  rw [alike.kind, beside_surface]
  split
  · exact .shared (.error nofun)
  · split
    · exact .shared (.error nofun)
    · next root _ =>
      -- What is selected at the root is selected in a field of no name.
      have start : SelectSame context.document replaced (context.document.fieldCount + 1)
          (replaced.fieldCount + 1) [⟨"", [], operation.selections⟩]
          [⟨"", [], other.selections⟩] := by
        refine ⟨.of_forall (.cons ⟨rfl, rfl, alike.inside⟩ .nil), ⟨nofun, ?_⟩, ⟨nofun, ?_⟩⟩
        · intro field inside
          rw [List.mem_singleton.mp inside]
          exact Nat.lt_succ_of_le (Document.weigh_operation member)
        · intro field inside
          rw [List.mem_singleton.mp inside]
          exact Nat.lt_succ_of_le (Document.weigh_operation also)
      refine (subfields_same acyclic writtenOut start).bind fun groups further related => ?_
      have each : Matched (· ≠ Failure.endless) Eq
          (groups.mapM fun entry => context.rootField operation.kind root entry.1 entry.2)
          (further.mapM fun entry =>
            (context.beside replaced).rootField operation.kind root entry.1 entry.2) := by
        refine .mapM related ?_
        rintro _ _ ⟨key, selects⟩
        exact rootField_same acyclic writtenOut selects operation.kind root key
      refine each.bind fun fields _ read => ?_
      rw [read]
      exact .ok rfl

end

end Context

/-- Writing spreads out changes nothing of what is read, at any depth.  A document in which no fragment
reaches itself is read as the document with any of its spreads in the form of inline fragments, with
the same variables, to the same operation or the same error; and reading it comes to an end. -/
theorem Surface.read_writtenOut (surface : Surface) {document replaced : Document}
    (acyclic : document.IsAcyclic) (writtenOut : document.WrittenOut replaced)
    (bindings : Entries Value) (wanted : Option String) :
    surface.read replaced bindings wanted = surface.read document bindings wanted ∧
      surface.read document bindings wanted ≠ .error .endless := by
  have matched : Matched (· ≠ Failure.endless) Eq (surface.read document bindings wanted)
      (surface.read replaced bindings wanted) := by
    unfold Surface.read
    obtain ⟨one, other⟩ | ⟨operation, other, here, there, alike⟩ :=
      writtenOut.operation?_cases wanted
    · rw [one, other]
      exact .shared (.error nofun)
    · rw [here, there]
      let context : Context := ⟨surface, document, bindings⟩
      have cyclic : context.document.IsAcyclic := acyclic
      exact Context.operation_same cyclic writtenOut (Document.mem_of_operation? here)
        (Document.mem_of_operation? there) alike
  exact ⟨matched.eq.symm, fun endless => matched.only _ endless rfl⟩

/-- People and those whom they know. -/
def acquaintances : Schema.Model where
  nodes :=
    [{ name := "Person"
       fields := [{ name := "name", type := { name := "String" }, stored := "name" }]
       relationships :=
        [{ name := "friends", type := { name := "Person", isList := true }
           relatedType := "Person", direction := .outgoing, label := "KNOWS" }] }]

def acquainted : Surface where
  model := acquaintances
  types := (acquaintances.augmented true).toOption.get (by decide +kernel)

/-- The fragment with the friends of a person and their names. -/
def befriended : Graphql.Fragment where
  name := "Befriended"
  condition := "Person"
  directives := []
  selections := [.field none "friends" [] [] [.field none "name" [] [] []]]

/-- A request for people and their friends, which spreads the fragment again behind a selection, and in
the friends. -/
def befriending (selection : Graphql.Selection) : Document :=
  [.operation
    { kind := .query, name := none, declarations := [], directives := []
      selections :=
        [.field none "persons" [] []
          [selection, .field none "friends" [] [] [.spread "Befriended" []],
           .spread "Befriended" []]] },
   .fragment befriended]

theorem read_writtenOut_befriending :
    (∃ operation, acquainted.read (befriending (.spread "Befriended" [])) [] none =
      .ok operation) ∧
    acquainted.read (befriending (.inline (some "Person") [] befriended.selections)) [] none =
      acquainted.read (befriending (.spread "Befriended" [])) [] none ∧
    acquainted.read (befriending (.spread "Befriended" [])) [] none ≠ .error .endless := by
  refine ⟨⟨_, Outcome.eq_ok_of_isSome (by decide +kernel)⟩, ?_⟩
  apply Surface.read_writtenOut acquainted
  · unfold Document.IsAcyclic
    decide
  · have opened : Graphql.Selection.WrittenOut (befriending (.spread "Befriended" []))
        (.spread "Befriended" []) (.inline (some "Person") [] befriended.selections) :=
      @Graphql.Selection.WrittenOut.opened _ _ befriended [] _ rfl (.refl _)
    exact .cons (.operation _ (.cons (.field _ _ _ _ (.cons opened (.refl _))) .nil))
      (.cons (.same _) .nil)

end GraphGateway.Request
