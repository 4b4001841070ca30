import GraphGateway.Proofs.Cypher.Memory
import GraphGateway.Proofs.Statement.Sequence

/-!
Where the fields of a node are stored.  Each property of a node type is stored under its own name, and
these names are all different.  The identifier may be declared to be stored under any name, and nothing
keeps that name apart from those of the properties.  A creation assigns one stored name twice exactly
if it gives a value to a property that is stored where the identifier is, and the identifier of the new
node is then that value.
-/
namespace GraphGateway.Schema

/-- The names that the identifier and the properties of a node type are stored under. -/
def NodeType.storedNames (node : NodeType) : List String :=
  node.identifier.stored :: node.fields.map PropertyField.stored

/-- No property has the name that the identifier is stored under. -/
def NodeType.IsApart (node : NodeType) : Prop :=
  ∀ field ∈ node.fields, field.name ≠ node.identifier.stored

instance (node : NodeType) : Decidable node.IsApart :=
  inferInstanceAs (Decidable (∀ field ∈ node.fields, _))

/-- Nothing is given for a property that has the name that the identifier is stored under. -/
def NodeType.SparesIdentifier (node : NodeType) (given : Entries Value) : Prop :=
  ∀ field ∈ node.fields, field.name = node.identifier.stored → given.get? field.name = none

theorem NodeType.IsApart.spares {node : NodeType} (apart : node.IsApart) (given : Entries Value) :
    node.SparesIdentifier given :=
  fun field member same => absurd same (apart field member)

namespace Model.IsSound

variable {model : Model} {node : NodeType}

theorem fieldNames_nodup (sound : model.IsSound) (known : node ∈ model.nodes) :
    (node.fields.map PropertyField.name).Nodup := by
  have names := sound.nodeNames node known
  rw [List.nodup_cons, List.nodup_append] at names
  exact names.2.1

theorem map_stored_eq (sound : model.IsSound) (known : node ∈ model.nodes) :
    node.fields.map PropertyField.stored = node.fields.map PropertyField.name :=
  List.map_congr_left fun field member => sound.nodeStored node known field member

/-- The stored names of a node type are all different unless the identifier is stored under the name
of a property. -/
theorem storedNames_nodup_iff (sound : model.IsSound) (known : node ∈ model.nodes) :
    node.storedNames.Nodup ↔ node.IsApart := by
  unfold NodeType.storedNames NodeType.IsApart
  rw [sound.map_stored_eq known, List.nodup_cons, List.mem_map]
  constructor
  · rintro ⟨outside, -⟩ field member same
    exact outside ⟨field, member, same⟩
  · intro apart
    refine ⟨?_, sound.fieldNames_nodup known⟩
    rintro ⟨field, member, same⟩
    exact apart field member same

end Model.IsSound

end GraphGateway.Schema

namespace GraphGateway.Cypher

/-- Whether something is written to a node: to one that is created, or to properties of a variable
that stands for no relationship. -/
def Written.IsOfNode (written : Written) : Prop :=
  match written.created with
  | some (.node _) => True
  | some (.relationship _) => False
  | none => ∃ owner key value,
      (.property owner key, value) ∈ written.assignments ∧ ¬ IsEdge owner

end GraphGateway.Cypher

namespace GraphGateway.Statement

open Cypher Request Schema Settings

section

variable {model : Model} {type : NodeType}

theorem propertiesIn_stored (type : NodeType) (given : Entries Value) :
    (propertiesIn type given).map Assignment.stored =
      (type.fields.filter fun field => (given.get? field.name).isSome).map PropertyField.stored := by
  unfold propertiesIn
  induction type.fields with
  | nil => rfl
  | cons field rest ih =>
      cases found : given.get? field.name with
      | none => simpa [found] using ih
      | some value => simpa [found] using ih

theorem propertiesIn_nodup (sound : model.IsSound) (known : type ∈ model.nodes)
    (given : Entries Value) : ((propertiesIn type given).map Assignment.stored).Nodup := by
  rw [propertiesIn_stored]
  have all := sound.fieldNames_nodup known
  rw [← sound.map_stored_eq known] at all
  exact all.sublist (List.filter_sublist.map PropertyField.stored)

/-- The name of the identifier is among the stored names of what is given unless it is spared. -/
theorem identifier_not_mem_iff (sound : model.IsSound) (known : type ∈ model.nodes)
    (given : Entries Value) :
    type.identifier.stored ∉ (propertiesIn type given).map Assignment.stored ↔
      type.SparesIdentifier given := by
  rw [propertiesIn_stored, List.mem_map]
  constructor
  · intro outside field member same
    rw [← Option.not_isSome_iff_eq_none]
    intro there
    apply outside
    refine ⟨field, List.mem_filter.mpr ⟨member, there⟩, ?_⟩
    rw [sound.nodeStored type known field member, same]
  · rintro spares ⟨field, inside, same⟩
    obtain ⟨member, there⟩ := List.mem_filter.mp inside
    rw [sound.nodeStored type known field member] at same
    rw [spares field member same] at there
    cases there

theorem exists_mem_propertiesIn {given : Entries Value} {field : PropertyField}
    (member : field ∈ type.fields) {value : Value} (found : given.get? field.name = some value) :
    ∃ entry ∈ propertiesIn type given, entry.stored = field.stored ∧ entry.value = value := by
  refine ⟨{ field := field.name, stored := field.stored, value }, ?_, rfl, rfl⟩
  refine List.mem_filterMap.mpr ⟨field, member, ?_⟩
  rw [found]
  rfl

end

/-- What is assigned to an owner, as its properties. -/
def ownedBy (owner : String) (properties : List Assignment) : List Expression :=
  (properties.map Assignment.stored).map (.property owner)

theorem ownedBy_nodup_iff (owner : String) (properties : List Assignment) :
    (ownedBy owner properties).Nodup ↔ (properties.map Assignment.stored).Nodup := by
  apply List.nodup_map_iff
  intro one other same
  injection same

section

variable {parameters : Entries Value} {owner : String} {properties : List Assignment}
  {assignments : List (Expression × Expression)}
  (each : List.Forall₂ (Assigns parameters owner) properties assignments)

include each

theorem targets_of_assigns : assignments.map Prod.fst = ownedBy owner properties := by
  induction each with
  | nil => rfl
  | cons first _ ih =>
      have here := first.1
      rw [List.map_cons, ih, here]
      rfl

/-- What is assigned to one owner is a property of it each time. -/
theorem exists_key_of_assigns {assignment : Expression × Expression}
    (member : assignment ∈ assignments) :
    ∃ entry ∈ properties, assignment.1 = .property owner entry.stored := by
  obtain ⟨entry, inside, same, -⟩ := Outcome.partner_of_mem_others each member
  exact ⟨entry, inside, same⟩

end

/-- What a selection of one field answers for the node that a variable stands for. -/
def Basis.AnswersField (basis : Basis) {σ : Type} (db : Database σ) (parameters : Entries Value)
    (type : NodeType) (owner : String) (row : Row) (state : σ) (leaf : Leaf) (value : Value) : Prop :=
  ∃ plans, basis.planFields type [.leaf leaf] = .ok plans ∧
    row.value db parameters state (.map (emitFields basis.features owner plans {}).1.2) =
      .object [(leaf.key, value)]

/-- A selection of a field reads what is stored for it. -/
theorem Basis.answersField_of_read {basis : Basis} {σ : Type} {db : Database σ}
    {parameters : Entries Value} {type : NodeType} {owner : String} {row : Row} {state : σ}
    {leaf : Leaf} (apart : leaf.name ≠ Graphql.typenameName) {field : PropertyField}
    (found : type.field? leaf.name = some field) {value : Value}
    (read : db.read row owner field.stored state = value) :
    basis.AnswersField db parameters type owner row state leaf value := by
  refine ⟨[.property leaf.key field.stored], ?_, ?_⟩
  · rw [Basis.planFields, Basis.planField, Basis.planLeaf, if_neg apart, found]
    rfl
  · subst read
    rfl

section

variable {σ : Type} {db : Database σ} {parameters : Entries Value} {owner : String}
  {properties : List Assignment} {assignments : List (Expression × Expression)} {out : Row}
  {label : Option String} {made : σ}

/-- Where all stored names are different, each holds what is assigned to it. -/
theorem read_of_assigns (remembers : db.Remembers) (new : out.HasNew db owner label made)
    (each : List.Forall₂ (Assigns parameters owner) properties assignments)
    (distinct : (properties.map Assignment.stored).Nodup) {entry : Assignment}
    (member : entry ∈ properties) (before : List (Expression × Expression)) (state : σ) :
    db.read out owner entry.stored
      (out.assigned db parameters (before ++ assignments) state) = entry.value := by
  obtain ⟨⟨target, source⟩, inside, rfl, parameter, rfl, held⟩ :=
    Outcome.partner_of_mem each member
  obtain ⟨earlier, later, rfl⟩ := List.append_of_mem inside
  have targets := targets_of_assigns each
  have single := (ownedBy_nodup_iff owner properties).mpr distinct
  rw [← targets, List.map_append, List.map_cons, List.nodup_append, List.nodup_cons] at single
  rw [← List.append_assoc, new.read_assigned remembers]
  · change (parameters.get? parameter).getD .null = entry.value
    rw [held]
    rfl
  · intro assignment after
    obtain ⟨other, -, same⟩ := exists_key_of_assigns each
      (List.mem_append_right earlier (List.mem_cons_of_mem _ after))
    refine ⟨other.stored, same, fun clash => single.2.1.1 ?_⟩
    change Expression.property owner entry.stored ∈ later.map Prod.fst
    rw [← clash, ← same]
    exact List.mem_map_of_mem after

end

/-- A new node of a type, with the values that are given for it, as its creation and its first
assignments leave it. -/
structure CreatesApart (basis : Basis) (parameters : Entries Value) (type : NodeType)
    (given : Entries Value) (pattern : NodePattern)
    (assignments : List (Expression × Expression)) : Prop where
  /-- No property is assigned twice unless one of them stands where the identifier is stored. -/
  once_iff : (assignments.map Prod.fst).Nodup ↔ type.SparesIdentifier given
  /-- Each given property is read as it was given; the identifier too, if it is spared, and otherwise
  as the property that stands in its place. -/
  reads : ∀ {σ : Type} (db : Database σ), db.Remembers → ∀ row state, ∃ out after,
    Clause.through db parameters [.create (.node pattern), .set assignments]
      { rows := [row], state } = { rows := [out], state := after } ∧
    (∀ leaf, leaf.name ≠ Graphql.typenameName → leaf.name ∈ type.fields.map PropertyField.name →
      ∀ value, given.get? leaf.name = some value →
        basis.AnswersField db parameters type pattern.name out after leaf value) ∧
    (∀ leaf, leaf.name = identifierName →
      (type.SparesIdentifier given → ∀ value, given.get? identifierName = some value →
        value ≠ .null → basis.AnswersField db parameters type pattern.name out after leaf value) ∧
      ∀ field ∈ type.fields, field.name = type.identifier.stored →
        ∀ value, given.get? field.name = some value →
          basis.AnswersField db parameters type pattern.name out after leaf value)

section

variable {basis : Basis} {type : NodeType} {parameters : Entries Value} {given : Entries Value}
  {name : String} {expression : Expression} {assignments : List (Expression × Expression)}
  (sound : basis.model.IsSound) (known : type ∈ basis.model.nodes)
  (each : List.Forall₂ (Assigns parameters name) (propertiesIn type given) assignments)

include sound known each

theorem created_once_iff :
    (((Expression.property name type.identifier.stored, expression) :: assignments).map
      Prod.fst).Nodup ↔ type.SparesIdentifier given := by
  have inside : Expression.property name type.identifier.stored ∈
      ownedBy name (propertiesIn type given) ↔
        type.identifier.stored ∈ (propertiesIn type given).map Assignment.stored := by
    unfold ownedBy
    rw [List.mem_map]
    constructor
    · rintro ⟨other, member, same⟩
      cases same
      exact member
    · exact fun member => ⟨_, member, rfl⟩
  rw [List.map_cons, List.nodup_cons, targets_of_assigns each, inside, ownedBy_nodup_iff,
    identifier_not_mem_iff sound known]
  exact and_iff_left (propertiesIn_nodup sound known given)

/-- The creation of a node with its first assignments. -/
theorem createsApart (named : name ≠ "")
    (identified : Identifies parameters ((given.get? identifierName).filter (!·.isNull)) expression) :
    CreatesApart basis parameters type given { name, label := some type.name }
      ((.property name type.identifier.stored, expression) :: assignments) := by
  refine ⟨created_once_iff sound known each, fun db remembers row state => ?_⟩
  obtain ⟨out, new, run⟩ := @Clause.through_created _ db parameters { name, label := some type.name }
    named ((.property name type.identifier.stored, expression) :: assignments) row state
  refine ⟨out, _, run, ?_, ?_⟩
  · intro leaf untyped inside value found
    obtain ⟨field, member, same⟩ := List.mem_map.mp inside
    rw [← same] at found
    obtain ⟨entry, among, stored, rfl⟩ := exists_mem_propertiesIn member found
    have looked : type.field? leaf.name = some field := by
      rw [← same]
      exact (sound.node_field? known member).2.2
    refine Basis.answersField_of_read untyped looked ?_
    rw [← stored]
    exact read_of_assigns remembers new each (propertiesIn_nodup sound known given) among [_] _
  · intro leaf same
    have untyped : leaf.name ≠ Graphql.typenameName := by
      rw [same]
      decide
    have looked : type.field? leaf.name = some type.identifierField := by
      unfold NodeType.field?
      rw [if_pos same]
    refine ⟨fun spares value found some_ => ?_, fun field member clash value found => ?_⟩
    · refine Basis.answersField_of_read untyped looked ?_
      have kept : (given.get? identifierName).filter (!·.isNull) = some value := by
        rw [found, Option.filter_some, if_pos]
        cases value with
        | null => exact absurd rfl some_
        | _ => rfl
      rw [kept] at identified
      obtain ⟨parameter, rfl, held⟩ := identified
      have others : ∀ assignment ∈ assignments, ∃ other,
          assignment.1 = .property name other ∧ other ≠ type.identifier.stored := by
        intro assignment later
        obtain ⟨entry, among, target⟩ := exists_key_of_assigns each later
        refine ⟨entry.stored, target, fun collides => ?_⟩
        apply (identifier_not_mem_iff sound known given).mpr spares
        rw [← collides]
        exact List.mem_map_of_mem among
      refine (new.read_assigned remembers [] others _).trans ?_
      change (parameters.get? parameter).getD .null = value
      rw [held]
      rfl
    · obtain ⟨entry, among, stored, rfl⟩ := exists_mem_propertiesIn member found
      refine Basis.answersField_of_read untyped looked ?_
      have place : type.identifierField.stored = entry.stored := by
        rw [stored, sound.nodeStored type known field member]
        exact clash.symm
      rw [place]
      exact read_of_assigns remembers new each (propertiesIn_nodup sound known given) among [_] _

end

/-- What is written to a node of a type in place of some given values. -/
def WritesApart (basis : Basis) (parameters : Entries Value) (type : NodeType)
    (given : Entries Value) (written : Written) : Prop :=
  match written.created with
  | some (.node pattern) =>
      CreatesApart basis parameters type given pattern written.assignments
  | _ => (written.assignments.map Prod.fst).Nodup ∧
      ((∃ owner value, (.property owner type.identifier.stored, value) ∈ written.assignments) ↔
        ¬ type.SparesIdentifier given)

/-- What an effect writes to a node is stored apart. -/
theorem writesApart_of_done {basis : Basis} (sound : basis.model.IsSound)
    {parameters : Entries Value} {effect : Effect} {write : Write} {written : Written}
    (fits : effect.Of basis.model write) (done : effect.Done parameters written)
    (ofNode : written.IsOfNode) :
    ∃ type ∈ basis.model.nodes, ∃ given,
      write = ⟨.node type, written.created.isSome, given⟩ ∧
        WritesApart basis parameters type given written := by
  cases fits with
  | @node type given known =>
      cases done with
      | node named identified each =>
          exact ⟨type, known, given, rfl, createsApart sound known each named identified⟩
  | @relationship edge related given properties assigned =>
      cases done with
      | relationship each => exact ofNode.elim
  | @nodeUpdate type given known =>
      cases done with
      | @update _ owner _ assignments owned each =>
          refine ⟨type, known, given, rfl, ?_, ?_⟩
          · rw [targets_of_assigns each, ownedBy_nodup_iff]
            exact propertiesIn_nodup sound known given
          · rw [← identifier_not_mem_iff sound known given, not_not]
            constructor
            · rintro ⟨other, value, member⟩
              obtain ⟨entry, inside, same⟩ := exists_key_of_assigns each member
              injection same with _ stored
              rw [stored]
              exact List.mem_map_of_mem inside
            · intro inside
              obtain ⟨entry, member, same⟩ := List.mem_map.mp inside
              obtain ⟨⟨target, value⟩, among, targets, -⟩ := Outcome.partner_of_mem each member
              refine ⟨owner, value, ?_⟩
              rw [← same, ← (show target = _ from targets)]
              exact among
  | @relationshipUpdate edge given properties assigned =>
      cases done with
      | @update _ owner _ assignments owned each =>
          obtain ⟨number, rfl⟩ := owned
          obtain ⟨other, key, value, member, unlike⟩ := ofNode
          obtain ⟨entry, inside, same⟩ := exists_key_of_assigns each member
          injection same with same
          exact absurd (.inr ⟨number, same⟩) unlike

end GraphGateway.Statement

namespace GraphGateway.Service

open Cypher Request Schema Settings Statement

/-- Of what a node type stores, only the identifier may stand where something else does.

The stored names of a node type of a served schema with relationship properties are all different
exactly if the identifier is not stored under the name of a property.  What a mutation writes to a node
assigns each stored property once, unless it creates a node with a value for a property that stands
where the identifier is; an update that gives one stores it in place of the identifier.  Right behind
the creation of a node every given property is read as it was given, and so is the identifier, or else
it is read as the given property that stands in its place. -/
theorem Served.stored_apart_iff {document : Graphql.Document} {features : Features}
    {spareKey : List UInt8} {served : Served}
    (made : Served.ofDocument document features spareKey = .ok served)
    (offered : features.relationshipProperties = true) :
    (∀ type ∈ served.model.nodes, type.storedNames.Nodup ↔ type.IsApart) ∧
    ∀ field compiled, served.basis.compile field = .ok compiled →
      ∃ plan, served.basis.plan field = .ok plan ∧
        compiled.text = Clause.text (plan.emit features {}).1 ∧
        ∀ written ∈ Clause.written (plan.emit features {}).1, written.IsOfNode →
          ∃ type ∈ served.model.nodes, ∃ given,
            Asks served.model field ⟨.node type, written.created.isSome, given⟩ ∧
            WritesApart served.basis compiled.parameters type given written := by
  obtain ⟨sound, rfl⟩ := Served.sound_of_document made offered
  have sound : served.basis.model.IsSound := sound
  have offered : served.basis.features.relationshipProperties = true := offered
  refine ⟨fun type known => sound.storedNames_nodup_iff known, fun field compiled done => ?_⟩
  obtain ⟨plan, planned, same⟩ := Outcome.bind_ok_iff.mp done
  cases same
  refine ⟨plan, planned, rfl, fun written member ofNode => ?_⟩
  obtain ⟨effect, inside, performed⟩ := (emit_performs served.features plan).run written member
  obtain ⟨write, asks, fits⟩ := plan_effects offered planned inside
  obtain ⟨type, known, given, rfl, apart⟩ := writesApart_of_done sound fits performed ofNode
  exact ⟨type, known, given, asks, apart⟩

theorem stored_apart_iff_staged :
    (∀ type ∈ stage.model.nodes, type.storedNames.Nodup) ∧
    ∃ compiled plan, stage.basis.compile (staging [("role", .text "Ripley")]) = .ok compiled ∧
      stage.basis.plan (staging [("role", .text "Ripley")]) = .ok plan ∧
      (Clause.written (plan.emit {} {}).1).map (fun written => written.assignments.length) =
        [2, 2, 2] ∧
      ∀ written ∈ Clause.written (plan.emit {} {}).1, ∀ pattern,
        written.created = some (.node pattern) →
          (written.assignments.map Prod.fst).Nodup ∧ ∃ type given,
            Asks stage.model (staging [("role", .text "Ripley")]) ⟨.node type, true, given⟩ ∧
            ∃ out after, Clause.through Memory.database compiled.parameters
                [.create (.node pattern), .set written.assignments] { rows := [[]], state := {} } =
                  { rows := [out], state := after } ∧
              ∀ leaf, leaf.name ≠ Graphql.typenameName →
                leaf.name ∈ type.fields.map PropertyField.name →
                  ∀ value, given.get? leaf.name = some value →
                    stage.basis.AnswersField Memory.database compiled.parameters type pattern.name out
                      after leaf value := by
  obtain ⟨names, statements⟩ := Served.stored_apart_iff stage_made rfl
  have apart : ∀ type ∈ stage.model.nodes, type.IsApart := by
    rw [stage_model]
    decide
  obtain ⟨plan, planned, assigns⟩ := staging_planned
  have done : stage.basis.compile (staging [("role", .text "Ripley")]) = _ :=
    Outcome.bind_ok_iff.mpr ⟨plan, planned, rfl⟩
  obtain ⟨other, plannedAgain, -, each⟩ := statements _ _ done
  cases planned.symm.trans plannedAgain
  refine ⟨fun type known => (names type known).mpr (apart type known), _, plan, done, planned,
    assigns, fun written member pattern created => ?_⟩
  have ofNode : written.IsOfNode := by
    unfold Written.IsOfNode
    rw [created]
    trivial
  obtain ⟨type, known, given, asks, kept⟩ := each written member ofNode
  unfold WritesApart at kept
  rw [created] at asks kept
  refine ⟨kept.once_iff.mpr ((apart type known).spares given), type, given, asks, ?_⟩
  obtain ⟨out, after, run, reads, -⟩ := kept.reads Memory.database Memory.remembers [] {}
  exact ⟨out, after, run, reads⟩

/-- Movies that store their identifier as their title. -/
def retitledText : String :=
  "type Movie \x7b id: ID! @identifier(property: \"title\") title: String! \x7d"

def retitled : Served := (Served.ofText retitledText {} []).toOption.get (by decide +kernel)

/-- A request for a movie with an identifier and a title. -/
def retitling : RootField :=
  .create "createMovies" "Movie" [.object [("id", .text "m1"), ("title", .text "Alien")]]
    { typeName := "CreateMoviesMutationResponse"
      fields := [.nodes "movies" { typeName := "Movie", fields := [.leaf ⟨"id", "id"⟩] }] }

/-- The title is assigned over the identifier, and the identifier of the new movie is its title. -/
theorem exists_overwritten_identifier_retitled :
    Served.ofText retitledText {} [] = .ok retitled ∧
    (∃ movie ∈ retitled.model.nodes, ¬ movie.storedNames.Nodup) ∧
    ∃ compiled plan, retitled.basis.compile retitling = .ok compiled ∧
      retitled.basis.plan retitling = .ok plan ∧
      compiled.text = Clause.text (plan.emit {} {}).1 ∧
      "    SET this0.`title` = $id_1, this0.`title` = $title_2" ∈
        Clause.linesOf (plan.emit {} {}).1 ∧
      (Clause.result Memory.database compiled.parameters (plan.emit {} {}).1 {}).rows.map
        (fun row => ((row.get? "data").bind (Value.get? "movies")).bind (Value.get? "id") |>.map
          (Value.isText "Alien")) = [some true] := by
  refine ⟨Outcome.eq_ok_of_isSome _, by decide +kernel, ?_⟩
  exact ⟨_, _, Outcome.eq_ok_of_isSome (by decide +kernel), Outcome.eq_ok_of_isSome (by decide +kernel),
    by decide +kernel, by decide +kernel, by decide +kernel⟩

end GraphGateway.Service
