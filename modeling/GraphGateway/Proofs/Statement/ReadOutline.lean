import GraphGateway.Proofs.Statement.ReadPlan
import GraphGateway.Proofs.Value.Outline
import GraphGateway.Request.Selection

/-!
Outlines of requests: what is left of a root field once the leaves among its values are made the
same.  Keys, names and the nesting of selections stay, and so do all nulls.
-/
namespace GraphGateway.Request

mutual

def NodeField.outline : NodeField → NodeField
  | .leaf leaf => .leaf leaf
  | .relationship key name typeName fields =>
      .relationship key name typeName (NodeField.outlineAll fields)
  | .connection key name first after fields =>
      .connection key name first.outline after.outline (ConnectionField.outlineAll fields)

def NodeField.outlineAll : List NodeField → List NodeField
  | [] => []
  | field :: rest => field.outline :: NodeField.outlineAll rest

def ConnectionField.outline : ConnectionField → ConnectionField
  | .leaf leaf => .leaf leaf
  | .edges key fields => .edges key (EdgeField.outlineAll fields)
  | .pageInfo key fields => .pageInfo key fields

def ConnectionField.outlineAll : List ConnectionField → List ConnectionField
  | [] => []
  | field :: rest => field.outline :: ConnectionField.outlineAll rest

def EdgeField.outline : EdgeField → EdgeField
  | .leaf leaf => .leaf leaf
  | .node key typeName fields => .node key typeName (NodeField.outlineAll fields)

def EdgeField.outlineAll : List EdgeField → List EdgeField
  | [] => []
  | field :: rest => field.outline :: EdgeField.outlineAll rest

end

def NodeSelection.outline (selection : NodeSelection) : NodeSelection where
  typeName := selection.typeName
  fields := NodeField.outlineAll selection.fields

def ResponseField.outline : ResponseField → ResponseField
  | .leaf selected => .leaf selected
  | .nodes key selection => .nodes key selection.outline

def ResponseSelection.outline (selection : ResponseSelection) : ResponseSelection where
  typeName := selection.typeName
  fields := selection.fields.map ResponseField.outline

/-- A root field with all leaves but nulls of its values made the same. -/
def RootField.outline : RootField → RootField
  | .list key typeName selection filter => .list key typeName selection.outline filter.outline
  | .lookup key id variants => .lookup key id.outline (variants.map NodeSelection.outline)
  | .create key typeName inputs response =>
      .create key typeName (inputs.map Value.outline) response.outline
  | .update key typeName response filter assignments connections =>
      .update key typeName response.outline filter.outline assignments.outline connections.outline
  | .typename key typeName => .typename key typeName

end GraphGateway.Request

/-!
Outlines of what is read.  Selections of one outline that can both be planned have plans of one
outline: what differs in their arguments comes down to the keys and the limits of pages, and there
is a key or a limit in the one page exactly if there is one in the other.
-/
namespace GraphGateway.Statement

open Request Schema
open Outcome (Agree)

def Assignment.outline (entry : Assignment) : Assignment :=
  { entry with value := entry.value.outline }

/-- A page with its key and its limit made the same, where it has them. -/
def Page.outline (page : Page) : Page where
  start := page.start.map fun _ => 0
  limit := page.limit.map fun _ => .null

mutual

def FieldPlan.outline : FieldPlan → FieldPlan
  | .property key stored => .property key stored
  | .related key step fields => .related key step (FieldPlan.outlineAll fields)
  | .connection key step page sets =>
      .connection key step page.outline (EdgeSetPlan.outlineAll sets)

def FieldPlan.outlineAll : List FieldPlan → List FieldPlan
  | [] => []
  | field :: rest => field.outline :: FieldPlan.outlineAll rest

def EdgeSetPlan.outline : EdgeSetPlan → EdgeSetPlan
  | .mk key fields => .mk key (EdgePlan.outlineAll fields)

def EdgeSetPlan.outlineAll : List EdgeSetPlan → List EdgeSetPlan
  | [] => []
  | set :: rest => set.outline :: EdgeSetPlan.outlineAll rest

def EdgePlan.outline : EdgePlan → EdgePlan
  | .property key stored => .property key stored
  | .node key fields => .node key (FieldPlan.outlineAll fields)

def EdgePlan.outlineAll : List EdgePlan → List EdgePlan
  | [] => []
  | field :: rest => field.outline :: EdgePlan.outlineAll rest

end

theorem FieldPlan.outlineAll_append (first rest : List FieldPlan) :
    FieldPlan.outlineAll (first ++ rest) =
      FieldPlan.outlineAll first ++ FieldPlan.outlineAll rest := by
  induction first with
  | nil => rfl
  | cons field others ih => simp only [List.cons_append, FieldPlan.outlineAll, ih]

theorem EdgePlan.outlineAll_append (first rest : List EdgePlan) :
    EdgePlan.outlineAll (first ++ rest) =
      EdgePlan.outlineAll first ++ EdgePlan.outlineAll rest := by
  induction first with
  | nil => rfl
  | cons field others ih => simp only [List.cons_append, EdgePlan.outlineAll, ih]

/-- Filters of one outline have the same entries up to the first that is none. -/
theorem filterEntries_agree (node : NodeType) {entries others : List (String × Value)}
    (same : Value.outlineEntries entries = Value.outlineEntries others) :
    (filterEntries node entries).1.map Assignment.outline =
        (filterEntries node others).1.map Assignment.outline ∧
      (filterEntries node entries).2 = (filterEntries node others).2 := by
  induction entries generalizing others with
  | nil =>
      cases others with
      | nil => exact ⟨rfl, rfl⟩
      | cons other left => cases same
  | cons entry rest ih =>
      obtain ⟨name, value⟩ := entry
      cases others with
      | nil => cases same
      | cons other left =>
          obtain ⟨label, item⟩ := other
          simp only [Value.outlineEntries, List.cons.injEq, Prod.mk.injEq] at same
          obtain ⟨⟨rfl, alike⟩, left_⟩ := same
          obtain ⟨accepted, refused⟩ := ih left_
          unfold filterEntries
          split
          · exact ⟨by simp [Assignment.outline, alike, accepted], refused⟩
          · exact ⟨rfl, rfl⟩

theorem readFilter_agree (node : NodeType) {one other : Value} (path : String)
    (same : one.outline = other.outline) :
    Agree (List.map Assignment.outline) (readFilter node one path) (readFilter node other path) := by
  intro accepted taken here there
  obtain ⟨entries, entered, read⟩ := readFilter_ok_iff.mp here
  obtain ⟨others, found, readAgain⟩ := readFilter_ok_iff.mp there
  have alike := (filterEntries_agree node (entriesOf?_alike same entered found)).1
  rw [read, readAgain] at alike
  exact alike

section

variable (basis : Basis)

theorem map_const_eq {α β : Type} {one other : Option α} {value : β}
    (same : one.isSome = other.isSome) :
    one.map (fun _ => value) = other.map fun _ => value := by
  cases one with
  | none =>
      cases other with
      | none => rfl
      | some found => cases same
  | some found =>
      cases other with
      | none => cases same
      | some other => rfl

/-- The limits of two pages are there or not, as the sizes are null or not; so are their keys. -/
theorem pageOf_agree (issuer : String) {first after one other : Value}
    (size : first.outline = one.outline) (start : after.outline = other.outline) :
    Agree Page.outline (basis.pageOf issuer first after) (basis.pageOf issuer one other) := by
  intro page another here there
  have limits : page.limit.isSome = another.limit.isSome := by
    rw [limit_isSome here, limit_isSome there, Value.isNull_eq_of_outline size]
  have starts : page.start.isSome = another.start.isSome := by
    rw [start_isSome here, start_isSome there, Value.isNull_eq_of_outline start]
  unfold Page.outline
  rw [map_const_eq limits, map_const_eq starts]

mutual

theorem planField_agree (node : NodeType) : (one other : NodeField) → one.outline = other.outline →
    Agree FieldPlan.outlineAll (basis.planField node one) (basis.planField node other)
  | .leaf leaf, .leaf other, same => by
      cases same
      exact .refl _ _
  | .leaf _, .relationship _ _ _ _, same => nomatch same
  | .leaf _, .connection _ _ _ _ _, same => nomatch same
  | .relationship _ _ _ _, .leaf _, same => nomatch same
  | .relationship _ _ _ _, .connection _ _ _ _ _, same => nomatch same
  | .connection _ _ _ _ _, .leaf _, same => nomatch same
  | .connection _ _ _ _ _, .relationship _ _ _ _, same => nomatch same
  | .relationship key name _ fields, .relationship _ _ _ others, same => by
      obtain ⟨rfl, rfl, rfl, inner⟩ := NodeField.relationship.inj same
      unfold Basis.planField
      refine Agree.bind_same ?_
      intro found _
      refine Agree.bind (planFields_agree found.2 fields others inner) ?_
      intro plans planned _ _ alike
      exact .ok (by simp only [FieldPlan.outlineAll, FieldPlan.outline, alike])
  | .connection key name first after fields, .connection _ _ one other others, same => by
      obtain ⟨rfl, rfl, size, start, inner⟩ := NodeField.connection.inj same
      unfold Basis.planField
      split
      · exact .refl _ _
      · refine Agree.bind_same ?_
        intro found _
        refine Agree.bind (pageOf_agree basis _ size start) ?_
        intro page another _ _ samePage
        refine Agree.bind (planSets_agree _ _ found.2 fields others inner) ?_
        intro sets planned _ _ sameSets
        exact .ok (by simp only [FieldPlan.outlineAll, FieldPlan.outline, samePage, sameSets])
  termination_by structural one => one

theorem planFields_agree (node : NodeType) : (fields others : List NodeField) →
    NodeField.outlineAll fields = NodeField.outlineAll others →
    Agree FieldPlan.outlineAll (basis.planFields node fields) (basis.planFields node others)
  | [], [], _ => .refl _ _
  | [], _ :: _, same => nomatch same
  | _ :: _, [], same => nomatch same
  | first :: rest, one :: others, same => by
      obtain ⟨here, left⟩ := List.cons.inj same
      unfold Basis.planFields
      refine Agree.bind (planField_agree node first one here) ?_
      intro plans planned _ _ begun
      refine Agree.bind (planFields_agree node rest others left) ?_
      intro later after _ _ ended
      exact .ok (by rw [FieldPlan.outlineAll_append, FieldPlan.outlineAll_append, begun, ended])
  termination_by structural fields => fields

theorem planSets_agree (issuer : String) (properties : Option PropertiesType) (related : NodeType) :
    (fields others : List ConnectionField) →
    ConnectionField.outlineAll fields = ConnectionField.outlineAll others →
    Agree EdgeSetPlan.outlineAll (basis.planSets issuer properties related fields)
      (basis.planSets issuer properties related others)
  | [], [], _ => .refl _ _
  | [], _ :: _, same => nomatch same
  | _ :: _, [], same => nomatch same
  | first :: rest, one :: others, same => by
      obtain ⟨here, left⟩ := List.cons.inj same
      cases first with
      | leaf leaf =>
          cases one with
          | leaf other => exact planSets_agree issuer properties related rest others left
          | _ => cases here
      | pageInfo key fields =>
          cases one with
          | pageInfo _ _ => exact planSets_agree issuer properties related rest others left
          | _ => cases here
      | edges key fields =>
          cases one with
          | edges _ inner =>
              obtain ⟨rfl, alike⟩ := ConnectionField.edges.inj here
              unfold Basis.planSets
              refine Agree.bind (planEdges_agree issuer properties related fields inner alike) ?_
              intro plans planned _ _ begun
              refine Agree.bind (planSets_agree issuer properties related rest others left) ?_
              intro later after _ _ ended
              exact .ok (by simp only [EdgeSetPlan.outlineAll, EdgeSetPlan.outline, begun, ended])
          | _ => cases here
  termination_by structural fields => fields

theorem planEdges_agree (issuer : String) (properties : Option PropertiesType)
    (related : NodeType) : (fields others : List EdgeField) →
    EdgeField.outlineAll fields = EdgeField.outlineAll others →
    Agree EdgePlan.outlineAll (basis.planEdges issuer properties related fields)
      (basis.planEdges issuer properties related others)
  | [], [], _ => .refl _ _
  | [], _ :: _, same => nomatch same
  | _ :: _, [], same => nomatch same
  | first :: rest, one :: others, same => by
      obtain ⟨here, left⟩ := List.cons.inj same
      cases first with
      | leaf leaf =>
          cases one with
          | leaf other =>
              cases here
              unfold Basis.planEdges
              refine Agree.bind_same ?_
              intro plans _
              refine Agree.bind (planEdges_agree issuer properties related rest others left) ?_
              intro later after _ _ ended
              exact .ok (by rw [EdgePlan.outlineAll_append, EdgePlan.outlineAll_append, ended])
          | node _ _ _ => cases here
      | node key typeName fields =>
          cases one with
          | leaf other => cases here
          | node _ _ inner =>
              obtain ⟨rfl, rfl, alike⟩ := EdgeField.node.inj here
              unfold Basis.planEdges
              refine Agree.bind (planFields_agree related fields inner alike) ?_
              intro plans planned _ _ begun
              refine Agree.bind (planEdges_agree issuer properties related rest others left) ?_
              intro later after _ _ ended
              exact .ok (by simp only [EdgePlan.outlineAll, EdgePlan.outline, begun, ended])
  termination_by structural fields => fields

end

end

end GraphGateway.Statement
