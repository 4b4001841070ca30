import GraphGateway.Graphql.Site

/-!
How deep requests look into types.  The fields that list what a type has may not nest in each other
more than twice, as their answers would grow without bound.
-/
namespace GraphGateway.Graphql

/-- The fields of a type that list what can list more. -/
def listingNames : List String := ["fields", "interfaces", "possibleTypes", "inputFields"]

def listingLimit : Nat := 2

mutual

/-- Whether listings nest too deep in a selection that stands in some number of them; a fragment is
followed from that number. -/
def Selection.listsTooDeep (follow : String → Nat → Bool) (depth : Nat) : Selection → Bool
  | .field _ name _ _ selections =>
      if listingNames.contains name then
        listingLimit ≤ depth || Selection.anyListsTooDeep follow (depth + 1) selections
      else Selection.anyListsTooDeep follow depth selections
  | .spread fragment _ => follow fragment depth
  | .inline _ _ selections => Selection.anyListsTooDeep follow depth selections

def Selection.anyListsTooDeep (follow : String → Nat → Bool) (depth : Nat) :
    List Selection → Bool
  | [] => false
  | selection :: rest =>
      selection.listsTooDeep follow depth || Selection.anyListsTooDeep follow depth rest

end

mutual

/-- The selections within each field that asks about types. -/
def Selection.inspected : Selection → List (List Selection)
  | .field _ name _ _ selections =>
      let inner := Selection.inspectedIn selections
      if name = schemaField.name || name = typeField.name then selections :: inner else inner
  | .spread _ _ => []
  | .inline _ _ selections => Selection.inspectedIn selections

def Selection.inspectedIn : List Selection → List (List Selection)
  | [] => []
  | selection :: rest => selection.inspected ++ Selection.inspectedIn rest

end

namespace Document

variable (document : Document)

/-- Whether listings nest too deep in a fragment that is spread outside of the visited ones; there
are no more fragments to visit than the fuel. -/
def fragmentListsTooDeep : Nat → List String → String → Nat → Bool
  | 0, _, _, _ => false
  | fuel + 1, visited, name, depth =>
      if visited.contains name then false
      else
        match document.fragment? name with
        | none => false
        | some fragment =>
            Selection.anyListsTooDeep (fragmentListsTooDeep fuel (name :: visited)) depth
              fragment.selections

/-- Whether no listings nest too deep where a document asks about types. -/
def hasShallowIntrospection : Bool :=
  let fuel := document.fragments.length + 1
  let roots := document.operations.map Operation.selections ++
    document.fragments.map Fragment.selections
  (roots.flatMap Selection.inspectedIn).all fun selections =>
    !Selection.anyListsTooDeep (document.fragmentListsTooDeep fuel []) 0 selections

end Document

end GraphGateway.Graphql
