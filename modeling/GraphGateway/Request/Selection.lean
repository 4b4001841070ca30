import GraphGateway.Graphql.Document
import GraphGateway.Value

/-!
What a request asks for, free of GraphQL text: root fields with their arguments, and for each type
the fields selected on it.  Every selected field has a key, under which its answer stands.
-/
namespace GraphGateway.Request

/-- A field without fields of its own. -/
structure Leaf where
  key : String
  name : String
  deriving DecidableEq, Repr, Inhabited

mutual

/-- A field of a node. -/
inductive NodeField where
  | leaf (leaf : Leaf)
  | relationship (key name typeName : String) (fields : List NodeField)
  /-- A connection over the relationship `name`; absent arguments are null. -/
  | connection (key name : String) (first after : Value) (fields : List ConnectionField)

/-- A field of a connection. -/
inductive ConnectionField where
  | leaf (leaf : Leaf)
  | edges (key : String) (fields : List EdgeField)
  | pageInfo (key : String) (fields : List Leaf)

/-- A field of an edge. -/
inductive EdgeField where
  | leaf (leaf : Leaf)
  | node (key typeName : String) (fields : List NodeField)

end

instance : Inhabited NodeField := ⟨.leaf default⟩

instance : Inhabited ConnectionField := ⟨.leaf default⟩

instance : Inhabited EdgeField := ⟨.leaf default⟩

structure NodeSelection where
  typeName : String
  fields : List NodeField := []
  deriving Inhabited

/-- A field of the answer to a mutation. -/
inductive ResponseField where
  | leaf (leaf : Leaf)
  | nodes (key : String) (selection : NodeSelection)

structure ResponseSelection where
  typeName : String
  fields : List ResponseField := []

inductive RootField where
  | list (key typeName : String) (selection : NodeSelection) (filter : Value)
  /-- The node with an identifier, with a selection for each type it may be of. -/
  | lookup (key : String) (id : Value) (variants : List NodeSelection)
  | create (key typeName : String) (inputs : List Value) (response : ResponseSelection)
  | update (key typeName : String) (response : ResponseSelection)
      (filter assignments connections : Value)
  /-- The name of the root type, which is known without the database. -/
  | typename (key typeName : String)

def RootField.key : RootField → String
  | list key _ _ _ => key
  | lookup key _ _ => key
  | create key _ _ _ => key
  | update key _ _ _ _ _ => key
  | typename key _ => key

def RootField.isTypename : RootField → Bool
  | typename _ _ => true
  | _ => false

structure Operation where
  kind : Graphql.OperationKind
  fields : List RootField

def Operation.isMutation (operation : Operation) : Bool :=
  operation.kind == .mutation

end GraphGateway.Request
