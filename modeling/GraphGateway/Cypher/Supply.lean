import GraphGateway.Cypher.Clause
import GraphGateway.Value

/-!
The names of one statement.  Every variable and every parameter gets a number of its own behind its
base, and every value goes under the name of a parameter.
-/
namespace GraphGateway.Cypher

structure Supply where
  /-- How many names were given out. -/
  issued : Nat := 0
  parameters : Entries Value := []
  deriving Inhabited

abbrev Naming (α : Type) := StateM Supply α

/-- A new name for a variable. -/
def newName (base : String) : Naming String := fun supply =>
  let number := supply.issued + 1
  (s!"{base}_{number}", { supply with issued := number })

/-- A new parameter for a value. -/
def bindValue (value : Value) (base : String) : Naming Expression := fun supply =>
  let (name, supply) := newName base supply
  (.parameter name, { supply with parameters := supply.parameters.put name value })

end GraphGateway.Cypher
