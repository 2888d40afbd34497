import CompositeObjects.Configuration.Walk

namespace CompositeObjects

/-- New names for resources of every kind, and the number of references that were changed so far. -/
structure Renaming where
  table : Table String
  rewritten : Nat
deriving DecidableEq, Repr

namespace Renaming

def ofPairs (pairs : List (String × String)) : Renaming := ⟨Table.ofList pairs, 0⟩

/-- The new name; a name that is not in the table stays. -/
def rename (r : Renaming) (name : String) : String × Renaming :=
  match r.table.get? name with
  | some newName => (newName, { r with rewritten := r.rewritten + 1 })
  | none => (name, r)

def walker : Walker Renaming := ⟨fun _ name r => r.rename name⟩

end Renaming

/-- Leaves every reference as it is. -/
def Walker.idle : Walker Unit := ⟨fun _ name s => (name, s)⟩

end CompositeObjects
