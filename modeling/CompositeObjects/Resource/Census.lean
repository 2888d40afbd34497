import CompositeObjects.Configuration.Walk

namespace CompositeObjects

/-- The resources in use: for each kind that was met the distinct names in the order of their first
visit, and the number of all visits. -/
structure Census where
  kinds : List (ResourceKind × List String)
  visits : Nat
deriving DecidableEq, Repr

namespace Census

def empty : Census := ⟨[], 0⟩

def names (c : Census) (kind : ResourceKind) : List String := ((c.kinds.lookup kind).getD [])

/-- An empty name is no resource. -/
def addName (names : List String) (name : String) : List String :=
  if name = "" ∨ name ∈ names then names else names ++ [name]

/-- A kind that is met for the first time goes to its place in the order of kinds. -/
def addTo (kind : ResourceKind) (name : String) :
    List (ResourceKind × List String) → List (ResourceKind × List String)
  | [] => [(kind, addName [] name)]
  | (k, names) :: rest =>
    if k = kind then (k, addName names name) :: rest
    else if kind.position < k.position then (kind, addName [] name) :: (k, names) :: rest
    else (k, names) :: addTo kind name rest

def record (c : Census) (kind : ResourceKind) (name : String) : Census :=
  ⟨addTo kind name c.kinds, c.visits + 1⟩

/-- Counts every reference and changes none. -/
def walker : Walker Census := ⟨fun kind name c => (name, c.record kind name)⟩

end Census
end CompositeObjects
