import CompositeObjects.Configuration.Lookup

namespace CompositeObjects

/-- A visitor of resource references: it answers each name with the name to be stored, and goes on
in a new state. -/
structure Walker (σ : Type) where
  visit : ResourceKind → String → σ → String × σ

/-- Visits the resource properties in the order of their names. The views are those from before the
first visit; a name that is answered differently is stored. -/
def Composite.visitViews {σ : Type} (catalog : Catalog) (walker : Walker σ) :
    Table Property → Composite Configuration → σ → Traced (Composite Configuration × σ)
  | [], node, s => pure (node, s)
  | (name, view) :: rest, node, s =>
    if view.type ≠ .resource then visitViews catalog walker rest node s
    else match view.resourceKind? with
      | none => do
        Traced.tell (.unknownKind name)
        visitViews catalog walker rest node s
      | some kind =>
        let (answer, s) := walker.visit kind view.value s
        let node :=
          if answer = view.value then node else (node.update? catalog name answer).getD node
        visitViews catalog walker rest node s

namespace Configuration

variable {σ : Type}

/-- Visits each child in turn: it is looked up, walked by `step` and put back. -/
def walkChildren (catalog : Catalog)
    (step : Configuration → σ → Option (Traced (Configuration × σ))) :
    List Child → Composite Configuration → σ → Option (Traced (Composite Configuration × σ))
  | [], node, s => some (pure (node, s))
  | declared :: rest, node, s =>
    let found := node.lookup catalog declared.name
    match found.value with
    | .error _ =>
      (walkChildren catalog step rest node s).map fun r => ⟨r.value, found.events ++ r.events⟩
    | .ok (child, node) =>
      (step child s).bind fun r =>
        (walkChildren catalog step rest (node.withChild declared.name r.value.1) r.value.2).map
          fun r' => ⟨r'.value, found.events ++ r.events ++ r'.events⟩

/-- Visits the resources of a configuration and then those of every declared child, down to so many
levels. Nothing is returned where the children go deeper. -/
def walkWithin (catalog : Catalog) (walker : Walker σ) :
    Nat → Configuration → σ → Option (Traced (Configuration × σ))
  | _, .verbatim typeName tree, s => some (pure (.verbatim typeName tree, s))
  | 0, .composite _, _ => none
  | depth + 1, .composite node, s =>
    let visited := Composite.visitViews catalog walker (node.views catalog) node s
    let (node, s) := visited.value
    match catalog.type? node.typeName with
    | none => some ⟨(.composite node, s), visited.events⟩
    | some type =>
      (walkChildren catalog (walkWithin catalog walker depth) type.children node s).map fun r =>
        ⟨(.composite r.value.1, r.value.2), visited.events ++ r.events⟩

mutual

/-- The number of nodes, counting those of the trees that are kept aside. -/
def weight : Configuration → Nat
  | .verbatim .. => 1
  | .composite ⟨_, _, children, parked⟩ => 1 + weights children + treeWeights parked

def weights : List (String × Configuration) → Nat
  | [] => 0
  | (_, child) :: rest => weight child + weights rest

def treeWeight : Json → Nat
  | .array items => 1 + itemWeights items
  | .object entries => 1 + treeWeights entries
  | _ => 1

def itemWeights : List Json → Nat
  | [] => 0
  | item :: rest => treeWeight item + itemWeights rest

def treeWeights : List (String × Json) → Nat
  | [] => 0
  | (_, tree) :: rest => treeWeight tree + treeWeights rest

end

/-- A depth that no finite walk exceeds: on the way down only finitely many children are made, each
from one default and at most one tree kept aside, and between them the way follows nodes that are
there. A way on which the same child is made twice goes on for ever. -/
def depthBound (catalog : Catalog) (c : Configuration) : Nat :=
  let defaults := catalog.entries.flatMap fun entry =>
    entry.type.children.map fun child => (child.name, child.default)
  let total := c.weight + weights defaults + 1
  (1 + total * (1 + total)) * (2 * total + 2)

/-- The whole walk, or nothing where it has no end: a type within itself is expanded for ever. -/
def walk (catalog : Catalog) (walker : Walker σ) (c : Configuration) (s : σ) :
    Option (Traced (Configuration × σ)) :=
  walkWithin catalog walker (depthBound catalog c) c s

end Configuration
end CompositeObjects
