import CompositeObjects.Configuration.Load

namespace CompositeObjects

/-- A child that has not been made yet: the declared default, into which the tree that was kept
aside for it is loaded. A tree that cannot be loaded is dropped. -/
def newChild (catalog : Catalog) (declared : Child) (parked : Option Json) : Traced Configuration :=
  match parked with
  | none => pure declared.default
  | some tree => do
    match ← declared.default.load catalog tree with
    | .ok child => pure child
    | .error fault => do
      Traced.tell (.droppedTree declared.name fault)
      pure declared.default

namespace Composite

/-- The configuration of a declared child and the object that now holds it; the first time it is
asked for it is made. -/
def makeChild (catalog : Catalog) (c : Composite Configuration) (name : String) :
    Traced (Except LookupError (Configuration × Composite Configuration)) :=
  match catalog.type? c.typeName with
  | none => pure (.error (.unresolvedType c.typeName))
  | some type =>
    match type.child? name with
    | none => pure (.error (.undeclaredChild c.typeName name))
    | some declared =>
      match c.child? name with
      | some child => pure (.ok (child, c))
      | none => do
        let child ← newChild catalog declared (Table.get? name c.parked)
        pure (.ok (child, { c with
          children := Table.insert name child c.children
          parked := Table.erase name c.parked }))

/-- Gives out a child as `makeChild` does, with a warning where there is none. -/
def lookup (catalog : Catalog) (c : Composite Configuration) (name : String) :
    Traced (Except LookupError (Configuration × Composite Configuration)) := do
  match ← c.makeChild catalog name with
  | .ok found => pure (.ok found)
  | .error error => do
    Traced.tell (.failedLookup error)
    pure (.error error)

/-- The declared properties with their current values; none where the type is not known. -/
def views (catalog : Catalog) (c : Composite Configuration) : Table Property :=
  match catalog.type? c.typeName with
  | none => []
  | some type => Property.views type.properties c.content

/-- Stores a value for a declared property, as it is given. -/
def update? (catalog : Catalog) (c : Composite Configuration) (name value : String) :
    Option (Composite Configuration) := do
  let type ← catalog.type? c.typeName
  let content ← Property.update? type.properties c.content name value
  some { c with content }

end Composite

namespace Configuration

def views (catalog : Catalog) : Configuration → Table Property
  | .verbatim .. => []
  | .composite node => Composite.views catalog node

def update? (catalog : Catalog) : Configuration → String → String → Option Configuration
  | .verbatim .., _, _ => none
  | .composite node, name, value =>
    (Composite.update? catalog node name value).map .composite

end Configuration
end CompositeObjects
