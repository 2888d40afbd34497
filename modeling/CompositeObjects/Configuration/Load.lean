import CompositeObjects.Catalog
import CompositeObjects.Configuration.SavedTree

namespace CompositeObjects

/-- The child as far as it has been made, or else the declared default. -/
def startingChild (children : Table Configuration) (declared : Child) : Configuration :=
  (children.get? declared.name).getD declared.default

mutual

/-- Takes over a tree that has been read. The content is replaced. Where the type is known, each
child that it declares takes over its own tree, starting from the child made so far or from the
declared default; where it is not known, the trees of the children are kept aside. -/
def Configuration.take (catalog : Catalog) (tree : Json) (saved : SavedTree) :
    Configuration → Traced (Except Fault Configuration)
  | .verbatim typeName _ => pure (.ok (.verbatim typeName tree))
  | .composite node =>
    match saved with
    | .malformed kept fault => ⟨.error fault, kept.map .keptEntry⟩
    | .composite content trees => do
      Traced.mk () content.keptEvents
      match catalog.type? node.typeName with
      | none => do
        Traced.tell (.parkedChildren trees.length node.typeName)
        pure (.ok (.composite { node with content, parked := trees.map fun t => (t.1, t.2.1) }))
      | some type => do
        let children ← takeChildren catalog node.typeName type trees node.children
        pure (children.map fun children => .composite { node with content, children, parked := [] })

/-- Each declared child takes over its tree, in the order of the trees; the first fault ends it. -/
def takeChildren (catalog : Catalog) (typeName : String) (type : ObjectType) :
    List (String × Json × SavedTree) → Table Configuration →
      Traced (Except Fault (Table Configuration))
  | [], children => pure (.ok children)
  | (name, tree, saved) :: rest, children =>
    match type.child? name with
    | none => do
      Traced.tell (.ignoredChild (.undeclaredChild typeName name))
      takeChildren catalog typeName type rest children
    | some declared => do
      match ← Configuration.take catalog tree saved (startingChild children declared) with
      | .error fault => pure (.error fault)
      | .ok child => takeChildren catalog typeName type rest (children.insert name child)

end

/-- Loads a tree. On a fault there is no new state; what was told on the way is told. -/
def Configuration.load (catalog : Catalog) (c : Configuration) (tree : Json) :
    Traced (Except Fault Configuration) :=
  c.take catalog tree (.ofJson tree)

end CompositeObjects
