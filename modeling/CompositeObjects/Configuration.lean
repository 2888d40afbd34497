import CompositeObjects.Content
import CompositeObjects.Diagnostics

namespace CompositeObjects

/-- One level of a composite object: its values, the children made so far, and the trees of
children that are kept aside until the type is known. -/
structure Composite (κ : Type) where
  typeName : String
  content : Content
  children : List (String × κ)
  parked : List (String × Json)
deriving Repr

/-- The state of one placed object: composite, or of a kind whose tree is held as it is. -/
inductive Configuration where
  | verbatim (typeName : String) (tree : Json)
  | composite (node : Composite Configuration)
deriving Repr

/-- A composite object that nothing has been done to. -/
def Composite.fresh (typeName : String) : Composite Configuration := ⟨typeName, .empty, [], []⟩

namespace Configuration

instance : Inhabited Configuration := ⟨.verbatim "" .null⟩

def typeName : Configuration → String
  | .verbatim typeName _ => typeName
  | .composite node => node.typeName

def node? : Configuration → Option (Composite Configuration)
  | .verbatim .. => none
  | .composite node => some node

mutual

/-- The tree that holds the state. Of a child made so far its own tree is written, of any other the
tree that is kept aside. -/
def save : Configuration → Json
  | .verbatim _ tree => tree
  | .composite ⟨_, content, children, parked⟩ => .object [
      ("childrenContent", .object (Table.overlay parked (saveChildren children))),
      ("content", content.toJson)]

def saveChildren : List (String × Configuration) → List (String × Json)
  | [] => []
  | (name, child) :: rest => (name, child.save) :: saveChildren rest

end

end Configuration

def Composite.save (c : Composite Configuration) : Json := (Configuration.composite c).save

/-- The child of that name as far as it has been made. -/
def Composite.child? (c : Composite Configuration) (name : String) : Option Configuration :=
  Table.get? name c.children

/-- Puts back a child that was given out. -/
def Composite.withChild (c : Composite Configuration) (name : String) (child : Configuration) :
    Composite Configuration :=
  { c with children := Table.insert name child c.children }

end CompositeObjects
