import CompositeObjects.ObjectType

namespace CompositeObjects

/-- The name under which a type is known. -/
def qualifiedName (extension object : String) : String := extension ++ "::" ++ object

/-- A type and the extension that declares it. -/
structure Entry where
  extension : String
  type : ObjectType
deriving Repr, Inhabited

def Entry.name (e : Entry) : String := qualifiedName e.extension e.type.name

/-- The types of a project in the order of declaration, with the position of each under its name. -/
structure Catalog where
  entries : List Entry
  index : Table Nat
deriving Repr

namespace Catalog

def empty : Catalog := ⟨[], []⟩

instance : Inhabited Catalog := ⟨empty⟩

def names (c : Catalog) : List String := c.entries.map Entry.name

def entry? (c : Catalog) (name : String) : Option Entry := do
  let position ← c.index.get? name
  c.entries[position]?

def type? (c : Catalog) (name : String) : Option ObjectType := (c.entry? name).map (·.type)

def extension? (c : Catalog) (name : String) : Option String := (c.entry? name).map (·.extension)

/-- Adds a type at the end; a name that is known already is refused. -/
def insert (c : Catalog) (extension : String) (type : ObjectType) : Except String Catalog :=
  let entry : Entry := ⟨extension, type⟩
  if c.index.contains entry.name then .error entry.name
  else .ok ⟨c.entries ++ [entry], c.index.insert entry.name c.entries.length⟩

/-- The position of each entry under its name; of two entries with the same name the later one. -/
def indexOf (entries : List Entry) : Table Nat :=
  Table.ofList (entries.mapIdx fun position entry => (entry.name, position))

/-- Takes out a type. The index is made anew for the entries that stay. -/
def remove (c : Catalog) (name : String) : Option (ObjectType × Catalog) := do
  let position ← c.index.get? name
  let removed ← c.entries[position]?
  let entries := c.entries.eraseIdx position
  some (removed.type, ⟨entries, indexOf entries⟩)

/-- Changes the type that is known under the name. The index does not follow a new name of it. -/
def modify (c : Catalog) (name : String) (f : ObjectType → ObjectType) : Catalog :=
  match c.index.get? name with
  | none => c
  | some position =>
    { c with entries := c.entries.modify position fun entry => { entry with type := f entry.type } }

end Catalog
end CompositeObjects
