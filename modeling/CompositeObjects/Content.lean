import CompositeObjects.Diagnostics
import CompositeObjects.Property

namespace CompositeObjects

/-- The stored property values of one configuration. Entries that are no scalars are not values;
they are kept and written back as they are. -/
structure Content where
  values : Table String
  kept : Table Json
deriving DecidableEq, Repr, Inhabited

namespace Content

def empty : Content := ⟨[], []⟩

/-- The text that a scalar counts as. -/
def scalarText? : Json → Option String
  | .string s => some s
  | .number n => some n.text
  | .bool b => some (if b then "true" else "false")
  | _ => none

/-- Scalars become values, all other entries are kept. -/
def ofEntries (entries : Table Json) : Content :=
  ⟨entries.filterMap fun e => (scalarText? e.2).map fun text => (e.1, text),
    entries.filter fun e => (scalarText? e.2).isNone⟩

def ofPairs (pairs : List (String × String)) : Content := ⟨Table.ofList pairs, []⟩

def decoder : Decoder Content := Decoder.table.map ofEntries

/-- The events of a content that was read: one for each kept entry. -/
def keptEvents (c : Content) : List Event := c.kept.keys.map .keptEntry

/-- The content that a text holds. It is told of as soon as it is read, even if more follows it. -/
def ofText (text : String) : Traced (Except Fault Content) :=
  let document := Document.ofText text
  match decoder (.text Place.levels) document.draft with
  | .error fault => pure (.error fault)
  | .ok content =>
    ⟨if document.isFollowed then .error .trailingCharacters else .ok content, content.keptEvents⟩

def ofJson (value : Json) : Traced (Except Fault Content) :=
  match decoder.fromJson value with
  | .error fault => pure (.error fault)
  | .ok content => ⟨.ok content, content.keptEvents⟩

def get? (c : Content) (name : String) : Option String := c.values.get? name

def contains (c : Content) (name : String) : Bool := c.values.contains name

def set (c : Content) (name value : String) : Content :=
  ⟨c.values.insert name value, c.kept.erase name⟩

def erase (c : Content) (name : String) : Content := ⟨c.values.erase name, c.kept.erase name⟩

def size (c : Content) : Nat := c.values.length

def toJson (c : Content) : Json := .object ((c.values.mapValues .string).overlay c.kept)

/-- The text of all values and then of all kept entries. -/
def written (c : Content) : String :=
  (Json.object (c.values.mapValues .string ++ c.kept)).compact

/-- Equality as values. -/
def same (c d : Content) : Bool := c.values == d.values && Json.sameEntries c.kept d.kept

theorem get?_set_self (c : Content) (name value : String) :
    (c.set name value).get? name = some value := Table.get?_insert_self ..

theorem get?_set_of_ne {name other : String} (h : other ≠ name) (c : Content) (value : String) :
    (c.set name value).get? other = c.get? other := Table.get?_insert_of_ne h ..

end Content

/-- The declared properties with their current values: the stored one, or else the default. Of two
declarations with the same name the later one is seen. -/
def Property.views (properties : List Property) (content : Content) : Table Property :=
  Table.ofList (properties.map fun p =>
    (p.name, { p with value := (content.get? p.name).getD p.value }))

/-- A declared property takes the new value; nothing is done for another name. -/
def Property.update? (properties : List Property) (content : Content) (name value : String) :
    Option Content :=
  if properties.any (·.name == name) then some (content.set name value) else none

end CompositeObjects
