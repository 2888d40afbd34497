import CompositeObjects.Configuration

namespace CompositeObjects

/-- A function that the author of a type wrote; its events are passed on unread. -/
structure EventFunction where
  name : String
  fullName : String
  events : Json
deriving DecidableEq, Repr, Inhabited

namespace EventFunction

def empty (name : String) : EventFunction := ⟨name, "", .array []⟩

def decoder : Decoder EventFunction :=
  .record "EventsFunction" [
    .of "name" true .text fun f name => { f with name },
    .of "fullName" false .text fun f fullName => { f with fullName },
    .of "events" false .json fun f events => { f with events }] ⟨"", "", .null⟩

/-- The fields as they are written, in this order. -/
def fields (f : EventFunction) : List (String × Json) :=
  [("name", .string f.name), ("fullName", .string f.fullName), ("events", f.events)]

def written (f : EventFunction) : String := (Json.object f.fields).compact

end EventFunction

/-- A child object that a type declares, with the configuration that a new child starts from. -/
structure Child where
  name : String
  default : Configuration
deriving Repr, Inhabited

/-- A type of composite objects. All lists are in the order of declaration. -/
structure ObjectType where
  name : String
  fullName : String
  properties : List Property
  children : List Child
  functions : List EventFunction
deriving Repr, Inhabited

namespace ObjectType

def empty (name : String) : ObjectType := ⟨name, "", [], [], []⟩

def property? (t : ObjectType) (name : String) : Option Property :=
  t.properties.find? (·.name == name)

def child? (t : ObjectType) (name : String) : Option Child := t.children.find? (·.name == name)

def function? (t : ObjectType) (name : String) : Option EventFunction :=
  t.functions.find? (·.name == name)

/-- Takes out the first child of that name. -/
def removeChild (t : ObjectType) (name : String) : Option (Child × ObjectType) :=
  (t.child? name).map fun child =>
    (child, { t with children := t.children.eraseP (·.name == name) })

/-- Changes the default of the first child of that name. -/
def updateDefault (t : ObjectType) (name : String) (default : Configuration) : ObjectType :=
  let rec go : List Child → List Child
    | [] => []
    | child :: rest =>
      if child.name = name then { child with default } :: rest else child :: go rest
  { t with children := go t.children }

end ObjectType
end CompositeObjects
