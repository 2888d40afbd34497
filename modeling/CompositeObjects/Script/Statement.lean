import CompositeObjects.Script.Literal

namespace CompositeObjects.Script

/-- A record of property values that generated code reads or writes. -/
inductive Record where
  /-- Of the running object. -/
  | live
  /-- With which an object is constructed. -/
  | given
  /-- Before and after a change of the data while the object runs. -/
  | old
  | new
deriving DecidableEq, Repr

def Record.code : Record → String
  | .live => "this._objectData.content"
  | .given => "objectData.content"
  | .old => "oldObjectData.content"
  | .new => "newObjectData.content"

def fieldCode (record : Record) (name : String) : String := record.code ++ "." ++ name

inductive Expression where
  | field (record : Record) (name : String)
  | literal (value : Literal)
  /-- The field where it is defined, and the literal where it is not. -/
  | fieldOr (record : Record) (name : String) (default : Literal)
  /-- The argument of a setter. -/
  | argument
deriving DecidableEq, Repr

def Expression.code : Expression → String
  | .field record name => fieldCode record name
  | .literal value => value.code
  | .fieldOr record name default =>
    fieldCode record name ++ " !== undefined ? " ++ fieldCode record name ++ " : " ++ default.code
  | .argument => "newValue"

inductive Statement where
  /-- Sets a field of the running object. -/
  | assign (name : String) (value : Expression)
  /-- Sets a field of the running object to the new value where the old one differs from it. -/
  | assignChanged (name : String)
  /-- Passes a change of the data on to the base class. -/
  | updateBase
deriving DecidableEq, Repr

def Statement.code : Statement → String
  | .assign name value => fieldCode .live name ++ " = " ++ value.code ++ ";"
  | .assignChanged name =>
    "if (" ++ fieldCode .old name ++ " !== " ++ fieldCode .new name ++ ")\n      " ++
      fieldCode .live name ++ " = " ++ fieldCode .new name ++ ";"
  | .updateBase => "super.updateFromObjectData(oldObjectData, newObjectData);"

/-- A hidden property starts with its default, any other with the given value. -/
def initialization (p : Property) : Statement :=
  if p.hidden then .assign p.name (.literal (.ofProperty p))
  else .assign p.name (.fieldOr .given p.name (.ofProperty p))

def initializations (properties : List Property) : List Statement := properties.map initialization

/-- The base class is updated first, then each property by itself. -/
def updates (properties : List Property) : List Statement :=
  .updateBase :: properties.map fun p => .assignChanged p.name

/-- What the getter of a property returns. -/
def getter (p : Property) : Expression := .fieldOr .live p.name (.ofProperty p)

/-- What the setter of a property does. -/
def setter (p : Property) : Statement := .assign p.name .argument

def lineBreak : String := "\n    "

def initializationCode (properties : List Property) : String :=
  String.join ((initializations properties).map fun s => lineBreak ++ s.code)

def updateCode (properties : List Property) : String :=
  lineBreak.intercalate ((updates properties).map Statement.code)

def accessorCode (p : Property) : String :=
  "\n  " ++ Property.getterName p.name ++ "() \x7b\n    return " ++ (getter p).code ++
  ";\n  \x7d" ++
  "\n  " ++ Property.setterName p.name ++ "(newValue) \x7b\n    " ++ (setter p).code ++ "\n  \x7d"

def accessorsCode (properties : List Property) : String := String.join (properties.map accessorCode)

end CompositeObjects.Script
