namespace CompositeObjects.Script

/-- A named place in the text of a class. -/
inductive Slot where
  | namespaceName
  | className
  | fullName
  | extensionName
  | initialization
  | update
  | accessors
  | methods
deriving DecidableEq, Repr

inductive Piece where
  | text (value : String)
  | slot (place : Slot)
deriving DecidableEq, Repr

/-- What goes to each place. -/
structure Fragments where
  namespaceName : String
  className : String
  fullName : String
  extensionName : String
  initialization : String
  update : String
  accessors : String
  methods : String
deriving DecidableEq, Repr, Inhabited

def Fragments.at (f : Fragments) : Slot → String
  | .namespaceName => f.namespaceName
  | .className => f.className
  | .fullName => f.fullName
  | .extensionName => f.extensionName
  | .initialization => f.initialization
  | .update => f.update
  | .accessors => f.accessors
  | .methods => f.methods

def Piece.code (f : Fragments) : Piece → String
  | .text value => value
  | .slot place => f.at place

/-- The pieces in order, each fragment in place; what a fragment says is not looked at. -/
def render (pieces : List Piece) (f : Fragments) : String := String.join (pieces.map (Piece.code f))

/-- The text of the class of a composite object. -/
def classLayout : List Piece := [
  .text "\n", .slot .namespaceName, .text " = ", .slot .namespaceName,
  .text " || \x7b\x7d;\n\n/**\n * Object generated from ", .slot .fullName, .text "\n */\n",
  .slot .namespaceName, .text ".", .slot .className, .text " = class ", .slot .className,
  .text " extends gdjs.CustomRuntimeObject \x7b\n",
  .text "  constructor(runtimeScene, objectData) \x7b\n",
  .text "    super(runtimeScene, objectData);\n",
  .text "    this._runtimeScene = runtimeScene;\n\n",
  .text "    this._onceTriggers = new gdjs.OnceTriggers();\n",
  .text "    this._behaviorData = \x7b\x7d;\n",
  .text "    ", .slot .initialization, .text "\n  \x7d\n\n",
  .text "  // Hot-reload:\n",
  .text "  updateFromObjectData(oldObjectData, newObjectData) \x7b\n",
  .text "    ", .slot .update,
  .text "\n\n    this.onHotReloading(this.getInstanceContainer());\n",
  .text "    return true;\n", .text "  \x7d\n\n",
  .text "  // Properties:\n  ", .slot .accessors, .text "\n\x7d\n\n// Methods:\n", .slot .methods,
  .text "\n\ngdjs.registerObject(\"", .slot .extensionName, .text "::", .slot .className,
  .text "\", ", .slot .namespaceName, .text ".", .slot .className, .text ");\n"]

end CompositeObjects.Script
