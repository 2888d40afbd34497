import CompositeObjects.Catalog
import CompositeObjects.Script.Layout
import CompositeObjects.Script.Method
import CompositeObjects.Script.Statement

namespace CompositeObjects.Script

/-- The function that runs when an object has been created. -/
def creationHook : String := "onCreated"

/-- The function that runs on each frame before the events of the scene. -/
def frameHook : String := "doStepPreEvents"

/-- Stands for the identifier of a function that has none. -/
def unknownMethod : String := "UNKNOWN_FUNCTION_fix_objectMethodMangledNames_please"

def triggersCode : String := "that._onceTriggers"

def creationAfter : String := "gdjs.CustomRuntimeObject.prototype.onCreated.call(this);\n"

def frameBefore : String := "this._onceTriggers.startNewFrame();"

/-- The identifiers of the methods of a type under the names of its functions. -/
abbrev MethodNames := Table String

/-- Every function has its own name as identifier. -/
def identityNames (type : ObjectType) : MethodNames :=
  Table.ofList (type.functions.map fun f => (f.name, f.name))

/-- The class to be written. -/
structure ClassRequest where
  extension : String
  type : ObjectType
  namespaceName : String
  methodNames : MethodNames
  forRuntime : Bool
deriving Repr

namespace ClassRequest

def classPath (r : ClassRequest) : String := r.namespaceName ++ "." ++ r.type.name

def methodName (r : ClassRequest) (f : EventFunction) : String :=
  (r.methodNames.get? f.name).getD unknownMethod

/-- The frame hook starts a new frame of the triggers before its events, the creation hook calls
that of the base class after them. -/
def methodRequest (r : ClassRequest) (f : EventFunction) : MethodRequest where
  type := r.type
  function := f
  contextPath := r.classPath ++ ".prototype." ++ r.methodName f ++ "Context"
  methodPath := r.classPath ++ ".prototype." ++ r.methodName f
  triggers := triggersCode
  before := if f.name = frameHook then frameBefore else ""
  after := if f.name = creationHook then creationAfter else ""
  forRuntime := r.forRuntime

/-- One request for each function, in the order of declaration. -/
def methodRequests (r : ClassRequest) : List MethodRequest :=
  r.type.functions.map r.methodRequest

/-- The frame hook of a type that declares none. -/
def frameHookCode (r : ClassRequest) : String :=
  if (r.type.function? frameHook).isSome then ""
  else "\n" ++ r.classPath ++ ".prototype." ++ frameHook ++ " = function() \x7b\n  " ++
    frameBefore ++ "\n\x7d;\n"

end ClassRequest

/-- The texts of the methods one after another. -/
def compileAll {σ : Type} (compiler : MethodCompiler σ) : List MethodRequest → σ → String × σ
  | [], s => ("", s)
  | r :: rest, s =>
    let (code, s) := compiler.compile r s
    let (codes, s) := compileAll compiler rest s
    (code ++ codes, s)

/-- A warning for each function without an identifier, and the class at the end. -/
def ClassRequest.events (r : ClassRequest) : List Event :=
  ((r.type.functions.filter fun f => !r.methodNames.contains f.name).map fun f =>
    .unnamedMethod f.name r.type.name) ++
  [.generatedClass r.type.name r.type.functions.length]

def ClassRequest.fragments (r : ClassRequest) (methods : String) : Fragments where
  namespaceName := r.namespaceName
  className := r.type.name
  fullName := r.type.fullName
  extensionName := r.extension
  initialization := initializationCode r.type.properties
  update := updateCode r.type.properties
  accessors := accessorsCode r.type.properties
  methods := methods ++ r.frameHookCode

/-- The text of the class with all its methods. -/
def generate {σ : Type} (compiler : MethodCompiler σ) (r : ClassRequest) (s : σ) :
    Traced (String × σ) :=
  let (methods, s) := compileAll compiler r.methodRequests s
  ⟨(render classLayout (r.fragments methods), s), r.events⟩

/-- The namespace in which the class of a type is written where no other is asked for. -/
def defaultNamespace (extension object : String) : String :=
  "gdjs.evtsExt__" ++ extension ++ "__" ++ object

end CompositeObjects.Script
