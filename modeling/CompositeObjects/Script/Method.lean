import CompositeObjects.ObjectType
import CompositeObjects.Table

namespace CompositeObjects.Script

/-- The files that generated code depends on. -/
abbrev FileSet := Table Unit

def FileSet.addAll (files : FileSet) (names : List String) : FileSet :=
  names.foldl (fun files name => files.insert name ()) files

/-- What a compiler is asked for: the text of one method. -/
structure MethodRequest where
  type : ObjectType
  function : EventFunction
  /-- Where the state of each call is kept. -/
  contextPath : String
  /-- What the method is assigned to. -/
  methodPath : String
  /-- The expression of the one-shot triggers. -/
  triggers : String
  /-- Code that runs before the events. -/
  before : String
  /-- Code that runs after the events. -/
  after : String
  forRuntime : Bool
deriving Repr

/-- Writes methods; what it gathers on the way is carried from one to the next. -/
structure MethodCompiler (σ : Type) where
  compile : MethodRequest → σ → String × σ

/-- Code on lines of its own; none for no code. -/
def wholeLines (code : String) : String :=
  if code = "" then "" else if code.toList.getLast? = some '\n' then code else code ++ "\n"

/-- A method without its events: what runs before and after them only. -/
def shellCode (r : MethodRequest) : String :=
  "\n" ++ r.contextPath ++ " = \x7b\x7d;\n" ++
  r.methodPath ++ " = function(parentEventsFunctionContext) \x7b\n" ++
  "var that = this;\n" ++
  (if r.forRuntime then "" else "// Editor preview\n") ++
  wholeLines r.before ++ wholeLines r.after ++
  "return;\n\x7d\n"

/-- Writes methods without their events, each of which depends on the given files. -/
def MethodCompiler.shell (includes : List String) : MethodCompiler FileSet :=
  ⟨fun r files => (shellCode r, files.addAll includes)⟩

end CompositeObjects.Script
