import CompositeObjects.Json.Fault

namespace CompositeObjects

/-- Why a child of a configuration cannot be given out. -/
inductive LookupError where
  | unresolvedType (typeName : String)
  | undeclaredChild (typeName child : String)
deriving DecidableEq, Repr

def LookupError.message : LookupError → String
  | .unresolvedType typeName => "Unknown composite type: " ++ typeName
  | .undeclaredChild typeName child =>
    "Tried to get the configuration of a child-object: " ++ child ++
      " that doesn't exist in the composite type: " ++ typeName

/-- The message of a tree that cannot be loaded. -/
def Fault.malformedTree (fault : Fault) : String :=
  "Malformed configuration tree: " ++ fault.message

inductive Level where
  | trace
  | debug
  | info
  | warn
  | error
deriving DecidableEq, Repr

namespace Level

def rank : Level → Nat
  | .trace => 0
  | .debug => 1
  | .info => 2
  | .warn => 3
  | .error => 4

def name : Level → String
  | .trace => "TRACE"
  | .debug => "DEBUG"
  | .info => "INFO"
  | .warn => "WARN"
  | .error => "ERROR"

end Level

/-- Something worth telling that happened on the way. -/
inductive Event where
  | keptEntry (name : String)
  | parkedChildren (count : Nat) (typeName : String)
  | ignoredChild (error : LookupError)
  | droppedTree (child : String) (fault : Fault)
  | unknownKind (property : String)
  | failedLookup (error : LookupError)
  | loadedProject (count : Nat)
  | unnamedMethod (function typeName : String)
  | generatedClass (typeName : String) (methods : Nat)
  | includedFile (file : String)
deriving DecidableEq, Repr

namespace Event

/-- A failed request and a method without a name are warnings; all else is for a close look. -/
def level : Event → Level
  | .failedLookup _ | .unnamedMethod .. => .warn
  | _ => .debug

def message : Event → String
  | .keptEntry name => "Keeping non-scalar content entry " ++ name ++ " verbatim"
  | .parkedChildren count typeName =>
    "Keeping " ++ toString count ++ " child trees of unresolved type " ++ typeName
  | .ignoredChild error => "Ignoring serialized child: " ++ error.message
  | .droppedTree child fault =>
    "Dropping stale tree of child " ++ child ++ ": " ++ fault.malformedTree
  | .unknownKind property => "Resource property " ++ property ++ " has no known resource kind"
  | .failedLookup error => error.message
  | .loadedProject count => "Loaded project with " ++ toString count ++ " composite types"
  | .unnamedMethod function typeName =>
    "No method name for function " ++ function ++ " of " ++ typeName
  | .generatedClass typeName methods =>
    "Generated runtime object " ++ typeName ++ " with " ++ toString methods ++ " methods"
  | .includedFile file => "Include file: " ++ file

end Event

/-- A result with the events that led to it, in order. -/
structure Traced (α : Type) where
  value : α
  events : List Event
deriving Repr

namespace Traced

variable {α β : Type}

def tell (event : Event) : Traced Unit := ⟨(), [event]⟩

instance : Monad Traced where
  pure x := ⟨x, []⟩
  bind x f := ⟨(f x.value).value, x.events ++ (f x.value).events⟩

instance : LawfulMonad Traced := LawfulMonad.mk' Traced
  (fun x => by simp [Functor.map])
  (fun x f => by simp [bind, pure])
  (fun x f g => by simp [bind])

@[simp] theorem value_pure (x : α) : (pure x : Traced α).value = x := rfl

@[simp] theorem events_pure (x : α) : (pure x : Traced α).events = [] := rfl

@[simp] theorem value_bind (x : Traced α) (f : α → Traced β) :
    (x >>= f).value = (f x.value).value := rfl

@[simp] theorem events_bind (x : Traced α) (f : α → Traced β) :
    (x >>= f).events = x.events ++ (f x.value).events := rfl

end Traced
end CompositeObjects
