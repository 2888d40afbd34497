import CompositeObjects.Script.ObjectClass
import CompositeObjects.Toml.Reader

namespace CompositeObjects

/-- How classes are written. -/
structure Settings where
  /-- In place of the namespace that is made from the name of the type. -/
  namespaceName : Option String := none
  forRuntime : Bool := true
  methodNames : Script.MethodNames := []
deriving DecidableEq, Repr, Inhabited

namespace Settings

/-- The key under which a date stands where a table is asked for. -/
def momentKey : String := "$__toml_private_datetime"

def methodName : String × Toml → Option (String × String)
  | (key, .text name) => some (key, name)
  | _ => none

def methodNamesOf : Toml → Option Script.MethodNames
  | .table _ entries => (entries.mapM methodName).map Table.ofList
  | .moment text => some [(momentKey, text)]
  | _ => none

def setNamespace (s : Settings) : Toml → Option Settings
  | .text name => some { s with namespaceName := some name }
  | _ => none

def setRuntime (s : Settings) : Toml → Option Settings
  | .flag forRuntime => some { s with forRuntime }
  | _ => none

def setMethodNames (s : Settings) (value : Toml) : Option Settings :=
  (methodNamesOf value).map fun methodNames => { s with methodNames }

/-- A field by its key; other keys are refused. -/
def setField (s : Settings) (entry : String × Toml) : Option Settings :=
  if entry.1 = "namespace" then s.setNamespace entry.2
  else if entry.1 = "runtime" then s.setRuntime entry.2
  else if entry.1 = "method-names" then s.setMethodNames entry.2
  else none

/-- The fields in order; of a longer list the rest does not count. -/
def setItems (s : Settings) : List Toml → Option Settings
  | [] => some s
  | [name] => s.setNamespace name
  | [name, runtime] => do (← s.setNamespace name).setRuntime runtime
  | name :: runtime :: names :: _ => do
    (← (← s.setNamespace name).setRuntime runtime).setMethodNames names

/-- The one section, as a table or as the list of its fields. -/
def setSection (s : Settings) (entry : String × Toml) : Option Settings :=
  if entry.1 = "codegen" then
    match entry.2 with
    | .table _ entries => entries.foldlM setField s
    | .array items => s.setItems items
    | _ => none
  else none

/-- The settings that a text holds, or nothing where it is no TOML or says anything else. -/
def ofText? (text : String) : Option Settings := do
  let entries ← TomlText.root? text
  entries.foldlM setSection {}

end Settings
end CompositeObjects
