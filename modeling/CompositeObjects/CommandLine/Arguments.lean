namespace CompositeObjects.CommandLine

/-- What stands behind a switch. -/
inductive Operand where
  | none
  /-- A path, which is not empty. -/
  | path
  | text
  /-- A text; the switch may come several times. -/
  | texts
deriving DecidableEq, Repr

/-- A switch with its long name and its letter. -/
structure Switch where
  long : String
  short : Option Char
  operand : Operand
deriving DecidableEq, Repr

/-- The switches that are understood before the command and behind it. -/
def globalSwitches : List Switch :=
  [⟨"verbose", some 'v', .none⟩, ⟨"config", none, .path⟩, ⟨"color", none, .text⟩]

/-- The form of a command: its switches, and its operands, of which the first is a path. -/
structure CommandForm where
  name : String
  operands : List Operand
  switches : List Switch
deriving DecidableEq, Repr

def commandForms : List CommandForm := [
  ⟨"types", [.path], []⟩,
  ⟨"generate", [.path, .text],
    [⟨"namespace", none, .text⟩, ⟨"editor", none, .none⟩, ⟨"output", some 'o', .path⟩]⟩,
  ⟨"inspect", [.path, .text], [⟨"set", none, .texts⟩, ⟨"child", none, .texts⟩]⟩,
  ⟨"resources", [.path, .text], [⟨"rename", none, .texts⟩]⟩]

/-- Why arguments lead to no command. -/
inductive Stop where
  | misuse
  | help
  | version
deriving DecidableEq, Repr

/-- What was given so far: switches with their values in order, and operands. -/
structure Given where
  switches : List (String × String)
  operands : List String
deriving DecidableEq, Repr

namespace Given

def empty : Given := ⟨[], []⟩

def has (g : Given) (long : String) : Bool := g.switches.any (·.1 == long)

def value? (g : Given) (long : String) : Option String := g.switches.lookup long

def values (g : Given) (long : String) : List String :=
  (g.switches.filter (·.1 == long)).map (·.2)

/-- Adds a switch. Only a switch for several texts may come again, and a path is not empty. -/
def add (g : Given) (switch : Switch) (value : String) : Except Stop Given :=
  if switch.operand ≠ .texts ∧ g.has switch.long then .error .misuse
  else if switch.operand = .path ∧ value = "" then .error .misuse
  else .ok { g with switches := g.switches ++ [(switch.long, value)] }

end Given

/-- The place at which arguments are read. -/
structure Scope where
  switches : List Switch
  /-- Before the command the version can be asked for. -/
  beforeCommand : Bool
  operands : List Operand

def Scope.long? (scope : Scope) (name : String) : Option Switch :=
  scope.switches.find? (·.long == name)

def Scope.short? (scope : Scope) (letter : Char) : Option Switch :=
  scope.switches.find? (·.short == some letter)

/-- A single dash is no switch. -/
def looksLikeSwitch (arg : String) : Bool :=
  match arg.toList with
  | '-' :: _ :: _ => true
  | _ => false

/-- An argument of letters behind one dash. The last one may want the next argument as its value. -/
def readLetters (scope : Scope) : List Char → Given → Except Stop (Given × Option Switch)
  | [], g => .ok (g, none)
  | letter :: rest, g =>
    match scope.short? letter with
    | some switch =>
      if switch.operand = .none then do
        let g ← g.add switch ""
        readLetters scope rest g
      else match rest with
        | [] => .ok (g, some switch)
        | '=' :: value => do .ok (← g.add switch (String.ofList value), none)
        | value => do .ok (← g.add switch (String.ofList value), none)
    | none =>
      if letter = 'h' then .error .help
      else if letter = 'V' ∧ scope.beforeCommand then .error .version
      else .error .misuse

/-- A long switch, which may bring its value behind an equals sign, or want the next argument. -/
def readLong (scope : Scope) (body : List Char) (g : Given) :
    Except Stop (Given × Option Switch) :=
  let name := String.ofList (body.takeWhile (· ≠ '='))
  let attached := match body.dropWhile (· ≠ '=') with
    | [] => none
    | _ :: value => some (String.ofList value)
  match scope.long? name, attached with
  | some switch, none =>
    if switch.operand = .none then do .ok (← g.add switch "", none) else .ok (g, some switch)
  | some switch, some value =>
    if switch.operand = .none then .error .misuse else do .ok (← g.add switch value, none)
  | none, none =>
    if name = "help" then .error .help
    else if name = "version" ∧ scope.beforeCommand then .error .version
    else .error .misuse
  | none, some _ => .error .misuse

/-- An argument that is a switch or a group of letters. -/
def readSwitch (scope : Scope) (arg : String) (g : Given) : Except Stop (Given × Option Switch) :=
  match arg.toList with
  | '-' :: '-' :: body => readLong scope body g
  | _ :: letters => readLetters scope letters g
  | [] => .error .misuse

/-- Adds an operand where one more is expected. A path is not empty. -/
def Given.addOperand (g : Given) (scope : Scope) (text : String) : Except Stop Given :=
  match scope.operands[g.operands.length]? with
  | none => .error .misuse
  | some operand =>
    if operand = .path ∧ text = "" then .error .misuse
    else .ok { g with operands := g.operands ++ [text] }

/-- Reads the arguments in order, up to the first operand before the command. Behind `--` all
arguments are operands. The first fault ends it, also before a request for help. -/
def readArguments (scope : Scope) : List String → Given → Except Stop (Given × List String)
  | [], g => .ok (g, [])
  | arg :: rest, g =>
    if arg = "--" then
      if scope.beforeCommand then .error .misuse
      else do .ok (← rest.foldlM (·.addOperand scope) g, [])
    else if looksLikeSwitch arg then
      match readSwitch scope arg g with
      | .error stop => .error stop
      | .ok (g, none) => readArguments scope rest g
      | .ok (g, some switch) =>
        match rest with
        | [] => .error .misuse
        | value :: rest =>
          if looksLikeSwitch value then .error .misuse
          else match g.add switch value with
            | .error stop => .error stop
            | .ok g => readArguments scope rest g
    else if scope.beforeCommand then .ok (g, arg :: rest)
    else
      match g.addOperand scope arg with
      | .error stop => .error stop
      | .ok g => readArguments scope rest g

inductive Command where
  | types (project : String)
  | generate (project typeName : String) (namespaceName : Option String) (editor : Bool)
      (output : Option String)
  | inspect (project typeName : String) (updates children : List String)
  | resources (project typeName : String) (renames : List String)
deriving DecidableEq, Repr

def Command.project : Command → String
  | .types project | .generate project .. | .inspect project .. | .resources project .. => project

structure Invocation where
  verbose : Bool
  config : Option String
  color : Option String
  command : Command
deriving DecidableEq, Repr

def commandOf (name : String) (g : Given) : Option Command :=
  match name, g.operands with
  | "types", [project] => some (.types project)
  | "generate", [project, typeName] =>
    some (.generate project typeName (g.value? "namespace") (g.has "editor") (g.value? "output"))
  | "inspect", [project, typeName] =>
    some (.inspect project typeName (g.values "set") (g.values "child"))
  | "resources", [project, typeName] => some (.resources project typeName (g.values "rename"))
  | _, _ => none

/-- Help is there for the program and for each command, the one for help among them. -/
def helpOn : List String → Stop
  | [] => .help
  | [name] => if name = "help" ∨ commandForms.any (·.name == name) then .help else .misuse
  | _ => .misuse

/-- What is asked for. A switch behind the command counts before one in front of it. -/
def Invocation.ofArguments (args : List String) : Except Stop Invocation := do
  let (outer, rest) ← readArguments ⟨globalSwitches, true, []⟩ args .empty
  match rest with
  | [] => .error .misuse
  | name :: rest =>
    if name = "help" then .error (helpOn rest)
    else match commandForms.find? (·.name == name) with
      | none => .error .misuse
      | some form => do
        let scope : Scope := ⟨form.switches ++ globalSwitches, false, form.operands⟩
        let (inner, _) ← readArguments scope rest .empty
        match commandOf name inner with
        | none => .error .misuse
        | some command => .ok {
            verbose := inner.has "verbose" || outer.has "verbose"
            config := (inner.value? "config").orElse fun _ => outer.value? "config"
            color := (inner.value? "color").orElse fun _ => outer.value? "color"
            command }

end CompositeObjects.CommandLine
