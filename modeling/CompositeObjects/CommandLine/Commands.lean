import CompositeObjects.CommandLine.Arguments
import CompositeObjects.CommandLine.Filter
import CompositeObjects.CommandLine.Pair
import CompositeObjects.CommandLine.Run
import CompositeObjects.Resource.Census
import CompositeObjects.Resource.Renaming
import CompositeObjects.Settings
import CompositeObjects.Text.Terminal

namespace CompositeObjects.CommandLine

def loadCatalog (files : Files) (path : String) : Run Catalog := do
  let context := "Failed to load project " ++ path
  match ← Run.read files path with
  | .error error => Run.fail context ["Failed to read project: " ++ error.message, error.message]
  | .ok text =>
    match ← Run.ofTraced (Catalog.ofText text) with
    | .error error => Run.fail context (Report.ofProjectError error)
    | .ok catalog => pure catalog

def findEntry (catalog : Catalog) (typeName : String) : Run Entry :=
  match catalog.entry? typeName with
  | some entry => pure entry
  | none => Run.fail ("Unknown composite type `" ++ typeName ++ "` (known: " ++
      ", ".intercalate catalog.names ++ ")") []

def readPairs (texts : List String) : Run (List (String × String)) :=
  match splitPairs texts with
  | .ok pairs => pure pairs
  | .error text => Run.fail (pairMessage text) []

def loadSettings (files : Files) (config : Option String) : Run Settings :=
  match config with
  | none => pure {}
  | some path => do
    match ← Run.read files path with
    | .error error => Run.fail ("Failed to read settings " ++ path) [error.message]
    | .ok text =>
      match Settings.ofText? text with
      | some settings => pure settings
      | none => Run.fail ("Invalid settings " ++ path) []

/-- The line of a type: its name, its display name if it has one, and how much it declares. -/
def entryLine (entry : Entry) : List Span :=
  let type := entry.type
  let counts := "(" ++ toString type.properties.length ++ " properties, " ++
    toString type.children.length ++ " children, " ++
    toString type.functions.length ++ " functions)"
  [(.name, entry.name)] ++
    (if type.fullName = "" then [] else [(.plain, "  "), (.detail, type.fullName)]) ++
    [(.plain, "  "), (.summary, counts)]

def printLines (coloured : Bool) (lines : List (List Span)) : Run Unit :=
  lines.forM (Run.printLine coloured)

/-- Lists the types of a project. -/
def types (files : Files) (coloured : Bool) (project : String) : Run Unit := do
  let catalog ← loadCatalog files project
  if catalog.entries.isEmpty then Run.printLine coloured [(.notice, "No composite types")]
  else printLines coloured (catalog.entries.map entryLine)

/-- Prints the class of a type, or writes it to a file. -/
def generate (files : Files) (coloured : Bool) (settings : Settings) (project typeName : String)
    (namespaceName : Option String) (editor : Bool) (output : Option String) : Run Unit := do
  let catalog ← loadCatalog files project
  let entry ← findEntry catalog typeName
  let request : Script.ClassRequest := {
    extension := entry.extension
    type := entry.type
    namespaceName := (namespaceName.orElse fun _ => settings.namespaceName).getD
      (Script.defaultNamespace entry.extension entry.type.name)
    methodNames := (Script.identityNames entry.type).overlay settings.methodNames
    forRuntime := settings.forRuntime && !editor }
  let (code, included) ← Run.ofTraced (Script.generate (.shell []) request [])
  Run.ofTraced ⟨(), included.keys.map .includedFile⟩
  match output with
  | none => Run.print code
  | some path =>
    match ← Run.write files path code with
    | .error error => Run.fail ("Failed to write " ++ path) [error.message]
    | .ok () =>
      Run.printLine coloured [(.done, "Generated"), (.plain, " " ++ typeName ++ " → " ++ path)]

/-- Sets properties in order; the first that is not declared ends it. -/
def setAll (catalog : Catalog) (typeName : String) :
    List (String × String) → Composite Configuration → Run (Composite Configuration)
  | [], object => pure object
  | (name, value) :: rest, object =>
    match object.update? catalog name value with
    | some object => setAll catalog typeName rest object
    | none => Run.fail ("`" ++ typeName ++ "` has no property `" ++ name ++ "`") []

/-- Makes children in order; the first that is not declared ends it. -/
def makeAll (catalog : Catalog) :
    List String → Composite Configuration → Run (Composite Configuration)
  | [], object => pure object
  | name :: rest, object => do
    match ← Run.ofTraced (object.lookup catalog name) with
    | .ok (_, object) => makeAll catalog rest object
    | .error error => Run.fail error.message []

/-- Prints the tree of a new object after updates and with the children that are asked for. -/
def inspect (files : Files) (project typeName : String) (updates children : List String) :
    Run Unit := do
  let catalog ← loadCatalog files project
  let _ ← findEntry catalog typeName
  let updates ← readPairs updates
  let object ← setAll catalog typeName updates (.fresh typeName)
  let object ← makeAll catalog children object
  Run.print (object.save.indented ++ "\n")

def walkObject {σ : Type} (catalog : Catalog) (walker : Walker σ) (object : Configuration) (s : σ) :
    Run (Configuration × σ) :=
  match object.walk catalog walker s with
  | some walked => Run.ofTraced walked
  | none => Run.fail ("Composite type `" ++ object.typeName ++ "` contains itself") []

/-- The kinds in use with a heading each, and the names below it. -/
def censusLines (census : Census) : List (List Span) :=
  (census.kinds.filter fun k => !k.2.isEmpty).flatMap fun k =>
    [(.name, k.1.name ++ ":")] :: k.2.map fun name => [(.plain, "  "), (.detail, name)]

/-- Lists the resources of a new object, after renames if there are any. -/
def resources (files : Files) (coloured : Bool) (project typeName : String)
    (renames : List String) : Run Unit := do
  let catalog ← loadCatalog files project
  let _ ← findEntry catalog typeName
  let renames ← readPairs renames
  let fresh : Configuration := .composite (.fresh typeName)
  let object ← if renames.isEmpty then pure fresh else do
    let (object, renamed) ← walkObject catalog Renaming.walker fresh (.ofPairs renames)
    Run.printLine coloured
      [(.done, "Renamed"), (.plain, " " ++ toString renamed.rewritten ++ " references")]
    pure object
  let (_, census) ← walkObject catalog Census.walker object .empty
  printLines coloured (censusLines census)

/-- What the program finds around it. -/
structure Surroundings where
  files : Files
  /-- Whether colours are switched off for all programs. -/
  noColor : Bool
  /-- The kind of the terminal. -/
  terminal : Option String
  /-- Which diagnostics are wanted. -/
  wanted : Option String

/-- Whether listings are coloured: never where colours are switched off, else as asked for, and
without a request where the terminal can show them. -/
def isColoured (s : Surroundings) (color : Option String) : Bool :=
  if s.noColor then false
  else if color = some "always" then true
  else if color = some "never" then false
  else s.terminal.isSome && s.terminal != some "dumb"

def filterFor (s : Surroundings) (verbose : Bool) : Filter :=
  if verbose then .atLeast .debug
  else (s.wanted.bind Filter.ofText?).getD (.atLeast .warn)

def perform (s : Surroundings) (i : Invocation) : Run Unit := do
  let coloured := isColoured s i.color
  let settings ← loadSettings s.files i.config
  match i.command with
  | .types project => types s.files coloured project
  | .generate project typeName namespaceName editor output =>
    generate s.files coloured settings project typeName namespaceName editor output
  | .inspect project typeName updates children => inspect s.files project typeName updates children
  | .resources project typeName renames => resources s.files coloured project typeName renames

/-- A line for the reader of diagnostics. -/
structure Diagnostic where
  level : Level
  text : String
deriving DecidableEq, Repr

/-- The message of an event, in which nothing is an order to the terminal. -/
def Diagnostic.ofEvent (event : Event) : Diagnostic := ⟨event.level, Text.disarmed event.message⟩

/-- All that can be seen of the program when it has ended. -/
structure Outcome where
  code : Nat
  printed : String
  diagnostics : List Diagnostic
  errorLines : List String
  written : List (String × String)

def versionText : String := "mosaic 0.2.0\n"

def helpText : String :=
  "Composite object tooling\n\n" ++
  "Usage: mosaic [--verbose] [--config FILE] [--color WHEN] COMMAND\n\n" ++
  "Commands:\n" ++
  "  types PROJECT\n" ++
  "  generate PROJECT TYPE [--namespace NAME] [--editor] [-o FILE]\n" ++
  "  inspect PROJECT TYPE [--set NAME=VALUE]... [--child NAME]...\n" ++
  "  resources PROJECT TYPE [--rename OLD=NEW]...\n"

def run (s : Surroundings) (args : List String) : Outcome :=
  match Invocation.ofArguments args with
  | .error .misuse => ⟨2, "", [], Report.linesOf helpText, []⟩
  | .error .help => ⟨0, helpText, [], [], []⟩
  | .error .version => ⟨0, versionText, [], [], []⟩
  | .ok invocation =>
    let course := perform s invocation
    let diagnostics :=
      (course.events.filter (filterFor s invocation.verbose).passes).map .ofEvent
    match course.result with
    | .ok () => ⟨0, course.printed, diagnostics, [], course.written⟩
    | .error report => ⟨1, course.printed, diagnostics, report.lines, course.written⟩

end CompositeObjects.CommandLine
