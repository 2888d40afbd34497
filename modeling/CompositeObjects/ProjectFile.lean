import CompositeObjects.Configuration.Load

namespace CompositeObjects

/-- A child as a project file declares it; everything but name and type is its tree. -/
structure ChildEntry where
  name : String
  typeName : String
  tree : Table Json
deriving DecidableEq, Repr, Inhabited

/-- A type as a project file declares it. -/
structure TypeEntry where
  name : String
  fullName : String
  properties : List Property
  children : List ChildEntry
  functions : List EventFunction
deriving DecidableEq, Repr, Inhabited

structure ExtensionEntry where
  name : String
  types : List TypeEntry
deriving DecidableEq, Repr, Inhabited

structure ProjectFile where
  extensions : List ExtensionEntry
deriving DecidableEq, Repr, Inhabited

/-- Why a project cannot be loaded. -/
inductive ProjectError where
  | unreadable (fault : Fault)
  | duplicateType (name : String)
  | invalidChild (typeName child : String) (fault : Fault)
deriving DecidableEq, Repr

def ProjectError.message : ProjectError → String
  | .unreadable fault => "Failed to parse project: " ++ fault.message
  | .duplicateType name => "Duplicate composite type: " ++ name
  | .invalidChild typeName child fault =>
    "Invalid default configuration for child `" ++ child ++ "` of " ++ typeName ++ ": " ++
      fault.malformedTree

namespace ChildEntry

def recordName : String := "ChildFile"

/-- The parts of a child while its entries are read. -/
structure Parts where
  name : Option String := none
  typeName : Option String := none
  tree : List (String × Json) := []

/-- The entries in order; nothing is passed over. -/
def readEntries (place : Place) :
    Parts → List (Except Fault String × Draft) → Except Fault Parts
  | parts, [] => .ok parts
  | parts, (key, draft) :: rest => do
    let key ← key
    if key = "name" then
      if parts.name.isSome then .error (.duplicateField key)
      else readEntries place { parts with name := some (← Decoder.text place draft) } rest
    else if key = "type" then
      if parts.typeName.isSome then .error (.duplicateField key)
      else readEntries place { parts with typeName := some (← Decoder.text place draft) } rest
    else
      let value ← Decoder.json place draft
      readEntries place { parts with tree := parts.tree ++ [(key, value)] } rest

/-- A child is written as an object only. -/
def decoder : Decoder ChildEntry
  | place, .object entries ending => do
    let place ← place.enter
    let parts ← readEntries place {} entries
    let parts ← Decoder.close parts ending.objectFault
    match parts.name, parts.typeName with
    | none, _ => .error (.missingField "name")
    | _, none => .error (.missingField "type")
    | some name, some typeName => .ok ⟨name, typeName, Table.ofList parts.tree⟩
  | _, draft => .error (draft.mismatch (.record recordName))

end ChildEntry

def TypeEntry.decoder : Decoder TypeEntry :=
  .record "TypeFile" [
    .of "name" true .text fun t name => { t with name },
    .of "fullName" false .text fun t fullName => { t with fullName },
    .of "properties" false (.list Property.decoder) fun t properties => { t with properties },
    .of "objects" false (.list ChildEntry.decoder) fun t children => { t with children },
    .of "eventsFunctions" false (.list EventFunction.decoder) fun t functions =>
      { t with functions }] ⟨"", "", [], [], []⟩

def ExtensionEntry.decoder : Decoder ExtensionEntry :=
  .record "ExtensionFile" [
    .of "name" true .text fun e name => { e with name },
    .of "eventsBasedObjects" false (.list TypeEntry.decoder) fun e types => { e with types }]
    ⟨"", []⟩

namespace ProjectFile

def decoder : Decoder ProjectFile :=
  .record "ProjectFile" [
    .of "extensions" false (.list ExtensionEntry.decoder) fun _ extensions => ⟨extensions⟩] ⟨[]⟩

/-- All types with their extensions, in the order of the file. -/
def types (file : ProjectFile) : List (String × TypeEntry) :=
  file.extensions.flatMap fun e => e.types.map fun t => (e.name, t)

def typeNames (file : ProjectFile) : List String :=
  file.types.map fun t => qualifiedName t.1 t.2.name

/-- A child of a type of the same file is composite, and empty at first; any other child holds its
tree as it is. -/
def declareChild (names : List String) (child : ChildEntry) : Child :=
  ⟨child.name,
    if names.contains child.typeName then .composite (.fresh child.typeName)
    else .verbatim child.typeName (.object child.tree)⟩

def declareType (names : List String) (t : TypeEntry) : ObjectType :=
  ⟨t.name, t.fullName, t.properties, t.children.map (declareChild names), t.functions⟩

/-- The catalog of all types, in which composite children are still empty. -/
def declare (file : ProjectFile) : Except String Catalog :=
  file.types.foldlM (fun catalog t =>
    catalog.insert t.1 (declareType file.typeNames t.2)) Catalog.empty

/-- A composite child whose tree is loaded when all types are declared. -/
structure PendingChild where
  owner : String
  child : String
  tree : Json
deriving DecidableEq, Repr

def pending (file : ProjectFile) : List PendingChild :=
  file.types.flatMap fun t =>
    (t.2.children.filter fun child => file.typeNames.contains child.typeName).map fun child =>
      ⟨qualifiedName t.1 t.2.name, child.name, .object child.tree⟩

/-- Loads each tree into the first child of its name, against the types as they were declared. -/
def fill (declared : Catalog) :
    List PendingChild → Catalog → Traced (Except ProjectError Catalog)
  | [], catalog => pure (.ok catalog)
  | next :: rest, catalog =>
    match (catalog.type? next.owner).bind (·.child? next.child) with
    | none => fill declared rest catalog
    | some child => do
      match ← child.default.load declared next.tree with
      | .error fault => pure (.error (.invalidChild next.owner next.child fault))
      | .ok loaded =>
        fill declared rest (catalog.modify next.owner (·.updateDefault next.child loaded))

/-- The catalog of the types of a file. -/
def catalog (file : ProjectFile) : Traced (Except ProjectError Catalog) :=
  match file.declare with
  | .error name => pure (.error (.duplicateType name))
  | .ok declared => do
    match ← fill declared file.pending declared with
    | .error error => pure (.error error)
    | .ok catalog => do
      Traced.tell (.loadedProject catalog.entries.length)
      pure (.ok catalog)

def catalogOf (file : Except Fault ProjectFile) : Traced (Except ProjectError Catalog) :=
  match file with
  | .error fault => pure (.error (.unreadable fault))
  | .ok file => file.catalog

end ProjectFile

def Catalog.ofText (text : String) : Traced (Except ProjectError Catalog) :=
  ProjectFile.catalogOf (ProjectFile.decoder.fromText text)

def Catalog.ofJson (value : Json) : Traced (Except ProjectError Catalog) :=
  ProjectFile.catalogOf (ProjectFile.decoder.fromJson value)

end CompositeObjects
