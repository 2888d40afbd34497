import CompositeObjects.Table

namespace CompositeObjects.CommandLine

/-- Why a file cannot be read or written. -/
inductive FileError where
  | notFound
  | notDirectory
  | isDirectory
  | noSpace
  | nameTooLong
  | notText
  | other (text : String)
deriving DecidableEq, Repr

def FileError.message : FileError → String
  | .notFound => "No such file or directory (os error 2)"
  | .notDirectory => "Not a directory (os error 20)"
  | .isDirectory => "Is a directory (os error 21)"
  | .noSpace => "No space left on device (os error 28)"
  | .nameTooLong => "File name too long (os error 36)"
  | .notText => "stream did not contain valid UTF-8"
  | .other text => text

/-- What a program can do with files: read one, or write one if nothing is in the way. What is
written to an output is printed. -/
structure Files where
  read : String → Except FileError String
  obstacle : String → Option FileError
  isOutput : String → Bool

/-- A directory by the texts of the files in it, under their paths. -/
structure Directory where
  files : Table String
deriving DecidableEq, Repr

namespace Directory

/-- The parts of a path between slashes. -/
def split : List Char → List (List Char)
  | [] => [[]]
  | c :: rest =>
    match split rest with
    | [] => [[]]
    | part :: parts => if c = '/' then [] :: part :: parts else (c :: part) :: parts

def join (parts : List (List Char)) : String := "/".intercalate (parts.map String.ofList)

/-- A file that keeps nothing. -/
inductive Device where
  | empty
  | full
  /-- The output of the program itself. -/
  | output
deriving DecidableEq, Repr

def devices : List (String × Device) := [("null", .empty), ("full", .full), ("stdout", .output)]

/-- The directories that are found below the root of every system. -/
def systemDirectories : List String := [
  "bin", "dev", "etc", "home", "lib", "opt", "proc", "root", "run", "sbin", "sys", "tmp", "usr",
  "var"]

/-- What stands under a path. -/
inductive Place where
  | file (name : String)
  | directory
  /-- Nothing yet, in a directory that is there. -/
  | free (name : String)
  /-- Nothing that is known of, outside the directory. -/
  | elsewhere
  | device (device : Device)
  | unreachable (error : FileError)
deriving DecidableEq, Repr

/-- A directory on the way along a path. -/
inductive Standpoint where
  /-- The directory itself, or one in it. -/
  | within (parts : List (List Char))
  /-- One above it. -/
  | above
  | root
  /-- One below the root, outside the directory. -/
  | system (name : String)
deriving DecidableEq, Repr

def isDirectory (d : Directory) (parts : List (List Char)) : Bool :=
  parts.isEmpty || d.files.any fun file =>
    let own := split file.1.toList
    parts.isPrefixOf own && parts.length < own.length

/-- A name has no more bytes than a directory can hold. -/
def isTooLong (name : List Char) : Bool := 255 < (String.ofList name).utf8ByteSize

/-- A name of which nothing is known, with the parts of a path behind it. -/
def unknown (rest : List (List Char)) : Place :=
  if rest.isEmpty then .elsewhere else .unreachable .notFound

/-- Follows the parts of a path from a standpoint. Outside the directory only the root, what every
system has below it, and the way up are known. -/
def follow (d : Directory) : Standpoint → List (List Char) → Place
  | _, [] => .directory
  | here, part :: rest =>
    if part = [] ∨ part = ['.'] then follow d here rest
    else if part = ['.', '.'] then
      match here with
      | .within [] | .above => follow d .above rest
      | .within parts => follow d (.within parts.dropLast) rest
      | .root | .system _ => follow d .root rest
    else if isTooLong part then .unreachable .nameTooLong
    else
      let name := String.ofList part
      match here with
      | .within parts =>
        let there := parts ++ [part]
        if d.isDirectory there then follow d (.within there) rest
        else if d.files.contains (join there) then
          if rest.isEmpty then .file (join there) else .unreachable .notDirectory
        else if rest.isEmpty then .free (join there)
        else .unreachable .notFound
      | .above => unknown rest
      | .root =>
        if systemDirectories.contains name then follow d (.system name) rest else unknown rest
      | .system directory =>
        match if directory = "dev" then devices.lookup name else none with
        | some device => if rest.isEmpty then .device device else .unreachable .notDirectory
        | none => unknown rest

/-- No path has more bytes than a system call takes. -/
def isTooLongPath (path : String) : Bool := 4095 < path.utf8ByteSize

def locateParts (d : Directory) (path : List (List Char)) : Place :=
  match path with
  | [] :: rest => d.follow .root rest
  | parts => d.follow (.within []) parts

def locate (d : Directory) (path : String) : Place :=
  if path = "" then .unreachable .notFound
  else if isTooLongPath path then .unreachable .nameTooLong
  else d.locateParts (split path.toList)

def read (d : Directory) (path : String) : Except FileError String :=
  match d.locate path with
  | .file name => ((d.files.get? name).map Except.ok).getD (.error .notFound)
  | .device _ => .ok ""
  | .directory => .error .isDirectory
  | .free _ | .elsewhere => .error .notFound
  | .unreachable error => .error error

/-- Where a directory has to be for a name in it to be looked up. -/
def Place.asDirectory : Place → Option FileError
  | .directory => none
  | .file _ | .device _ => some .notDirectory
  | .free _ | .elsewhere => some .notFound
  | .unreachable error => some error

/-- What is in the way of writing under a path. One that ends in a slash names a directory, whatever
stands there. -/
def obstacle (d : Directory) (path : String) : Option FileError :=
  let parts := split path.toList
  if path ≠ "" ∧ ¬ isTooLongPath path ∧ parts.getLast? = some [] then
    let named := (parts.reverse.dropWhile List.isEmpty).reverse
    some (((d.locateParts named.dropLast).asDirectory).getD .isDirectory)
  else
    match d.locate path with
    | .file _ | .free _ | .elsewhere | .device .empty | .device .output => none
    | .device .full => some .noSpace
    | .directory => some .isDirectory
    | .unreachable error => some error

def isOutput (d : Directory) (path : String) : Bool := d.locate path = .device .output

def asFiles (d : Directory) : Files := ⟨d.read, d.obstacle, d.isOutput⟩

/-- The file that is written under a path, where that changes anything. -/
def change (d : Directory) (path text : String) : Option (String × String) :=
  match d.locate path with
  | .file name => if d.files.get? name = some text then none else some (name, text)
  | .free name => some (name, text)
  | _ => none

end Directory
end CompositeObjects.CommandLine
