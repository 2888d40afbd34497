import CompositeObjects.CommandLine.Files
import CompositeObjects.ProjectFile

namespace CompositeObjects.CommandLine

/-- A failure with the causes behind it, from the nearest to the last one. -/
structure Report where
  message : String
  causes : List String
deriving DecidableEq, Repr

namespace Report

/-- The messages of a fault in a project, from the outermost one to what is behind it. -/
def ofProjectError (e : ProjectError) : List String :=
  match e with
  | .unreadable fault => [e.message, fault.message]
  | .duplicateType _ => [e.message]
  | .invalidChild _ _ fault => [e.message, fault.malformedTree, fault.message]

/-- The lines of a text between line feeds. -/
def splitLines : List Char → List (List Char)
  | [] => [[]]
  | c :: rest =>
    match splitLines rest with
    | [] => [[]]
    | line :: lines => if c = '\n' then [] :: line :: lines else (c :: line) :: lines

def linesOf (text : String) : List String := (splitLines text.toList).map String.ofList

/-- The lines of a text, the first behind one margin and all others behind another. -/
def behind (first others : String) (text : String) : List String :=
  match linesOf text with
  | [] => []
  | line :: lines => (first ++ line) :: lines.map (others ++ ·)

/-- A single cause stands by itself, several ones are numbered. -/
def causeLines : List String → List String
  | [] => []
  | [cause] => behind "    " "    " cause
  | causes => (causes.mapIdx fun n cause =>
      behind ("    " ++ toString n ++ ": ") "       " cause).flatten

def lines (r : Report) : List String :=
  linesOf ("Error: " ++ r.message) ++
    if r.causes.isEmpty then [] else ["", "Caused by:"] ++ causeLines r.causes

end Report
end CompositeObjects.CommandLine
