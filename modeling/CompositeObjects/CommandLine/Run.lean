import CompositeObjects.CommandLine.Report
import CompositeObjects.Listing

namespace CompositeObjects.CommandLine

/-- A course of actions: how it ends, what it printed and told until then, and the files that it
wrote. -/
structure Run (α : Type) where
  result : Except Report α
  printed : String
  events : List Event
  written : List (String × String)

namespace Run

variable {α β : Type}

/-- A failure ends the course; what has been printed stays printed. -/
instance : Monad Run where
  pure x := ⟨.ok x, "", [], []⟩
  bind x f :=
    match x.result with
    | .error report => ⟨.error report, x.printed, x.events, x.written⟩
    | .ok value =>
      let next := f value
      ⟨next.result, x.printed ++ next.printed, x.events ++ next.events, x.written ++ next.written⟩

def fail (message : String) (causes : List String) : Run α :=
  ⟨.error ⟨message, causes⟩, "", [], []⟩

def print (text : String) : Run Unit := ⟨.ok (), text, [], []⟩

def ofTraced (x : Traced α) : Run α := ⟨.ok x.value, "", x.events, []⟩

def read (files : Files) (path : String) : Run (Except FileError String) := pure (files.read path)

def write (files : Files) (path text : String) : Run (Except FileError Unit) :=
  match files.obstacle path with
  | some error => pure (.error error)
  | none =>
    if files.isOutput path then ⟨.ok (.ok ()), text, [], []⟩
    else ⟨.ok (.ok ()), "", [], [(path, text)]⟩

def printLine (coloured : Bool) (spans : List Span) : Run Unit :=
  print (listingLine coloured spans)

end Run
end CompositeObjects.CommandLine
