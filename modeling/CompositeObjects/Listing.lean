namespace CompositeObjects

/-- What a part of a line is. -/
inductive Style where
  /-- Names of types and headings. -/
  | name
  /-- Display names and names of resources. -/
  | detail
  /-- Counts. -/
  | summary
  /-- An action that has been completed. -/
  | done
  /-- That there is nothing to list. -/
  | notice
  | plain
deriving DecidableEq, Repr

namespace Style

def reset : String := "\x1b[0m"

def bold : String := "\x1b[1m"

def dim : String := "\x1b[2m"

/-- The escapes that switch the style on; none for plain text. -/
def escapes? : Style → Option String
  | .name => some bold
  | .detail => some "\x1b[36m"
  | .summary => some (dim ++ "\x1b[37m")
  | .done => some (bold ++ "\x1b[32m")
  | .notice => some (bold ++ "\x1b[33m")
  | .plain => none

end Style

abbrev Span := Style × String

/-- A styled text starts and ends with a reset. -/
def Span.text (coloured : Bool) (span : Span) : String :=
  match span.1.escapes? with
  | some escapes =>
    if coloured then Style.reset ++ escapes ++ span.2 ++ Style.reset else span.2
  | none => span.2

/-- A line of a listing, with its line break. -/
def listingLine (coloured : Bool) (spans : List Span) : String :=
  String.join (spans.map (Span.text coloured)) ++ "\n"

def listing (coloured : Bool) (lines : List (List Span)) : String :=
  String.join (lines.map (listingLine coloured))

end CompositeObjects
