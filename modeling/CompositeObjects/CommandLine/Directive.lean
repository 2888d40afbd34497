import CompositeObjects.CommandLine.Pattern
import CompositeObjects.Diagnostics
import CompositeObjects.Text.Blank

namespace CompositeObjects

/-- The part of the program that an event comes from. -/
def Event.source : Event → String
  | .keptEntry _ => "mosaic_engine::project::content"
  | .parkedChildren .. | .ignoredChild _ | .droppedTree .. | .unknownKind _ | .failedLookup _ =>
    "mosaic_engine::project::custom"
  | .loadedProject _ => "mosaic_engine::project::loader"
  | .unnamedMethod .. | .generatedClass .. => "mosaic_engine::codegen::object"
  | .includedFile _ => "mosaic::commands::generate"

/-- What an event carries besides its level and its source: its message alone. -/
def Event.fields : List String := ["message"]

namespace CommandLine

/-- Lets events pass from a level on, or none of them. -/
structure Directive where
  /-- How the names of the sources begin. -/
  source : List Char
  /-- A field that the events have to carry. -/
  field : Option (List Char)
  /-- Whether it is about the events of a stretch of time. The program marks none. -/
  inSpan : Bool
  least : Option Level
deriving DecidableEq, Repr

namespace Directive

/-- The events of every source from a level on. -/
def atLeast (least : Option Level) : Directive := ⟨[], none, false, least⟩

def appliesTo (d : Directive) (event : Event) : Bool :=
  !d.inSpan && d.source.isPrefixOf event.source.toList &&
    d.field.all fun field => Event.fields.contains (String.ofList field)

/-- A longer name says more, and of two names of one length the one with a field. -/
def saysMore (d other : Directive) : Bool :=
  other.source.length < d.source.length ||
    (d.source.length == other.source.length && d.field.isSome && other.field.isNone)

def levelNames : List (String × Option Level) := [
  ("off", none), ("error", some .error), ("warn", some .warn), ("info", some .info),
  ("debug", some .debug), ("trace", some .trace)]

def levelNumbers : List (Option Level) :=
  [none, some .error, some .warn, some .info, some .debug, some .trace]

/-- A number in decimal digits, with a plus sign in front or without. -/
def number? (text : List Char) : Option Nat :=
  let digits := match text with
    | '+' :: digits => digits
    | digits => digits
  if digits.isEmpty || !digits.all Char.isDigit then none
  else some (digits.foldl (fun n c => 10 * n + (c.toNat - '0'.toNat)) 0)

/-- A level by its name in letters of either case, or by its number. -/
def level? (text : List Char) : Option (Option Level) :=
  match number? text with
  | some n => levelNumbers[n]?
  | none => levelNames.lookup (String.ofList (text.map Char.toLower))

/-- A number, perhaps with a sign, a fraction or an exponent. -/
def isDecimal (text : List Char) : Bool :=
  let text := match text with
    | '+' :: rest | '-' :: rest => rest
    | rest => rest
  let whole := text.takeWhile Char.isDigit
  let rest := text.dropWhile Char.isDigit
  let (fraction, rest) := match rest with
    | '.' :: rest => (rest.takeWhile Char.isDigit, rest.dropWhile Char.isDigit)
    | rest => ([], rest)
  let exponent := match rest with
    | e :: '+' :: digits | e :: '-' :: digits | e :: digits =>
      e.toLower == 'e' && !digits.isEmpty && digits.all Char.isDigit
    | [] => true
  ["inf", "infinity", "nan"].contains (String.ofList (text.map Char.toLower)) ||
    (!(whole.isEmpty && fraction.isEmpty) && exponent)

/-- What a field can be compared with: a number, or a pattern for its text. -/
def isValue (text : List Char) : Bool := isDecimal text || Pattern.isWellFormed text

/-- The parts of a directive as they are written: `source[span{field}]=level`. -/
structure Parts where
  source : List Char
  span : Option (List Char)
  field : Option (List Char)
  level : Option (List Char)
deriving DecidableEq, Repr

namespace Parts

/-- What stands behind the bracket: nothing but blanks, or a level. -/
def ofLevel? (parts : Parts) (text : List Char) : Option Parts :=
  match text with
  | '=' :: level => some { parts with level := some level }
  | rest => if rest.all Text.isBlank then some parts else none

/-- What stands in brackets. A span may go without a name before a field, but no field may. -/
def ofBracket? (source text : List Char) : Option Parts :=
  let span := text.takeWhile fun c => c ≠ ']' ∧ c ≠ '\x7b'
  match text.dropWhile fun c => c ≠ ']' ∧ c ≠ '\x7b' with
  | ']' :: rest => ofLevel? ⟨source, some span, none, none⟩ rest
  | _ :: rest =>
    let field := rest.takeWhile (· ≠ '\x7d')
    match rest.dropWhile (· ≠ '\x7d') with
    | _ :: ']' :: rest =>
      if field.isEmpty then none
      else ofLevel? ⟨source, if span.isEmpty then none else some span, some field, none⟩ rest
    | _ => none
  | [] => none

def startsName (c : Char) : Bool := Text.isAlphanumeric c || c == '-' || c == ':' || c == '_'

/-- Only the first character of a name has to be one of a name. -/
def ofText? (text : List Char) : Option Parts :=
  match text with
  | '[' :: rest => ofBracket? [] rest
  | c :: _ =>
    if startsName c then
      let source := text.takeWhile fun c => c ≠ '=' ∧ c ≠ '['
      match text.dropWhile fun c => c ≠ '=' ∧ c ≠ '[' with
      | '[' :: rest => ofBracket? source rest
      | _ :: level => some ⟨source, none, none, some level⟩
      | [] => some ⟨source, none, none, none⟩
    else none
  | [] => none

/-- A name that is a level stands for it. Without a level all events pass. -/
def least? (parts : Parts) : Option (List Char × Option Level) :=
  match parts.level with
  | some [] => some (parts.source, some .trace)
  | some level => (level? level).map (parts.source, ·)
  | none =>
    match if parts.span.isSome || parts.field.isSome then none else level? parts.source with
    | some least => some ([], least)
    | none => some (parts.source, some .trace)

/-- A field with a value is one of a span. -/
def directive? (parts : Parts) : Option Directive := do
  let (source, least) ← parts.least?
  let field := parts.field.map (·.takeWhile (· ≠ '='))
  match parts.field.map (·.dropWhile (· ≠ '=')) with
  | some (_ :: value) =>
    if isValue (value.takeWhile (· ≠ '=')) then some ⟨source, field, true, least⟩ else none
  | _ => some ⟨source, field, parts.span.isSome, least⟩

end Parts

/-- A directive with a blank in front is one for sources whose names begin with that blank, and
cannot have a level. -/
def ofText? (text : List Char) : Option Directive := do
  let parts ← Parts.ofText? (text.dropWhile Text.isBlank)
  if text.head?.any Text.isBlank then
    if parts.level.isSome then none else some ⟨text, none, false, some .trace⟩
  else parts.directive?

end Directive

end CommandLine
end CompositeObjects
