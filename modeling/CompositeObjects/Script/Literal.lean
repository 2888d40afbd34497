import CompositeObjects.Property

namespace CompositeObjects.Script

/-- The backslash, the quote and both line breaks are escaped, so that no text ends its literal. -/
def escapeChar : Char → List Char
  | '\\' => ['\\', '\\']
  | '\r' => ['\\', 'r']
  | '\n' => ['\\', 'n']
  | '"' => ['\\', '"']
  | c => [c]

/-- A text as a string literal. -/
def quoted (s : String) : String :=
  String.ofList ('"' :: s.toList.flatMap escapeChar ++ ['"'])

/-- What a character behind a backslash stands for. -/
def escaped? : Char → Option Char
  | '\\' => some '\\'
  | 'r' => some '\r'
  | 'n' => some '\n'
  | '"' => some '"'
  | _ => none

/-- Reads a string literal behind its opening quote: the text that it stands for, and what follows
its closing quote. There is none where the line ends first, or where an escape is another one. -/
def readQuoted : List Char → Option (List Char × List Char)
  | [] => none
  | '"' :: rest => some ([], rest)
  | '\\' :: [] => none
  | '\\' :: c :: rest =>
    (escaped? c).bind fun c => (readQuoted rest).map fun r => (c :: r.1, r.2)
  | c :: rest =>
    if c = '\r' ∨ c = '\n' then none else (readQuoted rest).map fun r => (c :: r.1, r.2)

theorem readQuoted_escapeChar (c : Char) (text : List Char) :
    readQuoted (escapeChar c ++ text) = (readQuoted text).map fun r => (c :: r.1, r.2) := by
  unfold escapeChar
  split
  · rfl
  · rfl
  · rfl
  · rfl
  · rename_i backslash carriage feed quote
    rw [List.singleton_append, readQuoted.eq_5 c text quote (fun h _ => backslash h)
      (fun _ _ h _ => backslash h), if_neg fun h => h.elim carriage feed]

/-- No text ends its literal: reading gives back the text and what stands behind it. -/
theorem readQuoted_flatMap_escapeChar (s rest : List Char) :
    readQuoted (s.flatMap escapeChar ++ '"' :: rest) = some (s, rest) := by
  induction s with
  | nil => rfl
  | cons c s ih => simp [List.flatMap_cons, readQuoted_escapeChar, ih]

/-- The default value of a property in a script. -/
inductive Literal where
  | text (value : String)
  /-- The text is read as a number when the script runs, and counts as zero where it is none. -/
  | number (value : String)
  | flag (value : Bool)
  | unrecognized
deriving DecidableEq, Repr, Inhabited

namespace Literal

def code : Literal → String
  | .text value => quoted value
  | .number value => "Number(" ++ quoted value ++ ") || 0"
  | .flag value => if value then "true" else "false"
  | .unrecognized => "0 /* Error: property was of an unrecognized type */"

/-- Only the text `true` is a set flag. Resources and unrecognised types have no literal. -/
def ofProperty (p : Property) : Literal :=
  match p.type with
  | .text | .choice | .color => .text p.value
  | .number => .number p.value
  | .flag => .flag (p.value == "true")
  | .resource | .other _ => .unrecognized

end Literal
end CompositeObjects.Script
