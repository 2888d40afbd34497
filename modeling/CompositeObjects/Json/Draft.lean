import CompositeObjects.Json.Numeral

namespace CompositeObjects

/-- How the items of a container come to their end. -/
inductive Ending where
  | closed
  | endOfText
  | endAfterComma
  | closedAfterComma
  | noComma
  | noKey
  | keyBroken (breach : Breach)
deriving DecidableEq, Repr

/-- A JSON text as far as it can be followed, with its faults in place. A number too large to be
held and a text with half a surrogate pair are faults only for one who reads them. -/
inductive Draft where
  | null
  | bool (value : Bool)
  | number (value : Option Number)
  | string (value : Except Fault String)
  | array (items : List Draft) (ending : Ending)
  | object (entries : List (Except Fault String × Draft)) (ending : Ending)
  | broken (breach : Breach)

namespace Ending

/-- The fault of a list that ends so, for its reader. -/
def listFault : Ending → Option Fault
  | .closed => none
  | .endOfText => some .endInList
  | .endAfterComma => some .endInValue
  | .closedAfterComma => some .trailingComma
  | _ => some .commaOrBracketExpected

/-- The fault of an object that ends so, for its reader. -/
def objectFault : Ending → Option Fault
  | .closed => none
  | .endOfText => some .endInObject
  | .endAfterComma => some .endInValue
  | .closedAfterComma => some .trailingComma
  | .noComma => some .commaOrBraceExpected
  | .noKey => some .keyNotText
  | .keyBroken breach => some breach.read

/-- The fault of a list that ends so, for one who passes over it. -/
def skippedListFault : Ending → Option Fault
  | .closedAfterComma => some .valueExpected
  | ending => ending.listFault

/-- The fault of an object that ends so, for one who passes over it. -/
def skippedObjectFault : Ending → Option Fault
  | .endAfterComma => some .endInObject
  | .closedAfterComma => some .keyNotText
  | .keyBroken breach => some breach.skipped
  | ending => ending.objectFault

/-- The fault behind the last field of a record that is written as a list. -/
def recordFault : Ending → Option Fault
  | .closed => none
  | .endOfText => some .endInList
  | .closedAfterComma => some .trailingComma
  | _ => some .trailingCharacters

end Ending

namespace Draft

mutual

/-- A value is a draft without faults. -/
def ofJson : Json → Draft
  | .null => .null
  | .bool b => .bool b
  | .number n => .number (some n)
  | .string s => .string (.ok s)
  | .array items => .array (ofItems items) .closed
  | .object entries => .object (ofEntries entries) .closed

def ofItems : List Json → List Draft
  | [] => []
  | item :: rest => ofJson item :: ofItems rest

def ofEntries : List (String × Json) → List (Except Fault String × Draft)
  | [] => []
  | (key, value) :: rest => (.ok key, ofJson value) :: ofEntries rest

end

mutual

/-- The first fault met by one who passes over the draft. -/
def skippedFault : Draft → Option Fault
  | .array items ending => skippedItems items ending.skippedListFault
  | .object entries ending => skippedEntries entries ending.skippedObjectFault
  | .broken breach => some breach.skipped
  | _ => none

def skippedItems : List Draft → Option Fault → Option Fault
  | [], last => last
  | item :: rest, last => (skippedFault item).orElse fun _ => skippedItems rest last

def skippedEntries : List (Except Fault String × Draft) → Option Fault → Option Fault
  | [], last => last
  | (_, value) :: rest, last => (skippedFault value).orElse fun _ => skippedEntries rest last

end

/-- The fault of finding this draft where something else is asked for. A scalar is read to its end
first, a container is not opened. -/
def mismatch (expected : Expectation) : Draft → Fault
  | .null => .wrongShape .null expected
  | .bool b => .wrongShape (.bool b) expected
  | .number (some n) => .wrongShape (.number n) expected
  | .number none => .numberTooLarge
  | .string (.ok s) => .wrongShape (.string s) expected
  | .string (.error fault) => fault
  | .array _ _ => .wrongShape .array expected
  | .object _ _ => .wrongShape .object expected
  | .broken breach => breach.read

end Draft
end CompositeObjects
