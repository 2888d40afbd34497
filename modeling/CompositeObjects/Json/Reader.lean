import CompositeObjects.Json.Draft

namespace CompositeObjects

/-- A draft with the text behind it, or nothing behind it where the draft has a breach. -/
abbrev Reading := Draft × Option (List Char)

namespace Reader

def isBlank (c : Char) : Bool := c == ' ' || c == '\n' || c == '\t' || c == '\r'

def skipBlanks (text : List Char) : List Char := text.dropWhile isBlank

def hexValue (c : Char) : Option Nat :=
  if c.isDigit then some (c.toNat - '0'.toNat)
  else if 'a' ≤ c ∧ c ≤ 'f' then some (c.toNat - 'a'.toNat + 10)
  else if 'A' ≤ c ∧ c ≤ 'F' then some (c.toNat - 'A'.toNat + 10)
  else none

/-- Four hexadecimal digits. A text that ends within four bytes is at its end. -/
def hexUnit (text : List Char) : Except Fault Nat :=
  if (text.take 4).foldl (fun size c => size + c.utf8Size) 0 < 4 then .error .endInText
  else
    match text with
    | a :: b :: c :: d :: _ =>
      match hexValue a, hexValue b, hexValue c, hexValue d with
      | some a, some b, some c, some d => .ok (((a * 16 + b) * 16 + c) * 16 + d)
      | _, _, _, _ => .error .invalidEscape
    | _ => .error .invalidEscape

def isHighSurrogate (unit : Nat) : Bool := 0xD800 ≤ unit && unit ≤ 0xDBFF

def isLowSurrogate (unit : Nat) : Bool := 0xDC00 ≤ unit && unit ≤ 0xDFFF

/-- The character of a surrogate pair. -/
def pairChar (high low : Nat) : Char :=
  Char.ofNat ((high - 0xD800) * 0x400 + (low - 0xDC00) + 0x10000)

/-- The text within quotes: what it says or its first half surrogate, and what follows it; or
where it cannot be followed, its first fault and the fault for one who passes over it. -/
structure StringScan where
  value : Except Fault String
  outcome : Except Fault (List Char)

/-- The character of a short escape. -/
def shortEscape : Char → Option Char
  | '"' => some '"'
  | '\\' => some '\\'
  | '/' => some '/'
  | 'b' => some '\x08'
  | 'f' => some '\x0c'
  | 'n' => some '\n'
  | 'r' => some '\r'
  | 't' => some '\t'
  | _ => none

/-- What a reader makes of the second half that a high surrogate asks for. -/
def secondHalf (high : Nat) : List Char → Except Fault Char
  | [] => .error .endInText
  | '\\' :: [] => .error .endInText
  | '\\' :: 'u' :: rest => do
    let low ← hexUnit rest
    if isLowSurrogate low then .ok (pairChar high low) else .error .loneSurrogate
  | _ => .error .pairUnfinished

/-- The scan goes on behind half a surrogate pair, which is kept as the fault of the value. -/
def scanString : Nat → List Char → Except Fault (List Char) → StringScan
  | 0, _, _ => ⟨.error .endInText, .error .endInText⟩
  | fuel + 1, text, seen =>
    let stop (fault : Fault) : StringScan :=
      match seen with
      | .ok _ => ⟨.error fault, .error fault⟩
      | .error first => ⟨.error first, .error fault⟩
    let add (c : Char) : Except Fault (List Char) := seen.map (c :: ·)
    match text with
    | [] => stop .endInText
    | '"' :: rest => ⟨seen.map fun cs => String.ofList cs.reverse, .ok rest⟩
    | '\\' :: [] => stop .endInText
    | '\\' :: 'u' :: rest =>
      match hexUnit rest with
      | .error fault => stop fault
      | .ok unit =>
        let rest := rest.drop 4
        if isLowSurrogate unit then scanString fuel rest (seen.bind fun _ => .error .loneSurrogate)
        else if isHighSurrogate unit then
          match secondHalf unit rest with
          | .ok c => scanString fuel (rest.drop 6) (add c)
          | .error fault => scanString fuel rest (seen.bind fun _ => .error fault)
        else scanString fuel rest (add (Char.ofNat unit))
    | '\\' :: c :: rest =>
      match shortEscape c with
      | some c => scanString fuel rest (add c)
      | none => stop .invalidEscape
    | c :: rest => if c.toNat < 0x20 then stop .controlCharacter else scanString fuel rest (add c)

/-- The scan of the text behind an opening quote. -/
def string (text : List Char) : StringScan := scanString (text.length + 1) text (.ok [])

def broken (breach : Breach) : Reading := (.broken breach, none)

/-- The rest of a word whose first letter has been seen. -/
def word (value : Draft) : List Char → List Char → Reading
  | [], text => (value, some text)
  | _ :: _, [] => broken (.both .endInValue)
  | c :: letters, d :: text =>
    if c = d then word value letters text else broken (.both .wordExpected)

mutual

/-- The value at the start of the text. -/
def value : Nat → List Char → Reading
  | 0, _ => broken (.both .endInValue)
  | fuel + 1, text =>
    match skipBlanks text with
    | [] => broken (.both .endInValue)
    | 'n' :: rest => word .null "ull".toList rest
    | 't' :: rest => word (.bool true) "rue".toList rest
    | 'f' :: rest => word (.bool false) "alse".toList rest
    | '"' :: rest =>
      let scan := string rest
      match scan.outcome, scan.value with
      | .ok rest, value => (.string value, some rest)
      | .error fault, .error first => broken ⟨first, fault⟩
      | .error fault, .ok _ => broken (.both fault)
    | '[' :: rest =>
      match skipBlanks rest with
      | [] => (.array [] .endOfText, none)
      | ']' :: rest => (.array [] .closed, some rest)
      | rest => let (list, ending, rest) := items fuel rest; (.array list ending, rest)
    | '\x7b' :: rest =>
      match skipBlanks rest with
      | [] => (.object [] .endOfText, none)
      | '\x7d' :: rest => (.object [] .closed, some rest)
      | rest => let (list, ending, rest) := entries fuel rest; (.object list ending, rest)
    | c :: rest =>
      if c = '-' ∨ c.isDigit then
        match Numeral.scan (c :: rest) with
        | .ok (numeral, rest) => (.number numeral.value, some rest)
        | .error breach => broken breach
      else broken (.both .valueExpected)

/-- An item of a list and what follows it, up to the end of the list. -/
def items : Nat → List Char → List Draft × Ending × Option (List Char)
  | 0, _ => ([], .endOfText, none)
  | fuel + 1, text =>
    match value fuel text with
    | (item, none) => ([item], .closed, none)
    | (item, some rest) =>
      match skipBlanks rest with
      | [] => ([item], .endOfText, none)
      | ']' :: rest => ([item], .closed, some rest)
      | ',' :: rest =>
        match skipBlanks rest with
        | [] => ([item], .endAfterComma, none)
        | ']' :: _ => ([item], .closedAfterComma, none)
        | rest => let (list, ending, rest) := items fuel rest; (item :: list, ending, rest)
      | _ => ([item], .noComma, none)

/-- An entry of an object and what follows it, up to the end of the object. -/
def entries : Nat → List Char → List (Except Fault String × Draft) × Ending × Option (List Char)
  | 0, _ => ([], .endOfText, none)
  | fuel + 1, text =>
    match text with
    | '"' :: rest =>
      let scan := string rest
      match scan.outcome, scan.value with
      | .error fault, .error first => ([], .keyBroken ⟨first, fault⟩, none)
      | .error fault, .ok _ => ([], .keyBroken (.both fault), none)
      | .ok rest, key =>
        match skipBlanks rest with
        | [] => ([(key, .broken (.both .endInObject))], .closed, none)
        | ':' :: rest =>
          match value fuel rest with
          | (item, none) => ([(key, item)], .closed, none)
          | (item, some rest) =>
            match skipBlanks rest with
            | [] => ([(key, item)], .endOfText, none)
            | '\x7d' :: rest => ([(key, item)], .closed, some rest)
            | ',' :: rest =>
              match skipBlanks rest with
              | [] => ([(key, item)], .endAfterComma, none)
              | '\x7d' :: _ => ([(key, item)], .closedAfterComma, none)
              | rest =>
                let (list, ending, rest) := entries fuel rest
                ((key, item) :: list, ending, rest)
            | _ => ([(key, item)], .noComma, none)
        | _ => ([(key, .broken (.both .colonExpected))], .closed, none)
    | _ => ([], .noKey, none)

end
end Reader

/-- A text as a draft, and whether more than blanks follows the value. -/
structure Document where
  draft : Draft
  isFollowed : Bool

/-- Three steps at most are taken at each character: a container, an item and its value. -/
def Document.ofText (text : String) : Document :=
  let (draft, rest) := Reader.value (3 * text.length + 3) text.toList
  ⟨draft, match rest with
    | none => false
    | some rest => !(Reader.skipBlanks rest).isEmpty⟩

end CompositeObjects
