import CompositeObjects.Binary64
import CompositeObjects.Json.Reader
import CompositeObjects.Toml.Value

namespace CompositeObjects.TomlText

def isBlank (c : Char) : Bool := c == ' ' || c == '\t'

def skipBlanks (text : List Char) : List Char := text.dropWhile isBlank

/-- Any character but the controls; the tab is none of them here. -/
def isPrintable (c : Char) : Bool := c == '\t' || (0x20 ≤ c.toNat && c.toNat ≠ 0x7f)

/-- A line feed, which may follow a carriage return. -/
def newline : List Char → Option (List Char)
  | '\n' :: rest => some rest
  | '\r' :: '\n' :: rest => some rest
  | _ => none

/-- A comment without its line break, if there is one. -/
def skipComment : List Char → List Char
  | '#' :: rest => rest.dropWhile isPrintable
  | text => text

/-- Nothing but blanks and a comment up to the end of the line. -/
def endLine (text : List Char) : Option (List Char) :=
  match skipComment (skipBlanks text) with
  | [] => some []
  | rest => newline rest

/-- Blanks, line breaks and comments that end with their line. -/
def skipLines : Nat → List Char → List Char
  | 0, text => text
  | fuel + 1, text =>
    let text := skipBlanks text
    match newline text with
    | some rest => skipLines fuel rest
    | none =>
      match text with
      | '#' :: _ =>
        match newline (skipComment text) with
        | some rest => skipLines fuel rest
        | none => text
      | _ => text

def hexNumber (digits : List Char) : Option Nat :=
  digits.foldlM (fun acc c => (Reader.hexValue c).map (acc * 16 + ·)) 0

/-- A character by its number in so many hexadecimal digits. -/
def scanCode (length : Nat) (text : List Char) : Option (Char × List Char) :=
  let digits := text.take length
  if digits.length = length then
    (hexNumber digits).bind fun n =>
      if n.isValidChar then some (Char.ofNat n, text.drop length) else none
  else none

def scanEscape : List Char → Option (Char × List Char)
  | 'u' :: rest => scanCode 4 rest
  | 'U' :: rest => scanCode 8 rest
  | '/' :: _ => none
  | c :: rest => (Reader.shortEscape c).map fun c => (c, rest)
  | [] => none

/-- The rest of a text in double quotes on one line. -/
def scanBasic : Nat → List Char → List Char → Option (String × List Char)
  | 0, _, _ => none
  | fuel + 1, text, seen =>
    match text with
    | '"' :: rest => some (String.ofList seen.reverse, rest)
    | '\\' :: rest => (scanEscape rest).bind fun (c, rest) => scanBasic fuel rest (c :: seen)
    | c :: rest => if isPrintable c then scanBasic fuel rest (c :: seen) else none
    | [] => none

/-- The rest of a text in single quotes on one line, in which nothing is escaped. -/
def scanLiteral (text : List Char) : Option (String × List Char) :=
  let body := text.takeWhile fun c => c ≠ '\'' && isPrintable c
  match text.drop body.length with
  | '\'' :: rest => some (String.ofList body, rest)
  | _ => none

/-- Blanks and line breaks. -/
def skipBlankLines : Nat → List Char → List Char
  | 0, text => text
  | fuel + 1, text =>
    let text := skipBlanks text
    match newline text with
    | some rest => skipBlankLines fuel rest
    | none => text

/-- The rest of a text between triple quotes. Up to two quotes may stand before the closing ones. A
line break counts as a line feed; in double quotes a backslash at the end of a line takes the blanks
and line breaks behind it away. -/
def scanLong (quote : Char) : Nat → List Char → List Char → Option (String × List Char)
  | 0, _, _ => none
  | fuel + 1, text, seen =>
    let quotes := (text.takeWhile (· == quote)).length
    if quotes ≥ 3 then
      let extra := min (quotes - 3) 2
      some (String.ofList (List.replicate extra quote ++ seen).reverse, text.drop (extra + 3))
    else match newline text with
      | some rest => scanLong quote fuel rest ('\n' :: seen)
      | none =>
        match text with
        | [] => none
        | c :: rest =>
          if c = '\\' ∧ quote = '"' then
            match newline (skipBlanks rest) with
            | some rest => scanLong quote fuel (skipBlankLines (rest.length + 1) rest) seen
            | none => (scanEscape rest).bind fun (c, rest) => scanLong quote fuel rest (c :: seen)
          else if isPrintable c then scanLong quote fuel rest (c :: seen) else none

def scanText (text : List Char) : Option (String × List Char) :=
  let long (quote : Char) (rest : List Char) : Option (String × List Char) :=
    let rest := (newline rest).getD rest
    scanLong quote (rest.length + 1) rest []
  match text with
  | '"' :: '"' :: '"' :: rest => long '"' rest
  | '\'' :: '\'' :: '\'' :: rest => long '\'' rest
  | '"' :: rest => scanBasic (rest.length + 1) rest []
  | '\'' :: rest => scanLiteral rest
  | _ => none

def isBareKeyChar (c : Char) : Bool := c.isAlphanum || c == '-' || c == '_'

/-- One part of a key. -/
def scanKeyPart (text : List Char) : Option (String × List Char) :=
  match text with
  | '"' :: rest => scanBasic (rest.length + 1) rest []
  | '\'' :: rest => scanLiteral rest
  | _ =>
    match text.takeWhile isBareKeyChar with
    | [] => none
    | part => some (String.ofList part, text.drop part.length)

/-- Digits of a base, between which single underscores may stand. -/
def scanDigits (isDigit : Char → Bool) : Nat → List Char → Option (List Char × List Char)
  | 0, _ => none
  | fuel + 1, c :: rest =>
    if isDigit c then
      let more : List Char := match rest with
        | '_' :: rest => rest
        | rest => rest
      match scanDigits isDigit fuel more with
      | some (digits, rest) => some (c :: digits, rest)
      | none =>
        match rest with
        | '_' :: _ => none
        | _ => some ([c], rest)
    else none
  | _, [] => none

def digits (isDigit : Char → Bool) (text : List Char) : Option (List Char × List Char) :=
  scanDigits isDigit (text.length + 1) text

def scanSign : List Char → Bool × List Char
  | '-' :: rest => (true, rest)
  | '+' :: rest => (false, rest)
  | text => (false, text)

/-- An integer in another base than ten. -/
def scanBased (base : Nat) (isDigit : Char → Bool) (text : List Char) : Option (List Char) := do
  let (digits, rest) ← digits isDigit text
  let value := digits.foldl (fun acc c => acc * base + (Reader.hexValue c).getD 0) 0
  if value < 1 <<< 63 then some rest else none

def decimalValue (digits : List Char) : Nat :=
  digits.foldl (fun acc c => acc * 10 + (c.toNat - '0'.toNat)) 0

/-- Whether a positive decimal fraction lies beyond the finite numbers. -/
def isInfinite (significand : List Char) (exponent : Int) : Bool :=
  let n := decimalValue significand
  let size : Int := (toString n).length + exponent
  if n = 0 ∨ size < 300 then false
  else if size > 320 then true
  else
    let (num, den) := Binary64.scale 10 n 1 (-exponent)
    (Binary64.nearest false num den).isNone

/-- A decimal integer or fraction, of which only the end is told. An integer has 64 bits, a
positive fraction is finite. -/
def scanDecimal (text : List Char) : Option (List Char) := do
  let (negative, body) := scanSign text
  let (whole, rest) ← digits Char.isDigit body
  if whole.length > 1 ∧ whole.head? = some '0' then none
  else
    let (fraction, rest) ← match rest with
      | '.' :: rest => digits Char.isDigit rest
      | rest => some ([], rest)
    let (exponent, isScientific, rest) ← match rest with
      | c :: more =>
        if c = 'e' ∨ c = 'E' then do
          let (negative, more) := scanSign more
          let (exponent, more) ← digits Char.isDigit more
          let n : Int := decimalValue exponent
          some (if negative then -n else n, true, more)
        else some (0, false, c :: more)
      | [] => some ((0 : Int), false, [])
    if fraction.isEmpty ∧ !isScientific then
      let n := decimalValue whole
      if n < 1 <<< 63 ∨ (negative ∧ n = 1 <<< 63) then some rest else none
    else if !negative ∧ isInfinite (whole ++ fraction) (exponent - fraction.length) then none
    else some rest

/-- A number of any form. -/
def scanNumber (text : List Char) : Option (List Char) :=
  let (_, body) := scanSign text
  match body with
  | 'i' :: 'n' :: 'f' :: rest => some rest
  | 'n' :: 'a' :: 'n' :: rest => some rest
  | _ =>
    match text with
    | '0' :: 'x' :: rest => scanBased 16 (fun c => (Reader.hexValue c).isSome) rest
    | '0' :: 'o' :: rest => scanBased 8 (fun c => '0' ≤ c && c ≤ '7') rest
    | '0' :: 'b' :: rest => scanBased 2 (fun c => c == '0' || c == '1') rest
    | _ => scanDecimal text

/-- So many digits, whose value lies between two bounds. -/
def scanField (length low high : Nat) (text : List Char) : Option (Nat × List Char) :=
  let digits := text.take length
  let value := decimalValue digits
  if digits.length = length ∧ digits.all Char.isDigit ∧ low ≤ value ∧ value ≤ high then
    some (value, text.drop length)
  else none

def expect (c : Char) : List Char → Option (List Char)
  | d :: rest => if c = d then some rest else none
  | [] => none

/-- A number with at least so many digits. -/
def padded (length n : Nat) : String :=
  let digits := toString n
  String.ofList (List.replicate (length - digits.length) '0') ++ digits

def daysIn (year month : Nat) : Nat :=
  let isLeap := year % 4 = 0 ∧ (year % 100 ≠ 0 ∨ year % 400 = 0)
  if month = 2 then (if isLeap then 29 else 28)
  else if month = 4 ∨ month = 6 ∨ month = 9 ∨ month = 11 then 30
  else 31

def scanDate (text : List Char) : Option (String × List Char) := do
  let (year, rest) ← scanField 4 0 9999 text
  let rest ← expect '-' rest
  let (month, rest) ← scanField 2 1 12 rest
  let rest ← expect '-' rest
  let (day, rest) ← scanField 2 1 (daysIn year month) rest
  some (padded 4 year ++ "-" ++ padded 2 month ++ "-" ++ padded 2 day, rest)

/-- The part of a second, of which nine digits count and zeros at the end do not. -/
def scanSecondPart : List Char → Option (String × List Char)
  | '.' :: rest =>
    match rest.takeWhile Char.isDigit with
    | [] => none
    | digits =>
      let part := ((digits.take 9).reverse.dropWhile (· == '0')).reverse
      some (if part.isEmpty then "" else "." ++ String.ofList part, rest.drop digits.length)
  | text => some ("", text)

def scanTime (text : List Char) : Option (String × List Char) := do
  let (hour, rest) ← scanField 2 0 23 text
  let rest ← expect ':' rest
  let (minute, rest) ← scanField 2 0 59 rest
  let rest ← expect ':' rest
  let (second, rest) ← scanField 2 0 60 rest
  let (part, rest) ← scanSecondPart rest
  some (padded 2 hour ++ ":" ++ padded 2 minute ++ ":" ++ padded 2 second ++ part, rest)

/-- The distance from universal time, if it is given. -/
def scanOffset : List Char → Option (String × List Char)
  | 'Z' :: rest | 'z' :: rest => some ("Z", rest)
  | c :: rest =>
    if c = '+' ∨ c = '-' then do
      let (hour, rest) ← scanField 2 0 23 rest
      let rest ← expect ':' rest
      let (minute, rest) ← scanField 2 0 59 rest
      let sign := if c = '-' ∧ hour + minute > 0 then "-" else "+"
      some (sign ++ padded 2 hour ++ ":" ++ padded 2 minute, rest)
    else some ("", c :: rest)
  | [] => some ("", [])

/-- A date, a time, or both with a `T` or a blank between them. -/
def scanMoment (text : List Char) : Option (String × List Char) :=
  match scanDate text with
  | none => scanTime text
  | some (date, rest) =>
    let withTime : Option (String × List Char) :=
      match rest with
      | c :: more =>
        if c = 'T' ∨ c = 't' ∨ c = ' ' then do
          let (time, more) ← scanTime more
          let (offset, more) ← scanOffset more
          some (date ++ "T" ++ time ++ offset, more)
        else none
      | [] => none
    withTime.orElse fun _ => some (date, rest)

end CompositeObjects.TomlText
