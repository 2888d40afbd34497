import CompositeObjects.Text.Alphanumeric
import CompositeObjects.Toml.Scalar

namespace CompositeObjects.CommandLine.Pattern

/-- The escapes of one letter that stand for a character. -/
def letterCodes : List (Char × Nat) :=
  [('a', 0x7), ('f', 0xc), ('t', 0x9), ('n', 0xa), ('r', 0xd), ('v', 0xb)]

/-- Behind a backslash: a character by its letter, its number or itself, or the start or the end of
the text, which has no number. What needs to know the letters of all scripts is not understood. -/
def scanEscape : List Char → Option (Option Nat × List Char)
  | [] => none
  | c :: rest =>
    let coded (length : Nat) :=
      (TomlText.scanCode length rest).map fun (code, rest) => (some code.toNat, rest)
    match letterCodes.lookup c with
    | some code => some (some code, rest)
    | none =>
      if c = 'A' ∨ c = 'z' then some (none, rest)
      else if c = 'x' then coded 2
      else if c = 'u' then coded 4
      else if c = 'U' then coded 8
      else if 0x7f < c.toNat ∨ c.isAlphanum ∨ c = '<' ∨ c = '>' then none
      else some (some c.toNat, rest)

/-- The classes that have a name. -/
def classNames : List String := [
  "alnum", "alpha", "ascii", "blank", "cntrl", "digit", "graph", "lower", "print", "punct", "space",
  "upper", "word", "xdigit"]

/-- The rest behind a class by its name between colons. -/
def scanNamed (text : List Char) : Option (List Char) := do
  let rest ← TomlText.expect ':' text
  let rest := (TomlText.expect '^' rest).getD rest
  let behind ← TomlText.expect ':' (rest.dropWhile (· ≠ ':'))
  if classNames.contains (String.ofList (rest.takeWhile (· ≠ ':'))) then TomlText.expect ']' behind
  else none

/-- At the start of a class dashes, and without any a closing bracket, stand for themselves. -/
def skipOpening (text : List Char) : List Char :=
  let text := (TomlText.expect '^' text).getD text
  match text with
  | ']' :: rest => rest
  | text => text.dropWhile (· == '-')

/-- One character of a class, or the lower end of a range. -/
def scanMember : List Char → Option (Nat × List Char)
  | '\\' :: rest => (scanEscape rest).bind fun (code, rest) => code.map (·, rest)
  | c :: rest => some (c.toNat, rest)
  | [] => none

/-- The rest behind a class with so many brackets open. -/
def scanClass : Nat → Nat → List Char → Option (List Char)
  | 0, _, _ => none
  | fuel + 1, depth, text =>
    match text with
    | [] => none
    | '[' :: rest =>
      match scanNamed rest with
      | some rest => scanClass fuel depth rest
      | none => scanClass fuel (depth + 1) (skipOpening rest)
    | ']' :: rest => if depth ≤ 1 then some rest else scanClass fuel (depth - 1) rest
    | '&' :: '&' :: rest | '-' :: '-' :: rest | '~' :: '~' :: rest => scanClass fuel depth rest
    | text => do
      let (low, rest) ← scanMember text
      match rest with
      | '-' :: ']' :: _ | '-' :: '-' :: _ => scanClass fuel depth rest
      | '-' :: rest =>
        let (high, rest) ← scanMember rest
        if low ≤ high then scanClass fuel depth rest else none
      | rest => scanClass fuel depth rest

/-- Switches between forms of patterns, of which each comes once. -/
def areFlags (flags : List Char) : Bool :=
  let switches := flags.filter (· ≠ '-')
  switches.all (fun c => ['m', 's', 'R', 'U', 'u', 'x'].contains c) && switches.Nodup &&
    flags.count '-' ≤ 1 && flags.getLast? != some '-'

def isNameRest (c : Char) : Bool :=
  Text.isAlphanumeric c || c == '_' || c == '.' || c == '[' || c == ']'

def isName : List Char → Bool
  | c :: rest => (c == '_' || (Text.isAlphanumeric c && !c.isDigit)) && rest.all isNameRest
  | [] => false

/-- The rest behind the opening of a group, and whether it opens one: flags may stand alone. -/
def scanOpening (text : List Char) : Option (Bool × List Char) :=
  let named (text : List Char) : Option (Bool × List Char) :=
    match text.dropWhile (· ≠ '>') with
    | _ :: rest => if isName (text.takeWhile (· ≠ '>')) then some (true, rest) else none
    | [] => none
  match text with
  | '?' :: 'P' :: '<' :: rest | '?' :: '<' :: rest => named rest
  | '?' :: rest =>
    let flags := rest.takeWhile fun c => c ≠ ':' ∧ c ≠ ')'
    match rest.dropWhile fun c => c ≠ ':' ∧ c ≠ ')' with
    | ':' :: rest => if areFlags flags then some (true, rest) else none
    | _ :: rest => if areFlags flags && !flags.isEmpty then some (false, rest) else none
    | [] => none
  | text => some (true, text)

/-- Whether the rest of a pattern is well formed behind so many open groups. What is repeated stands
in front of its mark. -/
def scan : Nat → Nat → Bool → List Char → Bool
  | 0, _, _, _ => false
  | fuel + 1, depth, operand, text =>
    match text with
    | [] => depth == 0
    | '(' :: rest =>
      match scanOpening rest with
      | some (opens, rest) => scan fuel (if opens then depth + 1 else depth) false rest
      | none => false
    | ')' :: rest => depth != 0 && scan fuel (depth - 1) true rest
    | '|' :: rest => scan fuel depth false rest
    | '[' :: rest =>
      match scanClass (2 * rest.length + 2) 1 (skipOpening rest) with
      | some rest => scan fuel depth true rest
      | none => false
    | '?' :: rest | '*' :: rest | '+' :: rest =>
      operand && scan fuel depth true ((TomlText.expect '?' rest).getD rest)
    | '\x7b' :: _ => false
    | '\\' :: rest =>
      match scanEscape rest with
      | some (_, rest) => scan fuel depth true rest
      | none => false
    | _ :: rest => scan fuel depth true rest

/-- Whether the text is a pattern for texts, without counts of repetitions. -/
def isWellFormed (text : List Char) : Bool := scan (text.length + 1) 0 false text

end CompositeObjects.CommandLine.Pattern
