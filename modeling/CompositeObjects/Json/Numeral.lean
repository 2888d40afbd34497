import CompositeObjects.Json.Fault

namespace CompositeObjects

/-- Where a text cannot be followed any further: the fault that a reader of the value meets, and the
fault that a reader meets who only passes over it. -/
structure Breach where
  read : Fault
  skipped : Fault
deriving DecidableEq, Repr

def Breach.both (fault : Fault) : Breach := ⟨fault, fault⟩

/-- A numeral by its parts, as decimal digits. -/
structure Numeral where
  negative : Bool
  whole : List Char
  fraction : List Char
  /-- A fraction or an exponent makes the number a binary fraction. -/
  isInteger : Bool
  exponentNegative : Bool
  exponent : List Char
deriving Repr

namespace Numeral

/-- The breach where digits are asked for: a reader tells the end of the text from a wrong
character. -/
def noDigit (rest : List Char) : Breach :=
  if rest.isEmpty then ⟨.endInValue, .invalidNumber⟩ else .both .invalidNumber

/-- The exponent at the start of the text, if there is one. -/
def scanExponent (numeral : Numeral) : List Char → Except Breach (Numeral × List Char)
  | c :: rest =>
    if c = 'e' ∨ c = 'E' then
      let (negative, rest) : Bool × List Char := match rest with
        | '-' :: r => (true, r)
        | '+' :: r => (false, r)
        | r => (false, r)
      let digits := rest.takeWhile Char.isDigit
      if digits.isEmpty then .error (noDigit rest)
      else
        let numeral := { numeral with
          isInteger := false, exponentNegative := negative, exponent := digits }
        .ok (numeral, rest.dropWhile Char.isDigit)
    else .ok (numeral, c :: rest)
  | [] => .ok (numeral, [])

/-- What follows the whole part. -/
def scanTail (numeral : Numeral) : List Char → Except Breach (Numeral × List Char)
  | '.' :: rest =>
    let digits := rest.takeWhile Char.isDigit
    if digits.isEmpty then .error (noDigit rest)
    else scanExponent { numeral with isInteger := false, fraction := digits }
      (rest.dropWhile Char.isDigit)
  | rest => scanExponent numeral rest

/-- The numeral at the start of the text and what follows it. A whole part of several digits does
not begin with zero. -/
def scan (text : List Char) : Except Breach (Numeral × List Char) :=
  let (negative, text) : Bool × List Char := match text with
    | '-' :: rest => (true, rest)
    | rest => (false, rest)
  let whole := text.takeWhile Char.isDigit
  let rest := text.dropWhile Char.isDigit
  match whole with
  | [] => .error (noDigit text)
  | '0' :: _ :: _ => .error (.both .invalidNumber)
  | _ => scanTail ⟨negative, whole, [], true, false, []⟩ rest

/-- The largest significand that is carried: 64 bits. -/
def significandLimit : Nat := (1 <<< 64) - 1

/-- The digits are appended to `start` while the result stays within the limit; with the number of
digits that were appended and of those left out. -/
def gather (start : Nat) : List Char → Nat × Nat × Nat
  | [] => (start, 0, 0)
  | c :: rest =>
    let next := start * 10 + (c.toNat - '0'.toNat)
    if next > significandLimit then (start, 0, rest.length + 1)
    else
      let (significand, taken, left) := gather next rest
      (significand, taken + 1, left)

/-- Powers of ten up to this exponent are held exactly rounded. -/
def powerLimit : Nat := 308

def tenTo (n : Nat) : Binary64 := (Binary64.nearest false (Nat.pow 10 n) 1).getD default

/-- A significand times a power of ten, rounded at every step: one product or quotient where the
power is in reach, and before that quotients by the largest power. -/
def assemble : Nat → Binary64 → Int → Option Binary64
  | fuel, f, exponent =>
    if exponent.natAbs ≤ powerLimit then
      if exponent ≥ 0 then f.mul (tenTo exponent.natAbs) else f.div (tenTo exponent.natAbs)
    else if f.isZero then some f
    else if exponent ≥ 0 then none
    else match fuel with
      | 0 => some f
      | fuel + 1 => (f.div (tenTo powerLimit)).bind fun f => assemble fuel f (exponent + powerLimit)

def float (negative : Bool) (significand : Nat) (exponent : Int) : Option Number :=
  (Binary64.nearest false significand 1).bind fun f =>
    (assemble (exponent.natAbs / powerLimit + 1) f exponent).map fun f =>
      .float (if negative then f.neg else f)

/-- The exponent part as it counts: one beyond 32 bits makes a number too large, or zero. -/
def exponentLimit : Nat := (1 <<< 31) - 1

/-- The number, or nothing where it is too large to be held. -/
def value (n : Numeral) : Option Number :=
  let (significand, _, left) := gather 0 n.whole
  if n.isInteger then
    if left > 0 then float n.negative significand left
    else if !n.negative then some (.integer significand)
    else if 0 < significand ∧ significand ≤ 1 <<< 63 then some (.integer (-(significand : Int)))
    else float true significand 0
  else
    let (significand, taken, _) := gather significand n.fraction
    let point : Int := (left : Int) - taken
    let exponent := n.exponent.foldl (fun acc c => acc * 10 + (c.toNat - '0'.toNat)) 0
    if exponent > exponentLimit then
      if significand ≠ 0 ∧ !n.exponentNegative then none else float n.negative 0 0
    else
      float n.negative significand
        (if n.exponentNegative then point - exponent else point + exponent)

end Numeral
end CompositeObjects
