namespace CompositeObjects

/-- A finite binary floating-point number of 64 bits: `significand * 2 ^ exponent` with a sign.
In the form that `nearest` gives, the significand has 53 bits, or fewer at the least exponent. -/
structure Binary64 where
  negative : Bool
  significand : Nat
  exponent : Int
deriving DecidableEq, Repr, Inhabited

/-- A decimal number `digits * 10 ^ exponent`. -/
structure Decimal where
  digits : Nat
  exponent : Int
deriving DecidableEq, Repr

namespace Binary64

/-- The exponent of the least positive number and of every number close to zero. -/
def leastExponent : Int := -1074

/-- The exponent of the largest finite number. -/
def greatestExponent : Int := 971

/-- The fraction `num / den` divided by `base ^ exponent`, again as a fraction. -/
def scale (base num den : Nat) (exponent : Int) : Nat × Nat :=
  if exponent < 0 then (num * base.pow exponent.natAbs, den)
  else (num, den * base.pow exponent.natAbs)

/-- The integer nearest to `num / den`; a half goes to the even neighbour. -/
def roundToEven (num den : Nat) : Nat :=
  let quotient := num / den
  let double := 2 * (num % den)
  if double > den ∨ (double = den ∧ quotient % 2 = 1) then quotient + 1 else quotient

/-- The exponent at which `num / den` has a significand of 53 bits, or the least exponent. -/
def exponentOf (num den : Nat) : Int :=
  let guess : Int := (num.log2 : Int) - (den.log2 : Int) - 52
  let (n, d) := scale 2 num den guess
  max leastExponent (if n / d < 1 <<< 52 then guess - 1 else guess)

/-- The number nearest to `num / den`, or nothing where that lies beyond the finite numbers. -/
def nearest (negative : Bool) (num den : Nat) : Option Binary64 :=
  if num = 0 then some ⟨negative, 0, leastExponent⟩
  else
    let exponent := exponentOf num den
    let (n, d) := scale 2 num den exponent
    let rounded := roundToEven n d
    let (significand, exponent) :=
      if rounded = 1 <<< 53 then (1 <<< 52, exponent + 1) else (rounded, exponent)
    if exponent > greatestExponent then none else some ⟨negative, significand, exponent⟩

/-- The magnitude as a fraction. -/
def fraction (x : Binary64) : Nat × Nat := scale 2 x.significand 1 (-x.exponent)

def isZero (x : Binary64) : Bool := x.significand == 0

def neg (x : Binary64) : Binary64 := { x with negative := !x.negative }

/-- The exact product, rounded. -/
def mul (x y : Binary64) : Option Binary64 :=
  nearest (x.negative != y.negative) (x.fraction.1 * y.fraction.1) (x.fraction.2 * y.fraction.2)

/-- The exact quotient, rounded. -/
def div (x y : Binary64) : Option Binary64 :=
  nearest (x.negative != y.negative) (x.fraction.1 * y.fraction.2) (x.fraction.2 * y.fraction.1)

/-- Equal as numbers: the two zeros are one number. -/
def sameNumber (x y : Binary64) : Bool := x == y || (x.isZero && y.isZero)

/-- The largest `k` with `10 ^ k ≤ num / den`, found next to an estimate from binary logarithms. -/
def decimalExponent (num den : Nat) : Int :=
  let guess : Int := ((num.log2 : Int) - (den.log2 : Int)) * 1233 / 4096
  let reaches (k : Int) : Bool := let (n, d) := scale 10 num den k; d ≤ n
  if reaches (guess + 1) then guess + 1 else if reaches guess then guess else guess - 1

/-- The lower and the upper end of the reals that round to `x`, in quarters of its last place. -/
def quarters (x : Binary64) : Nat × Nat :=
  let low := if x.significand = 1 <<< 52 ∧ x.exponent > leastExponent then 1 else 2
  (4 * x.significand - low, 4 * x.significand + 2)

/-- Whether the decimal reads back as `x`; the ends of the interval do for an even significand. -/
def readsBack (x : Binary64) (d : Decimal) : Bool :=
  let (num, den) := scale 10 d.digits 1 (-d.exponent)
  let (num, den) := scale 2 num den (x.exponent - 2)
  let (low, high) := x.quarters
  if x.significand % 2 = 0 then low * den ≤ num && num ≤ high * den
  else low * den < num && num < high * den

/-- Of the two neighbours of `x` with the given number of digits, the nearer one that reads back;
of two that are equally near, the even one. -/
def atLength (x : Binary64) (length : Nat) : Option Decimal :=
  let (num, den) := x.fraction
  let exponent := decimalExponent num den - length + 1
  let (n, d) := scale 10 num den exponent
  let below : Decimal := ⟨n / d, exponent⟩
  let above : Decimal := ⟨n / d + 1, exponent⟩
  let near : Decimal := ⟨roundToEven n d, exponent⟩
  if x.readsBack near then some near
  else if x.readsBack below then some below
  else if x.readsBack above then some above
  else none

/-- The fewest digits that read back as `x`; seventeen are always enough. -/
def shortest (x : Binary64) : Decimal :=
  if x.isZero then ⟨0, 0⟩
  else ((List.range 17).findSome? fun n => x.atLength (n + 1)).getD ⟨0, 0⟩

/-- Without the zeros at the end. -/
def trim : Nat → Decimal → Decimal
  | 0, d => d
  | fuel + 1, d =>
    if d.digits % 10 = 0 ∧ d.digits ≠ 0 then trim fuel ⟨d.digits / 10, d.exponent + 1⟩ else d

/-- Positional, always with a fraction, from `1e-5` up to `1e16`; scientific elsewhere, with the
sign of the exponent and no padding. -/
def text (x : Binary64) : String :=
  let d := trim 20 x.shortest
  let digits := toString d.digits
  let point : Int := digits.length + d.exponent
  let sign := if x.negative then "-" else ""
  let zeros (n : Int) : String := String.ofList (List.replicate n.toNat '0')
  let cut (n : Int) : String × String :=
    (String.ofList (digits.toList.take n.toNat), String.ofList (digits.toList.drop n.toNat))
  let body :=
    if x.isZero then "0.0"
    else if 0 ≤ d.exponent ∧ point ≤ 16 then digits ++ zeros d.exponent ++ ".0"
    else if 0 < point ∧ point ≤ 16 then (cut point).1 ++ "." ++ (cut point).2
    else if -5 < point ∧ point ≤ 0 then "0." ++ zeros (-point) ++ digits
    else
      let exponent := point - 1
      let mark := "e" ++ (if exponent < 0 then "-" else "+") ++ toString exponent.natAbs
      if digits.length = 1 then digits ++ mark else (cut 1).1 ++ "." ++ (cut 1).2 ++ mark
  sign ++ body

end Binary64
end CompositeObjects
