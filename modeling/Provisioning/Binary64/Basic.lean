/-!
# Finite double-precision numbers

A finite number of 53 significant bits as an exact value: a sign and `significand * 2 ^ exponent`.
Rounding is to the nearest such number, a tie to the even one, in exact arithmetic.  A number written
in decimal is taken as its leading digits that fit into 64 bits, scaled by powers of ten, with one
rounding for each of these steps.
-/

namespace Provisioning

/-- A finite number of double precision.  The significand is below `2 ^ 53`, and it is at least
`2 ^ 52` unless the exponent is the smallest one, `-1074`. -/
structure Binary64 where
  negative : Bool
  significand : Nat
  exponent : Int
  deriving DecidableEq, Repr

namespace Binary64

def twoTo (exponent : Nat) : Nat := Nat.pow 2 exponent

def tenTo (exponent : Nat) : Nat := Nat.pow 10 exponent

/-- The exponent of the smallest numbers. -/
def minExponent : Int := -1074

/-- The exponent of the largest numbers. -/
def maxExponent : Int := 971

/-- A positive magnitude as a quotient of two natural numbers. -/
structure Quotient where
  numerator : Nat
  denominator : Nat

def Quotient.scaleDown (quotient : Quotient) (exponent : Int) : Quotient :=
  if 0 ≤ exponent then
    { quotient with denominator := quotient.denominator * twoTo exponent.toNat }
  else
    { quotient with numerator := quotient.numerator * twoTo (-exponent).toNat }

/-- The natural number nearest to the quotient, the even one of two that are equally near. -/
def Quotient.nearest (quotient : Quotient) : Nat :=
  let whole := quotient.numerator / quotient.denominator
  let rest := quotient.numerator % quotient.denominator
  if 2 * rest < quotient.denominator then whole
  else if quotient.denominator < 2 * rest then whole + 1
  else if whole % 2 == 0 then whole
  else whole + 1

/-- The exponent at which the quotient has 53 bits, no smaller than the smallest exponent. -/
def Quotient.exponent (quotient : Quotient) : Int :=
  let guess : Int := (quotient.numerator.log2 : Int) - quotient.denominator.log2 - 53
  let scaled := quotient.scaleDown guess
  let exponent := if scaled.numerator / scaled.denominator < twoTo 53 then guess else guess + 1
  max minExponent exponent

/-- The number nearest to a magnitude with a sign; nothing where the magnitude is too large. -/
def ofQuotient (negative : Bool) (quotient : Quotient) : Option Binary64 :=
  if quotient.numerator = 0 then
    some ⟨negative, 0, minExponent⟩
  else
    let exponent := quotient.exponent
    let rounded := (quotient.scaleDown exponent).nearest
    let (significand, exponent) :=
      if rounded = twoTo 53 then (twoTo 52, exponent + 1) else (rounded, exponent)
    if maxExponent < exponent then none else some ⟨negative, significand, exponent⟩

def quotient (number : Binary64) : Quotient :=
  if 0 ≤ number.exponent then
    ⟨number.significand * twoTo number.exponent.toNat, 1⟩
  else
    ⟨number.significand, twoTo (-number.exponent).toNat⟩

def ofNat (negative : Bool) (number : Nat) : Option Binary64 :=
  ofQuotient negative ⟨number, 1⟩

/-- The product of two numbers, rounded, with the sign of the first. -/
def times (left right : Binary64) : Option Binary64 :=
  ofQuotient left.negative
    ⟨left.quotient.numerator * right.quotient.numerator,
      left.quotient.denominator * right.quotient.denominator⟩

/-- The quotient of two numbers, rounded, with the sign of the first. -/
def dividedBy (left right : Binary64) : Option Binary64 :=
  ofQuotient left.negative
    ⟨left.quotient.numerator * right.quotient.denominator,
      left.quotient.denominator * right.quotient.numerator⟩

/-- The largest power of ten that is a number of this precision. -/
def maxPower : Nat := 308

/-- The number times `10 ^ power`, scaled in steps of at most `maxPower` places.  Nothing where the
outcome is too large; steps below every magnitude leave zero. -/
def scaleByTen (number : Binary64) (power : Int) : Option Binary64 :=
  if number.significand = 0 then
    some number
  else if (maxPower : Int) < power then
    none
  else if 0 ≤ power then do
    number.times (← ofNat false (tenTo power.toNat))
  else
    divide (-power).toNat 3 number
where
  /-- Division in steps: after three steps of `maxPower` places nothing but zero is left. -/
  divide (places : Nat) : Nat → Binary64 → Option Binary64
    | 0, number => some { number with significand := 0, exponent := minExponent }
    | steps + 1, number =>
        if maxPower < places then do
          divide (places - maxPower) steps (← number.dividedBy (← ofNat false (tenTo maxPower)))
        else do
          number.dividedBy (← ofNat false (tenTo places))

/-! ## Reading a decimal -/

/-- The digits taken onto a significand for as long as it fits into 64 bits, and their count. -/
def takeFitting (significand : Nat) : List Char → Nat × Nat
  | [] => (significand, 0)
  | digit :: rest =>
      let next := 10 * significand + (digit.toNat - '0'.toNat)
      if next < twoTo 64 then
        let (taken, count) := takeFitting next rest
        (taken, count + 1)
      else
        (significand, 0)

/-- The number written with the given digits before and after the point and the given power of
ten.  Digits before the point that do not fit shift the rest; digits after it are dropped. -/
def ofDecimal (negative : Bool) (before after : List Char) (power : Int) : Option Binary64 := do
  let (whole, taken) := takeFitting 0 before
  let (significand, places) := takeFitting whole after
  let shift : Int := ((before.length - taken : Nat) : Int) - places
  (← ofNat negative significand).scaleByTen (shift + power)

end Binary64

end Provisioning
