import Provisioning.Binary64.Basic

/-!
# The shortest decimal of a number

A number is shown by the fewest digits that read back as it, and of those the nearest.  The digits
are found in exact arithmetic: on each decimal grid, from coarse to fine, only the two neighbours of
the number are tried.
-/

namespace Provisioning.Binary64

/-- The magnitudes that round to a number: four times the number and its two borders over a common
denominator.  The borders belong to it when the significand is even. -/
structure Interval where
  low : Nat
  middle : Nat
  high : Nat
  denominator : Nat
  closed : Bool

/-- The interval of magnitudes that round to the number.  Below a power of two the next number is
only half as far. -/
def interval (number : Binary64) : Interval :=
  let scale (part : Nat) : Nat :=
    if 0 ≤ number.exponent then part * twoTo number.exponent.toNat else part
  let below := if number.significand = twoTo 52 ∧ minExponent < number.exponent then 1 else 2
  { low := scale (4 * number.significand - below)
    middle := scale (4 * number.significand)
    high := scale (4 * number.significand + 2)
    denominator := 4 * (if 0 ≤ number.exponent then 1 else twoTo (-number.exponent).toNat)
    closed := number.significand % 2 == 0 }

/-- Whether `digits * 10 ^ power` lies in the interval. -/
def Interval.contains (interval : Interval) (digits : Nat) (power : Int) : Bool :=
  let up := if 0 ≤ power then tenTo power.toNat else 1
  let down := if 0 ≤ power then 1 else tenTo (-power).toNat
  let candidate := digits * up * interval.denominator
  let low := interval.low * down
  let high := interval.high * down
  if interval.closed then low ≤ candidate && candidate ≤ high
  else low < candidate && candidate < high

/-- The neighbours of the middle on the grid of multiples of `10 ^ power`: the one not above it, and
whether the one above is strictly nearer, or equally near and even. -/
def Interval.neighbours (interval : Interval) (power : Int) : Nat × Bool :=
  let up := if 0 ≤ power then tenTo power.toNat else 1
  let down := if 0 ≤ power then 1 else tenTo (-power).toNat
  let numerator := interval.middle * down
  let denominator := interval.denominator * up
  let floor := numerator / denominator
  let rest := numerator % denominator
  (floor, denominator < 2 * rest || (denominator == 2 * rest && floor % 2 == 1))

/-- The best neighbour on one grid that reads back as the number. -/
def Interval.onGrid (interval : Interval) (power : Int) : Option Nat :=
  let (floor, upper) := interval.neighbours power
  match interval.contains floor power, interval.contains (floor + 1) power with
  | true, true => some (if upper then floor + 1 else floor)
  | true, false => some floor
  | false, true => some (floor + 1)
  | false, false => none

/-- The coarsest grid with a hit, from the given power of ten downwards. -/
def Interval.search (interval : Interval) (power : Int) : Nat → Nat × Int
  | 0 => (interval.neighbours power |>.1, power)
  | grids + 1 =>
      match interval.onGrid power with
      | some digits => (digits, power)
      | none => interval.search (power - 1) grids

/-- The digits without trailing zeros, and the power of ten that they count. -/
def stripZeros : Nat → Nat × Int → Nat × Int
  | 0, decimal => decimal
  | fuel + 1, (digits, power) =>
      if digits ≠ 0 ∧ digits % 10 = 0 then stripZeros fuel (digits / 10, power + 1)
      else (digits, power)

/-- The fewest digits that read back as the number, the nearest of those, and their power of
ten. -/
def shortest (number : Binary64) : Nat × Int :=
  if number.significand = 0 then (0, 0)
  else
    let interval := number.interval
    let bits : Int := (interval.middle.log2 : Int) - interval.denominator.log2
    let coarse : Int := bits * 30103 / 100000 + 2
    stripZeros 400 (interval.search coarse 22)

/-- The exponent of a number in scientific form: always with a sign, never padded. -/
def exponentText (exponent : Int) : String :=
  if exponent < 0 then "e-" ++ toString (-exponent).toNat else "e+" ++ toString exponent.toNat

/-- Places before the point up to which a number is written out. -/
def positionalLimit : Int := 16

/-- The digits of a magnitude: written out, always with a point, from five zeros after the point
up to `positionalLimit` places before it, and in scientific form beyond. -/
def magnitudeText (digits : Nat) (power : Int) : String :=
  let text := (toString digits).toList
  let point : Int := text.length + power
  let zeros (count : Int) : List Char := List.replicate count.toNat '0'
  if 0 ≤ power ∧ point ≤ positionalLimit then
    String.ofList (text ++ zeros power ++ ['.', '0'])
  else if 0 < point ∧ point ≤ positionalLimit then
    String.ofList (text.take point.toNat ++ '.' :: text.drop point.toNat)
  else if -5 < point ∧ point ≤ 0 then
    String.ofList ('0' :: '.' :: zeros (-point) ++ text)
  else
    let mantissa := match text with
      | [single] => [single]
      | first :: rest => first :: '.' :: rest
      | [] => []
    String.ofList mantissa ++ exponentText (point - 1)

def text (number : Binary64) : String :=
  let (digits, power) := number.shortest
  (if number.negative then "-" else "") ++ magnitudeText digits power

end Provisioning.Binary64
