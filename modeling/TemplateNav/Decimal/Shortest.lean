import TemplateNav.Decimal.Fixed

/-!
# The shortest decimal that reads back

A floating-point number stands for all reals that round to it.  It is written
with the fewest digits that still name one of these reals, and of two such
decimals with the one nearer to the number.  If both are equally near, the one
with the even last digit is taken.
-/

namespace TemplateNav

namespace Decimal

/-- The number `digits * 10 ^ exponent`. -/
structure Scaled where
  digits : Nat
  exponent : Int
  deriving DecidableEq

/-- Whether `digits * 10 ^ exponent` is at most `numerator / denominator`. -/
def Scaled.atMost (scaled : Scaled) (numerator denominator : Nat) : Bool :=
  scaled.digits * Nat.pow 10 scaled.exponent.toNat * denominator ≤
    numerator * Nat.pow 10 (-scaled.exponent).toNat

/-- Whether `digits * 10 ^ exponent` is at least `numerator / denominator`. -/
def Scaled.atLeast (scaled : Scaled) (numerator denominator : Nat) : Bool :=
  numerator * Nat.pow 10 (-scaled.exponent).toNat ≤
    scaled.digits * Nat.pow 10 scaled.exponent.toNat * denominator

/-- The reals that round to a number, as three numerators over one denominator: the least real, the
number itself and the greatest real.  The ends belong to the interval iff `isClosed`. -/
structure Interval where
  low : Nat
  value : Nat
  high : Nat
  denominator : Nat
  isClosed : Bool

/-- The reals that round to `significand * 2 ^ exponent`.  The gap below a power of two is half the
gap above it, except at the least exponent. -/
def Interval.around (significand : Nat) (exponent : Int) : Interval :=
  let (unit, denominator) := Dyadic.ratio 1 (exponent - 2)
  let below := if significand = Nat.pow 2 52 && -1074 < exponent then 1 else 2
  ⟨(4 * significand - below) * unit, 4 * significand * unit, (4 * significand + 2) * unit,
    denominator, significand % 2 = 0⟩

/-- Whether a decimal names one of the reals of an interval. -/
def Interval.names (interval : Interval) (scaled : Scaled) : Bool :=
  if interval.isClosed then
    scaled.atLeast interval.low interval.denominator &&
      scaled.atMost interval.high interval.denominator
  else
    !scaled.atMost interval.low interval.denominator &&
      !scaled.atLeast interval.high interval.denominator

/-- The exponent of the leading decimal digit of `numerator / denominator`, which is not zero. -/
def leadingExponent (numerator denominator : Nat) : Int :=
  if denominator ≤ numerator then
    ((Nat.toDigits 10 (numerator / denominator)).length : Int) - 1
  else
    let enough (places : Nat) : Bool := denominator ≤ numerator * Nat.pow 10 places
    Int.neg (((List.range 400).find? enough).getD 400)

/-- The decimal just below a quotient on the grid of multiples of `10 ^ exponent`. -/
def below (numerator denominator : Nat) (exponent : Int) : Scaled :=
  ⟨numerator * Nat.pow 10 (-exponent).toNat / (denominator * Nat.pow 10 exponent.toNat), exponent⟩

/-- The neighbour of an interval's number on a grid that names a real of the interval.  If both do,
it is the nearer one, and the even one at a tie. -/
def onGrid? (interval : Interval) (exponent : Int) : Option Scaled :=
  let lower := below interval.value interval.denominator exponent
  let upper : Scaled := ⟨lower.digits + 1, exponent⟩
  match interval.names lower, interval.names upper with
  | true, true =>
    let middle : Scaled := ⟨(2 * lower.digits + 1) * 5, exponent - 1⟩
    if !middle.atLeast interval.value interval.denominator then some upper
    else if !middle.atMost interval.value interval.denominator then some lower
    else some (if lower.digits % 2 = 0 then lower else upper)
  | true, false => some lower
  | false, true => some upper
  | false, false => none

/-- A decimal without zeros at its end; `fuel` bounds their number. -/
def Scaled.withoutZeros : (fuel : Nat) → Scaled → Scaled
  | 0, scaled => scaled
  | fuel + 1, scaled =>
    if scaled.digits ≠ 0 && scaled.digits % 10 = 0 then
      withoutZeros fuel ⟨scaled.digits / 10, scaled.exponent + 1⟩
    else
      scaled

/-- The shortest decimal that reads back as `significand * 2 ^ exponent`, which is not zero. -/
def shortest (significand : Nat) (exponent : Int) : Scaled :=
  let interval := Interval.around significand exponent
  let leading := leadingExponent interval.value interval.denominator
  let found := (List.range 17).findSome? fun (more : Nat) => onGrid? interval (leading - more)
  (found.getD (below interval.value interval.denominator (leading - 16))).withoutZeros 20

end Decimal

end TemplateNav
