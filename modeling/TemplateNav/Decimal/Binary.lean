/-!
# Binary fractions

A finite floating-point number is a signed whole number times a power of two.
Exact arithmetic on these two numbers decides how it is written.
-/

namespace TemplateNav

/-- The number `significand * 2 ^ exponent`, negated if `isNegative`. -/
structure Dyadic where
  isNegative : Bool
  significand : Nat
  exponent : Int
  deriving DecidableEq

namespace Dyadic

/-- The value of a finite floating-point number, read off its bits. -/
def ofFloat (x : Float) : Dyadic :=
  let bits : Nat := x.toBits.toNat
  let biased : Nat := bits / Nat.pow 2 52 % Nat.pow 2 11
  let fraction : Nat := bits % Nat.pow 2 52
  let isNegative := bits / Nat.pow 2 63 = 1
  if biased = 0 then ⟨isNegative, fraction, -1074⟩
  else ⟨isNegative, fraction + Nat.pow 2 52, (biased : Int) - 1075⟩

/-- Numerator and denominator of `significand * 2 ^ exponent`. -/
def ratio (significand : Nat) (exponent : Int) : Nat × Nat :=
  (significand * Nat.pow 2 exponent.toNat, Nat.pow 2 (-exponent).toNat)

end Dyadic

/-- The floating-point number nearest to a natural number, a tie going to the even one.

The conversion of 64-bit words rounds that way; a longer number is first cut to
63 bits, and the last of these is set if anything was cut off, which keeps it on
its side of every tie. -/
def nearestFloat (n : Nat) : Float :=
  if n < UInt64.size then
    n.toUInt64.toFloat
  else
    let cut := n.log2 - 62
    let kept := n / Nat.pow 2 cut
    let marked := if n % Nat.pow 2 cut = 0 then kept else kept ||| 1
    marked.toUInt64.toFloat.scaleB cut

end TemplateNav
