import TemplateNav.Decimal.Shortest

/-!
# How a number is laid out

A number of ordinary size is written with a point and at least one digit on both
sides of it.  A very large or very small one is written with one digit before
the point, if any digits follow, and the power of ten behind an `e`.
-/

namespace TemplateNav

namespace Decimal

/-- The powers of ten of a leading digit between which a number is of ordinary size. -/
structure Layout where
  least : Int
  greatest : Int
  deriving DecidableEq

namespace Scaled

/-- The power of ten of the leading digit. -/
def magnitude (scaled : Scaled) : Int :=
  scaled.exponent + (Nat.toDigits 10 scaled.digits).length - 1

/-- A decimal with a point and at least one digit on both sides of it. -/
def positional (scaled : Scaled) : List Char :=
  if 0 ≤ scaled.exponent then
    Nat.toDigits 10 (scaled.digits * Nat.pow 10 scaled.exponent.toNat) ++ ['.', '0']
  else
    let places := (-scaled.exponent).toNat
    Nat.toDigits 10 (scaled.digits / Nat.pow 10 places) ++ '.' ::
      padded places (scaled.digits % Nat.pow 10 places)

/-- A decimal with one digit before the point, and its power of ten with a sign. -/
def scientific (scaled : Scaled) : List Char :=
  let digits := Nat.toDigits 10 scaled.digits
  let fraction := digits.drop 1
  let power := scaled.magnitude
  digits.take 1 ++ (if fraction.isEmpty then [] else '.' :: fraction) ++
    ['e', if power < 0 then '-' else '+'] ++ Nat.toDigits 10 power.natAbs

end Scaled

/-- Writes a decimal as its size demands. -/
def Layout.write (layout : Layout) (scaled : Scaled) : List Char :=
  if layout.least ≤ scaled.magnitude && scaled.magnitude ≤ layout.greatest then scaled.positional
  else scaled.scientific

/-- A finite number in the fewest digits that read back. -/
def Layout.render (layout : Layout) (x : Float) : String :=
  let value := Dyadic.ofFloat x
  let digits :=
    if value.significand = 0 then ['0', '.', '0']
    else layout.write (shortest value.significand value.exponent)
  String.ofList ((if value.isNegative then ['-'] else []) ++ digits)

end Decimal

end TemplateNav
