import TemplateNav.Decimal.Binary

/-!
# Decimals with a fixed number of places

The exact value is rounded to the nearest decimal with that many places; a tie
goes to the even last digit.
-/

namespace TemplateNav

namespace Decimal

/-- The whole number nearest to a quotient, a tie going to the even one. -/
def roundDiv (numerator denominator : Nat) : Nat :=
  let quotient := numerator / denominator
  let twice := 2 * (numerator % denominator)
  if denominator < twice || (denominator = twice && quotient % 2 = 1) then quotient + 1
  else quotient

/-- The digits of a natural number, with zeros in front up to `width` digits. -/
def padded (width n : Nat) : List Char :=
  let digits := Nat.toDigits 10 n
  List.replicate (width - digits.length) '0' ++ digits

/-- A finite number written with `places` digits behind the point. -/
def fixed (places : Nat) (x : Float) : String :=
  let value := Dyadic.ofFloat x
  let (numerator, denominator) := Dyadic.ratio value.significand value.exponent
  let scaled := roundDiv (numerator * Nat.pow 10 places) denominator
  let whole := Nat.toDigits 10 (scaled / Nat.pow 10 places)
  let fraction := if places = 0 then [] else '.' :: padded places (scaled % Nat.pow 10 places)
  String.ofList ((if value.isNegative then ['-'] else []) ++ whole ++ fraction)

end Decimal

end TemplateNav
