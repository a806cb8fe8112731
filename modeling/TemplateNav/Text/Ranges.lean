import TemplateNav.Text.Basic

/-!
# Character classes given by ranges of code points
-/

namespace TemplateNav

namespace Text

/-- Whether a character's code point lies in one of the given closed ranges. -/
def inRanges (ranges : List (Nat × Nat)) (c : Char) : Bool :=
  ranges.any fun (low, high) => low ≤ c.toNat && c.toNat ≤ high

end Text

end TemplateNav
