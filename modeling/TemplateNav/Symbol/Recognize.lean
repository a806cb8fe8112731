import TemplateNav.Symbol.Rule
import TemplateNav.Template.Fragment

/-!
# The symbols of a document

All rules are applied to all content lines of all fragments.  Overlapping tags
show the same code twice and several rules may match in one place, so a name is
taken once for each position.
-/

namespace TemplateNav

namespace Symbol

/-- The symbols that a rule finds on one content line of a fragment. -/
def ofLine (fragment : Fragment) (index : Nat) (line : Text) (rule : Rule) : List Symbol :=
  (rule.apply line).map fun declaration =>
    declaration.toSymbol (fragment.positionInLine index line declaration.column)

/-- The symbols of one fragment, line by line and rule by rule; blank lines have none. -/
def ofFragment (fragment : Fragment) : List Symbol :=
  fragment.lines.flatMap fun (index, line) =>
    if Text.isBlankText line then [] else Rule.all.flatMap (ofLine fragment index line)

/-- Whether two symbols declare one name in one place. -/
def sameDeclaration (first second : Symbol) : Bool :=
  first.name == second.name && first.position == second.position

/-- Appends a symbol unless its declaration is there already. -/
def insertNew (found : List Symbol) (symbol : Symbol) : List Symbol :=
  if found.any (sameDeclaration symbol) then found else found ++ [symbol]

/-- The symbols of a list of fragments, in the order found and each declaration once. -/
def recognize (fragments : List Fragment) : List Symbol :=
  (fragments.flatMap ofFragment).foldl insertNew []

end Symbol

end TemplateNav
