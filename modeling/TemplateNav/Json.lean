import TemplateNav.Members

/-!
# Settings values

The values that clients send as settings and command arguments.  Whole numbers
and fractions are told apart, because only whole numbers are accepted as
settings.
-/

namespace TemplateNav

/-- A structured value sent by a client. -/
inductive Json where
  | null
  | bool (value : Bool)
  | integer (value : Int)
  | decimal (value : Float)
  | string (value : String)
  | array (items : List Json)
  /-- Named members, each name once. -/
  | object (members : Members Json)
  deriving Inhabited

namespace Json

/-- The object with the given members; of two with one name the later counts. -/
def ofMembers (members : List (String × Json)) : Json :=
  object (.ofList members)

/-- The member of a value with a name, if the value is an object that has it. -/
def member? (json : Json) (name : String) : Option Json :=
  match json with
  | object members => members.lookup name
  | _ => none

end Json

end TemplateNav
