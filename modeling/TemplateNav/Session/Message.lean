import TemplateNav.Cache.Command
import TemplateNav.Decimal.Fixed
import TemplateNav.Query.Tracker
import TemplateNav.Settings.Decode

/-!
# Messages to the client

What a session tells its client unasked: that navigation has become slow, that a
query got no answer, or that settings were refused.
-/

namespace TemplateNav

/-- How a client treats a message. -/
inductive Channel where
  /-- Written to the client's log. -/
  | log
  /-- Shown to the user. -/
  | display
  deriving DecidableEq

/-- How grave a message is. -/
inductive Severity where
  | error
  | warning
  deriving DecidableEq

/-- The number of a severity. -/
def Severity.code : Severity → Nat
  | error => 1
  | warning => 2

/-- What a client is told. -/
inductive Message where
  /-- Navigation has become slow. -/
  | slow (averageMs p95Ms : Float)
  /-- A query ran longer than its budget, in milliseconds. -/
  | overBudget (kind : QueryKind) (uri : Uri) (budget : Nat)
  /-- A query broke off with a fault. -/
  | failed (kind : QueryKind) (uri : Uri) (fault : String)
  /-- Settings could not be read. -/
  | refused (error : SettingsError)

namespace Message

/-- Only refused settings are shown to the user. -/
def channel : Message → Channel
  | refused _ => .display
  | _ => .log

/-- Only a fault is an error. -/
def severity : Message → Severity
  | failed .. => .error
  | _ => .warning

/-- The wording of a message. -/
def text : Message → String
  | slow averageMs p95Ms =>
    "EJS navigation is slow (average " ++ Decimal.fixed 1 averageMs ++ "ms, p95 " ++
      Decimal.fixed 1 p95Ms ++ "ms). Run " ++ Command.performanceReport ++ " for details."
  | overBudget kind uri budget =>
    kind.label ++ " query for " ++ uri.text ++ s!" exceeded the {budget}ms budget"
  | failed kind uri fault =>
    kind.label ++ " query for " ++ uri.text ++ " failed: analysis task failed: task N panicked " ++
      "with message " ++ String.ofList (Text.quoted fault.toList)
  | refused error => "Ignoring invalid ejs configuration: " ++ error.message

end Message

end TemplateNav
