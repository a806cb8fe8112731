import TemplateNav.Cache.Basic
import TemplateNav.Json
import TemplateNav.Uri.Basic

/-!
# Commands

The commands a client may send: one reports latency and cache figures, one drops
stored analyses, of one document or of all.  How the address of a document is
read is up to the caller.
-/

namespace TemplateNav

/-- What a command answers. -/
inductive CommandAnswer where
  | report (report : PerformanceReport)
  | done

/-- Why a command was refused. -/
inductive CommandError where
  /-- The argument is no text. -/
  | notText
  /-- The argument is no address, for the reason given. -/
  | badUri (cause : String)
  /-- There is no such command. -/
  | unknown (command : String)
  deriving DecidableEq

namespace CommandError

/-- The message for a client. -/
def message : CommandError → String
  | notText => "Expected a document URI string"
  | badUri cause => "Invalid document URI: " ++ cause
  | unknown command => "Unknown command: " ++ command

/-- The code for invalid parameters, which all refusals have. -/
def code : Int := -32602

end CommandError

namespace Command

/-- Reports latency and cache figures. -/
def performanceReport : String := "ejs.performanceReport"

/-- Drops stored analyses. -/
def clearCache : String := "ejs.clearCache"

/-- All commands. -/
def all : List String := [performanceReport, clearCache]

end Command

namespace Cache

/-- Drops the analyses of the document in the first argument, or all without one. -/
def clear (cache : Cache) (readUri : UriReader) (arguments : List Json) :
    Except CommandError Cache :=
  match arguments.head? with
  | none => .ok cache.invalidateAll
  | some .null => .ok cache.invalidateAll
  | some (.string source) =>
    match readUri source with
    | .ok uri => .ok (cache.invalidate uri)
    | .error cause => .error (.badUri cause)
  | some _ => .error .notText

/-- Runs a command; a refused one changes nothing. -/
def execute (cache : Cache) (readUri : UriReader) (command : String) (arguments : List Json) :
    Except CommandError CommandAnswer × Cache :=
  if command = Command.performanceReport then
    (.ok (.report cache.report), cache)
  else if command = Command.clearCache then
    match cache.clear readUri arguments with
    | .ok cleared => (.ok .done, cleared)
    | .error error => (.error error, cache)
  else
    (.error (.unknown command), cache)

/-- A command drops everything, or what is stored for one document, or nothing. -/
theorem execute_cases (cache : Cache) (readUri : UriReader) (name : String)
    (arguments : List Json) :
    (cache.execute readUri name arguments).2 = cache ∨
      (cache.execute readUri name arguments).2 = cache.invalidateAll ∨
      ∃ uri, (cache.execute readUri name arguments).2 = cache.invalidate uri := by
  have cleared : ∀ after, cache.clear readUri arguments = .ok after →
      after = cache.invalidateAll ∨ ∃ uri, after = cache.invalidate uri := by
    intro after done
    unfold clear at done
    split at done
    · exact .inl (Except.ok.inj done).symm
    · exact .inl (Except.ok.inj done).symm
    · split at done
      · next uri _ => exact .inr ⟨uri, (Except.ok.inj done).symm⟩
      · cases done
    · cases done
  unfold execute
  split
  · exact .inl rfl
  · split
    · split
      · next after done => exact .inr (cleared after done)
      · exact .inl rfl
    · exact .inl rfl

end Cache

end TemplateNav
