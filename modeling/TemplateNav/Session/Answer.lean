import TemplateNav.Navigation.Highlight
import TemplateNav.Navigation.Hover
import TemplateNav.Query.Tracker

/-!
# Queries and answers

Clients number lines and columns in 32 bits.  A query asks one thing about a
cursor in a document, and its answer depends on the analysis and the text of that
document alone.
-/

namespace TemplateNav

/-- A position in the numbers of a client. -/
structure ClientPosition where
  line : UInt32
  character : UInt32
  deriving DecidableEq

namespace ClientPosition

/-- A position as clients see it, modulo the size of their numbers. -/
def ofPosition (position : Position) : ClientPosition :=
  ⟨UInt32.ofNat position.line, UInt32.ofNat position.character⟩

/-- The position that a client means. -/
def toPosition (position : ClientPosition) : Position :=
  ⟨position.line.toNat, position.character.toNat⟩

/-- Clients see every position within their numbers as it is. -/
theorem toPosition_ofPosition {position : Position} (line : position.line < UInt32.size)
    (character : position.character < UInt32.size) :
    (ofPosition position).toPosition = position := by
  simp only [ofPosition, toPosition]
  rw [UInt32.toNat_ofNat_of_lt' line, UInt32.toNat_ofNat_of_lt' character]

@[simp] theorem ofPosition_toPosition (position : ClientPosition) :
    ofPosition position.toPosition = position := by
  simp [ofPosition, toPosition]

end ClientPosition

/-- A range in the numbers of a client. -/
structure ClientRange where
  start : ClientPosition
  stop : ClientPosition
  deriving DecidableEq

/-- A range as clients see it. -/
def ClientRange.ofRange (range : Range) : ClientRange :=
  ⟨.ofPosition range.start, .ofPosition range.stop⟩

/-- What a client asks about a cursor. -/
structure Query where
  kind : QueryKind
  uri : Uri
  position : ClientPosition
  deriving DecidableEq

/-- What a client is told about a cursor. -/
inductive Answer where
  /-- Where the symbol is declared. -/
  | definition (uri : Uri) (range : ClientRange)
  /-- What the symbol is, in Markdown, and the word that names it. -/
  | hover (range : ClientRange) (contents : String)
  /-- Where the symbol is used. -/
  | highlights (marks : List (ClientRange × HighlightKind))
  deriving DecidableEq

namespace Analysis

/-- The answer to a query; there is none where the cursor points at no symbol. -/
def answer? (analysis : Analysis) (text : Text) (query : Query) : Option Answer :=
  let position := query.position.toPosition
  match query.kind with
  | .definition =>
    (analysis.definition? text position).map fun range => .definition query.uri (.ofRange range)
  | .hover =>
    (analysis.hover? text position).map fun hover => .hover (.ofRange hover.range) hover.contents
  | .highlight =>
    match analysis.highlights text position with
    | [] => none
    | marks => some (.highlights (marks.map fun mark => (.ofRange mark.range, mark.kind)))

end Analysis

end TemplateNav
