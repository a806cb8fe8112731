import TemplateNav.Lines
import TemplateNav.Template.Tag
import TemplateNav.Text.Blank

/-!
# Code fragments

A fragment is the trimmed body of one tag together with the place it has in the
document.  Fragments come in the order of their start positions.
-/

namespace TemplateNav

/-- The code of one tag and where it stands. -/
structure Fragment where
  /-- The tag's body without surrounding white space. -/
  content : Text
  start : Position
  stop : Position
  tag : Tag
  /-- The byte offset of the content in the document. -/
  offset : Nat
  deriving DecidableEq

namespace Fragment

/-- The fragment of a tag's body, unless the body is blank.

The last line is counted from the first one over the newlines in between. -/
def ofBody? (text : Text) (tag : Tag) (body : Tag.Body) : Option Fragment :=
  let content := Text.trim body.text
  if content.isEmpty then
    none
  else
    let leading := Text.utf8Length body.text - Text.utf8Length (Text.trimStart body.text)
    let offset := body.offset + leading
    let start := Lines.positionOf text offset
    let stop := Lines.positionOf text (offset + Text.utf8Length content)
    some {
      content := content
      start := start
      stop := ⟨start.line + content.count '\n', stop.character⟩
      tag := tag
      offset := offset }

/-- The fragments of a document, ordered by where they start. -/
def extract (text : Text) : List Fragment :=
  let found := Tag.passes.flatMap fun tag => (tag.bodies text).filterMap (ofBody? text tag)
  found.mergeSort fun first second => decide (first.start ≤ second.start)

/-- Whether a fragment reaches beyond its first line. -/
def isMultiLine (fragment : Fragment) : Bool :=
  decide (fragment.start.line < fragment.stop.line)

/-- Whether a cursor touches a fragment.  On a line between the first and the last every column
does, past the line's end as well. -/
def contains (fragment : Fragment) (position : Position) : Bool :=
  if position.line < fragment.start.line || fragment.stop.line < position.line then
    false
  else if !fragment.isMultiLine then
    fragment.start.character ≤ position.character && position.character ≤ fragment.stop.character
  else if position.line = fragment.start.line then
    fragment.start.character ≤ position.character
  else if position.line = fragment.stop.line then
    position.character ≤ fragment.stop.character
  else
    true

/-- The numbered lines of the content, without line ends. -/
def lines (fragment : Fragment) : List (Nat × Text) :=
  ((Lines.raw fragment.content).map Lines.withoutReturn).zipIdx.map fun (line, index) =>
    (index, line)

/-- The document position of a byte column on a content line.  A column that is no character
boundary of the line means the line's end. -/
def positionInLine (fragment : Fragment) (index : Nat) (line : Text) (column : Nat) : Position :=
  let before := ((Text.splitAtByte? column line).map Prod.fst).getD line
  let base := if index = 0 then fragment.start.character else 0
  ⟨fragment.start.line + index, base + Text.utf16Length before⟩

/-- The first fragment a cursor touches. -/
def at? (fragments : List Fragment) (position : Position) : Option Fragment :=
  fragments.find? fun fragment => fragment.contains position

end Fragment

end TemplateNav
