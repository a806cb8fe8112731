import TemplateNav.Text.Scan

/-!
# Template tags

Code stands in a template between an opener and the delimiter `%>`.  A bare
opener's body may not begin with `=` or `-`, which make the other two kinds.
Each kind is looked for in its own pass over the whole text, so a bare opener
inside the body of another tag is found as well.
-/

namespace TemplateNav

/-- The three kinds of tag. -/
inductive Tag where
  /-- Code that is run: `<% code %>`. -/
  | scriptlet
  /-- A value that is written escaped: `<%= value %>`. -/
  | output
  /-- A value that is written as it is: `<%- value %>`. -/
  | unescapedOutput
  deriving DecidableEq

namespace Tag

/-- The body up to the first closing delimiter, and the text behind that delimiter. -/
def untilClose? : Text → Option (Text × Text)
  | [] => none
  | '%' :: '>' :: rest => some ([], rest)
  | c :: rest => (untilClose? rest).map fun (body, after) => (c :: body, after)

/-- The characters that open a tag. -/
def opener : Tag → Text
  | scriptlet => ['<', '%']
  | output => ['<', '%', '=']
  | unescapedOutput => ['<', '%', '-']

/-- The body behind an opener.

A bare tag takes its first body character before it looks for the closing
delimiter, so a body may begin with that delimiter; only when nothing closes it
then is an empty body read. -/
def body? (tag : Tag) (text : Text) : Option Text :=
  match tag with
  | scriptlet =>
    let longer :=
      match text with
      | [] => none
      | c :: rest =>
        if c = '=' || c = '-' then none else (untilClose? rest).map fun (body, _) => c :: body
    longer <|> (Text.dropLead? ['%', '>'] text).map fun _ => []
  | _ => (untilClose? text).map Prod.fst

/-- One tag found in a text: where its body starts, in bytes, and the body. -/
structure Body where
  offset : Nat
  text : Text
  deriving DecidableEq

/-- Reads a tag of one kind at the head of `text`; the answer's width spans both delimiters. -/
def recognize (tag : Tag) (before text : Text) : Option (Body × Nat) := do
  let inside ← Text.dropLead? tag.opener text
  let body ← tag.body? inside
  return (⟨Text.utf8Length before + Text.utf8Length tag.opener, body⟩,
    tag.opener.length + body.length + 2)

/-- The bodies of all tags of one kind, in textual order. -/
def bodies (tag : Tag) (text : Text) : List Body :=
  Text.scan tag.recognize text

/-- The order of the passes. -/
def passes : List Tag :=
  [unescapedOutput, output, scriptlet]

end Tag

end TemplateNav
