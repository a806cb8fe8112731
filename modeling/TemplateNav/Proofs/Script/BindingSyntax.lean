import TemplateNav.Proofs.Script.Grammar

/-!
# Binding lists and how they are written

An abstract binding list holds names and nested patterns, with keys, rest dots,
defaults and holes.  It is written with any white space between its tokens, as a
row of pieces of which some are the bound names, so that the row says where each
of the names occurs.  A trailing comma is a hole behind the last comma, and an
empty list is a hole.
-/

namespace TemplateNav

open TemplateNav.Bracket (Balanced LiteralBody)

namespace Binding.Context

/-- The bracket before a pattern's elements. -/
def opener : Context → Char
  | .object => '{'
  | .list => '['

/-- The bracket behind a pattern's elements. -/
def closer : Context → Char
  | .object => '}'
  | .list => ']'

theorem closer?_opener (context : Context) :
    Bracket.closer? context.opener = some context.closer := by
  cases context with
  | object => rfl
  | list => rfl

theorem ofOpener?_opener (context : Context) : ofOpener? context.opener = some context := by
  cases context with
  | object => rfl
  | list => rfl

theorem utf8Length_opener (context : Context) : Text.utf8Length [context.opener] = 1 := by
  cases context with
  | object => rfl
  | list => rfl

end Binding.Context

namespace BindingSyntax

open Binding (Context)

/-- White space between two tokens. -/
structure Gap where
  text : Text
  blank : ∀ c ∈ text, Text.isBlank c = true

structure Name where
  word : Text
  valid : Identifier.isValid word = true

/-- An expression without a comma outside its literals and groups; it may start and end with white
space. -/
structure Expression where
  text : Text
  balanced : Balanced (· ≠ ',') text

/-- A default does not turn the equals sign before it into a comparison or an arrow. -/
structure Default extends Expression where
  assigned : ∀ c ∈ text.head?, c ≠ '=' ∧ c ≠ '>'

/-- Whether a plain key may hold a character: any that does not end it. -/
def isKeyPart (c : Char) : Bool :=
  !Text.isBlank c && !(',' :: ':' :: '=' :: Bracket.marks).contains c

/-- A key without quotes and brackets, such as `name`, `default`, `10`, `0x1F`, `2.5e-3` or, with a
point before it, `.5`. -/
structure PlainKey where
  point : Bool
  first : Char
  rest : Text
  parts : ∀ c ∈ first :: rest, isKeyPart c = true
  noPoint : first ≠ '.'

def PlainKey.text (key : PlainKey) : Text :=
  (if key.point then ['.'] else []) ++ key.first :: key.rest

inductive Key where
  | plain (key : PlainKey)
  | quoted (quote : Char) (body : Text) (isQuote : Bracket.isQuote quote = true)
      (complete : LiteralBody quote body)
  | computed (expression : Expression)

def Key.text : Key → Text
  | .plain key => key.text
  | .quoted quote body _ _ => quote :: (body ++ [quote])
  | .computed expression => '[' :: (expression.text ++ [']'])

/-- What an element binds: one name, or those of a nested pattern. -/
inductive Form where
  | name
  | pattern

/-- What stands before an element's target.  In an object pattern a nested pattern needs a key, and
only there an element has one. -/
inductive Front (context : Context) (form : Form) where
  | bare (fits : context = .object → form = .name)
  | rest (fits : context = .object → form = .name) (gap : Gap)
  | keyed (fits : context = .object) (key : Key) (before after : Gap)

def Front.text {context : Context} {form : Form} : Front context form → Text
  | .bare _ => []
  | .rest _ gap => ['.', '.', '.'] ++ gap.text
  | .keyed _ key before after => key.text ++ before.text ++ ':' :: after.text

/-- What stands behind an element's target. -/
structure Tail where
  gap : Gap
  value : Option Default

def Tail.text (tail : Tail) : Text :=
  match tail.value with
  | none => tail.gap.text
  | some value => tail.gap.text ++ '=' :: value.text

mutual

inductive Target : Form → Type where
  | name (name : Name) : Target .name
  | pattern (context : Context) (elements : Elements context) : Target .pattern

inductive Element : Context → Type where
  | hole {context : Context} (gap : Gap) : Element context
  | binding {context : Context} {form : Form} (gap : Gap) (front : Front context form)
      (target : Target form) (tail : Tail) : Element context

inductive Elements : Context → Type where
  | last {context : Context} (element : Element context) : Elements context
  | cons {context : Context} (element : Element context) (others : Elements context) :
      Elements context

end

/-- A stretch of a written binding list. -/
inductive Piece where
  | plain (text : Text)
  /-- An occurrence of a bound name. -/
  | bound (name : Name)

def Piece.text : Piece → Text
  | .plain text => text
  | .bound name => name.word

/-- The text that the pieces make up. -/
def render (pieces : List Piece) : Text :=
  pieces.flatMap Piece.text

/-- The bound names among the pieces, with the byte offsets they occur at. -/
def occurrences (offset : Nat) : List Piece → List Binding
  | [] => []
  | .plain text :: rest => occurrences (offset + Text.utf8Length text) rest
  | .bound name :: rest =>
    ⟨name.word, offset⟩ :: occurrences (offset + Text.utf8Length name.word) rest

mutual

def Target.pieces {form : Form} : Target form → List Piece
  | .name name => [.bound name]
  | .pattern context elements =>
    .plain [context.opener] :: (elements.pieces ++ [.plain [context.closer]])

def Element.pieces {context : Context} : Element context → List Piece
  | .hole gap => [.plain gap.text]
  | .binding gap front target tail =>
    .plain (gap.text ++ front.text) :: (target.pieces ++ [.plain tail.text])

def Elements.pieces {context : Context} : Elements context → List Piece
  | .last element => element.pieces
  | .cons element others => element.pieces ++ .plain [','] :: others.pieces

end

@[simp] theorem render_nil : render [] = [] := rfl

@[simp] theorem render_plain (text : Text) (rest : List Piece) :
    render (.plain text :: rest) = text ++ render rest := rfl

@[simp] theorem render_bound (name : Name) (rest : List Piece) :
    render (.bound name :: rest) = name.word ++ render rest := rfl

@[simp] theorem render_append (left right : List Piece) :
    render (left ++ right) = render left ++ render right :=
  List.flatMap_append

@[simp] theorem occurrences_nil (offset : Nat) : occurrences offset [] = [] := rfl

@[simp] theorem occurrences_plain (offset : Nat) (text : Text) (rest : List Piece) :
    occurrences offset (.plain text :: rest) = occurrences (offset + Text.utf8Length text) rest :=
  rfl

@[simp] theorem occurrences_bound (offset : Nat) (name : Name) (rest : List Piece) :
    occurrences offset (.bound name :: rest) =
      ⟨name.word, offset⟩ :: occurrences (offset + Text.utf8Length name.word) rest :=
  rfl

theorem occurrences_append (offset : Nat) (left right : List Piece) :
    occurrences offset (left ++ right) =
      occurrences offset left ++ occurrences (offset + Text.utf8Length (render left)) right := by
  induction left generalizing offset with
  | nil => rfl
  | cons piece rest ih =>
    cases piece with
    | plain text => simp [ih, Nat.add_assoc]
    | bound name => simp [ih, Nat.add_assoc]

section Writing

variable {context : Context}

theorem Target.render_name (name : Name) : render (Target.name name).pieces = name.word := by
  simp [Target.pieces]

theorem Target.render_pattern (elements : Elements context) :
    render (Target.pattern context elements).pieces =
      context.opener :: (render elements.pieces ++ [context.closer]) := by
  simp [Target.pieces]

theorem Target.occurrences_pattern (offset : Nat) (elements : Elements context) :
    occurrences offset (Target.pattern context elements).pieces =
      occurrences (offset + 1) elements.pieces := by
  simp [Target.pieces, occurrences_append, context.utf8Length_opener]

theorem Element.render_binding {form : Form} (gap : Gap) (front : Front context form)
    (target : Target form) (tail : Tail) :
    render (Element.binding gap front target tail).pieces =
      gap.text ++ front.text ++ (render target.pieces ++ tail.text) := by
  simp [Element.pieces]

theorem Element.occurrences_binding (offset : Nat) {form : Form} (gap : Gap)
    (front : Front context form) (target : Target form) (tail : Tail) :
    occurrences offset (Element.binding gap front target tail).pieces =
      occurrences (offset + Text.utf8Length (gap.text ++ front.text)) target.pieces := by
  simp [Element.pieces, occurrences_append]

theorem Elements.render_cons (element : Element context) (others : Elements context) :
    render (Elements.cons element others).pieces =
      render element.pieces ++ ',' :: render others.pieces := by
  simp [Elements.pieces]

theorem Elements.occurrences_cons (offset : Nat) (element : Element context)
    (others : Elements context) :
    occurrences offset (Elements.cons element others).pieces =
      occurrences offset element.pieces ++
        occurrences (offset + Text.utf8Length (render element.pieces) + 1) others.pieces := by
  rw [Elements.pieces, occurrences_append, occurrences_plain]
  rfl

end Writing

theorem Gap.balanced (gap : Gap) {stop : Char} (apart : Text.isBlank stop = false) :
    Balanced (· ≠ stop) gap.text :=
  .of_class gap.blank (by rw [List.any_cons, apart]; rfl)

theorem Name.balanced (name : Name) {stop : Char} (apart : Identifier.isPart stop = false) :
    Balanced (· ≠ stop) name.word :=
  .of_class (Identifier.isPart_of_isValid name.valid) (by rw [List.any_cons, apart]; rfl)

theorem PlainKey.isKeyPart_of_mem {key : PlainKey} {c : Char} (member : c ∈ key.text) :
    isKeyPart c = true := by
  rcases List.mem_append.1 member with point | others
  · split at point
    · obtain rfl := List.mem_singleton.1 point
      rfl
    · cases point
  · exact key.parts c others

theorem Key.balanced (key : Key) {stop : Char} (apart : isKeyPart stop = false) :
    Balanced (· ≠ stop) key.text := by
  cases key with
  | plain key =>
    exact .of_class (fun _ => PlainKey.isKeyPart_of_mem) (by rw [List.any_cons, apart]; rfl)
  | quoted quote body isQuote complete => exact .quoted isQuote complete
  | computed expression => exact .bracketed rfl (expression.balanced.mono fun _ _ => trivial)

theorem Front.balanced {context : Context} {form : Form} (front : Front context form) :
    Balanced (· ≠ ',') front.text := by
  cases front with
  | bare => exact .nil
  | rest _ gap =>
    have dots : Balanced (· ≠ ',') ['.', '.', '.'] :=
      .of_class (List.all_eq_true.1 (rfl : ['.', '.', '.'].all isKeyPart = true)) rfl
    exact dots.append (gap.balanced rfl)
  | keyed _ key before after =>
    exact ((key.balanced rfl).append (before.balanced rfl)).append
      (.other ⟨rfl, rfl, rfl⟩ (by decide) (after.balanced rfl))

theorem Tail.balanced (tail : Tail) : Balanced (· ≠ ',') tail.text := by
  unfold Tail.text
  split
  · exact tail.gap.balanced rfl
  · next value _ =>
    exact (tail.gap.balanced rfl).append (.other ⟨rfl, rfl, rfl⟩ (by decide) value.balanced)

mutual

theorem Target.balanced {form : Form} (target : Target form) {stop : Char}
    (apart : Identifier.isPart stop = false) : Balanced (· ≠ stop) (render target.pieces) := by
  match target with
  | .name name =>
    rw [Target.render_name]
    exact name.balanced apart
  | .pattern context elements =>
    rw [Target.render_pattern]
    exact .bracketed context.closer?_opener elements.balanced

theorem Element.balanced {context : Context} (element : Element context) :
    Balanced (· ≠ ',') (render element.pieces) := by
  match element with
  | .hole gap => simpa [Element.pieces] using gap.balanced rfl
  | .binding gap front target tail =>
    rw [Element.render_binding]
    exact ((gap.balanced rfl).append front.balanced).append
      ((target.balanced rfl).append tail.balanced)

theorem Elements.balanced {context : Context} (elements : Elements context) :
    Balanced (fun _ => True) (render elements.pieces) := by
  match elements with
  | .last element => exact element.balanced.mono fun _ _ => trivial
  | .cons element others =>
    rw [Elements.render_cons]
    exact (element.balanced.mono fun _ _ => trivial).append
      (.other ⟨rfl, rfl, rfl⟩ trivial others.balanced)

end

end BindingSyntax

end TemplateNav
