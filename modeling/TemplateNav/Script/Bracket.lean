import TemplateNav.Text.Basic

/-!
# Brackets and string literals

Just enough of the script language to stay on the top level of a list: three
pairs of brackets, and string literals in three kinds of quotes, in which a
backslash takes the next character with it.
-/

namespace TemplateNav

namespace Bracket

/-- The bracket that closes an opening one. -/
def closer? (c : Char) : Option Char :=
  if c = '(' then some ')'
  else if c = '[' then some ']'
  else if c = '{' then some '}'
  else none

/-- The bracket that opens a closing one. -/
def opener? (c : Char) : Option Char :=
  if c = ')' then some '('
  else if c = ']' then some '['
  else if c = '}' then some '{'
  else none

/-- Whether a character delimits string literals. -/
def isQuote (c : Char) : Bool :=
  c == '"' || c == '\'' || c == '\x60'

/-- What a scan is inside of. -/
inductive Mode where
  /-- Code outside string literals. -/
  | code
  /-- A string literal that the given quote ends. -/
  | literal (quote : Char)
  /-- Just behind a backslash in such a literal. -/
  | escape (quote : Char)
  deriving DecidableEq

/-- What a scan is inside of behind one more character. -/
def Mode.next : Mode → Char → Mode
  | code, c => if isQuote c then literal c else code
  | literal quote, c =>
    if c = '\\' then escape quote else if c = quote then code else literal quote
  | escape quote, _ => literal quote

/-- The closing brackets still to come, the innermost first, and what the scan is inside of. -/
structure Pending where
  awaited : List Char
  mode : Mode
  deriving DecidableEq

/-- What is pending behind one more character; nothing, when a closing bracket comes out of turn. -/
def Pending.next? (pending : Pending) (c : Char) : Option Pending :=
  if pending.mode = .code then
    match closer? c, pending.awaited with
    | some closer, awaited => some ⟨closer :: awaited, .code⟩
    | none, awaited =>
      if (opener? c).isSome then
        match awaited with
        | [] => none
        | expected :: outer => if c = expected then some ⟨outer, .code⟩ else none
      else
        some ⟨awaited, pending.mode.next c⟩
  else
    some ⟨pending.awaited, pending.mode.next c⟩

/-- Reads up to the bracket behind which nothing is awaited any more: the text before that bracket
and the text behind it. -/
def untilClosed? (pending : Pending) : Text → Option (Text × Text)
  | [] => none
  | c :: rest =>
    match pending.next? c with
    | none => none
    | some pending =>
      if pending.awaited.isEmpty then some ([], rest)
      else (untilClosed? pending rest).map fun (inside, after) => (c :: inside, after)

/-- Splits a text that starts with a bracketed group into the group's inside and what follows. -/
def group? : Text → Option (Text × Text)
  | [] => none
  | c :: rest => do untilClosed? ⟨[← closer? c], .code⟩ rest

/-- The opening brackets still to come when reading backwards, behind one more character.  String
literals are not seen from behind. -/
def nextOpener? (awaited : List Char) (c : Char) : Option (List Char) :=
  match opener? c with
  | some opener => some (opener :: awaited)
  | none =>
    if (closer? c).isSome then
      match awaited with
      | [] => none
      | expected :: outer => if c = expected then some outer else none
    else
      some awaited

/-- Reads reversed text up to the bracket behind which nothing is awaited any more: the characters
before that bracket and those beyond it. -/
def untilOpened? (awaited : List Char) : Text → Option (Text × Text)
  | [] => none
  | c :: rest =>
    match nextOpener? awaited c with
    | none => none
    | some awaited =>
      if awaited.isEmpty then some ([], rest)
      else (untilOpened? awaited rest).map fun (inside, beyond) => (c :: inside, beyond)

/-- Splits reversed text that starts with a closing bracket into the group's inside and what stands
before the group, both reversed. -/
def groupBefore? : Text → Option (Text × Text)
  | [] => none
  | c :: rest => do untilOpened? [← opener? c] rest

/-- The byte index of the bracket that closes the one at `index`. -/
def matchingClose? (text : Text) (index : Nat) : Option Nat := do
  let (_, group) ← Text.splitAtByte? index text
  let (inside, _) ← group? group
  return index + 1 + Text.utf8Length inside

/-- The byte index of the bracket that opens the one at `index`. -/
def matchingOpen? (text : Text) (index : Nat) : Option Nat := do
  let (before, group) ← Text.splitAtByte? index text
  let close ← group.head?
  let (_, outside) ← groupBefore? (close :: before.reverse)
  return Text.utf8Length outside

/-- How deep in brackets a scan is, and whether it is in a string literal. -/
structure Nesting where
  depth : Nat
  mode : Mode
  deriving DecidableEq

namespace Nesting

/-- Outside all brackets and literals. -/
def top : Nesting := ⟨0, .code⟩

/-- The nesting behind one more character; a closing bracket too many changes nothing. -/
def next (nesting : Nesting) (c : Char) : Nesting :=
  if nesting.mode = .code then
    if (closer? c).isSome then ⟨nesting.depth + 1, .code⟩
    else if (opener? c).isSome then ⟨nesting.depth - 1, .code⟩
    else ⟨nesting.depth, nesting.mode.next c⟩
  else
    ⟨nesting.depth, nesting.mode.next c⟩

/-- The nesting behind a stretch of text. -/
def after (nesting : Nesting) (text : Text) : Nesting :=
  text.foldl next nesting

end Nesting

/-- The stretches between the commas outside all brackets and literals. -/
def segmentsFrom (nesting : Nesting) : Text → List Text
  | [] => [[]]
  | c :: rest =>
    if c = ',' && nesting = Nesting.top then [] :: segmentsFrom nesting rest
    else (segmentsFrom (nesting.next c) rest).modifyHead (c :: ·)

/-- Each segment with the byte offset it starts at, when one character stands between any two. -/
def withOffsets (offset : Nat) : List Text → List (Nat × Text)
  | [] => []
  | segment :: rest =>
    (offset, segment) :: withOffsets (offset + Text.utf8Length segment + 1) rest

/-- Splits a list at its top-level commas; each segment comes with its byte offset. -/
def splitTopLevel (text : Text) : List (Nat × Text) :=
  withOffsets 0 (segmentsFrom Nesting.top text)

/-- Splits a text at the first top-level colon. -/
def atColon? (nesting : Nesting) : Text → Option (Text × Text)
  | [] => none
  | c :: rest =>
    if c = ':' && nesting = Nesting.top then some ([], rest)
    else (atColon? (nesting.next c) rest).map fun (before, after) => (c :: before, after)

/-- Splits a text at the first top-level equals sign that stands for an assignment.  The two
characters of `==` and of `=>` are passed over together. -/
def atEquals? (nesting : Nesting) : Text → Option (Text × Text)
  | [] => none
  | c :: rest =>
    if c = '=' && nesting = Nesting.top then
      match rest with
      | [] => some ([], rest)
      | d :: beyond =>
        if d = '=' || d = '>' then
          (atEquals? nesting beyond).map fun (before, after) => (c :: d :: before, after)
        else
          some ([], rest)
    else
      (atEquals? (nesting.next c) rest).map fun (before, after) => (c :: before, after)

theorem length_of_untilClosed? {pending : Pending} {text inside after : Text}
    (found : untilClosed? pending text = some (inside, after)) :
    inside.length + 1 + after.length = text.length := by
  induction text generalizing pending inside with
  | nil => simp [untilClosed?] at found
  | cons c rest ih =>
    rw [untilClosed?] at found
    split at found
    · cases found
    · split at found
      · simp only [Option.some.injEq, Prod.mk.injEq] at found
        obtain ⟨rfl, rfl⟩ := found
        simp only [List.length_nil, List.length_cons]
        omega
      · obtain ⟨⟨innerInside, innerAfter⟩, inner, same⟩ := Option.map_eq_some_iff.1 found
        simp only [Prod.mk.injEq] at same
        obtain ⟨rfl, rfl⟩ := same
        have := ih inner
        simp only [List.length_cons]
        omega

theorem length_of_group? {text inside after : Text} (found : group? text = some (inside, after)) :
    inside.length + 2 + after.length = text.length := by
  cases text with
  | nil => simp [group?] at found
  | cons c rest =>
    simp only [group?, Option.bind_eq_bind, Option.bind_eq_some_iff] at found
    obtain ⟨closer, _, closed⟩ := found
    have := length_of_untilClosed? closed
    simp only [List.length_cons]
    omega

theorem length_le_of_mem_segmentsFrom {nesting : Nesting} {text segment : Text}
    (member : segment ∈ segmentsFrom nesting text) : segment.length ≤ text.length := by
  induction text generalizing nesting segment with
  | nil =>
    simp only [segmentsFrom, List.mem_singleton] at member
    simp [member]
  | cons c rest ih =>
    rw [segmentsFrom] at member
    split at member
    · rcases List.mem_cons.1 member with rfl | later
      · simp
      · have := ih later
        simp only [List.length_cons]
        omega
    · cases tail : segmentsFrom (nesting.next c) rest with
      | nil => simp [tail] at member
      | cons head others =>
        simp only [tail, List.modifyHead_cons, List.mem_cons] at member
        rcases member with rfl | later
        · have := ih (tail ▸ List.mem_cons_self)
          simp only [List.length_cons]
          omega
        · have := ih (tail ▸ List.mem_cons_of_mem head later)
          simp only [List.length_cons]
          omega

theorem mem_of_mem_withOffsets {offset : Nat} {segments : List Text} {item : Nat × Text}
    (member : item ∈ withOffsets offset segments) : item.2 ∈ segments := by
  induction segments generalizing offset with
  | nil => simp [withOffsets] at member
  | cons segment rest ih =>
    rcases List.mem_cons.1 member with rfl | later
    · simp
    · exact List.mem_cons_of_mem segment (ih later)

theorem length_of_atColon? {nesting : Nesting} {text before after : Text}
    (found : atColon? nesting text = some (before, after)) :
    before.length + 1 + after.length = text.length := by
  induction text generalizing nesting before with
  | nil => simp [atColon?] at found
  | cons c rest ih =>
    rw [atColon?] at found
    split at found
    · simp only [Option.some.injEq, Prod.mk.injEq] at found
      obtain ⟨rfl, rfl⟩ := found
      simp only [List.length_nil, List.length_cons]
      omega
    · obtain ⟨⟨innerBefore, innerAfter⟩, inner, same⟩ := Option.map_eq_some_iff.1 found
      simp only [Prod.mk.injEq] at same
      obtain ⟨rfl, rfl⟩ := same
      have := ih inner
      simp only [List.length_cons]
      omega

end Bracket

end TemplateNav
