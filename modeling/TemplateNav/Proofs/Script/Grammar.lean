import TemplateNav.Proofs.Script.Placement

/-!
# Balanced text and the scans that pass over it

Balanced text is made of complete string literals, groups in matching brackets
and other characters.  A scan that keeps track of brackets and literals comes out
of a balanced stretch as it went in, having stopped nowhere, if on its way it met
no character outside all groups and literals that it stops at.
-/

namespace TemplateNav

namespace Bracket

/-- The inside of a complete string literal. -/
inductive LiteralBody (quote : Char) : Text → Prop where
  | nil : LiteralBody quote []
  | escape (c : Char) {rest : Text} (body : LiteralBody quote rest) :
      LiteralBody quote ('\\' :: c :: rest)
  | plain {c : Char} {rest : Text} (noEscape : c ≠ '\\') (noQuote : c ≠ quote)
      (body : LiteralBody quote rest) : LiteralBody quote (c :: rest)

/-- A character that is neither a bracket nor a quote. -/
structure IsOther (c : Char) : Prop where
  opensNot : closer? c = none
  closesNot : opener? c = none
  quotesNot : isQuote c = false

/-- All brackets and quotes. -/
def marks : List Char :=
  ['(', ')', '[', ']', '{', '}', '"', '\'', '\x60']

theorem IsOther.of_not_mem {c : Char} (noMark : c ∉ marks) : IsOther c := by
  simp only [marks, List.mem_cons, List.not_mem_nil, or_false, not_or] at noMark
  constructor
  · simp [closer?, noMark]
  · simp [opener?, noMark]
  · simp [isQuote, noMark]

/-- Text made of complete string literals, groups in matching brackets and other characters, where
those outside all literals and groups are of one class. -/
inductive Balanced : (Char → Prop) → Text → Prop where
  | nil {isFree : Char → Prop} : Balanced isFree []
  | other {isFree : Char → Prop} {c : Char} {rest : Text} (other : IsOther c) (free : isFree c)
      (balanced : Balanced isFree rest) : Balanced isFree (c :: rest)
  | literal {isFree : Char → Prop} {quote : Char} {body rest : Text}
      (isQuote : isQuote quote = true) (complete : LiteralBody quote body)
      (balanced : Balanced isFree rest) : Balanced isFree (quote :: (body ++ quote :: rest))
  | group {isFree : Char → Prop} {opener closer : Char} {inside rest : Text}
      (opens : closer? opener = some closer) (nested : Balanced (fun _ => True) inside)
      (balanced : Balanced isFree rest) : Balanced isFree (opener :: (inside ++ closer :: rest))

namespace Balanced

variable {isFree : Char → Prop} {text rest : Text}

theorem append (balanced : Balanced isFree text) (others : Balanced isFree rest) :
    Balanced isFree (text ++ rest) := by
  induction balanced with
  | nil => exact others
  | other isOther free _ ih => exact .other isOther free (ih others)
  | literal isQuote complete _ ih =>
    rw [List.cons_append, List.append_assoc, List.cons_append]
    exact .literal isQuote complete (ih others)
  | group opens nested _ _ ih =>
    rw [List.cons_append, List.append_assoc, List.cons_append]
    exact .group opens nested (ih others)

theorem mono {isMore : Char → Prop} (weaker : ∀ c, isFree c → isMore c)
    (balanced : Balanced isFree text) : Balanced isMore text := by
  induction balanced with
  | nil => exact .nil
  | other isOther free _ ih => exact .other isOther (weaker _ free) (ih weaker)
  | literal isQuote complete _ ih => exact .literal isQuote complete (ih weaker)
  | group opens nested _ _ ih => exact .group opens nested (ih weaker)

/-- Characters of a class without brackets and quotes are balanced. -/
theorem of_class {isMember : Char → Bool} {stop : Char}
    (members : ∀ c ∈ text, isMember c = true)
    (apart : (stop :: marks).any isMember = false) : Balanced (· ≠ stop) text := by
  induction text with
  | nil => exact .nil
  | cons c rest ih =>
    obtain ⟨member, later⟩ := List.forall_mem_cons.1 members
    have differs : ∀ mark ∈ stop :: marks, c ≠ mark := by
      rintro mark listed rfl
      exact List.any_eq_false.1 apart c listed member
    refine .other (.of_not_mem fun listed => ?_) (differs stop List.mem_cons_self) (ih later)
    exact differs c (List.mem_cons_of_mem stop listed) rfl

theorem concat {c : Char} (balanced : Balanced isFree text) (isOther : IsOther c)
    (free : isFree c) : Balanced isFree (text ++ [c]) :=
  balanced.append (.other isOther free .nil)

theorem quoted {quote : Char} {body : Text} (isQuote : isQuote quote = true)
    (complete : LiteralBody quote body) : Balanced isFree (quote :: (body ++ [quote])) :=
  .literal isQuote complete .nil

theorem bracketed {opener closer : Char} {inside : Text} (opens : closer? opener = some closer)
    (nested : Balanced (fun _ => True) inside) : Balanced isFree (opener :: (inside ++ [closer])) :=
  .group opens nested .nil

end Balanced

/-- A scan that keeps track of the groups it is in by a frame for the innermost one, and of string
literals by a mode.  It adds each character it passes to what it finds behind. -/
structure Scanner (Frame Found : Type) where
  scan : Frame → Mode → Text → Found
  put : Char → Found → Found
  enter : Frame → Char → Frame
  /-- Where the scan does not stop at a character. -/
  IsFree : Frame → Char → Prop
  isFree_enter (frame : Frame) (closer c : Char) : IsFree (enter frame closer) c
  scan_code (frame : Frame) {c : Char} (rest : Text) (opensNot : closer? c = none)
    (closesNot : opener? c = none) (free : isQuote c = true ∨ IsFree frame c) :
    scan frame .code (c :: rest) = put c (scan frame (Mode.code.next c) rest)
  scan_literal (frame : Frame) {mode : Mode} (c : Char) (rest : Text) (inLiteral : mode ≠ .code) :
    scan frame mode (c :: rest) = put c (scan frame (mode.next c) rest)
  scan_opener (frame : Frame) {c closer : Char} (rest : Text) (opens : closer? c = some closer) :
    scan frame .code (c :: rest) = put c (scan (enter frame closer) .code rest)
  scan_closer (frame : Frame) {c closer : Char} (rest : Text) (opens : closer? c = some closer) :
    scan (enter frame closer) .code (closer :: rest) = put closer (scan frame .code rest)

/-- What holds of the three quotes holds of every quote. -/
theorem of_isQuote (p : Char → Prop) {c : Char} (quote : isQuote c = true)
    (each : p '"' ∧ p '\'' ∧ p '\x60') : p c := by
  simp only [isQuote, Bool.or_eq_true, beq_iff_eq] at quote
  rcases quote with (rfl | rfl) | rfl
  · exact each.1
  · exact each.2.1
  · exact each.2.2

namespace Scanner

variable {Frame Found : Type} (scanner : Scanner Frame Found) {isFree : Char → Prop} {text : Text}

theorem scan_literalBody (frame : Frame) {quote : Char} {body : Text}
    (complete : LiteralBody quote body) (rest : Text) :
    scanner.scan frame (.literal quote) (body ++ rest) =
      body.foldr scanner.put (scanner.scan frame (.literal quote) rest) := by
  induction complete with
  | nil => rfl
  | escape c _ ih =>
    rw [List.cons_append, List.cons_append, scanner.scan_literal frame _ _ (by simp), Mode.next,
      if_pos rfl, scanner.scan_literal frame _ _ (by simp), Mode.next, ih, List.foldr_cons,
      List.foldr_cons]
  | plain noEscape noQuote _ ih =>
    rw [List.cons_append, scanner.scan_literal frame _ _ (by simp), Mode.next, if_neg noEscape,
      if_neg noQuote, ih, List.foldr_cons]

/-- A scan passes over balanced text. -/
theorem scan_append (balanced : Balanced isFree text) (frame : Frame)
    (free : ∀ c, isFree c → scanner.IsFree frame c) (rest : Text) :
    scanner.scan frame .code (text ++ rest) =
      text.foldr scanner.put (scanner.scan frame .code rest) := by
  -- The frame is general, since the inside of a group is passed in the frame of that group, where
  -- every character is free.
  induction balanced generalizing frame rest with
  | nil => rfl
  | other isOther isFree _ ih =>
    rw [List.cons_append, scanner.scan_code frame _ isOther.opensNot isOther.closesNot
      (.inr (free _ isFree)), Mode.next, isOther.quotesNot, if_neg (by simp), ih frame free,
      List.foldr_cons]
  | @literal _ quote body _ isQuote complete _ ih =>
    obtain ⟨opensNot, closesNot, different⟩ := of_isQuote
      (fun c => closer? c = none ∧ opener? c = none ∧ c ≠ '\\') isQuote (by decide)
    have ended : Mode.next (.literal quote) quote = .code := by
      rw [Mode.next, if_neg different, if_pos rfl]
    rw [List.cons_append, List.append_assoc, List.cons_append,
      scanner.scan_code frame _ opensNot closesNot (.inl isQuote), Mode.next, if_pos isQuote,
      scanner.scan_literalBody frame complete, scanner.scan_literal frame _ _ (by simp), ended,
      ih frame free, List.foldr_cons, List.foldr_append, List.foldr_cons]
  | @group _ opener closer inside _ opens _ _ ihInside ih =>
    rw [List.cons_append, List.append_assoc, List.cons_append, scanner.scan_opener frame _ opens,
      ihInside (scanner.enter frame closer) (fun c _ => scanner.isFree_enter frame closer c),
      scanner.scan_closer frame _ opens, ih frame free, List.foldr_cons, List.foldr_append,
      List.foldr_cons]

end Scanner

/-- A closing bracket opens nothing, and it belongs to the bracket that it closes. -/
theorem opener?_of_closer? {c closer : Char} (opens : closer? c = some closer) :
    closer? closer = none ∧ opener? closer = some c := by
  obtain ⟨rfl, rfl⟩ | ⟨rfl, rfl⟩ | ⟨rfl, rfl⟩ := cases_of_closer? opens
  · decide
  · decide
  · decide

/-- A reader that counts brackets and stops, outside of them and of literals, at one mark only. -/
def Scanner.ofNesting {Found : Type} (read : Nesting → Text → Found) (put : Char → Found → Found)
    (mark : Char) (isOther : IsOther mark)
    (step : ∀ nesting c rest, ¬(c = mark ∧ nesting = Nesting.top) →
      read nesting (c :: rest) = put c (read (nesting.next c) rest)) : Scanner Nat Found where
  scan depth mode := read ⟨depth, mode⟩
  put := put
  enter depth _ := depth + 1
  IsFree depth c := depth = 0 → c ≠ mark
  isFree_enter depth _ c zero := absurd zero (Nat.succ_ne_zero depth)
  scan_code depth c rest opensNot closesNot free := by
    rw [step _ _ _ ?_, Nesting.next, if_pos rfl, opensNot, closesNot]
    · simp
    · rintro ⟨rfl, top⟩
      rcases free with quote | free
      · rw [isOther.quotesNot] at quote
        cases quote
      · exact free (congrArg Nesting.depth top) rfl
  scan_literal depth mode c rest inLiteral := by
    rw [step _ _ _ ?_, Nesting.next, if_neg inLiteral]
    rintro ⟨_, top⟩
    exact inLiteral (congrArg Nesting.mode top)
  scan_opener depth c closer rest opens := by
    rw [step _ _ _ ?_, Nesting.next, if_pos rfl, opens, Option.isSome_some, if_pos rfl]
    rintro ⟨rfl, _⟩
    rw [isOther.opensNot] at opens
    cases opens
  scan_closer depth c closer rest opens := by
    obtain ⟨opensNot, closes⟩ := opener?_of_closer? opens
    rw [step _ _ _ ?_, Nesting.next, if_pos rfl, opensNot, closes]
    · simp
    · rintro ⟨rfl, _⟩
      rw [isOther.closesNot] at closes
      cases closes

/-- Puts text before the first part of a cut. -/
def prepend (lead : Text) (cut : Option (Text × Text)) : Option (Text × Text) :=
  cut.map fun (before, after) => (lead ++ before, after)

theorem prepend_some (lead before after : Text) :
    prepend lead (some (before, after)) = some (lead ++ before, after) := rfl

theorem foldr_prepend (text : Text) (cut : Option (Text × Text)) :
    text.foldr (fun c => prepend [c]) cut = prepend text cut := by
  induction text with
  | nil => cases cut <;> rfl
  | cons c rest ih =>
    rw [List.foldr_cons, ih]
    cases cut <;> rfl

theorem foldr_modifyHead (text : Text) (segments : List Text) :
    text.foldr (fun c => List.modifyHead (c :: ·)) segments = segments.modifyHead (text ++ ·) := by
  induction text with
  | nil => cases segments <;> rfl
  | cons c rest ih =>
    rw [List.foldr_cons, ih]
    cases segments <;> rfl

section Steps

variable {nesting : Nesting} {c : Char} {rest : Text}

theorem segmentsFrom_cons (passed : ¬(c = ',' ∧ nesting = Nesting.top)) :
    segmentsFrom nesting (c :: rest) =
      (segmentsFrom (nesting.next c) rest).modifyHead (c :: ·) := by
  rw [segmentsFrom, if_neg (by simpa using passed)]

theorem atColon?_cons (passed : ¬(c = ':' ∧ nesting = Nesting.top)) :
    atColon? nesting (c :: rest) = prepend [c] (atColon? (nesting.next c) rest) := by
  rw [atColon?, if_neg (by simpa using passed)]
  rfl

theorem atEquals?_cons (passed : ¬(c = '=' ∧ nesting = Nesting.top)) :
    atEquals? nesting (c :: rest) = prepend [c] (atEquals? (nesting.next c) rest) := by
  rw [atEquals?.eq_def]
  simp only
  rw [if_neg (by simpa using passed)]
  rfl

/-- An equals sign is found unless it is the first half of a comparison or an arrow. -/
theorem atEquals?_assignment (assigns : ∀ c ∈ rest.head?, c ≠ '=' ∧ c ≠ '>') :
    atEquals? Nesting.top ('=' :: rest) = some ([], rest) := by
  unfold atEquals?
  simp only
  rw [if_pos (by decide)]
  cases rest with
  | nil => rfl
  | cons c rest => simp [assigns c rfl]

theorem atEquals?_operator (operator : c = '=' ∨ c = '>') :
    atEquals? Nesting.top ('=' :: c :: rest) =
      prepend ['=', c] (atEquals? Nesting.top rest) := by
  rw [atEquals?, if_pos (by decide), if_pos (by simpa using operator)]
  rfl

end Steps

section Passing

variable {text : Text} (rest : Text)

theorem segmentsFrom_append (balanced : Balanced (· ≠ ',') text) :
    segmentsFrom Nesting.top (text ++ rest) =
      (segmentsFrom Nesting.top rest).modifyHead (text ++ ·) := by
  rw [← foldr_modifyHead]
  exact (Scanner.ofNesting segmentsFrom _ ',' ⟨rfl, rfl, rfl⟩ @segmentsFrom_cons).scan_append
    balanced 0 (fun _ free _ => free) rest

theorem atColon?_append (balanced : Balanced (· ≠ ':') text) :
    atColon? Nesting.top (text ++ rest) = prepend text (atColon? Nesting.top rest) := by
  rw [← foldr_prepend]
  exact (Scanner.ofNesting atColon? _ ':' ⟨rfl, rfl, rfl⟩ @atColon?_cons).scan_append
    balanced 0 (fun _ free _ => free) rest

theorem atEquals?_append (balanced : Balanced (· ≠ '=') text) :
    atEquals? Nesting.top (text ++ rest) = prepend text (atEquals? Nesting.top rest) := by
  rw [← foldr_prepend]
  exact (Scanner.ofNesting atEquals? _ '=' ⟨rfl, rfl, rfl⟩ @atEquals?_cons).scan_append
    balanced 0 (fun _ free _ => free) rest

theorem segmentsFrom_comma (balanced : Balanced (· ≠ ',') text) :
    segmentsFrom Nesting.top (text ++ ',' :: rest) = text :: segmentsFrom Nesting.top rest := by
  rw [segmentsFrom_append _ balanced, segmentsFrom, if_pos (by decide), List.modifyHead_cons,
    List.append_nil]

theorem segmentsFrom_of_balanced (balanced : Balanced (· ≠ ',') text) :
    segmentsFrom Nesting.top text = [text] := by
  have passed := segmentsFrom_append [] balanced
  rwa [List.append_nil, segmentsFrom, List.modifyHead_cons, List.append_nil] at passed

theorem atColon?_colon (balanced : Balanced (· ≠ ':') text) :
    atColon? Nesting.top (text ++ ':' :: rest) = some (text, rest) := by
  rw [atColon?_append _ balanced, atColon?, if_pos (by decide), prepend_some,
    List.append_nil]

theorem atColon?_of_balanced (balanced : Balanced (· ≠ ':') text) :
    atColon? Nesting.top text = none := by
  have passed := atColon?_append [] balanced
  rwa [List.append_nil] at passed

theorem atEquals?_equals (balanced : Balanced (· ≠ '=') text)
    (assigns : ∀ c ∈ rest.head?, c ≠ '=' ∧ c ≠ '>') :
    atEquals? Nesting.top (text ++ '=' :: rest) = some (text, rest) := by
  rw [atEquals?_append _ balanced, atEquals?_assignment assigns, prepend_some, List.append_nil]

theorem atEquals?_of_balanced (balanced : Balanced (· ≠ '=') text) :
    atEquals? Nesting.top text = none := by
  have passed := atEquals?_append [] balanced
  rwa [List.append_nil] at passed

end Passing

/-- The reader that awaits the closing bracket of a group; a frame is the bracket awaited next and
those awaited behind it. -/
def closing : Scanner (Char × List Char) (Option (Text × Text)) where
  scan frame mode := untilClosed? ⟨frame.1 :: frame.2, mode⟩
  put c := prepend [c]
  enter frame closer := (closer, frame.1 :: frame.2)
  IsFree _ _ := True
  isFree_enter _ _ _ := trivial
  scan_code frame c rest opensNot closesNot _ := by
    rw [untilClosed?, Pending.next?, if_pos rfl, opensNot, closesNot]
    rfl
  scan_literal frame mode c rest inLiteral := by
    rw [untilClosed?, Pending.next?, if_neg inLiteral]
    rfl
  scan_opener frame c closer rest opens := by
    rw [untilClosed?, Pending.next?, if_pos rfl, opens]
    rfl
  scan_closer frame c closer rest opens := by
    obtain ⟨opensNot, closes⟩ := opener?_of_closer? opens
    simp [untilClosed?, Pending.next?, opensNot, closes, prepend]

/-- A group is read back. -/
theorem group?_append {opener closer : Char} {inside : Text}
    (opens : closer? opener = some closer) (balanced : Balanced (fun _ => True) inside)
    (rest : Text) : group? (opener :: (inside ++ closer :: rest)) = some (inside, rest) := by
  obtain ⟨opensNot, closes⟩ := opener?_of_closer? opens
  have passed : untilClosed? ⟨[closer], .code⟩ (inside ++ closer :: rest) =
      inside.foldr (fun c => prepend [c]) (untilClosed? ⟨[closer], .code⟩ (closer :: rest)) :=
    closing.scan_append balanced (closer, []) (fun _ free => free) (closer :: rest)
  have reached : untilClosed? ⟨[closer], .code⟩ (closer :: rest) = some ([], rest) := by
    simp [untilClosed?, Pending.next?, opensNot, closes]
  rw [group?, opens, Option.bind_eq_bind, Option.bind_some, passed, reached, foldr_prepend,
    prepend_some, List.append_nil]

end Bracket

end TemplateNav
