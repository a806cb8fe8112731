import TemplateNav.Proofs.Script.Grammar

/-!
# The usages of a line

A line of script is code, string literals and template literals, in whose
substitutions there is code again, to any depth; a comment may end it.  A grammar
says which lines these are and which of their words are names in code position.
The scan of a line finds exactly these names, without those behind a member dot.

The scan is followed along the grammar: whatever it is inside of, it comes out of a
stretch of code or of template text as it went in, having found the names of that
stretch.
-/

namespace TemplateNav

namespace Occurrence

/-- A name in code position, with the text before it on its line. -/
structure CodeName where
  before : Text
  name : Text

namespace CodeName

/-- Whether a name is a member of something: a dot stands before it that does not end a spread. -/
def IsMember (found : CodeName) : Prop :=
  ['.'] <:+ found.before ∧ ¬ ['.', '.', '.'] <:+ found.before

instance (found : CodeName) : Decidable found.IsMember :=
  inferInstanceAs (Decidable (_ ∧ _))

/-- The usages among names in code position. -/
def usages (names : List CodeName) : List Occurrence :=
  (names.filter fun found => ¬ found.IsMember).map fun found =>
    ⟨found.name, Text.utf8Length found.before⟩

@[simp] theorem usages_nil : usages [] = [] := rfl

@[simp] theorem usages_append (names later : List CodeName) :
    usages (names ++ later) = usages names ++ usages later := by
  simp [usages]

end CodeName

/-- What a stretch of a line is. -/
inductive Region where
  /-- Code; in a substitution its braces match. -/
  | code (inSubstitution : Bool)
  /-- The text of a template literal. -/
  | template

/-- The grammar of a stretch of a line behind `before`, with its names in code position. -/
inductive Stretch : (region : Region) → (before text : Text) → List CodeName → Prop where
  | nil {region : Region} {before : Text} : Stretch region before [] []
  /-- A name, with no identifier character next to it. -/
  | name {inner : Bool} {before rest word : Text} {c : Char} {names : List CodeName}
      (start : Identifier.isStart c = true) (parts : ∀ d ∈ word, Identifier.isPart d = true)
      (ends : before.EndsApart) (starts : rest.StartsApart)
      (more : Stretch (.code inner) (before ++ c :: word) rest names) :
      Stretch (.code inner) before (c :: word ++ rest) (⟨before, c :: word⟩ :: names)
  /-- A run of identifier characters that a digit leads. -/
  | number {inner : Bool} {before rest word : Text} {c : Char} {names : List CodeName}
      (digit : c.isDigit = true) (parts : ∀ d ∈ word, Identifier.isPart d = true)
      (ends : before.EndsApart) (starts : rest.StartsApart)
      (more : Stretch (.code inner) (before ++ c :: word) rest names) :
      Stretch (.code inner) before (c :: word ++ rest) names
  /-- Punctuation or white space. -/
  | mark {inner : Bool} {before rest : Text} {c : Char} {names : List CodeName}
      (other : Identifier.isPart c = false) (noQuote : Bracket.isQuote c = false)
      (noBrace : inner = true → c ≠ '{' ∧ c ≠ '}') (noComment : c = '/' → rest.head? ≠ some '/')
      (more : Stretch (.code inner) (before ++ [c]) rest names) :
      Stretch (.code inner) before (c :: rest) names
  /-- Code between matching braces. -/
  | braces {before inside rest : Text} {names later : List CodeName}
      (code : Stretch (.code true) (before ++ ['{']) inside names)
      (more : Stretch (.code true) (before ++ ['{'] ++ inside ++ ['}']) rest later) :
      Stretch (.code true) before ('{' :: (inside ++ '}' :: rest)) (names ++ later)
  /-- A string literal in single or double quotes. -/
  | string {inner : Bool} {before body rest : Text} {quote : Char} {names : List CodeName}
      (isQuote : quote = '"' ∨ quote = '\'') (complete : Bracket.LiteralBody quote body)
      (more : Stretch (.code inner) (before ++ [quote] ++ body ++ [quote]) rest names) :
      Stretch (.code inner) before (quote :: (body ++ quote :: rest)) names
  /-- A template literal. -/
  | literal {inner : Bool} {before inside rest : Text} {names later : List CodeName}
      (template : Stretch .template (before ++ ['\x60']) inside names)
      (more : Stretch (.code inner) (before ++ ['\x60'] ++ inside ++ ['\x60']) rest later) :
      Stretch (.code inner) before ('\x60' :: (inside ++ '\x60' :: rest)) (names ++ later)
  /-- A character of template text; a dollar sign only where it opens nothing. -/
  | plain {before rest : Text} {c : Char} {names : List CodeName} (noEscape : c ≠ '\\')
      (noQuote : c ≠ '\x60') (opensNot : c = '$' → rest.head? ≠ some '{')
      (more : Stretch .template (before ++ [c]) rest names) :
      Stretch .template before (c :: rest) names
  | escape {before rest : Text} (c : Char) {names : List CodeName}
      (more : Stretch .template (before ++ ['\\', c]) rest names) :
      Stretch .template before ('\\' :: c :: rest) names
  /-- A substitution, which is code again. -/
  | substitution {before inside rest : Text} {names later : List CodeName}
      (code : Stretch (.code true) (before ++ ['$', '{']) inside names)
      (more : Stretch .template (before ++ ['$', '{'] ++ inside ++ ['}']) rest later) :
      Stretch .template before ('$' :: '{' :: (inside ++ '}' :: rest)) (names ++ later)

/-- A line is code and then, if at all, a comment. -/
inductive Line : Text → List CodeName → Prop where
  | bare {code : Text} {names : List CodeName} (stretch : Stretch (.code false) [] code names) :
      Line code names
  | commented {code : Text} {names : List CodeName} (stretch : Stretch (.code false) [] code names)
      (comment : Text) : Line (code ++ '/' :: '/' :: comment) names

/-- The scan tells members by the text before a name, read backwards. -/
theorem isMemberAccess_reverse (before name : Text) :
    isMemberAccess before.reverse = decide (CodeName.IsMember ⟨before, name⟩) := by
  have dot : Text.startsWith '.' before.reverse = true ↔ ['.'] <:+ before := by
    rw [← List.reverse_prefix, Text.startsWith, beq_iff_eq, List.head?_eq_some_iff]
    exact exists_congr fun _ => eq_comm
  have spread : (Text.dropLead? ['.', '.', '.'] before.reverse).isSome = true ↔
      ['.', '.', '.'] <:+ before := by
    rw [← List.reverse_prefix]
    exact Text.isSome_dropLead?_iff
  rw [Bool.eq_iff_iff, decide_eq_true_eq, isMemberAccess, Bool.and_eq_true, dot,
    ← Option.not_isSome, Bool.not_eq_true', ← Bool.not_eq_true, spread]
  rfl

section Steps

variable {stack : List Nat} {before rest : Text} {c : Char}

/-- Outside code a character is passed. -/
theorem collect_of_not_code {cursor : Cursor} (outside : cursor.place ≠ .code) :
    collect cursor before.reverse (c :: rest) =
      collect (cursor.next c rest) (before ++ [c]).reverse rest := by
  simp [collect, outside]

/-- In code a character that starts neither a comment nor a usage is passed. -/
theorem collect_of_code (noComment : c = '/' → rest.head? ≠ some '/')
    (noUsage : startsAt before.reverse c = false) :
    collect ⟨.code, stack⟩ before.reverse (c :: rest) =
      collect (Cursor.next ⟨.code, stack⟩ c rest) (before ++ [c]).reverse rest := by
  rw [collect, if_neg, if_neg]
  · simp
  · simp [noUsage]
  · simpa [Text.startsWith] using noComment

theorem collect_comment : collect ⟨.code, stack⟩ before ('/' :: '/' :: rest) = [] := by
  simp [collect, Text.startsWith]

theorem startsAt_of_not_isPart (other : Identifier.isPart c = false) :
    startsAt before c = false := by
  have noStart : Identifier.isStart c = false :=
    Bool.eq_false_iff.2 fun start => by simp [Identifier.isPart_of_isStart start] at other
  simp [startsAt, noStart]

/-- A character that is no quote, and no brace of a substitution, leaves the cursor in code. -/
theorem next_of_code (noQuote : Bracket.isQuote c = false)
    (noBrace : stack ≠ [] → c ≠ '{' ∧ c ≠ '}') :
    Cursor.next ⟨.code, stack⟩ c rest = ⟨.code, stack⟩ := by
  cases stack with
  | nil => simp [Cursor.next, noQuote]
  | cons depth outer => simp [Cursor.next, noQuote, noBrace (by simp)]

end Steps

section Words

variable {stack : List Nat} {before rest word : Text} {c : Char}

theorem ne_of_isPart {other : Char} (part : Identifier.isPart c = true)
    (otherNot : Identifier.isPart other = false) : c ≠ other := by
  rintro rfl
  rw [otherNot] at part
  cases part

theorem next_of_isPart (part : Identifier.isPart c = true) :
    Cursor.next ⟨.code, stack⟩ c rest = ⟨.code, stack⟩ := by
  apply next_of_code
  · rw [Bool.eq_false_iff]
    intro quote
    exact Bracket.of_isQuote (c ≠ ·) quote ⟨ne_of_isPart part rfl, ne_of_isPart part rfl,
      ne_of_isPart part rfl⟩ rfl
  · exact fun _ => ⟨ne_of_isPart part rfl, ne_of_isPart part rfl⟩

/-- The characters of a word behind its first one are passed. -/
theorem collect_parts (parts : ∀ d ∈ word, Identifier.isPart d = true)
    (part : Identifier.isPart c = true) :
    collect ⟨.code, stack⟩ (before ++ [c]).reverse (word ++ rest) =
      collect ⟨.code, stack⟩ (before ++ c :: word).reverse rest := by
  induction word generalizing c before with
  | nil => rfl
  | cons d word ih =>
    obtain ⟨first, later⟩ := List.forall_mem_cons.1 parts
    rw [List.cons_append, collect_of_code, next_of_isPart first, ih later first, ← List.append_cons]
    · exact fun slash => absurd slash (ne_of_isPart first rfl)
    · simp [startsAt, part]

/-- A name is found, unless it is a member. -/
theorem collect_name (start : Identifier.isStart c = true)
    (parts : ∀ d ∈ word, Identifier.isPart d = true) (ends : before.EndsApart)
    (starts : rest.StartsApart) :
    collect ⟨.code, stack⟩ before.reverse (c :: word ++ rest) =
      CodeName.usages [⟨before, c :: word⟩] ++
        collect ⟨.code, stack⟩ (before ++ c :: word).reverse rest := by
  have part := Identifier.isPart_of_isStart start
  have slash : c ≠ '/' := ne_of_isPart part rfl
  have apart : before.reverse.head?.any Identifier.isPart = false := by
    rw [List.head?_reverse]
    cases last : before.getLast? with
    | none => rfl
    | some d => exact ends d last
  have usage : startsAt before.reverse c =
      !decide (CodeName.IsMember ⟨before, c :: word⟩) := by
    rw [startsAt, start, apart, isMemberAccess_reverse before (c :: word)]
    simp
  have passed : collect (Cursor.next ⟨.code, stack⟩ c (word ++ rest)) (c :: before.reverse)
      (word ++ rest) = collect ⟨.code, stack⟩ (before ++ c :: word).reverse rest := by
    rw [next_of_isPart part, ← collect_parts parts part, List.reverse_append]
    rfl
  rw [List.cons_append, collect, if_neg (by simp [slash]), usage, passed,
    Identifier.takeWhile_append parts starts, Text.utf8Length_reverse]
  by_cases member : CodeName.IsMember ⟨before, c :: word⟩
  · simp [CodeName.usages, member]
  · simp [CodeName.usages, member]

theorem isPart_of_isDigit (digit : c.isDigit = true) : Identifier.isPart c = true := by
  simp [Identifier.isPart, Char.isAlphanum, digit]

theorem isStart_of_isDigit (digit : c.isDigit = true) : Identifier.isStart c = false := by
  have letters : c.isAlpha =
      (decide ('A'.val ≤ c.val ∧ c.val ≤ 'Z'.val) || ('a'.val ≤ c.val && c.val ≤ 'z'.val)) :=
    rfl
  have digits : c.isDigit = ('0'.val ≤ c.val && c.val ≤ '9'.val) := rfl
  rw [Bool.eq_false_iff]
  intro start
  simp only [digits, Identifier.isStart, letters, Bool.or_eq_true, Bool.and_eq_true,
    decide_eq_true_eq, beq_iff_eq, UInt32.le_iff_toNat_le, Char.toNat_val,
    Char.reduceToNat] at digit start
  rcases start with (letter | rfl) | rfl
  · omega
  · exact absurd digit (by decide)
  · exact absurd digit (by decide)

/-- A run that a digit leads is passed. -/
theorem collect_number (digit : c.isDigit = true)
    (parts : ∀ d ∈ word, Identifier.isPart d = true) :
    collect ⟨.code, stack⟩ before.reverse (c :: word ++ rest) =
      collect ⟨.code, stack⟩ (before ++ c :: word).reverse rest := by
  have part := isPart_of_isDigit digit
  rw [List.cons_append, collect_of_code, next_of_isPart part, collect_parts parts part]
  · exact fun slash => absurd slash (ne_of_isPart part rfl)
  · simp [startsAt, isStart_of_isDigit digit]

end Words

section Literals

variable {stack : List Nat} {before rest body : Text} {quote c : Char}

/-- A quote in code opens a literal. -/
theorem collect_quote (isQuote : Bracket.isQuote quote = true) :
    collect ⟨.code, stack⟩ before.reverse (quote :: rest) =
      collect ⟨.literal quote, stack⟩ (before ++ [quote]).reverse rest := by
  have passed : quote ≠ '/' ∧ Identifier.isPart quote = false :=
    Bracket.of_isQuote (fun c => c ≠ '/' ∧ Identifier.isPart c = false) isQuote (by decide)
  rw [collect_of_code (fun slash => absurd slash passed.1) (startsAt_of_not_isPart passed.2)]
  simp [Cursor.next, isQuote]

/-- The same quote closes it. -/
theorem collect_closing (isQuote : Bracket.isQuote quote = true) :
    collect ⟨.literal quote, stack⟩ before.reverse (quote :: rest) =
      collect ⟨.code, stack⟩ (before ++ [quote]).reverse rest := by
  have noEscape : quote ≠ '\\' := Bracket.of_isQuote (· ≠ '\\') isQuote (by decide)
  rw [collect_of_not_code (by simp)]
  simp [Cursor.next, noEscape]

theorem collect_escape :
    collect ⟨.literal quote, stack⟩ before.reverse ('\\' :: c :: rest) =
      collect ⟨.literal quote, stack⟩ (before ++ ['\\', c]).reverse rest := by
  rw [collect_of_not_code (by simp), collect_of_not_code (by simp [Cursor.next])]
  simp [Cursor.next]

theorem collect_plain (noEscape : c ≠ '\\') (noQuote : c ≠ quote)
    (opensNot : quote = '\x60' → c = '$' → rest.head? ≠ some '{') :
    collect ⟨.literal quote, stack⟩ before.reverse (c :: rest) =
      collect ⟨.literal quote, stack⟩ (before ++ [c]).reverse rest := by
  rw [collect_of_not_code (by simp), Cursor.next]
  simp only
  rw [if_neg noEscape, if_neg noQuote, if_neg]
  simpa [Text.startsWith] using opensNot

/-- A string literal is passed up to its end. -/
theorem collect_literalBody (noTemplate : quote ≠ '\x60')
    (complete : Bracket.LiteralBody quote body) :
    collect ⟨.literal quote, stack⟩ before.reverse (body ++ rest) =
      collect ⟨.literal quote, stack⟩ (before ++ body).reverse rest := by
  induction complete generalizing before with
  | nil => rw [List.append_nil, List.nil_append]
  | escape c body ih =>
    rw [List.cons_append, List.cons_append, collect_escape, ih]
    simp
  | plain noEscape noQuote body ih =>
    rw [List.cons_append, collect_plain noEscape noQuote fun template => absurd template noTemplate,
      ih, ← List.append_cons]

end Literals

section Braces

variable {depth : Nat} {outer : List Nat} {before rest : Text}

/-- A dollar sign and a brace in template text open a substitution. -/
theorem collect_opening :
    collect ⟨.literal '\x60', outer⟩ before.reverse ('$' :: '{' :: rest) =
      collect ⟨.code, 0 :: outer⟩ (before ++ ['$', '{']).reverse rest := by
  rw [collect_of_not_code (by simp), collect_of_not_code]
  · simp [Cursor.next, Text.startsWith]
  · simp [Cursor.next, Text.startsWith]

theorem collect_openBrace :
    collect ⟨.code, depth :: outer⟩ before.reverse ('{' :: rest) =
      collect ⟨.code, (depth + 1) :: outer⟩ (before ++ ['{']).reverse rest := by
  rw [collect_of_code (by simp) (startsAt_of_not_isPart rfl)]
  simp [Cursor.next, Bracket.isQuote]

theorem collect_closeBrace :
    collect ⟨.code, (depth + 1) :: outer⟩ before.reverse ('}' :: rest) =
      collect ⟨.code, depth :: outer⟩ (before ++ ['}']).reverse rest := by
  rw [collect_of_code (by simp) (startsAt_of_not_isPart rfl)]
  simp [Cursor.next, Bracket.isQuote]

/-- The brace that closes a substitution leads back to template text. -/
theorem collect_closeSubstitution :
    collect ⟨.code, 0 :: outer⟩ before.reverse ('}' :: rest) =
      collect ⟨.literal '\x60', outer⟩ (before ++ ['}']).reverse rest := by
  rw [collect_of_code (by simp) (startsAt_of_not_isPart rfl)]
  simp [Cursor.next, Bracket.isQuote]

end Braces

/-- What may follow a stretch of code: nothing, the brace that closes its substitution, or a
comment. -/
inductive EndsCode : Text → Prop where
  | nil : EndsCode []
  | brace (rest : Text) : EndsCode ('}' :: rest)
  | comment (rest : Text) : EndsCode ('/' :: '/' :: rest)

theorem EndsCode.startsApart {tail : Text} (ends : EndsCode tail) : tail.StartsApart := by
  cases ends with
  | nil => exact Text.startsApart_nil
  | brace rest => exact Text.startsApart_cons rest rfl
  | comment rest => exact Text.startsApart_cons _ rfl

theorem EndsCode.exists_comment {tail : Text} (ends : EndsCode tail)
    (slash : tail.head? = some '/') : ∃ comment, tail = '/' :: '/' :: comment := by
  cases ends with
  | nil => cases slash
  | brace rest => cases slash
  | comment rest => exact ⟨rest, rfl⟩

/-- The scan comes out of a stretch as it went in, with the usages of the stretch. -/
def Passes (before text : Text) (names : List CodeName) : Region → Prop
  | .code inner => ∀ stack tail, (inner = true ↔ stack ≠ []) → EndsCode tail →
      collect ⟨.code, stack⟩ before.reverse (text ++ tail) =
        CodeName.usages names ++ collect ⟨.code, stack⟩ (before ++ text).reverse tail
  | .template => ∀ stack tail,
      collect ⟨.literal '\x60', stack⟩ before.reverse (text ++ '\x60' :: tail) =
        CodeName.usages names ++
          collect ⟨.literal '\x60', stack⟩ (before ++ text).reverse ('\x60' :: tail)

theorem Stretch.passes {region : Region} {before text : Text} {names : List CodeName}
    (stretch : Stretch region before text names) : Passes before text names region := by
  induction stretch with
  | @nil region before =>
    cases region with
    | code inner => exact fun stack tail _ _ => by simp
    | template => exact fun stack tail => by simp
  | @name inner before rest word c names start parts ends starts more ih =>
    intro stack tail depth follows
    rw [List.append_assoc, collect_name start parts ends (starts.append follows.startsApart),
      ih stack tail depth follows, ← List.append_assoc, ← CodeName.usages_append]
    simp
  | @number inner before rest word c names digit parts ends starts more ih =>
    intro stack tail depth follows
    rw [List.append_assoc, collect_number digit parts, ih stack tail depth follows]
    simp
  | @mark inner before rest c names other noQuote noBrace noComment more ih =>
    intro stack tail depth follows
    have passed := ih stack tail depth follows
    by_cases comment : c = '/' ∧ (rest ++ tail).head? = some '/'
    · -- The mark leads a comment already, so there is nothing to find from here on.
      obtain ⟨rfl, behind⟩ := comment
      obtain rfl : rest = [] := by
        cases rest with
        | nil => rfl
        | cons d rest => exact absurd behind (noComment rfl)
      obtain ⟨text, rfl⟩ := follows.exists_comment behind
      simp only [List.nil_append, collect_comment, List.append_nil] at passed
      simp only [List.cons_append, List.nil_append, collect_comment, List.append_nil, ← passed]
    · rw [List.cons_append, collect_of_code (fun slash behind => comment ⟨slash, behind⟩)
        (startsAt_of_not_isPart other), next_of_code noQuote fun inside => noBrace (depth.2 inside),
        passed, ← List.append_cons]
  | @braces before inside rest names later code more codeIh ih =>
    intro stack tail depth follows
    obtain ⟨level, outer, rfl⟩ := List.exists_cons_of_ne_nil (depth.1 rfl)
    rw [List.cons_append, List.append_assoc, List.cons_append, collect_openBrace,
      codeIh ((level + 1) :: outer) _ (by simp) (.brace _), collect_closeBrace,
      ih (level :: outer) tail depth follows]
    simp
  | @string inner before body rest quote names isQuote complete more ih =>
    intro stack tail depth follows
    have quotes : Bracket.isQuote quote = true ∧ quote ≠ '\x60' := by
      rcases isQuote with rfl | rfl
      · decide
      · decide
    rw [List.cons_append, List.append_assoc, List.cons_append, collect_quote quotes.1,
      collect_literalBody quotes.2 complete, collect_closing quotes.1, ih stack tail depth follows]
    simp
  | @literal inner before inside rest names later template more templateIh ih =>
    intro stack tail depth follows
    rw [List.cons_append, List.append_assoc, List.cons_append, collect_quote rfl,
      templateIh stack, collect_closing rfl, ih stack tail depth follows]
    simp
  | @plain before rest c names noEscape noQuote opensNot more ih =>
    intro stack tail
    have stays : c = '$' → (rest ++ '\x60' :: tail).head? ≠ some '{' := by
      intro dollar
      cases rest with
      | nil => simp
      | cons d rest => exact opensNot dollar
    rw [List.cons_append, collect_plain noEscape noQuote fun _ => stays, ih stack tail,
      ← List.append_cons]
  | @escape before rest c names more ih =>
    intro stack tail
    rw [List.cons_append, List.cons_append, collect_escape, ih stack tail]
    simp
  | @substitution before inside rest names later code more codeIh ih =>
    intro stack tail
    rw [List.cons_append, List.cons_append, List.append_assoc, List.cons_append, collect_opening,
      codeIh (0 :: stack) _ (by simp) (.brace _), collect_closeSubstitution, ih stack tail]
    simp

/-- Names that stand between two places of a line, one behind the other; each place is given by the
text before it. -/
structure Ordered (start stop : Text) (names : List CodeName) : Prop where
  within : ∀ found ∈ names, start <+: found.before ∧ found.before ++ found.name <+: stop
  apart : names.Pairwise fun one other => one.before ++ one.name <+: other.before

namespace Ordered

variable {start middle resumed stop : Text} {names later : List CodeName}

theorem append (first : Ordered start middle names) (second : Ordered resumed stop later)
    (ahead : start <+: resumed) (between : middle <+: resumed) (behind : resumed <+: stop) :
    Ordered start stop (names ++ later) := by
  constructor
  · intro found listed
    rcases List.mem_append.1 listed with early | late
    · have ⟨starts, ends⟩ := first.within found early
      exact ⟨starts, ends.trans (between.trans behind)⟩
    · have ⟨starts, ends⟩ := second.within found late
      exact ⟨ahead.trans starts, ends⟩
  · refine List.pairwise_append.2 ⟨first.apart, second.apart, fun one early other late => ?_⟩
    exact (first.within one early).2.trans (between.trans (second.within other late).1)

theorem mono {earlier farther : Text} (ordered : Ordered start stop names)
    (ahead : earlier <+: start) (behind : stop <+: farther) : Ordered earlier farther names :=
  ⟨fun found listed => ⟨ahead.trans (ordered.within found listed).1,
    (ordered.within found listed).2.trans behind⟩, ordered.apart⟩

end Ordered

theorem Stretch.ordered {region : Region} {before text : Text} {names : List CodeName}
    (stretch : Stretch region before text names) : Ordered before (before ++ text) names := by
  induction stretch with
  | nil => exact ⟨nofun, .nil⟩
  | @name inner before rest word c names start parts ends starts more ih =>
    have found : Ordered before (before ++ c :: word) [⟨before, c :: word⟩] :=
      ⟨by simp, List.pairwise_singleton _ _⟩
    simpa using found.append ih (by simp) (by simp) (by simp)
  | number digit parts ends starts more ih => exact ih.mono (by simp) (by simp)
  | mark other noQuote noBrace noComment more ih => exact ih.mono (by simp) (by simp)
  | braces code more codeIh ih =>
    exact (codeIh.append ih (by simp) (by simp) (by simp)).mono (by simp) (by simp)
  | string isQuote complete more ih => exact ih.mono (by simp) (by simp)
  | literal template more templateIh ih =>
    exact (templateIh.append ih (by simp) (by simp) (by simp)).mono (by simp) (by simp)
  | plain noEscape noQuote opensNot more ih => exact ih.mono (by simp) (by simp)
  | escape c more ih => exact ih.mono (by simp) (by simp)
  | substitution code more codeIh ih =>
    exact (codeIh.append ih (by simp) (by simp) (by simp)).mono (by simp) (by simp)

/-- The usages of a line are its names in code position that are no members, in textual order and
at their byte columns. -/
theorem usages_of_line {line : Text} {names : List CodeName} (generated : Line line names) :
    ofLine line = CodeName.usages names ∧
      (∀ found ∈ names, found.before ++ found.name <+: line) ∧
      names.Pairwise fun one other => one.before ++ one.name <+: other.before := by
  cases generated with
  | bare stretch =>
    have passed := stretch.passes [] [] (by simp) .nil
    have ordered := stretch.ordered
    refine ⟨?_, fun found listed => (ordered.within found listed).2, ordered.apart⟩
    simpa [ofLine, Cursor.start, collect] using passed
  | @commented code names stretch comment =>
    have passed := stretch.passes [] _ (by simp) (.comment comment)
    have ordered := stretch.ordered
    refine ⟨?_, fun found listed => ?_, ordered.apart⟩
    · rw [collect_comment, List.append_nil] at passed
      exact passed
    · exact (ordered.within found listed).2.trans (List.prefix_append code _)

/-- A spread, a member, and a name in braces in a template literal, with characters of two bytes. -/
theorem usages_of_line_with_template :
    let template : Text := ['é', '$', '{', '{', 'z', '}', '}']
    let code : Text := ['.', '.', '.', 'x', '.', 'y', '+', '\x60'] ++ template ++ ['\x60']
    let names : List CodeName := [⟨['.', '.', '.'], ['x']⟩, ⟨['.', '.', '.', 'x', '.'], ['y']⟩,
      ⟨['.', '.', '.', 'x', '.', 'y', '+', '\x60', 'é', '$', '{', '{'], ['z']⟩]
    Line (code ++ ['/', '/', 'é', 'w']) names ∧ CodeName.usages names = [⟨['x'], 3⟩, ⟨['z'], 13⟩] ∧
      ofLine (code ++ ['/', '/', 'é', 'w']) = CodeName.usages names := by
  intro template code names
  have inBraces (before : Text) :
      Stretch (.code true) before ['{', 'z', '}'] [⟨before ++ ['{'], ['z']⟩] :=
    @Stretch.braces _ ['z'] [] _ []
      (@Stretch.name true _ [] [] 'z' [] rfl nofun (Text.endsApart_concat _ rfl)
        Text.startsApart_nil .nil) .nil
  have inTemplate (before : Text) :
      Stretch .template before template [⟨before ++ ['é', '$', '{', '{'], ['z']⟩] := by
    refine .plain (by decide) (by decide) (by decide) ?_
    simpa using @Stretch.substitution (before ++ ['é']) ['{', 'z', '}'] [] _ [] (inBraces _) .nil
  have generated : Line (code ++ ['/', '/', 'é', 'w']) names := by
    refine .commented ?_ _
    refine .mark rfl rfl nofun (by decide) (.mark rfl rfl nofun (by decide)
      (.mark rfl rfl nofun (by decide) ?_))
    refine @Stretch.name false _ _ [] 'x' _ rfl nofun (Text.endsApart_concat ['.', '.'] rfl)
      (Text.startsApart_cons _ rfl) (.mark rfl rfl nofun (by decide) ?_)
    refine @Stretch.name false _ _ [] 'y' _ rfl nofun
      (Text.endsApart_concat ['.', '.', '.', 'x'] rfl) (Text.startsApart_cons _ rfl)
      (.mark rfl rfl nofun (by decide) ?_)
    exact @Stretch.literal false _ template [] _ [] (inTemplate _) .nil
  exact ⟨generated, by decide, (usages_of_line generated).1⟩

end Occurrence

end TemplateNav
