import TemplateNav.Proofs.Symbol.PlainHead
import TemplateNav.Proofs.Text.Overlap

/-!
# Which plain declarations are reported

The two rules for plain declarations scan a line independently, and each goes on behind
what it has matched, whether it declared a name there or not.  The rule for bare
declarations matches a head and so covers no later one, unless it reads the keyword of
that one as the end of a name.  The rule for initialized declarations matches everything
up to the next comma or semicolon and so covers the declarations in an initializer.  It
alone reports what an equals sign follows: a declaration with an initializer is reported
unless it lies in the initializer of another one.
-/

namespace TemplateNav

namespace Text

theorem length_lt_append (outer : Text) {inner : Text} (filled : inner ≠ []) :
    outer.length < (outer ++ inner).length := by
  have positive := List.length_pos_iff.2 filled
  rw [List.length_append]
  omega

/-- White space at the start of a text lies in any part before what is no white space. -/
theorem exists_append_of_blank {gap tail lead right : Text} (blank : ∀ c ∈ gap, isBlank c = true)
    (solid : right.StartsSolid) (same : gap ++ tail = lead ++ right) :
    ∃ part, lead = gap ++ part ∧ tail = part ++ right := by
  rcases List.append_eq_append_iff.1 same with ⟨part, covers, rest⟩ | ⟨more, covers, rest⟩
  · exact ⟨part, covers, rest⟩
  · obtain ⟨first, others, rfl, notBlank⟩ := solid
    cases more with
    | nil => exact ⟨[], by simpa using covers.symm, rest.symm⟩
    | cons c more =>
      obtain ⟨rfl, _⟩ := List.cons.inj rest
      rw [blank first (by simp [covers])] at notBlank
      cases notBlank

end Text

namespace Fragment

/-- A content line has one place for each position. -/
theorem eq_of_positionInLine_eq (fragment : Fragment) (index : Nat) {line first second : Text}
    (firstCut : first <+: line) (secondCut : second <+: line)
    (same : fragment.positionInLine index line (Text.utf8Length first) =
      fragment.positionInLine index line (Text.utf8Length second)) : first = second := by
  obtain ⟨after, rfl⟩ := firstCut
  obtain ⟨behind, split⟩ := secondCut
  have firstPlace := Text.splitAtUnit_utf16Length first after
  have secondPlace := Text.splitAtUnit_utf16Length second behind
  rw [positionInLine_append, ← split, positionInLine_append, Position.mk.injEq] at same
  rw [split, ← Nat.add_left_cancel same.2, firstPlace] at secondPlace
  exact (Prod.mk.inj secondPlace).1

end Fragment

namespace Rule

open Identifier (HasShape)

variable {left gap name rest : Text} {keyword : Keyword}
  {recognize : Text → Text → Option (Option Declaration × Nat)} {within : Text → Text → Prop}

/-- The place behind `left` is within something that begins at an earlier place, and that place is
not overlooked itself. -/
def Overlooked (within : Text → Text → Prop) (left : Text) : Prop :=
  ∃ outer inner, ∃ _ : left = outer ++ inner ∧ inner ≠ [],
    within outer inner ∧ ¬ Overlooked within outer
termination_by left.length
decreasing_by
  obtain ⟨rfl, filled⟩ := ‹left = outer ++ inner ∧ inner ≠ []›
  exact Text.length_lt_append outer filled

/-- What is found behind `outer` covers the head behind `outer` and `inner` exactly if that head is
within it. -/
def CoversHeads (recognize : Text → Text → Option (Option Declaration × Nat))
    (within : Text → Text → Prop) : Prop :=
  ∀ outer inner keyword gap name rest, PlainHead (outer ++ inner) keyword gap name rest →
    inner ≠ [] → (within outer inner ↔ ∃ item width,
      recognize outer.reverse (inner ++ (keyword.spelling ++ (gap ++ (name ++ rest)))) =
        some (item, width) ∧ inner.length < width)

/-- A scan for heads passes over exactly the heads that are overlooked. -/
theorem PlainHead.pending_pos_iff (head : PlainHead left keyword gap name rest)
    (reads : ReadsHeads recognize) (covers : CoversHeads recognize within) :
    0 < Text.pending recognize left (keyword.spelling ++ (gap ++ (name ++ rest))) ↔
      Overlooked within left := by
  induction size : left.length using Nat.strong_induction_on
    generalizing left keyword gap name rest with
  | _ length ih =>
    subst size
    -- What covers the head begins with a head, and before that the two notions agree.
    have earlier {outer inner : Text} (split : left = outer ++ inner) (filled : inner ≠ [])
        {item : Option Declaration} {width : Nat} (found : recognize outer.reverse
          (inner ++ (keyword.spelling ++ (gap ++ (name ++ rest)))) = some (item, width)) :
        Text.pending recognize outer (inner ++ (keyword.spelling ++ (gap ++ (name ++ rest)))) = 0 ↔
          ¬ Overlooked within outer := by
      obtain ⟨first, space, word, tail, same, stands, _⟩ := reads _ _ _ _ found
      have shorter : outer.length < left.length := split ▸ Text.length_lt_append outer filled
      rw [same, ← ih outer.length shorter stands rfl, Nat.pos_iff_ne_zero, not_not]
    rw [Text.pending_pos_iff, Overlooked]
    constructor
    · rintro ⟨outer, inner, item, width, rfl, filled, free, found, beyond⟩
      exact ⟨outer, inner, ⟨rfl, filled⟩,
        (covers _ _ _ _ _ _ head filled).2 ⟨item, width, found, beyond⟩,
        (earlier rfl filled found).1 free⟩
    · rintro ⟨outer, inner, ⟨rfl, filled⟩, inside, outermost⟩
      obtain ⟨item, width, found, beyond⟩ := (covers _ _ _ _ _ _ head filled).1 inside
      exact ⟨outer, inner, item, width, rfl, filled, (earlier rfl filled found).2 outermost, found,
        beyond⟩

theorem isWordChar_of_mem_spelling : ∀ c ∈ keyword.spelling, Text.isWordChar c = true := by
  apply List.all_eq_true.1
  cases keyword with
  | constKeyword => decide
  | letKeyword => decide
  | varKeyword => decide

/-- No word starts within a keyword or the white space behind it, so a word that starts behind
`outer` and `inner` has the whole of both in `inner`. -/
theorem exists_append_of_boundary {outer inner right tail : Text}
    (boundary : Text.atWordStart (outer ++ inner).reverse = true) (filled : inner ≠ [])
    (blank : ∀ c ∈ gap, Text.isBlank c = true) (solid : right.StartsSolid)
    (same : inner ++ right = keyword.spelling ++ (gap ++ tail)) :
    ∃ part, inner = keyword.spelling ++ (gap ++ part) ∧ tail = part ++ right := by
  rcases List.append_eq_append_iff.1 same with ⟨more, spelled, _⟩ | ⟨behind, covers, rest⟩
  · have last := List.getLast_mem filled
    have split := List.dropLast_concat_getLast filled
    rw [← split, List.reverse_append, List.reverse_concat, List.cons_append, Text.atWordStart,
      isWordChar_of_mem_spelling _ (spelled ▸ List.mem_append_left more last)] at boundary
    cases boundary
  · obtain ⟨part, rfl, split⟩ := Text.exists_append_of_blank blank solid rest
    exact ⟨part, covers, split⟩

/-- A keyword, white space and perhaps the start of a name follow `outer`, so a keyword behind
`inner` belongs to the name of a head. -/
def WithinName (outer inner : Text) : Prop :=
  ∃ (keyword : Keyword) (gap part : Text), inner = keyword.spelling ++ (gap ++ part) ∧
    Text.atWordStart outer.reverse = true ∧ gap ≠ [] ∧ (∀ c ∈ gap, Text.isBlank c = true) ∧
    (part = [] ∨ HasShape part)

theorem hasShape_append_spelling {part : Text} (shape : part = [] ∨ HasShape part)
    (keyword : Keyword) : HasShape (part ++ keyword.spelling) := by
  rcases shape with rfl | ⟨first, rest, rfl, start, parts⟩
  · exact hasShape_spelling keyword
  · refine ⟨first, rest ++ keyword.spelling, rfl, start, ?_⟩
    exact List.forall_mem_append.2 ⟨parts, (hasShape_spelling keyword).isPart⟩

theorem PlainHead.startsApart (head : PlainHead left keyword gap name rest) :
    Text.StartsApart (gap ++ (name ++ rest)) := by
  obtain ⟨c, more, rfl⟩ := List.exists_cons_of_ne_nil head.spaced
  exact Text.startsApart_cons _ (Identifier.isPart_eq_false_of_isBlank (head.blank c (by simp)))

theorem startsSolid_spelling (keyword : Keyword) (tail : Text) :
    Text.StartsSolid (keyword.spelling ++ tail) :=
  (hasShape_spelling keyword).startsSolid.append tail

/-- What is matched up to the end of a name covers a later head only if the name has its keyword. -/
theorem coversHeads_bare? : CoversHeads bare? WithinName := by
  intro outer inner keyword gap name rest head filled
  constructor
  · rintro ⟨first, space, part, rfl, boundary, spaced, blank, shape⟩
    have earlier : PlainHead outer first space (part ++ keyword.spelling) (gap ++ (name ++ rest)) :=
      ⟨boundary, spaced, blank, hasShape_append_spelling shape keyword, head.startsApart⟩
    refine ⟨_, _, by simpa using earlier.bare?_eq, ?_⟩
    obtain ⟨c, more, spelled, _⟩ := hasShape_spelling keyword
    simp [spelled]
  · rintro ⟨item, width, found, beyond⟩
    obtain ⟨first, space, word, tail, same, earlier, _⟩ := readsHeads_bare? _ _ _ _ found
    rw [same, earlier.bare?_eq, Option.some.injEq, Prod.mk.injEq] at found
    obtain ⟨part, rfl, split⟩ := exists_append_of_boundary head.boundary filled earlier.blank
      (startsSolid_spelling keyword _) same
    have shorter : part.length < word.length := by
      rw [← found.2] at beyond
      simp only [List.length_append] at beyond
      omega
    have lead : part <+: word := by
      apply List.prefix_of_prefix_length_le _ (List.prefix_append word tail) shorter.le
      rw [split]
      exact List.prefix_append part _
    refine ⟨first, space, part, rfl, earlier.boundary, earlier.spaced, earlier.blank, ?_⟩
    cases part with
    | nil => exact .inl rfl
    | cons c part =>
      obtain ⟨d, others, rfl, start, parts⟩ := earlier.shaped
      obtain ⟨rfl, inside⟩ := List.cons_prefix_cons.1 lead
      exact .inr ⟨c, part, rfl, start, fun other member => parts other (inside.subset member)⟩

theorem endsValue_eq_false {c : Char}
    (inside : Text.isBlank c = true ∨ Identifier.isPart c = true) : endsValue c = false := by
  by_contra ends
  simp only [endsValue, Bool.not_eq_false, Bool.or_eq_true, beq_iff_eq] at ends
  rcases ends with rfl | rfl
  · exact absurd inside (by decide)
  · exact absurd inside (by decide)

/-- A head, an equals sign and neither a comma nor a semicolon follow `outer`, so what stands behind
`inner` belongs to the initializer of a head. -/
def WithinInitializer (outer inner : Text) : Prop :=
  ∃ (keyword : Keyword) (gap word space value : Text),
    inner = keyword.spelling ++ (gap ++ (word ++ (space ++ '=' :: value))) ∧
    InitializedHead outer keyword gap word space value ∧ ∀ c ∈ value, endsValue c = false

/-- An initializer within an initializer ends with it. -/
theorem WithinInitializer.trans {outer inner more : Text} (around : WithinInitializer outer inner)
    (inside : WithinInitializer (outer ++ inner) more) :
    WithinInitializer outer (inner ++ more) := by
  obtain ⟨keyword, gap, word, space, value, rfl, head, plain⟩ := around
  obtain ⟨other, otherGap, otherWord, otherSpace, otherValue, rfl, otherHead, otherPlain⟩ := inside
  refine ⟨keyword, gap, word, space, value ++ (other.spelling ++ (otherGap ++ (otherWord ++
    (otherSpace ++ '=' :: otherValue)))), by simp, head.with_initializer _, ?_⟩
  simp only [List.forall_mem_append, List.forall_mem_cons]
  refine ⟨plain, ?_, ?_, ?_, ?_, by decide, otherPlain⟩
  · exact fun c member => endsValue_eq_false (.inr ((hasShape_spelling other).isPart c member))
  · exact fun c member => endsValue_eq_false (.inl (otherHead.blank c member))
  · exact fun c member => endsValue_eq_false (.inr (otherHead.shaped.isPart c member))
  · exact fun c member => endsValue_eq_false (.inl (otherHead.padded c member))

theorem ne_equals_of_isStart {c : Char} (start : Identifier.isStart c = true) : c ≠ '=' := by
  rintro rfl
  exact absurd start (by decide)

/-- A head behind an earlier one that has an equals sign is behind that sign. -/
theorem InitializedHead.exists_append_of_head {first : Keyword}
    {outer other space word blanks initializer part : Text}
    (earlier : InitializedHead outer first space word blanks initializer)
    (head : PlainHead other keyword gap name rest)
    (split : word ++ (blanks ++ '=' :: initializer) =
      part ++ (keyword.spelling ++ (gap ++ (name ++ rest)))) :
    ∃ value, part = word ++ (blanks ++ '=' :: value) ∧
      initializer = value ++ (keyword.spelling ++ (gap ++ (name ++ rest))) := by
  rcases List.append_eq_append_iff.1 split with ⟨behind, rfl, tail⟩ | ⟨more, wordSplit, right⟩
  · obtain ⟨part, rfl, source⟩ := Text.exists_append_of_blank earlier.padded
      (startsSolid_spelling keyword _) tail
    cases part with
    | nil =>
      obtain ⟨c, others, spelled, start, _⟩ := hasShape_spelling keyword
      rw [List.nil_append, spelled, List.cons_append] at source
      exact absurd (List.cons.inj source).1.symm (ne_equals_of_isStart start)
    | cons c value =>
      rw [List.cons_append] at source
      obtain ⟨rfl, behindSign⟩ := List.cons.inj source
      exact ⟨value, rfl, behindSign⟩
  · -- A keyword in the word would be its end, and a name follows it instead of an equals sign.
    have parts : ∀ c ∈ more, Identifier.isPart c = true := fun c member =>
      earlier.shaped.isPart c (wordSplit ▸ List.mem_append_right part member)
    have ending := congrArg (List.takeWhile Identifier.isPart) right
    rw [Identifier.takeWhile_append parts earlier.ends,
      Identifier.takeWhile_append (hasShape_spelling keyword).isPart head.startsApart] at ending
    rw [← ending] at right
    have equals := earlier.trimStart_eq
    rw [← List.append_cancel_left right, Text.trimStart_append head.blank,
      Text.trimStart_of_solid (head.shaped.startsSolid.append rest)] at equals
    obtain ⟨c, others, rfl, start, _⟩ := head.shaped
    exact absurd (List.cons.inj equals).1 (ne_equals_of_isStart start)

/-- What is matched up to the end of an initializer covers the heads in it and no other. -/
theorem coversHeads_initialized? : CoversHeads initialized? WithinInitializer := by
  intro outer inner keyword gap name rest head filled
  constructor
  · rintro ⟨first, space, word, blanks, value, rfl, earlier, plain⟩
    have found := (earlier.with_initializer
      (value ++ (keyword.spelling ++ (gap ++ (name ++ rest))))).initialized?_eq
    refine ⟨_, _, by simpa using found, ?_⟩
    have letters : ∀ c ∈ keyword.spelling, endsValue c = false := fun c member =>
      endsValue_eq_false (.inr ((hasShape_spelling keyword).isPart c member))
    obtain ⟨c, more, spelled, _⟩ := hasShape_spelling keyword
    rw [valueText_append plain, valueText_append letters, spelled]
    simp only [List.length_append, List.length_cons]
    omega
  · rintro ⟨item, width, found, beyond⟩
    obtain ⟨first, space, word, blanks, initializer, same, earlier⟩ :=
      exists_head_of_initialized? found
    rw [same, earlier.initialized?_eq, Option.some.injEq, Prod.mk.injEq] at found
    obtain ⟨part, rfl, split⟩ := exists_append_of_boundary head.boundary filled earlier.blank
      (startsSolid_spelling keyword _) same
    obtain ⟨value, rfl, source⟩ := earlier.exists_append_of_head head split
    refine ⟨first, space, word, blanks, value, rfl, earlier.with_initializer _, ?_⟩
    have shorter : value.length ≤ (valueText initializer).length := by
      rw [← found.2] at beyond
      simp only [List.length_append, List.length_cons] at beyond
      omega
    have lead : value <+: valueText initializer := by
      apply List.prefix_of_prefix_length_le _ (List.takeWhile_prefix _) shorter
      rw [source]
      exact List.prefix_append value _
    exact fun c member => endsValue_of_mem_valueText (lead.subset member)

/-- The place behind `left` lies in an initializer. -/
def InInitializer (left : Text) : Prop :=
  ∃ outer inner, left = outer ++ inner ∧ WithinInitializer outer inner

/-- Of the initializers around a place the outermost is read, so every place in an initializer is
overlooked. -/
theorem overlooked_withinInitializer_iff :
    Overlooked WithinInitializer left ↔ InInitializer left := by
  constructor
  · intro overlooked
    rw [Overlooked] at overlooked
    obtain ⟨outer, inner, ⟨split, _⟩, inside, _⟩ := overlooked
    exact ⟨outer, inner, split, inside⟩
  · rintro ⟨outer, inner, rfl, inside⟩
    induction size : outer.length using Nat.strong_induction_on generalizing outer inner with
    | _ length ih =>
      by_cases deeper : Overlooked WithinInitializer outer
      · rw [Overlooked] at deeper
        obtain ⟨further, between, ⟨rfl, filled⟩, around, _⟩ := deeper
        have shorter : further.length < length := size ▸ Text.length_lt_append further filled
        rw [List.append_assoc]
        exact ih further.length shorter further _ (around.trans inside) rfl
      · have filled : inner ≠ [] := by
          obtain ⟨keyword, gap, word, space, value, rfl, _⟩ := inside
          simp
        rw [Overlooked]
        exact ⟨outer, inner, ⟨rfl, filled⟩, inside, deeper⟩

/-- A rule finds a symbol with the given name on a content line of a fragment, at the position of
the given byte column. -/
def Reports (rule : Rule) (fragment : Fragment) (index : Nat) (line name : Text) (column : Nat) :
    Prop :=
  ∃ symbol ∈ Symbol.ofLine fragment index line rule,
    symbol.name = name ∧ symbol.position = fragment.positionInLine index line column

section Reports

variable (fragment : Fragment) (index : Nat)

/-- What is declared in the place of a head is declared by it. -/
theorem PlainHead.eq_of_recognized {other behind : Text} {declaration : Declaration} {width : Nat}
    (head : PlainHead left keyword gap name rest) (reads : ReadsHeads recognize)
    (split : left ++ (keyword.spelling ++ (gap ++ (name ++ rest))) = other ++ behind)
    (found : recognize other.reverse behind = some (some declaration, width))
    (same : fragment.positionInLine index (other ++ behind) declaration.column =
      fragment.positionInLine index (other ++ behind)
        (Text.utf8Length (left ++ (keyword.spelling ++ gap)))) :
    other = left := by
  obtain ⟨first, space, word, tail, rfl, stands, declared⟩ := reads _ _ _ _ found
  rw [(declared declaration rfl).2] at same
  apply head.left_eq stands
  apply fragment.eq_of_positionInLine_eq index _ _ same
  · exact ⟨word ++ tail, by simp⟩
  · exact ⟨name ++ rest, by simp [← split]⟩

/-- A rule reports the name of a head exactly if it declares it and does not overlook the head. -/
theorem PlainHead.reports_iff {rule : Rule} (head : PlainHead left keyword gap name rest)
    (reads : ReadsHeads recognize) (covers : CoversHeads recognize within)
    (applies : ∀ line, rule.apply line = (Text.scan recognize line).filterMap id) :
    rule.Reports fragment index (left ++ (keyword.spelling ++ (gap ++ (name ++ rest)))) name
        (Text.utf8Length (left ++ (keyword.spelling ++ gap))) ↔
      (∃ declaration width, recognize left.reverse
        (keyword.spelling ++ (gap ++ (name ++ rest))) = some (some declaration, width)) ∧
      ¬ Overlooked within left := by
  rw [← head.pending_pos_iff reads covers, Nat.pos_iff_ne_zero, not_not]
  constructor
  · rintro ⟨symbol, member, -, place⟩
    obtain ⟨declaration, applied, rfl⟩ := List.mem_map.1 member
    rw [applies] at applied
    obtain ⟨item, scanned, rfl⟩ := List.mem_filterMap.1 applied
    constructor
    · obtain ⟨before, behind, width, split, found⟩ := Text.exists_recognized_of_mem_scan scanned
      rw [← List.reverse_reverse before] at found
      rw [split] at place
      have here := head.eq_of_recognized fragment index reads split found place
      rw [here] at split found
      rw [List.append_cancel_left split]
      exact ⟨declaration, width, found⟩
    · by_contra owed
      obtain ⟨other, behind, width, split, elsewhere, found⟩ :=
        Text.exists_elsewhere_of_pending (Nat.pos_of_ne_zero owed) scanned
      rw [split] at place
      exact elsewhere (head.eq_of_recognized fragment index reads split found place)
  · rintro ⟨⟨declaration, width, found⟩, free⟩
    have filled : keyword.spelling ++ (gap ++ (name ++ rest)) ≠ [] := by
      obtain ⟨c, more, spelled, _⟩ := hasShape_spelling keyword
      simp [spelled]
    have scanned := Text.mem_scan_of_pending_eq_zero filled found free
    have applied := List.mem_filterMap.2 ⟨_, scanned, Eq.refl (id (some declaration))⟩
    rw [← applies] at applied
    obtain ⟨first, space, word, tail, same, stands, declared⟩ := reads _ _ _ _ found
    have heads := head.head?_eq
    rw [same, stands.head?_eq, Option.some.injEq, Head.mk.injEq] at heads
    obtain ⟨_, named, column, _⟩ := heads
    obtain ⟨declaredName, declaredColumn⟩ := declared declaration rfl
    refine ⟨_, List.mem_map_of_mem applied, declaredName.trans named, ?_⟩
    rw [Declaration.toSymbol, declaredColumn, column]

/-- Whether no equals sign follows a name, or one that is an operator of its own and has more than
white space before the next comma or semicolon. -/
def endsPlainly (rest : Text) : Bool :=
  match Text.dropLead? ['='] (Text.trimStart rest) with
  | none => true
  | some initializer => !isOtherOperator initializer && !Text.isBlankText (valueText initializer)

/-- The rule for bare declarations reports the heads that no equals sign follows, unless they are
within a name. -/
theorem PlainHead.reports_bare_iff (head : PlainHead left keyword gap name rest)
    (valid : Identifier.isValid name = true) :
    bareDeclaration.Reports fragment index (left ++ (keyword.spelling ++ (gap ++ (name ++ rest))))
        name (Text.utf8Length (left ++ (keyword.spelling ++ gap))) ↔
      Text.startsWith '=' (Text.trimStart rest) = false ∧ ¬ Overlooked WithinName left := by
  rw [head.reports_iff fragment index readsHeads_bare? coversHeads_bare? fun _ => rfl,
    head.bare?_eq, valid]
  cases Text.startsWith '=' (Text.trimStart rest) with
  | false => simp
  | true => simp

/-- The rule for initialized declarations reports the heads that an equals sign follows, unless they
lie in an initializer. -/
theorem PlainHead.reports_initialized_iff (head : PlainHead left keyword gap name rest)
    (valid : Identifier.isValid name = true) (plain : endsPlainly rest = true) :
    initializedDeclaration.Reports fragment index
        (left ++ (keyword.spelling ++ (gap ++ (name ++ rest)))) name
        (Text.utf8Length (left ++ (keyword.spelling ++ gap))) ↔
      Text.startsWith '=' (Text.trimStart rest) = true ∧ ¬ InInitializer left := by
  rw [head.reports_iff fragment index readsHeads_initialized? coversHeads_initialized? fun _ => rfl,
    overlooked_withinInitializer_iff]
  refine and_congr_left fun _ => ⟨?_, fun equals => ?_⟩
  · rintro ⟨declaration, width, found⟩
    simp only [initialized?, head.head?_eq, Option.bind_eq_bind, Option.bind_some,
      Option.bind_eq_some_iff] at found
    obtain ⟨initializer, dropped, _⟩ := found
    rw [Text.eq_append_of_dropLead? dropped]
    rfl
  · obtain ⟨initializer, starts⟩ : ∃ initializer, Text.trimStart rest = '=' :: initializer := by
      simpa [Text.startsWith, List.head?_eq_some_iff] using equals
    obtain ⟨single, solid⟩ : isOtherOperator initializer = false ∧
        Text.isBlankText (valueText initializer) = false := by
      simpa [endsPlainly, starts, Text.dropLead?] using plain
    obtain ⟨c, more, value, _⟩ := (Text.isToken_trim solid).starts
    obtain ⟨space, rfl, initialized⟩ := InitializedHead.of_trimStart head starts
    have found := initialized.initialized?_eq
    rw [single, value, valid] at found
    exact ⟨_, _, found⟩

/-- A plain declaration is passed over: in an initializer if it has one itself, in a name if it has
none. -/
def Taken (left rest : Text) : Prop :=
  if Text.startsWith '=' (Text.trimStart rest) = true then InInitializer left
  else Overlooked WithinName left

/-- **Plain declarations are reported once.** One of the two rules for plain declarations reports
the name of a plain declaration at its place, and only one of them, unless an earlier match has
taken the place: then none of them does. -/
theorem plain_declarations_reported_unless_taken (head : PlainHead left keyword gap name rest)
    (valid : Identifier.isValid name = true) (plain : endsPlainly rest = true) :
    let line := left ++ (keyword.spelling ++ (gap ++ (name ++ rest)))
    let column := Text.utf8Length (left ++ (keyword.spelling ++ gap))
    (¬ Taken left rest → Xor (initializedDeclaration.Reports fragment index line name column)
      (bareDeclaration.Reports fragment index line name column)) ∧
    (Taken left rest → ¬ initializedDeclaration.Reports fragment index line name column ∧
      ¬ bareDeclaration.Reports fragment index line name column) := by
  intro line column
  rw [head.reports_initialized_iff fragment index valid plain,
    head.reports_bare_iff fragment index valid, Taken]
  cases Text.startsWith '=' (Text.trimStart rest) with
  | true => simp [Xor]
  | false => simp [Xor]

/-- In `const f = () => { let x = 1; }` the outer declaration is reported, and the inner one is
not. -/
theorem plain_declarations_reported_unless_taken_when_nested :
    let value : Text := [' ', '(', ')', ' ', '=', '>', ' ', '{', ' ']
    let outer : Text := 'c' :: 'o' :: 'n' :: 's' :: 't' :: ' ' :: 'f' :: ' ' :: '=' :: value
    let line : Text := outer ++ ['l', 'e', 't', ' ', 'x', ' ', '=', ' ', '1', ';', ' ', '}']
    let fragment : Fragment := ⟨line, ⟨0, 3⟩, ⟨0, 33⟩, .scriptlet, 3⟩
    ¬ InInitializer [] ∧ Xor (initializedDeclaration.Reports fragment 0 line ['f'] 6)
        (bareDeclaration.Reports fragment 0 line ['f'] 6) ∧
      InInitializer outer ∧ ¬ initializedDeclaration.Reports fragment 0 line ['x'] 22 ∧
        ¬ bareDeclaration.Reports fragment 0 line ['x'] 22 := by
  intro value outer line fragment
  have blank : ∀ c ∈ [' '], Text.isBlank c = true := List.all_eq_true.1 (by decide)
  have initialized (more : Text) :
      InitializedHead [] .constKeyword [' '] ['f'] [' '] (value ++ more) :=
    ⟨⟨rfl, by simp, blank, Identifier.hasShape_of_isValid (by decide),
      Text.startsApart_cons _ (by decide)⟩, blank⟩
  have nested : PlainHead outer .letKeyword [' '] ['x'] [' ', '=', ' ', '1', ';', ' ', '}'] :=
    ⟨by decide, by simp, blank, Identifier.hasShape_of_isValid (by decide),
      Text.startsApart_cons _ (by decide)⟩
  have outside : ¬ InInitializer [] := by
    rintro ⟨before, inner, split, keyword, gap, word, space, value, rfl, _⟩
    simp at split
  have inside : InInitializer outer := by
    have plain : ∀ c ∈ value, endsValue c = false := by
      simp [value, endsValue]
    refine ⟨[], outer, rfl, .constKeyword, [' '], ['f'], [' '], value, rfl, ?_, plain⟩
    simpa using initialized []
  refine ⟨outside, ?_, inside, ?_⟩
  · exact (plain_declarations_reported_unless_taken fragment 0 (initialized _).toPlainHead
      (by decide) (by decide)).1 outside
  · exact (plain_declarations_reported_unless_taken fragment 0 nested (by decide)
      (by decide)).2 inside

end Reports

end Rule

end TemplateNav
