import TemplateNav.Proofs.Script.ByteGrammar

/-!
# Scanning bytes in place of characters

The scans that look for brackets, commas, colons and equals signs do not need to know where
the characters of a text start.  On the bytes of a text, each taken for a character of its
own, they stop where they stop on the text.  An escape then takes one byte only, but the bytes
of a wider character are no mark of any kind, so a scan that is left among them goes on as if
it had read the character.
-/

namespace TemplateNav

namespace Text

/-- The bytes of a text, each taken for the character with its code. -/
def byteChars (text : Text) : Text :=
  text.bytes.map Char.ofUInt8

@[simp] theorem byteChars_append (left right : Text) :
    byteChars (left ++ right) = byteChars left ++ byteChars right := by
  simp [byteChars]

theorem byteChars_cons (c : Char) (rest : Text) :
    byteChars (c :: rest) = byteChars [c] ++ byteChars rest :=
  byteChars_append [c] rest

theorem length_byteChars (text : Text) : (byteChars text).length = utf8Length text := by
  rw [byteChars, List.length_map, length_bytes]

/-- A character of more than one byte, or a byte of one. -/
def IsWide (c : Char) : Prop :=
  128 ≤ c.toNat

theorem isWide_iff {c : Char} : IsWide c ↔ c.utf8Size ≠ 1 := by
  rw [IsWide, Ne, Char.utf8Size_eq_one_iff, UInt32.le_iff_toNat_le, ← Char.toNat_val]
  exact Nat.not_le.symm

theorem byteChars_of_not_isWide {c : Char} (narrow : ¬ IsWide c) : byteChars [c] = [c] := by
  have single : c.utf8Size = 1 := Decidable.not_not.1 (mt isWide_iff.2 narrow)
  have code : Char.ofUInt8 c.toUInt8 = c := by
    rw [← Char.toNat_inj]
    exact (toNat_toUInt8_of_single single).1
  rw [byteChars, bytes_cons, utf8EncodeChar_of_single single]
  simp [code]

theorem byteChars_of_forall {text : Text} (narrow : ∀ c ∈ text, ¬ IsWide c) :
    byteChars text = text := by
  induction text with
  | nil => rfl
  | cons c rest ih =>
    obtain ⟨first, others⟩ := List.forall_mem_cons.1 narrow
    rw [byteChars_cons, byteChars_of_not_isWide first, ih others]
    rfl

theorem isWide_of_mem_byteChars {c d : Char} (wide : IsWide c) (member : d ∈ byteChars [c]) :
    IsWide d := by
  obtain ⟨b, encoded, rfl⟩ := List.mem_map.1 member
  rw [bytes_cons, bytes_nil, List.append_nil] at encoded
  exact le_of_mem_utf8EncodeChar (isWide_iff.1 wide) encoded

theorem byteChars_ne_nil (c : Char) (rest : Text) : byteChars (c :: rest) ≠ [] := by
  rw [← List.length_pos_iff, length_byteChars, utf8Length_cons]
  exact Nat.add_pos_left c.utf8Size_pos _

theorem isWide_or_of_head?_byteChars {text : Text} {d : Char} (head : d ∈ (byteChars text).head?) :
    IsWide d ∨ d ∈ text.head? := by
  cases text with
  | nil => cases head
  | cons c rest =>
    rw [byteChars_cons] at head
    by_cases wide : IsWide c
    · obtain ⟨first, others, split⟩ := List.exists_cons_of_ne_nil (byteChars_ne_nil c [])
      rw [split] at head
      obtain rfl : first = d := Option.some.inj head
      exact .inl (isWide_of_mem_byteChars wide (by simp [split]))
    · rw [byteChars_of_not_isWide wide] at head
      exact .inr head

end Text

open Text (byteChars IsWide)

namespace Bracket

theorem isOther_of_isWide {c : Char} (wide : IsWide c) : IsOther c := by
  apply IsOther.of_not_mem
  intro listed
  exact Text.isWide_iff.1 wide (utf8Size_of_mem_marks listed)

theorem ne_of_isWide {c mark : Char} (wide : IsWide c) (narrow : ¬ IsWide mark) : c ≠ mark := by
  rintro rfl
  exact narrow wide

/-- A scan is inside of nothing that a wide character ends. -/
def Mode.IsNarrow : Mode → Prop
  | .code => True
  | .literal quote => ¬ IsWide quote
  | .escape quote => ¬ IsWide quote

/-- What a scan is inside of behind wide characters. -/
def Mode.passed : Mode → Mode
  | .escape quote => .literal quote
  | mode => mode

theorem Mode.IsNarrow.next {mode : Mode} (narrow : mode.IsNarrow) (c : Char) :
    (mode.next c).IsNarrow := by
  cases mode with
  | code =>
    rw [Mode.next]
    split
    · next quote => exact of_isQuote (fun c => ¬ IsWide c) quote (by simp [IsWide])
    · trivial
  | literal quote =>
    rw [Mode.next]
    split
    · exact narrow
    · split
      · trivial
      · exact narrow
  | escape quote => exact narrow

theorem Mode.next_of_isWide {mode : Mode} (narrow : mode.IsNarrow) {c : Char} (wide : IsWide c) :
    mode.next c = mode.passed := by
  cases mode with
  | code => rw [Mode.next, (isOther_of_isWide wide).quotesNot, if_neg (by simp)]; rfl
  | literal quote =>
    rw [Mode.next, if_neg (ne_of_isWide wide (by simp [IsWide])), if_neg (ne_of_isWide wide narrow)]
    rfl
  | escape quote => rfl

theorem Mode.passed_passed (mode : Mode) : mode.passed.passed = mode.passed := by
  cases mode <;> rfl

/-- A scan that reads a text character by character in a state, puts those it passes before what it
finds behind them, and stops at none that is wide. -/
structure ByteScan (State Found : Type) where
  scan : State → Text → Found
  next : State → Char → State
  put : Char → Found → Found
  Stops : State → Char → Prop
  scan_cons {state : State} {c : Char} (rest : Text) (passes : ¬ Stops state c) :
    scan state (c :: rest) = put c (scan (next state c) rest)
  /-- The states that the scan can come to. -/
  IsNarrow : State → Prop
  isNarrow_next {state : State} {c : Char} (narrow : IsNarrow state) (passes : ¬ Stops state c) :
    IsNarrow (next state c)
  /-- The state behind wide characters. -/
  passed : State → State
  passed_passed (state : State) : passed (passed state) = passed state
  not_stops {state : State} {c : Char} (narrow : IsNarrow state) (wide : IsWide c) :
    ¬ Stops state c
  next_eq {state : State} {c : Char} (narrow : IsNarrow state) (wide : IsWide c) :
    next state c = passed state
  /-- What was found among characters, in bytes. -/
  inBytes : Found → Found
  inBytes_put (c : Char) (found : Found) :
    inBytes (put c found) = (byteChars [c]).foldr put (inBytes found)
  inBytes_nil (state : State) : inBytes (scan state []) = scan state []
  inBytes_stop {state : State} {c : Char} (rest : Text) (narrow : IsNarrow state)
    (stops : Stops state c)
    (agrees : ∀ later state, later.length ≤ rest.length → IsNarrow state →
      scan state (byteChars later) = inBytes (scan state later)) :
    inBytes (scan state (c :: rest)) = scan state (c :: byteChars rest)

namespace ByteScan

variable {State Found : Type} (reader : ByteScan State Found) {state : State}

theorem scan_wide (narrow : reader.IsNarrow state) {lead : Text} (filled : lead ≠ [])
    (wide : ∀ c ∈ lead, IsWide c) (rest : Text) :
    reader.scan state (lead ++ rest) =
      lead.foldr reader.put (reader.scan (reader.passed state) rest) := by
  induction lead generalizing state with
  | nil => exact absurd rfl filled
  | cons c lead ih =>
    obtain ⟨first, others⟩ := List.forall_mem_cons.1 wide
    have passes := reader.not_stops narrow first
    have narrowLater := reader.isNarrow_next narrow passes
    rw [List.cons_append, reader.scan_cons _ passes, List.foldr_cons]
    rw [reader.next_eq narrow first] at narrowLater ⊢
    cases lead with
    | nil => rfl
    | cons d lead => rw [ih narrowLater (by simp) others, reader.passed_passed]

/-- A character is passed as its bytes are. -/
theorem scan_char (narrow : reader.IsNarrow state) {c : Char} (passes : ¬ reader.Stops state c)
    (rest : Text) : reader.scan state (byteChars [c] ++ rest) =
      (byteChars [c]).foldr reader.put (reader.scan (reader.next state c) rest) := by
  by_cases wide : IsWide c
  · rw [reader.next_eq narrow wide]
    exact reader.scan_wide narrow (Text.byteChars_ne_nil c [])
      (fun d member => Text.isWide_of_mem_byteChars wide member) rest
  · rw [Text.byteChars_of_not_isWide wide]
    exact reader.scan_cons rest passes

/-- **A scan finds in the bytes of a text what it finds in the text.** -/
theorem scan_byteChars (narrow : reader.IsNarrow state) (text : Text) :
    reader.scan state (byteChars text) = reader.inBytes (reader.scan state text) := by
  -- The induction is on the length, since a scan may go on behind more than the one character.
  induction size : text.length using Nat.strongRecOn generalizing state text with
  | ind length ih =>
    have agrees : ∀ later state, later.length < length → reader.IsNarrow state →
        reader.scan state (byteChars later) = reader.inBytes (reader.scan state later) :=
      fun later _ shorter narrow => ih later.length shorter narrow later rfl
    cases text with
    | nil => exact (reader.inBytes_nil state).symm
    | cons c rest =>
      rw [List.length_cons] at size
      rw [Text.byteChars_cons]
      by_cases stops : reader.Stops state c
      · have single : ¬ IsWide c := fun wide => reader.not_stops narrow wide stops
        rw [Text.byteChars_of_not_isWide single, reader.inBytes_stop rest narrow stops
          fun later state shorter => agrees later state (by omega)]
        rfl
      · rw [reader.scan_char narrow stops, reader.scan_cons rest stops, reader.inBytes_put,
          agrees rest _ (by omega) (reader.isNarrow_next narrow stops)]

end ByteScan

section Nesting

variable {nesting : Nesting} {c : Char}

theorem Nesting.isNarrow_next (narrow : nesting.mode.IsNarrow) (c : Char) :
    (nesting.next c).mode.IsNarrow := by
  unfold Nesting.next
  split
  · split
    · trivial
    · split
      · trivial
      · exact narrow.next c
  · exact narrow.next c

theorem Nesting.next_of_isWide (narrow : nesting.mode.IsNarrow) (wide : IsWide c) :
    nesting.next c = ⟨nesting.depth, nesting.mode.passed⟩ := by
  have isOther := isOther_of_isWide wide
  rw [← Mode.next_of_isWide narrow wide]
  simp [Nesting.next, isOther.opensNot, isOther.closesNot]

/-- A reader that counts brackets and stops, outside of them and of literals, at one mark only. -/
def ByteScan.ofNesting {Found : Type} (read : Nesting → Text → Found) (put : Char → Found → Found)
    (inBytes : Found → Found) (mark : Char) (single : ¬ IsWide mark)
    (step : ∀ nesting c rest, ¬(c = mark ∧ nesting = Nesting.top) →
      read nesting (c :: rest) = put c (read (nesting.next c) rest))
    (inBytes_put : ∀ c found, inBytes (put c found) = (byteChars [c]).foldr put (inBytes found))
    (inBytes_nil : ∀ nesting, inBytes (read nesting []) = read nesting [])
    (inBytes_stop : ∀ rest, (∀ later : Text, later.length ≤ rest.length →
        read Nesting.top (byteChars later) = inBytes (read Nesting.top later)) →
      inBytes (read Nesting.top (mark :: rest)) = read Nesting.top (mark :: byteChars rest)) :
    ByteScan Nesting Found where
  scan := read
  next := Nesting.next
  put := put
  Stops nesting c := c = mark ∧ nesting = Nesting.top
  scan_cons rest passes := step _ _ rest passes
  IsNarrow nesting := nesting.mode.IsNarrow
  isNarrow_next narrow _ := Nesting.isNarrow_next narrow _
  passed nesting := ⟨nesting.depth, nesting.mode.passed⟩
  passed_passed nesting := by rw [Mode.passed_passed]
  not_stops narrow wide stops := ne_of_isWide wide single stops.1
  next_eq narrow wide := Nesting.next_of_isWide narrow wide
  inBytes := inBytes
  inBytes_put := inBytes_put
  inBytes_nil := inBytes_nil
  inBytes_stop rest _ stops agrees := by
    obtain ⟨rfl, rfl⟩ := stops
    exact inBytes_stop rest fun later shorter => agrees later _ shorter trivial

theorem ByteScan.top_byteChars {Found : Type} (reader : ByteScan Nesting Found)
    (narrow : reader.IsNarrow Nesting.top) (text : Text) :
    reader.scan Nesting.top (byteChars text) = reader.inBytes (reader.scan Nesting.top text) :=
  reader.scan_byteChars narrow text

end Nesting

/-- The two parts of a cut, in bytes. -/
def cutInBytes (cut : Option (Text × Text)) : Option (Text × Text) :=
  cut.map fun (before, after) => (byteChars before, byteChars after)

theorem cutInBytes_prepend (lead : Text) (cut : Option (Text × Text)) :
    cutInBytes (prepend lead cut) = prepend (byteChars lead) (cutInBytes cut) := by
  cases cut with
  | none => rfl
  | some parts => simp [cutInBytes, prepend]

theorem map_length_cutInBytes (index : Nat → Nat) (cut : Option (Text × Text)) :
    ((cutInBytes cut).map fun (before, _) => index before.length) =
      cut.map fun (before, _) => index (Text.utf8Length before) := by
  cases cut with
  | none => rfl
  | some parts => simp [cutInBytes, Text.length_byteChars]

theorem cutInBytes_put (c : Char) (cut : Option (Text × Text)) :
    cutInBytes (prepend [c] cut) =
      (byteChars [c]).foldr (fun c => prepend [c]) (cutInBytes cut) := by
  rw [foldr_prepend, cutInBytes_prepend]

section Closing

variable {pending later : Pending} {c : Char}

theorem Pending.isNarrow_of_next? (narrow : pending.mode.IsNarrow)
    (next : pending.next? c = some later) : later.mode.IsNarrow := by
  unfold Pending.next? at next
  split at next
  · split at next
    · obtain rfl := Option.some.inj next
      trivial
    · split at next
      · split at next
        · cases next
        · split at next
          · obtain rfl := Option.some.inj next
            trivial
          · cases next
      · obtain rfl := Option.some.inj next
        exact narrow.next c
  · obtain rfl := Option.some.inj next
    exact narrow.next c

theorem Pending.next?_of_isWide (narrow : pending.mode.IsNarrow) (wide : IsWide c) :
    pending.next? c = some ⟨pending.awaited, pending.mode.passed⟩ := by
  have isOther := isOther_of_isWide wide
  rw [← Mode.next_of_isWide narrow wide]
  simp [Pending.next?, isOther.opensNot, isOther.closesNot]

/-- A bracket is closed by a character out of turn, or nothing is awaited behind it. -/
def Pending.EndsAt (pending : Pending) (c : Char) : Prop :=
  ∀ later, pending.next? c = some later → later.awaited = []

theorem Pending.exists_next? (goesOn : ¬ pending.EndsAt c) :
    ∃ later, pending.next? c = some later ∧ later.awaited ≠ [] := by
  simpa [Pending.EndsAt] using goesOn

/-- The reader that awaits the closing bracket of a group. -/
def ByteScan.closing : ByteScan Pending (Option (Text × Text)) where
  scan := untilClosed?
  next pending c := (pending.next? c).getD pending
  put c := prepend [c]
  Stops := Pending.EndsAt
  scan_cons {pending c} rest passes := by
    obtain ⟨later, next, awaiting⟩ := Pending.exists_next? passes
    rw [untilClosed?, next]
    simp only
    rw [if_neg (by simpa using awaiting)]
    rfl
  IsNarrow pending := pending.mode.IsNarrow ∧ pending.awaited ≠ []
  isNarrow_next {pending c} narrow passes := by
    obtain ⟨later, next, awaiting⟩ := Pending.exists_next? passes
    rw [next]
    exact ⟨Pending.isNarrow_of_next? narrow.1 next, awaiting⟩
  passed pending := ⟨pending.awaited, pending.mode.passed⟩
  passed_passed pending := by rw [Mode.passed_passed]
  not_stops narrow wide ends := by
    have awaitsNone := ends _ (Pending.next?_of_isWide narrow.1 wide)
    exact narrow.2 awaitsNone
  next_eq narrow wide := by
    rw [Pending.next?_of_isWide narrow.1 wide]
    rfl
  inBytes := cutInBytes
  inBytes_put := cutInBytes_put
  inBytes_nil _ := rfl
  inBytes_stop {pending c} rest _ ends _ := by
    rw [untilClosed?, untilClosed?]
    cases next : pending.next? c with
    | none => rfl
    | some later =>
      simp only [ends later next]
      rfl

end Closing

section Readers

variable (text : Text)

theorem group?_byteChars : group? (byteChars text) = cutInBytes (group? text) := by
  cases text with
  | nil => rfl
  | cons c rest =>
    rw [Text.byteChars_cons]
    cases opens : closer? c with
    | none =>
      -- No byte of another character is an opening bracket.
      obtain ⟨first, others, split⟩ := List.exists_cons_of_ne_nil (Text.byteChars_ne_nil c [])
      have opensNot : closer? first = none := by
        by_cases wide : IsWide c
        · exact (isOther_of_isWide (Text.isWide_of_mem_byteChars wide (by simp [split]))).opensNot
        · rw [Text.byteChars_of_not_isWide wide] at split
          rwa [← List.head_eq_of_cons_eq split]
      rw [split, List.cons_append, group?, group?, opens, opensNot]
      rfl
    | some closer =>
      have narrow : ¬ IsWide c := fun wide => Text.isWide_iff.1 wide (utf8Size_of_closer? opens).1
      rw [Text.byteChars_of_not_isWide narrow, List.singleton_append, group?, group?, opens]
      have awaiting : ByteScan.closing.IsNarrow ⟨[closer], .code⟩ := ⟨trivial, by simp⟩
      exact ByteScan.closing.scan_byteChars awaiting rest

theorem segmentsFrom_byteChars :
    segmentsFrom Nesting.top (byteChars text) = (segmentsFrom Nesting.top text).map byteChars := by
  refine (ByteScan.ofNesting segmentsFrom (fun c => List.modifyHead (c :: ·)) (List.map byteChars)
    ',' (by simp [IsWide]) @segmentsFrom_cons ?_ (fun _ => rfl) ?_).top_byteChars trivial text
  · intro c found
    rw [foldr_modifyHead]
    cases found with
    | nil => rfl
    | cons head others => simp [Text.byteChars_cons c head]
  · intro rest agrees
    rw [segmentsFrom, if_pos (by decide), segmentsFrom, if_pos (by decide),
      agrees rest (Nat.le_refl _)]
    rfl

theorem atColon?_byteChars :
    atColon? Nesting.top (byteChars text) = cutInBytes (atColon? Nesting.top text) := by
  refine (ByteScan.ofNesting atColon? (fun c => prepend [c]) cutInBytes ':' (by simp [IsWide])
    @atColon?_cons cutInBytes_put (fun _ => rfl) ?_).top_byteChars trivial text
  intro rest _
  rw [atColon?, if_pos (by decide), atColon?, if_pos (by decide)]
  rfl

/-- Behind an equals sign only a narrow character can make it a comparison or an arrow. -/
theorem atEquals?_byteChars :
    atEquals? Nesting.top (byteChars text) = cutInBytes (atEquals? Nesting.top text) := by
  refine (ByteScan.ofNesting atEquals? (fun c => prepend [c]) cutInBytes '=' (by simp [IsWide])
    @atEquals?_cons cutInBytes_put (fun _ => rfl) ?_).top_byteChars trivial text
  intro rest agrees
  by_cases operator : ∃ d beyond, rest = d :: beyond ∧ (d = '=' ∨ d = '>')
  · obtain ⟨d, beyond, rfl, operator⟩ := operator
    have narrow : ∀ c ∈ ['=', d], ¬ IsWide c := by
      rcases operator with rfl | rfl <;> simp [IsWide]
    rw [Text.byteChars_cons, Text.byteChars_of_not_isWide (narrow d (by simp)),
      List.singleton_append, atEquals?_operator operator, atEquals?_operator operator,
      agrees beyond (Nat.le_succ _), cutInBytes_prepend, Text.byteChars_of_forall narrow]
  · have assigns : ∀ c ∈ rest.head?, c ≠ '=' ∧ c ≠ '>' := by
      intro c head
      obtain ⟨beyond, rfl⟩ := List.head?_eq_some_iff.1 head
      exact not_or.1 fun either => operator ⟨c, beyond, rfl, either⟩
    have assignsByte : ∀ c ∈ (byteChars rest).head?, c ≠ '=' ∧ c ≠ '>' := by
      intro c head
      rcases Text.isWide_or_of_head?_byteChars head with wide | head
      · exact ⟨ne_of_isWide wide (by simp [IsWide]), ne_of_isWide wide (by simp [IsWide])⟩
      · exact assigns c head
    rw [atEquals?_assignment assigns, atEquals?_assignment assignsByte]
    rfl

end Readers

end Bracket

end TemplateNav
