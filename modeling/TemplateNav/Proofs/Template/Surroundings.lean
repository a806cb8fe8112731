import Mathlib.Data.List.Basic
import TemplateNav.Proofs.Lines.Shift
import TemplateNav.Proofs.Template.Location

/-!
# Fragments between other text

Text in front of a document that opens no tag, and text behind it that closes
none, leave its tags as they are.  So the fragments stay the same, shifted by the
text in front.
-/

namespace TemplateNav

namespace Text

variable {α : Type} {recognize : Text → Text → Option (α × Nat)}

/-- A scan passes over a text in which nothing is recognized. -/
theorem scanFrom_front {front text : Text} (before : Text)
    (unrecognized : ∀ left right, front = left ++ right → right ≠ [] →
      recognize (left.reverse ++ before) (right ++ text) = none) :
    scanFrom recognize before 0 (front ++ text) =
      scanFrom recognize (front.reverse ++ before) 0 text := by
  induction front generalizing before with
  | nil => rfl
  | cons c front ih =>
    have here := unrecognized [] (c :: front) rfl (by simp)
    have later := ih (c :: before) (by
      intro left right split nonempty
      simpa using unrecognized (c :: left) right (by simp [split]) nonempty)
    simp only [List.reverse_nil, List.nil_append, List.cons_append] at here
    rw [List.cons_append, scanFrom, here]
    simpa using later

theorem scanFrom_eq_nil {text : Text} (before : Text) (skip : Nat)
    (unrecognized : ∀ left right, right <:+ text → recognize left right = none) :
    scanFrom recognize before skip text = [] := by
  induction text generalizing before skip with
  | nil => rfl
  | cons c text ih =>
    have later := fun before skip => ih before skip fun left right suffix =>
      unrecognized left right (suffix.trans (List.suffix_cons c text))
    cases skip with
    | succ skip => exact later _ _
    | zero =>
      rw [scanFrom, unrecognized _ _ List.suffix_rfl]
      exact later _ _

/-- A scan finds the same if what follows a text changes no recognition in it. -/
theorem scanFrom_append {text rest : Text} (before : Text) (skip : Nat)
    (same : ∀ left right, right <:+ text → recognize left (right ++ rest) = recognize left right)
    (unrecognized : ∀ left right, right <:+ rest → recognize left right = none) :
    scanFrom recognize before skip (text ++ rest) = scanFrom recognize before skip text := by
  induction text generalizing before skip with
  | nil => exact scanFrom_eq_nil before skip unrecognized
  | cons c text ih =>
    have later := fun before skip => ih before skip fun left right suffix =>
      same left right (suffix.trans (List.suffix_cons c text))
    cases skip with
    | succ skip => exact later _ _
    | zero =>
      have here := same before (c :: text) List.suffix_rfl
      rw [List.cons_append] at here
      rw [List.cons_append, scanFrom, scanFrom, here]
      cases recognize before (c :: text) with
      | none => exact later _ _
      | some found => exact congrArg _ (later _ _)

/-- What a scan finds behind more text changes as each recognition does. -/
theorem scanFrom_map {more : Text} {change : α → α}
    (changed : ∀ before text, recognize (before ++ more) text =
      (recognize before text).map fun (found, width) => (change found, width))
    (before : Text) (skip : Nat) (text : Text) :
    scanFrom recognize (before ++ more) skip text =
      (scanFrom recognize before skip text).map change := by
  induction text generalizing before skip with
  | nil => rfl
  | cons c text ih =>
    cases skip with
    | succ skip => exact ih (c :: before) skip
    | zero =>
      rw [scanFrom, scanFrom, changed]
      cases recognize before (c :: text) with
      | none => exact ih (c :: before) 0
      | some found => exact congrArg _ (ih (c :: before) _)

theorem dropLead?_append {lead text rest : Text} (found : dropLead? lead text = some rest)
    (more : Text) : dropLead? lead (text ++ more) = some (rest ++ more) := by
  rw [eq_append_of_dropLead? found, List.append_assoc]
  exact dropLead?_self lead (rest ++ more)

/-- Behind a lead that a text has only with more text there is no more than that. -/
theorem isSuffix_of_dropLead?_append {lead text more rest : Text}
    (missing : dropLead? lead text = none) (found : dropLead? lead (text ++ more) = some rest) :
    rest <:+ more := by
  rcases List.append_eq_append_iff.1 (eq_append_of_dropLead? found) with
    ⟨passed, _, split⟩ | ⟨inside, split, _⟩
  · exact ⟨passed, split.symm⟩
  · rw [split, dropLead?_self] at missing
    cases missing

end Text

namespace Tag

/-- `front` opens no tag in front of `text`, not even together with the start of it. -/
structure OpensNothing (front text : Text) : Prop where
  absent : ¬ ['<', '%'] <:+: front
  edge : text.head? = some '%' → front.getLast? ≠ some '<'

/-- `rest` closes no tag behind `text`, not even together with the end of it. -/
structure ClosesNothing (text rest : Text) : Prop where
  absent : ¬ ['%', '>'] <:+: rest
  edge : text.getLast? = some '%' → rest.head? ≠ some '>'

theorem untilClose?_cons {c : Char} {text : Text} (unclosed : c = '%' → text.head? ≠ some '>') :
    untilClose? (c :: text) = (untilClose? text).map fun (body, after) => (c :: body, after) := by
  rw [untilClose?]
  rintro rest rfl rfl
  exact unclosed rfl rfl

theorem untilClose?_eq_none {text : Text} (absent : ¬ ['%', '>'] <:+: text) :
    untilClose? text = none := by
  cases found : untilClose? text with
  | none => rfl
  | some split =>
    obtain ⟨body, after⟩ := split
    exact absurd ⟨body, after, by simp [eq_append_of_untilClose? found]⟩ absent

theorem body?_eq_none {text : Text} (absent : ¬ ['%', '>'] <:+: text) (tag : Tag) :
    tag.body? text = none := by
  cases found : tag.body? text with
  | none => rfl
  | some body =>
    obtain ⟨after, split⟩ := exists_append_of_body? found
    exact absurd ⟨body, after, by simp [split]⟩ absent

namespace ClosesNothing

variable {text rest : Text}

theorem of_isSuffix (closes : ClosesNothing text rest) {part : Text} (suffix : part <:+ text) :
    ClosesNothing part rest where
  absent := closes.absent
  edge := by
    intro last
    obtain ⟨front, rfl⟩ := suffix
    exact closes.edge (by rw [List.getLast?_append, last, Option.some_or])

/-- No body that begins in what follows ends there. -/
theorem body?_of_isSuffix (closes : ClosesNothing text rest) {part : Text} (suffix : part <:+ rest)
    (tag : Tag) : tag.body? part = none :=
  body?_eq_none (fun present => closes.absent (present.trans suffix.isInfix)) tag

theorem recognize_of_isSuffix (closes : ClosesNothing text rest) {part : Text}
    (suffix : part <:+ rest) (tag : Tag) (before : Text) : tag.recognize before part = none := by
  unfold recognize
  cases found : Text.dropLead? tag.opener part with
  | none => rfl
  | some inside =>
    have unclosed := closes.body?_of_isSuffix ((Text.isSuffix_of_dropLead? found).trans suffix) tag
    simp [unclosed]

/-- A body that ends within a text ends there with more text as well, and no other body ends. -/
theorem untilClose?_append (closes : ClosesNothing text rest) :
    untilClose? (text ++ rest) =
      (untilClose? text).map fun (body, after) => (body, after ++ rest) := by
  fun_induction untilClose? text with
  | case1 => exact untilClose?_eq_none closes.absent
  | case2 => rfl
  | case3 c text unclosed ih =>
    have later := ih (closes.of_isSuffix (List.suffix_cons c text))
    rw [List.cons_append, untilClose?_cons, later, Option.map_map, Option.map_map]
    · rfl
    · rintro rfl
      cases text with
      | nil => exact closes.edge rfl
      | cons d text =>
        rintro head
        exact unclosed text rfl (by rw [Option.some.inj head])

/-- A text that is not empty starts with a closing delimiter only by itself. -/
theorem dropLead?_append (closes : ClosesNothing text rest) (nonempty : text ≠ []) :
    Text.dropLead? ['%', '>'] (text ++ rest) =
      (Text.dropLead? ['%', '>'] text).map (· ++ rest) := by
  cases found : Text.dropLead? ['%', '>'] text with
  | some after => rw [Text.dropLead?_append found, Option.map_some]
  | none =>
    cases longer : Text.dropLead? ['%', '>'] (text ++ rest) with
    | none => rfl
    | some after =>
      have split := Text.eq_append_of_dropLead? longer
      rcases List.append_eq_cons_iff.1 split with ⟨rfl, _⟩ | ⟨text, rfl, later⟩
      · exact absurd rfl nonempty
      · rcases List.append_eq_cons_iff.1 later.symm with ⟨rfl, rfl⟩ | ⟨text, rfl, _⟩
        · exact absurd rfl (closes.edge rfl)
        · cases found

/-- What follows changes no body. -/
theorem body?_append (closes : ClosesNothing text rest) (tag : Tag) :
    tag.body? (text ++ rest) = tag.body? text := by
  have closed : (untilClose? (text ++ rest)).map Prod.fst = (untilClose? text).map Prod.fst := by
    rw [closes.untilClose?_append, Option.map_map]
    rfl
  cases tag with
  | output => exact closed
  | unescapedOutput => exact closed
  | scriptlet =>
    cases text with
    | nil => exact body?_eq_none closes.absent _
    | cons c text =>
      have later := (closes.of_isSuffix (List.suffix_cons c text)).untilClose?_append
      have empty := closes.dropLead?_append (List.cons_ne_nil c text)
      rw [List.cons_append] at empty ⊢
      simp only [body?, later, empty, Option.map_map]
      rfl

/-- What follows changes no recognition of a tag. -/
theorem recognize_append (closes : ClosesNothing text rest) (tag : Tag) (before : Text) :
    tag.recognize before (text ++ rest) = tag.recognize before text := by
  unfold recognize
  cases found : Text.dropLead? tag.opener text with
  | some inside =>
    have suffix : inside <:+ text := Text.isSuffix_of_dropLead? found
    simp [Text.dropLead?_append found, (closes.of_isSuffix suffix).body?_append]
  | none =>
    cases longer : Text.dropLead? tag.opener (text ++ rest) with
    | none => rfl
    | some inside =>
      -- The opener ends in what follows, where nothing closes it.
      have suffix := Text.isSuffix_of_dropLead?_append found longer
      have unclosed := closes.body?_of_isSuffix suffix tag
      simp [unclosed]

theorem bodies_append (closes : ClosesNothing text rest) (tag : Tag) :
    tag.bodies (text ++ rest) = tag.bodies text := by
  apply Text.scanFrom_append
  · intro left right suffix
    exact (closes.of_isSuffix suffix).recognize_append tag left
  · intro left right suffix
    exact closes.recognize_of_isSuffix suffix tag left

end ClosesNothing

/-- Where a body is when `front` is put in front of its text. -/
def Body.shifted (body : Body) (front : Text) : Body :=
  { body with offset := Text.utf8Length front + body.offset }

theorem recognize_shifted (tag : Tag) (front before text : Text) :
    tag.recognize (before ++ front.reverse) text =
      (tag.recognize before text).map fun (body, width) => (body.shifted front, width) := by
  unfold recognize
  cases Text.dropLead? tag.opener text with
  | none => rfl
  | some inside =>
    cases found : tag.body? inside with
    | none => simp [found]
    | some body =>
      simp only [found, Body.shifted, Text.utf8Length_append, Text.utf8Length_reverse,
        Option.bind_eq_bind, Option.bind_some, Option.pure_def, Option.map_some, Nat.add_assoc,
        Nat.add_left_comm]

theorem exists_opener (tag : Tag) : ∃ more, tag.opener = '<' :: '%' :: more := by
  cases tag with
  | scriptlet => exact ⟨[], rfl⟩
  | output => exact ⟨['='], rfl⟩
  | unescapedOutput => exact ⟨['-'], rfl⟩

namespace OpensNothing

variable {front text rest : Text}

/-- No tag starts in front. -/
theorem recognize_eq_none (opens : OpensNothing front text) (closes : ClosesNothing text rest)
    {left right : Text} (split : front = left ++ right) (nonempty : right ≠ []) (tag : Tag)
    (before : Text) : tag.recognize before (right ++ (text ++ rest)) = none := by
  unfold recognize
  cases found : Text.dropLead? tag.opener (right ++ (text ++ rest)) with
  | none => rfl
  | some inside =>
    obtain ⟨more, opener⟩ := exists_opener tag
    have whole := Text.eq_append_of_dropLead? found
    rw [opener, List.cons_append, List.cons_append] at whole
    rcases List.append_eq_cons_iff.1 whole with ⟨empty, _⟩ | ⟨right, rfl, behind⟩
    · exact absurd empty nonempty
    · rcases List.append_eq_cons_iff.1 behind.symm with ⟨rfl, crossing⟩ | ⟨right, rfl, _⟩
      · cases text with
        | cons c text =>
          obtain ⟨rfl, _⟩ := List.cons.inj crossing
          exact absurd (by simp [split]) (opens.edge rfl)
        | nil =>
          -- The opener ends behind the text, where nothing closes it.
          have suffix : inside <:+ rest := ⟨'%' :: more, crossing.symm⟩
          have unclosed := closes.body?_of_isSuffix suffix tag
          simp [unclosed]
      · exact absurd ⟨left, right, by simp [split]⟩ opens.absent

theorem bodies_append (opens : OpensNothing front text) (closes : ClosesNothing text rest)
    (tag : Tag) :
    tag.bodies (front ++ (text ++ rest)) = (tag.bodies text).map (Body.shifted · front) := by
  have passed : tag.bodies (front ++ (text ++ rest)) =
      Text.scanFrom tag.recognize ([] ++ front.reverse) 0 (text ++ rest) := by
    rw [bodies, Text.scan, Text.scanFrom_front, List.append_nil, List.nil_append]
    intro left right split nonempty
    exact opens.recognize_eq_none closes split nonempty tag _
  rw [passed, ← closes.bodies_append tag]
  exact Text.scanFrom_map (tag.recognize_shifted front) [] 0 _

end OpensNothing

end Tag

namespace Fragment

/-- Where a fragment is when `front` is put in front of its document. -/
def shifted (fragment : Fragment) (front : Text) : Fragment :=
  { fragment with
    start := fragment.start.shifted front
    stop := fragment.stop.shifted front
    offset := Text.utf8Length front + fragment.offset }

/-- Content, kind and offset determine where a fragment is. -/
theorem LocatedIn.eq_shifted {front text rest before after left right : Text}
    {fragment moved : Fragment} (located : fragment.LocatedIn text before after)
    (relocated : moved.LocatedIn (front ++ (text ++ rest)) left right)
    (content : moved.content = fragment.content) (tag : moved.tag = fragment.tag)
    (offset : moved.offset = Text.utf8Length front + fragment.offset) :
    moved = fragment.shifted front := by
  have size : fragment.offset + Text.utf8Length fragment.content ≤ Text.utf8Length text := by
    rw [located.split, located.offset_eq, ← Text.utf8Length_append, Text.utf8Length_append _ after]
    exact Nat.le_add_right _ _
  have start : moved.start = fragment.start.shifted front := by
    rw [relocated.start_eq, offset, Lines.positionOf_front, Lines.positionOf_of_le (by omega),
      located.start_eq]
  have stop : moved.stop = fragment.stop.shifted front := by
    rw [relocated.stop_eq, offset, content, Nat.add_assoc, Lines.positionOf_front,
      Lines.positionOf_of_le size, located.stop_eq]
  cases moved
  cases fragment
  simp only at content tag offset start stop
  subst content tag offset start stop
  rfl

theorem fields_of_ofBody? {text : Text} {tag : Tag} {body : Tag.Body} {fragment : Fragment}
    (made : ofBody? text tag body = some fragment) :
    fragment.content = Text.trim body.text ∧ fragment.tag = tag ∧
      fragment.offset = body.offset +
        (Text.utf8Length body.text - Text.utf8Length (Text.trimStart body.text)) := by
  simp only [ofBody?] at made
  split at made
  · cases made
  · obtain rfl := Option.some.inj made
    exact ⟨rfl, rfl, rfl⟩

theorem exists_fragment_of_mem_bodies {text : Text} {tag : Tag} {body : Tag.Body}
    (member : body ∈ tag.bodies text) (filled : Text.trim body.text ≠ []) :
    ∃ fragment, ofBody? text tag body = some fragment ∧
      (∃ before after, fragment.LocatedIn text before after) ∧
      fragment.content = Text.trim body.text ∧ fragment.tag = tag ∧
      fragment.offset = body.offset +
        (Text.utf8Length body.text - Text.utf8Length (Text.trimStart body.text)) := by
  obtain ⟨lead, rest, split, offset⟩ := Tag.exists_split_of_mem_bodies member
  cases made : ofBody? text tag body with
  | none => simp [ofBody?, filled] at made
  | some fragment =>
    obtain ⟨before, after, place⟩ := placedIn_of_ofBody? split offset made
    exact ⟨fragment, rfl, ⟨before, after, place.locatedIn⟩, fields_of_ofBody? made⟩

theorem ofBody?_shifted {front text rest : Text} {tag : Tag} {body : Tag.Body}
    (member : body ∈ tag.bodies text)
    (moved : body.shifted front ∈ tag.bodies (front ++ (text ++ rest))) :
    ofBody? (front ++ (text ++ rest)) tag (body.shifted front) =
      (ofBody? text tag body).map (shifted · front) := by
  by_cases blank : Text.trim body.text = []
  · simp [ofBody?, Tag.Body.shifted, blank]
  · obtain ⟨fragment, made, ⟨_, _, located⟩, content, kind, offset⟩ :=
      exists_fragment_of_mem_bodies member blank
    obtain ⟨other, madeAgain, ⟨_, _, relocated⟩, sameContent, sameKind, sameOffset⟩ :=
      exists_fragment_of_mem_bodies moved blank
    have same : other = fragment.shifted front := by
      apply located.eq_shifted relocated
      · rw [sameContent, content]
        rfl
      · rw [sameKind, kind]
      · rw [sameOffset, offset]
        exact Nat.add_assoc _ _ _
    rw [madeAgain, made, same, Option.map_some]

/-- The fragments of a document are found between other text as well, and no others. -/
theorem extract_front_append {front text rest : Text} (opens : Tag.OpensNothing front text)
    (closes : Tag.ClosesNothing text rest) :
    extract (front ++ (text ++ rest)) = (extract text).map (shifted · front) := by
  have passes : Tag.passes.flatMap (fun tag => (tag.bodies (front ++ (text ++ rest))).filterMap
      (ofBody? (front ++ (text ++ rest)) tag)) =
      (Tag.passes.flatMap fun tag => (tag.bodies text).filterMap (ofBody? text tag)).map
        (shifted · front) := by
    rw [List.map_flatMap]
    congr 1
    funext tag
    have moved := opens.bodies_append closes tag
    rw [moved, List.filterMap_map, List.map_filterMap]
    apply List.filterMap_congr
    intro body member
    exact ofBody?_shifted member (moved ▸ List.mem_map_of_mem member)
  unfold extract
  rw [passes, List.map_mergeSort]
  intro first _ second _
  exact decide_eq_decide.2 (Position.shifted_le_shifted front).symm

end Fragment

end TemplateNav
