import TemplateNav.Proofs.Cache.Agreement
import TemplateNav.Session.Step

/-!
# What leaves documents and stored analyses alone

Most of what a session does opens no document, closes none and stores nothing in
the cache: it may only drop entries there.  Opening and closing one document
leaves the others as they are.
-/

namespace TemplateNav

namespace Session

/-- A document is open with this revision and text. -/
def Holds (session : Session) (uri : Uri) (revision : Int) (text : Text) : Prop :=
  session.document? uri = some ⟨revision, text⟩

/-- The open documents are the same, and nothing new is stored. -/
structure Retains (before after : Session) : Prop where
  documents : after.documents = before.documents
  fragments : before.cache.fragments.Shrinks after.cache.fragments
  symbols : before.cache.symbols.Shrinks after.cache.symbols

namespace Retains

variable {before after : Session}

theorem of_same (documents : after.documents = before.documents)
    (fragments : after.cache.fragments = before.cache.fragments)
    (symbols : after.cache.symbols = before.cache.symbols) : Retains before after :=
  ⟨documents, fragments ▸ .refl _, symbols ▸ .refl _⟩

theorem refl (session : Session) : Retains session session :=
  .of_same rfl rfl rfl

theorem trans {first second third : Session} (left : Retains first second)
    (right : Retains second third) : Retains first third :=
  ⟨right.documents.trans left.documents, left.fragments.trans right.fragments,
    left.symbols.trans right.symbols⟩

theorem document? (retains : Retains before after) (uri : Uri) :
    after.document? uri = before.document? uri := by
  unfold Session.document?
  rw [retains.documents]

theorem agreesOn {isKnown : Uri → Int → Text → Prop} (retains : Retains before after)
    (agrees : before.cache.AgreesOn isKnown) : after.cache.AgreesOn isKnown :=
  ⟨agrees.fragments.of_shrinks retains.fragments, agrees.symbols.of_shrinks retains.symbols⟩

end Retains

theorem retains_sweepIfDue (session : Session) : Retains session session.sweepIfDue := by
  have swept (sweepers : List Sweeper) (before : Session) : Retains before { before with
      cache := sweepers.foldl (fun cache sweeper => sweeper.swept cache session.clock)
        before.cache } := by
    induction sweepers generalizing before with
    | nil => exact .refl before
    | cons sweeper others ih =>
      have first : Retains before { before with
          cache := sweeper.swept before.cache session.clock } := by
        unfold Sweeper.swept
        split
        · exact ⟨rfl, RevisionMap.shrinks_restrict _ _, RevisionMap.shrinks_restrict _ _⟩
        · exact .refl before
      exact first.trans (ih _)
  exact (swept session.sweepers session).trans (.of_same rfl rfl rfl)

theorem retains_elapse (session : Session) (duration : Nat) :
    Retains session (session.elapse duration) := by
  have moved : Retains session { session with clock := session.clock + duration } :=
    .of_same rfl rfl rfl
  exact moved.trans (retains_sweepIfDue _)

theorem retains_stopSweeper (session : Session) : Retains session session.stopSweeper := by
  unfold stopSweeper
  split
  · exact .refl session
  · exact .of_same rfl rfl rfl

theorem retains_startSweeper (session : Session) : Retains session session.startSweeper :=
  (retains_stopSweeper session).trans (.of_same rfl rfl rfl)

theorem retains_shutdown (session : Session) : Retains session session.shutdown :=
  (retains_stopSweeper session).trans (.of_same rfl rfl rfl)

theorem retains_settle (session : Session) (task : Task) (outcome : Outcome) :
    Retains session (session.settle task outcome).1 := by
  cases outcome with
  | cancelled => exact .of_same rfl rfl rfl
  | finished answer => exact .of_same rfl rfl rfl
  | overBudget => exact .of_same rfl rfl rfl
  | failed fault => exact .of_same rfl rfl rfl

theorem retains_settleAll (session : Session) (outcomes : List (Job × Outcome)) :
    Retains session (session.settleAll outcomes).1 := by
  induction outcomes generalizing session with
  | nil => exact .refl session
  | cons outcome rest ih => exact (retains_settle session outcome.1.task outcome.2).trans (ih _)

theorem retains_expireOverdue (session : Session) : Retains session session.expireOverdue.1 := by
  have marked : Retains session { session with
      backlog := session.backlog.map fun job =>
        if session.isOverdue job then { job with isAnswered := true } else job } :=
    .of_same rfl rfl rfl
  exact marked.trans (retains_settleAll _ _)

theorem retains_applySettings (session : Session) (json : Json) :
    Retains session (session.applySettings json).1 := by
  unfold applySettings
  split
  · exact .refl session
  · split
    · exact .of_same rfl rfl rfl
    · exact .refl session

theorem retains_configure (session : Session) (json : Json) :
    Retains session (session.configure json).1 := by
  have applied := retains_applySettings session json
  simp only [configure]
  split
  · exact applied.trans (retains_startSweeper _)
  · exact applied

theorem retains_invalidate (session : Session) (uri : Uri) :
    Retains session { session with cache := session.cache.invalidate uri } :=
  ⟨rfl, RevisionMap.shrinks_restrict _ _, RevisionMap.shrinks_restrict _ _⟩

theorem retains_invalidateAll (session : Session) :
    Retains session { session with cache := session.cache.invalidateAll } :=
  ⟨rfl, RevisionMap.shrinks_empty _, RevisionMap.shrinks_empty _⟩

theorem retains_execute (session : Session) (command : String) (arguments : List Json) :
    Retains session { session with
      cache := (session.cache.execute session.readUri command arguments).2 } := by
  rcases session.cache.execute_cases session.readUri command arguments with same | all | ⟨uri, one⟩
  · rw [same]
    exact .refl session
  · rw [all]
    exact retains_invalidateAll session
  · rw [one]
    exact retains_invalidate session uri

theorem lookup_filter_of_ne {uri other : Uri} (different : other ≠ uri)
    (documents : List (Uri × Document)) :
    (documents.filter fun entry => entry.1 ≠ uri).lookup other = documents.lookup other := by
  induction documents with
  | nil => rfl
  | cons entry rest ih =>
    obtain ⟨address, document⟩ := entry
    by_cases dropped : address = uri
    · have passed : (other == address) = false := by simpa [dropped] using different
      rw [List.filter_cons_of_neg (by simpa using dropped), ih]
      simp [List.lookup_cons, passed]
    · rw [List.filter_cons_of_pos (by simpa using dropped)]
      simp only [List.lookup_cons, ih]

theorem document?_putDocument_of_ne (session : Session) {uri other : Uri} (different : other ≠ uri)
    (document : Document) :
    (session.putDocument uri document).document? other = session.document? other := by
  have passed : (other == uri) = false := by simpa using different
  simp only [putDocument, document?, List.lookup_cons, passed]
  exact lookup_filter_of_ne different _

theorem document?_dropDocument_of_ne (session : Session) {uri other : Uri}
    (different : other ≠ uri) :
    (session.dropDocument uri).document? other = session.document? other :=
  lookup_filter_of_ne different _

end Session

end TemplateNav
