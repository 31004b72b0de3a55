import Translucency.Proofs.Exclusion.CacheUpdate

/-!
# A matcher at work

A matcher is asked about one identity after another while the list that it reads, and the wish to
see its errors, change under it and its cache is cleared at times. A session is such a history: the
list as it stands, how often it was read, and the cache. The invariant is that the cache is sound
(`Session.isSound_play`), and the main statement is that the answer to a question at any moment of
any session is the meaning of the list that stands at that moment
(`Session.excludes_after_any_history`), whatever was asked, changed or cleared before.
-/

namespace Translucency.Exclusion

/-- What a matcher works on. -/
structure Session where
  /-- The list as it stands. -/
  list : Option String
  /-- Whether errors in the list are to be visible. -/
  visible : Bool := false
  /-- How often the list was read. -/
  reads : Nat := 0
  cache : Cache := {}

namespace Session

/-- Where the cache is kept. -/
def cachePart : Part Session Cache where
  get s := s.cache
  set c s := { s with cache := c }

/-- The matcher of a session. -/
def matcher : Matcher Session where
  cache := cachePart
  list := do
    .change fun s => { s with reads := s.reads + 1 }
    return (← .read).list
  visible := do return (← .read).visible

/-- What happens in a session. -/
inductive Event where
  /-- The list is another one from now on. -/
  | list (l : Option String)
  /-- Errors in the list are to be visible from now on, or no longer. -/
  | visible (b : Bool)
  /-- The cache is cleared. -/
  | clear
  /-- A question about an identity. -/
  | ask (identity : List Char)

/-- The session after an event. -/
def step (s : Session) : Event → Session
  | .list l => { s with list := l }
  | .visible b => { s with visible := b }
  | .clear => { s with cache := s.cache.clear }
  | .ask identity => ((matcher.excludes identity).run s).state

/-- The session after events. -/
def play (s : Session) (events : List Event) : Session := events.foldl step s

/-- The list that stands after events: the one that was set last. -/
def lastList (list : Option String) : List Event → Option String
  | [] => list
  | .list l :: rest => lastList l rest
  | _ :: rest => lastList list rest

/-! ## One question -/

theorem run_list (s : Session) :
    matcher.list.run s = ⟨.ok s.list, { s with reads := s.reads + 1 }, []⟩ := rfl

theorem run_visible (s : Session) : matcher.visible.run s = ⟨.ok s.visible, s, []⟩ := rfl

/-- A question to a sound cache is answered by the meaning of the list. The list is read once and
kept. -/
theorem run_excludes {s : Session} (hsound : s.cache.IsSound) {identity : List Char}
    (hne : identity ≠ []) :
    ∃ log, (matcher.excludes identity).run s =
      ⟨.ok (isExcluded s.list identity),
        { s with reads := s.reads + 1, cache := s.cache.after s.list }, log⟩ :=
  matcher.run_excludes hne (run_list s) hsound fun _ => run_visible _

/-! ## Histories -/

/-- Every event keeps the cache sound. -/
theorem isSound_step {s : Session} (hsound : s.cache.IsSound) (event : Event) :
    (s.step event).cache.IsSound := by
  cases event with
  | list l => exact hsound
  | visible b => exact hsound
  | clear => exact Cache.isSound_clear s.cache
  | ask identity =>
    -- Only a question runs the matcher, and one without an identity does nothing.
    rw [step]
    by_cases hne : identity = []
    · rw [hne, Matcher.run_excludes_nil]
      exact hsound
    · obtain ⟨log, hrun⟩ := run_excludes hsound hne
      rw [hrun]
      exact hsound.after s.list

/-- An event other than a change of the list leaves the list as it is. -/
theorem list_step {s : Session} (hsound : s.cache.IsSound) (event : Event) :
    (s.step event).list = lastList s.list [event] := by
  cases event with
  | list l => rfl
  | visible b => rfl
  | clear => rfl
  | ask identity =>
    rw [step]
    by_cases hne : identity = []
    · rw [hne, Matcher.run_excludes_nil]
      rfl
    · obtain ⟨log, hrun⟩ := run_excludes hsound hne
      rw [hrun]
      rfl

theorem lastList_cons (list : Option String) (event : Event) (rest : List Event) :
    lastList list (event :: rest) = lastList (lastList list [event]) rest := by
  cases event <;> rfl

/-- Every history keeps the cache sound, and the list that stands after it is the one set last. -/
theorem isSound_play (events : List Event) {s : Session} (hsound : s.cache.IsSound) :
    (s.play events).cache.IsSound ∧ (s.play events).list = lastList s.list events := by
  induction events generalizing s with
  | nil => exact ⟨hsound, rfl⟩
  | cons event rest ih =>
    obtain ⟨hcache, hlist⟩ := ih (isSound_step hsound event)
    refine ⟨hcache, ?_⟩
    rw [lastList_cons, ← list_step hsound event]
    exact hlist

/-- **What a matcher answers at any moment.** After any history of a new matcher, a question about
an identity is answered by yes exactly if the list that stands then excludes it: its commas leave no
empty place, its pieces are tokens of the grammar, and one of them speaks of the identity. A list
with an error excludes nothing, and a window without an identity is not excluded, without a look at
the list or the cache. -/
theorem excludes_after_any_history (list : Option String) (visible : Bool) (events : List Event)
    (identity : List Char) :
    let s := ({ list, visible } : Session).play events
    let current := lastList list events
    (identity ≠ [] → ∃ b, ((matcher.excludes identity).run s).result = .ok b ∧
      (b = true ↔ Excludes (current.getD "").toList identity) ∧
      ((compile current).flaws ≠ [] → b = false)) ∧
    (identity = [] → (matcher.excludes identity).run s = ⟨.ok false, s, []⟩) := by
  intro s current
  obtain ⟨hsound, hlist⟩ : s.cache.IsSound ∧ s.list = current :=
    isSound_play events Cache.isSound_empty
  refine ⟨fun hne => ?_, ?_⟩
  · obtain ⟨log, hrun⟩ := run_excludes hsound hne
    refine ⟨isExcluded current identity, ?_, isExcluded_iff current hne, ?_⟩
    · rw [hrun, hlist]
    · exact fun hflaws => isExcluded_of_flaws hflaws identity
  · rintro rfl
    exact Matcher.run_excludes_nil matcher s

/-! ## One list -/

/-- Whether questions about an identity have an answer as long as a list stands, whatever was asked,
changed or cleared before. -/
def Answers (list : Option String) (identity : List Char) (b : Bool) : Prop :=
  ∀ first visible events, lastList first events = list →
    ((matcher.excludes identity).run
      (({ list := first, visible } : Session).play events)).result = .ok b

/-- A list answers what it compiles to, and nothing else. -/
theorem answers_iff {list : Option String} {identity : List Char} {b : Bool} :
    Answers list identity b ↔ b = isExcluded list identity := by
  have hanswers : Answers list identity (isExcluded list identity) := by
    rintro first visible events rfl
    obtain ⟨hsound, hlist⟩ :=
      isSound_play events (s := { list := first, visible }) Cache.isSound_empty
    by_cases hne : identity = []
    · rw [hne, Matcher.run_excludes_nil]
      rfl
    · obtain ⟨log, hrun⟩ := run_excludes hsound hne
      rw [hrun, hlist]
  constructor
  · -- A new matcher that is asked at once gives one answer.
    intro h
    have hfirst := h list false [] rfl
    rw [hanswers list false [] rfl] at hfirst
    exact (Except.ok.inj hfirst).symm
  · rintro rfl
    exact hanswers

end Session

end Translucency.Exclusion
