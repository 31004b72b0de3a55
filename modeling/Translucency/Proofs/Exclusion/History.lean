import Translucency.Proofs.Exclusion.CacheUpdate

/-!
# A pattern cache in use

Lists are looked up, directly or through a reader, the cache is cleared, and the wish to see errors
comes and goes. Whatever the order, nobody who looks a list up can tell that there is a cache: the
patterns are those of the list, and only the count of compilations and the log show that most
look-ups compiled nothing.

What a history amounts to is said without a cache. `previous` is the list that the entry stands for,
`IsChange` tells the look-ups that have to compile, `changeCount` counts them, and `records` are the
log lines of one use. A history is a list of uses with the latest first, so each of these is a
recursion on what came before, and `Shelf.Follows` ties the cache to all of them at once
(`Shelf.follows_after`). `Shelf.transparent` is the main statement.
-/

namespace Translucency.Exclusion

/-- An entry is found under its own list and under no other. -/
theorem Cache.find?_cases (c : Cache) (list : Option String) :
    (c.entry.map (·.1) = some list ∧ ∃ patterns, c.find? list = some patterns) ∨
      (c.entry.map (·.1) ≠ some list ∧ c.find? list = none) := by
  unfold Cache.find?
  rcases c.entry with _ | ⟨last, patterns⟩
  · exact .inr ⟨nofun, rfl⟩
  · by_cases h : last = list
    · exact .inl ⟨congrArg some h, patterns, if_pos h⟩
    · exact .inr ⟨fun h' => h (Option.some.inj h'), if_neg h⟩

/-- A cache, and whether errors in lists are to be visible. -/
structure Shelf where
  cache : Cache := {}
  visible : Bool := false

namespace Shelf

def cachePart : Part Shelf Cache where
  get s := s.cache
  set c s := { s with cache := c }

/-- Whether errors are to be visible is asked when there are some. -/
def asksVisible : Act Shelf Bool := do return (← .read).visible

/-- One use of a cache. -/
inductive Use where
  /-- A list is looked up. -/
  | update (list : Option String)
  /-- The list that a reader gives is looked up. The reader may fail. -/
  | fetch (reader : Except Fault (Option String))
  | clear
  /-- Errors are to be visible from now on, or no longer. -/
  | visible (b : Bool)

/-- What a use does. A look-up gives patterns. -/
def Use.act : Use → Act Shelf (Option Patterns)
  | .update list => some <$> Cache.update cachePart asksVisible list
  | .fetch reader => some <$> Cache.fetch cachePart asksVisible (.lift reader)
  | .clear => do cachePart.change Cache.clear; return none
  | .visible b => do .change fun s => { s with visible := b }; return none

/-- A new cache after uses, the latest first. -/
def after (visible : Bool) : List Use → Shelf
  | [] => { visible }
  | use :: past => (use.act.run (after visible past)).state

/-! ## What a history amounts to -/

/-- The list that a use looks up. -/
def Use.list? : Use → Option (Option String)
  | .update list => some list
  | .fetch (.ok list) => some list
  | _ => none

/-- The list that was looked up last, unless the cache was cleared after that. -/
def previous : List Use → Option (Option String)
  | [] => none
  | .clear :: _ => none
  | use :: past => use.list?.or (previous past)

/-- Whether a use looks up another list than the look-up before it, or is the first look-up of a new
or cleared cache. -/
def IsChange (past : List Use) (use : Use) : Prop := use.list? ≠ none ∧ use.list? ≠ previous past

instance (past : List Use) (use : Use) : Decidable (IsChange past use) :=
  inferInstanceAs (Decidable (_ ∧ _))

/-- How many look-ups of a history are changes. -/
def changeCount : List Use → Nat
  | [] => 0
  | use :: past => changeCount past + if IsChange past use then 1 else 0

/-- Whether errors are to be visible after a history. -/
def flag (visible : Bool) : List Use → Bool
  | [] => visible
  | .visible b :: _ => b
  | _ :: past => flag visible past

/-- The log lines about a list with errors: what follows from them, the list, and each error. -/
def report (visible : Bool) (list : Option String) : List Record :=
  let line (text : String) : Record :=
    { level := if visible then .warning else .debug, channel := .cache, message := text }
  line "Invalid excluded windows list, no windows will be excluded" ::
    line ("  excludedWindows = " ++
      list.elim "None" fun s => String.ofList (Text.quoted s.toList)) ::
    (compile list).flaws.map fun flaw => line ("  " ++ flaw.message)

/-- The log lines of a use after a history. -/
def records (visible : Bool) (past : List Use) (use : Use) : List Record :=
  match use.list? with
  | some list =>
    if IsChange past use ∧ (compile list).flaws ≠ [] then report (flag visible past) list else []
  | none => []

/-! ## One use -/

/-- A use that looks a list up answers from the cache and changes nothing else. -/
theorem run_act_of_list? {use : Use} {list : Option String} (h : use.list? = some list)
    (s : Shelf) :
    use.act.run s =
      ⟨.ok (some (s.cache.answer list)), { s with cache := s.cache.after list },
        s.cache.notes list s.visible []⟩ := by
  have hupdate : (Cache.update cachePart asksVisible list).run s =
      ⟨.ok (s.cache.answer list), { s with cache := s.cache.after list },
        s.cache.notes list s.visible []⟩ :=
    Cache.run_update cachePart list fun _ => rfl
  cases use with
  | update l =>
    cases h
    rw [Use.act, Act.run_map, hupdate]
    rfl
  | fetch reader =>
    cases reader with
    | error fault => cases h
    | ok l =>
      cases h
      rw [Use.act, Act.run_map, Cache.fetch, Act.run_bind_eq (Act.run_lift _ s), hupdate]
      rfl
  | clear => cases h
  | visible b => cases h

/-- The lines of a look-up are those of a list with errors that the cache does not have. -/
theorem notes_eq (c : Cache) (list : Option String) (visible : Bool) :
    c.notes list visible [] =
      if c.entry.map (·.1) ≠ some list ∧ (compile list).flaws ≠ [] then report visible list
      else [] := by
  have hclean : (compile list).isClean = true ↔ (compile list).flaws = [] := List.isEmpty_iff
  rcases c.find?_cases list with ⟨hsame, patterns, hfind⟩ | ⟨hother, hfind⟩
  · rw [if_neg fun h => h.1 hsame, Cache.notes, hfind]
  · by_cases hflaws : (compile list).flaws = []
    · rw [if_neg fun h => h.2 hflaws, Cache.notes, hfind]
      exact if_pos (hclean.2 hflaws)
    · rw [if_pos ⟨hother, hflaws⟩, Cache.notes, hfind]
      refine (if_neg fun h => hflaws (hclean.1 h)).trans ?_
      -- An absent list is no text, so its line is worded apart.
      cases list with
      | none => rfl
      | some s => simp [Cache.complaint, report]

/-! ## Histories -/

/-- Whether a cache is as a history leaves it. -/
structure Follows (s : Shelf) (visible : Bool) (past : List Use) : Prop where
  sound : s.cache.IsSound
  compiles : s.cache.compiles = changeCount past
  previous : s.cache.entry.map (·.1) = previous past
  visible : s.visible = flag visible past

variable {s : Shelf} {visible : Bool} {past : List Use}

theorem previous_of_list? {use : Use} {list : Option String} (h : use.list? = some list) :
    previous (use :: past) = some list := by
  cases use with
  | clear => cases h
  | update l => exact h
  | fetch reader =>
    rw [previous, h]
    · rfl
    · rintro ⟨⟩
  | visible b => cases h

theorem flag_of_list? {use : Use} {list : Option String} (h : use.list? = some list) :
    flag visible (use :: past) = flag visible past := by
  cases use with
  | visible b => cases h
  | update l => rfl
  | fetch reader => rfl
  | clear => rfl

/-- The entry after a look-up is that of the list. It was there, or it has been compiled. -/
theorem entry_after (c : Cache) (list : Option String) :
    (c.after list).entry.map (·.1) = some list := by
  rw [Cache.after]
  rcases c.find?_cases list with ⟨hsame, patterns, hfind⟩ | ⟨hother, hfind⟩
  · rw [hfind]
    exact hsame
  · rw [hfind]
    rfl

/-- A look-up compiles the list exactly if the cache has another one. -/
theorem compiles_after (c : Cache) (list : Option String) :
    (c.after list).compiles =
      c.compiles + if c.entry.map (·.1) ≠ some list then 1 else 0 := by
  rw [Cache.after]
  rcases c.find?_cases list with ⟨hsame, patterns, hfind⟩ | ⟨hother, hfind⟩
  · rw [hfind, if_neg fun h => h hsame]
    rfl
  · rw [hfind, if_pos hother]

/-- A look-up is a change exactly if the cache has another list. -/
theorem Follows.isChange_iff (h : s.Follows visible past) {use : Use} {list : Option String}
    (hlist : use.list? = some list) :
    IsChange past use ↔ s.cache.entry.map (·.1) ≠ some list := by
  rw [h.previous, IsChange, hlist]
  exact ⟨fun h' => h'.2.symm, fun h' => ⟨by simp, h'.symm⟩⟩

/-- A look-up keeps the cache as the history leaves it. -/
theorem Follows.lookUp (h : s.Follows visible past) {use : Use} {list : Option String}
    (hlist : use.list? = some list) : (use.act.run s).state.Follows visible (use :: past) := by
  rw [run_act_of_list? hlist s]
  refine ⟨h.sound.after list, ?_, ?_, ?_⟩
  · show (s.cache.after list).compiles = _
    rw [compiles_after, changeCount, h.compiles]
    simp only [h.isChange_iff hlist]
  · rw [previous_of_list? hlist]
    exact entry_after s.cache list
  · rw [flag_of_list? hlist]
    exact h.visible

/-- So does every other use: a reader that fails leaves everything as it was. -/
theorem Follows.step (h : s.Follows visible past) (use : Use) :
    (use.act.run s).state.Follows visible (use :: past) := by
  cases use with
  | update list => exact h.lookUp rfl
  | fetch reader =>
    cases reader with
    | ok list => exact h.lookUp rfl
    | error fault => exact ⟨h.sound, h.compiles, h.previous, h.visible⟩
  | clear => exact ⟨Cache.isSound_clear s.cache, h.compiles, rfl, h.visible⟩
  | visible b => exact ⟨h.sound, h.compiles, h.previous, rfl⟩

/-- Every history leaves the cache as it says. -/
theorem follows_after (visible : Bool) (past : List Use) :
    (after visible past).Follows visible past := by
  induction past with
  | nil => exact ⟨Cache.isSound_empty, rfl, rfl, rfl⟩
  | cons use past ih => exact ih.step use

/-- **The cache is transparent, and compiles on change only.** After any history of a new cache, it
has compiled a list as often as there were changes, and it shows the list that was looked up last,
or none if it was cleared after that. Whoever looks a list up then, directly or through a reader,
gets the usable patterns of that list, a reader that fails changes nothing, and the log lines are
those of a change to a list with errors, visible or not as it was wished last. -/
theorem transparent (visible : Bool) (past : List Use) (use : Use) :
    let s := after visible past
    (s.cache.compiles = changeCount past ∧ s.cache.last = (previous past).join) ∧
    (∀ list, use.list? = some list →
      (use.act.run s).result = .ok (some (compile list).usable)) ∧
    (∀ fault, use = .fetch (.error fault) → use.act.run s = ⟨.error fault, s, []⟩) ∧
    (use.act.run s).log = records visible past use := by
  intro s
  have hfollows : s.Follows visible past := follows_after visible past
  refine ⟨⟨hfollows.compiles, ?_⟩, ?_, ?_, ?_⟩
  · rw [← hfollows.previous, Cache.last]
    cases s.cache.entry <;> rfl
  · intro list hlist
    rw [run_act_of_list? hlist, hfollows.sound.answer_eq]
  · rintro fault rfl
    rfl
  · cases hlist : use.list? with
    | some list =>
      rw [run_act_of_list? hlist, records, hlist]
      show s.cache.notes list s.visible [] = _
      rw [notes_eq, hfollows.visible]
      simp only [hfollows.isChange_iff hlist]
    | none =>
      -- Only look-ups write records.
      rw [records, hlist]
      cases use with
      | update list => cases hlist
      | fetch reader =>
        cases reader with
        | ok list => cases hlist
        | error fault => rfl
      | clear => rfl
      | visible b => rfl

/-- An absent list and an empty one are different lists, and a list is forgotten when the cache is
cleared; a list that a reader gives counts like any other. -/
example :
    changeCount [.fetch (.ok (some "a")), .clear, .update (some "a"), .visible true,
      .update (some "a"), .update none, .update (some "")] = 4 := by decide

end Shelf

end Translucency.Exclusion
