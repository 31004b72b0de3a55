import Translucency.Exclusion.Matcher
import Translucency.Proofs.Act
import Translucency.Proofs.Exclusion.Grammar

/-!
# What the pattern cache does

The cache is described by two functions without effects: `Cache.after`, the cache once a list was
looked up, and `Cache.notes`, the records written on the way. `Cache.run_update` says that looking a
list up does these and nothing else. A cache is sound if what it keeps for a list are the patterns
of that list (`Cache.IsSound`); every cache that was filled by look-ups is, and then the answer of a
look-up does not depend on the cache any more.

The surroundings may do anything when they are asked whether errors are to be visible, so what is
needed of them is a hypothesis: they answer, and leave the state alone.
-/

namespace Translucency

namespace Exclusion

namespace Cache

/-! ## One look-up -/

/-- The cache after a list was looked up. -/
def after (c : Cache) (list : Option String) : Cache :=
  match c.find? list with
  | some _ => c
  | none => { entry := some (list, (compile list).usable), compiles := c.compiles + 1 }

/-- The patterns that a look-up gives. -/
def answer (c : Cache) (list : Option String) : Patterns :=
  (c.find? list).getD (compile list).usable

/-- The records that a look-up writes, with those of the question whether errors are to be
visible. -/
def notes (c : Cache) (list : Option String) (visible : Bool) (asking : List Record) :
    List Record :=
  match c.find? list with
  | some _ => []
  | none =>
    if (compile list).isClean then []
    else asking ++ (complaint list (compile list).flaws).map fun line =>
      { level := if visible then .warning else .debug, channel := .cache, message := line }

/-- Looking a list up gives the answer, leaves the cache as described, and changes nothing else. -/
theorem run_update {σ : Type} (cache : Part σ Cache) {visible : Act σ Bool} {s : σ} {b : Bool}
    {asking : List Record} (list : Option String)
    (hvisible : ∀ c, visible.run (cache.set c s) = ⟨.ok b, cache.set c s, asking⟩) :
    (update cache visible list).run s =
      ⟨.ok ((cache.get s).answer list), cache.set ((cache.get s).after list) s,
        (cache.get s).notes list b asking⟩ := by
  rw [update, Act.run_bind_eq (cache.run_read s), Outcome.after_nil]
  simp only [answer, after, notes]
  cases hfind : (cache.get s).find? list with
  | some patterns => simp [cache.set_get]
  | none =>
    simp only [Option.getD_none]
    -- The entry is replaced first. The question about errors comes after it and keeps it.
    rw [Act.run_bind_eq (cache.run_change _ s), Outcome.after_nil]
    cases hclean : (compile list).isClean with
    | true => simp [cache.get_set, cache.set_set, Except.map]
    | false =>
      simp only [Bool.not_false, if_true, Bool.false_eq_true, if_false]
      rw [Act.run_bind_eq (hvisible _)]
      simp only [List.forM_eq_forM]
      rw [Act.run_bind_eq (Act.run_forM_log ..)]
      simp [cache.get_set, cache.set_set, Except.map]

/-! ## Soundness -/

/-- Whether what a cache keeps for a list are the patterns of that list. -/
def IsSound (c : Cache) : Prop :=
  ∀ list patterns, c.entry = some (list, patterns) → patterns = (compile list).usable

theorem isSound_empty : ({} : Cache).IsSound := by
  intro list patterns h
  cases h

theorem isSound_clear (c : Cache) : c.clear.IsSound := by
  intro list patterns h
  cases h

/-- What a sound cache finds for a list are the patterns of the list: an entry is found under its
own list only. -/
theorem IsSound.find?_eq {c : Cache} (h : c.IsSound) {list : Option String} {patterns : Patterns}
    (hfind : c.find? list = some patterns) : patterns = (compile list).usable := by
  unfold find? at hfind
  split at hfind
  · next last found hentry =>
    split at hfind
    · next heq =>
      cases hfind
      exact heq ▸ h last patterns hentry
    · cases hfind
  · cases hfind

/-- A sound cache answers as if there were none. -/
theorem IsSound.answer_eq {c : Cache} (h : c.IsSound) (list : Option String) :
    c.answer list = (compile list).usable := by
  unfold answer
  cases hfind : c.find? list with
  | some patterns => exact h.find?_eq hfind
  | none => rfl

theorem IsSound.after {c : Cache} (h : c.IsSound) (list : Option String) :
    (c.after list).IsSound := by
  unfold Cache.after
  cases hfind : c.find? list with
  | some patterns => exact h
  | none =>
    intro list' patterns' hentry
    cases hentry
    rfl

/-- A list that was looked up is found when it is looked up again. -/
@[simp] theorem after_after (c : Cache) (list : Option String) :
    (c.after list).after list = c.after list := by
  cases hfind : c.find? list with
  | some patterns =>
    have hkept : c.after list = c := by rw [after, hfind]
    rw [hkept, hkept]
  | none =>
    have hentry : (c.after list).find? list = some (compile list).usable := by
      rw [after, hfind]
      simp [find?]
    rw [after.eq_def (c.after list), hentry]

end Cache

/-! ## One question -/

/-- Asking about an identity gives the meaning of the list that is read, if the cache is sound
then. Besides the reading of the list, only the cache changes. -/
theorem Matcher.run_excludes {σ : Type} (m : Matcher σ) {s s' : σ} {list : Option String}
    {reading asking : List Record} {b : Bool} {identity : List Char} (hne : identity ≠ [])
    (hlist : m.list.run s = ⟨.ok list, s', reading⟩) (hsound : (m.cache.get s').IsSound)
    (hvisible : ∀ c, m.visible.run (m.cache.set c s') = ⟨.ok b, m.cache.set c s', asking⟩) :
    ∃ log, (m.excludes identity).run s =
      ⟨.ok (isExcluded list identity), m.cache.set ((m.cache.get s').after list) s', log⟩ := by
  have hanswer := hsound.answer_eq list
  have hupdate := Cache.run_update m.cache list hvisible
  rw [excludes, isExcluded, if_neg (by simpa using hne), List.isEmpty_eq_false_iff.2 hne]
  rw [Act.run_bind_eq hlist, Act.run_bind_eq hupdate, hanswer]
  cases hreason : (compile list).usable.reason? (Text.lower identity) with
  | none => exact ⟨_, rfl⟩
  | some reason => exact ⟨_, rfl⟩

/-- Nothing is read and nothing changes for a window without an identity. -/
theorem Matcher.run_excludes_nil {σ : Type} (m : Matcher σ) (s : σ) :
    (m.excludes []).run s = ⟨.ok false, s, []⟩ := rfl

end Exclusion

end Translucency
