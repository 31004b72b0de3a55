import Mathlib.Data.List.Infix
import Translucency.Proofs.Source.Health

/-!
# Streaks of failures

What a source has been through is a list of signs, the latest first: true for a failure, false for a
success. `Health.Tells` says what its health has to be then. The count is the length of the streak
of failures at the front of the list, there is a last error as long as there is anything to count,
and the source is out of service if there are three failures next to each other anywhere in the
list, which nothing that comes later takes back.

A fresh health tells of nothing, and one more result, counted, is one more sign in front
(`Health.Tells.after`). So a source whose health tells of its past needs no other proof than that it
counts every result. The record of going out of service is written with the failure that completes
the first three, and with no other result (`Health.Tells.notice_of_fatal`,
`Health.Tells.notice_of_not_fatal`).
-/

namespace Translucency

/-! ## Runs at the front of a list -/

/-- A list starts with so many signs exactly if the run of signs at its front is that long. -/
theorem replicate_true_prefix_iff {n : Nat} {signs : List Bool} :
    List.replicate n true <+: signs ↔ n ≤ (signs.takeWhile id).length := by
  induction n generalizing signs with
  | zero => exact iff_of_true List.nil_prefix (Nat.zero_le _)
  | succ n ih =>
    rw [List.replicate_succ]
    cases signs with
    | nil => simp
    | cons sign rest =>
      rw [List.cons_prefix_cons, ih]
      cases sign with
      | false => simp
      | true => simp

namespace Health

/-- As many failures in a row as take a source out of service. -/
def fatal : List Bool := List.replicate patience true

/-- Whether a health tells of some results, the latest first. -/
structure Tells (h : Health) (signs : List Bool) : Prop where
  failures : h.failures = (signs.takeWhile id).length
  lastError : h.lastError = none ↔ h.failures = 0
  available : h.available = false ↔ fatal <:+: signs

/-! ## Counting -/

variable {h : Health} {signs : List Bool}

theorem not_fatal_prefix_cons_false (signs : List Bool) : ¬ fatal <+: false :: signs := by
  show ¬ [true, true, true] <+: false :: signs
  simp

/-- A success starts no streak. -/
theorem fatal_infix_cons_false_iff (signs : List Bool) :
    fatal <:+: false :: signs ↔ fatal <:+: signs := by
  rw [List.infix_cons_iff]
  exact or_iff_right (not_fatal_prefix_cons_false signs)

theorem Tells.fresh : Tells {} [] where
  failures := rfl
  lastError := iff_of_true rfl rfl
  available := by
    apply iff_of_false
    · exact nofun
    · show ¬ [true, true, true] <:+: []
      simp

theorem Tells.fatal_prefix_cons_iff (htells : Tells h signs) :
    fatal <+: true :: signs ↔ patience ≤ h.failures + 1 := by
  rw [fatal, replicate_true_prefix_iff, htells.failures, List.takeWhile_cons_of_pos (by rfl),
    List.length_cons]

/-- A health that is to count nothing tells as well of one more success. -/
theorem Tells.idle (htells : Tells h signs) (hzero : h.failures = 0) :
    Tells h (false :: signs) where
  failures := hzero
  lastError := htells.lastError
  available := htells.available.trans (fatal_infix_cons_false_iff signs).symm

/-- **Counting a result keeps a health telling of what has been.** -/
theorem Tells.after (htells : Tells h signs) (result : Option String) :
    Tells (h.after result) (result.isSome :: signs) := by
  cases result with
  | none =>
    exact {
      failures := rfl
      lastError := iff_of_true rfl rfl
      available := htells.available.trans (fatal_infix_cons_false_iff signs).symm }
  | some error =>
    refine { failures := ?_, lastError := iff_of_false nofun (Nat.succ_ne_zero _), available := ?_ }
    · show h.failures + 1 = ((true :: signs).takeWhile id).length
      rw [htells.failures, List.takeWhile_cons_of_pos (by rfl), List.length_cons]
    · -- Either it was out of service before, or this failure completes a streak at the front.
      rw [Option.isSome_some, List.infix_cons_iff, htells.fatal_prefix_cons_iff, ← htells.available,
        ← Bool.not_eq_true, available_after_some, not_and_or, Bool.not_eq_true, Nat.not_lt, or_comm]

/-! ## The record of going out of service -/

/-- The record is written with the failure that completes the first three in a row, and says
so. -/
theorem Tells.notice_of_fatal (htells : Tells h signs) {result : Option String}
    (hfatal : fatal <+: result.isSome :: signs) (hfirst : ¬ fatal <:+: signs)
    (channel : Channel) (name : String) :
    ∃ error, result = some error ∧ notice channel name h result =
      [{ level := .warning, channel
         message := "Disabling window source '" ++ name ++ "' after 3 failures: " ++ error }] := by
  cases result with
  | none => exact absurd hfatal (not_fatal_prefix_cons_false signs)
  | some error =>
    have hstreak : patience ≤ h.failures + 1 := htells.fatal_prefix_cons_iff.1 hfatal
    have havailable : h.available = true := by
      rwa [← htells.available, Bool.not_eq_false] at hfirst
    -- It was in service until now, so there were two failures before this one and not three.
    have hcount : h.failures < patience := by
      rw [htells.failures, ← Nat.not_le, ← replicate_true_prefix_iff]
      exact fun hprefix => hfirst hprefix.isInfix
    have hfailures : h.failures + 1 = 3 := by
      unfold patience at hstreak hcount
      omega
    have hgone : (h.after (some error)).available = false := by
      rw [← Bool.not_eq_true, available_after_some]
      exact fun hkept => Nat.not_lt.2 hstreak hkept.2
    have hwords : "' after " ++ toString 3 ++ " failures: " = "' after 3 failures: " := by decide
    refine ⟨error, rfl, ?_⟩
    rw [notice, havailable, hgone, hfailures, if_pos (by rfl), ← hwords]
    simp only [String.append_assoc]

/-- With any other result nothing is written. -/
theorem Tells.notice_of_not_fatal (htells : Tells h signs) {result : Option String}
    (hnot : fatal <+: result.isSome :: signs → fatal <:+: signs) (channel : Channel)
    (name : String) : notice channel name h result = [] := by
  cases result with
  | none => rfl
  | some error =>
    rw [notice, if_neg]
    rw [Bool.and_eq_true, Bool.not_eq_true', not_and]
    intro havailable hgone
    rw [← Bool.not_eq_true, available_after_some, not_and, Nat.not_lt] at hgone
    have hbefore := hnot (htells.fatal_prefix_cons_iff.2 (hgone havailable))
    rw [← htells.available, havailable] at hbefore
    cases hbefore

end Health

end Translucency
