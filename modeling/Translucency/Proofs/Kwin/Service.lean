import Translucency.Proofs.Kwin.Remarks
import Translucency.Proofs.Source.Streak

/-!
# Going out of service

The source of the actual windows counts an operation once it has ended by itself, whichever of the
two it is: a refusal as a failure, and anything else as a success. A listing that stumbles over what
it has heard has been counted as a success before. So the health of the source tells of the
operations that ended by themselves (`tells_counted`).

An operation that is stopped is not counted. It was not refused, so there should be no streak any
more, but the failures before it go on being counted. The health tells of all operations as long as
none is stopped then, and not otherwise (`tells_iff_none_stopped`), and three refusals take the
source out of service though they are not in a row (`not_tells_undecodable`).

It never comes back, and this is said once, at the operation that completes three counted refusals
next to each other for the first time.
-/

namespace Translucency.Kwin

open Health

/-- Which operations of a history were refused. The latest comes first. -/
def refusals (host : Host) : List Turn → List Bool
  | [] => []
  | t :: earlier => t.refused (afterTurns host earlier) :: refusals host earlier

/-- The same, of those operations only that nothing stopped. -/
def counted (host : Host) : List Turn → List Bool
  | [] => []
  | t :: earlier =>
    let s := afterTurns host earlier
    if t.stop? s = none then t.refused s :: counted host earlier else counted host earlier

/-- All that was said aloud in a history. -/
def said (host : Host) : List Turn → List Record
  | [] => []
  | t :: earlier => said host earlier ++ loud (t.outcome (afterTurns host earlier)).log

variable {host : Host} {history : List Turn} {t : Turn}

/-! ## What is counted -/

/-- An operation that nothing stops is counted as what it was. -/
theorem counted_cons_of_not_stopped (h : t.stop? (afterTurns host history) = none) :
    counted host (t :: history) =
        (t.complaint? (afterTurns host history)).isSome :: counted host history ∧
      refusals host (t :: history) =
        (t.complaint? (afterTurns host history)).isSome :: refusals host history ∧
      (afterTurns host (t :: history)).1.health =
        (afterTurns host history).1.health.after (t.complaint? (afterTurns host history)) ∧
      loud (t.outcome (afterTurns host history)).log =
        notice .kwin sourceName (afterTurns host history).1.health
          (t.complaint? (afterTurns host history)) := by
  rw [counted, refusals, afterTurns, Turn.health_after, Turn.loud_log_outcome, Turn.refused_eq]
  simp only [h, if_true, Option.isNone_none, Bool.true_and, and_self]

/-- One that is stopped is passed over, and it was not refused. -/
theorem counted_cons_of_stopped (h : t.stop? (afterTurns host history) ≠ none) :
    counted host (t :: history) = counted host history ∧
      refusals host (t :: history) = false :: refusals host history ∧
      (afterTurns host (t :: history)).1.health = (afterTurns host history).1.health ∧
      loud (t.outcome (afterTurns host history)).log = [] := by
  rw [counted, refusals, afterTurns, Turn.health_after, Turn.loud_log_outcome, Turn.refused_eq]
  simp only [h, if_false, true_and, and_true]
  rw [Option.isNone_eq_false_iff.2 (Option.isSome_iff_ne_none.2 h), Bool.false_and]

theorem counted_append (later history : List Turn) :
    ∃ signs, counted host (later ++ history) = signs ++ counted host history := by
  induction later with
  | nil => exact ⟨[], rfl⟩
  | cons t later ih =>
    obtain ⟨signs, hsigns⟩ := ih
    rw [List.cons_append]
    by_cases hstop : t.stop? (afterTurns host (later ++ history)) = none
    · rw [(counted_cons_of_not_stopped hstop).1, hsigns]
      exact ⟨_ :: signs, rfl⟩
    · rw [(counted_cons_of_stopped hstop).1]
      exact ⟨signs, hsigns⟩

/-! ## What the health tells -/

/-- The health of a source tells of the operations that nothing stopped. -/
theorem tells_counted (host : Host) (history : List Turn) :
    (afterTurns host history).1.health.Tells (counted host history) := by
  induction history with
  | nil => exact .fresh
  | cons t earlier ih =>
    by_cases hstop : t.stop? (afterTurns host earlier) = none
    · obtain ⟨hcounted, -, hhealth, -⟩ := counted_cons_of_not_stopped hstop
      rw [hcounted, hhealth]
      exact ih.after _
    · obtain ⟨hcounted, -, hhealth, -⟩ := counted_cons_of_stopped hstop
      rw [hcounted, hhealth]
      exact ih

/-- It tells of all operations if none was stopped while failures were counted. -/
theorem tells_of_none_stopped
    (h : ∀ t past, t :: past <:+ history → t.stop? (afterTurns host past) ≠ none →
      (afterTurns host past).1.health.failures = 0) :
    (afterTurns host history).1.health.Tells (refusals host history) := by
  induction history with
  | nil => exact .fresh
  | cons t earlier ih =>
    have hearlier := ih fun u past hsuffix => h u past (hsuffix.trans (List.suffix_cons t earlier))
    by_cases hstop : t.stop? (afterTurns host earlier) = none
    · obtain ⟨-, hrefusals, hhealth, -⟩ := counted_cons_of_not_stopped hstop
      rw [hrefusals, hhealth]
      exact hearlier.after _
    · obtain ⟨-, hrefusals, hhealth, -⟩ := counted_cons_of_stopped hstop
      rw [hrefusals, hhealth]
      exact hearlier.idle (h t earlier List.suffix_rfl hstop)

/-! ## What is said -/

/-- The operation that completes the first three counted refusals says that the source is out of
service, and why. -/
theorem loud_log_of_fatal (hfatal : fatal <+: counted host (t :: history))
    (hfirst : ¬ fatal <:+: counted host history) :
    ∃ error, (afterTurns host (t :: history)).1.health.lastError = some error ∧
      loud (t.outcome (afterTurns host history)).log =
        [{ level := .warning, channel := .kwin
           message :=
            "Disabling window source 'kwin_scripting' after 3 failures: " ++ error }] := by
  by_cases hstop : t.stop? (afterTurns host history) = none
  · obtain ⟨hcounted, -, hhealth, hsaid⟩ := counted_cons_of_not_stopped hstop
    rw [hcounted] at hfatal
    obtain ⟨error, hcomplaint, hnotice⟩ :=
      (tells_counted host history).notice_of_fatal hfatal hfirst .kwin sourceName
    have hname : "Disabling window source '" ++ sourceName ++ "' after 3 failures: " =
        "Disabling window source 'kwin_scripting' after 3 failures: " := by decide
    refine ⟨error, ?_, by rw [hsaid, hnotice, hname]⟩
    rw [hhealth, hcomplaint]
    rfl
  · rw [(counted_cons_of_stopped hstop).1] at hfatal
    exact absurd hfatal.isInfix hfirst

/-- Any other operation says nothing. -/
theorem loud_log_of_not_fatal
    (hnot : fatal <+: counted host (t :: history) → fatal <:+: counted host history) :
    loud (t.outcome (afterTurns host history)).log = [] := by
  by_cases hstop : t.stop? (afterTurns host history) = none
  · obtain ⟨hcounted, -, -, hsaid⟩ := counted_cons_of_not_stopped hstop
    rw [hcounted] at hnot
    rw [hsaid]
    exact (tells_counted host history).notice_of_not_fatal hnot .kwin sourceName
  · exact (counted_cons_of_stopped hstop).2.2.2

/-- What is said in a history is that one record, if it came to that. -/
theorem length_said (host : Host) (history : List Turn) :
    (said host history).length =
      if (afterTurns host history).1.health.available then 0 else 1 := by
  induction history with
  | nil => rfl
  | cons t earlier ih =>
    have htells := (tells_counted host (t :: earlier)).available
    have hbefore := (tells_counted host earlier).available
    -- Three next to each other are at the front now or were somewhere before.
    have hanywhere : fatal <:+: counted host (t :: earlier) ↔
        fatal <+: counted host (t :: earlier) ∨ fatal <:+: counted host earlier := by
      by_cases hstop : t.stop? (afterTurns host earlier) = none
      · rw [(counted_cons_of_not_stopped hstop).1, List.infix_cons_iff]
      · rw [(counted_cons_of_stopped hstop).1]
        exact (or_iff_right_of_imp List.IsPrefix.isInfix).symm
    rw [said, List.length_append, ih]
    rw [hanywhere, ← hbefore] at htells
    cases havailable : (afterTurns host earlier).1.health.available with
    | false =>
      have hgone := hbefore.1 havailable
      rw [loud_log_of_not_fatal fun _ => hgone, htells.2 (.inr havailable)]
      rfl
    | true =>
      have hfirst : ¬ fatal <:+: counted host earlier := by
        rw [← hbefore, havailable]
        exact nofun
      by_cases hfatal : fatal <+: counted host (t :: earlier)
      · obtain ⟨error, -, hlog⟩ := loud_log_of_fatal hfatal hfirst
        rw [hlog, htells.2 (.inl hfatal)]
        rfl
      · have hkept : (afterTurns host (t :: earlier)).1.health.available = true := by
          rw [← Bool.not_eq_false, htells, havailable]
          exact not_or.2 ⟨hfatal, nofun⟩
        rw [loud_log_of_not_fatal fun h => absurd h hfatal, hkept]
        rfl

/-- **How the source goes out of service.** On every host and after every history of a fresh source,
its health tells of the operations that nothing stopped. It tells of all operations, throughout a
history, exactly if none was stopped while failures were counted. A source that is out of service
stays so whatever comes later. It says so in one record, which the operation that completes the
first three counted refusals in a row writes; no operation says anything else above debug. -/
theorem tells_iff_none_stopped (host : Host) (history : List Turn) :
    (afterTurns host history).1.health.Tells (counted host history) ∧
    ((∀ past, past <:+ history →
        (afterTurns host past).1.health.Tells (refusals host past)) ↔
      ∀ t past, t :: past <:+ history → t.stop? (afterTurns host past) ≠ none →
        (afterTurns host past).1.health.failures = 0) ∧
    ((afterTurns host history).1.health.available = false → ∀ later,
      (afterTurns host (later ++ history)).1.health.available = false) ∧
    (∀ t,
      let said := loud (t.outcome (afterTurns host history)).log
      let completes := fatal <+: counted host (t :: history) ∧ ¬ fatal <:+: counted host history
      (completes → ∃ error,
        (afterTurns host (t :: history)).1.health.lastError = some error ∧
        said = [{ level := .warning, channel := .kwin
                  message :=
                    "Disabling window source 'kwin_scripting' after 3 failures: " ++ error }]) ∧
      (¬ completes → said = [])) ∧
    (said host history).length =
      if (afterTurns host history).1.health.available then 0 else 1 := by
  refine ⟨tells_counted host history, ⟨fun htells t past hsuffix hstop => ?_,
    fun hnever past hsuffix => tells_of_none_stopped fun t earlier hearlier =>
      hnever t earlier (hearlier.trans hsuffix)⟩, fun hgone later => ?_, fun t => ⟨?_, ?_⟩,
    length_said host history⟩
  · -- What was stopped was not refused, so after it there should be nothing to count.
    obtain ⟨-, hrefusals, hhealth, -⟩ := counted_cons_of_stopped hstop
    have hcount := (htells (t :: past) hsuffix).failures
    rw [hrefusals, hhealth] at hcount
    exact hcount
  · obtain ⟨signs, hsigns⟩ := counted_append later history
    rw [(tells_counted host history).available] at hgone
    rw [(tells_counted host (later ++ history)).available, hsigns]
    exact hgone.trans (List.suffix_append ..).isInfix
  · rintro ⟨hfatal, hfirst⟩
    exact loud_log_of_fatal hfatal hfirst
  · intro hnot
    apply loud_log_of_not_fatal
    intro hfatal
    by_contra hfirst
    exact hnot ⟨hfatal, hfirst⟩

/-- No script can be loaded, and in between the tool puts out bytes that are no text: the refusal
before that goes on being counted. Two more, and the source is out of service without three
refusals in a row. -/
theorem not_tells_undecodable :
    let host : Host := .ofQueues fun
      | .load => [.timeout, .timeout, .undecodable, .timeout]
      | _ => []
    let t : Turn := { operation := .list, now := .ofInt 0, scriptPath := "/tmp/a.js" }
    (refusals host [t, t] = [false, true] ∧
      (afterTurns host [t, t]).1.health.failures = 1) ∧
    (refusals host [t, t, t, t] = [true, true, false, true] ∧
      (afterTurns host [t, t, t, t]).1.health.available = false) ∧
    ¬ (afterTurns host [t, t]).1.health.Tells (refusals host [t, t]) := by
  intro host t
  have hrefusals : refusals host [t, t] = [false, true] := by decide +kernel
  have hfailures : (afterTurns host [t, t]).1.health.failures = 1 := by decide +kernel
  refine ⟨⟨hrefusals, hfailures⟩, ⟨by decide +kernel, by decide +kernel⟩, fun htells => ?_⟩
  have hcount := htells.failures
  rw [hrefusals, hfailures] at hcount
  exact absurd hcount (by decide)

end Translucency.Kwin
