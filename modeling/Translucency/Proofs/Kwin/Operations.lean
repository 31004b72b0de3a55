import Translucency.Proofs.Kwin.Commands
import Translucency.Proofs.Kwin.Payloads
import Translucency.Proofs.Source.Health

/-!
# What comes of an operation

To list the windows, the source runs a script and takes what the journal shows of it (`output?`).
There are four ends to that. What was heard is no listing, or nothing was heard: the listing is
refused, and the failure counts. It is a listing and describes windows: they are given, and the
failures are forgotten. The other two are not meant to be. Success is noted as soon as the payloads
have been counted, before they are read, and what cannot be read then goes through as a fault. And
an operation that is stopped on its way to what it is to hear is not counted at all (`run_list`).

To set an opacity takes a script that prints nothing, and where nothing stops it, it succeeds if the
script is run (`setOpacity_eq_ok_iff`).
-/

namespace Translucency.Kwin

/-! ## Both operations, from the replies -/

/-- What the journal shows of the listing script, if it shows its end. -/
def output? (s : Seat) : Option (List String) := heard? s (marker .listing s.2.now) endWord

/-- The payloads of the windows in an output, or why it is no listing. -/
def verdict (output : Option (List String)) : Except ListingFault (List String) :=
  (output.map windowPayloads).getD (.error .noOutput)

/-- What a verdict is counted as. -/
def complaint? : Except ListingFault (List String) → Option String
  | .error fault => some fault.message
  | .ok _ => none

/-- What a verdict leads to, with room for so many levels in a message. -/
def listed (room : Nat) : Except ListingFault (List String) → Except Fault (List Window)
  | .error fault => .error (.source ("Could not enumerate windows: " ++ fault.message))
  | .ok payloads => windowsOf room payloads

/-- The calls of a listing. -/
def listingCalls (s : Seat) : List Call := errand s (marker .listing s.2.now) (some endWord)

/-- The calls for an opacity. -/
def opacityCalls (s : Seat) : List Call := errand s (marker .opacity s.2.now) none

/-- The calls that are made of an errand. -/
def callsMade (s : Seat) (calls : List Call) : List Call :=
  match s.2.full with
  | some _ => []
  | none => s.2.made calls

theorem stop?_eq_none_iff {s : Seat} {calls : List Call} :
    stop? s calls = none ↔ s.2.full = none ∧ s.2.reads calls = true := by
  unfold stop?
  cases s.2.full with
  | some reason => simp
  | none => cases s.2.reads calls <;> simp

/-- What stops an errand is no refusal. -/
theorem ne_source_of_stop? {s : Seat} {calls : List Call} {fault : Fault}
    (h : stop? s calls = some fault) (text : String) : fault ≠ .source text := by
  unfold stop? at h
  split at h
  · cases h
    exact nofun
  · split at h
    · cases h
    · cases h
      exact nofun

/-- Where nothing stops an errand, all of its calls are made. -/
theorem callsMade_of_stop? {s : Seat} {calls : List Call} (h : stop? s calls = none) :
    callsMade s calls = calls := by
  obtain ⟨hfull, hreads⟩ := stop?_eq_none_iff.1 h
  rw [callsMade, hfull]
  exact Desktop.made_of_reads hreads

theorem calls_seatAfter (s : Seat) (name script : String) (calls : List Call)
    (pauses : List Binary64) :
    (seatAfter s name script calls pauses).2.calls = s.2.calls ++ callsMade s calls := by
  unfold seatAfter callsMade
  cases s.2.full with
  | some reason => exact (List.append_nil _).symm
  | none => rfl

/-- An errand leaves the health alone. -/
theorem health_seatAfter (s : Seat) (name script : String) (calls : List Call)
    (pauses : List Binary64) : (seatAfter s name script calls pauses).1.health = s.1.health := by
  unfold seatAfter
  cases s.2.full with
  | some reason => rfl
  | none => rfl

theorem room_seatAfter (s : Seat) (name script : String) (calls : List Call)
    (pauses : List Binary64) : (seatAfter s name script calls pauses).2.room = s.2.room := by
  unfold seatAfter
  cases s.2.full with
  | some reason => rfl
  | none => rfl

/-- Counting changes the health of the source and nothing else. -/
theorem run_note (error : Option String) (s : Seat) :
    (note error).run s =
      ⟨.ok (), healthPart.set ((healthPart.get s).after error) s,
        Health.notice .kwin sourceName (healthPart.get s) error⟩ :=
  Health.run_note_on healthPart .kwin sourceName error s

/-- The health is counted on from the one before: the script leaves it alone. -/
theorem run_note_seatAfter (error : Option String) (s : Seat) (name script : String)
    (calls : List Call) (pauses : List Binary64) :
    let after := seatAfter s name script calls pauses
    (note error).run after =
      ⟨.ok (), healthPart.set (s.1.health.after error) after,
        Health.notice .kwin sourceName s.1.health error⟩ := by
  intro after
  have hhealth : healthPart.get after = s.1.health := health_seatAfter ..
  rw [run_note, hhealth]

/-- **What comes of a listing.** -/
theorem run_list (s : Seat) :
    let name := marker .listing s.2.now
    ∃ pauses log,
      let after := seatAfter s name (listingScript name) (listingCalls s) pauses
      list.run s =
        match stop? s (listingCalls s) with
        | some fault => ⟨.error fault, after, log⟩
        | none =>
          ⟨listed s.2.room (verdict (output? s)),
            healthPart.set (s.1.health.after (complaint? (verdict (output? s)))) after, log⟩ := by
  intro name
  obtain ⟨pauses, log, hscript⟩ := run_runScript (listingScript name) name (some endWord) s
  let after : Seat := seatAfter s name (listingScript name) (listingCalls s) pauses
  have hrun : (runScript (listingScript name) name (some endWord)).run s =
      ⟨(stop? s (listingCalls s)).elim (.ok (output? s)) .error, after, log⟩ := hscript
  refine ⟨pauses, ?_⟩
  rw [list, Act.run_bind_eq (Act.run_read s)]
  cases hstop : stop? s (listingCalls s) with
  | some fault =>
    rw [hstop] at hrun
    rw [Act.run_bind_eq_of_error hrun]
    exact ⟨_, rfl⟩
  | none =>
    rw [hstop] at hrun
    rw [Act.run_bind_eq hrun]
    have hverdict : ((output? s).map windowPayloads).getD (.error .noOutput) =
        verdict (output? s) := rfl
    have hcounts : ∀ error, (note error).run after =
        ⟨.ok (), healthPart.set (s.1.health.after error) after,
          Health.notice .kwin sourceName s.1.health error⟩ :=
      fun error => run_note_seatAfter error s name ..
    have hroom : after.2.room = s.2.room := room_seatAfter ..
    simp only [hverdict]
    cases verdict (output? s) with
    | error fault =>
      simp only [Act.run_bind_eq (hcounts (some fault.message))]
      exact ⟨_, rfl⟩
    | ok payloads =>
      let noted : Seat := healthPart.set (s.1.health.after none) after
      obtain ⟨log', hread⟩ := run_readWindows s.2.room payloads noted
      have hreads : (readWindows noted.2.room payloads).run noted =
          ⟨windowsOf s.2.room payloads, noted, log'⟩ := hroom ▸ hread
      simp only [Act.run_bind_eq (hcounts none), Act.run_bind_eq (Act.run_read _)]
      rw [hreads]
      exact ⟨_, rfl⟩

theorem result_list (s : Seat) :
    (list.run s).result =
      (stop? s (listingCalls s)).elim (listed s.2.room (verdict (output? s))) .error := by
  obtain ⟨pauses, log, hlist⟩ := run_list s
  rw [hlist]
  cases stop? s (listingCalls s) <;> rfl

theorem health_list (s : Seat) :
    (list.run s).state.1.health =
      (stop? s (listingCalls s)).elim (s.1.health.after (complaint? (verdict (output? s))))
        fun _ => s.1.health := by
  obtain ⟨pauses, log, hlist⟩ := run_list s
  rw [hlist]
  cases stop? s (listingCalls s) with
  | some fault => exact health_seatAfter ..
  | none => rfl

theorem calls_list (s : Seat) :
    (list.run s).state.2.calls = s.2.calls ++ callsMade s (listingCalls s) := by
  obtain ⟨pauses, log, hlist⟩ := run_list s
  rw [hlist]
  cases stop? s (listingCalls s) with
  | some fault => exact calls_seatAfter ..
  | none => exact calls_seatAfter ..

/-- **What comes of setting an opacity.** -/
theorem run_setOpacity (w : Window) (opacity : Binary64) (s : Seat) :
    let name := marker .opacity s.2.now
    let error := "opacity script failed for " ++ w.id
    ∃ pauses log,
      let after := seatAfter s name (opacityScript w.id opacity) (opacityCalls s) pauses
      (setOpacity w opacity).run s =
        match stop? s (opacityCalls s) with
        | some fault => ⟨.error fault, after, log⟩
        | none =>
          if launches s name then ⟨.ok (), healthPart.set (s.1.health.after none) after, log⟩
          else
            ⟨.error (.source ("KWin rejected opacity change: " ++ error)),
              healthPart.set (s.1.health.after (some error)) after, log⟩ := by
  intro name error
  obtain ⟨pauses, log, hscript⟩ := run_runScript (opacityScript w.id opacity) name none s
  let after : Seat := seatAfter s name (opacityScript w.id opacity) (opacityCalls s) pauses
  have hrun : (runScript (opacityScript w.id opacity) name none).run s =
      ⟨(stop? s (opacityCalls s)).elim (.ok (if launches s name then some [] else none)) .error,
        after, log⟩ := hscript
  refine ⟨pauses, ?_⟩
  rw [setOpacity, Act.run_bind_eq (Act.run_read s)]
  cases hstop : stop? s (opacityCalls s) with
  | some fault =>
    rw [hstop] at hrun
    rw [Act.run_bind_eq_of_error hrun]
    exact ⟨_, rfl⟩
  | none =>
    rw [hstop] at hrun
    rw [Act.run_bind_eq hrun]
    cases launches s name with
    | true =>
      simp only [if_true]
      rw [run_note_seatAfter none s name]
      exact ⟨_, rfl⟩
    | false =>
      simp only [Bool.false_eq_true, if_false]
      rw [Act.run_bind_eq (run_note_seatAfter (some error) s name ..)]
      exact ⟨_, rfl⟩

theorem setOpacity_eq_ok_iff (w : Window) (opacity : Binary64) (s : Seat) :
    ((setOpacity w opacity).run s).result = .ok () ↔
      stop? s (opacityCalls s) = none ∧ launches s (marker .opacity s.2.now) = true := by
  obtain ⟨pauses, log, hset⟩ := run_setOpacity w opacity s
  rw [hset]
  cases stop? s (opacityCalls s) with
  | some fault => exact iff_of_false nofun nofun
  | none =>
    simp only [true_and]
    split
    · next h => exact iff_of_true rfl h
    · next h => exact iff_of_false nofun h

end Translucency.Kwin
