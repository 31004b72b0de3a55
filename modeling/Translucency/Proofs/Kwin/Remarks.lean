import Translucency.Proofs.Kwin.Turns

/-!
# What an operation says aloud

An operation reports each of its commands, but as debug records only. `Act.IsQuiet` says that of an
act, and it passes from the steps of an act to the act, so the part of an operation that talks to
the desktop is quiet because sending a message is (`isQuiet_runScript`). What is left is the
counting of the result, and so all that an operation says above that level is what its counting
says (`loud_log_outcome`).

What is stopped is not counted, and so it says nothing.
-/

namespace Translucency

/-- The records above debug. -/
def loud (log : List Record) : List Record := log.filter (·.level != .debug)

@[simp] theorem loud_append (log log' : List Record) : loud (log ++ log') = loud log ++ loud log' :=
  List.filter_append ..

/-- The record of going out of service is above debug. -/
theorem Health.loud_notice (channel : Channel) (name : String) (h : Health)
    (result : Option String) :
    loud (notice channel name h result) = notice channel name h result := by
  cases result with
  | none => rfl
  | some error =>
    rw [notice]
    split
    · rfl
    · rfl

namespace Act

variable {σ τ α β : Type} {a : Act σ α}

/-- Whether an act writes debug records only. -/
structure IsQuiet (a : Act σ α) : Prop where
  loud_log : ∀ s, loud (a.run s).log = []

theorem isQuiet_pure (x : α) : (pure x : Act σ α).IsQuiet := ⟨fun _ => rfl⟩

theorem isQuiet_read : (read : Act σ σ).IsQuiet := ⟨fun _ => rfl⟩

theorem isQuiet_change (f : σ → σ) : (change f).IsQuiet := ⟨fun _ => rfl⟩

theorem isQuiet_fail (fault : Fault) : (fail fault : Act σ α).IsQuiet := ⟨fun _ => rfl⟩

theorem isQuiet_lift (r : Except Fault α) : (lift r : Act σ α).IsQuiet := ⟨fun _ => rfl⟩

theorem isQuiet_debug (channel : Channel) (message : String) :
    (log .debug channel message : Act σ Unit).IsQuiet := ⟨fun _ => rfl⟩

theorem IsQuiet.bind {f : α → Act σ β} (ha : a.IsQuiet) (hf : ∀ x, (f x).IsQuiet) :
    (a >>= f).IsQuiet := by
  constructor
  intro s
  rw [run_bind]
  cases (a.run s).result with
  | error fault => exact ha.loud_log s
  | ok x => rw [loud_append, ha.loud_log, (hf x).loud_log, List.append_nil]

theorem IsQuiet.on {a : Act τ α} (ha : a.IsQuiet) (part : Part σ τ) : (part.run a).IsQuiet := by
  constructor
  intro s
  rw [Part.run_run]
  exact ha.loud_log (part.get s)

/-- After a quiet first step all that is said aloud is what the rest says. -/
theorem IsQuiet.loud_bind {s s' : σ} {x : α} {log : List Record} (ha : a.IsQuiet)
    (h : a.run s = ⟨.ok x, s', log⟩) (f : α → Act σ β) :
    loud ((a >>= f).run s).log = loud ((f x).run s').log := by
  have hquiet := ha.loud_log s
  rw [h] at hquiet
  rw [run_bind_eq h, Outcome.after, loud_append, hquiet, List.nil_append]

/-- If the first step fails, there is no rest. -/
theorem IsQuiet.loud_bind_of_error {s s' : σ} {fault : Fault} {log : List Record} (ha : a.IsQuiet)
    (h : a.run s = ⟨.error fault, s', log⟩) (f : α → Act σ β) :
    loud ((a >>= f).run s).log = [] := by
  have hquiet := ha.loud_log s
  rw [h] at hquiet
  rwa [run_bind_eq_of_error h]

end Act

namespace Kwin

open Act

/-! ## Talking to the desktop -/

theorem isQuiet_perform (words : List String) (limit : Binary64) :
    (Desktop.perform words limit).IsQuiet := by
  have hask : (Desktop.ask ⟨words, limit⟩).IsQuiet := ⟨fun _ => rfl⟩
  refine (isQuiet_debug ..).bind fun _ => hask.bind fun reply => ?_
  cases reply with
  | undecodable => exact isQuiet_fail _
  | timeout => exact (isQuiet_debug ..).bind fun _ => isQuiet_pure none
  | notStarted reason => exact (isQuiet_debug ..).bind fun _ => isQuiet_pure none
  | finished status output errors =>
    by_cases hstatus : status = 0
    · subst hstatus
      exact (isQuiet_pure ()).bind fun _ => isQuiet_pure _
    · simp only [ne_eq, hstatus, not_false_eq_true, if_true]
      exact (isQuiet_debug ..).bind fun _ => isQuiet_pure _

theorem isQuiet_place (script : String) : (Desktop.place script).IsQuiet := by
  refine isQuiet_read.bind fun d => ?_
  cases d.full with
  | some reason => exact isQuiet_fail _
  | none => exact isQuiet_change _

theorem isQuiet_send (tool : String) (words : List String) (limit : Binary64) :
    (send tool words limit).IsQuiet := (isQuiet_perform ..).on Part.second

theorem isQuiet_loadWith (tool name : String) : (loadWith tool name).IsQuiet := by
  refine (isQuiet_send ..).bind fun _ => isQuiet_read.bind fun s => (isQuiet_send ..).bind
    fun result => ?_
  split
  · exact isQuiet_pure _
  · exact isQuiet_pure none

theorem isQuiet_load (name : String) : (load name).IsQuiet := by
  refine isQuiet_read.bind fun s => (isQuiet_loadWith ..).bind fun number? => ?_
  cases number? with
  | some number => exact isQuiet_pure _
  | none =>
    simp only
    split
    · exact (isQuiet_change _).bind fun _ => isQuiet_loadWith ..
    · exact isQuiet_pure none

theorem isQuiet_lookAfter (marker awaited : String) (since : Binary64) (delays : List Nat) :
    (lookAfter marker awaited since delays).IsQuiet := by
  induction delays with
  | nil => exact (isQuiet_debug ..).bind fun _ => isQuiet_pure none
  | cons delay rest ih =>
    refine (isQuiet_change _).bind fun _ => (isQuiet_perform ..).bind fun result => ?_
    cases result with
    | none => exact ih
    | some result =>
      simp only
      split
      · exact isQuiet_pure _
      · exact ih

theorem isQuiet_runScript (script name : String) (awaited : Option String) :
    (runScript script name awaited).IsQuiet := by
  refine isQuiet_read.bind fun s => ((isQuiet_place script).on Part.second).bind fun _ =>
    (isQuiet_load name).bind fun number? => ?_
  cases number? with
  | none => exact (isQuiet_debug ..).bind fun _ => isQuiet_pure none
  | some number =>
    refine isQuiet_read.bind fun loaded => (isQuiet_send ..).bind fun ran =>
      (isQuiet_send ..).bind fun _ => (isQuiet_send ..).bind fun _ => ?_
    split
    · exact isQuiet_pure none
    · cases awaited with
      | none => exact isQuiet_pure _
      | some payload => exact (isQuiet_lookAfter ..).on Part.second

theorem isQuiet_readWindows (room : Nat) (payloads : List String) :
    (readWindows room payloads : Act Seat (List Window)).IsQuiet := by
  induction payloads with
  | nil => exact isQuiet_pure []
  | cons payload rest ih =>
    refine IsQuiet.bind ?_ fun window => ih.bind fun windows => isQuiet_pure _
    unfold readWindow
    cases Json.read room payload.toList with
    | error failure =>
      cases failure with
      | malformed => exact (isQuiet_debug ..).bind fun _ => isQuiet_pure none
      | tooDeep opened => exact isQuiet_fail _
    | ok message => exact (isQuiet_lift _).bind fun w => isQuiet_pure (some w)

/-! ## Operations -/

/-- All that a listing says aloud is said in counting it. -/
theorem loud_log_list (s : Seat) :
    loud (list.run s).log =
      if stop? s (listingCalls s) = none then
        Health.notice .kwin sourceName s.1.health (complaint? (verdict (output? s)))
      else [] := by
  let name := marker .listing s.2.now
  obtain ⟨pauses, log, hscript⟩ := run_runScript (listingScript name) name (some endWord) s
  let after : Seat := seatAfter s name (listingScript name) (listingCalls s) pauses
  have hrun : (runScript (listingScript name) name (some endWord)).run s =
      ⟨(stop? s (listingCalls s)).elim (.ok (output? s)) .error, after, log⟩ := hscript
  rw [list, isQuiet_read.loud_bind (Act.run_read s)]
  cases hstop : stop? s (listingCalls s) with
  | some fault =>
    rw [hstop] at hrun
    rw [if_neg (Option.some_ne_none _)]
    exact (isQuiet_runScript ..).loud_bind_of_error hrun _
  | none =>
    have hverdict : ((output? s).map windowPayloads).getD (.error .noOutput) =
        verdict (output? s) := rfl
    rw [hstop] at hrun
    rw [if_pos rfl, (isQuiet_runScript ..).loud_bind hrun]
    simp only [hverdict]
    cases verdict (output? s) with
    | error fault =>
      rw [Act.run_bind_eq (run_note_seatAfter (some fault.message) s name ..), Act.run_fail,
        Outcome.after_mk, List.append_nil]
      exact Health.loud_notice .kwin sourceName s.1.health (some fault.message)
    | ok payloads =>
      rw [Act.run_bind_eq (run_note_seatAfter none s name ..), Outcome.after, loud_append,
        (isQuiet_read.bind fun seat => isQuiet_readWindows seat.2.room payloads).loud_log,
        List.append_nil]
      exact Health.loud_notice .kwin sourceName s.1.health none

/-- So it is with setting an opacity. -/
theorem loud_log_setOpacity (w : Window) (opacity : Binary64) (s : Seat) :
    loud ((setOpacity w opacity).run s).log =
      if stop? s (opacityCalls s) = none then
        Health.notice .kwin sourceName s.1.health
          (if launches s (marker .opacity s.2.now) then none
            else some ("opacity script failed for " ++ w.id))
      else [] := by
  let name := marker .opacity s.2.now
  let error := "opacity script failed for " ++ w.id
  obtain ⟨pauses, log, hscript⟩ := run_runScript (opacityScript w.id opacity) name none s
  let after : Seat := seatAfter s name (opacityScript w.id opacity) (opacityCalls s) pauses
  have hrun : (runScript (opacityScript w.id opacity) name none).run s =
      ⟨(stop? s (opacityCalls s)).elim (.ok (if launches s name then some [] else none)) .error,
        after, log⟩ := hscript
  rw [setOpacity, isQuiet_read.loud_bind (Act.run_read s)]
  cases hstop : stop? s (opacityCalls s) with
  | some fault =>
    rw [hstop] at hrun
    rw [if_neg (Option.some_ne_none _)]
    exact (isQuiet_runScript ..).loud_bind_of_error hrun _
  | none =>
    have hname : launches s (marker .opacity s.2.now) = launches s name := rfl
    rw [hstop] at hrun
    rw [if_pos rfl, (isQuiet_runScript ..).loud_bind hrun, hname]
    cases launches s name with
    | true =>
      simp only [if_true]
      rw [run_note_seatAfter none s name]
      exact Health.loud_notice .kwin sourceName s.1.health none
    | false =>
      simp only [Bool.false_eq_true, if_false]
      rw [Act.run_bind_eq (run_note_seatAfter (some error) s name ..), Act.run_fail,
        Outcome.after_mk, List.append_nil]
      exact Health.loud_notice .kwin sourceName s.1.health (some error)

/-- **All that an operation says aloud** is that the source goes out of service. -/
theorem Turn.loud_log_outcome (t : Turn) (s : Seat) :
    loud (t.outcome s).log =
      if t.stop? s = none then Health.notice .kwin sourceName s.1.health (t.complaint? s)
      else [] := by
  unfold outcome act complaint? name
  cases hoperation : t.operation with
  | list =>
    rw [stop?_of_list hoperation]
    simp only [Act.run_map]
    exact loud_log_list (t.start s)
  | setOpacity w opacity =>
    simp only [setOpacityValue]
    cases hopacity : opacity.toBinary64 with
    | error m =>
      rw [stop?_of_error hoperation hopacity, if_neg (Option.some_ne_none _), mapError_error]
      exact isQuiet_lift _ |>.loud_bind_of_error (Act.run_lift ..) _
    | ok x =>
      rw [stop?_of_setOpacity hoperation hopacity, mapError_ok,
        (isQuiet_lift _).loud_bind (Act.run_lift ..)]
      exact loud_log_setOpacity w x (t.start s)

end Kwin

end Translucency
