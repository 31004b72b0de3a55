import Mathlib.Data.List.Count
import Mathlib.Data.List.Nodup
import Translucency.Proofs.Monitor.Stage

/-!
# Each appearance is announced once

A monitor marks windows and polls, any number of times and in any order, while the world changes as
it likes between the polls and while it polls. What it learns by that is a list of sightings, the
latest first, and two recursions over them say what it has to do without looking at its state:
`Sighting.present` are the windows that count as present, and `Sighting.appearances` is how often a
window went from absent to present in a listing.

`Stage.Follows` ties the known windows of the monitor to the present ones. It is kept by every move
(`Stage.Follows.step`), which also says which calls the move makes, and
`Stage.calls_each_appearance` counts the calls of a whole run by induction on it.
-/

namespace Translucency

/-- What a monitor learns by one move. -/
inductive Sighting where
  /-- Windows are taken as known. -/
  | marked (windows : List Window)
  /-- A poll lists windows. -/
  | listed (windows : List Window)
  /-- A poll fails to list. -/
  | failed

namespace Sighting

/-- The windows that count as present: those of the latest listing, and those marked since. -/
def present : List Sighting → List String
  | [] => []
  | .marked windows :: past => present past ++ windows.map (·.id)
  | .listed windows :: _ => windows.map (·.id)
  | .failed :: past => present past

/-- How often a window went from absent to present in a listing. -/
def appearances (id : String) : List Sighting → Nat
  | [] => 0
  | .listed windows :: past =>
    appearances id past + if id ∈ windows.map (·.id) ∧ id ∉ present past then 1 else 0
  | _ :: past => appearances id past

/-- The calls of the listeners that a sighting asks for, window by window in the order of the
listing. -/
def dueCalls (count : Nat) (past : List Sighting) : Sighting → List (Nat × String)
  | .listed windows =>
    (windows.filter fun w => !(present past).contains w.id).flatMap fun w =>
      Stage.callsFor count w.id
  | _ => []

/-! ## Counting calls -/

theorem count_callsFor {count index : Nat} (h : index < count) (id other : String) :
    (Stage.callsFor count other).count (index, id) = if other = id then 1 else 0 := by
  unfold Stage.callsFor
  by_cases heq : other = id
  · subst heq
    have hinjective : Function.Injective fun index : Nat => (index, other) :=
      fun _ _ heq => (Prod.mk.inj heq).1
    rw [if_pos rfl, List.count_map_of_injective _ _ hinjective]
    exact List.count_eq_one_of_mem List.nodup_range (List.mem_range.2 h)
  · rw [if_neg heq, List.count_eq_zero]
    intro hmem
    obtain ⟨_, _, hpair⟩ := List.mem_map.1 hmem
    exact heq (Prod.mk.inj hpair).2

/-- A listener is called for a window as often as the window is announced. -/
theorem count_flatMap_callsFor {count index : Nat} (h : index < count) (id : String)
    (windows : List Window) :
    (windows.flatMap fun w => Stage.callsFor count w.id).count (index, id) =
      (windows.map (·.id)).count id := by
  induction windows with
  | nil => rfl
  | cons w rest ih =>
    rw [List.flatMap_cons, List.count_append, ih, count_callsFor h, List.map_cons,
      List.count_cons, Nat.add_comm]
    simp only [beq_iff_eq]

/-- Where a listing names each window once, a listener is called once for a window that was absent
before and is in it, and not at all for any other. -/
theorem count_dueCalls_listed {count index : Nat} (h : index < count) (id : String)
    (past : List Sighting) {windows : List Window} (hnodup : (windows.map (·.id)).Nodup) :
    (dueCalls count past (.listed windows)).count (index, id) =
      if id ∈ windows.map (·.id) ∧ id ∉ present past then 1 else 0 := by
  have hsublist := (List.filter_sublist
    (p := fun w : Window => !(present past).contains w.id) (l := windows)).map (·.id)
  have hmem : id ∈ (windows.filter fun w => !(present past).contains w.id).map (·.id) ↔
      id ∈ windows.map (·.id) ∧ id ∉ present past := by
    simp only [List.mem_map, List.mem_filter, Bool.not_eq_true', List.contains_eq_mem,
      decide_eq_false_iff_not]
    constructor
    · rintro ⟨w, ⟨hw, habsent⟩, rfl⟩
      exact ⟨⟨w, hw, rfl⟩, habsent⟩
    · rintro ⟨⟨w, hw, rfl⟩, habsent⟩
      exact ⟨w, ⟨hw, habsent⟩, rfl⟩
  rw [dueCalls, count_flatMap_callsFor h, (hnodup.sublist hsublist).count]
  simp only [hmem]

end Sighting

namespace Stage

variable {ω : Type}

/-- What happens to a monitor. -/
inductive Move (ω : Type) where
  /-- Windows are taken as known. -/
  | mark (windows : List Window)
  /-- The world becomes another one, and the monitor polls. -/
  | poll (before : ω → ω)

variable (source : Source ω) (callbacks : List (Callback ω))

/-- The stage after a move. -/
def step (s : Stage ω) : Move ω → Stage ω
  | .mark windows => ((monitorPart.run (Monitor.mark windows)).run s).state
  | .poll before => ((watch source callbacks).poll.run { s with world := before s.world }).state

/-- What the monitor learns by a move. -/
def sighting (s : Stage ω) : Move ω → Sighting
  | .mark windows => .marked windows
  | .poll before =>
    match (source.list.run (before s.world)).result with
    | .ok windows => .listed windows
    | .error _ => .failed

/-- A new monitor. -/
def opening (interval : Binary64) (world : ω) : Stage ω := { world, monitor := { interval } }

/-- The stage after moves, the latest first. -/
def after (s : Stage ω) : List (Move ω) → Stage ω
  | [] => s
  | move :: past => (after s past).step source callbacks move

/-- What the monitor learned by moves, the latest first. -/
def sightings (s : Stage ω) : List (Move ω) → List Sighting
  | [] => []
  | move :: past => (after source callbacks s past).sighting source move :: sightings s past

/-! ## Moves -/

/-- Whether a monitor knows the windows that are present. -/
def Follows (s : Stage ω) (past : List Sighting) : Prop :=
  ∀ id, id ∈ s.monitor.known ↔ id ∈ Sighting.present past

variable {s : Stage ω} {past : List Sighting}

/-- What is new to a monitor is what was absent. -/
theorem Follows.fresh_eq (h : s.Follows past) (windows : List Window) :
    Monitor.fresh s.monitor.known windows =
      windows.filter fun w => !(Sighting.present past).contains w.id := by
  refine List.filter_congr fun w _ => congrArg not ?_
  rw [Bool.eq_iff_iff, List.contains_iff_mem, List.contains_iff_mem]
  exact h w.id

/-- **What one move does.** It makes the calls that are due, and the monitor knows the present
windows again. A poll returns the windows that it announced; one that fails to list changes nothing
but what the listing itself changes. -/
theorem Follows.step (h : s.Follows past) (move : Move ω) :
    (s.step source callbacks move).Follows (s.sighting source move :: past) ∧
      (s.step source callbacks move).calls =
        s.calls ++ Sighting.dueCalls callbacks.length past (s.sighting source move) := by
  cases move with
  | mark windows =>
    refine ⟨fun id => ?_, (List.append_nil _).symm⟩
    show id ∈ Monitor.learn s.monitor.known windows ↔ _
    rw [Monitor.mem_learn, h id]
    show _ ↔ id ∈ Sighting.present past ++ windows.map (·.id)
    rw [List.mem_append, List.mem_map]
  | poll before =>
    let scene : Stage ω := { s with world := before s.world }
    rcases hlist : source.list.run scene.world with ⟨result, world, log⟩
    cases result with
    | error fault =>
      have hsighting : s.sighting source (.poll before) = .failed := by
        rw [sighting, hlist]
      rw [hsighting, Stage.step, run_poll_of_error callbacks hlist]
      exact ⟨h, (List.append_nil _).symm⟩
    | ok windows =>
      have hsighting : s.sighting source (.poll before) = .listed windows := by
        rw [sighting, hlist]
      obtain ⟨told, s', log', hpoll, hids, hknown, hcalls⟩ := run_poll_of_ok callbacks hlist
      rw [hsighting, Stage.step, hpoll]
      refine ⟨fun id => ?_, ?_⟩
      · rw [hknown, Monitor.mem_learn, Sighting.present, List.mem_map]
        simp
      · rw [hcalls, h.fresh_eq]
        rfl

/-- So the monitor knows the present windows after any run. -/
theorem follows_after (interval : Binary64) (world : ω) (moves : List (Move ω)) :
    (after source callbacks (opening interval world) moves).Follows
      (sightings source callbacks (opening interval world) moves) := by
  induction moves with
  | nil => exact fun _ => Iff.rfl
  | cons move past ih => exact (ih.step source callbacks move).1

/-- The calls of a run are counted by the appearances, where no listing names a window twice. -/
theorem count_calls_after (interval : Binary64) (world : ω) {moves : List (Move ω)}
    (hdistinct : ∀ windows,
      .listed windows ∈ sightings source callbacks (opening interval world) moves →
        (windows.map (·.id)).Nodup)
    {index : Nat} (h : index < callbacks.length) (id : String) :
    (after source callbacks (opening interval world) moves).calls.count (index, id) =
      Sighting.appearances id (sightings source callbacks (opening interval world) moves) := by
  induction moves with
  | nil => rfl
  | cons move past ih =>
    have hpast := ih fun windows hmem => hdistinct windows (List.mem_cons_of_mem _ hmem)
    have hcalls :=
      ((follows_after source callbacks interval world past).step source callbacks move).2
    rw [after, hcalls, List.count_append, hpast, sightings]
    -- The calls of the last move are none, or those of a listing, which names no window twice.
    cases hsighting : (after source callbacks (opening interval world) past).sighting source move with
    | marked windows => rfl
    | failed => rfl
    | listed windows =>
      have hnodup := hdistinct windows (hsighting ▸ List.mem_cons_self ..)
      rw [Sighting.count_dueCalls_listed h id _ hnodup, Sighting.appearances]

/-- **Each appearance is announced once.** At every moment of every run of a new monitor, whatever
its listeners do, a move makes exactly the calls that are due: none, or at a listing one of each
listener, in order, for each window that was not in the listing before and was not marked since. A
poll that lists returns these windows; one that fails to list returns the fault, makes no call and
leaves the monitor as it was. If no listing names a window twice, each listener was called with a
window as often as that window went from absent to present. -/
theorem calls_each_appearance (interval : Binary64) (world : ω) (moves : List (Move ω))
    (hdistinct : ∀ windows,
      .listed windows ∈ sightings source callbacks (opening interval world) moves →
        (windows.map (·.id)).Nodup) :
    let s := after source callbacks (opening interval world) moves
    let past := sightings source callbacks (opening interval world) moves
    (∀ move, (s.step source callbacks move).calls =
      s.calls ++ Sighting.dueCalls callbacks.length past (s.sighting source move)) ∧
    (∀ before : ω → ω,
      let polled := (watch source callbacks).poll.run { s with world := before s.world }
      (∀ windows world' log, source.list.run (before s.world) = ⟨.ok windows, world', log⟩ →
        ∃ told, polled.result = .ok told ∧ told.map (·.id) =
          (windows.filter fun w => !(Sighting.present past).contains w.id).map (·.id)) ∧
      (∀ fault world' log, source.list.run (before s.world) = ⟨.error fault, world', log⟩ →
        polled = ⟨.error fault, { s with world := world' }, log⟩)) ∧
    ∀ index < callbacks.length, ∀ id,
      s.calls.count (index, id) = Sighting.appearances id past := by
  intro s past
  have hfollows : s.Follows past := follows_after source callbacks interval world moves
  refine ⟨fun move => (hfollows.step source callbacks move).2, fun before => ⟨?_, ?_⟩, ?_⟩
  · intro windows world' log hlist
    obtain ⟨told, s', log', hpoll, hids, -⟩ :=
      run_poll_of_ok (s := { s with world := before s.world }) callbacks hlist
    refine ⟨told, congrArg Outcome.result hpoll, ?_⟩
    rw [hids, ← hfollows.fresh_eq]
  · intro fault world' log hlist
    exact run_poll_of_error (s := { s with world := before s.world }) callbacks hlist
  · intro index hindex id
    exact count_calls_after source callbacks interval world hdistinct hindex id

/-- A source that lists what the world holds for it, or fails with it. -/
def scripted : Source (Except Fault (List Window)) where
  name := "scripted"
  list := fun world => ⟨world, world, []⟩
  setOpacity _ _ := pure ()
  available _ := true

/-- A window is closed and comes back, with a failed listing in between, and another one is marked
before it is listed. One listener fails and the next one stops the monitor, which makes no
difference. -/
theorem calls_each_appearance_of_returning_window :
    let moves : List (Move (Except Fault (List Window))) := [
      .poll fun _ => .ok [{ id := "a" }, { id := "b" }], .poll fun _ => .error (.source "gone"),
      .poll fun _ => .ok [{ id := "b" }], .mark [{ id := "b" }], .poll fun _ => .ok [{ id := "a" }]]
    let s := after scripted [.failing "no", .stopping] (opening (.ofInt 2) (.ok [])) moves
    ∀ index < 2, s.calls.count (index, "a") = 2 ∧ s.calls.count (index, "b") = 0 := by
  intro moves s index hindex
  have hsightings : sightings scripted [.failing "no", .stopping] (opening (.ofInt 2) (.ok [])) moves
      = [.listed [{ id := "a" }, { id := "b" }], .failed, .listed [{ id := "b" }],
          .marked [{ id := "b" }], .listed [{ id := "a" }]] := rfl
  obtain ⟨-, -, hcount⟩ := calls_each_appearance scripted [.failing "no", .stopping] (.ofInt 2)
    (.ok []) moves (by rw [hsightings]; simp)
  rw [hsightings] at hcount
  exact ⟨hcount index hindex "a", hcount index hindex "b"⟩

end Stage

end Translucency
