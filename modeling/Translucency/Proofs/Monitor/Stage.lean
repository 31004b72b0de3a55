import Translucency.Monitor
import Translucency.Proofs.Act

/-!
# A monitor on stage

To say whom a monitor tells of what, its listeners are made to note each call before they do
anything else. On the stage there are the world, which the source lists and which the listeners
change, the monitor, and the notes of the calls. The source and the world are any; a listener may do
anything to the world, may fail at any point and may stop the monitor, and is bound in two ways
only, which are part of its type: it leaves alone what the monitor knows, and the window that it
gives back is the one that it was told of (`Callback`).

One step after the other, from a single call up to a poll, the lemmas say which notes are added.
What the callbacks do otherwise never matters (`Stage.run_poll_of_ok`, `Stage.run_poll_of_error`).
-/

namespace Translucency

/-- A listener, as far as the monitor is concerned. -/
structure Callback (ω : Type) where
  act : Window → Act (ω × Monitor) Window
  known_act : ∀ w s, ((act w).run s).state.2.known = s.2.known
  id_act : ∀ w s w', ((act w).run s).result = .ok w' → w'.id = w.id

namespace Callback

variable {ω : Type}

/-- A listener that fails. -/
def failing (text : String) : Callback ω where
  act _ := .fail (.broken text)
  known_act _ _ := rfl
  id_act _ _ _ h := nomatch h

/-- A listener that stops the monitor. -/
def stopping : Callback ω where
  act w := do
    Part.second.run Monitor.stop
    return w
  known_act w s := by
    show (Monitor.stop.run s.2).state.known = s.2.known
    rw [Monitor.stop, Act.run_change]
    split <;> rfl
  id_act w s w' h := by
    cases h
    rfl

end Callback

/-- A monitor with the world around it, and which listener was called with which window. -/
structure Stage (ω : Type) where
  world : ω
  monitor : Monitor
  calls : List (Nat × String) := []

namespace Stage

variable {ω : Type}

def worldPart : Part (Stage ω) ω where
  get s := s.world
  set world s := { s with world := world }

def monitorPart : Part (Stage ω) Monitor where
  get s := s.monitor
  set monitor s := { s with monitor := monitor }

def callsPart : Part (Stage ω) (List (Nat × String)) where
  get s := s.calls
  set calls s := { s with calls := calls }

/-- What listeners may touch. The notes of their calls are out of their reach. -/
def actors : Part (Stage ω) (ω × Monitor) where
  get s := (s.world, s.monitor)
  set t s := { s with world := t.1, monitor := t.2 }

/-- A listener that notes its call first. -/
def noting (index : Nat) (c : Callback ω) (w : Window) : Act (Stage ω) Window := do
  callsPart.change fun calls => calls ++ [(index, w.id)]
  actors.run (c.act w)

/-- A monitor that watches a source, with its listeners in the order of their registration. -/
def watch (source : Source ω) (callbacks : List (Callback ω)) : Watch (Stage ω) where
  monitor := monitorPart
  source := .on worldPart source
  listeners := callbacks.zipIdx.map fun e => noting e.2 e.1

/-- The calls for one window: each listener once, in order. -/
def callsFor (count : Nat) (id : String) : List (Nat × String) :=
  (List.range count).map fun index => (index, id)

/-- Whether listeners were called as noted and left alone what the monitor knows. -/
structure Serves (s s' : Stage ω) (calls : List (Nat × String)) : Prop where
  known : s'.monitor.known = s.monitor.known
  calls : s'.calls = s.calls ++ calls

theorem Serves.refl (s : Stage ω) : Serves s s [] := ⟨rfl, (List.append_nil _).symm⟩

theorem Serves.trans {s₁ s₂ s₃ : Stage ω} {a b : List (Nat × String)} (h : Serves s₁ s₂ a)
    (h' : Serves s₂ s₃ b) : Serves s₁ s₃ (a ++ b) := by
  refine ⟨h'.known.trans h.known, ?_⟩
  rw [h'.calls, h.calls, List.append_assoc]

/-! ## Telling -/

/-- Telling one listener never fails, and notes one call. -/
theorem run_tell (index : Nat) (c : Callback ω) (w : Window) (s : Stage ω) :
    ∃ w' s' log, (Watch.tell (noting index c) w).run s = ⟨.ok w', s', log⟩ ∧ w'.id = w.id ∧
      Serves s s' [(index, w.id)] := by
  let o := (c.act w).run (s.world, s.monitor)
  let s' : Stage ω :=
    { world := o.state.1, monitor := o.state.2, calls := s.calls ++ [(index, w.id)] }
  have hnoting : (noting index c w).run s = ⟨o.result, s', o.log⟩ := by
    rw [noting, Act.run_bind_eq (Part.run_change ..), Part.run_run]
    rfl
  have hserves : Serves s s' [(index, w.id)] := ⟨c.known_act w (s.world, s.monitor), rfl⟩
  rw [Watch.tell, Act.run_bind_eq (Act.run_attempt_eq hnoting)]
  cases hresult : o.result with
  | ok w' => exact ⟨w', s', _, rfl, c.id_act w _ w' hresult, hserves⟩
  | error fault =>
    -- The fault goes to the log, and the next listener is told of the window as it was.
    simp only
    rw [Act.run_bind_eq (Act.run_write _ s')]
    exact ⟨w, s', _, rfl, rfl, hserves⟩

/-- Telling listeners one after the other: each is called once, whatever became of those before. -/
theorem run_foldlM_tell (callbacks : List (Callback ω)) (first : Nat) (w : Window) (s : Stage ω) :
    ∃ w' s' log,
      (((callbacks.zipIdx first).map fun e => noting e.2 e.1).foldlM
        (fun w listener => Watch.tell listener w) w).run s = ⟨.ok w', s', log⟩ ∧ w'.id = w.id ∧
      Serves s s' ((List.range' first callbacks.length).map fun index => (index, w.id)) := by
  induction callbacks generalizing first w s with
  | nil => exact ⟨w, s, _, rfl, rfl, Serves.refl s⟩
  | cons c rest ih =>
    obtain ⟨w₁, s₁, log₁, htell, hid₁, hserves₁⟩ := run_tell first c w s
    obtain ⟨w₂, s₂, log₂, hrest, hid₂, hserves₂⟩ := ih (first + 1) w₁ s₁
    rw [List.zipIdx_cons, List.map_cons, List.foldlM_cons, Act.run_bind_eq htell, hrest]
    refine ⟨w₂, s₂, _, rfl, hid₂.trans hid₁, ?_⟩
    rw [hid₁] at hserves₂
    rw [List.length_cons, List.range'_succ, List.map_cons]
    exact hserves₁.trans hserves₂

/-- Announcing a window calls each listener once, in the order of registration. -/
theorem run_announce (source : Source ω) (callbacks : List (Callback ω)) (w : Window)
    (s : Stage ω) :
    ∃ w' s' log, ((watch source callbacks).announce w).run s = ⟨.ok w', s', log⟩ ∧ w'.id = w.id ∧
      Serves s s' (callsFor callbacks.length w.id) := by
  rw [callsFor, List.range_eq_range']
  exact run_foldlM_tell callbacks 0 w s

/-- Announcing windows calls the listeners for each of them in turn. -/
theorem run_announceAll (source : Source ω) (callbacks : List (Callback ω))
    (windows : List Window) (s : Stage ω) :
    ∃ told s' log, ((watch source callbacks).announceAll windows).run s = ⟨.ok told, s', log⟩ ∧
      told.map (·.id) = windows.map (·.id) ∧
      Serves s s' (windows.flatMap fun w => callsFor callbacks.length w.id) := by
  induction windows generalizing s with
  | nil => exact ⟨[], s, _, rfl, rfl, Serves.refl s⟩
  | cons w rest ih =>
    obtain ⟨w₁, s₁, log₁, hannounce, hid, hserves₁⟩ := run_announce source callbacks w s
    obtain ⟨told, s₂, log₂, hrest, hids, hserves₂⟩ := ih s₁
    rw [Watch.announceAll, Act.run_bind_eq hannounce, Act.run_bind_eq hrest]
    refine ⟨w₁ :: told, s₂, _, rfl, ?_, ?_⟩
    · rw [List.map_cons, List.map_cons, hid, hids]
    · rw [List.flatMap_cons]
      exact hserves₁.trans hserves₂

/-! ## Polling -/

variable {source : Source ω} {s : Stage ω} {world : ω} {log : List Record}

/-- A poll that lists windows takes them as the known ones before anybody is told, and goes on to
announce those that were not known before. -/
theorem run_poll_eq (callbacks : List (Callback ω)) {windows : List Window}
    (h : source.list.run s.world = ⟨.ok windows, world, log⟩) :
    (watch source callbacks).poll.run s =
      (((watch source callbacks).announceAll (Monitor.fresh s.monitor.known windows)).run
        { s with
          world := world
          monitor := { s.monitor with known := Monitor.learn [] windows } }).after log := by
  have hlist : (watch source callbacks).source.list.run s =
      ⟨.ok windows, { s with world := world }, log⟩ := Part.run_eq h
  rw [Watch.poll, Act.run_bind_eq hlist, Act.run_bind_eq (Part.run_read _ _), Outcome.after_nil,
    Act.run_bind_eq (Part.run_change _ _ _), Outcome.after_nil]
  rfl

/-- So it makes the calls for the new windows, and returns these. -/
theorem run_poll_of_ok (callbacks : List (Callback ω)) {windows : List Window}
    (h : source.list.run s.world = ⟨.ok windows, world, log⟩) :
    ∃ told s' log', (watch source callbacks).poll.run s = ⟨.ok told, s', log'⟩ ∧
      told.map (·.id) = (Monitor.fresh s.monitor.known windows).map (·.id) ∧
      s'.monitor.known = Monitor.learn [] windows ∧
      s'.calls = s.calls ++
        (Monitor.fresh s.monitor.known windows).flatMap fun w =>
          callsFor callbacks.length w.id := by
  obtain ⟨told, s', log', hannounce, hids, hserves⟩ :=
    run_announceAll source callbacks (Monitor.fresh s.monitor.known windows)
      { s with world := world, monitor := { s.monitor with known := Monitor.learn [] windows } }
  refine ⟨told, s', log ++ log', ?_, hids, hserves.known, hserves.calls⟩
  rw [run_poll_eq callbacks h, hannounce, Outcome.after_mk]

/-- A poll that fails to list ends with the listing. -/
theorem run_poll_of_error (callbacks : List (Callback ω)) {fault : Fault}
    (h : source.list.run s.world = ⟨.error fault, world, log⟩) :
    (watch source callbacks).poll.run s = ⟨.error fault, { s with world := world }, log⟩ := by
  have hlist : (watch source callbacks).source.list.run s =
      ⟨.error fault, { s with world := world }, log⟩ := Part.run_eq h
  rw [Watch.poll, Act.run_bind_eq_of_error hlist]

/-- A poll after another tells of the windows that the other did not list, wherever the world was
brought in between. -/
theorem run_poll_after_poll (callbacks : List (Callback ω)) (stage : Stage ω) {start next : ω}
    {world world' : ω} {log log' : List Record} {before after : List Window}
    (h : source.list.run start = ⟨.ok before, world, log⟩)
    (h' : source.list.run next = ⟨.ok after, world', log'⟩) :
    let first := (watch source callbacks).poll.run { stage with world := start }
    let second := (watch source callbacks).poll.run { first.state with world := next }
    let new := Monitor.fresh (Monitor.learn [] before) after
    ∃ told, second.result = .ok told ∧ told.map (·.id) = new.map (·.id) ∧
      second.state.calls =
        first.state.calls ++ new.flatMap fun w => callsFor callbacks.length w.id := by
  intro first second new
  obtain ⟨told, stage', log, hfirst, -, hknown, -⟩ :=
    run_poll_of_ok (s := { stage with world := start }) callbacks h
  obtain ⟨told', stage'', log', hsecond, hids, -, hcalls⟩ :=
    run_poll_of_ok (s := { first.state with world := next }) callbacks h'
  have hstate : first.state.monitor.known = Monitor.learn [] before := by
    rw [← hknown]
    exact congrArg (·.state.monitor.known) hfirst
  simp only [hstate] at hids hcalls
  exact ⟨told', congrArg Outcome.result hsecond, hids,
    (congrArg (·.state.calls) hsecond).trans hcalls⟩

end Stage

end Translucency
