import Translucency.Proofs.Monitor.Stage

/-!
# Listeners that may stop the monitor

Who is told of a window may do anything in the world, may fail, and may stop the monitor that tells
him. To say what becomes of the monitor, the calls alone are not enough: it has to be known that
there is no other way to its flag. So `Listener.IsDeed` says what a listener may be made of, and
from that follows what it leaves alone (`Listener.Heeds`, `Listener.IsDeed.keeps`). A listener in
this sense is one in the sense of `Stage` as well (`Listener.callback`).

The world is made to tell how often the monitor was stopped, and what each listing gave (`Scene`).
Neither the source nor a listener can read that.
-/

namespace Translucency

/-! ## Scenes -/

/-- A world that also tells what is asked of the source and of the monitor. -/
structure Scene (ω : Type) where
  world : ω
  /-- What the listings gave, the latest first. -/
  results : List (Except Fault (List Window)) := []
  /-- How often a listener stopped the monitor. -/
  stops : Nat := 0

namespace Scene

variable {ω : Type}

def worldPart : Part (Scene ω) ω where
  get scene := scene.world
  set world scene := { scene with world := world }

def resultsPart : Part (Scene ω) (List (Except Fault (List Window))) where
  get scene := scene.results
  set results scene := { scene with results := results }

def stopsPart : Part (Scene ω) Nat where
  get scene := scene.stops
  set stops scene := { scene with stops := stops }

/-- A source whose listings are told. -/
def noting (source : Source ω) : Source (Scene ω) where
  name := source.name
  list := do
    let result ← (worldPart.run source.list).attempt
    resultsPart.change fun results => result :: results
    .lift result
  setOpacity w x := worldPart.run (source.setOpacity w x)
  available scene := source.available scene.world

theorem run_list_noting {source : Source ω} {scene : Scene ω} {world : ω} {log : List Record}
    {result : Except Fault (List Window)} (h : source.list.run scene.world = ⟨result, world, log⟩) :
    (noting source).list.run scene =
      ⟨result, { scene with world := world, results := result :: scene.results }, log⟩ := by
  have hlist : (worldPart.run source.list).run scene =
      ⟨result, { scene with world := world }, log⟩ := Part.run_eq h
  rw [noting, Act.run_bind_eq (Act.run_attempt_eq hlist), Act.run_bind_eq (Part.run_change ..),
    Outcome.after_nil, Act.run_lift, Outcome.after_mk, List.append_nil]
  rfl

/-- The windows of the latest listing that did not fail. -/
def latest? (scene : Scene ω) : Option (List Window) := scene.results.findSome? Except.toOption

/-- A scene after a change of the world. -/
def moved (change : ω → ω) (scene : Scene ω) : Scene ω := { scene with world := change scene.world }

/-- Stops the monitor, which is told. -/
def stop : Act (Scene ω × Monitor) Unit := do
  (Part.first.comp stopsPart).change fun stops => stops + 1
  Part.second.run Monitor.stop

end Scene

/-! ## Listeners -/

/-- What a listener may be made of: acts in the world, which may fail and fall back on others, looks
at the monitor, and stopping it. -/
inductive Listener.IsDeed {ω : Type} : {α : Type} → Act (Scene ω × Monitor) α → Prop
  | world {α : Type} (a : Act ω α) : IsDeed ((Part.first.comp Scene.worldPart).run a)
  | look : IsDeed Part.second.read
  | stop : IsDeed Scene.stop
  | attempt {α : Type} {a : Act (Scene ω × Monitor) α} (h : IsDeed a) : IsDeed a.attempt
  | bind {α β : Type} {a : Act (Scene ω × Monitor) α} {f : α → Act (Scene ω × Monitor) β}
    (ha : IsDeed a) (hf : ∀ x, IsDeed (f x)) : IsDeed (a >>= f)

/-- A listener that may stop the monitor. -/
structure Listener (ω : Type) where
  act : Window → Act (Scene ω × Monitor) Window
  isDeed : ∀ w, Listener.IsDeed (act w)
  id_act : ∀ w s w', ((act w).run s).result = .ok w' → w'.id = w.id

namespace Listener

variable {ω : Type}

/-- What a listener leaves of the monitor, and of what is told of it: everything but the flag, which
is cleared exactly if the listener stopped the monitor. -/
structure Heeds (s s' : Scene ω × Monitor) : Prop where
  results : s'.1.results = s.1.results
  stops_le : s.1.stops ≤ s'.1.stops
  interval : s'.2.interval = s.2.interval
  known : s'.2.known = s.2.known
  waits : s'.2.waits = s.2.waits
  running_iff : s'.2.running = true ↔ s.2.running = true ∧ s'.1.stops = s.1.stops

namespace Heeds

/-- What concerns the world alone is of no concern to the monitor. -/
theorem of_world {s s' : Scene ω × Monitor} (hresults : s'.1.results = s.1.results)
    (hstops : s'.1.stops = s.1.stops) (hmonitor : s'.2 = s.2) : Heeds s s' := by
  refine ⟨hresults, Nat.le_of_eq hstops.symm, ?_, ?_, ?_, ?_⟩
  · rw [hmonitor]
  · rw [hmonitor]
  · rw [hmonitor]
  · rw [hmonitor, and_iff_left hstops]

theorem refl (s : Scene ω × Monitor) : Heeds s s := of_world rfl rfl rfl

theorem trans ⦃s t u : Scene ω × Monitor⦄ (h : Heeds s t) (h' : Heeds t u) : Heeds s u where
  results := h'.results.trans h.results
  stops_le := Nat.le_trans h.stops_le h'.stops_le
  interval := h'.interval.trans h.interval
  known := h'.known.trans h.known
  waits := h'.waits.trans h.waits
  running_iff := by
    have hle := h.stops_le
    have hle' := h'.stops_le
    rw [h'.running_iff, h.running_iff, and_assoc]
    refine and_congr_right fun _ => ?_
    omega

end Heeds

theorem keeps_stop : (Scene.stop : Act (Scene ω × Monitor) Unit).Keeps Heeds := by
  intro s
  have hstop : (Scene.stop.run s).state =
      ({ s.1 with stops := s.1.stops + 1 }, (Monitor.stop.run s.2).state) := rfl
  rw [hstop, Monitor.stop, Act.run_change]
  -- The flag is down afterwards in any case, and one more stop is told.
  by_cases hrunning : s.2.running = true
  · rw [if_pos hrunning]
    exact ⟨rfl, Nat.le_succ _, rfl, rfl, rfl, by simp⟩
  · rw [if_neg hrunning]
    exact ⟨rfl, Nat.le_succ _, rfl, rfl, rfl, by simp [hrunning]⟩

/-- Whatever a listener does heeds the monitor. -/
theorem IsDeed.keeps {α : Type} {a : Act (Scene ω × Monitor) α} (h : IsDeed a) :
    a.Keeps Heeds := by
  induction h with
  | world a => exact fun s => .of_world rfl rfl rfl
  | look => exact Heeds.refl
  | stop => exact keeps_stop
  | attempt _ ih => exact ih.attempt
  | bind _ _ iha ihf => exact iha.bind Heeds.trans ihf

/-- A listener as far as its calls are concerned. -/
def callback (l : Listener ω) : Callback (Scene ω) where
  act := l.act
  known_act w s := ((l.isDeed w).keeps s).known
  id_act := l.id_act

/-- A listener that fails. -/
def failing (text : String) : Listener ω where
  act _ := .fail (.broken text)
  isDeed _ := .world (.fail (.broken text))
  id_act _ _ _ h := nomatch h

/-- A listener that stops the monitor when it is told of a certain window. -/
def stoppingAt (id : String) : Listener ω where
  act w := if w.id = id then do Scene.stop; return w else return w
  isDeed w := by
    split
    · exact IsDeed.stop.bind fun _ => .world (pure w)
    · exact .world (pure w)
  id_act w s w' h := by
    split at h
    · cases h
      rfl
    · cases h
      rfl

end Listener

end Translucency
