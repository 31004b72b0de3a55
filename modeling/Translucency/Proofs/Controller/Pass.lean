import Translucency.Proofs.Controller.Deciding
import Translucency.Proofs.Settings.Validity

/-!
# A pass over all windows

At the start the controller goes over the windows that are there. Setting an opacity may fail, for
any window and for any reason, and the pass is to go on with the next one as if nothing had
happened. To say what is asked of the source, its calls are noted on a bench (`Bench.noting`), each
with whether it succeeded. What the source does to the world, and which calls fail, is up to it.

What becomes of one window is its treatment: no call, a call that failed, or one that succeeded
(`Treatment`). One step of the pass treats one window (`Bench.run_applyTo`), and the pass treats all
of them in order (`Bench.run_applyToEach`). Everything else is read off the treatments: the windows
that are given back, the calls, and the number in the last record.

A second pass finds the exclusion list in the cache, or does not look for it, as the first one did
(`Exclusion.Cache.afterWindows_again`). So it makes the same calls and compiles nothing.
-/

namespace Translucency

open Exclusion

/-! ## Windows -/

/-- Whether the names of a window are texts, or absent. -/
def Window.IsNamed (w : Window) : Prop :=
  ∀ name ∈ [w.resourceClass, w.resourceName, w.caption], name = .null ∨ ∃ s, name = .text s

theorem Window.IsNamed.exists_identity {w : Window} (h : w.IsNamed) :
    ∃ identity, w.identity = .ok identity := by
  unfold Window.identity
  split
  · exact ⟨_, rfl⟩
  · exact ⟨_, rfl⟩
  · next name hnot hfind =>
    -- The name that was found is true, so it is there, and then it is a text.
    obtain rfl | ⟨s, rfl⟩ := h _ (List.mem_of_find?_eq_some hfind)
    · exact absurd (List.find?_some hfind) (by decide)
    · exact absurd rfl (hnot s)

/-- Whether two windows differ in the opacity that they show, if at all. -/
def Window.AgreesWith (w w' : Window) : Prop := { w with opacity := w'.opacity } = w'

/-- The opacity that a window shows does not matter for what is done with it. -/
theorem Window.AgreesWith.eqs {w w' : Window} (h : w.AgreesWith w') :
    w'.id = w.id ∧ w'.asksList = w.asksList ∧
      ∀ settings, Reference.wants settings w' = Reference.wants settings w := by
  rw [← h]
  exact ⟨rfl, rfl, fun _ => rfl⟩

theorem Window.IsNamed.of_agrees {windows windows' : List Window}
    (h : List.Forall₂ Window.AgreesWith windows windows') (hnamed : ∀ w ∈ windows, w.IsNamed) :
    ∀ w ∈ windows', w.IsNamed := by
  induction h with
  | nil => exact nofun
  | cons hw _ ih =>
    rw [List.forall_mem_cons] at hnamed ⊢
    refine ⟨?_, ih hnamed.2⟩
    rw [← hw]
    exact hnamed.1

/-! ## The cache -/

namespace Exclusion.Cache

/-- The cache after decisions on windows, one after the other. -/
def afterWindows (cache : Cache) (settings : Settings) (windows : List Window) : Cache :=
  windows.foldl (fun cache w => cache.afterWindow settings w) cache

variable {cache : Cache} {settings : Settings}

/-- The list is looked up if it is asked about one of the windows; once it was, it is found. -/
theorem afterWindows_eq (cache : Cache) (settings : Settings) (windows : List Window) :
    cache.afterWindows settings windows =
      if windows.any Window.asksList then cache.after (some settings.exclusions) else cache := by
  unfold afterWindows
  induction windows generalizing cache with
  | nil => rfl
  | cons w rest ih =>
    rw [List.foldl_cons, ih, afterWindow, List.any_cons]
    cases w.asksList <;> cases rest.any Window.asksList <;> simp

/-- Windows that were decided on before leave the cache as it is. -/
theorem afterWindows_again {windows windows' : List Window}
    (h : List.Forall₂ Window.AgreesWith windows windows') :
    (cache.afterWindows settings windows).afterWindows settings windows' =
      cache.afterWindows settings windows := by
  have hany : windows'.any Window.asksList = windows.any Window.asksList := by
    induction h with
    | nil => rfl
    | cons hw _ ih => rw [List.any_cons, List.any_cons, ih, hw.eqs.2.1]
  rw [afterWindows_eq, afterWindows_eq, hany]
  cases windows.any Window.asksList <;> simp

theorem IsSound.afterWindows (h : cache.IsSound) (settings : Settings) (windows : List Window) :
    (cache.afterWindows settings windows).IsSound := by
  rw [afterWindows_eq]
  split
  · exact h.after _
  · exact h

end Exclusion.Cache

/-! ## The bench -/

/-- A call to set an opacity, and whether it succeeded. -/
structure OpacityCall where
  window : Window
  opacity : Binary64
  succeeded : Bool

/-- A controller with the world around it, and the calls that it made. -/
structure Bench (ω : Type) where
  loader : Loader
  /-- The settings file as it stands. -/
  settingsFile : File
  cache : Cache := {}
  monitor : Monitor := {}
  world : ω
  calls : List OpacityCall := []

namespace Bench

variable {ω : Type}

def worldPart : Part (Bench ω) ω where
  get b := b.world
  set world b := { b with world := world }

def callsPart : Part (Bench ω) (List OpacityCall) where
  get b := b.calls
  set calls b := { b with calls := calls }

/-- Sets an opacity in the world and notes the call. -/
def noting (setOpacity : Window → Binary64 → Act ω Unit) (w : Window) (x : Binary64) :
    Act (Bench ω) Unit := do
  let answer ← (worldPart.run (setOpacity w x)).attempt
  callsPart.change fun calls => calls ++ [⟨w, x, answer.isOk⟩]
  .lift answer

/-- A controller on the bench, with any source. -/
def controller (source : Source ω) : Controller (Bench ω) where
  loader := { get := fun b => b.loader, set := fun l b => { b with loader := l } }
  settingsFile b := b.settingsFile
  cache := { get := fun b => b.cache, set := fun c b => { b with cache := c } }
  monitor := { get := fun b => b.monitor, set := fun m b => { b with monitor := m } }
  source :=
    { name := source.name
      list := worldPart.run source.list
      setOpacity := noting source.setOpacity
      available := fun b => source.available b.world }

/-- Whether settings are loaded and their file stands as it was, and the cache keeps what it should. -/
structure IsReady (b : Bench ω) : Prop where
  reads : b.loader.verdict b.settingsFile = .ok ()
  look_eq : b.loader.look b.settingsFile = b.loader
  valid : b.loader.settings.IsValid
  sound : b.cache.IsSound

/-- Settings that were loaded from a file are ready as long as nobody changes the file. -/
theorem isReady_of_fresh (loader : Loader) {file : File} {settings : Settings} {cache : Cache}
    {monitor : Monitor} {world : ω} {calls : List OpacityCall}
    (hfresh : Loader.fresh loader.path loader.format file = .ok settings)
    (hsound : cache.IsSound) :
    IsReady ⟨{ loader with settings := settings, loaded := file.changed? }, file, cache, monitor,
      world, calls⟩ := by
  have hstale : ¬ Loader.IsStale { loader with settings := settings, loaded := file.changed? }
      file := fun h => h.2 rfl
  obtain ⟨entries, -, hentries⟩ := bind_eq_ok_iff.1 hfresh
  refine ⟨?_, ?_, Settings.isValid_of_ofEntries (Settings.ofEntries_of_accepted hentries),
    hsound⟩
  · exact if_neg hstale
  · exact if_neg hstale

theorem IsReady.finds {b : Bench ω} (h : b.IsReady) (source : Source ω) :
    (controller source).Finds b.loader.settings b := by
  obtain ⟨log, hreload, -⟩ := Loader.run_reload b.settingsFile b.loader
  have hcurrent := Loader.run_current hreload
  rw [h.reads, h.look_eq] at hcurrent
  refine ⟨log, fun cache => ?_⟩
  rw [Controller.settings, Act.run_bind_eq (Act.run_read _), Outcome.after_nil]
  exact Part.run_eq hcurrent

theorem run_noting (setOpacity : Window → Binary64 → Act ω Unit) (w : Window) (x : Binary64)
    (b : Bench ω) :
    ∃ answer world log, (noting setOpacity w x).run b =
      ⟨answer, { b with world := world, calls := b.calls ++ [⟨w, x, answer.isOk⟩] }, log⟩ := by
  let o := (setOpacity w x).run b.world
  have hcall : (worldPart.run (setOpacity w x)).attempt.run b =
      ⟨.ok o.result, { b with world := o.state }, o.log⟩ := rfl
  refine ⟨o.result, o.state, ?_⟩
  rw [noting, Act.run_bind_eq hcall, Act.run_bind_eq (callsPart.run_change _ _)]
  exact ⟨_, rfl⟩

end Bench

/-! ## Treatments -/

/-- What became of a window: whether the call for it succeeded, if there was one. -/
structure Treatment where
  window : Window
  succeeded? : Option Bool

namespace Treatment

/-- Whether the window got its opacity. -/
def applied (t : Treatment) : Bool := t.succeeded? == some true

/-- The window as it is given back. -/
def result (x : Binary64) (t : Treatment) : Window :=
  if t.applied then { t.window with opacity := .float x } else t.window

@[simp] theorem id_result (x : Binary64) (t : Treatment) : (t.result x).id = t.window.id := by
  unfold result
  split <;> rfl

/-- The call that was made. -/
def call? (x : Binary64) (t : Treatment) : Option OpacityCall :=
  t.succeeded?.map fun succeeded => ⟨t.window, x, succeeded⟩

/-- Whether a call was made exactly if the window is to get an opacity. -/
def Fits (settings : Settings) (t : Treatment) : Prop :=
  t.succeeded?.isSome = Reference.wants settings t.window

end Treatment

namespace Bench

variable {ω : Type} {source : Source ω} {b : Bench ω}

/-- **One step of the pass.** A window is treated as the settings say, and whether that went well or
not, nothing else happens. -/
theorem run_applyTo (h : b.IsReady) {w : Window} (hnamed : w.IsNamed) :
    let x := Opacity.fraction b.loader.settings.opacity
    ∃ (t : Treatment) (world : ω) (log : List Record),
      t.window = w ∧ t.Fits b.loader.settings ∧
      ((controller source).applyTo w).run b =
        ⟨.ok (t.result x, if t.applied then some x else none),
          { b with
            cache := b.cache.afterWindow b.loader.settings w
            world := world
            calls := b.calls ++ (t.call? x).toList }, log⟩ := by
  intro x
  obtain ⟨identity, hidentity⟩ := hnamed.exists_identity
  obtain ⟨_, hread⟩ := (h.finds source).run_settings
  let decided : Bench ω := { b with cache := b.cache.afterWindow b.loader.settings w }
  cases hwants : Reference.wants b.loader.settings w with
  | false =>
    obtain ⟨log, hrun⟩ := (h.finds source).run_applyTo_of_not_wants hread h.sound h.valid.opacity
      hidentity hwants
    refine ⟨⟨w, none⟩, b.world, log, rfl, hwants.symm, ?_⟩
    rw [hrun]
    simp [Treatment.result, Treatment.applied, Treatment.call?]
    rfl
  | true =>
    obtain ⟨answer, world, _, hset⟩ := run_noting source.setOpacity w x decided
    obtain ⟨log, hrun⟩ := (h.finds source).run_applyTo_of_wants hread h.sound h.valid.opacity
      hidentity hwants hset
    refine ⟨⟨w, some answer.isOk⟩, world, log, rfl, hwants.symm, ?_⟩
    rw [hrun]
    cases answer with
    | ok _ => rfl
    | error fault => rfl

/-- The settings and their file are out of reach of a pass, so the cache is all that matters. -/
theorem IsReady.keep (h : b.IsReady) {b' : Bench ω} (hloader : b'.loader = b.loader)
    (hfile : b'.settingsFile = b.settingsFile) (hsound : b'.cache.IsSound) : b'.IsReady := by
  refine ⟨?_, ?_, ?_, hsound⟩
  · rw [hloader, hfile]
    exact h.reads
  · rw [hloader, hfile]
    exact h.look_eq
  · rw [hloader]
    exact h.valid

/-- **The pass treats each window, in order.** -/
theorem run_applyToEach {windows : List Window} (h : b.IsReady)
    (hnamed : ∀ w ∈ windows, w.IsNamed) :
    let x := Opacity.fraction b.loader.settings.opacity
    ∃ (treated : List Treatment) (world : ω) (log : List Record),
      treated.map (·.window) = windows ∧ (∀ t ∈ treated, t.Fits b.loader.settings) ∧
      ((controller source).applyToEach windows).run b =
        ⟨.ok (treated.map (·.result x), treated.countP (·.applied)),
          { b with
            cache := b.cache.afterWindows b.loader.settings windows
            world := world
            calls := b.calls ++ treated.filterMap (·.call? x) }, log⟩ := by
  intro x
  induction windows generalizing b with
  | nil => exact ⟨[], b.world, [], rfl, nofun, by
    simp [Cache.afterWindows, Controller.applyToEach]⟩
  | cons w rest ih =>
    obtain ⟨hw, hrest⟩ := List.forall_mem_cons.1 hnamed
    obtain ⟨t, world, first, rfl, hfits, hfirst⟩ := run_applyTo h hw
    obtain ⟨treated, world', second, hwindows, hall, hrun⟩ :=
      ih (b := { b with
          cache := b.cache.afterWindow b.loader.settings t.window
          world := world
          calls := b.calls ++ (t.call? x).toList })
        (h.keep rfl rfl (h.sound.afterWindow _ t.window)) hrest
    have hcount : (treated.countP (·.applied) +
        if (if t.applied then some x else none).isSome then 1 else 0) =
          (t :: treated).countP (·.applied) := by
      rw [List.countP_cons]
      cases t.applied <;> rfl
    have hcalls : b.calls ++ (t.call? x).toList ++ treated.filterMap (·.call? x) =
        b.calls ++ (t :: treated).filterMap (·.call? x) := by
      rw [List.append_assoc, List.filterMap_cons]
      cases t.call? x <;> rfl
    rw [Controller.applyToEach, Act.run_bind_eq hfirst]
    simp only
    rw [Act.run_bind_eq hrun]
    refine ⟨t :: treated, world', first ++ (second ++ []), by rw [List.map_cons, hwindows],
      List.forall_mem_cons.2 ⟨hfits, hall⟩, ?_⟩
    rw [← hcount, ← hcalls]
    rfl

/-! ## The calls of a pass -/

/-- A window that is to get an opacity gets one call, and the others get none. -/
theorem map_calls {settings : Settings} {x : Binary64} {treated : List Treatment}
    (h : ∀ t ∈ treated, t.Fits settings) :
    (treated.filterMap (·.call? x)).map (fun call => (call.window, call.opacity)) =
      ((treated.map (·.window)).filter (Reference.wants settings)).map (·, x) := by
  induction treated with
  | nil => rfl
  | cons t rest ih =>
    obtain ⟨hfits, hrest⟩ := List.forall_mem_cons.1 h
    obtain ⟨w, succeeded?⟩ := t
    rw [List.map_cons]
    cases succeeded? with
    | none =>
      have hwants : Reference.wants settings w = false := hfits.symm
      have hnone : Treatment.call? x ⟨w, none⟩ = none := rfl
      simp only [List.filterMap_cons, hnone]
      rw [List.filter_cons_of_neg (by simp [hwants]), ih hrest]
    | some succeeded =>
      have hwants : Reference.wants settings w = true := hfits.symm
      have hcall : Treatment.call? x ⟨w, some succeeded⟩ = some ⟨w, x, succeeded⟩ := rfl
      simp only [List.filterMap_cons, hcall]
      rw [List.filter_cons_of_pos hwants, List.map_cons, List.map_cons, ih hrest]

/-- The windows that got their opacity are those whose calls succeeded. -/
theorem countP_applied (x : Binary64) (treated : List Treatment) :
    treated.countP (·.applied) = (treated.filterMap (·.call? x)).countP (·.succeeded) := by
  rw [List.countP_filterMap]
  refine List.countP_congr fun t _ => ?_
  obtain ⟨w, succeeded?⟩ := t
  cases succeeded? with
  | none => simp [Treatment.applied, Treatment.call?]
  | some succeeded => simp [Treatment.applied, Treatment.call?]

/-- Windows that show other opacities get the same calls. -/
theorem map_wanted_of_agrees {windows windows' : List Window}
    (h : List.Forall₂ Window.AgreesWith windows windows') (settings : Settings) :
    (windows'.filter (Reference.wants settings)).map (·.id) =
      (windows.filter (Reference.wants settings)).map (·.id) := by
  induction h with
  | nil => rfl
  | cons hw _ ih =>
    obtain ⟨hid, -, hwants⟩ := hw.eqs
    rw [List.filter_cons, List.filter_cons, hwants settings]
    split
    · rw [List.map_cons, List.map_cons, hid, ih]
    · exact ih

/-! ## The whole pass -/

/-- The last record of a pass. -/
def summary (count total : Nat) : Record :=
  ⟨.info, .controller,
    "Applied opacity to " ++ toString count ++ " of " ++ toString total ++ " windows", none⟩

/-- The ids of the windows in calls, and the opacities. -/
def requests (calls : List OpacityCall) : List (String × Binary64) :=
  calls.map fun call => (call.window.id, call.opacity)

theorem requests_calls {settings : Settings} {x : Binary64} {treated : List Treatment}
    (h : ∀ t ∈ treated, t.Fits settings) :
    requests (treated.filterMap (·.call? x)) =
      (((treated.map (·.window)).filter (Reference.wants settings)).map (·.id)).map (·, x) := by
  have hcalls := congrArg (List.map fun call : Window × Binary64 => (call.1.id, call.2))
    (map_calls (x := x) h)
  rw [List.map_map, List.map_map] at hcalls
  rw [requests, List.map_map]
  exact hcalls

theorem run_applyToAll (h : b.IsReady) {windows : List Window} {world : ω} {listing : List Record}
    (hlist : source.list.run b.world = ⟨.ok windows, world, listing⟩)
    (hnamed : ∀ w ∈ windows, w.IsNamed) :
    let x := Opacity.fraction b.loader.settings.opacity
    ∃ (treated : List Treatment) (world : ω) (log : List Record),
      treated.map (·.window) = windows ∧ (∀ t ∈ treated, t.Fits b.loader.settings) ∧
      (controller source).applyToAll.run b =
        ⟨.ok (treated.map (·.result x)),
          { b with
            cache := b.cache.afterWindows b.loader.settings windows
            monitor := { b.monitor with known := Monitor.learn b.monitor.known windows }
            world := world
            calls := b.calls ++ treated.filterMap (·.call? x) },
          log ++ [summary (treated.countP (·.applied)) windows.length]⟩ := by
  intro x
  have hlisting : (controller source).source.list.run b =
      ⟨.ok windows, { b with world := world }, listing⟩ := Part.run_eq hlist
  have hready : IsReady { b with world := world } := h.keep rfl rfl h.sound
  obtain ⟨treated, world', log, hwindows, hfits, hrun⟩ := run_applyToEach hready hnamed
  refine ⟨treated, world', listing ++ log, hwindows, hfits, ?_⟩
  have hids : (treated.map (·.result x)).map (·.id) = windows.map (·.id) := by
    rw [← hwindows, List.map_map, List.map_map]
    exact List.map_congr_left fun t _ => t.id_result x
  have hlength : (treated.map (·.result x)).length = windows.length := by
    rw [← hwindows, List.length_map, List.length_map]
  have hlearn : Monitor.learn b.monitor.known (treated.map (·.result x)) =
      Monitor.learn b.monitor.known windows := by
    rw [Monitor.learn, hids, Monitor.learn]
  have hmark : ∀ b' : Bench ω, ((controller source).monitor.run
      (Monitor.mark (treated.map (·.result x)))).run b' =
        ⟨.ok (), { b' with monitor := { b'.monitor with
          known := Monitor.learn b'.monitor.known (treated.map (·.result x)) } }, []⟩ :=
    fun _ => rfl
  rw [Controller.applyToAll, Act.run_bind_eq hlisting, Act.run_bind_eq hrun]
  simp only
  rw [Act.run_bind_eq (Act.run_log ..), Act.run_bind_eq (hmark _), hlearn, hlength]
  simp only [Act.run_pure, Outcome.after_mk, List.append_assoc, List.append_nil]
  rfl

/-- **A pass isolates failures, and can be repeated.** Whatever the source does with the calls, the
pass gives back all the windows of the listing. It makes one call for each window that is to get an
opacity, in order and with the opacity of the settings, and no others. That opacity is a hundredth of
the configured percentage, which is limited to what is allowed, and so between 0.30 and 1. A window shows the opacity
exactly if its call succeeded, every window is known afterwards besides those that were, and the
last record counts the calls that succeeded. A second pass over the same windows, whatever opacity
they show then, makes the same calls and compiles no list. -/
theorem applyToAll_isolates_failures (source : Source ω) {b : Bench ω} (h : b.IsReady)
    {windows : List Window} {world : ω} {listing : List Record}
    (hlist : source.list.run b.world = ⟨.ok windows, world, listing⟩)
    (hnamed : ∀ w ∈ windows, w.IsNamed) :
    let settings := b.loader.settings
    let x := Opacity.fraction settings.opacity
    let pass := (controller source).applyToAll.run b
    ∃ (treated : List Treatment) (log : List Record),
      let made := treated.filterMap (·.call? x)
      (∃ (p : Binary64) (size : Int), Opacity.Stands settings.opacity.value size ∧
        p.hasSize size = true ∧ x = p.divNat 100 ∧ Opacity.InRange x) ∧
      treated.map (·.window) = windows ∧
      pass.result = .ok (treated.map fun t =>
        if t.succeeded? = some true then { t.window with opacity := .float x } else t.window) ∧
      pass.state.calls = b.calls ++ made ∧
      made.map (fun call => (call.window, call.opacity)) =
        (windows.filter (Reference.wants settings)).map (·, x) ∧
      (∀ id, id ∈ pass.state.monitor.known ↔ id ∈ b.monitor.known ∨ ∃ w ∈ windows, w.id = id) ∧
      pass.log = log ++ [summary (made.countP (·.succeeded)) windows.length] ∧
      ∀ windows' world' listing',
        source.list.run pass.state.world = ⟨.ok windows', world', listing'⟩ →
        List.Forall₂ Window.AgreesWith windows windows' →
        let again := (controller source).applyToAll.run pass.state
        (∃ shown, again.result = .ok shown) ∧
          (∃ made', again.state.calls = pass.state.calls ++ made' ∧
            requests made' = requests made) ∧
          again.state.cache.compiles = pass.state.cache.compiles := by
  intro settings x pass
  obtain ⟨treated, world', log, hwindows, hfits, hrun⟩ := run_applyToAll h hlist hnamed
  have hpass : pass = _ := hrun
  have hcalls := map_calls (x := x) hfits
  rw [hwindows] at hcalls
  have hopacity := Opacity.exists_fraction_eq h.valid.opacity
  refine ⟨treated, log, hopacity, hwindows, ?_, ?_, hcalls, fun id => ?_, ?_, ?_⟩
  · rw [hpass]
    refine congrArg Except.ok (List.map_congr_left fun t _ => ?_)
    simp [Treatment.result, Treatment.applied, x, settings]
  · rw [hpass]
  · rw [hpass]
    exact Monitor.mem_learn
  · rw [hpass, ← countP_applied]
  · -- The second pass starts where the first one ended, and nothing that it reads is different.
    intro windows' world'' listing' hlist' hagrees again
    have hready : pass.state.IsReady := by
      rw [hpass]
      exact h.keep rfl rfl (h.sound.afterWindows _ _)
    have hloader : pass.state.loader = b.loader := by rw [hpass]
    have hcache : pass.state.cache = b.cache.afterWindows settings windows := by rw [hpass]
    obtain ⟨treated', _, log', hwindows', hfits', hrun'⟩ :=
      run_applyToAll hready hlist' (Window.IsNamed.of_agrees hagrees hnamed)
    rw [hloader] at hfits' hrun'
    have hagain : again = _ := hrun'
    refine ⟨⟨_, by rw [hagain]⟩, ⟨treated'.filterMap (·.call? x), by rw [hagain], ?_⟩, ?_⟩
    · rw [requests_calls hfits', requests_calls hfits, hwindows, hwindows',
        map_wanted_of_agrees hagrees]
    · rw [hagain]
      show (pass.state.cache.afterWindows settings windows').compiles = _
      rw [hcache, Exclusion.Cache.afterWindows_again hagrees]

/-- Of four windows one is excluded by the settings file and one fills the screen. The first call
fails, and the other window gets its call all the same. -/
theorem applyToAll_isolates_failures_of_one_failure :
    let windows : List Window := [
      { id := "1", resourceClass := .text "kate" }, { id := "2", resourceClass := .text "Konsole" },
      { id := "3", isFullScreen := true }, { id := "4", caption := .text "notes" }]
    let source : Source Nat := {
      name := "some"
      list := return windows
      setOpacity := fun w _ => if w.id = "2" then .fail (.broken "gone") else .change (· + 1)
      available := fun _ => true }
    let file := File.ofText 5 "[Script-windowopacity]\nexcludedWindows=[Kate]\n"
    let loader : Loader := {
      path := "kwinrc", format := .ini "windowopacity", settings := { exclusions := "[Kate]" }
      loaded := file.changed? }
    let b : Bench Nat := { loader := loader, settingsFile := file, world := 0 }
    Loader.fresh loader.path loader.format file = .ok loader.settings ∧ b.IsReady ∧
      source.list.run b.world = ⟨.ok windows, 0, []⟩ ∧ (∀ w ∈ windows, w.IsNamed) ∧
      ((controller source).applyToAll.run b).state.calls.map (fun call => call.window.id) =
        ["2", "4"] := by
  intro windows source file loader b
  have hfresh : Loader.fresh loader.path loader.format file = .ok loader.settings :=
    eq_ok_of_toOption (by decide +kernel)
  have hready : b.IsReady := isReady_of_fresh loader hfresh Cache.isSound_empty
  have hlist : source.list.run b.world = ⟨.ok windows, 0, []⟩ := rfl
  have hnamed : ∀ w ∈ windows, w.IsNamed := by
    simp [windows, Window.IsNamed]
  refine ⟨hfresh, hready, hlist, hnamed, ?_⟩
  obtain ⟨treated, log, -, -, -, hcalls, hmade, -⟩ :=
    applyToAll_isolates_failures source hready hlist hnamed
  have hids := congrArg (List.map fun call : Window × Binary64 => call.1.id) hmade
  rw [List.map_map, List.map_map] at hids
  have hwanted : (windows.filter (Reference.wants b.loader.settings)).map (·.id) = ["2", "4"] := by
    decide +kernel
  rw [hcalls]
  exact hids.trans hwanted

end Bench

end Translucency
