import Translucency.Proofs.Controller.Window

/-!
# The controller follows the reference

The machine and the reference agree on what the task is about, the settings and the opacities, and
they hold different things beside that: the machine a time, a cache and the identifiers that its
monitor knows, the reference the file that the settings came from and the windows of the last
listing. `Machine.Follows` ties these together. A look at the settings file keeps them tied
(`Follows.look`): either the times differ and both read the file, or they agree, and then the file
is the one that both have read already.

From there it is one lemma for each operation, from a single window up to a listing, and
`Machine.follows_reference` for a run: whatever is written to the files and however many listings
fail, the opacities are at every moment those of the reference.
-/

namespace Translucency

namespace Machine

open Reference

/-- Whether a machine is where the reference is. -/
structure Follows (m : Machine) (r : Reference) : Prop where
  files : ∀ path, m.file path = r.files path
  settingsPath : m.loader.path = r.settingsPath
  format : m.loader.format = r.format
  windowsPath : m.simulation.path = r.windowsPath
  settings : m.loader.settings = r.settings
  /-- The remembered time is that of the file that the settings came from. -/
  loaded : m.loader.loaded = r.origin.changed?
  fresh : Loader.fresh r.settingsPath r.format r.origin = .ok r.settings
  sound : m.cache.IsSound
  known : ∀ id, id ∈ m.monitor.known ↔ id ∈ r.present
  opacities : ∀ id, m.simulation.opacity? id = r.opacities id

/-! ## Looking -/

theorem Follows.settingsFile {m : Machine} {r : Reference} (h : m.Follows r) :
    m.settingsFile = r.settingsFile := by
  rw [Machine.settingsFile, Reference.settingsFile, h.settingsPath, h.files]

/-- A look at the settings file succeeds, and amounts to reading it. -/
theorem Follows.look {m : Machine} {r : Reference} (h : m.Follows r) (hadmits : r.Admits) :
    m.Reads ∧ m.look.Follows r.load := by
  have hsame : Loader.fresh m.loader.path m.loader.format r.settingsFile =
      Loader.fresh r.settingsPath r.format r.settingsFile := by
    rw [h.settingsPath, h.format]
  unfold Reads Machine.look Loader.verdict Loader.look Reference.load
  rw [h.settingsFile, hsame]
  by_cases hstale : m.loader.IsStale r.settingsFile
  · rw [if_pos hstale, if_pos hstale]
    cases hfresh : Loader.fresh r.settingsPath r.format r.settingsFile with
    | ok settings =>
      exact ⟨rfl, ⟨h.files, h.settingsPath, h.format, h.windowsPath, rfl, rfl, hfresh, h.sound,
        h.known, h.opacities⟩⟩
    | error fault =>
      have hrefusal := hadmits.refused fault hfresh
      exact ⟨if_pos hrefusal, h⟩
  · rw [if_neg hstale, if_neg hstale]
    refine ⟨rfl, ?_⟩
    cases hfresh : Loader.fresh r.settingsPath r.format r.settingsFile with
    | error fault => exact h
    | ok settings =>
      -- The file is there, as it gives settings; not being stale it has the time of the origin.
      have hthere : r.settingsFile.changed? ≠ none := by
        intro hnone
        cases hcase : r.settingsFile with
        | absent =>
          rw [hcase] at hfresh
          cases hformat : r.format <;> rw [hformat] at hfresh <;> cases hfresh
        | directory changed => rw [hcase] at hnone; cases hnone
        | file changed content => rw [hcase] at hnone; cases hnone
      have htime : r.settingsFile.changed? = r.origin.changed? := by
        rw [← h.loaded]
        by_contra hne
        exact hstale ⟨hthere, fun heq => hne heq.symm⟩
      have horigin := hadmits.unchanged hthere htime
      have hsettings : settings = r.settings := by
        rw [horigin, h.fresh] at hfresh
        cases hfresh
        rfl
      subst hsettings
      exact ⟨h.files, h.settingsPath, h.format, h.windowsPath, h.settings, horigin ▸ h.loaded,
        hfresh, h.sound, h.known, h.opacities⟩

/-! ## Windows -/

/-- Giving one window its opacity. -/
theorem Follows.run_applyTo {m : Machine} {r : Reference} (h : m.Follows r) (hadmits : r.Admits)
    {w : Window} (hidentity : ∃ identity, w.identity = .ok identity) :
    ∃ result m' log, ((controller true).applyTo w).run m = ⟨.ok result, m', log⟩ ∧
      result.1.id = w.id ∧ m'.Follows (r.give w) := by
  obtain ⟨identity, hidentity⟩ := hidentity
  obtain ⟨hreads, hlook⟩ := h.look hadmits
  have hfinite : m.look.loader.settings.opacity.IsFinite := by
    rw [hlook.settings]
    exact Loader.isFinite_of_fresh hlook.fresh
  obtain ⟨result, cache, opacities, log, hid, hcache, hopacities, hrun⟩ :=
    Machine.run_applyTo hreads h.sound hfinite hidentity
  refine ⟨result, _, log, hrun, hid, ?_⟩
  refine ⟨hlook.files, hlook.settingsPath, hlook.format, hlook.windowsPath, hlook.settings,
    hlook.loaded, hlook.fresh, hcache, hlook.known, fun id => ?_⟩
  have hbefore : m.simulation.opacity? = r.opacities := funext h.opacities
  show opacities.lookup id = paint r.load.settings w r.opacities id
  rw [hopacities, hlook.settings, hbefore]

/-- Giving windows their opacities, in order. -/
theorem Follows.run_applyToEach (windows : List Window) {m : Machine} {r : Reference}
    (h : m.Follows r) (hadmits : r.Admits)
    (hidentity : ∀ w ∈ windows, ∃ identity, w.identity = .ok identity) :
    ∃ result m' log, ((controller true).applyToEach windows).run m = ⟨.ok result, m', log⟩ ∧
      result.1.map (·.id) = windows.map (·.id) ∧ m'.Follows (windows.foldl give r) := by
  induction windows generalizing m r with
  | nil => exact ⟨([], 0), m, _, rfl, rfl, h⟩
  | cons w rest ih =>
    obtain ⟨⟨shown, applied⟩, m', log, hrun, hid, hfollows⟩ :=
      h.run_applyTo hadmits (hidentity w (List.mem_cons_self ..))
    obtain ⟨⟨others, count⟩, m'', log', hrest, hids, hdone⟩ :=
      ih hfollows (hadmits.give w) fun w' hw' => hidentity w' (List.mem_cons_of_mem w hw')
    rw [Controller.applyToEach, Act.run_bind_eq hrun, Act.run_bind_eq hrest]
    refine ⟨_, m'', _, rfl, ?_, hdone⟩
    rw [List.map_cons, List.map_cons, hids, hid]

/-- Handling a window that has appeared. The settings are read once more if new windows are to be
named in the log, which makes no difference. -/
theorem Follows.run_appeared {m : Machine} {r : Reference} (h : m.Follows r) (hadmits : r.Admits)
    {w : Window} (hidentity : ∃ identity, w.identity = .ok identity) :
    ∃ result m' log, ((controller true).appeared w).run m = ⟨.ok result, m', log⟩ ∧
      m'.Follows (r.give w) := by
  obtain ⟨hreads, hlook⟩ := h.look hadmits
  obtain ⟨result, m', log, hrun, -, hfollows⟩ := hlook.run_applyTo hadmits.load hidentity
  rw [give_load] at hfollows
  obtain ⟨identity, hidentity⟩ := hidentity
  rw [Controller.appeared, Act.run_bind_eq (run_settings hreads)]
  cases m.look.loader.settings.showNames with
  | false =>
    simp only [Bool.false_eq_true, if_false]
    rw [Act.run_bind_eq hrun]
    exact ⟨_, m', _, rfl, hfollows⟩
  | true =>
    simp only [if_true, hidentity]
    rw [Act.run_bind_eq (Act.run_lift _ _), Act.run_bind_eq (Act.run_log ..), Act.run_bind_eq hrun]
    exact ⟨_, m', _, rfl, hfollows⟩

/-- Announcing windows, in order. -/
theorem Follows.run_announceAll (windows : List Window) {m : Machine} {r : Reference}
    (h : m.Follows r) (hadmits : r.Admits)
    (hidentity : ∀ w ∈ windows, ∃ identity, w.identity = .ok identity) :
    ∃ result m' log, ((controller true).watch.announceAll windows).run m = ⟨.ok result, m', log⟩ ∧
      m'.Follows (windows.foldl give r) := by
  induction windows generalizing m r with
  | nil => exact ⟨_, m, _, rfl, h⟩
  | cons w rest ih =>
    obtain ⟨result, m', log, hrun, hfollows⟩ :=
      h.run_appeared hadmits (hidentity w (List.mem_cons_self ..))
    obtain ⟨result', m'', log', hrest, hdone⟩ :=
      ih hfollows (hadmits.give w) fun w' hw' => hidentity w' (List.mem_cons_of_mem w hw')
    -- A callback that returns is announced without a word in the log.
    have htell : (Watch.tell (controller true).appeared w).run m = ⟨.ok result, m', log⟩ := by
      rw [Watch.tell, Act.run_bind_eq (Act.run_attempt_eq hrun)]
      simp
    have hannounce : ((controller true).watch.announce w).run m = ⟨.ok result, m', log⟩ := by
      show (Watch.tell (controller true).appeared w >>= pure).run m = _
      rw [bind_pure, htell]
    rw [Watch.announceAll, Act.run_bind_eq hannounce, Act.run_bind_eq hrest]
    exact ⟨_, m'', _, rfl, hdone⟩

/-! ## Listings -/

/-- The monitor's part of a listing: whatever it knew, it knows the listed windows now. -/
theorem Follows.withKnown {m : Machine} {r : Reference} (h : m.Follows r) {known : List String}
    {present : List String} (hknown : ∀ id, id ∈ known ↔ id ∈ present) :
    Follows { m with monitor := { m.monitor with known := known } }
      { r with present := present } :=
  ⟨h.files, h.settingsPath, h.format, h.windowsPath, h.settings, h.loaded, h.fresh, h.sound, hknown,
    h.opacities⟩

/-- Listing shows the windows of the reference, up to what they show as their opacities, and fails
where there is nothing to be shown. -/
theorem Follows.run_list {m : Machine} {r : Reference} (h : m.Follows r) :
    (∀ windows, r.snapshot? = some windows → ∃ m' log,
      (controller true).source.list.run m =
          ⟨.ok (windows.map (Simulation.recalled m.simulation.opacities)), m', log⟩ ∧ m'.Follows r) ∧
    (r.snapshot? = none → ∃ fault m' log,
      (controller true).source.list.run m = ⟨.error fault, m', log⟩ ∧ m'.Follows r) := by
  have hfile : m.file m.simulation.path = r.files r.windowsPath := by
    rw [h.windowsPath, h.files]
  -- The source works on its part of the machine alone.
  have hrun : (controller true).source.list.run m =
      ⟨((Simulation.list (r.files r.windowsPath)).run m.simulation).result,
        { m with simulation := ((Simulation.list (r.files r.windowsPath)).run m.simulation).state },
        ((Simulation.list (r.files r.windowsPath)).run m.simulation).log⟩ := by
    rw [← hfile]
    rfl
  rw [hrun]
  refine ⟨fun windows hsome => ?_, fun hnone => ?_⟩
  · obtain ⟨health, log, hlist⟩ := Simulation.run_list_of_some hsome m.simulation
    rw [hlist]
    exact ⟨_, log, rfl, ⟨h.files, h.settingsPath, h.format, h.windowsPath, h.settings, h.loaded,
      h.fresh, h.sound, h.known, h.opacities⟩⟩
  · obtain ⟨fault, health, log, hlist⟩ := Simulation.run_list_of_none hnone m.simulation
    rw [hlist]
    exact ⟨fault, _, log, rfl, ⟨h.files, h.settingsPath, h.format, h.windowsPath, h.settings,
      h.loaded, h.fresh, h.sound, h.known, h.opacities⟩⟩

/-- What the monitor takes for new is what the last listing did not show. -/
theorem Follows.fresh_eq {m : Machine} {r : Reference} (h : m.Follows r) (windows : List Window)
    (opacities : List (String × Binary64)) :
    Monitor.fresh m.monitor.known (windows.map (Simulation.recalled opacities)) =
      (windows.filter fun w => !r.present.contains w.id).map (Simulation.recalled opacities) := by
  have hcontains : ∀ id, m.monitor.known.contains id = r.present.contains id := by
    intro id
    rw [Bool.eq_iff_iff, List.contains_iff_mem, List.contains_iff_mem]
    exact h.known id
  unfold Monitor.fresh
  rw [List.filter_map]
  congr 1
  refine List.filter_congr fun w _ => ?_
  show (!m.monitor.known.contains w.id) = _
  rw [hcontains]

/-- A listing by the monitor, where there is one to be had. -/
theorem Follows.run_poll_of_some {m : Machine} {r : Reference} (h : m.Follows r)
    (hadmits : r.Admits) {windows : List Window} (hsnapshot : r.snapshot? = some windows) :
    ∃ result m' log, (controller true).watch.poll.run m = ⟨.ok result, m', log⟩ ∧
      m'.Follows r.poll := by
  obtain ⟨m₁, log, hlist, hlisted⟩ := h.run_list.1 windows hsnapshot
  let shown := windows.map (Simulation.recalled m.simulation.opacities)
  let new := windows.filter fun w => !r.present.contains w.id
  have hknown : ∀ id, id ∈ Monitor.learn [] shown ↔ id ∈ windows.map (·.id) := by
    intro id
    simp [shown, Simulation.recalled]
  have hidentity : ∀ w ∈ new.map (Simulation.recalled m.simulation.opacities),
      ∃ identity, w.identity = .ok identity := by
    intro w hw
    have hsub : new.map (Simulation.recalled m.simulation.opacities) ⊆ shown :=
      List.map_subset _ List.filter_sublist.subset
    exact Simulation.exists_identity_of_mem_map hsnapshot _ w (hsub hw)
  obtain ⟨result, m₂, log', hannounce, hdone⟩ :=
    (hlisted.withKnown hknown).run_announceAll _ ⟨hadmits.refused, hadmits.unchanged⟩ hidentity
  -- The machine notes the listed windows before it handles the new ones, the reference after.
  rw [foldl_give_recalled, foldl_give_present] at hdone
  rw [← hlisted.fresh_eq] at hannounce
  have hpoll : r.poll = { new.foldl give r with present := windows.map (·.id) } := by
    rw [Reference.poll, hsnapshot]
  have hlist' : (controller true).watch.source.list.run m = ⟨.ok shown, m₁, log⟩ := hlist
  rw [Watch.poll, Act.run_bind_eq hlist', Act.run_bind_eq (Part.run_read _ m₁)]
  rw [Act.run_bind_eq (Part.run_change _ _ m₁)]
  refine ⟨result, m₂, _, congrArg (Outcome.after _) hannounce, ?_⟩
  rw [hpoll]
  exact hdone

/-- A listing by the monitor, where there is none to be had. -/
theorem Follows.run_poll_of_none {m : Machine} {r : Reference} (h : m.Follows r)
    (hsnapshot : r.snapshot? = none) :
    ∃ fault m' log, (controller true).watch.poll.run m = ⟨.error fault, m', log⟩ ∧
      m'.Follows r.poll := by
  obtain ⟨fault, m₁, log, hlist, hlisted⟩ := h.run_list.2 hsnapshot
  have hpoll : r.poll = r := by rw [Reference.poll, hsnapshot]
  have hlist' : (controller true).watch.source.list.run m = ⟨.error fault, m₁, log⟩ := hlist
  refine ⟨fault, m₁, log, by rw [Watch.poll, Act.run_bind_eq_of_error hlist'], ?_⟩
  rw [hpoll]
  exact hlisted

theorem known_start (monitor : Monitor) :
    (Monitor.start.run monitor).state.known = monitor.known := by
  rw [Monitor.start, Act.run_change]
  split <;> rfl

/-- The first pass, where the windows can be listed. Every window is new to it. -/
theorem Follows.run_start {m : Machine} {r : Reference} (h : m.Follows r) (hadmits : r.Admits)
    (hnew : r.present = []) (hsnapshot : r.snapshot?.isSome) :
    ∃ m' log, (controller true).start.run m = ⟨.ok (), m', log⟩ ∧ m'.Follows r.start := by
  obtain ⟨windows, hsnapshot⟩ := Option.isSome_iff_exists.1 hsnapshot
  obtain ⟨m₁, log, hlist, hlisted⟩ := h.run_list.1 windows hsnapshot
  have hidentity := Simulation.exists_identity_of_mem_map hsnapshot m.simulation.opacities
  obtain ⟨⟨shown, count⟩, m₂, log', heach, hids, hdone⟩ :=
    hlisted.run_applyToEach _ hadmits hidentity
  rw [foldl_give_recalled] at hdone
  -- The monitor knows nothing yet, so what it learns are the listed windows alone.
  have hnone : ∀ id, id ∉ m₂.monitor.known := by
    intro id hid
    have := (hdone.known id).1 hid
    rw [present_foldl_give, hnew] at this
    cases this
  have hknown : ∀ id, id ∈ Monitor.learn m₂.monitor.known shown ↔ id ∈ windows.map (·.id) := by
    intro id
    have hlearn : id ∈ Monitor.learn m₂.monitor.known shown ↔ id ∈ shown.map (·.id) := by
      simp [hnone id]
    rw [hlearn, hids, List.map_map]
    rfl
  have hall : (windows.filter fun w => !r.present.contains w.id) = windows := by
    rw [hnew]
    exact List.filter_eq_self.2 fun _ _ => rfl
  have hsame : ({ r with present := [] } : Reference) = r := by
    rw [← hnew]
  have hstart : r.start = { windows.foldl give r with present := windows.map (·.id) } := by
    rw [Reference.start, hsame, Reference.poll, hsnapshot]
    simp only [hall]
  rw [Controller.start, Controller.applyToAll, bind_assoc, Act.run_bind_eq hlist, bind_assoc,
    Act.run_bind_eq heach]
  refine ⟨_, _, rfl, ?_⟩
  rw [hstart]
  refine ⟨hdone.files, hdone.settingsPath, hdone.format, hdone.windowsPath, hdone.settings,
    hdone.loaded, hdone.fresh, hdone.sound, fun id => ?_, hdone.opacities⟩
  rw [← hknown id]
  show id ∈ (Monitor.start.run
    { m₂.monitor with known := Monitor.learn m₂.monitor.known shown }).state.known ↔ _
  rw [known_start]

/-! ## Runs -/

/-- The machine after a move of the world or of its monitor. -/
def step (m : Machine) : Move → Machine
  | .write path file => m.write path file
  | .poll => ((controller true).watch.poll.run m).state

/-- Each move keeps the machine where the reference is. -/
theorem Follows.step {m : Machine} {r : Reference} (h : m.Follows r) (move : Move)
    (hadmits : move = .poll → r.Admits) : (m.step move).Follows (r.step move) := by
  cases move with
  | write path file =>
    refine ⟨fun other => ?_, h.settingsPath, h.format, h.windowsPath, h.settings, h.loaded,
      h.fresh, h.sound, h.known, h.opacities⟩
    -- A write changes the files on both sides and nothing that the two have to share besides.
    show (m.write path file).file other = _
    rw [file_write, h.files]
    rfl
  | poll =>
    cases hsnapshot : r.snapshot? with
    | none =>
      obtain ⟨fault, m', log, hrun, hfollows⟩ := h.run_poll_of_none hsnapshot
      rw [Machine.step, hrun]
      exact hfollows
    | some windows =>
      obtain ⟨result, m', log, hrun, hfollows⟩ := h.run_poll_of_some (hadmits rfl) hsnapshot
      rw [Machine.step, hrun]
      exact hfollows

/-- So does any run of moves, at each of its moments. -/
theorem Follows.play {m : Machine} {r : Reference} (h : m.Follows r) {moves : List Move}
    (hadmits : r.AdmitsAll moves) {done : List Move} (hdone : done <+: moves) :
    (done.foldl Machine.step m).Follows (done.foldl Reference.step r) := by
  induction done generalizing m r moves with
  | nil => exact h
  | cons move rest ih =>
    obtain ⟨later, rfl⟩ := hdone
    cases move with
    | write path file =>
      exact ih (h.step _ (by simp)) hadmits (List.prefix_append rest later)
    | poll =>
      exact ih (h.step _ fun _ => hadmits.1) hadmits.2 (List.prefix_append rest later)

/-- Whether a machine is ready for its controller: its settings were loaded from a file, and neither
the cache nor the monitor has been at work. -/
structure Ready (m : Machine) (file : File) : Prop where
  loaded : ∃ l log, (Loader.load file).run l = ⟨.ok (), m.loader, log⟩
  cache : m.cache = {}
  known : m.monitor.known = []

/-- The reference at a machine whose settings came from a file. -/
def reference (m : Machine) (file : File) : Reference where
  files := m.file
  settingsPath := m.loader.path
  format := m.loader.format
  windowsPath := m.simulation.path
  settings := m.loader.settings
  origin := file
  present := []
  opacities := m.simulation.opacity?

/-- A machine that is ready is where its reference is. -/
theorem Ready.follows {m : Machine} {file : File} (h : m.Ready file) :
    m.Follows (m.reference file) := by
  obtain ⟨l, log, hload⟩ := h.loaded
  cases hfresh : Loader.fresh l.path l.format file with
  | error fault =>
    obtain ⟨log', hrun⟩ := Loader.run_load_of_error hfresh
    rw [hrun] at hload
    cases hload
  | ok settings =>
    obtain ⟨log', hrun⟩ := Loader.run_load_of_ok hfresh
    rw [hrun] at hload
    have hloader : m.loader = { l with settings := settings, loaded := file.changed? } := by
      injection hload with _ hstate _
      exact hstate.symm
    refine ⟨fun _ => rfl, rfl, rfl, rfl, rfl, ?_, ?_, ?_, fun id => ?_, fun _ => rfl⟩
    · rw [hloader]
      rfl
    · show Loader.fresh m.loader.path m.loader.format file = .ok m.loader.settings
      rw [hloader]
      exact hfresh
    · rw [h.cache]
      exact Exclusion.Cache.isSound_empty
    · rw [h.known]
      rfl

/-- **The controller follows the reference.** Where the settings were loaded once and the windows
can be listed at the start, the first pass succeeds, and from then on, at every moment of every run
of writes to files and listings, each window has the opacity that the reference gives it. Listings
may fail; what is asked of the settings file is that it is usable or refused where it is read, and
that its time tells it from the one in force. -/
theorem follows_reference {m : Machine} {file : File} (hready : m.Ready file)
    (hlisted : (m.reference file).snapshot?.isSome) (hadmits : (m.reference file).Admits)
    {moves : List Move} (hall : (m.reference file).start.AdmitsAll moves) :
    ((controller true).start.run m).result = .ok () ∧
      ∀ done, done <+: moves → ∀ id,
        (done.foldl Machine.step ((controller true).start.run m).state).simulation.opacity? id =
          (done.foldl Reference.step (m.reference file).start).opacities id := by
  obtain ⟨m', log, hrun, hfollows⟩ := hready.follows.run_start hadmits rfl hlisted
  rw [hrun]
  exact ⟨rfl, fun done hdone => (hfollows.play hall hdone).opacities⟩

theorem follows_reference_of_two_windows :
    let file := File.ofText 1000
      "[Script-windowopacity]\nexcludedWindows=mpv\nwindowOpacityPercentage=50\n"
    let m : Machine := {
      files := [("settings", file), ("windows", File.ofText 1 "konsole")]
      loader := {
        path := "settings", format := .ini "windowopacity"
        settings := { opacity := .whole 50, exclusions := "mpv" }, loaded := some 1000 }
      simulation := { path := "windows" } }
    let moves := [Move.write "windows" (File.ofText 2 "konsole\nmpv"), .poll]
    ((controller true).start.run m).result = .ok () ∧
      ∀ id, (moves.foldl Machine.step ((controller true).start.run m).state).simulation.opacity? id
        = (moves.foldl Reference.step (m.reference file).start).opacities id := by
  intro file m moves
  have hfresh : Loader.fresh "settings" (.ini "windowopacity") file =
      .ok { opacity := .whole 50, exclusions := "mpv" } := by
    have hsome : (Loader.fresh "settings" (.ini "windowopacity") file).toOption =
        some { opacity := .whole 50, exclusions := "mpv" } := by decide +kernel
    generalize Loader.fresh "settings" (.ini "windowopacity") file = fresh at hsome
    cases fresh with
    | error fault => cases hsome
    | ok settings => exact congrArg Except.ok (Option.some.inj hsome)
  have hready : m.Ready file := by
    refine ⟨⟨{ path := "settings", format := .ini "windowopacity" }, ?_⟩, rfl, rfl⟩
    exact Loader.run_load_of_ok hfresh
  have hadmits : (m.reference file).Admits := by
    refine ⟨fun fault h => ?_, fun _ _ => rfl⟩
    have hok : Loader.fresh "settings" (.ini "windowopacity") file = .error fault := h
    rw [hfresh] at hok
    cases hok
  have hall : (m.reference file).start.AdmitsAll moves :=
    ⟨hadmits.poll.write (by decide +kernel) _, trivial⟩
  obtain ⟨hstart, hrun⟩ := follows_reference hready (by decide +kernel) hadmits hall
  exact ⟨hstart, hrun moves (List.prefix_refl moves)⟩

end Machine

end Translucency
