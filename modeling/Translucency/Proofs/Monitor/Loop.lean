import Translucency.Proofs.Monitor.Listeners

/-!
# The loop goes on until it is stopped

The loop of a monitor runs as long as its flag says so, and the flag can be cleared by a listener in
the middle of a poll or by the loop itself, once the source is out of service. Meanwhile the listing
and any of the listeners may fail. What is settled here is that none of this gets out of hand: no
failure ends the loop, and it goes on after a poll exactly if then the source is in service and no
listener has stopped the monitor.

For any monitor a loop comes down to states that follow each other (`Stage.run_rounds`), because
nothing gets out of a round. Then one round is described (`Stage.Round`), with listeners that may
stop the monitor, and what holds between the rounds of a whole loop follows by induction
(`Stage.between_sceneAfter`).
-/

namespace Translucency

namespace Watch

variable {σ : Type} {R : σ → σ → Prop} {w : Watch σ}

/-! ## What telling keeps -/

/-- Telling of windows keeps what each listener keeps. -/
theorem keeps_announceAll (hrefl : ∀ s, R s s) (htrans : ∀ ⦃s t u⦄, R s t → R t u → R s u)
    (h : ∀ listener ∈ w.listeners, ∀ window, (listener window).Keeps R) (windows : List Window) :
    (w.announceAll windows).Keeps R := by
  have htell : ∀ listener ∈ w.listeners, ∀ window, (tell listener window).Keeps R := by
    intro listener hmem window
    refine (h listener hmem window).attempt.bind htrans fun result => ?_
    cases result with
    | ok window' => exact hrefl
    | error fault => exact Act.Keeps.bind htrans hrefl fun _ => hrefl
  induction windows with
  | nil => exact hrefl
  | cons window rest ih =>
    exact (Act.keeps_foldlM hrefl htrans htell window).bind htrans fun _ =>
      ih.bind htrans fun _ => hrefl

/-! ## Rounds in a row -/

/-- A running monitor makes the next round. -/
theorem run_rounds_of_running {s : σ} (h : (w.monitor.get s).running = true) (before : Act σ Unit)
    (rest : List (Act σ Unit)) :
    (w.rounds (before :: rest)).run s =
      (before >>= fun _ => w.round >>= fun _ => w.rounds rest).run s := by
  rw [rounds, Act.run_bind_eq (Part.run_read w.monitor s), Outcome.after_nil, if_pos h]

/-- A monitor that does not run makes no more rounds. -/
theorem run_rounds_of_not_running {s : σ} (h : (w.monitor.get s).running ≠ true)
    (befores : List (Act σ Unit)) : (w.rounds befores).run s = ⟨.ok (), s, []⟩ := by
  cases befores with
  | nil => rfl
  | cons before rest =>
    rw [rounds, Act.run_bind_eq (Part.run_read w.monitor s), Outcome.after_nil, if_neg h,
      Act.run_pure]

/-- Rounds may be interrupted at any point and taken up again. -/
theorem rounds_append (befores more : List (Act σ Unit)) :
    w.rounds (befores ++ more) = w.rounds befores >>= fun _ => w.rounds more := by
  induction befores with
  | nil => rfl
  | cons before rest ih =>
    refine Act.ext fun s => ?_
    by_cases h : (w.monitor.get s).running = true
    · rw [List.cons_append, run_rounds_of_running h, ih, Act.run_bind (w.rounds (before :: rest)),
        run_rounds_of_running h, ← Act.run_bind]
      simp only [bind_assoc]
    · -- A monitor that does not run makes none of the later rounds either.
      rw [run_rounds_of_not_running h, Act.run_bind_eq (run_rounds_of_not_running h _),
        run_rounds_of_not_running h, Outcome.after_nil]

/-! ## The two parts of a round -/

variable (w) in
/-- The end of a round, after the poll. -/
def close : Act σ Unit := do
  if w.source.available (← .read) then
    w.monitor.change fun m => { m with waits := m.waits ++ [m.interval] }
  else
    .log .error .monitor
      ("Window source '" ++ w.source.name ++ "' disabled, stopping monitor")
    w.monitor.change fun m => { m with running := false }

/-- Whatever came of the poll, the round has one end. -/
theorem round_eq (w : Watch σ) : w.round = w.poll.attempt >>= fun result =>
    (match result with
    | .ok _ => pure ()
    | .error fault => w.report fault) >>= fun _ => w.close := by
  rw [round]
  refine congrArg _ (funext fun result => ?_)
  -- Both branches go on to the end of the round, each by itself.
  cases result with
  | ok told => rfl
  | error fault => rfl

end Watch

namespace Stage

variable {ω : Type}

/-! ## Rounds of any monitor -/

section Rounds

variable (source : Source ω) (callbacks : List (Callback ω))

/-- What the loop does after a poll, whatever came of it: it waits, or it ends if the source is out
of service. -/
def settled (s : Stage ω) : Stage ω :=
  if source.available s.world then
    { s with monitor := { s.monitor with waits := s.monitor.waits ++ [s.monitor.interval] } }
  else { s with monitor := { s.monitor with running := false } }

section settled

variable (s : Stage ω)

@[simp] theorem world_settled : (settled source s).world = s.world := by
  unfold settled
  split <;> rfl

@[simp] theorem calls_settled : (settled source s).calls = s.calls := by
  unfold settled
  split <;> rfl

@[simp] theorem known_settled : (settled source s).monitor.known = s.monitor.known := by
  unfold settled
  split <;> rfl

@[simp] theorem interval_settled : (settled source s).monitor.interval = s.monitor.interval := by
  unfold settled
  split <;> rfl

theorem waits_settled : (settled source s).monitor.waits =
    s.monitor.waits ++ if source.available s.world then [s.monitor.interval] else [] := by
  unfold settled
  split
  · rfl
  · exact (List.append_nil _).symm

theorem running_settled_iff : (settled source s).monitor.running = true ↔
    s.monitor.running = true ∧ source.available s.world = true := by
  unfold settled
  split
  · next h => exact (and_iff_left h).symm
  · next h => exact iff_of_false Bool.false_ne_true fun h' => h h'.2

end settled

/-- The stage after a round that finds the world changed. -/
def nextRound (s : Stage ω) (change : ω → ω) : Stage ω :=
  settled source ((watch source callbacks).poll.run { s with world := change s.world }).state

/-- The stage after rounds, as far as there are any. The latest change of the world comes first. -/
def afterRounds (s : Stage ω) : List (ω → ω) → Stage ω
  | [] => s
  | change :: past =>
    let s' := afterRounds s past
    if s'.monitor.running then nextRound source callbacks s' change else s'

theorem run_close (s : Stage ω) :
    ∃ log, (watch source callbacks).close.run s = ⟨.ok (), settled source s, log⟩ := by
  have havailable : (watch source callbacks).source.available s = source.available s.world := rfl
  rw [Watch.close, Act.run_bind_eq (Act.run_read s), Outcome.after_nil, havailable, settled]
  split
  · exact ⟨_, rfl⟩
  · exact ⟨_, rfl⟩

/-- No failure of a poll gets out of the round. -/
theorem run_round (s : Stage ω) :
    ∃ log, (watch source callbacks).round.run s =
      ⟨.ok (), settled source ((watch source callbacks).poll.run s).state, log⟩ := by
  rcases hpoll : (watch source callbacks).poll.run s with ⟨result, p, log⟩
  obtain ⟨log', hreport⟩ : ∃ log', (match result with
      | .ok _ => pure ()
      | .error fault => (watch source callbacks).report fault : Act (Stage ω) Unit).run p =
        ⟨.ok (), p, log'⟩ := by
    cases result with
    | ok told => exact ⟨[], rfl⟩
    | error fault => cases fault <;> exact ⟨_, rfl⟩
  obtain ⟨log'', hclose⟩ := run_close source callbacks p
  rw [Watch.round_eq, Act.run_bind_eq (Act.run_attempt_eq hpoll), Act.run_bind_eq hreport, hclose]
  exact ⟨_, rfl⟩

/-- A running monitor makes one more round. -/
theorem run_rounds_singleton {s : Stage ω} (h : s.monitor.running = true) (change : ω → ω) :
    ∃ log, ((watch source callbacks).rounds [worldPart.change change]).run s =
      ⟨.ok (), nextRound source callbacks s change, log⟩ := by
  have hchange : (worldPart.change change).run s =
      ⟨.ok (), { s with world := change s.world }, []⟩ := rfl
  obtain ⟨log, hround⟩ := run_round source callbacks { s with world := change s.world }
  rw [Watch.run_rounds_of_running h, Act.run_bind_eq hchange, Act.run_bind_eq hround]
  exact ⟨_, rfl⟩

/-- **A loop never fails.** It makes rounds as long as the monitor runs. -/
theorem run_rounds (s : Stage ω) (past : List (ω → ω)) :
    ∃ log, ((watch source callbacks).rounds (past.reverse.map worldPart.change)).run s =
      ⟨.ok (), afterRounds source callbacks s past, log⟩ := by
  induction past with
  | nil => exact ⟨[], rfl⟩
  | cons change past ih =>
    obtain ⟨log, hpast⟩ := ih
    rw [List.reverse_cons, List.map_append, List.map_singleton, Watch.rounds_append,
      Act.run_bind_eq hpast, afterRounds]
    split
    · next hrunning =>
      obtain ⟨log', hround⟩ := run_rounds_singleton source callbacks hrunning change
      rw [hround]
      exact ⟨_, rfl⟩
    · next hstopped =>
      rw [Watch.run_rounds_of_not_running hstopped]
      exact ⟨_, rfl⟩

end Rounds

/-! ## Rounds of a monitor that is stopped by its listeners -/

/-- The calls that a listing asks for: each listener once, in order, for each new window. -/
def dueCalls (count : Nat) (known : List String) :
    Except Fault (List Window) → List (Nat × String)
  | .ok windows => (Monitor.fresh known windows).flatMap fun w => callsFor count w.id
  | .error _ => []

/-- What a monitor knows after a listing. -/
def learned (known : List String) : Except Fault (List Window) → List String
  | .ok windows => Monitor.learn [] windows
  | .error _ => known

section Scenes

variable {source : Source ω} (listeners : List (Listener ω))

/-- Whether listeners did what they may. -/
def Heeded (s s' : Stage (Scene ω)) : Prop := Listener.Heeds (actors.get s) (actors.get s')

theorem Heeded.refl (s : Stage (Scene ω)) : Heeded s s := Listener.Heeds.refl _

theorem Heeded.trans ⦃s t u : Stage (Scene ω)⦄ (h : Heeded s t) (h' : Heeded t u) : Heeded s u :=
  Listener.Heeds.trans h h'

/-- A monitor that watches a source in a scene. -/
def watchScene (source : Source ω) (listeners : List (Listener ω)) : Watch (Stage (Scene ω)) :=
  watch (Scene.noting source) (listeners.map Listener.callback)

/-- What listeners heed is heeded while they are told, for noting a call is no concern of the
monitor. -/
theorem keeps_announceAll (source : Source ω) (windows : List Window) :
    ((watchScene source listeners).announceAll windows).Keeps Heeded := by
  refine Watch.keeps_announceAll Heeded.refl Heeded.trans (fun act hmem w => ?_) windows
  obtain ⟨⟨c, index⟩, hc, rfl⟩ := List.mem_map.1 hmem
  obtain ⟨l, -, rfl⟩ := List.mem_map.1 (List.fst_mem_of_mem_zipIdx hc)
  have hnote : (callsPart.change fun calls => calls ++ [(index, w.id)]).Keeps
      (Heeded (ω := ω)) := fun s => Heeded.refl s
  have hact : (actors.run (l.act w)).Keeps Heeded := (l.isDeed w).keeps.on
  exact hnote.bind Heeded.trans fun _ => hact

/-- The stage when a listing is over and nobody is told yet. -/
def listed (s : Stage (Scene ω)) (world : ω) (result : Except Fault (List Window)) :
    Stage (Scene ω) :=
  { s with
    world := { s.world with world := world, results := result :: s.world.results }
    monitor := { s.monitor with known := learned s.monitor.known result } }

/-- What a poll does: it makes the calls that are due, and what else changes after the listing is up
to the listeners. -/
theorem heeded_poll {s : Stage (Scene ω)} {world : ω} {log : List Record}
    {result : Except Fault (List Window)}
    (h : source.list.run s.world.world = ⟨result, world, log⟩) :
    ∃ polled, ((watchScene source listeners).poll.run s).state = polled ∧
      polled.calls = s.calls ++ dueCalls listeners.length s.monitor.known result ∧
      Heeded (listed s world result) polled := by
  have hlist := Scene.run_list_noting h
  cases result with
  | ok windows =>
    obtain ⟨told, polled, log', hpoll, -, -, hcalls⟩ :=
      run_poll_of_ok (s := s) (listeners.map Listener.callback) hlist
    -- The calls are known from the poll as a whole; who may have done what, only from the telling.
    have hstate := congrArg Outcome.state
      (run_poll_eq (s := s) (listeners.map Listener.callback) hlist)
    have hkeeps := keeps_announceAll listeners source (Monitor.fresh s.monitor.known windows)
      (listed s world (.ok windows))
    rw [List.length_map] at hcalls
    refine ⟨polled, congrArg Outcome.state hpoll, hcalls, ?_⟩
    rw [hpoll] at hstate
    rwa [show polled = _ from hstate]
  | error fault =>
    refine ⟨listed s world (.error fault), congrArg Outcome.state
      (run_poll_of_error (s := s) (listeners.map Listener.callback) hlist), ?_, .refl _⟩
    exact (List.append_nil _).symm

/-- What one round does. -/
structure Round (source : Source ω) (count : Nat) (s : Stage (Scene ω)) (world : ω)
    (s' : Stage (Scene ω)) : Prop where
  results : s'.world.results = (source.list.run world).result :: s.world.results
  calls : s'.calls =
    s.calls ++ dueCalls count s.monitor.known (source.list.run world).result
  known : s'.monitor.known = learned s.monitor.known (source.list.run world).result
  interval : s'.monitor.interval = s.monitor.interval
  waits : s'.monitor.waits =
    s.monitor.waits ++ if source.available s'.world.world then [s.monitor.interval] else []
  running_iff : s'.monitor.running = true ↔ s.monitor.running = true ∧
    s'.world.stops = s.world.stops ∧ source.available s'.world.world = true

/-- **One round** lists the windows, makes the calls that are due, and ends with a wait or for good.
-/
theorem round_nextRound (s : Stage (Scene ω)) (change : ω → ω) :
    Round source listeners.length s (change s.world.world)
      (nextRound (Scene.noting source) (listeners.map Listener.callback) s
        (Scene.moved change)) := by
  rcases hlist : source.list.run (change s.world.world) with ⟨result, world, log⟩
  have hresult : (source.list.run (change s.world.world)).result = result := by rw [hlist]
  obtain ⟨polled, hpolled, hcalls, hheeded⟩ := heeded_poll listeners
    (s := { s with world := { s.world with world := change s.world.world } }) hlist
  have hnext : nextRound (Scene.noting source) (listeners.map Listener.callback) s
      (Scene.moved change) = settled (Scene.noting source) polled := congrArg _ hpolled
  rw [hnext]
  exact {
    results := by
      rw [world_settled, hresult]
      exact hheeded.results
    calls := by
      rw [calls_settled, hresult]
      exact hcalls
    known := by
      rw [known_settled, hresult]
      exact hheeded.known
    interval := (interval_settled _ polled).trans hheeded.interval
    waits := by
      have hinterval : polled.monitor.interval = s.monitor.interval := hheeded.interval
      have hwaits : polled.monitor.waits = s.monitor.waits := hheeded.waits
      rw [waits_settled, world_settled, hinterval, hwaits]
      rfl
    running_iff := by
      have hrunning : polled.monitor.running = true ↔
        s.monitor.running = true ∧ polled.world.stops = s.world.stops := hheeded.running_iff
      rw [running_settled_iff, world_settled, hrunning, and_assoc]
      rfl }

/-! ## The whole loop -/

/-- What holds between the rounds of a loop that began with a running monitor. -/
structure Between (source : Source ω) (monitor : Monitor) (past : List (ω → ω))
    (s : Stage (Scene ω)) : Prop where
  interval : s.monitor.interval = monitor.interval
  known : ∀ id, id ∈ s.monitor.known ↔
    id ∈ s.world.latest?.elim monitor.known fun windows => windows.map (·.id)
  running_iff : s.monitor.running = true ↔
    s.world.stops = 0 ∧ (past = [] ∨ source.available s.world.world = true)

/-- Listing anew replaces what was known, and failing to does not. -/
theorem mem_learned_iff {known first : List String} {scene scene' : Scene ω}
    {result : Except Fault (List Window)}
    (h : ∀ id, id ∈ known ↔ id ∈ scene.latest?.elim first fun windows => windows.map (·.id))
    (hresults : scene'.results = result :: scene.results) (id : String) :
    id ∈ learned known result ↔
      id ∈ scene'.latest?.elim first fun windows => windows.map (·.id) := by
  rw [Scene.latest?, hresults]
  cases result with
  | ok windows =>
    show _ ↔ id ∈ windows.map (·.id)
    rw [learned, Monitor.mem_learn, List.mem_map]
    exact or_iff_right List.not_mem_nil
  | error fault => exact h id

theorem Between.round {monitor : Monitor} {past : List (ω → ω)} {s s' : Stage (Scene ω)}
    {count : Nat} {change : ω → ω} (h : Between source monitor past s)
    (hrunning : s.monitor.running = true)
    (hround : Round source count s (change s.world.world) s') :
    Between source monitor (change :: past) s' where
  interval := hround.interval.trans h.interval
  known := by
    rw [hround.known]
    exact mem_learned_iff h.known hround.results
  running_iff := by
    -- As the monitor ran, nobody had stopped it before this round.
    have hstops : s.world.stops = 0 := (h.running_iff.1 hrunning).1
    rw [hround.running_iff, and_iff_right hrunning, hstops]
    simp

/-- A loop that has ended is where it ended. -/
theorem Between.ended {monitor : Monitor} {past : List (ω → ω)} {s : Stage (Scene ω)}
    (h : Between source monitor past s) (hended : s.monitor.running ≠ true) (change : ω → ω) :
    Between source monitor (change :: past) s where
  interval := h.interval
  known := h.known
  running_iff := by
    refine iff_of_false hended fun ⟨hstops, hpast⟩ => hended (h.running_iff.2 ⟨hstops, .inr ?_⟩)
    exact hpast.resolve_left (List.cons_ne_nil _ _)

/-- The stage of a scene after rounds. -/
def sceneAfter (source : Source ω) (listeners : List (Listener ω)) (monitor : Monitor) (world : ω)
    (past : List (ω → ω)) : Stage (Scene ω) :=
  afterRounds (Scene.noting source) (listeners.map Listener.callback)
    { world := { world }, monitor } (past.map Scene.moved)

theorem between_sceneAfter {monitor : Monitor} (hrunning : monitor.running = true) (world : ω)
    (past : List (ω → ω)) :
    Between source monitor past (sceneAfter source listeners monitor world past) := by
  induction past with
  | nil => exact ⟨rfl, fun _ => Iff.rfl, iff_of_true hrunning ⟨rfl, .inl rfl⟩⟩
  | cons change past ih =>
    rw [sceneAfter, List.map_cons, afterRounds]
    split
    · next h => exact ih.round h (round_nextRound listeners _ change)
    · next h => exact ih.ended h change

/-- **The loop goes on until it is stopped.** Enter it with a running monitor, whatever the source
does and whatever the listeners do in the world; a listener may fail, and may stop the monitor. At
every moment between the rounds no failure has got out, the monitor runs exactly if no listener has
stopped it and the source was in service at the end of the last poll, if there was any, and it knows
the windows of the latest listing that did not fail. If it runs, the next round lists the windows
once, calls each listener in turn for each new window, and waits once unless the source is out of
service then. If it does not run, nothing happens any more. -/
theorem goes_on_until_stopped (source : Source ω) (listeners : List (Listener ω))
    (monitor : Monitor) (hrunning : monitor.running = true) (world : ω) (past : List (ω → ω)) :
    let loop (past : List (ω → ω)) :=
      ((watchScene source listeners).rounds
        (past.reverse.map fun change => worldPart.change (Scene.moved change))).run
          { world := { world }, monitor }
    let s := (loop past).state
    let goesOn := s.world.stops = 0 ∧ (past = [] ∨ source.available s.world.world = true)
    (loop past).result = .ok () ∧
      (s.monitor.running = true ↔ goesOn) ∧
      (∀ id, id ∈ s.monitor.known ↔
        id ∈ s.world.latest?.elim monitor.known fun windows => windows.map (·.id)) ∧
      ∀ change : ω → ω,
        let s' := (loop (change :: past)).state
        let result := (source.list.run (change s.world.world)).result
        (goesOn →
          s'.world.results = result :: s.world.results ∧
          s'.calls = s.calls ++ dueCalls listeners.length s.monitor.known result ∧
          s'.monitor.waits = s.monitor.waits ++
            if source.available s'.world.world then [monitor.interval] else []) ∧
        (¬ goesOn → s' = s) := by
  intro loop s goesOn
  have hloop : ∀ past, ∃ log,
      loop past = ⟨.ok (), sceneAfter source listeners monitor world past, log⟩ := by
    intro past
    have hrounds := run_rounds (Scene.noting source) (listeners.map Listener.callback)
      { world := { world }, monitor } (past.map Scene.moved)
    rwa [← List.map_reverse, List.map_map] at hrounds
  have hstate : ∀ past, (loop past).state = sceneAfter source listeners monitor world past := by
    intro past
    obtain ⟨log, h⟩ := hloop past
    rw [h]
  have hbetween : Between source monitor past s := by
    rw [show s = _ from hstate past]
    exact between_sceneAfter listeners hrunning world past
  refine ⟨?_, hbetween.running_iff, hbetween.known, fun change => ?_⟩
  · obtain ⟨log, h⟩ := hloop past
    rw [h]
  · intro s' result
    have hs' : s' = if s.monitor.running then
        nextRound (Scene.noting source) (listeners.map Listener.callback) s (Scene.moved change)
        else s := by
      rw [show s' = _ from hstate (change :: past), show s = _ from hstate past]
      rfl
    refine ⟨fun hgoes => ?_, fun hends => ?_⟩
    · have hround : Round source listeners.length s _ _ := round_nextRound listeners s change
      rw [if_pos (hbetween.running_iff.2 hgoes)] at hs'
      rw [← hs'] at hround
      exact ⟨hround.results, hround.calls, hbetween.interval ▸ hround.waits⟩
    · rw [if_neg (mt hbetween.running_iff.1 hends)] at hs'
      exact hs'

end Scenes

/-- One loop is stopped by a listener in the middle of a poll, after a poll that failed; the windows
that are left are announced, and it waits a last time. Another one ends without a wait at a failed
poll that puts the source out of service. -/
theorem goes_on_until_stopped_of_two_ends :
    let source : Source (Except Fault (List Window) × Bool) :=
      { name := "scripted"
        list := fun world => ⟨world.1, world, []⟩
        setOpacity := fun _ _ => pure ()
        available := Prod.snd }
    let World := Except Fault (List Window) × Bool
    let loop (past : List (World → World)) :=
      ((watchScene source [.failing "no", .stoppingAt "b"]).rounds
        (past.reverse.map fun change => worldPart.change (Scene.moved change))).run
          { world := { world := (.ok [], true) }, monitor := { running := true } }
    let stopped := [fun _ => (.ok [{ id := "b" }, { id := "c" }], true),
      fun _ => (.error (.source "gone"), true), fun _ => (.ok [{ id := "a" }], true)]
    let disabled := [fun _ => (.error (.source "gone"), false),
      fun _ => (.ok [{ id := "a" }], true)]
    ((loop stopped).state.calls =
        [(0, "a"), (1, "a"), (0, "b"), (1, "b"), (0, "c"), (1, "c")] ∧
      (loop stopped).state.monitor.waits = [.ofInt 2, .ofInt 2, .ofInt 2] ∧
      ∀ change, (loop (change :: stopped)).state = (loop stopped).state) ∧
    (loop disabled).result = .ok () ∧ (loop disabled).state.monitor.waits = [.ofInt 2] ∧
      ∀ change, (loop (change :: disabled)).state = (loop disabled).state := by
  intro source World loop stopped disabled
  have hends := goes_on_until_stopped source [.failing "no", .stoppingAt "b"]
    { running := true } rfl (.ok [], true)
  obtain ⟨-, -, -, hstopped⟩ := hends stopped
  obtain ⟨hresult, -, -, hdisabled⟩ := hends disabled
  refine ⟨⟨?_, ?_, fun change => ?_⟩, hresult, ?_, fun change => ?_⟩
  · decide +kernel
  · decide +kernel
  · exact (hstopped change).2 fun h => absurd h.1 (by decide +kernel)
  · decide +kernel
  · exact (hdisabled change).2 fun h => absurd h.2 (by decide +kernel)

end Stage

end Translucency
