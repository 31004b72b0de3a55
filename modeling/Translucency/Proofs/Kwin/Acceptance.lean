import Translucency.Proofs.Kwin.Delivery

/-!
# What it means that a listing was accepted

A listing is accepted by its count, and success is noted there and then. Only afterwards are the
payloads read. That order is what this file is about, for two things do not follow from it though
one would like them to.

The first is that as many windows are given as were announced. A payload that is no JSON was counted
and is passed over, and the window that it stood for is missing without a word
(`length_list_eq_announced_iff`). What is counted wrong, on the other hand, is always refused.

The second is that a listing is either given or refused. A payload that is nested too deep, or that
is JSON but describes no window, stops the listing with a fault for which nobody is prepared, and
the source has by then noted a success. A reply that is no text stops it sooner, and the source
notes nothing at all (`settles_list_iff`).

Both are settled as exact conditions on the replies and on what was heard of the script
(`output?`), whatever the desktop replies and whatever the source has been through.
-/

namespace Translucency.Kwin

/-! ## Verdicts -/

/-- The script was heard of, and by as many payloads as announced. -/
theorem verdict_eq_ok_iff {heard : Option (List String)} {found : List String} :
    verdict heard = .ok found ↔
      ∃ output, heard = some output ∧
        announced? output = some ((windowLines output).length : Int) ∧
          windowLines output = found := by
  cases heard with
  | none => exact iff_of_false (by simp [verdict]) (by simp)
  | some output =>
    have hverdict : verdict (some output) = windowPayloads output := rfl
    rw [hverdict, windowPayloads_eq_ok_iff]
    constructor
    · intro h
      exact ⟨output, rfl, h⟩
    · rintro ⟨_, ⟨⟩, h⟩
      exact h

/-- Windows are given of an accepted listing whose payloads give windows. -/
theorem listed_eq_ok_iff {room : Nat} {v : Except ListingFault (List String)}
    {windows : List Window} :
    listed room v = .ok windows ↔ ∃ found, v = .ok found ∧ windowsOf room found = .ok windows := by
  cases v with
  | error fault => exact iff_of_false nofun nofun
  | ok found =>
    constructor
    · intro h
      exact ⟨found, rfl, h⟩
    · rintro ⟨_, ⟨⟩, h⟩
      exact h

/-- A listing that nothing stops is what its verdict leads to. -/
theorem result_list_of_stop? {s : Seat} (h : stop? s (listingCalls s) = none) :
    (list.run s).result = listed s.2.room (verdict (output? s)) := by
  rw [result_list, h]
  rfl

/-- A listing that is given was stopped by nothing. -/
theorem stop?_of_list_eq_ok {s : Seat} {windows : List Window}
    (h : (list.run s).result = .ok windows) : stop? s (listingCalls s) = none := by
  rw [result_list] at h
  cases hstop : stop? s (listingCalls s) with
  | none => rfl
  | some fault =>
    rw [hstop] at h
    cases h

/-! ## As many as announced -/

/-- **When a listing is complete.** Whatever the desktop replies, the windows that are given are
never more than the script announced, and as many exactly if every payload of a window is JSON.
Where it is the payloads that differ in number from what was announced, and no reply kept them from
being counted, the listing is refused. -/
theorem length_list_eq_announced_iff (s : Seat) :
    (∀ windows, (list.run s).result = .ok windows →
      ∃ output count, output? s = some output ∧ announced? output = some count ∧
        (windows.length : Int) ≤ count ∧
        ((windows.length : Int) = count ↔
          ∀ payload ∈ windowLines output, IsRead s.2.room payload)) ∧
    ∀ output, stop? s (listingCalls s) = none → output? s = some output →
      announced? output ≠ some ((windowLines output).length : Int) →
        ∃ text, (list.run s).result = .error (.source text) := by
  constructor
  · intro windows h
    rw [result_list_of_stop? (stop?_of_list_eq_ok h)] at h
    obtain ⟨found, hverdict, hwindows⟩ := listed_eq_ok_iff.1 h
    obtain ⟨output, houtput, hannounced, rfl⟩ := verdict_eq_ok_iff.1 hverdict
    -- The payloads were counted, and some of them are then passed over.
    obtain ⟨hle, hall⟩ := length_of_windowsOf hwindows
    refine ⟨output, _, houtput, hannounced, Int.ofNat_le.2 hle, ?_⟩
    rw [← hall]
    exact Int.natCast_inj
  · intro output hstop houtput hcount
    rw [result_list_of_stop? hstop]
    cases hverdict : verdict (output? s) with
    | error fault => exact ⟨_, rfl⟩
    | ok found =>
      obtain ⟨output', houtput', hannounced, -⟩ := verdict_eq_ok_iff.1 hverdict
      rw [houtput] at houtput'
      cases houtput'
      exact absurd hannounced hcount

/-- A listing of one window, and one that lost both of its windows. -/
theorem length_list_one_window_and_two_lost :
    let w : Shown := {
      id := "7", resourceClass := some "konsole", resourceName := none, caption := some "Shell"
      isNormal := true, isFullScreen := false, opacity := none }
    let name := marker .listing (.ofInt 0)
    let whole : Seat := ({}, .showing (String.ofList (Text.join ['\n'] (printed name [w]))))
    let short : Seat := ({}, .showing (String.ofList (Text.join ['\n'] [
      opening name ++ (header 2).toList, opening name ++ endWord.toList])))
    ((list.run whole).result = .ok [w.window] ∧
      ∃ output, output? whole = some output ∧ announced? output = some 1) ∧
    (stop? short (listingCalls short) = none ∧ output? short = some [header 2, endWord]) ∧
      ∃ text, (list.run short).result = .error (.source text) := by
  intro w name whole short
  let object := String.ofList (Json.objectText w.members)
  obtain ⟨hwhole, hwholeStop⟩ : output? whole = some [header 1, object, endWord] ∧
      stop? whole (listingCalls whole) = none := by
    have hline : Text.IsLine name.toList := isLine_marker .listing (.ofInt 0)
    have hfilter : (printed name [w]).filter (Text.occursIn (opening name)) = printed name [w] := by
      decide +kernel
    have hjournal := payloads_journal hline hfilter
    have hpayloads : payloadsOf name w = [object] := payloadsOf_of_isPlain hline (by decide +kernel)
    rw [List.flatMap_singleton, hpayloads] at hjournal
    exact output?_showing hjournal (by simp)
  have hobject : windowLines [header 1, object, endWord] = [object] := by
    have hne : object ≠ endWord := objectText_ne_endWord w.members
    simp [windowLines, hne]
  have hresult : (list.run whole).result = .ok [w.window] := by
    have hverdict : verdict (output? whole) = .ok [object] :=
      verdict_eq_ok_iff.2 ⟨_, hwhole, by rw [hobject]; decide +kernel, hobject⟩
    rw [result_list_of_stop? hwholeStop, hverdict]
    exact listed_eq_ok_iff.2 ⟨_, rfl, windowsOf_objects _ [w]⟩
  obtain ⟨hshort, hshortStop⟩ : output? short = some [header 2, endWord] ∧
      stop? short (listingCalls short) = none := output?_showing (by decide +kernel) (by simp)
  refine ⟨⟨hresult, ?_⟩, ⟨hshortStop, hshort⟩, ?_⟩
  · -- One window was given, and by that one was announced.
    obtain ⟨output, count, houtput, hannounced, -, hall⟩ :=
      (length_list_eq_announced_iff whole).1 _ hresult
    rw [hwhole] at houtput
    cases houtput
    have hread : ∀ payload ∈ windowLines [header 1, object, endWord],
        IsRead whole.2.room payload := by
      -- As many windows were given as there are payloads.
      rw [hobject]
      exact (length_of_windowsOf (windowsOf_objects whole.2.room [w])).2.1 rfl
    refine ⟨_, hwhole, ?_⟩
    rw [hannounced, ← hall.2 hread]
    rfl
  · apply (length_list_eq_announced_iff short).2 _ hshortStop hshort
    decide +kernel

/-- A window whose payload was cut off, and the listing of all there is has no window. -/
theorem list_cut_payload :
    let payload := "\x7b\"id\":\"7\""
    let text := "WINDOW_OPACITY_ENUM_0:COUNT:1\nWINDOW_OPACITY_ENUM_0:" ++ payload ++
      "\nWINDOW_OPACITY_ENUM_0:END\n"
    let output := ["COUNT:1", payload, "END"]
    let s : Seat := ({}, .showing text)
    output? s = some output ∧ announced? output = some 1 ∧ (list.run s).result = .ok [] := by
  intro payload text output s
  obtain ⟨houtput, hstop⟩ : output? s = some output ∧ stop? s (listingCalls s) = none :=
    output?_showing (by decide +kernel) (by decide)
  have hannounced : announced? output = some 1 := by decide +kernel
  have hlines : windowLines output = [payload] := by decide +kernel
  have hread : Json.read s.2.room payload.toList = .error .malformed := by
    have hchars : payload.toList = ['\x7b', '"', 'i', 'd', '"', ':', '"', '7', '"'] := by
      decide +kernel
    rw [hchars]
    rfl
  have hverdict : verdict (output? s) = .ok [payload] := by
    rw [verdict_eq_ok_iff]
    refine ⟨output, houtput, ?_, hlines⟩
    rw [hannounced, hlines]
    rfl
  have hwindows : windowsOf s.2.room [payload] = .ok [] := by
    rw [windowsOf, List.mapM_cons, windowIn, hread]
    rfl
  refine ⟨houtput, hannounced, ?_⟩
  rw [result_list_of_stop? hstop, hverdict]
  exact listed_eq_ok_iff.2 ⟨_, rfl, hwindows⟩

/-! ## Given or refused -/

/-- The two ends that a listing is meant to have, by what it gives and by the health that it leaves:
windows, and the failures are forgotten; or a refusal, and one failure more is noted. -/
inductive Settles (before : Health) : Except Fault (List Window) → Health → Prop
  | given (windows : List Window) :
    Settles before (.ok windows) { before with failures := 0, lastError := none }
  | refused (error : String) :
    Settles before (.error (.source ("Could not enumerate windows: " ++ error)))
      (before.after (some error))

/-- No fault but a refusal is such an end. -/
theorem not_settles_of_ne_source {before after : Health} {fault : Fault}
    (hfault : ∀ text, fault ≠ .source text) : ¬ Settles before (.error fault) after := by
  rintro ⟨⟩
  exact hfault _ rfl

/-- A verdict that refuses a listing is such an end, and one that accepts it exactly if none of the
payloads does harm. -/
theorem settles_listed_iff (room : Nat) (before : Health)
    (v : Except ListingFault (List String)) :
    (Settles before (listed room v) (before.after (complaint? v)) ↔
      ∀ found, v = .ok found → ∀ payload ∈ found, IsHarmless room payload) ∧
    (¬ Settles before (listed room v) (before.after (complaint? v)) →
      ∃ fault, listed room v = .error fault ∧ (∀ text, fault ≠ .source text) ∧
        before.after (complaint? v) = before.after none) := by
  cases v with
  | error fault =>
    have hsettles : Settles before (listed room (.error fault))
        (before.after (complaint? (.error fault))) := .refused fault.message
    exact ⟨iff_of_true hsettles nofun, fun h => absurd hsettles h⟩
  | ok found =>
    simp only [Except.ok.injEq, forall_eq', ← exists_windowsOf_iff]
    cases hwindows : windowsOf room found with
    | ok windows =>
      have hsettles : Settles before (listed room (.ok found))
          (before.after (complaint? (.ok found))) := by
        rw [listed, hwindows]
        exact .given windows
      exact ⟨iff_of_true hsettles ⟨windows, rfl⟩, fun h => absurd hsettles h⟩
    | error fault =>
      have hfault : ∀ text, fault ≠ .source text :=
        failsOnly_windowsOf room found fault hwindows
      rw [listed, hwindows]
      exact ⟨iff_of_false (not_settles_of_ne_source hfault) nofun,
        fun _ => ⟨fault, rfl, hfault, rfl⟩⟩

/-- What is asked of the payloads that a listing was accepted with. -/
theorem forall_accepted_iff {heard : Option (List String)} {P : String → Prop} :
    (∀ found, verdict heard = .ok found → ∀ payload ∈ found, P payload) ↔
      ∀ output, heard = some output →
        announced? output = some ((windowLines output).length : Int) →
          ∀ payload ∈ windowLines output, P payload := by
  simp only [verdict_eq_ok_iff]
  constructor
  · intro h output houtput hannounced
    exact h _ ⟨output, houtput, hannounced, rfl⟩
  · rintro h _ ⟨output, houtput, hannounced, rfl⟩
    exact h output houtput hannounced

/-- **When a listing ends as it is meant to.** For every source and every desktop: exactly if
nothing stops it and none of the payloads that it was accepted with does harm. Elsewhere it ends
with a fault that is no refusal. What was stopped leaves the health as it was, and of what was
accepted a success has been noted. -/
theorem settles_list_iff (s : Seat) :
    let o := list.run s
    (Settles s.1.health o.result o.state.1.health ↔
      stop? s (listingCalls s) = none ∧
      ∀ output, output? s = some output →
        announced? output = some ((windowLines output).length : Int) →
          ∀ payload ∈ windowLines output, IsHarmless s.2.room payload) ∧
    (¬ Settles s.1.health o.result o.state.1.health →
      ∃ fault, o.result = .error fault ∧ (∀ text, fault ≠ .source text) ∧
        o.state.1.health =
          (stop? s (listingCalls s)).elim (s.1.health.after none) fun _ => s.1.health) := by
  intro o
  have hresult : o.result =
      (stop? s (listingCalls s)).elim (listed s.2.room (verdict (output? s))) .error :=
    result_list s
  have hhealth : o.state.1.health =
      (stop? s (listingCalls s)).elim (s.1.health.after (complaint? (verdict (output? s))))
        fun _ => s.1.health := health_list s
  rw [hresult, hhealth]
  cases hstop : stop? s (listingCalls s) with
  | some fault =>
    have hfault : ∀ text, fault ≠ .source text := ne_source_of_stop? hstop
    exact ⟨iff_of_false (not_settles_of_ne_source hfault) nofun,
      fun _ => ⟨fault, rfl, hfault, rfl⟩⟩
  | none =>
    simp only [Option.elim_none, true_and, ← forall_accepted_iff]
    exact settles_listed_iff s.2.room s.1.health (verdict (output? s))

/-- A number where a window is expected, and the source holds itself to be in order. -/
theorem not_settles_number :
    let text :=
      "WINDOW_OPACITY_ENUM_0:COUNT:1\nWINDOW_OPACITY_ENUM_0:7\nWINDOW_OPACITY_ENUM_0:END\n"
    let s : Seat := ({}, .showing text)
    let o := list.run s
    o.result = .error (.mishap .lacksMember) ∧ o.state.1.health = {} ∧
      ¬ Settles s.1.health o.result o.state.1.health := by
  intro text s o
  obtain ⟨houtput, hstop⟩ : output? s = some ["COUNT:1", "7", "END"] ∧
      stop? s (listingCalls s) = none := output?_showing (by decide +kernel) (by decide)
  have hlines : windowLines ["COUNT:1", "7", "END"] = ["7"] := by decide
  have hverdict : verdict (output? s) = .ok ["7"] :=
    verdict_eq_ok_iff.2 ⟨_, houtput, by rw [hlines]; decide +kernel, hlines⟩
  have hread : Json.read s.2.room "7".toList = .ok (.int 7) := by
    have hchars : "7".toList = ['7'] := by rfl
    rw [hchars]
    rfl
  have hwindows : windowsOf s.2.room ["7"] = .error (.mishap .lacksMember) := by
    rw [windowsOf, List.mapM_cons, windowIn, hread]
    rfl
  have hresult : o.result = .error (.mishap .lacksMember) := by
    have hlist : o.result = listed s.2.room (verdict (output? s)) := result_list_of_stop? hstop
    rw [hlist, hverdict]
    exact hwindows
  have hhealth : o.state.1.health = {} := by
    have hlist : o.state.1.health = (stop? s (listingCalls s)).elim
        (s.1.health.after (complaint? (verdict (output? s)))) fun _ => s.1.health := health_list s
    rw [hlist, hstop, hverdict]
    rfl
  refine ⟨hresult, hhealth, ?_⟩
  rw [hresult]
  rintro ⟨⟩

end Translucency.Kwin
