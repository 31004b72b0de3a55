import Translucency.Proofs.Kwin.Listing
import Translucency.Proofs.Kwin.Operations
import Translucency.Proofs.Printing

/-!
# Whether a listing arrives

A listing takes six commands at least, and what the desktop replies to each of them may depend on
all that was asked before. What matters of the replies is little. The script has to be loaded and
run; to be stopped and unloaded it need not, as long as the replies are texts. And of the looks at
the journal the first one that shows the end of the listing decides, the others being as if they had
not been (`Desktop.Shows`).

`Delivers` says that all this went well and which text the journal showed then. What the source
lists is what can be read out of that text (`run_list_of_delivers`), and so it lists the windows
that the script printed exactly if all of them are plain (`list_eq_ok_iff`). A window with a raw
line end in its title is missing from a listing that passes for complete.
-/

namespace Translucency

namespace Kwin

open Text

/-! ## Looks at the journal -/

/-- Whether a desktop shows a text at one of its next looks, and at the looks before it nothing that
was awaited, but no bytes that are no text either. -/
def Desktop.Shows (d : Desktop) (marker awaited : String) (since : Binary64) (looks : Nat)
    (text : String) : Prop :=
  ∃ k < looks,
    (∃ status errors,
      (d.after (List.replicate k (lookCall since))).reply (lookCall since) =
        .finished status text errors) ∧
    ∀ i < k,
      let reply := (d.after (List.replicate i (lookCall since))).reply (lookCall since)
      reply.isText = true ∧
        ∀ result, reply.result? = some result → awaited ∉ payloads marker result.output

/-- Either the next look shows the text, or it shows nothing awaited and one after it does. -/
theorem Desktop.Shows.cases_next {d : Desktop} {marker awaited text : String} {since : Binary64}
    {looks : Nat} (h : d.Shows marker awaited since (looks + 1) text) :
    (∃ status errors, d.reply (lookCall since) = .finished status text errors) ∨
      ((d.reply (lookCall since)).isText = true ∧
        (∀ result, (d.reply (lookCall since)).result? = some result →
          awaited ∉ payloads marker result.output) ∧
        (d.after [lookCall since]).Shows marker awaited since looks text) := by
  have hnone : d.after (List.replicate 0 (lookCall since)) = d := d.after_nil
  have hnext : ∀ k, d.after (List.replicate (k + 1) (lookCall since)) =
      (d.after [lookCall since]).after (List.replicate k (lookCall since)) := by
    intro k
    rw [Desktop.after_after, List.replicate_succ, List.singleton_append]
  -- The next look is the one that shows the text if there is none before that.
  obtain ⟨k, hk, hshown, hbefore⟩ := h
  cases k with
  | zero =>
    rw [hnone] at hshown
    exact .inl hshown
  | succ k =>
    obtain ⟨htext, hmiss⟩ := hbefore 0 (by omega)
    rw [hnone] at htext hmiss
    refine .inr ⟨htext, hmiss, k, by omega, ?_, fun i hi => ?_⟩
    · rwa [hnext] at hshown
    · have hlater := hbefore (i + 1) (by omega)
      rwa [hnext] at hlater

/-- The text that is shown is the first one with the awaited payload. -/
theorem Desktop.Shows.findSome?_looks {d : Desktop} {marker awaited text : String}
    {since : Binary64} (hawaited : awaited ∈ payloads marker text) {count : Nat}
    (h : d.Shows marker awaited since count text) :
    (d.looks since count).findSome? (Reply.payloads? marker awaited) =
      some (payloads marker text) := by
  induction count generalizing d with
  | zero =>
    obtain ⟨k, hk, -⟩ := h
    exact absurd hk (Nat.not_lt_zero k)
  | succ count ih =>
    rw [Desktop.looks_succ, List.findSome?_cons]
    obtain ⟨status, errors, hfinished⟩ | ⟨-, hnot, hlater⟩ := h.cases_next
    · have hsome : (d.reply (lookCall since)).payloads? marker awaited =
          some (payloads marker text) := by
        rw [hfinished]
        exact Reply.payloads?_eq_some_iff.2 ⟨⟨status, text⟩, rfl, rfl, hawaited⟩
      rw [hsome]
    · have hnone : (d.reply (lookCall since)).payloads? marker awaited = none := by
        apply Option.eq_none_iff_forall_ne_some.2
        intro found hfound
        obtain ⟨result, hresult, rfl, hmem⟩ := Reply.payloads?_eq_some_iff.1 hfound
        exact hnot result hresult hmem
      rw [hnone]
      exact ih hlater

/-- All looks that are taken until then are replied to with texts. -/
theorem Desktop.Shows.reads_looks {d : Desktop} {marker awaited text : String}
    {since : Binary64} (hawaited : awaited ∈ payloads marker text) {count : Nat}
    (h : d.Shows marker awaited since count text) :
    d.reads (List.replicate (looksTaken marker awaited (d.looks since count)) (lookCall since)) =
      true := by
  induction count generalizing d with
  | zero =>
    obtain ⟨k, hk, -⟩ := h
    exact absurd hk (Nat.not_lt_zero k)
  | succ count ih =>
    rw [Desktop.looks_succ, looksTaken_cons]
    split
    · next hshown =>
      -- What shows the awaited payload is a text.
      obtain ⟨found, hfound⟩ := Option.isSome_iff_exists.1 hshown
      obtain ⟨result, hresult, -⟩ := Reply.payloads?_eq_some_iff.1 hfound
      rw [List.replicate_one, Desktop.reads_cons, Reply.isText_of_result? hresult]
      rfl
    · next hnot =>
      obtain ⟨status, errors, hfinished⟩ | ⟨htext, -, hlater⟩ := h.cases_next
      · have hsome : (d.reply (lookCall since)).payloads? marker awaited =
            some (payloads marker text) := by
          rw [hfinished]
          exact Reply.payloads?_eq_some_iff.2 ⟨⟨status, text⟩, rfl, rfl, hawaited⟩
        rw [hsome] at hnot
        exact absurd rfl hnot
      · rw [List.replicate_succ, Desktop.reads_cons, htext, Bool.true_and]
        exact ih hlater

/-! ## Scripts -/

/-- Whether the script that lists the windows is stored, loaded and run, the replies are texts, and
the journal shows a text then. -/
def Delivers (s : Seat) (text : String) : Prop :=
  let name := marker .listing s.2.now
  let placed := { s.2 with scripts := s.2.scripts ++ [listingScript name] }
  s.2.full = none ∧
  ∃ number kwin desktop log,
    (load name).run (s.1, placed) = ⟨.ok (some number), (kwin, desktop), log⟩ ∧
    (∃ output errors,
      desktop.reply (runCall kwin.tool number) = .finished 0 output errors) ∧
    desktop.reads (runCalls kwin.tool number name) = true ∧
    (desktop.after (runCalls kwin.tool number name)).Shows name endWord s.2.now pauses.length text

/-- A script that is delivered is heard of by what the journal shows, and nothing stops it. -/
theorem Delivers.output?_eq {s : Seat} {text : String} (h : Delivers s text)
    (hend : endWord ∈ payloads (marker .listing s.2.now) text) :
    output? s = some (payloads (marker .listing s.2.now) text) ∧
      stop? s (listingCalls s) = none := by
  obtain ⟨hfull, number, kwin, desktop, log, hload, ⟨output, errors, hran⟩, hruns, hshows⟩ := h
  rw [output?, listingCalls]
  generalize marker .listing s.2.now = name at *
  let placed : Desktop := { s.2 with scripts := s.2.scripts ++ [listingScript name] }
  -- How the script was loaded is told by the replies, so the load is the one that they tell of.
  have htalks : Talks (load name) (s.1, placed) (loading s name).calls (toolAfter s name)
      (loading s name).number? := talks_load name (s.1, placed)
  obtain ⟨pauses, log', hloaded⟩ := htalks
  rw [hload, Outcome.mk.injEq, Prod.mk.injEq] at hloaded
  obtain ⟨hanswer, ⟨hkwin, hdesktop⟩, -⟩ := hloaded
  have hreads : s.2.reads (loading s name).calls = true := by
    by_contra hnot
    exact nomatch hanswer.trans (if_neg hnot)
  have hnumber : (loading s name).number? = some number :=
    (Except.ok.inj (hanswer.trans (if_pos hreads))).symm
  have hmade : placed.made (loading s name).calls = (loading s name).calls :=
    Desktop.made_of_reads hreads
  rw [hmade] at hdesktop
  rw [toolAfter_of_reads hreads] at hkwin
  subst hkwin hdesktop
  have hlaunches : launches s name = true := by
    rw [launches, hnumber]
    exact congrArg (succeeded ·.result?) hran
  have hscript : scriptCalls s name =
      (loading s name).calls ++ runCalls (loading s name).tool number name := by
    simp only [scriptCalls, hnumber, Option.toList_some, List.flatMap_singleton]
  have hshows : ((s.2.after (loading s name).calls).after
      (runCalls (loading s name).tool number name)).Shows name endWord s.2.now Kwin.pauses.length
        text := hshows
  refine ⟨?_, stop?_eq_none_iff.2 ⟨hfull, ?_⟩⟩
  · rw [heard?, if_pos hlaunches, scriptLooks, hscript, ← Desktop.after_after]
    exact hshows.findSome?_looks hend
  · rw [errand, Option.elim_some, looksFor, if_pos hlaunches, scriptLooks, hscript,
      Desktop.reads_append, Desktop.reads_append, hreads, ← Desktop.after_after,
      hshows.reads_looks hend]
    have hruns : (s.2.after (loading s name).calls).reads
        (runCalls (loading s name).tool number name) = true := hruns
    rw [hruns]
    rfl

/-- Whether a desktop answers each message of the first tool with a one. -/
def Desktop.Obeys (d : Desktop) : Prop :=
  ∀ past words limit, d.host past (message firstTool words limit) = .finished 0 "1" ""

theorem Desktop.Obeys.loading {d : Desktop} (h : d.Obeys) (name : String) :
    loading ({}, d) name =
      { tool := firstTool, calls := loadCalls firstTool d.scriptPath name,
        number? := some "1" } := by
  have hreply : (d.after [clearCall firstTool name]).reply
      (loadCall firstTool d.scriptPath name) = .finished 0 "1" "" := h ..
  have hone : scriptNumber? "1" = some "1" := by decide +kernel
  have hnumber : d.number? firstTool name = some "1" := by
    rw [Desktop.number?, hreply]
    exact hone
  exact loading_of_some (s := ({}, d)) hnumber

theorem Desktop.Obeys.launches {d : Desktop} (h : d.Obeys) (name : String) :
    launches ({}, d) name = true := by
  have hreply : (d.after (loadCalls firstTool d.scriptPath name)).reply (runCall firstTool "1") =
      .finished 0 "1" "" := h ..
  simp only [Kwin.launches, h.loading name, Option.any_some, hreply]
  rfl

theorem Desktop.Obeys.scriptCalls {d : Desktop} (h : d.Obeys) (name : String) :
    scriptCalls ({}, d) name =
      loadCalls firstTool d.scriptPath name ++ runCalls firstTool "1" name := by
  simp only [Kwin.scriptCalls, h.loading name, Option.toList_some, List.flatMap_singleton]

/-- A desktop on which every command succeeds and prints a one, with a text in its journal. -/
def Desktop.showing (text : String) : Desktop where
  host _ call :=
    if call.words.head? = some "journalctl" then .finished 0 text "" else .finished 0 "1" ""

theorem Desktop.now_showing (text : String) : (Desktop.showing text).now = .ofInt 0 := by
  simp only [Desktop.showing]

theorem Desktop.reads_of_forall {d : Desktop} {calls : List Call}
    (h : ∀ past, ∀ call ∈ calls, (d.host past call).isText = true) : d.reads calls = true := by
  induction calls generalizing d with
  | nil => rfl
  | cons call rest ih =>
    rw [Desktop.reads_cons, Bool.and_eq_true]
    exact ⟨h _ call List.mem_cons_self, ih fun past other hother =>
      h past other (List.mem_cons_of_mem _ hother)⟩

/-- On such a desktop a script is delivered, whatever it has done before. -/
theorem delivers_of_host_eq {d : Desktop} {text : String}
    (hhost : d.host = (Desktop.showing text).host) (hfull : d.full = none) :
    Delivers ({}, d) text := by
  have hobeys : d.Obeys := by
    intro past words limit
    have hne : (some firstTool = some "journalctl") = False := by decide
    rw [hhost]
    simp only [Desktop.showing, message, List.head?_cons, hne, if_false]
  have hlook : ∀ past since, d.host past (lookCall since) = .finished 0 text "" := by
    intro past since
    rw [hhost]
    simp only [Desktop.showing, lookCall, journalCommand, List.head?_cons, if_true]
  have htext : ∀ past call, (d.host past call).isText = true := by
    intro past call
    rw [hhost]
    simp only [Desktop.showing]
    split <;> rfl
  unfold Delivers
  intro name placed
  obtain ⟨pauses, log, hload⟩ := talks_load name ({}, placed)
  have hreads : ∀ calls, placed.reads calls = true := fun calls =>
    Desktop.reads_of_forall fun past call _ => htext past call
  rw [Desktop.answer, if_pos (hreads _), toolAfter, if_pos (hreads _), Desktop.made_of_reads (hreads _),
    Desktop.Obeys.loading (d := placed) hobeys name] at hload
  refine ⟨hfull, "1", {}, _, log, hload, ⟨"1", "", hobeys ..⟩, ?_, 0, by decide,
    ⟨0, "", hlook ..⟩, ?_⟩
  · exact Desktop.reads_of_forall fun past call _ => htext past call
  · intro i hi
    exact absurd hi (Nat.not_lt_zero i)

theorem delivers_showing (text : String) : Delivers ({}, .showing text) text :=
  delivers_of_host_eq (by rfl) (by rfl)

/-- A fresh source hears on such a desktop what the text says, and nothing stops it. -/
theorem output?_showing {text : String} {output : List String}
    (h : payloads (marker .listing (.ofInt 0)) text = output) (hend : endWord ∈ output) :
    output? ({}, .showing text) = some output ∧
      stop? ({}, .showing text) (listingCalls ({}, .showing text)) = none := by
  have hnow : payloads (marker .listing (Desktop.showing text).now) text = output := by
    rw [Desktop.now_showing]
    exact h
  rw [← hnow] at hend ⊢
  exact (delivers_showing text).output?_eq hend

/-! ## Listings -/

theorem isLine_marker (occasion : Occasion) (now : Binary64) :
    IsLine (marker occasion now).toList := by
  obtain ⟨millis, hmarker⟩ : ∃ millis : Int, marker occasion now =
      "WINDOW_OPACITY_" ++ occasion.word ++ "_" ++ toString millis := ⟨_, rfl⟩
  have hword : IsLine occasion.word.toList := by
    cases occasion with
    | listing => decide
    | opacity => decide
  have hdigits : ∀ n : Nat, IsLine (toString n).toList := fun n =>
    isLine_of_digits fun c => Numeral.isDigit_of_mem_toString
  have hmillis : IsLine (toString millis).toList := by
    cases millis with
    | ofNat n => exact hdigits n
    | negSucc n =>
      show IsLine ("-" ++ toString (n + 1)).toList
      rw [String.toList_append, isLine_append]
      exact ⟨by decide, hdigits (n + 1)⟩
  rw [hmarker]
  simp only [String.toList_append, isLine_append]
  exact ⟨⟨⟨by decide, hword⟩, by decide⟩, hmillis⟩

/-- What is listed is what can be read out of the text that the journal shows. -/
theorem run_list_of_delivers {s : Seat} {text : String} (h : Delivers s text)
    (hend : endWord ∈ payloads (marker .listing s.2.now) text) :
    (list.run s).result =
      match windowPayloads (payloads (marker .listing s.2.now) text) with
      | .error fault => .error (.source ("Could not enumerate windows: " ++ fault.message))
      | .ok found => ((readWindows s.2.room found).run s).result := by
  obtain ⟨houtput, hstop⟩ := h.output?_eq hend
  have hverdict : verdict (output? s) =
      windowPayloads (payloads (marker .listing s.2.now) text) := by
    rw [houtput]
    rfl
  rw [result_list, hstop, hverdict]
  cases windowPayloads (payloads (marker .listing s.2.now) text) with
  | error fault => rfl
  | ok found =>
    obtain ⟨log', hread⟩ := run_readWindows s.2.room found s
    simp only [hread]
    rfl

/-- **What a listing gives.** Where the script is delivered and the journal shows the lines that it
printed, among any others that do not hold its marker, the source lists the windows that were
printed exactly if their texts are plain, and if their number can be read. -/
theorem list_eq_ok_iff {s : Seat} {lines : List (List Char)} {windows : List Shown}
    (hdelivers : Delivers s (String.ofList (join ['\n'] lines)))
    (hlines : lines.filter (occursIn (opening (marker .listing s.2.now))) =
      printed (marker .listing s.2.now) windows) :
    (list.run s).result = .ok (windows.map Shown.window) ↔
      (∀ w ∈ windows, w.IsPlain) ∧ Numeral.isShort windows.length = true := by
  have hmarker := isLine_marker .listing s.2.now
  have hend : endWord ∈ payloads (marker .listing s.2.now) (String.ofList (join ['\n'] lines)) := by
    rw [payloads_journal hmarker hlines]
    simp
  rw [run_list_of_delivers hdelivers hend, ← readWindows_journal_iff hmarker hlines s.2.room s]
  cases windowPayloads (payloads (marker .listing s.2.now) (String.ofList (join ['\n'] lines))) with
  | error fault => simp
  | ok found => simp

theorem list_two_windows :
    let windows : List Shown := [
      { id := "\x7b1\x7d", resourceClass := some "konsole", resourceName := some "konsole"
        caption := some "\"Größe\"\n\\ WINDOW_OPACITY_ENUM_0:END", isNormal := true
        isFullScreen := false, opacity := some none },
      { id := "", resourceClass := none, resourceName := none, caption := none
        isNormal := false, isFullScreen := true, opacity := none }]
    let name := marker .listing (.ofInt 0)
    let lines := "WINDOW_OPACITY_ENUM_1:COUNT:7".toList :: (printed name windows ++ [[]])
    let text := String.ofList (join ['\n'] lines)
    let s : Seat := ({}, .showing text)
    Delivers s text ∧ lines.filter (occursIn (opening name)) = printed name windows ∧
      (list.run s).result = .ok (windows.map Shown.window) := by
  intro windows name lines text s
  have hdelivers : Delivers s text := delivers_showing text
  have hlines : lines.filter (occursIn (opening name)) = printed name windows := by
    decide +kernel
  have hmarker : marker .listing s.2.now = name :=
    congrArg (marker .listing) (Desktop.now_showing text)
  have hshort : Numeral.isShort windows.length = true := Numeral.isShort_of_lt (by decide +kernel)
  refine ⟨hdelivers, hlines, (list_eq_ok_iff hdelivers ?_).2 ⟨by decide +kernel, hshort⟩⟩
  rw [hmarker]
  exact hlines

/-- A window with a line separator in its title, and the listing of all there is has no window. -/
theorem list_line_separator :
    let w : Shown := {
      id := "1", resourceClass := some "konsole", resourceName := none
      caption := some "one\u2028two", isNormal := true, isFullScreen := false, opacity := none }
    let name := marker .listing (.ofInt 0)
    let lines := printed name [w]
    let text := String.ofList (join ['\n'] lines)
    let s : Seat := ({}, .showing text)
    Delivers s text ∧ lines.filter (occursIn (opening name)) = printed name [w] ∧
      (list.run s).result = .ok [] := by
  intro w name lines text s
  have hlines : lines.filter (occursIn (opening name)) = printed name [w] := by decide +kernel
  have hmarker : marker .listing s.2.now = name :=
    congrArg (marker .listing) (Desktop.now_showing text)
  have hline : IsLine name.toList := isLine_marker .listing (.ofInt 0)
  -- The only payload of the window is what stands before the separator.
  obtain ⟨payload, more, hpayloads, hend, hnone⟩ :=
    payloadsOf_of_not_isPlain hline (w := w) (by decide +kernel)
  have hmore : more = [] := by
    have hlength : (payloadsOf name w).length = 1 := by decide +kernel
    rw [hpayloads] at hlength
    exact List.length_eq_zero_iff.1 (Nat.succ.inj hlength)
  subst hmore
  have hjournal : payloads (marker .listing s.2.now) text = [header 1, payload, endWord] := by
    rw [hmarker]
    simpa [hpayloads] using payloads_journal hline hlines
  have hcount : windowPayloads [header 1, payload, endWord] = .ok [payload] := by
    have hfilter : [payload].filter (· != endWord) = [payload] := by simpa using hend
    have hwhole : [header 1, payload, endWord] = header 1 :: ([payload] ++ [endWord]) := rfl
    rw [hwhole, windowPayloads_header_eq_ok_iff, hfilter]
    exact ⟨Numeral.isShort_of_lt (by decide +kernel), List.length_singleton, rfl⟩
  have hlist := run_list_of_delivers (delivers_showing text) (by
    rw [hjournal]
    simp)
  obtain ⟨log, hread⟩ := run_readWindows s.2.room [payload] s
  have hwindows : windowsOf s.2.room [payload] = .ok [] := by
    rw [windowsOf, List.mapM_cons, windowIn, hnone]
    rfl
  refine ⟨delivers_showing text, hlines, ?_⟩
  rw [hlist, hjournal, hcount]
  exact (congrArg Outcome.result hread).trans hwindows

end Kwin

end Translucency
