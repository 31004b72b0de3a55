import Translucency.Proofs.Kwin.Talking

/-!
# What the commands of an operation do

An operation of the source is a row of commands. Which ones they are, and what they come to, is told
by the replies: how a script is loaded (`talks_load`), whether it is run and what it takes to run it
(`run_runScript`), and what looking at the journal gives and how often it is looked at
(`talks_lookAfter`).

All of this is told as if every reply were a text. That is enough, for the row that is made
otherwise is cut off at the first reply that is none. So there are two faults only. The script may
not be stored, and then no command is issued; or a command puts out bytes that are no text
(`stop?`). Where neither is the case, each of these acts gives a result, changes nothing of the
source but the tool in use, and adds its calls to those before, and what becomes of a whole operation
can be read off the replies alone.
-/

namespace Translucency.Kwin

/-! ## Loading a script -/

/-- The call that makes room for a script. -/
def clearCall (tool name : String) : Call :=
  message tool ["/Scripting", "org.kde.kwin.Scripting.unloadScript", name] (.ofInt 1)

/-- The call that loads it. -/
def loadCall (tool path name : String) : Call :=
  message tool ["/Scripting", "org.kde.kwin.Scripting.loadScript", path, name] (.ofInt 2)

/-- The calls of a tool that loads a script. -/
def loadCalls (tool path name : String) : List Call :=
  [clearCall tool name, loadCall tool path name]

/-- The number under which a tool loads a script on a desktop. What was loaded under the name is
cleared first, and the answer to that does not matter. -/
def Desktop.number? (d : Desktop) (tool name : String) : Option String :=
  ((d.after [clearCall tool name]).reply (loadCall tool d.scriptPath name)).number?

theorem talks_loadWith (tool name : String) (s : Seat) :
    Talks (loadWith tool name) s (loadCalls tool s.2.scriptPath name) s.1.tool
      (s.2.number? tool name) := by
  have hclear := talks_send tool ["/Scripting", "org.kde.kwin.Scripting.unloadScript", name]
    (.ofInt 1) s
  refine hclear.bind_same [loadCall tool s.2.scriptPath name] fun _ pauses => ?_
  let cleared : Seat := (s.1, { s.2.after [clearCall tool name] with pauses := pauses })
  have hload : Talks (send tool ["/Scripting", "org.kde.kwin.Scripting.loadScript",
      cleared.2.scriptPath, name] (.ofInt 2)) cleared [loadCall tool s.2.scriptPath name] s.1.tool
      (cleared.2.reply (loadCall tool s.2.scriptPath name)).result? := talks_send ..
  refine Talks.read (hload.bind_same [] fun _ pauses => ?_)
  -- Both ends of the choice give what the reply says about the number.
  have hnumber := Reply.number?_eq (cleared.2.reply (loadCall tool s.2.scriptPath name))
  rw [Desktop.number?, show (s.2.after [clearCall tool name]).reply _ = cleared.2.reply _ from rfl,
    ← hnumber]
  split
  · exact Talks.pure _ _
  · exact Talks.pure _ _

/-- How a script is loaded: the tool in use afterwards, the calls that were made, and the number. -/
structure Loading where
  tool : String
  calls : List Call
  number? : Option String

/-- The tool in use loads a script, and if that is the first one and fails, the second one does. -/
def loading (s : Seat) (name : String) : Loading :=
  let calls := loadCalls s.1.tool s.2.scriptPath name
  match s.2.number? s.1.tool name with
  | some number => { tool := s.1.tool, calls, number? := some number }
  | none =>
    if s.1.tool = firstTool then
      { tool := secondTool
        calls := calls ++ loadCalls secondTool s.2.scriptPath name
        number? := (s.2.after calls).number? secondTool name }
    else { tool := s.1.tool, calls, number? := none }

theorem loading_of_some {s : Seat} {name number : String}
    (h : s.2.number? s.1.tool name = some number) :
    loading s name =
      { tool := s.1.tool, calls := loadCalls s.1.tool s.2.scriptPath name,
        number? := some number } := by
  rw [loading, h]

theorem loading_of_none {s : Seat} {name : String} (h : s.2.number? s.1.tool name = none) :
    loading s name =
      let calls := loadCalls s.1.tool s.2.scriptPath name
      if s.1.tool = firstTool then
        { tool := secondTool
          calls := calls ++ loadCalls secondTool s.2.scriptPath name
          number? := (s.2.after calls).number? secondTool name }
      else { tool := s.1.tool, calls, number? := none } := by
  rw [loading, h]

/-- The tool in use after a script was to be loaded. It is the other one from the moment at which the
first one has said that it loads nothing, and it has said so if its replies are texts. -/
def toolAfter (s : Seat) (name : String) : String :=
  if s.2.reads (loadCalls s.1.tool s.2.scriptPath name) then (loading s name).tool else s.1.tool

/-- A script is loaded with the tool in use or with the second one, in calls to these. -/
theorem talks_load (name : String) (s : Seat) :
    Talks (load name) s (loading s name).calls (toolAfter s name) (loading s name).number? := by
  have hfirst := talks_loadWith s.1.tool name s
  refine Talks.read ?_
  rw [toolAfter]
  cases hnumber : s.2.number? s.1.tool name with
  | some number =>
    rw [hnumber] at hfirst
    rw [loading_of_some hnumber, ← List.append_nil (loadCalls ..)]
    exact hfirst.bind fun _ pauses => Talks.pure _ _
  | none =>
    rw [hnumber] at hfirst
    rw [loading_of_none hnumber]
    by_cases htool : s.1.tool = firstTool
    · -- The second tool is taken into use before it is known whether it does any better.
      simp only [htool, if_true] at hfirst ⊢
      refine hfirst.bind fun _ pauses => ?_
      exact Talks.changeTool secondTool (talks_loadWith secondTool name _)
    · simp only [htool, if_false]
      rw [← List.append_nil (loadCalls ..)]
      exact hfirst.bind fun _ pauses => Talks.pure _ _

/-- A script that was loaded was loaded with the tool that is in use then. -/
theorem toolAfter_of_reads {s : Seat} {name : String}
    (h : s.2.reads (loading s name).calls = true) :
    toolAfter s name = (loading s name).tool := by
  have hfirst : s.2.reads (loadCalls s.1.tool s.2.scriptPath name) = true := by
    cases hnumber : s.2.number? s.1.tool name with
    | some number => rwa [loading_of_some hnumber] at h
    | none =>
      rw [loading_of_none hnumber] at h
      by_cases htool : s.1.tool = firstTool
      · simp only [htool, if_true] at h ⊢
        rw [Desktop.reads_append, Bool.and_eq_true] at h
        exact h.1
      · simpa only [htool, if_false] using h
  rw [toolAfter, if_pos hfirst]

/-- A tool that is not kept is replaced by the second one. -/
theorem toolAfter_cases (s : Seat) (name : String) :
    toolAfter s name = s.1.tool ∨ toolAfter s name = secondTool := by
  rw [toolAfter, loading]
  cases s.2.reads (loadCalls s.1.tool s.2.scriptPath name) with
  | false => exact .inl rfl
  | true =>
    cases s.2.number? s.1.tool name with
    | some number => exact .inl rfl
    | none =>
      by_cases htool : s.1.tool = firstTool
      · simp [htool]
      · simp [htool]

/-! ## Looks at the journal -/

/-- The call that looks at the journal. -/
def lookCall (since : Binary64) : Call := ⟨journalCommand since, .ofInt 2⟩

/-- The replies of a desktop to some looks in a row. -/
def Desktop.looks (d : Desktop) (since : Binary64) (count : Nat) : List Reply :=
  (List.range count).map fun i =>
    (d.after (List.replicate i (lookCall since))).reply (lookCall since)

@[simp] theorem Desktop.length_looks (d : Desktop) (since : Binary64) (count : Nat) :
    (d.looks since count).length = count := by
  rw [looks, List.length_map, List.length_range]

theorem Desktop.looks_succ (d : Desktop) (since : Binary64) (count : Nat) :
    d.looks since (count + 1) =
      d.reply (lookCall since) :: (d.after [lookCall since]).looks since count := by
  rw [looks, List.range_succ_eq_map, List.map_cons, List.map_map, List.replicate_zero,
    Desktop.after_nil, looks]
  congr 1
  apply List.map_congr_left
  intro i _
  rw [Function.comp_apply, Desktop.after_after, List.replicate_succ, List.singleton_append]

/-- The number of looks that are taken: up to the first one that shows the awaited payload, or all
of them. -/
def looksTaken (marker awaited : String) (replies : List Reply) : Nat :=
  min (replies.findIdx (fun reply => (reply.payloads? marker awaited).isSome) + 1) replies.length

theorem looksTaken_cons (marker awaited : String) (reply : Reply) (later : List Reply) :
    looksTaken marker awaited (reply :: later) =
      if (reply.payloads? marker awaited).isSome then 1
      else looksTaken marker awaited later + 1 := by
  rw [looksTaken, List.findIdx_cons, List.length_cons]
  cases (reply.payloads? marker awaited).isSome with
  | true => simp
  | false =>
    simp only [cond_false, Bool.false_eq_true, if_false, looksTaken]
    omega

theorem looksTaken_le (marker awaited : String) (replies : List Reply) :
    looksTaken marker awaited replies ≤ replies.length := Nat.min_le_right ..

/-- Before the last look that is taken nothing awaited was there. -/
theorem payloads?_eq_none_of_mem_dropLast {marker awaited : String} {replies : List Reply}
    {reply : Reply} (h : reply ∈ (replies.take (looksTaken marker awaited replies)).dropLast) :
    reply.payloads? marker awaited = none := by
  rw [List.dropLast_eq_take, List.take_take, List.length_take, List.mem_take_iff_getElem] at h
  obtain ⟨i, hi, rfl⟩ := h
  have hbefore : i < replies.findIdx fun reply => (reply.payloads? marker awaited).isSome := by
    rw [looksTaken] at hi
    omega
  have hnot := List.not_of_lt_findIdx hbefore
  exact Option.isNone_iff_eq_none.1 (Option.isSome_eq_false_iff.1 hnot)

/-- The looks that are not taken do not matter. -/
theorem findSome?_take_looksTaken (marker awaited : String) (replies : List Reply) :
    (replies.take (looksTaken marker awaited replies)).findSome? (Reply.payloads? marker awaited) =
      replies.findSome? (Reply.payloads? marker awaited) := by
  induction replies with
  | nil => rfl
  | cons reply later ih =>
    rw [looksTaken_cons, List.findSome?_cons]
    cases hsome : reply.payloads? marker awaited with
    | some found => simp [hsome]
    | none => simp [hsome, ih]

/-- **What looking at the journal gives**: the payloads of the first reply that shows the awaited
one. After that it is not looked again. -/
theorem talks_lookAfter (marker awaited : String) (since : Binary64) (delays : List Nat)
    (s : Seat) :
    let replies := s.2.looks since delays.length
    Talks (Part.second.run (lookAfter marker awaited since delays)) s
      (List.replicate (looksTaken marker awaited replies) (lookCall since)) s.1.tool
      (replies.findSome? (Reply.payloads? marker awaited)) := by
  intro replies
  induction delays generalizing s with
  | nil =>
    rw [lookAfter, Part.run_bind]
    exact Talks.log .debug .kwin _ (Talks.pure none s)
  | cons delay rest ih =>
    let first := s.2.reply (lookCall since)
    let later := (s.2.after [lookCall since]).looks since rest.length
    have hreplies : replies = first :: later := s.2.looks_succ since rest.length
    rw [lookAfter, Part.run_bind]
    simp only [Part.run_bind]
    refine Talks.pause _ fun pauses => ?_
    have hlook : Talks (perform (journalCommand since) (.ofInt 2))
        (s.1, { s.2 with pauses := pauses }) [lookCall since] s.1.tool first.result? :=
      talks_perform ..
    rw [hreplies, List.findSome?_cons, looksTaken_cons]
    cases hpayloads : first.payloads? marker awaited with
    | some found =>
      obtain ⟨result, hresult, rfl, hmem⟩ := Reply.payloads?_eq_some_iff.1 hpayloads
      refine hlook.bind_same [] fun _ pauses => ?_
      rw [hresult]
      simp only [List.contains_iff_mem.2 hmem, if_true]
      exact Talks.pure _ _
    | none =>
      -- Whether nothing came or nothing awaited, the next look is taken.
      refine hlook.bind_same (List.replicate (looksTaken marker awaited later) (lookCall since))
        fun _ pauses => ?_
      have hnext := ih (s.1, { s.2.after [lookCall since] with pauses := pauses })
      cases hresult : first.result? with
      | none => exact hnext
      | some result =>
        have hmiss : (payloads marker result.output).contains awaited = false := by
          rw [← Bool.not_eq_true, List.contains_iff_mem]
          intro hmem
          rw [Reply.payloads?_eq_some_iff.2 ⟨result, hresult, rfl, hmem⟩] at hpayloads
          cases hpayloads
        simp only [hmiss, Bool.false_eq_true, if_false]
        exact hnext

/-! ## Running a script -/

/-- The call that runs a loaded script. -/
def runCall (tool number : String) : Call :=
  message tool ["/Scripting/Script" ++ number, "org.kde.kwin.Script.run"] (.ofInt 2)

/-- The call that stops it. -/
def stopCall (tool number : String) : Call :=
  message tool ["/Scripting/Script" ++ number, "org.kde.kwin.Script.stop"] halfSecond

/-- The call that unloads it. -/
def unloadCall (tool name : String) : Call :=
  message tool ["/Scripting", "org.kde.kwin.Scripting.unloadScript", name] halfSecond

/-- The calls of a tool that runs a loaded script. -/
def runCalls (tool number name : String) : List Call :=
  [runCall tool number, stopCall tool number, unloadCall tool name]

/-- The calls for a script up to the looks at the journal. -/
def scriptCalls (s : Seat) (name : String) : List Call :=
  let l := loading s name
  l.calls ++ l.number?.toList.flatMap fun number => runCalls l.tool number name

/-- Whether a script is loaded and run. To be stopped and unloaded it need not. -/
def launches (s : Seat) (name : String) : Bool :=
  let l := loading s name
  l.number?.any fun number =>
    succeeded ((s.2.after l.calls).reply (runCall l.tool number)).result?

/-- The replies of a desktop to looks at the journal after a script. -/
def scriptLooks (s : Seat) (name : String) : List Reply :=
  (s.2.after (scriptCalls s name)).looks s.2.now pauses.length

/-- The payloads that a script is heard of, if it is run and the journal shows the awaited one. -/
def heard? (s : Seat) (name awaited : String) : Option (List String) :=
  if launches s name then (scriptLooks s name).findSome? (Reply.payloads? name awaited) else none

/-- The number of looks at the journal after a script. One that is not run is not looked for. -/
def looksFor (s : Seat) (name awaited : String) : Nat :=
  if launches s name then looksTaken name awaited (scriptLooks s name) else 0

/-- The replies to these looks. -/
def looksMade (s : Seat) (name awaited : String) : List Reply :=
  (scriptLooks s name).take (looksFor s name awaited)

theorem length_looksMade (s : Seat) (name awaited : String) :
    (looksMade s name awaited).length = looksFor s name awaited := by
  rw [looksMade, List.length_take, Nat.min_eq_left]
  rw [looksFor]
  split
  · exact looksTaken_le ..
  · exact Nat.zero_le _

/-- What is heard is told by the looks that are taken. -/
theorem heard?_eq (s : Seat) (name awaited : String) :
    heard? s name awaited =
      (looksMade s name awaited).findSome? (Reply.payloads? name awaited) := by
  rw [heard?, looksMade, looksFor]
  split
  · exact (findSome?_take_looksTaken ..).symm
  · rfl

/-- All of these looks but the last show nothing awaited. -/
theorem payloads?_eq_none_of_mem_looksMade {s : Seat} {name awaited : String} {reply : Reply}
    (h : reply ∈ (looksMade s name awaited).dropLast) : reply.payloads? name awaited = none := by
  rw [looksMade, looksFor] at h
  split at h
  · exact payloads?_eq_none_of_mem_dropLast h
  · cases h

/-- The calls for a script of which something may be awaited. -/
def errand (s : Seat) (name : String) (awaited : Option String) : List Call :=
  scriptCalls s name ++
    List.replicate (awaited.elim 0 (looksFor s name)) (lookCall s.2.now)

/-- What such a script is heard of; where nothing is awaited, that it was run. -/
def news? (s : Seat) (name : String) : Option String → Option (List String)
  | none => if launches s name then some [] else none
  | some awaited => heard? s name awaited

/-- What stops an errand: the script cannot be stored, or a reply is no text. -/
def stop? (s : Seat) (calls : List Call) : Option Fault :=
  match s.2.full with
  | some reason => some (.broken reason)
  | none => if s.2.reads calls then none else some (.mishap .undecodable)

/-- A seat after an errand. One whose script cannot be stored is not set out on. -/
def seatAfter (s : Seat) (name script : String) (calls : List Call) (pauses : List Binary64) :
    Seat :=
  match s.2.full with
  | some _ => s
  | none =>
    ({ s.1 with tool := toolAfter s name },
      { s.2.after (s.2.made calls) with scripts := s.2.scripts ++ [script], pauses := pauses })

theorem Desktop.run_place_of_full {d : Desktop} {reason : String} (h : d.full = some reason)
    (script : String) : (place script).run d = ⟨.error (.broken reason), d, []⟩ := by
  rw [place, Act.run_bind_eq (Act.run_read d)]
  simp only [h]
  rfl

theorem Desktop.run_place_of_not_full {d : Desktop} (h : d.full = none) (script : String) :
    (place script).run d = ⟨.ok (), { d with scripts := d.scripts ++ [script] }, []⟩ := by
  rw [place, Act.run_bind_eq (Act.run_read d)]
  split
  · next reason hfull =>
    rw [h] at hfull
    cases hfull
  · rfl

/-- A loaded script is run, stopped and unloaded, and only the reply to the first of these
matters. -/
theorem talks_runCalls {f : Option Result → Act Seat (Option (List String))} {s : Seat}
    {more : List Call} {news : Option (List String)} (number name : String)
    (hf : ∀ pauses, Talks (f (s.2.reply (runCall s.1.tool number)).result?)
      (s.1, { s.2.after (runCalls s.1.tool number name) with pauses := pauses }) more s.1.tool
        news) :
    Talks (do
      let path := "/Scripting/Script" ++ number
      let ran ← send s.1.tool [path, "org.kde.kwin.Script.run"] (.ofInt 2)
      let _ ← send s.1.tool [path, "org.kde.kwin.Script.stop"] halfSecond
      let _ ← send s.1.tool ["/Scripting", "org.kde.kwin.Scripting.unloadScript", name] halfSecond
      f ran) s (runCalls s.1.tool number name ++ more) s.1.tool news := by
  refine (talks_send ..).bind_same _ fun _ pauses => ?_
  refine (talks_send ..).bind_same _ fun _ pauses => ?_
  refine (talks_send ..).bind_same _ fun _ pauses => ?_
  have hcalls : ∀ first second third : Call,
      ((s.2.after [first]).after [second]).after [third] = s.2.after [first, second, third] := by
    simp
  have h := hf pauses
  rw [runCalls, ← hcalls] at h
  exact h

/-- Of a script that was not run nothing is looked for, and nothing is heard. -/
theorem nothing_of_not_launches {s : Seat} {name : String} (h : launches s name = false)
    (awaited : Option String) :
    awaited.elim 0 (looksFor s name) = 0 ∧ news? s name awaited = none := by
  cases awaited <;> simp [looksFor, news?, heard?, h]

/-- The script that was handed over changes nothing that a reply could depend on. -/
theorem exists_run_of_talks (s : Seat) (script : String) {a : Act Seat (Option (List String))}
    {calls : List Call} {tool : String} {news : Option (List String)}
    (h : Talks a (s.1, { s.2 with scripts := s.2.scripts ++ [script] }) calls tool news) :
    ∃ pauses log, a.run (s.1, { s.2 with scripts := s.2.scripts ++ [script] }) =
      ⟨(if s.2.reads calls = true then none else some (.mishap .undecodable)).elim (.ok news) .error,
        ({ s.1 with tool := tool },
          { s.2.after (s.2.made calls) with
            scripts := s.2.scripts ++ [script], pauses := pauses }), log⟩ := by
  obtain ⟨pauses, log, hrun⟩ := h
  refine ⟨pauses, log, ?_⟩
  have hreads : Desktop.reads { s.2 with scripts := s.2.scripts ++ [script] } calls =
      s.2.reads calls := rfl
  rw [hrun, Desktop.answer, hreads]
  cases s.2.reads calls <;> rfl

/-- **What becomes of a script.** Up to the journal, it is loaded and, if that gave a number, run,
stopped and unloaded. What is awaited is looked for if it was run. -/
theorem run_runScript (script name : String) (awaited : Option String) (s : Seat) :
    let calls := errand s name awaited
    ∃ pauses log, (runScript script name awaited).run s =
      ⟨(stop? s calls).elim (.ok (news? s name awaited)) .error,
        seatAfter s name script calls pauses, log⟩ := by
  intro calls
  unfold stop? seatAfter
  cases hfull : s.2.full with
  | some reason =>
    have hplace : (Part.second.run (Desktop.place script)).run s =
        ⟨.error (.broken reason), s, []⟩ :=
      Part.run_eq (p := Part.second) (Desktop.run_place_of_full hfull script)
    rw [runScript, Act.run_bind_eq (Act.run_read s), Act.run_bind_eq_of_error hplace]
    exact ⟨s.2.pauses, _, rfl⟩
  | none =>
    let placed : Seat := (s.1, { s.2 with scripts := s.2.scripts ++ [script] })
    have hplace : (Part.second.run (Desktop.place script)).run s = ⟨.ok (), placed, []⟩ :=
      Part.run_eq (p := Part.second) (Desktop.run_place_of_not_full hfull script)
    rw [runScript, Act.run_bind_eq (Act.run_read s), Act.run_bind_eq hplace, Outcome.after_nil,
      Outcome.after_nil]
    refine exists_run_of_talks s script ?_
    have hload : Talks (load name) placed (loading s name).calls (toolAfter s name)
        (loading s name).number? := talks_load name placed
    unfold calls errand scriptCalls
    rw [List.append_assoc]
    refine hload.bind_same _ fun hreads pauses => ?_
    rw [toolAfter_of_reads (s := s) hreads]
    cases hnumber : (loading s name).number? with
    | none =>
      have hlaunches : launches s name = false := by
        rw [launches, hnumber]
        rfl
      obtain ⟨hlooks, hnews⟩ := nothing_of_not_launches hlaunches awaited
      rw [hlooks, hnews]
      exact Talks.log .debug .kwin _ (Talks.pure none _)
    | some number =>
      let loaded : Seat := ({ s.1 with tool := (loading s name).tool },
        { placed.2.after (loading s name).calls with pauses := pauses })
      have hlaunches : launches s name =
          succeeded (loaded.2.reply (runCall loaded.1.tool number)).result? := by
        rw [launches, hnumber]
        rfl
      simp only [Option.toList_some, List.flatMap_singleton]
      refine Talks.read (talks_runCalls (s := loaded) number name fun pauses => ?_)
      simp only [← hlaunches]
      cases hlaunch : launches s name with
      | false =>
        obtain ⟨hlooks, hnews⟩ := nothing_of_not_launches hlaunch awaited
        rw [hlooks, hnews]
        exact Talks.pure none _
      | true =>
        cases awaited with
        | none =>
          rw [news?, if_pos hlaunch]
          exact Talks.pure (some []) _
        | some payload =>
          have hlooks := talks_lookAfter name payload s.2.now Kwin.pauses
            (loaded.1, { loaded.2.after (runCalls loaded.1.tool number name) with
              pauses := pauses })
          have hscript : scriptCalls s name =
              (loading s name).calls ++ runCalls (loading s name).tool number name := by
            simp only [scriptCalls, hnumber, Option.toList_some, List.flatMap_singleton]
          rw [news?, heard?, if_pos hlaunch, Option.elim_some, looksFor, if_pos hlaunch,
            scriptLooks, hscript, ← Desktop.after_after]
          exact hlooks

end Translucency.Kwin
