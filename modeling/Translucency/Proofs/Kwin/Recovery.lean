import Translucency.Proofs.Kwin.LostLines
import Translucency.Proofs.Kwin.Turns

/-!
# What a failure leaves behind

The tool in use is the first one until it fails to load a script. It may have failed for a moment
only, as a command that took too long does, and yet it is not tried again: the second tool is taken
into use before it has loaded anything, and nothing takes it out of use
(`tool_afterTurns_eq_firstTool_iff`). Only an operation that is stopped before that leaves the first
tool where it is.

Where there is no second tool, that is the end of the source. What it is asked for afterwards fails,
however well the first tool would do (`succeeds_iff_always_kept`).
-/

namespace Translucency.Kwin

namespace Turn

/-- Whether an operation leaves the first tool in use. The tool loads the script; or the operation is
not set out on; or a reply that is no text stops it before it is known that nothing was loaded. -/
def Keeps (t : Turn) (s : Seat) : Prop :=
  t.unready? ≠ none ∨ s.2.reads (loadCalls firstTool t.scriptPath t.name) = false ∨
    ((t.start s).2.number? firstTool t.name).isSome = true

/-- Whether the first tool does all that an operation needs: there is nothing to keep it from
starting, the tool loads the script and runs it, all of its replies are texts, and of a listing the
first look at the journal shows all lines. -/
def Healthy (t : Turn) (s : Seat) : Prop :=
  t.unready? = none ∧ ∃ number,
    let loads := loadCalls firstTool t.scriptPath t.name
    let runs := runCalls firstTool number t.name
    s.2.reads (loads ++ runs) = true ∧
    (t.start s).2.number? firstTool t.name = some number ∧
    succeeded ((s.2.after loads).reply (runCall firstTool number)).result? = true ∧
    (t.operation = .list → ∃ windows,
      ((s.2.after (loads ++ runs)).reply (lookCall t.now)).markedLines t.name =
        printed t.name windows ∧ Numeral.isShort windows.length = true)

end Turn

/-- Whether a host does not have a tool. -/
def Host.Lacks (host : Host) (tool : String) : Prop :=
  ∀ past call, call.words.head? = some tool → ∃ reason, host past call = .notStarted reason

/-! ## The tool in use -/

theorem toolAfter_eq_firstTool_iff (s : Seat) (name : String) :
    toolAfter s name = firstTool ↔
      s.1.tool = firstTool ∧
        (s.2.reads (loadCalls firstTool s.2.scriptPath name) = false ∨
          (s.2.number? firstTool name).isSome = true) := by
  rw [toolAfter]
  by_cases htool : s.1.tool = firstTool
  · rw [loading, htool]
    cases s.2.reads (loadCalls firstTool s.2.scriptPath name) with
    | false => simp
    | true =>
      cases s.2.number? firstTool name with
      | some number => simp
      | none => simp [secondTool, firstTool]
  · -- Any other tool is kept, whatever comes of the load.
    rw [loading]
    cases s.2.number? s.1.tool name with
    | some number => simp [htool]
    | none => simp [htool]

theorem tool_afterTurns_cases (host : Host) (history : List Turn) :
    (afterTurns host history).1.tool = firstTool ∨
      (afterTurns host history).1.tool = secondTool := by
  induction history with
  | nil => exact .inl rfl
  | cons t earlier ih =>
    rw [afterTurns, Turn.tool_after]
    split
    · rcases toolAfter_cases (t.start (afterTurns host earlier)) t.name with hkept | hsecond
      · rw [hkept]
        exact ih
      · exact .inr hsecond
    · exact ih

theorem Turn.tool_after_eq_firstTool_iff (t : Turn) (s : Seat) :
    (t.after s).1.tool = firstTool ↔ s.1.tool = firstTool ∧ t.Keeps s := by
  rw [tool_after, Keeps]
  split
  · next h =>
    rw [toolAfter_eq_firstTool_iff, or_iff_right (not_not_intro h)]
    exact Iff.rfl
  · next h => exact (and_iff_left (.inl h)).symm

/-- **The first tool is in use exactly as long as every operation has left it so.** -/
theorem tool_afterTurns_eq_firstTool_iff (host : Host) (history : List Turn) :
    (afterTurns host history).1.tool = firstTool ↔
      ∀ t earlier, t :: earlier <:+ history → t.Keeps (afterTurns host earlier) := by
  induction history with
  | nil =>
    apply iff_of_true
    · rfl
    · intro t earlier h
      simp at h
  | cons t earlier ih =>
    -- What is asked of the whole history is asked of the latest turn and of those before it.
    rw [afterTurns, Turn.tool_after_eq_firstTool_iff, ih]
    simp only [List.suffix_cons_iff]
    constructor
    · rintro ⟨hearlier, hlast⟩ u before (hsame | hbefore)
      · cases hsame
        exact hlast
      · exact hearlier u before hbefore
    · intro h
      exact ⟨fun u before hbefore => h u before (.inr hbefore), h t earlier (.inl rfl)⟩

/-! ## Without the second tool -/

theorem number?_of_lacks {d : Desktop} {tool name : String} (h : d.host.Lacks tool) :
    d.number? tool name = none := by
  obtain ⟨reason, hreply⟩ :=
    h (d.after [clearCall tool name]).calls (loadCall tool d.scriptPath name) rfl
  have hnotStarted : (d.after [clearCall tool name]).reply (loadCall tool d.scriptPath name) =
      .notStarted reason := hreply
  rw [Desktop.number?, hnotStarted]
  rfl

/-- With the second tool in use nothing is run. -/
theorem launches_of_lacks {s : Seat} (htool : s.1.tool = secondTool)
    (h : s.2.host.Lacks secondTool) (name : String) : launches s name = false := by
  have hne : secondTool ≠ firstTool := by decide
  have hnumber : s.2.number? s.1.tool name = none := by
    rw [htool]
    exact number?_of_lacks h
  rw [launches, loading_of_none hnumber]
  simp [htool, hne]

namespace Turn

variable {t : Turn} {s : Seat}

/-- With the first tool in use an operation is done if that tool does all it needs. -/
theorem Healthy.succeeds (h : t.Healthy s) (htool : s.1.tool = firstTool) : t.Succeeds s := by
  obtain ⟨hready, number, hreads, hnumber, hran, hshown⟩ := h
  -- With that tool in use, what it would do is what is done.
  have hloading : loading (t.start s) t.name =
      { tool := firstTool, calls := loadCalls firstTool t.scriptPath t.name,
        number? := some number } := by
    have hstart : (t.start s).1.tool = firstTool := htool
    rw [← hstart] at hnumber ⊢
    exact loading_of_some hnumber
  have hlaunch : launches (t.start s) t.name = true := by
    rw [launches, hloading]
    exact hran
  have hcalls : scriptCalls (t.start s) t.name =
      loadCalls firstTool t.scriptPath t.name ++ runCalls firstTool number t.name := by
    simp only [scriptCalls, hloading, Option.toList_some, List.flatMap_singleton]
  rw [← hcalls] at hshown hreads
  unfold unready? at hready
  unfold name at hlaunch hshown hreads
  cases hop : t.operation with
  | list =>
    obtain ⟨windows, hlines, hshort⟩ := hshown hop
    rw [hop] at hready hlaunch hlines hreads
    have hlist : (list.run (t.start s)).result = .ok (windows.map Shown.window) :=
      list_of_first_look (Option.map_eq_none_iff.1 hready) hreads hlaunch hlines hshort
    rw [Succeeds, outcome, act, hop, Act.run_map, hlist]
    rfl
  | setOpacity w opacity =>
    rw [hop] at hready hlaunch hreads
    have hstop : t.stop? s = none := by
      have hrow : t.row s = scriptCalls (t.start s) (marker .opacity t.now) := by
        rw [row, hop]
        exact List.append_nil _
      rw [stop?, unready?, hop, hrow, hreads]
      simp only at hready ⊢
      rw [hready]
      rfl
    have hending : t.ending s = .ok () := by
      rw [ending, name, hop]
      exact if_pos hlaunch
    rw [Succeeds, result_outcome, hstop, hending]
    rfl

end Turn

/-- Where there is no second tool, nothing is done with it. -/
theorem not_succeeds_of_tool_ne {host : Host} {history : List Turn}
    (habsent : host.Lacks secondTool)
    (hne : (afterTurns host history).1.tool ≠ firstTool) (t : Turn) :
    ¬ t.Succeeds (afterTurns host history) := by
  have hsecond : (t.start (afterTurns host history)).1.tool = secondTool :=
    (tool_afterTurns_cases host history).resolve_left hne
  have hhost : (t.start (afterTurns host history)).2.host = host := host_afterTurns host history
  apply Turn.not_succeeds_of_not_launches
  apply launches_of_lacks hsecond
  rw [hhost]
  exact habsent

/-- **When a past failure breaks a later operation.** On a host without the second tool, and for
every history of a fresh source: an operation for which the first tool does all that is needed is
done exactly if every operation before has left that tool in use. -/
theorem succeeds_iff_always_kept {host : Host} {history : List Turn} {t : Turn}
    (habsent : host.Lacks secondTool) (hhealthy : t.Healthy (afterTurns host history)) :
    t.Succeeds (afterTurns host history) ↔
      ∀ u earlier, u :: earlier <:+ history → u.Keeps (afterTurns host earlier) := by
  rw [← tool_afterTurns_eq_firstTool_iff]
  constructor
  · intro hsucceeds
    by_contra hne
    exact not_succeeds_of_tool_ne habsent hne t hsucceeds
  · intro hfirst
    exact hhealthy.succeeds hfirst

/-- A host without the second tool, on which every command of the first one that names a given path
gets a given reply, and any other one succeeds. -/
def Host.replyingTo (path : String) (reply : Reply) : Host := fun _ call =>
  if call.words.head? = some secondTool then .notStarted "No such file or directory: 'qdbus'"
  else if path ∈ call.words then reply
  else .finished 0 "1" ""

theorem Host.lacks_replyingTo (path : String) (reply : Reply) :
    (Host.replyingTo path reply).Lacks secondTool := by
  intro past call h
  exact ⟨_, if_pos h⟩

theorem Host.replyingTo_of_not_mem {path : String} {reply : Reply} {call : Call}
    (hfirst : call.words.head? = some firstTool) (h : path ∉ call.words) (past : List Call) :
    Host.replyingTo path reply past call = .finished 0 "1" "" := by
  have hne : (some firstTool = some secondTool) = False := by decide
  rw [Host.replyingTo, hfirst, if_neg (by simp [hne]), if_neg h]

/-- An operation that does not name the path can be done from there. -/
theorem Turn.healthy_of_replyingTo {path : String} {reply : Reply} {t : Turn} {s : Seat}
    (hhost : s.2.host = .replyingTo path reply) (hready : t.unready? = none)
    (hset : t.operation ≠ .list)
    (hpath : ∀ call ∈ loadCalls firstTool t.scriptPath t.name ++ runCalls firstTool "1" t.name,
      path ∉ call.words) : t.Healthy s := by
  have hreply : ∀ past, ∀ call ∈ loadCalls firstTool t.scriptPath t.name ++
      runCalls firstTool "1" t.name, s.2.host past call = .finished 0 "1" "" := by
    intro past call hmem
    have hfirst : call.words.head? = some firstTool := by
      simp only [loadCalls, runCalls, List.cons_append, List.nil_append, List.mem_cons,
        List.not_mem_nil, or_false] at hmem
      obtain rfl | rfl | rfl | rfl | rfl := hmem <;> rfl
    rw [hhost]
    exact Host.replyingTo_of_not_mem hfirst (hpath call hmem) past
  have hloaded : ((t.start s).2.after [clearCall firstTool t.name]).reply
      (loadCall firstTool t.scriptPath t.name) = .finished 0 "1" "" :=
    hreply _ _ (by simp [loadCalls])
  have hran : (s.2.after (loadCalls firstTool t.scriptPath t.name)).reply
      (runCall firstTool "1") = .finished 0 "1" "" := hreply _ _ (by simp [runCalls])
  have hone : scriptNumber? "1" = some "1" := by decide +kernel
  refine ⟨hready, "1", ?_, ?_, ?_, fun hlist => absurd hlist hset⟩
  · apply Desktop.reads_of_forall
    intro past call hmem
    rw [hreply past call hmem]
    rfl
  · have hpath : (t.start s).2.scriptPath = t.scriptPath := rfl
    rw [Desktop.number?, hpath, hloaded]
    exact hone
  · rw [hran]
    rfl

/-- The tool that is to load the script of the first operation puts out bytes that are no text. The
operation is stopped there, and the second one is done. -/
theorem succeeds_after_undecodable :
    let w : Window := { id := "7" }
    let host : Host := .replyingTo "/tmp/a.js" .undecodable
    let u : Turn := {
      operation := .setOpacity w (.float (.ofRatio false 7 10)), now := .ofInt 0
      scriptPath := "/tmp/a.js" }
    let t : Turn := {
      operation := .setOpacity w (.float (.ofRatio false 3 10)), now := .ofInt 2
      scriptPath := "/tmp/b.js" }
    host.Lacks secondTool ∧ t.Healthy (afterTurns host [u]) ∧
      t.Succeeds (afterTurns host [u]) := by
  intro w host u t
  have hlacks : host.Lacks secondTool := Host.lacks_replyingTo "/tmp/a.js" .undecodable
  have hhealthy : t.Healthy (afterTurns host [u]) :=
    Turn.healthy_of_replyingTo (host_afterTurns host [u]) (by rfl) nofun (by decide +kernel)
  refine ⟨hlacks, hhealthy, (succeeds_iff_always_kept hlacks hhealthy).2 ?_⟩
  intro v earlier hsuffix
  have hkeeps : u.Keeps (afterTurns host []) := .inr (.inl (by decide +kernel))
  rw [List.suffix_cons_iff] at hsuffix
  rcases hsuffix with hsame | hnil
  · cases hsame
    exact hkeeps
  · simp at hnil

/-- The script of the first operation cannot be loaded in time. With the second operation nothing
is wrong, and it fails. -/
theorem not_succeeds_after_timeout :
    let w : Window := { id := "7" }
    let host : Host := .replyingTo "/tmp/a.js" .timeout
    let u : Turn := {
      operation := .setOpacity w (.float (.ofRatio false 7 10)), now := .ofInt 0
      scriptPath := "/tmp/a.js" }
    let t : Turn := {
      operation := .setOpacity w (.float (.ofRatio false 3 10)), now := .ofInt 2
      scriptPath := "/tmp/b.js" }
    host.Lacks secondTool ∧ t.Healthy (afterTurns host [u]) ∧
      ¬ t.Succeeds (afterTurns host [u]) := by
  intro w host u t
  have hlacks : host.Lacks secondTool := Host.lacks_replyingTo "/tmp/a.js" .timeout
  have hhealthy : t.Healthy (afterTurns host [u]) :=
    Turn.healthy_of_replyingTo (host_afterTurns host [u]) (by rfl) nofun (by decide +kernel)
  have hnot : (afterTurns host [u]).1.tool ≠ firstTool := by decide +kernel
  exact ⟨hlacks, hhealthy, not_succeeds_of_tool_ne hlacks hnot t⟩

end Translucency.Kwin
