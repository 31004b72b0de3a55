import Translucency.Proofs.Kwin.Acceptance

/-!
# Listings that lost lines

A journal drops lines, and it is late with others. So each look at it may show other lines of a
listing, in order but with any of them missing. What the marker picks out of a look is a sublist of
what the script printed, and that is all that is assumed here.

Two things make such a listing safe. The end tells that nothing more is to come, so the first look
that shows it is the one that is judged, and no other look is mixed in with it
(`findSome?_payloads?_of_sublist`). And the header is the only line that announces anything: without
it there is no count, and with it the count is that of the windows that were printed, so that a
sublist is accepted only if nothing is missing from it (`windowPayloads_of_sublist`). That takes a
header that can be read, which one with more than 4300 digits cannot.

The lines may be those between line feeds or between any other line ends. For windows whose texts
are plain that makes no difference (`markedLines_join`).
-/

namespace Translucency.Kwin

open Json Text

/-! ## Marked lines -/

/-- The lines of a text that have the opening of a script in them. -/
def markedLines (marker : String) (text : List Char) : List (List Char) :=
  (splitLines text).filter (occursIn (opening marker))

/-- The payloads of a text are those of its marked lines. -/
theorem payloadsIn_eq_filterMap (marker : String) (text : List Char) :
    payloadsIn marker text = (markedLines marker text).filterMap (payload? marker) := by
  rw [payloadsIn, markedLines, List.filterMap_filter]
  apply List.filterMap_congr
  intro line _
  by_cases hin : occursIn (opening marker) line = true
  · rw [if_pos hin]
  · rw [if_neg hin, payload?, afterFirst?_eq_none (by simpa using hin)]
    rfl

/-- A line that is printed for plain windows has no line end in what follows the opening. -/
theorem exists_eq_opening_append {marker : String} {line : List Char} {windows : List Shown}
    (hplain : ∀ w ∈ windows, w.IsPlain) (h : line ∈ printed marker windows) :
    ∃ rest, line = opening marker ++ rest ∧ IsLine rest := by
  rw [printed, List.mem_append, List.mem_cons, List.mem_singleton] at h
  rcases h with (rfl | hwindow) | rfl
  · exact ⟨_, rfl, isLine_header windows.length⟩
  · obtain ⟨w, hw, rfl⟩ := List.mem_map.1 hwindow
    exact ⟨_, rfl, (hplain w hw).isLine_objectText⟩
  · exact ⟨_, rfl, by decide⟩

/-- What a text of lines shows of a listing of plain windows is what is left of its lines. -/
theorem markedLines_join {marker : String} (hmarker : IsLine marker.toList)
    {lines : List (List Char)} {windows : List Shown} (hplain : ∀ w ∈ windows, w.IsPlain)
    (hlines : (lines.filter (occursIn (opening marker))).Sublist (printed marker windows)) :
    markedLines marker (join ['\n'] lines) = lines.filter (occursIn (opening marker)) := by
  have hline : ∀ line ∈ lines, occursIn (opening marker) line = true →
      IsLine line ∧ line ≠ [] := by
    intro line hmem hin
    obtain ⟨rest, rfl, hrest⟩ :=
      exists_eq_opening_append hplain (hlines.subset (List.mem_filter.2 ⟨hmem, hin⟩))
    have hopening : IsLine (opening marker) := isLine_append.2 ⟨hmarker, by decide⟩
    exact ⟨isLine_append.2 ⟨hopening, hrest⟩, by simp [opening]⟩
  have hguard : Option.guard (occursIn (opening marker)) [] = none := by
    simp [Option.guard, occursIn, opening]
  rw [markedLines, ← List.filterMap_eq_filter, filterMap_splitLines_join hguard,
    List.filterMap_eq_flatMap_toList]
  apply List.flatMap_congr
  intro line hmem
  by_cases hin : occursIn (opening marker) line = true
  · obtain ⟨hone, hne⟩ := hline line hmem hin
    rw [hone.splitLines_eq hne]
    simp [Option.guard, hin]
  · -- A piece of a line without the opening is without it, too.
    have hnone : Option.guard (occursIn (opening marker)) line = none := by
      rw [Option.guard, if_neg hin]
    rw [hnone, Option.toList_none, List.filterMap_eq_filter, List.filter_eq_nil_iff]
    intro piece hpiece hpin
    rw [occursIn_iff] at hin hpin
    exact hin (hpin.trans (infix_of_mem_splitLines hpiece))

/-! ## What is left of a listing -/

/-- The payloads that the listing script prints. -/
def printedPayloads (windows : List Shown) : List String :=
  header windows.length :: (objects windows ++ [endWord])

theorem printed_eq_map (marker : String) (windows : List Shown) :
    printed marker windows =
      (printedPayloads windows).map fun payload => opening marker ++ payload.toList := by
  simp [printed, printedPayloads, objects]

/-- No payload of a listing has anything to trim. -/
theorem trim_of_mem_printedPayloads {windows : List Shown} {payload : String}
    (h : payload ∈ printedPayloads windows) : trim payload.toList = payload.toList := by
  rw [printedPayloads, List.mem_cons, List.mem_append, List.mem_singleton] at h
  rcases h with rfl | hobject | rfl
  · exact trim_header windows.length
  · obtain ⟨w, -, rfl⟩ := List.mem_map.1 hobject
    rw [String.toList_ofList, trim_objectText]
  · decide

/-- Lines that are left of a listing have the payloads that were printed on them. -/
theorem filterMap_payload?_of_sublist {marker : String} {lines : List (List Char)}
    {windows : List Shown} (h : lines.Sublist (printed marker windows)) :
    lines = (lines.filterMap (payload? marker)).map
        (fun payload => opening marker ++ payload.toList) ∧
      (lines.filterMap (payload? marker)).Sublist (printedPayloads windows) := by
  rw [printed_eq_map, List.sublist_map_iff] at h
  obtain ⟨left, hleft, rfl⟩ := h
  -- Each line gives back the payload that it was printed from.
  have hpayloads : (left.map fun payload => opening marker ++ payload.toList).filterMap
      (payload? marker) = left := by
    rw [List.filterMap_map]
    conv_rhs => rw [← List.filterMap_some (l := left)]
    apply List.filterMap_congr
    intro payload hmem
    rw [Function.comp_apply, payload?_opening, trim_of_mem_printedPayloads (hleft.subset hmem),
      String.ofList_toList]
  rw [hpayloads]
  exact ⟨rfl, hleft⟩

theorem header_ne_endWord (count : Nat) : header count ≠ endWord := by
  intro hend
  have hhead := congrArg (·.toList.head?) hend
  simp [header, countWord, endWord] at hhead

/-- Of the payloads of a listing only the header announces anything. -/
theorem eq_header_of_announced? {windows : List Shown} {payload : String} {rest : List String}
    {count : Int} (hmem : payload ∈ printedPayloads windows)
    (h : announced? (payload :: rest) = some count) : payload = header windows.length := by
  have hprefix : countWord.toList.isPrefixOf payload.toList = true := by
    by_contra hnot
    rw [announced?, if_neg hnot] at h
    cases h
  rw [printedPayloads, List.mem_cons, List.mem_append, List.mem_singleton] at hmem
  rcases hmem with rfl | hobject | rfl
  · rfl
  · obtain ⟨w, -, rfl⟩ := List.mem_map.1 hobject
    simp [countWord, objectText, List.isPrefixOf] at hprefix
  · exact absurd hprefix (by decide)

/-- If the end is left, and as many others as there are windows, then nothing is missing. -/
theorem eq_objects_of_sublist {windows : List Shown} {rest : List String}
    (hrest : rest.Sublist (objects windows ++ [endWord])) (hend : endWord ∈ rest)
    (hcount : (rest.filter (· != endWord)).length = windows.length) :
    rest = objects windows ++ [endWord] := by
  apply hrest.eq_of_length_le
  have hlt : (rest.filter (· != endWord)).length < rest.length :=
    List.length_filter_lt_length_iff_exists.2 ⟨endWord, hend, by simp⟩
  rw [List.length_append, List.length_singleton, length_objects]
  omega

/-- **What is left of a listing is accepted only if nothing is missing.** -/
theorem windowPayloads_of_sublist {windows : List Shown} {left found : List String}
    (hleft : left.Sublist (printedPayloads windows)) (hend : endWord ∈ left) :
    windowPayloads left = .ok found ↔
      (left = printedPayloads windows ∧ Numeral.isShort windows.length = true) ∧
        objects windows = found := by
  have hwhole : windowPayloads (printedPayloads windows) = .ok found ↔
      Numeral.isShort windows.length = true ∧ objects windows = found := by
    rw [printedPayloads, windowPayloads_header_eq_ok_iff, filter_objects]
    simp only [length_objects, true_and]
  constructor
  · intro hfound
    have hannounced := (windowPayloads_eq_ok_iff.1 hfound).1
    obtain ⟨first, rest, rfl⟩ := List.exists_cons_of_ne_nil (List.ne_nil_of_mem hend)
    -- Something was announced, so the header is left, and the count is that of all windows.
    have hfirst : first = header windows.length :=
      eq_header_of_announced? (hleft.subset (List.mem_cons_self ..)) hannounced
    subst hfirst
    rw [announced?_header, windowLines, List.tail_cons] at hannounced
    split at hannounced
    case isFalse => cases hannounced
    next hshort =>
    rw [Option.some.injEq, Int.natCast_inj] at hannounced
    rw [List.mem_cons, or_iff_right (header_ne_endWord _).symm] at hend
    have hrest : rest.Sublist (objects windows ++ [endWord]) := by
      rwa [printedPayloads, List.cons_sublist_cons] at hleft
    have hall : header windows.length :: rest = printedPayloads windows := by
      rw [printedPayloads, eq_objects_of_sublist hrest hend hannounced.symm]
    rw [hall] at hfound
    exact ⟨⟨hall, hshort⟩, (hwhole.1 hfound).2⟩
  · rintro ⟨⟨rfl, hshort⟩, hfound⟩
    exact hwhole.2 ⟨hshort, hfound⟩

/-! ## Looks that lost lines -/

namespace Reply

/-- The marked lines that a reply shows. A command that did not finish shows none. -/
def markedLines (marker : String) (reply : Reply) : List (List Char) :=
  (reply.result?.map fun result => Kwin.markedLines marker result.output.toList).getD []

/-- The payloads on these lines. -/
def shown (marker : String) (reply : Reply) : List String :=
  (reply.markedLines marker).filterMap (payload? marker)

/-- Of a text of lines that lost some of a listing of plain windows a reply shows what is left. -/
theorem markedLines_finished {marker : String} (hmarker : IsLine marker.toList)
    {lines : List (List Char)} {windows : List Shown} (hplain : ∀ w ∈ windows, w.IsPlain)
    (hlines : (lines.filter (occursIn (opening marker))).Sublist (printed marker windows))
    {status : Int} {errors : String} :
    (finished status (String.ofList (join ['\n'] lines)) errors).markedLines marker =
      lines.filter (occursIn (opening marker)) := by
  rw [markedLines, result?, Option.map_some, Option.getD_some, String.toList_ofList,
    markedLines_join hmarker hplain hlines]

/-- Whether a reply shows the end of a listing. -/
def showsEnd (marker : String) (reply : Reply) : Bool :=
  (reply.markedLines marker).contains (opening marker ++ endWord.toList)

theorem payloads?_eq (marker awaited : String) (reply : Reply) :
    reply.payloads? marker awaited =
      if awaited ∈ reply.shown marker then some (reply.shown marker) else none := by
  rw [payloads?, shown, markedLines]
  cases reply.result? with
  | none => rfl
  | some result =>
    rw [Option.map_some, Option.map_some, Option.getD_some, payloads_eq,
      payloadsIn_eq_filterMap, Option.filter_some]
    simp only [List.contains_iff_mem]

variable {marker : String} {windows : List Shown} {reply : Reply}

/-- The end is shown if it is one of the payloads. -/
theorem endWord_mem_shown_iff (h : (reply.markedLines marker).Sublist (printed marker windows)) :
    endWord ∈ reply.shown marker ↔ reply.showsEnd marker = true := by
  obtain ⟨hlines, -⟩ := filterMap_payload?_of_sublist h
  rw [showsEnd, List.contains_iff_mem, shown]
  constructor
  · intro hmem
    rw [hlines]
    exact List.mem_map_of_mem hmem
  · intro hmem
    rw [hlines, List.mem_map] at hmem
    obtain ⟨payload, hpayload, hsame⟩ := hmem
    rwa [← String.toList_inj.1 (List.append_cancel_left hsame)]

theorem payloads?_of_sublist (h : (reply.markedLines marker).Sublist (printed marker windows)) :
    reply.payloads? marker endWord =
      if reply.showsEnd marker then some (reply.shown marker) else none := by
  simp only [payloads?_eq, endWord_mem_shown_iff h]

theorem isSome_payloads?_of_sublist
    (h : (reply.markedLines marker).Sublist (printed marker windows)) :
    (reply.payloads? marker endWord).isSome = reply.showsEnd marker := by
  rw [payloads?_of_sublist h]
  cases reply.showsEnd marker with
  | true => rfl
  | false => rfl

/-- A reply that shows the end is accepted exactly if it shows all lines and their number can be
read. -/
theorem windowPayloads_shown (h : (reply.markedLines marker).Sublist (printed marker windows))
    (hend : reply.showsEnd marker = true) {found : List String} :
    windowPayloads (reply.shown marker) = .ok found ↔
      (reply.markedLines marker = printed marker windows ∧
        Numeral.isShort windows.length = true) ∧ objects windows = found := by
  obtain ⟨hlines, hleft⟩ := filterMap_payload?_of_sublist h
  rw [shown, windowPayloads_of_sublist hleft ((endWord_mem_shown_iff h).2 hend)]
  apply and_congr_left'
  apply and_congr_left'
  -- The lines are the payloads behind the opening, and so the one are all if the others are.
  constructor
  · intro hall
    rw [hlines, hall, printed_eq_map]
  · intro hall
    apply hleft.eq_of_length
    rw [hlines, printed_eq_map] at hall
    simpa using congrArg List.length hall

end Reply

/-- The first reply that shows the end is the one that is heard. -/
theorem findSome?_payloads?_of_sublist {marker : String} {windows : List Shown}
    {replies : List Reply}
    (h : ∀ reply ∈ replies, (reply.markedLines marker).Sublist (printed marker windows)) :
    replies.findSome? (Reply.payloads? marker endWord) =
      (replies.find? (Reply.showsEnd marker)).map (Reply.shown marker) := by
  induction replies with
  | nil => rfl
  | cons reply later ih =>
    rw [List.findSome?_cons, List.find?_cons,
      Reply.payloads?_of_sublist (h reply List.mem_cons_self)]
    cases reply.showsEnd marker with
    | true => rfl
    | false => exact ih fun other hother => h other (List.mem_cons_of_mem _ hother)

/-- What is heard is accepted exactly if the reply shows all lines and their number can be read. -/
theorem verdict_find?_eq_ok_iff {marker : String} {windows : List Shown} {replies : List Reply}
    (h : ∀ reply ∈ replies, (reply.markedLines marker).Sublist (printed marker windows))
    {found : List String} :
    verdict ((replies.find? (Reply.showsEnd marker)).map (Reply.shown marker)) = .ok found ↔
      ((∃ reply, replies.find? (Reply.showsEnd marker) = some reply ∧
        reply.markedLines marker = printed marker windows) ∧
          Numeral.isShort windows.length = true) ∧ objects windows = found := by
  cases hfind : replies.find? (Reply.showsEnd marker) with
  | none => exact iff_of_false (by simp [verdict]) (by simp)
  | some reply =>
    have hverdict : verdict ((some reply).map (Reply.shown marker)) =
        windowPayloads (reply.shown marker) := rfl
    rw [hverdict, Reply.windowPayloads_shown (h reply (List.mem_of_find?_eq_some hfind))
      (List.find?_some hfind)]
    simp

/-! ## Whole listings -/

/-- **Lost lines never make a listing a partial one.** The script is run and nothing stops it on the
way. Each look that is taken at the journal shows some of the lines that the script printed, or does
not finish. Then all windows are given or the listing is refused; they are given exactly if nothing
is missing from the first look that shows the end, and their number can be read; and there are four
looks at most, and none after that one. -/
theorem list_of_lost_lines {s : Seat} {windows : List Shown}
    (hstop : stop? s (listingCalls s) = none)
    (hlines : ∀ reply ∈ looksMade s (marker .listing s.2.now) endWord,
      (reply.markedLines (marker .listing s.2.now)).Sublist
        (printed (marker .listing s.2.now) windows)) :
    let name := marker .listing s.2.now
    let looks := looksMade s name endWord
    let o := list.run s
    (o.result = .ok (windows.map Shown.window) ∨ ∃ text, o.result = .error (.source text)) ∧
    (o.result = .ok (windows.map Shown.window) ↔
      (∃ reply, looks.find? (Reply.showsEnd name) = some reply ∧
        reply.markedLines name = printed name windows) ∧
          Numeral.isShort windows.length = true) ∧
    o.state.2.calls =
      s.2.calls ++ scriptCalls s name ++ List.replicate looks.length (lookCall s.2.now) ∧
    looks.length ≤ 4 ∧ ∀ reply ∈ looks.dropLast, reply.showsEnd name = false := by
  intro name looks o
  have houtput : output? s = (looks.find? (Reply.showsEnd name)).map (Reply.shown name) := by
    rw [output?, heard?_eq]
    exact findSome?_payloads?_of_sublist hlines
  have hverdict : ∀ found, verdict (output? s) = .ok found ↔
      ((∃ reply, looks.find? (Reply.showsEnd name) = some reply ∧
        reply.markedLines name = printed name windows) ∧
          Numeral.isShort windows.length = true) ∧ objects windows = found := by
    intro found
    rw [houtput]
    exact verdict_find?_eq_ok_iff hlines
  have hresult : o.result = listed s.2.room (verdict (output? s)) := result_list_of_stop? hstop
  have hread : windowsOf s.2.room (objects windows) = .ok (windows.map Shown.window) :=
    windowsOf_objects s.2.room windows
  refine ⟨?_, ?_, ?_, ?_, ?_⟩
  · rw [hresult]
    cases hv : verdict (output? s) with
    | error fault => exact .inr ⟨_, rfl⟩
    | ok found =>
      obtain ⟨-, rfl⟩ := (hverdict found).1 hv
      exact .inl hread
  · rw [hresult, listed_eq_ok_iff]
    constructor
    · rintro ⟨found, hfound, -⟩
      exact ((hverdict found).1 hfound).1
    · intro hwhole
      exact ⟨_, (hverdict _).2 ⟨hwhole, rfl⟩, hread⟩
  · have hcount : looks.length = looksFor s name endWord := length_looksMade ..
    rw [hcount, List.append_assoc, calls_list, callsMade_of_stop? hstop]
    rfl
  · have hfour : (scriptLooks s name).length = 4 := Desktop.length_looks ..
    rw [← hfour]
    exact List.length_take_le' ..
  · intro reply hreply
    have hmem : reply ∈ looks := List.dropLast_subset looks hreply
    rw [← Reply.isSome_payloads?_of_sublist (hlines reply hmem),
      payloads?_eq_none_of_mem_looksMade hreply]
    rfl

/-- A script that is run, and of which the first look shows all lines, gives its windows. -/
theorem list_of_first_look {s : Seat} {windows : List Shown} (hfull : s.2.full = none)
    (hreads : s.2.reads (scriptCalls s (marker .listing s.2.now)) = true)
    (hlaunch : launches s (marker .listing s.2.now) = true)
    (hshown : ((s.2.after (scriptCalls s (marker .listing s.2.now))).reply
      (lookCall s.2.now)).markedLines (marker .listing s.2.now) =
        printed (marker .listing s.2.now) windows)
    (hshort : Numeral.isShort windows.length = true) :
    (list.run s).result = .ok (windows.map Shown.window) := by
  let name := marker .listing s.2.now
  let first : Reply := (s.2.after (scriptCalls s name)).reply (lookCall s.2.now)
  obtain ⟨later, hlooks⟩ : ∃ later, scriptLooks s name = first :: later :=
    ⟨_, Desktop.looks_succ ..⟩
  have hlines : (first.markedLines name).Sublist (printed name windows) := hshown ▸ .refl _
  have hend : first.showsEnd name = true := by
    rw [Reply.showsEnd, hshown, List.contains_iff_mem, printed]
    exact List.mem_append_right _ List.mem_cons_self
  have hfirst : first.payloads? name endWord = some (first.shown name) := by
    rw [Reply.payloads?_of_sublist hlines, if_pos hend]
  have houtput : output? s = some (first.shown name) := by
    rw [output?, heard?, if_pos hlaunch, hlooks, List.findSome?_cons, hfirst]
  -- What is heard of the script is a text, and it is not looked again.
  have hstop : stop? s (listingCalls s) = none := by
    obtain ⟨result, hresult, -⟩ := Reply.payloads?_eq_some_iff.1 hfirst
    have htext : ((s.2.after (scriptCalls s name)).reply (lookCall s.2.now)).isText = true :=
      Reply.isText_of_result? hresult
    rw [stop?_eq_none_iff, listingCalls, errand, Option.elim_some, looksFor, if_pos hlaunch, hlooks,
      looksTaken_cons, hfirst, Option.isSome_some, if_pos rfl, List.replicate_one,
      Desktop.reads_append, hreads, Desktop.reads_cons, htext]
    exact ⟨hfull, rfl⟩
  have hfound : windowPayloads (first.shown name) = .ok (objects windows) :=
    (Reply.windowPayloads_shown hlines hend).2 ⟨⟨hshown, hshort⟩, rfl⟩
  rw [result_list_of_stop? hstop, houtput]
  exact listed_eq_ok_iff.2 ⟨_, hfound, windowsOf_objects s.2.room windows⟩

/-- A desktop that answers the first tool, and whose journal is looked at with given replies. -/
def Desktop.answering (looks : List Reply) : Desktop where
  host past call :=
    if call.words.head? = some "journalctl" then
      looks[past.countP fun c => c.words.head? = some "journalctl"]?.getD .timeout
    else .finished 0 "1" ""

theorem Desktop.now_answering (looks : List Reply) :
    (Desktop.answering looks).now = .ofInt 0 := by
  simp only [Desktop.answering]

theorem Desktop.obeys_answering (looks : List Reply) : (Desktop.answering looks).Obeys := by
  intro past words limit
  have hne : (some firstTool = some "journalctl") = False := by decide
  simp only [Desktop.answering, message, List.head?_cons, hne, if_false]

theorem Desktop.isText_answering {looks : List Reply} (h : ∀ reply ∈ looks, reply.isText = true)
    (past : List Call) (call : Call) :
    ((Desktop.answering looks).host past call).isText = true := by
  simp only [Desktop.answering]
  split
  · rw [List.getD_getElem?]
    split
    · exact h _ (List.getElem_mem _)
    · rfl
  · rfl

theorem scriptLooks_answering {looks : List Reply} (h : looks.length = 4) (name : String) :
    scriptLooks ({}, .answering looks) name = looks := by
  have hfour : pauses.length = 4 := by decide
  rw [scriptLooks, (Desktop.obeys_answering looks).scriptCalls name]
  apply List.ext_getElem
  · rw [Desktop.length_looks, hfour, h]
  · intro i _ hi
    -- None of the calls before the looks is one, so the look is the next after those taken.
    have hnone : (loadCalls firstTool (Desktop.answering looks).scriptPath name ++
        runCalls firstTool "1" name).countP (fun c => c.words.head? = some "journalctl") = 0 := by
      simp [loadCalls, runCalls, clearCall, loadCall, runCall, stopCall, unloadCall, message,
        firstTool]
    have hlook : (lookCall (Desktop.answering looks).now).words.head? = some "journalctl" := rfl
    have hcalls : (Desktop.answering looks).calls = [] := rfl
    simp only [Desktop.looks, List.getElem_map, List.getElem_range, Desktop.reply, Desktop.after,
      hcalls, List.nil_append]
    simp only [Desktop.answering] at hnone hlook ⊢
    rw [if_pos hlook, List.countP_append, hnone, List.countP_replicate,
      if_pos (decide_eq_true hlook), Nat.zero_add, List.getElem?_eq_getElem hi, Option.getD_some]

/-- The first look does not finish, the second one comes before the end, and the third one is
heard. There is no fourth. -/
theorem list_at_third_look :
    let w : Shown := {
      id := "7", resourceClass := some "konsole", resourceName := none, caption := some "Shell"
      isNormal := true, isFullScreen := false, opacity := none }
    let name := marker .listing (.ofInt 0)
    let early := "kwin_x11: started".toList :: (printed name [w]).take 2
    let whole := printed name [w] ++ [[]]
    let shows (lines : List (List Char)) : Reply :=
      .finished 0 (String.ofList (join ['\n'] lines)) ""
    let s : Seat := ({}, .answering [.timeout, shows early, shows whole, shows []])
    stop? s (listingCalls s) = none ∧
      looksMade s name endWord = [.timeout, shows early, shows whole] ∧
        (list.run s).result = .ok [w.window] := by
  intro w name early whole shows s
  have hline : IsLine name.toList := isLine_marker .listing (.ofInt 0)
  have hplain : ∀ w' ∈ [w], w'.IsPlain := by decide +kernel
  have htimeout : Reply.timeout.markedLines name = [] := rfl
  have hearly : (shows early).markedLines name = (printed name [w]).take 2 := by
    have hfilter : early.filter (occursIn (opening name)) = (printed name [w]).take 2 := by
      decide +kernel
    rw [Reply.markedLines_finished hline hplain (hfilter ▸ List.take_sublist ..), hfilter]
  have hwhole : (shows whole).markedLines name = printed name [w] := by
    have hfilter : whole.filter (occursIn (opening name)) = printed name [w] := by decide +kernel
    rw [Reply.markedLines_finished hline hplain (hfilter ▸ List.Sublist.refl _), hfilter]
  have hlines : ∀ reply ∈ [.timeout, shows early, shows whole],
      (reply.markedLines name).Sublist (printed name [w]) := by
    simp only [List.forall_mem_cons, htimeout, hearly, hwhole, List.not_mem_nil]
    exact ⟨List.nil_sublist _, List.take_sublist .., List.Sublist.refl _, nofun⟩
  -- Only the third of these looks shows the end.
  have hno : Reply.timeout.showsEnd name = false := rfl
  have hnot : (shows early).showsEnd name = false := by
    rw [Reply.showsEnd, hearly]
    decide +kernel
  have hend : (shows whole).showsEnd name = true := by
    rw [Reply.showsEnd, hwhole]
    decide +kernel
  have hmade : looksMade s name endWord = [.timeout, shows early, shows whole] := by
    have hlaunch : launches s name = true := (Desktop.obeys_answering _).launches name
    have hlooks : scriptLooks s name = [.timeout, shows early, shows whole, shows []] :=
      scriptLooks_answering (by rfl) name
    simp only [List.forall_mem_cons] at hlines
    obtain ⟨hfirst, hsecond, hthird, -⟩ := hlines
    have htaken : looksTaken name endWord (scriptLooks s name) = 3 := by
      rw [hlooks, looksTaken_cons, Reply.isSome_payloads?_of_sublist hfirst, hno, looksTaken_cons,
        Reply.isSome_payloads?_of_sublist hsecond, hnot, looksTaken_cons,
        Reply.isSome_payloads?_of_sublist hthird, hend]
      rfl
    rw [looksMade, looksFor, if_pos hlaunch, htaken, hlooks]
    rfl
  have hfind : (looksMade s name endWord).find? (Reply.showsEnd name) = some (shows whole) := by
    rw [hmade, List.find?_cons, hno, List.find?_cons, hnot, List.find?_cons, hend]
  have hmarker : marker .listing s.2.now = name :=
    congrArg (marker .listing) (Desktop.now_answering _)
  have hstop : stop? s (listingCalls s) = none := by
    refine stop?_eq_none_iff.2 ⟨by rfl, Desktop.reads_of_forall fun past call _ => ?_⟩
    exact Desktop.isText_answering (by simp [shows, Reply.isText]) past call
  have hshort : Numeral.isShort [w].length = true := Numeral.isShort_of_lt (by decide +kernel)
  have hlist := @list_of_lost_lines s [w] hstop
  simp only [hmarker] at hlist
  exact ⟨hstop, hmade,
    (hlist (hmade ▸ hlines)).2.1.2 ⟨⟨shows whole, hfind, hwhole⟩, hshort⟩⟩

end Translucency.Kwin
