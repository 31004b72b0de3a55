import Mathlib.Data.List.Basic
import Translucency.Proofs.Kwin.Payloads
import Translucency.Proofs.Kwin.Printed
import Translucency.Proofs.Number.Numerals
import Translucency.Proofs.Text.Trim

/-!
# What is read out of a journal

A journal holds the lines of a listing among those of everybody else. Its payloads are put together
from what each line of the listing gives (`payloads_journal`); the lines of the others give nothing,
as the marker is in none of them. A line gives one payload, unless there is a line end in it. Then
the first payload ends there, and more may follow.

So a window whose texts are plain is read back, and of any other the first payload does not read
(`payloadsOf_of_not_isPlain`). As an accepted listing has as many payloads as windows, one that
does not read is a window less. That is how a listing gives the windows that were printed exactly if
all of them are plain (`readWindows_journal_iff`), as long as the header has no more digits than a
number may have.
-/

namespace Translucency.Kwin

open Json Numeral Text

/-! ## The payload of a line -/

/-- The payload in a line, if there is one. -/
def payload? (marker : String) (line : List Char) : Option String :=
  (afterFirst? (opening marker) line).map fun rest => String.ofList (trim rest)

/-- The payloads in a text that may hold line ends. -/
def payloadsIn (marker : String) (text : List Char) : List String :=
  (splitLines text).filterMap (payload? marker)

theorem afterFirst?_append (needle rest : List Char) :
    afterFirst? needle (needle ++ rest) = some rest := by
  cases hcase : needle ++ rest with
  | nil =>
    obtain ⟨rfl, rfl⟩ := List.append_eq_nil_iff.1 hcase
    rfl
  | cons c s =>
    have hprefix : needle.isPrefixOf (c :: s) = true := by
      rw [List.isPrefixOf_iff_prefix, ← hcase]
      exact List.prefix_append needle rest
    rw [afterFirst?, if_pos hprefix, ← hcase, List.drop_left]

theorem afterFirst?_eq_none {needle s : List Char} (h : occursIn needle s = false) :
    afterFirst? needle s = none := by
  induction s with
  | nil =>
    rw [occursIn] at h
    simp [afterFirst?, h]
  | cons c s ih =>
    rw [occursIn, Bool.or_eq_false_iff] at h
    rw [afterFirst?, if_neg (by simp [h.1]), ih h.2]

theorem payload?_opening (marker : String) (rest : List Char) :
    payload? marker (opening marker ++ rest) = some (String.ofList (trim rest)) := by
  rw [payload?, afterFirst?_append]
  rfl

theorem payload?_nil (marker : String) : payload? marker [] = none := by
  simp [payload?, afterFirst?, opening]

/-- A text without the opening has no payload, however it is split. -/
theorem payloadsIn_of_not_occursIn {marker : String} {text : List Char}
    (h : occursIn (opening marker) text = false) : payloadsIn marker text = [] := by
  rw [payloadsIn, List.filterMap_eq_nil_iff]
  intro line hline
  have hnot : occursIn (opening marker) line = false := by
    rw [← Bool.not_eq_true, occursIn_iff] at h ⊢
    exact fun hin => h (hin.trans (infix_of_mem_splitLines hline))
  rw [payload?, afterFirst?_eq_none hnot]
  rfl

/-- The first payload of a line of the script is what follows the opening up to the first line
end. -/
theorem payloadsIn_opening {marker : String} (hmarker : IsLine marker.toList) (rest : List Char) :
    ∃ more, payloadsIn marker (opening marker ++ rest) =
      String.ofList (trim (rest.takeWhile (!isLineEnd ·))) :: more := by
  have hopening : IsLine (opening marker) := isLine_append.2 ⟨hmarker, by decide⟩
  have hne : opening marker ++ rest ≠ [] := by simp [opening]
  obtain ⟨others, hsplit⟩ := exists_splitLines_eq_cons hne
  refine ⟨others.filterMap (payload? marker), ?_⟩
  rw [payloadsIn, hsplit, takeWhile_append_of_isLine hopening]
  rw [List.filterMap_cons, payload?_opening]

/-- A line of the script without line ends has one payload. -/
theorem payloadsIn_opening_of_isLine {marker : String} (hmarker : IsLine marker.toList)
    {rest : List Char} (h : IsLine rest) :
    payloadsIn marker (opening marker ++ rest) = [String.ofList (trim rest)] := by
  have hline : IsLine (opening marker ++ rest) :=
    isLine_append.2 ⟨isLine_append.2 ⟨hmarker, by decide⟩, h⟩
  rw [payloadsIn, hline.splitLines_eq (by simp [opening]), List.filterMap_cons, payload?_opening]
  rfl

/-! ## The payloads of a window -/

/-- The payloads that the line of a window gives. -/
def payloadsOf (marker : String) (w : Shown) : List String :=
  payloadsIn marker (opening marker ++ objectText w.members)

/-- An object starts and ends with a brace, so there is nothing to trim. -/
theorem trim_objectText (members : List Member) :
    trim (objectText members) = objectText members := by
  refine trim_of_ends (fun c hc => ?_) (fun c hc => ?_)
  · obtain rfl : '\x7b' = c := by simpa [objectText] using hc
    decide
  · obtain rfl : '\x7d' = c := by simpa [objectText, List.getLast?_cons] using hc
    decide

/-- The line of a plain window gives its object. -/
theorem payloadsOf_of_isPlain {marker : String} (hmarker : IsLine marker.toList) {w : Shown}
    (h : w.IsPlain) : payloadsOf marker w = [String.ofList (objectText w.members)] := by
  rw [payloadsOf, payloadsIn_opening_of_isLine hmarker h.isLine_objectText, trim_objectText]

/-- An object that was cut off is still one when it has been trimmed. -/
theorem exists_trim_cutText (before : List Member) (name cut : List Char) :
    ∃ rest, rest <+: cut ∧ trim (cutText before name cut) = cutText before name rest := by
  have hquote : isBlank '"' = false := by decide
  obtain ⟨rest, hrest, htrim⟩ := exists_trimRight_append_cons hquote
    ('\x7b' :: (before.flatMap (fun m => memberText m ++ [',']) ++ nameText name)) cut
  refine ⟨rest, hrest, ?_⟩
  have hleft : trimLeft (cutText before name cut) = cutText before name cut :=
    trimLeft_of_head fun c hc => by
      obtain rfl : '\x7b' = c := by simpa [cutText] using hc
      decide
  rw [trim, hleft]
  simpa [cutText, cutMembers] using htrim

/-- The line of any other window gives a first payload that does not read. -/
theorem payloadsOf_of_not_isPlain {marker : String} (hmarker : IsLine marker.toList) {w : Shown}
    (h : ¬ w.IsPlain) :
    ∃ payload more, payloadsOf marker w = payload :: more ∧ payload ≠ endWord ∧
      ∀ room, read room payload.toList = .error .malformed := by
  rw [w.isPlain_iff] at h
  obtain ⟨before, name, s, cut, hcut, hfirst⟩ := takeWhile_objectText w.isPlain_names h
  obtain ⟨rest, hrest, htrim⟩ := exists_trim_cutText before name cut
  obtain ⟨more, hpayloads⟩ := payloadsIn_opening hmarker (objectText w.members)
  rw [hfirst, htrim] at hpayloads
  refine ⟨_, more, hpayloads, fun hend => ?_, fun room => ?_⟩
  · have hhead := congrArg (·.toList.head?) hend
    simp [cutText, endWord] at hhead
  · rw [String.toList_ofList]
    exact read_of_cut (hrest.trans hcut) before name room

/-! ## The payloads of a journal -/

theorem isLine_header (count : Nat) : IsLine (header count).toList := by
  rw [header, String.toList_append, isLine_append]
  exact ⟨by decide, isLine_of_digits fun c => isDigit_of_mem_toString⟩

theorem trim_header (count : Nat) : trim (header count).toList = (header count).toList := by
  have hne : (toString count).toList ≠ [] := by
    rw [toList_toString]
    exact Nat.toDigits_ne_nil
  refine trim_of_ends (fun c hc => ?_) (fun c hc => ?_)
  · obtain rfl : 'C' = c := by simpa [header, countWord] using hc
    decide
  · have hlast : (header count).toList.getLast? = (toString count).toList.getLast? := by
      rw [header, String.toList_append, List.getLast?_append]
      exact Option.or_of_isSome (List.getLast?_isSome.2 hne)
    rw [hlast] at hc
    exact isBlank_of_isDigit (isDigit_of_mem_toString (List.mem_of_getLast? hc))

theorem payloads_eq (marker output : String) :
    payloads marker output = payloadsIn marker output.toList := rfl

theorem payloads_join (marker : String) (lines : List (List Char)) :
    payloads marker (String.ofList (join ['\n'] lines)) =
      (lines.filter (occursIn (opening marker))).flatMap (payloadsIn marker) := by
  rw [payloads_eq, String.toList_ofList, payloadsIn,
    filterMap_splitLines_join (payload?_nil marker) lines]
  show lines.flatMap (payloadsIn marker) = _
  -- A line without the opening gives nothing, so it may as well be left out.
  induction lines with
  | nil => rfl
  | cons line rest ih =>
    cases hin : occursIn (opening marker) line with
    | true => rw [List.filter_cons_of_pos hin, List.flatMap_cons, List.flatMap_cons, ih]
    | false =>
      rw [List.filter_cons_of_neg (by simp [hin]), List.flatMap_cons,
        payloadsIn_of_not_occursIn hin, List.nil_append, ih]

/-- A journal with a listing gives a header, the payloads of the windows, and an end. -/
theorem payloads_journal {marker : String} (hmarker : IsLine marker.toList)
    {lines : List (List Char)} {windows : List Shown}
    (hlines : lines.filter (occursIn (opening marker)) = printed marker windows) :
    payloads marker (String.ofList (join ['\n'] lines)) =
      header windows.length :: (windows.flatMap (payloadsOf marker) ++ [endWord]) := by
  have hheader := payloadsIn_opening_of_isLine hmarker (isLine_header windows.length)
  have hend : payloadsIn marker (opening marker ++ endWord.toList) = [endWord] :=
    payloadsIn_opening_of_isLine hmarker (by decide)
  rw [trim_header, String.ofList_toList] at hheader
  have hwindows : (windows.map fun w => opening marker ++ objectText w.members).flatMap
      (payloadsIn marker) = windows.flatMap (payloadsOf marker) := List.flatMap_map ..
  rw [payloads_join, hlines, printed]
  simp [hheader, hend, hwindows]

/-! ## Reading the payloads -/

/-- A header announces its number, unless that has too many digits. -/
theorem announced?_header (count : Nat) (rest : List String) :
    announced? (header count :: rest) = if isShort count then some (count : Int) else none := by
  have hprefix : countWord.toList.isPrefixOf (header count).toList = true := by
    rw [List.isPrefixOf_iff_prefix, header, String.toList_append]
    exact List.prefix_append ..
  have hcount : (header count).toList.drop countWord.length = (toString count).toList := by
    rw [header, String.toList_append]
    exact List.drop_left' rfl
  rw [announced?, if_pos hprefix, hcount, integer?_toString]

/-- A listing is accepted if it has as many payloads as the header says, its end apart. -/
theorem windowPayloads_header_eq_ok_iff {count : Nat} {payloads found : List String} :
    windowPayloads (header count :: (payloads ++ [endWord])) = .ok found ↔
      isShort count = true ∧ (payloads.filter (· != endWord)).length = count ∧
        payloads.filter (· != endWord) = found := by
  have hlines : windowLines (header count :: (payloads ++ [endWord])) =
      payloads.filter (· != endWord) := by
    rw [windowLines, List.tail_cons, List.filter_append]
    simp
  rw [windowPayloads_eq_ok_iff, announced?_header, hlines, ← and_assoc]
  apply and_congr_left'
  cases isShort count with
  | false => simp
  | true =>
    rw [if_pos rfl, Option.some.injEq, Int.natCast_inj, and_iff_right rfl]
    exact eq_comm

/-- The object of a window is not the end of a listing. -/
theorem objectText_ne_endWord (members : List Member) :
    String.ofList (objectText members) ≠ endWord := by
  intro hend
  have hhead := congrArg (·.toList.head?) hend
  simp [objectText, endWord] at hhead

/-- The payloads of windows that arrive as they were printed. -/
def objects (windows : List Shown) : List String :=
  windows.map fun w => String.ofList (objectText w.members)

@[simp] theorem length_objects (windows : List Shown) : (objects windows).length = windows.length :=
  List.length_map ..

/-- None of them is taken for the end. -/
theorem filter_objects (windows : List Shown) :
    (objects windows).filter (· != endWord) = objects windows := by
  rw [List.filter_eq_self]
  intro payload hpayload
  obtain ⟨w, -, rfl⟩ := List.mem_map.1 hpayload
  simpa using objectText_ne_endWord w.members

/-- The objects of windows are read as these windows, however little room there is. -/
theorem windowsOf_objects (room : Nat) (windows : List Shown) :
    windowsOf room (objects windows) = .ok (windows.map Shown.window) := by
  have hone : ∀ w : Shown, windowIn room (String.ofList (objectText w.members)) =
      .ok (some w.window) := by
    intro w
    have hne : w.members ≠ [] := by simp [Shown.members]
    rw [windowIn, String.toList_ofList, read_objectText hne room]
    simp only [w.windowOfMessage_members]
    rfl
  have hrow : (objects windows).mapM (windowIn room) =
      .ok ((windows.map Shown.window).map some) := by
    rw [mapM_eq_ok_iff, objects, List.map_map, List.forall₂_map_left_iff, List.forall₂_map_right_iff]
    exact List.forall₂_same.2 fun w _ => hone w
  rw [windowsOf, hrow, ok_bind, List.reduceOption, List.filterMap_map, Function.id_comp,
    List.filterMap_some]
  rfl

variable {σ : Type}

/-- **What a journal with a listing is read as.** The windows that were printed are found in it
exactly if all of them are plain, and not too many to be counted. -/
theorem readWindows_journal_iff {marker : String} (hmarker : IsLine marker.toList)
    {lines : List (List Char)} {windows : List Shown}
    (hlines : lines.filter (occursIn (opening marker)) = printed marker windows) (room : Nat)
    (s : σ) :
    (∃ found, windowPayloads (payloads marker (String.ofList (join ['\n'] lines))) = .ok found ∧
        ((readWindows room found).run s).result = .ok (windows.map Shown.window)) ↔
      (∀ w ∈ windows, w.IsPlain) ∧ isShort windows.length = true := by
  simp only [payloads_journal hmarker hlines, windowPayloads_header_eq_ok_iff]
  constructor
  · rintro ⟨_, ⟨hshort, hlength, rfl⟩, hread⟩
    refine ⟨fun w hw => ?_, hshort⟩
    obtain ⟨log, hrun⟩ := run_readWindows room
      ((windows.flatMap (payloadsOf marker)).filter (· != endWord)) s
    rw [hrun] at hread
    obtain ⟨-, hcount⟩ := length_of_windowsOf hread
    have hall := hcount.1 (by rw [List.length_map, hlength])
    -- All payloads read, and the first one of a window that is not plain would not.
    by_contra hplain
    obtain ⟨payload, more, hpayloads, hend, hnone⟩ := payloadsOf_of_not_isPlain hmarker hplain
    have hmem : payload ∈ windows.flatMap (payloadsOf marker) :=
      List.mem_flatMap.2 ⟨w, hw, hpayloads ▸ List.mem_cons_self ..⟩
    obtain ⟨message, hmessage⟩ := hall payload (List.mem_filter.2 ⟨hmem, by simpa using hend⟩)
    rw [hnone room] at hmessage
    cases hmessage
  · -- Each plain window gives its object, and no object is taken for the end.
    rintro ⟨hplain, hshort⟩
    have hpayloads : windows.flatMap (payloadsOf marker) = objects windows := by
      rw [objects, List.map_eq_flatMap]
      exact List.flatMap_congr fun w hw => payloadsOf_of_isPlain hmarker (hplain w hw)
    obtain ⟨log, hrun⟩ := run_readWindows room (objects windows) s
    rw [hpayloads, filter_objects]
    refine ⟨objects windows, ⟨hshort, length_objects windows, rfl⟩, ?_⟩
    rw [hrun, windowsOf_objects]

end Translucency.Kwin
