import Mathlib.Data.List.ReduceOption
import Translucency.Kwin.Journal
import Translucency.Proofs.Act
import Translucency.Proofs.Json.Printable

/-!
# What payloads stand for

The payloads of a script pass two filters before they are windows. The first one counts: the
payload in front announces a number, and there have to be as many others, the end apart
(`windowPayloads_eq_ok_iff`). It does not look into them. The second one reads each of them and
passes over those that are no JSON (`run_readWindows`). So there may be fewer windows in the end
than were counted (`length_of_windowsOf`).

What is JSON but describes no window is neither counted out nor passed over. It has to be an object,
and its opacity, where there is one, a number or what can be read as one (`IsWindowMessage`). Nor is
a payload passed over that is nested too deep to be read. Where there is such a payload, the reading
goes wrong as a whole (`exists_windowsOf_iff`).

A window may be called anything that a payload holds. With the room in which the payload was read,
it can be printed as well (`isNameable_of_windowIn`).
-/

namespace Translucency.Kwin

/-! ## Counting -/

/-- The number of windows that the payloads of a script announce. -/
def announced? : List String → Option Int
  | [] => none
  | header :: _ =>
    if countWord.toList.isPrefixOf header.toList then
      Numeral.integer? 10 (header.toList.drop countWord.length)
    else none

/-- The payloads that stand for windows: all but the first one and the end. -/
def windowLines (payloads : List String) : List String := payloads.tail.filter (· != endWord)

/-- Payloads are accepted exactly if they are as many as announced. -/
theorem windowPayloads_eq_ok_iff {payloads found : List String} :
    windowPayloads payloads = .ok found ↔
      announced? payloads = some ((windowLines payloads).length : Int) ∧
        windowLines payloads = found := by
  cases payloads with
  | nil =>
    rw [windowPayloads, announced?]
    exact iff_of_false (by simp) (by simp)
  | cons header rest =>
    rw [windowPayloads, announced?, windowLines, List.tail_cons]
    by_cases hprefix : countWord.toList.isPrefixOf header.toList = true
    · rw [if_pos hprefix, if_pos hprefix]
      cases Numeral.integer? 10 (header.toList.drop countWord.length) with
      | none => exact iff_of_false (by simp) (by simp)
      | some expected =>
        by_cases hcount : ((rest.filter (· != endWord)).length : Int) = expected
        · simp [hcount]
        · simp [hcount, Ne.symm hcount]
    · rw [if_neg hprefix, if_neg hprefix]
      exact iff_of_false (by simp) (by simp)

/-! ## Messages -/

/-- The window in a payload, if there is one: a payload that is no JSON is passed over. -/
def windowIn (room : Nat) (payload : String) : Except Fault (Option Window) :=
  match Json.read room payload.toList with
  | .error .malformed => .ok none
  | .error (.tooDeep opened) => .error (.broken (Json.tooDeepText opened))
  | .ok message => ((windowOfMessage message).mapError .mishap).map some

/-- The windows that payloads describe. -/
def windowsOf (room : Nat) (payloads : List String) : Except Fault (List Window) := do
  return (← payloads.mapM (windowIn room)).reduceOption

/-- Whether a message describes a window: it is an object, and what stands under the opacity, if
anything does, is null or can be read as a number. -/
def IsWindowMessage (message : Value) : Prop :=
  ∃ members, message = .map members ∧
    ∀ v, Value.lookup? (.text "opacity") members = some v → v = .null ∨ ∃ x, v.toBinary64 = .ok x

/-- All that can go wrong in an object is its opacity. -/
theorem exists_windowOfMessage_map_iff {members : List (Value × Value)} :
    (∃ w, windowOfMessage (.map members) = .ok w) ↔
      ∀ v, Value.lookup? (.text "opacity") members = some v →
        v = .null ∨ ∃ x, v.toBinary64 = .ok x := by
  have hopacity : (∃ w, windowOfMessage (.map members) = .ok w) ↔
      ((Value.lookup? (.text "opacity") members).getD .null = .null ∨
        ∃ x, ((Value.lookup? (.text "opacity") members).getD .null).toBinary64 = .ok x) := by
    simp only [windowOfMessage]
    by_cases hnull : (Value.lookup? (.text "opacity") members).getD .null = .null
    · rw [hnull]
      exact iff_of_true ⟨_, rfl⟩ (.inl rfl)
    · rw [or_iff_right hnull]
      split
      · next h => exact absurd h hnull
      · simp only [bind_eq_ok_iff]
        constructor
        · rintro ⟨_, x, hx, -⟩
          exact ⟨x, hx⟩
        · rintro ⟨x, hx⟩
          exact ⟨_, x, hx, rfl⟩
  rw [hopacity]
  cases Value.lookup? (.text "opacity") members with
  | none => simp
  | some v => simp

theorem exists_windowOfMessage_iff {message : Value} :
    (∃ w, windowOfMessage message = .ok w) ↔ IsWindowMessage message := by
  by_cases hmap : ∃ members, message = .map members
  · obtain ⟨members, rfl⟩ := hmap
    rw [exists_windowOfMessage_map_iff]
    constructor
    · intro h
      exact ⟨members, rfl, h⟩
    · rintro ⟨_, ⟨⟩, h⟩
      exact h
  · have herror : windowOfMessage message = .error .lacksMember := by
      unfold windowOfMessage
      split
      · exact absurd ⟨_, rfl⟩ hmap
      · rfl
    rw [herror]
    exact iff_of_false (by simp) fun ⟨members, h, _⟩ => hmap ⟨members, h⟩

/-- Whether a payload keeps no other from being read: it is not nested too deep, and if it holds a
message, that describes a window. -/
structure IsHarmless (room : Nat) (payload : String) : Prop where
  isShallow : ∀ opened, Json.read room payload.toList ≠ .error (.tooDeep opened)
  describes : ∀ message, Json.read room payload.toList = .ok message → IsWindowMessage message

/-- Whether a payload is JSON, and there is room for it. -/
def IsRead (room : Nat) (payload : String) : Prop :=
  ∃ message, Json.read room payload.toList = .ok message

theorem exists_windowIn_iff {room : Nat} {payload : String} :
    (∃ w, windowIn room payload = .ok w) ↔ IsHarmless room payload := by
  have hparts : IsHarmless room payload ↔
      (∀ opened, Json.read room payload.toList ≠ .error (.tooDeep opened)) ∧
        ∀ message, Json.read room payload.toList = .ok message → IsWindowMessage message :=
    ⟨fun h => ⟨h.1, h.2⟩, fun h => ⟨h.1, h.2⟩⟩
  rw [hparts]
  unfold windowIn
  cases Json.read room payload.toList with
  | error failure =>
    cases failure with
    | malformed => simp
    | tooDeep opened => simp
  | ok message =>
    simp only [ne_eq, reduceCtorEq, not_false_eq_true, implies_true, true_and, Except.ok.injEq,
      forall_eq', ← exists_windowOfMessage_iff]
    cases windowOfMessage message with
    | error m => simp [Except.map]
    | ok w => simp [Except.map]

/-! ## What windows are called -/

/-- Whether all that a window is called can be printed with room for so many levels. -/
structure IsNameable (room : Nat) (w : Window) : Prop where
  id : ∃ v : Value, w.id = v.plain ∧ v.IsPrintable room
  resourceClass : w.resourceClass.IsPrintable room
  resourceName : w.resourceName.IsPrintable room
  caption : w.caption.IsPrintable room

theorem isNameable_of_windowOfMessage {room : Nat} {message : Value} {w : Window}
    (hprint : message.IsPrintable (room + 1)) (h : windowOfMessage message = .ok w) :
    IsNameable room w := by
  unfold windowOfMessage at h
  split at h
  · next members =>
    have hmember : ∀ name {default : Value}, default.IsPrintable room →
        ((Value.lookup? (.text name) members).getD default).IsPrintable room := by
      intro name default hdefault
      cases hv : Value.lookup? (.text name) members with
      | none => exact hdefault
      | some v => exact hprint.of_lookup? hv
    have hnull : Value.null.IsPrintable room := (Value.obstacle?_eq_none_iff ..).1 rfl
    have hname : ∀ name, (((Value.lookup? (.text name) members).getD .null).orElse
        .null).IsPrintable room := by
      intro name
      rw [Value.orElse]
      split
      · exact hmember name hnull
      · exact hnull
    -- The opacity may be absent, and has no part in this.
    simp only at h
    split at h
    all_goals
      obtain ⟨opacity, -, h⟩ := bind_eq_ok_iff.1 h
      cases h
      exact ⟨⟨_, rfl, hmember "id" (Value.isPrintable_text "" room)⟩, hname "resourceClass",
        hname "resourceName", hname "caption"⟩
  · cases h

/-- What the window in a payload is called can be printed with the room in which the payload was
read. -/
theorem isNameable_of_windowIn {room : Nat} {payload : String} {w : Window}
    (h : windowIn room payload = .ok (some w)) : IsNameable room w := by
  unfold windowIn at h
  split at h
  · cases h
  · cases h
  · next message hread =>
    cases hwindow : windowOfMessage message with
    | error m =>
      rw [hwindow] at h
      cases h
    | ok w' =>
      rw [hwindow] at h
      cases h
      exact isNameable_of_windowOfMessage (Json.isPrintable_of_read hread) hwindow

/-! ## Windows -/

/-- Payloads give windows exactly if none of them does harm. -/
theorem exists_windowsOf_iff {room : Nat} {payloads : List String} :
    (∃ windows, windowsOf room payloads = .ok windows) ↔
      ∀ payload ∈ payloads, IsHarmless room payload := by
  simp only [← exists_windowIn_iff, ← exists_mapM_eq_ok_iff, windowsOf]
  constructor
  · rintro ⟨windows, h⟩
    obtain ⟨found, hfound, -⟩ := bind_eq_ok_iff.1 h
    exact ⟨found, hfound⟩
  · rintro ⟨found, hfound⟩
    exact ⟨_, bind_eq_ok_iff.2 ⟨found, hfound, rfl⟩⟩

/-- What keeps payloads from giving windows is no refusal. -/
theorem failsOnly_windowsOf (room : Nat) (payloads : List String) :
    FailsOnly (fun fault => ∀ text, fault ≠ .source text) (windowsOf room payloads) := by
  refine FailsOnly.bind (FailsOnly.mapM (fun payload => ?_) _) fun _ _ => .ok _
  unfold windowIn
  split
  · exact .ok _
  · exact .error nofun
  · next message _ =>
    cases windowOfMessage message with
    | error m => exact .error nofun
    | ok w => exact .ok _

/-- There are never more windows than payloads, and as many exactly if all of these are read. -/
theorem length_of_windowsOf {room : Nat} {payloads : List String} {windows : List Window}
    (h : windowsOf room payloads = .ok windows) :
    windows.length ≤ payloads.length ∧
      (windows.length = payloads.length ↔ ∀ payload ∈ payloads, IsRead room payload) := by
  obtain ⟨found, hfound, h⟩ := bind_eq_ok_iff.1 h
  cases h
  have hrow := mapM_eq_ok_iff.1 hfound
  clear hfound h
  induction hrow with
  | nil => exact ⟨Nat.le_refl _, iff_of_true rfl (List.forall_mem_nil _)⟩
  | @cons payload w payloads found hw _ ih =>
    obtain ⟨hle, hall⟩ := ih
    rw [List.forall_mem_cons, ← hall, List.length_cons]
    unfold windowIn at hw
    split at hw
    · next hread =>
      -- It was passed over, so one window is missing.
      cases hw
      have hnot : ¬ IsRead room payload := by
        rintro ⟨message, hmessage⟩
        rw [hread] at hmessage
        cases hmessage
      rw [List.reduceOption_cons_of_none]
      exact ⟨Nat.le_succ_of_le hle, iff_of_false (by omega) fun h => hnot h.1⟩
    · cases hw
    · next message hread =>
      have hread : IsRead room payload := ⟨message, hread⟩
      obtain ⟨w', rfl⟩ : ∃ w', w = some w' := by
        cases hmessage : windowOfMessage message with
        | error m =>
          rw [hmessage] at hw
          cases hw
        | ok w' =>
          rw [hmessage] at hw
          exact ⟨w', (Except.ok.inj hw).symm⟩
      rw [List.reduceOption_cons_of_some, List.length_cons, Nat.add_right_cancel_iff,
        and_iff_right hread]
      exact ⟨Nat.succ_le_succ hle, Iff.rfl⟩

/-! ## Reading -/

section

variable {σ : Type}

/-- Reading a payload gives the window in it, and leaves the state alone. -/
theorem run_readWindow (room : Nat) (payload : String) (s : σ) :
    ∃ log, (readWindow payload room).run s = ⟨windowIn room payload, s, log⟩ := by
  unfold readWindow windowIn
  cases Json.read room payload.toList with
  | error failure =>
    cases failure with
    | malformed => exact ⟨_, rfl⟩
    | tooDeep opened => exact ⟨_, rfl⟩
  | ok message =>
    exact ⟨[], Act.run_map some (.lift ((windowOfMessage message).mapError .mishap)) s⟩

/-- Reading payloads gives the windows that they describe, or the first fault, and leaves the state
alone. -/
theorem run_readWindows (room : Nat) (payloads : List String) (s : σ) :
    ∃ log, (readWindows room payloads).run s = ⟨windowsOf room payloads, s, log⟩ := by
  induction payloads with
  | nil => exact ⟨[], rfl⟩
  | cons payload rest ih =>
    obtain ⟨log, hrest⟩ := ih
    obtain ⟨log', hwindow⟩ := run_readWindow room payload s
    have hcons : windowsOf room (payload :: rest) = do
        let w ← windowIn room payload
        let windows ← windowsOf room rest
        return w.toList ++ windows := by
      simp only [windowsOf, List.mapM_cons, bind_assoc, pure_bind]
      congr 1
      funext w
      congr 1
      funext found
      cases w <;> rfl
    rw [readWindows, hcons]
    cases hone : windowIn room payload with
    | error fault =>
      rw [hone] at hwindow
      rw [Act.run_bind_eq_of_error hwindow]
      exact ⟨_, rfl⟩
    | ok w =>
      rw [hone] at hwindow
      rw [Act.run_bind_eq hwindow]
      cases hwindows : windowsOf room rest with
      | error fault =>
        rw [hwindows] at hrest
        rw [Act.run_bind_eq_of_error hrest]
        exact ⟨_, rfl⟩
      | ok windows =>
        rw [hwindows] at hrest
        rw [Act.run_bind_eq hrest]
        exact ⟨_, rfl⟩

end

end Translucency.Kwin
