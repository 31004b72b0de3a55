import Translucency.Proofs.Kwin.Operations

/-!
# One operation after the other

A source is asked for one thing after the other, and from one operation to the next it keeps its
health and the tool in use. A `Turn` is an operation with all that may be different the next time:
the clock, the place where the script is found, and whether there is a place for it at all.

What comes of a turn is one of three things. It is not set out on, because its opacity is no number
or its script cannot be stored, and then nothing happens (`Turn.outcome_of_unready`). It is set out
on and stopped by a reply that is no text, and then nothing is counted. Or it ends by itself, and it
is counted as what it was (`Turn.outcome_of_ready`).
-/

namespace Translucency.Kwin

/-- What a source is asked for. -/
inductive Operation where
  | list
  | setOpacity (w : Window) (opacity : Value)

/-- An operation, with what it meets on the desktop. -/
structure Turn where
  operation : Operation
  now : Binary64
  /-- Where its script is found. -/
  scriptPath : String
  /-- Why no script can be stored, if so it is. -/
  full : Option String := none
  room : Nat := Value.usualRoom

namespace Turn

/-- What is done, but for the windows that it gives. -/
def act (t : Turn) : Act Seat Unit :=
  match t.operation with
  | .list => (fun _ => ()) <$> list
  | .setOpacity w opacity => setOpacityValue w opacity

/-- The seat at which an operation starts. -/
def start (t : Turn) (s : Seat) : Seat :=
  (s.1, { s.2 with now := t.now, scriptPath := t.scriptPath, full := t.full, room := t.room })

/-- What comes of an operation, but for what it gives. -/
def outcome (t : Turn) (s : Seat) : Outcome Seat Unit := t.act.run (t.start s)

/-- The seat after an operation. -/
def after (t : Turn) (s : Seat) : Seat := (t.outcome s).state

/-- Whether an operation is done. -/
def Succeeds (t : Turn) (s : Seat) : Prop := (t.outcome s).result = .ok ()

/-- Whether an operation is refused. -/
def refused (t : Turn) (s : Seat) : Bool :=
  match (t.outcome s).result with
  | .error (.source _) => true
  | _ => false

/-! ## Told beforehand -/

/-- The name under which the script is loaded. -/
def name (t : Turn) : String :=
  match t.operation with
  | .list => marker .listing t.now
  | .setOpacity .. => marker .opacity t.now

/-- Why an operation is not set out on: the opacity is no number, or the script cannot be stored. -/
def unready? (t : Turn) : Option Fault :=
  match t.operation with
  | .list => t.full.map .broken
  | .setOpacity _ opacity =>
    match opacity.toBinary64 with
    | .error m => some (.mishap m)
    | .ok _ => t.full.map .broken

/-- The calls of an operation, if it is set out on and the replies are texts. -/
def row (t : Turn) (s : Seat) : List Call :=
  match t.operation with
  | .list => listingCalls (t.start s)
  | .setOpacity .. => opacityCalls (t.start s)

/-- What stops an operation before it can be counted. -/
def stop? (t : Turn) (s : Seat) : Option Fault :=
  match t.unready? with
  | some fault => some fault
  | none => if s.2.reads (t.row s) then none else some (.mishap .undecodable)

/-- What an operation is counted as: nothing for a success, and an error for a failure. -/
def complaint? (t : Turn) (s : Seat) : Option String :=
  match t.operation with
  | .list => Kwin.complaint? (verdict (output? (t.start s)))
  | .setOpacity w _ =>
    if launches (t.start s) t.name then none else some ("opacity script failed for " ++ w.id)

/-- How an operation ends that nothing stops. -/
def ending (t : Turn) (s : Seat) : Except Fault Unit :=
  match t.operation with
  | .list => (listed t.room (verdict (output? (t.start s)))).map fun _ => ()
  | .setOpacity w _ =>
    if launches (t.start s) t.name then .ok ()
    else .error (.source ("KWin rejected opacity change: opacity script failed for " ++ w.id))

/-- The seat after an operation that was set out on, but for the health. -/
def errandSeat (t : Turn) (s : Seat) (script : String) (pauses : List Binary64) : Seat :=
  ({ s.1 with tool := toolAfter (t.start s) t.name },
    { (t.start s).2.after (s.2.made (t.row s)) with
      scripts := s.2.scripts ++ [script], pauses := pauses })

variable {t : Turn} {s : Seat}

theorem stop?_of_list (h : t.operation = .list) (s : Seat) :
    t.stop? s = Kwin.stop? (t.start s) (listingCalls (t.start s)) := by
  unfold stop? unready? row
  rw [h]
  have hfull : (t.start s).2.full = t.full := rfl
  rw [Kwin.stop?, hfull]
  cases t.full <;> rfl

theorem stop?_of_setOpacity {w : Window} {opacity : Value} {x : Binary64}
    (h : t.operation = .setOpacity w opacity) (hopacity : opacity.toBinary64 = .ok x) (s : Seat) :
    t.stop? s = Kwin.stop? (t.start s) (opacityCalls (t.start s)) := by
  unfold stop? unready? row
  simp only [h, hopacity]
  have hfull : (t.start s).2.full = t.full := rfl
  rw [Kwin.stop?, hfull]
  cases t.full <;> rfl

theorem stop?_of_error {w : Window} {opacity : Value} {m : Mishap}
    (h : t.operation = .setOpacity w opacity) (hopacity : opacity.toBinary64 = .error m)
    (s : Seat) : t.stop? s = some (.mishap m) := by
  simp only [stop?, unready?, h, hopacity]

/-- What stops an operation is no refusal. -/
theorem ne_source_of_stop? {fault : Fault} (h : t.stop? s = some fault) (text : String) :
    fault ≠ .source text := by
  cases hoperation : t.operation with
  | list =>
    rw [stop?_of_list hoperation] at h
    exact Kwin.ne_source_of_stop? h text
  | setOpacity w opacity =>
    cases hopacity : opacity.toBinary64 with
    | error m =>
      rw [stop?_of_error hoperation hopacity] at h
      cases h
      exact nofun
    | ok x =>
      rw [stop?_of_setOpacity hoperation hopacity] at h
      exact Kwin.ne_source_of_stop? h text

/-! ## What comes of it -/

/-- An operation that is not set out on does nothing. -/
theorem outcome_of_unready {fault : Fault} (h : t.unready? = some fault) (s : Seat) :
    ∃ log, t.outcome s = ⟨.error fault, t.start s, log⟩ := by
  unfold outcome act
  unfold unready? at h
  cases hoperation : t.operation with
  | list =>
    rw [hoperation] at h
    obtain ⟨reason, hfull, rfl⟩ := Option.map_eq_some_iff.1 h
    obtain ⟨pauses, log, hlist⟩ := run_list (t.start s)
    have hstart : (t.start s).2.full = some reason := hfull
    simp only [Kwin.stop?, seatAfter, hstart] at hlist
    simp only [Act.run_map, hlist]
    exact ⟨log, rfl⟩
  | setOpacity w opacity =>
    simp only [hoperation] at h
    simp only [setOpacityValue]
    cases hopacity : opacity.toBinary64 with
    | error m =>
      rw [hopacity] at h
      cases h
      exact ⟨[], rfl⟩
    | ok x =>
      rw [hopacity] at h
      obtain ⟨reason, hfull, rfl⟩ := Option.map_eq_some_iff.1 h
      obtain ⟨pauses, log, hset⟩ := run_setOpacity w x (t.start s)
      have hstart : (t.start s).2.full = some reason := hfull
      simp only [Kwin.stop?, seatAfter, hstart] at hset
      rw [mapError_ok, Act.run_bind_eq (Act.run_lift ..), hset]
      exact ⟨_, rfl⟩

/-- **What comes of an operation that is set out on.** It is stopped by a reply that is no text, or
it ends by itself and is counted. -/
theorem outcome_of_ready (h : t.unready? = none) (s : Seat) :
    ∃ script pauses log,
      let seat := t.errandSeat s script pauses
      t.outcome s =
        if s.2.reads (t.row s) then
          ⟨t.ending s, healthPart.set (s.1.health.after (t.complaint? s)) seat, log⟩
        else ⟨.error (.mishap .undecodable), seat, log⟩ := by
  unfold outcome act errandSeat ending complaint? row name
  unfold unready? at h
  cases hoperation : t.operation with
  | list =>
    rw [hoperation] at h
    have hfull : (t.start s).2.full = none := Option.map_eq_none_iff.1 h
    obtain ⟨pauses, log, hlist⟩ := run_list (t.start s)
    simp only [Kwin.stop?, seatAfter, hfull] at hlist
    refine ⟨listingScript (marker .listing t.now), pauses, log, ?_⟩
    simp only [Act.run_map, hlist]
    have hreads : (t.start s).2.reads (listingCalls (t.start s)) =
        s.2.reads (listingCalls (t.start s)) := rfl
    rw [hreads]
    cases s.2.reads (listingCalls (t.start s)) <;> rfl
  | setOpacity w opacity =>
    simp only [hoperation] at h
    simp only [setOpacityValue]
    cases hopacity : opacity.toBinary64 with
    | error m =>
      rw [hopacity] at h
      cases h
    | ok x =>
      rw [hopacity] at h
      have hfull : (t.start s).2.full = none := Option.map_eq_none_iff.1 h
      obtain ⟨pauses, log, hset⟩ := run_setOpacity w x (t.start s)
      simp only [Kwin.stop?, seatAfter, hfull] at hset
      rw [mapError_ok, Act.run_bind_eq (Act.run_lift ..), hset]
      refine ⟨opacityScript w.id x, pauses, log, ?_⟩
      have hreads : (t.start s).2.reads (opacityCalls (t.start s)) =
          s.2.reads (opacityCalls (t.start s)) := rfl
      have hname : launches (t.start s) (marker .opacity (t.start s).2.now) =
          launches (t.start s) (marker .opacity t.now) := rfl
      rw [hreads, hname]
      cases s.2.reads (opacityCalls (t.start s)) with
      | false => rfl
      | true => cases launches (t.start s) (marker .opacity t.now) <;> rfl

/-! ## What is left of it -/

/-- The calls that are made. -/
def made (t : Turn) (s : Seat) : List Call :=
  if t.unready? = none then s.2.made (t.row s) else []

/-- The seat after an operation, whatever has come of it. -/
theorem exists_after_eq (t : Turn) (s : Seat) :
    ∃ script pauses, t.after s =
      if t.unready? = none then
        healthPart.set
          (if s.2.reads (t.row s) then s.1.health.after (t.complaint? s) else s.1.health)
          (t.errandSeat s script pauses)
      else t.start s := by
  rw [after]
  cases hunready : t.unready? with
  | some fault =>
    obtain ⟨log, houtcome⟩ := t.outcome_of_unready hunready s
    rw [houtcome]
    exact ⟨"", [], rfl⟩
  | none =>
    obtain ⟨script, pauses, log, houtcome⟩ := t.outcome_of_ready hunready s
    rw [houtcome]
    refine ⟨script, pauses, ?_⟩
    cases s.2.reads (t.row s) <;> rfl

theorem tool_after (t : Turn) (s : Seat) :
    (t.after s).1.tool =
      if t.unready? = none then toolAfter (t.start s) t.name else s.1.tool := by
  obtain ⟨script, pauses, hafter⟩ := t.exists_after_eq s
  rw [hafter]
  split <;> rfl

theorem host_after (t : Turn) (s : Seat) : (t.after s).2.host = s.2.host := by
  obtain ⟨script, pauses, hafter⟩ := t.exists_after_eq s
  rw [hafter]
  split <;> rfl

theorem calls_after (t : Turn) (s : Seat) : (t.after s).2.calls = s.2.calls ++ t.made s := by
  obtain ⟨script, pauses, hafter⟩ := t.exists_after_eq s
  rw [hafter, made]
  split
  · rfl
  · exact (List.append_nil _).symm

/-- Only what nothing stops is counted. -/
theorem health_after (t : Turn) (s : Seat) :
    (t.after s).1.health =
      if t.stop? s = none then s.1.health.after (t.complaint? s) else s.1.health := by
  obtain ⟨script, pauses, hafter⟩ := t.exists_after_eq s
  rw [hafter, stop?]
  cases t.unready? with
  | some fault => rfl
  | none => cases s.2.reads (t.row s) <;> rfl

theorem result_outcome (t : Turn) (s : Seat) :
    (t.outcome s).result = (t.stop? s).elim (t.ending s) .error := by
  unfold stop?
  cases h : t.unready? with
  | some fault =>
    obtain ⟨log, houtcome⟩ := t.outcome_of_unready h s
    rw [houtcome]
    rfl
  | none =>
    obtain ⟨script, pauses, log, houtcome⟩ := t.outcome_of_ready h s
    rw [houtcome]
    cases s.2.reads (t.row s) <;> rfl

/-- What is counted as a failure is refused, and nothing else is. -/
theorem ending_eq_source_iff (t : Turn) (s : Seat) :
    (∃ text, t.ending s = .error (.source text)) ↔ (t.complaint? s).isSome = true := by
  unfold ending complaint?
  cases t.operation with
  | list =>
    cases verdict (output? (t.start s)) with
    | error fault => exact iff_of_true ⟨_, rfl⟩ rfl
    | ok payloads =>
      -- What is read after the count may be a fault, but no refusal.
      refine iff_of_false ?_ nofun
      rintro ⟨text, h⟩
      simp only [listed] at h
      cases hwindows : windowsOf t.room payloads with
      | error fault =>
        rw [hwindows] at h
        cases h
        exact failsOnly_windowsOf t.room payloads _ hwindows text rfl
      | ok windows =>
        rw [hwindows] at h
        cases h
  | setOpacity w opacity =>
    cases launches (t.start s) t.name with
    | true => exact iff_of_false nofun nofun
    | false => exact iff_of_true ⟨_, rfl⟩ rfl

/-- **An operation is refused exactly if it is counted as a failure.** -/
theorem refused_eq (t : Turn) (s : Seat) :
    t.refused s = ((t.stop? s).isNone && (t.complaint? s).isSome) := by
  have hrefused : t.refused s = true ↔ ∃ text, (t.outcome s).result = .error (.source text) := by
    unfold refused
    split
    · next text h => exact iff_of_true rfl ⟨text, h⟩
    · next hnot => exact iff_of_false nofun fun ⟨text, h⟩ => hnot text h
  rw [Bool.eq_iff_iff, hrefused, Bool.and_eq_true, ← ending_eq_source_iff, result_outcome]
  cases hstop : t.stop? s with
  | some fault =>
    refine iff_of_false ?_ fun h => nomatch h.1
    rintro ⟨text, h⟩
    exact ne_source_of_stop? hstop text (Except.error.inj h)
  | none => simp

/-- An operation whose script is not run is not done. -/
theorem not_succeeds_of_not_launches (h : launches (t.start s) t.name = false) :
    ¬ t.Succeeds s := by
  rw [Succeeds, result_outcome]
  cases t.stop? s with
  | some fault =>
    intro hdone
    cases hdone
  | none =>
    unfold name at h
    rw [Option.elim_none, ending, name]
    cases hop : t.operation with
    | list =>
      rw [hop] at h
      have hname : launches (t.start s) (marker .listing (t.start s).2.now) = false := h
      have hnone : output? (t.start s) = none := by
        rw [output?, heard?, hname]
        rfl
      rw [hnone]
      intro hdone
      cases hdone
    | setOpacity w opacity =>
      rw [hop] at h
      simp only [h]
      intro hdone
      cases hdone

/-- Whether an operation fails, by a refusal or by any other fault. -/
def failed (t : Turn) (s : Seat) : Bool :=
  match (t.outcome s).result with
  | .error _ => true
  | .ok _ => false

theorem failed_of_not_launches (h : launches (t.start s) t.name = false) : t.failed s = true := by
  have hnot := not_succeeds_of_not_launches h
  rw [Succeeds] at hnot
  rw [failed]
  cases hresult : (t.outcome s).result with
  | error fault => rfl
  | ok x => exact absurd hresult hnot

end Turn

/-! ## Histories -/

/-- A fresh source on a host, after some turns. The latest of them comes first. -/
def afterTurns (host : Host) : List Turn → Seat
  | [] => ({}, { host := host })
  | t :: earlier => t.after (afterTurns host earlier)

theorem host_afterTurns (host : Host) (history : List Turn) :
    (afterTurns host history).2.host = host := by
  induction history with
  | nil => rfl
  | cons t earlier ih => rw [afterTurns, Turn.host_after, ih]

end Translucency.Kwin
