import Translucency.Kwin.Source
import Translucency.Proofs.Act

/-!
# Calls in a row

What the source does with a desktop consists in calls, one after the other, and what the desktop
replies to each of them may depend on all that was asked before. So a reply is told by the calls
that came before it, and what comes of a row of calls is told by the replies.

One reply is different from all others. Where bytes come back that are no text, the command fails as
an act and nobody on the way handles that, so no more calls are made. `Host.made` is what is made
then of a row of calls, and `Host.reads` whether it comes to that at all.

`Talks` says of an act that it does nothing but that. It is stated with the row that the act makes
when all replies are texts, and it passes from the steps of an act to the whole (`Talks.bind`): the
rows are put one behind the other, and where the first is cut off the second is not begun.
-/

namespace Translucency.Kwin

/-! ## Replies -/

namespace Reply

/-- Whether a reply is anything but bytes that are no text. -/
def isText : Reply → Bool
  | undecodable => false
  | _ => true

/-- The result that a reply brings. -/
def result? : Reply → Option Result
  | finished status output _ => some ⟨status, output⟩
  | undecodable => none
  | timeout => none
  | notStarted _ => none

/-- The number of the script that was loaded, if a reply gives one. -/
def number? : Reply → Option String
  | finished status output _ => if status = 0 then scriptNumber? output else none
  | undecodable => none
  | timeout => none
  | notStarted _ => none

/-- The payloads in a reply, if an awaited one is among them. -/
def payloads? (marker awaited : String) (reply : Reply) : Option (List String) :=
  (reply.result?.map fun result => payloads marker result.output).filter (·.contains awaited)

theorem number?_eq (reply : Reply) :
    (if succeeded reply.result? then reply.result?.bind fun r => scriptNumber? r.output else none) =
      reply.number? := by
  cases reply with
  | finished status output errors =>
    by_cases h : status = 0
    · simp [result?, succeeded, number?, h]
    · simp [result?, succeeded, number?, h]
  | undecodable => rfl
  | timeout => rfl
  | notStarted reason => rfl

theorem payloads?_eq_some_iff {marker awaited : String} {reply : Reply} {found : List String} :
    reply.payloads? marker awaited = some found ↔
      ∃ result, reply.result? = some result ∧ payloads marker result.output = found ∧
        awaited ∈ found := by
  rw [payloads?, Option.filter_eq_some_iff, Option.map_eq_some_iff]
  simp only [List.contains_iff_mem]
  constructor
  · rintro ⟨⟨result, hresult, hfound⟩, hmem⟩
    exact ⟨result, hresult, hfound, hmem⟩
  · rintro ⟨result, hresult, hfound, hmem⟩
    exact ⟨⟨result, hresult, hfound⟩, hmem⟩

theorem isText_of_result? {reply : Reply} {result : Result} (h : reply.result? = some result) :
    reply.isText = true := by
  cases reply with
  | undecodable => cases h
  | _ => rfl

end Reply

/-! ## Rows of calls -/

namespace Host

variable (host : Host) (past : List Call)

/-- Whether the replies to some calls in a row are all texts. -/
def reads (past : List Call) : List Call → Bool
  | [] => true
  | call :: rest => (host past call).isText && reads (past ++ [call]) rest

/-- The calls that are made of a row: all of them, or those up to the first one that is replied to
with bytes that are no text. -/
def made (past : List Call) : List Call → List Call
  | [] => []
  | call :: rest => call :: if (host past call).isText then made (past ++ [call]) rest else []

theorem reads_append (calls more : List Call) :
    host.reads past (calls ++ more) =
      (host.reads past calls && host.reads (past ++ calls) more) := by
  induction calls generalizing past with
  | nil => simp [reads]
  | cons call rest ih =>
    rw [List.cons_append, reads, ih, reads, Bool.and_assoc, List.append_assoc,
      List.singleton_append]

theorem made_append (calls more : List Call) :
    host.made past (calls ++ more) =
      if host.reads past calls then calls ++ host.made (past ++ calls) more
      else host.made past calls := by
  induction calls generalizing past with
  | nil => simp [reads]
  | cons call rest ih =>
    rw [List.cons_append, made, ih, reads, made, List.append_assoc, List.singleton_append]
    cases (host past call).isText with
    | false => rfl
    | true => cases host.reads (past ++ [call]) rest <;> rfl

/-- A row is made as a whole if all replies are texts. -/
theorem made_of_reads {past calls : List Call} (h : host.reads past calls = true) :
    host.made past calls = calls := by
  have happend := host.made_append past calls []
  rwa [List.append_nil, if_pos h, made, List.append_nil] at happend

@[simp] theorem made_singleton (call : Call) : host.made past [call] = [call] := by
  rw [made]
  split <;> rfl

end Host

/-! ## The desktop -/

namespace Desktop

/-- The reply of a desktop to its next call. -/
def reply (d : Desktop) (call : Call) : Reply := d.host d.calls call

/-- A desktop after some calls. -/
def after (d : Desktop) (calls : List Call) : Desktop := { d with calls := d.calls ++ calls }

@[simp] theorem after_nil (d : Desktop) : d.after [] = d := by
  rw [after, List.append_nil]

@[simp] theorem after_after (d : Desktop) (calls more : List Call) :
    (d.after calls).after more = d.after (calls ++ more) := by
  simp [after]

/-- Whether a desktop replies to its next calls with texts only. -/
def reads (d : Desktop) (calls : List Call) : Bool := d.host.reads d.calls calls

/-- The calls that a desktop lets be made of a row. -/
def made (d : Desktop) (calls : List Call) : List Call := d.host.made d.calls calls

/-- What comes of a row of calls: a value, if the replies are texts. -/
def answer {α : Type} (d : Desktop) (calls : List Call) (x : α) : Except Fault α :=
  if d.reads calls then .ok x else .error (.mishap .undecodable)

theorem reads_cons (d : Desktop) (call : Call) (rest : List Call) :
    d.reads (call :: rest) = ((d.reply call).isText && (d.after [call]).reads rest) := rfl

theorem reads_append (d : Desktop) (calls more : List Call) :
    d.reads (calls ++ more) = (d.reads calls && (d.after calls).reads more) :=
  d.host.reads_append d.calls calls more

theorem made_cons (d : Desktop) (call : Call) (rest : List Call) :
    d.made (call :: rest) =
      call :: if (d.reply call).isText then (d.after [call]).made rest else [] := rfl

theorem made_append (d : Desktop) (calls more : List Call) :
    d.made (calls ++ more) =
      if d.reads calls then calls ++ (d.after calls).made more else d.made calls :=
  d.host.made_append d.calls calls more

theorem made_of_reads {d : Desktop} {calls : List Call} (h : d.reads calls = true) :
    d.made calls = calls := d.host.made_of_reads h

/-- A command is one call, and brings the result in the reply, if that is a text. -/
theorem run_perform (words : List String) (limit : Binary64) (d : Desktop) :
    ∃ log, (perform words limit).run d =
      ⟨d.answer [⟨words, limit⟩] (d.reply ⟨words, limit⟩).result?, d.after [⟨words, limit⟩],
        log⟩ := by
  have hask : (ask ⟨words, limit⟩).run d =
      ⟨.ok (d.reply ⟨words, limit⟩), d.after [⟨words, limit⟩], []⟩ := rfl
  rw [perform, Act.run_bind_eq (Act.run_log ..), Act.run_bind_eq hask, answer, reads_cons]
  cases d.reply ⟨words, limit⟩ with
  | undecodable => exact ⟨_, rfl⟩
  | timeout => exact ⟨_, rfl⟩
  | notStarted reason => exact ⟨_, rfl⟩
  | finished status output errors =>
    -- A status other than zero is a matter of the log only.
    by_cases hstatus : status = 0
    · subst hstatus
      exact ⟨_, rfl⟩
    · simp only [ne_eq, hstatus, not_false_eq_true, if_true]
      exact ⟨_, rfl⟩

end Desktop

/-! ## Acts that consist in calls -/

variable {α β : Type}

/-- Whether an act consists in a row of calls. Where the replies are texts it makes them all and
gives a value; elsewhere it makes those up to the reply that is none. It leaves a tool in use and
changes nothing else of the source, and of the desktop only the pauses. -/
def Talks (a : Act Seat α) (s : Seat) (calls : List Call) (tool : String) (x : α) : Prop :=
  ∃ pauses log, a.run s =
    ⟨s.2.answer calls x,
      ({ s.1 with tool := tool }, { s.2.after (s.2.made calls) with pauses := pauses }), log⟩

namespace Talks

variable {a : Act Seat α} {f : α → Act Seat β} {s : Seat} {calls more : List Call}
  {tool tool' : String} {x : α} {y : β}

theorem pure (x : α) (s : Seat) : Talks (Pure.pure x) s [] s.1.tool x :=
  ⟨s.2.pauses, [], by rw [Desktop.made, Host.made, Desktop.after_nil]; rfl⟩

/-- A quick look at the seat makes no calls. -/
theorem read {f : Seat → Act Seat β} (h : Talks (f s) s calls tool y) :
    Talks (Act.read >>= f) s calls tool y := by
  obtain ⟨pauses, log, hrun⟩ := h
  exact ⟨pauses, log, by rw [Act.run_bind_eq (Act.run_read s), hrun]; rfl⟩

/-- A record makes none either. -/
theorem log {f : Unit → Act Seat β} (level : Level) (channel : Channel) (text : String)
    (h : Talks (f ()) s calls tool y) :
    Talks (Act.log level channel text >>= f) s calls tool y := by
  obtain ⟨pauses, log, hrun⟩ := h
  exact ⟨pauses, _, by rw [Act.run_bind_eq (Act.run_log ..), hrun, Outcome.after_mk]⟩

/-- Nor does a pause. -/
theorem pause {f : Unit → Act Seat β} (seconds : Binary64)
    (h : ∀ pauses, Talks (f ()) (s.1, { s.2 with pauses := pauses }) calls tool y) :
    Talks (Part.second.run (Desktop.pause seconds) >>= f) s calls tool y := by
  obtain ⟨pauses, log, hrun⟩ := h (s.2.pauses ++ [seconds])
  have hpause : (Part.second.run (Desktop.pause seconds)).run s =
      ⟨.ok (), (s.1, { s.2 with pauses := s.2.pauses ++ [seconds] }), []⟩ := rfl
  exact ⟨pauses, log, by rw [Act.run_bind_eq hpause, hrun]; rfl⟩

/-- Another tool is taken into use. -/
theorem changeTool {f : Unit → Act Seat β} (tool' : String)
    (h : Talks (f ()) ({ s.1 with tool := tool' }, s.2) calls tool y) :
    Talks (Act.change (fun s : Seat => ({ s.1 with tool := tool' }, s.2)) >>= f) s calls tool
      y := by
  obtain ⟨pauses, log, hrun⟩ := h
  exact ⟨pauses, log, by rw [Act.run_bind_eq (Act.run_change ..), hrun]; rfl⟩

/-- **One row is put behind another.** What follows has to be known only where the first row is made
as a whole. -/
theorem bind (ha : Talks a s calls tool x)
    (hf : s.2.reads calls = true → ∀ pauses, Talks (f x)
      ({ s.1 with tool := tool }, { s.2.after calls with pauses := pauses }) more tool' y) :
    Talks (a >>= f) s (calls ++ more) (if s.2.reads calls then tool' else tool) y := by
  obtain ⟨pauses, log, hrun⟩ := ha
  unfold Talks
  rw [Desktop.answer, Desktop.reads_append, Desktop.made_append]
  rw [Desktop.answer] at hrun
  cases hreads : s.2.reads calls with
  | false =>
    rw [hreads] at hrun
    exact ⟨pauses, log, Act.run_bind_eq_of_error hrun f⟩
  | true =>
    obtain ⟨pauses', log', hrest⟩ := hf hreads pauses
    rw [hreads, Desktop.made_of_reads hreads] at hrun
    refine ⟨pauses', log ++ log', ?_⟩
    rw [Act.run_bind_eq hrun, hrest, Outcome.after_mk, Bool.true_and, if_pos rfl, if_pos rfl,
      ← Desktop.after_after]
    rfl

/-- Mostly both rows are made with the same tool. -/
theorem bind_same (more : List Call) (ha : Talks a s calls tool x)
    (hf : s.2.reads calls = true → ∀ pauses, Talks (f x)
      ({ s.1 with tool := tool }, { s.2.after calls with pauses := pauses }) more tool y) :
    Talks (a >>= f) s (calls ++ more) tool y := by
  have h := bind ha hf
  rwa [ite_self] at h

end Talks

/-- The call that sends a message to the window manager. -/
def message (tool : String) (words : List String) (limit : Binary64) : Call :=
  ⟨tool :: "org.kde.KWin" :: words, limit⟩

theorem talks_perform (words : List String) (limit : Binary64) (s : Seat) :
    Talks (perform words limit) s [⟨words, limit⟩] s.1.tool
      (s.2.reply ⟨words, limit⟩).result? := by
  obtain ⟨log, hrun⟩ := Desktop.run_perform words limit s.2
  refine ⟨s.2.pauses, log, ?_⟩
  rw [Desktop.made, Host.made_singleton]
  exact Part.run_eq (p := Part.second) hrun

theorem talks_send (tool : String) (words : List String) (limit : Binary64) (s : Seat) :
    Talks (send tool words limit) s [message tool words limit] s.1.tool
      (s.2.reply (message tool words limit)).result? := talks_perform ..

end Translucency.Kwin
