import Translucency.Proofs.Kwin.Turns

/-!
# The life of a script

Every operation is meant to send one script through the same stations: it is loaded, run, stopped
and unloaded, and then, for a listing, looked for in the journal. What the desktop replies decides
how far it gets and with which tool. `LifeCycle` has the rows of commands and replies that are meant
to be, told from the replies in the row alone.

An operation keeps to it as long as the replies are texts. At the first one that is none it is cut
off wherever it is (`cut`), and so it goes through the stations exactly if there is no such reply
before the last of them (`follows_life_cycle_iff`). A script whose run is replied to in that way is
neither stopped nor unloaded (`not_unloads_undecodable`). What holds in any case is that no script is
run that was not loaded before.
-/

namespace Translucency.Kwin

/-! ## Exchanges -/

/-- A command and the reply to it. -/
structure Exchange where
  call : Call
  reply : Reply
deriving DecidableEq

namespace Exchange

/-- Whether a command is a message to the window manager that calls a method. -/
def Asks (e : Exchange) (method : String) : Prop :=
  e.call.words[1]? = some "org.kde.KWin" ∧ e.call.words[3]? = some method

/-- Whether the reply is a text. -/
def isText (e : Exchange) : Bool := e.reply.isText

/-- Whether an exchange reports a script as loaded. -/
def Reports (e : Exchange) : Prop :=
  e.Asks "org.kde.kwin.Scripting.loadScript" ∧ e.reply.number?.isSome = true

end Exchange

def runMethod : String := "org.kde.kwin.Script.run"

def stopMethod : String := "org.kde.kwin.Script.stop"

/-- Some calls, each with the reply of a host to it after those before. -/
def Host.exchanges (host : Host) (past : List Call) : List Call → List Exchange
  | [] => []
  | call :: rest => ⟨call, host past call⟩ :: host.exchanges (past ++ [call]) rest

namespace Desktop

/-- The exchanges of the next calls to a desktop. -/
def exchanges (d : Desktop) (calls : List Call) : List Exchange := d.host.exchanges d.calls calls

theorem exchanges_cons (d : Desktop) (call : Call) (rest : List Call) :
    d.exchanges (call :: rest) = ⟨call, d.reply call⟩ :: (d.after [call]).exchanges rest := rfl

theorem exchanges_append (d : Desktop) (calls more : List Call) :
    d.exchanges (calls ++ more) = d.exchanges calls ++ (d.after calls).exchanges more := by
  induction calls generalizing d with
  | nil => rw [after_nil]; rfl
  | cons call rest ih =>
    rw [List.cons_append, exchanges_cons, ih, exchanges_cons, after_after, List.singleton_append,
      List.cons_append]

@[simp] theorem map_call_exchanges (d : Desktop) (calls : List Call) :
    (d.exchanges calls).map (·.call) = calls := by
  induction calls generalizing d with
  | nil => rfl
  | cons call rest ih => rw [exchanges_cons, List.map_cons, ih]

theorem reads_eq_all (d : Desktop) (calls : List Call) :
    d.reads calls = (d.exchanges calls).all Exchange.isText := by
  induction calls generalizing d with
  | nil => rfl
  | cons call rest ih => rw [reads_cons, ih, exchanges_cons, List.all_cons, Exchange.isText]

theorem dropLast_exchanges (d : Desktop) (calls : List Call) :
    (d.exchanges calls).dropLast = d.exchanges calls.dropLast := by
  rcases List.eq_nil_or_concat calls with rfl | ⟨first, last, rfl⟩
  · rfl
  · rw [List.concat_eq_append, exchanges_append, List.dropLast_concat]
    exact List.dropLast_concat

end Desktop

/-! ## Rows that are cut off -/

/-- The exchanges up to the first reply that is no text. -/
def cut : List Exchange → List Exchange
  | [] => []
  | e :: rest => e :: if e.isText then cut rest else []

theorem cut_append (es more : List Exchange) :
    cut (es ++ more) = if es.all Exchange.isText then es ++ cut more else cut es := by
  induction es with
  | nil => rfl
  | cons e rest ih =>
    rw [List.cons_append, cut, ih, cut, List.all_cons]
    cases e.isText with
    | false => rfl
    | true => cases rest.all Exchange.isText <;> rfl

/-- What the desktop lets be made of a row is the row up to such a reply. -/
theorem Desktop.exchanges_made (d : Desktop) (calls : List Call) :
    d.exchanges (d.made calls) = cut (d.exchanges calls) := by
  induction calls generalizing d with
  | nil => rfl
  | cons call rest ih =>
    rw [made_cons, exchanges_cons, exchanges_cons, cut, Exchange.isText]
    cases (d.reply call).isText with
    | false => rfl
    | true => rw [if_pos rfl, if_pos rfl, ih]

theorem cut_isPrefix (es : List Exchange) : cut es <+: es := by
  induction es with
  | nil => exact List.prefix_rfl
  | cons e rest ih =>
    rw [cut, List.cons_prefix_cons]
    refine ⟨rfl, ?_⟩
    split
    · exact ih
    · exact List.nil_prefix

/-- Whatever the last reply is, nothing is cut off by it. -/
theorem cut_eq_self_iff {es : List Exchange} :
    cut es = es ↔ es.dropLast.all Exchange.isText = true := by
  induction es with
  | nil => exact iff_of_true rfl rfl
  | cons e rest ih =>
    rw [cut, List.cons_inj_right]
    cases rest with
    | nil => cases e.isText <;> exact iff_of_true rfl rfl
    | cons next rest =>
      rw [List.dropLast_cons_cons, List.all_cons, Bool.and_eq_true, ← ih]
      cases e.isText with
      | false => exact iff_of_false nofun nofun
      | true => exact (and_iff_right rfl).symm

/-! ## The stations -/

/-- A tool tries to load a script: what was loaded under the name is cleared, and the reply to the
load may give a number. -/
inductive Tries (path name tool : String) : List Exchange → Option String → Prop
  | intro (cleared loaded : Reply) :
    Tries path name tool
      [⟨clearCall tool name, cleared⟩, ⟨loadCall tool path name, loaded⟩] loaded.number?

/-- A script is loaded, beginning with one tool and ending with another, and may have a number
then. The second tool tries if the first one does not get a number. -/
inductive Loads (path name : String) : String → List Exchange → String → Option String → Prop
  | atOnce {tool number : String} {tries : List Exchange}
    (htries : Tries path name tool tries (some number)) :
    Loads path name tool tries tool (some number)
  | withSecond {tries again : List Exchange} {number? : Option String}
    (htries : Tries path name firstTool tries none)
    (hagain : Tries path name secondTool again number?) :
    Loads path name firstTool (tries ++ again) secondTool number?
  | givenUp {tool : String} {tries : List Exchange} (hother : tool ≠ firstTool)
    (htries : Tries path name tool tries none) : Loads path name tool tries tool none

/-- A loaded script is run, stopped and unloaded, whatever the replies are. Whether it was run is up
to the first of them. -/
inductive Runs (name tool number : String) : List Exchange → Bool → Prop
  | intro (ran stopped unloaded : Reply) :
    Runs name tool number
      [⟨runCall tool number, ran⟩, ⟨stopCall tool number, stopped⟩,
        ⟨unloadCall tool name, unloaded⟩]
      (succeeded ran.result?)

/-- The exchanges of an operation that may fail, beginning with one tool and ending with another. If
the script has no number in the end, the operation fails. If it has, it is run, stopped and
unloaded, and the journal is looked at four times at most, and only for a listing that was run. -/
inductive LifeCycle (t : Turn) (failed : Bool) (tool : String) : List Exchange → String → Prop
  | notLoaded {tool' : String} {loads : List Exchange}
    (hloads : Loads t.scriptPath t.name tool loads tool' none) (hfailed : failed = true) :
    LifeCycle t failed tool loads tool'
  | loaded {tool' number : String} {loads runs looks : List Exchange} {ran : Bool}
    (hloads : Loads t.scriptPath t.name tool loads tool' (some number))
    (hruns : Runs t.name tool' number runs ran)
    (hlooks : ∀ e ∈ looks, e.call = lookCall t.now) (hfour : looks.length ≤ 4)
    (hlisting : looks ≠ [] → t.operation = .list ∧ ran = true) :
    LifeCycle t failed tool (loads ++ (runs ++ looks)) tool'

/-! ## What the stations ask for -/

section Asking

variable {path name tool tool' number : String} {number? : Option String} {es : List Exchange}
  {e : Exchange}

/-- A command that calls one method does not call another. -/
theorem Exchange.not_asks {call : Call} {other method : String} (h : e.call = call)
    (hother : call.words[3]? = some other) (hne : other ≠ method) : ¬ e.Asks method := by
  rintro ⟨-, hasks⟩
  rw [h, hother] at hasks
  exact hne (Option.some.inj hasks)

/-- The journal is not part of the window manager. -/
theorem not_asks_lookCall {since : Binary64} (h : e.call = lookCall since) (method : String) :
    ¬ e.Asks method := by
  rintro ⟨hasks, -⟩
  rw [h] at hasks
  exact absurd (Option.some.inj hasks) (by decide)

theorem Tries.mem_cases (h : Tries path name tool es number?) (he : e ∈ es) :
    e.call = clearCall tool name ∨
      e.call = loadCall tool path name ∧ e.reply.number? = number? := by
  obtain ⟨cleared, loaded⟩ := h
  simp only [List.mem_cons, List.not_mem_nil, or_false] at he
  obtain rfl | rfl := he
  · exact .inl rfl
  · exact .inr ⟨rfl, rfl⟩

theorem Tries.ne_nil (h : Tries path name tool es number?) : es ≠ [] := by
  obtain ⟨cleared, loaded⟩ := h
  exact List.cons_ne_nil _ _

/-- A try that got no number reports nothing. -/
theorem Tries.not_reports (h : Tries path name tool es none) (he : e ∈ es) : ¬ e.Reports := by
  rintro ⟨hload, hnumber⟩
  rcases h.mem_cases he with hclear | ⟨-, hnone⟩
  · exact Exchange.not_asks hclear rfl (by decide) hload
  · rw [hnone] at hnumber
    cases hnumber

/-- One that got a number reports it at its end, and there only. -/
theorem Tries.exists_report (h : Tries path name tool es (some number)) :
    ∃ before e, es = before ++ [e] ∧ e.call = loadCall tool path name ∧
      e.reply.number? = some number ∧ ∀ e' ∈ before, ¬ e'.Reports := by
  generalize hnumber : some number = number? at h
  obtain ⟨cleared, loaded⟩ := h
  refine ⟨[⟨clearCall tool name, cleared⟩], _, rfl, rfl, rfl, ?_⟩
  simp only [List.mem_singleton, forall_eq]
  exact fun hreports => Exchange.not_asks rfl rfl (by decide) hreports.1

/-- How a try went is told by what was exchanged. -/
theorem Tries.unique {es' more more' : List Exchange} {number?' : Option String}
    (h : Tries path name tool es number?) (h' : Tries path name tool es' number?')
    (heq : es ++ more = es' ++ more') : es = es' ∧ number? = number?' ∧ more = more' := by
  obtain ⟨cleared, loaded⟩ := h
  obtain ⟨cleared', loaded'⟩ := h'
  simp only [List.cons_append, List.nil_append, List.cons.injEq, Exchange.mk.injEq, true_and] at heq
  obtain ⟨rfl, rfl, rfl⟩ := heq
  exact ⟨rfl, rfl, rfl⟩

/-- An exchange in loading a script clears the place for one or loads one. -/
theorem Loads.mem_cases (h : Loads path name tool es tool' number?) (he : e ∈ es) :
    ∃ tool, e.call = clearCall tool name ∨ e.call = loadCall tool path name := by
  have htries : ∀ {tool tries tried?}, Tries path name tool tries tried? → e ∈ tries →
      ∃ tool, e.call = clearCall tool name ∨ e.call = loadCall tool path name :=
    fun h he => ⟨_, (h.mem_cases he).imp_right And.left⟩
  cases h with
  | atOnce h => exact htries h he
  | withSecond h h' => exact (List.mem_append.1 he).elim (htries h) (htries h')
  | givenUp _ h => exact htries h he

theorem Loads.ne_nil (h : Loads path name tool es tool' number?) : es ≠ [] := by
  cases h with
  | atOnce h => exact h.ne_nil
  | withSecond h _ => exact List.append_ne_nil_of_left_ne_nil h.ne_nil _
  | givenUp _ h => exact h.ne_nil

/-- While a script is loaded, none is run. -/
theorem Loads.not_asks_run (h : Loads path name tool es tool' number?) (he : e ∈ es) :
    ¬ e.Asks runMethod := by
  obtain ⟨tool, hclear | hload⟩ := h.mem_cases he
  · exact Exchange.not_asks hclear rfl (by decide)
  · exact Exchange.not_asks hload rfl (by decide)

theorem Loads.not_reports (h : Loads path name tool es tool' none) (he : e ∈ es) :
    ¬ e.Reports := by
  cases h with
  | withSecond h h' => exact (List.mem_append.1 he).elim h.not_reports h'.not_reports
  | givenUp _ h => exact h.not_reports he

/-- A script that is loaded is reported at the end, and there only. -/
theorem Loads.exists_report (h : Loads path name tool es tool' (some number)) :
    ∃ before e, es = before ++ [e] ∧ e.call = loadCall tool' path name ∧
      e.reply.number? = some number ∧ ∀ e' ∈ before, ¬ e'.Reports := by
  cases h with
  | atOnce h => exact h.exists_report
  | @withSecond tries again _ h h' =>
    obtain ⟨before, e, rfl, hcall, hnumber, hnot⟩ := h'.exists_report
    refine ⟨tries ++ before, e, (List.append_assoc ..).symm, hcall, hnumber, ?_⟩
    exact fun e' he' => (List.mem_append.1 he').elim h.not_reports (hnot e')

/-- How a script was loaded is told by what was exchanged. -/
theorem Loads.unique {es' more more' : List Exchange} {tool'' : String}
    {number?' : Option String} (h : Loads path name tool es tool' number?)
    (h' : Loads path name tool es' tool'' number?') (heq : es ++ more = es' ++ more') :
    number? = number?' ∧ more = more' := by
  -- The first try decides whether there is another one, and no other tool than the first allows it.
  cases h with
  | atOnce h =>
    cases h' with
    | atOnce h' => exact (h.unique h' heq).2
    | withSecond h' _ =>
      rw [List.append_assoc] at heq
      exact nomatch (h.unique h' heq).2.1
    | givenUp _ h' => exact nomatch (h.unique h' heq).2.1
  | withSecond h hagain =>
    rw [List.append_assoc] at heq
    cases h' with
    | atOnce h' => exact nomatch (h.unique h' heq).2.1
    | withSecond h' hagain' =>
      rw [List.append_assoc] at heq
      exact (hagain.unique hagain' (h.unique h' heq).2.2).2
    | givenUp hother _ => exact absurd rfl hother
  | givenUp hother h =>
    cases h' with
    | atOnce h' => exact nomatch (h.unique h' heq).2.1
    | withSecond _ _ => exact absurd rfl hother
    | givenUp _ h' => exact (h.unique h' heq).2

variable {ran : Bool}

theorem Runs.mem_cases (h : Runs name tool number es ran) (he : e ∈ es) :
    e.call = runCall tool number ∨ e.call = stopCall tool number ∨
      e.call = unloadCall tool name := by
  obtain ⟨ran, stopped, unloaded⟩ := h
  simp only [List.mem_cons, List.not_mem_nil, or_false] at he
  obtain rfl | rfl | rfl := he
  · exact .inl rfl
  · exact .inr (.inl rfl)
  · exact .inr (.inr rfl)

theorem Runs.not_reports (h : Runs name tool number es ran) (he : e ∈ es) : ¬ e.Reports := by
  rintro ⟨hload, -⟩
  rcases h.mem_cases he with hrun | hstop | hunload
  · exact Exchange.not_asks hrun rfl (by decide) hload
  · exact Exchange.not_asks hstop rfl (by decide) hload
  · exact Exchange.not_asks hunload rfl (by decide) hload

theorem Runs.eq_runCall (h : Runs name tool number es ran) (he : e ∈ es)
    (hasks : e.Asks runMethod) : e.call = runCall tool number := by
  rcases h.mem_cases he with hrun | hstop | hunload
  · exact hrun
  · exact absurd hasks (Exchange.not_asks hstop rfl (by decide))
  · exact absurd hasks (Exchange.not_asks hunload rfl (by decide))

theorem Runs.length_eq (h : Runs name tool number es ran) : es.length = 3 := by
  obtain ⟨ran, stopped, unloaded⟩ := h
  rfl

/-- A script is unloaded exactly if the replies to running and stopping it are texts. -/
theorem Runs.unloads_iff {since : Binary64} {looks : List Exchange}
    (h : Runs name tool number es ran) (hlooks : ∀ e ∈ looks, e.call = lookCall since) :
    (∃ e ∈ cut (es ++ looks), e.call = unloadCall tool name) ↔
      ∀ e ∈ cut (es ++ looks), e.Asks runMethod ∨ e.Asks stopMethod → e.isText = true := by
  obtain ⟨ran, stopped, unloaded⟩ := h
  have hrun : (⟨runCall tool number, ran⟩ : Exchange).Asks runMethod := ⟨rfl, rfl⟩
  have hstop : (⟨stopCall tool number, stopped⟩ : Exchange).Asks stopMethod := ⟨rfl, rfl⟩
  simp only [List.cons_append, List.nil_append, cut]
  cases hran : (⟨runCall tool number, ran⟩ : Exchange).isText with
  | false =>
    refine iff_of_false ?_ fun hall => ?_
    · simp [runCall, unloadCall, message]
    · exact nomatch hran.symm.trans (hall _ (List.mem_cons_self ..) (.inl hrun))
  | true =>
    cases hstopped : (⟨stopCall tool number, stopped⟩ : Exchange).isText with
    | false =>
      refine iff_of_false ?_ fun hall => ?_
      · simp [runCall, stopCall, unloadCall, message]
      · exact nomatch hstopped.symm.trans
          (hall _ (List.mem_cons_of_mem _ (List.mem_cons_self ..)) (.inr hstop))
    | true =>
      -- What comes then is the unloading, and neither that nor a look runs or stops a script.
      simp only [if_true]
      refine iff_of_true ⟨⟨unloadCall tool name, unloaded⟩, by simp, rfl⟩ ?_
      intro e he hasks
      rw [List.mem_cons, List.mem_cons, List.mem_cons] at he
      rcases he with rfl | rfl | rfl | hlook
      · exact hran
      · exact hstopped
      · rcases hasks with hasks | hasks
        · exact absurd hasks (Exchange.not_asks rfl rfl (by decide))
        · exact absurd hasks (Exchange.not_asks rfl rfl (by decide))
      · have hmem : e ∈ looks := by
          split at hlook
          · exact (cut_isPrefix looks).subset hlook
          · cases hlook
        rcases hasks with hasks | hasks
        · exact absurd hasks (not_asks_lookCall (hlooks e hmem) _)
        · exact absurd hasks (not_asks_lookCall (hlooks e hmem) _)

end Asking

/-! ## What follows for scripts -/

namespace LifeCycle

variable {t : Turn} {failed : Bool} {tool tool' : String} {es before after : List Exchange}
  {e : Exchange}

/-- Of two rows that begin alike the longer one has more looks at the journal, and nothing else. -/
theorem rest_looks {failed' : Bool} {tool'' : String} {more : List Exchange}
    (h : LifeCycle t failed tool es tool') (h' : LifeCycle t failed' tool (es ++ more) tool'') :
    ∀ e ∈ more, e.call = lookCall t.now := by
  generalize hrow : es ++ more = row at h'
  cases h with
  | notLoaded hloads =>
    cases h' with
    | notLoaded hloads' =>
      rw [← List.append_nil row] at hrow
      rw [(hloads.unique hloads' hrow).2]
      exact nofun
    | loaded hloads' => exact nomatch (hloads.unique hloads' hrow).1
  | @loaded _ _ loads runs looks _ hloads hruns =>
    rw [List.append_assoc] at hrow
    cases h' with
    | notLoaded hloads' =>
      rw [← List.append_nil row] at hrow
      exact nomatch (hloads.unique hloads' hrow).1
    | @loaded _ _ _ runs' looks' _ hloads' hruns' hlooks' =>
      have hrest := (hloads.unique hloads' hrow).2
      rw [List.append_assoc] at hrest
      obtain ⟨-, hlooks⟩ := List.append_inj hrest (hruns.length_eq.trans hruns'.length_eq.symm)
      intro e he
      exact hlooks' e (hlooks ▸ List.mem_append_right looks he)

/-- **When a script is left loaded.** One that was reported as loaded is unloaded later, with the same
tool and under the same name, exactly if the replies to running and stopping it are texts. -/
theorem unloads_iff (h : LifeCycle t failed tool es tool')
    (hcut : cut es = before ++ e :: after) (hreports : e.Reports) :
    e.call = loadCall tool' t.scriptPath t.name ∧
      ((∃ e' ∈ after, e'.call = unloadCall tool' t.name) ↔
        ∀ e' ∈ after, e'.Asks runMethod ∨ e'.Asks stopMethod → e'.isText = true) := by
  have he : e ∈ cut es := hcut ▸ List.mem_append_right _ (List.mem_cons_self ..)
  cases h with
  | notLoaded hloads =>
    exact absurd hreports (hloads.not_reports ((cut_isPrefix es).subset he))
  | @loaded _ number loads runs looks ran hloads hruns hlooks hfour hlisting =>
    obtain ⟨first, report, rfl, hcall, -, hnot⟩ := hloads.exists_report
    have hrest : e ∉ cut (runs ++ looks) := by
      intro hmem
      rcases List.mem_append.1 ((cut_isPrefix _).subset hmem) with hmem | hmem
      · exact hruns.not_reports hmem hreports
      · exact not_asks_lookCall (hlooks e hmem) _ hreports.1
    -- The report is the end of the loading, so it was come to, and the rest is what comes after it.
    rw [List.append_assoc, List.singleton_append, cut_append] at hcut
    split at hcut
    case isFalse =>
      have hmem : e ∈ cut first := hcut ▸ List.mem_append_right _ (List.mem_cons_self ..)
      exact absurd hreports (hnot e ((cut_isPrefix first).subset hmem))
    rw [cut] at hcut
    have hmem : e ∉ if report.isText then cut (runs ++ looks) else [] := by
      split
      · exact hrest
      · exact List.not_mem_nil
    obtain ⟨-, rfl, hafter⟩ :=
      (List.append_cons_inj_of_notMem (fun he => hnot e he hreports) hmem).1 hcut
    have htext : report.isText = true := by
      obtain ⟨result, hresult⟩ : ∃ result, report.reply.result? = some result := by
        have hnumber := hreports.2
        cases hreply : report.reply with
        | finished status output errors => exact ⟨_, rfl⟩
        | _ => simp [hreply, Reply.number?] at hnumber
      exact Reply.isText_of_result? hresult
    rw [htext, if_pos rfl] at hafter
    rw [← hafter]
    exact ⟨hcall, hruns.unloads_iff hlooks⟩

/-- **No script is run that was not loaded.** The number under which a script is run was given by
the reply to a load before. -/
theorem loads_before (h : LifeCycle t failed tool (before ++ e :: after) tool')
    (hrun : e.Asks runMethod) :
    ∃ number, e.call = runCall tool' number ∧
      ∃ e' ∈ before, e'.call = loadCall tool' t.scriptPath t.name ∧
        e'.reply.number? = some number := by
  generalize hes : before ++ e :: after = es at h
  cases h with
  | notLoaded hloads =>
    have he : e ∈ es := hes ▸ List.mem_append_right _ (List.mem_cons_self ..)
    exact absurd hrun (hloads.not_asks_run he)
  | @loaded _ number loads runs looks ran hloads hruns hlooks hfour hlisting =>
    have hnot : e ∉ loads := fun he => hloads.not_asks_run he hrun
    have he : e ∈ runs := by
      have hmem : e ∈ loads ++ (runs ++ looks) :=
        hes ▸ List.mem_append_right _ (List.mem_cons_self ..)
      rcases List.mem_append.1 hmem with he | hmem
      · exact absurd he hnot
      · exact (List.mem_append.1 hmem).resolve_right fun he =>
          not_asks_lookCall (hlooks e he) runMethod hrun
    obtain ⟨first, report, hloads, hcall, hnumber, -⟩ := hloads.exists_report
    have hreport : report ∈ loads := hloads ▸ List.mem_append_right _ (List.mem_singleton_self _)
    refine ⟨number, hruns.eq_runCall he hrun, report, ?_, hcall, hnumber⟩
    -- The run stands in the second part, so all of the first part comes before it.
    rcases List.append_eq_append_iff.1 hes with ⟨rest, hloads', hcons⟩ | ⟨rest, hbefore, _⟩
    · cases rest with
      | nil => rwa [hloads', List.append_nil] at hreport
      | cons first rest =>
        rw [List.cons_append, List.cons.injEq] at hcons
        obtain ⟨rfl, rfl⟩ := hcons
        exact absurd (hloads' ▸ List.mem_append_right _ (List.mem_cons_self ..)) hnot
    · exact hbefore ▸ List.mem_append_left _ hreport

end LifeCycle

/-! ## What an operation does -/

theorem loads_loading (s : Seat) (name : String) :
    Loads s.2.scriptPath name s.1.tool (s.2.exchanges (loading s name).calls) (loading s name).tool
      (loading s name).number? := by
  have htries : ∀ (d : Desktop) (tool : String), Tries d.scriptPath name tool
      (d.exchanges (loadCalls tool d.scriptPath name)) (d.number? tool name) :=
    fun d tool => .intro ..
  have hfirst := htries s.2 s.1.tool
  cases hnumber : s.2.number? s.1.tool name with
  | some number =>
    rw [hnumber] at hfirst
    rw [loading_of_some hnumber]
    exact .atOnce hfirst
  | none =>
    rw [hnumber] at hfirst
    rw [loading_of_none hnumber]
    by_cases htool : s.1.tool = firstTool
    · simp only [htool, if_true] at hfirst ⊢
      rw [Desktop.exchanges_append]
      exact .withSecond hfirst
        (htries (s.2.after (loadCalls firstTool s.2.scriptPath name)) secondTool)
    · simp only [htool, if_false]
      exact .givenUp htool hfirst

/-- What a tool was changed for is known before the last reply. -/
theorem toolAfter_of_reads_dropLast {s : Seat} {name : String}
    (h : s.2.reads (scriptCalls s name).dropLast = true) :
    toolAfter s name = (loading s name).tool := by
  cases hnumber : (loading s name).number? with
  | some number =>
    -- With a number there is more to come than loading.
    have hcalls : ∃ last, (scriptCalls s name).dropLast = (loading s name).calls ++ last := by
      refine ⟨[runCall (loading s name).tool number, stopCall (loading s name).tool number], ?_⟩
      rw [scriptCalls, hnumber]
      exact List.dropLast_append_of_ne_nil (by simp [runCalls])
    obtain ⟨last, hcalls⟩ := hcalls
    rw [hcalls, Desktop.reads_append, Bool.and_eq_true] at h
    exact toolAfter_of_reads h.1
  | none =>
    have hscript : scriptCalls s name = (loading s name).calls := by
      rw [scriptCalls, hnumber]
      exact List.append_nil _
    rw [hscript] at h
    rw [toolAfter]
    split
    · rfl
    · next hnot =>
      cases hfirst : s.2.number? s.1.tool name with
      | some number => rw [loading_of_some hfirst]
      | none =>
        rw [loading_of_none hfirst] at h ⊢
        by_cases htool : s.1.tool = firstTool
        · simp only [htool, if_true] at h hnot
          have hdrop : (loadCalls firstTool s.2.scriptPath name ++
              loadCalls secondTool s.2.scriptPath name).dropLast =
                loadCalls firstTool s.2.scriptPath name ++ [clearCall secondTool name] := rfl
          rw [hdrop, Desktop.reads_append, Bool.and_eq_true] at h
          exact absurd h.1 hnot
        · simp only [htool, if_false]

namespace Turn

/-- The number of looks at the journal that an operation is to take. -/
def lookCount (t : Turn) (s : Seat) : Nat :=
  match t.operation with
  | .list => looksFor (t.start s) t.name endWord
  | .setOpacity .. => 0

theorem row_eq (t : Turn) (s : Seat) :
    t.row s =
      scriptCalls (t.start s) t.name ++ List.replicate (t.lookCount s) (lookCall t.now) := by
  unfold row lookCount name
  cases t.operation <;> rfl

/-- A script that is not run is not looked for. -/
theorem lookCount_le (t : Turn) (s : Seat) :
    t.lookCount s ≤ 4 ∧
      (0 < t.lookCount s → t.operation = .list ∧ launches (t.start s) t.name = true) := by
  unfold lookCount
  cases t.operation with
  | list =>
    simp only [looksFor]
    split
    · next hlaunches =>
      refine ⟨Nat.le_trans (looksTaken_le ..) ?_, fun _ => ⟨trivial, hlaunches⟩⟩
      rw [scriptLooks, Desktop.length_looks]
      exact Nat.le_refl _
    · exact ⟨Nat.zero_le _, fun h => absurd h (Nat.lt_irrefl 0)⟩
  | setOpacity w opacity => exact ⟨Nat.zero_le _, fun h => absurd h (Nat.lt_irrefl 0)⟩

/-- The exchanges of an operation: the calls that it adds to those before, with the replies. -/
def exchanges (t : Turn) (s : Seat) : List Exchange := s.2.exchanges (t.made s)

theorem calls_after_eq (t : Turn) (s : Seat) :
    (t.after s).2.calls = s.2.calls ++ (t.exchanges s).map (·.call) := by
  rw [exchanges, Desktop.map_call_exchanges, calls_after]

theorem exchanges_of_ready {t : Turn} (h : t.unready? = none) (s : Seat) :
    t.exchanges s = cut (s.2.exchanges (t.row s)) := by
  rw [exchanges, made, if_pos h, Desktop.exchanges_made]

theorem exchanges_of_unready {t : Turn} (h : t.unready? ≠ none) (s : Seat) :
    t.exchanges s = [] := by
  rw [exchanges, made, if_neg h]
  rfl

/-- The stations that an operation would go through if all replies were texts. It goes through them
as well with fewer looks at the journal. -/
theorem lifeCycle_of_looks (t : Turn) (s : Seat) (looks : List Exchange)
    (hlooks : looks <+: ((t.start s).2.after (scriptCalls (t.start s) t.name)).exchanges
      (List.replicate (t.lookCount s) (lookCall t.now))) :
    LifeCycle t (t.failed s) s.1.tool
      ((t.start s).2.exchanges (scriptCalls (t.start s) t.name) ++ looks)
      (loading (t.start s) t.name).tool := by
  have hloads := loads_loading (t.start s) t.name
  obtain ⟨hfour, hlisting⟩ := t.lookCount_le s
  have hlength : looks.length ≤ t.lookCount s := by
    have hle := (hlooks.map (·.call)).length_le
    rwa [Desktop.map_call_exchanges, List.length_map, List.length_replicate] at hle
  have hcalls : ∀ e ∈ looks, e.call = lookCall t.now := by
    intro e he
    have hcall := List.mem_map_of_mem (f := (·.call)) (hlooks.subset he)
    rw [Desktop.map_call_exchanges] at hcall
    exact List.eq_of_mem_replicate hcall
  rw [scriptCalls]
  cases hnumber : (loading (t.start s) t.name).number? with
  | none =>
    have hlaunches : launches (t.start s) t.name = false := by
      rw [launches, hnumber]
      rfl
    have hnone : looks = [] := by
      by_contra hne
      have hran := (hlisting (Nat.lt_of_lt_of_le (List.length_pos_of_ne_nil hne) hlength)).2
      rw [hlaunches] at hran
      cases hran
    rw [hnumber] at hloads
    rw [hnone]
    simp only [Option.toList_none, List.flatMap_nil, List.append_nil]
    exact .notLoaded hloads (failed_of_not_launches hlaunches)
  | some number =>
    let tool := (loading (t.start s) t.name).tool
    let loaded := (t.start s).2.after (loading (t.start s) t.name).calls
    have hruns : Runs t.name tool number (loaded.exchanges (runCalls tool number t.name))
        (launches (t.start s) t.name) := by
      rw [launches, hnumber]
      exact .intro ..
    rw [hnumber] at hloads
    simp only [Option.toList_some, List.flatMap_singleton]
    rw [Desktop.exchanges_append, List.append_assoc]
    exact .loaded hloads hruns hcalls (Nat.le_trans hlength hfour) fun hne =>
      hlisting (Nat.lt_of_lt_of_le (List.length_pos_of_ne_nil hne) hlength)

end Turn

/-- All calls for a script are messages to the window manager. -/
theorem ne_lookCall_of_mem_scriptCalls {s : Seat} {name : String} {call : Call}
    (h : call ∈ scriptCalls s name) (since : Binary64) : call ≠ lookCall since := by
  have hmessage : ∀ tool words limit, message tool words limit ≠ lookCall since := by
    intro tool words limit heq
    have hsecond := congrArg (·.words[1]?) heq
    exact absurd (Option.some.inj hsecond) (by decide)
  have hloads : ∀ tool path, call ∈ loadCalls tool path name → call ≠ lookCall since := by
    intro tool path hmem
    rw [loadCalls, List.mem_cons, List.mem_singleton] at hmem
    rcases hmem with rfl | rfl <;> exact hmessage _ _ _
  rw [scriptCalls, List.mem_append] at h
  rcases h with hload | hrun
  · rw [loading] at hload
    split at hload
    · exact hloads _ _ hload
    · split at hload
      · exact (List.mem_append.1 hload).elim (hloads _ _) (hloads _ _)
      · exact hloads _ _ hload
  · obtain ⟨number, -, hrun⟩ := List.mem_flatMap.1 hrun
    rw [runCalls, List.mem_cons, List.mem_cons, List.mem_singleton] at hrun
    rcases hrun with rfl | rfl | rfl <;> exact hmessage _ _ _

theorem loadCalls_isPrefix_loading (s : Seat) (name : String) :
    loadCalls s.1.tool s.2.scriptPath name <+: (loading s name).calls := by
  rw [loading]
  split
  · exact List.prefix_rfl
  · split
    · exact List.prefix_append ..
    · exact List.prefix_rfl

namespace Turn

variable {t : Turn} {s : Seat}

/-- **When an operation goes through the stations**: exactly if it is set out on and no reply before
the last of them is anything but a text. -/
theorem lifeCycle_iff (t : Turn) (s : Seat) :
    LifeCycle t (t.failed s) s.1.tool (t.exchanges s) (t.after s).1.tool ↔
      t.unready? = none ∧ s.2.reads (scriptCalls (t.start s) t.name).dropLast = true := by
  by_cases hready : t.unready? = none
  · rw [and_iff_right hready, tool_after, if_pos hready, exchanges_of_ready hready, row_eq,
      Desktop.exchanges_append, cut_append]
    have hwhole : s.2.reads (scriptCalls (t.start s) t.name).dropLast = true ↔
        cut (s.2.exchanges (scriptCalls (t.start s) t.name)) =
          s.2.exchanges (scriptCalls (t.start s) t.name) := by
      rw [cut_eq_self_iff, Desktop.dropLast_exchanges, Desktop.reads_eq_all]
    constructor
    · intro hcycle
      rw [hwhole]
      by_contra hcut
      -- What was cut off is more than looks, and a row cannot be cut off there.
      have hnot : ¬ (s.2.exchanges (scriptCalls (t.start s) t.name)).all Exchange.isText := by
        intro hall
        apply hcut
        rw [cut_eq_self_iff]
        exact List.all_eq_true.2 fun e he =>
          List.all_eq_true.1 hall e (List.dropLast_subset _ he)
      rw [if_neg hnot] at hcycle
      obtain ⟨more, hmore⟩ := cut_isPrefix (s.2.exchanges (scriptCalls (t.start s) t.name))
      have hrow := t.lifeCycle_of_looks s [] List.nil_prefix
      have hstart : (t.start s).2.exchanges (scriptCalls (t.start s) t.name) =
          s.2.exchanges (scriptCalls (t.start s) t.name) := rfl
      rw [List.append_nil, hstart, ← hmore] at hrow
      have hlooks := hcycle.rest_looks hrow
      cases more with
      | nil => exact hcut (by rwa [List.append_nil] at hmore)
      | cons e rest =>
        have hmem : e.call ∈ scriptCalls (t.start s) t.name := by
          rw [← s.2.map_call_exchanges (scriptCalls (t.start s) t.name), ← hmore]
          exact List.mem_map_of_mem (List.mem_append_right _ (List.mem_cons_self ..))
        exact ne_lookCall_of_mem_scriptCalls hmem t.now (hlooks e (List.mem_cons_self ..))
    · intro hreads
      rw [toolAfter_of_reads_dropLast hreads]
      split
      · exact t.lifeCycle_of_looks s _ (cut_isPrefix _)
      · rw [hwhole.1 hreads, ← List.append_nil (s.2.exchanges _)]
        exact t.lifeCycle_of_looks s [] List.nil_prefix
  · -- An operation that is not set out on has no exchanges, and no row is empty.
    refine iff_of_false ?_ fun h => hready h.1
    rw [exchanges_of_unready hready]
    generalize hes : ([] : List Exchange) = es
    rintro (⟨hloads⟩ | ⟨hloads⟩)
    · exact hloads.ne_nil hes.symm
    · exact hloads.ne_nil (List.append_eq_nil_iff.1 hes.symm).1

/-- A tool that has loaded a script is in use afterwards, and so is one that runs it. -/
theorem tool_after_of_mem {e : Exchange} (he : e ∈ t.exchanges s)
    (hasks : e.Reports ∨ e.Asks runMethod) :
    t.unready? = none ∧ (t.after s).1.tool = (loading (t.start s) t.name).tool := by
  have hready : t.unready? = none := by
    by_contra hnot
    rw [exchanges_of_unready hnot] at he
    cases he
  refine ⟨hready, ?_⟩
  rw [tool_after, if_pos hready, toolAfter]
  split
  · rfl
  · next hnot =>
    cases hnumber : (t.start s).2.number? (t.start s).1.tool t.name with
    | some number => rw [loading_of_some hnumber]
    | none =>
      -- The first try was cut off, and there is neither a number in it nor a run.
      obtain ⟨rest, hrest⟩ := loadCalls_isPrefix_loading (t.start s) t.name
      have htries : Tries (t.start s).2.scriptPath t.name (t.start s).1.tool
          ((t.start s).2.exchanges
            (loadCalls (t.start s).1.tool (t.start s).2.scriptPath t.name)) none :=
        hnumber ▸ .intro ..
      have hcut : ¬ (s.2.exchanges
          (loadCalls (t.start s).1.tool (t.start s).2.scriptPath t.name)).all Exchange.isText := by
        rwa [← Desktop.reads_eq_all]
      rw [exchanges_of_ready hready, row_eq, scriptCalls, ← hrest, List.append_assoc,
        List.append_assoc, Desktop.exchanges_append, cut_append, if_neg hcut] at he
      have hfirst := (cut_isPrefix _).subset he
      rcases hasks with hreports | hrun
      · exact absurd hreports (htries.not_reports hfirst)
      · rcases htries.mem_cases hfirst with hclear | ⟨hload, -⟩
        · exact absurd hrun (Exchange.not_asks hclear rfl (by decide))
        · exact absurd hrun (Exchange.not_asks hload rfl (by decide))

/-- The stations that an operation would go through if all replies were texts. -/
theorem lifeCycle_row (t : Turn) (s : Seat) :
    LifeCycle t (t.failed s) s.1.tool (s.2.exchanges (t.row s))
      (loading (t.start s) t.name).tool := by
  rw [row_eq, Desktop.exchanges_append]
  exact t.lifeCycle_of_looks s _ List.prefix_rfl

end Turn

/-- The second tool stays in use. -/
theorem tool_foldr_after {s : Seat} (h : s.1.tool = secondTool) (later : List Turn) :
    (later.foldr Turn.after s).1.tool = secondTool := by
  induction later with
  | nil => exact h
  | cons t later ih =>
    rw [List.foldr_cons, Turn.tool_after]
    split
    · rcases toolAfter_cases (t.start (later.foldr Turn.after s)) t.name with hkept | hsecond
      · exact hkept.trans ih
      · exact hsecond
    · exact ih

/-- **The life of a script.** Whatever the desktop replies and whatever the source has been through,
the commands of an operation with their replies are one of the rows of `LifeCycle` exactly if the
operation is set out on and all replies before the last station are texts. Once the second tool is
in use it stays so. A script that was reported as loaded is unloaded later in the row exactly if the
replies to running and stopping it are texts, and none is run that was not loaded before. -/
theorem follows_life_cycle_iff (t : Turn) (s : Seat) :
    (t.after s).2.calls = s.2.calls ++ (t.exchanges s).map (·.call) ∧
    (LifeCycle t (t.failed s) s.1.tool (t.exchanges s) (t.after s).1.tool ↔
      t.unready? = none ∧ s.2.reads (scriptCalls (t.start s) t.name).dropLast = true) ∧
    ((t.after s).1.tool = secondTool → ∀ later : List Turn,
      (later.foldr Turn.after (t.after s)).1.tool = secondTool) ∧
    ∀ before e after, t.exchanges s = before ++ e :: after →
      (e.Reports →
        e.call = loadCall (t.after s).1.tool t.scriptPath t.name ∧
          ((∃ e' ∈ after, e'.call = unloadCall (t.after s).1.tool t.name) ↔
            ∀ e' ∈ after, e'.Asks runMethod ∨ e'.Asks stopMethod → e'.isText = true)) ∧
      (e.Asks runMethod → ∃ number, e.call = runCall (t.after s).1.tool number ∧
        ∃ e' ∈ before, e'.call = loadCall (t.after s).1.tool t.scriptPath t.name ∧
          e'.reply.number? = some number) := by
  refine ⟨t.calls_after_eq s, t.lifeCycle_iff s, tool_foldr_after, ?_⟩
  intro before e after hsplit
  have he : e ∈ t.exchanges s := hsplit ▸ List.mem_append_right _ (List.mem_cons_self ..)
  have hrow := t.lifeCycle_row s
  constructor
  · intro hreports
    obtain ⟨hready, htool⟩ := Turn.tool_after_of_mem he (.inl hreports)
    rw [Turn.exchanges_of_ready hready] at hsplit
    rw [htool]
    exact hrow.unloads_iff hsplit hreports
  · intro hrun
    obtain ⟨hready, htool⟩ := Turn.tool_after_of_mem he (.inr hrun)
    obtain ⟨more, hmore⟩ := cut_isPrefix (s.2.exchanges (t.row s))
    rw [Turn.exchanges_of_ready hready] at hsplit
    rw [← hmore, hsplit, List.append_assoc, List.cons_append] at hrow
    rw [htool]
    exact hrow.loads_before hrun

/-- A script is loaded, and what comes back when it is run is no text. It is neither stopped nor
unloaded. -/
theorem not_unloads_undecodable :
    let host : Host := .ofQueues fun
      | .load => [.finished 0 "1" ""]
      | .run => [.undecodable]
      | _ => []
    let t : Turn := { operation := .list, now := .ofInt 0, scriptPath := "/tmp/a.js" }
    let s := afterTurns host []
    (t.exchanges s).map (·.call) =
        [clearCall firstTool t.name, loadCall firstTool t.scriptPath t.name,
          runCall firstTool "1"] ∧
      (∃ e ∈ t.exchanges s, e.Reports) ∧
      ¬ LifeCycle t (t.failed s) s.1.tool (t.exchanges s) (t.after s).1.tool := by
  intro host t s
  have hexchanges : t.exchanges s =
      [⟨clearCall firstTool t.name, .finished 0 "" ""⟩,
        ⟨loadCall firstTool t.scriptPath t.name, .finished 0 "1" ""⟩,
        ⟨runCall firstTool "1", .undecodable⟩] := by
    decide +kernel
  refine ⟨by rw [hexchanges]; rfl, ?_, ?_⟩
  · rw [hexchanges]
    exact ⟨_, List.mem_cons_of_mem _ (List.mem_cons_self ..), ⟨rfl, rfl⟩, by decide +kernel⟩
  · rw [Turn.lifeCycle_iff]
    rintro ⟨-, hreads⟩
    revert hreads
    decide +kernel

end Translucency.Kwin
