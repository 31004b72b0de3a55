import Mathlib.Data.List.Forall2
import Translucency.Act

/-!
# Running acts step by step

An act is run from the front: once the outcome of its first step is known, what is left is the rest
in the state after that step, with the records so far in front (`Act.run_bind_eq`), or nothing if
the step failed (`Act.run_bind_eq_of_error`). The modules that say what an operation does rewrite
with these two and never look at how steps are joined.

Where an operation is not known step by step, as when it is handed in from elsewhere, what can be
said is how it may change the state (`Act.Keeps`), and that passes from the steps to the whole.
-/

namespace Translucency

variable {ε ε' σ τ α β : Type}

/-! ## Readings -/

/-- A reading that succeeds hands its value on. -/
@[simp] theorem ok_bind (a : α) (f : α → Except ε β) : (Except.ok a >>= f) = f a := rfl

/-- A reading that fails ends what depends on it. -/
@[simp] theorem error_bind (e : ε) (f : α → Except ε β) : (Except.error e >>= f) = .error e := rfl

@[simp] theorem mapError_ok (f : ε → ε') (a : α) :
    (Except.ok a : Except ε α).mapError f = .ok a := rfl

@[simp] theorem mapError_error (f : ε → ε') (e : ε) :
    (Except.error e : Except ε α).mapError f = .error (f e) := rfl

/-- A chain of readings succeeds exactly if each of them does. -/
theorem bind_eq_ok_iff {r : Except ε α} {f : α → Except ε β} {b : β} :
    r >>= f = .ok b ↔ ∃ a, r = .ok a ∧ f a = .ok b := by
  cases r with
  | error e => simp
  | ok a => simp

/-- A row of readings gives a row of values exactly if each reading gives the value in its place. -/
theorem mapM_eq_ok_iff {f : α → Except ε β} {as : List α} {bs : List β} :
    as.mapM f = .ok bs ↔ List.Forall₂ (fun a b => f a = .ok b) as bs := by
  induction as generalizing bs with
  | nil =>
    rw [List.mapM_nil, List.forall₂_nil_left_iff]
    exact ⟨fun h => (Except.ok.inj h).symm, fun h => congrArg Except.ok h.symm⟩
  | cons a as ih =>
    rw [List.mapM_cons, bind_eq_ok_iff, List.forall₂_cons_left_iff]
    constructor
    · rintro ⟨b, hb, h⟩
      obtain ⟨bs', hbs, h⟩ := bind_eq_ok_iff.1 h
      exact ⟨b, bs', hb, ih.1 hbs, (Except.ok.inj h).symm⟩
    · rintro ⟨b, bs', hb, hbs, rfl⟩
      exact ⟨b, hb, bind_eq_ok_iff.2 ⟨bs', ih.2 hbs, rfl⟩⟩

/-- A row of readings succeeds exactly if each of them does. -/
theorem exists_mapM_eq_ok_iff {f : α → Except ε β} {as : List α} :
    (∃ bs, as.mapM f = .ok bs) ↔ ∀ a ∈ as, ∃ b, f a = .ok b := by
  simp only [mapM_eq_ok_iff]
  induction as with
  | nil => exact iff_of_true ⟨[], .nil⟩ (List.forall_mem_nil _)
  | cons a as ih =>
    rw [List.forall_mem_cons, ← ih]
    constructor
    · rintro ⟨bs, h⟩
      obtain ⟨b, bs', hb, hbs, -⟩ := List.forall₂_cons_left_iff.1 h
      exact ⟨⟨b, hb⟩, bs', hbs⟩
    · rintro ⟨⟨b, hb⟩, bs, hbs⟩
      exact ⟨b :: bs, .cons hb hbs⟩

theorem eq_ok_of_toOption {r : Except ε α} {a : α} (h : r.toOption = some a) : r = .ok a := by
  cases r with
  | error e => cases h
  | ok a' => exact congrArg Except.ok (Option.some.inj h)

theorem exists_eq_error_of_toOption {r : Except ε α} (h : r.toOption = none) :
    ∃ e, r = .error e := by
  cases r with
  | error e => exact ⟨e, rfl⟩
  | ok a => cases h

/-! ## Faults of readings -/

/-- Whether every fault of a reading is of some kind. -/
def FailsOnly (P : Fault → Prop) (r : Except Fault α) : Prop := ∀ fault, r = .error fault → P fault

namespace FailsOnly

variable {P Q : Fault → Prop}

theorem ok (a : α) : FailsOnly P (.ok a) := fun _ h => by cases h

theorem error {fault : Fault} (h : P fault) : FailsOnly P (.error fault : Except Fault α) := by
  rintro _ ⟨⟩
  exact h

theorem mono {r : Except Fault α} (h : FailsOnly P r) (hPQ : ∀ fault, P fault → Q fault) :
    FailsOnly Q r := fun fault hr => hPQ fault (h fault hr)

theorem bind {r : Except Fault α} {f : α → Except Fault β} (hr : FailsOnly P r)
    (hf : ∀ a, r = .ok a → FailsOnly P (f a)) : FailsOnly P (r >>= f) := by
  cases r with
  | error fault => exact error (hr fault rfl)
  | ok a => exact hf a rfl

theorem mapM {f : α → Except Fault β} (hf : ∀ a, FailsOnly P (f a)) (l : List α) :
    FailsOnly P (l.mapM f) := by
  induction l with
  | nil => exact ok []
  | cons a l ih =>
    rw [List.mapM_cons]
    exact (hf a).bind fun b _ => ih.bind fun bs _ => ok (b :: bs)

end FailsOnly

/-! ## Acts -/

/-- An outcome with records in front of its own. -/
def Outcome.after (log : List Record) (o : Outcome σ α) : Outcome σ α :=
  { o with log := log ++ o.log }

@[simp] theorem Outcome.after_mk (log log' : List Record) (r : Except Fault α) (s : σ) :
    (Outcome.mk r s log').after log = ⟨r, s, log ++ log'⟩ := rfl

@[simp] theorem Outcome.after_nil (o : Outcome σ α) : o.after [] = o := rfl

namespace Act

/-- A first step that succeeds leaves the rest to be run. -/
theorem run_bind_eq {a : Act σ α} {s s' : σ} {x : α} {log : List Record}
    (h : a.run s = ⟨.ok x, s', log⟩) (f : α → Act σ β) :
    (a >>= f).run s = ((f x).run s').after log := by
  rw [run_bind_of_ok (by rw [h]), h]
  rfl

/-- A first step that fails ends the act. -/
theorem run_bind_eq_of_error {a : Act σ α} {s s' : σ} {fault : Fault} {log : List Record}
    (h : a.run s = ⟨.error fault, s', log⟩) (f : α → Act σ β) :
    (a >>= f).run s = ⟨.error fault, s', log⟩ := by
  rw [run_bind_of_error (by rw [h]), h]

/-- A fault becomes a value, and nothing else changes. -/
theorem run_attempt_eq {a : Act σ α} {s s' : σ} {r : Except Fault α} {log : List Record}
    (h : a.run s = ⟨r, s', log⟩) : a.attempt.run s = ⟨.ok r, s', log⟩ := by
  rw [run_attempt, h]

/-- Writing a line about each of some things writes a record for each, in order. -/
theorem run_forM_log (level : Level) (channel : Channel) (text : α → String) (items : List α)
    (s : σ) :
    (forM items fun a => (log level channel (text a) : Act σ PUnit)).run s =
      ⟨.ok (), s, items.map fun a => { level, channel, message := text a }⟩ := by
  induction items with
  | nil => rfl
  | cons a items ih =>
    rw [List.forM_cons, run_bind_eq (run_log level channel (text a) s), ih]
    rfl

/-! ## Acts that keep a relation -/

/-- Whether an act leads from every state to one in a relation with it. Faults are no way out of
that, for they undo nothing. -/
def Keeps (R : σ → σ → Prop) (a : Act σ α) : Prop := ∀ s, R s (a.run s).state

section Keeps

variable {R : σ → σ → Prop} {a : Act σ α}

theorem Keeps.attempt (h : a.Keeps R) : a.attempt.Keeps R := h

theorem Keeps.bind (htrans : ∀ ⦃s t u⦄, R s t → R t u → R s u) {f : α → Act σ β} (ha : a.Keeps R)
    (hf : ∀ x, (f x).Keeps R) : (a >>= f).Keeps R := by
  intro s
  rw [run_bind]
  cases (a.run s).result with
  | error fault => exact ha s
  | ok x => exact htrans (ha s) (hf x (a.run s).state)

/-- Going through a list keeps what each of its steps keeps. -/
theorem keeps_foldlM (hrefl : ∀ s, R s s) (htrans : ∀ ⦃s t u⦄, R s t → R t u → R s u)
    {f : β → α → Act σ β} {items : List α} (h : ∀ a ∈ items, ∀ b, (f b a).Keeps R) (b : β) :
    (items.foldlM f b).Keeps R := by
  induction items generalizing b with
  | nil => exact hrefl
  | cons a items ih =>
    rw [List.foldlM_cons]
    exact (h a (List.mem_cons_self ..) b).bind htrans
      (ih fun a' ha' => h a' (List.mem_cons_of_mem a ha'))

/-- On a part of a state an act keeps there what it keeps. -/
theorem Keeps.on {p : Part τ σ} (h : a.Keeps R) :
    (p.run a).Keeps fun s s' => R (p.get s) (p.get s') := by
  intro s
  show R (p.get s) (p.get (p.set _ s))
  rw [p.get_set]
  exact h (p.get s)

end Keeps

end Act

/-- Acts on a part may be put in sequence there or outside. -/
theorem Part.run_bind (p : Part σ τ) (a : Act τ α) (f : α → Act τ β) :
    p.run (a >>= f) = p.run a >>= fun x => p.run (f x) := by
  apply Act.ext
  intro s
  rw [Part.run_run, Act.run_bind, Act.run_bind, Part.run_run]
  cases (a.run (p.get s)).result with
  | error fault => rfl
  | ok x => simp only [Part.run_run, p.get_set, p.set_set]

/-- An act on a part of a state does there what it does, and leaves the rest. -/
theorem Part.run_eq {p : Part σ τ} {a : Act τ α} {s : σ} {t : τ} {r : Except Fault α}
    {log : List Record} (h : a.run (p.get s) = ⟨r, t, log⟩) :
    (p.run a).run s = ⟨r, p.set t s, log⟩ := by
  rw [Part.run_run, h]

end Translucency
