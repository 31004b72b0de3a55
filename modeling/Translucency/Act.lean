import Translucency.Log

/-!
# Acts

An act on a state gives a result or a fault, the state after it, and the log records it wrote on
the way. A fault ends the act but undoes nothing: the state and the records up to it stand. That is
what the parts of this program rely on when they count a failure before they report it, or keep the
settings they had.

`Act.attempt` turns a fault into a value. A `Part` says where a smaller state lies in a larger one,
and `Part.run` runs an act there.
-/

namespace Translucency

/-- What an act leads to. -/
structure Outcome (σ α : Type) where
  result : Except Fault α
  state : σ
  log : List Record

/-- An act on a state. -/
def Act (σ α : Type) : Type := σ → Outcome σ α

namespace Act

variable {σ τ α β : Type}

def run (a : Act σ α) (s : σ) : Outcome σ α := a s

instance : Monad (Act σ) where
  pure a s := ⟨.ok a, s, []⟩
  bind a f s :=
    let first := a s
    match first.result with
    | .error fault => ⟨.error fault, first.state, first.log⟩
    | .ok x =>
      let second := f x first.state
      ⟨second.result, second.state, first.log ++ second.log⟩

def fail (fault : Fault) : Act σ α := fun s => ⟨.error fault, s, []⟩

/-- The result of a reading, or its fault. -/
def lift (r : Except Fault α) : Act σ α := fun s => ⟨r, s, []⟩

def write (record : Record) : Act σ Unit := fun s => ⟨.ok (), s, [record]⟩

/-- Writes a record without a fault. -/
def log (level : Level) (channel : Channel) (message : String) : Act σ Unit :=
  write { level, channel, message }

def read : Act σ σ := fun s => ⟨.ok s, s, []⟩

def change (f : σ → σ) : Act σ Unit := fun s => ⟨.ok (), f s, []⟩

/-- The result or the fault of an act, as a value. -/
def attempt (a : Act σ α) : Act σ (Except Fault α) := fun s =>
  let o := a s
  ⟨.ok o.result, o.state, o.log⟩

/-! ## Equations -/

@[simp] theorem run_pure (a : α) (s : σ) : (pure a : Act σ α).run s = ⟨.ok a, s, []⟩ := rfl

theorem run_bind (a : Act σ α) (f : α → Act σ β) (s : σ) :
    (a >>= f).run s =
      match (a.run s).result with
      | .error fault => ⟨.error fault, (a.run s).state, (a.run s).log⟩
      | .ok x =>
        ⟨((f x).run (a.run s).state).result, ((f x).run (a.run s).state).state,
          (a.run s).log ++ ((f x).run (a.run s).state).log⟩ := rfl

@[simp] theorem run_fail (fault : Fault) (s : σ) :
    (fail fault : Act σ α).run s = ⟨.error fault, s, []⟩ := rfl

@[simp] theorem run_lift (r : Except Fault α) (s : σ) : (lift r : Act σ α).run s = ⟨r, s, []⟩ := rfl

@[simp] theorem run_write (record : Record) (s : σ) :
    (write record : Act σ Unit).run s = ⟨.ok (), s, [record]⟩ := rfl

@[simp] theorem run_read (s : σ) : (read : Act σ σ).run s = ⟨.ok s, s, []⟩ := rfl

@[simp] theorem run_change (f : σ → σ) (s : σ) : (change f).run s = ⟨.ok (), f s, []⟩ := rfl

@[simp] theorem run_attempt (a : Act σ α) (s : σ) :
    a.attempt.run s = ⟨.ok (a.run s).result, (a.run s).state, (a.run s).log⟩ := rfl

/-- Acts are equal if they do the same on every state. -/
theorem ext {a b : Act σ α} (h : ∀ s, a.run s = b.run s) : a = b := funext h

/-- An act may be regrouped freely: pure steps disappear and nesting does not matter. -/
instance : LawfulMonad (Act σ) := LawfulMonad.mk' _
  (fun a => by
    apply ext; intro s
    show Act.run (a >>= fun x => pure x) s = _
    rw [run_bind]
    cases h : (a.run s).result <;> simp [← h])
  (fun a f => by
    apply ext; intro s
    simp [run_bind])
  (fun a f g => by
    apply ext; intro s
    simp only [run_bind]
    cases (a.run s).result with
    | error fault => rfl
    | ok x =>
      simp only
      cases ((f x).run (a.run s).state).result <;> simp)

theorem run_bind_of_ok {a : Act σ α} {f : α → Act σ β} {s : σ} {x : α}
    (h : (a.run s).result = .ok x) :
    (a >>= f).run s =
      ⟨((f x).run (a.run s).state).result, ((f x).run (a.run s).state).state,
        (a.run s).log ++ ((f x).run (a.run s).state).log⟩ := by
  rw [run_bind, h]

theorem run_bind_of_error {a : Act σ α} {f : α → Act σ β} {s : σ} {fault : Fault}
    (h : (a.run s).result = .error fault) :
    (a >>= f).run s = ⟨.error fault, (a.run s).state, (a.run s).log⟩ := by
  rw [run_bind, h]

@[simp] theorem run_log (level : Level) (channel : Channel) (message : String) (s : σ) :
    (log level channel message : Act σ Unit).run s =
      ⟨.ok (), s, [{ level, channel, message }]⟩ := rfl

@[simp] theorem run_map (f : α → β) (a : Act σ α) (s : σ) :
    (f <$> a).run s = ⟨(a.run s).result.map f, (a.run s).state, (a.run s).log⟩ := by
  show (a >>= fun x => pure (f x)).run s = _
  rw [run_bind]
  cases (a.run s).result <;> simp [Except.map]

end Act

/-! ## Parts of a state -/

/-- Where a state of type `τ` lies in one of type `σ`. -/
structure Part (σ τ : Type) where
  get : σ → τ
  set : τ → σ → σ
  get_set : ∀ t s, get (set t s) = t := by intros; rfl
  set_get : ∀ s, set (get s) s = s := by intros; rfl
  set_set : ∀ t u s, set t (set u s) = set t s := by intros; rfl

namespace Part

variable {σ τ υ α : Type}

/-- A state as its own part. -/
def whole : Part σ σ where
  get s := s
  set t _ := t

def first : Part (σ × τ) σ where
  get s := s.1
  set t s := (t, s.2)

def second : Part (σ × τ) τ where
  get s := s.2
  set t s := (s.1, t)

def comp (p : Part σ τ) (q : Part τ υ) : Part σ υ where
  get s := q.get (p.get s)
  set u s := p.set (q.set u (p.get s)) s
  get_set u s := by rw [p.get_set, q.get_set]
  set_get s := by rw [q.set_get, p.set_get]
  set_set u v s := by rw [p.get_set, q.set_set, p.set_set]

/-- Runs an act on the part. -/
def run (p : Part σ τ) (a : Act τ α) : Act σ α := fun s =>
  let o := a (p.get s)
  ⟨o.result, p.set o.state s, o.log⟩

def read (p : Part σ τ) : Act σ τ := p.run .read

def change (p : Part σ τ) (f : τ → τ) : Act σ Unit := p.run (.change f)

@[simp] theorem run_run (p : Part σ τ) (a : Act τ α) (s : σ) :
    (p.run a).run s =
      ⟨(a.run (p.get s)).result, p.set (a.run (p.get s)).state s, (a.run (p.get s)).log⟩ := rfl

@[simp] theorem run_read (p : Part σ τ) (s : σ) : p.read.run s = ⟨.ok (p.get s), s, []⟩ := by
  simp [read, p.set_get]

@[simp] theorem run_change (p : Part σ τ) (f : τ → τ) (s : σ) :
    (p.change f).run s = ⟨.ok (), p.set (f (p.get s)) s, []⟩ := rfl

end Part

end Translucency
