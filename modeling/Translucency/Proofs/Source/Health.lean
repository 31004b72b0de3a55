import Translucency.Proofs.Act
import Translucency.Source.Health

/-!
# What counting does

Counting a success or a failure of a window source is `Health.after`, with a record of the moment at
which the source goes out of service. It cannot fail, so an operation that ends with it ends as it
would have without.
-/

namespace Translucency.Health

/-- The records that go with a result: one at the moment at which the source goes out of service. -/
def notice (channel : Channel) (name : String) (h : Health) : Option String → List Record
  | none => []
  | some error =>
    if h.available && !(h.after (some error)).available then
      [{ level := .warning, channel
         message :=
          "Disabling window source '" ++ name ++ "' after " ++ toString (h.failures + 1) ++
            " failures: " ++ error }]
    else []

/-- Counting leaves the health that `after` says, and writes that record and no other. -/
theorem run_note (channel : Channel) (name : String) (error : Option String) (h : Health) :
    (note channel name error).run h =
      ⟨.ok (), h.after error, notice channel name h error⟩ := by
  rw [note, Act.run_bind_eq (Act.run_read h), Outcome.after_nil]
  rw [Act.run_bind_eq (Act.run_change _ h), Outcome.after_nil]
  cases error with
  | none => rfl
  | some error =>
    simp only [notice]
    split
    · rfl
    · rfl

/-- Counting in a part of a state changes that part only. -/
theorem run_note_on {σ : Type} (part : Part σ Health) (channel : Channel) (name : String)
    (error : Option String) (s : σ) :
    (part.run (note channel name error)).run s =
      ⟨.ok (), part.set ((part.get s).after error) s, notice channel name (part.get s) error⟩ :=
  Part.run_eq (run_note channel name error (part.get s))

end Translucency.Health
