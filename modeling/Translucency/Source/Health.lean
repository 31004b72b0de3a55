import Translucency.Act

/-!
# Health of a window source

A window source counts its failures in a row. At the third it is taken out of service for good:
a later success ends the streak but does not bring it back. The change is logged once.
-/

namespace Translucency

structure Health where
  available : Bool := true
  /-- The failures since the last success. -/
  failures : Nat := 0
  lastError : Option String := none
deriving DecidableEq

namespace Health

/-- The length of a streak that takes a source out of service. -/
def patience : Nat := 3

/-- The health after a success or a failure. -/
def after (h : Health) : Option String → Health
  | none => { h with failures := 0, lastError := none }
  | some error =>
    { available := h.available && h.failures + 1 < patience
      failures := h.failures + 1
      lastError := some error }

@[simp] theorem after_none (h : Health) :
    h.after none = { available := h.available, failures := 0, lastError := none } := rfl

theorem available_after_some (h : Health) (error : String) :
    (h.after (some error)).available = true ↔ h.available = true ∧ h.failures + 1 < patience := by
  simp [after]

/-- Counts a success, or a failure with its error. -/
def note (channel : Channel) (name : String) (error : Option String) : Act Health Unit := do
  let before ← .read
  let now := before.after error
  .change fun _ => now
  match error with
  | some error =>
    if before.available && !now.available then
      .log .warning channel
        ("Disabling window source '" ++ name ++ "' after " ++ toString now.failures ++
          " failures: " ++ error)
  | none => return

end Health

end Translucency
