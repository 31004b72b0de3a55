import Translucency.Exclusion.Matcher
import Translucency.Opacity.Clamp
import Translucency.Window

/-!
# Which window gets which opacity

Only ordinary windows that do not fill the screen are touched, and of those only the ones that are
not excluded. A window whose opacity cannot be set keeps the one it had; that is logged and stops
nothing.
-/

namespace Translucency.Opacity

open Exclusion

variable {σ : Type}

/-- Whether a window is of the kind that is touched; no window is not. -/
def isEligible : Option Window → Bool
  | some w => w.isNormal && !w.isFullScreen
  | none => false

/-- The opacity that a window should get, if any. -/
def desired (m : Matcher σ) (window : Option Window) (percent : Value)
    (room : Nat := Value.usualRoom) : Act σ (Option Binary64) := do
  match window with
  | none => return none
  | some w =>
    if !isEligible (some w) then return none
    if ← m.excludes (← .lift w.identity) then return none
    return some (← clamp percent room)

/-- Gives a window the opacity it should get, through a setter. The result is the window after that
and the opacity, if it was set. -/
def apply (m : Matcher σ) (setter : Window → Binary64 → Act σ Unit) (window : Option Window)
    (percent : Value) (room : Nat := Value.usualRoom) : Act σ (Option Window × Option Binary64) := do
  match window, ← desired m window percent room with
  | some w, some opacity =>
    match ← (setter w opacity).attempt with
    | .ok () => return (some { w with opacity := .float opacity }, some opacity)
    | .error fault =>
      .log .error .policy
        ("Error setting opacity for window " ++ (w.resourceClass.orElse Window.unnamed).plain ++
          ": " ++ fault.message)
      return (some w, none)
  | window, _ => return (window, none)

end Translucency.Opacity
