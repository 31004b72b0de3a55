import Translucency.Act
import Translucency.Window

/-!
# Window sources

A window source lists the windows there are and changes their opacity, and may go out of service.
Whatever stands behind it works on a state of its own; the parts of the program that use a source
see these operations only.
-/

namespace Translucency

/-- The operations of a window source that works on a state. -/
structure Source (σ : Type) where
  name : String
  list : Act σ (List Window)
  setOpacity : Window → Binary64 → Act σ Unit
  available : σ → Bool

/-- A source that works on a part of a state. -/
def Source.on {σ τ : Type} (part : Part σ τ) (s : Source τ) : Source σ where
  name := s.name
  list := part.run s.list
  setOpacity w x := part.run (s.setOpacity w x)
  available state := s.available (part.get state)

end Translucency
