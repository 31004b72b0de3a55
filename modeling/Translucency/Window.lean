import Translucency.Fault
import Translucency.Text.LowerCase
import Translucency.Value

/-!
# Windows

A window as its source reports it. The three names of a window are texts as a rule, but a source
that relays messages may report anything, so they are dynamic values; an absent name is null. The
identity, by which windows are excluded, is the first name that is there, in lower case.
-/

namespace Translucency

/-- A window at the moment of a listing. -/
structure Window where
  id : String
  resourceClass : Value := .null
  resourceName : Value := .null
  caption : Value := .null
  /-- Whether it is an ordinary window rather than a panel, a menu or the like. -/
  isNormal : Bool := true
  isFullScreen : Bool := false
  opacity : Value := .float (.ofInt 1)

namespace Window

/-- The name for use in messages where a window has none. -/
def unnamed : Value := .text "<unknown>"

def displayName (w : Window) : Value :=
  ((w.resourceClass.orElse w.resourceName).orElse w.caption).orElse unnamed

/-- The text by which a window is excluded; empty if it has no name. A name that is no text is a
mishap. -/
def identity (w : Window) : Except Fault (List Char) :=
  match [w.resourceClass, w.resourceName, w.caption].find? Value.truthy with
  | none => .ok []
  | some (.text s) => .ok (Text.lower s.toList)
  | some _ => .error (.mishap .lacksMember)

end Window

end Translucency
