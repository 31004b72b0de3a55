import Translucency.Exclusion.Cache

/-!
# Matching identities

Whether a window is excluded is decided by its identity and by the exclusion list as it stands at
that moment. The list is read anew for each identity, and only the cache decides whether it needs
compiling, so a changed list counts from the next event on. A window without an identity is never
excluded, and the list is not even read for it.
-/

namespace Translucency.Exclusion

/-- What matching needs from its surroundings: where the cache is, how the list is read, and whether
errors in it are to be logged visibly. -/
structure Matcher (σ : Type) where
  cache : Part σ Cache
  list : Act σ (Option String)
  visible : Act σ Bool

namespace Matcher

variable {σ : Type}

/-- The log line about an excluded identity. -/
def notice (identity : List Char) : Reason → String
  | .exact => "'" ++ String.ofList identity ++ "' excluded by exact pattern"
  | .fragment text =>
    "'" ++ String.ofList identity ++ "' excluded by contains pattern '" ++ String.ofList text ++ "'"

/-- Whether an identity is excluded. -/
def excludes (m : Matcher σ) (identity : List Char) : Act σ Bool := do
  if identity.isEmpty then return false
  let identity := Text.lower identity
  let patterns ← Cache.update m.cache m.visible (← m.list)
  match patterns.reason? identity with
  | some reason =>
    .log .debug .matcher (notice identity reason)
    return true
  | none => return false

end Matcher

end Translucency.Exclusion
