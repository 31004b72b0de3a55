import Translucency.Act
import Translucency.Exclusion.Patterns

/-!
# The pattern cache

The exclusion list is read from the settings at every event, but compiled only when its text is not
the one compiled last. One entry is enough for that. A list with errors is kept as well, as no
patterns at all, so its errors are logged once and not at every event. Whether they are logged
visibly is asked at that moment.
-/

namespace Translucency.Exclusion

/-- The last list and its patterns, and how often a list was compiled. An absent list and an empty
one are different lists. -/
structure Cache where
  entry : Option (Option String × Patterns) := none
  compiles : Nat := 0

namespace Cache

/-- The list compiled last. -/
def last (c : Cache) : Option String := c.entry.bind (·.1)

/-- The patterns of a list, if it is the one compiled last. -/
def find? (c : Cache) (list : Option String) : Option Patterns :=
  match c.entry with
  | some (last, patterns) => if last = list then some patterns else none
  | none => none

def clear (c : Cache) : Cache := { c with entry := none }

/-- The log lines about a list with errors. -/
def complaint (list : Option String) (flaws : List Flaw) : List String :=
  let shown := match list with
    | some s => String.ofList (Text.quoted s.toList)
    | none => "None"
  ["Invalid excluded windows list, no windows will be excluded", "  excludedWindows = " ++ shown] ++
    flaws.map fun flaw => "  " ++ flaw.message

variable {σ : Type}

/-- The patterns of a list, compiled only if it is not the one compiled last. -/
def update (cache : Part σ Cache) (visible : Act σ Bool) (list : Option String) :
    Act σ Patterns := do
  match (← cache.read).find? list with
  | some patterns => return patterns
  | none =>
    let compiled := compile list
    cache.change fun c => { c with compiles := c.compiles + 1 }
    if !compiled.isClean then
      let level : Level := if ← visible then .warning else .debug
      (complaint list compiled.flaws).forM fun line => .log level .cache line
    cache.change fun c => { c with entry := some (list, compiled.usable) }
    return compiled.usable

/-- The patterns of the list as it is read at this moment. -/
def fetch (cache : Part σ Cache) (visible : Act σ Bool) (reader : Act σ (Option String)) :
    Act σ Patterns := do
  update cache visible (← reader)

end Cache

end Translucency.Exclusion
