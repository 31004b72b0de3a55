import Translucency.Act

/-!
# Dependencies

The program needs a package for its documents, and tools to reach the window manager: either of two
senders, and the journal. A missing package is an error; without the tools only simulated windows
can be had.
-/

namespace Translucency

inductive DependencyKind where
  | required
  | tool
deriving DecidableEq

def DependencyKind.name : DependencyKind → String
  | required => "Required"
  | tool => "System Tool"

structure Dependency where
  name : String
  kind : DependencyKind
  description : String
  /-- The name to show, if it is another one. -/
  shownAs : Option String := none
  /-- What is lost without it. -/
  feature : String := ""
deriving DecidableEq

/-- What was found of a dependency. -/
structure Finding where
  dependency : Dependency
  installed : Bool
  version : Option String := none
deriving DecidableEq

/-- How a package presents itself. -/
inductive Package where
  /-- It cannot be found, or cannot be loaded. -/
  | unusable
  /-- It loads, and may say its version. -/
  | usable (version : Option String)

namespace Dependency

def packages : List Dependency := [
  { name := "yaml", kind := .required, description := "YAML configuration parsing",
    shownAs := some "PyYAML" }]

/-- The tools that reach the window manager. -/
def tools : List Dependency := [
  { name := "qdbus6", kind := .tool, description := "Qt6 D-Bus communication",
    feature := "Plasma 6 support" },
  { name := "qdbus", kind := .tool, description := "Qt D-Bus communication",
    feature := "Plasma 5 support" },
  { name := "journalctl", kind := .tool, description := "Systemd journal access",
    feature := "KWin script output" }]

def shown (d : Dependency) : String := d.shownAs.getD d.name

/-- The version of a package that does not say one. -/
def unknownVersion : String := "unknown"

/-- What is found of everything, given the state of the package and the tools at hand. -/
def findings (package : Package) (present : List String) : List Finding :=
  packages.map (fun d => match package with
    | .unusable => { dependency := d, installed := false }
    | .usable version =>
      { dependency := d, installed := true, version := some (version.getD unknownVersion) }) ++
  tools.map fun d => { dependency := d, installed := present.contains d.name }

/-- Whether the names of what is installed suffice to reach the window manager. -/
def reachable (installed : List String) : Bool :=
  (installed.contains "qdbus6" || installed.contains "qdbus") && installed.contains "journalctl"

def installedNames (findings : List Finding) : List String :=
  (findings.filter (·.installed)).map (·.dependency.name)

/-- Whether something that is required is missing. -/
def isCritical (findings : List Finding) : Bool :=
  findings.any fun f => f.dependency.kind == .required && !f.installed

def line (f : Finding) : Record :=
  let d := f.dependency
  let record (level : Level) (message : String) : Record :=
    { level := level, channel := .dependencies, message := message }
  if f.installed then
    let version := match f.version with
      | some v => if v = "" ∨ v = unknownVersion then "" else " (v" ++ v ++ ")"
      | none => ""
    record .info ("Found " ++ d.shown ++ version ++ ": " ++ d.description)
  else
    match d.kind with
    | .required => record .error ("Missing " ++ d.shown ++ ": " ++ d.description)
    | .tool => record .warning ("Missing " ++ d.shown ++ ": " ++ d.feature ++ " will be disabled")

def report {σ : Type} (findings : List Finding) : Act σ Unit := do
  findings.forM fun f => .write (line f)
  if !reachable (installedNames findings) then
    .log .warning .dependencies
      "KWin scripting unavailable. Install qdbus (qt6-tools) and systemd, or use --simulate"

def summary (findings : List Finding) : String :=
  let complete := !isCritical findings
  let ofTools := findings.filter fun f => f.dependency.kind == .tool
  let found := (ofTools.filter (·.installed)).length
  "Dependency Status: " ++
    (if complete && reachable (installedNames findings) then "OK" else "DEGRADED") ++
    " (Python: " ++ (if complete then "OK" else "Missing Required") ++
    ", System Tools: " ++ toString found ++ "/" ++ toString ofTools.length ++ " found)"

end Dependency

end Translucency
