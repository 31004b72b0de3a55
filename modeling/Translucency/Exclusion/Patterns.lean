import Translucency.Exclusion.Token

/-!
# Exclusion patterns

An exclusion list is a comma separated text. It compiles to the set of identities that its exact
tokens name, kept without repetitions, and the fragments of its other tokens in their order. One
error anywhere makes the whole list unusable: it then excludes nothing, rather than something other
than what was meant.
-/

namespace Translucency.Exclusion

open Text

structure Patterns where
  /-- The identities that are excluded, each once. -/
  exact : List (List Char) := []
  /-- The fragments whose occurrence excludes an identity, in order. -/
  fragments : List (List Char) := []
deriving DecidableEq

def Patterns.isEmpty (p : Patterns) : Bool := p.exact.isEmpty && p.fragments.isEmpty

structure Compiled where
  patterns : Patterns := {}
  flaws : List Flaw := []
deriving DecidableEq

namespace Compiled

def isClean (c : Compiled) : Bool := c.flaws.isEmpty

/-- The patterns to go by: none at all if the list had an error. -/
def usable (c : Compiled) : Patterns := if c.isClean then c.patterns else {}

end Compiled

/-! ## Compiling -/

/-- The trimmed pieces between commas, without the blank ones. -/
def tokens (list : List Char) : List (List Char) :=
  ((pieces ',' list).map trim).filter (!·.isEmpty)

/-- Whether some comma is followed by another one with only blanks between. -/
def hasDoubleComma : List Char → Bool
  | [] => false
  | c :: s => (c == ',' && (s.dropWhile isBlank).head? == some ',') || hasDoubleComma s

/-- Whether some comma is followed by nothing but blanks. -/
def hasFinalComma : List Char → Bool
  | [] => false
  | c :: s => (c == ',' && s.all isBlank) || hasFinalComma s

/-- The first error in how commas are placed. A comma at the start is no error. -/
def commaFlaw? (list : List Char) : Option Flaw :=
  if hasDoubleComma list then some .consecutiveCommas
  else if hasFinalComma list then some .trailingComma
  else none

/-- The identities that tokens name exactly, each once. -/
def exactTexts (tokens : List Token) : List (List Char) :=
  (tokens.filterMap fun t => match t with
    | .exact text => some text
    | _ => none).eraseDups

/-- The fragments among tokens, in order. -/
def fragmentTexts (tokens : List Token) : List (List Char) :=
  tokens.filterMap fun t => match t with
    | .contains text => some text
    | _ => none

/-- The patterns of tokens, or all their errors. -/
def ofTokens (tokens : List Token) : Compiled :=
  match tokens.filterMap Token.flaw? with
  | [] => { patterns := { exact := exactTexts tokens, fragments := fragmentTexts tokens } }
  | flaws => { flaws := flaws }

/-- Compiles a list, where there is one. -/
def compile (list : Option String) : Compiled :=
  match (list.getD "").toList with
  | [] => {}
  | list =>
    match commaFlaw? list with
    | some flaw => { flaws := [flaw] }
    | none => ofTokens ((tokens list).map Token.classify)

/-! ## Matching -/

inductive Reason where
  | exact
  | fragment (text : List Char)
deriving DecidableEq

/-- The first reason to exclude an identity: that it is named, or a fragment in it. -/
def Patterns.reason? (p : Patterns) (identity : List Char) : Option Reason :=
  if p.exact.contains identity then some .exact
  else (p.fragments.find? fun fragment => occursIn fragment identity).map .fragment

/-- There is a reason exactly if the identity is named or a fragment occurs in it. -/
theorem Patterns.isSome_reason? (p : Patterns) (identity : List Char) :
    (p.reason? identity).isSome ↔
      identity ∈ p.exact ∨ ∃ fragment ∈ p.fragments, fragment <:+: identity := by
  unfold reason?
  split <;> simp_all [Text.occursIn_iff]

end Translucency.Exclusion
