import Translucency.Text.Blank
import Translucency.Text.LowerCase
import Translucency.Text.Pieces

/-!
# Tokens of an exclusion list

A token names windows in one of three shapes: a bare word and a text in square brackets name the
windows with exactly that identity, a text in curly braces names those whose identity contains it.
Inside the enclosing marks the text is trimmed, and every text is put in lower case. A token whose
marks enclose only blanks, and one in which a mark stands anywhere else, is an error.
-/

namespace Translucency.Exclusion

open Text

/-- A token of an exclusion list. The valid shapes hold the text to compare with, the others the
token as written. -/
inductive Token where
  | exact (text : List Char)
  | contains (text : List Char)
  | emptyExact (token : List Char)
  | emptyContains (token : List Char)
  | malformed (token : List Char)
deriving DecidableEq

inductive Flaw where
  | consecutiveCommas
  | trailingComma
  | emptyExact (token : List Char)
  | emptyContains (token : List Char)
  | malformed (token : List Char)
deriving DecidableEq

def Flaw.message : Flaw → String
  | consecutiveCommas => "Consecutive commas detected (empty tokens due to ',,')."
  | trailingComma => "Trailing comma detected (empty token at the end)."
  | emptyExact token => "Empty exact token \"" ++ String.ofList token ++ "\""
  | emptyContains token => "Empty contains token \"" ++ String.ofList token ++ "\""
  | malformed token => "Malformed token: \"" ++ String.ofList token ++ "\""

/-- The marks of the enclosing shapes. -/
def isMark (c : Char) : Bool := c == '[' || c == ']' || c == '\x7b' || c == '\x7d'

/-- What stands between two marks that enclose a token: not nothing, and neither of the marks. One
line feed after the closing mark does no harm. -/
def enclosed? (left right : Char) (token : List Char) : Option (List Char) :=
  let token := if token.getLast? = some '\n' then token.dropLast else token
  match token with
  | [] => none
  | c :: rest =>
    let inner := rest.dropLast
    if c = left ∧ rest.getLast? = some right ∧ !inner.isEmpty ∧
        inner.all (fun d => d != left && d != right) then
      some inner
    else none

namespace Token

/-- The token that a text is. -/
def classify (token : List Char) : Token :=
  match enclosed? '[' ']' token with
  | some inner =>
    let text := lower (trim inner)
    if text.isEmpty then emptyExact token else exact text
  | none =>
    match enclosed? '\x7b' '\x7d' token with
    | some inner =>
      let text := lower (trim inner)
      if text.isEmpty then emptyContains token else contains text
    | none => if token.any isMark then malformed token else exact (lower token)

/-- What is wrong with a token, if anything is. -/
def flaw? : Token → Option Flaw
  | exact _ => none
  | contains _ => none
  | emptyExact token => some (.emptyExact token)
  | emptyContains token => some (.emptyContains token)
  | malformed token => some (.malformed token)

end Token

end Translucency.Exclusion
