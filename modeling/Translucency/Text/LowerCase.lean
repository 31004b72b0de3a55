import Translucency.Text.LowerCase.Table

/-!
# Lower case

Lower-casing replaces each character on its own, with two exceptions. The capital I with a dot
above becomes two characters. A capital sigma becomes the final form when it ends a word: some
character with case stands before it and none stands after it, where characters that casing looks
through count as absent on both sides. So the lower case of a piece of a text need not be a piece
of the lower case of the text.
-/

namespace Translucency.Text

namespace LowerCase

/-- Whether casing looks through a character. -/
def isIgnorable (c : Char) : Bool := ignorableSpans.covers c.toNat

def isCased (c : Char) : Bool := casedSpans.covers c.toNat

/-- The lower-case form of a character away from its neighbours. -/
def letter (c : Char) : List Char :=
  if c = '\u0130' then ['i', '\u0307']
  else
    match runs.find? (·.covers c.toNat) with
    | some run => [Char.ofNat (c.toNat + run.shift).toNat]
    | none => [c]

/-- Whether the first character that casing does not look through has case. -/
def startsCased (s : List Char) : Bool := ((s.dropWhile isIgnorable).head?.map isCased).getD false

/-- The lower case of a text that follows a character with case, or follows none. -/
def after (cased : Bool) : List Char → List Char
  | [] => []
  | c :: rest =>
    let here :=
      if c = '\u03a3' then [if cased && !startsCased rest then '\u03c2' else '\u03c3']
      else letter c
    here ++ after (if isIgnorable c then cased else isCased c) rest

end LowerCase

def lower (s : List Char) : List Char := LowerCase.after false s

def lowered (s : String) : String := String.ofList (lower s.toList)

@[simp] theorem lower_nil : lower [] = [] := rfl

end Translucency.Text
