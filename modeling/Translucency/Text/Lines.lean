/-!
# Lines

Three readings of a line are in use. A file is read with its line ends brought to one form. Its
raw lines then end at line feeds only and keep them. A text split for display also ends a line at
the vertical tab, the form feed, the information separators and the Unicode line ends, and drops
what ended it.
-/

namespace Translucency.Text

/-- A file's text with carriage returns, alone or before a line feed, turned into line feeds. -/
def unifyBreaks : List Char → List Char
  | [] => []
  | '\r' :: '\n' :: s => '\n' :: unifyBreaks s
  | '\r' :: s => '\n' :: unifyBreaks s
  | c :: s => c :: unifyBreaks s

/-- The lines of a text, each with the line feed that ends it. -/
def rawLines : List Char → List (List Char)
  | [] => []
  | c :: s =>
    if c = '\n' then [c] :: rawLines s
    else
      match rawLines s with
      | [] => [[c]]
      | first :: rest => (c :: first) :: rest

/-- The characters that end a line of a split text. -/
def isLineEnd (c : Char) : Bool :=
  c == '\n' || c == '\r' || c == '\x0b' || c == '\x0c' || c == '\x1c' || c == '\x1d' ||
    c == '\x1e' || c == '\u0085' || c == '\u2028' || c == '\u2029'

/-- The lines of a text without what ends them; a line end at the very end starts no line. -/
def splitLines : List Char → List (List Char)
  | [] => []
  | '\r' :: '\n' :: s => [] :: splitLines s
  | c :: s =>
    if isLineEnd c then [] :: splitLines s
    else
      match splitLines s with
      | [] => [[c]]
      | first :: rest => (c :: first) :: rest

/-- No carriage return is left. -/
theorem not_mem_unifyBreaks (s : List Char) : '\r' ∉ unifyBreaks s := by
  fun_induction unifyBreaks s <;> simp_all [eq_comm]

end Translucency.Text
