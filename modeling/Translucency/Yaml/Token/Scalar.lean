import Translucency.Text.Digit
import Translucency.Yaml.Cursor

/-!
# Scalars in a YAML text

The three ways to write a scalar: plain, in quotes, and as a block after a bar or an angle
bracket. Each reader takes the place where the scalar starts and gives its text and the place
after it. Inside a scalar, a single line break is a space and further breaks stand for themselves,
except in a literal block, where all stand for themselves.
-/

namespace Translucency.Yaml

/-- What a break and the breaks after it become in running text. -/
def foldBreaks (first : Char) (more : List Char) : List Char :=
  if breakForm first ≠ '\n' then breakForm first :: more
  else if more.isEmpty then [' ']
  else more

/-! ## Plain scalars -/

/-- Whether a plain scalar ends here. Inside a flow collection the marks of flow end it too. -/
def plainEnds (flow : Bool) (s : List Char) : Bool :=
  match s with
  | [] => true
  | c :: rest =>
    let flowMark := (rest.head?.map ",[]\x7b\x7d".toList.contains).getD false
    endsWord (some c) || (c == ':' && (endsWord rest.head? || (flow && flowMark))) ||
      (flow && ",?[]\x7b\x7d".toList.contains c)

/-- The length of an unbroken piece of a plain scalar. -/
def plainLength (flow : Bool) : List Char → Nat
  | [] => 0
  | c :: rest => if plainEnds flow (c :: rest) then 0 else plainLength flow rest + 1

/-- Blank lines inside a plain scalar, and whether a document separator came up. -/
def plainBreaks : Nat → Cursor → List Char × Bool × Cursor
  | 0, c => ([], false, c)
  | fuel + 1, c =>
    match c.head with
    | none => ([], false, c)
    | some ch =>
      if ch = ' ' then plainBreaks fuel c.next
      else if isBreak ch then
        let c := c.next
        if c.atSeparator then ([], true, c)
        else
          let (more, stopped, c) := plainBreaks fuel c
          (breakForm ch :: more, stopped, c)
      else ([], false, c)

/-- What stands between two pieces of a plain scalar, and whether it spans lines. Before a document
separator it is nothing. -/
def plainGap (c : Cursor) : List Char × Bool × Cursor :=
  let (blanks, c) := c.span (· == ' ')
  match c.head with
  | none => (blanks, false, c)
  | some ch =>
    if isBreak ch then
      let c := c.next
      if c.atSeparator then ([], true, c)
      else
        let (more, stopped, c) := plainBreaks c.rest.length c
        (if stopped then [] else foldBreaks ch more, true, c)
    else (blanks, false, c)

/-- A plain scalar from a piece on, after the gap before it; also whether the gap after its last
piece spans lines. Outside flow, a line indented less than the scalar's context ends it. -/
def plainFrom (flow : Bool) (indent : Int) (gap : List Char) (spans : Bool) :
    Nat → Cursor → List Char × Bool × Cursor
  | 0, c => ([], spans, c)
  | fuel + 1, c =>
    let n := if c.head = some '#' then 0 else plainLength flow c.rest
    if n = 0 then ([], spans, c)
    else
      let piece := gap ++ c.rest.take n
      let (gap, spans, c) := plainGap (c.skip n)
      if gap.isEmpty || c.head == some '#' || (!flow && c.column < indent) then (piece, spans, c)
      else
        let (more, spans, c) := plainFrom flow indent gap spans fuel c
        (piece ++ more, spans, c)

/-- A plain scalar, and whether the gap after it spans lines. -/
def plainScalar (flow : Bool) (indent : Int) (c : Cursor) : List Char × Bool × Cursor :=
  plainFrom flow indent [] false c.rest.length c

/-! ## Quoted scalars -/

/-- Blank lines inside a quoted scalar. -/
def quotedBreaks : Nat → Cursor → Except Failure (List Char × Cursor)
  | 0, c => .ok ([], c)
  | fuel + 1, c =>
    if c.atSeparator then .error .malformed
    else
      let c := c.skipWhile fun ch => ch == ' ' || ch == '\t'
      match c.head with
      | none => .ok ([], c)
      | some ch =>
        if isBreak ch then do
          let (more, c) ← quotedBreaks fuel c.next
          .ok (breakForm ch :: more, c)
        else .ok ([], c)

/-- The character that a letter after a backslash stands for. -/
def escaped? : Char → Option Char
  | '0' => some '\x00'
  | 'a' => some '\x07'
  | 'b' => some '\x08'
  | 't' => some '\t'
  | '\t' => some '\t'
  | 'n' => some '\n'
  | 'v' => some '\x0b'
  | 'f' => some '\x0c'
  | 'r' => some '\r'
  | 'e' => some '\x1b'
  | ' ' => some ' '
  | '"' => some '"'
  | '\\' => some '\\'
  | '/' => some '/'
  | 'N' => some '\u0085'
  | '_' => some '\u00a0'
  | 'L' => some '\u2028'
  | 'P' => some '\u2029'
  | _ => none

/-- How many hexadecimal digits follow a letter after a backslash. -/
def escapeWidth? : Char → Option Nat
  | 'x' => some 2
  | 'u' => some 4
  | 'U' => some 8
  | _ => none

/-- The number that exactly `width` hexadecimal digits spell. -/
def hexNumber? (width : Nat) (s : List Char) : Option Nat := do
  let values ← (s.take width).mapM Text.hexValue?
  if values.length = width then some (values.foldl (fun n v => 16 * n + v) 0) else none

/-- The character with a code. A code beyond the code space is refused, and one beyond the range
of a signed word earlier still. -/
def charOfCode (code : Nat) : Except Failure Char :=
  if code ≤ 0x10ffff then
    .ok (if 0xd800 ≤ code ∧ code ≤ 0xdfff then '\ufffd' else Char.ofNat code)
  else if code < 0x80000000 then .error (.mishap .badText)
  else .error (.mishap .tooLarge)

/-- What follows a backslash in double quotes. -/
def escapeSequence (c : Cursor) : Except Failure (List Char × Cursor) :=
  match c.head with
  | none => .error .malformed
  | some ch =>
    match escaped? ch, escapeWidth? ch with
    | some plain, _ => .ok ([plain], c.next)
    | none, some width =>
      match hexNumber? width c.next.rest with
      | none => .error .malformed
      | some code => do
        let ch ← charOfCode code
        .ok ([ch], c.next.skip width)
    | none, none =>
      if isBreak ch then quotedBreaks c.rest.length c.next else .error .malformed

/-- A quoted scalar after its opening quote, up to and with its closing quote. -/
def quotedRest (double : Bool) : Nat → Cursor → Except Failure (List Char × Cursor)
  | 0, _ => .error .malformed
  | fuel + 1, c =>
    match c.head with
    | none => .error .malformed
    | some ch => do
      if double && ch == '"' then return ([], c.next)
      if !double && ch == '\'' && c.peek 1 != some '\'' then return ([], c.next)
      let (piece, c) ←
        if ch = ' ' ∨ ch = '\t' ∨ isBreak ch then
          let (blanks, c) := c.span fun ch => ch == ' ' || ch == '\t'
          match c.head with
          | none => .error .malformed
          | some ch =>
            if isBreak ch then do
              let (more, c) ← quotedBreaks c.rest.length c.next
              pure (foldBreaks ch more, c)
            else pure (blanks, c)
        else if double && ch == '\\' then escapeSequence c.next
        else if !double && ch == '\'' then pure (['\''], c.skip 2)
        else pure ([ch], c.next)
      let (more, c) ← quotedRest double fuel c
      return (piece ++ more, c)

/-- A quoted scalar, from its opening quote on. -/
def quotedScalar (double : Bool) (c : Cursor) : Except Failure (List Char × Cursor) :=
  quotedRest double c.rest.length c.next

/-! ## Block scalars -/

/-- What happens to the line breaks at the end of a block scalar. -/
inductive Chomping where
  | strip
  | clip
  | keep
deriving DecidableEq

/-- A sign that sets the chomping. -/
def chomping? : Option Char → Option Chomping
  | some '+' => some .keep
  | some '-' => some .strip
  | _ => none

/-- A digit that sets the indentation; zero is refused. -/
def indentDigit? (c : Option Char) : Except Failure (Option Nat) :=
  match c with
  | some ch =>
    if ch = '0' then .error .malformed
    else if ch.isDigit then .ok (some (ch.toNat - '0'.toNat))
    else .ok none
  | none => .ok none

/-- The sign and the digit after the mark of a block scalar, in either order. -/
def blockHeader (c : Cursor) : Except Failure (Chomping × Option Nat × Cursor) := do
  let (chomping, digit, c) ← match chomping? c.head with
    | some chomping => do
      let digit ← indentDigit? c.next.head
      pure (chomping, digit, if digit.isSome then c.skip 2 else c.next)
    | none => do
      match ← indentDigit? c.head with
      | none => pure (.clip, none, c)
      | some digit =>
        match chomping? c.next.head with
        | some chomping => pure (chomping, some digit, c.skip 2)
        | none => pure (.clip, some digit, c.next)
  if endsField c.head then return (chomping, digit, c) else throw .malformed

/-- The rest of a header line: spaces and a comment. -/
def headerEnd (c : Cursor) : Except Failure Cursor :=
  let c := c.skipSpaces.skipComment
  if endsLine c.head then .ok c.next else .error .malformed

/-- Leading blank lines of a block scalar, and the widest indentation among them and the first
line of text. -/
def blockIndentation (widest : Nat) : Nat → Cursor → List Char × Nat × Cursor
  | 0, c => ([], widest, c)
  | fuel + 1, c =>
    match c.head with
    | none => ([], widest, c)
    | some ch =>
      if ch = ' ' then
        let c := c.next
        blockIndentation (max widest c.column) fuel c
      else if isBreak ch then
        let (more, widest, c) := blockIndentation widest fuel c.next
        (breakForm ch :: more, widest, c)
      else ([], widest, c)

/-- The place after at most the spaces that bring the column to an indentation. -/
def skipIndent (indent : Nat) (c : Cursor) : Cursor :=
  c.skip (min (indent - c.column) (c.rest.takeWhile (· == ' ')).length)

/-- Blank lines inside a block scalar. -/
def blockBreaks (indent : Nat) : Nat → Cursor → List Char × Cursor
  | 0, c => ([], c)
  | fuel + 1, c =>
    let c := skipIndent indent c
    match c.head with
    | none => ([], c)
    | some ch =>
      if isBreak ch then
        let (more, c) := blockBreaks indent fuel c.next
        (breakForm ch :: more, c)
      else ([], c)

/-- Whether a line of a block scalar starts with text rather than a blank. -/
def startsText (c : Cursor) : Bool := c.head != some ' ' && c.head != some '\t'

/-- The lines of a block scalar, the break that ends the last of them, and the breaks after it. -/
def blockLines (folded : Bool) (indent : Nat) :
    Nat → Cursor → List Char × List Char × List Char × Cursor
  | 0, c => ([], [], [], c)
  | fuel + 1, c =>
    let text := startsText c
    let (line, c) := c.span (!isBreak ·)
    let last := (c.head.map breakForm).toList
    let (breaks, c) := blockBreaks indent c.rest.length c.next
    if c.column = indent ∧ c.head.isSome then
      let joint :=
        if folded && last == ['\n'] && text && startsText c then
          if breaks.isEmpty then [' '] else []
        else last
      let (more, last, breaks', c) := blockLines folded indent fuel c
      (line ++ joint ++ breaks ++ more, last, breaks', c)
    else (line, last, breaks, c)

/-- A block scalar, from its mark on, in a context of some indentation. -/
def blockScalar (folded : Bool) (context : Int) (c : Cursor) :
    Except Failure (List Char × Cursor) := do
  let (chomping, digit, c) ← blockHeader c.next
  let c ← headerEnd c
  let least := max (context + 1) 1
  let (breaks, indent, c) := match digit with
    | none =>
      let (breaks, widest, c) := blockIndentation 0 c.rest.length c
      (breaks, max least.toNat widest, c)
    | some digit =>
      let indent := least.toNat + digit - 1
      let (breaks, c) := blockBreaks indent (c.rest.length + 1) c
      (breaks, indent, c)
  let (lines, last, breaks, c) :=
    if c.column = indent ∧ c.head.isSome then
      let (lines, last, after, c) := blockLines folded indent c.rest.length c
      (breaks ++ lines, last, after, c)
    else ([], [], breaks, c)
  return match chomping with
    | .strip => (lines, c)
    | .clip => (lines ++ last, c)
    | .keep => (lines ++ last ++ breaks, c)

end Translucency.Yaml
