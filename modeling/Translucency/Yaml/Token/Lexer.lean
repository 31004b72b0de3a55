import Translucency.Yaml.Token
import Translucency.Yaml.Token.Scalar

/-!
# From text to YAML tokens

The lexer walks through the text once. Two things make it more than a splitter. Indentation opens
and closes block collections, so it keeps the columns of the open ones. And a key may show itself
only by the colon after it, so it remembers, for each level of flow, where the last thing that
could be a key started; the colon then puts the announcement of the key there, and of a mapping if
one starts with it. A possible key is given up at the end of its line or after 1024 characters; one
that had to be a key, because it starts a line at the mapping's own column, is an error then.

The text is read to its end or to its first fault. A reader of the tokens meets the fault only when
it asks for a token that was not yet certain at that point, so the tokens before it are kept.
-/

namespace Translucency.Yaml

/-- The start of something that a later colon may turn out to be a key. -/
structure PendingKey where
  /-- How many tokens stand before it. -/
  token : Nat
  /-- Whether it must be a key. -/
  required : Bool
  index : Nat
  line : Nat
  column : Nat

/-- The state of a walk through a text. -/
structure Lexer where
  pos : Cursor
  /-- How many flow collections are open. -/
  flow : Nat := 0
  /-- The column of the innermost open block collection, or minus one. -/
  indent : Int := -1
  /-- The columns around it, innermost first. -/
  outer : List Int := []
  /-- Whether a key may start here. -/
  keyAllowed : Bool := true
  /-- The possible key of each level of flow. -/
  keys : List (Nat × PendingKey) := []
  tokens : Array Token := #[]

namespace Lexer

/-! ## Possible keys -/

def isStale (l : Lexer) (k : PendingKey) : Bool :=
  k.line != l.pos.line || 1024 < l.pos.index - k.index

/-- Without the possible keys that lie too far back. -/
def dropStale (l : Lexer) : Except Failure Lexer :=
  if l.keys.any fun k => l.isStale k.2 && k.2.required then .error .malformed
  else .ok { l with keys := l.keys.filter fun k => !l.isStale k.2 }

/-- Without the possible key of the present level of flow. -/
def dropKey (l : Lexer) : Except Failure Lexer :=
  if l.keys.any fun k => k.1 == l.flow && k.2.required then .error .malformed
  else .ok { l with keys := l.keys.filter (·.1 != l.flow) }

/-- With the present place as the possible key of its level, if a key may start here. -/
def saveKey (l : Lexer) : Except Failure Lexer := do
  if l.keyAllowed then
    let l ← l.dropKey
    let key : PendingKey := {
      token := l.tokens.size
      required := l.flow == 0 && l.indent == l.pos.column
      index := l.pos.index
      line := l.pos.line
      column := l.pos.column }
    return { l with keys := (l.flow, key) :: l.keys }
  else return l

/-! ## Indentation -/

def push (l : Lexer) (t : Token) : Lexer := { l with tokens := l.tokens.push t }

/-- The open columns after those beyond a column are closed, and how many those are. -/
def closeBeyond (column indent : Int) : List Int → Nat × Int × List Int
  | [] => (0, indent, [])
  | next :: outer =>
    if column < indent then
      let (n, indent, outer) := closeBeyond column next outer
      (n + 1, indent, outer)
    else (0, indent, next :: outer)

/-- With the block collections beyond a column closed; flow collections ignore indentation. -/
def unwind (l : Lexer) (column : Int) : Lexer :=
  if l.flow ≠ 0 then l
  else
    let (n, indent, outer) := closeBeyond column l.indent l.outer
    { l with
      indent := indent
      outer := outer
      tokens := l.tokens ++ Array.replicate n .blockEnd }

/-- With a block collection opened at a column, if that lies beyond the open ones; its start
becomes the token with the given number. -/
def openAt (l : Lexer) (column : Int) (place : Nat) (t : Token) : Lexer :=
  if l.indent < column then
    { l with
      indent := column
      outer := l.indent :: l.outer
      tokens := l.tokens.insertIdxIfInBounds place t }
  else l

/-! ## Gaps -/

/-- The next place that is not blank and not in a comment. Outside flow a new line may start a
key. -/
def skipGap : Nat → Lexer → Lexer
  | 0, l => l
  | fuel + 1, l =>
    let pos := l.pos.skipSpaces.skipComment
    match pos.head with
    | none => { l with pos := pos }
    | some ch =>
      if isBreak ch then
        skipGap fuel { l with pos := pos.next, keyAllowed := l.flow == 0 || l.keyAllowed }
      else { l with pos := pos }

/-- Like `skipGap`, but past a byte order mark at the very start. -/
def skipToToken (l : Lexer) : Lexer :=
  let pos := if l.pos.index = 0 ∧ l.pos.head = some '\ufeff' then l.pos.next else l.pos
  skipGap (pos.rest.length + 1) { l with pos := pos }

/-! ## Marks -/

/-- A mark of `width` characters, after which a key may or may not start. -/
def mark (l : Lexer) (width : Nat) (keyAllowed : Bool) (t : Token) : Lexer :=
  { l with pos := l.pos.skip width, keyAllowed := keyAllowed, tokens := l.tokens.push t }

def streamEnd (l : Lexer) : Except Failure Lexer := do
  let l ← (l.unwind (-1)).dropKey
  return ({ l with keyAllowed := false, keys := [] }).push .streamEnd

/-- Three hyphens or dots. -/
def documentMark (l : Lexer) (t : Token) : Except Failure Lexer := do
  let l ← (l.unwind (-1)).dropKey
  return l.mark 3 false t

/-- An opening bracket or brace, which may itself start a key. -/
def flowStart (l : Lexer) (t : Token) : Except Failure Lexer := do
  let l ← l.saveKey
  return ({ l with flow := l.flow + 1 }).mark 1 true t

def flowEnd (l : Lexer) (t : Token) : Except Failure Lexer := do
  let l ← l.dropKey
  if l.flow = 0 then .error .malformed
  else return ({ l with flow := l.flow - 1 }).mark 1 false t

def flowEntry (l : Lexer) : Except Failure Lexer := do
  let l ← l.dropKey
  return l.mark 1 true .flowEntry

/-- Opens a block collection at the present column, where one may start. -/
def openHere (l : Lexer) (t : Token) : Except Failure Lexer :=
  if l.flow ≠ 0 then .ok l
  else if l.keyAllowed then .ok (l.openAt l.pos.column l.tokens.size t)
  else .error .malformed

/-- A hyphen before a sequence entry. -/
def blockEntry (l : Lexer) : Except Failure Lexer := do
  let l ← l.openHere .blockSequence
  let l ← ({ l with keyAllowed := true }).dropKey
  return l.mark 1 true .blockEntry

/-- A question mark before a key. -/
def keyMark (l : Lexer) : Except Failure Lexer := do
  let l ← l.openHere .blockMapping
  let l ← l.dropKey
  return l.mark 1 (l.flow == 0) .key

/-- A colon before a value. If a possible key is at hand, it was one. -/
def valueMark (l : Lexer) : Except Failure Lexer := do
  match l.keys.find? (·.1 == l.flow) with
  | some (_, key) =>
    let l := { l with
      keys := l.keys.filter (·.1 != l.flow)
      tokens := l.tokens.insertIdxIfInBounds key.token .key }
    let l := if l.flow = 0 then l.openAt key.column key.token .blockMapping else l
    return l.mark 1 false .value
  | none =>
    let l ← l.openHere .blockMapping
    let l ← l.dropKey
    return l.mark 1 (l.flow == 0) .value

/-! ## Names, tags and directives -/

/-- A name of letters, digits, hyphens and underscores. -/
def name (c : Cursor) : Except Failure (List Char × Cursor) :=
  let (name, c) := c.span isNameChar
  if name.isEmpty then .error .malformed else .ok (name, c)

/-- An anchor or an alias. -/
def nameMark (l : Lexer) (make : List Char → Token) : Except Failure Lexer := do
  let l ← l.saveKey
  let (name, pos) ← name l.pos.next
  let follows := (pos.head.map "?:,]\x7d%@\x60".toList.contains).getD false
  if endsWord pos.head || follows then
    return ({ l with pos := pos, keyAllowed := false }).push (make name)
  else throw .malformed

/-- Escaped bytes of a tag, which must be UTF-8 together. -/
def escapedBytes : Nat → Cursor → Except Failure (List UInt8 × Cursor)
  | 0, c => .ok ([], c)
  | fuel + 1, c =>
    if c.head = some '%' then
      match hexNumber? 2 c.next.rest with
      | none => .error .malformed
      | some n => do
        let (more, c) ← escapedBytes fuel (c.skip 3)
        return (n.toUInt8 :: more, c)
    else .ok ([], c)

def isTagChar (c : Char) : Bool :=
  isNameChar c || ";/?:@&=+$,.!~*'()[]%".toList.contains c

/-- The text of a tag after its handle, with its escapes resolved. -/
def tagTextFrom : Nat → Cursor → Except Failure (List Char × Cursor)
  | 0, c => .ok ([], c)
  | fuel + 1, c =>
    match c.head with
    | none => .ok ([], c)
    | some '%' => do
      let (bytes, c) ← escapedBytes c.rest.length c
      match (ByteArray.mk bytes.toArray).utf8Decode? with
      | none => throw .malformed
      | some chars =>
        let (more, c) ← tagTextFrom fuel c
        return (chars.toList ++ more, c)
    | some ch =>
      if isTagChar ch then do
        let (more, c) ← tagTextFrom fuel c.next
        return (ch :: more, c)
      else .ok ([], c)

/-- The text of a tag, which is not empty. -/
def tagText (c : Cursor) : Except Failure (List Char × Cursor) :=
  if (c.head.map isTagChar).getD false then tagTextFrom c.rest.length c else .error .malformed

/-- The handle of a tag: a name between exclamation marks, or one or two of them. -/
def tagHandle (c : Cursor) : Except Failure (List Char × Cursor) :=
  if c.head = some '!' then
    if c.peek 1 = some ' ' then .ok (['!'], c.next)
    else
      let (name, c) := c.next.span isNameChar
      if c.head = some '!' then .ok ('!' :: name ++ ['!'], c.next) else .error .malformed
  else .error .malformed

/-- A tag: in angle brackets, an exclamation mark alone, or a handle with a text. -/
def tagMark (l : Lexer) : Except Failure Lexer := do
  let l ← l.saveKey
  let c := l.pos
  let (handle, suffix, c) ←
    if c.peek 1 = some '<' then do
      let (suffix, c) ← tagText (c.skip 2)
      if c.head = some '>' then pure (none, suffix, c.next) else throw .malformed
    else if endsWord (c.peek 1) then pure (none, ['!'], c.next)
    else do
      let word := c.next.rest.takeWhile fun ch => !endsField (some ch)
      let (handle, c) ← if word.contains '!' then tagHandle c else pure (['!'], c.next)
      let (suffix, c) ← tagText c
      pure (some handle, suffix, c)
  if endsField c.head then
    return ({ l with pos := c, keyAllowed := false }).push (.tag handle suffix)
  else throw .malformed

def versionNumber (c : Cursor) : Except Failure (Nat × Cursor) :=
  let (digits, c) := c.span Char.isDigit
  if digits.isEmpty then .error .malformed
  else .ok (digits.foldl (fun n d => 10 * n + (d.toNat - '0'.toNat)) 0, c)

/-- The version that a directive names. -/
def versionDirective (c : Cursor) : Except Failure (Token × Cursor) := do
  let (major, c) ← versionNumber c.skipSpaces
  if c.head = some '.' then
    let (_, c) ← versionNumber c.next
    if endsField c.head then return (.version major, c) else throw .malformed
  else throw .malformed

/-- The tag handle that a directive introduces. -/
def handleDirective (c : Cursor) : Except Failure (Token × Cursor) := do
  let (handle, c) ← tagHandle c.skipSpaces
  if c.head = some ' ' then
    let (stem, c) ← tagText c.skipSpaces
    if endsField c.head then return (.tagHandle handle stem, c) else throw .malformed
  else throw .malformed

/-- A directive line. Unknown directives are skipped. -/
def directive (l : Lexer) : Except Failure Lexer := do
  let l ← (l.unwind (-1)).dropKey
  let (word, c) ← name l.pos.next
  if !endsField c.head then throw .malformed
  let (t, c) ←
    if word = "YAML".toList then versionDirective c
    else if word = "TAG".toList then handleDirective c
    else pure (.otherDirective, c.skipWhile (!isBreak ·))
  let c ← headerEnd c
  return ({ l with pos := c, keyAllowed := false }).push t

/-! ## The walk -/

def blockScalarMark (l : Lexer) (folded : Bool) : Except Failure Lexer := do
  let l ← ({ l with keyAllowed := true }).dropKey
  let (text, pos) ← blockScalar folded l.indent l.pos
  return ({ l with pos := pos }).push (.scalar text false)

def quotedScalarMark (l : Lexer) (double : Bool) : Except Failure Lexer := do
  let l ← l.saveKey
  let (text, pos) ← quotedScalar double l.pos
  return ({ l with pos := pos, keyAllowed := false }).push (.scalar text false)

def plainScalarMark (l : Lexer) : Except Failure Lexer := do
  let l ← l.saveKey
  let (text, spans, pos) := plainScalar (l.flow != 0) (l.indent + 1) l.pos
  return ({ l with pos := pos, keyAllowed := spans }).push (.scalar text true)

/-- Whether a plain scalar may start with a character before another. -/
def startsPlain (flow : Bool) (ch : Char) (after : Option Char) : Bool :=
  !(endsWord (some ch) || "-?:,[]\x7b\x7d#&*!|>'\"%@\x60".toList.contains ch) ||
    (!endsWord after && (ch == '-' || (!flow && (ch == '?' || ch == ':'))))

/-- The next token, and those that indentation puts before it. -/
def step (l : Lexer) : Except Failure Lexer := do
  let l ← l.skipToToken.dropStale
  let l := l.unwind l.pos.column
  let flow := l.flow != 0
  let after := l.pos.peek 1
  match l.pos.head with
  | none => l.streamEnd
  | some ch =>
    let lineStart := l.pos.column == 0
    if ch == '%' && lineStart then l.directive
    else if lineStart && l.pos.atMark '-' then l.documentMark .documentStart
    else if lineStart && l.pos.atMark '.' then l.documentMark .documentEnd
    else if ch == '[' then l.flowStart .flowSequence
    else if ch == '\x7b' then l.flowStart .flowMapping
    else if ch == ']' then l.flowEnd .flowSequenceEnd
    else if ch == '\x7d' then l.flowEnd .flowMappingEnd
    else if ch == ',' then l.flowEntry
    else if ch == '-' && endsWord after then l.blockEntry
    else if ch == '?' && (flow || endsWord after) then l.keyMark
    else if ch == ':' && (flow || endsWord after) then l.valueMark
    else if ch == '*' then l.nameMark .alias
    else if ch == '&' then l.nameMark .anchor
    else if ch == '!' then l.tagMark
    else if ch == '|' && !flow then l.blockScalarMark false
    else if ch == '>' && !flow then l.blockScalarMark true
    else if ch == '\'' then l.quotedScalarMark false
    else if ch == '"' then l.quotedScalarMark true
    else if startsPlain flow ch after then l.plainScalarMark
    else throw .malformed

/-- How many tokens are certain: those before every possible key that is still at hand. -/
def certain (l : Lexer) : Nat :=
  (l.keys.filter fun k => !l.isStale k.2).foldl (fun n k => min n k.2.token) l.tokens.size

/-- The tokens of the rest of a text, and the fault that ends them early. -/
def run : Nat → Lexer → List Token × Option Failure
  | 0, l => (l.tokens.toList, some .malformed)
  | fuel + 1, l =>
    match l.step with
    | .error f => (l.tokens.toList.take l.certain, some f)
    | .ok l =>
      if l.tokens.back? = some .streamEnd then (l.tokens.toList, none) else run fuel l

end Lexer

/-- Whether a character may stand in a YAML text. -/
def isAdmissible (c : Char) : Bool :=
  let n := c.toNat
  c == '\t' || c == '\n' || c == '\r' || n == 0x85 || (0x20 ≤ n && n ≤ 0x7e) ||
    (0xa0 ≤ n && n ≤ 0xd7ff) || (0xe000 ≤ n && n ≤ 0xfffd) || 0x10000 ≤ n

/-- The tokens of a text, and the fault that ends them early. Every step takes a character or ends
the text. -/
def Token.scan (text : List Char) : List Token × Option Failure :=
  if text.all isAdmissible then Lexer.run (text.length + 1) { pos := .start text }
  else ([], some .malformed)

end Translucency.Yaml
