import Translucency.Yaml.Cursor
import Translucency.Yaml.Tag
import Translucency.Yaml.Token.Lexer

/-!
# The node graph of a YAML document

A document is a graph rather than a tree: an alias stands for the very node that carries the
anchor, which may even contain the alias. Nodes are numbered in the order in which they start, and
a collection holds the numbers of its parts. A stream has at most one document here.
-/

namespace Translucency.Yaml

/-- What a node holds; parts are given by number. -/
inductive Content where
  | scalar (text : List Char)
  | sequence (items : List Nat)
  | mapping (entries : List (Nat × Nat))

structure Node where
  tag : Tag
  content : Content

/-- The nodes made so far, what is left of the tokens, and the names in force. -/
structure Builder where
  tokens : List Token
  /-- What stopped the lexer after these tokens. -/
  fault : Failure
  nodes : Array Node := #[]
  anchors : List (List Char × Nat) := []
  handles : List (List Char × List Char) := []

/-- A step of building the graph. -/
abbrev Build := StateT Builder (Except Failure)

namespace Build

def refuse {α : Type} : Build α := throw .malformed

def peek : Build Token := do
  let b ← get
  match b.tokens with
  | t :: _ => return t
  | [] => throw b.fault

def advance : Build Unit := modify fun b => { b with tokens := b.tokens.tail }

/-- Takes the next token if it is the given one. -/
def accept (t : Token) : Build Bool := do
  if (← peek) = t then
    advance
    return true
  else return false

def add (node : Node) : Build Nat := do
  let b ← get
  set { b with nodes := b.nodes.push node }
  return b.nodes.size

def fill (id : Nat) (content : Content) : Build Unit :=
  modify fun b => { b with nodes := b.nodes.modify id fun node => { node with content := content } }

/-- Names the node that comes next. -/
def bindAnchor : Option (List Char) → Build Unit
  | none => return
  | some name => do
    let b ← get
    if b.anchors.any (·.1 == name) then refuse
    set { b with anchors := (name, b.nodes.size) :: b.anchors }

def resolveAlias (name : List Char) : Build Nat := do
  match (← get).anchors.find? (·.1 == name) with
  | some (_, id) => return id
  | none => refuse

/-- The full name of a tag. -/
def fullName (handle : Option (List Char)) (suffix : List Char) : Build (List Char) := do
  match handle with
  | none => return suffix
  | some handle =>
    match (← get).handles.find? (·.1 == handle) with
    | some (_, stem) => return stem ++ suffix
    | none => refuse

def takeAnchor : Build (Option (List Char)) := do
  match ← peek with
  | .anchor name =>
    advance
    return some name
  | _ => return none

def takeTag : Build (Option (List Char)) := do
  match ← peek with
  | .tag handle suffix =>
    advance
    return some (← fullName handle suffix)
  | _ => return none

/-- The anchor and the tag of a node, in either order. -/
def properties : Build (Option (List Char) × Option (List Char)) := do
  match ← takeAnchor with
  | some anchor => return (some anchor, ← takeTag)
  | none =>
    match ← takeTag with
    | some tag => return (← takeAnchor, some tag)
    | none => return (none, none)

/-- The tag of a node by its written tag; a lone exclamation mark counts as none. -/
def tagOr (written : Option (List Char)) (otherwise : Tag) : Tag :=
  match written with
  | none => otherwise
  | some name => if name = ['!'] then otherwise else .ofName name

/-- An empty scalar, which is null unless a tag says otherwise. -/
def emptyScalar (written : Option (List Char)) : Build Nat :=
  add ⟨tagOr written (.ofSpelling []), .scalar []⟩

/-- A scalar. Its spelling counts if it is plain without a tag, or has the lone exclamation mark. -/
def scalarNode (written : Option (List Char)) (text : List Char) (plain : Bool) : Build Nat :=
  let bySpelling := (plain && written.isNone) || written == some ['!']
  add ⟨tagOr written (if bySpelling then .ofSpelling text else .str), .scalar text⟩

mutual

/-- The node that comes next. In flow no block collection may start, and only inside a block
mapping may a sequence start without an indentation of its own. -/
def node (fuel : Nat) (block indentless : Bool) : Build Nat := do
  match fuel with
  | 0 => refuse
  | fuel + 1 =>
    match ← peek with
    | .alias name =>
      advance
      resolveAlias name
    | _ =>
      let (anchor, tag) ← properties
      let collection (seed : Tag) (parts : Build Content) : Build Nat := do
        bindAnchor anchor
        let id ← add ⟨tagOr tag seed, .scalar []⟩
        fill id (← parts)
        return id
      match ← peek with
      | .scalar text plain =>
        advance
        bindAnchor anchor
        scalarNode tag text plain
      | .flowSequence =>
        advance
        collection .seq (return .sequence (← flowItems fuel true))
      | .flowMapping =>
        advance
        collection .map (return .mapping (← flowEntries fuel true))
      | .blockEntry =>
        if indentless then collection .seq (return .sequence (← looseItems fuel))
        else bare anchor tag
      | .blockSequence =>
        if block then
          advance
          collection .seq (return .sequence (← blockItems fuel))
        else bare anchor tag
      | .blockMapping =>
        if block then
          advance
          collection .map (return .mapping (← blockEntries fuel))
        else bare anchor tag
      | _ => bare anchor tag

/-- A node with nothing but an anchor or a tag. -/
def bare (anchor tag : Option (List Char)) : Build Nat := do
  if anchor.isNone && tag.isNone then refuse
  bindAnchor anchor
  emptyScalar tag

/-- A node, unless one of the given tokens comes first. -/
def nodeUnless (fuel : Nat) (block indentless : Bool) (stops : List Token) : Build Nat := do
  match fuel with
  | 0 => refuse
  | fuel + 1 =>
    if stops.contains (← peek) then emptyScalar none else node fuel block indentless

def blockItems (fuel : Nat) : Build (List Nat) := do
  match fuel with
  | 0 => refuse
  | fuel + 1 =>
    if ← accept .blockEntry then
      let item ← nodeUnless fuel true false [.blockEntry, .blockEnd]
      return item :: (← blockItems fuel)
    else if ← accept .blockEnd then return []
    else refuse

/-- The entries of a sequence that has no indentation of its own. -/
def looseItems (fuel : Nat) : Build (List Nat) := do
  match fuel with
  | 0 => refuse
  | fuel + 1 =>
    if ← accept .blockEntry then
      let item ← nodeUnless fuel true false [.blockEntry, .key, .value, .blockEnd]
      return item :: (← looseItems fuel)
    else return []

def blockEntries (fuel : Nat) : Build (List (Nat × Nat)) := do
  match fuel with
  | 0 => refuse
  | fuel + 1 =>
    let stops := [Token.key, .value, .blockEnd]
    let part : Build Nat := nodeUnless fuel true true stops
    if ← accept .key then
      let key ← part
      let value ← if ← accept .value then part else emptyScalar none
      return (key, value) :: (← blockEntries fuel)
    else if ← accept .blockEnd then return []
    else refuse

/-- The entries of a flow sequence; an entry may be a mapping with one key. -/
def flowItems (fuel : Nat) (first : Bool) : Build (List Nat) := do
  match fuel with
  | 0 => refuse
  | fuel + 1 =>
    if ← accept .flowSequenceEnd then return []
    if !first then
      if !(← accept .flowEntry) then refuse
    if ← accept .flowSequenceEnd then return []
    let item ←
      if ← accept .key then do
        let id ← add ⟨.map, .scalar []⟩
        let key ← nodeUnless fuel false false [.value, .flowEntry, .flowSequenceEnd]
        let value ←
          if ← accept .value then nodeUnless fuel false false [.flowEntry, .flowSequenceEnd]
          else emptyScalar none
        fill id (.mapping [(key, value)])
        pure id
      else node fuel false false
    return item :: (← flowItems fuel false)

/-- The entries of a flow mapping. -/
def flowEntries (fuel : Nat) (first : Bool) : Build (List (Nat × Nat)) := do
  match fuel with
  | 0 => refuse
  | fuel + 1 =>
    if ← accept .flowMappingEnd then return []
    if !first then
      if !(← accept .flowEntry) then refuse
    if ← accept .flowMappingEnd then return []
    let entry ←
      if ← accept .key then do
        let key ← nodeUnless fuel false false [.value, .flowEntry, .flowMappingEnd]
        let value ←
          if ← accept .value then nodeUnless fuel false false [.flowEntry, .flowMappingEnd]
          else emptyScalar none
        pure (key, value)
      else do
        let key ← node fuel false false
        let value ← emptyScalar none
        pure (key, value)
    return entry :: (← flowEntries fuel false)

end

/-! ## Documents -/

/-- The directives before a document. A version must be of the first line of versions and may be
given once; a handle may be introduced once. The standard handles are always there. -/
def directives (fuel : Nat) (versioned : Bool) (handles : List (List Char × List Char)) :
    Build (List (List Char × List Char)) := do
  match fuel with
  | 0 => refuse
  | fuel + 1 =>
    match ← peek with
    | .version major =>
      advance
      if versioned || major != 1 then refuse
      directives fuel true handles
    | .tagHandle handle stem =>
      advance
      if handles.any (·.1 == handle) then refuse
      directives fuel versioned ((handle, stem) :: handles)
    | .otherDirective =>
      advance
      directives fuel versioned handles
    | _ => return handles ++ [(['!'], ['!']), (['!', '!'], Tag.stem)]

/-- Passes over the marks after a document; nothing may follow them. -/
def close : Nat → Build Unit
  | 0 => refuse
  | fuel + 1 => do
    if ← accept .documentEnd then close fuel
    else if (← peek) ≠ .streamEnd then refuse

/-- Whether a token stands between documents rather than in one. -/
def isOutside : Token → Bool
  | .version _ | .tagHandle _ _ | .otherDirective | .documentStart | .documentEnd
  | .streamEnd => true
  | _ => false

/-- The root of the only document, if there is one. A document with directives needs its start
mark; after the mark it may be empty. -/
def root (fuel : Nat) : Build (Option Nat) := do
  let first ← peek
  if first = .streamEnd then return none
  let handles ← directives fuel false []
  modify fun b => { b with handles := handles }
  let explicit := isOutside first && first != .documentEnd
  if explicit then
    if !(← accept .documentStart) then refuse
  let id ←
    if explicit && isOutside (← peek) then emptyScalar none
    else node fuel true false
  close fuel
  return some id

end Build

/-- A document as a graph with a root, or nothing for an empty text. -/
structure Graph where
  nodes : Array Node
  root : Option Nat

/-- The graph of a text. A node takes at most four steps for each of its tokens. -/
def Graph.read (text : List Char) : Except Failure Graph := do
  let (tokens, fault) := Token.scan text
  let start : Builder := { tokens := tokens, fault := fault.getD .malformed }
  let (root, builder) ← (Build.root (4 * tokens.length + 8)).run start
  return ⟨builder.nodes, root⟩

end Translucency.Yaml
