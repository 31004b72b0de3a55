import Translucency.Yaml.Node
import Translucency.Yaml.Scalar

/-!
# From node graph to value

Every node of the graph is read once, the root first and then the parts of collections in the order
in which they come up, so of several faults the one nearest to the root wins. Before a mapping is
read, the mappings under its merge keys are put in front of its own entries, where its own entries
override them.

Since a document may contain itself, the result is a table of items by node, and its value is
unfolded to a depth of the caller's choice.
-/

namespace Translucency.Yaml

/-- What a node stands for; parts are given by node. -/
inductive Item where
  | scalar (v : Value)
  | sequence (items : List Nat)
  | mapping (entries : List (Value × Nat))
  | set (entries : List (Value × Nat))
  | pairs (entries : List (Nat × Nat))

/-- The graph while it is read. -/
structure Reading where
  nodes : Array Node
  items : List (Nat × Item) := []
  /-- The collections whose parts are still to be read, in order. -/
  waiting : List Nat := []

/-- A step of reading. -/
abbrev Read := StateT Reading (Except Failure)

namespace Read

def refuse {α : Type} : Read α := throw .malformed

def node (id : Nat) : Read Node := do
  match (← get).nodes[id]? with
  | some node => return node
  | none => refuse

def entries (id : Nat) : Read (List (Nat × Nat)) := do
  match (← node id).content with
  | .mapping entries => return entries
  | _ => refuse

def setContent (id : Nat) (content : Content) : Read Unit :=
  modify fun r => { r with nodes := r.nodes.modify id fun node => { node with content := content } }

def setTag (id : Nat) (tag : Tag) : Read Unit :=
  modify fun r => { r with nodes := r.nodes.modify id fun node => { node with tag := tag } }

/-! ## Merging -/

/-- Takes the merge keys out of a mapping, from an entry on, and puts the merged entries in front.
Of several mappings under one merge key the last comes first, so that the first one counts. The
default mark is an ordinary key here. -/
def flattenFrom (fuel id index : Nat) (merged : List (Nat × Nat)) : Read Unit := do
  match fuel with
  | 0 => refuse
  | fuel + 1 =>
    let own ← entries id
    match own[index]? with
    | none => if !merged.isEmpty then setContent id (.mapping (merged ++ own))
    | some (key, value) =>
      match (← node key).tag with
      | .merge =>
        setContent id (.mapping (own.eraseIdx index))
        match (← node value).content with
        | .mapping _ =>
          flattenFrom fuel value 0 []
          flattenFrom fuel id index (merged ++ (← entries value))
        | .sequence parts =>
          let lists ← parts.mapM fun part => do
            let _ ← entries part
            flattenFrom fuel part 0 []
            entries part
          flattenFrom fuel id index (merged ++ lists.reverse.flatten)
        | .scalar _ => refuse
      | .default =>
        setTag key .str
        flattenFrom fuel id (index + 1) merged
      | _ => flattenFrom fuel id (index + 1) merged

/-- Merges what a mapping wants merged. One merge at most doubles the entries there are. -/
def flatten (id : Nat) : Read Unit := do
  flattenFrom (Nat.pow 2 ((← get).nodes.size + 4)) id 0 []

/-! ## Single nodes -/

/-- The text of a scalar. A mapping with a default mark stands for the text under it. -/
def scalarText : Nat → Nat → Read (List Char)
  | 0, _ => refuse
  | fuel + 1, id => do
    match (← node id).content with
    | .scalar text => return text
    | .sequence _ => refuse
    | .mapping entries =>
      match ← entries.findM? fun entry => return (← node entry.1).tag == .default with
      | some (_, value) => scalarText fuel value
      | none => refuse

/-- The value of a scalar node with a tag. A date has to be written as a scalar itself. -/
def scalar (tag : Tag) (id : Nat) : Read Value := do
  let text ← scalarText ((← get).nodes.size + 1) id
  match tag with
  | .null => return .null
  | .bool => return .bool (← boolean text)
  | .int => return .int (← integer text)
  | .float => return .float (← float text)
  | .binary => return .bytes (← binary text)
  | .timestamp =>
    match (← node id).content with
    | .scalar text => return .moment (← timestamp text)
    | _ => throw (.mishap .wrongKind)
  | _ => return .text (String.ofList text)

/-- Starts to read a node, unless that was done before. A collection is empty at first and waits
for its parts. -/
def start (id : Nat) : Read Unit := do
  if (← get).items.any (·.1 == id) then return
  let tag := (← node id).tag
  let wait (item : Item) : Read Unit :=
    modify fun r => { r with items := (id, item) :: r.items, waiting := r.waiting ++ [id] }
  match tag with
  | .seq => wait (.sequence [])
  | .map => wait (.mapping [])
  | .set => wait (.set [])
  | .omap | .pairs => wait (.pairs [])
  | .merge | .default | .other => refuse
  | tag =>
    let v ← scalar tag id
    modify fun r => { r with items := (id, .scalar v) :: r.items }

/-- The item of a node that was started. -/
def item? (id : Nat) : Read (Option Item) := return (← get).items.lookup id

/-! ## Collections -/

/-- The entries of a mapping by key. A collection is no key. -/
def keyed (id : Nat) : Read (List (Value × Nat)) := do
  let _ ← entries id
  flatten id
  (← entries id).foldlM
    (fun table entry => do
      start entry.1
      match ← item? entry.1 with
      | some (.scalar key) =>
        start entry.2
        return Value.put key entry.2 table
      | _ => refuse)
    []

/-- The entries of a sequence of mappings with one entry each. -/
def paired (id : Nat) : Read (List (Nat × Nat)) := do
  match (← node id).content with
  | .sequence parts =>
    parts.mapM fun part => do
      match ← entries part with
      | [(key, value)] =>
        start key
        start value
        return (key, value)
      | _ => refuse
  | _ => refuse

/-- Reads the parts of a collection. -/
def finish (id : Nat) : Read Unit := do
  let item : Item ← match ← item? id with
    | some (.sequence _) =>
      match (← node id).content with
      | .sequence parts => do
        parts.forM start
        pure (.sequence parts)
      | _ => refuse
    | some (.mapping _) => do pure (.mapping (← keyed id))
    | some (.set _) => do pure (.set (← keyed id))
    | some (.pairs _) => do pure (.pairs (← paired id))
    | _ => refuse
  modify fun r => { r with items := (id, item) :: r.items }

/-- Reads the parts of all waiting collections; each node waits once. -/
def finishAll : Nat → Read Unit
  | 0 => return
  | fuel + 1 => do
    match (← get).waiting with
    | [] => return
    | id :: rest =>
      modify fun r => { r with waiting := rest }
      finish id
      finishAll fuel

end Read

/-! ## Values -/

/-- The value of an item, in which collections deeper than `depth` are empty. -/
def Item.unfold (items : List (Nat × Item)) (depth : Nat) (id : Nat) : Value :=
  match items.lookup id with
  | none => .null
  | some (.scalar v) => v
  | some (.sequence parts) =>
    match depth with
    | 0 => .list []
    | depth + 1 => .list (parts.map fun part => unfold items depth part)
  | some (.mapping entries) =>
    match depth with
    | 0 => .map []
    | depth + 1 => .map (entries.map fun entry => (entry.1, unfold items depth entry.2))
  | some (.set entries) => .set (entries.map (·.1))
  | some (.pairs entries) =>
    match depth with
    | 0 => .list []
    | depth + 1 =>
      .list (entries.map fun entry =>
        .list [unfold items depth entry.1, unfold items depth entry.2])

/-- The value of a YAML text, unfolded to a depth. An empty text is null. -/
def read (depth : Nat) (text : List Char) : Except Failure Value := do
  let graph ← Graph.read text
  match graph.root with
  | none => return .null
  | some root =>
    let ((), r) ← (do Read.start root; Read.finishAll (graph.nodes.size + 1) : Read Unit).run
      { nodes := graph.nodes }
    return Item.unfold r.items depth root

end Translucency.Yaml
