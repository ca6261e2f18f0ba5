import MarkupHarden.Dom.Mutation

/-!
# Tables of links

A link table keeps no list of children.  Each of its nodes has five links, to
its parent, to its first and last child and to its neighbours, and every change
to the tree rewrites the few links around the place where it happens.  A change
ends without a table when it comes to rewrite a node that is not there; nothing
in the definitions rules that out.
-/

namespace MarkupHarden.Dom

/-- A payload with the links of its node. -/
structure LinkedNode where
  data : NodeData
  parent : Option NodeId := none
  firstChild : Option NodeId := none
  lastChild : Option NodeId := none
  previousSibling : Option NodeId := none
  nextSibling : Option NodeId := none
  deriving DecidableEq, Repr

/-- Nodes by number, with their links to each other. -/
structure LinkTable where
  nodes : Array LinkedNode
  deriving DecidableEq, Repr

namespace LinkTable

/-! ### Reading -/

def nodeCount (table : LinkTable) : Nat :=
  table.nodes.size

def node? (table : LinkTable) (id : NodeId) : Option LinkedNode :=
  table.nodes[id]?

def data? (table : LinkTable) (id : NodeId) : Option NodeData :=
  (table.node? id).map LinkedNode.data

def kind? (table : LinkTable) (id : NodeId) : Option NodeKind :=
  (table.data? id).map NodeData.kind

def parent? (table : LinkTable) (id : NodeId) : Option NodeId :=
  (table.node? id).bind LinkedNode.parent

def firstChild? (table : LinkTable) (id : NodeId) : Option NodeId :=
  (table.node? id).bind LinkedNode.firstChild

def lastChild? (table : LinkTable) (id : NodeId) : Option NodeId :=
  (table.node? id).bind LinkedNode.lastChild

def previousSibling? (table : LinkTable) (id : NodeId) : Option NodeId :=
  (table.node? id).bind LinkedNode.previousSibling

def nextSibling? (table : LinkTable) (id : NodeId) : Option NodeId :=
  (table.node? id).bind LinkedNode.nextSibling

/-- At most `limit` nodes along the links to the next sibling. -/
def siblingsFrom (table : LinkTable) : Nat → Option NodeId → List NodeId
  | 0, _ | _, none => []
  | limit + 1, some id =>
      id :: table.siblingsFrom limit (table.nextSibling? id)

/-- The nodes from the first child of a node on. -/
def children (table : LinkTable) (id : NodeId) : List NodeId :=
  table.siblingsFrom table.nodeCount (table.firstChild? id)

/-- Whether `ancestor` is one of the first `limit` nodes upwards from `id`. -/
def climbsTo (table : LinkTable) (ancestor : NodeId) : Nat → NodeId → Bool
  | 0, _ => false
  | limit + 1, id =>
      id = ancestor || (table.parent? id).any (table.climbsTo ancestor limit)

/-- Whether `ancestor` is `id` or lies above it. -/
def isInclusiveAncestor (table : LinkTable) (ancestor id : NodeId) : Bool :=
  table.climbsTo ancestor (table.nodeCount + 1) id

/-! ### Rewriting links -/

/-- A table that holds only its document node. -/
def empty : LinkTable where
  nodes := #[{ data := .document }]

/-- Adds a node without links. -/
def create (table : LinkTable) (data : NodeData) : NodeId × LinkTable :=
  (table.nodeCount, { nodes := table.nodes.push { data } })

/-- Rewrites a node of the table. -/
def rewriteNode? (table : LinkTable) (id : NodeId)
    (rewrite : LinkedNode → LinkedNode) : Option LinkTable :=
  if id < table.nodeCount then
    some { nodes := table.nodes.modify id rewrite }
  else none

def setData? (table : LinkTable) (id : NodeId) (data : NodeData) :
    Option LinkTable :=
  table.rewriteNode? id fun node => { node with data }

/-- Makes the link that leads forward to the place behind `left`, below
`parent`, lead to `target`; it is the link to the first child when nothing
stands before the place. -/
def leadForward? (table : LinkTable) (parent : NodeId)
    (left target : Option NodeId) : Option LinkTable :=
  match left with
  | some left =>
      table.rewriteNode? left fun node => { node with nextSibling := target }
  | none =>
      table.rewriteNode? parent fun node => { node with firstChild := target }

/-- Makes the link that leads backward to the place before `right`, below
`parent`, lead to `target`; it is the link to the last child when nothing stands
behind the place. -/
def leadBackward? (table : LinkTable) (parent : NodeId)
    (right target : Option NodeId) : Option LinkTable :=
  match right with
  | some right =>
      table.rewriteNode? right fun node =>
        { node with previousSibling := target }
  | none =>
      table.rewriteNode? parent fun node => { node with lastChild := target }

/-- Sets the links of a node to its parent and to its neighbours. -/
def setPlace? (table : LinkTable) (id : NodeId)
    (parent left right : Option NodeId) : Option LinkTable :=
  table.rewriteNode? id fun node =>
    { node with parent, previousSibling := left, nextSibling := right }

/-- Puts `child` between two neighbours below `parent`. -/
def insert? (table : LinkTable) (parent child : NodeId)
    (left right : Option NodeId) : Option LinkTable := do
  let table ← table.leadForward? parent left (some child)
  let table ← table.leadBackward? parent right (some child)
  table.setPlace? child (some parent) left right

/-- Puts `child` behind the last child of `parent`. -/
def linkLast? (table : LinkTable) (parent child : NodeId) : Option LinkTable :=
  table.insert? parent child (table.lastChild? parent) none

/-- Takes a node out of the list that it stands in. -/
def detach? (table : LinkTable) (id : NodeId) : Option LinkTable :=
  match table.parent? id with
  | none => some table
  | some parent => do
      let left := table.previousSibling? id
      let right := table.nextSibling? id
      let table ← table.leadForward? parent left right
      let table ← table.leadBackward? parent right left
      table.setPlace? id none none none

/-- The table from which documents with `html`, `head` and `body` are made. -/
def shell? : Option LinkTable := do
  let (html, table) := empty.create (.element (.html "html"))
  let (head, table) := table.create (.element (.html "head"))
  let (body, table) := table.create (.element (.html "body"))
  let table ← table.linkLast? Document.root html
  let table ← table.linkLast? html head
  table.linkLast? html body

/-! ### Requests -/

/-- The reason, if any, for which `child` cannot become a child of `parent`. -/
def appendRefusal? (table : LinkTable) (parent child : NodeId) :
    Option Refusal :=
  match table.data? parent, table.kind? child with
  | none, _ => some (.unknownParent parent)
  | some parentData, childKind =>
      if !parentData.canHoldChildren then
        some (.childlessParent parentData.kind)
      else
        match childKind with
        | none => some (.unknownChild child)
        | some kind =>
            if kind = .document then some .documentAsChild
            else if table.isInclusiveAncestor child parent then
              some .childAboveParent
            else none

def appendChild? (table : LinkTable) (parent child : NodeId) :
    Option (Except Refusal Unit × LinkTable) :=
  match table.appendRefusal? parent child with
  | some refusal => some (.error refusal, table)
  | none => do
      let table ← table.detach? child
      let table ← table.linkLast? parent child
      some (.ok (), table)

/-- Appends text to the last child of `parent` if that is a text, and as a new
node otherwise. -/
def appendText? (table : LinkTable) (parent : NodeId) (text : String) :
    Option (Except Refusal Unit × LinkTable) :=
  if text.isEmpty then some (.ok (), table)
  else
    match (table.lastChild? parent).map fun last =>
        (last, table.data? last) with
    | some (last, some (.text existing)) => do
        let table ← table.setData? last (.text (existing ++ text))
        some (.ok (), table)
    | _ =>
        let (id, table) := table.create (.text text)
        table.appendChild? parent id

/-- The reason, if any, for which `new` cannot stand below `parent`. -/
def replaceRefusal? (table : LinkTable) (parent new : NodeId) :
    Option Refusal :=
  if !decide (new < table.nodeCount) || table.isInclusiveAncestor new parent
  then some .replacementAboveParent
  else none

/-- Puts `new` between the neighbours of `old`. -/
def replaceChild? (table : LinkTable) (old new : NodeId) :
    Option (Except Refusal Unit × LinkTable) :=
  match table.parent? old with
  | none => some (.error .replacedWithoutParent, table)
  | some parent =>
      if old = new then some (.ok (), table)
      else
        match table.replaceRefusal? parent new with
        | some refusal => some (.error refusal, table)
        | none => do
            let table ← table.detach? new
            let left := table.previousSibling? old
            let right := table.nextSibling? old
            let table ← table.detach? old
            let table ← table.insert? parent new left right
            some (.ok (), table)

/-- Copies the children of one source node below one copy, in order, and lists
the pairs whose children are still to be copied, latest first. -/
def copyChildren? (source : LinkTable) (copyParent : NodeId) :
    List NodeId → LinkTable → List (NodeId × NodeId) →
      Option (LinkTable × List (NodeId × NodeId))
  | [], table, copied => some (table, copied)
  | child :: rest, table, copied =>
      match source.data? child with
      | none => copyChildren? source copyParent rest table copied
      | some data => do
          let (copy, table) := table.create data
          let table ← table.linkLast? copyParent copy
          copyChildren? source copyParent rest table ((child, copy) :: copied)

/-- Copies what lies below the pending pairs, the latest pair first. -/
def copyPending? (source : LinkTable) :
    Nat → List (NodeId × NodeId) → LinkTable → Option LinkTable
  | 0, _, table | _, [], table => some table
  | limit + 1, (node, copy) :: pending, table => do
      let (table, copied) ←
        copyChildren? source copy (source.children node) table []
      copyPending? source limit (copied ++ pending) table

/-- Copies a node of `source` and everything below it. -/
def importNode? (table source : LinkTable) (id : NodeId) :
    Option (Except Refusal NodeId × LinkTable) :=
  match source.data? id with
  | none => some (.error (.unknownSource id), table)
  | some .document => some (.error .documentImport, table)
  | some data => do
      let (copy, table) := table.create data
      let table ← copyPending? source source.nodeCount [(id, copy)] table
      some (.ok copy, table)

/-! ### Histories -/

/-- The tables that any sequence of requests to tables can make, each with
whatever nodes it is asked for and whether it is refused or not.  Payloads
change only when text is appended or an element gets other attributes. -/
inductive Made : LinkTable → Prop where
  | empty : Made .empty
  | shell {table : LinkTable} : shell? = some table → Made table
  | create {table : LinkTable} (data : NodeData) :
      Made table → Made (table.create data).2
  | appendChild {table later : LinkTable} {outcome : Except Refusal Unit}
      (parent child : NodeId) :
      table.appendChild? parent child = some (outcome, later) →
      Made table → Made later
  | appendText {table later : LinkTable} {outcome : Except Refusal Unit}
      (parent : NodeId) (text : String) :
      table.appendText? parent text = some (outcome, later) →
      Made table → Made later
  | detach {table later : LinkTable} (id : NodeId) :
      table.detach? id = some later → Made table → Made later
  | replaceChild {table later : LinkTable} {outcome : Except Refusal Unit}
      (old new : NodeId) :
      table.replaceChild? old new = some (outcome, later) →
      Made table → Made later
  | importNode {table source later : LinkTable}
      {outcome : Except Refusal NodeId} (id : NodeId) :
      table.importNode? source id = some (outcome, later) →
      Made table → Made source → Made later
  | edit {table later : LinkTable} {id : NodeId} {element : Element}
      (changed : Element) :
      table.data? id = some (.element element) →
      table.setData? id (.element changed) = some later →
      Made table → Made later

end LinkTable

end MarkupHarden.Dom
