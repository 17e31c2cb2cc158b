import Understudy.Mock.Callback

set_option autoImplicit false

/-!
# The mock graph

Everything a session arranges lives in one arena: mock nodes, arranged calls (expectations) and
property slots, each named by its position. Positions are only ever appended, so a name once
given keeps denoting the same thing.

A node maps member names, in first-arranged order, to a child node, a list of arranged calls
(oldest first) or a property slot. It also keeps its arranged indexer values, the subtrees code
under test has overwritten (displaced, with the path segment they were reachable under), and its
event handlers. Property slots are separate entries of the arena because a stand-in may keep a
link to a slot after the node has replaced it: reads through the link still count.
-/

namespace Understudy

/-- Names an arranged call of a session's graph. -/
structure ExpId where
  idx : Nat
  deriving DecidableEq, Repr, Inhabited

/-- Names a property slot of a session's graph. -/
structure SlotId where
  idx : Nat
  deriving DecidableEq, Repr, Inhabited

/-- What a matched call yields. -/
inductive Outcome where
  /-- No value arranged: the call yields this node, on which further members can be arranged. -/
  | chain (n : NodeId)
  | value (v : Value)
  deriving Inhabited

namespace Outcome

/-- The value a matched call yields. -/
def result : Outcome → Value
  | .chain n => .mock n
  | .value v => v

/-- The node further arrangement continues on, if the call yields one. -/
def node? : Outcome → Option NodeId
  | .chain n => some n
  | .value v => v.asMock?

end Outcome

/-- One arranged call of a member. -/
structure Expectation where
  member : String
  args : ArgsPattern
  generics : GenericsFilter
  outcome : Outcome
  returnsSet : Bool := false
  outsByIndex : List (Nat × Value) := []
  outsByName : List (String × Value) := []
  callbacks : List Callback := []
  mustBeCalled : Bool := false
  calls : UInt64 := 0
  deriving Inhabited

namespace Expectation

/-- A new arranged call yielding `chain`. -/
def fresh (member : String) (args : ArgsPattern) (generics : GenericsFilter) (chain : NodeId) :
    Expectation :=
  { member, args, generics, outcome := .chain chain }

def describe (c : Catalog) (x : Expectation) : String :=
  x.member ++ x.generics.text ++ "(" ++ x.args.text c ++ ")"

end Expectation

/-- What a member name holds. -/
inductive Entry where
  | child (n : NodeId)
  /-- Arranged calls, oldest first. -/
  | methods (exps : List ExpId)
  | property (slot : SlotId)
  deriving DecidableEq, Repr

/-- The kind of an entry, as messages name it. -/
def Entry.kind : Entry → EntryKind
  | .child _ => .child
  | .methods _ => .methods
  | .property _ => .property

/-- A plain property value. -/
structure Slot where
  value : Value
  /-- Must be read before verification passes. -/
  ensured : Bool
  reads : UInt64 := 0
  deriving Inhabited

/-- An arranged indexer value. -/
structure IndexEntry where
  args : ArgsPattern
  value : Value
  deriving Inhabited

structure Node where
  verbs : VerbNames
  members : List (String × Entry) := []
  indexers : List IndexEntry := []
  displaced : List (String × NodeId) := []
  /-- Handlers by event, events in first-subscribed order, handlers in subscription order. -/
  events : List (String × List (UInt64 × Callback)) := []
  nextSubscription : UInt64 := 1

/-- Sets a key of an ordered map: in place when present, appended otherwise. -/
def insertOrdered {α : Type} (kvs : List (String × α)) (k : String) (v : α) : List (String × α) :=
  if kvs.any (·.1 == k) then kvs.map fun (k', v') => if k' == k then (k', v) else (k', v')
  else kvs ++ [(k, v)]

/-- The value of a key of an ordered map. -/
def findKey? {α : Type} (kvs : List (String × α)) (k : String) : Option α :=
  (kvs.find? (·.1 == k)).map (·.2)

/-- The arena of a session. -/
structure Graph where
  nodes : Array Node := #[]
  exps : Array Expectation := #[]
  slots : Array Slot := #[]

namespace Graph

/-- A node; an unknown name reads as an empty node. -/
def node (g : Graph) (n : NodeId) : Node := g.nodes.getD n.idx { verbs := VerbNames.standard }

def exp (g : Graph) (e : ExpId) : Expectation := g.exps.getD e.idx default

def slot (g : Graph) (s : SlotId) : Slot := g.slots.getD s.idx default

/-- A new empty node with these verb names. -/
def spawn (g : Graph) (verbs : VerbNames) : NodeId × Graph :=
  (⟨g.nodes.size⟩, { g with nodes := g.nodes.push { verbs } })

def addExp (g : Graph) (x : Expectation) : ExpId × Graph :=
  (⟨g.exps.size⟩, { g with exps := g.exps.push x })

def addSlot (g : Graph) (s : Slot) : SlotId × Graph :=
  (⟨g.slots.size⟩, { g with slots := g.slots.push s })

def modifyNode (g : Graph) (n : NodeId) (f : Node → Node) : Graph :=
  { g with nodes := g.nodes.modify n.idx f }

def modifyExp (g : Graph) (e : ExpId) (f : Expectation → Expectation) : Graph :=
  { g with exps := g.exps.modify e.idx f }

def modifySlot (g : Graph) (s : SlotId) (f : Slot → Slot) : Graph :=
  { g with slots := g.slots.modify s.idx f }

/-- What a member name of a node holds. -/
def memberAt? (g : Graph) (n : NodeId) (name : String) : Option Entry := findKey? (g.node n).members name

/-- Sets what a member name holds, keeping the name's position. -/
def setEntry (g : Graph) (n : NodeId) (name : String) (e : Entry) : Graph :=
  g.modifyNode n fun nd => { nd with members := insertOrdered nd.members name e }

/-- The arranged calls of a member, oldest first. -/
def expectationsOf (g : Graph) (n : NodeId) (name : String) : List ExpId :=
  match g.memberAt? n name with
  | some (.methods es) => es
  | _ => []

/-- The handlers of an event, in subscription order. -/
def handlers (g : Graph) (n : NodeId) (event : String) : List (UInt64 × Callback) :=
  (findKey? (g.node n).events event).getD []

end Graph

end Understudy
