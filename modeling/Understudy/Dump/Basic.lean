import Understudy.Value.Basic
import Understudy.Text.Quoting

set_option autoImplicit false

/-!
# Structural dumps

A dump is the text a debugging view shows for an object: a record `Name { field: value, .. }`,
a tuple `Name(a, b)`, a list `[a, b]`, quoted text, and so on. Mock nodes have no printable
identity of their own, so a dump is a list of pieces in which a node appears as a reference; the
caller decides how each node is named when the pieces are joined.
-/

namespace Understudy

/-- A piece of a dump: text, or a reference to a mock node. -/
inductive Piece where
  | text (s : String)
  | node (n : NodeId)
  deriving Repr

/-- The text of a dumped object, with node references left open. -/
abbrev Dump := List Piece

namespace Dump

def lit (s : String) : Dump := [.text s]

def quoted (s : String) : Dump := [.text (Text.quoted s)]

/-- A node reference. -/
def node (n : NodeId) : Dump := [.node n]

def sepBy (parts : List Dump) : Dump :=
  match parts with
  | [] => []
  | p :: ps => p ++ ps.flatMap fun q => lit ", " ++ q

/-- `[a, b, c]`. -/
def list (parts : List Dump) : Dump := lit "[" ++ sepBy parts ++ lit "]"

def tuple (name : String) (parts : List Dump) : Dump := lit (name ++ "(") ++ sepBy parts ++ lit ")"

def record (name : String) (fields : List (String × Dump)) (elided : Bool) : Dump :=
  let body := sepBy (fields.map fun (f, d) => lit (f ++ ": ") ++ d)
  if fields.isEmpty then (if elided then lit (name ++ " \x7b .. \x7d") else lit name)
  else lit (name ++ " \x7b ") ++ body ++ (if elided then lit ", .. \x7d" else lit " \x7d")

def option {α : Type} (f : α → Dump) : Option α → Dump
  | none => lit "None"
  | some a => tuple "Some" [f a]

def render (name : NodeId → String) (d : Dump) : String :=
  String.join (d.map fun
    | .text s => s
    | .node n => name n)

/-- The nodes referred to, in order of appearance. -/
def nodes (d : Dump) : List NodeId :=
  d.filterMap fun
    | .node n => some n
    | .text _ => none

end Dump

end Understudy
