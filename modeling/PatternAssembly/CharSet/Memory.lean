import PatternAssembly.CharSet.Bytes
import Std.Data.TreeMap

/-!
# The memory of a set of characters

How large a pattern may be is measured by two graphs that find its matches byte by byte: one
reads the text forwards, one backwards. A node takes 32 bytes. A node with several ways on
takes another 8 bytes for each range of bytes, or 4 for each way that takes no byte.

Where a set of characters needs the same node again, it is laid once only, as long as it is
remembered. Each node is remembered in one cell of a table, from which it drives out what was
there.

## Main definitions

* `Plan`: the nodes of a graph so far and the room that is left
* `SetPlan.node`: a node that is remembered or new
* `CharSet.lay`: the nodes of a set
-/
namespace PatternAssembly

/-- The way in which a graph reads the text: from its start, or from its end. -/
inductive Direction where
  | forwards | backwards
deriving DecidableEq

/-- What has been laid of a graph: so many nodes, which is also the number of the next one,
and the bytes that are left. -/
structure Plan where
  nodes : Nat
  room : Nat

namespace Plan

/-- One more node, with so many bytes for its ways on; `none` if they are not left. -/
def add (links : Nat) (p : Plan) : Option Plan :=
  if p.room < 32 + links then none
  else some { nodes := p.nodes + 1, room := p.room - (32 + links) }

/-- What is laid `n` times. -/
def rounds (lay : Plan → Option Plan) : Nat → Plan → Option Plan
  | 0, p => some p
  | n + 1, p =>
    match lay p with
    | some p => rounds lay n p
    | none => none

/-- The node that chooses between `n` alternatives, and the one in which they meet. -/
def join (n : Nat) (p : Plan) : Option Plan := do
  let p ← p.add (4 * n)
  p.add 0

end Plan

/-- The nodes remembered while a set is laid, by their cells: what they consist of and their
numbers. -/
abbrev Remembered := Std.TreeMap Nat (List Nat × Nat)

/-- The cell of a node that consists of the given numbers, in a table of `size` cells: the
numbers are mixed into a hash of 64 bits one after another. -/
def cellOf (size : Nat) (node : List Nat) : Nat :=
  (node.foldl (fun h n => (h ^^^ n.toUInt64) * 1099511628211)
    (14695981039346656037 : UInt64)).toNat
    % size

/-- The number of cells for nodes that are read forwards. -/
def forwardCells : Nat := 10000

/-- The number of cells for nodes that are read backwards. -/
def backwardCells : Nat := 1000

/-- A graph while a set is laid, and the nodes remembered. -/
structure SetPlan where
  plan : Plan
  known : Remembered

/-- The number of a node that consists of the given numbers: the one remembered, or a new
one. -/
def SetPlan.node (size links : Nat) (node : List Nat) (s : SetPlan) :
    Option (Nat × SetPlan) :=
  let cell := cellOf size node
  match (s.known.get? cell).filter (·.1 == node) with
  | some (_, number) => some (number, s)
  | none => do
    let plan ← s.plan.add links
    pure (s.plan.nodes, { plan, known := s.known.insert cell (node, s.plan.nodes) })

/-- The node from which the given products of byte ranges lead to `target`. Products side by
side that start with the same range share the way to what follows it. -/
def layForwards (target : Nat) : (depth : Nat) → List (List ByteRange) → SetPlan →
    Option (Nat × SetPlan)
  | 0, _, s => some (target, s)
  | depth + 1, strings, s => do
    let groups := strings.splitBy fun a b => a.head? == b.head?
    let (ways, s) ← groups.foldlM (fun (ways, s) group => do
      let rests := group.map List.tail
      let (next, s) ←
        if rests.all List.isEmpty then some (target, s) else layForwards target depth rests s
      let (lo, hi) := (group.head?.bind List.head?).getD (0, 0)
      pure (ways ++ [lo, hi, next], s)) ([], s)
    s.node forwardCells (8 * groups.length) ways

/-- The nodes through which the ranges of bytes lead to the node `target` against the text. -/
def layBackwards (target : Nat) : List ByteRange → SetPlan → Option SetPlan
  | [], s => some s
  | (lo, hi) :: ranges, s => do
    let (next, s) ← s.node backwardCells 0 [target, lo, hi]
    layBackwards next ranges s

/-- The nodes of a set. ASCII characters need only one, and another in which they meet. -/
def CharSet.lay (d : Direction) (set : CharSet) (p : Plan) : Option Plan :=
  if set.isAscii then do
    let p ← p.add 0
    p.add (8 * set.pieces.length)
  else
    let strings := set.byteStrings
    match d with
    | .forwards => do
      let target := p.nodes
      let p ← p.add 0
      let (_, s) ← layForwards target 4 strings { plan := p, known := {} }
      pure s.plan
    | .backwards => do
      let p ← p.add (4 * strings.length)
      let target := p.nodes
      let p ← p.add 0
      let s ← strings.foldlM (fun s string => layBackwards target string s)
          { plan := p, known := {} }
      pure s.plan

end PatternAssembly
