import PatternAssembly.Tree.Basic

/-!
# How deep a pattern nests

Groups, repetitions, alternatives, sequences and brackets each count as a level around what
they hold.

## Main definitions

* `Tree.tooDeep?`: the first part, in the order of the text, that lies deeper than allowed
-/
namespace PatternAssembly

mutual

/-- The first item below `room` levels. -/
def ClassTree.tooDeep? : (room : Nat) → ClassTree → Option Span
  | 0, .bracket s _ _ | 0, .union s _ | 0, .operation s _ _ _ => some s
  | room + 1, .bracket _ _ set => set.tooDeep? room
  | room + 1, .union _ items => ClassTree.anyTooDeep? room items
  | room + 1, .operation _ _ lhs rhs => lhs.tooDeep? room <|> rhs.tooDeep? room
  | _, .empty _ | _, .literal _ | _, .range _ _ _ | _, .ascii _ _ _ | _, .shorthand _ _ _
  | _, .property _ _ _ => none

/-- The first of several items below `room` levels. -/
def ClassTree.anyTooDeep? : (room : Nat) → List ClassTree → Option Span
  | _, [] => none
  | room, item :: items => item.tooDeep? room <|> ClassTree.anyTooDeep? room items

end

mutual

/-- The first part below `room` levels. -/
def Tree.tooDeep? : (room : Nat) → Tree → Option Span
  | 0, .bracket s _ _ | 0, .repetition s _ _ _ _ | 0, .group s _ _ | 0, .alternation s _
  | 0, .sequence s _ => some s
  | room + 1, .bracket _ _ set => set.tooDeep? room
  | room + 1, .repetition _ _ _ _ sub => sub.tooDeep? room
  | room + 1, .group _ _ sub => sub.tooDeep? room
  | room + 1, .alternation _ branches => Tree.anyTooDeep? room branches
  | room + 1, .sequence _ parts => Tree.anyTooDeep? room parts
  | _, .empty _ | _, .modes _ _ | _, .literal _ | _, .dot _ | _, .assertion _ _
  | _, .shorthand _ _ _ | _, .property _ _ _ => none

/-- The first of several parts below `room` levels. -/
def Tree.anyTooDeep? : (room : Nat) → List Tree → Option Span
  | _, [] => none
  | room, t :: ts => t.tooDeep? room <|> Tree.anyTooDeep? room ts

end

end PatternAssembly
