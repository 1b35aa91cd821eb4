import PatternAssembly.Tree.Bracket
import PatternAssembly.Tree.Count
import PatternAssembly.Tree.Group

/-!
# Reading a pattern

The pattern is read from left to right. What is open at the cursor is a stack: the
alternatives of the innermost group, then those of the groups around it.

## Main definitions

* `OpenPart`: the alternatives read so far of a group, or of the pattern itself
* `Reader`: the state between two signs
* `Reader.step`: the next sign
* `Tree.read`: the reading of a whole pattern
-/
namespace PatternAssembly

/-- The alternatives read so far of a group, or of the pattern itself: those before the
current one, and the parts of the current one, in both the last one first. -/
structure OpenPart where
  first : Nat
  start : Nat
  branches : List Tree := []
  parts : List Tree := []

namespace OpenPart

/-- Nothing read yet. -/
def beginning (pos : Nat) : OpenPart := { first := pos, start := pos }

/-- One more part for the current alternative. -/
def push (p : OpenPart) (t : Tree) : OpenPart := { p with parts := t :: p.parts }

/-- The current alternative as a tree, if it ends at `stop`. -/
def branch (p : OpenPart) (stop : Nat) : Tree := .ofParts ⟨p.start, stop⟩ p.parts.reverse

/-- The current alternative ends at `stop`, and the next one starts at `next`. -/
def alternate (p : OpenPart) (stop next : Nat) : OpenPart :=
  { first := p.first, start := next, branches := p.branch stop :: p.branches }

/-- All alternatives as a tree, if the last one ends at `stop`. -/
def close (p : OpenPart) (stop : Nat) : Tree :=
  .ofBranches ⟨p.first, stop⟩ (p.branch stop :: p.branches).reverse

end OpenPart

/-- A group whose closing parenthesis has not been read, with what was open before it and
whether spacing was free. -/
structure OpenGroup where
  opened : Span
  kind : GroupKind
  outer : OpenPart
  free : Bool

/-- The state between two signs: the innermost alternatives, the groups around them with the
innermost first, and the names so far with their numbers and places, the last one first. -/
structure Reader where
  cursor : Cursor
  current : OpenPart
  groups : List OpenGroup := []
  free : Bool := false
  captures : Nat := 0
  names : List (String × Nat × Span) := []

namespace Reader

/-- The state before a pattern is read. -/
def start (pattern : List Char) : Reader :=
  { cursor := ⟨0, pattern⟩, current := .beginning 0 }

/-- The state after one more part, with the cursor after it. -/
def push (r : Reader) (t : Tree) (c : Cursor) : Reader :=
  { r with cursor := c, current := r.current.push t }

/-- A group is open from `c` on, inside which spacing may be free. -/
def enter (r : Reader) (kind : GroupKind) (free : Bool) (c : Cursor) : Reader :=
  { r with
    cursor := c
    current := .beginning c.pos
    groups :=
      { opened := r.cursor.charSpan, kind, outer := r.current, free := r.free } :: r.groups
    free }

/-- An opening parenthesis with what belongs to it. -/
def openGroup (r : Reader) : Except Fault Reader := do
  let (opening, c) ← GroupOpening.read r.free r.cursor
  let index := r.captures + 1
  match opening with
  | .modes span changes =>
    let free := (changes.setting .freeSpacing).getD r.free
    pure { r.push (.modes span changes) c with free }
  | .plain changes =>
    pure (r.enter (.plain changes) ((changes.setting .freeSpacing).getD r.free) c)
  | .numbered => pure { r.enter (.capture index) r.free c with captures := index }
  | .named span name =>
    match r.names.find? (·.1 == name) with
    | some (_, _, earlier) =>
      .error { kind := .groupNameDuplicate, span, earlier := some earlier }
    | none =>
      pure { r.enter (.capture index) r.free c with
        captures := index, names := (name, index, span) :: r.names }

/-- A closing parenthesis. -/
def closeGroup (r : Reader) : Except Fault Reader :=
  match r.groups with
  | [] => refuse .groupUnopened r.cursor.charSpan
  | g :: groups =>
    let inside := r.current.close r.cursor.pos
    let c := r.cursor.next
    .ok { r with
      cursor := c
      current := g.outer.push (.group (c.spanFrom g.opened.start) g.kind inside)
      groups
      free := g.free }

/-- The part before a repetition, and the alternatives without it. -/
def takeLast (r : Reader) : Except Fault (Tree × OpenPart) :=
  match r.current.parts with
  | [] => refuse .repetitionMissing r.cursor.here
  | .empty _ :: _ | .modes _ _ :: _ => refuse .repetitionMissing r.cursor.here
  | t :: parts => .ok (t, { r.current with parts })

/-- The part before the cursor repeated, with the cursor after the repetition. -/
def repeated (t : Tree) (n : Count) (c : Cursor) : Tree :=
  .repetition (c.spanFrom t.span.start) n.lo n.hi n.greedy t

/-- The sign at the cursor, which is not at the end of the pattern. -/
def step (r : Reader) : Except Fault Reader :=
  match r.cursor.rest with
  | [] => .ok r
  | '(' :: _ => r.openGroup
  | ')' :: _ => r.closeGroup
  | '|' :: _ =>
    let c := r.cursor.next
    .ok { r with cursor := c, current := r.current.alternate r.cursor.pos c.pos }
  | '[' :: _ => do
    let (t, c) ← readBracket r.free r.cursor
    pure (r.push t c)
  | '{' :: _ => do
    let (t, current) ← r.takeLast
    let (n, c) ← Count.readBraces r.free r.cursor
    pure { r with cursor := c, current := current.push (repeated t n c) }
  | ch :: _ =>
    if ch = '?' ∨ ch = '*' ∨ ch = '+' then do
      let (t, current) ← r.takeLast
      let (n, c) := Count.readSign ch r.cursor
      pure { r with cursor := c, current := current.push (repeated t n c) }
    else do
      let (a, c) ← Atom.read r.free r.cursor
      pure (r.push a.toTree c)

/-- At most `bound` more signs. -/
def run : (bound : Nat) → Reader → Except Fault Reader
  | 0, r => .ok r
  | bound + 1, r =>
    let r := { r with cursor := r.cursor.skip r.free }
    if r.cursor.rest.isEmpty then .ok r
    else do
      let r ← r.step
      r.run bound

/-- The end of the pattern: no group may be open. -/
def finish (r : Reader) : Except Fault Reading :=
  match r.groups with
  | g :: _ => refuse .groupUnclosed g.opened
  | [] =>
    .ok { tree := r.current.close r.cursor.pos
          names := r.names.reverse.map fun n => (n.1, n.2.1) }

end Reader

/-- The reading of a pattern. Every sign has at least one character, and one more step sees
the end. -/
def Tree.read (pattern : List Char) : Except Fault Reading := do
  let r ← (Reader.start pattern).run (pattern.length + 1)
  r.finish

end PatternAssembly
