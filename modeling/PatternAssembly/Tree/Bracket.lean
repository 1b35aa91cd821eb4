import PatternAssembly.Tree.Atom

/-!
# Reading classes in square brackets

Items stand side by side, brackets nest, and two sets may have an operation between them;
operations associate to the left and have one rank.

## Main definitions

* `readBracket`: the class at the cursor, from its opening to its closing bracket
* `readAsciiClass`: a class of ASCII characters by name
* `readItem`: a character, a range or a class by letter or property
-/
namespace PatternAssembly

/-- The class of ASCII characters of a name. -/
def asciiClassByName (name : List Char) : Option AsciiClass :=
  ([("alnum", .alnum), ("alpha", .alpha), ("ascii", .ascii), ("blank", .blank),
    ("cntrl", .cntrl), ("digit", .digit), ("graph", .graph), ("lower", .lower),
    ("print", .print), ("punct", .punct), ("space", .space), ("upper", .upper),
    ("word", .word), ("xdigit", .xdigit)] :
    List (String × AsciiClass)).lookup (String.ofList name)

/-- A class of ASCII characters by name, such as `[:alpha:]` or `[:^alpha:]`, if one is at the
cursor. -/
def readAsciiClass (c : Cursor) : Option (ClassTree × Cursor) := do
  let inside ← c.after? ['[', ':']
  let (negated, named) :=
    match inside.after? ['^'] with
    | some after => (true, after)
    | none => (false, inside)
  let (name, stop) := named.takeWhile false (· != ':')
  let kind ← asciiClassByName name
  let after ← stop.after? [':', ']']
  pure (.ascii (after.spanFrom c.pos) kind negated, after)

/-- What has been read of a set: the items of its last part, the last one first, and the
operation that waits for this part with the set before it. -/
structure OpenSet where
  start : Nat
  items : List ClassTree := []
  pending : Option (SetOperation × ClassTree) := none

namespace OpenSet

/-- The set with one more item. -/
def push (s : OpenSet) (item : ClassTree) : OpenSet := { s with items := item :: s.items }

/-- The set as a tree; the operation that waits gets its right side. -/
def close (s : OpenSet) : ClassTree :=
  let items := s.items.reverse
  let start := (items.head?.map (·.span.start)).getD s.start
  let stop := (s.items.head?.map (·.span.stop)).getD s.start
  let last := ClassTree.ofItems ⟨start, stop⟩ items
  match s.pending with
  | none => last
  | some (op, lhs) => .operation ⟨lhs.span.start, last.span.stop⟩ op lhs last

/-- What was read becomes the left side of an operation. -/
def operator (s : OpenSet) (op : SetOperation) (pos : Nat) : OpenSet :=
  { start := pos, pending := some (op, s.close) }

end OpenSet

/-- Hyphens at the start of a set, each an item of its own. -/
def readHyphens (free : Bool) (start : Nat) : Nat → OpenSet → Cursor →
    Except Fault (OpenSet × Cursor)
  | 0, s, c => .ok (s, c)
  | bound + 1, s, c =>
    match c.rest with
    | '-' :: _ =>
      let after := c.advance free
      if after.rest.isEmpty then refuse .classUnclosed ⟨start, start⟩
      else
        readHyphens free start bound
          (s.push (.literal { span := c.charSpan, char := '-', isByte := false })) after
    | _ => .ok (s, c)

/-- The start of a set, from its opening bracket on: whether it is negated, then hyphens, then
one closing bracket that is an item because it comes first. -/
def openBracket (free : Bool) (c : Cursor) : Except Fault (Bool × OpenSet × Cursor) := do
  let start := c.pos
  let c := c.advance free
  if c.rest.isEmpty then refuse .classUnclosed (c.spanFrom start)
  let negated := c.rest.head? == some '^'
  let c := if negated then c.advance free else c
  if c.rest.isEmpty then refuse .classUnclosed (c.spanFrom start)
  let (s, c) ← readHyphens free start c.rest.length { start := c.pos } c
  match s.items, c.rest with
  | [], ']' :: _ =>
    let s := s.push (.literal { span := c.charSpan, char := ']', isByte := false })
    let c := c.advance free
    if c.rest.isEmpty then refuse .classUnclosed (c.spanFrom start)
    pure (negated, s, c)
  | _, _ => pure (negated, s, c)

/-- A sign between square brackets; only the backslash has its meaning. -/
def readClassAtom (free : Bool) (c : Cursor) : Except Fault (Atom × Cursor) :=
  match c.rest with
  | '\\' :: _ => readEscape free c
  | ch :: _ => .ok (.literal { span := c.charSpan, char := ch, isByte := false }, c.next)
  | [] => refuse .escapeUnexpectedEnd c.here

/-- The sign as an item of a set. -/
def Atom.toItem : Atom → Except Fault ClassTree
  | literal l => .ok (.literal l)
  | shorthand s kind negated => .ok (.shorthand s kind negated)
  | property s query negated => .ok (.property s query negated)
  | assertion s _ | dot s => refuse .classEscapeInvalid s

/-- The sign as an end of a range. -/
def Atom.toBoundary : Atom → Except Fault Literal
  | literal l => .ok l
  | a => refuse .classRangeLiteral a.span

/-- An item of the set that was opened at `opened`: a sign, or a range if a hyphen follows
that is neither the last character of the set nor the first half of an operation. -/
def readItem (free : Bool) (opened : Span) (c : Cursor) :
    Except Fault (ClassTree × Cursor) := do
  let (first, c) ← readClassAtom free c
  let c := c.skip free
  match c.rest with
  | [] => refuse .classUnclosed opened
  | ch :: _ =>
    let past := c.peekPast free
    if ch != '-' || past == some ']' || past == some '-' then
      let item ← first.toItem
      pure (item, c)
    else do
      let c := c.advance free
      if c.rest.isEmpty then refuse .classUnclosed opened
      let (second, c) ← readClassAtom free c
      let lo ← first.toBoundary
      let hi ← second.toBoundary
      let span : Span := ⟨first.span.start, second.span.stop⟩
      if hi.char < lo.char then refuse .classRangeInvalid span
      else pure (.range span lo hi, c)

/-- The rest of the set that was opened at `opened`, up to and including its closing bracket.
Every step consumes a character, so `bound` may be the number of characters left. -/
def readSet (free : Bool) (opened : Span) : (bound : Nat) → OpenSet → Cursor →
    Except Fault (ClassTree × Cursor)
  | 0, _, _ => refuse .classUnclosed opened
  | bound + 1, s, c => do
    let c := c.skip free
    match c.rest with
    | [] => refuse .classUnclosed opened
    | ']' :: _ => pure (s.close, c.next)
    | '[' :: _ =>
      match readAsciiClass c with
      | some (item, after) => readSet free opened bound (s.push item) after
      | none => do
        let (negated, inner, after) ← openBracket free c
        let (set, after) ← readSet free (after.spanFrom c.pos) bound inner after
        readSet free opened bound (s.push (.bracket (after.spanFrom c.pos) negated set)) after
    | '&' :: '&' :: _ =>
      readSet free opened bound (s.operator .intersection (c.pos + 2)) c.next.next
    | '-' :: '-' :: _ =>
      readSet free opened bound (s.operator .difference (c.pos + 2)) c.next.next
    | '~' :: '~' :: _ =>
      readSet free opened bound (s.operator .symmetricDifference (c.pos + 2)) c.next.next
    | _ => do
      let (item, after) ← readItem free opened c
      readSet free opened bound (s.push item) after

/-- The class at the cursor, from its opening to its closing bracket. -/
def readBracket (free : Bool) (c : Cursor) : Except Fault (Tree × Cursor) := do
  let (negated, s, after) ← openBracket free c
  let (set, stop) ← readSet free (after.spanFrom c.pos) (after.rest.length + 1) s after
  pure (.bracket (stop.spanFrom c.pos) negated set, stop)

end PatternAssembly
