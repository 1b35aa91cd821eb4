import PatternAssembly.Unicode.Property

/-!
# Patterns as written

The tree of a pattern, close to its text: every part keeps the stretch of the text that it
came from, so that a fault found later can still be shown in place. What a part means under
the modes in force is settled afterwards, when the tree becomes an expression.

## Main definitions

* `Span`: a stretch of the pattern's text
* `ClassTree`: what stands between square brackets
* `Tree`: a pattern or a part of one
-/
namespace PatternAssembly

/-- A stretch of the pattern's characters, from `start` up to but not including `stop`. -/
structure Span where
  start : Nat
  stop : Nat
deriving DecidableEq

/-- The modes that a pattern can switch on and off, by the letters `i`, `m`, `s`, `U`, `u`,
`R` and `x` in this order. -/
inductive Mode where
  | ignoreCase | multiLine | dotAll | swapGreed | unicode | carriageReturn | freeSpacing
deriving DecidableEq

/-- What a group of flags switches on (`true`) and off (`false`). -/
abbrev ModeChanges := List (Mode × Bool)

/-- The last setting of a mode in a list of changes. -/
def ModeChanges.setting (changes : ModeChanges) (m : Mode) : Option Bool :=
  (changes.findRev? (·.1 == m)).map (·.2)

/-- A character that stands for itself. Written as `\x` and two digits it names a byte where
Unicode is off. -/
structure Literal where
  span : Span
  char : Char
  isByte : Bool
deriving DecidableEq

/-- The classes written as one letter after a backslash. -/
inductive Shorthand where
  | digit | blank | word
deriving DecidableEq

/-- The classes of ASCII characters, written as `[:name:]` between square brackets. -/
inductive AsciiClass where
  | alnum | alpha | ascii | blank | cntrl | digit | graph | lower | print | punct | space
  | upper | word | xdigit
deriving DecidableEq

/-- How two sets between square brackets are combined: by `&&`, `--` or `~~`. -/
inductive SetOperation where
  | intersection | difference | symmetricDifference
deriving DecidableEq

/-- What stands between square brackets; nothing may stand on a side of an operation. -/
inductive ClassTree where
  | empty (span : Span)
  | literal (l : Literal)
  | range (span : Span) (lo hi : Literal)
  | ascii (span : Span) (kind : AsciiClass) (negated : Bool)
  | shorthand (span : Span) (kind : Shorthand) (negated : Bool)
  | property (span : Span) (query : Unicode.PropertyQuery) (negated : Bool)
  | bracket (span : Span) (negated : Bool) (set : ClassTree)
  | union (span : Span) (items : List ClassTree)
  | operation (span : Span) (op : SetOperation) (lhs rhs : ClassTree)

/-- The stretch of text of an item. -/
def ClassTree.span : ClassTree → Span
  | empty s | range s _ _ | ascii s _ _ | shorthand s _ _ | property s _ _ | bracket s _ _
  | union s _ | operation s _ _ _ => s
  | literal l => l.span

/-- Places that a pattern can ask for without taking a character. -/
inductive Assertion where
  | lineStart | lineEnd | textStart | textEnd | wordBoundary | notWordBoundary | wordStart
  | wordEnd | wordStartHalf | wordEndHalf
deriving DecidableEq

/-- What a pair of parentheses is for: it captures, or it only groups and changes modes for
its inside. -/
inductive GroupKind where
  | capture (index : Nat)
  | plain (changes : ModeChanges)

/-- A pattern or a part of one. Flags in parentheses are a part, in force up to the end of the
enclosing group; of alternatives the first that leads to a match wins. -/
inductive Tree where
  | empty (span : Span)
  | modes (span : Span) (changes : ModeChanges)
  | literal (l : Literal)
  | dot (span : Span)
  | assertion (span : Span) (kind : Assertion)
  | shorthand (span : Span) (kind : Shorthand) (negated : Bool)
  | property (span : Span) (query : Unicode.PropertyQuery) (negated : Bool)
  | bracket (span : Span) (negated : Bool) (set : ClassTree)
  | repetition (span : Span) (lo : Nat) (hi : Option Nat) (greedy : Bool) (sub : Tree)
  | group (span : Span) (kind : GroupKind) (sub : Tree)
  | alternation (span : Span) (branches : List Tree)
  | sequence (span : Span) (parts : List Tree)

namespace Tree

/-- The stretch of text of a part. -/
def span : Tree → Span
  | empty s | modes s _ | dot s | assertion s _ | shorthand s _ _ | property s _
    _ | bracket s _ _
  | repetition s _ _ _ _ | group s _ _ | alternation s _ | sequence s _ => s
  | literal l => l.span

/-- Parts one after another; a single part stands for itself. -/
def ofParts (s : Span) : List Tree → Tree
  | [] => empty s
  | [t] => t
  | ts => sequence s ts

/-- Alternatives; a single one stands for itself. -/
def ofBranches (s : Span) : List Tree → Tree
  | [] => empty s
  | [t] => t
  | ts => alternation s ts

end Tree

/-- Items side by side; a single item stands for itself. -/
def ClassTree.ofItems (s : Span) : List ClassTree → ClassTree
  | [] => empty s
  | [t] => t
  | ts => union s ts

/-- What reading a pattern yields: its tree, and the names of groups with their numbers, in
the order of the text. -/
structure Reading where
  tree : Tree
  names : List (String × Nat)

end PatternAssembly
