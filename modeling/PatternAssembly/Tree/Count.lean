import PatternAssembly.Tree.Cursor

/-!
# Reading how often a part is repeated

The three signs `?`, `*` and `+`, or a count in braces; a `?` after either makes the
repetition lazy.

## Main definitions

* `Count`: the bounds of a repetition and whether it is greedy
* `Count.readSign`, `Count.readBraces`: the two forms
-/
namespace PatternAssembly

/-- How often a part is repeated, and whether more repetitions are tried before fewer. -/
structure Count where
  lo : Nat
  hi : Option Nat
  greedy : Bool

namespace Count

/-- Counts are below this number. -/
def limit : Nat := 4294967296

/-- The cursor after a `?`, if one is there, and whether the repetition is greedy. -/
def readGreed (c : Cursor) : Bool × Cursor :=
  match c.rest with
  | '?' :: _ => (false, c.next)
  | _ => (true, c)

/-- One of the signs `?`, `*` and `+`, which the cursor is at. -/
def readSign (sign : Char) (c : Cursor) : Count × Cursor :=
  let (greedy, stop) := readGreed c.next
  let bounds : Nat × Option Nat :=
    if sign = '?' then (0, some 1) else if sign = '*' then (0, none) else (1, none)
  ({ lo := bounds.1, hi := bounds.2, greedy }, stop)

/-- The number that decimal digits write. -/
def decimalValue (digits : List Char) : Nat :=
  digits.foldl (fun n d => 10 * n + (d.toNat - 0x30)) 0

/-- A decimal number with blanks around it, and the cursor after them. -/
def readDecimal (free : Bool) (c : Cursor) : Except Fault Nat × Cursor :=
  let c := c.skipBlanks
  let (digits, stop) := c.takeWhile free fun ch => '0' ≤ ch && ch ≤ '9'
  let after := (stop.takeWhile free Unicode.isBlank).2
  let number : Except Fault Nat :=
    if digits.isEmpty then refuse .repetitionCountDecimalEmpty (stop.spanFrom c.pos)
    else if decimalValue digits < limit then .ok (decimalValue digits)
    else refuse .decimalInvalid (stop.spanFrom c.pos)
  (number, after)

/-- The bounds in braces, whose opening one stands at `start`; the cursor is after it. A
missing number is refused only after the braces were seen to go on. -/
def readBounds (free : Bool) (start : Nat) (c : Cursor) :
    Except Fault ((Nat × Option Nat) × Cursor) := do
  if c.rest.isEmpty then refuse .repetitionCountUnclosed (c.spanFrom start)
  let (lo, c) := readDecimal free c
  match c.rest with
  | [] => refuse .repetitionCountUnclosed (c.spanFrom start)
  | ',' :: _ =>
    let c := c.advance free
    match c.rest with
    | [] => refuse .repetitionCountUnclosed (c.spanFrom start)
    | '}' :: _ => do
      let lo ← lo
      pure ((lo, none), c)
    | _ => do
      let lo ← lo
      let (hi, c) := readDecimal free c
      let hi ← hi
      pure ((lo, some hi), c)
  | _ => do
    let lo ← lo
    pure ((lo, some lo), c)

/-- A count in braces, at whose opening one the cursor is. -/
def readBraces (free : Bool) (c : Cursor) : Except Fault (Count × Cursor) := do
  let start := c.pos
  let ((lo, hi), c) ← readBounds free start (c.advance free)
  match c.rest with
  | '}' :: _ =>
    let (greedy, stop) := readGreed (c.advance free)
    if hi.any (· < lo) then refuse .repetitionCountInvalid (stop.spanFrom start)
    else pure ({ lo, hi, greedy }, stop)
  | _ => refuse .repetitionCountUnclosed (c.spanFrom start)

end Count

end PatternAssembly
