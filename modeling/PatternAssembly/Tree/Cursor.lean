import PatternAssembly.Tree.Fault
import PatternAssembly.Unicode.Word

/-!
# A place in a pattern while it is read

A cursor is what is left to read, with the number of characters before it. In free spacing,
blanks and comments between the signs of a pattern are skipped.

## Main definitions

* `Cursor`
* `Cursor.skip`, `Cursor.advance`: over blanks and comments, where they do not count
* `Cursor.takeWhile`: a run of characters of one kind
-/
namespace PatternAssembly

/-- What is left of a pattern, and how many characters precede it. -/
structure Cursor where
  pos : Nat
  rest : List Char

namespace Cursor

/-- The empty stretch at the cursor. -/
def here (c : Cursor) : Span := ⟨c.pos, c.pos⟩

/-- The stretch of the character at the cursor. -/
def charSpan (c : Cursor) : Span := ⟨c.pos, c.pos + 1⟩

/-- The stretch from an earlier place up to the cursor. -/
def spanFrom (c : Cursor) (start : Nat) : Span := ⟨start, c.pos⟩

/-- The cursor after one more character. -/
def next (c : Cursor) : Cursor :=
  match c.rest with
  | [] => c
  | _ :: rest => ⟨c.pos + 1, rest⟩

/-- Over blanks, and over comments from `#` to the end of the line. -/
def skipFrom (pos : Nat) (inComment : Bool) : List Char → Cursor
  | [] => ⟨pos, []⟩
  | ch :: rest =>
    if inComment then skipFrom (pos + 1) (ch != '\n') rest
    else if Unicode.isBlank ch then skipFrom (pos + 1) false rest
    else if ch = '#' then skipFrom (pos + 1) true rest
    else ⟨pos, ch :: rest⟩

/-- Over blanks and comments, in free spacing. -/
def skip (free : Bool) (c : Cursor) : Cursor :=
  if free then skipFrom c.pos false c.rest else c

/-- Over one character, and in free spacing over the blanks and comments after it. -/
def advance (free : Bool) (c : Cursor) : Cursor := c.next.skip free

/-- Over blanks, in any spacing. -/
def skipBlanks (c : Cursor) : Cursor :=
  ⟨c.pos + (c.rest.takeWhile Unicode.isBlank).length, c.rest.dropWhile Unicode.isBlank⟩

/-- The cursor after a text that stands there. -/
def after? (text : List Char) (c : Cursor) : Option Cursor :=
  if text.isPrefixOf c.rest then some ⟨c.pos + text.length, c.rest.drop text.length⟩ else none

/-- At most `bound` characters that satisfy `p`, and the cursor after them; in free spacing,
blanks and comments between them are skipped. -/
def takeUpTo (free : Bool) (p : Char → Bool) : Nat → Cursor → List Char × Cursor
  | 0, c => ([], c)
  | bound + 1, c =>
    match c.rest with
    | [] => ([], c)
    | ch :: _ =>
      if p ch then
        let (run, c) := takeUpTo free p bound (c.advance free)
        (ch :: run, c)
      else ([], c)

/-- The characters from the cursor on that satisfy `p`, and the cursor after them. -/
def takeWhile (free : Bool) (p : Char → Bool) (c : Cursor) : List Char × Cursor :=
  c.takeUpTo free p c.rest.length

/-- The character after the one at the cursor. In free spacing it is the next one that is no
blank; a `#` before it opens a comment, and then what follows the `#` counts. -/
def peekPast (free : Bool) (c : Cursor) : Option Char :=
  let rest := c.next.rest
  if free then
    match rest.dropWhile Unicode.isBlank with
    | '#' :: comment =>
      match comment.dropWhile Unicode.isBlank with
      | [] => rest.head?
      | ch :: _ => some ch
    | [] => rest.head?
    | ch :: _ => some ch
  else rest.head?

end Cursor

/-- Refuses a pattern for a reason that lies in one place. -/
def refuse {α : Type} (kind : FaultKind) (span : Span) : Except Fault α :=
  .error { kind, span }

end PatternAssembly
