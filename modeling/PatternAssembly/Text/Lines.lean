/-!
# Lines

A newline ends a line. A text after the last newline is a line too, unless it is empty. One
carriage return before the newline belongs to the line end.

## Main definitions

* `cutLines`: the lines that a newline ends, and what follows the last newline
* `lines`: the lines of a text, without their ends

The functions work on characters and on bytes alike: what counts as a newline and as a
carriage return is a parameter.
-/
namespace PatternAssembly.Text

variable {α : Type} [BEq α]

/-- Puts one more element in front: a newline begins a new first line. -/
def pushFront (newline : α) (x : α) : List (List α) × List α → List (List α) × List α
  | ([], rest) => if x == newline then ([[]], rest) else ([], x :: rest)
  | (line :: lines, rest) =>
    if x == newline then ([] :: line :: lines, rest) else ((x :: line) :: lines, rest)

/-- The lines that a newline ends, and what follows the last newline. -/
def cutLines (newline : α) (xs : List α) : List (List α) × List α :=
  xs.foldr (pushFront newline) ([], [])

/-- The line without a carriage return at its end. -/
def dropReturn (carriageReturn : α) (line : List α) : List α :=
  if line.getLast? == some carriageReturn then line.dropLast else line

/-- The lines of a text, without their ends. -/
def lines (newline carriageReturn : α) (xs : List α) : List (List α) :=
  let (ended, rest) := cutLines newline xs
  ended.map (dropReturn carriageReturn) ++ if rest.isEmpty then [] else [rest]

end PatternAssembly.Text
