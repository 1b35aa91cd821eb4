import PatternAssembly.Program.Search

/-!
# All matches in a text

Matches are looked for one after another, each from the end of the one before it. An empty
match right at the end of the match before it is passed over.

## Main definitions

* `matchesFrom`, `allMatches`: the matches in order
* `splice`: the text with its matches replaced
-/
namespace PatternAssembly

/-- The next match from `start` on, when the match before it ended at `last`. -/
def findNext (program : Program) (text : Array Char) (start : Nat) (last : Option Nat) :
    Option Match :=
  match findFrom program text start with
  | none => none
  | some m =>
    if m.start = m.stop ∧ last = some m.stop then findFrom program text (start + 1)
    else some m

/-- At most `bound` matches from `start` on, when the match before them ended at `last`. -/
def matchesFrom (program : Program) (text : Array Char) : (bound : Nat) → (start : Nat) →
    (last : Option Nat) → List Match
  | 0, _, _ => []
  | bound + 1, start, last =>
    match findNext program text start last with
    | none => []
    | some m => m :: matchesFrom program text bound m.stop (some m.stop)

/-- The matches in a text, in order; there is at most one more than the text has
characters. -/
def allMatches (program : Program) (text : Array Char) : List Match :=
  matchesFrom program text (text.size + 1) 0 none

/-- The characters between two places of a text. -/
def slice (text : Array Char) (start stop : Nat) : List Char :=
  (text.extract start stop).toList

/-- The text from `start` on, with each of the matches replaced. -/
def splice (text : Array Char) (replacement : Match → List Char) :
    (start : Nat) → List Match → List Char
  | start, [] => slice text start text.size
  | start, m :: ms =>
    slice text start m.start ++ replacement m ++ splice text replacement m.stop ms

end PatternAssembly
