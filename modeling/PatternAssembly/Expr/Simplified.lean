import PatternAssembly.Expr

/-!
# Simplified expressions

Expressions are put together in a simplified form. Texts side by side are one text, and a set
of one character is a text. Sequences and alternatives are flat, alternatives that each take
one character are one set, and what all alternatives start with stands in front of them. A
repetition that changes nothing is left out.

## Main definitions

* `Expr.ofSet`: takes a character of a set
* `Expr.ofSeq`: expressions one after another
* `Expr.ofAlt`: expressions to choose from
* `Expr.repeated`: repetition between two bounds
-/
namespace PatternAssembly.Expr

/-- Takes one character of the set. -/
def ofSet (s : CharSet) : Expr :=
  match s.pieces with
  | [(lo, hi)] => if lo = hi then text [Char.ofNat lo] else take s
  | _ => take s

/-- The parts of a sequence; `empty` has none, and other expressions are their own part. -/
def parts : Expr → List Expr
  | empty => []
  | seq a b => a.parts ++ b.parts
  | e => [e]

/-- The list with neighbouring texts put together. -/
def joinTexts : List Expr → List Expr
  | [] => []
  | text cs :: es =>
    match joinTexts es with
    | text ds :: rest => text (cs ++ ds) :: rest
    | rest => text cs :: rest
  | e :: es => e :: joinTexts es

/-- The sequence with the given parts. -/
def ofParts : List Expr → Expr
  | [] => empty
  | [e] => e
  | e :: es => seq e (ofParts es)

/-- Expressions one after another. -/
def ofSeq (es : List Expr) : Expr := ofParts (joinTexts (es.flatMap parts))

/-- The alternatives that an expression chooses from. -/
def choices : Expr → List Expr
  | alt a b => a.choices ++ b.choices
  | e => [e]

/-- The characters of texts that are each one character. -/
def asChars? (es : List Expr) : Option (List Char) :=
  es.mapM fun
    | text [c] => some c
    | _ => none

/-- The sets of expressions that each take a character of a set. -/
def asSets? (es : List Expr) : Option (List CharSet) :=
  es.mapM fun
    | take s => some s
    | _ => none

/-- The set that alternatives stand for, if each of them is a character or each of them is a
set. -/
def asSet? (es : List Expr) : Option CharSet :=
  match asChars? es with
  | some cs => some (.ofCodes (cs.map Char.toNat))
  | none => (asSets? es).map .unions

/-- Alternatives, the first that leads to a match wins. -/
def nest : List Expr → Expr
  | [] => take .empty
  | [e] => e
  | e :: es => alt e (nest es)

/-- Alternatives that are none themselves; a single one stands for itself. -/
def ofChoices (es : List Expr) : Expr :=
  if es.length ≤ 1 then nest es
  else match asSet? es with
    | some s => ofSet s
    | none => nest es

/-- What two lists start with. -/
def commonStart : List Expr → List Expr → List Expr
  | a :: as, b :: bs => if a = b then a :: commonStart as bs else []
  | _, _ => []

/-- The expression is a sequence of several parts. -/
def isSeq : Expr → Bool
  | seq _ _ => true
  | _ => false

/-- The parts that all alternatives start with, if they are sequences. -/
def sharedStart : List Expr → List Expr
  | [] => []
  | e :: es =>
    if e.isSeq && es.all isSeq then
      es.foldl (fun start e => commonStart start e.parts) e.parts
    else []

/-- Expressions to choose from; of none, nothing matches. -/
def ofAlt (es : List Expr) : Expr :=
  let all := es.flatMap choices
  let shared := sharedStart all
  if all.length ≤ 1 || shared.isEmpty then ofChoices all
  else
    let rests := all.map fun e => ofSeq (e.parts.drop shared.length)
    ofSeq (shared ++ [ofChoices (rests.flatMap choices)])

/-- Repetition at least `lo` and at most `hi` times. What takes no character is not tried a
second time, for that would change nothing. -/
def repeated (lo : Nat) (hi : Option Nat) (greedy : Bool) (e : Expr) : Expr :=
  let lo := if e.takesNothing then min lo 1 else lo
  let hi := if e.takesNothing then some (min (hi.getD 1) 1) else hi
  if lo = 0 ∧ hi = some 0 then empty
  else if lo = 1 ∧ hi = some 1 then e
  else times lo hi greedy e

end PatternAssembly.Expr
