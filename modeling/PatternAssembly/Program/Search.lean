import PatternAssembly.Program

/-!
# Running a program

A search goes depth first over pairs of an address and a place of the text, in the order in
which the program prefers them. A pair that was seen before is not tried again: what failed
once fails always, from whatever start, so one record of seen pairs serves all starts of a
search.

## Main definitions

* `Thread`: an address, a place, and the places remembered on the way
* `Thread.successors`: where a thread goes on
* `Seen`: the pairs tried so far
* `explore`: the search from a list of threads
* `findFrom`: the first match that starts at or after a place
-/
namespace PatternAssembly

/-- Where a run of a program stands. The places remembered so far have their numbers with
them, the last one is the first. -/
structure Thread where
  address : Nat
  place : Nat
  saved : List (Nat × Nat) := []

namespace Thread

/-- Where a thread goes on after an instruction, in the order of preference. -/
def successors (text : Array Char) (t : Thread) : Instr → List Thread
  | .take s =>
    match text[t.place]? with
    | some c =>
      if s.has c then [{ t with address := t.address + 1, place := t.place + 1 }] else []
    | none => []
  | .look l => if l.holds text t.place then [{ t with address := t.address + 1 }] else []
  | .save slot => [{ t with address := t.address + 1, saved := (slot, t.place) :: t.saved }]
  | .fork first second => [{ t with address := first }, { t with address := second }]
  | .jump target => [{ t with address := target }]
  | .accept => []

end Thread

/-- The pairs of an address and a place that were tried: for each place, a number whose binary
digits stand for the addresses. -/
abbrev Seen := Array Nat

namespace Seen

/-- Nothing tried at any of the places of a text. -/
def none (text : Array Char) : Seen := Array.replicate (text.size + 1) 0

/-- The pair was tried. -/
def has (seen : Seen) (address place : Nat) : Bool := (seen.getD place 0).testBit address

/-- The pair is tried now. -/
def mark (seen : Seen) (address place : Nat) : Seen :=
  seen.modify place fun tried => tried ||| 1 <<< address

end Seen

/-- The first thread that reaches acceptance from the given ones, and what was tried. Every
step tries a new pair or drops a thread, so `bound` need not exceed `exploreBound`. -/
def explore (program : Program) (text : Array Char) : (bound : Nat) → Seen → List Thread →
    Option Thread × Seen
  | 0, seen, _ => (none, seen)
  | _ + 1, seen, [] => (none, seen)
  | bound + 1, seen, t :: rest =>
    if seen.has t.address t.place then explore program text bound seen rest
    else
      let seen := seen.mark t.address t.place
      match program[t.address]? with
      | some .accept => (some t, seen)
      | some instr => explore program text bound seen (t.successors text instr ++ rest)
      | none => explore program text bound seen rest

/-- Twice the number of pairs, and one step for the first thread. -/
def exploreBound (program : Program) (text : Array Char) : Nat :=
  2 * (program.size * (text.size + 1)) + 1

/-- A stretch of the text that an expression matches, and the places remembered inside it with
their numbers, the last one first. -/
structure Match where
  start : Nat
  stop : Nat
  saved : List (Nat × Nat)

/-- The stretch that a group matched, if it took part in the match. -/
def Match.group (m : Match) (index : Nat) : Option (Nat × Nat) :=
  if index = 0 then some (m.start, m.stop)
  else do
    let start ← m.saved.lookup (2 * index)
    let stop ← m.saved.lookup (2 * index + 1)
    pure (start, stop)

/-- The match that starts first among `count` places from `start` on, and is preferred
there. -/
def findAmong (program : Program) (text : Array Char) : (count : Nat) → Seen → (start : Nat) →
    Option Match
  | 0, _, _ => none
  | count + 1, seen, start =>
    match explore program text (exploreBound program text) seen
      [{ address := 0, place := start }] with
    | (some t, _) => some { start, stop := t.place, saved := t.saved }
    | (none, seen) => findAmong program text count seen (start + 1)

/-- The match that starts first at or after a place, and is preferred there. -/
def findFrom (program : Program) (text : Array Char) (start : Nat) : Option Match :=
  findAmong program text (text.size + 1 - start) (Seen.none text) start

end PatternAssembly
