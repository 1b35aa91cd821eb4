import PatternAssembly.Expr

/-!
# Programs

An expression is laid out as a list of instructions. Control runs on to the next instruction
unless an instruction says otherwise, so the code of a part ends where the code after it
starts.

## Main definitions

* `Instr`: instructions
* `Expr.size`: how many instructions an expression needs
* `Expr.code`: the instructions, given the address of the first
* `Program.ofExpr`: the instructions of a whole expression, with acceptance at their end
-/
namespace PatternAssembly

/-- One instruction of a program. A fork goes on at the first address, and if that fails at
the second one. -/
inductive Instr where
  | take (s : CharSet)
  | look (l : Look)
  | save (slot : Nat)
  | fork (first second : Nat)
  | jump (target : Nat)
  | accept

/-- Goes on at `here`, and if that fails at `there`; the other way round for a lazy
repetition. -/
def Instr.choose (greedy : Bool) (here there : Nat) : Instr :=
  if greedy then .fork here there else .fork there here

namespace Expr

/-- The number of instructions of an expression. -/
def size : Expr → Nat
  | empty => 0
  | text cs => cs.length
  | take _ | look _ => 1
  | seq a b => a.size + b.size
  | alt a b => a.size + b.size + 2
  | times 0 none _ e => e.size + 2
  | times (n + 1) none _ e => n * e.size + (e.size + 1)
  | times lo (some hi) _ e => lo * e.size + (hi - lo) * (e.size + 1)
  | group _ e => e.size + 2

/-- Code that is repeated `n` times, each time for the address after the code before it. -/
def copies (n length start : Nat) (code : Nat → List Instr) : List Instr :=
  (List.range n).flatMap fun k => code (start + k * length)

/-- The instructions of an expression, the first of which has the address `start`.

A repetition without an upper bound ends with the choice between another round and going on.
If it may also be left out, that is chosen before the first round. One choice serves for both
if every round takes a character. Optional rounds all leave for the end of the repetition. -/
def code (start : Nat) : Expr → List Instr
  | empty => []
  | text cs => cs.map fun c => .take (.single c)
  | take s => [.take s]
  | look l => [.look l]
  | seq a b => a.code start ++ b.code (start + a.size)
  | alt a b =>
    let second := start + a.size + 2
    .fork (start + 1) second :: a.code (start + 1) ++ .jump (second + b.size) :: b.code second
  | times 0 none greedy e =>
    let enter := Instr.choose greedy (start + 1) (start + e.size + 2)
    enter :: e.code (start + 1) ++ [if e.advances then .jump start else enter]
  | times (n + 1) none greedy e =>
    let last := start + n * e.size
    copies n e.size start (fun here => e.code here) ++
      (e.code last ++ [.choose greedy last (last + e.size + 1)])
  | times lo (some hi) greedy e =>
    let first := start + lo * e.size
    let stop := first + (hi - lo) * (e.size + 1)
    copies lo e.size start (fun here => e.code here) ++
      copies (hi - lo) (e.size + 1) first fun here =>
        .choose greedy (here + 1) stop :: e.code (here + 1)
  | group index e =>
    .save (2 * index) :: e.code (start + 1) ++ [.save (2 * index + 1)]

end Expr

/-- Instructions by their addresses. -/
abbrev Program := Array Instr

/-- The program of an expression: its code from address 0 on, then acceptance. -/
def Program.ofExpr (e : Expr) : Program := (e.code 0 ++ [Instr.accept]).toArray

theorem Expr.length_copies {n length : Nat} {code : Nat → List Instr}
    (h : ∀ here, (code here).length = length) (start : Nat) :
    (copies n length start code).length = n * length := by
  simp only [copies, List.length_flatMap, h]
  induction n with
  | zero => simp
  | succ n ih =>
    rw [List.range_succ, List.map_append, List.sum_append, ih, Nat.succ_mul]; simp

/-- The code of an expression is as long as announced. -/
theorem Expr.length_code (e : Expr) (start : Nat) : (e.code start).length = e.size := by
  induction e generalizing start with
  | empty => rfl
  | text cs => simp [code, size]
  | take => rfl
  | look => rfl
  | seq a b iha ihb => simp [code, size, iha, ihb]
  | alt a b iha ihb => simp [code, size, iha, ihb]; omega
  | times lo hi g e ih =>
    match lo, hi with
    | 0, none => simp [code, size, ih]
    | n + 1, none => simp [code, size, length_copies ih, ih]
    | lo, some hi =>
      have h (stop here) :
          (Instr.choose g (here + 1) stop :: e.code (here + 1)).length = e.size + 1 := by
        simp [ih]
      rw [code, size, List.length_append, length_copies ih, length_copies (h _)]
  | group i e ih => simp [code, size, ih]

end PatternAssembly
