import PatternAssembly.CharSet.Memory
import PatternAssembly.Expr

/-!
# The memory of an expression

An expression is laid as two graphs over bytes. The graph that reads forwards knows about
groups, the one that reads backwards does not. Texts to choose from share what they start
with. An expression fits if both graphs stay within the limit.

## Main definitions

* `layTexts`: the nodes of texts to choose from
* `Expr.lay`: the nodes of an expression
* `Expr.unshared`: the bytes that they take at most
* `Expr.fits`: both graphs of an expression stay within a limit
-/
namespace PatternAssembly

/-- Texts to choose from, divided where one of them ends: those behind it count only if it
does not. Ends that come before all texts divide once. -/
def divide : (done : List (List (List Nat))) → (now : List (List Nat)) → List (List Nat) →
    List (List (List Nat))
  | done, now, [] => done ++ [now]
  | done, now, [] :: texts =>
    if now.isEmpty && !done.isEmpty && done.all List.isEmpty then divide done now texts
    else divide (done ++ [now]) [] texts
  | done, now, text :: texts => divide done (now ++ [text]) texts

/-- The nodes of texts to choose from, which share what they start with. -/
def layTexts : (depth : Nat) → List (List Nat) → Plan → Option Plan
  | 0, _, p => some p
  | depth + 1, texts, p => do
    let parts := divide [] [] texts
    let p ← parts.foldlM (fun p part => do
      let heads := (part.filterMap List.head?).eraseDups
      let p ← heads.foldlM (fun p head =>
        let rests := (part.filter fun text => text.head? == some head).map List.tail
        if rests.all List.isEmpty then some p else layTexts depth rests p) p
      if part.isEmpty then some p
      else p.add (if heads.length = 1 then 0 else 8 * heads.length)) p
    p.add (4 * ((parts.filter fun part => !part.isEmpty).length + (parts.length - 1)))

/-- Where an expression stands among alternatives: it is none or is laid by itself, it follows
the first of `n`, or it follows a later one. -/
inductive ChoicePlace where
  | alone
  | second (n : Nat)
  | later

/-- What is laid after an expression: behind the second alternative, the nodes that join
all. -/
def ChoicePlace.close : ChoicePlace → Plan → Option Plan
  | alone, p | later, p => some p
  | second n, p => p.join n

namespace Expr

/-- The bytes of alternatives that are all texts. -/
def asTexts? (d : Direction) (es : List Expr) : Option (List (List Nat)) :=
  es.mapM fun
    | text cs =>
      some (match d with | .forwards => bytesOf cs | .backwards => (bytesOf cs).reverse)
    | _ => none

/-- The alternatives of an expression. -/
def alternatives : Expr → List Expr
  | alt a b => a :: b.alternatives
  | e => [e]

/-- The nodes of an expression. -/
def lay (d : Direction) : ChoicePlace → Expr → Plan → Option Plan
  | .alone, alt a b, p =>
    match asTexts? d (a :: b.alternatives) with
    | some texts => do
      let p ← p.add 0
      layTexts ((texts.map List.length).foldl max 0) texts p
    | none => do
      let p ← a.lay d .alone p
      b.lay d (.second (1 + b.alternatives.length)) p
  | .second n, alt a b, p => do
    let p ← a.lay d .alone p
    let p ← p.join n
    b.lay d .later p
  | .later, alt a b, p => do
    let p ← a.lay d .alone p
    b.lay d .later p
  | place, empty, p => do
    let p ← p.add 0
    place.close p
  | place, look _, p => do
    let p ← p.add 0
    place.close p
  | place, text cs, p => do
    let p ← Plan.rounds (·.add 0) (bytesOf cs).length p
    place.close p
  | place, take s, p => do
    let p ← s.lay d p
    place.close p
  | place, seq a b, p => do
    let p ← match d with
      | .forwards => (a.lay d .alone p).bind (b.lay d .alone)
      | .backwards => (b.lay d .alone p).bind (a.lay d .alone)
    place.close p
  | place, group _ e, p => do
    let p ← match d with
      | .forwards => ((p.add 0).bind (e.lay d .alone)).bind (·.add 0)
      | .backwards => e.lay d .alone p
    place.close p
  | place, times 0 (some 1) _ e, p => do
    let p ← p.add 8
    let p ← e.lay d .alone p
    let p ← p.add 0
    place.close p
  | place, times 0 none _ e, p => do
    let p ← if e.advances then (p.add 8).bind (e.lay d .alone)
      else (((e.lay d .alone p).bind (·.add 8)).bind (·.add 8)).bind (·.add 0)
    place.close p
  | place, times (n + 1) none _ e, p => do
    let p ← Plan.rounds (e.lay d .alone) (n + 1) p
    let p ← p.add 8
    place.close p
  | place, times lo (some hi) _ e, p => do
    let p ← if lo = hi then Plan.rounds (e.lay d .alone) lo p
      else do
        let p ← if lo = 0 then p.add 0 else Plan.rounds (e.lay d .alone) lo p
        let p ← p.add 0
        Plan.rounds (fun p => (p.add 8).bind (e.lay d .alone)) (hi - lo) p
    place.close p

/-- The nodes in front of an expression: a loop that skips bytes, unless every match has to
start where the graph starts to read. -/
def layEntry (d : Direction) (e : Expr) (p : Plan) : Option Plan :=
  let fixed := match d with
    | .forwards => e.asksFirst .textStart
    | .backwards => e.asksLast .textEnd
  if fixed then p.add 0
  else do
    let p ← p.add 8
    let p ← p.add 0
    p.add 8

/-- The whole graph of an expression. Forwards, the match itself counts as a group. -/
def layAll (d : Direction) (e : Expr) (p : Plan) : Option Plan := do
  let p ← e.layEntry d p
  let p ← match d with
    | .forwards => (group 0 e).lay d .alone p
    | .backwards => e.lay d .alone p
  p.add 0

/-- The bytes that a graph of the expression takes at most, however little its nodes are
shared. -/
def unshared : Expr → Nat
  | empty | look _ => 32
  | text cs => 76 * (bytesOf cs).length
  | take s =>
    if s.isAscii then 64 + 8 * s.pieces.length
    else 64 + (s.byteStrings.map fun ranges => 4 + 40 * ranges.length).sum
  | seq a b => a.unshared + b.unshared
  | alt a b => a.unshared + b.unshared + 72
  | times lo none _ e => max lo 1 * e.unshared + 112
  | times lo (some hi) _ e => lo * e.unshared + (hi - lo) * (e.unshared + 40) + 64
  | group _ e => e.unshared + 64

/-- Both graphs of the expression stay within a limit of bytes. They need not be laid if they
would do so without any sharing; 208 bytes are for the entry, the match as a group, and the
last node. -/
def fits (limit : Nat) (e : Expr) : Bool :=
  e.unshared + 208 ≤ limit ||
    (e.layAll .forwards { nodes := 0, room := limit }).isSome &&
      (e.layAll .backwards { nodes := 0, room := limit }).isSome

end Expr

end PatternAssembly
