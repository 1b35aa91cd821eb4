import PatternAssembly.CharSet
import PatternAssembly.Unicode.Word

/-!
# Expressions

What a pattern means, with all modes settled: sets of characters to take, places to be at, and
the ways to combine them. Alternatives and repetitions are ordered: of several ways to match,
the one that comes first counts.

## Main definitions

* `Look`: places in a text, with `Look.holds`
* `Expr`: expressions
* `Expr.takesNothing`, `Expr.least?`: what is known of the length of a match
* `Expr.asksFirst`, `Expr.asksLast`: places that every match starts or ends with
-/
namespace PatternAssembly

/-- How a boundary of words is asked for. The halves look at one side only: no word character
is before the place, or none after it. -/
inductive WordPlace where
  | boundary | notBoundary | start | stop | startHalf | stopHalf
deriving DecidableEq

/-- A place between characters that an expression can ask for. With `returns`, carriage
returns end lines too, alone or before a newline. -/
inductive Look where
  | textStart
  | textEnd
  | lineStart (returns : Bool)
  | lineEnd (returns : Bool)
  | word (place : WordPlace) (unicode : Bool)
deriving DecidableEq

/-- The characters of words in ASCII. -/
def asciiWordChars : CharSet :=
  .ranges [(0x30, 0x39), (0x41, 0x5A), (0x5F, 0x5F), (0x61, 0x7A)]

/-- The characters that words consist of. -/
def wordSet (unicode : Bool) : CharSet :=
  if unicode then Unicode.wordChars else asciiWordChars

/-- The boundary is there, given whether word characters are before and after the place. -/
def WordPlace.holds (before after : Bool) : WordPlace → Bool
  | boundary => before != after
  | notBoundary => before == after
  | start => !before && after
  | stop => before && !after
  | startHalf => !before
  | stopHalf => !after

/-- The character before a place. -/
def charBefore (text : Array Char) (i : Nat) : Option Char :=
  if i = 0 then none else text[i - 1]?

/-- The place `i` of the text is what the look asks for. -/
def Look.holds (text : Array Char) (i : Nat) : Look → Bool
  | textStart => i == 0
  | textEnd => i == text.size
  | lineStart false => i == 0 || charBefore text i == some '\n'
  | lineStart true =>
    i == 0 || charBefore text i == some '\n' ||
      charBefore text i == some '\r' && text[i]? != some '\n'
  | lineEnd false => i == text.size || text[i]? == some '\n'
  | lineEnd true =>
    i == text.size || text[i]? == some '\r' ||
      text[i]? == some '\n' && charBefore text i != some '\r'
  | word place unicode =>
    place.holds ((charBefore text i).any (wordSet unicode).has)
      (text[i]?.any (wordSet unicode).has)

/-- What a pattern means. Of two alternatives the first one is preferred, and a greedy
repetition prefers more times. -/
inductive Expr where
  | empty
  | text (cs : List Char)
  | take (s : CharSet)
  | look (l : Look)
  | seq (a b : Expr)
  | alt (a b : Expr)
  | times (lo : Nat) (hi : Option Nat) (greedy : Bool) (e : Expr)
  | group (index : Nat) (e : Expr)
deriving DecidableEq

namespace Expr

/-- The expression takes no character, whatever the text. -/
def takesNothing : Expr → Bool
  | empty | look _ => true
  | text _ | take _ => false
  | seq a b | alt a b => a.takesNothing && b.takesNothing
  | times _ _ _ e | group _ e => e.takesNothing

/-- The least number of characters that a match takes. It is left open where the expression
has a part that nothing matches. -/
def least? : Expr → Option Nat
  | empty | look _ => some 0
  | text cs => some cs.length
  | take s => if s = .empty then none else some 1
  | seq a b => do
    let m ← a.least?
    let n ← b.least?
    pure (m + n)
  | alt a b => do
    let m ← a.least?
    let n ← b.least?
    pure (min m n)
  | times lo _ _ e => e.least?.map (lo * ·)
  | group _ e => e.least?

/-- Every match is known to take a character. -/
def advances (e : Expr) : Bool := e.least?.any (0 < ·)

/-- Every match starts at such a place, and the expression says so at its start. -/
def asksFirst (l : Look) : Expr → Bool
  | empty | text _ | take _ => false
  | look l' => l = l'
  | seq a b => a.asksFirst l || a.takesNothing && b.asksFirst l
  | alt a b => a.asksFirst l && b.asksFirst l
  | times lo _ _ e => 0 < lo && e.asksFirst l
  | group _ e => e.asksFirst l

/-- Every match ends at such a place, and the expression says so at its end. -/
def asksLast (l : Look) : Expr → Bool
  | empty | text _ | take _ => false
  | look l' => l = l'
  | seq a b => b.asksLast l || b.takesNothing && a.asksLast l
  | alt a b => a.asksLast l && b.asksLast l
  | times lo _ _ e => 0 < lo && e.asksLast l
  | group _ e => e.asksLast l

end Expr

end PatternAssembly
