import PatternAssembly.Expr.Simplified
import PatternAssembly.Tree.Fault

/-!
# From the pattern as written to what it means

The modes in force decide what a sign means. Flags change them from where they stand to the
end of the enclosing group. Without Unicode a pattern speaks about bytes, and is refused where
it could match a part of a character.

## Main definitions

* `Modes`: the modes in force
* `ClassTree.toSet`: the set of characters of a class
* `Tree.toExpr`: the expression of a pattern
-/
namespace PatternAssembly

/-- The modes in force at a place of a pattern. -/
structure Modes where
  ignoreCase : Bool := false
  multiLine : Bool := false
  dotAll : Bool := false
  swapGreed : Bool := false
  unicode : Bool := true
  carriageReturn : Bool := false
deriving DecidableEq

namespace Modes

/-- The modes with one of them set. -/
def set (m : Modes) : Mode × Bool → Modes
  | (.ignoreCase, on) => { m with ignoreCase := on }
  | (.multiLine, on) => { m with multiLine := on }
  | (.dotAll, on) => { m with dotAll := on }
  | (.swapGreed, on) => { m with swapGreed := on }
  | (.unicode, on) => { m with unicode := on }
  | (.carriageReturn, on) => { m with carriageReturn := on }
  | (.freeSpacing, _) => m

/-- The modes after a group of flags. -/
def apply (m : Modes) (changes : ModeChanges) : Modes := changes.foldl set m

/-- Which letters count as the same when case is ignored. -/
def folding (m : Modes) : Folding := if m.unicode then .simple else .ascii

/-- The set with the variants of its characters, where case is ignored. -/
def foldSet (m : Modes) (s : CharSet) : CharSet :=
  if m.ignoreCase then .closure m.folding s else s

/-- The place that an anchor or a boundary asks for. -/
def look (m : Modes) : Assertion → Look
  | .lineStart => if m.multiLine then .lineStart m.carriageReturn else .textStart
  | .lineEnd => if m.multiLine then .lineEnd m.carriageReturn else .textEnd
  | .textStart => .textStart
  | .textEnd => .textEnd
  | .wordBoundary => .word .boundary m.unicode
  | .notWordBoundary => .word .notBoundary m.unicode
  | .wordStart => .word .start m.unicode
  | .wordEnd => .word .stop m.unicode
  | .wordStartHalf => .word .startHalf m.unicode
  | .wordEndHalf => .word .stopHalf m.unicode

/-- What the dot takes. -/
def dotSet (m : Modes) : CharSet :=
  if m.dotAll then .full
  else if m.carriageReturn then .compl (.ranges [(0x0A, 0x0A), (0x0D, 0x0D)])
  else .compl (.ranges [(0x0A, 0x0A)])

end Modes

/-- A class that the pattern negates. Without Unicode its complement would hold single bytes
of characters. -/
def negateIn (m : Modes) (span : Span) (negated : Bool) (s : CharSet) :
    Except Fault CharSet :=
  if !negated then .ok s
  else if m.unicode then .ok (.compl s)
  else .error { kind := .invalidUtf8, span }

/-- The characters of a class of ASCII characters. -/
def AsciiClass.ranges : AsciiClass → List (Nat × Nat)
  | alnum => [(0x30, 0x39), (0x41, 0x5A), (0x61, 0x7A)]
  | alpha => [(0x41, 0x5A), (0x61, 0x7A)]
  | ascii => [(0x00, 0x7F)]
  | blank => [(0x09, 0x09), (0x20, 0x20)]
  | cntrl => [(0x00, 0x1F), (0x7F, 0x7F)]
  | digit => [(0x30, 0x39)]
  | graph => [(0x21, 0x7E)]
  | lower => [(0x61, 0x7A)]
  | print => [(0x20, 0x7E)]
  | punct => [(0x21, 0x2F), (0x3A, 0x40), (0x5B, 0x60), (0x7B, 0x7E)]
  | space => [(0x09, 0x0D), (0x20, 0x20)]
  | upper => [(0x41, 0x5A)]
  | word => [(0x30, 0x39), (0x41, 0x5A), (0x5F, 0x5F), (0x61, 0x7A)]
  | xdigit => [(0x30, 0x39), (0x41, 0x46), (0x61, 0x66)]

/-- The characters of a one-letter class. -/
def Shorthand.set (unicode : Bool) : Shorthand → CharSet
  | digit => if unicode then Unicode.digitChars else .ranges AsciiClass.digit.ranges
  | blank => if unicode then Unicode.blankChars else .ranges AsciiClass.space.ranges
  | word => wordSet unicode

/-- The characters of a class by property. -/
def propertySet (m : Modes) (span : Span) (query : Unicode.PropertyQuery) (negated : Bool) :
    Except Fault CharSet :=
  if !m.unicode then .error { kind := .unicodeNotAllowed, span }
  else match query.find with
    | .ok s => negateIn m span negated (m.foldSet s)
    | .error .unknownProperty => .error { kind := .propertyNotFound, span }
    | .error .unknownValue => .error { kind := .propertyValueNotFound, span }

/-- The character that a literal stands for. Without Unicode, two hexadecimal digits stand for
a byte, which is a character only below 128. -/
def Literal.resolve (m : Modes) (l : Literal) : Except Fault Char :=
  if !m.unicode && l.isByte && 0x80 ≤ l.char.toNat then
    .error { kind := .invalidUtf8, span := l.span }
  else .ok l.char

/-- The character of a literal between square brackets. Without Unicode it has to be a
byte. -/
def Literal.resolveInClass (m : Modes) (l : Literal) : Except Fault Char := do
  let c ← l.resolve m
  if !m.unicode && 0x80 ≤ c.toNat then .error { kind := .unicodeNotAllowed, span := l.span }
  else pure c

/-- The set that an operation makes of two sets. -/
def SetOperation.apply : SetOperation → CharSet → CharSet → CharSet
  | intersection => .inter
  | difference => .diff
  | symmetricDifference => .symmDiff

mutual

/-- The set of characters of what stands between square brackets. -/
def ClassTree.toSet (m : Modes) : ClassTree → Except Fault CharSet
  | .empty _ => .ok .empty
  | .literal l => do
    let c ← l.resolveInClass m
    pure (.single c)
  | .range _ lo hi => do
    let lo ← lo.resolveInClass m
    let hi ← hi.resolveInClass m
    pure (.range lo hi)
  | .ascii span kind negated => negateIn m span negated (m.foldSet (.ranges kind.ranges))
  | .shorthand span kind negated => negateIn m span negated (kind.set m.unicode)
  | .property span query negated => propertySet m span query negated
  | .bracket span negated set => do
    let s ← set.toSet m
    negateIn m span negated (m.foldSet s)
  | .union _ items => ClassTree.toUnion m items
  | .operation _ op lhs rhs => do
    let a ← lhs.toSet m
    let b ← rhs.toSet m
    pure (op.apply (m.foldSet a) (m.foldSet b))

/-- The characters of one of several items. -/
def ClassTree.toUnion (m : Modes) : List ClassTree → Except Fault CharSet
  | [] => .ok .empty
  | item :: items => do
    let s ← item.toSet m
    let rest ← ClassTree.toUnion m items
    pure (.union s rest)

end

/-- What takes a character, or a variant of it where case is ignored. -/
def takeChar (m : Modes) (c : Char) : Expr :=
  if m.ignoreCase then .ofSet (.ofCodes (m.folding.variants c.toNat)) else .text [c]

mutual

/-- The expression of a part of a pattern, and the modes in force after it. -/
def Tree.resolve (m : Modes) : Tree → Except Fault (Expr × Modes)
  | .empty _ => .ok (.empty, m)
  | .modes _ changes => .ok (.empty, m.apply changes)
  | .literal l => do
    let c ← l.resolve m
    pure (takeChar m c, m)
  | .dot span =>
    if m.unicode then .ok (.ofSet m.dotSet, m) else .error { kind := .invalidUtf8, span }
  | .assertion _ kind => .ok (.look (m.look kind), m)
  | .shorthand span kind negated => do
    let s ← negateIn m span negated (kind.set m.unicode)
    pure (.ofSet s, m)
  | .property span query negated => do
    let s ← propertySet m span query negated
    pure (.ofSet s, m)
  | .bracket span negated set => do
    let s ← set.toSet m
    let s ← negateIn m span negated (m.foldSet s)
    pure (.ofSet s, m)
  | .repetition _ lo hi greedy sub => do
    let (e, after) ← sub.resolve m
    pure (.repeated lo hi (greedy != m.swapGreed) e, after)
  | .group _ (.capture index) sub => do
    let (e, _) ← sub.resolve m
    pure (.group index e, m)
  | .group _ (.plain changes) sub => do
    let (e, _) ← sub.resolve (m.apply changes)
    pure (e, m)
  | .alternation _ branches => do
    let (es, after) ← Tree.resolveAll m branches
    pure (.ofAlt es, after)
  | .sequence _ parts => do
    let (es, after) ← Tree.resolveAll m parts
    pure (.ofSeq es, after)

/-- The expressions of several parts, each under the modes that the parts before it leave in
force. -/
def Tree.resolveAll (m : Modes) : List Tree → Except Fault (List Expr × Modes)
  | [] => .ok ([], m)
  | t :: ts => do
    let (e, between) ← t.resolve m
    let (es, after) ← Tree.resolveAll between ts
    pure (e :: es, after)

end

namespace Tree

-- All of these hold by computation. Proofs rewrite by them and do not unfold the mutual
-- recursion.
variable (m : Modes) (span : Span)

theorem resolve_literal (l : Literal) :
    (literal l).resolve m = l.resolve m >>= fun c => pure (takeChar m c, m) := rfl

theorem resolve_dot : (dot span).resolve m =
    if m.unicode then .ok (.ofSet m.dotSet, m) else .error { kind := .invalidUtf8, span } :=
  rfl

theorem resolve_shorthand (kind : Shorthand) (negated : Bool) :
    (shorthand span kind negated).resolve m =
      negateIn m span negated (kind.set m.unicode) >>= fun s => pure (.ofSet s, m) := rfl

theorem resolve_bracket (negated : Bool) (set : ClassTree) :
    (bracket span negated set).resolve m =
      set.toSet m >>= fun s => negateIn m span negated (m.foldSet s) >>= fun s =>
        pure (.ofSet s, m) := rfl

theorem resolve_repetition (lo : Nat) (hi : Option Nat) (greedy : Bool) (sub : Tree) :
    (repetition span lo hi greedy sub).resolve m =
      sub.resolve m >>= fun r => pure (.repeated lo hi (greedy != m.swapGreed) r.1, r.2) :=
  rfl

theorem resolve_group (index : Nat) (sub : Tree) :
    (group span (.capture index) sub).resolve m =
      sub.resolve m >>= fun r => pure (.group index r.1, m) := rfl

theorem resolve_alternation (branches : List Tree) :
    (alternation span branches).resolve m =
      resolveAll m branches >>= fun r => pure (.ofAlt r.1, r.2) := rfl

theorem resolve_sequence (parts : List Tree) :
    (sequence span parts).resolve m =
      resolveAll m parts >>= fun r => pure (.ofSeq r.1, r.2) := rfl

theorem resolveAll_cons (t : Tree) (ts : List Tree) :
    resolveAll m (t :: ts) =
      t.resolve m >>= fun r => resolveAll r.2 ts >>= fun rest =>
        pure (r.1 :: rest.1, rest.2) := rfl

end Tree

/-- The expression of a pattern, read under the given modes. -/
def Tree.toExpr (m : Modes) (t : Tree) : Except Fault Expr := do
  let (e, _) ← t.resolve m
  pure e

end PatternAssembly
