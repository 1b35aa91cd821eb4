import PatternAssembly.Expr.Memory
import PatternAssembly.Expr.OfTree
import PatternAssembly.Flags
import PatternAssembly.Template
import PatternAssembly.Text.Quoted
import PatternAssembly.Tree.Depth
import PatternAssembly.Tree.Reader

/-!
# Compiled patterns

A pattern is compiled for given flags, or refused; a compiled pattern tests, searches and
replaces.

## Main definitions

* `PatternError`: why a pattern or its flags are refused, with the words for it
* `Matcher`: a compiled pattern, and `Matcher.compile`
* `Matcher.test`, `Matcher.matchedTexts`, `Matcher.replace`: what it does with a text
* `escapeLiteral`: the pattern that a text alone matches
-/
namespace PatternAssembly

/-- Why a pattern is refused: its text is at fault, or it would need more bytes of memory than
the limit. -/
inductive Refusal where
  | fault (f : Fault)
  | tooBig (limit : Nat)
deriving DecidableEq

/-- The words for a refusal of a pattern. -/
def Refusal.message (pattern : String) : Refusal → String
  | fault f => f.report pattern.toList
  | tooBig limit => "Compiled regex exceeds size limit of " ++ toString limit ++ " bytes."

/-- Why there is no compiled pattern. -/
inductive PatternError where
  | invalidPattern (pattern : String) (reason : Refusal)
  | unknownFlag (c : Char)
deriving DecidableEq

/-- The words for a pattern and why it is refused. -/
def invalidPatternText (pattern message : String) : String :=
  "Invalid pattern " ++ Text.quote pattern ++ ": " ++ message

/-- The words for an error. -/
def PatternError.message : PatternError → String
  | invalidPattern pattern reason => invalidPatternText pattern (reason.message pattern)
  | unknownFlag c => "Unknown flag '" ++ String.singleton c ++ "', expected one of g, m, i"

/-- The flags that letters name. -/
def Flags.parse (text : String) : Except PatternError Flags :=
  (Flags.ofText? text).mapError .unknownFlag

/-- Parts of a pattern may lie this many levels deep. -/
def nestLimit : Nat := 250

/-- A pattern may need this many bytes of memory. -/
def sizeLimit : Nat := 10485760

/-- The modes that flags switch on; where anchors hold at line ends, carriage returns end
lines too. -/
def Flags.modes (f : Flags) : Modes :=
  { ignoreCase := f.ignoreCase, multiLine := f.multiLine, carriageReturn := f.multiLine }

/-- The tree of a pattern that does not nest too deep. -/
def readPattern (pattern : List Char) : Except Fault Reading := do
  let reading ← Tree.read pattern
  match reading.tree.tooDeep? nestLimit with
  | some span => .error { kind := .nestLimitExceeded nestLimit, span }
  | none => pure reading

/-- The expression of a pattern, and its names of groups. -/
def Expr.ofPattern (modes : Modes) (pattern : List Char) :
    Except Refusal (Expr × List (String × Nat)) := do
  let reading ← (readPattern pattern).mapError .fault
  let e ← (reading.tree.toExpr modes).mapError .fault
  if e.fits sizeLimit then pure (e, reading.names) else .error (.tooBig sizeLimit)

/-- A compiled pattern. -/
structure Matcher where
  pattern : String
  global : Bool
  program : Program
  names : List (String × Nat)

namespace Matcher

/-- The pattern compiled for the given flags. -/
def compile (pattern : String) (flags : Flags) : Except PatternError Matcher :=
  match Expr.ofPattern flags.modes pattern.toList with
  | .ok (expr, names) =>
    .ok { pattern, global := flags.global, program := .ofExpr expr, names }
  | .error reason => .error (.invalidPattern pattern reason)

/-- Some part of the text matches. -/
def test (m : Matcher) (text : String) : Bool :=
  (findFrom m.program text.toList.toArray 0).isSome

/-- The matches that count, in order. -/
def found (m : Matcher) (text : Array Char) : List Match :=
  if m.global then allMatches m.program text else (findFrom m.program text 0).toList

/-- The texts of the matches that count, in order. -/
def matchedTexts (m : Matcher) (text : String) : List String :=
  let chars := text.toList.toArray
  (m.found chars).map fun found => String.ofList (slice chars found.start found.stop)

/-- The text with each match that counts replaced by what the template stands for there. -/
def replace (m : Matcher) (text template : String) : String :=
  let chars := text.toList.toArray
  let pieces := Template.read template.toList
  String.ofList (splice chars (pieces.expand m.names chars) 0 (m.found chars))

end Matcher

/-- The pattern that matches the text and nothing else: a backslash before each character with
a meaning. -/
def escapeLiteral (text : String) : String :=
  String.ofList (text.toList.flatMap fun c => if isMeta c then ['\\', c] else [c])

end PatternAssembly
