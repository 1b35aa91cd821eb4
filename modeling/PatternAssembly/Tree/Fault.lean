import PatternAssembly.Text.Lines
import PatternAssembly.Tree.Basic

/-!
# Faults in patterns

Why a pattern is refused, where the reason lies in its text, and how both are shown: the
pattern with carets under the place, then the reason.

## Main definitions

* `FaultKind`: the reasons
* `Fault`: a reason with its place
* `Fault.report`: the text shown to the author of the pattern
-/
namespace PatternAssembly

/-- Why a pattern is refused. -/
inductive FaultKind where
  | classEscapeInvalid | classRangeInvalid | classRangeLiteral | classUnclosed
  | decimalInvalid
  | escapeHexEmpty | escapeHexInvalid | escapeHexInvalidDigit | escapeUnexpectedEnd
  | escapeUnrecognized
  | flagDanglingNegation | flagDuplicate | flagRepeatedNegation | flagUnexpectedEnd
  | flagUnrecognized
  | groupNameDuplicate | groupNameEmpty | groupNameInvalid | groupNameUnexpectedEnd
  | groupUnclosed | groupUnopened
  | nestLimitExceeded (limit : Nat)
  | repetitionCountInvalid | repetitionCountDecimalEmpty | repetitionCountUnclosed
  | repetitionMissing
  | specialWordBoundaryUnclosed | specialWordBoundaryUnrecognized
  | specialWordOrRepetitionUnexpectedEnd
  | unicodeClassInvalid
  | unsupportedBackreference | unsupportedLookAround
  | unicodeNotAllowed | invalidUtf8
  | propertyNotFound | propertyValueNotFound
deriving DecidableEq

/-- The words for a reason. -/
def FaultKind.message : FaultKind → String
  | classEscapeInvalid => "invalid escape sequence found in character class"
  | classRangeInvalid => "invalid character class range, the start must be <= the end"
  | classRangeLiteral => "invalid range boundary, must be a literal"
  | classUnclosed => "unclosed character class"
  | decimalInvalid => "decimal literal invalid"
  | escapeHexEmpty => "hexadecimal literal empty"
  | escapeHexInvalid => "hexadecimal literal is not a Unicode scalar value"
  | escapeHexInvalidDigit => "invalid hexadecimal digit"
  | escapeUnexpectedEnd => "incomplete escape sequence, reached end of pattern prematurely"
  | escapeUnrecognized => "unrecognized escape sequence"
  | flagDanglingNegation => "dangling flag negation operator"
  | flagDuplicate => "duplicate flag"
  | flagRepeatedNegation => "flag negation operator repeated"
  | flagUnexpectedEnd => "expected flag but got end of regex"
  | flagUnrecognized => "unrecognized flag"
  | groupNameDuplicate => "duplicate capture group name"
  | groupNameEmpty => "empty capture group name"
  | groupNameInvalid => "invalid capture group character"
  | groupNameUnexpectedEnd => "unclosed capture group name"
  | groupUnclosed => "unclosed group"
  | groupUnopened => "unopened group"
  | nestLimitExceeded limit =>
    "exceed the maximum number of nested parentheses/brackets (" ++ toString limit ++ ")"
  | repetitionCountInvalid => "invalid repetition count range, the start must be <= the end"
  | repetitionCountDecimalEmpty => "repetition quantifier expects a valid decimal"
  | repetitionCountUnclosed => "unclosed counted repetition"
  | repetitionMissing => "repetition operator missing expression"
  | specialWordBoundaryUnclosed =>
    "special word boundary assertion is either unclosed or contains an invalid character"
  | specialWordBoundaryUnrecognized =>
    "unrecognized special word boundary assertion, "
      ++ "valid choices are: start, end, start-half or end-half"
  | specialWordOrRepetitionUnexpectedEnd =>
    "found either the beginning of a special word boundary or a bounded repetition on a \\b "
      ++ "with an opening brace, but no closing brace"
  | unicodeClassInvalid => "invalid Unicode character class"
  | unsupportedBackreference => "backreferences are not supported"
  | unsupportedLookAround =>
    "look-around, including look-ahead and look-behind, is not supported"
  | unicodeNotAllowed => "Unicode not allowed here"
  | invalidUtf8 => "pattern can match invalid UTF-8"
  | propertyNotFound => "Unicode property not found"
  | propertyValueNotFound => "Unicode property value not found"

/-- A reason and the place where it lies, and the earlier place of what is repeated there. -/
structure Fault where
  kind : FaultKind
  span : Span
  earlier : Option Span := none
deriving DecidableEq

/-- A place in a text of several lines, both counted from one. -/
structure LinePosition where
  line : Nat
  column : Nat

/-- The line and the column of a place in a text. -/
def LinePosition.of (text : List Char) (offset : Nat) : LinePosition :=
  (text.take offset).foldl
    (fun p c => if c = '\n' then ⟨p.line + 1, 1⟩ else ⟨p.line, p.column + 1⟩) ⟨1, 1⟩

namespace Fault

/-- The places of a fault in the order of the text. -/
def places (f : Fault) : List Span :=
  match f.earlier with
  | none => [f.span]
  | some s =>
    if s.start < f.span.start ∨ s.start = f.span.start ∧ s.stop ≤ f.span.stop then [s, f.span]
    else [f.span, s]

/-- Carets under the columns of places, each a first column and one past the last; an empty
place gets one caret. The marks written so far reach up to column `column`. -/
def carets : Nat → List (Nat × Nat) → String
  | _, [] => ""
  | column, (start, stop) :: rest =>
    let width := max 1 (stop - start)
    String.ofList (List.replicate (start - column) ' ' ++ List.replicate width '^')
      ++ carets (max column start + width) rest

/-- A number, with blanks in front of it up to the given width. -/
def padNumber (width n : Nat) : String :=
  let digits := toString n
  String.ofList (List.replicate (width - digits.length) ' ') ++ digits

/-- The pattern, line by line; under a line the places that lie in it are marked. -/
def excerpt (pattern : List Char) (places : List Span) : String :=
  let lines := Text.lines '\n' '\r' pattern
  let count := lines.length + if pattern.getLast? = some '\n' then 1 else 0
  let width := if count ≤ 1 then 0 else (toString count).length
  let marked := places.map fun s =>
    (LinePosition.of pattern s.start, LinePosition.of pattern s.stop)
  let showLine := fun (entry : List Char × Nat) =>
    let number := entry.2 + 1
    let lead := if width = 0 then "    " else padNumber width number ++ ": "
    let here := marked.filter fun m => m.1.line = number ∧ m.2.line = number
    let marks := if here.isEmpty then "" else
      String.ofList (List.replicate lead.length ' ')
        ++ carets 1 (here.map fun m => (m.1.column, m.2.column)) ++ "\n"
    lead ++ String.ofList entry.1 ++ "\n" ++ marks
  String.join (lines.zipIdx.map showLine)

/-- Where a place that spans lines starts and ends. -/
def lineNote (pattern : List Char) (s : Span) : Option String :=
  let start := LinePosition.of pattern s.start
  let stop := LinePosition.of pattern s.stop
  if start.line = stop.line then none
  else some ("on line " ++ toString start.line ++ " (column " ++ toString start.column
    ++ ") through line " ++ toString stop.line ++ " (column " ++
    toString (stop.column - 1) ++ ")\n")

/-- What is shown: the pattern with its places marked, and the reason. A pattern of several
lines stands between two rules. -/
def report (pattern : List Char) (f : Fault) : String :=
  let rule :=
    if pattern.contains '\n' then String.ofList (List.replicate 79 '~') ++ "\n" else ""
  let notes :=
    if pattern.contains '\n' then String.join (f.places.filterMap (lineNote pattern)) else ""
  "regex parse error:\n" ++ rule ++ excerpt pattern f.places ++ rule ++ notes
    ++ "error: " ++ f.kind.message

end Fault

end PatternAssembly
