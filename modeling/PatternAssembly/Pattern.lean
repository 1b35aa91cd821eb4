import PatternAssembly.Engine

/-!
# Patterns under assembly

A pattern is assembled from steps that each append a fragment. The texts that a caller
supplies are inserted as they are, and nothing is checked before the pattern is used. Steps
may open a group of options, begin the next option and close the group; how many groups are
open is counted.

## Main definitions

* `Step`: what may be appended, with `Step.fragment`
* `Pattern`: the text so far, the number of open groups and the engine
* `Pattern.add`: a pattern with one more step
-/
namespace PatternAssembly

/-- How often a part of a pattern is repeated. -/
inductive Quantity where
  | anyAmount
  | oneOrMore
  | atMostOne
  | exactly (n : Nat)
  | between (lo : Nat) (hi : Option Nat)
deriving DecidableEq

/-- The sign of a quantity. -/
def Quantity.sign : Quantity → String
  | anyAmount => "*"
  | oneOrMore => "+"
  | atMostOne => "?"
  | exactly n => "\x7b" ++ toString n ++ "\x7d"
  | between lo hi => "\x7b" ++ toString lo ++ "," ++ (hi.map toString).getD "" ++ "\x7d"

/-- How a text lies at a word: it is the whole word, starts a longer one, ends a longer one,
or lies strictly inside of one. -/
inductive WordPosition where
  | whole | start | stop | inside
deriving DecidableEq

/-- The signs for the two ends of a text. -/
def WordPosition.signs : WordPosition → String × String
  | whole => ("\\b", "\\b")
  | start => ("\\b", "\\B")
  | stop => ("\\B", "\\b")
  | inside => ("\\B", "\\B")

/-- Fragments without arguments. -/
inductive Shape where
  | digit | nonDigit | wordCharacter | nonWordCharacter | space | nonSpace | any | letter
  | lowercaseLetter | uppercaseLetter | integer | decimal | fraction | hexColor
deriving DecidableEq

/-- The text of a fragment without arguments. -/
def Shape.fragment : Shape → String
  | digit => "\\d"
  | nonDigit => "\\D"
  | wordCharacter => "\\w"
  | nonWordCharacter => "\\W"
  | space => "\\s"
  | nonSpace => "\\S"
  | any => "."
  | letter => "[a-zA-Z]"
  | lowercaseLetter => "[a-z]"
  | uppercaseLetter => "[A-Z]"
  | integer => "^(-?\\d+)$"
  | decimal => "^(-?\\d*)[.,](\\d+)$"
  | fraction => "^(-?\\d+)[/](-?\\d+)$"
  | hexColor => "\\B#([a-fA-F0-9]\x7b6\x7d|[a-fA-F0-9]\x7b3\x7d)\\b"

/-- What may be appended to a pattern. A quantity without a sequence is one of the unit before
it; a group of options comes all at once (`oneOf`), or is opened, divided and closed by steps.
-/
inductive Step where
  | append (fragment : String)
  | startsWith (start : Option String)
  | endsWith (stop : Option String)
  | equalsTo (value : String)
  | repeated (q : Quantity) (sequence : Option String)
  | oneOf (values : List String)
  | characterOf (chars : String)
  | characterExcept (chars : String)
  | word (position : WordPosition) (value : String)
  | shape (s : Shape)
  | literal (value : String)
  | openOptions (first : Option String)
  | nextOption (option : Option String)
  | closeOptions
deriving DecidableEq

namespace Step

/-- The same as `append`, where it reads better. -/
abbrev contains (value : String) : Step := append value

/-- Any number of times. -/
abbrev canHaveAnyAmount (sequence : Option String) : Step := repeated .anyAmount sequence

/-- The same as `canHaveAnyAmount`. -/
abbrev canHave (sequence : Option String) : Step := repeated .anyAmount sequence

/-- A fixed number of times. -/
abbrev ofAmount (n : Nat) (sequence : Option String) : Step := repeated (.exactly n) sequence

/-- The same as `ofAmount`. -/
abbrev hasAmount (n : Nat) (sequence : Option String) : Step := repeated (.exactly n) sequence

/-- A number of times between two bounds. -/
abbrev ofAmountInRange (lo : Nat) (hi : Option Nat) (sequence : Option String) : Step :=
  repeated (.between lo hi) sequence

/-- The same as `ofAmountInRange`. -/
abbrev hasAmountInRange (lo : Nat) (hi : Option Nat) (sequence : Option String) : Step :=
  repeated (.between lo hi) sequence

/-- A sequence in parentheses; an empty one is none. -/
def group (sequence : Option String) : String :=
  match sequence with
  | none => ""
  | some s => if s.isEmpty then "" else "(" ++ s ++ ")"

/-- The text that a step appends, by the engine in force. -/
def fragment (e : Engine) : Step → String
  | append s => s
  | startsWith start => "^" ++ start.getD ""
  | endsWith stop => stop.getD "" ++ "$"
  | equalsTo value => "^" ++ value ++ "$"
  | repeated q sequence => group sequence ++ q.sign
  | oneOf values => "(" ++ String.intercalate "|" values ++ ")"
  | characterOf chars => "[" ++ chars ++ "]"
  | characterExcept chars => "[^" ++ chars ++ "]"
  | word position value => position.signs.1 ++ value ++ position.signs.2
  | shape s => s.fragment
  | literal value => e.escape value
  | openOptions first => "(" ++ first.getD ""
  | nextOption option => "|" ++ option.getD ""
  | closeOptions => ")"

/-- The number of open groups after a step; closing none leaves none. -/
def openAfter (n : Nat) : Step → Nat
  | openOptions _ => n + 1
  | closeOptions => n - 1
  | _ => n

/-- What the log says of a step on a pattern with `n` open groups. -/
def warning (text : String) (n : Nat) : Step → Option LogRecord
  | nextOption _ => if n = 0 then some (.optionOutside text) else none
  | closeOptions => if n = 0 then some (.closeOutside text) else none
  | _ => none

end Step

/-- A pattern under assembly: its text so far, how many groups of options are open, and the
engine that compiles it. -/
structure Pattern where
  text : String := ""
  openOptions : Nat := 0
  engine : Engine := .regular
deriving DecidableEq

namespace Pattern

/-- A pattern that starts with a text. -/
def create (start : Option String) : Pattern := { text := start.getD "" }

/-- Inside a group of options. -/
def isEnteringOptions (p : Pattern) : Bool := 0 < p.openOptions

/-- The pattern with another engine. -/
def withEngine (p : Pattern) (e : Engine) : Pattern := { p with engine := e }

/-- The pattern after a step. -/
def after (p : Pattern) (s : Step) : Pattern :=
  { p with text := p.text ++ s.fragment p.engine, openOptions := s.openAfter p.openOptions }

/-- The pattern after a step, with what the log says of it. -/
def add (p : Pattern) (s : Step) : Traced Pattern :=
  { value := p.after s, events := (s.warning p.text p.openOptions).toList.map .log }

/-- How a pattern is shown to its author; only the regular engine has a name to show. -/
def shown (p : Pattern) : Option String :=
  match p.engine with
  | .recording => none
  | .regular =>
    some ("PatternBuilder \x7b text: " ++ Text.quote p.text ++ ", open_options: "
      ++ toString p.openOptions ++ ", engine: RegexEngine \x7d")

end Pattern

end PatternAssembly
