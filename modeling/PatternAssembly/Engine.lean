import PatternAssembly.Journal

/-!
# Engines

A pattern under assembly is only text; an engine compiles it and searches with it. The regular
engine does so. The recording engine notes what it is asked to compile and never matches
anything, which shows what is searched for without searching.

## Main definitions

* `Engine`, with `Engine.escape` and `Engine.compile`
* `CompiledPattern`: what an engine compiles a pattern to, with its searches
-/
namespace PatternAssembly

/-- The engines. The regular one compiles and searches; the recording one notes what it is
asked to compile, and never matches. -/
inductive Engine where
  | regular | recording
deriving DecidableEq

/-- A pattern that an engine compiled; the recording engine keeps nothing of it. -/
inductive CompiledPattern where
  | regular (m : Matcher)
  | recorded

/-- A run that may be refused. -/
abbrev Run (α : Type) := ExceptT PatternError Traced α

namespace Run

variable {α : Type}

/-- The result of a run, or why it was refused. -/
def result (x : Run α) : Except PatternError α := Traced.value x.run

/-- The log of a run. -/
def records (x : Run α) : List LogRecord := Traced.records x.run

/-- What the recording engine noted in a run. -/
def compilations (x : Run α) : List (String × Flags) := Traced.compilations x.run

/-- One record in the log. -/
def log (r : LogRecord) : Run Unit := ExceptT.lift (Traced.note (.log r))

end Run

namespace Engine

/-- The pattern that stands for a text as it is. -/
def escape : Engine → String → String
  | regular, text => escapeLiteral text
  | recording, text => "<" ++ text ++ ">"

/-- The pattern compiled for the given flags. -/
def compile (e : Engine) (pattern : String) (flags : Flags) : Run CompiledPattern :=
  match e with
  | regular => do
    Run.log (.compile pattern flags)
    let m ← (Matcher.compile pattern flags : Except PatternError Matcher)
    pure (.regular m)
  | recording => do
    ExceptT.lift (Traced.note (.compiled pattern flags))
    pure .recorded

end Engine

namespace CompiledPattern

/-- Some part of the text matches. -/
def test : CompiledPattern → String → Bool
  | regular m, text => m.test text
  | recorded, _ => false

/-- The texts of the matches that count, if there are any. -/
def matchAll : CompiledPattern → String → Run (Option (List String))
  | regular m, text => do
    let found := m.matchedTexts text
    Run.log (.matchAll text m.pattern found)
    pure (if found.isEmpty then none else some found)
  | recorded, _ => pure none

/-- The text with the matches that count replaced. -/
def replace : CompiledPattern → String → String → String
  | regular m, text, template => m.replace text template
  | recorded, text, _ => text

end CompiledPattern

end PatternAssembly
