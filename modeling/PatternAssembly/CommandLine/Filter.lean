import PatternAssembly.CommandLine.Arguments

/-!
# Filtering lines

The pattern is compiled once and then used for every line: to count its matches, and to
replace them if that is asked for.

## Main definitions

* `Filter`, with `Filter.ofArguments`
* `Filter.line`: the number of matches in a line, and what is printed for it
* `Outcome`, with `Arguments.run`: a whole run
-/
namespace PatternAssembly.CommandLine

/-- What is used for every line: one matcher counts, and one may replace its matches by a
template. -/
structure Filter where
  counter : Matcher
  replacer : Option (Matcher × String)
  printsMatching : Bool

namespace Filter

/-- The filter that the arguments describe. -/
def ofArguments (a : Arguments) : Except PatternError Filter := do
  let flags := a.options.toFlags
  let counter ← Matcher.compile a.pattern.text (flags.withGlobal true)
  let replacer ← match a.replace with
    | none => pure none
    | some template => do
      let m ← Matcher.compile a.pattern.text (flags.withGlobal a.all)
      pure (some (m, template))
  pure { counter, replacer, printsMatching := !a.count }

/-- The number of matches in a line, and what is printed for it. -/
def line (f : Filter) (text : String) : Nat × Option String :=
  let count := (f.counter.matchedTexts text).length
  match f.replacer with
  | some (m, template) => (count, some (m.replace text template))
  | none => (count, if 0 < count ∧ f.printsMatching then some text else none)

end Filter

/-- What a run leaves behind. The exit code is 0 if something matched, 1 if nothing did, 2 if
the run failed. -/
structure Outcome where
  exitCode : Nat
  stdout : String := ""
  stderr : String := ""
deriving DecidableEq

/-- The lines of an input, without their ends, up to the first one that is no text; and
whether all lines are texts. -/
def inputLines (input : List UInt8) : List String × Bool :=
  let decoded := (Text.lines 0x0A 0x0D input).map fun bytes =>
    String.fromUTF8? ⟨bytes.toArray⟩
  ((decoded.takeWhile Option.isSome).filterMap id, decoded.all Option.isSome)

/-- What is printed for a line, with a line end. -/
def printed (output : Option String) : String := (output.map (· ++ "\n")).getD ""

/-- The words for an input that is no text. -/
def unreadableInput : String := "Error reading input: stream did not contain valid UTF-8\n"

/-- A run of a filter over an input. -/
def Filter.run (f : Filter) (input : List UInt8) : Outcome :=
  let (texts, isText) := inputLines input
  let results := texts.map f.line
  let output := String.join (results.map fun r => printed r.2)
  if isText then
    let total := results.foldl (fun n r => n + r.1) 0
    { exitCode := if 0 < total then 0 else 1
      stdout := if f.printsMatching then output else output ++ toString total ++ "\n" }
  else { exitCode := 2, stdout := output, stderr := unreadableInput }

/-- A run with the given arguments over an input. -/
def Arguments.run (a : Arguments) (input : List UInt8) : Outcome :=
  if a.printPattern then { exitCode := 0, stdout := a.pattern.text ++ "\n" }
  else match Filter.ofArguments a with
    | .error e => { exitCode := 2, stderr := e.message ++ "\n" }
    | .ok f => f.run input

end PatternAssembly.CommandLine
