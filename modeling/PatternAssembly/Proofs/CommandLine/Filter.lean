import PatternAssembly.CommandLine.Filter
import PatternAssembly.Proofs.Pattern.Chains
import PatternAssembly.Proofs.Pattern.Replacements

/-!
# Filters and searches

A filter compiles its pattern once for each use it makes of it, and a search compiles the
pattern anew. Both are told by the same options how to search, so a filter is refused where a
search is, and says of each line what the searches say of it.

## Main definitions

* `Filter.ofMatcher`: the filter that is made of a compiled pattern
* `Arguments.search`: what the searches of the pattern say of a line

## Main statements

* `Filter.ofArguments_eq`: one compiled pattern is behind a filter
* `filter_agrees_with_searches`: the lines of a filter, and those of the searches
-/
namespace PatternAssembly.CommandLine

@[simp] theorem Arguments.engine_pattern (a : Arguments) : a.pattern.engine = .regular := by
  rw [pattern, Pattern.engine_foldl_after]
  rfl

/-! ## The filter -/

namespace Filter

/-- The filter that the arguments describe, made of one compiled pattern. -/
def ofMatcher (a : Arguments) (m : Matcher) : Filter :=
  { counter := { m with global := true }
    replacer := a.replace.map fun template => ({ m with global := a.all }, template)
    printsMatching := !a.count }

/-- One compiled pattern is behind a filter, which counts all matches and replaces as many as
it is told to. -/
theorem ofArguments_eq (a : Arguments) :
    ofArguments a = (Matcher.compile a.pattern.text a.options.toFlags).map (ofMatcher a) := by
  simp only [ofArguments, Matcher.compile_withGlobal]
  cases Matcher.compile a.pattern.text a.options.toFlags with
  | error e => rfl
  | ok m =>
    show _ = Except.ok (ofMatcher a m)
    rw [ofMatcher]
    cases a.replace <;> rfl

variable {a : Arguments} (m : Matcher) (line : String)

theorem line_of_no_replace (h : a.replace = none) :
    (ofMatcher a m).line line =
      (m.count line, if 0 < m.count line ∧ a.count = false then some line else none) := by
  cases hcount : a.count <;>
    simp [Filter.line, ofMatcher, h, hcount, Matcher.count]

theorem line_of_replace {template : String} (h : a.replace = some template) :
    (ofMatcher a m).line line =
      (m.count line, some ({ m with global := a.all }.replace line template)) := by
  simp only [Filter.line, ofMatcher, h, Option.map_some, Matcher.count]

@[simp] theorem line_fst : ((ofMatcher a m).line line).1 = m.count line := by
  cases h : a.replace with
  | none => rw [line_of_no_replace m line h]
  | some template => rw [line_of_replace m line h]

end Filter

/-! ## The searches -/

/-- What the searches of the pattern say of a line, each of which compiles the pattern anew:
the number of matches, and what is to be printed for the line. -/
def Arguments.search (a : Arguments) (line : String) :
    Except PatternError (Nat × Option String) := do
  let count ← (a.pattern.countIn line a.options).result
  match a.replace with
  | some template =>
    let replace := if a.all then Pattern.replaceAll else Pattern.replaceFirst
    let replaced ← (replace a.pattern line template a.options).result
    pure (count, some replaced)
  | none => pure (count, if 0 < count ∧ a.count = false then some line else none)

section Search

variable {a : Arguments} {m : Matcher}
  (hm : Matcher.compile a.pattern.text a.options.toFlags = .ok m)

include hm

theorem result_countIn_of_compile (line : String) :
    (a.pattern.countIn line a.options).result = .ok (m.count line) := by
  rw [Pattern.result_countIn a.engine_pattern, hm]
  rfl

theorem result_replace_of_compile (all : Bool) (line template : String) :
    ((if all then Pattern.replaceAll else Pattern.replaceFirst)
        a.pattern line template a.options).result =
      .ok ({ m with global := all }.replace line template) := by
  cases all with
  | false =>
    exact (Pattern.result_replaceFirst a.engine_pattern _ _ _).trans (by rw [hm]; rfl)
  | true => exact (Pattern.result_replaceAll a.engine_pattern _ _ _).trans (by rw [hm]; rfl)

/-- A filter says of a line what the searches say of it. -/
theorem search_of_compile (line : String) :
    a.search line = .ok ((Filter.ofMatcher a m).line line) := by
  rw [Arguments.search, result_countIn_of_compile hm]
  cases h : a.replace with
  | none =>
    rw [Filter.line_of_no_replace m line h]
    rfl
  | some template =>
    rw [Filter.line_of_replace m line h]
    simp only [result_replace_of_compile hm]
    rfl

end Search

/-- **A filter agrees with the searches.** It is refused if the searches are, for the same
reason; and else it says of every line, whatever lines it has seen before, what the searches
say of it. -/
theorem filter_agrees_with_searches (a : Arguments) :
    match Filter.ofArguments a with
    | .error e => (a.pattern.countIn "" a.options).result = .error e
    | .ok f => (∃ n, (a.pattern.countIn "" a.options).result = .ok n) ∧
        ∀ lines : List String, lines.mapM a.search = .ok (lines.map f.line) := by
  rw [Filter.ofArguments_eq]
  cases hm : Matcher.compile a.pattern.text a.options.toFlags with
  | error e =>
    show (a.pattern.countIn "" a.options).result = .error e
    rw [Pattern.result_countIn a.engine_pattern, hm]
    rfl
  | ok m =>
    refine ⟨⟨_, result_countIn_of_compile hm ""⟩, fun lines => ?_⟩
    rw [show a.search = fun line => pure ((Filter.ofMatcher a m).line line) from
      funext fun line => search_of_compile hm line]
    exact List.mapM_pure

end PatternAssembly.CommandLine
