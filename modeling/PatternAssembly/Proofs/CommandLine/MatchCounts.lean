import PatternAssembly.Proofs.CommandLine.Runs

/-!
# How many matches there can be

A text with `n` characters has `n + 1` places, and no two matches end at the same one. So a
search counts at most one match more than the text has characters, whatever the pattern and
the options are; and a run counts at most as many as there are characters in the lines and
lines.

## Main definitions

* `Arguments.AddsUp`: what a run makes of the number of matches in its lines

## Main statements

* `Matcher.count_le`, `Matcher.total_le`: the bounds for a text and for several
* `matches_bounded_by_text`: the bounds for all searches and all runs
-/
namespace PatternAssembly

namespace Matcher

variable (m : Matcher)

/-- There is at most one match more than there are characters. -/
theorem count_le (text : String) : m.count text ≤ text.length + 1 := by
  have hlength := length_matchesFrom_le m.program text.toList.toArray
    (text.toList.toArray.size + 1)
    0 none
  rw [count_eq_length_allMatches, ← String.length_toList]
  exact hlength

/-- In several texts there are at most as many matches as characters and texts. -/
theorem total_le (texts : List String) :
    m.total texts ≤ (texts.map String.length).sum + texts.length := by
  induction texts with
  | nil => exact Nat.le_refl 0
  | cons text texts ih =>
    have hcount := m.count_le text
    rw [total] at ih ⊢
    simp only [List.map_cons, List.sum_cons, List.length_cons]
    omega

end Matcher

/-- If a pattern compiles, its matches in a text can be counted, and there is at most one more
than there are characters. The recording engine finds none. -/
theorem Pattern.exists_countIn_of_compile {p : Pattern} {o : SearchOptions}
    {c : CompiledPattern} (h : (p.compile o.toFlags).result = .ok c) (t : String) :
    ∃ n, (p.countIn t o).result = .ok n ∧ n ≤ t.length + 1 := by
  cases hp : p.engine with
  | regular =>
    rw [result_compile hp] at h
    cases hm : Matcher.compile p.text o.toFlags with
    | error e => simp [hm, Except.map] at h
    | ok m => exact ⟨m.count t, by rw [result_countIn hp, hm]; rfl, m.count_le t⟩
  | recording =>
    have hcompile (flags : Flags) : (p.compile flags).result = .ok .recorded := by
      rw [Pattern.compile, hp]
      rfl
    have hcount : (p.countIn t o).result = .ok 0 := by
      rw [countIn, Run.result_bind, matchesIn, Run.result_bind, hcompile]
      rfl
    exact ⟨0, hcount, Nat.zero_le _⟩

namespace CommandLine

/-- A run over a text adds up the matches that the filter counts in the lines. There are at
most as many as characters in the lines and lines; their number makes the exit code, and is
what is printed if it is asked for. -/
def Arguments.AddsUp (a : Arguments) (f : Filter) (text : String) : Prop :=
  let lines := textLines text
  ∃ total, total = (lines.map fun line => (f.line line).1).sum ∧
    total ≤ (lines.map String.length).sum + lines.length ∧
    (a.printPattern = false →
      (a.run text.toUTF8.toList).exitCode = if 0 < total then 0 else 1) ∧
    (a.inMode .total).run text.toUTF8.toList =
      { exitCode := if 0 < total then 0 else 1, stdout := toString total ++ "\n" }

theorem addsUp_of_ofArguments {a : Arguments} {f : Filter} (h : Filter.ofArguments a = .ok f)
    (text : String) : a.AddsUp f text := by
  rw [Filter.ofArguments_eq] at h
  cases hm : Matcher.compile a.pattern.text a.options.toFlags with
  | error e => simp [hm, Except.map] at h
  | ok m =>
    rw [hm] at h
    obtain rfl := Except.ok.inj h
    have hlines : m.total (textLines text) =
        ((textLines text).map fun line => ((Filter.ofMatcher a m).line line).1).sum := by
      simp only [Matcher.total, Filter.line_fst]
    refine ⟨m.total (textLines text), hlines, m.total_le _, fun hprint => ?_,
      run_total hm text⟩
    rw [run_toUTF8 hm hprint]

end CommandLine

/-- **The text bounds the number of matches.** Matches can be counted for every pattern that
compiles, and there is at most one more than the text has characters. This is no matter of how
many are asked for: whoever asks for more of them gets the same. So what a run adds up is at
most the number of characters in the lines and of lines. -/
theorem matches_bounded_by_text :
    (∀ (p : Pattern) (o : SearchOptions) (c : CompiledPattern),
      (p.compile o.toFlags).result = .ok c →
        ∀ t : String, ∃ n, (p.countIn t o).result = .ok n ∧ n ≤ t.length + 1) ∧
    (∀ (program : Program) (text : Array Char) (bound : Nat), text.size < bound →
      matchesFrom program text bound 0 none = allMatches program text) ∧
    ∀ (a : CommandLine.Arguments) (f : CommandLine.Filter),
      CommandLine.Filter.ofArguments a = .ok f → ∀ text : String, a.AddsUp f text := by
  refine ⟨?_, ?_, ?_⟩
  · intro p o c h t
    exact Pattern.exists_countIn_of_compile h t
  · intro program text bound h
    exact matchesFrom_eq_allMatches h
  · intro a f h text
    exact CommandLine.addsUp_of_ofArguments h text

/-- The empty pattern reaches the bounds: it matches at all places of a text, and of all
lines. -/
theorem matches_bounded_by_text_empty :
    let p := Pattern.create none
    let o : SearchOptions := {}
    let a : CommandLine.Arguments := { extendedRegexp := some "" }
    let program : Program := .ofExpr .empty
    (∃ c, (p.compile o.toFlags).result = .ok c ∧
      ∃ n, (p.countIn "ab" o).result = .ok n ∧ n ≤ "ab".length + 1) ∧
    (p.countIn "ab" o).result = .ok 3 ∧
    #['a', 'b'].size < 5 ∧
    matchesFrom program #['a', 'b'] 5 0 none = allMatches program #['a', 'b'] ∧
    (∃ f, CommandLine.Filter.ofArguments a = .ok f ∧ a.AddsUp f "ab\nc\n") ∧
    ((a.inMode .total).run "ab\nc\n".toUTF8.toList).stdout = "5\n" := by
  intro p o a program
  obtain ⟨c, hc⟩ : ∃ c, (p.compile o.toFlags).result = .ok c := ⟨_, rfl⟩
  obtain ⟨f, hf⟩ : ∃ f, CommandLine.Filter.ofArguments a = .ok f := ⟨_, rfl⟩
  have hbound : #['a', 'b'].size < 5 := by decide
  refine ⟨⟨c, hc, matches_bounded_by_text.1 p o c hc "ab"⟩, rfl, hbound,
    matches_bounded_by_text.2.1 program #['a', 'b'] 5 hbound,
    ⟨f, hf, matches_bounded_by_text.2.2 a f hf "ab\nc\n"⟩, ?_⟩
  decide +kernel

end PatternAssembly
