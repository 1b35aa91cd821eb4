import PatternAssembly.Proofs.CommandLine.Runs
import PatternAssembly.Proofs.Text.Validity

/-!
# Failing runs

A run fails for one of two reasons. The pattern is refused, which is told before anything is
read. Or a line of the input is no text, which is told when the line is met: what was printed
for the lines before it stays, nothing more is printed, and the number of matches so far is
forgotten.

## Main statements

* `inputLines_of_cutAtFault`: the lines that are looked at before the first one that is no
  text
* `failing_runs`: what each failing run leaves behind
-/
namespace PatternAssembly.CommandLine

variable {input fault rest : List UInt8} {before : String}

/-- The lines before the fault are those of the text before it. -/
theorem inputLines_of_cutAtFault (h : Text.CutAtFault input before fault rest) :
    inputLines input = (textLines before, false) := by
  obtain ⟨line, others, hlines, hline⟩ := h.lines_eq
  have hbefore := inputLines_toUTF8 before
  simp only [inputLines, Prod.mk.injEq, List.all_eq_true] at hbefore
  obtain ⟨htexts, hall⟩ := hbefore
  rw [List.takeWhile_eq_self_iff.2 hall] at htexts
  rw [inputLines, hlines, List.map_append, List.map_cons, Text.fromUTF8?_eq_none_iff.2 hline]
  simp only [List.takeWhile_append_of_pos hall, List.takeWhile_cons, Option.isSome_none,
    Bool.false_eq_true, if_false, List.append_nil, htexts, List.all_append, List.all_cons,
    Bool.false_and, Bool.and_false]

/-- **Failing runs.** If the pattern is refused, nothing is printed but the reason, whatever
the input is. Else, an input that is no text has a first line that is none; what is printed
for the lines before it stays, the failure is told, and neither the matches so far nor what
follows that line matter. -/
theorem failing_runs (a : Arguments) (hprint : a.printPattern = false) :
    (∀ e, Matcher.compile a.pattern.text a.options.toFlags = .error e →
      (∃ reason, e = .invalidPattern a.pattern.text reason) ∧
        ∀ input, a.run input = { exitCode := 2, stdout := "", stderr := e.message ++ "\n" }) ∧
    (∀ m, Matcher.compile a.pattern.text a.options.toFlags = .ok m →
      ∃ f, Filter.ofArguments a = .ok f ∧
        (∀ input, ¬ Text.IsText input →
          ∃ before fault rest, Text.CutAtFault input before fault rest) ∧
        ∀ input before fault rest, Text.CutAtFault input before fault rest →
          a.run input =
            { exitCode := 2
              stdout :=
                String.join ((textLines before).map fun line => printed (f.line line).2)
              stderr := unreadableInput }) := by
  refine ⟨fun e he => ⟨Matcher.pattern_of_compile_error he, fun input => ?_⟩, fun m hm => ?_⟩
  · rw [Arguments.run, hprint, Filter.ofArguments_eq, he]
    rfl
  · refine ⟨Filter.ofMatcher a m, by rw [Filter.ofArguments_eq, hm]; rfl,
      fun input => Text.exists_cutAtFault, fun input before fault rest h => ?_⟩
    rw [Arguments.run, hprint, Filter.ofArguments_eq, hm]
    show (Filter.ofMatcher a m).run input = _
    rw [Filter.run, inputLines_of_cutAtFault h]
    simp only [List.map_map, Function.comp_def, Bool.false_eq_true, if_false]

/-- A group that is left open, and a line that is no text behind one with a match. -/
theorem failing_runs_group_and_line :
    let refused : Arguments := { extendedRegexp := some "(" }
    let searching : Arguments := { extendedRegexp := some "b" }
    refused.printPattern = false ∧ searching.printPattern = false ∧
      refused.run [0x61, 0x0A] =
        { exitCode := 2
          stderr := invalidPatternText "("
            "regex parse error:\n    (\n    ^\nerror: unclosed group" ++ "\n" } ∧
      Text.CutAtFault [0x61, 0x62, 0x0D, 0x0A, 0x62, 0xFF, 0x0A, 0x62] "ab\r\n"
        [0x62, 0xFF, 0x0A] [0x62] ∧
      searching.run [0x61, 0x62, 0x0D, 0x0A, 0x62, 0xFF, 0x0A, 0x62] =
        { exitCode := 2, stdout := "ab\n", stderr := unreadableInput } := by
  have hrefused := (failing_runs { extendedRegexp := some "(" } rfl).1 (.invalidPattern "("
      (.fault { kind := .groupUnclosed, span := { start := 0, stop := 1 } })) rfl
  have hfault : ¬ Text.IsText [0x62, 0xFF, 0x0A] := by
    show ¬ ByteArray.IsValidUTF8 _
    decide +kernel
  have hcut : Text.CutAtFault [0x61, 0x62, 0x0D, 0x0A, 0x62, 0xFF, 0x0A, 0x62] "ab\r\n"
      [0x62, 0xFF, 0x0A] [0x62] :=
    ⟨by decide +kernel, .inr (by rfl), ⟨[0x62, 0xFF], by decide, .inl rfl⟩, hfault⟩
  obtain ⟨f, hf, -, hrun⟩ := (failing_runs { extendedRegexp := some "b" } rfl).2 _ rfl
  obtain rfl := Except.ok.inj hf
  refine ⟨rfl, rfl, hrefused.2 _, hcut, (hrun _ _ _ _ hcut).trans ?_⟩
  rfl

end PatternAssembly.CommandLine
