import PatternAssembly.Proofs.CommandLine.Accepted
import PatternAssembly.Proofs.CommandLine.Runs

/-!
# Runs over one text after the other

A run carries nothing from one line to the next but the number of matches so far. So where a
text ends with a line, a run over it and another text behind it is composed of the runs over
each of them: what is printed stands one after the other, or is the sum of two numbers, and
something matched if something matched in either text.

## Main definitions

* `Arguments.Composes`: the runs over two texts make up the run over both

## Main statements

* `textLines_append`, `Matcher.total_append`: the lines of two texts, and the matches in them
* `runs_compose`: the runs of every accepted command line compose
-/
namespace PatternAssembly

theorem Matcher.total_append (m : Matcher) (texts more : List String) :
    m.total (texts ++ more) = m.total texts + m.total more := by
  simp only [total, List.map_append, List.sum_append]

namespace CommandLine

/-- Behind a text that ends with a line, the lines of another text begin anew. -/
theorem textLines_append {first : String} (h : Text.Ended '\n' first.toList)
    (second : String) :
    textLines (first ++ second) = textLines first ++ textLines second := by
  simp only [textLines, String.toList_append, Text.lines_append_of_ended h, List.map_append]

/-- The runs over two texts make up the run over one text behind the other: the lines that are
printed, or the numbers that are added, and the exit code, which says whether anything
matched. -/
def Arguments.Composes (a : Arguments) (first second : String) : Prop :=
  let one := a.run first.toUTF8.toList
  let other := a.run second.toUTF8.toList
  let both := a.run (first ++ second).toUTF8.toList
  (a.count = false → both.stdout = one.stdout ++ other.stdout) ∧
  (a.count = true → ∃ k n : Nat, one.stdout = toString k ++ "\n" ∧
    other.stdout = toString n ++ "\n" ∧ both.stdout = toString (k + n) ++ "\n") ∧
  both.exitCode = if one.exitCode = 0 ∨ other.exitCode = 0 then 0 else 1

/-- **Runs compose.** Whatever an accepted command line asks for, other than the pattern
itself, its run over two texts is made up of the runs over each of them, if the first text
ends with a line. -/
theorem runs_compose (arguments : List String) (a : Arguments)
    (hread : Arguments.read arguments = .ok a) (hprint : a.printPattern = false) (m : Matcher)
    (hm : Matcher.compile a.pattern.text a.options.toFlags = .ok m) (first second : String)
    (hfirst : Text.Ended '\n' first.toList) : a.Composes first second := by
  have htotal : m.total (textLines (first ++ second)) =
      m.total (textLines first) + m.total (textLines second) := by
    rw [textLines_append hfirst, m.total_append]
  refine ⟨fun hcount => ?_, fun hcount => ?_, ?_⟩
  · simp only [run_toUTF8 hm hprint, textLines_append hfirst, List.map_append,
      String.join_append, hcount, Bool.false_eq_true, if_false, String.append_empty]
  · obtain ⟨-, -, -, -, -, hreplace, -⟩ := Arguments.read_eq_ok_iff.1 hread
    have hrun := run_of_count hm hcount (hreplace hcount) hprint
    refine ⟨m.total (textLines first), m.total (textLines second), ?_, ?_, ?_⟩
    · rw [hrun first]
    · rw [hrun second]
    · rw [hrun (first ++ second), htotal]
  · have hcode (n : Nat) : (if 0 < n then 0 else 1) = 0 ↔ 0 < n := by
      split <;> simp [*]
    simp only [run_toUTF8 hm hprint, htotal, hcode, Nat.add_pos_iff_pos_or_pos]

/-- A carriage return at the end of a line, an empty line, two matches in one line, and a last
line without a newline. -/
theorem runs_compose_numbers :
    let a : Arguments := { extendedRegexp := some "b", count := true }
    Arguments.read ["-c", "-E", "b"] = .ok a ∧ a.printPattern = false ∧
      Matcher.compile a.pattern.text a.options.toFlags = .ok
        { pattern := "b", global := true, names := [],
          program := #[.take (.single 'b'), .accept] } ∧
      Text.Ended '\n' "bab\r\n\n".toList ∧ a.Composes "bab\r\n\n" "c\nb" := by
  have hread : Arguments.read ["-c", "-E", "b"] =
    .ok { extendedRegexp := some "b", count := true } := rfl
  have hended : Text.Ended '\n' "bab\r\n\n".toList := .inr (by rfl)
  exact ⟨hread, rfl, rfl, hended, runs_compose _ _ hread rfl _ rfl _ _ hended⟩

end CommandLine

end PatternAssembly
