import PatternAssembly.Proofs.CommandLine.Failures
import PatternAssembly.Proofs.CommandLine.LineByLine
import PatternAssembly.Proofs.CommandLine.Order

/-!
# Options for the ends of lines

A line may have to start with a text, to end with it, or to be it. The lines of an input end
at newlines, and one carriage return before a newline belongs to the line end; but the anchors
of the pattern also take a carriage return alone for a line end. So the options speak about
the segments of a line. If there is no carriage return in a line it is a segment as a whole,
and they speak about the line; and else the line `"bob\rx"` counts for the text `"bob"`.

## Main definitions

* `Anchoring.commandLine`: a single option for the ends of lines

## Main statements

* `anchors_hold_in_segments`: what an option counts in a line
-/
namespace PatternAssembly.CommandLine

open Text

/-- No line of an input has a newline. -/
theorem not_mem_of_mem_inputLines {input : List UInt8} {line : String}
    (h : line ∈ (inputLines input).1) : '\n' ∉ line.toList := by
  by_cases htext : IsText input
  · obtain ⟨text, rfl⟩ := exists_toUTF8_of_isText htext
    rw [inputLines_toUTF8] at h
    exact not_mem_of_mem_textLines h
  · obtain ⟨before, fault, rest, hcut⟩ := exists_cutAtFault htext
    rw [inputLines_of_cutAtFault hcut] at h
    exact not_mem_of_mem_textLines h

end CommandLine

open CommandLine

namespace Anchoring

/-- The long name of the option. -/
def longName : Anchoring → String
  | start => "starts-with"
  | stop => "ends-with"
  | whole => "equals"

/-- The option, and an escaped text as its value. -/
def commandLine (a : Anchoring) (v : String) : List String :=
  ["--" ++ a.longName, escapeLiteral v]

/-- The option is read. -/
theorem read_commandLine (a : Anchoring) (v : String) :
    Arguments.read (a.commandLine v) = .ok (a.arguments v) := by
  have hhead : (escapeLiteral v).toList.head? ≠ some '-' := by
    rw [escapeLiteral, String.toList_ofList]
    cases v.toList with
    | nil => simp
    | cons c cs =>
      by_cases hc : isMeta c = true
      · simp [hc]
      · have hne : c ≠ '-' := by
          rintro rfl
          exact hc (by decide)
        simp [hc, hne]
  have hread (o : ValueOption) (hname : longNames.lookup a.longName = some (.value o)) :=
    read_of_written (.append (.separate hname hhead) .nil)
  cases a with
  | start => exact hread .startsWith (by decide)
  | stop => exact hread .endsWith (by decide)
  | whole => exact hread .equals (by decide)

/-- The option counts the segments of a line. -/
theorem line_fst {a : Anchoring} {v : String} {f : Filter}
    (hf : Filter.ofArguments (a.arguments v) = .ok f)
    (hfree : ∀ c ∈ v.toList, c ≠ '\r' ∧ c ≠ '\n') (line : String) :
    (f.line line).1 = (Text.segments line.toList).countP (a.Holds v.toList) := by
  have hoptions : (a.arguments v).options = {} := by cases a <;> rfl
  rw [Filter.ofArguments_eq, pattern_arguments, hoptions] at hf
  cases hm : Matcher.compile (Pattern.ofSteps [a.step v]).text
    ({} : SearchOptions).toFlags with
  | error e =>
    rw [hm] at hf
    cases hf
  | ok m =>
    rw [hm] at hf
    obtain rfl := Except.ok.inj hf
    have hcount := result_countIn_of_compile (a := a.arguments v)
      (by rwa [pattern_arguments, hoptions])
      line
    rw [pattern_arguments, hoptions,
      anchored_literals_count_segments a v line {} rfl fun _ => hfree, hm] at hcount
    rw [Filter.line_fst]
    exact (Except.ok.inj hcount).symm

end Anchoring

/-- **The options for the ends of lines speak about segments.** A single option with an
escaped text as its value counts the segments of a line that start with the text, end with it
or are equal to it. In a line without a carriage return it finds something if the line does
so. -/
theorem anchors_hold_in_segments (a : Anchoring) (v : String)
    (hfree : ∀ c ∈ v.toList, c ≠ '\r' ∧ c ≠ '\n') (f : Filter)
    (hf : Filter.ofArguments (a.arguments v) = .ok f) :
    Arguments.read (a.commandLine v) = .ok (a.arguments v) ∧
    ∀ input, ∀ line ∈ (inputLines input).1,
      (f.line line).1 = (Text.segments line.toList).countP (a.Holds v.toList) ∧
      ('\r' ∉ line.toList → (0 < (f.line line).1 ↔ a.Holds v.toList line.toList)) := by
  refine ⟨a.read_commandLine v, fun input line hline => ?_⟩
  have hcount := Anchoring.line_fst hf hfree line
  refine ⟨hcount, fun hreturn => ?_⟩
  have hbreaks : ∀ c ∈ line.toList, isBreak c = false := by
    intro c hc
    have hnewline := not_mem_of_mem_inputLines hline
    have hc' : c ≠ '\n' ∧ c ≠ '\r' := ⟨fun h => hnewline (h ▸ hc), fun h => hreturn (h ▸ hc)⟩
    simp [isBreak, hc'.1, hc'.2]
  rw [hcount, Text.segments_of_free hbreaks, List.countP_singleton]
  by_cases h : a.Holds v.toList line.toList <;> simp [h]

theorem anchors_hold_in_segments_whole :
    (∀ c ∈ "bob".toList, c ≠ '\r' ∧ c ≠ '\n') ∧
    ∃ f, Filter.ofArguments (Anchoring.whole.arguments "bob") = .ok f ∧
      "bob" ∈ (inputLines "bob\nbob\rx\n".toUTF8.toList).1 ∧ 0 < (f.line "bob").1 := by
  have hfree : ∀ c ∈ "bob".toList, c ≠ '\r' ∧ c ≠ '\n' := by simp
  obtain ⟨f, hf⟩ : ∃ f, Filter.ofArguments (Anchoring.whole.arguments "bob") = .ok f :=
    ⟨_, rfl⟩
  have hline : "bob" ∈ (inputLines "bob\nbob\rx\n".toUTF8.toList).1 := by
    rw [inputLines_toUTF8]
    decide
  obtain ⟨-, hall⟩ := anchors_hold_in_segments .whole "bob" hfree f hf
  exact ⟨hfree, f, hf, hline, ((hall _ _ hline).2 (by decide)).2 (by decide)⟩

/-- A carriage return alone ends no line of the input, but the anchors hold there. -/
theorem counted_line_is_longer :
    ∃ f, Filter.ofArguments (Anchoring.whole.arguments "bob") = .ok f ∧
      ∃ line ∈ (inputLines "bob\rx\n".toUTF8.toList).1,
        0 < (f.line line).1 ∧ line ≠ "bob" := by
  obtain ⟨f, hf⟩ : ∃ f, Filter.ofArguments (Anchoring.whole.arguments "bob") = .ok f :=
    ⟨_, rfl⟩
  refine ⟨f, hf, "bob\rx", ?_, ?_, by decide⟩
  · rw [inputLines_toUTF8]
    decide
  · rw [Anchoring.line_fst hf (by simp)]
    decide

end PatternAssembly
