import Mathlib.Data.List.TakeWhile
import PatternAssembly.Proofs.CommandLine.Filter
import PatternAssembly.Proofs.Text.Lines

/-!
# Runs over a text

A run looks at the lines of its input one by one. What it prints depends on the mode of
output; the number of matches in the lines does not, and the exit code is read off that
number.

## Main definitions

* `textLines`: the lines of a text
* `Matcher.total`: the number of matches in some texts
* `OutputMode`, with `Arguments.inMode`: what a run prints

## Main statements

* `Matcher.total_filter`: lines without a match add nothing to the number of matches
* `run_toUTF8`: a run over a text
* `output_modes_agree`: the runs in all modes
-/
namespace PatternAssembly

/-- The number of all matches in some texts. -/
def Matcher.total (m : Matcher) (texts : List String) : Nat := (texts.map m.count).sum

namespace Matcher

variable (m : Matcher)

/-- A text without a match is left as it is by any replacement. -/
theorem replace_of_count_eq_zero {text : String} (h : m.count text = 0)
    (all : Bool) (template : String) :
    { m with global := all }.replace text template = text := by
  rw [count_eq_length_allMatches, List.length_eq_zero_iff] at h
  have hfound : { m with global := all }.found text.toList.toArray = [] := by
    rw [found, ← head?_allMatches, h]
    cases all <;> rfl
  simp only [replace, hfound, splice, slice_zero_size]
  exact String.ofList_toList

/-- There are matches if some text has one. -/
theorem total_pos_iff {texts : List String} :
    0 < m.total texts ↔ texts.filter (0 < m.count ·) ≠ [] := by
  rw [total, List.sum_pos_iff_exists_pos_nat, Ne, List.filter_eq_nil_iff]
  simp [Nat.pos_iff_ne_zero]

/-- Texts without a match add nothing to the number of matches. -/
theorem total_filter (texts : List String) :
    m.total (texts.filter (0 < m.count ·)) = m.total texts := by
  induction texts with
  | nil => rfl
  | cons text texts ih =>
    simp only [total, List.map_cons, List.sum_cons] at ih ⊢
    by_cases h : 0 < m.count text
    · rw [List.filter_cons_of_pos (by simpa using h), List.map_cons, List.sum_cons, ih]
    · rw [List.filter_cons_of_neg (by simpa using h), ih]
      omega

/-- No more texts have matches than there are matches. -/
theorem length_filter_le_total (texts : List String) :
    (texts.filter (0 < m.count ·)).length ≤ m.total texts := by
  rw [← m.total_filter, total, ← List.length_map m.count]
  refine List.length_le_sum_of_one_le _ fun n hn => ?_
  obtain ⟨text, htext, rfl⟩ := List.mem_map.1 hn
  exact of_decide_eq_true (List.mem_filter.1 htext).2

end Matcher

namespace CommandLine

/-! ## The lines of an input -/

/-- The lines of a text, without their ends. -/
def textLines (text : String) : List String :=
  (Text.lines '\n' '\r' text.toList).map String.ofList

/-- No line has a newline, so it is one line where it is printed. -/
theorem not_mem_of_mem_textLines {text line : String} (h : line ∈ textLines text) :
    '\n' ∉ line.toList := by
  obtain ⟨chars, hchars, rfl⟩ := List.mem_map.1 h
  rw [String.toList_ofList]
  exact (Text.of_mem_lines hchars).1

/-- The lines of the bytes of a text are texts, and they are the lines of the text. -/
theorem inputLines_toUTF8 (text : String) :
    inputLines text.toUTF8.toList = (textLines text, true) := by
  rw [inputLines, Text.toList_toUTF8, Text.lines_flatMap_utf8EncodeChar, textLines]
  simp only [List.map_map, Function.comp_def, Text.fromUTF8?_flatMap_utf8EncodeChar]
  generalize Text.lines '\n' '\r' text.toList = lines
  have hall : ∀ x ∈ lines.map fun line => some (String.ofList line), x.isSome = true := by
    simp
  rw [List.takeWhile_eq_self_iff.2 hall, List.all_eq_true.2 hall, List.filterMap_map]
  simp

/-! ## Modes of output -/

/-- What a run prints: the lines with a match, the number of matches, or every line with its
first match replaced, or all of them. -/
inductive OutputMode where
  | matchingLines
  | total
  | replaced (template : String) (all : Bool)

/-- The same search in a mode of output. -/
def Arguments.inMode (a : Arguments) : OutputMode → Arguments
  | .matchingLines =>
    { a with count := false, replace := none, all := false, printPattern := false }
  | .total => { a with count := true, replace := none, all := false, printPattern := false }
  | .replaced template all =>
    { a with count := false, replace := some template, all, printPattern := false }

/-- Where only some of the lines are printed, the others leave no trace. -/
theorem join_map_ite (p : String → Bool) (lines : List String) :
    String.join (lines.map fun line => if p line = true then line ++ "\n" else "") =
      String.join ((lines.filter p).map (· ++ "\n")) := by
  induction lines with
  | nil => rfl
  | cons line lines ih =>
    rw [List.map_cons, String.join_cons, ih]
    by_cases h : p line = true <;> simp [h]

section Run

variable {a : Arguments} {m : Matcher}
  (hm : Matcher.compile a.pattern.text a.options.toFlags = .ok m)

include hm

/-- A run over a text prints what the filter says of its lines, and with `count` their number
of matches. -/
theorem run_toUTF8 (hprint : a.printPattern = false) (text : String) :
    a.run text.toUTF8.toList =
      { exitCode := if 0 < m.total (textLines text) then 0 else 1
        stdout :=
          String.join ((textLines text).map fun line =>
              printed ((Filter.ofMatcher a m).line line).2)
            ++ if a.count then toString (m.total (textLines text)) ++ "\n" else "" } := by
  have hrun : a.run text.toUTF8.toList = (Filter.ofMatcher a m).run text.toUTF8.toList := by
    rw [Arguments.run, hprint, Filter.ofArguments_eq, hm]
    rfl
  have htotal : ((textLines text).map (Filter.ofMatcher a m).line).foldl
      (fun n r => n + r.1) 0 =
      m.total (textLines text) := by
    rw [Matcher.total, List.sum_eq_foldl, List.foldl_map, List.foldl_map]
    simp only [Filter.line_fst]
  rw [hrun, Filter.run, inputLines_toUTF8]
  simp only [if_true, htotal, List.map_map]
  show Outcome.mk _ (if (!a.count) = true then _ else _) _ = _
  cases a.count with
  | false => simp [Function.comp_def]
  | true => simp [Function.comp_def, String.append_assoc]

/-- Where the number of matches is asked for and nothing is replaced, the number is all that
is printed. -/
theorem run_of_count (hcount : a.count = true) (hreplace : a.replace = none)
    (hprint : a.printPattern = false) (text : String) : a.run text.toUTF8.toList =
      { exitCode := if 0 < m.total (textLines text) then 0 else 1
        stdout := toString (m.total (textLines text)) ++ "\n" } := by
  have hline (line : String) : printed ((Filter.ofMatcher a m).line line).2 = "" := by
    rw [Filter.line_of_no_replace m line hreplace, if_neg (by simp [hcount])]
    rfl
  have hjoin : String.join ((textLines text).map fun _ => "") = "" := by
    simpa using join_map_ite (fun _ => false) (textLines text)
  rw [run_toUTF8 hm hprint]
  simp only [hline, hjoin, String.empty_append, hcount]
  rfl

/-- Where neither the number of matches nor replacements are asked for, the lines with a match
are printed. -/
theorem run_of_no_count (hcount : a.count = false) (hreplace : a.replace = none)
    (hprint : a.printPattern = false) (text : String) : a.run text.toUTF8.toList =
    { exitCode := if 0 < m.total (textLines text) then 0 else 1
      stdout :=
        String.join (((textLines text).filter (0 < m.count ·)).map (· ++ "\n")) } := by
  have hline (line : String) : printed ((Filter.ofMatcher a m).line line).2 =
      if 0 < m.count line then line ++ "\n" else "" := by
    rw [Filter.line_of_no_replace m line hreplace]
    by_cases h : 0 < m.count line <;> simp [h, hcount, printed]
  have hjoin := join_map_ite (0 < m.count ·) (textLines text)
  simp only [decide_eq_true_eq] at hjoin
  rw [run_toUTF8 hm hprint]
  simp only [hline, hjoin, hcount]
  exact congrArg (Outcome.mk _ · "") (String.append_empty)

theorem run_total (text : String) : (a.inMode .total).run text.toUTF8.toList =
    { exitCode := if 0 < m.total (textLines text) then 0 else 1
      stdout := toString (m.total (textLines text)) ++ "\n" } :=
  run_of_count (a := a.inMode .total) hm rfl rfl rfl text

theorem run_matchingLines (text : String) : (a.inMode .matchingLines).run text.toUTF8.toList =
    { exitCode := if 0 < m.total (textLines text) then 0 else 1
      stdout := String.join (((textLines text).filter (0 < m.count ·)).map (· ++ "\n")) } :=
  run_of_no_count (a := a.inMode .matchingLines) hm rfl rfl rfl text

theorem run_replaced (template : String) (all : Bool) (text : String) :
    (a.inMode (.replaced template all)).run text.toUTF8.toList =
      { exitCode := if 0 < m.total (textLines text) then 0 else 1
        stdout := String.join ((textLines text).map fun line =>
          { m with global := all }.replace line template ++ "\n") } := by
  have hline (line : String) :
      printed ((Filter.ofMatcher (a.inMode (.replaced template all)) m).line line).2 =
        { m with global := all }.replace line template ++ "\n" := by
    rw [Filter.line_of_replace m line rfl]
    rfl
  have hm' : Matcher.compile (a.inMode (.replaced template all)).pattern.text
      (a.inMode (.replaced template all)).options.toFlags = .ok m := hm
  rw [run_toUTF8 hm' rfl]
  simp only [hline]
  exact congrArg (Outcome.mk _ · "") (String.append_empty)

end Run

/-! ## All modes -/

theorem join_lines_eq_empty_iff {lines : List String} :
    String.join (lines.map (· ++ "\n")) = "" ↔ lines = [] := by
  cases lines with
  | nil => simp
  | cons line lines =>
    have hne : (line ++ "\n" ++ String.join (lines.map (· ++ "\n"))).length ≠ 0 := by
      simp only [String.length_append]
      have : "\n".length = 1 := rfl
      omega
    rw [List.map_cons, String.join_cons]
    constructor
    · intro h
      rw [h] at hne
      exact absurd rfl hne
    · intro h
      cases h

/-- The runs of a search in all modes of output over a text tell one story. There is a number
of matches in each line. The sum of these is printed, and makes the exit code of all runs. The
lines that are printed are those with a match, so there are no more of them than matches. A
replacement prints one record for each line, and the record of a line without a match is the
line. -/
def Arguments.ModesAgree (a : Arguments) (text : String) : Prop :=
  ∃ count : String → Nat,
    (∀ line, (a.pattern.countIn line a.options).result = .ok (count line)) ∧
    let input := text.toUTF8.toList
    let lines := textLines text
    let matching := lines.filter (0 < count ·)
    let total := (lines.map count).sum
    let exitCode := if 0 < total then 0 else 1
    (a.inMode .total).run input = { exitCode, stdout := toString total ++ "\n" } ∧
    (a.inMode .matchingLines).run input =
      { exitCode, stdout := String.join (matching.map (· ++ "\n")) } ∧
    (String.join (matching.map (· ++ "\n")) ≠ "" ↔ 0 < total) ∧
    (∀ line ∈ lines, '\n' ∉ line.toList) ∧ matching.length ≤ total ∧
    ∀ (template : String) (all : Bool), ∃ record : String → String,
      (∀ line, ((if all then Pattern.replaceAll else Pattern.replaceFirst)
        a.pattern line template a.options).result = .ok (record line)) ∧
      (∀ line, count line = 0 → record line = line) ∧
      (a.inMode (.replaced template all)).run input =
        { exitCode, stdout := String.join (lines.map (record · ++ "\n")) }

/-- **All modes of output agree**, whatever the search and the text. -/
theorem output_modes_agree (a : Arguments) (m : Matcher)
    (hm : Matcher.compile a.pattern.text a.options.toFlags = .ok m) (text : String) :
    a.ModesAgree text := by
  refine ⟨m.count, result_countIn_of_compile hm, run_total hm text,
    run_matchingLines hm text, ?_, fun line => not_mem_of_mem_textLines,
    m.length_filter_le_total _, fun template all => ?_⟩
  · rw [Ne, join_lines_eq_empty_iff]
    exact m.total_pos_iff.symm
  · exact ⟨fun line => Matcher.replace { m with global := all } line template,
      fun line => result_replace_of_compile hm all line template,
      fun line h => m.replace_of_count_eq_zero h all template,
      run_replaced hm template all text⟩

/-- One line with two matches, one with a carriage return at its end and one without a
newline. -/
theorem output_modes_agree_three_lines :
    Matcher.compile ({ extendedRegexp := some "b" } : Arguments).pattern.text
        ({ extendedRegexp := some "b" } : Arguments).options.toFlags = .ok
      { pattern := "b", global := true, names := [],
        program := #[.take (.single 'b'), .accept] } ∧
    ({ extendedRegexp := some "b" } : Arguments).ModesAgree "abcb\nx\r\nb" :=
  ⟨rfl, output_modes_agree _ _ rfl _⟩

end CommandLine

end PatternAssembly
