import PatternAssembly.Proofs.CommandLine.Accepted
import PatternAssembly.Proofs.CommandLine.Runs

/-!
# Filtering twice

A run that prints the lines with a match filters a text. What it prints is a text again, made
of lines with a match, so another run prints it as it is; and since the lines that were left
out have no match, the number of matches is the same before and after.

A carriage return alone would be in the way: at the end of a line it may belong to the line,
and behind it the newline that is printed makes a line end of both. So the text is to be free
of them.

## Main statements

* `textLines_join`: lines that were printed are read back
* `filtering_idempotent`: filtering what was filtered changes nothing
-/
namespace PatternAssembly.CommandLine

/-- Lines that are printed, each with a newline behind it, are read back. -/
theorem textLines_join {printed : List String}
    (h : ∀ line ∈ printed, '\n' ∉ line.toList ∧ line.toList.getLast? ≠ some '\r') :
    textLines (String.join (printed.map (· ++ "\n"))) = printed := by
  have hchars : (String.join (printed.map (· ++ "\n"))).toList =
      (printed.map String.toList).flatMap (· ++ ['\n']) := by
    simp [String.toList_join, List.flatMap_map]
  rw [textLines, hchars, Text.lines_flatMap_concat (by simpa using h)]
  simp

/-- A line of a text without carriage returns ends with none. -/
theorem getLast?_ne_return {text line : String} (h : '\r' ∉ text.toList)
    (hline : line ∈ textLines text) : line.toList.getLast? ≠ some '\r' := by
  obtain ⟨chars, hchars, rfl⟩ := List.mem_map.1 hline
  rw [String.toList_ofList]
  intro hlast
  exact h ((Text.of_mem_lines hchars).2 (List.mem_of_getLast? hlast))

/-- What is filtered is left as it is by filtering it again: the run over `filtered` is the
run over the text, and a run that prints the number of matches prints the same number for
both. -/
def Arguments.Settles (a counting : Arguments) (text : String) : Prop :=
  let filtered := (a.run text.toUTF8.toList).stdout
  a.run filtered.toUTF8.toList = a.run text.toUTF8.toList ∧
  ∃ total : Nat, (counting.run text.toUTF8.toList).stdout = toString total ++ "\n" ∧
    (counting.run filtered.toUTF8.toList).stdout = toString total ++ "\n"

/-- **Filtering is idempotent**, for every accepted command line that prints lines with a
match, and every text without carriage returns. -/
theorem filtering_idempotent (arguments : List String) (a : Arguments)
    (hread : Arguments.read arguments = .ok a) (hcount : a.count = false)
    (hreplace : a.replace = none) (hprint : a.printPattern = false) (m : Matcher)
    (hm : Matcher.compile a.pattern.text a.options.toFlags = .ok m) (text : String)
    (hreturn : '\r' ∉ text.toList) :
    ∃ counting, Arguments.read ("--count" :: arguments) = .ok counting ∧
      a.Settles counting text := by
  let matching := (textLines text).filter (0 < m.count ·)
  have hrun := run_of_no_count hm hcount hreplace hprint
  have htotal := run_of_count (a := a.counting) hm rfl hreplace hprint
  have hlines : textLines (a.run text.toUTF8.toList).stdout = matching := by
    rw [hrun]
    refine textLines_join fun line hline => ?_
    have hmem : line ∈ textLines text := List.mem_of_mem_filter hline
    exact ⟨not_mem_of_mem_textLines hmem, getLast?_ne_return hreturn hmem⟩
  refine ⟨a.counting, Arguments.read_count_cons hread hcount hreplace, ?_,
    m.total (textLines text), ?_, ?_⟩
  · rw [hrun (a.run text.toUTF8.toList).stdout, hlines, m.total_filter,
      List.filter_filter, hrun text]
    simp only [Bool.and_self]
  · rw [htotal]
  · rw [htotal, hlines, m.total_filter]

/-- An empty line and a line without a match are left out, and the last line gets its
newline. -/
theorem filtering_idempotent_last_line :
    let a : Arguments := { extendedRegexp := some "b" }
    Arguments.read ["-E", "b"] = .ok a ∧ a.count = false ∧ a.replace = none ∧
      a.printPattern = false ∧
      Matcher.compile a.pattern.text a.options.toFlags = .ok
        { pattern := "b", global := true, names := [],
          program := #[.take (.single 'b'), .accept] } ∧
      '\r' ∉ "bab\n\nc\nb".toList ∧
      ∃ counting, Arguments.read ["--count", "-E", "b"] = .ok counting ∧
        a.Settles counting "bab\n\nc\nb" := by
  have hread : Arguments.read ["-E", "b"] = .ok { extendedRegexp := some "b" } := rfl
  have hreturn : '\r' ∉ "bab\n\nc\nb".toList := by simp
  exact ⟨hread, rfl, rfl, rfl, rfl, hreturn,
    filtering_idempotent _ _ hread rfl rfl rfl _ rfl _ hreturn⟩

end PatternAssembly.CommandLine
