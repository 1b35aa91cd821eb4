import PatternAssembly.Proofs.CommandLine.Runs
import PatternAssembly.Proofs.Pattern.SegmentCounts

/-!
# Line by line, and all at once

A text is searched line by line on the command line. Its lines end at newlines, and one
carriage return before a newline belongs to the line end; the anchors of a pattern also take a
carriage return alone for a line end. For a text without these characters, looked for anywhere
in lines, at their start, at their end, or as whole lines, both come to the same: there are as
many matches in the lines as in the undivided text.

## Main definitions

* `Anchoring.arguments`: the option for an end of lines
* `LinePlace`, with `LinePlace.arguments`: where in a line a text is looked for, at its ends
  or anywhere

## Main statements

* `count_eq_total`: the matches in a text are those in its lines
* `lines_agree_with_undivided_text`: what is printed is what a search of the undivided text
  counts
-/
namespace PatternAssembly

/-- The matches of an anchored text in another are those in the lines of the other. -/
theorem Matcher.count_eq_total {m : Matcher} {flags : Flags} {atStart atEnd : Bool}
    {cs : List Char} (h : m.Accepts (.anchored flags.modes atStart atEnd cs))
    (hlines : flags.multiLine = true) (hcs : cs ≠ []) (hfree : ∀ c ∈ cs, isBreak c = false)
    (text : String) :
    m.count text = m.total (CommandLine.textLines text) := by
  have hcount (xs : List Char) : m.count (String.ofList xs) =
      m.total ((Text.lines '\n' '\r' xs).map String.ofList) := by
    induction xs using Text.induction_on_lines '\n' with
    | last line hline =>
      rw [Text.lines_of_not_mem hline]
      cases line with
      | nil => exact count_nil h hlines hcs hfree
      | cons c line => simp [total]
    | cons line rest hline ih =>
      obtain ⟨stop, hends, heq⟩ := Text.exists_line_end '\n' '\r' line rest
      have hstop : stop ≠ [] ∧ ∀ c ∈ stop, isBreak c = true := by
        rcases hends with rfl | rfl <;> simp [isBreak]
      rw [Text.lines_append hline, heq, count_append h hlines hcs hfree _ hstop.1 hstop.2, ih,
        total, total, List.map_cons, List.map_cons, List.sum_cons]
  have htext := hcount text.toList
  rwa [String.ofList_toList] at htext

open CommandLine

namespace Anchoring

/-- The arguments that look for a text at the ends of lines. -/
def arguments (a : Anchoring) (v : String) : Arguments :=
  match a with
  | start => { startsWith := some (escapeLiteral v) }
  | stop => { endsWith := some (escapeLiteral v) }
  | whole => { equals := some (escapeLiteral v) }

theorem pattern_arguments (a : Anchoring) (v : String) :
    (a.arguments v).pattern = Pattern.ofSteps [a.step v] := by
  cases a <;> rfl

end Anchoring

namespace CommandLine

/-- Where in a line a text is looked for: anywhere, or at its ends. -/
inductive LinePlace where
  | anywhere
  | anchored (a : Anchoring)
deriving DecidableEq

namespace LinePlace

/-- The arguments that look for a text at the place and print the number of matches. -/
def arguments (place : LinePlace) (v : String) (ignoreCase : Bool) : Arguments :=
  match place with
  | anywhere => { fixedStrings := [v], ignoreCase, count := true }
  | anchored a => { a.arguments v with ignoreCase, count := true }

/-- The match starts where the line does. -/
def atStart : LinePlace → Bool
  | anywhere => false
  | anchored a => a.atStart

/-- The match ends where the line does. -/
def atEnd : LinePlace → Bool
  | anywhere => false
  | anchored a => a.atEnd

theorem toList_text_pattern (place : LinePlace) (v : String) (ignoreCase : Bool) :
    (place.arguments v ignoreCase).pattern.text.toList =
      anchoredChars place.atStart place.atEnd v := by
  cases place with
  | anywhere =>
    have hpattern : (anywhere.arguments v ignoreCase).pattern =
        Pattern.ofSteps [.literal v] := rfl
    rw [hpattern, Pattern.toList_text_ofSteps]
    simp [Step.chars, Step.fragment, anchoredChars, atStart, atEnd, Engine.escape]
  | anchored a =>
    -- Whether case counts and what is printed have no part in the pattern.
    have hpattern : ((anchored a).arguments v ignoreCase).pattern = (a.arguments v).pattern :=
      rfl
    rw [hpattern, a.pattern_arguments, a.toList_text_step]
    rfl

/-- If the pattern compiles, it matches the anchored text. -/
theorem accepts_of_compile {place : LinePlace} {v : String} {ignoreCase : Bool} {m : Matcher}
    {flags : Flags}
    (hm : Matcher.compile (place.arguments v ignoreCase).pattern.text flags = .ok m) :
    m.Accepts (.anchored flags.modes place.atStart place.atEnd v.toList) := by
  have hphrase := readsAsPhrase_anchored (m := flags.modes) place.atStart place.atEnd v
  rw [← toList_text_pattern place v ignoreCase] at hphrase
  rcases compile_of_phrase flags hphrase with ⟨reason, hrefused, -⟩ | ⟨m', hm', haccepts⟩
  · rw [hm] at hrefused
    cases hrefused
  · rw [hm] at hm'
    cases hm'
    exact haccepts

end LinePlace

/-- The number that a run over a text prints is that of the matches in its lines, and also
that of the matches which a search finds in the undivided text. -/
def Arguments.CountsUndivided (a : Arguments) (text : String) : Prop :=
  ∃ (f : Filter) (total : Nat), Filter.ofArguments a = .ok f ∧
    ((textLines text).map fun line => (f.line line).1).sum = total ∧
    (a.run text.toUTF8.toList).stdout = toString total ++ "\n" ∧
    (a.pattern.countIn text a.options).result = .ok total

/-- **Searching line by line agrees with searching the undivided text**, for a text without
line ends that is looked for anywhere in lines, at their start, at their end, or as whole
lines. -/
theorem lines_agree_with_undivided_text (place : LinePlace) (v : String) (ignoreCase : Bool)
    (hv : v ≠ "") (hfree : ∀ c ∈ v.toList, c ≠ '\r' ∧ c ≠ '\n') (m : Matcher)
    (hm : Matcher.compile (place.arguments v ignoreCase).pattern.text
      (place.arguments v ignoreCase).options.toFlags = .ok m) (text : String) :
    (place.arguments v ignoreCase).CountsUndivided text := by
  have hbreaks (c : Char) (hc : c ∈ v.toList) : isBreak c = false := by
    simp [isBreak, hfree c hc]
  have hlines : (place.arguments v ignoreCase).options.toFlags.multiLine = true := by
    cases place with
    | anywhere => rfl
    | anchored a => cases a <;> rfl
  have hcount := Matcher.count_eq_total (LinePlace.accepts_of_compile hm) hlines
    (by simpa using hv) hbreaks text
  have hmode : (place.arguments v ignoreCase).inMode .total =
      place.arguments v ignoreCase := by
    cases place with
    | anywhere => rfl
    | anchored a => cases a <;> rfl
  have hrun := run_total hm text
  rw [hmode] at hrun
  refine ⟨Filter.ofMatcher (place.arguments v ignoreCase) m, m.total (textLines text),
    ?_, ?_, ?_, ?_⟩
  · rw [Filter.ofArguments_eq, hm]
    rfl
  · simp only [Filter.line_fst]
    rfl
  · rw [hrun]
  · rw [result_countIn_of_compile hm, hcount]

/-- Line ends of all kinds, an empty line, and no newline at the end. -/
theorem lines_agree_with_undivided_text_stop :
    "+a" ≠ "" ∧ (∀ c ∈ "+a".toList, c ≠ '\r' ∧ c ≠ '\n') ∧
    Matcher.compile ((LinePlace.anchored .stop).arguments "+a" true).pattern.text
        ((LinePlace.anchored .stop).arguments "+a" true).options.toFlags = .ok
      { pattern := "\\+a$", global := true, names := []
        program :=
          #[.take (.single '+'), .take (.ofCodes [0x41, 0x61]), .look (.lineEnd true),
            .accept] } ∧
    ((LinePlace.anchored .stop).arguments "+a" true).CountsUndivided "+A\r+a\n\r\n+a" := by
  have hne : "+a" ≠ "" := by decide
  have hfree : ∀ c ∈ "+a".toList, c ≠ '\r' ∧ c ≠ '\n' := by simp
  exact ⟨hne, hfree, rfl,
    lines_agree_with_undivided_text (.anchored .stop) "+a" true hne hfree _ rfl _⟩

end CommandLine

end PatternAssembly
