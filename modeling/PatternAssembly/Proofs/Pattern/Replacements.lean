import PatternAssembly.Proofs.Pattern.Searches
import PatternAssembly.Proofs.Template

/-!
# Replacements and matches

A search for all matches cuts the text into matches and the texts between them. A replacement
of all matches writes what the template stands for in the place of each match, a replacement
of the first one does so once; the texts between the matches stay.

## Main statements

* `replacements_follow_matches`: lists of matches and replacements come from one cutting of
  the text
-/
namespace PatternAssembly

namespace Matcher

variable (m : Matcher) (text template : String)

/-- A text cut at all matches of a pattern: each with the text up to the next one. -/
def cuts : List (Match × List Char) :=
  withTextAfter text.toList.toArray (allMatches m.program text.toList.toArray)

/-- The text before the first match. -/
def uncut : List Char :=
  textBefore text.toList.toArray 0 (allMatches m.program text.toList.toArray)

/-- What a text is cut at are the matches that the search finds, with all that they
remember. -/
theorem map_fst_cuts :
    (m.cuts text).map Prod.fst = allMatches m.program text.toList.toArray :=
  (map_withTextAfter id _).trans (List.map_id _)

/-- A text consists of its matches and what is between them. -/
theorem uncut_append_cuts :
    m.uncut text ++ (m.cuts text).flatMap (fun x => x.1.chars text.toList.toArray ++ x.2) =
      text.toList := by
  rw [uncut, cuts, ← splice_eq, splice_chars (ordered_allMatches _ _) (Nat.zero_le _),
    slice_zero_size]

theorem matchedTexts_global :
    { m with global := true }.matchedTexts text =
      (m.cuts text).map fun x => String.ofList (x.1.chars text.toList.toArray) := by
  rw [cuts, map_withTextAfter fun x => String.ofList (x.chars text.toList.toArray)]
  simp only [matchedTexts, found, if_true, Match.chars]

theorem replace_global :
    { m with global := true }.replace text template =
      String.ofList (m.uncut text ++ (m.cuts text).flatMap fun x =>
        (Template.read template.toList).expand m.names text.toList.toArray x.1 ++ x.2) := by
  simp only [replace, found, if_true, splice_eq]
  rfl

/-- Only the first match is replaced; what follows it stays. -/
theorem replace_first :
    { m with global := false }.replace text template =
      String.ofList (m.uncut text ++ match m.cuts text with
        | [] => []
        | x :: rest =>
          (Template.read template.toList).expand m.names text.toList.toArray x.1 ++ x.2
            ++ rest.flatMap fun y => y.1.chars text.toList.toArray ++ y.2) := by
  simp only [replace, found, Bool.false_eq_true, if_false, uncut, cuts]
  generalize text.toList.toArray = chars
  have hordered := ordered_allMatches m.program chars
  rw [← head?_allMatches]
  cases hall : allMatches m.program chars with
  | nil => simp [splice, textBefore, withTextAfter]
  | cons x rest =>
    rw [hall] at hordered
    obtain ⟨-, -, hstop, hordered⟩ := hordered
    -- What follows the first match is the text from its end on, matches and all.
    have hrest := splice_chars hordered hstop
    rw [splice_eq] at hrest
    simp only [List.head?_cons, Option.toList_some, splice, withTextAfter, ← hrest]
    simp [textBefore]

end Matcher

/-- **Searches and replacements see the same matches.** A text for which a pattern compiles is
cut at its matches once and for all: those that the program finds, with the groups that each
remembers. A search lists them; a replacement of all matches writes the values of the
template's pieces for each of them, and a replacement of the first one only for that. -/
theorem replacements_follow_matches (p : Pattern) (hp : p.engine = .regular)
    (o : SearchOptions) (m : Matcher) (hm : Matcher.compile p.text o.toFlags = .ok m)
    (text : String) :
    (m.cuts text).map Prod.fst = allMatches m.program text.toList.toArray ∧
    m.uncut text ++ (m.cuts text).flatMap (fun x => x.1.chars text.toList.toArray ++ x.2) =
      text.toList ∧
    (p.matchesIn text { o with allMatches := true }).result =
      .ok (if m.cuts text = [] then none
        else some ((m.cuts text).map fun x =>
          String.ofList (x.1.chars text.toList.toArray))) ∧
    ∀ parts : List TemplatePart, TemplatePart.Readable parts → ∀ all : Bool,
      (p.replaceAll text (String.ofList (parts.flatMap TemplatePart.written))
          { o with allMatches := all }).result =
        .ok (String.ofList (m.uncut text ++ (m.cuts text).flatMap fun x =>
          parts.flatMap (TemplatePart.value m.names text.toList.toArray x.1) ++ x.2)) ∧
      (p.replaceFirst text (String.ofList (parts.flatMap TemplatePart.written))
          { o with allMatches := all }).result =
        .ok (String.ofList (m.uncut text ++ match m.cuts text with
          | [] => []
          | x :: rest =>
            parts.flatMap (TemplatePart.value m.names text.toList.toArray x.1) ++ x.2
              ++ rest.flatMap fun y => y.1.chars text.toList.toArray ++ y.2)) := by
  have hcompile (all : Bool) : Matcher.compile p.text ({ o with allMatches := all }).toFlags =
      .ok { m with global := all } := by
    have := Matcher.compile_withGlobal p.text o.toFlags all
    rwa [hm] at this
  refine ⟨m.map_fst_cuts text, m.uncut_append_cuts text, ?_, fun parts hparts all => ⟨?_, ?_⟩⟩
  · rw [Pattern.result_matchesIn hp, hcompile]
    show Except.ok (listed ({ m with global := true }.matchedTexts text)) = _
    rw [m.matchedTexts_global text]
    cases m.cuts text <;> rfl
  · rw [Pattern.result_replaceAll hp, hcompile]
    show Except.ok ({ m with global := true }.replace text _) = _
    rw [m.replace_global text, String.toList_ofList]
    simp only [Template.expand_read_written hparts]
  · rw [Pattern.result_replaceFirst hp, hcompile]
    show Except.ok ({ m with global := false }.replace text _) = _
    rw [m.replace_first text, String.toList_ofList]
    simp only [Template.expand_read_written hparts]

/-- A dollar sign right before two references to one group, by its name and by its number. The
group takes no part in the second match. -/
theorem replacements_follow_matches_group :
    (Pattern.create (some "(?<_>b)|c")).engine = .regular ∧
    Matcher.compile "(?<_>b)|c" ({} : SearchOptions).toFlags = .ok
      { pattern := "(?<_>b)|c", global := true, names := [("_", 1)]
        program := #[.fork 1 5, .save 2, .take (.single 'b'), .save 3, .jump 6,
          .take (.single 'c'), .accept] } ∧
    TemplatePart.Readable [.text ['<', '$'], .braced ['_'], .bare ['1'], .text ['>']] ∧
    ((Pattern.create (some "(?<_>b)|c")).matchesIn "abcb" {}).result =
      .ok (some ["b", "c", "b"]) ∧
    ((Pattern.create (some "(?<_>b)|c")).replaceAll "abcb" "<$$$\x7b_\x7d$1>" {}).result =
      .ok "a<$bb><$><$bb>" ∧
    ((Pattern.create (some "(?<_>b)|c")).replaceFirst "abcb" "<$$$\x7b_\x7d$1>" {}).result =
      .ok "a<$bb>cb" := by
  have hcompile : Matcher.compile "(?<_>b)|c" ({} : SearchOptions).toFlags = .ok
      { pattern := "(?<_>b)|c", global := true, names := [("_", 1)]
        program := #[.fork 1 5, .save 2, .take (.single 'b'), .save 3, .jump 6,
          .take (.single 'c'), .accept] } := rfl
  have hreadable :
      TemplatePart.Readable [.text ['<', '$'], .braced ['_'], .bare ['1'], .text ['>']] :=
    ⟨⟨by simp, List.forall_mem_singleton.2 (by decide)⟩,
      ⟨by simp, List.forall_mem_singleton.2 (by decide)⟩, by rintro c ⟨⟩; decide, trivial⟩
  have hall : allMatches #[.fork 1 5, .save 2, .take (.single 'b'), .save 3, .jump 6,
      .take (.single 'c'), .accept] "abcb".toList.toArray =
      [⟨1, 2, [(3, 2), (2, 1)]⟩, ⟨2, 3, []⟩, ⟨3, 4, [(3, 4), (2, 3)]⟩] := rfl
  obtain ⟨-, -, hmatches, h⟩ :=
    replacements_follow_matches (.create (some "(?<_>b)|c")) rfl {} _ hcompile "abcb"
  simp only [Matcher.cuts, Matcher.uncut, hall] at hmatches h
  exact ⟨rfl, hcompile, hreadable, hmatches, (h _ hreadable true).1, (h _ hreadable true).2⟩

end PatternAssembly
