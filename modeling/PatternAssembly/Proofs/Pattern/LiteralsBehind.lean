import PatternAssembly.Proofs.Pattern.Literals
import PatternAssembly.Proofs.Tree.Behind
import PatternAssembly.Proofs.Tree.Faults
import PatternAssembly.Proofs.Tree.ModesBehind

/-!
# Literals behind a pattern

A literal that is added to a pattern stands behind it with no group around it, so the flags of
the pattern that are in force there are in force for the literal too. It still matches itself,
with or without regard to case as they say. Only where they make spacing free it does not:
blanks are not escaped, and are skipped there.

## Main statements

* `exists_accepts_iff_of_compile_append`: what a pattern with a phrase behind it matches
* `matches_end_with_literal`: the matches of a pattern with a literal behind it
-/
namespace PatternAssembly

variable {flags flags' : Flags} {alone whole : Matcher}

/-- A pattern with a phrase behind it matches what the pattern matches, and behind it what the
phrase means under the modes in force there. -/
theorem exists_accepts_iff_of_compile_append {p cs : String} {S : Meaning}
    (halone : Matcher.compile p flags = .ok alone) (hbar : '|' ∉ p.toList)
    (hblanks : freeBehind p.toList = false)
    (hphrase : ReadsAsPhrase (flags'.modes.behind p.toList) cs.toList S)
    (hwhole : Matcher.compile (p ++ cs) flags' = .ok whole) :
    ∃ reading e after, Tree.read p.toList = .ok reading ∧
      reading.tree.resolve flags'.modes = .ok (e, after) ∧
      ∀ (text : Array Char) (i j : Nat),
        whole.program.Accepts text i j ↔ ∃ k, e.Matches text i k ∧ S text k j := by
  obtain ⟨reading, e₀, after₀, hread, hresolve₀, -⟩ := exists_resolve_of_compile halone
  obtain ⟨span, ps, htree, hbehind⟩ := read_append hread hbar hblanks
  -- The pattern has an expression under the other flags too, which have no part in what is at
  -- fault.
  have hunicode : flags.modes.unicode = flags'.modes.unicode := rfl
  have halike := Tree.alike_resolve hunicode reading.tree
  obtain ⟨⟨e, mid⟩, hresolve, -⟩ := Alike.exists_of_ok halike hresolve₀
  have hmid : mid = flags'.modes.behind p.toList := by
    rw [Modes.behind, hread]
    exact Tree.modes_of_resolve _ hresolve
  obtain ⟨span', ts, reading', hread', htree', hmeans⟩ := hbehind hphrase
  obtain ⟨_, e', after, hread'', hresolve', haccepts⟩ := exists_resolve_of_compile hwhole
  rw [String.toList_append, hread'] at hread''
  obtain rfl := Except.ok.inj hread''
  refine ⟨reading, e, mid, hread, hresolve, fun text i j => ?_⟩
  rw [htree] at hresolve
  rw [htree'] at hresolve'
  rw [haccepts, Tree.matches_ofParts_append hresolve (hmid ▸ hmeans) hresolve']

theorem Pattern.text_after_literal (p v : String) :
    ((Pattern.create (some p)).after (.literal v)).text = p ++ escapeLiteral v := rfl

/-- **Matches end with the literal behind a pattern**, up to case, and if case counts behind
the pattern exactly. The pattern may be any that compiles for some flags, has no bars, and
does not leave spacing free. -/
theorem matches_end_with_literal (p v t : String) (o : SearchOptions)
    (halone : Matcher.compile p flags = .ok alone) (hbar : '|' ∉ p.toList)
    (hblanks : freeBehind p.toList = false)
    (hwhole : Matcher.compile ((Pattern.create (some p)).after (.literal v)).text
      o.toFlags = .ok whole) :
    ∃ texts,
      (((Pattern.create (some p)).after (.literal v)).matchesIn t o).result =
        .ok (listed texts) ∧
      ∀ s ∈ texts,
        (∃ literal, literal <:+ s.toList ∧ v.toList.isEqv literal (sameChar true) = true) ∧
        ((o.toFlags.modes.behind p.toList).ignoreCase = false → v.toList <:+ s.toList) := by
  refine ⟨whole.matchedTexts t, ?_, fun s hs => ?_⟩
  · rw [Pattern.result_matchesIn rfl, hwhole]
    rfl
  rw [Pattern.text_after_literal] at hwhole
  obtain ⟨-, e, -, -, -, haccepts⟩ := exists_accepts_iff_of_compile_append halone hbar hblanks
    (readsAsPhrase_escape v) hwhole
  obtain ⟨i, j, hij, hj, hmatch, hs⟩ := Matcher.exists_accepts_of_mem_matchedTexts hs
  obtain ⟨k, hpattern, hspelled⟩ := (haccepts _ i j).1 hmatch
  obtain ⟨hik, hk⟩ := (accepts_ofExpr_iff.2 hpattern).place_le (hij.trans hj)
  have hshows := Meaning.shows_of_spelled hk hspelled
  have hsuffix : slice t.toList.toArray k j <:+ s.toList :=
    ⟨_, (slice_append hik hshows.1).trans hs.symm⟩
  refine ⟨⟨_, hsuffix, (hshows.mono sameChar_mono).2.2⟩, fun hcase => ?_⟩
  rw [hcase] at hshows
  rwa [isEqv_sameChar_false.1 hshows.2.2]

/-- Case is ignored in the group and counts behind it. -/
theorem matches_end_with_literal_group :
    ∃ alone whole texts, Matcher.compile "(?i:a)+" {} = .ok alone ∧ '|' ∉ "(?i:a)+".toList ∧
      freeBehind "(?i:a)+".toList = false ∧
      Matcher.compile ((Pattern.create (some "(?i:a)+")).after (.literal "b.")).text
        ({} : SearchOptions).toFlags = .ok whole ∧
      (((Pattern.create (some "(?i:a)+")).after (.literal "b.")).matchesIn
        "aAb. aB." {}).result = .ok (listed texts) ∧
      ∀ s ∈ texts, "b.".toList <:+ s.toList := by
  have hbar : '|' ∉ "(?i:a)+".toList := by decide
  have hblanks : freeBehind "(?i:a)+".toList = false := by decide +kernel
  have hcase : (({} : SearchOptions).toFlags.modes.behind "(?i:a)+".toList).ignoreCase =
      false := by
    decide +kernel
  obtain ⟨alone, halone⟩ : ∃ m, Matcher.compile "(?i:a)+" {} = .ok m := ⟨_, rfl⟩
  obtain ⟨whole, hwhole⟩ : ∃ m, Matcher.compile
      ((Pattern.create (some "(?i:a)+")).after (.literal "b.")).text
        ({} : SearchOptions).toFlags = .ok m := ⟨_, rfl⟩
  obtain ⟨texts, hresult, hends⟩ :=
    matches_end_with_literal "(?i:a)+" "b." "aAb. aB." {} halone hbar hblanks hwhole
  exact ⟨alone, whole, texts, halone, hbar, hblanks, hwhole, hresult,
    fun s hs => (hends s hs).2 hcase⟩

/-- Where spacing is free, the blank in a literal is skipped, and the match does not end with
the literal. -/
theorem match_lacks_blank_of_literal :
    (∃ alone, Matcher.compile "(?x)" {} = .ok alone) ∧ '|' ∉ "(?x)".toList ∧
      (((Pattern.create (some "(?x)")).after (.literal "a b")).matchesIn "ab" {}).result =
        .ok (some ["ab"]) ∧
      ¬ ∃ literal, literal <:+ "ab".toList ∧
        "a b".toList.isEqv literal (sameChar true) = true := by
  refine ⟨⟨_, rfl⟩, by decide, ?_, ?_⟩
  · rw [Pattern.result_matchesIn rfl]
    decide +kernel
  · rintro ⟨literal, hsuffix, h⟩
    have hlength := Text.length_eq_of_isEqv h
    exact absurd (hlength ▸ hsuffix.length_le) (by decide)

end PatternAssembly
