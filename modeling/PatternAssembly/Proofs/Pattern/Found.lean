import PatternAssembly.Proofs.Matcher
import PatternAssembly.Proofs.Pattern.Languages
import PatternAssembly.Proofs.Pattern.Searches
import PatternAssembly.Proofs.Text.Windows

/-!
# What phrases find

Whether a phrase is found in a text depends on what it means alone, unless a limit of the
engine keeps it from compiling. Where it means a language between two places, it is found
where the text has a part in the language, with such characters around it as the places ask
for.

## Main definitions

* `Pattern.AtLimit`: only a limit of the engine is in the way of a search
* `Pattern.IsInIff`: when a search is answered with yes

## Main statements

* `Pattern.isIn_of_phrase`: a phrase is found where the text contains something that is meant
* `Meaning.exists_between_iff`: a language between two places
-/
namespace PatternAssembly

namespace Pattern

/-- The search is refused, and only since the pattern nests too deep or needs too much
memory. -/
def AtLimit (p : Pattern) (t : String) : Prop :=
  ∃ reason, (p.isIn t).result = .error (.invalidPattern p.text reason) ∧ reason.IsLimit

/-- The search is answered, with yes just if the condition holds. -/
def IsInIff (p : Pattern) (t : String) (P : Prop) : Prop :=
  ∃ found, (p.isIn t).result = .ok found ∧ (found = true ↔ P)

theorem IsInIff.congr {p : Pattern} {t : String} {P Q : Prop} (h : p.IsInIff t P)
    (hiff : P ↔ Q) :
    p.IsInIff t Q := by
  obtain ⟨found, hresult, hfound⟩ := h
  exact ⟨found, hresult, hfound.trans hiff⟩

/-- A phrase is found where the text contains something that is meant. -/
theorem isIn_of_phrase {p : Pattern} {S : Meaning} (hp : p.engine = .regular)
    (h : ReadsAsPhrase {} p.text.toList S) (t : String) :
    p.AtLimit t ∨
      p.IsInIff t (∃ i j, i ≤ t.toList.toArray.size ∧ S t.toList.toArray i j) := by
  rw [AtLimit, IsInIff, result_isIn hp]
  rcases compile_of_phrase {} h with ⟨reason, hcompile, hlimit⟩ | ⟨m, hcompile, hm⟩
  · exact .inl ⟨reason, by rw [hcompile]; rfl, hlimit⟩
  · exact .inr ⟨m.test t, by rw [hcompile]; rfl, Matcher.test_iff hm t⟩

/-- What compiles is not at a limit. -/
theorem not_atLimit {p : Pattern} (hp : p.engine = .regular)
    (h : (Matcher.compile p.text {}).isOk = true) (t : String) : ¬ p.AtLimit t := by
  rintro ⟨reason, hresult, -⟩
  rw [result_isIn hp] at hresult
  cases hcompile : Matcher.compile p.text {} with
  | ok m => simp [hcompile, Except.map] at hresult
  | error e => simp [hcompile, Except.isOk, Except.toBool] at h

end Pattern

/-- Between two places, a language is meant at its texts that have the places at their
ends. -/
theorem Meaning.exists_between_iff {S : Meaning} {L : Language Char} (h : S.Spells L)
    (first last : Look) (text : List Char) :
    (∃ i j, i ≤ text.toArray.size ∧
        (place first).andThen (S.andThen (place last)) text.toArray i j) ↔
      ∃ before window after, text = before ++ window ++ after ∧ window ∈ L ∧
        first.holds text.toArray before.length = true ∧
        last.holds text.toArray (before ++ window).length = true := by
  constructor
  · rintro ⟨i, j, hi, k, ⟨hfirst, rfl⟩, l, hS, hlast, rfl⟩
    obtain ⟨hij, hj, hmem⟩ := (h _ _ _ hi).1 hS
    refine ⟨slice text.toArray 0 i, slice text.toArray i l,
      slice text.toArray l text.toArray.size, ?_, hmem, ?_, ?_⟩
    · rw [slice_append (Nat.zero_le i) hij, slice_append (Nat.zero_le l) hj]
      exact (slice_zero_size text.toArray).symm
    · rwa [length_slice (Nat.zero_le i) hi, Nat.sub_zero]
    · rwa [slice_append (Nat.zero_le i) hij, length_slice (Nat.zero_le l) hj, Nat.sub_zero]
  · rintro ⟨before, window, after, rfl, hmem, hfirst, hlast⟩
    have hstop : (before ++ window).length ≤ (before ++ window ++ after).toArray.size := by
      simp
    have hstart : before.length ≤ (before ++ window).length := by simp
    have hslice : slice (before ++ window ++ after).toArray before.length
        (before ++ window).length = window := by
      rw [List.length_append]
      exact slice_middle rfl
    have hS := (h _ _ _ (hstart.trans hstop)).2 ⟨hstart, hstop, hslice.symm ▸ hmem⟩
    exact ⟨_, _, hstart.trans hstop, _, ⟨hfirst, rfl⟩, _, hS, hlast, rfl⟩

end PatternAssembly
