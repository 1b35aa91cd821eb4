import PatternAssembly.Pattern
import PatternAssembly.Proofs.Text.Quoted

/-!
# What is shown of a pattern

A pattern of the regular engine is shown with its text in quotes and the number of its open
groups, and a refused one with its text in quotes and the reason. The text is arbitrary and
may imitate what stands around it; but it cannot end its quotes. So all that is shown is
determined by how it is shown.

## Main statements

* `Pattern.shown_inj`: patterns that are shown alike are equal
* `invalidPatternText_inj`: the words for a refused pattern determine the pattern and the
  reason
* `shown_identifies`: both together
-/
namespace PatternAssembly

/-- A number is determined by its digits. -/
theorem eq_of_toString_eq {n n' : Nat} (h : toString n = toString n') : n = n' := by
  have hdigits : Nat.toDigits 10 n = Nat.toDigits 10 n' := by
    rw [← Nat.toList_repr, ← Nat.toList_repr, ← Nat.toString_eq_repr, h, Nat.toString_eq_repr]
  rw [← Nat.ofDigitChars_ten_toDigits (n := n), hdigits, Nat.ofDigitChars_ten_toDigits]

/-- Patterns of the regular engine that are shown alike are equal. -/
theorem Pattern.shown_inj {p p' : Pattern} (hp : p.engine = .regular)
    (hp' : p'.engine = .regular) :
    p.shown = p'.shown ↔ p = p' := by
  refine ⟨fun h => ?_, fun h => h ▸ rfl⟩
  obtain ⟨text, n, _⟩ := p
  obtain ⟨text', n', _⟩ := p'
  obtain rfl : _ = Engine.regular := hp
  obtain rfl : _ = Engine.regular := hp'
  simp only [shown, Option.some.injEq, String.append_assoc] at h
  rw [String.append_right_inj, Text.quote_append_inj, String.append_right_inj,
    String.append_left_inj] at h
  obtain ⟨rfl, hcount⟩ := h
  rw [eq_of_toString_eq hcount]

/-- The words for a refused pattern determine the pattern and the reason. -/
theorem invalidPatternText_inj {pattern pattern' message message' : String} :
    invalidPatternText pattern message = invalidPatternText pattern' message' ↔
      pattern = pattern' ∧ message = message' := by
  have htext (pattern message : String) : invalidPatternText pattern message =
      "Invalid pattern " ++ (Text.quote pattern ++ (": " ++ message)) := by
    unfold invalidPatternText
    simp only [String.append_assoc]
  calc invalidPatternText pattern message = invalidPatternText pattern' message'
      ↔ Text.quote pattern ++ (": " ++ message) =
          Text.quote pattern' ++ (": " ++ message') := by
        rw [htext, htext]
        exact String.append_right_inj _
    _ ↔ pattern = pattern' ∧ ": " ++ message = ": " ++ message' := Text.quote_append_inj
    _ ↔ pattern = pattern' ∧ message = message' :=
      and_congr_right' (String.append_right_inj _)

/-- **How a pattern is shown identifies it.** Every pattern of the regular engine is shown by
some text, and two of them by the same text only if they are equal. Likewise the words for a
refused pattern tell which pattern is refused, and why. -/
theorem shown_identifies :
    (∀ p p' : Pattern, p.engine = .regular → p'.engine = .regular →
      ∃ text text', p.shown = some text ∧ p'.shown = some text' ∧ (text = text' ↔ p = p')) ∧
    ∀ pattern message pattern' message' : String,
      invalidPatternText pattern message = invalidPatternText pattern' message' ↔
        pattern = pattern' ∧ message = message' := by
  constructor
  · intro p p' hp hp'
    have hshown {q : Pattern} (hq : q.engine = .regular) : ∃ text, q.shown = some text := by
      rw [Pattern.shown, hq]
      exact ⟨_, rfl⟩
    obtain ⟨text, htext⟩ := hshown hp
    obtain ⟨text', htext'⟩ := hshown hp'
    have hinj := Pattern.shown_inj hp hp'
    rw [htext, htext', Option.some.injEq] at hinj
    exact ⟨text, text', htext, htext', hinj⟩
  · intro pattern message pattern' message'
    exact invalidPatternText_inj

/-- A text that imitates the number of open groups behind it, and a pattern that has this
number. -/
theorem shown_identifies_imitation :
    let p : Pattern := { text := "a\", open_options: 1, engine: RegexEngine \x7d" }
    let p' : Pattern := { text := "a", openOptions := 1 }
    p.engine = .regular ∧ p'.engine = .regular ∧
      ∃ text text', p.shown = some text ∧ p'.shown = some text' ∧ text ≠ text' := by
  intro p p'
  obtain ⟨text, text', htext, htext', hiff⟩ := shown_identifies.1 p p' rfl rfl
  exact ⟨rfl, rfl, text, text', htext, htext', mt hiff.1 (by decide)⟩

end PatternAssembly
