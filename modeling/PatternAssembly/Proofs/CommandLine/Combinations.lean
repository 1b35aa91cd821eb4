import PatternAssembly.Proofs.CommandLine.Order

/-!
# Options that go together

Every option but three occurs once at most, the number of matches and replacements are not
both asked for, and all matches are replaced only where some are. A command line is accepted
if its options obey these rules, however they are written and in whatever order. There is one
more that is accepted: an option that another one excludes is not missed, so asking for the
number lifts what replacing all matches needs.

## Main definitions

* `Given`: an option with a value occurs
* `Compatible`: no option occurs too often, and none excludes another
* `Declared`: the options are also there that others need

## Main statements

* `Arguments.fits_iff`: what is checked at the end, by the options that occur
* `exists_read_iff`: when a command line is accepted
* `refusal_of_read`: for what reason it is refused
* `accepted_iff_declared`: the rules for command lines, and where asking for the number lifts
  one
-/
namespace PatternAssembly.CommandLine

open Occurrence

variable {a : Arguments} {os : List Occurrence} {args : List String}

/-! ## Rules -/

/-- An option occurs with a value. -/
def Given (o : ValueOption) (os : List Occurrence) : Prop := ∃ v, .value o v ∈ os

/-- No option occurs too often, and the number of matches and replacements are not both asked
for. -/
structure Compatible (os : List Occurrence) : Prop where
  switches : ∀ s, os.count (.switch s) ≤ 1
  values : ∀ o, o.repeatable = false → (valuesOf o os).length ≤ 1
  exclusive : ¬(.switch .count ∈ os ∧ Given .replace os)

/-- The options obey all rules: to replace all matches also needs replacements. -/
structure Declared (os : List Occurrence) : Prop extends Compatible os where
  required : .switch .all ∈ os → Given .replace os

/-- An option occurs if it has values. -/
theorem given_iff {o : ValueOption} : Given o os ↔ valuesOf o os ≠ [] := by
  constructor
  · rintro ⟨v, hv⟩
    exact List.ne_nil_of_mem (mem_valuesOf.2 hv)
  · intro h
    obtain ⟨v, hv⟩ := List.exists_mem_of_ne_nil _ h
    exact ⟨v, mem_valuesOf.1 hv⟩

/-- Options are taken together if none occurs too often. -/
theorem exists_foldlM_iff (hown : ∀ s, .switch s ∈ os → s ≠ .help ∧ s ≠ .version) :
    (∃ a, os.foldlM addTo {} = .ok a) ↔ (∀ s, os.count (.switch s) ≤ 1) ∧
      ∀ o, o.repeatable = false → (valuesOf o os).length ≤ 1 := by
  have hvalues (o : ValueOption) : ({} : Arguments).values o = [] := by cases o <;> rfl
  have hhas (s : Switch) : ({} : Arguments).has s = false := by cases s <;> rfl
  rw [exists_foldlM_addTo_iff]
  constructor
  · intro h
    exact ⟨fun s => by simpa [hhas] using h.switches s, fun o ho => by
      simpa [hvalues] using h.values o ho⟩
  · rintro ⟨hswitches, hlengths⟩
    exact ⟨fun o ho => by simpa [hvalues] using hlengths o ho, fun s => by
      simpa [hhas] using hswitches s, hown⟩

/-! ## What is checked at the end -/

section

variable (h : os.foldlM addTo {} = .ok a)
include h

theorem has_iff_mem (s : Switch) : a.has s = true ↔ .switch s ∈ os := by
  have hnone : ({} : Arguments).has s = false := by cases s <;> rfl
  rw [has_of_foldlM_addTo h, hnone, Bool.false_or, List.contains_iff_mem]

theorem replace_ne_none_iff : a.replace ≠ none ↔ Given .replace os := by
  have hvalues : a.replace.toList = valuesOf .replace os := values_of_foldlM_addTo h .replace
  rw [given_iff, ← hvalues]
  cases a.replace <;> simp

/-- What is checked at the end, by the options that occur. -/
theorem Arguments.fits_iff :
    a.Fits ↔ ¬(.switch .count ∈ os ∧ Given .replace os) ∧
      (.switch .all ∈ os → Given .replace os ∨ .switch .count ∈ os) := by
  have hcount : a.count = true ↔ .switch .count ∈ os := has_iff_mem h .count
  have hall : a.all = true ↔ .switch .all ∈ os := has_iff_mem h .all
  rw [Fits, hcount, hall, replace_ne_none_iff h, not_and, ← replace_ne_none_iff h, not_not]

end

/-- What does not go together excludes each other, or else lacks something. -/
theorem ArgumentReader.finish_eq_error {e : UsageError}
    (h : ({ arguments := a } : ArgumentReader).finish = .error e) :
    (e = .conflict ∧ a.count = true ∧ a.replace ≠ none) ∨
      (e = .missingOption ∧ ¬(a.count = true ∧ a.replace ≠ none)) := by
  change (if _ then _ else if _ then _ else _) = _ at h
  split at h
  · rename_i hboth
    rw [Bool.and_eq_true, Option.isSome_iff_ne_none] at hboth
    exact .inl ⟨(Except.error.inj h).symm, hboth⟩
  · rename_i hnot
    rw [Bool.and_eq_true, Option.isSome_iff_ne_none] at hnot
    split at h
    · exact .inr ⟨(Except.error.inj h).symm, hnot⟩
    · cases h

/-! ## Command lines -/

/-- A command line is accepted if its options go together. What replacing all matches needs
may be missing where it would be excluded. -/
theorem exists_read_iff (h : Written os args) :
    (∃ a, Arguments.read args = .ok a) ↔
      Compatible os ∧ (.switch .all ∈ os → Given .replace os ∨ .switch .count ∈ os) := by
  have hfold := exists_foldlM_iff (own_of_written h)
  constructor
  · rintro ⟨a, ha⟩
    obtain ⟨hok, hfits⟩ := (read_eq_ok_iff_of_written h).1 ha
    obtain ⟨hswitches, hvalues⟩ := hfold.1 ⟨a, hok⟩
    obtain ⟨hexclusive, hall⟩ := (Arguments.fits_iff hok).1 hfits
    exact ⟨⟨hswitches, hvalues, hexclusive⟩, hall⟩
  · rintro ⟨hcompatible, hall⟩
    obtain ⟨a, hok⟩ := hfold.2 ⟨hcompatible.switches, hcompatible.values⟩
    have hfits : a.Fits := (Arguments.fits_iff hok).2 ⟨hcompatible.exclusive, hall⟩
    exact ⟨a, (read_eq_ok_iff_of_written h).2 ⟨hok, hfits⟩⟩

/-- A command line is refused because options occur too often or exclude each other, and only
if none does, for lack of one. -/
theorem refusal_of_read {e : UsageError} (h : Written os args)
    (he : Arguments.read args = .error e) :
    (e = .conflict ∧ ¬Compatible os) ∨ (e = .missingOption ∧ Compatible os) := by
  have hfold := exists_foldlM_iff (own_of_written h)
  rw [read_of_written h] at he
  -- What occurs too often is refused while the options are taken together, all else at the
  -- end.
  cases hos : os.foldlM addTo {} with
  | error e' =>
    rw [hos] at he
    obtain rfl := Except.error.inj he
    refine .inl ⟨foldlM_addTo_eq_error hos (own_of_written h), fun hcompatible => ?_⟩
    obtain ⟨a, ha⟩ := hfold.2 ⟨hcompatible.switches, hcompatible.values⟩
    rw [hos] at ha
    cases ha
  | ok a =>
    rw [hos] at he
    obtain ⟨hswitches, hvalues⟩ := hfold.1 ⟨a, hos⟩
    have hasked : a.count = true ↔ .switch .count ∈ os := has_iff_mem hos .count
    rcases ArgumentReader.finish_eq_error he with ⟨rfl, hcount, hreplace⟩ | ⟨rfl, hnot⟩
    · refine .inl ⟨rfl, fun hcompatible => hcompatible.exclusive ?_⟩
      exact ⟨hasked.1 hcount, (replace_ne_none_iff hos).1 hreplace⟩
    · rw [hasked, replace_ne_none_iff hos] at hnot
      exact .inr ⟨rfl, hswitches, hvalues, hnot⟩

/-- **A command line is accepted if its options go together.** None occurs too often, the
number of matches and replacements are not both asked for, and all matches are to be replaced
only if some are. This last rule does not hold where the number is asked for: the option that
it needs would be excluded there, and is not missed. Options that exclude each other are
reported before one that is missing. -/
theorem accepted_iff_declared (h : Written os args) :
    ((.switch .count ∈ os → .switch .all ∈ os → Given .replace os) →
      ((∃ a, Arguments.read args = .ok a) ↔ Declared os)) ∧
    (.switch .count ∈ os → .switch .all ∈ os → ¬Given .replace os →
      ((∃ a, Arguments.read args = .ok a) ↔ Compatible os)) ∧
    ∀ e, Arguments.read args = .error e → e.exitCode = 2 ∧
      ((e = .conflict ∧ ¬Compatible os) ∨ (e = .missingOption ∧ Compatible os)) := by
  refine ⟨fun hneeded => ?_, fun hcount hall hmissing => ?_, fun e he => ?_⟩
  · rw [exists_read_iff h]
    constructor
    -- Beside the number of matches nothing is required, but there the replacements are given.
    · rintro ⟨hcompatible, hall⟩
      exact ⟨hcompatible, fun hmem => (hall hmem).elim id fun hcount => hneeded hcount hmem⟩
    · intro hdeclared
      exact ⟨hdeclared.toCompatible, fun hmem => .inl (hdeclared.required hmem)⟩
  · rw [exists_read_iff h]
    exact ⟨And.left, fun hcompatible => ⟨hcompatible, fun _ => .inr hcount⟩⟩
  · have hrefusal := refusal_of_read h he
    refine ⟨?_, hrefusal⟩
    rcases hrefusal with ⟨rfl, -⟩ | ⟨rfl, -⟩ <;> rfl

theorem spelled_all : Spelled [.switch .all] ["--all"] := by
  rw [show "--all" = "--" ++ "all" by decide]
  exact .switch (by decide) (by decide)

theorem written_count_all : Written [.switch .count, .switch .all] ["--count", "--all"] := by
  have hcount : Spelled [.switch .count] ["--count"] := by
    rw [show "--count" = "--" ++ "count" by decide]
    exact .switch (by decide) (by decide)
  exact .append hcount (.append spelled_all .nil)

/-- All matches are replaced in three ways: with replacements, beside the number of matches,
and with neither. -/
theorem accepted_iff_declared_all :
    (Declared [.switch .all, .value .replace "x"] ∧
      ∃ a, Arguments.read ["-ar", "x"] = .ok a) ∧
    (¬Given .replace [.switch .count, .switch .all] ∧
      ∃ a, Arguments.read ["--count", "--all"] = .ok a) ∧
    Arguments.read ["--all"] = .error .missingOption ∧ Compatible [.switch .all] := by
  have hcluster : Spelled [.switch .all, .value .replace "x"] ["-ar", "x"] := by
    rw [show "-ar" = String.ofList ['-', 'a', 'r'] by decide]
    exact .letters (.switch (by decide) (by decide) (.separate (by decide) (by decide)))
  have hgiven : Given .replace [.switch .all, .value .replace "x"] := ⟨"x", by decide⟩
  have hdeclared : Declared [.switch .all, .value .replace "x"] :=
    ⟨⟨by intro s; cases s <;> decide, by intro o; cases o <;> decide,
      fun h => absurd h.1 (by decide)⟩, fun _ => hgiven⟩
  have hmissing : ¬Given .replace [.switch .count, .switch .all] := by
    rintro ⟨v, hv⟩
    simp at hv
  have hcompatible : Compatible [.switch .count, .switch .all] :=
    ⟨by intro s; cases s <;> decide, by intro o; cases o <;> decide, fun h => hmissing h.2⟩
  have hrefused : Arguments.read ["--all"] = .error .missingOption := by decide +kernel
  obtain ⟨hrules, -⟩ := accepted_iff_declared (.append hcluster .nil)
  obtain ⟨-, hlifted, -⟩ := accepted_iff_declared written_count_all
  obtain ⟨-, -, hrefusal⟩ := accepted_iff_declared (.append spelled_all .nil)
  refine ⟨⟨hdeclared, (hrules fun _ _ => hgiven).2 hdeclared⟩,
    ⟨hmissing, (hlifted (by decide) (by decide) hmissing).2 hcompatible⟩, hrefused, ?_⟩
  obtain ⟨-, ⟨heq, -⟩ | ⟨-, hall⟩⟩ := hrefusal _ hrefused
  · cases heq
  · exact hall

/-- Asking for the number lifts the rule that to replace all matches needs replacements. -/
theorem all_accepted_beside_count :
    Written [.switch .count, .switch .all] ["--count", "--all"] ∧
      Arguments.read ["--count", "--all"] = .ok { count := true, all := true } ∧
      ¬Declared [.switch .count, .switch .all] := by
  refine ⟨written_count_all, by decide +kernel, fun h => ?_⟩
  obtain ⟨v, hv⟩ := h.required (by decide)
  simp at hv

end PatternAssembly.CommandLine
