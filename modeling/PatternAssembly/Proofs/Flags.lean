import PatternAssembly.Matcher

/-!
# Flags are sets of letters

The letters of flags are read one after the other, and each sets its flag. So it only matters
which letters there are, neither how often nor in which order; of other characters the first
one is reported. Flags are written with their letters in one order, and read back as they
were.

## Main definitions

* `Flags.letters`: the letters that name flags
* `Flags.ofChars`: the flags that characters name
* `Flags.union`: the flags of both
* `Flags.NamedBy`: how flags and the text that names them belong together

## Main statements

* `Flags.foldlM_add`: what is read of some characters
* `Flags.parse_eq_ok_iff`, `Flags.parse_eq_error_iff`: when a text names flags, and what is
  reported if not
* `flags_parsed_as_sets`: the text of flags is the set of its letters
-/
namespace PatternAssembly

namespace Flags

variable {f : Flags} {c : Char} {cs : List Char} {text : String} {e : PatternError}

/-- The letters that name flags, in the order in which they are written. -/
def letters : List Char := ['g', 'm', 'i']

/-- The flags that are named by a letter among the characters. -/
def ofChars (cs : List Char) : Flags :=
  { global := cs.contains 'g', multiLine := cs.contains 'm', ignoreCase := cs.contains 'i' }

/-- The flags that are set in the first or in the second. -/
def union (f f' : Flags) : Flags :=
  { global := f.global || f'.global, multiLine := f.multiLine || f'.multiLine,
    ignoreCase := f.ignoreCase || f'.ignoreCase }

/-! ## Reading -/

@[simp] theorem union_ofChars_nil (f : Flags) : f.union (ofChars []) = f := by
  simp [union, ofChars]

theorem union_assoc (f₁ f₂ f₃ : Flags) : (f₁.union f₂).union f₃ = f₁.union (f₂.union f₃) := by
  simp [union, Bool.or_assoc]

theorem ofChars_append (cs ds : List Char) :
    ofChars (cs ++ ds) = (ofChars cs).union (ofChars ds) := by
  simp [ofChars, union]

/-- Only which letters there are counts. -/
theorem ofChars_congr {cs ds : List Char} (h : ∀ c, c ∈ cs ↔ c ∈ ds) :
    ofChars cs = ofChars ds := by
  simp [ofChars, h]

/-- A letter sets its flag, and no other. -/
theorem add_of_mem (h : c ∈ letters) : f.add c = .ok (f.union (ofChars [c])) := by
  simp only [letters, List.mem_cons, List.not_mem_nil, or_false] at h
  obtain rfl | rfl | rfl := h <;> simp [add, union, ofChars]

theorem add_of_notMem (h : c ∉ letters) : f.add c = .error c := by
  rw [add.eq_def]
  split
  · exact absurd (by decide) h
  · exact absurd (by decide) h
  · exact absurd (by decide) h
  · rfl

/-- The first character that is no letter is handed back. If there is none, the flags of the
letters are set, and those that were set before stay. -/
theorem foldlM_add (f : Flags) (cs : List Char) :
    cs.foldlM add f =
      match cs.find? (· ∉ letters) with
      | some c => .error c
      | none => .ok (f.union (ofChars cs)) := by
  -- The flags that are set so far change with each letter.
  induction cs generalizing f with
  | nil => simp [pure, Except.pure]
  | cons c cs ih =>
    rw [List.foldlM_cons, List.find?_cons]
    by_cases hc : c ∈ letters
    · rw [add_of_mem hc]
      show cs.foldlM add (f.union (ofChars [c])) = _
      simp only [ih, union_assoc, ← ofChars_append, hc, not_true_eq_false, decide_false,
        List.singleton_append]
    · rw [add_of_notMem hc]
      simp only [hc, not_false_eq_true, decide_true]
      rfl

theorem parse_eq (text : String) :
    parse text =
      match text.toList.find? (· ∉ letters) with
      | some c => .error (.unknownFlag c)
      | none => .ok (ofChars text.toList) := by
  have hunion : ({} : Flags).union (ofChars text.toList) = ofChars text.toList := by
    simp [union]
  rw [parse, ofText?, foldlM_add, hunion]
  cases text.toList.find? (· ∉ letters) <;> rfl

/-- A text names flags if it consists of their letters. -/
theorem parse_eq_ok_iff :
    parse text = .ok f ↔ (∀ c ∈ text.toList, c ∈ letters) ∧ f = ofChars text.toList := by
  rw [parse_eq]
  cases hfind : text.toList.find? (· ∉ letters) with
  | some c =>
    have hc : c ∉ letters := by simpa using List.find?_some hfind
    simp only [reduceCtorEq, false_iff, not_and]
    exact fun hall => absurd (hall c (List.mem_of_find?_eq_some hfind)) hc
  | none =>
    simp only [Except.ok.injEq]
    have hall : ∀ c ∈ text.toList, c ∈ letters := by simpa using List.find?_eq_none.1 hfind
    exact ⟨fun h => ⟨hall, h.symm⟩, fun h => h.2.symm⟩

/-- The first character that is no letter is reported, whatever stands around it. -/
theorem parse_eq_error_iff :
    parse text = .error e ↔ ∃ before c behind, text.toList = before ++ c :: behind ∧
      (∀ d ∈ before, d ∈ letters) ∧ c ∉ letters ∧ e = .unknownFlag c := by
  have hfind (c : Char) : text.toList.find? (· ∉ letters) = some c ↔ c ∉ letters ∧
      ∃ before behind, text.toList = before ++ c :: behind ∧ ∀ d ∈ before, d ∈ letters := by
    simp [List.find?_eq_some_iff_append]
  have herror : parse text = .error e ↔
      ∃ c, text.toList.find? (· ∉ letters) = some c ∧ e = .unknownFlag c := by
    rw [parse_eq]
    cases text.toList.find? (· ∉ letters) <;> simp [eq_comm]
  rw [herror]
  constructor
  · rintro ⟨c, hc, rfl⟩
    obtain ⟨hnot, before, behind, htext, hbefore⟩ := (hfind c).1 hc
    exact ⟨before, c, behind, htext, hbefore, hnot, rfl⟩
  · rintro ⟨before, c, behind, htext, hbefore, hnot, rfl⟩
    exact ⟨c, (hfind c).2 ⟨hnot, before, behind, htext, hbefore⟩, rfl⟩

/-! ## Writing -/

/-- Each letter is written once, in the order of the letters. -/
theorem toList_toText_ofChars (cs : List Char) :
    (ofChars cs).toText.toList = letters.filter (cs.contains ·) := by
  by_cases hg : 'g' ∈ cs <;> by_cases hm : 'm' ∈ cs <;> by_cases hi : 'i' ∈ cs <;>
    simp [toText, ofChars, letters, hg, hm, hi]

/-- Flags are read back as they were written. -/
theorem parse_toText (f : Flags) : parse f.toText = .ok f := by
  obtain ⟨_ | _, _ | _, _ | _⟩ := f <;> rfl

/-- The flags are those that a text names: each is set if its letter is there, and any text
with the same letters names the same flags. They are written with these letters, each once and
in one order, and read back. -/
structure NamedBy (f : Flags) (text : String) : Prop where
  global : f.global = true ↔ 'g' ∈ text.toList
  multiLine : f.multiLine = true ↔ 'm' ∈ text.toList
  ignoreCase : f.ignoreCase = true ↔ 'i' ∈ text.toList
  sameLetters : ∀ other : String, (∀ c, c ∈ other.toList ↔ c ∈ text.toList) →
    parse other = .ok f
  written : f.toText.toList = letters.filter (text.toList.contains ·)
  readBack : parse f.toText = .ok f

theorem namedBy_of_parse (h : parse text = .ok f) : f.NamedBy text := by
  obtain ⟨hall, rfl⟩ := parse_eq_ok_iff.1 h
  refine ⟨by simp [ofChars], by simp [ofChars], by simp [ofChars], ?_,
    toList_toText_ofChars _, parse_toText _⟩
  intro other hother
  exact parse_eq_ok_iff.2 ⟨fun c hc => hall c ((hother c).1 hc),
    ofChars_congr fun c => (hother c).symm⟩

end Flags

/-- **The text of flags is a set of letters.** It names flags if it has no other characters
than their letters, and then it names those whose letters it has; two texts together name the
flags of both. Of other characters the first one is reported, whatever comes before or after
it. -/
theorem flags_parsed_as_sets (text : String) :
    ((∃ f, Flags.parse text = .ok f) ↔ ∀ c ∈ text.toList, c ∈ ['g', 'm', 'i']) ∧
    (∀ f, Flags.parse text = .ok f → f.NamedBy text) ∧
    (∀ f other f', Flags.parse text = .ok f → Flags.parse other = .ok f' →
      Flags.parse (text ++ other) = .ok (f.union f')) ∧
    ∀ e, Flags.parse text = .error e ↔
      ∃ before c behind, text.toList = before ++ c :: behind ∧
        (∀ d ∈ before, d ∈ ['g', 'm', 'i']) ∧ c ∉ ['g', 'm', 'i'] ∧ e = .unknownFlag c := by
  refine ⟨?_, fun f => Flags.namedBy_of_parse, ?_, fun e => Flags.parse_eq_error_iff⟩
  · constructor
    · rintro ⟨f, hf⟩
      exact (Flags.parse_eq_ok_iff.1 hf).1
    · intro hall
      exact ⟨_, Flags.parse_eq_ok_iff.2 ⟨hall, rfl⟩⟩
  · intro f other f' hf hf'
    obtain ⟨hall, rfl⟩ := Flags.parse_eq_ok_iff.1 hf
    obtain ⟨hall', rfl⟩ := Flags.parse_eq_ok_iff.1 hf'
    rw [Flags.parse_eq_ok_iff, String.toList_append, Flags.ofChars_append]
    exact ⟨fun c hc => (List.mem_append.1 hc).elim (hall c) (hall' c), rfl⟩

/-- Repeated letters in another order, and more letters behind them. -/
theorem flags_parsed_as_sets_repeated :
    let f : Flags := { global := true, ignoreCase := true }
    let f' : Flags := { multiLine := true, ignoreCase := true }
    Flags.parse "igi" = .ok f ∧ f.NamedBy "igi" ∧ Flags.parse "im" = .ok f' ∧
      Flags.parse "igiim" = .ok { global := true, multiLine := true, ignoreCase := true } ∧
      Flags.parse "igxim?" = .error (.unknownFlag 'x') := by
  intro f f'
  have hf : Flags.parse "igi" = .ok f := rfl
  have hf' : Flags.parse "im" = .ok f' := rfl
  obtain ⟨-, hnamed, hunion, -⟩ := flags_parsed_as_sets "igi"
  exact ⟨hf, hnamed f hf, hf', hunion f "im" f' hf hf',
    ((flags_parsed_as_sets "igxim?").2.2.2 _).2
      ⟨['i', 'g'], 'x', ['i', 'm', '?'], by decide, by simp, by decide, rfl⟩⟩

end PatternAssembly
