import PatternAssembly.Proofs.Pattern.Items
import PatternAssembly.Proofs.Pattern.Words

/-!
# Numbers and colours

The fragments for numbers take a text as a whole, those for colours a part of it. What they
take is a grammar each: the order in which the engine tries things, how much it takes at first
and what it gives back have no part in it.

## Main definitions

* `Grammar.integers`, `Grammar.decimals`, `Grammar.fractions`: texts that are numbers
* `ShowsColor`: a text contains a colour

## Main statements

* `exists_color_iff`: the signs for colours ask for a maximal run of hexadecimal digits
* `shapes_recognise_grammars`: what searches for numbers and colours yield
-/
namespace PatternAssembly

open Language

/-! ## Numbers -/

/-- A character where case counts. -/
theorem has_charSet_iff_eq (c d : Char) : (({} : Modes).charSet c).has d = true ↔ d = c := by
  rw [Modes.charSet, if_neg (by decide), CharSet.has_single, decide_eq_true_iff]

namespace Grammar

/-- A minus sign or nothing. -/
def minus : Language Char := {[], ['-']}

/-- So many decimal digits at least, of whatever scripts. -/
def digitsFrom (lo : Nat) : Language Char :=
  {cs | lo ≤ cs.length ∧ ∀ c ∈ cs, Unicode.digitChars.has c = true}

/-- One of the characters. -/
def anyOf (chars : List Char) : Language Char := {cs | ∃ c ∈ chars, cs = [c]}

/-- Whole numbers: a minus sign or nothing, and digits. -/
def integers : Language Char := minus * digitsFrom 1

/-- A minus sign or nothing, digits or nothing, a point or a comma, and digits. -/
def decimals : Language Char := minus * digitsFrom 0 * (anyOf ['.', ','] * digitsFrom 1)

/-- Two whole numbers with a slash between them. -/
def fractions : Language Char := integers * (anyOf ['/'] * integers)

theorem spells_minus :
    (Meaning.times 0 (some 1) (.char (({} : Modes).charSet '-'))).Spells minus := by
  have hminus : minus = {cs : List Char | 0 ≤ cs.length ∧ (∀ h ∈ some 1, cs.length ≤ h) ∧
      ∀ c ∈ cs, c = '-'} := by
    ext cs
    change cs = [] ∨ cs = ['-'] ↔ 0 ≤ cs.length ∧ (∀ h ∈ some 1, cs.length ≤ h) ∧
      ∀ c ∈ cs, c = '-'
    rcases cs with - | ⟨c, - | ⟨d, cs⟩⟩ <;> simp
  exact hminus ▸ Meaning.spells_times_char (has_charSet_iff_eq '-') 0 (some 1)

theorem spells_digitsFrom (lo : Nat) :
    (Meaning.times lo none (.shorthand .digit false)).Spells (digitsFrom lo) := by
  have h := Meaning.spells_times_char (s := Tree.classSet false (Shorthand.digit.set true))
    (p := fun c => Unicode.digitChars.has c = true) (fun c => Iff.rfl) lo none
  simp only [Option.mem_def, reduceCtorEq, false_implies, implies_true, true_and] at h
  exact h

theorem spells_integers : (Meaning.wholeNumber {}).Spells integers := by
  have h := Meaning.spells_inARow (.cons spells_minus (.cons (spells_digitsFrom 1) .nil))
  simp only [List.prod_cons, List.prod_nil, mul_one] at h
  exact h

/-- A class of characters where case counts. -/
theorem spells_anyOf (chars : List Char) :
    (Meaning.bracket {} (chars.map .char)).Spells (anyOf chars) := by
  have hset (c : Char) : (({} : Modes).classSet false (chars.map .char)).has c = true ↔
      c ∈ chars := by
    simp [has_classSet_iff, ClassItem.set]
  have hL : Meaning.ofChars (· ∈ chars) = anyOf chars := by
    ext cs
    exact exists_congr fun c => and_comm
  exact hL ▸ Meaning.spells_char hset

/-- Numbers with a point or a comma, by their parts. -/
theorem spells_decimals : (Meaning.inARow [
    .inARow [.times 0 (some 1) (.char (({} : Modes).charSet '-')),
      .times 0 none (.shorthand .digit false)],
    .bracket {} [.char '.', .char ','], .times 1 none (.shorthand .digit false)]).Spells
      decimals := by
  have hstart := Meaning.spells_inARow (.cons spells_minus (.cons (spells_digitsFrom 0) .nil))
  have h := Meaning.spells_inARow (.cons hstart (.cons (spells_anyOf ['.', ','])
    (.cons (spells_digitsFrom 1) .nil)))
  simp only [List.prod_cons, List.prod_nil, mul_one] at h
  exact h

theorem spells_fractions : (Meaning.inARow [.wholeNumber {}, .bracket {} [.char '/'],
    .wholeNumber {}]).Spells fractions := by
  have h := Meaning.spells_inARow (.cons spells_integers (.cons (spells_anyOf ['/'])
    (.cons spells_integers .nil)))
  simp only [List.prod_cons, List.prod_nil, mul_one] at h
  exact h

end Grammar

/-- A fragment alone. -/
def Pattern.shape (s : Shape) : Pattern := ofSteps [.shape s]

/-- What compiles is found where the text contains something that is meant. -/
theorem Pattern.isIn_shape {s : Shape} (hs : (Matcher.compile s.fragment {}).isOk = true)
    (t : String) :
    (Pattern.shape s).IsInIff t
      (∃ i j, i ≤ t.toList.toArray.size ∧ s.meaning {} t.toList.toArray i j) := by
  have htext : (Pattern.shape s).text = s.fragment := String.empty_append
  have hphrase : ReadsAsPhrase {} (Pattern.shape s).text.toList (s.meaning {}) :=
    htext ▸ readsAsPhrase_shape rfl s
  exact (isIn_of_phrase rfl hphrase t).resolve_left (not_atLimit rfl (htext ▸ hs) t)

/-- Between the two ends of a text, a fragment takes a language. -/
theorem Pattern.isIn_shape_whole {s : Shape} {Ss : List Meaning} {L : Language Char}
    (hs : (Matcher.compile s.fragment {}).isOk = true)
    (hmeaning : s.meaning {} = .inARow (.place .textStart :: (Ss ++ [.place .textEnd])))
    (hSs : (Meaning.inARow Ss).Spells L) (t : String) :
    (Pattern.shape s).IsInIff t (t.toList ∈ L) := by
  refine (isIn_shape hs t).congr ?_
  rw [hmeaning, Meaning.inARow_cons, Meaning.inARow_append, Meaning.inARow_cons,
    Meaning.inARow_nil, Meaning.andThen_nothing]
  exact exists_whole_iff hSs t

/-! ## Colours -/

/-- A hexadecimal digit of ASCII. -/
def IsHexDigit (c : Char) : Prop :=
  'a' ≤ c ∧ c ≤ 'f' ∨ 'A' ≤ c ∧ c ≤ 'F' ∨ '0' ≤ c ∧ c ≤ '9'

/-- A `#` stands in the text, first or behind a character of no word, and the characters of
words that follow it, as far as they go, are six or three hexadecimal digits. -/
def ShowsColor (text : List Char) : Prop :=
  ∃ before after, text = before ++ '#' :: after ∧
    (∀ c ∈ before.getLast?, Unicode.isWord c = false) ∧
    ((after.takeWhile Unicode.isWord).length = 6 ∨
      (after.takeWhile Unicode.isWord).length = 3) ∧
    ∀ c ∈ after.takeWhile Unicode.isWord, IsHexDigit c

theorem isWord_of_isHexDigit {c : Char} (h : IsHexDigit c) : Unicode.isWord c = true := by
  have hall : ∀ n < 103, (48 ≤ n ∧ n ≤ 57 ∨ 65 ≤ n ∧ n ≤ 70 ∨ 97 ≤ n ∧ n ≤ 102) →
      Unicode.isWord (Char.ofNat n) = true := by decide +kernel
  have hcode : c.toNat < 103 ∧
      (48 ≤ c.toNat ∧ c.toNat ≤ 57 ∨ 65 ≤ c.toNat ∧ c.toNat ≤ 70 ∨
        97 ≤ c.toNat ∧ c.toNat ≤ 102) := by
    rcases h with ⟨hlo, hhi⟩ | ⟨hlo, hhi⟩ | ⟨hlo, hhi⟩
    · have hlo : 97 ≤ c.toNat := hlo
      have hhi : c.toNat ≤ 102 := hhi
      omega
    · have hlo : 65 ≤ c.toNat := hlo
      have hhi : c.toNat ≤ 70 := hhi
      omega
    · have hlo : 48 ≤ c.toNat := hlo
      have hhi : c.toNat ≤ 57 := hhi
      omega
  have hword := hall c.toNat hcode.1 hcode.2
  rwa [Char.ofNat_toNat] at hword

/-- Before a character of no word, a word ends or nothing does. -/
theorem isBoundary_cons_iff {xs ys : List Char} {c : Char} (hc : Unicode.isWord c = false) :
    IsBoundary xs (c :: ys) ↔ ∃ d ∈ xs.getLast?, Unicode.isWord d = true := by
  simp [IsBoundary, hc, Xor]

/-- Behind a character of a word, that word ends or goes on. -/
theorem isBoundary_append_iff {xs ys : List Char} {c : Char} (hc : Unicode.isWord c = true) :
    IsBoundary (xs ++ [c]) ys ↔ ∀ d ∈ ys.head?, Unicode.isWord d = false := by
  simp [IsBoundary, hc, Xor]

/-- A text in front is as far as a condition goes, if all of it has the condition and what
follows does not start with it. -/
theorem takeWhile_append_eq {p : Char → Bool} {run rest : List Char}
    (hrun : ∀ c ∈ run, p c = true) (hrest : ∀ c ∈ rest.head?, p c = false) :
    (run ++ rest).takeWhile p = run := by
  rw [List.takeWhile_append_of_pos hrun]
  cases rest with
  | nil => rw [List.takeWhile_nil, List.append_nil]
  | cons c rest => rw [List.takeWhile_cons_of_neg (by simp [hrest c rfl]), List.append_nil]

theorem head?_dropWhile_eq_false {p : Char → Bool} (cs : List Char) :
    ∀ c ∈ (cs.dropWhile p).head?, p c = false := by
  intro c hc
  have h := List.head?_dropWhile_not p cs
  rwa [Option.mem_def.1 hc] at h

/-- So many hexadecimal digits. -/
def Grammar.hexRuns (n : Nat) : Language Char := {cs | cs.length = n ∧ ∀ c ∈ cs, IsHexDigit c}

theorem Grammar.spells_hexRuns (n : Nat) :
    (Meaning.times n (some n) (.bracket {} hexDigits)).Spells (hexRuns n) := by
  have hset (c : Char) :
      (({} : Modes).classSet false hexDigits).has c = true ↔ IsHexDigit c := by
    rw [has_classSet_iff rfl]
    simp [hexDigits, ClassItem.set, has_range_iff, IsHexDigit, -CharSet.has_range]
  have hL : hexRuns n = {cs : List Char | n ≤ cs.length ∧ (∀ h ∈ some n, cs.length ≤ h) ∧
      ∀ c ∈ cs, IsHexDigit c} := by
    ext cs
    change cs.length = n ∧ _ ↔ n ≤ cs.length ∧ (∀ h ∈ some n, cs.length ≤ h) ∧ _
    simp only [Option.mem_some_iff, forall_eq']
    rw [← and_assoc, ← le_antisymm_iff, eq_comm]
  exact hL ▸ Meaning.spells_times_char hset n (some n)

/-- Colours, with nothing around them. -/
def Grammar.colors : Language Char := {['#']} * (hexRuns 6 + hexRuns 3)

theorem Grammar.spells_colors : (Meaning.inARow [.char (({} : Modes).charSet '#'),
    .oneOf [.times 6 (some 6) (.bracket {} hexDigits),
      .times 3 (some 3) (.bracket {} hexDigits)]]).Spells colors := by
  have hhash : Meaning.ofChars (· = '#') = {['#']} := by
    ext cs
    exact (exists_congr fun c => and_comm).trans exists_eq_left
  have hruns :=
    Meaning.spells_oneOf (.cons (spells_hexRuns 6) (.cons (spells_hexRuns 3) .nil))
  have h := Meaning.spells_inARow
    (.cons (hhash ▸ Meaning.spells_char (has_charSet_iff_eq '#')) (.cons hruns .nil))
  simp only [List.prod_cons, List.prod_nil, mul_one, List.sum_cons, List.sum_nil,
    add_zero] at h
  exact h

theorem Grammar.mem_colors_iff {cs : List Char} : cs ∈ colors ↔
    ∃ run, cs = '#' :: run ∧ (run.length = 6 ∨ run.length = 3) ∧ ∀ c ∈ run, IsHexDigit c := by
  rw [colors, Language.mem_mul]
  constructor
  · rintro ⟨_, rfl, run, ⟨hlength, hall⟩ | ⟨hlength, hall⟩, rfl⟩
    · exact ⟨run, rfl, .inl hlength, hall⟩
    · exact ⟨run, rfl, .inr hlength, hall⟩
  · rintro ⟨run, rfl, hlength | hlength, hall⟩
    · exact ⟨_, rfl, run, .inl ⟨hlength, hall⟩, rfl⟩
    · exact ⟨_, rfl, run, .inr ⟨hlength, hall⟩, rfl⟩

/-- A run of hexadecimal digits behind a `#` ends where the word does. -/
theorem stop_ends_iff {before run after : List Char} (hne : run ≠ [])
    (hrun : ∀ c ∈ run, IsHexDigit c) :
    WordPosition.stop.Ends (IsBoundary before ('#' :: run ++ after))
        (IsBoundary (before ++ '#' :: run) after) ↔
      (∀ c ∈ before.getLast?, Unicode.isWord c = false) ∧
        ∀ c ∈ after.head?, Unicode.isWord c = false := by
  obtain ⟨start, c, rfl⟩ := (List.eq_nil_or_concat run).resolve_left hne
  have hword : Unicode.isWord c = true := isWord_of_isHexDigit (hrun c (by simp))
  have hhash : Unicode.isWord '#' = false := by decide +kernel
  rw [WordPosition.Ends, List.cons_append, isBoundary_cons_iff hhash, List.concat_eq_append,
    ← List.cons_append, ← List.append_assoc, isBoundary_append_iff hword]
  simp

/-- The colours of a text are followed by no more of a word. -/
theorem exists_color_iff (text : List Char) :
    (∃ value ∈ Grammar.colors, WordPosition.stop.Occurs value text) ↔ ShowsColor text := by
  constructor
  · rintro ⟨value, hvalue, before, after, rfl, hends⟩
    obtain ⟨run, rfl, hlength, hhex⟩ := Grammar.mem_colors_iff.1 hvalue
    have hne : run ≠ [] := by
      rintro rfl
      simp at hlength
    obtain ⟨hbefore, hafter⟩ := (stop_ends_iff hne hhex).1 hends
    have hrun := takeWhile_append_eq (fun c hc => isWord_of_isHexDigit (hhex c hc)) hafter
    exact ⟨before, run ++ after, by simp, hbefore, by rwa [hrun], by rwa [hrun]⟩
  · rintro ⟨before, behind, rfl, hbefore, hlength, hhex⟩
    have hne : behind.takeWhile Unicode.isWord ≠ [] := by
      intro h
      simp [h] at hlength
    refine ⟨_, Grammar.mem_colors_iff.2 ⟨_, rfl, hlength, hhex⟩, before,
      behind.dropWhile Unicode.isWord, ?_, ?_⟩
    · rw [List.append_assoc, List.cons_append, List.takeWhile_append_dropWhile]
    · exact (stop_ends_iff hne hhex).2 ⟨hbefore, head?_dropWhile_eq_false behind⟩

/-! ## Searches -/

/-- **The fragments for numbers and colours recognise their grammars.** They all compile.
Those for numbers are in a text just if the whole of it is such a number, and the one for
colours if the text shows a colour. -/
theorem shapes_recognise_grammars (t : String) :
    (Pattern.shape .integer).IsInIff t (t.toList ∈ Grammar.integers) ∧
    (Pattern.shape .decimal).IsInIff t (t.toList ∈ Grammar.decimals) ∧
    (Pattern.shape .fraction).IsInIff t (t.toList ∈ Grammar.fractions) ∧
    (Pattern.shape .hexColor).IsInIff t (ShowsColor t.toList) := by
  refine ⟨?_, ?_, ?_, ?_⟩
  · have hspells : (Meaning.inARow [.wholeNumber {}]).Spells Grammar.integers := by
      rw [Meaning.inARow_cons, Meaning.inARow_nil, Meaning.andThen_nothing]
      exact Grammar.spells_integers
    exact Pattern.isIn_shape_whole (by decide +kernel) rfl hspells t
  · exact Pattern.isIn_shape_whole (by decide +kernel) rfl Grammar.spells_decimals t
  · exact Pattern.isIn_shape_whole (by decide +kernel) rfl Grammar.spells_fractions t
  · refine (Pattern.isIn_shape (by decide +kernel) t).congr ?_
    rw [← exists_color_iff, ← Meaning.exists_at_iff Grammar.spells_colors]
    simp only [Shape.meaning, WordPosition.places, Meaning.inARow_cons, Meaning.inARow_nil,
      Meaning.andThen_nothing, Meaning.andThen_assoc]

end PatternAssembly
