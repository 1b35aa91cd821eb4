import PatternAssembly.Proofs.Pattern.Chains
import PatternAssembly.Proofs.Pattern.Languages
import PatternAssembly.Proofs.Pattern.Searches
import PatternAssembly.Proofs.Text.Windows

/-!
# Literals

Literal pieces, one after another, match the text that they make up, and nothing else. The
pattern that they assemble is the escaped text, so it does not matter where the text is cut
into pieces; no flag but the one for case has a part in what is found.

## Main definitions

* `sameChar`: equality of characters, with or without regard to case
* `Pattern.literals`: the pattern of some literals

## Main statements

* `Meaning.spelled_iff_shows`: a text is spelled where it is shown
* `compile_escape`: an escaped text is refused for its size alone
* `literals_show_themselves`: what searches for literals yield
-/
namespace PatternAssembly

/-- The characters are equal, or, where case is ignored, they fold to the same one. -/
def sameChar (ignoreCase : Bool) (c d : Char) : Bool :=
  if ignoreCase then Unicode.fold c.toNat == Unicode.fold d.toNat else c == d

/-- Where case counts, only a text itself is equal to it. -/
@[simp] theorem isEqv_sameChar_false {cs ds : List Char} :
    cs.isEqv ds (sameChar false) = true ↔ cs = ds := by
  have hsame : sameChar false = (· == ·) := by
    funext c d
    rfl
  rw [hsame, List.isEqv_eq]

/-- What is the same where case counts is the same where it does not. -/
theorem sameChar_mono {ignoreCase : Bool} (c d : Char) (h : sameChar ignoreCase c d = true) :
    sameChar true c d = true := by
  cases ignoreCase with
  | true => exact h
  | false =>
    obtain rfl : c = d := beq_iff_eq.1 h
    exact beq_iff_eq.2 rfl

/-! ## Spelled and shown -/

variable {m : Modes}

/-- Variants fold to one code point, those of ASCII too. -/
theorem Folding.fold_eq_of_mem_variants {f : Folding} {n v : Nat} (h : v ∈ f.variants n) :
    Unicode.fold v = Unicode.fold n := by
  cases f with
  | simple => exact Unicode.mem_variants_iff.1 h
  | ascii =>
    have hcases : (asciiCases.all fun c => c.2.all fun v =>
        Unicode.fold v == Unicode.fold c.1) = true := by decide +kernel
    by_cases hn : (n, Folding.ascii.variants n) ∈ asciiCases
    · exact beq_iff_eq.1 (List.all_eq_true.1 (List.all_eq_true.1 hcases _ hn) v h)
    · rw [CharSet.variants_of_not_mem_cases (f := .ascii) hn, List.mem_singleton] at h
      rw [h]

/-- What counts as a character folds as it does, or where case counts is that character. -/
theorem Modes.sameChar_of_has_charSet {c d : Char} (h : (m.charSet c).has d = true) :
    sameChar m.ignoreCase c d = true := by
  rw [charSet] at h
  rw [sameChar]
  by_cases hcase : m.ignoreCase = true
  · rw [if_pos hcase, CharSet.has, CharSet.hasCode_ofCodes, List.contains_iff_mem] at h
    rw [if_pos hcase, beq_iff_eq, Folding.fold_eq_of_mem_variants h]
  · rw [if_neg hcase, CharSet.has_single, decide_eq_true_iff] at h
    rw [if_neg hcase, beq_iff_eq, h]

/-- With Unicode, all that folds alike counts. -/
theorem Modes.has_charSet_iff (hm : m.unicode = true) (c d : Char) :
    (m.charSet c).has d = true ↔ sameChar m.ignoreCase c d = true := by
  refine ⟨sameChar_of_has_charSet, fun h => ?_⟩
  rw [charSet, folding, if_pos hm]
  rw [sameChar] at h
  by_cases hcase : m.ignoreCase = true
  · rw [if_pos hcase, beq_iff_eq] at h
    rw [if_pos hcase, CharSet.has, CharSet.hasCode_ofCodes, List.contains_iff_mem,
      Folding.variants, Unicode.mem_variants_iff, h]
  · rw [if_neg hcase, beq_iff_eq] at h
    rw [if_neg hcase, CharSet.has_single, decide_eq_true_iff, h]

theorem shows_nil_iff {same : Char → Char → Bool} {text : Array Char} {i j : Nat}
    (hi : i ≤ text.size) : Shows same [] text i j ↔ i = j := by
  constructor
  · intro h
    exact h.stop_eq.symm
  · rintro rfl
    exact ⟨Nat.le_refl i, hi, by rw [slice_self, List.isEqv_nil_nil]⟩

theorem shows_cons_iff {same : Char → Char → Bool} {c : Char} {cs : List Char}
    {text : Array Char} {i j : Nat} : Shows same (c :: cs) text i j ↔
      ∃ d, text[i]? = some d ∧ same c d = true ∧ Shows same cs text (i + 1) j := by
  constructor
  · intro h
    have hlt := h.lt (List.cons_ne_nil c cs)
    obtain ⟨-, hj, h⟩ := h
    rw [slice_eq_cons hlt hj, List.isEqv_cons_cons, Bool.and_eq_true] at h
    exact ⟨text[i], Array.getElem?_eq_getElem (by omega), h.1, hlt, hj, h.2⟩
  · rintro ⟨d, hd, hcd, hlt, hj, h⟩
    obtain ⟨hi, rfl⟩ := Array.getElem?_eq_some_iff.1 hd
    refine ⟨by omega, hj, ?_⟩
    rw [slice_eq_cons hlt hj, List.isEqv_cons_cons, hcd, h]
    rfl

/-- A text is spelled only where a stretch shows it. -/
theorem Meaning.shows_of_spelled {cs : List Char} {text : Array Char} {i j : Nat}
    (hi : i ≤ text.size) (h : spelled m cs text i j) :
    Shows (sameChar m.ignoreCase) cs text i j := by
  induction cs generalizing i with
  | nil => exact (shows_nil_iff hi).2 h
  | cons c cs ih =>
    obtain ⟨k, ⟨d, hd, hcd, rfl⟩, hrest⟩ := h
    have hlt := (Array.getElem?_eq_some_iff.1 hd).1
    exact shows_cons_iff.2 ⟨d, hd, Modes.sameChar_of_has_charSet hcd, ih hlt hrest⟩

/-- With Unicode, a text is spelled where a stretch shows it. -/
theorem Meaning.spelled_iff_shows (hm : m.unicode = true) {cs : List Char} {text : Array Char}
    {i j : Nat} (hi : i ≤ text.size) :
    spelled m cs text i j ↔ Shows (sameChar m.ignoreCase) cs text i j := by
  refine ⟨shows_of_spelled hi, fun h => ?_⟩
  induction cs generalizing i with
  | nil => exact (shows_nil_iff hi).1 h
  | cons c cs ih =>
    obtain ⟨d, hd, hcd, hrest⟩ := shows_cons_iff.1 h
    have hlt := (Array.getElem?_eq_some_iff.1 hd).1
    exact ⟨i + 1, ⟨d, hd, (Modes.has_charSet_iff hm c d).2 hcd, rfl⟩, ih hlt hrest⟩

/-- Where case counts, a stretch that shows a text is that text. -/
theorem exists_shows_iff_infix {cs : List Char} {text : Array Char} :
    (∃ i j, Shows (sameChar false) cs text i j) ↔ cs <:+: text.toList := by
  constructor
  · rintro ⟨i, j, h⟩
    obtain ⟨before, window, after, htext, -, -, h⟩ := shows_iff_exists.1 h
    obtain rfl := isEqv_sameChar_false.1 h
    exact ⟨before, after, htext.symm⟩
  · rintro ⟨before, after, h⟩
    exact ⟨_, _, shows_iff_exists.2
      ⟨before, cs, after, h.symm, rfl, rfl, isEqv_sameChar_false.2 rfl⟩⟩

/-! ## Compiled literals -/

theorem readsAsLeaves_escape (text : String) : ReadsAsLeaves (escapeLiteral text).toList := by
  rw [escapeLiteral, String.toList_ofList]
  generalize text.toList = cs
  induction cs with
  | nil => exact readsAsLeaves_nil
  | cons c cs ih =>
    rw [List.flatMap_cons]
    refine ReadsAsLeaves.append ?_ ih
    split
    · rename_i h
      exact readsAsLeaves_escaped h
    · rename_i h
      exact readsAsLeaves_char (not_sign_of_not_meta (by simpa using h))

/-- An escaped text is refused for its size alone, and else means itself. -/
theorem compile_escape (text : String) (flags : Flags) :
    Matcher.compile (escapeLiteral text) flags =
        .error (.invalidPattern (escapeLiteral text) (.tooBig sizeLimit)) ∨
      ∃ m, Matcher.compile (escapeLiteral text) flags = .ok m ∧
        m.Accepts (.spelled flags.modes text.toList) :=
  compile_of_leaves flags (readsAsPhrase_escape text) (readsAsLeaves_escape text)

/-- Literals one after another. -/
def Pattern.literals (vs : List String) : Pattern := ofSteps (vs.map .literal)

/-- Literals one after another are the escaped text that they make up. -/
theorem Pattern.text_literals (vs : List String) :
    (literals vs).text = escapeLiteral (String.join vs) := by
  apply String.toList_injective
  rw [literals, toList_text_ofSteps, escapeLiteral, String.toList_ofList, String.toList_join]
  simp only [List.flatMap_map, List.flatMap_assoc]
  refine List.flatMap_congr fun v _ => ?_
  show (escapeLiteral v).toList = _
  rw [escapeLiteral, String.toList_ofList]

namespace Matcher

variable {m : Matcher} {flags : Flags} {v : List Char}

/-- A text is found where it is a part of another. -/
theorem test_of_spelled (h : m.Accepts (.spelled ({} : Flags).modes v)) (t : String) :
    m.test t = decide (v <:+: t.toList) := by
  have hinfix : (∃ i j, Shows (sameChar false) v t.toList.toArray i j) ↔ v <:+: t.toList :=
    exists_shows_iff_infix
  rw [Bool.eq_iff_iff, test_iff h, decide_eq_true_iff, ← hinfix]
  constructor
  · rintro ⟨i, j, hi, h⟩
    exact ⟨i, j, (Meaning.spelled_iff_shows rfl hi).1 h⟩
  · rintro ⟨i, j, h⟩
    have hi := h.1.trans h.2.1
    exact ⟨i, j, hi, (Meaning.spelled_iff_shows rfl hi).2 h⟩

theorem shows_iff_accepts (h : m.Accepts (.spelled flags.modes v)) (text : Array Char)
    (i j : Nat) :
    Shows (sameChar flags.ignoreCase) v text i j ↔ i ≤ text.size ∧
      m.program.Accepts text i j := by
  constructor
  · intro hshows
    have hi := hshows.1.trans hshows.2.1
    exact ⟨hi, (h text i j).2 ((Meaning.spelled_iff_shows rfl hi).2 hshows)⟩
  · rintro ⟨hi, haccepts⟩
    exact (Meaning.spelled_iff_shows rfl hi).1 ((h text i j).1 haccepts)

/-- The texts of matches, by where these start and end. -/
theorem matchedTexts_eq (m : Matcher) (t : String) :
    m.matchedTexts t = ((m.found t.toList.toArray).map Match.span).map fun s =>
      String.ofList (slice t.toList.toArray s.1 s.2) := by
  rw [List.map_map]
  rfl

/-- All matches of a text are its windows; the empty text matches at every place. -/
theorem matchedTexts_of_spelled (h : m.Accepts (.spelled flags.modes v))
    (hglobal : m.global = true) (t : String) :
    m.matchedTexts t =
      if v = [] then List.replicate (t.toList.length + 1) ""
      else (Text.windows (sameChar flags.ignoreCase) v t.toList).map String.ofList := by
  rw [matchedTexts_eq, found, if_pos hglobal]
  generalize htext : t.toList.toArray = text
  rw [show t.toList = text.toList by rw [← htext]]
  split
  · rename_i hv
    subst hv
    rw [map_span_allMatches_of_empty fun i j _ => h text i j, List.map_map]
    rw [List.eq_replicate_iff]
    refine ⟨by simp, ?_⟩
    intro s hs
    obtain ⟨i, -, rfl⟩ := List.mem_map.1 hs
    simp only [Function.comp_apply, slice_self]
  · rename_i hv
    have hscan := scan_allMatches (shows_iff_accepts h text) fun i j hshows => hshows.lt hv
    rw [← slice_zero_size text, windows_of_scan hv hscan (Nat.zero_le _)]
    simp only [List.map_map]
    rfl

end Matcher

namespace Pattern

variable {p : Pattern} {v : String} (hp : p.engine = .regular) (hv : p.text = escapeLiteral v)
  (t : String)

include hp hv

/-- An escaped text is found where it is a part of another. -/
theorem result_isIn_escape : (p.isIn t).result =
    (Matcher.compile p.text {}).map fun _ => decide (v.toList <:+: t.toList) := by
  rw [result_isIn hp, hv]
  rcases compile_escape v {} with hm | ⟨m, hm, haccepts⟩
  · rw [hm]
    rfl
  · rw [hm]
    exact congrArg Except.ok (Matcher.test_of_spelled haccepts t)

/-- All matches of an escaped text are its windows. -/
theorem result_matchesIn_escape (o : SearchOptions) :
    (p.matchesIn t { o with allMatches := true }).result =
      (Matcher.compile p.text o.toFlags).map fun _ => listed
        (if v.toList = [] then List.replicate (t.toList.length + 1) ""
        else (Text.windows (sameChar !o.caseSensitive) v.toList t.toList).map
          String.ofList) := by
  rw [result_matchesIn hp, hv]
  show (Matcher.compile _ (o.toFlags.withGlobal true)).map _ = _
  rw [Matcher.compile_withGlobal]
  rcases compile_escape v o.toFlags with hm | ⟨m, hm, haccepts⟩
  · rw [hm]
    rfl
  · have haccepts' : { m with global := true }.Accepts (.spelled o.toFlags.modes v.toList) :=
      haccepts
    rw [hm]
    exact congrArg (fun texts => Except.ok (listed texts))
      (Matcher.matchedTexts_of_spelled haccepts' rfl t)

end Pattern

/-- **Literals show themselves.** A pattern of literals alone is refused for its size or not
at all. If it is not refused, it is found in exactly the texts of which the literals, put
together, are a part. All its matches are the windows that show them, whether or not anchors
hold at line ends; and if there is nothing to show, there is an empty match before each
character and one at the end. -/
theorem literals_show_themselves (vs : List String) :
    (∀ flags, Matcher.compile (Pattern.literals vs).text flags =
        .error (.invalidPattern (Pattern.literals vs).text (.tooBig sizeLimit)) ∨
      ∃ m, Matcher.compile (Pattern.literals vs).text flags = .ok m) ∧
    (∀ t : String, ((Pattern.literals vs).isIn t).result =
      (Matcher.compile (Pattern.literals vs).text {}).map fun _ =>
        decide ((String.join vs).toList <:+: t.toList)) ∧
    ∀ (t : String) (o : SearchOptions),
      ((Pattern.literals vs).matchesIn t { o with allMatches := true }).result =
        (Matcher.compile (Pattern.literals vs).text o.toFlags).map fun _ => listed
          (if (String.join vs).toList = [] then List.replicate (t.toList.length + 1) ""
          else (Text.windows (sameChar !o.caseSensitive) (String.join vs).toList
            t.toList).map String.ofList) := by
  have hp : (Pattern.literals vs).engine = .regular := by
    simp [Pattern.literals, Pattern.ofSteps, Pattern.create]
  have hv := Pattern.text_literals vs
  refine ⟨fun flags => ?_, Pattern.result_isIn_escape hp hv,
    Pattern.result_matchesIn_escape hp hv⟩
  rw [hv]
  rcases compile_escape (String.join vs) flags with hrefused | ⟨m, hm, -⟩
  · exact .inl hrefused
  · exact .inr ⟨m, hm⟩

end PatternAssembly
