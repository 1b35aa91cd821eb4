import PatternAssembly.Proofs.Expr.Memory
import PatternAssembly.Proofs.Pattern.Items
import PatternAssembly.Proofs.Pattern.Literals

/-!
# Steps that divide the characters

Digits and what is no digit, the characters of words and all others, blanks and all others,
the characters of a class and those outside of it: either step takes one character, and each
character is taken by one of the two. So the two of them, each on its own, divide every text.
A class is closed under case folding before it is negated, and line ends are characters as all
others.

None of these patterns is refused. The sets have few turns, so that they fit, whatever the
class is.

## Main definitions

* `Opposites`: two such steps, with `Opposites.holds` for the characters that the first one
  takes
* `Pattern.FindsEach`: a pattern finds the characters of a kind
* `Pattern.Covers`: a match of a pattern covers a character

## Main statements

* `Modes.length_turns_foldSet_le`: ASCII characters and their variants fit
* `compile_shorthand`, `compile_class`: the patterns are not refused
* `Matcher.matchedTexts_of_char`: the matches of a single set
* `opposites_divide_texts`: each pair divides every text
-/
namespace PatternAssembly

variable {text : String} {flags : Flags} {s : CharSet}

/-! ## Sets that fit -/

theorem length_turns_shorthand_le (kind : Shorthand) :
    (kind.set true).turns.length ≤ 1700 := by
  cases kind <;> decide +kernel

/-- A code point folds to itself, or as one of the runs says. -/
theorem Unicode.fold_cases (n : Nat) : fold n = n ∨
    ∃ r ∈ foldRuns, r.first ≤ n ∧ n ≤ r.last ∧ fold n = r.target + (n - r.first) := by
  rw [fold]
  split
  · rename_i r hr
    have hcovers : r.covers n = true := by simpa using List.find?_some hr
    simp only [FoldRun.covers, Bool.and_eq_true, decide_eq_true_eq] at hcovers
    exact .inr ⟨r, List.mem_of_find?_eq_some hr, hcovers.1.1, hcovers.1.2, rfl⟩
  · exact .inl rfl

/-- ASCII characters fold to ASCII characters. -/
theorem Unicode.fold_lt {n : Nat} (h : n < 128) : fold n < 128 := by
  have hruns : ∀ r ∈ foldRuns, r.first < 128 → r.target + (r.last - r.first) < 128 := by
    decide +kernel
  rcases fold_cases n with heq | ⟨r, hr, hfirst, hlast, heq⟩
  · rwa [heq]
  · have := hruns r hr (by omega)
    omega

/-- What folds to an ASCII character is one, but for the long s and the Kelvin sign. -/
theorem Unicode.mem_of_fold_lt {n : Nat} (h : fold n < 128) :
    n ∈ List.range 128 ++ [0x17F, 0x212A] := by
  have hruns : ∀ r ∈ foldRuns, r.target < 128 →
      r.last < 128 ∨ r.first = r.last ∧ r.first ∈ [0x17F, 0x212A] := by
    decide +kernel
  rw [List.mem_append, List.mem_range]
  rcases fold_cases n with heq | ⟨r, hr, hfirst, hlast, heq⟩
  · exact .inl (heq ▸ h)
  · rcases hruns r hr (by omega) with hascii | ⟨hone, hmem⟩
    · exact .inl (by omega)
    · obtain rfl : r.first = n := by omega
      exact .inr hmem

/-- ASCII characters and all that folds like one of them make few turns. -/
theorem Modes.length_turns_foldSet_le {m : Modes} (hm : m.unicode = true)
    (h : ∀ n, s.hasCode n = true → n < 128) : (m.foldSet s).turns.length ≤ 1700 := by
  have hcodes (n : Nat) (hn : (m.foldSet s).hasCode n = true) :
      n ∈ List.range 128 ++ [0x17F, 0x212A] := by
    rw [foldSet] at hn
    split at hn
    · rw [folding, if_pos hm] at hn
      obtain ⟨k, hfold, hk⟩ := (CharSet.hasCode_closure_simple s n).1 hn
      exact Unicode.mem_of_fold_lt (hfold ▸ Unicode.fold_lt (h k hk))
    · exact List.mem_append_left _ (List.mem_range.2 (h n hn))
  exact (CharSet.length_turns_le hcodes).trans (by simp)

theorem fits_classSet (h : s.turns.length ≤ 1700) (negated : Bool) :
    (Expr.ofSet (Tree.classSet negated s)).fits sizeLimit = true := by
  apply Expr.fits_ofSet
  cases negated with
  | false => exact h.trans (by decide)
  | true => exact s.length_turns_compl_le.trans (by omega)

/-- A class of one letter compiles. -/
theorem compile_shorthand (kind : Shorthand) (negated : Bool) (flags : Flags)
    (htext : text.toList = ['\\', shorthandLetter kind negated]) :
    ∃ m, Matcher.compile text flags = .ok m ∧
      m.Accepts (.char (Tree.classSet negated (kind.set true))) := by
  have hstep : (Reader.start text.toList).step =
      .ok ((Reader.start text.toList).push (.shorthand ⟨0, 2⟩ kind negated) ⟨2, []⟩) := by
    rw [htext]
    cases kind <;> cases negated <;> rfl
  have hwithin : (Tree.shorthand ⟨0, 2⟩ kind negated).Within 0 := fun room => by
    rw [Tree.tooDeep?]
  refine compile_of_step (by simp [htext]) hstep rfl hwithin (Nat.zero_le _) ?_
    (Expr.means_ofSet (filled_shorthand kind negated))
    (fits_classSet (length_turns_shorthand_le kind) negated)
  rw [Tree.resolve_shorthand, Tree.negateIn_unicode rfl]
  rfl

/-- A class of ASCII characters in brackets compiles. -/
theorem compile_class {items : List ClassItem} {negated : Bool} (flags : Flags)
    (htext : text.toList = classText negated items) (hne : items ≠ [])
    (hplain : ∀ i ∈ items, i.Plain)
    (hascii : ∀ n, (CharSet.unions (items.map ClassItem.set)).hasCode n = true → n < 128)
    (hfilled : ∃ d, (flags.modes.classSet negated items).has d = true) :
    ∃ m, Matcher.compile text flags = .ok m ∧
      m.Accepts (.char (flags.modes.classSet negated items)) := by
  have hat : (Reader.start text.toList).At (classText negated items ++ []) :=
    Reader.at_start (by rw [htext, List.append_nil])
  obtain ⟨ts, span, c, hstep, hc, hts⟩ := step_classText (m := flags.modes) rfl hne hplain hat
  obtain ⟨chars, hchars, hhas⟩ := toSet_ofItems hts span
  have heq := Modes.has_classSet_congr (m := flags.modes) negated hhas
  have hturns : (flags.modes.foldSet chars).turns.length ≤ 1700 :=
    Modes.length_turns_foldSet_le rfl fun n hn => hascii n (hhas n ▸ hn)
  rw [← Meaning.char_congr heq]
  refine compile_of_step (by simp [htext, classText]) hstep hc
    (hts.within_bracket _ span negated)
    (by decide) ?_ (Expr.means_ofSet (hfilled.imp fun d hd => (heq d).trans hd))
    (fits_classSet hturns negated)
  rw [Tree.resolve_bracket, hchars]
  show negateIn flags.modes _ negated (flags.modes.foldSet chars) >>= _ = _
  rw [Tree.negateIn_unicode rfl]
  rfl

/-! ## Characters one by one -/

/-- What is made of the places of characters is made of the characters at these places. -/
theorem map_findIdxs {α : Type} {f : Nat → α} {g : Char → α} (p : Char → Bool)
    {cs : List Char} {start : Nat} (h : ∀ i c, cs[i]? = some c → f (start + i) = g c) :
    (cs.findIdxs p start).map f = (cs.filter p).map g := by
  induction cs generalizing start with
  | nil => rfl
  | cons c cs ih =>
    have hhead : f start = g c := h 0 c rfl
    have hrest : (cs.findIdxs p (start + 1)).map f = (cs.filter p).map g := by
      refine ih fun i d hd => ?_
      rw [Nat.add_right_comm]
      exact h (i + 1) d hd
    rw [List.findIdxs_cons]
    by_cases hp : p c = true
    · rw [if_pos hp, List.filter_cons_of_pos hp, List.map_cons, List.map_cons, hhead, hrest]
    · rw [if_neg hp, List.filter_cons_of_neg hp, hrest]

namespace Matcher

variable {m : Matcher}

/-- The matches of a set are its characters, one by one. -/
theorem spans_of_char (h : m.Accepts (.char s)) (hglobal : m.global = true) (t : String) :
    (m.found t.toList.toArray).map Match.span =
      (t.toList.findIdxs s.has).map fun i => (i, i + 1) := by
  rw [found, if_pos hglobal]
  exact map_span_allMatches_of_char (h t.toList.toArray)

/-- The texts of the matches are those characters. -/
theorem matchedTexts_of_char (h : m.Accepts (.char s)) (hglobal : m.global = true)
    (t : String) :
    m.matchedTexts t = (t.toList.filter s.has).map String.singleton := by
  rw [matchedTexts_eq, spans_of_char h hglobal, List.map_map]
  refine map_findIdxs s.has fun i c hc => ?_
  obtain ⟨hi, rfl⟩ := List.getElem?_eq_some_iff.1 hc
  have hsize : i + 1 ≤ t.toList.toArray.size := hi
  rw [Nat.zero_add, Function.comp_apply, slice_eq_cons (Nat.lt_succ_self i) hsize, slice_self]
  exact String.singleton_eq_ofList.symm

end Matcher

/-! ## Patterns of one step -/

namespace Pattern

/-- The pattern finds the characters of a kind in a text, one by one and at their places, and
nothing else. -/
structure FindsEach (p : Pattern) (o : SearchOptions) (kind : Char → Bool) (t : String) :
    Prop where
  texts : (p.matchesIn t { o with allMatches := true }).result =
    .ok (listed ((t.toList.filter kind).map String.singleton))
  count : (p.countIn t o).result = .ok (t.toList.countP kind)
  places : ∃ m, Matcher.compile p.text (o.toFlags.withGlobal true) = .ok m ∧
    (m.found t.toList.toArray).map Match.span =
      (t.toList.findIdxs kind).map fun i => (i, i + 1)

/-- A match of the pattern covers the character at a place of the text. -/
def Covers (p : Pattern) (o : SearchOptions) (t : String) (i : Nat) : Prop :=
  ∃ m, Matcher.compile p.text (o.toFlags.withGlobal true) = .ok m ∧
    ∃ found ∈ m.found t.toList.toArray, found.start ≤ i ∧ i < found.stop

variable {p : Pattern} {o : SearchOptions} {t : String} {kind : Char → Bool}

/-- A pattern for a set finds the characters of it. -/
theorem findsEach_of_compile (hp : p.engine = .regular) {m : Matcher}
    (hm : Matcher.compile p.text o.toFlags = .ok m) (h : m.Accepts (.char s))
    (hkind : ∀ c, s.has c = kind c) : p.FindsEach o kind t := by
  obtain rfl : s.has = kind := funext hkind
  have hglobal : Matcher.compile p.text (o.toFlags.withGlobal true) =
      .ok { m with global := true } := by
    rw [Matcher.compile_withGlobal, hm]
    rfl
  have haccepts : { m with global := true }.Accepts (.char s) := h
  have htexts := Matcher.matchedTexts_of_char haccepts rfl t
  refine ⟨?_, ?_, _, hglobal, Matcher.spans_of_char haccepts rfl t⟩
  · rw [result_matchesIn hp]
    show (Matcher.compile p.text (o.toFlags.withGlobal true)).map _ = _
    rw [hglobal, Except.map, htexts]
  · rw [result_countIn hp, hm, Except.map, htexts, List.length_map,
      List.countP_eq_length_filter]

/-- What is found is covered. -/
theorem FindsEach.covers_iff (h : p.FindsEach o kind t) {i : Nat} :
    p.Covers o t i ↔ ∃ c, t.toList[i]? = some c ∧ kind c = true := by
  obtain ⟨m, hm, hspans⟩ := h.places
  constructor
  · rintro ⟨m', hm', found, hfound, hle, hlt⟩
    obtain rfl := Except.ok.inj (hm.symm.trans hm')
    have hspan := hspans ▸ List.mem_map_of_mem hfound
    obtain ⟨k, hk, heq⟩ := List.mem_map.1 hspan
    obtain ⟨hstart, hstop⟩ : k = found.start ∧ k + 1 = found.stop := Prod.ext_iff.1 heq
    obtain rfl : k = i := by omega
    obtain ⟨hlength, hkind⟩ := List.mem_findIdxs_iff_exists_getElem_pos.1 hk
    exact ⟨_, List.getElem?_eq_getElem hlength, hkind⟩
  · rintro ⟨c, hc, hkind⟩
    obtain ⟨hlength, rfl⟩ := List.getElem?_eq_some_iff.1 hc
    have hi := List.mem_findIdxs_iff_exists_getElem_pos.2 ⟨hlength, hkind⟩
    have hspan := hspans.symm ▸ List.mem_map_of_mem (f := fun i => (i, i + 1)) hi
    obtain ⟨found, hfound, heq⟩ := List.mem_map.1 hspan
    obtain ⟨hstart, hstop⟩ : found.start = i ∧ found.stop = i + 1 := Prod.ext_iff.1 heq
    exact ⟨m, hm, found, hfound, by omega, by omega⟩

end Pattern

/-- Two steps for one character each, such that one of them takes the characters that the
other one does not. -/
inductive Opposites where
  | digit
  | wordCharacter
  | space
  | characters (chars : String) (h : IsAlnum chars)

namespace Opposites

/-- The first of the steps, or the second. -/
def step : Opposites → (second : Bool) → Step
  | digit, second => .shape (if second then .nonDigit else .digit)
  | wordCharacter, second => .shape (if second then .nonWordCharacter else .wordCharacter)
  | space, second => .shape (if second then .nonSpace else .space)
  | characters chars _, second =>
    if second then .characterExcept chars else .characterOf chars

/-- The first step takes the character. Where case is ignored, a class is closed under simple
case folding. -/
def holds (ignoreCase : Bool) : Opposites → Char → Bool
  | digit, c => Unicode.digitChars.has c
  | wordCharacter, c => Unicode.wordChars.has c
  | space, c => Unicode.blankChars.has c
  | characters chars _, c => chars.toList.any fun d => sameChar ignoreCase d c

/-- The pattern of one of the steps alone. -/
def pattern (x : Opposites) (second : Bool) : Pattern := .ofSteps [x.step second]

/-- The set of a class, closed under case folding if case is ignored, and then negated. -/
theorem has_classSet_classOf (flags : Flags) (negated : Bool) (chars : String) (c : Char) :
    (flags.modes.classSet negated (classOf chars)).has c =
      (negated ^^ chars.toList.any fun d => sameChar flags.ignoreCase d c) := by
  rw [Modes.classSet, has_classSet]
  congr 1
  rw [Bool.eq_iff_iff, List.any_eq_true, Modes.foldSet]
  by_cases hcase : flags.ignoreCase = true
  · have hmodes : flags.modes.ignoreCase = true := hcase
    rw [if_pos hmodes, CharSet.has, show flags.modes.folding = .simple from rfl,
      CharSet.hasCode_closure_simple]
    simp only [hasCode_classOf_iff, sameChar, hcase, if_true, beq_iff_eq]
    constructor
    · rintro ⟨n, hfold, d, hd, rfl⟩
      exact ⟨d, hd, hfold⟩
    · rintro ⟨d, hd, hfold⟩
      exact ⟨d.toNat, hfold, d, hd, rfl⟩
  · have hmodes : ¬ flags.modes.ignoreCase = true := hcase
    rw [if_neg hmodes, CharSet.has, hasCode_classOf_iff]
    simp only [sameChar, hcase, if_false, beq_iff_eq, Bool.false_eq_true]
    exact exists_congr fun d => and_congr_right fun _ => Char.toNat_inj

/-- Both steps compile, and take the characters that they should. -/
theorem exists_compile (x : Opposites) (second : Bool) (flags : Flags) :
    ∃ m s, Matcher.compile (x.pattern second).text flags = .ok m ∧ m.Accepts (.char s) ∧
      ∀ c, s.has c = (second ^^ x.holds flags.ignoreCase c) := by
  have hshorthand (kind : Shorthand)
      (htext : (x.pattern second).text.toList = ['\\', shorthandLetter kind second]) :
      ∃ m s, Matcher.compile (x.pattern second).text flags = .ok m ∧ m.Accepts (.char s) ∧
        ∀ c, s.has c = (second ^^ (kind.set true).has c) := by
    obtain ⟨m, hm, haccepts⟩ := compile_shorthand kind second flags htext
    exact ⟨m, _, hm, haccepts, has_classSet second _⟩
  have htext : (x.pattern second).text.toList = (x.step second).chars := by
    rw [pattern, Pattern.toList_text_ofSteps, List.flatMap_singleton]
  cases x with
  | digit => exact hshorthand .digit (htext.trans (by cases second <;> rfl))
  | wordCharacter => exact hshorthand .word (htext.trans (by cases second <;> rfl))
  | space => exact hshorthand .blank (htext.trans (by cases second <;> rfl))
  | characters chars h =>
    have hclass : (step (.characters chars h) second).chars =
        classText second (classOf chars) := by
      cases second <;> simp [step, Step.chars, Step.fragment, classText, circumflex,
        written_classOf]
    have hascii (n : Nat)
        (hn : (CharSet.unions ((classOf chars).map ClassItem.set)).hasCode n = true) :
        n < 128 := by
      obtain ⟨d, hd, rfl⟩ := hasCode_classOf_iff.1 hn
      exact toNat_lt_of_isAlphanum (h.2 d hd)
    have hfilled : ∃ d, (flags.modes.classSet second (classOf chars)).has d = true := by
      cases second with
      | false => exact filled_classSet (classOf_ne_nil h) (plain_classOf h)
      | true => exact filled_negated_classOf rfl h
    obtain ⟨m, hm, haccepts⟩ := compile_class flags (htext.trans hclass) (classOf_ne_nil h)
      (plain_classOf h) hascii hfilled
    exact ⟨m, _, hm, haccepts, has_classSet_classOf flags second chars⟩

/-- Either pattern finds the characters that its step takes. -/
theorem findsEach (x : Opposites) (second : Bool) (t : String) (o : SearchOptions) :
    (x.pattern second).FindsEach o (fun c => second ^^ x.holds (!o.caseSensitive) c) t := by
  obtain ⟨m, s, hm, haccepts, hhas⟩ := x.exists_compile second o.toFlags
  exact Pattern.findsEach_of_compile rfl hm haccepts hhas

end Opposites

/-- **Opposite steps divide every text.** Alone, neither of them is refused, whatever the
options are. The matches of the first one are the characters of its kind in a text, each of
them a match of its own, and those of the second one are all others. Each character is covered
by a match of one of the two, line ends as well, and the two counts add up to the length of
the text. -/
theorem opposites_divide_texts (x : Opposites) (t : String) (o : SearchOptions) :
    (x.pattern false).FindsEach o (x.holds !o.caseSensitive) t ∧
    (x.pattern true).FindsEach o (fun c => !x.holds (!o.caseSensitive) c) t ∧
    (∀ i < t.length, (x.pattern false).Covers o t i ↔ ¬ (x.pattern true).Covers o t i) ∧
    ∃ n n', ((x.pattern false).countIn t o).result = .ok n ∧
      ((x.pattern true).countIn t o).result = .ok n' ∧ n + n' = t.length := by
  have hfirst : (x.pattern false).FindsEach o (x.holds !o.caseSensitive) t := by
    simpa only [Bool.false_xor] using x.findsEach false t o
  have hsecond : (x.pattern true).FindsEach o (fun c => !x.holds (!o.caseSensitive) c) t := by
    simpa only [Bool.true_xor] using x.findsEach true t o
  refine ⟨hfirst, hsecond, fun i hi => ?_, _, _, hfirst.count, hsecond.count, ?_⟩
  · obtain ⟨c, hc⟩ : ∃ c, t.toList[i]? = some c :=
      ⟨_, List.getElem?_eq_getElem (by rwa [String.length_toList])⟩
    simp [hfirst.covers_iff, hsecond.covers_iff, hc]
  · rw [← String.length_toList]
    simpa using (List.length_eq_countP_add_countP (x.holds !o.caseSensitive)
      (l := t.toList)).symm

/-- Where case is ignored, the Kelvin sign counts as a `k`. A newline counts as none. -/
example :
    let x := Opposites.characters "k" (by decide)
    x.holds true '\u212A' = true ∧ x.holds false '\u212A' = false ∧
      x.holds true '\n' = false := by
  decide +kernel

end PatternAssembly
