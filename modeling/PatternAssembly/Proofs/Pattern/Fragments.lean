import PatternAssembly.Proofs.Pattern.Quantities
import PatternAssembly.Proofs.Tree.Brackets

/-!
# What the fragments mean

Every fragment that opens or closes no group of options is a phrase, so it adds its own
meaning wherever it stands.

## Main definitions

* `Meaning.spelled`: a text, character by character
* `Shape.meaning`: what a fragment without arguments means
* `IsAlnum`: letters and digits, which no pattern gives another meaning

## Main statements

* `readsAsPhrase_escape`: an escaped text means itself
* `readsAsPhrase_shape`, `readsAsUnit_oneOf`, `readsAsUnit_characterOf` and the like
-/
namespace PatternAssembly

variable {m : Modes} {S : Meaning}

/-! ## Texts -/

/-- The characters one after another, or variants of them where case is ignored. -/
def Meaning.spelled (m : Modes) (cs : List Char) : Meaning :=
  .inARow (cs.map fun c => .char (m.charSet c))

/-- An escaped text means itself. -/
theorem readsAsPhrase_escape (text : String) :
    ReadsAsPhrase m (escapeLiteral text).toList (.spelled m text.toList) := by
  rw [escapeLiteral, String.toList_ofList]
  generalize text.toList = cs
  induction cs with
  | nil => exact readsAsPhrase_nil
  | cons c cs ih =>
    rw [List.flatMap_cons]
    refine ReadsAsPhrase.append (S := .char (m.charSet c)) ?_ ih
    split
    · rename_i h
      exact (readsAsUnit_escaped h).phrase
    · rename_i h
      exact (readsAsUnit_char (not_sign_of_not_meta (by simpa using h))).phrase

/-- At least one character, all of them ASCII letters and digits. -/
def IsAlnum (s : String) : Prop := s ≠ "" ∧ ∀ c ∈ s.toList, c.isAlphanum = true

instance : DecidablePred IsAlnum := fun s =>
  decidable_of_iff (s ≠ "" ∧ s.toList.all Char.isAlphanum = true)
    (and_congr_right' List.all_eq_true)

theorem not_contains_of_isAlphanum {signs : List Char}
    (hsigns : (signs.all fun d => !d.isAlphanum) = true) {c : Char}
    (h : c.isAlphanum = true) :
    signs.contains c = false :=
  not_contains_of_all hsigns (by rw [h]; rfl)

theorem not_meta_of_isAlphanum {c : Char} (h : c.isAlphanum = true) : isMeta c = false :=
  not_contains_of_isAlphanum (by decide) h

theorem toNat_lt_of_isAlphanum {c : Char} (h : c.isAlphanum = true) : c.toNat < 128 := by
  have hle {hi : UInt32} (hcode : c.val ≤ hi) (hhi : hi.toNat < 128) : c.toNat < 128 :=
    Nat.lt_of_le_of_lt (UInt32.le_iff_toNat_le.1 hcode) hhi
  cases (Bool.or_eq_true _ _).mp h with
  | inl hletter =>
    cases (Bool.or_eq_true _ _).mp hletter with
    | inl hupper => exact hle (of_decide_eq_true hupper).2 (by decide)
    | inr hlower =>
      exact hle (of_decide_eq_true ((Bool.and_eq_true _ _).mp hlower).2) (by decide)
  | inr hdigit =>
    exact hle (of_decide_eq_true ((Bool.and_eq_true _ _).mp hdigit).2) (by decide)

/-- Letters and digits need no escaping. -/
theorem escapeLiteral_of_isAlnum {s : String} (h : IsAlnum s) : escapeLiteral s = s := by
  have hflat : s.toList.flatMap (fun c => if isMeta c then ['\\', c] else [c]) =
      s.toList := by
    have hone : ∀ c ∈ s.toList, (if isMeta c then ['\\', c] else [c]) = [c] := fun c hc => by
      simp [not_meta_of_isAlphanum (h.2 c hc)]
    rw [List.flatMap_congr hone]
    simp
  rw [escapeLiteral, hflat, String.ofList_toList]

theorem readsAsPhrase_alnum {s : String} (h : IsAlnum s) :
    ReadsAsPhrase m s.toList (.spelled m s.toList) := by
  simpa only [escapeLiteral_of_isAlnum h] using readsAsPhrase_escape (m := m) s

/-- An optional argument that is absent means nothing. -/
def Meaning.spelled? (m : Modes) (o : Option String) : Meaning :=
  .spelled m (o.getD "").toList

theorem readsAsPhrase_option {o : Option String} (h : ∀ s ∈ o, IsAlnum s) :
    ReadsAsPhrase m (o.getD "").toList (.spelled? m o) := by
  cases o with
  | none => exact readsAsPhrase_nil
  | some s => exact readsAsPhrase_alnum (h s rfl)

/-! ## Fragments without arguments -/

/-- A letter of a class after a backslash. -/
def Meaning.shorthand (kind : Shorthand) (negated : Bool) : Meaning :=
  .char (Tree.classSet negated (kind.set true))

/-- A class of characters in brackets. -/
def Meaning.bracket (m : Modes) (items : List ClassItem) : Meaning :=
  .char (m.classSet false items)

/-- The ASCII letters of both cases. -/
def letters : List ClassItem := [.range 'a' 'z', .range 'A' 'Z']

/-- The hexadecimal digits. -/
def hexDigits : List ClassItem := [.range 'a' 'f', .range 'A' 'F', .range '0' '9']

/-- A whole number, with or without a minus sign. -/
def Meaning.wholeNumber (m : Modes) : Meaning :=
  .inARow [.times 0 (some 1) (.char (m.charSet '-')), .times 1 none (.shorthand .digit false)]

/-- What a fragment without arguments means. -/
def Shape.meaning (m : Modes) : Shape → Meaning
  | digit => .shorthand .digit false
  | nonDigit => .shorthand .digit true
  | wordCharacter => .shorthand .word false
  | nonWordCharacter => .shorthand .word true
  | space => .shorthand .blank false
  | nonSpace => .shorthand .blank true
  | any => .char m.dotSet
  | letter => .bracket m letters
  | lowercaseLetter => .bracket m [.range 'a' 'z']
  | uppercaseLetter => .bracket m [.range 'A' 'Z']
  | integer => .inARow [.place (m.look .lineStart), .wholeNumber m, .place (m.look .lineEnd)]
  | decimal => .inARow [.place (m.look .lineStart),
      .inARow [.times 0 (some 1) (.char (m.charSet '-')),
        .times 0 none (.shorthand .digit false)],
      .bracket m [.char '.', .char ','], .times 1 none (.shorthand .digit false),
      .place (m.look .lineEnd)]
  | fraction => .inARow [.place (m.look .lineStart), .wholeNumber m, .bracket m [.char '/'],
      .wholeNumber m, .place (m.look .lineEnd)]
  | hexColor => .inARow [.place (m.look .notWordBoundary), .char (m.charSet '#'),
      .oneOf [.times 6 (some 6) (.bracket m hexDigits),
        .times 3 (some 3) (.bracket m hexDigits)],
      .place (m.look .wordBoundary)]

theorem readsAsUnit_class (hm : m.unicode = true) (items : List ClassItem) (hne : items ≠ [])
    (hplain : ∀ i ∈ items, i.Plain) :
    ReadsAsUnit m (classText false items) (.bracket m items) :=
  readsAsUnit_bracket hm hne hplain (filled_classSet hne hplain)

/-- A phrase in parentheses. -/
theorem readsAsPhrase_parens {cs : List Char} (h : ReadsAsPhrase m cs S) :
    ReadsAsPhrase m ('(' :: (cs ++ [')'])) S := by
  simpa using (readsAsUnit_group h .nil).phrase

theorem readsAsPhrase_digits (hm : m.unicode = true) :
    ReadsAsPhrase m ['\\', 'd', '+'] (.times 1 none (.shorthand .digit false)) :=
  (readsAsUnit_shorthand hm .digit false).repeated
    (readsAsCount_char '+' (.inr (.inr rfl)) rfl) (by simp)

theorem readsAsPhrase_minus :
    ReadsAsPhrase m ['-', '?'] (.times 0 (some 1) (.char (m.charSet '-'))) :=
  (readsAsUnit_char (by decide)).repeated (readsAsCount_char '?' (.inl rfl) rfl) (by simp)

theorem readsAsPhrase_wholeNumber (hm : m.unicode = true) :
    ReadsAsPhrase m ['(', '-', '?', '\\', 'd', '+', ')'] (.wholeNumber m) := by
  have hinside : ReadsAsPhrase m ['-', '?', '\\', 'd', '+'] (.wholeNumber m) :=
    readsAsPhrase_flatten (.cons readsAsPhrase_minus (.cons (readsAsPhrase_digits hm) .nil))
  exact readsAsPhrase_parens hinside

theorem readsAsPhrase_hexDigits (hm : m.unicode = true) (n : Nat) (hn : n < Count.limit) :
    ReadsAsPhrase m (classText false hexDigits ++ '\x7b' :: (digits n ++ ['\x7d']))
      (.times n (some n) (.bracket m hexDigits)) := by
  have hcount := Quantity.readsAsCount_sign (q := .exactly n) hn
    (by simp [Quantity.Reversed, Quantity.bounds])
  rw [Quantity.toList_sign_exactly] at hcount
  exact (readsAsUnit_class hm hexDigits (by simp [hexDigits]) (by decide)).repeated
    hcount (by simp)

/-- Every fragment without arguments is a phrase. -/
theorem readsAsPhrase_shape (hm : m.unicode = true) (s : Shape) :
    ReadsAsPhrase m s.fragment.toList (s.meaning m) := by
  have hstart := (readsAsUnit_lineStart (m := m)).phrase
  have hend := (readsAsUnit_lineEnd (m := m)).phrase
  have hdigits := readsAsPhrase_digits hm
  have hnumber := readsAsPhrase_wholeNumber hm
  cases s with
  | digit => exact (readsAsUnit_shorthand hm .digit false).phrase
  | nonDigit => exact (readsAsUnit_shorthand hm .digit true).phrase
  | wordCharacter => exact (readsAsUnit_shorthand hm .word false).phrase
  | nonWordCharacter => exact (readsAsUnit_shorthand hm .word true).phrase
  | space => exact (readsAsUnit_shorthand hm .blank false).phrase
  | nonSpace => exact (readsAsUnit_shorthand hm .blank true).phrase
  | any => exact (readsAsUnit_dot hm).phrase
  | letter => exact (readsAsUnit_class hm letters (by simp [letters]) (by decide)).phrase
  | lowercaseLetter =>
    exact (readsAsUnit_class hm [.range 'a' 'z'] (by simp) (by decide)).phrase
  | uppercaseLetter =>
    exact (readsAsUnit_class hm [.range 'A' 'Z'] (by simp) (by decide)).phrase
  | integer => exact readsAsPhrase_flatten (.cons hstart (.cons hnumber (.cons hend .nil)))
  | decimal =>
    have hcomma : ReadsAsPhrase m (classText false [.char '.', .char ',']) _ :=
      (readsAsUnit_class hm _ (by simp) (by decide)).phrase
    have hwhole : ReadsAsPhrase m ['\\', 'd', '*']
        (.times 0 none (.shorthand .digit false)) :=
      (readsAsUnit_shorthand hm .digit false).repeated
        (readsAsCount_char '*' (.inr (.inl rfl)) rfl) (by simp)
    have hbefore : ReadsAsPhrase m ['-', '?', '\\', 'd', '*'] (.inARow [_, _]) :=
      readsAsPhrase_flatten (.cons readsAsPhrase_minus (.cons hwhole .nil))
    exact readsAsPhrase_flatten (.cons hstart (.cons (readsAsPhrase_parens hbefore)
      (.cons hcomma (.cons (readsAsPhrase_parens hdigits) (.cons hend .nil)))))
  | fraction =>
    have hslash : ReadsAsPhrase m (classText false [.char '/']) _ :=
      (readsAsUnit_class hm _ (by simp) (by decide)).phrase
    exact readsAsPhrase_flatten (.cons hstart (.cons hnumber (.cons hslash (.cons hnumber
      (.cons hend .nil)))))
  | hexColor =>
    have hhash : ReadsAsPhrase m ['#'] _ := (readsAsUnit_char (by decide)).phrase
    have hsix : ReadsAsPhrase m (classText false hexDigits ++ ['\x7b', '6', '\x7d']) _ :=
      readsAsPhrase_hexDigits hm 6 (by decide)
    have hthree : ReadsAsPhrase m (classText false hexDigits ++ ['\x7b', '3', '\x7d']) _ :=
      readsAsPhrase_hexDigits hm 3 (by decide)
    exact readsAsPhrase_flatten (.cons readsAsUnit_notBoundary.phrase (.cons hhash
      (.cons (readsAsUnit_group hsix (.cons hthree .nil)).phrase
        (.cons readsAsPhrase_boundary .nil))))

/-! ## Fragments with arguments -/

/-- One of several options; a group without options means nothing. -/
def Meaning.options : List Meaning → Meaning
  | [] => .nothing
  | Ss => .oneOf Ss

/-- A group of options written all at once. -/
theorem readsAsUnit_oneOf {values : List String} {Ss : List Meaning}
    (h : List.Forall₂ (fun s S => ReadsAsPhrase m s.toList S) values Ss) :
    ReadsAsUnit m ((Step.oneOf values).fragment .regular).toList (.options Ss) := by
  have htext : ((Step.oneOf values).fragment .regular).toList =
      '(' :: (['|'].intercalate (values.map String.toList) ++ [')']) := by
    simp [Step.fragment]
  rw [htext]
  cases h with
  | nil => simpa [Meaning.options] using readsAsUnit_group (readsAsPhrase_nil (m := m)) .nil
  | @cons s S values Ss hs hvalues =>
    refine readsAsUnit_group hs ?_
    rw [List.forall₂_map_left_iff]
    exact hvalues

/-- The characters of a text as a class. -/
def classOf (chars : String) : List ClassItem := chars.toList.map .char

theorem written_classOf (chars : String) :
    (classOf chars).flatMap ClassItem.written = chars.toList := by
  rw [classOf, List.flatMap_map]
  exact List.flatMap_singleton' _

theorem plain_of_isAlphanum {c : Char} (h : c.isAlphanum = true) : isPlain c = true := by
  rw [isPlain, not_contains_of_isAlphanum (by decide) h]
  rfl

theorem plain_classOf {chars : String} (h : IsAlnum chars) :
    ∀ i ∈ classOf chars, i.Plain := by
  intro i hi
  obtain ⟨c, hc, rfl⟩ := List.mem_map.1 hi
  exact plain_of_isAlphanum (h.2 c hc)

theorem classOf_ne_nil {chars : String} (h : IsAlnum chars) : classOf chars ≠ [] := by
  simpa [classOf] using h.1

/-- The members of a class as written. -/
theorem hasCode_classOf_iff {chars : String} {n : Nat} :
    (CharSet.unions ((classOf chars).map ClassItem.set)).hasCode n = true ↔
      ∃ d ∈ chars.toList, d.toNat = n := by
  simp only [CharSet.hasCode_unions, classOf, List.map_map, List.any_map, List.any_eq_true]
  refine exists_congr fun d => and_congr_right fun _ => ?_
  simp only [Function.comp_apply, ClassItem.set, CharSet.single, CharSet.hasCode_span,
    Bool.and_eq_true, decide_eq_true_eq]
  exact Nat.le_antisymm_iff.symm

/-- Letters and digits have no punctuation among their variants. -/
theorem filled_negated_classOf (hm : m.unicode = true) {chars : String} (h : IsAlnum chars) :
    ∃ d, (m.classSet true (classOf chars)).has d = true := by
  have hunions : (CharSet.unions ((classOf chars).map ClassItem.set)).hasCode '!'.toNat =
      false := by
    rw [← Bool.not_eq_true, hasCode_classOf_iff]
    rintro ⟨d, hd, heq⟩
    obtain rfl := Char.toNat_inj.1 heq
    exact absurd (h.2 _ hd) (by decide)
  have hvariants : Folding.simple.variants '!'.toNat = ['!'.toNat] := by decide +kernel
  refine ⟨'!', ?_⟩
  rw [Modes.classSet, has_classSet, Modes.foldSet, Modes.folding, if_pos hm]
  split
  · rw [CharSet.has, CharSet.hasCode_closure, hvariants, List.any_cons, hunions]
    rfl
  · rw [CharSet.has, hunions]
    rfl

theorem readsAsUnit_characterOf (hm : m.unicode = true) {chars : String} (h : IsAlnum chars) :
    ReadsAsUnit m ((Step.characterOf chars).fragment .regular).toList
      (.char (m.classSet false (classOf chars))) := by
  have hunit := readsAsUnit_bracket hm (classOf_ne_nil h) (plain_classOf h)
    (filled_classSet (m := m) (classOf_ne_nil h) (plain_classOf h))
  simpa [classText, circumflex, written_classOf, Step.fragment] using hunit

theorem readsAsUnit_characterExcept (hm : m.unicode = true) {chars : String}
    (h : IsAlnum chars) :
    ReadsAsUnit m ((Step.characterExcept chars).fragment .regular).toList
      (.char (m.classSet true (classOf chars))) := by
  have hunit := readsAsUnit_bracket hm (classOf_ne_nil h) (plain_classOf h)
    (filled_negated_classOf hm h)
  simpa [classText, circumflex, written_classOf, Step.fragment] using hunit

/-- What is asked for at the two ends of a text at a position in a word. -/
def WordPosition.places : WordPosition → Assertion × Assertion
  | whole => (.wordBoundary, .wordBoundary)
  | start => (.wordBoundary, .notWordBoundary)
  | stop => (.notWordBoundary, .wordBoundary)
  | inside => (.notWordBoundary, .notWordBoundary)

theorem readsAsPhrase_signs (position : WordPosition) :
    ReadsAsPhrase m position.signs.1.toList (.place (m.look position.places.1)) ∧
      ReadsAsPhrase m position.signs.2.toList (.place (m.look position.places.2)) := by
  cases position with
  | whole => exact ⟨readsAsPhrase_boundary, readsAsPhrase_boundary⟩
  | start => exact ⟨readsAsPhrase_boundary, readsAsUnit_notBoundary.phrase⟩
  | stop => exact ⟨readsAsUnit_notBoundary.phrase, readsAsPhrase_boundary⟩
  | inside => exact ⟨readsAsUnit_notBoundary.phrase, readsAsUnit_notBoundary.phrase⟩

/-- A text at a position in a word. -/
theorem readsAsPhrase_word {position : WordPosition} {value : String}
    (h : ReadsAsPhrase m value.toList S) :
    ReadsAsPhrase m ((Step.word position value).fragment .regular).toList
      (.inARow [.place (m.look position.places.1), S,
        .place (m.look position.places.2)]) := by
  obtain ⟨hfirst, hlast⟩ := readsAsPhrase_signs (m := m) position
  simpa [Step.fragment] using readsAsPhrase_flatten
    (.cons hfirst (.cons h (.cons hlast .nil)))

/-- A sequence in parentheses is a unit. -/
theorem readsAsUnit_sequence {sequence : String} (hne : sequence ≠ "")
    (h : ReadsAsPhrase m sequence.toList S) :
    ReadsAsUnit m (Step.group (some sequence)).toList S := by
  have hunit := readsAsUnit_group h .nil
  simpa [Step.group, hne] using hunit

/-- A sequence repeated so many times. -/
theorem readsAsPhrase_repeated {q : Quantity} {sequence : String} (hq : q.Fits)
    (hbounds : ¬ q.Reversed) (hne : sequence ≠ "") (h : ReadsAsPhrase m sequence.toList S) :
    ReadsAsPhrase m ((Step.repeated q (some sequence)).fragment .regular).toList
      (S.times q.bounds.1 q.bounds.2) := by
  rw [Step.fragment, String.toList_append]
  exact (readsAsUnit_sequence hne h).repeated (Quantity.readsAsCount_sign hq hbounds)
    (Quantity.le_of_not_reversed hbounds)

/-- A sequence repeated with reversed bounds is refused. -/
theorem ends_of_reversed {q : Quantity} {sequence : String} {r : Reader} {rest : List Char}
    (hq : q.Fits) (hbounds : q.Reversed) (hne : sequence ≠ "")
    (h : ReadsAsPhrase m sequence.toList S) (hrest : Calm rest)
    (hat : r.At (((Step.repeated q (some sequence)).fragment .regular).toList ++ rest)) :
    ∃ f, r.Ends (.error f) ∧ f.kind = .repetitionCountInvalid := by
  rw [Step.fragment, String.toList_append, List.append_assoc] at hat
  obtain ⟨t, r', hreaches, hgrown, ht, -⟩ := (readsAsUnit_sequence hne h).reads r _ hat
  obtain ⟨f, hstep, hkind⟩ :=
    Quantity.refused_of_reversed hq hbounds hgrown.at_rest hrest hgrown.parts ht
  have hsign : q.sign.toList ++ rest ≠ [] := by cases q <;> simp [Quantity.sign]
  exact ⟨f, hreaches.ends (Reader.ends_of_refused hgrown.at_rest hsign hstep), hkind⟩

end PatternAssembly
