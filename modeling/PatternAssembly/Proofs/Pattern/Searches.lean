import PatternAssembly.Pattern.Search
import PatternAssembly.Proofs.Program.Ordered

/-!
# The searches agree

Every search compiles the pattern anew, each with flags of its own. What the flags say of the
number of matches has no part in whether the pattern compiles, so the searches are refused
together; and all of them see the same matches.

## Main definitions

* `Matcher.count`: the number of all matches in a text

## Main statements

* `result_matchesIn`, `result_replaceWith` and the like: what each search yields with the
  regular engine
* `searches_agree`: lists, counts and replacements agree, and so do the searches without flags
-/
namespace PatternAssembly

/-! ## Results of runs -/

namespace Run

variable {α β : Type}

@[simp] theorem result_pure (a : α) : (pure a : Run α).result = .ok a := rfl

@[simp] theorem result_bind (x : Run α) (f : α → Run β) :
    (x >>= f).result = x.result.bind fun a => (f a).result := by
  simp only [result, ExceptT.run_bind, Traced.value_bind]
  cases (ExceptT.run x).value <;> rfl

@[simp] theorem result_log (r : LogRecord) : (log r).result = .ok () := rfl

@[simp] theorem result_lift (x : Except PatternError α) : (liftM x : Run α).result = x := rfl

end Run

/-! ## Compiled patterns -/

namespace Matcher

/-- Whether every match counts has no part in whether a pattern compiles. -/
theorem compile_withGlobal (text : String) (flags : Flags) (on : Bool) :
    compile text (flags.withGlobal on) =
      (compile text flags).map fun m => { m with global := on } := by
  simp only [compile, Flags.withGlobal, Flags.modes]
  split <;> simp_all [Except.map]

theorem compile_allMatches (text : String) (o : SearchOptions) :
    compile text o.toFlags =
      (compile text (o.toFlags.withGlobal false)).map fun m =>
        { m with global := o.allMatches } := by
  rw [show o.toFlags = (o.toFlags.withGlobal false).withGlobal o.allMatches from rfl,
    compile_withGlobal]
  rfl

theorem pattern_of_compile_error {text : String} {flags : Flags} {e : PatternError}
    (h : compile text flags = .error e) : ∃ reason, e = .invalidPattern text reason := by
  simp only [compile] at h
  split at h
  · cases h
  · rename_i reason _
    cases h
    exact ⟨reason, rfl⟩

theorem global_of_compile {text : String} {flags : Flags} {m : Matcher}
    (h : compile text flags = .ok m) : m.global = flags.global := by
  simp only [compile] at h
  split at h
  · cases h; rfl
  · cases h

end Matcher

/-- Texts as an answer: none rather than an empty list. -/
def listed (texts : List String) : Option (List String) :=
  if texts.isEmpty then none else some texts

@[simp] theorem listed_ne_some_nil (texts : List String) : listed texts ≠ some [] := by
  cases texts <;> simp [listed]

theorem length_listed (texts : List String) :
    ((listed texts).map List.length).getD 0 = texts.length := by
  cases texts <;> simp [listed]

theorem head?_listed (texts : List String) :
    (listed texts).bind List.head? = texts.head? := by
  cases texts <;> simp [listed]

theorem take_listed (texts : List String) :
    (listed texts).map (List.take 1) = listed (texts.take 1) := by
  cases texts <;> simp [listed]

namespace Pattern

variable {p : Pattern} (hp : p.engine = .regular) (text template : String)

include hp

theorem result_compile (flags : Flags) :
    (p.compile flags).result = (Matcher.compile p.text flags).map .regular := by
  rw [Pattern.compile, hp]
  simp only [Engine.compile, Run.result_bind, Run.result_log, Run.result_lift,
    Run.result_pure]
  cases Matcher.compile p.text flags <;> rfl

theorem result_isIn :
    (p.isIn text).result = (Matcher.compile p.text {}).map fun m => m.test text := by
  rw [isIn, Run.result_bind, result_compile hp]
  cases Matcher.compile p.text {} <;> rfl

theorem result_matchesIn (o : SearchOptions) :
    (p.matchesIn text o).result =
      (Matcher.compile p.text o.toFlags).map fun m => listed (m.matchedTexts text) := by
  rw [matchesIn, Run.result_bind, result_compile hp]
  cases Matcher.compile p.text o.toFlags <;> rfl

theorem result_firstMatchIn :
    (p.firstMatchIn text).result =
      (Matcher.compile p.text {}).map fun m => (m.matchedTexts text).head? := by
  rw [firstMatchIn, Run.result_bind, result_compile hp]
  cases Matcher.compile p.text {} with
  | error e => rfl
  | ok m => exact congrArg Except.ok (head?_listed _)

theorem result_countIn (o : SearchOptions) :
    (p.countIn text o).result =
      (Matcher.compile p.text o.toFlags).map fun m =>
        ({ m with global := true }.matchedTexts text).length := by
  rw [countIn, Run.result_bind, result_matchesIn hp]
  show ((Matcher.compile p.text (o.toFlags.withGlobal true)).map _).bind _ = _
  rw [Matcher.compile_withGlobal]
  cases Matcher.compile p.text o.toFlags with
  | error e => rfl
  | ok m => exact congrArg Except.ok (length_listed _)

theorem result_replaceWith (flags : Flags) :
    (p.replaceWith text template flags).result =
      (Matcher.compile p.text flags).map fun m => m.replace text template := by
  rw [replaceWith, Run.result_bind, result_compile hp]
  cases Matcher.compile p.text flags <;> rfl

theorem result_replaceFirst (o : SearchOptions) :
    (p.replaceFirst text template o).result =
      (Matcher.compile p.text o.toFlags).map fun m =>
        { m with global := false }.replace text template := by
  rw [replaceFirst, result_replaceWith hp, Matcher.compile_withGlobal]
  cases Matcher.compile p.text o.toFlags <;> rfl

theorem result_replaceAll (o : SearchOptions) :
    (p.replaceAll text template o).result =
      (Matcher.compile p.text o.toFlags).map fun m =>
        { m with global := true }.replace text template := by
  rw [replaceAll, result_replaceWith hp, Matcher.compile_withGlobal]
  cases Matcher.compile p.text o.toFlags <;> rfl

end Pattern

/-! ## One set of matches -/

namespace Matcher

variable (m : Matcher) (text : String)

/-- The only match that counts is the first of all. -/
theorem matchedTexts_first :
    { m with global := false }.matchedTexts text =
      ({ m with global := true }.matchedTexts text).take 1 := by
  have htake (found : List Match) : found.take 1 = found.head?.toList := by
    cases found <;> rfl
  simp only [matchedTexts, found, if_true, Bool.false_eq_true, if_false,
    ← List.map_take, htake, head?_allMatches]

/-- A text matches if there is a first match. -/
theorem test_eq_isSome_head? (hglobal : m.global = false) :
    m.test text = (m.matchedTexts text).head?.isSome := by
  simp only [test, matchedTexts, found, hglobal, Bool.false_eq_true, if_false]
  cases findFrom m.program text.toList.toArray 0 <;> rfl

/-- The number of all matches in a text. -/
def count : Nat := ({ m with global := true }.matchedTexts text).length

theorem count_eq_length_allMatches :
    m.count text = (allMatches m.program text.toList.toArray).length := by
  simp [count, matchedTexts, found]

end Matcher

/-- Searches with the same options are refused together, for the same reason; or else the
first match is the first of all, the number of matches counts all, and no list of matches is
empty. What `allMatches` says matters for lists only. -/
def Pattern.OptionSearchesAgree (p : Pattern) (text template : String) (o : SearchOptions) :
    Prop :=
  (∃ reason, ∀ all : Bool,
    (p.matchesIn text { o with allMatches := all }).result
      = .error (.invalidPattern p.text reason) ∧
    (p.countIn text { o with allMatches := all }).result
      = .error (.invalidPattern p.text reason) ∧
    (p.replaceFirst text template { o with allMatches := all }).result
      = .error (.invalidPattern p.text reason) ∧
    (p.replaceAll text template { o with allMatches := all }).result
      = .error (.invalidPattern p.text reason)) ∨
  ∃ found : Option (List String), found ≠ some [] ∧
    (p.matchesIn text { o with allMatches := true }).result = .ok found ∧
    (p.matchesIn text { o with allMatches := false }).result = .ok (found.map (List.take 1)) ∧
    ∀ all : Bool,
      (p.countIn text { o with allMatches := all }).result
        = .ok ((found.map List.length).getD 0) ∧
      (∃ s, (p.replaceFirst text template { o with allMatches := all }).result = .ok s) ∧
      ∃ s, (p.replaceAll text template { o with allMatches := all }).result = .ok s

/-- The two searches without flags are refused together, for the same reason; or else some
part of the text matches if there is a first match. -/
def Pattern.PlainSearchesAgree (p : Pattern) (text : String) : Prop :=
  (∃ reason,
    (p.isIn text).result = .error (.invalidPattern p.text reason) ∧
    (p.firstMatchIn text).result = .error (.invalidPattern p.text reason)) ∨
  ∃ found : Option String,
    (p.firstMatchIn text).result = .ok found ∧ (p.isIn text).result = .ok found.isSome

theorem optionSearchesAgree {p : Pattern} (hp : p.engine = .regular) (text template : String)
    (o : SearchOptions) : p.OptionSearchesAgree text template o := by
  have hcompile (all : Bool) : Matcher.compile p.text ({ o with allMatches := all }).toFlags =
      (Matcher.compile p.text (o.toFlags.withGlobal false)).map fun m =>
        { m with global := all } :=
    Matcher.compile_allMatches p.text { o with allMatches := all }
  simp only [Pattern.OptionSearchesAgree, Pattern.result_matchesIn hp,
    Pattern.result_countIn hp, Pattern.result_replaceFirst hp,
    Pattern.result_replaceAll hp, hcompile]
  cases h : Matcher.compile p.text (o.toFlags.withGlobal false) with
  | error e =>
    obtain ⟨reason, rfl⟩ := Matcher.pattern_of_compile_error h
    exact .inl ⟨reason, fun _ => ⟨rfl, rfl, rfl, rfl⟩⟩
  | ok m =>
    refine .inr ⟨listed ({ m with global := true }.matchedTexts text), by simp, rfl, ?_,
      fun _ => ⟨?_, ⟨_, rfl⟩, ⟨_, rfl⟩⟩⟩
    · rw [take_listed, ← Matcher.matchedTexts_first]
      rfl
    · rw [length_listed]
      rfl

theorem plainSearchesAgree {p : Pattern} (hp : p.engine = .regular) (text : String) :
    p.PlainSearchesAgree text := by
  rw [Pattern.PlainSearchesAgree, Pattern.result_isIn hp, Pattern.result_firstMatchIn hp]
  cases h : Matcher.compile p.text {} with
  | error e =>
    obtain ⟨reason, rfl⟩ := Matcher.pattern_of_compile_error h
    exact .inl ⟨reason, rfl, rfl⟩
  | ok m =>
    refine .inr ⟨(m.matchedTexts text).head?, rfl, ?_⟩
    exact congrArg Except.ok (m.test_eq_isSome_head? text (Matcher.global_of_compile h))

/-- **All searches agree**, whatever the pattern, the text, the template and the options. -/
theorem searches_agree (p : Pattern) (hp : p.engine = .regular) (text template : String)
    (o : SearchOptions) : p.OptionSearchesAgree text template o ∧ p.PlainSearchesAgree text :=
  ⟨optionSearchesAgree hp text template o, plainSearchesAgree hp text⟩

/-- Two matches with one character between them. -/
theorem searches_agree_two_matches :
    (Pattern.create (some "b")).engine = .regular ∧
      (Pattern.create (some "b")).OptionSearchesAgree "abcb" "x" {} ∧
      (Pattern.create (some "b")).PlainSearchesAgree "abcb" :=
  ⟨rfl, searches_agree _ rfl "abcb" "x" {}⟩

end PatternAssembly
