import PatternAssembly.Proofs.Session.Journal
import PatternAssembly.Proofs.Tree.Faults

/-!
# Refusals are of the text

The flags of a search say how its pattern is compiled, and some faults show only then. But no
flag touches Unicode, so a pattern that is at fault for some flags is at fault for all, and
every search answers with that fault. Only the limit on memory, which is looked at once
nothing is at fault, depends on the flags.

## Main definitions

* `Expr.unlimited`: the expression of a pattern of any size
* `Pattern.RefusedByText`: what the refusals of a pattern say of its text

## Main statements

* `Matcher.compile_eq_fault_congr`: the flags have no part in whether a pattern is at fault
* `refused_by_text`: the searches with the regular engine are at fault together
-/
namespace PatternAssembly

/-! ## Faults of a pattern -/

namespace Expr

variable {m m' : Modes} {pattern : List Char}

/-- The expression of a pattern and its names of groups, before its size is looked at. -/
def unlimited (m : Modes) (pattern : List Char) :
    Except Fault (Expr × List (String × Nat)) := do
  let reading ← readPattern pattern
  let e ← reading.tree.toExpr m
  pure (e, reading.names)

/-- The size of a pattern is looked at once nothing is at fault. -/
theorem ofPattern_eq (m : Modes) (pattern : List Char) : ofPattern m pattern =
    match unlimited m pattern with
    | .ok (e, names) =>
      if e.fits sizeLimit then .ok (e, names) else .error (.tooBig sizeLimit)
    | .error f => .error (.fault f) := by
  rw [ofPattern, unlimited]
  cases readPattern pattern with
  | error f => rfl
  | ok reading =>
    show (Except.mapError _ (reading.tree.toExpr m) >>= _) = _
    cases h : reading.tree.toExpr m with
    | error f => simp [Except.mapError, bind, Except.bind, h]
    | ok e => simp [Except.mapError, bind, Except.bind, h, pure, Except.pure]

theorem ofPattern_eq_fault_iff {f : Fault} :
    ofPattern m pattern = .error (.fault f) ↔ unlimited m pattern = .error f := by
  rw [ofPattern_eq]
  rcases unlimited m pattern with f' | ⟨e, names⟩
  · simp
  · by_cases hfits : e.fits sizeLimit <;> simp [hfits]

/-- What is refused for no fault is refused for its size. -/
theorem fault_or_tooBig {reason : Refusal} (h : ofPattern m pattern = .error reason) :
    (∃ f, reason = .fault f) ∨ reason = .tooBig sizeLimit := by
  rw [ofPattern_eq] at h
  split at h
  · split at h <;> cases h
    exact .inr rfl
  · cases h
    exact .inl ⟨_, rfl⟩

/-- Of the modes, only whether Unicode holds has a part in whether a pattern is at fault. -/
theorem alike_unlimited (hm : m.unicode = m'.unicode) (pattern : List Char) :
    Alike (fun _ _ => True) (unlimited m pattern) (unlimited m' pattern) := by
  refine (Alike.of_eq rfl).bind ?_
  rintro reading _ rfl
  exact (reading.tree.alike_toExpr hm).bind fun _ _ _ => trivial

end Expr

namespace Matcher

variable {text : String}

theorem compile_eq_error_iff {flags : Flags} {reason : Refusal} :
    compile text flags = .error (.invalidPattern text reason) ↔
      Expr.ofPattern flags.modes text.toList = .error reason := by
  rw [compile]
  cases Expr.ofPattern flags.modes text.toList <;> simp

/-- No flag has a part in whether a pattern is at fault. -/
theorem compile_eq_fault_congr (flags flags' : Flags) (f : Fault) :
    compile text flags = .error (.invalidPattern text (.fault f)) ↔
      compile text flags' = .error (.invalidPattern text (.fault f)) := by
  have hunicode : flags.modes.unicode = flags'.modes.unicode := rfl
  rw [compile_eq_error_iff, compile_eq_error_iff, Expr.ofPattern_eq_fault_iff,
    Expr.ofPattern_eq_fault_iff]
  exact (Expr.alike_unlimited hunicode _).eq_error_iff f

end Matcher

/-! ## Searches that are refused -/

/-- The searches with a pattern are refused for its text only: the refusal names it and never
a flag, it is that of all searches unless it is about size, and a fault that shows for some
flags shows for all. -/
structure Pattern.RefusedByText (p : Pattern) : Prop where
  text {q : Query} {e : PatternError} (h : (q.run p).result = .error e) :
    ∃ reason, e = .invalidPattern p.text reason
  known (q : Query) (c : Char) : (q.run p).result ≠ .error (.unknownFlag c)
  together {q : Query} {e : PatternError} (h : (q.run p).result = .error e)
    (hsize : e ≠ .invalidPattern p.text (.tooBig sizeLimit)) (q' : Query) :
    (q'.run p).result = .error e
  flags (flags flags' : Flags) (f : Fault) :
    (p.compile flags).result = .error (.invalidPattern p.text (.fault f)) ↔
      (p.compile flags').result = .error (.invalidPattern p.text (.fault f))

section Regular

variable {p : Pattern} (hp : p.engine = .regular)
include hp

theorem Pattern.result_compile_eq_error_iff {flags : Flags} {e : PatternError} :
    (p.compile flags).result = .error e ↔ Matcher.compile p.text flags = .error e := by
  rw [result_compile hp]
  cases Matcher.compile p.text flags <;> simp [Except.map]

/-- A search is refused when the pattern does not compile for its flags. -/
theorem Query.result_run_eq_error_iff {q : Query} {e : PatternError} :
    (q.run p).result = .error e ↔ Matcher.compile p.text q.flags = .error e := by
  rw [run_eq, Run.result_bind, Pattern.result_compile hp]
  cases Matcher.compile p.text q.flags with
  | error e' => simp [Except.map, Except.bind]
  | ok m => simp [Except.map, Except.bind, result_runWith_regular]

end Regular

/-- **Searches are refused for the text of the pattern**, whatever the search, its options and
the text in which it looks; their limit on memory apart. -/
theorem refused_by_text {p : Pattern} (hp : p.engine = .regular) : p.RefusedByText := by
  have htext {q : Query} {e : PatternError} (h : (q.run p).result = .error e) :
      ∃ reason, e = .invalidPattern p.text reason :=
    Matcher.pattern_of_compile_error ((Query.result_run_eq_error_iff hp).1 h)
  refine ⟨htext, ?known, ?together, ?flags⟩
  case known =>
    intro q c h
    obtain ⟨reason, hreason⟩ := htext h
    cases hreason
  case together =>
    intro q e h hsize q'
    obtain ⟨reason, rfl⟩ := htext h
    rw [Query.result_run_eq_error_iff hp] at h ⊢
    rcases Expr.fault_or_tooBig (Matcher.compile_eq_error_iff.1 h) with ⟨f, rfl⟩ | rfl
    · exact (Matcher.compile_eq_fault_congr _ _ f).1 h
    · exact absurd rfl hsize
  case flags =>
    intro flags flags' f
    rw [Pattern.result_compile_eq_error_iff hp, Pattern.result_compile_eq_error_iff hp]
    exact Matcher.compile_eq_fault_congr flags flags' f

/-- Without Unicode the class has bytes outside ASCII, which are no text; every search says
so. -/
theorem refused_by_text_negated_class :
    let p := Pattern.create (some "(?-u:\\W)")
    let fault : Fault := { kind := .invalidUtf8, span := ⟨5, 7⟩ }
    p.engine = .regular ∧ p.RefusedByText ∧
      ∀ q : Query, (q.run p).result =
        .error (.invalidPattern "(?-u:\\W)" (.fault fault)) := by
  intro p fault
  have hisIn : ((Query.isIn "a").run p).result =
      .error (.invalidPattern "(?-u:\\W)" (.fault fault)) := by decide +kernel
  exact ⟨rfl, refused_by_text rfl, (refused_by_text rfl).together hisIn (by decide)⟩

end PatternAssembly
