import PatternAssembly.Proofs.Pattern.Found
import PatternAssembly.Proofs.Pattern.Items
import PatternAssembly.Proofs.Pattern.Literals

/-!
# Repeated sequences

A quantity with a sequence repeats all of the sequence, as it is put in parentheses. Between
the two ends of a text, the sequence for a literal stands for the texts that repeat the
literal as often as the quantity allows; the numbers are those that the caller gave, however
large. Bounds in the wrong order are never accepted.

## Main definitions

* `Quantity.Allows`: the numbers of repetitions that a quantity stands for
* `Pattern.repetitions`: the pattern of a repeated literal
* `Quantity.RepeatsSequence`: what the pattern does

## Main statements

* `compile_repetitions_of_reversed`: bounds in the wrong order are refused
* `compile_repetitions`: all else is refused for its size alone
* `quantities_repeat_sequences`: what searches for repeated literals yield
-/
namespace PatternAssembly

namespace Quantity

/-- The quantity stands for this number of repetitions, among others. -/
def Allows : Quantity → Nat → Prop
  | anyAmount, _ => True
  | oneOrMore, k => 1 ≤ k
  | atMostOne, k => k ≤ 1
  | exactly n, k => k = n
  | between lo none, k => lo ≤ k
  | between lo (some hi), k => lo ≤ k ∧ k ≤ hi

theorem allows_iff {q : Quantity} {k : Nat} :
    q.Allows k ↔ q.bounds.1 ≤ k ∧ ∀ hi ∈ q.bounds.2, k ≤ hi := by
  cases q with
  | anyAmount => simp [Allows, bounds]
  | oneOrMore => simp [Allows, bounds]
  | atMostOne => simp [Allows, bounds]
  | exactly n =>
    simp only [Allows, bounds, Option.mem_some_iff, forall_eq']
    omega
  | between lo hi => cases hi <;> simp [Allows, bounds]

end Quantity

namespace Pattern

/-- A literal repeated, between the two ends. -/
def repetitions (q : Quantity) (v : String) : Pattern :=
  ofSteps [.startsWith none, .repeated q (some (Engine.escape .regular v)), .endsWith none]

end Pattern

variable {q : Quantity} {v : String}

theorem escapeLiteral_ne_empty (hv : v ≠ "") : escapeLiteral v ≠ "" := by
  intro h
  apply hv
  rw [← String.toList_eq_nil_iff]
  have hnil : (escapeLiteral v).toList = [] := by rw [h, String.toList_empty]
  rw [escapeLiteral, String.toList_ofList, List.flatMap_eq_nil_iff] at hnil
  cases hcs : v.toList with
  | nil => rfl
  | cons c cs =>
    have hc := hnil c (hcs ▸ List.mem_cons_self)
    split at hc <;> cases hc

/-- The text of a repeated literal, by its steps. -/
theorem Pattern.toList_text_repetitions (q : Quantity) (v : String) :
    (repetitions q v).text.toList =
      ['^'] ++
        (((Step.repeated q (some (escapeLiteral v))).fragment .regular).toList ++ ['$']) := by
  rw [repetitions, toList_text_ofSteps]
  simp [Step.chars, Step.fragment, Engine.escape]

section Compiling

variable (hq : q.Fits) (hv : v ≠ "") (flags : Flags)

include hq hv

/-- Bounds in the wrong order are refused. -/
theorem compile_repetitions_of_reversed (hbounds : q.Reversed) :
    ∃ f : Fault, f.kind = .repetitionCountInvalid ∧
      Matcher.compile (Pattern.repetitions q v).text flags =
        .error (.invalidPattern (Pattern.repetitions q v).text (.fault f)) := by
  have hat := Reader.at_start (Pattern.toList_text_repetitions q v)
  obtain ⟨t, r, hreaches, hgrown, -⟩ := readsAsUnit_lineStart (m := flags.modes).reads _ _ hat
  obtain ⟨f, hends, hkind⟩ := ends_of_reversed hq hbounds (escapeLiteral_ne_empty hv)
    (readsAsPhrase_escape (m := flags.modes) v) (by simp) hgrown.at_rest
  exact ⟨f, hkind, compile_of_ends_error (hreaches.ends hends)⟩

variable (hbounds : ¬ q.Reversed)

include hbounds

theorem readsAsPhrase_repetitions :
    ReadsAsPhrase flags.modes (Pattern.repetitions q v).text.toList
      (.andThen (.place (flags.modes.look .lineStart))
        (.andThen (.times q.bounds.1 q.bounds.2 (.spelled flags.modes v.toList))
          (.place (flags.modes.look .lineEnd)))) := by
  rw [Pattern.toList_text_repetitions]
  have hrepeated := readsAsPhrase_repeated hq hbounds (escapeLiteral_ne_empty hv)
    (readsAsPhrase_escape (m := flags.modes) v)
  exact readsAsUnit_lineStart.phrase.append (hrepeated.append readsAsUnit_lineEnd.phrase)

omit flags in
/-- However often the literal is repeated, the pattern does not nest deeper. -/
theorem readsWithin_repetitions : ReadsWithin 3 (Pattern.repetitions q v).text.toList := by
  have hgroup : ((Step.repeated q (some (escapeLiteral v))).fragment .regular).toList =
      '(' :: ((escapeLiteral v).toList ++ ')' :: q.sign.toList) := by
    simp [Step.fragment, Step.group, escapeLiteral_ne_empty hv]
  have hescape := readsWithin_zero.2 (readsAsLeaves_escape v)
  have hstart := readsWithin_zero.2 (readsAsLeaves_anchor (.inl rfl))
  have hend := readsWithin_zero.2 (readsAsLeaves_anchor (.inr rfl))
  rw [Pattern.toList_text_repetitions, hgroup]
  exact (hstart.mono (Nat.zero_le 3)).append
    ((hescape.repeated (Quantity.readsAsCount_sign hq hbounds)).append
      (hend.mono (Nat.zero_le 3)))

/-- Bounds in order are refused for the size of the program alone. -/
theorem compile_repetitions :
    Matcher.compile (Pattern.repetitions q v).text flags =
        .error (.invalidPattern (Pattern.repetitions q v).text (.tooBig sizeLimit)) ∨
      ∃ m, Matcher.compile (Pattern.repetitions q v).text flags = .ok m ∧
        m.Accepts (.andThen (.place (flags.modes.look .lineStart))
          (.andThen (.times q.bounds.1 q.bounds.2 (.spelled flags.modes v.toList))
            (.place (flags.modes.look .lineEnd)))) :=
  compile_of_within flags (readsAsPhrase_repetitions hq hv flags hbounds)
    (readsWithin_repetitions hq hv hbounds) (by decide)

end Compiling

/-! ## Searches -/

/-- The literal so many times in a row, as often as the quantity allows. -/
def Quantity.texts (q : Quantity) (v : String) : Language Char :=
  {cs | ∃ k, q.Allows k ∧ cs = (List.replicate k v.toList).flatten}

theorem spells_repetitions (q : Quantity) (v : String) :
    (Meaning.times q.bounds.1 q.bounds.2 (.spelled {} v.toList)).Spells (q.texts v) := by
  have htexts : q.texts v =
      {cs : List Char | ∃ k, q.bounds.1 ≤ k ∧ (∀ hi ∈ q.bounds.2, k ≤ hi) ∧
      cs ∈ ({v.toList} : Language Char) ^ k} := by
    ext cs
    refine exists_congr fun k => ?_
    rw [Quantity.allows_iff, and_assoc, Meaning.mem_singleton_pow]
  exact htexts ▸ Meaning.spells_times (Meaning.spells_spelled rfl v.toList) _ _

/-- What the pattern of a repeated literal does, compiled and in a search. It is refused if
its bounds are in the wrong order, and else at most for the size of the program. -/
structure Quantity.RepeatsSequence (q : Quantity) (v t : String) : Prop where
  refused : q.Reversed → ∀ flags, ∃ f : Fault, f.kind = .repetitionCountInvalid ∧
    Matcher.compile (Pattern.repetitions q v).text flags =
      .error (.invalidPattern (Pattern.repetitions q v).text (.fault f))
  compiles : ¬ q.Reversed → ∀ flags,
    Matcher.compile (Pattern.repetitions q v).text flags =
        .error (.invalidPattern (Pattern.repetitions q v).text (.tooBig sizeLimit)) ∨
      ∃ m, Matcher.compile (Pattern.repetitions q v).text flags = .ok m
  isIn : (Matcher.compile (Pattern.repetitions q v).text {}).isOk = true →
    (Pattern.repetitions q v).IsInIff t (t.toList ∈ q.texts v)

/-- **Quantities repeat whole sequences.** For every literal but the empty one, whatever
characters of it need escaping, and for all numbers that the engine may hold. -/
theorem quantities_repeat_sequences (hq : q.Fits) (hv : v ≠ "") (t : String) :
    q.RepeatsSequence v t := by
  constructor
  case refused =>
    intro hbounds flags
    exact compile_repetitions_of_reversed hq hv flags hbounds
  case compiles =>
    intro hbounds flags
    exact (compile_repetitions hq hv flags hbounds).imp_right fun ⟨m, hm, _⟩ => ⟨m, hm⟩
  case isIn =>
    intro hcompiles
    have hengine : (Pattern.repetitions q v).engine = .regular := Pattern.engine_foldl_after
    have hbounds : ¬ q.Reversed := by
      intro hbounds
      obtain ⟨f, -, hrefused⟩ := compile_repetitions_of_reversed hq hv {} hbounds
      rw [hrefused] at hcompiles
      cases hcompiles
    have hphrase := readsAsPhrase_repetitions hq hv {} hbounds
    refine ((Pattern.isIn_of_phrase hengine hphrase t).resolve_left
      (Pattern.not_atLimit hengine hcompiles t)).congr ?_
    exact exists_whole_iff (spells_repetitions q v) t

/-- Two or three times, with a character that is escaped. -/
theorem quantities_repeat_sequences_range :
    (Quantity.between 2 (some 3)).Fits ∧ "a." ≠ "" ∧
      (Quantity.between 2 (some 3)).RepeatsSequence "a." "a.a.a." ∧
      (Matcher.compile (Pattern.repetitions (.between 2 (some 3)) "a.").text {}).isOk =
        true := by
  have hfits : (Quantity.between 2 (some 3)).Fits := ⟨by decide, by simp [Count.limit]⟩
  exact ⟨hfits, by decide, quantities_repeat_sequences hfits (by decide) "a.a.a.",
    by decide +kernel⟩

end PatternAssembly
