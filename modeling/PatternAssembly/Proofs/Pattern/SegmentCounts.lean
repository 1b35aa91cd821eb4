import PatternAssembly.Proofs.Pattern.Anchors
import PatternAssembly.Proofs.Text.Segments

/-!
# Anchored literals count segments

An escaped text with an anchor before it, or behind it, or with both, is found where it lies
flush in a segment of the text that is searched. So its matches count the segments that start
with it, that end with it, or that are equal to it, also if it is empty and so are the
matches.

## Main definitions

* `Anchoring`: at which ends of a segment a text has to lie
* `Anchoring.Holds`: a segment has a text there

## Main statements

* `Meaning.anchored_iff_bordered`, `Meaning.anchored_iff_flush`: where an anchored text is
  meant
* `anchored_literals_count_segments`: what an anchored literal counts
-/
namespace PatternAssembly

open Text

/-! ## Places -/

section Places

variable (xs ys : List Char)

theorem holds_lineStart_iff_startsLine :
    (Look.lineStart true).holds (xs ++ ys).toArray xs.length = true ↔ StartsLine xs ys := by
  rw [Look.holds, charBefore_append, getElem?_length_append]
  simp [StartsLine, or_assoc]

theorem holds_lineEnd_iff_endsLine :
    (Look.lineEnd true).holds (xs ++ ys).toArray xs.length = true ↔ EndsLine xs ys := by
  rw [Look.holds, charBefore_append, getElem?_length_append]
  simp [EndsLine, or_assoc]

theorem holds_textStart_iff :
    Look.textStart.holds (xs ++ ys).toArray xs.length = true ↔ xs = [] := by
  simp [Look.holds]

theorem holds_textEnd_iff :
    Look.textEnd.holds (xs ++ ys).toArray xs.length = true ↔ ys = [] := by
  simp [Look.holds]

end Places

namespace Meaning

variable {m : Modes} {cs text : List Char} {atStart atEnd : Bool} {i j : Nat}

/-- An anchored text is meant where it stands between two parts of the text, at the ends of
which the places are that the anchors ask for. -/
theorem anchored_iff_exists (hm : m.unicode = true) (hcase : m.ignoreCase = false)
    (hi : i ≤ text.length) :
    anchored m atStart atEnd cs text.toArray i j ↔
      ∃ before after, text = before ++ cs ++ after ∧ i = before.length ∧
        j = (before ++ cs).length ∧
        (atStart = true →
          (m.look .lineStart).holds (before ++ (cs ++ after)).toArray before.length) ∧
        (atEnd = true →
          (m.look .lineEnd).holds (before ++ cs ++ after).toArray (before ++ cs).length) := by
  rw [anchored_apply, spelled_iff_shows hm hi, hcase, shows_iff_exists]
  constructor
  · rintro ⟨hstart, ⟨before, window, after, rfl, rfl, rfl, h⟩, hend⟩
    obtain rfl := isEqv_sameChar_false.1 h
    refine ⟨before, after, rfl, rfl, List.length_append.symm, fun h => ?_, fun h => ?_⟩
    · rw [← List.append_assoc]
      exact hstart h
    · rw [List.length_append]
      exact hend h
  · rintro ⟨before, after, rfl, rfl, rfl, hstart, hend⟩
    refine ⟨fun h => ?_, ⟨before, cs, after, rfl, rfl, List.length_append, ?_⟩, hend⟩
    · rw [List.append_assoc]
      exact hstart h
    · exact isEqv_sameChar_false.2 rfl

/-- Where anchors hold at line ends, an anchored text is meant at the ends of lines. -/
theorem anchored_iff_bordered (hm : m.unicode = true) (hcase : m.ignoreCase = false)
    (hlines : m.multiLine = true) (hreturns : m.carriageReturn = true)
    (hi : i ≤ text.length) :
    anchored m atStart atEnd cs text.toArray i j ↔ Bordered cs atStart atEnd text i j := by
  have hstart : m.look .lineStart = .lineStart true := by simp [Modes.look, hlines, hreturns]
  have hend : m.look .lineEnd = .lineEnd true := by simp [Modes.look, hlines, hreturns]
  simp only [anchored_iff_exists hm hcase hi, hstart, hend, holds_lineStart_iff_startsLine,
    holds_lineEnd_iff_endsLine]
  rfl

/-- Where they do not, it is meant at the ends of the text. -/
theorem anchored_iff_flush (hm : m.unicode = true) (hcase : m.ignoreCase = false)
    (hlines : m.multiLine = false) (hi : i ≤ text.length) :
    anchored m atStart atEnd cs text.toArray i j ↔ Flush cs atStart atEnd text i j := by
  have hstart : m.look .lineStart = .textStart := by simp [Modes.look, hlines]
  have hend : m.look .lineEnd = .textEnd := by simp [Modes.look, hlines]
  simp only [anchored_iff_exists hm hcase hi, hstart, hend, holds_textStart_iff,
    holds_textEnd_iff]
  rfl

end Meaning

/-! ## Counting -/

/-- The parts of a text at whose ends anchors hold. -/
def segmentsFor (multiLine : Bool) (text : List Char) : List (List Char) :=
  if multiLine then segments text else [text]

namespace Matcher

variable {m : Matcher}

/-- If what is accepted lies apart, the number of stretches is that of the matches. -/
theorem count_of_counted {R : Nat → Nat → Prop} {t : String} {n : Nat}
    (hR : ∀ i j, R i j ↔ i ≤ t.toList.toArray.size ∧ m.program.Accepts t.toList.toArray i j)
    (h : Counted R n) : m.count t = n := by
  obtain ⟨ss, hapart, hss, rfl⟩ := h
  rw [count_eq_length_allMatches, ← map_span_allMatches_of_lieApart hR hapart hss,
    List.length_map]

/-- There are as many matches of an anchored text as parts in which it lies flush. -/
theorem count_of_anchored {flags : Flags} {atStart atEnd : Bool} {cs : List Char}
    (h : m.Accepts (.anchored flags.modes atStart atEnd cs))
    (hcase : flags.ignoreCase = false)
    (hfree : flags.multiLine = true → ∀ c ∈ cs, isBreak c = false)
    (hedge : atStart = true ∨ atEnd = true) {p : List Char → Bool}
    (hp : ∀ line, p line = true ↔ ∃ i j, Flush cs atStart atEnd line i j) (t : String) :
    m.count t = (segmentsFor flags.multiLine t.toList).countP p := by
  have haccepts {R : Nat → Nat → Prop} (hle : ∀ i j, R i j → i ≤ j ∧ j ≤ t.toList.length)
      (hR : ∀ i j, i ≤ t.toList.length →
        (Meaning.anchored flags.modes atStart atEnd cs t.toList.toArray i j ↔ R i j))
        (i j : Nat) :
      R i j ↔ i ≤ t.toList.toArray.size ∧ m.program.Accepts t.toList.toArray i j := by
    constructor
    · intro hij
      have hi : i ≤ t.toList.length := (hle i j hij).1.trans (hle i j hij).2
      exact ⟨hi, (h _ i j).2 ((hR i j hi).2 hij)⟩
    · rintro ⟨hi, hij⟩
      exact (hR i j hi).1 ((h _ i j).1 hij)
  cases hlines : flags.multiLine with
  | true =>
    refine count_of_counted (haccepts (fun _ _ => Bordered.le_length) fun i j hi => ?_)
      (counted_bordered (hfree hlines) hedge hp t.toList)
    exact Meaning.anchored_iff_bordered rfl hcase hlines hlines hi
  | false =>
    refine count_of_counted (haccepts (fun _ _ => Flush.le_length) fun i j hi => ?_)
      (counted_flush hedge (hp t.toList))
    exact Meaning.anchored_iff_flush rfl hcase hlines hi

end Matcher

/-! ## Patterns -/

/-- At which ends of a segment a text has to lie: the segment starts with it, ends with it, or
is equal to it. -/
inductive Anchoring where
  | start | stop | whole
deriving DecidableEq

namespace Anchoring

/-- The step that looks for a text there, special characters matched as they are. -/
def step (a : Anchoring) (v : String) : Step :=
  match a with
  | start => .startsWith (some (escapeLiteral v))
  | stop => .endsWith (some (escapeLiteral v))
  | whole => .equalsTo (escapeLiteral v)

/-- The segment has the text there. -/
def Holds (a : Anchoring) (v segment : List Char) : Prop :=
  match a with
  | start => v <+: segment
  | stop => v <:+ segment
  | whole => segment = v

instance (a : Anchoring) (v segment : List Char) : Decidable (a.Holds v segment) :=
  match a with
  | start => inferInstanceAs (Decidable (v <+: segment))
  | stop => inferInstanceAs (Decidable (v <:+ segment))
  | whole => inferInstanceAs (Decidable (segment = v))

/-- The text is at the start of the segment. -/
def atStart (a : Anchoring) : Bool := a = start ∨ a = whole

/-- The text is at the end of the segment. -/
def atEnd (a : Anchoring) : Bool := a = stop ∨ a = whole

variable {a : Anchoring}

theorem atStart_or_atEnd : a.atStart = true ∨ a.atEnd = true := by
  cases a <;> decide

theorem holds_iff_flush {v segment : List Char} :
    a.Holds v segment ↔ ∃ i j, Flush v a.atStart a.atEnd segment i j := by
  cases a with
  | start =>
    constructor
    · rintro ⟨after, rfl⟩
      exact ⟨_, _, [], after, rfl, rfl, rfl, by simp, by simp [atEnd]⟩
    · rintro ⟨_, _, before, after, rfl, -, -, hstart, -⟩
      rw [hstart rfl]
      exact ⟨after, rfl⟩
  | stop =>
    constructor
    · rintro ⟨before, rfl⟩
      exact ⟨_, _, before, [], by simp, rfl, rfl, by simp [atStart], by simp⟩
    · rintro ⟨_, _, before, after, rfl, -, -, -, hend⟩
      rw [hend rfl, List.append_nil]
      exact ⟨before, rfl⟩
  | whole =>
    constructor
    · rintro rfl
      exact ⟨_, _, [], [], by simp, rfl, rfl, by simp, by simp⟩
    · rintro ⟨_, _, before, after, rfl, -, -, hstart, hend⟩
      rw [hstart rfl, hend rfl, List.append_nil]
      rfl

theorem toList_text_step (a : Anchoring) (v : String) :
    (Pattern.ofSteps [a.step v]).text.toList = anchoredChars a.atStart a.atEnd v := by
  rw [Pattern.toList_text_ofSteps]
  cases a <;> simp [step, Step.chars, Step.fragment, anchoredChars, atStart, atEnd]

end Anchoring

/-- **Anchored literals count segments**: those that start with the literal, end with it, or
are equal to it. Where anchors do not hold at line ends, the whole text is the one segment. -/
theorem anchored_literals_count_segments (a : Anchoring) (v t : String) (o : SearchOptions)
    (hcase : o.caseSensitive = true)
    (hfree : o.multiLine = true → ∀ c ∈ v.toList, c ≠ '\r' ∧ c ≠ '\n') :
    ((Pattern.ofSteps [a.step v]).countIn t o).result =
      (Matcher.compile (Pattern.ofSteps [a.step v]).text o.toFlags).map fun _ =>
        (segmentsFor o.multiLine t.toList).countP (a.Holds v.toList) := by
  have hp : (Pattern.ofSteps [a.step v]).engine = .regular := rfl
  have hphrase := readsAsPhrase_anchored (m := o.toFlags.modes) a.atStart a.atEnd v
  rw [← a.toList_text_step] at hphrase
  rw [Pattern.result_countIn hp]
  rcases compile_of_phrase o.toFlags hphrase with ⟨reason, hrefused, -⟩ | ⟨m, hm, haccepts⟩
  · rw [hrefused]
    rfl
  · rw [hm]
    have hcount := Matcher.count_of_anchored haccepts (by simp [SearchOptions.toFlags, hcase])
      (fun hlines c hc => by simp [isBreak, hfree hlines c hc]) Anchoring.atStart_or_atEnd
      (p := (a.Holds v.toList ·))
        (fun line => by rw [decide_eq_true_iff, Anchoring.holds_iff_flush]) t
    exact congrArg Except.ok hcount

/-- Line ends of all kinds; segments that are empty count, and the last one does. -/
theorem anchored_literals_count_segments_empty :
    ({} : SearchOptions).caseSensitive = true ∧
    (({} : SearchOptions).multiLine = true → ∀ c ∈ "".toList, c ≠ '\r' ∧ c ≠ '\n') ∧
    Matcher.compile (Pattern.ofSteps [Anchoring.whole.step ""]).text
      ({} : SearchOptions).toFlags = .ok
        { pattern := "^$", global := true, names := []
          program := #[.look (.lineStart true), .look (.lineEnd true), .accept] } ∧
    ((Pattern.ofSteps [Anchoring.whole.step ""]).countIn "a\r\n\r\r\n" {}).result =
      .ok 3 := by
  have hcase : ({} : SearchOptions).caseSensitive = true := rfl
  have hfree : ({} : SearchOptions).multiLine = true →
      ∀ c ∈ "".toList, c ≠ '\r' ∧ c ≠ '\n' := by simp
  have hm : Matcher.compile (Pattern.ofSteps [Anchoring.whole.step ""]).text
      ({} : SearchOptions).toFlags = .ok
        { pattern := "^$", global := true, names := []
          program := #[.look (.lineStart true), .look (.lineEnd true), .accept] } := rfl
  refine ⟨hcase, hfree, hm, ?_⟩
  rw [anchored_literals_count_segments .whole "" "a\r\n\r\r\n" {} hcase hfree, hm]
  decide

end PatternAssembly
