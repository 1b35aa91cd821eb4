import Mathlib.Order.Bounds.Basic
import PatternAssembly.Proofs.Session.Journal

/-!
# The number of open groups

A pattern counts the groups of options that are open: one up for each opening, one down for
each closing, and never below nought. A closing at nought is lost, and leaves a warning. So
the count is not the difference of openings and closings, but their greatest difference over
the last actions, however many; and the warnings are as many as closings exceed openings at
most among the first actions.

## Main definitions

* `excess`: by how many the openings exceed the closings
* `closingWarnings`: the warnings that closings leave
* `Beginning.TracksGroups`: what the count and the warnings are, at a point of a session

## Main statements

* `Action.openOptions_next`: one action moves the count, but not below nought
* `openOptions_perform`: what the count lacks, the warnings have
* `open_groups_tracked`: the count and the warnings in closed form
-/
namespace PatternAssembly

variable {p : Pattern} {a : Action} {actions earlier later : List Action}

/-! ## Openings and closings -/

namespace Action

/-- The action opens a group of options. -/
def opens : Action → Bool
  | step (.openOptions _) => true
  | _ => false

/-- The action closes a group of options. -/
def closes : Action → Bool
  | step .closeOptions => true
  | _ => false

end Action

/-- By how many the openings exceed the closings. -/
def excess (actions : List Action) : Int :=
  actions.countP Action.opens - actions.countP Action.closes

@[simp] theorem excess_nil : excess [] = 0 := rfl

@[simp] theorem excess_append :
    excess (earlier ++ later) = excess earlier + excess later := by
  simp only [excess, List.countP_append]
  omega

theorem excess_cons : excess (a :: actions) = excess [a] + excess actions := by
  rw [← List.singleton_append, excess_append]

/-- The excess is positive if there are more openings than closings. -/
theorem excess_pos_iff :
    0 < excess actions ↔ actions.countP Action.closes < actions.countP Action.opens := by
  simp only [excess]
  omega

/-! ## One action -/

/-- The record warns of a closing. -/
def LogRecord.isCloseOutside : LogRecord → Bool
  | closeOutside _ => true
  | _ => false

/-- How many warnings closings leave. -/
def closingWarnings (answers : List (Traced Answer)) : Nat :=
  (answers.flatMap Traced.records).countP LogRecord.isCloseOutside

namespace Action

/-- One action moves the count by its excess, but not below nought. -/
theorem openOptions_next :
    ((a.next p).openOptions : Int) = max 0 (p.openOptions + excess [a]) := by
  cases a with
  | step s =>
    cases s <;> simp [next, Pattern.after, Step.openAfter, excess, opens, closes] <;> omega
  | _ => simp [next, Pattern.withEngine, excess, opens, closes]

end Action

/-- Searches leave no warnings. -/
theorem Query.countP_records_answer (p : Pattern) (q : Query) :
    (q.answer p).records.countP LogRecord.isCloseOutside = 0 := by
  obtain ⟨listings, hevents, hlistings⟩ := q.events_answer p
  rw [List.countP_eq_zero]
  intro r hr
  obtain ⟨event, hevent, hrecord⟩ := List.mem_filterMap.1 hr
  rw [hevents, List.mem_cons] at hevent
  rcases hevent with rfl | hevent
  · cases h : p.engine with
    | regular =>
      rw [h] at hrecord
      obtain rfl := Option.some.inj hrecord
      nofun
    | recording =>
      rw [h] at hrecord
      cases hrecord
  · obtain ⟨text, found, rfl⟩ := hlistings event hevent
    obtain rfl := Option.some.inj hrecord
    nofun

/-- What the count lacks after one action, because it is not below nought, a warning has. -/
theorem Action.openOptions_next_of_warnings : ((a.next p).openOptions : Int) =
    p.openOptions + excess [a] + (a.answered p).records.countP LogRecord.isCloseOutside := by
  cases a with
  | step s =>
    rw [openOptions_next, records_step]
    cases s with
    | closeOptions =>
      by_cases h : p.openOptions = 0 <;>
        simp [Step.warning, excess, opens, closes, LogRecord.isCloseOutside, h]
      omega
    | nextOption _ =>
      by_cases h : p.openOptions = 0 <;>
        simp [Step.warning, excess, opens, closes, LogRecord.isCloseOutside, h]
    | _ => simp [Step.warning, excess, opens, closes] <;> omega
  | query q =>
    rw [openOptions_next, answered_query, q.countP_records_answer]
    simp [excess, opens, closes]
  | _ =>
    simp [next, Pattern.withEngine, excess, opens, closes, answered, perform, Traced.records]

/-! ## Sessions -/

@[simp] theorem closingWarnings_cons {x : Traced Answer} {answers : List (Traced Answer)} :
    closingWarnings (x :: answers) =
      x.records.countP LogRecord.isCloseOutside + closingWarnings answers := by
  simp [closingWarnings]

/-- What the count lacks after a session, the warnings have. -/
theorem openOptions_perform (p : Pattern) (actions : List Action) :
    ((perform p actions).1.openOptions : Int) =
      p.openOptions + excess actions + closingWarnings (perform p actions).2 := by
  induction actions generalizing p with
  | nil => simp [perform, closingWarnings]
  | cons a actions ih =>
    have hnext := Action.openOptions_next_of_warnings (p := p) (a := a)
    have hrest := ih (a.next p)
    rw [perform_cons, closingWarnings_cons, excess_cons]
    simp only [Action.answered] at hnext
    push_cast
    omega

/-- One more action at the end: the greatest excess over the last actions moves like the
count. -/
theorem isGreatest_concat {n : Int}
    (h : IsGreatest {d | ∃ later, later <:+ actions ∧ excess later = d} n) (a : Action) :
    IsGreatest {d | ∃ later, later <:+ actions ++ [a] ∧ excess later = d}
      (max 0 (n + excess [a])) := by
  obtain ⟨⟨latest, hlatest, rfl⟩, hbound⟩ := h
  constructor
  · -- Below nought the last actions are best cut off altogether.
    rcases le_total (excess latest + excess [a]) 0 with hle | hle
    · exact ⟨[], List.nil_suffix, (max_eq_left hle).symm⟩
    · refine ⟨latest ++ [a], List.suffix_concat_iff.2 (.inr ⟨latest, rfl, hlatest⟩), ?_⟩
      rw [excess_append, max_eq_right hle]
  · rintro d ⟨later, hlater, rfl⟩
    rcases List.suffix_concat_iff.1 hlater with rfl | ⟨before, rfl, hbefore⟩
    · exact le_max_left _ _
    · have := hbound ⟨before, hbefore, rfl⟩
      rw [excess_append]
      omega

/-- From nought, the count is the greatest excess over the last actions. -/
theorem isGreatest_openOptions (hp : p.openOptions = 0) (actions : List Action) :
    IsGreatest {d | ∃ later, later <:+ actions ∧ excess later = d}
      ((perform p actions).1.openOptions : Int) := by
  induction actions using List.reverseRecOn with
  | nil =>
    refine ⟨⟨[], List.nil_suffix, by simp [perform, hp]⟩, ?_⟩
    rintro d ⟨later, hlater, rfl⟩
    simp [List.suffix_nil.1 hlater]
  | append_singleton actions a ih =>
    rw [perform_fst, List.foldl_concat, Action.openOptions_next, ← perform_fst]
    exact isGreatest_concat ih a

/-- From nought, the warnings are as many as closings exceed openings at most among the first
actions. -/
theorem isGreatest_closingWarnings (hp : p.openOptions = 0) :
    IsGreatest {d | ∃ earlier, earlier <+: actions ∧ -excess earlier = d}
      (closingWarnings (perform p actions).2 : Int) := by
  -- The warnings are the count less the excess of all, so the cut that is best for the count
  -- is best here.
  obtain ⟨⟨latest, ⟨first, rfl⟩, hlatest⟩, hbound⟩ := isGreatest_openOptions hp actions
  have hall := openOptions_perform p (first ++ latest)
  rw [excess_append] at hall
  constructor
  · exact ⟨first, List.prefix_append _ _, by omega⟩
  · rintro d ⟨earlier, ⟨later, hcut⟩, rfl⟩
    have hlater := hbound ⟨later, ⟨earlier, hcut⟩, rfl⟩
    have hexcess := congrArg excess hcut
    simp only [excess_append] at hexcess
    omega

/-! ## The count and the text -/

/-- Each opening writes a parenthesis, and nothing that was written is taken back. -/
theorem Action.openOptions_next_le (h : p.openOptions ≤ p.text.toList.count '(') :
    (a.next p).openOptions ≤ (a.next p).text.toList.count '(' := by
  cases a with
  | step s =>
    have hstep : s.openAfter p.openOptions ≤
        p.openOptions + (s.fragment p.engine).toList.count '(' := by
      cases s with
      | openOptions first =>
        rw [Step.openAfter, Step.fragment, String.toList_append, List.count_append]
        exact Nat.add_le_add_left (Nat.le_add_right 1 _) _
      | closeOptions => exact (Nat.sub_le _ _).trans (Nat.le_add_right _ _)
      | _ => exact Nat.le_add_right _ _
    simp only [next, Pattern.after, String.toList_append, List.count_append]
    omega
  | _ => exact h

theorem openOptions_perform_le (h : p.openOptions ≤ p.text.toList.count '(') :
    (perform p actions).1.openOptions ≤ (perform p actions).1.text.toList.count '(' := by
  induction actions generalizing p with
  | nil => exact h
  | cons a actions ih =>
    rw [perform_cons]
    exact ih (Action.openOptions_next_le h)

/-! ## At every point of a session -/

namespace Beginning

variable {b : Beginning}

theorem openOptions_pattern : b.pattern.openOptions = 0 := by
  cases b <;> rfl

/-- The count of open groups and the warnings of closings, after a session. Both are a
greatest excess, the one among the last actions and the other one among the first; where the
text has room, there is room for the count of one group more. -/
structure TracksGroups (b : Beginning) (actions : List Action) : Prop where
  openOptions : IsGreatest {d | ∃ later, later <:+ actions ∧ excess later = d}
    ((b.after actions).openOptions : Int)
  isEnteringOptions : (b.after actions).isEnteringOptions = true ↔
    ∃ later, later <:+ actions ∧ later.countP Action.closes < later.countP Action.opens
  closingWarnings : IsGreatest {d | ∃ earlier, earlier <+: actions ∧ -excess earlier = d}
    (closingWarnings (perform b.pattern actions).2 : Int)
  le_count : (b.after actions).openOptions ≤ (b.after actions).text.toList.count '('
  succ_le (room : Nat) (h : (b.after actions).text.length < room) :
    (b.after actions).openOptions + 1 ≤ room

end Beginning

/-- **The count of open groups in closed form.** However a pattern begins, and whatever is
done with it, the count and the warnings follow from the openings and closings alone, and the
text bounds the count. -/
theorem open_groups_tracked (b : Beginning) (actions : List Action) :
    b.TracksGroups actions := by
  have hgreatest := isGreatest_openOptions b.openOptions_pattern actions
  have hcount : (b.after actions).openOptions ≤ (b.after actions).text.toList.count '(' :=
    openOptions_perform_le (b.openOptions_pattern ▸ Nat.zero_le _)
  constructor
  case openOptions => exact hgreatest
  case isEnteringOptions =>
    rw [Pattern.isEnteringOptions, decide_eq_true_eq]
    constructor
    · intro hopen
      obtain ⟨later, hlater, hexcess⟩ := hgreatest.1
      refine ⟨later, hlater, excess_pos_iff.1 ?_⟩
      rw [hexcess]
      exact Int.natCast_pos.2 hopen
    · rintro ⟨later, hlater, hexcess⟩
      have hle := hgreatest.2 ⟨later, hlater, rfl⟩
      exact Int.natCast_pos.1 ((excess_pos_iff.2 hexcess).trans_le hle)
  case closingWarnings => exact isGreatest_closingWarnings b.openOptions_pattern
  case le_count => exact hcount
  case succ_le =>
    intro room hroom
    have hlength : (b.after actions).text.toList.count '(' ≤
        (b.after actions).text.toList.length :=
      List.count_le_length
    rw [String.length_toList] at hlength
    omega

/-- A closing that comes too early does not make up for an opening after it. -/
example :
    let actions := [Action.step .closeOptions, .step (.openOptions none)]
    excess actions = 0 ∧ ((Beginning.create none).after actions).openOptions = 1 := by
  decide

end PatternAssembly
