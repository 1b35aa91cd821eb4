import PatternAssembly.Proofs.Pattern.Assembly

/-!
# Equal patterns

Two patterns are equal if they agree in the text, in the number of open groups and in the
engine. A group of options may be written at once or step by step, and so may the group of a
repeated sequence: both lead to equal patterns, however many groups are open before, and
neither leaves a warning.

Of the number of open groups a pattern shows no more than whether it is nought. Still, what
further steps are answered tells different patterns apart: as many closings as the one has
open groups leave none open in it, and some in a pattern that has more of them.

## Main definitions

* `Pattern.addAll`: several steps, with what the log says of them
* `Pattern.answers`: what a pattern answers to what is done with it
* `AnswerAlike`: two patterns answer the same to all further steps

## Main statements

* `Pattern.addAll_nextOptions`: inside of a group, options are added without a warning
* `Pattern.addAll_group`: a group step by step is the group at once
* `groups_at_once_or_step_by_step`: the two ways of writing a group agree
* `AnswerAlike.openOptions_le`: closings tell the numbers of open groups apart
* `equal_iff_answers_equal`: equal patterns are those that no steps tell apart
-/
namespace PatternAssembly

/-- Inside of a group no step is warned of. -/
theorem Step.warning_eq_none {s : Step} {text : String} {n : Nat} (h : 0 < n) :
    s.warning text n = none := by
  cases s with
  | nextOption | closeOptions => exact if_neg (Nat.ne_of_gt h)
  | _ => rfl

namespace Pattern

variable {p : Pattern} {s : Step} {steps : List Step}

/-! ## Groups at once and step by step -/

/-- Several steps one after another, with what the log says of them. -/
def addAll (p : Pattern) (steps : List Step) : Traced Pattern := steps.foldlM add p

@[simp] theorem addAll_nil : p.addAll [] = pure p := rfl

theorem addAll_cons : p.addAll (s :: steps) = p.add s >>= fun q => q.addAll steps :=
  List.foldlM_cons

@[simp] theorem addAll_singleton :
    p.addAll [s] = p.add s := by rw [addAll_cons]; exact bind_pure _

theorem addAll_append (more : List Step) :
    p.addAll (steps ++ more) = p.addAll steps >>= fun q => q.addAll more := List.foldlM_append

/-- A step without a warning leaves nothing in the log. -/
theorem add_eq_pure (h : s.warning p.text p.openOptions = none) :
    p.add s = pure (p.after s) := by
  rw [add, h]
  rfl

/-- Inside of a group, options are added one after another without a warning. -/
theorem addAll_nextOptions (h : 0 < p.openOptions) (options : List (Option String)) :
    p.addAll (options.map .nextOption) =
      pure { p with
        text := p.text ++ String.join (options.map fun o => "|" ++ o.getD "") } := by
  induction options generalizing p with
  | nil => simp
  | cons o options ih =>
    have hopen : 0 < (p.after (.nextOption o)).openOptions := h
    rw [List.map_cons, addAll_cons, add_eq_pure (Step.warning_eq_none h), pure_bind, ih hopen,
      List.map_cons, String.join_cons, ← String.append_assoc]
    rfl

/-- A group that is opened, filled with options and closed is the group of these options. What
is open around it stays open. -/
theorem addAll_group (p : Pattern) (first : Option String) (options : List (Option String)) :
    p.addAll (.openOptions first :: (options.map .nextOption ++ [.closeOptions])) =
      p.add (.oneOf ((first :: options).map fun o => o.getD "")) := by
  have hopen : 0 < (p.after (.openOptions first)).openOptions := Nat.succ_pos _
  rw [addAll_cons, add_eq_pure rfl, pure_bind, addAll_append, addAll_nextOptions hopen,
    pure_bind, addAll_singleton, add_eq_pure, add_eq_pure rfl]
  · refine congrArg pure ?_
    simp [after, Step.fragment, Step.openAfter, intercalate_cons, String.append_assoc,
      Function.comp_def]
  · exact Step.warning_eq_none hopen

end Pattern

/-- **A group may be written at once or step by step.** Whatever has been assembled before,
and however many groups are open, options that are entered one by one make the same pattern as
the list of them, a group without options as well; and a repeated sequence is its group with
the quantity behind it. No step of these leaves a warning. -/
theorem groups_at_once_or_step_by_step (p : Pattern) :
    (∀ values, (p.add (.oneOf values)).events = []) ∧
    (∀ v vs, p.addAll (.openOptions (some v) :: (vs.map (fun w => .nextOption (some w)) ++
        [.closeOptions])) = p.add (.oneOf (v :: vs))) ∧
    p.addAll [.openOptions none, .closeOptions] = p.add (.oneOf []) ∧
    ∀ q sequence, sequence ≠ "" →
      (p.add (.repeated q (some sequence))).events = [] ∧
      p.addAll [.openOptions (some sequence), .closeOptions, .repeated q none] =
        p.add (.repeated q (some sequence)) := by
  refine ⟨fun values => rfl, fun v vs => ?_, ?_, fun q sequence hne => ⟨rfl, ?_⟩⟩
  · have hgroup := p.addAll_group (some v) (vs.map some)
    have hvalues : (vs.map some).map (fun o => o.getD "") = vs :=
      List.map_map.trans (List.map_id vs)
    rwa [List.map_cons, hvalues, List.map_map] at hgroup
  · exact p.addAll_group none []
  · have hgroup : p.addAll [.openOptions (some sequence), .closeOptions] = _ :=
      p.addAll_group (some sequence) []
    have hsteps :
        p.addAll ([.openOptions (some sequence), .closeOptions] ++ [.repeated q none]) = _ :=
      p.addAll_append _
    rw [hgroup, Pattern.add_eq_pure rfl, pure_bind, Pattern.addAll_singleton] at hsteps
    refine hsteps.trans (congrArg pure ?_)
    simp [Pattern.after, Step.fragment, Step.openAfter, Step.group, hne, String.append_assoc]

/-- Options in the repeated sequence stay inside of its group. -/
theorem groups_at_once_or_step_by_step_repeated :
    let p := Pattern.create (some "x")
    let q := Quantity.between 2 none
    "b|c" ≠ "" ∧
      p.addAll [.openOptions (some "b|c"), .closeOptions, .repeated q none] =
        p.add (.repeated q (some "b|c")) ∧
      (p.add (.repeated q (some "b|c"))).value.text = "x(b|c)\x7b2,\x7d" := by
  intro p q
  have hne : "b|c" ≠ "" := by decide
  exact ⟨hne, ((groups_at_once_or_step_by_step p).2.2.2 q "b|c" hne).2, by decide⟩

/-! ## What steps are answered -/

/-- What a pattern answers to what is done with it. A step is answered with the text after it,
and with whether a group of options is open then. -/
def Pattern.answers (p : Pattern) (actions : List Action) : List Answer :=
  (perform p actions).2.map Traced.value

/-- An empty literal text shows which engine writes it. -/
theorem Engine.eq_of_escape_empty {e e' : Engine} (h : e.escape "" = e'.escape "") :
    e = e' := by
  cases e <;> cases e' <;> revert h <;> decide

/-- The patterns answer the same to all further steps. -/
def AnswerAlike (p p' : Pattern) : Prop :=
  ∀ steps : List Step, p.answers (steps.map .step) = p'.answers (steps.map .step)

namespace AnswerAlike

variable {p p' : Pattern}

theorem symm (h : AnswerAlike p p') : AnswerAlike p' p := fun steps => (h steps).symm

/-- The pattern after some steps. -/
theorem perform_steps (p : Pattern) (steps : List Step) :
    (perform p (steps.map .step)).1 = steps.foldl Pattern.after p := by
  rw [perform_fst, List.foldl_map]
  rfl

/-- After the same steps, at least one, there is the same text, and groups are open in both
patterns or in neither. -/
theorem after (h : AnswerAlike p p') (steps : List Step) (s : Step) :
    ((steps.foldl Pattern.after p).after s).text =
        ((steps.foldl Pattern.after p').after s).text ∧
      ((steps.foldl Pattern.after p).after s).isEnteringOptions =
        ((steps.foldl Pattern.after p').after s).isEnteringOptions := by
  have hlast (r : Pattern) :
      (r.answers ((steps ++ [s]).map .step))[(steps.map Action.step).length]? =
        some (.pattern ((steps.foldl Pattern.after r).after s).text
          ((steps.foldl Pattern.after r).after s).isEnteringOptions) := by
    rw [Pattern.answers, List.map_append, List.map_singleton, List.getElem?_map,
      getElem?_perform, perform_steps]
    rfl
  have heq := h (steps ++ [s]) ▸ hlast p
  rw [hlast p'] at heq
  obtain ⟨htext, hopen⟩ := Answer.pattern.inj (Option.some.inj heq)
  exact ⟨htext.symm, hopen.symm⟩

theorem text_eq (h : AnswerAlike p p') : p.text = p'.text := by
  have htext := (h.after [] (.append "")).1
  simpa [Pattern.after, Step.fragment] using htext

theorem engine_eq (h : AnswerAlike p p') : p.engine = p'.engine := by
  have htext := (h.after [] (.literal "")).1
  apply Engine.eq_of_escape_empty
  simpa [Pattern.after, Step.fragment, h.text_eq] using htext

/-- Closings leave as many groups fewer open, down to none. -/
theorem openOptions_closings (p : Pattern) (n : Nat) :
    ((List.replicate n Step.closeOptions).foldl Pattern.after p).openOptions =
      p.openOptions - n := by
  induction n generalizing p with
  | zero => rfl
  | succ n ih =>
    rw [List.replicate_succ, List.foldl_cons, ih, Nat.add_comm n 1, Nat.sub_add_eq]
    rfl

/-- As many closings as the one pattern has open groups leave none open in the other either,
so that one has no more. -/
theorem openOptions_le (h : AnswerAlike p p') : p'.openOptions ≤ p.openOptions := by
  have hcount (r : Pattern) :
      (((List.replicate p.openOptions .closeOptions).foldl Pattern.after r).after
        (.append "")).openOptions = r.openOptions - p.openOptions := openOptions_closings r _
  have hopen := (h.after (List.replicate p.openOptions .closeOptions) (.append "")).2
  simp only [Pattern.isEnteringOptions, hcount, Nat.sub_self, Nat.lt_irrefl,
    decide_false] at hopen
  have hnone : ¬ 0 < p'.openOptions - p.openOptions := of_decide_eq_false hopen.symm
  omega

end AnswerAlike

/-- **Equal patterns are those that no steps tell apart.** If all further steps are answered
alike, with the same text and with a group open in both patterns or in neither, the patterns
are equal. Then whatever else is done with them, changes of the engine and searches too, is
answered alike. -/
theorem equal_iff_answers_equal (p p' : Pattern) :
    (p = p' ↔
      ∀ steps : List Step, p.answers (steps.map .step) = p'.answers (steps.map .step)) ∧
    (p = p' ↔ ∀ actions : List Action, p.answers actions = p'.answers actions) := by
  have hequal (h : AnswerAlike p p') : p = p' := by
    have hopen := Nat.le_antisymm h.symm.openOptions_le h.openOptions_le
    rw [Pattern.mk.injEq]
    exact ⟨h.text_eq, hopen, h.engine_eq⟩
  constructor
  · exact ⟨fun h steps => h ▸ rfl, hequal⟩
  · exact ⟨fun h actions => h ▸ rfl, fun h => hequal fun steps => h _⟩

/-- One group open and two: the first closing leaves a difference, although neither text nor
truth value did. -/
example :
    let p : Pattern := { text := "((", openOptions := 1 }
    let p' : Pattern := { text := "((", openOptions := 2 }
    p.isEnteringOptions = p'.isEnteringOptions ∧
      p.answers [.step .closeOptions] ≠ p'.answers [.step .closeOptions] := by
  decide

end PatternAssembly
