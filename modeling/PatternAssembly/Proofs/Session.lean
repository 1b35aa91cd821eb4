import Mathlib.Data.List.Infix
import PatternAssembly.Session

/-!
# Sessions, action by action

What an action leaves behind is soon told: a step adds its fragment, a change of the engine
keeps the text and the open groups, and every question leaves the pattern as it was, a refused
search too. So a session may be cut anywhere, and what it answers after the cut depends on the
pattern there only.

## Main definitions

* `Action.next`: the pattern that an action leaves behind
* `Action.answered`: what an action is answered, with what is noted down for it

## Main statements

* `perform_fst`: the pattern after a session
* `perform_snd`: the answers in a session
* `perform_append`: a session cut in two
* `getElem?_perform_snd`: what is answered at a point of a session
-/
namespace PatternAssembly

variable {p : Pattern} {a : Action} {actions before after : List Action}

/-- The pattern that an action leaves behind. -/
def Action.next (p : Pattern) : Action → Pattern
  | step s => p.after s
  | engine e => p.withEngine e
  | _ => p

@[simp] theorem Action.perform_fst : (a.perform p).value.1 = a.next p := by
  cases a <;> rfl

/-- What an action is answered by a pattern, with what is noted down for it. -/
def Action.answered (p : Pattern) (a : Action) : Traced Answer :=
  { value := (a.perform p).value.2, events := (a.perform p).events }

theorem perform_cons : perform p (a :: actions) =
    ((perform (a.next p) actions).1,
      { value := (a.perform p).value.2, events := (a.perform p).events } ::
        (perform (a.next p) actions).2) := by
  simp [perform]

/-- The pattern after a session is what its actions leave behind, one after another. -/
theorem perform_fst : (perform p actions).1 = actions.foldl Action.next p := by
  induction actions generalizing p with
  | nil => rfl
  | cons a actions ih => rw [perform_cons, List.foldl_cons, ih]

/-- Every action is answered by the pattern that the actions before it leave behind. -/
theorem perform_snd : (perform p actions).2 =
    (actions.inits.zip actions).map fun x => x.2.answered (perform p x.1).1 := by
  induction actions generalizing p with
  | nil => rfl
  | cons a actions ih =>
    have hcons (before : List Action) :
        (perform p (a :: before)).1 = (perform (a.next p) before).1 := by rw [perform_cons]
    rw [perform_cons, ih, List.inits_cons, List.zip_cons_cons, List.zip_map_left,
      List.map_cons, List.map_map]
    simp only [Function.comp_def, Prod.map, id_eq, hcons]
    rfl

/-- A session may be cut in two: the second part starts from the pattern that the first
leaves. -/
theorem perform_append : perform p (before ++ after) =
    ((perform (perform p before).1 after).1,
      (perform p before).2 ++ (perform (perform p before).1 after).2) := by
  induction before generalizing p with
  | nil => rfl
  | cons a before ih => simp only [List.cons_append, perform_cons, ih]

/-- Every action is answered. -/
@[simp] theorem length_perform : (perform p actions).2.length = actions.length := by
  induction actions generalizing p with
  | nil => rfl
  | cons a actions ih => rw [perform_cons, List.length_cons, ih, List.length_cons]

/-- At every point of a session, an action is answered by the pattern at that point. -/
theorem getElem?_perform_snd : (perform p (before ++ a :: after)).2[before.length]? =
    some (a.answered (perform p before).1) := by
  rw [perform_append, perform_cons, List.getElem?_append_right (Nat.le_of_eq length_perform)]
  simp [Action.answered]

theorem getElem?_perform :
    (perform p (before ++ a :: after)).2[before.length]?.map Traced.value =
    some (a.perform (perform p before).1).value.2 := by
  rw [getElem?_perform_snd]
  rfl

end PatternAssembly
