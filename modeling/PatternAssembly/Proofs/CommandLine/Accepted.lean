import PatternAssembly.CommandLine.Arguments
import PatternAssembly.Proofs.Tree.Reading

/-!
# Command lines that are accepted

The options of a command line are gathered one after the other, and what they say together is
checked at the end. So an accepted command line does not ask for a number and for replacements
at once. One that asks for neither may also ask for the number: reading its options goes on as
before.

## Main definitions

* `Arguments.counting`: the same arguments, and the number of matches is asked for
* `Undisturbed`: a reading goes on as before when the number is asked for

## Main statements

* `Arguments.read_eq_ok_iff`: when a command line is accepted
* `Arguments.read_count_cons`: a command line with `--count` in front
-/
namespace PatternAssembly.CommandLine

variable {a : Arguments} {r : ArgumentReader} {arguments : List String}

/-! ## What is checked at the end -/

namespace Arguments

/-- The options go together: a number and replacements are not both asked for, and all matches
are not to be replaced unless some are. -/
def Fits (a : Arguments) : Prop :=
  (a.count = true → a.replace = none) ∧ (a.all = true → a.replace ≠ none ∨ a.count = true)

end Arguments

theorem ArgumentReader.finish_eq_ok_iff :
    r.finish = .ok a ↔ ∃ r', r.settle = .ok r' ∧ r'.arguments = a ∧ a.Fits := by
  rw [finish, bind_eq_ok]
  refine exists_congr fun r' => and_congr_right fun _ => ?_
  dsimp only
  constructor
  · intro h
    split at h
    · cases h
    · split at h
      · cases h
      · obtain rfl := Except.ok.inj h
        refine ⟨rfl, ?_⟩
        cases hreplace : r'.arguments.replace <;> simp_all [Arguments.Fits]
  · rintro ⟨rfl, hcount, hall⟩
    rw [if_neg, if_neg]
    · rfl
    · cases hreplace : r'.arguments.replace <;> simp_all
    · cases hreplace : r'.arguments.replace <;> simp_all

/-- A command line is accepted if its options are read, the last one has its value, and they
go together. -/
theorem Arguments.read_eq_ok_iff : Arguments.read arguments = .ok a ↔
    ∃ r r', arguments.foldlM ArgumentReader.step {} = .ok r ∧ r.settle = .ok r' ∧
      r'.arguments = a ∧ a.Fits := by
  simp only [read, bind_eq_ok, ArgumentReader.finish_eq_ok_iff, exists_and_left]

/-! ## The number of matches is asked for as well -/

/-- The same arguments, and the number of matches is asked for. -/
def Arguments.counting (a : Arguments) : Arguments := { a with count := true }

/-- The same state of reading, and the number of matches was asked for. -/
def ArgumentReader.counting (r : ArgumentReader) : ArgumentReader :=
  { r with arguments := r.arguments.counting }

namespace Arguments

theorem addValue_counting (o : ValueOption) (value : String) :
    a.counting.addValue o value = (a.addValue o value).map counting := by
  have hmap (x : Except UsageError (Option String)) (f : Option String → Arguments) :
      (x >>= fun v => pure (f v)).map counting = x >>= fun v => pure (f v).counting := by
    cases x <;> rfl
  cases o with
  | contains | fixedStrings | word => rfl
  | extendedRegexp | startsWith | equals | endsWith | replace =>
    simp only [addValue, hmap]
    rfl

theorem addSwitch_counting {s : Switch} (hs : s ≠ .count) :
    a.counting.addSwitch s = (a.addSwitch s).map counting := by
  cases s with
  | ignoreCase => cases h : a.ignoreCase <;> simp [addSwitch, counting, h, Except.map]
  | all => cases h : a.all <;> simp [addSwitch, counting, h, Except.map]
  | printPattern => cases h : a.printPattern <;> simp [addSwitch, counting, h, Except.map]
  | count => exact absurd rfl hs
  | help | version => rfl

theorem count_of_addValue {b : Arguments} {o : ValueOption} {value : String}
    (h : a.addValue o value = .ok b) : b.count = a.count := by
  cases o <;> simp [addValue, bind_eq_ok, pure, Except.pure] at h <;> grind

theorem count_of_addSwitch {b : Arguments} {s : Switch} (h : a.addSwitch s = .ok b) :
    b.count = (a.count || s == .count) := by
  cases s <;> simp [addSwitch] at h <;> grind

end Arguments

/-- What is read after `r`, and what is read if the number of matches was asked for: the first
does not ask for it only if `r` did not, and then the second goes on as the first does. -/
def Undisturbed (r : ArgumentReader) (first second : Except UsageError ArgumentReader) :
    Prop :=
  ∀ r', first = .ok r' → r'.arguments.count = false →
    r.arguments.count = false ∧ second = .ok r'.counting

namespace Undisturbed

variable {first second : Except UsageError ArgumentReader}

theorem ok {r' : ArgumentReader} (h : r'.arguments = r.arguments) :
    Undisturbed r (.ok r') (.ok r'.counting) := by
  intro last hlast hcount
  obtain rfl := Except.ok.inj hlast
  exact ⟨h ▸ hcount, rfl⟩

theorem error (e : UsageError) : Undisturbed r (.error e) second := by
  intro last hlast
  cases hlast

theorem bind {g : ArgumentReader → Except UsageError ArgumentReader}
    (h : Undisturbed r first second) (hg : ∀ mid, Undisturbed mid (g mid) (g mid.counting)) :
    Undisturbed r (first >>= g) (second >>= g) := by
  intro last hlast hcount
  obtain ⟨mid, hmid, hrest⟩ := bind_eq_ok.1 hlast
  obtain ⟨hmidcount, hcounting⟩ := hg mid last hrest hcount
  obtain ⟨hstart, hsecond⟩ := h mid hmid hmidcount
  exact ⟨hstart, bind_eq_ok.2 ⟨_, hsecond, hcounting⟩⟩

variable (r) (pending : Option (ValueOption × Option String)) (ended : Bool)

/-- One more option is taken into account. -/
theorem add {one other : Except UsageError Arguments}
    (h : ∀ b, one = .ok b → b.count = false → r.arguments.count = false ∧
      other = .ok b.counting) :
    Undisturbed r (one >>= fun b => pure ⟨b, pending, ended⟩)
      (other >>= fun b => pure ⟨b, pending, ended⟩) := by
  intro last hlast hcount
  obtain ⟨b, hb, hpure⟩ := bind_eq_ok.1 hlast
  obtain rfl := Except.ok.inj hpure
  obtain ⟨hstart, hother⟩ := h b hb hcount
  exact ⟨hstart, bind_eq_ok.2 ⟨b.counting, hother, rfl⟩⟩

theorem addValue (o : ValueOption) (value : String) :
    Undisturbed r (r.arguments.addValue o value >>= fun b => pure ⟨b, pending, ended⟩)
      (r.counting.arguments.addValue o value >>= fun b => pure ⟨b, pending, ended⟩) := by
  apply add
  intro b hb hcount
  rw [ArgumentReader.counting, Arguments.addValue_counting, hb]
  exact ⟨Arguments.count_of_addValue hb ▸ hcount, rfl⟩

theorem addSwitch (s : Switch) :
    Undisturbed r (r.arguments.addSwitch s >>= fun b => pure ⟨b, pending, ended⟩)
      (r.counting.arguments.addSwitch s >>= fun b => pure ⟨b, pending, ended⟩) := by
  apply add
  intro b hb hcount
  rw [Arguments.count_of_addSwitch hb, Bool.or_eq_false_iff] at hcount
  obtain ⟨hstart, hs⟩ := hcount
  rw [ArgumentReader.counting, Arguments.addSwitch_counting (by simpa using hs), hb]
  exact ⟨hstart, rfl⟩

theorem settle : Undisturbed r r.settle r.counting.settle := by
  rcases r with ⟨b, - | ⟨o, - | value⟩, ended⟩
  · exact ok rfl
  · exact error _
  · exact addValue ⟨b, _, ended⟩ none ended o value

theorem switch (s : Switch) : Undisturbed r (r.switch s) (r.counting.switch s) :=
  (settle r).bind fun mid => addSwitch mid mid.pending mid.ended s

theorem valueOption (o : ValueOption) (attached : Option String) :
    Undisturbed r (r.valueOption o attached) (r.counting.valueOption o attached) := by
  refine (settle r).bind fun mid => ?_
  cases attached with
  | none => exact ok rfl
  | some value => exact addValue mid mid.pending mid.ended o value

theorem long (text : List Char) : Undisturbed r (r.long text) (r.counting.long text) := by
  simp only [ArgumentReader.long]
  split
  · exact error _
  · exact switch r _
  · exact error _
  · exact valueOption r _ _

theorem cluster (text : List Char) :
    Undisturbed r (r.cluster text) (r.counting.cluster text) := by
  induction text generalizing r with
  | nil => exact ok rfl
  | cons letter rest ih =>
    simp only [ArgumentReader.cluster]
    split
    · exact error _
    · exact (switch r _).bind ih
    · split
      · exact valueOption r _ _
      · exact valueOption r _ _
      · exact valueOption r _ _

theorem plain (text : String) : Undisturbed r (r.plain text) (r.counting.plain text) := by
  rcases r with ⟨b, - | ⟨o, - | value⟩, ended⟩
  · exact error _
  · exact ok rfl
  · exact error _

theorem step (argument : String) :
    Undisturbed r (r.step argument) (r.counting.step argument) := by
  simp only [ArgumentReader.step]
  split
  · exact error _
  · rw [if_neg (by assumption)]
    split
    · exact ok rfl
    · exact long r _
    · exact cluster r _
    · exact plain r _

theorem foldlM_step : Undisturbed r (arguments.foldlM ArgumentReader.step r)
    (arguments.foldlM ArgumentReader.step r.counting) := by
  induction arguments generalizing r with
  | nil => exact ok rfl
  | cons argument arguments ih =>
    simp only [List.foldlM_cons]
    exact (step r argument).bind ih

end Undisturbed

/-- A command line that asks neither for the number of matches nor for replacements may ask
for the number as well. -/
theorem Arguments.read_count_cons (h : Arguments.read arguments = .ok a)
    (hcount : a.count = false) (hreplace : a.replace = none) :
    Arguments.read ("--count" :: arguments) = .ok a.counting := by
  obtain ⟨r, r', hfold, hsettle, rfl, -⟩ := read_eq_ok_iff.1 h
  have hstart : ArgumentReader.step {} "--count" = .ok ({} : ArgumentReader).counting := rfl
  obtain ⟨hrcount, hsettle'⟩ := Undisturbed.settle r r' hsettle hcount
  obtain ⟨-, hfold'⟩ := Undisturbed.foldlM_step {} r hfold hrcount
  have hfits : r'.arguments.counting.Fits := ⟨fun _ => hreplace, fun _ => .inr rfl⟩
  refine read_eq_ok_iff.2 ⟨r.counting, r'.counting, ?_, hsettle', rfl, hfits⟩
  rw [List.foldlM_cons, hstart]
  exact hfold'

end PatternAssembly.CommandLine
