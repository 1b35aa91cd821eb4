import PatternAssembly.Proofs.CommandLine.Accepted

/-!
# Options as they occur

What an accepted command line says is known option by option: the values that an option has,
in the order in which they occur, and whether a switch occurs. An option that may not be
repeated occurs once, and then it does not matter which other options stand before it or
behind it.

## Main definitions

* `Occurrence`: an option, with its value if it has one
* `Arguments.values`, `Arguments.has`: what arguments say of an option
* `Occurrence.addTo`: the arguments with one more option
* `OccurOnce`: no option occurs too often

## Main statements

* `Arguments.ext_values`: arguments are what they say of each option
* `exists_foldlM_addTo_iff`, `values_of_foldlM_addTo`, `has_of_foldlM_addTo`: when occurrences
  are taken together, and what they say then
-/
namespace PatternAssembly.CommandLine

variable {a b : Arguments}

/-- An option as it occurs on a command line. -/
inductive Occurrence where
  | switch (s : Switch)
  | value (o : ValueOption) (v : String)
deriving DecidableEq

/-! ## What arguments say of an option -/

namespace Arguments

/-- The values of an option, in order. -/
def values (a : Arguments) : ValueOption → List String
  | .extendedRegexp => a.extendedRegexp.toList
  | .startsWith => a.startsWith.toList
  | .contains => a.contains
  | .fixedStrings => a.fixedStrings
  | .word => a.words
  | .equals => a.equals.toList
  | .endsWith => a.endsWith.toList
  | .replace => a.replace.toList

/-- An option is switched on. Help and version are never: who asks for them gets no
arguments. -/
def has (a : Arguments) : Switch → Bool
  | .ignoreCase => a.ignoreCase
  | .count => a.count
  | .all => a.all
  | .printPattern => a.printPattern
  | .help | .version => false

/-- Arguments are what they say of each option. -/
theorem ext_values (hvalues : ∀ o, a.values o = b.values o) (hhas : ∀ s, a.has s = b.has s) :
    a = b := by
  have hoption {x y : Option String} (h : x.toList = y.toList) : x = y := by
    cases x <;> cases y <;> simp_all
  cases a
  cases b
  simp only [mk.injEq]
  exact ⟨hoption (hvalues .extendedRegexp), hoption (hvalues .startsWith), hvalues .contains,
    hvalues .fixedStrings, hvalues .word, hoption (hvalues .equals),
    hoption (hvalues .endsWith),
    hhas .ignoreCase, hhas .count, hoption (hvalues .replace), hhas .all, hhas .printPattern⟩

theorem length_values_le {o : ValueOption} (h : o.repeatable = false) :
    (a.values o).length ≤ 1 := by
  have hoption (x : Option String) : x.toList.length ≤ 1 := by cases x <;> simp
  cases o with
  | contains | fixedStrings | word => cases h
  | extendedRegexp | startsWith | equals | endsWith | replace => exact hoption _

/-- The arguments with one more option switched on. -/
def withSwitch (a : Arguments) : Switch → Arguments
  | .ignoreCase => { a with ignoreCase := true }
  | .count => { a with count := true }
  | .all => { a with all := true }
  | .printPattern => { a with printPattern := true }
  | .help | .version => a

/-- The arguments with one more value of an option, or with another value if it has one
only. -/
def withValue (a : Arguments) (v : String) : ValueOption → Arguments
  | .extendedRegexp => { a with extendedRegexp := some v }
  | .startsWith => { a with startsWith := some v }
  | .contains => { a with contains := a.contains ++ [v] }
  | .fixedStrings => { a with fixedStrings := a.fixedStrings ++ [v] }
  | .word => { a with words := a.words ++ [v] }
  | .equals => { a with equals := some v }
  | .endsWith => { a with endsWith := some v }
  | .replace => { a with replace := some v }

theorem addSwitch_eq {s : Switch} (hs : s ≠ .help ∧ s ≠ .version) :
    a.addSwitch s = if a.has s = false then .ok (a.withSwitch s) else .error .conflict := by
  cases s with
  | ignoreCase => cases h : a.ignoreCase <;> simp [addSwitch, has, h, withSwitch]
  | count => cases h : a.count <;> simp [addSwitch, has, h, withSwitch]
  | all => cases h : a.all <;> simp [addSwitch, has, h, withSwitch]
  | printPattern => cases h : a.printPattern <;> simp [addSwitch, has, h, withSwitch]
  | help => exact absurd rfl hs.1
  | version => exact absurd rfl hs.2

theorem addValue_eq (o : ValueOption) (v : String) :
    a.addValue o v =
      if o.repeatable = true ∨ a.values o = [] then .ok (a.withValue v o)
        else .error .conflict := by
  have honce (x : Option String) (f : Option String → Arguments) :
      (once x v >>= fun y => pure (f y)) =
        if x.toList = [] then .ok (f (some v)) else .error .conflict := by
    cases x <;> rfl
  cases o with
  | contains | fixedStrings | word => rfl
  | extendedRegexp | startsWith | equals | endsWith | replace =>
    simp only [addValue, honce, ValueOption.repeatable, values, withValue,
      Bool.false_eq_true, false_or]

@[simp] theorem values_withSwitch (s : Switch) (o : ValueOption) :
    (a.withSwitch s).values o = a.values o := by
  cases s <;> cases o <;> rfl

theorem has_withSwitch {s : Switch} (hs : s ≠ .help ∧ s ≠ .version) (s' : Switch) :
    (a.withSwitch s).has s' = (a.has s' || s == s') := by
  cases s <;> cases s' <;> simp_all [withSwitch, has]

theorem values_withValue {o : ValueOption} (h : o.repeatable = true ∨ a.values o = [])
    (v : String) (o' : ValueOption) :
    (a.withValue v o).values o' = a.values o' ++ if o = o' then [v] else [] := by
  cases o <;> cases o' <;> simp_all [withValue, values, ValueOption.repeatable]

@[simp] theorem has_withValue (o : ValueOption) (v : String) (s : Switch) :
    (a.withValue v o).has s = a.has s := by
  cases o <;> cases s <;> rfl

end Arguments

/-! ## One more option -/

namespace Occurrence

variable {x : Occurrence}

/-- The arguments with one more option. -/
def addTo (a : Arguments) : Occurrence → Except UsageError Arguments
  | switch s => a.addSwitch s
  | value o v => a.addValue o v

/-- What the occurrence adds to the values of an option. -/
def valueOf (o : ValueOption) : Occurrence → List String
  | switch _ => []
  | value o' v => if o' = o then [v] else []

/-- The option may be added: it may be repeated, or it was not there before. Help and version
may not. -/
def NewTo (a : Arguments) : Occurrence → Prop
  | switch s => (s ≠ .help ∧ s ≠ .version) ∧ a.has s = false
  | value o _ => o.repeatable = true ∨ a.values o = []

theorem newTo_of_addTo (h : x.addTo a = .ok b) : x.NewTo a := by
  cases x with
  | switch s =>
    have hs : s ≠ .help ∧ s ≠ .version := by cases s <;> simp_all [addTo, Arguments.addSwitch]
    rw [addTo, Arguments.addSwitch_eq hs] at h
    by_cases hnew : a.has s = false
    · exact ⟨hs, hnew⟩
    · rw [if_neg hnew] at h
      cases h
  | value o v =>
    rw [addTo, Arguments.addValue_eq] at h
    by_cases hnew : o.repeatable = true ∨ a.values o = []
    · exact hnew
    · rw [if_neg hnew] at h
      cases h

/-- What arguments say once an option is added to them. -/
theorem exists_addTo (h : x.NewTo a) : ∃ b, x.addTo a = .ok b ∧
    (∀ o, b.values o = a.values o ++ x.valueOf o) ∧
      ∀ s, b.has s = (a.has s || x == switch s) := by
  cases x with
  | switch s =>
    refine ⟨a.withSwitch s, by rw [addTo, Arguments.addSwitch_eq h.1, if_pos h.2], ?_, ?_⟩
    · intro o
      simp [valueOf]
    · intro s'
      rw [Arguments.has_withSwitch h.1]
      simp [BEq.beq]
  | value o v =>
    have hnew : o.repeatable = true ∨ a.values o = [] := h
    refine ⟨a.withValue v o, by rw [addTo, Arguments.addValue_eq, if_pos hnew], ?_, by simp⟩
    intro o'
    exact Arguments.values_withValue hnew v o'

theorem values_of_addTo (h : x.addTo a = .ok b) (o : ValueOption) :
    b.values o = a.values o ++ x.valueOf o := by
  obtain ⟨c, hc, hvalues, -⟩ := exists_addTo (newTo_of_addTo h)
  obtain rfl := Except.ok.inj (h.symm.trans hc)
  exact hvalues o

theorem has_of_addTo (h : x.addTo a = .ok b) (s : Switch) :
    b.has s = (a.has s || x == switch s) := by
  obtain ⟨c, hc, -, hhas⟩ := exists_addTo (newTo_of_addTo h)
  obtain rfl := Except.ok.inj (h.symm.trans hc)
  exact hhas s

end Occurrence

open Occurrence

/-! ## All options -/

variable {os : List Occurrence}

/-- The values that occurrences give an option, in order. -/
def valuesOf (o : ValueOption) (os : List Occurrence) : List String := os.flatMap (valueOf o)

theorem mem_valuesOf {o : ValueOption} {v : String} :
    v ∈ valuesOf o os ↔ .value o v ∈ os := by
  rw [valuesOf, List.mem_flatMap]
  constructor
  · rintro ⟨x, hx, hv⟩
    cases x with
    | switch s => cases hv
    | value o' v' =>
      by_cases ho : o' = o
      · obtain rfl : v = v' := by simpa [valueOf, ho] using hv
        exact ho ▸ hx
      · simp [valueOf, ho] at hv
  · intro h
    exact ⟨_, h, by simp [valueOf]⟩

/-- No option occurs too often behind arguments: one that may not be repeated has one value at
most, a switch is there once at most, and neither help nor version is asked for. -/
structure OccurOnce (a : Arguments) (os : List Occurrence) : Prop where
  values : ∀ o, o.repeatable = false → (a.values o ++ valuesOf o os).length ≤ 1
  switches : ∀ s, (a.has s).toNat + os.count (.switch s) ≤ 1
  own : ∀ s, .switch s ∈ os → s ≠ .help ∧ s ≠ .version

theorem values_of_foldlM_addTo (h : os.foldlM addTo a = .ok b) (o : ValueOption) :
    b.values o = a.values o ++ valuesOf o os := by
  induction os generalizing a with
  | nil =>
    obtain rfl := Except.ok.inj h
    simp [valuesOf]
  | cons x os ih =>
    rw [List.foldlM_cons] at h
    obtain ⟨c, hx, hrest⟩ := bind_eq_ok.1 h
    rw [ih hrest, values_of_addTo hx, List.append_assoc]
    rfl

theorem has_of_foldlM_addTo (h : os.foldlM addTo a = .ok b) (s : Switch) :
    b.has s = (a.has s || os.contains (switch s)) := by
  induction os generalizing a with
  | nil =>
    obtain rfl := Except.ok.inj h
    simp
  | cons x os ih =>
    rw [List.foldlM_cons] at h
    obtain ⟨c, hx, hrest⟩ := bind_eq_ok.1 h
    rw [ih hrest, has_of_addTo hx, Bool.or_assoc, List.contains_cons, BEq.comm]

/-- The first of some occurrences that are none too often may be added. -/
theorem newTo_of_occurOnce {x : Occurrence} (h : OccurOnce a (x :: os)) : x.NewTo a := by
  cases x with
  | switch s =>
    refine ⟨h.own s (List.mem_cons_self ..), ?_⟩
    have hcount := h.switches s
    rw [List.count_cons_self] at hcount
    cases hs : a.has s with
    | false => rfl
    | true =>
      rw [hs, Bool.toNat_true] at hcount
      omega
  | value o v =>
    cases ho : o.repeatable with
    | true => exact .inl ho
    | false =>
      have hlength := h.values o ho
      refine .inr (List.eq_nil_of_length_eq_zero ?_)
      simp [valuesOf, valueOf] at hlength
      omega

/-- Behind arguments to which an option is added, the others occur as often as behind the
arguments before, the option taken with them. -/
theorem occurOnce_cons_iff {x : Occurrence} (h : x.addTo a = .ok b) :
    OccurOnce a (x :: os) ↔ OccurOnce b os := by
  have hvalues (o : ValueOption) :
      a.values o ++ valuesOf o (x :: os) = b.values o ++ valuesOf o os := by
    rw [values_of_addTo h, List.append_assoc]
    rfl
  have hnew := newTo_of_addTo h
  have hswitches (s : Switch) :
      (a.has s).toNat + (x :: os).count (.switch s) =
        (b.has s).toNat + os.count (.switch s) := by
    rw [has_of_addTo h, List.count_cons]
    cases hx : x == switch s with
    | false => simp
    | true =>
      obtain rfl := eq_of_beq hx
      simp [hnew.2]
      omega
  constructor
  · intro honce
    refine ⟨fun o ho => hvalues o ▸ honce.values o ho,
      fun s => hswitches s ▸ honce.switches s, ?_⟩
    intro s hs
    exact honce.own s (List.mem_cons_of_mem _ hs)
  · intro honce
    refine ⟨fun o ho => (hvalues o).symm ▸ honce.values o ho,
      fun s => (hswitches s).symm ▸ honce.switches s, ?_⟩
    intro s hs
    cases hs with
    | head => exact hnew.1
    | tail _ hs => exact honce.own s hs

/-- Occurrences are taken together if no option occurs too often. -/
theorem exists_foldlM_addTo_iff : (∃ b, os.foldlM addTo a = .ok b) ↔ OccurOnce a os := by
  induction os generalizing a with
  | nil =>
    refine ⟨fun _ => ⟨fun o ho => ?_, fun s => ?_, by simp⟩, fun _ => ⟨a, rfl⟩⟩
    · simpa [valuesOf] using Arguments.length_values_le ho
    · simpa using Bool.toNat_le (a.has s)
  | cons x os ih =>
    rw [List.foldlM_cons]
    constructor
    · rintro ⟨c, h⟩
      obtain ⟨b, hx, hrest⟩ := bind_eq_ok.1 h
      exact (occurOnce_cons_iff hx).2 (ih.1 ⟨c, hrest⟩)
    · intro honce
      obtain ⟨b, hx, -⟩ := exists_addTo (newTo_of_occurOnce honce)
      obtain ⟨c, hrest⟩ := ih.2 ((occurOnce_cons_iff hx).1 honce)
      exact ⟨c, bind_eq_ok.2 ⟨b, hx, hrest⟩⟩

end PatternAssembly.CommandLine
