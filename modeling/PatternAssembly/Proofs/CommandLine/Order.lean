import PatternAssembly.Proofs.CommandLine.Spellings
import PatternAssembly.Proofs.Pattern.Chains

/-!
# The order of options

The pieces of a pattern come in a fixed order, whatever the order of the options. Only an
option that may be repeated gives several pieces, in the order in which it occurs. So a
command line says the same if its options are permuted, as long as that order stays.

## Main definitions

* `SameOptions`: the same options in another order
* `assembled`: the text that options assemble

## Main statements

* `Arguments.text_pattern`: the pattern of arguments is what their options assemble
* `order_of_options`: the order and the spelling of options do not matter
-/
namespace PatternAssembly.CommandLine

open Occurrence

variable {a b : Arguments} {os os' : List Occurrence} {args args' : List String}

/-! ## Options in another order -/

/-- The same options, in an order that may be another; the values of an option that may be
repeated keep theirs. -/
structure SameOptions (os os' : List Occurrence) : Prop where
  perm : os.Perm os'
  inOrder : ∀ o, o.repeatable = true → valuesOf o os = valuesOf o os'

theorem perm_valuesOf (h : os.Perm os') (o : ValueOption) :
    (valuesOf o os).Perm (valuesOf o os') :=
  h.flatMap_right _

namespace SameOptions

theorem occurOnce (h : SameOptions os os') (honce : OccurOnce a os) : OccurOnce a os' := by
  refine ⟨fun o ho => ?_, fun s => ?_, fun s hs => honce.own s (h.perm.mem_iff.2 hs)⟩
  · have hlength := honce.values o ho
    rw [List.length_append] at hlength ⊢
    rwa [← (perm_valuesOf h.perm o).length_eq]
  · rw [← h.perm.count_eq]
    exact honce.switches s

theorem symm (h : SameOptions os os') : SameOptions os' os :=
  ⟨h.perm.symm, fun o ho => (h.inOrder o ho).symm⟩

/-- Options that occur once have the same values in every order. -/
theorem valuesOf_eq (h : SameOptions os os') (honce : OccurOnce a os) (o : ValueOption) :
    valuesOf o os = valuesOf o os' := by
  cases ho : o.repeatable with
  | true => exact h.inOrder o ho
  | false =>
    have hlength := honce.values o ho
    rw [List.length_append] at hlength
    have hperm := perm_valuesOf h.perm o
    match hvalues : valuesOf o os with
    | [] => rw [hvalues] at hperm; exact hperm.nil_eq
    | [v] => rw [hvalues] at hperm; exact (List.singleton_perm.1 hperm)
    | _ :: _ :: _ => simp [hvalues] at hlength; omega

end SameOptions

theorem addTo_eq_error {x : Occurrence} {e : UsageError} (h : x.addTo a = .error e)
    (hown : ∀ s, x = .switch s → s ≠ .help ∧ s ≠ .version) : e = .conflict := by
  cases x with
  | switch s =>
    rw [addTo, Arguments.addSwitch_eq (hown s rfl)] at h
    split at h
    · cases h
    · exact (Except.error.inj h).symm
  | value o v =>
    rw [addTo, Arguments.addValue_eq] at h
    split at h
    · cases h
    · exact (Except.error.inj h).symm

/-- Options are refused for one reason only. -/
theorem foldlM_addTo_eq_error {e : UsageError} (h : os.foldlM addTo a = .error e)
    (hown : ∀ s, .switch s ∈ os → s ≠ .help ∧ s ≠ .version) : e = .conflict := by
  induction os generalizing a with
  | nil => cases h
  | cons x os ih =>
    rw [List.foldlM_cons] at h
    cases hx : x.addTo a with
    | error e' =>
      rw [hx] at h
      obtain rfl := Except.error.inj h
      exact addTo_eq_error hx fun s hs => hown s (hs ▸ List.mem_cons_self)
    | ok b =>
      rw [hx] at h
      exact ih h fun s hs => hown s (List.mem_cons_of_mem _ hs)

/-- Options are taken together in any order, and say the same. -/
theorem foldlM_addTo_of_sameOptions (h : SameOptions os os')
    (hown : ∀ s, .switch s ∈ os → s ≠ .help ∧ s ≠ .version) :
    os.foldlM addTo a = os'.foldlM addTo a := by
  cases hos : os.foldlM addTo a with
  | ok b =>
    have honce : OccurOnce a os := exists_foldlM_addTo_iff.1 ⟨b, hos⟩
    obtain ⟨c, hos'⟩ := exists_foldlM_addTo_iff.2 (h.occurOnce honce)
    rw [hos']
    congr 1
    refine Arguments.ext_values (fun o => ?_) fun s => ?_
    · rw [values_of_foldlM_addTo hos, values_of_foldlM_addTo hos', h.valuesOf_eq honce]
    · rw [has_of_foldlM_addTo hos, has_of_foldlM_addTo hos', h.perm.contains_eq]
  | error e =>
    cases hos' : os'.foldlM addTo a with
    | ok c =>
      have honce : OccurOnce a os' := exists_foldlM_addTo_iff.1 ⟨c, hos'⟩
      obtain ⟨b, hb⟩ := exists_foldlM_addTo_iff.2 (h.symm.occurOnce honce)
      rw [hos] at hb
      cases hb
    | error e' =>
      have hown' (s : Switch) (hs : .switch s ∈ os') : s ≠ .help ∧ s ≠ .version :=
        hown s (h.perm.mem_iff.2 hs)
      rw [foldlM_addTo_eq_error hos hown, foldlM_addTo_eq_error hos' hown']

/-! ## The pattern -/

/-- The text that options assemble, given the values of each. -/
def assembled (values : ValueOption → List String) : String :=
  String.join (values .extendedRegexp
    ++ (values .startsWith).map ("^" ++ ·)
    ++ values .contains
    ++ (values .fixedStrings).map escapeLiteral
    ++ (values .word).map ("\\b" ++ · ++ "\\b")
    ++ (values .equals).map ("^" ++ · ++ "$")
    ++ (values .endsWith).map (· ++ "$"))

theorem text_foldl_after {p : Pattern} (hp : p.engine = .regular) (steps : List Step) :
    (steps.foldl Pattern.after p).text =
      p.text ++ String.join (steps.map (Step.fragment .regular)) := by
  apply String.toList_inj.1
  rw [Pattern.toList_text_foldl_after hp, String.toList_append, String.toList_join,
    List.flatMap_map]
  rfl

/-- The pattern of arguments is what their options assemble. -/
theorem Arguments.text_pattern (a : Arguments) : a.pattern.text = assembled a.values := by
  have hstart : (Pattern.create a.extendedRegexp).text =
      String.join (a.values .extendedRegexp) := by
    rw [Pattern.create, values]
    cases a.extendedRegexp <;> simp
  have hsteps : a.steps.map (Step.fragment .regular) =
      (a.values .startsWith).map ("^" ++ ·) ++ a.values .contains
        ++ (a.values .fixedStrings).map escapeLiteral
        ++ (a.values .word).map ("\\b" ++ · ++ "\\b")
        ++ (a.values .equals).map ("^" ++ · ++ "$")
        ++ (a.values .endsWith).map (· ++ "$") := by
    simp [steps, values, Function.comp_def, Step.fragment, WordPosition.signs, Engine.escape]
  rw [pattern, text_foldl_after rfl, hstart, hsteps, ← String.join_append, assembled]
  simp only [List.append_assoc]

/-! ## Command lines -/

theorem own_of_lettered {cs : List Char} (h : Lettered os cs args) :
    ∀ s, .switch s ∈ os → s ≠ .help ∧ s ≠ .version := by
  induction h with
  | nil => simp
  | switch _ hs _ ih =>
    intro s hmem
    cases hmem with
    | head => exact hs
    | tail _ hmem => exact ih s hmem
  | separate | equals | attached => simp

theorem own_of_written (h : Written os args) :
    ∀ s, .switch s ∈ os → s ≠ .help ∧ s ≠ .version := by
  induction h with
  | nil => simp
  | append h _ ih =>
    intro s hmem
    cases List.mem_append.1 hmem with
    | inl hmem =>
      cases h with
      | switch _ hs =>
        obtain rfl : s = _ := by simpa using hmem
        exact hs
      | separate | equals => simp at hmem
      | letters h => exact own_of_lettered h s hmem
    | inr hmem => exact ih s hmem

/-- An accepted command line says what its options say together. -/
theorem foldlM_addTo_of_read (h : Written os args) (hread : Arguments.read args = .ok a) :
    os.foldlM addTo {} = .ok a :=
  ((read_eq_ok_iff_of_written h).1 hread).1

/-- **The order of options does not matter**, nor how they are written: what is read is the
same, or is refused for the same reason, and so is all that a run makes of it. Of an accepted
command line the pieces of the pattern come in a fixed order. -/
theorem order_of_options (h : Written os args) (h' : Written os' args')
    (hsame : SameOptions os os') :
    Arguments.read args = Arguments.read args' ∧
    ∀ a, Arguments.read args = .ok a →
      a.pattern.text = assembled (valuesOf · os) ∧
      a.options.toFlags =
        { global := true, multiLine := true,
          ignoreCase := os.contains (.switch .ignoreCase) } := by
  constructor
  · rw [read_of_written h, read_of_written h',
      foldlM_addTo_of_sameOptions hsame (own_of_written h)]
  · intro a hread
    have hfold := foldlM_addTo_of_read h hread
    have hvalues : a.values = (valuesOf · os) := by
      funext o
      cases o <;> exact values_of_foldlM_addTo hfold _
    have hignore : a.ignoreCase = os.contains (.switch .ignoreCase) :=
      has_of_foldlM_addTo hfold .ignoreCase
    rw [Arguments.text_pattern, hvalues]
    refine ⟨rfl, ?_⟩
    simp [Arguments.options, SearchOptions.toFlags, hignore]

theorem order_of_options_three :
    ∃ a, Arguments.read ["-Fa.", "-i", "--starts-with=s"] = .ok a ∧
      Arguments.read ["--starts-with", "s", "-iF", "a."] = .ok a ∧
      a.pattern.text = "^sa\\." ∧ a.options.toFlags.ignoreCase = true := by
  have hattached : Spelled [.value .fixedStrings "a."] ["-Fa."] := by
    rw [show "-Fa." = String.ofList ('-' :: 'F' :: "a.".toList) by decide]
    exact .letters (.attached (by decide) (by decide) (by decide))
  have hletter : Spelled [.switch .ignoreCase] ["-i"] := by
    rw [show "-i" = String.ofList ['-', 'i'] by decide]
    exact .letters (.switch (by decide) (by decide) .nil)
  have hequals : Spelled [.value .startsWith "s"] ["--starts-with=s"] := by
    rw [show "--starts-with=s" = "--" ++ ("starts-with" ++ "=" ++ "s") by decide]
    exact .equals (by decide)
  have hseparate : Spelled [.value .startsWith "s"] ["--starts-with", "s"] := by
    rw [show "--starts-with" = "--" ++ "starts-with" by decide]
    exact .separate (by decide) (by decide)
  have hcluster : Spelled [.switch .ignoreCase, .value .fixedStrings "a."] ["-iF", "a."] := by
    rw [show "-iF" = String.ofList ['-', 'i', 'F'] by decide]
    exact .letters (.switch (by decide) (by decide) (.separate (by decide) (by decide)))
  have hfirst := Written.append hattached (.append hletter (.append hequals .nil))
  have hsecond := Written.append hseparate (.append hcluster .nil)
  have hsame : SameOptions
      [.value .fixedStrings "a.", .switch .ignoreCase, .value .startsWith "s"]
      [.value .startsWith "s", .switch .ignoreCase, .value .fixedStrings "a."] :=
    ⟨by decide, by intro o; cases o <;> decide⟩
  obtain ⟨hread, hall⟩ := order_of_options hfirst hsecond hsame
  have hok : Arguments.read ["-Fa.", "-i", "--starts-with=s"] =
      .ok { startsWith := some "s", fixedStrings := ["a."], ignoreCase := true } := by
    decide +kernel
  obtain ⟨htext, hflags⟩ := hall _ hok
  refine ⟨_, hok, hread.symm.trans hok, ?_, ?_⟩
  · rw [htext]
    decide +kernel
  · rw [hflags]
    decide

end PatternAssembly.CommandLine
