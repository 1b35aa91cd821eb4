import PatternAssembly.Pattern.Search
import PatternAssembly.Proofs.Matcher
import PatternAssembly.Proofs.Pattern.Fragments
import PatternAssembly.Proofs.Pattern.Searches

/-!
# The tracking of groups agrees with the engine

A pattern counts how many groups of options are open, without a look at its text. Where
callers supply letters and digits only, the count is the number of groups that are open when
the text is read up to the same step. So the engine refuses the text just for what the steps
tell: a group closed that was not open, a group left open, or reversed bounds.

## Main definitions

* `Step.Tame`: what the caller supplies consists of letters and digits
* `Reader.Sound`: what has been read has a meaning, and so many groups are open
* `Flawed`: what is wrong with steps

## Main statements

* `reaches_step`, `refused_step`: what one step leads to
* `groups_agree_with_engine`: a chain of steps compiles unless its steps tell that it cannot
-/
namespace PatternAssembly

variable {m : Modes} {r : Reader} {rest : List Char} {n : Nat} {s : Step} {steps : List Step}

/-! ## Steps -/

namespace Step

/-- What the caller supplies consists of letters and digits, and quantities are given a
sequence. -/
def Tame : Step → Prop
  | append value | equalsTo value | characterOf value | characterExcept value
  | word _ value =>
    IsAlnum value
  | startsWith value | endsWith value | openOptions value | nextOption value =>
    ∀ s ∈ value, IsAlnum s
  | repeated q sequence => q.Fits ∧ ∃ s, sequence = some s ∧ IsAlnum s
  | oneOf values => ∀ s ∈ values, IsAlnum s
  | shape _ | literal _ | closeOptions => True

/-- The step opens, divides or closes a group of options. -/
def IsGrouping : Step → Prop
  | openOptions _ | nextOption _ | closeOptions => True
  | _ => False

/-- The step repeats with its greatest number of times below the least. -/
def Reversed : Step → Prop
  | repeated q _ => q.Reversed
  | _ => False

/-- The text of a step. -/
def chars (s : Step) : List Char := (s.fragment .regular).toList

/-- A step that has no part in groups adds a meaning. -/
theorem exists_phrase (hm : m.unicode = true) (hs : s.Tame) (hgrouping : ¬ s.IsGrouping)
    (hreversed : ¬ s.Reversed) : ∃ S, ReadsAsPhrase m s.chars S := by
  have hstart := (readsAsUnit_lineStart (m := m)).phrase
  have hend := (readsAsUnit_lineEnd (m := m)).phrase
  cases s with
  | append value => exact ⟨_, readsAsPhrase_alnum hs⟩
  | startsWith value =>
    exact ⟨_, by simpa [chars, fragment] using hstart.append (readsAsPhrase_option hs)⟩
  | endsWith value =>
    exact ⟨_, by simpa [chars, fragment] using (readsAsPhrase_option hs).append hend⟩
  | equalsTo value =>
    exact ⟨_, by simpa [chars, fragment] using
      hstart.append ((readsAsPhrase_alnum hs).append hend)⟩
  | repeated q sequence =>
    obtain ⟨hq, v, rfl, hv⟩ := hs
    exact ⟨_, readsAsPhrase_repeated hq hreversed hv.1 (readsAsPhrase_alnum hv)⟩
  | oneOf values =>
    have hvalues : List.Forall₂ (fun s S => ReadsAsPhrase m s.toList S) values
        (values.map fun v => .spelled m v.toList) := by
      rw [List.forall₂_map_right_iff, List.forall₂_same]
      exact fun v hv => readsAsPhrase_alnum (hs v hv)
    exact ⟨_, (readsAsUnit_oneOf hvalues).phrase⟩
  | characterOf value => exact ⟨_, (readsAsUnit_characterOf hm hs).phrase⟩
  | characterExcept value => exact ⟨_, (readsAsUnit_characterExcept hm hs).phrase⟩
  | word position value => exact ⟨_, readsAsPhrase_word (readsAsPhrase_alnum hs)⟩
  | shape s => exact ⟨_, readsAsPhrase_shape hm s⟩
  | literal value => exact ⟨_, readsAsPhrase_escape value⟩
  | openOptions _ | nextOption _ | closeOptions => exact absurd trivial hgrouping

theorem calm_chars (hs : s.Tame) : Calm s.chars := by
  by_cases hgrouping : s.IsGrouping
  · cases s <;> first | exact hgrouping.elim | simp [chars, fragment]
  · by_cases hreversed : s.Reversed
    · cases s with
      | repeated q sequence =>
        obtain ⟨-, v, rfl, hv⟩ := hs
        simp [chars, fragment, group, hv.1]
      | _ => exact hreversed.elim
    · obtain ⟨S, hS⟩ := exists_phrase (m := {}) rfl hs hgrouping hreversed
      exact hS.calm

end Step

theorem calm_flatMap_chars (hs : ∀ s ∈ steps, s.Tame) : Calm (steps.flatMap Step.chars) := by
  induction steps with
  | nil => exact calm_nil
  | cons s steps ih =>
    rw [List.flatMap_cons]
    exact (Step.calm_chars (hs s List.mem_cons_self)).append
      (ih fun t ht => hs t (List.mem_cons_of_mem _ ht))

/-! ## Reading the steps -/

/-- What has been read of a group means something. -/
def OpenPart.Sound (m : Modes) (p : OpenPart) : Prop := ∃ done S, p.Shows m done S

/-- What has been read means something, and `n` groups are open. -/
structure Reader.Sound (m : Modes) (r : Reader) (n : Nat) : Prop where
  current : r.current.Sound m
  groups : ∀ g ∈ r.groups,
    g.free = false ∧ (∃ index, g.kind = .capture index) ∧ g.outer.Sound m
  length : r.groups.length = n

theorem sound_start (pattern : List Char) : (Reader.start pattern).Sound m 0 :=
  ⟨⟨_, _, OpenPart.shows_beginning 0⟩, by simp [Reader.start], rfl⟩

/-- Reading on leads to a sound reader at the rest of the text. -/
def Reader.Continues (m : Modes) (r : Reader) (rest : List Char) (n : Nat) : Prop :=
  ∃ r', r.Reaches r' ∧ r'.At rest ∧ r'.Sound m n

theorem Reader.Sound.phrase {cs : List Char} {S : Meaning} (h : r.Sound m n)
    (hS : ReadsAsPhrase m cs S) (hrest : Calm rest) (hat : r.At (cs ++ rest)) :
    r.Continues m rest n := by
  obtain ⟨ts, r', hreaches, hgrown, hts⟩ := hS.reads r rest hrest hat
  obtain ⟨done, T, hT⟩ := h.current
  exact ⟨r', hreaches, hgrown.at_rest, ⟨_, _, hgrown.shows hT hts⟩,
    hgrown.groups ▸ h.groups, hgrown.groups ▸ h.length⟩

theorem Reader.Sound.opening (h : r.Sound m n) (hrest : Calm rest)
    (hat : r.At ('(' :: rest)) :
    r.Continues m rest (n + 1) := by
  obtain ⟨pos, index, opened, r', hreads, hat', hcurrent, hgroups⟩ := reads_opening hrest hat
  refine ⟨r', hreads.reaches, hat', ⟨_, _, hcurrent ▸ OpenPart.shows_beginning pos⟩, ?_, ?_⟩
  · rw [hgroups]
    intro g hg
    rcases List.mem_cons.1 hg with rfl | hg
    · exact ⟨rfl, ⟨index, rfl⟩, h.current⟩
    · exact h.groups g hg
  · rw [hgroups, List.length_cons, h.length]

theorem Reader.Sound.bar (h : r.Sound m n) (hat : r.At ('|' :: rest)) :
    r.Continues m rest n := by
  obtain ⟨stop, next, r', hreads, hat', hgroups, hcurrent⟩ := reads_bar hat
  obtain ⟨done, S, hS⟩ := h.current
  exact ⟨r', hreads.reaches, hat', ⟨_, _, hcurrent ▸ hS.alternate stop next⟩,
    hgroups ▸ h.groups, hgroups ▸ h.length⟩

theorem Reader.Sound.closing (h : r.Sound m (n + 1)) (hat : r.At (')' :: rest)) :
    r.Continues m rest n := by
  obtain ⟨g, groups, hgroups⟩ : ∃ g groups, r.groups = g :: groups :=
    List.exists_cons_of_length_eq_add_one h.length
  obtain ⟨hfree, ⟨index, hkind⟩, done, S, hS⟩ :=
    h.groups g (hgroups ▸ List.mem_cons_self)
  obtain ⟨done', T, hT⟩ := h.current
  obtain ⟨s, r', hreads, hat', hgroups', hcurrent⟩ := reads_closing hat hgroups hfree
  refine ⟨r', hreads.reaches, hat', ⟨done, S.andThen (.oneOf (done'.reverse ++ [T])), ?_⟩, ?_,
    ?_⟩
  · rw [hcurrent, hkind]
    exact hS.push (Tree.means_group (hT.close _))
  · rw [hgroups']
    exact fun g' hg' => h.groups g' (hgroups ▸ List.mem_cons_of_mem _ hg')
  · have := h.length
    rw [hgroups] at this
    rw [hgroups']
    simpa using this

theorem Reader.Continues.trans {rest' : List Char} {k : Nat} (h : r.Continues m rest n)
    (h' : ∀ r' : Reader, r'.At rest → r'.Sound m n → r'.Continues m rest' k) :
    r.Continues m rest' k := by
  obtain ⟨r', hreaches, hat, hsound⟩ := h
  obtain ⟨r'', hreaches', hat', hsound'⟩ := h' r' hat hsound
  exact ⟨r'', hreaches.trans hreaches', hat', hsound'⟩

/-- **One step moves the reader and the count alike.** A step that neither closes a group in
vain nor has reversed bounds is read, and then as many groups are open as the pattern
counts. -/
theorem reaches_step (hm : m.unicode = true) (h : r.Sound m n) (hs : s.Tame)
    (hclose : ¬ (s = .closeOptions ∧ n = 0)) (hreversed : ¬ s.Reversed) (hrest : Calm rest)
    (hat : r.At (s.chars ++ rest)) : r.Continues m rest (s.openAfter n) := by
  by_cases hgrouping : s.IsGrouping
  · cases s with
    | openOptions first =>
      have hphrase := readsAsPhrase_option (m := m) hs
      have hat : r.At ('(' :: ((first.getD "").toList ++ rest)) := by
        simpa [Step.chars, Step.fragment] using hat
      exact (h.opening (hphrase.calm.append hrest) hat).trans fun r' hat' h' =>
        h'.phrase hphrase hrest hat'
    | nextOption option =>
      have hphrase := readsAsPhrase_option (m := m) hs
      have hat : r.At ('|' :: ((option.getD "").toList ++ rest)) := by
        simpa [Step.chars, Step.fragment] using hat
      exact (h.bar hat).trans fun r' hat' h' => h'.phrase hphrase hrest hat'
    | closeOptions =>
      obtain ⟨k, rfl⟩ : ∃ k, n = k + 1 := Nat.exists_eq_succ_of_ne_zero fun hn =>
        hclose ⟨rfl, hn⟩
      exact h.closing hat
    | _ => exact hgrouping.elim
  · obtain ⟨S, hS⟩ := Step.exists_phrase hm hs hgrouping hreversed
    have hcount : s.openAfter n = n := by
      cases s <;> first | rfl | exact absurd trivial hgrouping
    rw [hcount]
    exact h.phrase hS hrest hat

/-- A step that closes a group in vain, or has reversed bounds, is refused. -/
theorem refused_step (h : r.Sound m n) (hs : s.Tame)
    (hflaw : s = .closeOptions ∧ n = 0 ∨ s.Reversed) (hrest : Calm rest)
    (hat : r.At (s.chars ++ rest)) :
    ∃ f, r.Ends (.error f) ∧
      (f.kind = .groupUnopened ∨ f.kind = .repetitionCountInvalid) := by
  rcases hflaw with ⟨rfl, rfl⟩ | hreversed
  · have hgroups : r.groups = [] := List.eq_nil_of_length_eq_zero h.length
    have hat : r.At (')' :: rest) := hat
    refine ⟨⟨.groupUnopened, r.cursor.charSpan, none⟩, ?_, .inl rfl⟩
    refine Reader.ends_of_refused hat (List.cons_ne_nil _ _) ?_
    rw [Reader.step, hat.rest]
    show r.closeGroup = _
    rw [Reader.closeGroup, hgroups]
    rfl
  · cases s with
    | repeated q sequence =>
      obtain ⟨hq, v, rfl, hv⟩ := hs
      obtain ⟨f, hends, hkind⟩ :=
        ends_of_reversed hq hreversed hv.1 (readsAsPhrase_alnum (m := m) hv) hrest hat
      exact ⟨f, hends, .inr hkind⟩
    | _ => exact hreversed.elim

/-- What is wrong with steps that follow when `n` groups are open. -/
def Flawed : Nat → List Step → Prop
  | n, [] => 0 < n
  | n, s :: steps => (s = .closeOptions ∧ n = 0 ∨ s.Reversed) ∨ Flawed (s.openAfter n) steps

/-- Steps without a flaw are read to the end, and no group is open then. -/
theorem continues_of_not_flawed (hm : m.unicode = true) (h : r.Sound m n)
    (hs : ∀ s ∈ steps, s.Tame) (hflawed : ¬ Flawed n steps)
    (hat : r.At (steps.flatMap Step.chars)) : r.Continues m [] 0 := by
  induction steps generalizing r n with
  | nil =>
    obtain rfl : n = 0 := Nat.eq_zero_of_not_pos hflawed
    exact ⟨r, .refl, hat, h⟩
  | cons s steps ih =>
    have htame : ∀ t ∈ steps, t.Tame := fun t ht => hs t (List.mem_cons_of_mem _ ht)
    obtain ⟨hflaw, hsteps⟩ := not_or.1 hflawed
    obtain ⟨hclose, hreversed⟩ := not_or.1 hflaw
    exact (reaches_step hm h (hs s List.mem_cons_self) hclose hreversed
      (calm_flatMap_chars htame) hat).trans fun r' hat' h' => ih h' htame hsteps hat'

/-- Steps with a flaw are refused, or leave a group open. -/
theorem ends_of_flawed (hm : m.unicode = true) (h : r.Sound m n) (hs : ∀ s ∈ steps, s.Tame)
    (hflawed : Flawed n steps) (hat : r.At (steps.flatMap Step.chars)) :
    (∃ f, r.Ends (.error f) ∧ (f.kind = .groupUnopened ∨ f.kind = .repetitionCountInvalid)) ∨
      ∃ r', r.Ends (.ok r') ∧ r'.groups ≠ [] := by
  induction steps generalizing r n with
  | nil =>
    refine .inr ⟨r, Reader.ends_nil hat, ?_⟩
    rintro hgroups
    have := h.length
    rw [hgroups] at this
    exact absurd hflawed (by simp [Flawed, ← this])
  | cons s steps ih =>
    have htame : ∀ t ∈ steps, t.Tame := fun t ht => hs t (List.mem_cons_of_mem _ ht)
    have hrest := calm_flatMap_chars htame
    by_cases hflaw : s = .closeOptions ∧ n = 0 ∨ s.Reversed
    · exact .inl (refused_step h (hs s List.mem_cons_self) hflaw hrest hat)
    · obtain ⟨hclose, hreversed⟩ := not_or.1 hflaw
      obtain ⟨r', hreaches, hat', h'⟩ :=
        reaches_step hm h (hs s List.mem_cons_self) hclose hreversed hrest hat
      rcases ih h' htame (hflawed.resolve_left hflaw) hat' with
        ⟨f, hends, hkind⟩ | ⟨r'', hends, hopen⟩
      · exact .inl ⟨f, hreaches.ends hends, hkind⟩
      · exact .inr ⟨r'', hreaches.ends hends, hopen⟩

/-! ## Chains -/

theorem Step.reversed_iff :
    s.Reversed ↔ ∃ lo hi sequence, s = .ofAmountInRange lo (some hi) sequence ∧ hi < lo := by
  constructor
  · intro h
    cases s with
    | repeated q sequence =>
      obtain ⟨hi, hhi, hlt⟩ := h
      cases q with
      | between lo top =>
        obtain rfl : top = some hi := hhi
        exact ⟨lo, hi, sequence, rfl, hlt⟩
      | anyAmount | oneOrMore => cases hhi
      | atMostOne =>
        obtain rfl := Option.some.inj hhi
        exact absurd hlt (by decide)
      | exactly k =>
        obtain rfl := Option.some.inj hhi
        exact absurd hlt (Nat.lt_irrefl _)
    | _ => exact h.elim
  · rintro ⟨lo, hi, sequence, rfl, hlt⟩
    exact ⟨hi, rfl, hlt⟩

namespace Pattern

variable {p : Pattern}

/-- The pattern that steps make of nothing. -/
def ofSteps (steps : List Step) : Pattern := steps.foldl after (create none)

/-- A group of options is closed although none is open. -/
def ClosesInVain (steps : List Step) : Prop :=
  ∃ before after, steps = before ++ .closeOptions :: after ∧
    (ofSteps before).isEnteringOptions = false

@[simp] theorem engine_foldl_after : (steps.foldl after p).engine = p.engine := by
  induction steps generalizing p with
  | nil => rfl
  | cons s steps ih => exact ih

theorem toList_text_foldl_after (hp : p.engine = .regular) :
    (steps.foldl after p).text.toList = p.text.toList ++ steps.flatMap Step.chars := by
  induction steps generalizing p with
  | nil => simp
  | cons s steps ih =>
    have hafter : (p.after s).engine = .regular := hp
    rw [List.foldl_cons, ih hafter, after, hp, String.toList_append, List.append_assoc]
    rfl

theorem toList_text_ofSteps : (ofSteps steps).text.toList = steps.flatMap Step.chars := by
  simpa [ofSteps, create] using toList_text_foldl_after (p := create none) rfl

theorem openOptions_foldl_after :
    (steps.foldl after p).openOptions =
      steps.foldl (fun n s => s.openAfter n) p.openOptions := by
  induction steps generalizing p with
  | nil => rfl
  | cons s steps ih => exact ih

end Pattern

theorem flawed_iff : Flawed n steps ↔
    (∃ before after, steps = before ++ .closeOptions :: after ∧
        before.foldl (fun n s => s.openAfter n) n = 0) ∨
      0 < steps.foldl (fun n s => s.openAfter n) n ∨ ∃ s ∈ steps, s.Reversed := by
  induction steps generalizing n with
  | nil => simp [Flawed]
  | cons s steps ih =>
    rw [Flawed, ih, List.foldl_cons]
    constructor
    · rintro ((⟨rfl, rfl⟩ | hs) | ⟨before, after, rfl, hzero⟩ | hopen | ⟨t, ht, hreversed⟩)
      · exact .inl ⟨[], steps, rfl, rfl⟩
      · exact .inr (.inr ⟨s, List.mem_cons_self, hs⟩)
      · exact .inl ⟨s :: before, after, rfl, hzero⟩
      · exact .inr (.inl hopen)
      · exact .inr (.inr ⟨t, List.mem_cons_of_mem _ ht, hreversed⟩)
    · rintro (⟨before, after, heq, hzero⟩ | hopen | ⟨t, ht, hreversed⟩)
      · cases before with
        | nil =>
          obtain ⟨rfl, -⟩ := List.cons.inj heq
          exact .inl (.inl ⟨rfl, hzero⟩)
        | cons t before =>
          obtain ⟨rfl, rfl⟩ := List.cons.inj heq
          exact .inr (.inl ⟨before, after, rfl, hzero⟩)
      · exact .inr (.inr (.inl hopen))
      · rcases List.mem_cons.1 ht with rfl | ht
        · exact .inl (.inr hreversed)
        · exact .inr (.inr (.inr ⟨t, ht, hreversed⟩))

theorem exists_reversed_iff : (∃ s ∈ steps, s.Reversed) ↔
    ∃ lo hi sequence, Step.ofAmountInRange lo (some hi) sequence ∈ steps ∧ hi < lo := by
  constructor
  · rintro ⟨s, hmem, hs⟩
    obtain ⟨lo, hi, sequence, rfl, hlt⟩ := Step.reversed_iff.1 hs
    exact ⟨lo, hi, sequence, hmem, hlt⟩
  · rintro ⟨lo, hi, sequence, hmem, hlt⟩
    exact ⟨_, hmem, Step.reversed_iff.2 ⟨lo, hi, sequence, rfl, hlt⟩⟩

/-- The flaws of a chain, as its caller sees them. -/
theorem flawed_zero_iff : Flawed 0 steps ↔
    Pattern.ClosesInVain steps ∨ (Pattern.ofSteps steps).isEnteringOptions = true ∨
      ∃ lo hi sequence, Step.ofAmountInRange lo (some hi) sequence ∈ steps ∧ hi < lo := by
  have hcount (steps : List Step) : (Pattern.ofSteps steps).openOptions =
      steps.foldl (fun n s => s.openAfter n) 0 := Pattern.openOptions_foldl_after
  rw [flawed_iff, exists_reversed_iff, ← hcount]
  simp only [Pattern.ClosesInVain, Pattern.isEnteringOptions, hcount, decide_eq_true_eq,
    decide_eq_false_iff_not, Nat.pos_iff_ne_zero, not_not]

/-- **The count of open groups is the engine's.** Steps that are given letters and digits
compile, within the limits of the engine, just if no group is closed in vain, none is left
open, and no bounds are reversed. -/
theorem groups_agree_with_engine (hs : ∀ s ∈ steps, s.Tame) (flags : Flags) :
    let p := Pattern.ofSteps steps
    let flawed := Pattern.ClosesInVain steps ∨ p.isEnteringOptions = true ∨
      ∃ lo hi sequence, Step.ofAmountInRange lo (some hi) sequence ∈ steps ∧ hi < lo
    (flawed → ∃ f : Fault,
        (p.compile flags).result = .error (.invalidPattern p.text (.fault f)) ∧
        f.kind ∈ [FaultKind.groupUnopened, .groupUnclosed, .repetitionCountInvalid]) ∧
      (¬ flawed → (∃ m, (p.compile flags).result = .ok (.regular m)) ∨
        ∃ reason, (p.compile flags).result = .error (.invalidPattern p.text reason) ∧
          reason.IsLimit) := by
  intro p flawed
  have hm : flags.modes.unicode = true := rfl
  have hengine : p.engine = .regular := Pattern.engine_foldl_after
  have hat : (Reader.start p.text.toList).At (steps.flatMap Step.chars) :=
    ⟨Pattern.toList_text_ofSteps, rfl⟩
  have hflawed : flawed ↔ Flawed 0 steps := flawed_zero_iff.symm
  rw [hflawed, Pattern.result_compile hengine]
  -- A flaw stops the reading at its step, or leaves a group open at the end.
  constructor
  · intro h
    rcases ends_of_flawed hm (sound_start _) hs h hat with
      ⟨f, hends, hkind⟩ | ⟨r, hends, hopen⟩
    · refine ⟨f, by rw [compile_of_ends_error hends]; rfl, ?_⟩
      rcases hkind with hkind | hkind <;> simp [hkind]
    · obtain ⟨f, hkind, hcompile⟩ := compile_of_ends_open hends hopen
      exact ⟨f, by rw [hcompile]; rfl, by simp [hkind]⟩
  · intro h
    obtain ⟨r, hreaches, hat', hsound⟩ := continues_of_not_flawed hm (sound_start _) hs h hat
    obtain ⟨done, S, hS⟩ := hsound.current
    have hgroups := List.eq_nil_of_length_eq_zero hsound.length
    rcases compile_of_ends (hreaches.ends (Reader.ends_nil hat')) hgroups hS with
      ⟨reason, hcompile, hlimit⟩ | ⟨m, hcompile, -⟩
    · exact .inr ⟨reason, by rw [hcompile]; rfl, hlimit⟩
    · exact .inl ⟨m, by rw [hcompile]; rfl⟩

/-- A group with a repeated word in it that is left open. -/
theorem groups_agree_with_engine_left_open :
    let steps : List Step :=
      [.openOptions (some "a"), .ofAmountInRange 2 (some 3) (some "b"), .nextOption none]
    ∃ f : Fault, ((Pattern.ofSteps steps).compile {}).result =
        .error (.invalidPattern "(a(b)\x7b2,3\x7d|" (.fault f)) ∧
      f.kind ∈ [FaultKind.groupUnopened, .groupUnclosed, .repetitionCountInvalid] := by
  have hs : ∀ s ∈ [Step.openOptions (some "a"), .ofAmountInRange 2 (some 3) (some "b"),
      .nextOption none], s.Tame := by
    simp only [List.forall_mem_cons, Step.Tame, Quantity.Fits]
    refine ⟨?_, ⟨?_, "b", rfl, by decide⟩, ?_, List.forall_mem_nil _⟩ <;> decide
  exact (groups_agree_with_engine hs {}).1 (.inr (.inl rfl))

end PatternAssembly
