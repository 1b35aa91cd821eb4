import PatternAssembly.Proofs.Tree.BracketExtension

/-!
# What is read behind a pattern

If more text stands behind a pattern that is read to its end, with no group open and where
blanks count, reading the longer pattern passes through the end of the shorter one, unless the
text continues its last sign.

## Main definitions

* `Reader.extend`: the same state with more text behind
* `Reader.Closes`: a state in which a pattern may end where blanks count
* `Reader.Passes`: what reading leads to, in any spacing
* `freeBehind`: whether spacing is free behind a pattern

## Main statements

* `step_extend`: one sign
* `passes_extend`: a whole pattern
* `read_append`: a pattern without bars and a phrase behind it
-/
namespace PatternAssembly

namespace Reader

open Cursor

variable {q : List Char} {r r' : Reader}

/-- The same state, with more text behind the pattern. -/
def extend (r : Reader) (q : List Char) : Reader := { r with cursor := r.cursor.extend q }

@[simp] theorem cursor_extend : (r.extend q).cursor = r.cursor.extend q := rfl

@[simp] theorem current_extend : (r.extend q).current = r.current := rfl

@[simp] theorem groups_extend : (r.extend q).groups = r.groups := rfl

@[simp] theorem free_extend : (r.extend q).free = r.free := rfl

@[simp] theorem names_extend : (r.extend q).names = r.names := rfl

theorem takeLast_extend : (r.extend q).takeLast = r.takeLast := rfl

/-- The pattern may end in this state, and blanks count there. -/
structure Closes (r : Reader) : Prop where
  groups : r.groups = []
  free : r.free = false

theorem openGroup_extend (hcalm : Calm q) (hne : r.cursor.rest ≠ [])
    (h : r.openGroup = .ok r') (hlast : r'.cursor.rest ≠ [] ∨ r'.groups = []) :
    r'.cursor.rest <:+ r.cursor.next.rest ∧ (r.extend q).openGroup = .ok (r'.extend q) := by
  rw [openGroup] at h ⊢
  obtain ⟨⟨opening, c⟩, hread, h⟩ := bind_eq_ok.1 h
  -- Only a group without a mark may have to look behind, and it is not closed then.
  obtain ⟨hsuffix, hextend⟩ : c.rest <:+ r.cursor.next.rest ∧
      GroupOpening.read r.free (r.cursor.extend q) = .ok (opening, c.extend q) := by
    by_cases hhead : (r.cursor.advance r.free).rest.head? = some '?'
    · exact extends_marked hne hhead opening c hread (.inr ⟨rfl, hcalm⟩)
    · refine extends_opening hne opening c hread (.inl ?_)
      rw [read_numbered hhead] at hread
      obtain ⟨rfl, rfl⟩ := Prod.mk.inj (Except.ok.inj hread)
      obtain rfl := Except.ok.inj h
      exact hlast.resolve_right (List.cons_ne_nil _ _)
  rw [free_extend, cursor_extend, hextend]
  cases opening with
  | modes span changes =>
    obtain rfl := Except.ok.inj h
    exact ⟨hsuffix, rfl⟩
  | plain changes =>
    obtain rfl := Except.ok.inj h
    exact ⟨hsuffix, rfl⟩
  | numbered =>
    obtain rfl := Except.ok.inj h
    exact ⟨hsuffix, rfl⟩
  | named span name =>
    simp only [bind, Except.bind] at h ⊢
    rw [names_extend]
    split at h
    · cases h
    · obtain rfl := Except.ok.inj h
      exact ⟨hsuffix, rfl⟩

theorem closeGroup_extend (hne : r.cursor.rest ≠ []) (h : r.closeGroup = .ok r') :
    r'.cursor.rest <:+ r.cursor.next.rest ∧ (r.extend q).closeGroup = .ok (r'.extend q) := by
  rw [closeGroup] at h ⊢
  rw [groups_extend]
  cases hgroups : r.groups with
  | nil =>
    rw [hgroups] at h
    cases h
  | cons g groups =>
    rw [hgroups] at h
    obtain rfl := Except.ok.inj h
    simp only [cursor_extend, next_extend hne]
    exact ⟨List.suffix_refl _, rfl⟩

/-- A sign that neither opens nor closes a group. -/
theorem sign_extend {α : Type} {x y : Except Fault (α × Cursor)}
    {f g : α × Cursor → Except Fault Reader} (hcalm : Calm q)
    (hread : Extends r.free q r.cursor.next x y) (h : x >>= f = .ok r')
    (hlast : r'.cursor.rest ≠ [] ∨ r'.Closes)
    (hf : ∀ a c, f (a, c) = .ok r' →
      r'.cursor = c ∧ r'.free = r.free ∧ g (a, c.extend q) = .ok (r'.extend q)) :
    r'.cursor.rest <:+ r.cursor.next.rest ∧ y >>= g = .ok (r'.extend q) := by
  obtain ⟨⟨a, c⟩, hx, h⟩ := bind_eq_ok.1 h
  obtain ⟨hcursor, hfree, hg⟩ := hf a c h
  have hstops : c.Stops r.free q := by
    rw [← hcursor, ← hfree]
    exact hlast.imp_right fun hcloses => ⟨hcloses.free, hcalm⟩
  obtain ⟨hsuffix, hy⟩ := hread a c hx hstops
  rw [hcursor, hy]
  exact ⟨hsuffix, hg⟩

/-- The sign at the cursor, if it starts with the character. -/
def stepAt (r : Reader) (ch : Char) : Except Fault Reader :=
  if ch = '(' then r.openGroup
  else if ch = ')' then r.closeGroup
  else if ch = '|' then
    .ok { r with
      cursor := r.cursor.next, current := r.current.alternate r.cursor.pos r.cursor.next.pos }
  else if ch = '[' then readBracket r.free r.cursor >>= fun t => .ok (r.push t.1 t.2)
  else if ch = '\x7b' then
    r.takeLast >>= fun last => Count.readBraces r.free r.cursor >>= fun n =>
      .ok { r with cursor := n.2, current := last.2.push (repeated last.1 n.1 n.2) }
  else if ch = '?' ∨ ch = '*' ∨ ch = '+' then
    r.takeLast >>= fun last => Except.ok (Count.readSign ch r.cursor) >>= fun n =>
      .ok { r with cursor := n.2, current := last.2.push (repeated last.1 n.1 n.2) }
  else Atom.read r.free r.cursor >>= fun a => .ok (r.push a.1.toTree a.2)

theorem step_eq {ch : Char} {rest : List Char} (hrest : r.cursor.rest = ch :: rest) :
    r.step = r.stepAt ch := by
  rw [step, hrest]
  split
  · cases ‹ch :: rest = []›
  · rename_i heq
    obtain ⟨rfl, rfl⟩ := List.cons.inj heq
    rfl
  · rename_i heq
    obtain ⟨rfl, rfl⟩ := List.cons.inj heq
    rfl
  · rename_i heq
    obtain ⟨rfl, rfl⟩ := List.cons.inj heq
    rfl
  · rename_i heq
    obtain ⟨rfl, rfl⟩ := List.cons.inj heq
    rfl
  · rename_i heq
    obtain ⟨rfl, rfl⟩ := List.cons.inj heq
    rfl
  · rename_i hopen hclose hbar hbracket hbrace heq
    obtain ⟨rfl, rfl⟩ := List.cons.inj heq
    rw [stepAt, if_neg hopen, if_neg hclose, if_neg hbar, if_neg hbracket, if_neg hbrace]
    rfl

/-- One sign is read the same, unless it is the last one of a pattern that cannot end
there. -/
theorem step_extend (hcalm : Calm q) (hne : r.cursor.rest ≠ []) (h : r.step = .ok r')
    (hlast : r'.cursor.rest ≠ [] ∨ r'.Closes) :
    r'.cursor.rest <:+ r.cursor.next.rest ∧ (r.extend q).step = .ok (r'.extend q) := by
  obtain ⟨ch, rest, hrest⟩ := List.exists_cons_of_ne_nil hne
  have hrest' : (r.extend q).cursor.rest = ch :: (rest ++ q) := by simp [hrest]
  rw [step_eq hrest] at h
  rw [step_eq hrest']
  simp only [stepAt, takeLast_extend, cursor_extend, free_extend] at h ⊢
  -- A group opened or closed, a bar, a class, bounds, a sign of repetition, any other sign.
  split_ifs at h ⊢ with hopen hclose hbar hbracket hbrace hsign
  · exact openGroup_extend hcalm hne h (hlast.imp_right Closes.groups)
  · exact closeGroup_extend hne h
  · obtain rfl := Except.ok.inj h
    rw [next_extend hne]
    exact ⟨List.suffix_refl _, rfl⟩
  · refine sign_extend hcalm (extends_bracket hne) h hlast fun t c heq => ?_
    obtain rfl := Except.ok.inj heq
    exact ⟨rfl, rfl, rfl⟩
  · obtain ⟨⟨t, part⟩, htake, h⟩ := bind_eq_ok.1 h
    rw [htake]
    refine sign_extend hcalm (Count.extends_braces hne) h hlast fun n c heq => ?_
    obtain rfl := Except.ok.inj heq
    exact ⟨rfl, rfl, rfl⟩
  · obtain ⟨⟨t, part⟩, htake, h⟩ := bind_eq_ok.1 h
    rw [htake]
    refine sign_extend hcalm (Count.extends_sign hne ch) h hlast
      (g := fun n => .ok
        { r.extend q with cursor := n.2, current := part.push (repeated t n.1 n.2) })
      fun n c heq => ?_
    obtain rfl := Except.ok.inj heq
    exact ⟨rfl, rfl, rfl⟩
  · refine sign_extend hcalm (extends_atom hne) h hlast fun a c heq => ?_
    obtain rfl := Except.ok.inj heq
    exact ⟨rfl, rfl, rfl⟩

theorem rest_step_suffix (hne : r.cursor.rest ≠ []) (h : r.step = .ok r') :
    r'.cursor.rest <:+ r.cursor.next.rest := by
  by_cases hnil : r'.cursor.rest = []
  · rw [hnil]
    exact List.nil_suffix
  · exact (step_extend calm_nil hne h (.inl hnil)).1

theorem length_rest_step_lt (hne : r.cursor.rest ≠ []) (h : r.step = .ok r') :
    r'.cursor.rest.length < r.cursor.rest.length := by
  have hlength := (rest_step_suffix hne h).length_le
  obtain ⟨ch, rest, hrest⟩ := List.exists_cons_of_ne_nil hne
  simp only [next, hrest, List.length_cons] at hlength ⊢
  omega

/-! ## Whole patterns -/

/-- Over blanks and comments before the next sign. -/
def skip (r : Reader) : Reader := { r with cursor := r.cursor.skip r.free }

theorem skip_eq_self (h : r.free = false) : r.skip = r := by
  obtain ⟨cursor, current, groups, free, captures, names⟩ := r
  obtain rfl : free = false := h
  rfl

theorem skip_of_rest_eq_nil (hnil : r.cursor.rest = []) : r.skip = r := by
  obtain ⟨⟨pos, rest⟩, current, groups, free, captures, names⟩ := r
  obtain rfl : rest = [] := hnil
  cases free <;> rfl

theorem extend_skip (hne : r.skip.cursor.rest ≠ []) : (r.extend q).skip = r.skip.extend q :=
  congrArg (fun c => { r with cursor := c }) (Cursor.skip_extend (.inl hne))

theorem run_succ_eq (r : Reader) (bound : Nat) :
    r.run (bound + 1) =
      if r.skip.cursor.rest.isEmpty then .ok r.skip
      else r.skip.step >>= fun r' => r'.run bound := rfl

/-- One more sign may be read, or the pattern is at its end. -/
theorem run_succ_of_ok {bound : Nat} (h : r.run (bound + 1) = .ok r') :
    r.skip.cursor.rest = [] ∧ r' = r.skip ∨
      r.skip.cursor.rest ≠ [] ∧ ∃ r₁, r.skip.step = .ok r₁ ∧ r₁.run bound = .ok r' := by
  rw [run_succ_eq] at h
  by_cases hnil : r.skip.cursor.rest = []
  · rw [if_pos (by simp [hnil])] at h
    exact .inl ⟨hnil, (Except.ok.inj h).symm⟩
  · rw [if_neg (by simpa using hnil)] at h
    exact .inr ⟨hnil, bind_eq_ok.1 h⟩

theorem length_rest_skip_le (r : Reader) : r.skip.cursor.rest.length ≤ r.cursor.rest.length :=
  (rest_skip_suffix r.free r.cursor).length_le

/-- Reading goes on up to the end of the pattern. -/
theorem rest_of_run {bound : Nat} (hbound : r.cursor.rest.length < bound)
    (h : r.run bound = .ok r') : r'.cursor.rest = [] := by
  induction bound generalizing r with
  | zero => omega
  | succ bound ih =>
    rcases run_succ_of_ok h with ⟨hnil, rfl⟩ | ⟨hne, r₁, hstep, hrun⟩
    · exact hnil
    · have hlength := length_rest_step_lt hne hstep
      have hskip := length_rest_skip_le r
      exact ih (by omega) hrun

/-- At the end of the pattern nothing changes any more. -/
theorem unchanged_of_run {bound : Nat} (hnil : r.cursor.rest = [])
    (h : r.run bound = .ok r') :
    r.groups = r'.groups ∧ r.free = r'.free := by
  cases bound with
  | zero =>
    obtain rfl := Except.ok.inj h
    exact ⟨rfl, rfl⟩
  | succ bound =>
    rcases run_succ_of_ok h with ⟨-, rfl⟩ | ⟨hne, -⟩
    · exact ⟨rfl, rfl⟩
    · rw [skip_of_rest_eq_nil hnil] at hne
      exact absurd hnil hne

theorem closes_of_run {bound : Nat} (hnil : r.cursor.rest = []) (h : r.run bound = .ok r')
    (hcloses : r'.Closes) : r.Closes := by
  obtain ⟨hgroups, hfree⟩ := unchanged_of_run hnil h
  exact ⟨hgroups.trans hcloses.groups, hfree.trans hcloses.free⟩

/-- Behind the last sign, reading ends in any spacing. -/
theorem ends_of_rest_eq_nil (hnil : r.skip.cursor.rest = []) : r.Ends (.ok r.skip) := by
  intro bound hbound
  obtain ⟨bound, rfl⟩ : ∃ n, bound = n + 1 := Nat.exists_eq_succ_of_ne_zero (by omega)
  rw [run_succ_eq, if_pos (by simp [hnil])]

/-- The next sign is read, after the blanks and comments before it. -/
structure Next (r r' : Reader) : Prop where
  rest : r.skip.cursor.rest ≠ []
  step : r.skip.step = .ok r'

/-- Several signs are read, or none, in any spacing. -/
def Passes : Reader → Reader → Prop := Relation.ReflTransGen Next

theorem Next.ends {x : Except Fault Reader} (h : r.Next r') (hx : r'.Ends x) : r.Ends x := by
  have hlength := length_rest_step_lt h.rest h.step
  have hskip := length_rest_skip_le r
  intro bound hbound
  obtain ⟨bound, rfl⟩ : ∃ n, bound = n + 1 := Nat.exists_eq_succ_of_ne_zero (by omega)
  rw [run_succ_eq, if_neg (by simpa using h.rest), h.step]
  exact hx bound (by omega)

theorem Passes.ends {x : Except Fault Reader} (h : r.Passes r') (hx : r'.Ends x) :
    r.Ends x := by
  induction h using Relation.ReflTransGen.head_induction_on with
  | refl => exact hx
  | head hnext _ ih => exact hnext.ends ih

theorem Reads.next (h : r.Reads r') : r.Next r' := by
  have hshorter := h.shorter
  have hskip := skip_eq_self h.free
  refine ⟨fun hnil => ?_, hskip.symm ▸ h.step⟩
  rw [hskip] at hnil
  simp [hnil] at hshorter

/-- **More text behind a pattern.** Where a pattern may end and blanks count, more text behind
it is read after all of the pattern. -/
theorem passes_extend (hcalm : Calm q) {bound : Nat} (hbound : r.cursor.rest.length < bound)
    (h : r.run bound = .ok r') (hcloses : r'.Closes) : (r.extend q).Passes (r'.extend q) := by
  induction bound generalizing r with
  | zero => omega
  | succ bound ih =>
    rcases run_succ_of_ok h with ⟨-, rfl⟩ | ⟨hne, r₁, hstep, hrun⟩
    · rw [skip_eq_self (r := r) hcloses.free]
      exact .refl
    · have hlength := length_rest_step_lt hne hstep
      have hskip := length_rest_skip_le r
      have hlast : r₁.cursor.rest ≠ [] ∨ r₁.Closes :=
        (ne_or_eq _ _).imp_right fun hnil => closes_of_run hnil hrun hcloses
      obtain ⟨-, hstep'⟩ := step_extend hcalm hne hstep hlast
      refine .head ⟨?_, ?_⟩ (ih (by omega) hrun)
      · simp [extend_skip hne, hne]
      · rw [extend_skip hne, hstep']

/-! ## Patterns without bars -/

/-- What a sign does to the parts that are open: it stays in the current alternative, opens a
group, closes one, or begins another alternative. -/
inductive Turns (r r' : Reader) : Prop where
  | stays (groups : r'.groups = r.groups)
    (branches : r'.current.branches = r.current.branches)
  | enters (g : OpenGroup) (groups : r'.groups = g :: r.groups) (outer : g.outer = r.current)
      (branches : r'.current.branches = [])
  | leaves (g : OpenGroup) (groups : r.groups = g :: r'.groups)
      (branches : r'.current.branches = g.outer.branches)
  | alternates (head : r.cursor.rest.head? = some '|')

theorem turns_openGroup (h : r.openGroup = .ok r') : r.Turns r' := by
  rw [openGroup] at h
  obtain ⟨⟨opening, c⟩, -, h⟩ := bind_eq_ok.1 h
  cases opening with
  | modes span changes =>
    obtain rfl := Except.ok.inj h
    exact .stays rfl rfl
  | plain changes =>
    obtain rfl := Except.ok.inj h
    exact .enters _ rfl rfl rfl
  | numbered =>
    obtain rfl := Except.ok.inj h
    exact .enters _ rfl rfl rfl
  | named span name =>
    simp only at h
    split at h
    · cases h
    · obtain rfl := Except.ok.inj h
      exact .enters _ rfl rfl rfl

theorem turns_closeGroup (h : r.closeGroup = .ok r') : r.Turns r' := by
  rw [closeGroup] at h
  cases hgroups : r.groups with
  | nil =>
    rw [hgroups] at h
    cases h
  | cons g groups =>
    rw [hgroups] at h
    obtain rfl := Except.ok.inj h
    exact .leaves g hgroups rfl

theorem branches_takeLast {t : Tree} {part : OpenPart} (h : r.takeLast = .ok (t, part)) :
    part.branches = r.current.branches := by
  rw [takeLast] at h
  split at h
  · cases h
  · cases h
  · cases h
  · obtain ⟨-, rfl⟩ := Prod.mk.inj (Except.ok.inj h)
    rfl

theorem turns_step (hne : r.cursor.rest ≠ []) (h : r.step = .ok r') : r.Turns r' := by
  obtain ⟨ch, rest, hrest⟩ := List.exists_cons_of_ne_nil hne
  rw [step_eq hrest, stepAt] at h
  split_ifs at h with hopen hclose hbar hbracket hbrace hsign
  · exact turns_openGroup h
  · exact turns_closeGroup h
  · exact .alternates (by rw [hrest, hbar]; rfl)
  · obtain ⟨_, -, h⟩ := bind_eq_ok.1 h
    obtain rfl := Except.ok.inj h
    exact .stays rfl rfl
  · obtain ⟨last, htake, h⟩ := bind_eq_ok.1 h
    obtain ⟨_, -, h⟩ := bind_eq_ok.1 h
    obtain rfl := Except.ok.inj h
    have hbranches : last.2.branches = r.current.branches := branches_takeLast htake
    exact .stays rfl hbranches
  · obtain ⟨last, htake, h⟩ := bind_eq_ok.1 h
    obtain rfl := Except.ok.inj h
    have hbranches : last.2.branches = r.current.branches := branches_takeLast htake
    exact .stays rfl hbranches
  · obtain ⟨_, -, h⟩ := bind_eq_ok.1 h
    obtain rfl := Except.ok.inj h
    exact .stays rfl rfl

/-- Nothing that is open has more than one alternative. -/
structure NoBars (r : Reader) : Prop where
  current : r.current.branches = []
  outer : ∀ g ∈ r.groups, g.outer.branches = []

theorem Turns.noBars (h : r.Turns r') (hr : r.NoBars) (hbar : '|' ∉ r.cursor.rest) :
    r'.NoBars := by
  cases h with
  | stays groups branches => exact ⟨branches.trans hr.current, groups ▸ hr.outer⟩
  | enters g groups outer branches =>
    refine ⟨branches, ?_⟩
    rw [groups, List.forall_mem_cons, outer]
    exact ⟨hr.current, hr.outer⟩
  | leaves g groups branches =>
    have houter := hr.outer
    rw [groups, List.forall_mem_cons] at houter
    exact ⟨branches.trans houter.1, houter.2⟩
  | alternates head => exact absurd (List.mem_of_head? head) hbar

/-- A pattern without a bar has one alternative in every group. -/
theorem noBars_run {bound : Nat} (h : r.run bound = .ok r') (hr : r.NoBars)
    (hbar : '|' ∉ r.cursor.rest) : r'.NoBars := by
  induction bound generalizing r with
  | zero =>
    obtain rfl := Except.ok.inj h
    exact hr
  | succ bound ih =>
    have hskip : r.skip.cursor.rest <:+ r.cursor.rest := rest_skip_suffix r.free r.cursor
    have hbar₁ : '|' ∉ r.skip.cursor.rest := fun hmem => hbar (hskip.subset hmem)
    rcases run_succ_of_ok h with ⟨-, rfl⟩ | ⟨hne, r₁, hstep, hrun⟩
    · exact ⟨hr.current, hr.outer⟩
    · have hsuffix := (rest_step_suffix hne hstep).trans rest_next_suffix
      exact ih hrun ((turns_step hne hstep).noBars ⟨hr.current, hr.outer⟩ hbar₁)
        fun hmem => hbar₁ (hsuffix.subset hmem)

end Reader

open Reader

/-! ## Phrases behind a pattern -/

/-- Spacing is free at the end of the pattern. -/
def freeBehind (p : List Char) : Bool :=
  match (start p).run (p.length + 1) with
  | .ok r => r.free
  | .error _ => false

theorem OpenPart.close_eq_ofParts {part : OpenPart} (h : part.branches = []) (stop : Nat) :
    part.close stop = .ofParts ⟨part.start, stop⟩ part.parts.reverse := by
  rw [OpenPart.close, h]
  rfl

theorem finish_eq_ok_iff {r : Reader} {reading : Reading} :
    r.finish = .ok reading ↔
      r.groups = [] ∧
        (⟨r.current.close r.cursor.pos, r.names.reverse.map fun n => (n.1, n.2.1)⟩ :
          Reading) = reading := by
  rw [finish]
  cases r.groups with
  | nil => simp
  | cons g groups => simp [refuse]

/-- How reading a pattern without bars ends: with the parts of its one alternative. -/
theorem exists_parts_of_read {p : List Char} {reading : Reading}
    (hread : Tree.read p = .ok reading) (hbar : '|' ∉ p) :
    ∃ r span, (start p).run (p.length + 1) = .ok r ∧ r.cursor.rest = [] ∧
      r.groups = [] ∧ r.current.branches = [] ∧
      reading.tree = .ofParts span r.current.parts.reverse := by
  obtain ⟨r, hrun, hfinish⟩ := bind_eq_ok.1 hread
  obtain ⟨hgroups, rfl⟩ := finish_eq_ok_iff.1 hfinish
  have hbranches := (noBars_run hrun ⟨rfl, by simp [start]⟩ hbar).current
  exact ⟨r, _, hrun, rest_of_run (Nat.lt_succ_self _) hrun, hgroups, hbranches,
    OpenPart.close_eq_ofParts hbranches _⟩

/-- **A phrase behind a pattern.** Behind a pattern without bars, and where blanks count, the
parts of a phrase follow the parts of the pattern. -/
theorem read_append {p : List Char} {reading : Reading} (hread : Tree.read p = .ok reading)
    (hbar : '|' ∉ p) (hblanks : freeBehind p = false) :
    ∃ span ps, reading.tree = .ofParts span ps ∧
      ∀ {m : Modes} {cs : List Char} {S : Meaning}, ReadsAsPhrase m cs S →
        ∃ span ts reading, Tree.read (p ++ cs) = .ok reading ∧
          reading.tree = .ofParts span (ps ++ ts) ∧ Tree.InARow m ts S := by
  obtain ⟨r, span, hrun, hrest, hgroups, hbranches, htree⟩ := exists_parts_of_read hread hbar
  have hfree : r.free = false := by
    simpa only [freeBehind, hrun] using hblanks
  refine ⟨span, r.current.parts.reverse, htree, fun {m cs S} hphrase => ?_⟩
  have hat : (r.extend cs).At (cs ++ []) := ⟨by simp [hrest], hfree⟩
  obtain ⟨ts, r', hreaches, hgrown, hts⟩ := hphrase.reads (r.extend cs) [] calm_nil hat
  have hends : (start (p ++ cs)).Ends (.ok r') :=
    (passes_extend (r := start p) hphrase.calm (Nat.lt_succ_self _) hrun
      ⟨hgroups, hfree⟩).ends (hreaches.ends (ends_nil hgrown.at_rest))
  have hgroups' : r'.groups = [] := hgrown.groups.trans hgroups
  have hbranches' : r'.current.branches = [] := hgrown.branches.trans hbranches
  have hread' : Tree.read (p ++ cs) =
      .ok ⟨r'.current.close r'.cursor.pos, r'.names.reverse.map fun n => (n.1, n.2.1)⟩ :=
    bind_eq_ok.2 ⟨r', hends _ (Nat.lt_succ_self _), finish_eq_ok_iff.2 ⟨hgroups', rfl⟩⟩
  have hparts : r'.current.parts.reverse = r.current.parts.reverse ++ ts := by
    simp [hgrown.parts]
  have hclose := OpenPart.close_eq_ofParts hbranches' r'.cursor.pos
  rw [hparts] at hclose
  exact ⟨_, ts, _, hread', hclose, hts⟩

end PatternAssembly
