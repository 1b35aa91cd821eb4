import PatternAssembly.Proofs.Pattern.Quantities
import PatternAssembly.Proofs.Tree.BareTrees
import PatternAssembly.Proofs.Tree.BracketPlaces
import PatternAssembly.Proofs.Tree.LastSign

/-!
# A pattern inside of another one

A pattern may be written behind other parts, and in groups that were opened before. It is read
sign by sign as it is on its own: its first alternative has the other parts in front, the
groups around stay open, and all else is the same up to places.

## Main definitions

* `OpenPart.Led`: the same alternatives with parts in front of the first one
* `Stacked`: the same groups, with others around
* `Reader.Inside`: the same state inside of another pattern
* `ReadsInside`, `DrownsInside`: what becomes of text behind the pattern

## Main statements

* `Reader.follows_step`: one sign
* `Reader.Inside.passes`: any number of signs
* `readsInside_or_drownsInside`: a whole pattern
-/
namespace PatternAssembly

open Cursor

variable {k : Nat} {bs : List Tree} {og : List OpenGroup}

/-! ## Alternatives -/

namespace OpenPart

/-- The alternatives are the same up to places, but the first one has the parts `bs` in front.
As in an alternative that is read, the last part stands first. -/
inductive Led (bs : List Tree) (p p' : OpenPart) : Prop where
  | first (alone : p.branches = []) (alone' : p'.branches = [])
    (parts : p'.parts.map Tree.bare = (p.parts ++ bs).map Tree.bare)
  | later (ps between : List Tree)
    (branches : p.branches.map Tree.bare = between ++ [.ofParts .nowhere ps.reverse])
    (branches' : p'.branches.map Tree.bare =
      between ++ [.ofParts .nowhere (ps ++ bs.map Tree.bare).reverse])
    (parts : p'.parts.map Tree.bare = p.parts.map Tree.bare)

variable {p p' : OpenPart}

theorem led_beginning (pos pos' : Nat) : (beginning pos).Led [] (beginning pos') :=
  .first rfl rfl rfl

theorem Led.push {t t' : Tree} (h : p.Led bs p') (ht : t'.bare = t.bare) :
    (p.push t).Led bs (p'.push t') := by
  cases h with
  | first alone alone' parts =>
    refine .first alone alone' ?_
    rw [OpenPart.push, OpenPart.push, List.map_cons, parts, ht]
    rfl
  | later ps between branches branches' parts =>
    refine .later ps between branches branches' ?_
    rw [OpenPart.push, OpenPart.push, List.map_cons, List.map_cons, parts, ht]

theorem bare_branch (p : OpenPart) (stop : Nat) :
    (p.branch stop).bare = .ofParts .nowhere (p.parts.map Tree.bare).reverse := by
  rw [branch, Tree.bare_ofParts, List.map_reverse]

theorem Led.alternate (h : p.Led bs p') (stop stop' next next' : Nat) :
    (p.alternate stop next).Led bs (p'.alternate stop' next') := by
  cases h with
  | first alone alone' parts =>
    refine .later (p.parts.map Tree.bare) [] ?_ ?_ rfl
    · rw [OpenPart.alternate, alone, List.map_singleton, bare_branch]
      rfl
    · rw [OpenPart.alternate, alone', List.map_singleton, bare_branch, parts, List.map_append]
      rfl
  | later ps between branches branches' parts =>
    refine .later ps ((p.branch stop).bare :: between) ?_ ?_ rfl
    · rw [OpenPart.alternate, List.map_cons, branches]
      rfl
    · rw [OpenPart.alternate, List.map_cons, branches', bare_branch, bare_branch, parts]
      rfl

/-- The last part is taken away. -/
theorem Led.pop {t : Tree} {ts : List Tree} (h : p.Led bs p') (hparts : p.parts = t :: ts) :
    ∃ t' ts', p'.parts = t' :: ts' ∧ t'.bare = t.bare ∧
      ({ p with parts := ts } : OpenPart).Led bs { p' with parts := ts' } := by
  cases h with
  | first alone alone' parts =>
    rw [hparts, List.cons_append, List.map_cons, List.map_eq_cons_iff] at parts
    obtain ⟨t', ts', hparts', ht, hts⟩ := parts
    exact ⟨t', ts', hparts', ht, .first alone alone' hts⟩
  | later ps between branches branches' parts =>
    rw [hparts, List.map_cons, List.map_eq_cons_iff] at parts
    obtain ⟨t', ts', hparts', ht, hts⟩ := parts
    exact ⟨t', ts', hparts', ht, .later ps between branches branches' hts⟩

/-- With nothing in front the alternatives are the same. -/
theorem Led.bare_close (h : p.Led [] p') (stop stop' : Nat) :
    (p'.close stop').bare = (p.close stop).bare := by
  have hbranches : p'.branches.map Tree.bare = p.branches.map Tree.bare ∧
      p'.parts.map Tree.bare = p.parts.map Tree.bare := by
    cases h with
    | first alone alone' parts => exact ⟨by rw [alone, alone'], by simpa using parts⟩
    | later ps between branches branches' parts =>
      exact ⟨by simpa using branches'.trans (by simpa using branches.symm), parts⟩
  rw [close, close, Tree.bare_ofBranches, Tree.bare_ofBranches]
  simp only [List.map_reverse, List.map_cons, bare_branch, hbranches]

/-- Where the first alternative is the only one, its parts are those in front and the
others. -/
theorem Led.parts_of_alone (h : p.Led bs p') (halone : p.branches = []) :
    p'.branches = [] ∧ p'.parts.map Tree.bare = (p.parts ++ bs).map Tree.bare := by
  cases h with
  | first alone alone' parts => exact ⟨alone', parts⟩
  | later ps between branches branches' parts => simp [halone] at branches

end OpenPart

/-! ## Groups -/

/-- The open groups are the same up to places, but the groups `og` are around them, and the
parts `bs` in front of what they stand in. -/
inductive Stacked (bs : List Tree) (og : List OpenGroup) :
    OpenPart → List OpenGroup → OpenPart → List OpenGroup → Prop where
  | base {p p' : OpenPart} (led : p.Led bs p') : Stacked bs og p [] p' og
  | inner {p p' : OpenPart} {g g' : OpenGroup} {gs gs' : List OpenGroup} (led : p.Led [] p')
    (kind : g'.kind = g.kind) (free : g'.free = g.free)
    (outer : Stacked bs og g.outer gs g'.outer gs') : Stacked bs og p (g :: gs) p' (g' :: gs')

namespace Stacked

variable {p p' q q' : OpenPart} {gs gs' : List OpenGroup}

/-- What is read in the innermost group. -/
theorem map (h : Stacked bs og p gs p' gs') (hled : ∀ bs, p.Led bs p' → q.Led bs q') :
    Stacked bs og q gs q' gs' := by
  cases h with
  | base led => exact .base (hled _ led)
  | inner led kind free outer => exact .inner (hled _ led) kind free outer

theorem exists_led (h : Stacked bs og p gs p' gs') : ∃ bs, p.Led bs p' := by
  cases h with
  | base led => exact ⟨_, led⟩
  | inner led _ _ _ => exact ⟨_, led⟩

theorem of_nil (h : Stacked bs og p [] p' gs') : gs' = og ∧ p.Led bs p' := by
  cases h with
  | base led => exact ⟨rfl, led⟩

end Stacked

namespace Tree

theorem isRepeatable_bare (t : Tree) : t.bare.isRepeatable = t.isRepeatable := by
  cases t <;> rfl

end Tree

/-! ## States -/

namespace Reader

variable {r r' : Reader}

theorem exists_of_takeLast {last : Tree × OpenPart} (h : r.takeLast = .ok last) :
    ∃ t ts, r.current.parts = t :: ts ∧ t.isRepeatable = true ∧
      last = (t, { r.current with parts := ts }) := by
  cases hparts : r.current.parts with
  | nil => simp [takeLast, hparts, refuse] at h
  | cons t ts =>
    by_cases ht : t.isRepeatable = true
    · rw [takeLast_eq hparts ht] at h
      exact ⟨t, ts, rfl, ht, (Except.ok.inj h).symm⟩
    · rw [takeLast, hparts] at h
      cases t <;> first | exact absurd rfl ht | cases h

/-- The same state, with `k` more characters before it, the groups `og` around and the parts
`bs` in front. -/
structure Inside (k : Nat) (bs : List Tree) (og : List OpenGroup) (r r' : Reader) : Prop where
  cursor : r'.cursor = r.cursor.moved k
  free : r'.free = r.free
  captures : r'.captures = r.captures
  names : r'.names.map (fun n => (n.1, n.2.1)) = r.names.map fun n => (n.1, n.2.1)
  stack : Stacked bs og r.current r.groups r'.current r'.groups

namespace Inside

theorem push {t t' : Tree} (h : r.Inside k bs og r') (ht : t'.bare = t.bare) (c : Cursor) :
    (r.push t c).Inside k bs og (r'.push t' (c.moved k)) :=
  ⟨rfl, h.free, h.captures, h.names, h.stack.map fun _ hled => hled.push ht⟩

theorem enter (h : r.Inside k bs og r') (kind : GroupKind) (free : Bool) (c : Cursor) :
    (r.enter kind free c).Inside k bs og (r'.enter kind free (c.moved k)) :=
  ⟨rfl, rfl, h.captures, h.names, .inner (OpenPart.led_beginning _ _) rfl h.free h.stack⟩

theorem skip (h : r.Inside k bs og r') : r.skip.Inside k bs og r'.skip :=
  ⟨by rw [Reader.skip, h.cursor, h.free, skip_moved]; rfl,
    h.free, h.captures, h.names, h.stack⟩

end Inside

theorem follows_openGroup (h : r.Inside k bs og r') :
    Follows (Inside k bs og) r.openGroup r'.openGroup := by
  rw [openGroup, openGroup, h.cursor, h.free]
  refine Follows.bind (agrees_opening r.cursor) fun a b hab => ?_
  obtain ⟨opening, c⟩ := a
  obtain ⟨opening', c'⟩ := b
  obtain ⟨hopening, rfl⟩ := hab
  cases opening <;> cases opening' <;>
    simp only [GroupOpening.bare, reduceCtorEq, GroupOpening.modes.injEq,
      GroupOpening.plain.injEq, GroupOpening.named.injEq, true_and] at hopening
  case modes.modes span changes span' changes' =>
    subst hopening
    have hbare : (Tree.modes span' changes').bare = (Tree.modes span changes').bare := rfl
    have hpush := h.push hbare c
    exact .ok ⟨rfl, rfl, h.captures, h.names, hpush.stack⟩
  case plain.plain changes changes' =>
    subst hopening
    exact .ok (h.enter _ _ _)
  case numbered.numbered =>
    have henter := h.enter (.capture (r.captures + 1)) r.free c
    rw [h.captures]
    exact .ok ⟨rfl, rfl, rfl, h.names, henter.stack⟩
  case named.named span name span' name' =>
    subst hopening
    simp only [h.captures]
    split
    · exact .error _
    · rename_i hfind
      have henter := h.enter (.capture (r.captures + 1)) r.free c
      have hnames : ((name', r.captures + 1, span') :: r'.names).map (fun n => (n.1, n.2.1)) =
          ((name', r.captures + 1, span) :: r.names).map fun n => (n.1, n.2.1) := by
        rw [List.map_cons, List.map_cons, h.names]
      rw [find?_eq_none_of_map_eq h.names (·.1 == name') hfind]
      exact .ok ⟨rfl, rfl, rfl, hnames, henter.stack⟩

theorem follows_closeGroup (h : r.Inside k bs og r') :
    Follows (Inside k bs og) r.closeGroup r'.closeGroup := by
  have hstack := h.stack
  rw [closeGroup, closeGroup]
  generalize hgroups : r.groups = groups at hstack ⊢
  generalize hgroups' : r'.groups = groups' at hstack ⊢
  cases hstack with
  | base _ => exact .refuse _ _
  | inner led kind free outer =>
    refine .ok ⟨by rw [h.cursor, next_moved], free, h.captures, h.names, ?_⟩
    refine outer.map fun _ hled => hled.push ?_
    rw [Tree.bare, Tree.bare, kind, led.bare_close]

/-- The part before a repetition is the same up to places. -/
theorem follows_takeLast (h : r.Inside k bs og r') :
    Follows (fun a b => b.1.bare = a.1.bare ∧ Stacked bs og a.2 r.groups b.2 r'.groups)
      r.takeLast r'.takeLast := by
  intro a htake
  obtain ⟨t, ts, hparts, ht, rfl⟩ := exists_of_takeLast htake
  obtain ⟨_, hled⟩ := h.stack.exists_led
  obtain ⟨t', ts', hparts', hbare, -⟩ := hled.pop hparts
  have ht' : t'.isRepeatable = true := by
    rwa [← Tree.isRepeatable_bare, hbare, Tree.isRepeatable_bare]
  refine ⟨_, takeLast_eq hparts' ht', hbare, h.stack.map fun _ hled => ?_⟩
  obtain ⟨t₁, ts₁, hparts₁, -, hled₁⟩ := hled.pop hparts
  obtain ⟨-, rfl⟩ := List.cons.inj (hparts'.symm.trans hparts₁)
  exact hled₁

/-- One sign. -/
theorem follows_step (h : r.Inside k bs og r') (hne : r.cursor.rest ≠ []) :
    Follows (Inside k bs og) r.step r'.step := by
  obtain ⟨ch, rest, hrest⟩ := List.exists_cons_of_ne_nil hne
  have hrest' : r'.cursor.rest = ch :: rest := by rw [h.cursor, rest_moved, hrest]
  have hrepeated {t t' : Tree} (ht : t'.bare = t.bare) (n : Count) (c c' : Cursor) :
      (repeated t' n c').bare = (repeated t n c).bare := by
    rw [repeated, repeated, Tree.bare, Tree.bare, ht]
  rw [step_eq hrest, step_eq hrest', stepAt, stepAt, h.cursor, h.free]
  -- A group opened or closed, a bar, a class, bounds, a sign of repetition, any other sign.
  split_ifs
  · exact follows_openGroup h
  · exact follows_closeGroup h
  · refine .ok ⟨next_moved _, rfl, h.captures, h.names, ?_⟩
    exact h.stack.map fun _ hled => hled.alternate _ _ _ _
  · refine Follows.bind (agrees_bracket r.cursor) fun a b hab => ?_
    obtain ⟨t, c⟩ := a
    obtain ⟨t', c'⟩ := b
    obtain ⟨ht, rfl⟩ := hab
    exact .ok (h.push ht c)
  · refine Follows.bind (follows_takeLast h) fun last last' hlast => ?_
    refine Follows.bind (Count.agrees_braces r.cursor) fun a b hab => ?_
    obtain ⟨n, c⟩ := a
    obtain ⟨n', c'⟩ := b
    obtain ⟨hn, rfl⟩ := hab
    obtain rfl : n' = n := hn
    refine .ok ⟨rfl, rfl, h.captures, h.names, ?_⟩
    exact hlast.2.map fun _ hled => hled.push (hrepeated hlast.1 _ _ _)
  · refine Follows.bind (follows_takeLast h) fun last last' hlast => ?_
    rw [Count.readSign_moved]
    refine .ok ⟨rfl, rfl, h.captures, h.names, ?_⟩
    exact hlast.2.map fun _ hled => hled.push (hrepeated hlast.1 _ _ _)
  · refine Follows.bind (agrees_atom r.cursor) fun a b hab => ?_
    obtain ⟨a, c⟩ := a
    obtain ⟨a', c'⟩ := b
    obtain ⟨ha, rfl⟩ := hab
    refine .ok (h.push ?_ c)
    rw [Atom.bare_toTree, Atom.bare_toTree, ha]

/-- Any number of signs. -/
theorem Inside.passes {r₁ : Reader} (h : r.Inside k bs og r') (hpasses : r.Passes r₁) :
    ∃ r₁', r'.Passes r₁' ∧ r₁.Inside k bs og r₁' := by
  induction hpasses with
  | refl => exact ⟨r', .refl, h⟩
  | tail _ hnext ih =>
    obtain ⟨r₂, hpasses, hinside⟩ := ih
    have hskip := hinside.skip
    obtain ⟨r₃, hstep, hinside'⟩ := follows_step hskip hnext.rest _ hnext.step
    have hrest : r₂.skip.cursor.rest ≠ [] := by
      rw [hskip.cursor]
      exact hnext.rest
    exact ⟨r₃, hpasses.tail ⟨hrest, hstep⟩, hinside'⟩

end Reader

open Reader

/-! ## Whole patterns -/

/-- No group has captured yet, and the first alternative is read. -/
structure Reader.Fresh (r : Reader) : Prop where
  captures : r.captures = 0
  names : r.names = []
  alone : r.current.branches = []

/-- The pattern of a tree is read, up to the text `q` behind it: it adds its alternatives, the
first one with what was read before in front. -/
structure Reader.Inserts (t : Tree) (q : List Char) (r r' : Reader) : Prop where
  passes : r.Passes r'
  rest : r'.skip.cursor.rest = q
  groups : r'.groups = r.groups
  led : ∃ (part : OpenPart) (stop : Nat), t = part.close stop ∧
    part.Led r.current.parts r'.current

/-- At the start of a group, text behind the pattern is read after it. -/
def ReadsInside (p : List Char) (t : Tree) : Prop :=
  ∀ (q : List Char) (r : Reader), Firm q → r.At (p ++ q) → r.Fresh → ∃ r', r.Inserts t q r'

/-- At the start of a group, a comment at the end of the pattern goes on in the text
behind. -/
def DrownsInside (p : List Char) : Prop :=
  ∀ (q : List Char) (r : Reader), Firm q → r.At (p ++ q) → r.Fresh →
    ∃ r' : Reader, r.Passes r' ∧ r'.skip.cursor.rest = [] ∧ r'.groups = r.groups

theorem Reader.Fresh.inside {p q : List Char} {r : Reader} (hfresh : r.Fresh)
    (hat : r.At (p ++ q)) :
    ((start p).extend q).Inside r.cursor.pos r.current.parts r.groups r := by
  refine ⟨?_, hat.free, hfresh.captures, ?_, .base (.first rfl hfresh.alone rfl)⟩
  · obtain ⟨⟨pos, rest⟩, current, groups, free, captures, names⟩ := r
    obtain rfl : rest = p ++ q := hat.rest
    simp [moved, Reader.extend, start, Cursor.extend]
  · rw [hfresh.names]
    rfl

/-- **A pattern inside of another one.** Where no group has captured yet and the first
alternative is read, a pattern adds its alternatives, unless a comment at its end goes on. -/
theorem readsInside_or_drownsInside {p : List Char} {reading : Reading}
    (hread : Tree.read p = .ok reading) : ReadsInside p reading.tree ∨ DrownsInside p := by
  obtain ⟨r₁, hrun, hfinish⟩ := bind_eq_ok.1 hread
  obtain ⟨hgroups, rfl⟩ := finish_eq_ok_iff.1 hfinish
  have hrest : r₁.cursor.rest = [] := rest_of_run (Nat.lt_succ_self _) hrun
  refine (passes_firm (Nat.lt_succ_self _) hrun hgroups).imp
    (fun hmeets q r hq hat hfresh => ?_)
    fun hdrowns q r hq hat hfresh => ?_
  · obtain ⟨s, hpasses, hs⟩ := hmeets q hq
    obtain ⟨r', hpasses', hinside⟩ := (hfresh.inside hat).passes hpasses
    have hskip := hinside.skip
    rw [hs] at hskip
    have hstack := hskip.stack
    rw [groups_extend, hgroups, current_extend] at hstack
    obtain ⟨hgroups', hled⟩ := hstack.of_nil
    refine ⟨r', hpasses', ?_, hgroups', r₁.current, r₁.cursor.pos, rfl, hled⟩
    rw [hskip.cursor, rest_moved, cursor_extend, rest_extend, hrest, List.nil_append]
  · obtain ⟨s, hpasses, hnil, hs⟩ := hdrowns q hq
    obtain ⟨r', hpasses', hinside⟩ := (hfresh.inside hat).passes hpasses
    have hstack := hinside.stack
    rw [hs] at hstack
    refine ⟨r', hpasses', ?_, hstack.of_nil.1⟩
    rw [hinside.skip.cursor, rest_moved, hnil]

end PatternAssembly
