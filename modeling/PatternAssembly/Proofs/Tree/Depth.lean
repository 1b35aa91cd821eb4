import PatternAssembly.Proofs.Tree.Signs
import PatternAssembly.Tree.Depth

/-!
# Patterns that hardly nest

Characters, places and classes of one letter hold no other parts. A pattern that consists of
nothing else is one sequence of parts and does not nest. A group with such parts in it, which
is repeated, needs three levels, and so on: how many levels a text needs depends on how it is
written, not on its length.

## Main definitions

* `Tree.Within`: a part that needs so many levels at most
* `ReadsWithin`: a text that is read as such parts
* `Tree.IsLeaf`, `ReadsAsLeaves`: the same for no levels

## Main statements

* `ReadsWithin.append`: such texts one after the other
* `ReadsWithin.repeated`: a repeated group
* `readsAsLeaves_char`, `readsAsLeaves_escaped`, `readsAsLeaves_anchor`: signs of one part
* `OpenPart.within_close`: parts one after another need one level more
-/
namespace PatternAssembly

variable {cs ds rest : List Char} {ch : Char} {r : Reader}

namespace Tree

/-- The part may lie below any number of levels. -/
def IsLeaf (t : Tree) : Prop := ∀ room, t.tooDeep? room = none

/-- The part needs no more than so many levels. -/
def Within (levels : Nat) (t : Tree) : Prop := ∀ room, t.tooDeep? (room + levels) = none

variable {levels : Nat} {t : Tree} {ts : List Tree}

theorem Within.mono {levels' : Nat} (h : t.Within levels) (hle : levels ≤ levels') :
    t.Within levels' := by
  intro room
  obtain ⟨more, rfl⟩ := Nat.exists_eq_add_of_le hle
  rw [Nat.add_comm levels more, ← Nat.add_assoc]
  exact h (room + more)

theorem Within.repetition (h : t.Within levels) (s : Span) (lo : Nat) (hi : Option Nat)
    (greedy : Bool) : (Tree.repetition s lo hi greedy t).Within (levels + 1) := by
  intro room
  rw [← Nat.add_assoc, tooDeep?]
  exact h room

theorem Within.group (h : t.Within levels) (s : Span) (kind : GroupKind) :
    (Tree.group s kind t).Within (levels + 1) := by
  intro room
  rw [← Nat.add_assoc, tooDeep?]
  exact h room

theorem anyTooDeep?_of_within (h : ∀ t ∈ ts, t.Within levels) (room : Nat) :
    anyTooDeep? (room + levels) ts = none := by
  induction ts with
  | nil => rw [anyTooDeep?]
  | cons t ts ih =>
    rw [anyTooDeep?, h t List.mem_cons_self room,
      ih fun u hu => h u (List.mem_cons_of_mem _ hu)]
    rfl

theorem within_ofParts {s : Span} (h : ∀ t ∈ ts, t.Within levels) :
    (ofParts s ts).Within (levels + 1) := by
  intro room
  fun_cases ofParts s ts with
  | case1 => rw [tooDeep?]
  | case2 t => exact (h t (List.mem_singleton_self t)).mono (Nat.le_succ levels) room
  | case3 => rw [← Nat.add_assoc, tooDeep?, anyTooDeep?_of_within h]

end Tree

theorem Atom.isLeaf_toTree (a : Atom) : a.toTree.IsLeaf := by
  intro room
  cases a <;> rw [toTree, Tree.tooDeep?]

variable {levels : Nat}

/-- Parts one after another need one level more. -/
theorem OpenPart.within_close {p : OpenPart} (hbranches : p.branches = [])
    (hparts : ∀ t ∈ p.parts, t.Within levels) (stop : Nat) :
    (p.close stop).Within (levels + 1) := by
  rw [close, hbranches]
  exact Tree.within_ofParts fun t ht => hparts t (List.mem_reverse.1 ht)

/-! ## Reading -/

/-- Wherever the text stands, unless the characters after it continue it, it is read as parts
that need no more than so many levels each. -/
structure ReadsWithin (levels : Nat) (cs : List Char) : Prop where
  calm : Calm cs
  reads : ∀ (r : Reader) (rest : List Char), Calm rest → r.At (cs ++ rest) →
    ∃ ts r', r.Reaches r' ∧ r.Grown ts rest r' ∧ ∀ t ∈ ts, t.Within levels

theorem ReadsWithin.mono {levels' : Nat} (h : ReadsWithin levels cs)
    (hle : levels ≤ levels') :
    ReadsWithin levels' cs := by
  refine ⟨h.calm, ?_⟩
  intro r rest hrest hat
  obtain ⟨ts, r', hreaches, hgrown, hts⟩ := h.reads r rest hrest hat
  exact ⟨ts, r', hreaches, hgrown, fun t ht => (hts t ht).mono hle⟩

theorem ReadsWithin.append (h : ReadsWithin levels cs) (h' : ReadsWithin levels ds) :
    ReadsWithin levels (cs ++ ds) := by
  refine ⟨h.calm.append h'.calm, reads_append h'.calm h.reads h'.reads ?_⟩
  intro ts us hts hus t ht
  exact (List.mem_append.1 ht).elim (hts t) (hus t)

/-- A repeated group needs a level for its parts, one for the group and one for the
repetition. -/
theorem ReadsWithin.repeated {qs : List Char} {lo : Nat} {hi : Option Nat}
    (h : ReadsWithin levels cs) (hq : ReadsAsCount qs lo hi) :
    ReadsWithin (levels + 3) ('(' :: (cs ++ ')' :: qs)) := by
  refine ⟨by simp, ?_⟩
  intro r rest hrest hat
  rw [List.cons_append, List.append_assoc, List.cons_append] at hat
  have hcalm : Calm (')' :: (qs ++ rest)) := by simp
  obtain ⟨pos, index, opened, r₁, hreads₁, hat₁, hcurrent₁, hgroups₁⟩ :=
    reads_opening (h.calm.append hcalm) hat
  obtain ⟨ts, r₂, hreaches₂, hgrown₂, hts⟩ := h.reads r₁ _ hcalm hat₁
  have hclose := OpenPart.within_close (p := r₂.current)
    (by rw [hgrown₂.branches, hcurrent₁]; rfl)
    (by simpa [hgrown₂.parts, hcurrent₁, OpenPart.beginning] using hts) r₂.cursor.pos
  obtain ⟨s, r₃, hreads₃, hat₃, hgroups₃, hcurrent₃⟩ :=
    reads_closing hgrown₂.at_rest (hgrown₂.groups.trans hgroups₁) rfl
  obtain ⟨s', r₄, hreads₄, hat₄, hgroups₄, hbranches₄, hparts₄⟩ :=
    hq r₃ rest _ r.current.parts hrest hat₃ (by rw [hcurrent₃]; rfl) rfl
  refine ⟨[_], r₄, ((hreads₁.reaches.trans hreaches₂).trans hreads₃.reaches).trans
    hreads₄.reaches, ⟨hat₄, hgroups₄.trans hgroups₃, ?_, hparts₄⟩, ?_⟩
  · rw [hbranches₄, hcurrent₃]
    rfl
  · exact List.forall_mem_singleton.2 ((hclose.group s _).repetition s' lo hi true)

/-- Wherever the text stands, unless the characters after it continue it, it is read as parts
that hold no other parts. -/
structure ReadsAsLeaves (cs : List Char) : Prop where
  calm : Calm cs
  reads : ∀ (r : Reader) (rest : List Char), Calm rest → r.At (cs ++ rest) →
    ∃ ts r', r.Reaches r' ∧ r.Grown ts rest r' ∧ ∀ t ∈ ts, t.IsLeaf

theorem readsWithin_zero : ReadsWithin 0 cs ↔ ReadsAsLeaves cs :=
  ⟨fun h => ⟨h.calm, h.reads⟩, fun h => ⟨h.calm, h.reads⟩⟩

theorem readsAsLeaves_nil : ReadsAsLeaves [] :=
  ⟨calm_nil, fun r _ _ hat => ⟨[], r, .refl, .refl hat, by simp⟩⟩

theorem ReadsAsLeaves.append (h : ReadsAsLeaves cs) (h' : ReadsAsLeaves ds) :
    ReadsAsLeaves (cs ++ ds) :=
  readsWithin_zero.1 ((readsWithin_zero.2 h).append (readsWithin_zero.2 h'))

/-- A text that is read as a sign of one part. -/
theorem readsAsLeaves_of_atom (hch : isStructural ch = false)
    (h : ∀ (c : Cursor) (rest : List Char), c.rest = ch :: (cs ++ rest) → ∃ a c',
      Atom.read false c = .ok (a, c') ∧ c'.rest = rest) : ReadsAsLeaves (ch :: cs) := by
  refine ⟨calm_of_not_structural hch, ?_⟩
  intro r rest _ hat
  obtain ⟨a, c', hread, hc'⟩ := h r.cursor rest hat.rest
  have hstep := step_of_atom hat hch hread
  exact ⟨[a.toTree], r.push a.toTree c',
    (reads_push hat (List.cons_ne_nil _ _) hstep hc').reaches,
    Reader.grown_push hat.free hc', List.forall_mem_singleton.2 a.isLeaf_toTree⟩

theorem readsAsLeaves_char (h : isSign ch = false) : ReadsAsLeaves [ch] := by
  apply readsAsLeaves_of_atom (Bool.or_eq_false_iff.1 h).1
  intro c rest hc
  exact ⟨_, c.next, read_char h hc, by simp [Cursor.next, hc]⟩

theorem readsAsLeaves_escaped (h : isMeta ch = true) : ReadsAsLeaves ['\\', ch] := by
  apply readsAsLeaves_of_atom (by decide)
  intro c rest hc
  exact ⟨_, c.next.next, read_escaped h hc, by simp [Cursor.next, hc]⟩

theorem readsAsLeaves_anchor (h : ch = '^' ∨ ch = '$') : ReadsAsLeaves [ch] := by
  have hch : isStructural ch = false := by rcases h with rfl | rfl <;> decide
  apply readsAsLeaves_of_atom hch
  intro c rest hc
  rcases h with rfl | rfl
  · exact ⟨.assertion c.charSpan .lineStart, c.next, by simp [Atom.read, hc],
      by simp [Cursor.next, hc]⟩
  · exact ⟨.assertion c.charSpan .lineEnd, c.next, by simp [Atom.read, hc],
      by simp [Cursor.next, hc]⟩

end PatternAssembly
