import PatternAssembly.Proofs.Tree.BracketExtension
import PatternAssembly.Proofs.Tree.Places

/-!
# Classes in square brackets at another place

What a class is read as does not depend on how many characters stand before it either.

## Main definitions

* `OpenSet.bare`: what has been read of a set, without its places

## Main statements

* `agrees_item`, `agrees_set`: an item, and the items up to a closing bracket
* `agrees_bracket`: a class
-/
namespace PatternAssembly

open Cursor

variable {k : Nat} {free : Bool}

/-! ## Sets under way -/

namespace OpenSet

/-- What has been read of a set, without its places. -/
def bare (s : OpenSet) : OpenSet :=
  { start := 0
    items := s.items.map ClassTree.bare
    pending := s.pending.map fun p => (p.1, p.2.bare) }

variable {s s' : OpenSet}

theorem bare_push {item item' : ClassTree} (h : s'.bare = s.bare)
    (hitem : item'.bare = item.bare) :
    (s'.push item').bare = (s.push item).bare := by
  simp only [bare, push, mk.injEq, true_and, List.map_cons, List.cons.injEq] at h ⊢
  exact ⟨⟨hitem, h.1⟩, h.2⟩

theorem isEmpty_items_of_bare (h : s'.bare = s.bare) :
    s'.items.isEmpty = s.items.isEmpty := by
  have hitems : s'.items.map ClassTree.bare = s.items.map ClassTree.bare := congrArg items h
  rw [← List.isEmpty_map (f := ClassTree.bare), hitems, List.isEmpty_map]

/-- The set as a tree depends on its places only in the places of the tree. -/
theorem bare_close (s : OpenSet) : s.close.bare =
    match s.bare.pending with
    | none => .ofItems .nowhere s.bare.items.reverse
    | some (op, lhs) =>
      .operation .nowhere op lhs (.ofItems .nowhere s.bare.items.reverse) := by
  obtain ⟨start, items, pending⟩ := s
  cases pending with
  | none => simp [close, bare, ClassTree.bare_ofItems]
  | some p => simp [close, bare, ClassTree.bare, ClassTree.bare_ofItems]

theorem bare_close_congr (h : s'.bare = s.bare) : s'.close.bare = s.close.bare := by
  rw [bare_close, bare_close, h]

theorem bare_operator (h : s'.bare = s.bare) (op : SetOperation) (pos pos' : Nat) :
    (s'.operator op pos').bare = (s.operator op pos).bare := by
  simp [operator, bare, bare_close_congr h]

end OpenSet

/-! ## Items -/

theorem readAsciiName_moved (start start' : Nat) (negated : Bool) (c : Cursor) :
    (readAsciiName start' negated (c.moved k)).map (fun r => (r.1.bare, r.2)) =
      (readAsciiName start negated c).map fun r => (r.1.bare, r.2.moved k) := by
  simp only [readAsciiName, takeWhile_moved, after?_moved]
  cases asciiClassByName (c.takeWhile false (· != ':')).1 with
  | none => rfl
  | some kind =>
    cases (c.takeWhile false (· != ':')).2.after? [':', ']'] <;> rfl

theorem readAsciiClass_moved (c : Cursor) :
    (readAsciiClass (c.moved k)).map (fun r => (r.1.bare, r.2)) =
      (readAsciiClass c).map fun r => (r.1.bare, r.2.moved k) := by
  rw [readAsciiClass_eq, readAsciiClass_eq, after?_moved]
  cases c.after? ['[', ':'] with
  | none => rfl
  | some inside =>
    simp only [Option.map_some, Option.bind_some, after?_moved]
    cases inside.after? ['^'] with
    | none => exact readAsciiName_moved _ _ _ _
    | some named => exact readAsciiName_moved _ _ _ _

theorem agrees_classAtom (c : Cursor) :
    Agrees k Atom.bare (readClassAtom free c) (readClassAtom free (c.moved k)) := by
  simp only [readClassAtom, next_moved, rest_moved]
  split
  · exact agrees_escape c
  · exact .ok rfl
  · exact .refuse _ _

theorem follows_toItem {a a' : Atom} (h : a'.bare = a.bare) :
    Follows (fun item item' => item'.bare = item.bare) a.toItem a'.toItem := by
  cases a <;> cases a' <;> simp only [Atom.bare, reduceCtorEq] at h <;>
    first | exact .refuse _ _ | exact .ok (by simpa [ClassTree.bare] using h)

theorem follows_toBoundary {a a' : Atom} (h : a'.bare = a.bare) :
    Follows (fun l l' => l'.bare = l.bare) a.toBoundary a'.toBoundary := by
  cases a <;> cases a' <;> simp only [Atom.bare, reduceCtorEq] at h <;>
    first | exact .refuse _ _ | exact .ok (by simpa using h)

theorem Literal.char_of_bare {l l' : Literal} (h : l'.bare = l.bare) : l'.char = l.char :=
  (Literal.mk.inj h).2.1

theorem agrees_itemFrom (opened opened' : Span) {first first' : Atom}
    (hfirst : first'.bare = first.bare) (past : Option Char) (c : Cursor) :
    Agrees k ClassTree.bare (readItemFrom free opened first past c)
      (readItemFrom free opened' first' past (c.moved k)) := by
  simp only [readItemFrom, rest_moved, advance_moved]
  split
  · exact .refuse _ _
  · split_ifs
    · exact Follows.bind (follows_toItem hfirst) fun item item' h => Agrees.ok h
    · exact .refuse _ _
    · refine (agrees_classAtom _).bind fun second second' c hsecond => ?_
      refine Follows.bind (follows_toBoundary hfirst) fun lo lo' hlo => ?_
      refine Follows.bind (follows_toBoundary hsecond) fun hi hi' hhi => ?_
      rw [Literal.char_of_bare hlo, Literal.char_of_bare hhi]
      split_ifs
      · exact .refuse _ _
      · refine Agrees.ok ?_
        rw [ClassTree.bare, ClassTree.bare, hlo, hhi]

/-- An item of a set. -/
theorem agrees_item (opened opened' : Span) (c : Cursor) :
    Agrees k ClassTree.bare (readItem free opened c) (readItem free opened' (c.moved k)) := by
  rw [readItem_eq, readItem_eq]
  refine (agrees_classAtom c).bind fun first first' c h => ?_
  simp only [skip_moved, peekPast_moved]
  exact agrees_itemFrom _ _ h _ _

/-! ## The start of a class -/

theorem agrees_hyphens (start start' bound : Nat) {s s' : OpenSet} (h : s'.bare = s.bare)
    (c : Cursor) : Agrees k OpenSet.bare (readHyphens free start bound s c)
      (readHyphens free start' bound s' (c.moved k)) := by
  induction bound generalizing s s' c with
  | zero => exact .ok h
  | succ bound ih =>
    simp only [readHyphens, rest_moved, advance_moved]
    split
    · split_ifs
      · exact .refuse _ _
      · refine ih (OpenSet.bare_push h ?_) _
        rfl
    · exact .ok h

theorem agrees_leading (start start' : Nat) (c : Cursor) :
    Agrees k OpenSet.bare (readLeading free start c)
      (readLeading free start' (c.moved k)) := by
  simp only [readLeading, rest_moved]
  split_ifs
  · exact .refuse _ _
  · refine Agrees.bind (agrees_hyphens start start' _ ?_ c) fun s s' c h => ?_
    · rfl
    simp only [OpenSet.isEmpty_items_of_bare h, rest_moved, advance_moved]
    split_ifs
    · exact .refuse _ _
    · exact .ok (OpenSet.bare_push h rfl)
    · exact .ok h

/-- The start of a class. -/
theorem follows_openBracket (c : Cursor) :
    Follows (fun a b => b.1 = a.1 ∧ b.2.1.bare = a.2.1.bare ∧ b.2.2 = a.2.2.moved k)
      (openBracket free c) (openBracket free (c.moved k)) := by
  simp only [openBracket_eq, advance_moved, rest_moved]
  split_ifs
  · exact .refuse _ _
  · refine Follows.bind (agrees_leading _ _ _) fun a b h => .ok ⟨rfl, h⟩
  · refine Follows.bind (agrees_leading _ _ _) fun a b h => .ok ⟨rfl, h⟩

/-! ## Sets -/

/-- The items of a set up to its closing bracket. -/
theorem agrees_set (opened opened' : Span) (bound : Nat) {s s' : OpenSet}
    (h : s'.bare = s.bare) (c : Cursor) :
    Agrees k ClassTree.bare (readSet free opened bound s c)
      (readSet free opened' bound s' (c.moved k)) := by
  induction bound generalizing opened opened' s s' c with
  | zero => exact .refuse _ _
  | succ bound ih =>
    have hskip : (c.moved k).skip free = (c.skip free).moved k := skip_moved c
    have hsign := setSign (c.skip free).rest
    generalize hrest : (c.skip free).rest = cs at hsign
    have hrest' : ((c.moved k).skip free).rest = cs := by rw [hskip, rest_moved, hrest]
    cases hsign with
    | missing =>
      rw [readSet_missing hrest]
      exact .refuse _ _
    | close rest =>
      rw [readSet_close hrest, readSet_close hrest', hskip, next_moved]
      exact .ok (OpenSet.bare_close_congr h)
    | opening rest =>
      rw [readSet_opening hrest, readSet_opening hrest', hskip]
      generalize c.skip free = c
      have hascii := readAsciiClass_moved (k := k) c
      rw [readInner, readInner]
      cases hclass : readAsciiClass c with
      | some r =>
        rw [hclass, Option.map_some, Option.map_eq_some_iff] at hascii
        obtain ⟨⟨item, after⟩, hclass', heq⟩ := hascii
        obtain ⟨hitem, rfl⟩ := Prod.mk.inj heq
        rw [hclass']
        exact ih _ _ (OpenSet.bare_push h hitem) _
      | none =>
        rw [hclass, Option.map_none, Option.map_eq_none_iff] at hascii
        rw [hascii]
        refine Follows.bind (follows_openBracket c) fun a b hab => ?_
        obtain ⟨negated, inner', after⟩ := b
        obtain ⟨rfl, hinner, rfl⟩ := hab
        refine Agrees.bind (ih _ _ hinner _) fun set set' c hset => ?_
        refine ih _ _ (OpenSet.bare_push h ?_) _
        simp only [ClassTree.bare, hset]
    | operation w hw rest =>
      rw [readSet_operation hw hrest, readSet_operation hw hrest', hskip,
        next_moved, next_moved]
      exact ih _ _ (OpenSet.bare_operator h _ _ _) _
    | item hitem =>
      rw [readSet_item (hrest ▸ hitem), readSet_item (hrest' ▸ hitem), hskip]
      exact (agrees_item _ _ _).bind fun item item' c hitem =>
        ih _ _ (OpenSet.bare_push h hitem) c

/-- A class. -/
theorem agrees_bracket (c : Cursor) :
    Agrees k Tree.bare (readBracket free c) (readBracket free (c.moved k)) := by
  rw [readBracket, readBracket]
  refine Follows.bind (follows_openBracket c) fun a b hab => ?_
  obtain ⟨negated, s', after⟩ := b
  obtain ⟨rfl, hs, rfl⟩ := hab
  refine Agrees.bind (agrees_set _ _ _ hs _) fun set set' c hset => .ok ?_
  simp only [Tree.bare, hset]

end PatternAssembly
