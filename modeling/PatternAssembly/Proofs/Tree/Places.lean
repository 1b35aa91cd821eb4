import Mathlib.Tactic.SplitIfs
import PatternAssembly.Proofs.Tree.Reading

/-!
# Signs at another place

What a sign of a pattern is read as does not depend on how many characters stand before it.
Only the stretches of text that the parts keep do, and these matter for nothing but the
reports of faults.

## Main definitions

* `Cursor.moved`: the same text after more characters
* `Literal.bare`, `ClassTree.bare`, `Tree.bare` and the like: parts without their places
* `Agrees`: a reading, and the same reading after more characters

## Main statements

* `Agrees.bind`: one reading after the other
* `agrees_atom`, `agrees_braces`, `agrees_opening`: signs, counts, and what opens a group
-/
namespace PatternAssembly

variable {k : Nat} {free : Bool}

/-! ## Cursors -/

namespace Cursor

/-- The same text is left, with `k` more characters before it. -/
def moved (k : Nat) (c : Cursor) : Cursor := ⟨c.pos + k, c.rest⟩

@[simp] theorem rest_moved (c : Cursor) : (c.moved k).rest = c.rest := rfl

@[simp] theorem pos_moved (c : Cursor) : (c.moved k).pos = c.pos + k := rfl

@[simp] theorem next_moved (c : Cursor) : (c.moved k).next = c.next.moved k := by
  obtain ⟨pos, rest⟩ := c
  cases rest with
  | nil => rfl
  | cons ch rest => simp [moved, next, Nat.add_right_comm]

theorem skipFrom_moved (pos : Nat) (inComment : Bool) (cs : List Char) :
    skipFrom (pos + k) inComment cs = (skipFrom pos inComment cs).moved k := by
  induction cs generalizing pos inComment with
  | nil => rfl
  | cons ch cs ih =>
    simp only [skipFrom, Nat.add_right_comm pos k 1, ih]
    split_ifs <;> rfl

@[simp] theorem skip_moved (c : Cursor) : (c.moved k).skip free = (c.skip free).moved k := by
  cases free with
  | false => rfl
  | true => exact skipFrom_moved _ _ _

@[simp] theorem advance_moved (c : Cursor) :
    (c.moved k).advance free = (c.advance free).moved k := by
  rw [advance, next_moved, skip_moved, advance]

@[simp] theorem skipBlanks_moved (c : Cursor) :
    (c.moved k).skipBlanks = c.skipBlanks.moved k := by
  simp [skipBlanks, moved, Nat.add_right_comm]

@[simp] theorem peekPast_moved (c : Cursor) :
    (c.moved k).peekPast free = c.peekPast free := by
  rw [peekPast, next_moved, rest_moved, peekPast]

@[simp] theorem takeUpTo_moved (p : Char → Bool) (bound : Nat) (c : Cursor) :
    (c.moved k).takeUpTo free p bound =
      ((c.takeUpTo free p bound).1, (c.takeUpTo free p bound).2.moved k) := by
  induction bound generalizing c with
  | zero => rfl
  | succ bound ih =>
    simp only [takeUpTo, rest_moved, advance_moved, ih]
    split
    · rfl
    · split_ifs <;> rfl

@[simp] theorem takeWhile_moved (p : Char → Bool) (c : Cursor) :
    (c.moved k).takeWhile free p = ((c.takeWhile free p).1, (c.takeWhile free p).2.moved k) :=
  takeUpTo_moved p _ c

@[simp] theorem after?_moved (text : List Char) (c : Cursor) :
    (c.moved k).after? text = (c.after? text).map (moved k) := by
  rw [after?, after?, rest_moved]
  split_ifs
  · simp [moved, Nat.add_right_comm]
  · rfl

@[simp] theorem afterAny?_moved (texts : List String) (c : Cursor) :
    (c.moved k).afterAny? texts = (c.afterAny? texts).map (moved k) := by
  induction texts with
  | nil => rfl
  | cons text texts ih =>
    simp only [afterAny?, List.findSome?_cons, after?_moved] at ih ⊢
    cases c.after? text.toList with
    | none => exact ih
    | some after => rfl

end Cursor

open Cursor

/-! ## Parts without their places -/

/-- No place in particular. -/
def Span.nowhere : Span := ⟨0, 0⟩

def Literal.bare (l : Literal) : Literal := { l with span := .nowhere }

mutual

/-- An item of a class without its place. -/
def ClassTree.bare : ClassTree → ClassTree
  | .empty _ => .empty .nowhere
  | .literal l => .literal l.bare
  | .range _ lo hi => .range .nowhere lo.bare hi.bare
  | .ascii _ kind negated => .ascii .nowhere kind negated
  | .shorthand _ kind negated => .shorthand .nowhere kind negated
  | .property _ query negated => .property .nowhere query negated
  | .bracket _ negated set => .bracket .nowhere negated set.bare
  | .union _ items => .union .nowhere (ClassTree.bareAll items)
  | .operation _ op lhs rhs => .operation .nowhere op lhs.bare rhs.bare

/-- Several items without their places. -/
def ClassTree.bareAll : List ClassTree → List ClassTree
  | [] => []
  | item :: items => item.bare :: ClassTree.bareAll items

end

mutual

/-- A part of a pattern without its place. -/
def Tree.bare : Tree → Tree
  | .empty _ => .empty .nowhere
  | .modes _ changes => .modes .nowhere changes
  | .literal l => .literal l.bare
  | .dot _ => .dot .nowhere
  | .assertion _ kind => .assertion .nowhere kind
  | .shorthand _ kind negated => .shorthand .nowhere kind negated
  | .property _ query negated => .property .nowhere query negated
  | .bracket _ negated set => .bracket .nowhere negated set.bare
  | .repetition _ lo hi greedy sub => .repetition .nowhere lo hi greedy sub.bare
  | .group _ kind sub => .group .nowhere kind sub.bare
  | .alternation _ branches => .alternation .nowhere (Tree.bareAll branches)
  | .sequence _ parts => .sequence .nowhere (Tree.bareAll parts)

/-- Several parts without their places. -/
def Tree.bareAll : List Tree → List Tree
  | [] => []
  | t :: ts => t.bare :: Tree.bareAll ts

end

theorem ClassTree.bareAll_eq_map (items : List ClassTree) :
    bareAll items = items.map bare := by
  induction items with
  | nil => rfl
  | cons item items ih => rw [bareAll, ih, List.map_cons]

theorem Tree.bareAll_eq_map (ts : List Tree) : bareAll ts = ts.map bare := by
  induction ts with
  | nil => rfl
  | cons t ts ih => rw [bareAll, ih, List.map_cons]

theorem ClassTree.bare_ofItems (s : Span) (items : List ClassTree) :
    (ofItems s items).bare = ofItems .nowhere (items.map bare) := by
  match items with
  | [] => rfl
  | [_] => rfl
  | item :: item' :: items => simp [ofItems, bare, bareAll_eq_map]

theorem Tree.bare_ofParts (s : Span) (ts : List Tree) :
    (ofParts s ts).bare = ofParts .nowhere (ts.map bare) := by
  match ts with
  | [] => rfl
  | [_] => rfl
  | t :: t' :: ts => simp [ofParts, bare, bareAll_eq_map]

theorem Tree.bare_ofBranches (s : Span) (ts : List Tree) :
    (ofBranches s ts).bare = ofBranches .nowhere (ts.map bare) := by
  match ts with
  | [] => rfl
  | [_] => rfl
  | t :: t' :: ts => simp [ofBranches, bare, bareAll_eq_map]

/-- A sign without its place. -/
def Atom.bare : Atom → Atom
  | .literal l => .literal l.bare
  | .assertion _ kind => .assertion .nowhere kind
  | .dot _ => .dot .nowhere
  | .shorthand _ kind negated => .shorthand .nowhere kind negated
  | .property _ query negated => .property .nowhere query negated

theorem Atom.bare_toTree (a : Atom) : a.toTree.bare = a.bare.toTree := by cases a <;> rfl

/-- What opens a group, without its place. -/
def GroupOpening.bare : GroupOpening → GroupOpening
  | .modes _ changes => .modes .nowhere changes
  | .plain changes => .plain changes
  | .numbered => .numbered
  | .named _ name => .named .nowhere name

/-! ## Readings -/

/-- If the first one is a result, so is the second, and they are related. -/
def Follows {α β : Type} (R : α → β → Prop) (x : Except Fault α) (y : Except Fault β) :
    Prop :=
  ∀ a, x = .ok a → ∃ b, y = .ok b ∧ R a b

namespace Follows

variable {α β γ δ : Type} {R : α → β → Prop} {S : γ → δ → Prop} {x : Except Fault α}
  {y : Except Fault β}

theorem ok {a : α} {b : β} (h : R a b) : Follows R (.ok a) (.ok b) := by
  intro a' heq
  obtain rfl := Except.ok.inj heq
  exact ⟨b, rfl, h⟩

theorem error (f : Fault) : Follows R (.error f) y := nofun

theorem refuse (kind : FaultKind) (span : Span) :
    Follows R (PatternAssembly.refuse kind span) y := nofun

/-- One result and then another. -/
theorem bind {f : α → Except Fault γ} {g : β → Except Fault δ} (h : Follows R x y)
    (hfg : ∀ a b, R a b → Follows S (f a) (g b)) : Follows S (x >>= f) (y >>= g) := by
  intro c heq
  obtain ⟨a, hx, heq⟩ := bind_eq_ok.1 heq
  obtain ⟨b, hy, hab⟩ := h a hx
  obtain ⟨d, hd, hcd⟩ := hfg a b hab c heq
  exact ⟨d, bind_eq_ok.2 ⟨b, hy, hd⟩, hcd⟩

end Follows

/-- A reading, and the same reading with `k` more characters before it: what they read is the
same up to places, and the second one stops where the first one does. -/
def Agrees {α β : Type} (k : Nat) (bare : α → β) : (x y : Except Fault (α × Cursor)) → Prop :=
  Follows fun a b => bare b.1 = bare a.1 ∧ b.2 = a.2.moved k

namespace Agrees

variable {α β γ δ : Type} {bare : α → β} {x y : Except Fault (α × Cursor)}

theorem ok {a b : α} {c : Cursor} (h : bare b = bare a) :
    Agrees k bare (.ok (a, c)) (.ok (b, c.moved k)) := Follows.ok ⟨h, rfl⟩

theorem error (f : Fault) : Agrees k bare (.error f) y := Follows.error f

theorem refuse (kind : FaultKind) (span : Span) :
    Agrees k bare (PatternAssembly.refuse kind span) y := Follows.refuse kind span

/-- One reading after the other. -/
theorem bind {bare' : γ → δ} {f g : α × Cursor → Except Fault (γ × Cursor)}
    (h : Agrees k bare x y)
    (hfg : ∀ a b c, bare b = bare a → Agrees k bare' (f (a, c)) (g (b, c.moved k))) :
    Agrees k bare' (x >>= f) (y >>= g) := by
  refine Follows.bind h fun a b hab => ?_
  obtain ⟨b, c⟩ := b
  obtain ⟨hbare, rfl⟩ := hab
  exact hfg a.1 b a.2 hbare

theorem ite {p : Prop} [Decidable p] {x' y' : Except Fault (α × Cursor)}
    (h : Agrees k bare x y) (h' : Agrees k bare x' y') :
    Agrees k bare (if p then x else x') (if p then y else y') := by
  by_cases hp : p
  · rwa [if_pos hp, if_pos hp]
  · rwa [if_neg hp, if_neg hp]

end Agrees

/-! ## Signs -/

theorem agrees_hexDigits (count : Nat) (c : Cursor) :
    Agrees k id (readHexDigits free count c) (readHexDigits free count (c.moved k)) := by
  induction count generalizing c with
  | zero => exact .ok rfl
  | succ count ih =>
    simp only [readHexDigits, rest_moved, advance_moved]
    split
    · exact .refuse _ _
    · split_ifs
      · exact (ih _).bind fun digits digits' c h => .ok (congrArg (List.cons _) h)
      · exact .refuse _ _

theorem agrees_hex (start start' : Nat) (letter : Char) (c : Cursor) :
    Agrees k Literal.bare (readHex free start letter c)
      (readHex free start' letter (c.moved k)) := by
  simp only [readHex, rest_moved, advance_moved, takeWhile_moved]
  split
  · exact .refuse _ _
  · split
    · exact .refuse _ _
    · split_ifs
      · exact .refuse _ _
      · split
        · exact .refuse _ _
        · exact .ok rfl
    · exact .refuse _ _
  · refine (agrees_hexDigits _ _).bind fun digits digits' c h => ?_
    obtain rfl : digits' = digits := h
    simp only
    split
    · exact .refuse _ _
    · exact .ok rfl

theorem agrees_property (start start' : Nat) (negated : Bool) (c : Cursor) :
    Agrees k Atom.bare (readProperty free start negated c)
      (readProperty free start' negated (c.moved k)) := by
  simp only [readProperty, rest_moved, advance_moved, takeWhile_moved]
  split
  · exact .refuse _ _
  · split_ifs
    · exact .refuse _ _
    · rw [next_moved]
      exact .ok rfl
  · exact .refuse _ _
  · exact .ok rfl

theorem agrees_boundary (start start' : Nat) (c : Cursor) :
    Agrees k id (readBoundary free start c) (readBoundary free start' (c.moved k)) := by
  simp only [readBoundary, rest_moved, advance_moved, takeWhile_moved]
  split
  · split
    · exact .refuse _ _
    · split_ifs
      · split
        · split
          · rw [next_moved]
            exact .ok rfl
          · exact .refuse _ _
        · exact .refuse _ _
      · exact .ok rfl
  · exact .ok rfl

theorem agrees_escape (c : Cursor) :
    Agrees k Atom.bare (readEscape free c) (readEscape free (c.moved k)) := by
  unfold readEscape
  dsimp only
  rw [next_moved, rest_moved]
  generalize c.next = c₁
  cases c₁.rest with
  | nil => exact .refuse _ _
  | cons ch rest =>
    dsimp only
    rw [next_moved]
    refine .ite (.refuse _ _) (.ite ?_ (.ite ?_ (.ite ?_ (.ite (.ok rfl) ?_))))
    · exact (agrees_hex _ _ _ _).bind fun l l' c h => .ok (congrArg Atom.literal h)
    · exact agrees_property _ _ _ _
    · exact (agrees_boundary _ _ _).bind fun kind kind' c h =>
        .ok (congrArg (Atom.assertion .nowhere) h)
    · cases controlEscape ch with
      | some control => exact .ok rfl
      | none =>
        cases shorthandEscape ch with
        | some shorthand => exact .ok rfl
        | none =>
          cases placeEscape ch with
          | some kind => exact .ok rfl
          | none => exact .refuse _ _

/-- A sign. -/
theorem agrees_atom (c : Cursor) :
    Agrees k Atom.bare (Atom.read free c) (Atom.read free (c.moved k)) := by
  simp only [Atom.read, next_moved, rest_moved]
  split
  · exact .refuse _ _
  · exact agrees_escape c
  · exact .ok rfl
  · exact .ok rfl
  · exact .ok rfl
  · exact .ok rfl

/-! ## Counts -/

namespace Count

@[simp] theorem readGreed_moved (c : Cursor) :
    readGreed (c.moved k) = ((readGreed c).1, (readGreed c).2.moved k) := by
  simp only [readGreed, next_moved, rest_moved]
  split <;> rfl

/-- A sign of repetition. -/
theorem readSign_moved (sign : Char) (c : Cursor) :
    readSign sign (c.moved k) = ((readSign sign c).1, (readSign sign c).2.moved k) := by
  simp only [readSign, next_moved, readGreed_moved]

/-- A number, which may be missing or too great. -/
theorem readDecimal_moved (c : Cursor) :
    (readDecimal free (c.moved k)).2 = (readDecimal free c).2.moved k ∧
      Follows Eq (readDecimal free c).1 (readDecimal free (c.moved k)).1 := by
  simp only [readDecimal, skipBlanks_moved, takeWhile_moved, true_and]
  split_ifs
  · exact .refuse _ _
  · exact .ok rfl
  · exact .refuse _ _

theorem agrees_bounds (start start' : Nat) (c : Cursor) :
    Agrees k id (readBounds free start c) (readBounds free start' (c.moved k)) := by
  have hdecimal (c : Cursor) :
      (readDecimal free (c.moved k)).2 = (readDecimal free c).2.moved k ∧
        Follows Eq (readDecimal free c).1 (readDecimal free (c.moved k)).1 :=
    readDecimal_moved c
  simp only [readBounds, rest_moved, (hdecimal _).1, advance_moved]
  split_ifs
  · exact .refuse _ _
  · split
    · exact .refuse _ _
    · split
      · exact .refuse _ _
      · refine Follows.bind (hdecimal _).2 fun lo lo' h => ?_
        exact h ▸ Agrees.ok rfl
      · refine Follows.bind (hdecimal _).2 fun lo lo' h => ?_
        refine Follows.bind (hdecimal _).2 fun hi hi' h' => ?_
        exact h ▸ h' ▸ Agrees.ok rfl
    · refine Follows.bind (hdecimal _).2 fun lo lo' h => ?_
      exact h ▸ Agrees.ok rfl

theorem agrees_braces (c : Cursor) :
    Agrees k id (readBraces free c) (readBraces free (c.moved k)) := by
  simp only [readBraces, advance_moved]
  refine (agrees_bounds _ _ _).bind fun bounds bounds' c h => ?_
  obtain rfl : bounds' = bounds := h
  simp only [rest_moved, advance_moved, readGreed_moved]
  split
  · split_ifs
    · exact .refuse _ _
    · exact .ok rfl
  · exact .refuse _ _

end Count

/-! ## What opens a group -/

/-- Whether an element is found depends only on what is asked of the elements. -/
theorem find?_eq_none_of_map_eq {α β : Type} {f : α → β} {xs ys : List α}
    (h : ys.map f = xs.map f) (p : β → Bool) (hnone : (xs.find? fun x => p (f x)) = none) :
    (ys.find? fun y => p (f y)) = none := by
  rw [List.find?_eq_none] at hnone ⊢
  intro y hy
  have hmem : f y ∈ xs.map f := h ▸ List.mem_map_of_mem hy
  obtain ⟨x, hx, heq⟩ := List.mem_map.1 hmem
  exact heq ▸ hnone x hx

/-- Flags. The places of those before them have no part in it. -/
theorem agrees_flags {seen seen' : List (Option Mode × Span)}
    (h : seen'.map Prod.fst = seen.map Prod.fst) (pos : Nat) (cs : List Char) :
    Agrees k id (readFlags seen pos cs) (readFlags seen' (pos + k) cs) := by
  induction cs generalizing seen seen' pos with
  | nil => exact .refuse _ _
  | cons ch cs ih =>
    have hany : (seen'.any fun s => s.1.isNone) = seen.any fun s => s.1.isNone := by
      have hmap := congrArg (List.any · Option.isNone) h
      rwa [List.any_map, List.any_map] at hmap
    have hgo (mode : Option Mode) (span span' : Span) :
        Agrees k id (readFlags ((mode, span) :: seen) (pos + 1) cs)
          (readFlags ((mode, span') :: seen') (pos + k + 1) cs) := by
      have hcons : ((mode, span') :: seen').map Prod.fst =
          ((mode, span) :: seen).map Prod.fst :=
        congrArg (List.cons mode) h
      rw [Nat.add_right_comm]
      exact ih hcons (pos + 1)
    unfold readFlags
    simp only
    split_ifs
    · split
      · exact .refuse _ _
      · rename_i hdangling
        split
        · rename_i dash' rest'
          obtain ⟨⟨mode, dash⟩, rest, rfl⟩ :=
            List.exists_cons_of_ne_nil (l := seen) (by rintro rfl; cases h)
          obtain rfl : none = mode := (List.cons.inj h).1
          exact absurd rfl (hdangling dash rest)
        · exact .ok rfl
    · split
      · exact .error _
      · rename_i hfind
        rw [find?_eq_none_of_map_eq h Option.isNone hfind]
        exact hgo _ _ _
    · split
      · exact .refuse _ _
      · split
        · exact .error _
        · rename_i mode _ _ hfind
          rw [find?_eq_none_of_map_eq h (· == some mode) hfind, hany]
          exact (hgo _ _ _).bind fun changes changes' c h => .ok (congrArg (List.cons _) h)

/-- The name of a group. -/
theorem follows_name (c : Cursor) :
    Follows (fun a b => b.2 = (a.2.1, a.2.2.moved k)) (readName c)
      (readName (c.moved k)) := by
  rw [readName, readName]
  by_cases hnil : c.rest.isEmpty = true
  · rw [if_pos hnil]
    exact .refuse _ _
  · rw [if_neg hnil, if_neg (by exact hnil)]
    simp only [rest_moved]
    split
    · exact .refuse _ _
    · split
      · exact .refuse _ _
      · split
        · exact .refuse _ _
        · rename_i hempty
          simp only [if_neg hempty, moved, Nat.add_right_comm _ k]
          exact .ok rfl

/-- What opens a group. -/
theorem agrees_opening (c : Cursor) :
    Agrees k GroupOpening.bare (GroupOpening.read free c)
      (GroupOpening.read free (c.moved k)) := by
  simp only [GroupOpening.read, advance_moved, afterAny?_moved]
  cases (c.advance free).afterAny? ["?=", "?!", "?<=", "?<!"] with
  | some after => exact .refuse _ _
  | none =>
    cases (c.advance free).afterAny? ["?P<", "?<"] with
    | some after =>
      simp only [Option.map_none, Option.map_some]
      refine Follows.bind (follows_name after) fun named named' h => ?_
      obtain ⟨span', name', stop'⟩ := named'
      obtain ⟨rfl, rfl⟩ := Prod.mk.inj h
      exact Agrees.ok rfl
    | none =>
      simp only [Option.map_none, rest_moved, next_moved, pos_moved]
      split
      · split_ifs
        · exact .refuse _ _
        · refine (agrees_flags rfl _ _).bind fun changes changes' stop h => ?_
          obtain rfl : changes' = changes := h
          simp only [rest_moved, next_moved, pos_moved, Nat.add_right_cancel_iff]
          split
          · split_ifs
            · exact .refuse _ _
            · exact .ok rfl
          · exact .ok rfl
      · exact .ok rfl

end PatternAssembly
