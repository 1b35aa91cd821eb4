import PatternAssembly.Proofs.Tree.Places

/-!
# What parts mean without their places

The places that the parts of a pattern keep decide where a fault is shown, and nothing else.
Parts that are the same up to places become the same expression.

## Main statements

* `Tree.resolve_congr`: what parts become
-/
namespace PatternAssembly

/-! ## Results -/

/-- The same results, if there are any. -/
def SameResults {α : Type} (x y : Except Fault α) : Prop := ∀ a, x = .ok a ↔ y = .ok a

namespace SameResults

variable {α β : Type} {x y : Except Fault α}

theorem refl (x : Except Fault α) : SameResults x x := fun _ => Iff.rfl

theorem error (f g : Fault) : SameResults (α := α) (.error f) (.error g) := by
  simp [SameResults]

theorem bind {f g : α → Except Fault β} (h : SameResults x y)
    (hfg : ∀ a, SameResults (f a) (g a)) :
    SameResults (x >>= f) (y >>= g) := by
  intro b
  simp only [bind_eq_ok, h _, hfg _ b]

end SameResults

/-! ## Parts -/

variable (m : Modes)

theorem sameResults_negateIn (span span' : Span) (negated : Bool) (s : CharSet) :
    SameResults (negateIn m span negated s) (negateIn m span' negated s) := by
  rw [negateIn, negateIn]
  split_ifs
  · exact .refl _
  · exact .refl _
  · exact .error _ _

theorem sameResults_propertySet (span span' : Span) (query : Unicode.PropertyQuery)
    (negated : Bool) :
    SameResults (propertySet m span query negated) (propertySet m span' query negated) := by
  rw [propertySet, propertySet]
  split_ifs
  · exact .error _ _
  · split
    · exact sameResults_negateIn m _ _ _ _
    · exact .error _ _
    · exact .error _ _

theorem Literal.sameResults_resolve (l : Literal) :
    SameResults (l.bare.resolve m) (l.resolve m) := by
  have hbare : l.bare.resolve m = if !m.unicode && l.isByte && 0x80 ≤ l.char.toNat then
      .error { kind := .invalidUtf8, span := .nowhere } else .ok l.char := rfl
  rw [hbare, resolve]
  split_ifs
  · exact .error _ _
  · exact .refl _

theorem Literal.sameResults_resolveInClass (l : Literal) :
    SameResults (l.bare.resolveInClass m) (l.resolveInClass m) := by
  refine (l.sameResults_resolve m).bind fun c => ?_
  split_ifs
  · exact .error _ _
  · exact .refl _

mutual

/-- A class is the same set without its places. -/
theorem ClassTree.sameResults_toSet (t : ClassTree) :
    SameResults (t.bare.toSet m) (t.toSet m) := by
  match t with
  | .empty _ => exact .refl _
  | .literal l => exact (l.sameResults_resolveInClass m).bind fun _ => .refl _
  | .range _ lo hi =>
    exact (lo.sameResults_resolveInClass m).bind fun _ =>
      (hi.sameResults_resolveInClass m).bind fun _ => .refl _
  | .ascii _ _ _ => exact sameResults_negateIn m _ _ _ _
  | .shorthand _ _ _ => exact sameResults_negateIn m _ _ _ _
  | .property _ _ _ => exact sameResults_propertySet m _ _ _ _
  | .bracket _ _ set =>
    exact set.sameResults_toSet.bind fun _ => sameResults_negateIn m _ _ _ _
  | .union _ items => exact ClassTree.sameResults_toUnion items
  | .operation _ _ lhs rhs =>
    exact lhs.sameResults_toSet.bind fun _ => rhs.sameResults_toSet.bind fun _ => .refl _

theorem ClassTree.sameResults_toUnion (items : List ClassTree) :
    SameResults (ClassTree.toUnion m (ClassTree.bareAll items))
      (ClassTree.toUnion m items) := by
  match items with
  | [] => exact .refl _
  | item :: items =>
    exact item.sameResults_toSet.bind fun _ =>
      (ClassTree.sameResults_toUnion items).bind fun _ => .refl _

end

mutual

/-- A part becomes the same expression without its places. -/
theorem Tree.sameResults_resolve (m : Modes) (t : Tree) :
    SameResults (t.bare.resolve m) (t.resolve m) := by
  match t with
  | .empty _ | .modes _ _ | .assertion _ _ => exact .refl _
  | .literal l => exact (l.sameResults_resolve m).bind fun _ => .refl _
  | .dot _ =>
    rw [Tree.bare, Tree.resolve_dot, Tree.resolve_dot]
    split_ifs
    · exact .refl _
    · exact .error _ _
  | .shorthand _ _ _ => exact (sameResults_negateIn m _ _ _ _).bind fun _ => .refl _
  | .property _ _ _ => exact (sameResults_propertySet m _ _ _ _).bind fun _ => .refl _
  | .bracket _ _ set =>
    exact (set.sameResults_toSet m).bind fun _ =>
      (sameResults_negateIn m _ _ _ _).bind fun _ => .refl _
  | .repetition _ _ _ _ sub => exact (Tree.sameResults_resolve m sub).bind fun _ => .refl _
  | .group _ (.capture _) sub => exact (Tree.sameResults_resolve m sub).bind fun _ => .refl _
  | .group _ (.plain changes) sub =>
    exact (Tree.sameResults_resolve (m.apply changes) sub).bind fun _ => .refl _
  | .alternation _ branches =>
    exact (Tree.sameResults_resolveAll m branches).bind fun _ => .refl _
  | .sequence _ parts => exact (Tree.sameResults_resolveAll m parts).bind fun _ => .refl _

theorem Tree.sameResults_resolveAll (m : Modes) (ts : List Tree) :
    SameResults (Tree.resolveAll m (Tree.bareAll ts)) (Tree.resolveAll m ts) := by
  match ts with
  | [] => exact .refl _
  | t :: ts =>
    exact (Tree.sameResults_resolve m t).bind fun r =>
      (Tree.sameResults_resolveAll r.2 ts).bind fun _ => .refl _

end

variable {m}

/-- Parts that are the same up to places become the same expression. -/
theorem Tree.resolve_congr {t t' : Tree} (h : t'.bare = t.bare) :
    SameResults (t'.resolve m) (t.resolve m) := fun r =>
  (t'.sameResults_resolve m r).symm.trans (h ▸ t.sameResults_resolve m r)

end PatternAssembly
