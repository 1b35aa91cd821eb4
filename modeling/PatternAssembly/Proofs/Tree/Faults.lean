import PatternAssembly.Expr.OfTree

/-!
# Faults and modes

Some faults only show when the tree of a pattern becomes an expression, for which modes are in
force. But of the modes only one decides what is at fault: whether classes and boundaries
follow Unicode. The others change what a part matches, not whether it is refused. A pattern
may change modes on its way; two readings of it that agree on Unicode at the start agree at
every part.

## Main definitions

* `Alike`: two results are the same fault, or related

## Main statements

* `ClassTree.alike_toSet`: what stands between square brackets
* `Tree.alike_resolve`: every part of a pattern
* `Tree.alike_toExpr`: a whole pattern
-/
namespace PatternAssembly

/-! ## Results that are alike -/

variable {α β γ δ : Type}

/-- Both are the same fault, or both are results and these are related. -/
def Alike (R : α → β → Prop) : Except Fault α → Except Fault β → Prop
  | .ok a, .ok b => R a b
  | .error f, .error g => f = g
  | _, _ => False

namespace Alike

variable {R : α → β → Prop} {S : γ → δ → Prop} {x : Except Fault α} {y : Except Fault β}
  {f : α → Except Fault γ} {g : β → Except Fault δ}

/-- Equal results are alike. -/
theorem of_eq {x y : Except Fault α} (h : x = y) : Alike (· = ·) x y := by
  subst h
  cases x <;> rfl

/-- What goes on alike from related results is alike. -/
theorem bind (h : Alike R x y) (hfg : ∀ a b, R a b → Alike S (f a) (g b)) :
    Alike S (x >>= f) (y >>= g) := by
  cases x with
  | error fault =>
    cases y with
    | error fault' => exact h
    | ok b => exact h.elim
  | ok a =>
    cases y with
    | error fault => exact h.elim
    | ok b => exact hfg a b h

/-- One is a result if the other one is. -/
theorem exists_of_ok (h : Alike R x y) {a : α} (hx : x = .ok a) : ∃ b, y = .ok b ∧ R a b := by
  subst hx
  cases y with
  | error fault => exact h.elim
  | ok b => exact ⟨b, rfl, h⟩

/-- One is a fault if the other one is that fault. -/
theorem eq_error_iff (h : Alike R x y) (fault : Fault) :
    x = .error fault ↔ y = .error fault := by
  cases x with
  | error fault =>
    cases y with
    | error fault' =>
      obtain rfl : fault = fault' := h
      rw [Except.error.injEq, Except.error.injEq]
    | ok b => exact h.elim
  | ok a =>
    cases y with
    | error fault => exact h.elim
    | ok b => exact ⟨nofun, nofun⟩

end Alike

/-! ## Classes -/

variable {m m' : Modes}

/-- Both are the same fault, or both are a set. -/
abbrev AlikeSets : Except Fault CharSet → Except Fault CharSet → Prop := Alike fun _ _ => True

theorem alike_negateIn (hm : m.unicode = m'.unicode) (span : Span) (negated : Bool)
    (s s' : CharSet) :
    AlikeSets (negateIn m span negated s) (negateIn m' span negated s') := by
  rw [negateIn, negateIn, hm]
  cases negated
  · trivial
  · cases m'.unicode
    · rfl
    · trivial

theorem alike_propertySet (hm : m.unicode = m'.unicode) (span : Span)
    (query : Unicode.PropertyQuery) (negated : Bool) :
    AlikeSets (propertySet m span query negated) (propertySet m' span query negated) := by
  rw [propertySet, propertySet, hm]
  cases m'.unicode
  · rfl
  · cases query.find with
    | ok s => exact alike_negateIn hm _ _ _ _
    | error e => cases e <;> rfl

theorem Literal.alike_resolve (hm : m.unicode = m'.unicode) (l : Literal) :
    Alike (· = ·) (l.resolve m) (l.resolve m') := by
  refine .of_eq ?_
  rw [resolve, resolve, hm]

theorem Literal.alike_resolveInClass (hm : m.unicode = m'.unicode) (l : Literal) :
    Alike (· = ·) (l.resolveInClass m) (l.resolveInClass m') := by
  rw [resolveInClass, resolveInClass]
  refine (l.alike_resolve hm).bind ?_
  rintro c _ rfl
  rw [hm]
  exact .of_eq rfl

mutual

/-- What stands between square brackets is at fault, or a set, whatever else the modes say. -/
theorem ClassTree.alike_toSet (hm : m.unicode = m'.unicode) (t : ClassTree) :
    AlikeSets (t.toSet m) (t.toSet m') := by
  match t with
  | .empty _ => trivial
  | .literal l => exact (l.alike_resolveInClass hm).bind fun _ _ _ => trivial
  | .range _ lo hi =>
    exact (lo.alike_resolveInClass hm).bind fun _ _ _ =>
      (hi.alike_resolveInClass hm).bind fun _ _ _ => trivial
  | .ascii _ _ _ => exact alike_negateIn hm _ _ _ _
  | .shorthand _ _ _ => exact alike_negateIn hm _ _ _ _
  | .property _ _ _ => exact alike_propertySet hm _ _ _
  | .bracket _ _ set =>
    exact (ClassTree.alike_toSet hm set).bind fun _ _ _ => alike_negateIn hm _ _ _ _
  | .union _ items => exact ClassTree.alike_toUnion hm items
  | .operation _ _ lhs rhs =>
    exact (ClassTree.alike_toSet hm lhs).bind fun _ _ _ =>
      (ClassTree.alike_toSet hm rhs).bind fun _ _ _ => trivial

theorem ClassTree.alike_toUnion (hm : m.unicode = m'.unicode) (items : List ClassTree) :
    AlikeSets (ClassTree.toUnion m items) (ClassTree.toUnion m' items) := by
  match items with
  | [] => trivial
  | item :: items =>
    exact (ClassTree.alike_toSet hm item).bind fun _ _ _ =>
      (ClassTree.alike_toUnion hm items).bind fun _ _ _ => trivial

end

/-! ## Parts of a pattern -/

/-- A group of flags does to Unicode what it does, whatever else the modes say. -/
theorem Modes.unicode_apply_congr (hm : m.unicode = m'.unicode) (changes : ModeChanges) :
    (m.apply changes).unicode = (m'.apply changes).unicode := by
  induction changes generalizing m m' with
  | nil => exact hm
  | cons change changes ih =>
    refine ih ?_
    obtain ⟨mode, on⟩ := change
    cases mode <;> first | exact hm | rfl

/-- Both are the same fault, or both leave modes in force that agree on Unicode. -/
abbrev AlikeParts : Except Fault (α × Modes) → Except Fault (α × Modes) → Prop :=
  Alike fun r r' => r.2.unicode = r'.2.unicode

-- The modes vary along this recursion: a group has its own, and each part of a sequence
-- leaves its own to the next.
mutual

/-- A part of a pattern is at fault, or not, whatever else the modes say. -/
theorem Tree.alike_resolve {m m' : Modes} (hm : m.unicode = m'.unicode) (t : Tree) :
    AlikeParts (t.resolve m) (t.resolve m') := by
  match t with
  | .empty _ => exact hm
  | .modes _ changes => exact Modes.unicode_apply_congr hm changes
  | .literal l => exact (l.alike_resolve hm).bind fun _ _ _ => hm
  | .dot span =>
    rw [Tree.resolve_dot, Tree.resolve_dot, hm]
    cases m'.unicode
    · rfl
    · exact hm
  | .assertion _ _ => exact hm
  | .shorthand _ _ _ => exact (alike_negateIn hm _ _ _ _).bind fun _ _ _ => hm
  | .property _ _ _ => exact (alike_propertySet hm _ _ _).bind fun _ _ _ => hm
  | .bracket _ _ set =>
    exact (set.alike_toSet hm).bind fun _ _ _ =>
      (alike_negateIn hm _ _ _ _).bind fun _ _ _ => hm
  | .repetition _ _ _ _ sub => exact (Tree.alike_resolve hm sub).bind fun _ _ hafter => hafter
  | .group _ (.capture _) sub => exact (Tree.alike_resolve hm sub).bind fun _ _ _ => hm
  | .group _ (.plain changes) sub =>
    exact (Tree.alike_resolve (Modes.unicode_apply_congr hm changes) sub).bind fun _ _ _ => hm
  | .alternation _ branches =>
    exact (Tree.alike_resolveAll hm branches).bind fun _ _ hafter => hafter
  | .sequence _ parts => exact (Tree.alike_resolveAll hm parts).bind fun _ _ hafter => hafter

theorem Tree.alike_resolveAll {m m' : Modes} (hm : m.unicode = m'.unicode) (ts : List Tree) :
    AlikeParts (Tree.resolveAll m ts) (Tree.resolveAll m' ts) := by
  match ts with
  | [] => exact hm
  | t :: ts =>
    exact (Tree.alike_resolve hm t).bind fun _ _ hbetween =>
      (Tree.alike_resolveAll hbetween ts).bind fun _ _ hafter => hafter

end

/-- A pattern is at fault, or not, whatever else the modes say. -/
theorem Tree.alike_toExpr (hm : m.unicode = m'.unicode) (t : Tree) :
    Alike (fun _ _ => True) (t.toExpr m) (t.toExpr m') :=
  (t.alike_resolve hm).bind fun _ _ _ => trivial

end PatternAssembly
