import PatternAssembly.Expr.OfTree
import PatternAssembly.Tree.Reader

/-!
# Reading does not judge depth

A pattern may be refused at any of its signs, and for many reasons, but none of them is that
it nests too deep: reading follows a pattern to any depth, and so does the way from its tree
to an expression. Where that reason is given, the depth of a tree was measured.

## Main definitions

* `NotForDepth`: a result, or a fault that is not about depth

## Main statements

* `NotForDepth.bind`: one step after another
* `Tree.notForDepth_read`: reading a pattern
* `Tree.notForDepth_resolve`: the expression of its tree
-/
namespace PatternAssembly

/-- The reason is that the pattern nests too deep. -/
def FaultKind.isDepth : FaultKind → Bool
  | nestLimitExceeded _ => true
  | _ => false

variable {α β : Type}

/-- A result, or a fault that is not about depth. -/
def NotForDepth (x : Except Fault α) : Prop := ∀ f, x = .error f → f.kind.isDepth = false

namespace NotForDepth

theorem ok (a : α) : NotForDepth (.ok a) := nofun

theorem error {f : Fault} (h : f.kind.isDepth = false) :
    NotForDepth (.error f : Except Fault α) := by
  rintro _ ⟨⟩
  exact h

theorem refuse {kind : FaultKind} (h : kind.isDepth = false) (span : Span) :
    NotForDepth (refuse kind span : Except Fault α) := error h

theorem bind {x : Except Fault α} {f : α → Except Fault β} (h : NotForDepth x)
    (hf : ∀ a, NotForDepth (f a)) : NotForDepth (x >>= f) := by
  cases x with
  | error fault => exact error (h fault rfl)
  | ok a => exact hf a

theorem ite {p : Prop} [Decidable p] {x y : Except Fault α} (hx : NotForDepth x)
    (hy : NotForDepth y) :
    NotForDepth (if p then x else y) := by
  split
  · exact hx
  · exact hy

end NotForDepth

variable {free : Bool} {c : Cursor}

/-! ## Signs -/

theorem notForDepth_hexDigits (free : Bool) (count : Nat) (c : Cursor) :
    NotForDepth (readHexDigits free count c) := by
  fun_induction readHexDigits free count c with
  | case1 c => exact .ok _
  | case2 count c hrest => exact .refuse rfl _
  | case3 count c ch rest hrest hdigit ih => exact ih.bind fun _ => .ok _
  | case4 count c ch rest hrest hdigit => exact .refuse rfl _

theorem notForDepth_hex {start : Nat} {letter : Char} :
    NotForDepth (readHex free start letter c) := by
  simp only [readHex]
  split
  · exact .refuse rfl _
  · split
    · exact .refuse rfl _
    · split
      · exact .refuse rfl _
      · split
        · exact .refuse rfl _
        · exact .ok _
    · exact .refuse rfl _
  · refine (notForDepth_hexDigits _ _ _).bind fun digits => ?_
    split
    · exact .refuse rfl _
    · exact .ok _

theorem notForDepth_property {start : Nat} {negated : Bool} :
    NotForDepth (readProperty free start negated c) := by
  simp only [readProperty]
  split
  · exact .refuse rfl _
  · split
    · exact .refuse rfl _
    · exact .ok _
  · exact .refuse rfl _
  · exact .ok _

theorem notForDepth_boundary {start : Nat} : NotForDepth (readBoundary free start c) := by
  simp only [readBoundary]
  split
  · split
    · exact .refuse rfl _
    · split
      · split
        · split
          · exact .ok _
          · exact .refuse rfl _
        · exact .refuse rfl _
      · exact .ok _
  · exact .ok _

theorem notForDepth_escape : NotForDepth (readEscape free c) := by
  unfold readEscape
  dsimp only
  generalize c.next = c₁
  cases c₁.rest with
  | nil => exact .refuse rfl _
  | cons ch rest =>
    refine .ite (.refuse rfl _)
      (.ite ?_ (.ite notForDepth_property (.ite ?_ (.ite (.ok _) ?_))))
    · exact notForDepth_hex.bind fun _ => .ok _
    · exact notForDepth_boundary.bind fun _ => .ok _
    · cases controlEscape ch with
      | some control => exact .ok _
      | none =>
        cases shorthandEscape ch with
        | some shorthand => exact .ok _
        | none =>
          cases placeEscape ch with
          | some kind => exact .ok _
          | none => exact .refuse rfl _

theorem notForDepth_atom : NotForDepth (Atom.read free c) := by
  rw [Atom.read]
  split
  · exact .refuse rfl _
  · exact notForDepth_escape
  all_goals exact .ok _

/-! ## Counts -/

theorem notForDepth_decimal : NotForDepth (Count.readDecimal free c).1 := by
  simp only [Count.readDecimal]
  split
  · exact .refuse rfl _
  · split
    · exact .ok _
    · exact .refuse rfl _

theorem notForDepth_bounds {start : Nat} : NotForDepth (Count.readBounds free start c) := by
  simp only [Count.readBounds]
  split
  · exact .refuse rfl _
  · split
    · exact .refuse rfl _
    · split
      · exact .refuse rfl _
      · exact notForDepth_decimal.bind fun _ => .ok _
      · exact notForDepth_decimal.bind fun _ => notForDepth_decimal.bind fun _ => .ok _
    · exact notForDepth_decimal.bind fun _ => .ok _

theorem notForDepth_braces : NotForDepth (Count.readBraces free c) := by
  refine notForDepth_bounds.bind fun ⟨⟨lo, hi⟩, c⟩ => ?_
  dsimp only
  split
  · split
    · exact .refuse rfl _
    · exact .ok _
  · exact .refuse rfl _

/-! ## Square brackets -/

theorem notForDepth_hyphens (free : Bool) (start bound : Nat) (s : OpenSet) (c : Cursor) :
    NotForDepth (readHyphens free start bound s c) := by
  fun_induction readHyphens free start bound s c with
  | case1 s c => exact .ok _
  | case2 => exact .refuse rfl _
  | case3 _ _ _ _ _ _ _ ih => exact ih
  | case4 => exact .ok _

theorem notForDepth_openBracket : NotForDepth (openBracket free c) := by
  rw [openBracket]
  generalize c.advance free = c₁
  by_cases hnil : c₁.rest.isEmpty = true
  · simp only [hnil, if_true]
    exact .refuse rfl _
  · simp only [hnil]
    -- Negated or not, what comes next is read in the same way.
    generalize (if (c₁.rest.head? == some '^') = true then c₁.advance free else c₁) = c₂
    by_cases hnil₂ : c₂.rest.isEmpty = true
    · simp only [hnil₂, if_true]
      exact .refuse rfl _
    · simp only [hnil₂]
      refine (notForDepth_hyphens _ _ _ _ _).bind fun opened => ?_
      split
      · split
        · exact .refuse rfl _
        · exact .ok _
      · exact .ok _

theorem notForDepth_classAtom : NotForDepth (readClassAtom free c) := by
  rw [readClassAtom]
  split
  · exact notForDepth_escape
  · exact .ok _
  · exact .refuse rfl _

theorem notForDepth_toItem (a : Atom) : NotForDepth a.toItem := by
  cases a with
  | literal | shorthand | property => exact .ok _
  | assertion | dot => exact .refuse rfl _

theorem notForDepth_toBoundary (a : Atom) : NotForDepth a.toBoundary := by
  cases a with
  | literal => exact .ok _
  | assertion | dot | shorthand | property => exact .refuse rfl _

theorem notForDepth_item {opened : Span} : NotForDepth (readItem free opened c) := by
  refine notForDepth_classAtom.bind fun first => ?_
  dsimp only
  split
  · exact .refuse rfl _
  · split
    · exact (notForDepth_toItem _).bind fun _ => .ok _
    · split
      · exact .refuse rfl _
      · refine notForDepth_classAtom.bind fun second =>
          (notForDepth_toBoundary _).bind fun lo =>
          (notForDepth_toBoundary _).bind fun hi => ?_
        split
        · exact .refuse rfl _
        · exact .ok _

theorem notForDepth_set (free : Bool) (opened : Span) (bound : Nat) (s : OpenSet)
    (c : Cursor) :
    NotForDepth (readSet free opened bound s c) := by
  induction bound generalizing opened s c with
  | zero => exact .refuse rfl _
  | succ bound ih =>
    simp only [readSet]
    split
    · exact .refuse rfl _
    · exact .ok _
    · split
      · exact ih _ _ _
      · exact notForDepth_openBracket.bind fun _ => (ih _ _ _).bind fun _ => ih _ _ _
    · exact ih _ _ _
    · exact ih _ _ _
    · exact ih _ _ _
    · exact notForDepth_item.bind fun _ => ih _ _ _

theorem notForDepth_bracket : NotForDepth (readBracket free c) :=
  notForDepth_openBracket.bind fun _ => (notForDepth_set _ _ _ _ _).bind fun _ => .ok _

/-! ## Groups -/

theorem notForDepth_flags (seen : List (Option Mode × Span)) (pos : Nat) (cs : List Char) :
    NotForDepth (readFlags seen pos cs) := by
  induction cs generalizing seen pos with
  | nil => exact .refuse rfl _
  | cons ch cs ih =>
    simp only [readFlags]
    split
    · split
      · exact .refuse rfl _
      · exact .ok _
    · split
      · split
        · exact .error rfl
        · exact ih _ _
      · split
        · exact .refuse rfl _
        · split
          · exact .error rfl
          · exact (ih _ _).bind fun _ => .ok _

theorem notForDepth_name : NotForDepth (readName c) := by
  rw [readName]
  split
  · exact .refuse rfl _
  · dsimp only
    split
    · exact .refuse rfl _
    · split
      · exact .refuse rfl _
      · split
        · exact .refuse rfl _
        · exact .ok _

theorem notForDepth_opening : NotForDepth (GroupOpening.read free c) := by
  simp only [GroupOpening.read]
  split
  · exact .refuse rfl _
  · split
    · exact notForDepth_name.bind fun _ => .ok _
    · split
      · split
        · exact .refuse rfl _
        · refine (notForDepth_flags _ _ _).bind fun flags => ?_
          split
          · split
            · exact .refuse rfl _
            · exact .ok _
          · exact .ok _
      · exact .ok _

/-! ## Patterns -/

namespace Reader

variable {r : Reader}

theorem notForDepth_openGroup : NotForDepth r.openGroup := by
  refine notForDepth_opening.bind fun ⟨opening, c⟩ => ?_
  cases opening with
  | modes | plain | numbered => exact .ok _
  | named span name =>
    dsimp only
    split
    · exact .error rfl
    · exact .ok _

theorem notForDepth_closeGroup : NotForDepth r.closeGroup := by
  rw [closeGroup]
  split
  · exact .refuse rfl _
  · exact .ok _

theorem notForDepth_takeLast : NotForDepth r.takeLast := by
  rw [takeLast]
  split
  · exact .refuse rfl _
  · exact .refuse rfl _
  · exact .refuse rfl _
  · exact .ok _

theorem notForDepth_step : NotForDepth r.step := by
  rw [step]
  split
  · exact .ok _
  · exact notForDepth_openGroup
  · exact notForDepth_closeGroup
  · exact .ok _
  · exact notForDepth_bracket.bind fun _ => .ok _
  · exact notForDepth_takeLast.bind fun _ => notForDepth_braces.bind fun _ => .ok _
  · split
    · exact notForDepth_takeLast.bind fun _ => .ok _
    · exact notForDepth_atom.bind fun _ => .ok _

theorem notForDepth_run (bound : Nat) (r : Reader) : NotForDepth (r.run bound) := by
  induction bound generalizing r with
  | zero => exact .ok _
  | succ bound ih =>
    rw [run]
    dsimp only
    split
    · exact .ok _
    · exact notForDepth_step.bind fun _ => ih _

theorem notForDepth_finish : NotForDepth r.finish := by
  rw [finish]
  split
  · exact .refuse rfl _
  · exact .ok _

end Reader

/-- Reading a pattern is never refused for its depth. -/
theorem Tree.notForDepth_read (pattern : List Char) : NotForDepth (Tree.read pattern) :=
  (Reader.notForDepth_run _ _).bind fun _ => Reader.notForDepth_finish

/-! ## Expressions -/

variable {m : Modes}

theorem notForDepth_negateIn {span : Span} {negated : Bool} {s : CharSet} :
    NotForDepth (negateIn m span negated s) := by
  rw [negateIn]
  exact .ite (.ok _) (.ite (.ok _) (.error rfl))

theorem notForDepth_propertySet {span : Span} {query : Unicode.PropertyQuery}
    {negated : Bool} :
    NotForDepth (propertySet m span query negated) := by
  rw [propertySet]
  split
  · exact .error rfl
  · split
    · exact notForDepth_negateIn
    · exact .error rfl
    · exact .error rfl

theorem Literal.notForDepth_resolve (l : Literal) : NotForDepth (l.resolve m) := by
  rw [resolve]
  exact .ite (.error rfl) (.ok _)

theorem Literal.notForDepth_resolveInClass (l : Literal) :
    NotForDepth (l.resolveInClass m) := by
  refine l.notForDepth_resolve.bind fun c => ?_
  exact .ite (.error rfl) (.ok _)

mutual

theorem ClassTree.notForDepth_toSet (t : ClassTree) : NotForDepth (t.toSet m) := by
  match t with
  | .empty _ => exact .ok _
  | .literal l => exact l.notForDepth_resolveInClass.bind fun _ => .ok _
  | .range _ lo hi =>
    exact lo.notForDepth_resolveInClass.bind fun _ =>
      hi.notForDepth_resolveInClass.bind fun _ => .ok _
  | .ascii _ _ _ => exact notForDepth_negateIn
  | .shorthand _ _ _ => exact notForDepth_negateIn
  | .property _ _ _ => exact notForDepth_propertySet
  | .bracket _ _ set =>
    exact (ClassTree.notForDepth_toSet set).bind fun _ => notForDepth_negateIn
  | .union _ items => exact ClassTree.notForDepth_toUnion items
  | .operation _ _ lhs rhs =>
    exact (ClassTree.notForDepth_toSet lhs).bind fun _ =>
      (ClassTree.notForDepth_toSet rhs).bind fun _ => .ok _

theorem ClassTree.notForDepth_toUnion (items : List ClassTree) :
    NotForDepth (ClassTree.toUnion m items) := by
  match items with
  | [] => exact .ok _
  | item :: items =>
    exact (ClassTree.notForDepth_toSet item).bind fun _ =>
      (ClassTree.notForDepth_toUnion items).bind fun _ => .ok _

end

-- The modes vary along this recursion, as they do in the one that it is about.
mutual

/-- The way from a tree to its expression is never refused for the depth of the tree. -/
theorem Tree.notForDepth_resolve (m : Modes) (t : Tree) : NotForDepth (t.resolve m) := by
  match t with
  | .empty _ | .modes _ _ | .assertion _ _ => exact .ok _
  | .literal l => exact l.notForDepth_resolve.bind fun _ => .ok _
  | .dot _ =>
    rw [Tree.resolve_dot]
    exact .ite (.ok _) (.error rfl)
  | .shorthand _ _ _ => exact notForDepth_negateIn.bind fun _ => .ok _
  | .property _ _ _ => exact notForDepth_propertySet.bind fun _ => .ok _
  | .bracket _ _ set =>
    exact set.notForDepth_toSet.bind fun _ => notForDepth_negateIn.bind fun _ => .ok _
  | .repetition _ _ _ _ sub => exact (Tree.notForDepth_resolve m sub).bind fun _ => .ok _
  | .group _ (.capture _) sub => exact (Tree.notForDepth_resolve m sub).bind fun _ => .ok _
  | .group _ (.plain changes) sub =>
    exact (Tree.notForDepth_resolve (m.apply changes) sub).bind fun _ => .ok _
  | .alternation _ branches =>
    exact (Tree.notForDepth_resolveAll m branches).bind fun _ => .ok _
  | .sequence _ parts => exact (Tree.notForDepth_resolveAll m parts).bind fun _ => .ok _

theorem Tree.notForDepth_resolveAll (m : Modes) (ts : List Tree) :
    NotForDepth (Tree.resolveAll m ts) := by
  match ts with
  | [] => exact .ok _
  | t :: ts =>
    exact (Tree.notForDepth_resolve m t).bind fun r =>
      (Tree.notForDepth_resolveAll r.2 ts).bind fun _ => .ok _

end

end PatternAssembly
