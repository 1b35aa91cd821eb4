import PatternAssembly.Proofs.Tree.Reading

/-!
# The modes in force behind a pattern

Flags hold up to the end of the group that they stand in, and those outside of all groups up
to the end of the pattern. So a pattern leaves modes in force for what stands behind it.

## Main definitions

* `Tree.lasting`: the flags of a part that hold behind it
* `Modes.behind`: the modes in force behind a pattern

## Main statements

* `Tree.modes_of_resolve`: the modes that a part leaves in force
* `Tree.matches_ofParts_append`: more parts behind those of a pattern
-/
namespace PatternAssembly

/-! ## Flags that hold behind a part -/

mutual

/-- The flags of a part that hold behind it. Those of a group end with it. -/
def Tree.lasting : Tree → ModeChanges
  | .modes _ changes => changes
  | .repetition _ _ _ _ sub => sub.lasting
  | .alternation _ branches => Tree.lastingAll branches
  | .sequence _ parts => Tree.lastingAll parts
  | _ => []

/-- The flags of several parts that hold behind the last one. -/
def Tree.lastingAll : List Tree → ModeChanges
  | [] => []
  | t :: ts => t.lasting ++ Tree.lastingAll ts

end

theorem Modes.apply_append (m : Modes) (changes more : ModeChanges) :
    m.apply (changes ++ more) = (m.apply changes).apply more := List.foldl_append

mutual

/-- A part leaves the modes in force that its lasting flags make of those before it. -/
theorem Tree.modes_of_resolve {m : Modes} (t : Tree) {r : Expr × Modes}
    (h : t.resolve m = .ok r) :
    r.2 = m.apply t.lasting := by
  match t with
  | .empty _ | .modes _ _ | .assertion _ _ =>
    obtain rfl := Except.ok.inj h
    rfl
  | .dot _ =>
    rw [Tree.resolve_dot] at h
    split at h
    · obtain rfl := Except.ok.inj h
      rfl
    · cases h
  | .literal _ | .shorthand _ _ _ | .property _ _ _ | .group _ (.capture _) _
  | .group _ (.plain _) _ =>
    obtain ⟨_, _, h⟩ := bind_eq_ok.1 h
    obtain rfl := Except.ok.inj h
    rfl
  | .bracket _ _ _ =>
    obtain ⟨_, _, h⟩ := bind_eq_ok.1 h
    obtain ⟨_, _, h⟩ := bind_eq_ok.1 h
    obtain rfl := Except.ok.inj h
    rfl
  | .repetition _ _ _ _ sub =>
    obtain ⟨_, hsub, h⟩ := bind_eq_ok.1 h
    obtain rfl := Except.ok.inj h
    exact (Tree.modes_of_resolve sub hsub :)
  | .alternation _ ts | .sequence _ ts =>
    obtain ⟨_, hts, h⟩ := bind_eq_ok.1 h
    obtain rfl := Except.ok.inj h
    exact (Tree.modes_of_resolveAll ts hts :)

theorem Tree.modes_of_resolveAll {m : Modes} (ts : List Tree) {r : List Expr × Modes}
    (h : Tree.resolveAll m ts = .ok r) : r.2 = m.apply (Tree.lastingAll ts) := by
  match ts with
  | [] =>
    obtain rfl := Except.ok.inj h
    rfl
  | t :: ts =>
    obtain ⟨r, ht, h⟩ := bind_eq_ok.1 h
    obtain ⟨rest, hts, h⟩ := bind_eq_ok.1 h
    obtain rfl := Except.ok.inj h
    rw [Tree.lastingAll, Modes.apply_append, ← Tree.modes_of_resolve t ht]
    exact (Tree.modes_of_resolveAll ts hts :)

end

/-- The modes in force behind a pattern. -/
def Modes.behind (m : Modes) (p : List Char) : Modes :=
  match Tree.read p with
  | .ok reading => m.apply reading.tree.lasting
  | .error _ => m

/-! ## Parts one after another -/

namespace Tree

variable {m after : Modes} {s : Span} {ts us : List Tree}

theorem resolveAll_append : resolveAll m (ts ++ us) =
    resolveAll m ts >>= fun r => resolveAll r.2 us >>= fun rest =>
      pure (r.1 ++ rest.1, rest.2) := by
  induction ts generalizing m with
  | nil => exact (bind_pure _).symm
  | cons t ts ih =>
    simp only [List.cons_append, resolveAll_cons, ih, bind_assoc, pure_bind]

/-- Parts put together leave the modes in force that the parts leave, and match what the parts
match one after another. -/
theorem exists_resolveAll_of_ofParts {e : Expr}
    (h : (ofParts s ts).resolve m = .ok (e, after)) :
    ∃ es, resolveAll m ts = .ok (es, after) ∧
      ∀ text i j, e.Matches text i j ↔ Expr.MatchesAll text es i j := by
  match ts, h with
  | [], h =>
    obtain ⟨rfl, rfl⟩ := Prod.mk.inj (Except.ok.inj h)
    exact ⟨[], rfl, fun _ _ _ => Iff.rfl⟩
  | [t], h => exact ⟨[e], bind_eq_ok.2 ⟨_, h, rfl⟩, fun _ _ _ => by simp⟩
  | t :: u :: us, h =>
    obtain ⟨⟨es, _⟩, hes, h⟩ := bind_eq_ok.1 h
    obtain ⟨rfl, rfl⟩ := Prod.mk.inj (Except.ok.inj h)
    exact ⟨es, hes, fun _ _ _ => Expr.matches_ofSeq es⟩

/-- Where the parts of a pattern stand between parts with a meaning, what the pattern matches
stands between what is meant. -/
theorem matches_ofParts_between {fs : List Tree} {span : Span} {e e' : Expr} {mid : Modes}
    {F S : Meaning} (hfront : InARow m fs F)
    (hpattern : (ofParts s ts).resolve m = .ok (e, mid)) (hbehind : InARow mid us S)
    (hwhole : (ofParts span (fs ++ (ts ++ us))).resolve m = .ok (e', after))
    (text : Array Char) (i j : Nat) :
    e'.Matches text i j ↔ ∃ k, F text i k ∧ ∃ l, e.Matches text k l ∧ S text l j := by
  obtain ⟨Fs, hfs, rfl⟩ := hfront
  obtain ⟨Ss, hus, rfl⟩ := hbehind
  obtain ⟨es, hes, hmatches⟩ := exists_resolveAll_of_ofParts hpattern
  obtain ⟨before, hbefore, hFs⟩ := resolveAll_of_means hfs
  obtain ⟨behind, hbehind, hSs⟩ := resolveAll_of_means hus
  obtain ⟨all, hall, hmatches'⟩ := exists_resolveAll_of_ofParts hwhole
  have happend : resolveAll m (ts ++ us) = .ok (es ++ behind, mid) := by
    rw [resolveAll_append]
    exact bind_eq_ok.2 ⟨_, hes, bind_eq_ok.2 ⟨_, hbehind, rfl⟩⟩
  have hbetween : resolveAll m (fs ++ (ts ++ us)) = .ok (before ++ (es ++ behind), mid) := by
    rw [resolveAll_append]
    exact bind_eq_ok.2 ⟨_, hbefore, bind_eq_ok.2 ⟨_, happend, rfl⟩⟩
  obtain ⟨rfl, -⟩ := Prod.mk.inj (Except.ok.inj (hall.symm.trans hbetween))
  simp only [hmatches', Expr.matchesAll_append, hmatches, Expr.matchesAll_iff_inARow hFs,
    Expr.matchesAll_iff_inARow hSs]

/-- Where the parts of a pattern are followed by parts with a meaning, what the pattern
matches is followed by what is meant. -/
theorem matches_ofParts_append {span : Span} {e e' : Expr} {mid : Modes} {S : Meaning}
    (hpattern : (ofParts s ts).resolve m = .ok (e, mid)) (hmeans : InARow mid us S)
    (hwhole : (ofParts span (ts ++ us)).resolve m = .ok (e', after)) (text : Array Char)
    (i j : Nat) :
    e'.Matches text i j ↔ ∃ k, e.Matches text i k ∧ S text k j := by
  rw [matches_ofParts_between inARow_nil hpattern hmeans hwhole]
  exact exists_eq_left'

end Tree

end PatternAssembly
