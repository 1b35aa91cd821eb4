import PatternAssembly.Expr
import PatternAssembly.Proofs.Program.Ordered

/-!
# What expressions match

An expression relates the places of a text between which it matches. Which of several ways to
match is preferred plays no part here.

## Main definitions

* `spells`, `rounds`: characters one after another, and a relation several times in a row
* `Expr.Matches`: the places between which an expression matches
-/
namespace PatternAssembly

variable {text : Array Char}

/-- The characters stand one after another from the first place up to the second. -/
def spells (text : Array Char) : List Char → Nat → Nat → Prop
  | [], i, j => i = j
  | c :: cs, i, j => text[i]? = some c ∧ spells text cs (i + 1) j

/-- A relation several times in a row. -/
def rounds (R : Nat → Nat → Prop) : Nat → Nat → Nat → Prop
  | 0, i, j => i = j
  | n + 1, i, j => ∃ k, R i k ∧ rounds R n k j

@[simp] theorem spells_nil {i j : Nat} : spells text [] i j ↔ i = j := Iff.rfl

@[simp] theorem spells_cons {c : Char} {cs : List Char} {i j : Nat} :
    spells text (c :: cs) i j ↔ text[i]? = some c ∧ spells text cs (i + 1) j := Iff.rfl

theorem spells_append {cs ds : List Char} {i j : Nat} :
    spells text (cs ++ ds) i j ↔ ∃ k, spells text cs i k ∧ spells text ds k j := by
  induction cs generalizing i with
  | nil => simp
  | cons c cs ih => simp [ih, and_assoc]

theorem slice_self (text : Array Char) (i : Nat) : slice text i i = [] := by simp [slice]

theorem slice_eq_cons {i j : Nat} (hij : i < j) (hj : j ≤ text.size) :
    slice text i j = text[i] :: slice text (i + 1) j := by
  have hone : slice text i (i + 1) = [text[i]] := by
    have hi : i < text.toList.length := by simpa using Nat.lt_of_lt_of_le hij hj
    rw [slice, Array.toList_extract, List.extract_eq_take_drop, Nat.add_sub_cancel_left,
      List.drop_eq_getElem_cons hi]
    rfl
  rw [← slice_append (Nat.le_succ i) hij, hone]
  rfl

theorem spells_slice {i j : Nat} (hij : i ≤ j) (hj : j ≤ text.size) :
    spells text (slice text i j) i j := by
  obtain ⟨d, rfl⟩ := Nat.exists_eq_add_of_le hij
  induction d generalizing i with
  | zero => exact (slice_self text i).symm ▸ rfl
  | succ d ih =>
    rw [slice_eq_cons (by omega) hj, spells_cons]
    refine ⟨Array.getElem?_eq_getElem (by omega), ?_⟩
    have := ih (i := i + 1) (by omega) (by omega)
    rwa [show i + 1 + d = i + (d + 1) by omega] at this

theorem slice_of_spells {cs : List Char} {i j : Nat} (hi : i ≤ text.size)
    (h : spells text cs i j) : i ≤ j ∧ j ≤ text.size ∧ slice text i j = cs := by
  induction cs generalizing i with
  | nil =>
    obtain rfl : i = j := h
    exact ⟨Nat.le_refl i, hi, slice_self text i⟩
  | cons c cs ih =>
    obtain ⟨hc, h⟩ := h
    obtain ⟨hlt, hc⟩ := Array.getElem?_eq_some_iff.1 hc
    obtain ⟨h1, h2, h3⟩ := ih hlt h
    exact ⟨by omega, h2, by rw [slice_eq_cons h1 h2, hc, h3]⟩

/-- Inside a text, spelling is a matter of the stretch between two places. -/
theorem spells_iff_slice {cs : List Char} {i j : Nat} (hi : i ≤ text.size) :
    spells text cs i j ↔ i ≤ j ∧ j ≤ text.size ∧ slice text i j = cs := by
  refine ⟨slice_of_spells hi, ?_⟩
  rintro ⟨hij, hj, rfl⟩
  exact spells_slice hij hj

theorem rounds_add {R : Nat → Nat → Prop} {m n i j : Nat} :
    rounds R (m + n) i j ↔ ∃ k, rounds R m i k ∧ rounds R n k j := by
  induction m generalizing i with
  | zero => simp [rounds]
  | succ m ih =>
    rw [Nat.succ_add]
    simp only [rounds, ih]
    constructor
    · rintro ⟨k, h1, l, h2, h3⟩
      exact ⟨l, ⟨k, h1, h2⟩, h3⟩
    · rintro ⟨l, ⟨k, h1, h2⟩, h3⟩
      exact ⟨k, h1, l, h2, h3⟩

@[simp] theorem rounds_one {R : Nat → Nat → Prop} {i j : Nat} : rounds R 1 i j ↔ R i j := by
  simp [rounds]

namespace Expr

/-- The expression matches from the first place up to the second. -/
def Matches (text : Array Char) : Expr → Nat → Nat → Prop
  | empty, i, j => i = j
  | .text cs, i, j => spells text cs i j
  | take s, i, j => ∃ c, text[i]? = some c ∧ s.has c = true ∧ j = i + 1
  | look l, i, j => l.holds text i = true ∧ i = j
  | seq a b, i, j => ∃ k, a.Matches text i k ∧ b.Matches text k j
  | alt a b, i, j => a.Matches text i j ∨ b.Matches text i j
  | times lo hi _ e, i, j =>
    ∃ n, lo ≤ n ∧ (∀ h ∈ hi, n ≤ max lo h) ∧ rounds (e.Matches text) n i j
  | group _ e, i, j => e.Matches text i j

end Expr

end PatternAssembly
