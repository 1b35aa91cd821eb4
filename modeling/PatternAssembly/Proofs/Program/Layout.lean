import PatternAssembly.Proofs.Expr.Matches
import Mathlib.Tactic.Ring

/-!
# The code of an expression

The code of an expression leads through from its first address to the address after its last
one, from one place of a text to another, just when the expression matches between the two
places. What comes after the code is arbitrary, so that the parts of an expression compose.

## Main definitions

* `Program.LaidAt`: some code stands at an address of a program
* `Program.Arrives`: acceptance is so many instructions away

## Main statements

* `leadsThrough_code`: the code of an expression does what the expression says
* `accepts_ofExpr_iff`: the program of an expression accepts just where the expression matches
-/
namespace PatternAssembly

namespace Expr

/-- The last of some copies stands after the others. -/
theorem copies_succ (n length start : Nat) (code : Nat → List Instr) :
    copies (n + 1) length start code =
      copies n length start code ++ code (start + n * length) := by
  simp [copies, List.range_succ]

/-- The first of some copies stands before the others. -/
theorem copies_succ_left (n length start : Nat) (code : Nat → List Instr) :
    copies (n + 1) length start code =
      code start ++ copies n length (start + length) code := by
  simp only [copies, List.range_succ_eq_map, List.flatMap_cons, List.flatMap_map,
    Nat.zero_mul, Nat.add_zero]
  congr 2
  funext k
  rw [show start + (k + 1) * length = start + length + k * length by ring]

end Expr

namespace Program

variable {program : Program} {text : Array Char}

/-- The code stands in the program from an address on. -/
def LaidAt (program : Program) (start : Nat) (code : List Instr) : Prop :=
  ∀ k, k < code.length → program[start + k]? = code[k]?

theorem LaidAt.left {start : Nat} {code rest : List Instr}
    (h : LaidAt program start (code ++ rest)) : LaidAt program start code := by
  intro k hk
  rw [h k (by rw [List.length_append]; omega), List.getElem?_append_left hk]

theorem LaidAt.right {start : Nat} {code rest : List Instr}
    (h : LaidAt program start (code ++ rest)) :
    LaidAt program (start + code.length) rest := by
  intro k hk
  rw [Nat.add_assoc, h _ (by rw [List.length_append]; omega),
    List.getElem?_append_right (Nat.le_add_right _ _), Nat.add_sub_cancel_left]

theorem LaidAt.head {start : Nat} {instr : Instr} {code : List Instr}
    (h : LaidAt program start (instr :: code)) : program[start]? = some instr := by
  simpa using h 0 (by simp)

theorem LaidAt.tail {start : Nat} {instr : Instr} {code : List Instr}
    (h : LaidAt program start (instr :: code)) : LaidAt program (start + 1) code := by
  rw [← List.singleton_append] at h
  exact h.right

/-- From a spot, so many instructions lead to acceptance at a place. -/
def Arrives (program : Program) (text : Array Char) (n : Nat) (x : Spot) (j : Nat) : Prop :=
  ∃ a, Path program text n x (a, j) ∧ program[a]? = some .accept

variable {n a i j : Nat}

theorem arrives_accept (h : program[a]? = some .accept) :
    Arrives program text n (a, i) j ↔ n = 0 ∧ i = j := by
  constructor
  · rintro ⟨b, path, -⟩
    cases path with
    | nil => exact ⟨rfl, rfl⟩
    | cons first rest => cases first <;> simp_all
  · rintro ⟨rfl, rfl⟩
    exact ⟨a, .nil _, h⟩

/-- Where the instruction is none of acceptance, one instruction leads nearer to it. -/
theorem arrives_iff {instr : Instr} (h : program[a]? = some instr) (hne : instr ≠ .accept) :
    Arrives program text n (a, i) j ↔
      ∃ m y, n = m + 1 ∧ Leads program text (a, i) y ∧ Arrives program text m y j := by
  constructor
  · rintro ⟨b, path, accept⟩
    cases path with
    | nil => exact absurd (Option.some.inj (h.symm.trans accept)) hne
    | cons first rest => exact ⟨_, _, rfl, first, b, rest, accept⟩
  · rintro ⟨m, y, rfl, first, b, rest, accept⟩
    exact ⟨b, .cons first rest, accept⟩

theorem arrives_take {s : CharSet} (h : program[a]? = some (.take s)) :
    Arrives program text n (a, i) j ↔
      ∃ m c, n = m + 1 ∧ text[i]? = some c ∧ s.has c = true ∧
        Arrives program text m (a + 1, i + 1) j := by
  rw [arrives_iff h (by simp)]
  constructor
  · rintro ⟨m, y, rfl, first, rest⟩
    cases first <;> simp_all
  · rintro ⟨m, c, rfl, char, has, rest⟩
    exact ⟨m, _, rfl, .take h char has, rest⟩

theorem arrives_look {l : Look} (h : program[a]? = some (.look l)) :
    Arrives program text n (a, i) j ↔
      ∃ m, n = m + 1 ∧ l.holds text i = true ∧ Arrives program text m (a + 1, i) j := by
  rw [arrives_iff h (by simp)]
  constructor
  · rintro ⟨m, y, rfl, first, rest⟩
    cases first <;> simp_all
  · rintro ⟨m, rfl, holds, rest⟩
    exact ⟨m, _, rfl, .look h holds, rest⟩

theorem arrives_save {slot : Nat} (h : program[a]? = some (.save slot)) :
    Arrives program text n (a, i) j ↔
      ∃ m, n = m + 1 ∧ Arrives program text m (a + 1, i) j := by
  rw [arrives_iff h (by simp)]
  constructor
  · rintro ⟨m, y, rfl, first, rest⟩
    cases first <;> simp_all
  · rintro ⟨m, rfl, rest⟩
    exact ⟨m, _, rfl, .save h, rest⟩

theorem arrives_jump {b : Nat} (h : program[a]? = some (.jump b)) :
    Arrives program text n (a, i) j ↔ ∃ m, n = m + 1 ∧ Arrives program text m (b, i) j := by
  rw [arrives_iff h (by simp)]
  constructor
  · rintro ⟨m, y, rfl, first, rest⟩
    cases first <;> simp_all
  · rintro ⟨m, rfl, rest⟩
    exact ⟨m, _, rfl, .jump h, rest⟩

theorem arrives_fork {b c : Nat} (h : program[a]? = some (.fork b c)) :
    Arrives program text n (a, i) j ↔
      ∃ m, n = m + 1 ∧
        (Arrives program text m (b, i) j ∨ Arrives program text m (c, i) j) := by
  rw [arrives_iff h (by simp)]
  constructor
  · rintro ⟨m, y, rfl, first, rest⟩
    cases first <;> simp_all
  · rintro ⟨m, rfl, rest | rest⟩
    · exact ⟨m, _, rfl, .first h, rest⟩
    · exact ⟨m, _, rfl, .second h, rest⟩

/-- Which of two ways is preferred makes no difference to where they lead. -/
theorem arrives_choose {greedy : Bool} {b c : Nat}
    (h : program[a]? = some (.choose greedy b c)) :
    Arrives program text n (a, i) j ↔
      ∃ m, n = m + 1 ∧
        (Arrives program text m (b, i) j ∨ Arrives program text m (c, i) j) := by
  cases greedy with
  | true => exact arrives_fork h
  | false =>
    rw [arrives_fork h]
    simp only [or_comm]

/-! ## Code that leads through -/

/-- The code at an address leads through to another address as a relation between places says:
what arrives from the first passes the other one, and what arrives from there can be reached.
-/
structure LeadsThrough (program : Program) (text : Array Char) (start stop : Nat)
    (R : Nat → Nat → Prop) : Prop where
  sound : ∀ {n i j}, Arrives program text n (start, i) j →
    ∃ m k, m ≤ n ∧ R i k ∧ Arrives program text m (stop, k) j
  complete : ∀ {i k m j}, R i k → Arrives program text m (stop, k) j →
    ∃ n, Arrives program text n (start, i) j

namespace LeadsThrough

variable {start middle stop : Nat} {R S : Nat → Nat → Prop}

theorem refl (start : Nat) : LeadsThrough program text start start (· = ·) where
  sound h := ⟨_, _, Nat.le_refl _, rfl, h⟩
  complete := by rintro i _ m j rfl h; exact ⟨m, h⟩

theorem trans (h : LeadsThrough program text start middle R)
    (h' : LeadsThrough program text middle stop S) :
    LeadsThrough program text start stop fun i j => ∃ k, R i k ∧ S k j where
  sound arrives := by
    obtain ⟨m, k, hm, hR, arrives⟩ := h.sound arrives
    obtain ⟨l, k', hl, hS, arrives⟩ := h'.sound arrives
    exact ⟨l, k', hl.trans hm, ⟨k, hR, hS⟩, arrives⟩
  complete := by
    rintro i k m j ⟨k', hR, hS⟩ arrives
    obtain ⟨n, arrives⟩ := h'.complete hS arrives
    exact h.complete hR arrives

theorem congr (h : LeadsThrough program text start stop R) (hRS : ∀ i j, R i j ↔ S i j) :
    LeadsThrough program text start stop S where
  sound arrives := by
    obtain ⟨m, k, hm, hR, arrives⟩ := h.sound arrives
    exact ⟨m, k, hm, (hRS _ _).1 hR, arrives⟩
  complete hS arrives := h.complete ((hRS _ _).2 hS) arrives

theorem take {s : CharSet} (h : program[start]? = some (.take s)) :
    LeadsThrough program text start (start + 1)
      fun i j => ∃ c, text[i]? = some c ∧ s.has c = true ∧ j = i + 1 where
  sound arrives := by
    obtain ⟨m, c, rfl, char, has, rest⟩ := (arrives_take h).1 arrives
    exact ⟨m, _, Nat.le_succ m, ⟨c, char, has, rfl⟩, rest⟩
  complete := by
    rintro i _ m j ⟨c, char, has, rfl⟩ arrives
    exact ⟨m + 1, (arrives_take h).2 ⟨m, c, rfl, char, has, arrives⟩⟩

theorem look {l : Look} (h : program[start]? = some (.look l)) :
    LeadsThrough program text start (start + 1) fun i j => l.holds text i = true ∧ i = j where
  sound arrives := by
    obtain ⟨m, rfl, holds, rest⟩ := (arrives_look h).1 arrives
    exact ⟨m, _, Nat.le_succ m, ⟨holds, rfl⟩, rest⟩
  complete := by
    rintro i _ m j ⟨holds, rfl⟩ arrives
    exact ⟨m + 1, (arrives_look h).2 ⟨m, rfl, holds, arrives⟩⟩

theorem save {slot : Nat} (h : program[start]? = some (.save slot)) :
    LeadsThrough program text start (start + 1) (· = ·) where
  sound arrives := by
    obtain ⟨m, rfl, rest⟩ := (arrives_save h).1 arrives
    exact ⟨m, _, Nat.le_succ m, rfl, rest⟩
  complete := by
    rintro i _ m j rfl arrives
    exact ⟨m + 1, (arrives_save h).2 ⟨m, rfl, arrives⟩⟩

theorem jump {b : Nat} (h : program[start]? = some (.jump b)) :
    LeadsThrough program text start b (· = ·) where
  sound arrives := by
    obtain ⟨m, rfl, rest⟩ := (arrives_jump h).1 arrives
    exact ⟨m, _, Nat.le_succ m, rfl, rest⟩
  complete := by
    rintro i _ m j rfl arrives
    exact ⟨m + 1, (arrives_jump h).2 ⟨m, rfl, arrives⟩⟩

/-- Two ways to the same address. -/
theorem choose {greedy : Bool} {b c : Nat} (h : program[start]? = some (.choose greedy b c))
    (hb : LeadsThrough program text b stop R) (hc : LeadsThrough program text c stop S) :
    LeadsThrough program text start stop fun i j => R i j ∨ S i j where
  sound arrives := by
    obtain ⟨m, rfl, arrives | arrives⟩ := (arrives_choose h).1 arrives
    · obtain ⟨l, k, hl, hR, arrives⟩ := hb.sound arrives
      exact ⟨l, k, by omega, .inl hR, arrives⟩
    · obtain ⟨l, k, hl, hS, arrives⟩ := hc.sound arrives
      exact ⟨l, k, by omega, .inr hS, arrives⟩
  complete := by
    rintro i k m j (hR | hS) arrives
    · obtain ⟨n, arrives⟩ := hb.complete hR arrives
      exact ⟨n + 1, (arrives_choose h).2 ⟨n, rfl, .inl arrives⟩⟩
    · obtain ⟨n, arrives⟩ := hc.complete hS arrives
      exact ⟨n + 1, (arrives_choose h).2 ⟨n, rfl, .inr arrives⟩⟩

/-- A choice at the end of a round between another round and going on. -/
theorem loop {greedy : Bool} {last : Nat} (hround : LeadsThrough program text start last R)
    (h : program[last]? = some (.choose greedy start stop)) :
    LeadsThrough program text last stop fun i j => ∃ n, rounds R n i j where
  sound {n} := by
    -- Every round takes an instruction at least, the one of the choice.
    induction n using Nat.strongRecOn with
    | _ n ih =>
      intro i j arrives
      obtain ⟨m, rfl, arrives | arrives⟩ := (arrives_choose h).1 arrives
      · obtain ⟨l, k, hl, hR, arrives⟩ := hround.sound arrives
        obtain ⟨l', k', hl', ⟨r, hr⟩, arrives⟩ := ih l (by omega) arrives
        exact ⟨l', k', by omega, ⟨r + 1, k, hR, hr⟩, arrives⟩
      · exact ⟨m, i, Nat.le_succ m, ⟨0, rfl⟩, arrives⟩
  complete := by
    rintro i k m j ⟨r, hr⟩ arrives
    induction r generalizing i with
    | zero =>
      obtain rfl : i = k := hr
      exact ⟨m + 1, (arrives_choose h).2 ⟨m, rfl, .inr arrives⟩⟩
    | succ r ih =>
      obtain ⟨k', hR, hr⟩ := hr
      obtain ⟨n, arrives⟩ := ih hr
      obtain ⟨n', arrives⟩ := hround.complete hR arrives
      exact ⟨n' + 1, (arrives_choose h).2 ⟨n', rfl, .inl arrives⟩⟩

/-- Copies of some code, one after another. -/
theorem copies {length : Nat} {code : Nat → List Instr}
    (hlength : ∀ here, (code here).length = length)
    (hcode : ∀ here, LaidAt program here (code here) →
      LeadsThrough program text here (here + length) R) {n : Nat}
    (h : LaidAt program start (Expr.copies n length start code)) :
    LeadsThrough program text start (start + n * length) (rounds R n) := by
  induction n with
  | zero =>
    rw [Nat.zero_mul, Nat.add_zero]
    exact refl start
  | succ n ih =>
    rw [Expr.copies_succ] at h
    have hlast := h.right
    rw [Expr.length_copies hlength] at hlast
    rw [Nat.succ_mul, ← Nat.add_assoc]
    apply ((ih h.left).trans (hcode _ hlast)).congr
    intro i j
    simp [rounds_add]

/-- Optional copies of some code: in front of each, a choice between it and going on at the
end. -/
theorem options {length : Nat} {greedy : Bool} {code : Nat → List Instr}
    (hlength : ∀ here, (code here).length = length)
    (hcode : ∀ here, LaidAt program here (code here) →
      LeadsThrough program text here (here + length) R) {n : Nat}
    (hstop : stop = start + n * (length + 1))
    (h : LaidAt program start (Expr.copies n (length + 1) start fun here =>
      .choose greedy (here + 1) stop :: code (here + 1))) :
    LeadsThrough program text start stop fun i j => ∃ r, r ≤ n ∧ rounds R r i j := by
  induction n generalizing start with
  | zero =>
    rw [Nat.zero_mul, Nat.add_zero] at hstop
    subst hstop
    refine (refl stop).congr fun i j => ⟨fun h => ⟨0, Nat.le_refl 0, h⟩, ?_⟩
    rintro ⟨r, hr, h⟩
    obtain rfl := Nat.le_zero.1 hr
    exact h
  | succ n ih =>
    rw [Expr.copies_succ_left] at h
    have hrest := h.right
    rw [List.length_cons, hlength,
      show start + (length + 1) = start + 1 + length by omega] at hrest
    -- Behind the first copy the others are laid out as if there were no first one.
    have hagain := (hcode _ h.left.tail).trans
      (ih (by rw [hstop, Nat.succ_mul]; omega) hrest)
    apply (choose h.left.head hagain (refl stop)).congr
    intro i j
    constructor
    · rintro (⟨k, hR, r, hr, hrounds⟩ | rfl)
      · exact ⟨r + 1, by omega, k, hR, hrounds⟩
      · exact ⟨0, by omega, rfl⟩
    · rintro ⟨_ | r, hr, hrounds⟩
      · exact .inr hrounds
      · obtain ⟨k, hR, hrounds⟩ := hrounds
        exact .inl ⟨k, hR, r, by omega, hrounds⟩

end LeadsThrough

/-- Characters one after another. -/
theorem leadsThrough_text (cs : List Char) {start : Nat}
    (h : LaidAt program start (cs.map fun c => Instr.take (.single c))) :
    LeadsThrough program text start (start + cs.length) (spells text cs) := by
  induction cs generalizing start with
  | nil => exact .refl start
  | cons c cs ih =>
    rw [List.length_cons, Nat.add_comm cs.length, ← Nat.add_assoc]
    apply ((LeadsThrough.take h.head).trans (ih h.tail)).congr
    intro i j
    constructor
    · rintro ⟨k, ⟨d, hd, has, rfl⟩, hspells⟩
      obtain rfl : d = c := by simpa using has
      exact ⟨hd, hspells⟩
    · rintro ⟨hc, hspells⟩
      exact ⟨i + 1, ⟨c, hc, by simp, rfl⟩, hspells⟩

section Repetition

variable {e : Expr} {start : Nat} {greedy : Bool} {R : Nat → Nat → Prop}

/-- A repetition that may be left out, and without an upper bound. -/
theorem leadsThrough_any
    (he : ∀ here, LaidAt program here (e.code here) →
      LeadsThrough program text here (here + e.size) R)
    (h : LaidAt program start ((Expr.times 0 none greedy e).code start)) :
    LeadsThrough program text start (start + (e.size + 2)) fun i j =>
      ∃ n, rounds R n i j := by
  have henter : program[start]? = some (.choose greedy (start + 1) (start + e.size + 2)) :=
    h.head
  have hround := he _ h.left.tail
  have hlast := h.right.head
  rw [List.length_cons, Expr.length_code] at hlast
  rw [← Nat.add_assoc]
  -- Each round of an expression that may take nothing ends with a choice of its own.
  by_cases hadvances : e.advances = true
  · rw [if_pos hadvances, ← Nat.add_assoc, Nat.add_right_comm] at hlast
    exact .loop ((hround.trans (.jump hlast)).congr fun i j => by simp) henter
  · rw [if_neg hadvances, ← Nat.add_assoc, Nat.add_right_comm] at hlast
    refine (LeadsThrough.choose henter (hround.trans (.loop hround hlast)) (.refl _)).congr
      fun i j => ?_
    constructor
    · rintro (⟨k, hR, n, hn⟩ | rfl)
      · exact ⟨n + 1, k, hR, hn⟩
      · exact ⟨0, rfl⟩
    · rintro ⟨_ | n, hn⟩
      · exact .inr hn
      · obtain ⟨k, hR, hn⟩ := hn
        exact .inl ⟨k, hR, n, hn⟩

/-- A repetition at least once, without an upper bound. -/
theorem leadsThrough_atLeast {n : Nat}
    (he : ∀ here, LaidAt program here (e.code here) →
      LeadsThrough program text here (here + e.size) R)
    (h : LaidAt program start ((Expr.times (n + 1) none greedy e).code start)) :
    LeadsThrough program text start (start + (n * e.size + (e.size + 1)))
      fun i j => ∃ r, n + 1 ≤ r ∧ rounds R r i j := by
  have hrest := h.right
  rw [Expr.length_copies e.length_code] at hrest
  have hround := he _ hrest.left
  have hlast := hrest.right.head
  rw [Expr.length_code] at hlast
  rw [← Nat.add_assoc, ← Nat.add_assoc]
  refine ((LeadsThrough.copies e.length_code he h.left).trans
    (hround.trans (.loop hround hlast))).congr fun i j => ?_
  constructor
  · rintro ⟨k, hn, l, hR, r, hr⟩
    exact ⟨n + (r + 1), by omega, rounds_add.2 ⟨k, hn, l, hR, hr⟩⟩
  · rintro ⟨r, hr, hrounds⟩
    obtain ⟨d, rfl⟩ : ∃ d, r = n + (d + 1) := ⟨r - n - 1, by omega⟩
    obtain ⟨k, hn, l, hR, hr⟩ := rounds_add.1 hrounds
    exact ⟨k, hn, l, hR, d, hr⟩

/-- A repetition with an upper bound. -/
theorem leadsThrough_bounded {lo hi : Nat}
    (he : ∀ here, LaidAt program here (e.code here) →
      LeadsThrough program text here (here + e.size) R)
    (h : LaidAt program start ((Expr.times lo (some hi) greedy e).code start)) :
    LeadsThrough program text start (start + (lo * e.size + (hi - lo) * (e.size + 1)))
      fun i j => ∃ r, lo ≤ r ∧ r ≤ max lo hi ∧ rounds R r i j := by
  rw [Expr.code] at h
  have hrest := h.right
  rw [Expr.length_copies e.length_code] at hrest
  rw [← Nat.add_assoc]
  refine ((LeadsThrough.copies e.length_code he h.left).trans
    (.options e.length_code he rfl hrest)).congr fun i j => ?_
  constructor
  · rintro ⟨k, hlo, r, hr, hrounds⟩
    exact ⟨lo + r, by omega, by omega, rounds_add.2 ⟨k, hlo, hrounds⟩⟩
  · rintro ⟨r, h1, h2, hrounds⟩
    obtain ⟨d, rfl⟩ := Nat.exists_eq_add_of_le h1
    obtain ⟨k, hlo, hd⟩ := rounds_add.1 hrounds
    exact ⟨k, hlo, d, by omega, hd⟩

end Repetition

/-- The code of an expression does what the expression says. -/
theorem leadsThrough_code (text : Array Char) (e : Expr) {start : Nat}
    (h : LaidAt program start (e.code start)) :
    LeadsThrough program text start (start + e.size) (e.Matches text) := by
  induction e generalizing start with
  | empty => exact .refl start
  | text cs => exact leadsThrough_text cs h
  | take s => exact .take h.head
  | look l => exact .look h.head
  | seq a b iha ihb =>
    have hb := h.right
    rw [Expr.length_code] at hb
    rw [Expr.size, ← Nat.add_assoc]
    exact (iha h.left).trans (ihb hb)
  | alt a b iha ihb =>
    have hfork : program[start]? = some (.choose true (start + 1) (start + a.size + 2)) :=
      h.head
    have hrest := h.right
    rw [List.length_cons, Expr.length_code] at hrest
    have hjump := hrest.head
    have hb := hrest.tail
    rw [show start + (a.size + 1) = start + 1 + a.size by omega] at hjump hb
    have ha := ((iha h.left.tail).trans (.jump hjump)).congr (S := a.Matches text)
      fun i j => by simp
    rw [show start + 1 + a.size + 1 = start + a.size + 2 by omega] at hb
    rw [Expr.size, show start + (a.size + b.size + 2) = start + a.size + 2 + b.size by omega]
    exact .choose hfork ha (ihb hb)
  | times lo hi greedy e ih =>
    cases hi with
    | none =>
      cases lo with
      | zero =>
        exact (leadsThrough_any (fun _ => ih) h).congr fun i j => by simp [Expr.Matches]
      | succ n =>
        exact (leadsThrough_atLeast (fun _ => ih) h).congr fun i j => by simp [Expr.Matches]
    | some hi =>
      rw [Expr.size]
      exact (leadsThrough_bounded (fun _ => ih) h).congr fun i j => by simp [Expr.Matches]
  | group index e ih =>
    have hlast := h.right.head
    rw [List.length_cons, Expr.length_code, Nat.add_comm e.size, ← Nat.add_assoc] at hlast
    rw [Expr.size, show start + (e.size + 2) = start + 1 + e.size + 1 by omega]
    refine ((LeadsThrough.save h.head).trans ((ih h.left.tail).trans (.save hlast))).congr
      fun i j => ?_
    simp [Expr.Matches]

end Program

theorem laidAt_ofExpr (e : Expr) : (Program.ofExpr e).LaidAt 0 (e.code 0) := by
  intro k hk
  rw [Nat.zero_add, Program.ofExpr, List.getElem?_toArray, List.getElem?_append_left hk]

/-- **The program of an expression accepts just where the expression matches.** -/
theorem accepts_ofExpr_iff {e : Expr} {text : Array Char} {i j : Nat} :
    (Program.ofExpr e).Accepts text i j ↔ e.Matches text i j := by
  have hcode := Program.leadsThrough_code text e (laidAt_ofExpr e)
  rw [Nat.zero_add] at hcode
  have haccept : (Program.ofExpr e)[e.size]? = some .accept := by
    rw [Program.ofExpr, List.getElem?_toArray, ← Expr.length_code e 0]
    simp
  constructor
  · rintro ⟨n, a, path, h⟩
    obtain ⟨m, k, -, hmatches, harrives⟩ := hcode.sound ⟨a, path, h⟩
    obtain ⟨-, rfl⟩ := (Program.arrives_accept haccept).1 harrives
    exact hmatches
  · intro h
    obtain ⟨n, a, path, haccept⟩ :=
      hcode.complete h ((Program.arrives_accept haccept).2 ⟨rfl, rfl⟩)
    exact ⟨n, a, path, haccept⟩

end PatternAssembly
