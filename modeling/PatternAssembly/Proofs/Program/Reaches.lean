import PatternAssembly.Program.Search
import Mathlib.Data.Finset.Card
import Mathlib.Data.Finset.Prod

/-!
# Searches are exhaustive

A program and a text span a graph: its vertices are the spots, pairs of an address and a
place, and an instruction leads from a spot to the spots where a run goes on. A search that
finds nothing has marked all that can be reached from where it started, and has met no
acceptance there. So a later search need not look at what is marked, and the match that is
found is one that starts first.

## Main definitions

* `Spot`, with `Program.Leads` and `Program.Path`: the graph and its paths
* `Program.Accepts`: a program accepts from one place to another
* `Seen.Closed`: what holds of the marks between two steps of a search

## Main statements

* `explore_spec`: what a search from a list of threads yields
* `findFrom_some`, `findFrom_none`: the match found is a first one, and none is overlooked
-/
namespace PatternAssembly

/-- An address and a place. -/
abbrev Spot := Nat × Nat

/-- Where a thread stands, apart from what it remembers. -/
def Thread.spot (t : Thread) : Spot := (t.address, t.place)

namespace Program

variable {program : Program} {text : Array Char}

/-- The instruction at the first spot leads to the second. -/
inductive Leads (program : Program) (text : Array Char) : Spot → Spot → Prop where
  | take {a i : Nat} {s : CharSet} {c : Char} (at_ : program[a]? = some (.take s))
      (char : text[i]? = some c) (has : s.has c = true) :
      Leads program text (a, i) (a + 1, i + 1)
  | look {a i : Nat} {l : Look} (at_ : program[a]? = some (.look l))
      (holds : l.holds text i = true) : Leads program text (a, i) (a + 1, i)
  | save {a i slot : Nat} (at_ : program[a]? = some (.save slot)) :
      Leads program text (a, i) (a + 1, i)
  | first {a i b c : Nat} (at_ : program[a]? = some (.fork b c)) :
    Leads program text (a, i) (b, i)
  | second {a i b c : Nat} (at_ : program[a]? = some (.fork b c)) :
    Leads program text (a, i) (c, i)
  | jump {a i b : Nat} (at_ : program[a]? = some (.jump b)) : Leads program text (a, i) (b, i)

/-- So many instructions lead from one spot to another. -/
inductive Path (program : Program) (text : Array Char) : Nat → Spot → Spot → Prop where
  | nil (x : Spot) : Path program text 0 x x
  | cons {n : Nat} {x y z : Spot} (first : Leads program text x y)
      (rest : Path program text n y z) : Path program text (n + 1) x z

/-- A run that starts at place `i` can arrive at acceptance at place `j`. -/
def Accepts (program : Program) (text : Array Char) (i j : Nat) : Prop :=
  ∃ n a, Path program text n (0, i) (a, j) ∧ program[a]? = some .accept

theorem Leads.place_le {x y : Spot} (h : Leads program text x y) (hx : x.2 ≤ text.size) :
    x.2 ≤ y.2 ∧ y.2 ≤ text.size := by
  cases h with
  | take _ char _ =>
    have := (Array.getElem?_eq_some_iff.1 char).1
    exact ⟨Nat.le_succ _, this⟩
  | look | save | first | second | jump => exact ⟨Nat.le_refl _, hx⟩

theorem Path.place_le {n : Nat} {x y : Spot} (h : Path program text n x y)
    (hx : x.2 ≤ text.size) : x.2 ≤ y.2 ∧ y.2 ≤ text.size := by
  induction h with
  | nil => exact ⟨Nat.le_refl _, hx⟩
  | cons first _ ih =>
    obtain ⟨h1, h2⟩ := first.place_le hx
    exact ⟨Nat.le_trans h1 (ih h2).1, (ih h2).2⟩

/-- Runs only go forwards, and stay in the text. -/
theorem Accepts.place_le {i j : Nat} (h : Accepts program text i j) (hi : i ≤ text.size) :
    i ≤ j ∧ j ≤ text.size := by
  obtain ⟨n, a, path, -⟩ := h
  exact path.place_le hi

/-- A thread goes on exactly where its instruction leads. -/
theorem leads_iff {t : Thread} {y : Spot} :
    Leads program text t.spot y ↔
      ∃ instr, program[t.address]? = some instr ∧
        ∃ u ∈ t.successors text instr, u.spot = y := by
  constructor
  · obtain ⟨a, i, saved⟩ := t
    intro h
    cases h with
    | take at_ char has => exact ⟨_, at_, by simp [Thread.successors, char, has, Thread.spot]⟩
    | look at_ holds => exact ⟨_, at_, by simp [Thread.successors, holds, Thread.spot]⟩
    | save at_ | first at_ | second at_ | jump at_ =>
      exact ⟨_, at_, by simp [Thread.successors, Thread.spot]⟩
  · rintro ⟨instr, at_, u, hu, rfl⟩
    cases instr with
    | take s =>
      simp only [Thread.successors] at hu
      split at hu
      · rename_i c char
        split at hu
        · rename_i has
          obtain rfl := List.mem_singleton.1 hu
          exact .take at_ char has
        · simp at hu
      · simp at hu
    | look l =>
      simp only [Thread.successors] at hu
      split at hu
      · rename_i holds
        obtain rfl := List.mem_singleton.1 hu
        exact .look at_ holds
      · simp at hu
    | save slot =>
      obtain rfl := List.mem_singleton.1 hu
      exact .save at_
    | fork first second =>
      simp only [Thread.successors, List.mem_cons, List.not_mem_nil, or_false] at hu
      obtain rfl | rfl := hu
      · exact .first at_
      · exact .second at_
    | jump target =>
      obtain rfl := List.mem_singleton.1 hu
      exact .jump at_
    | accept => simp [Thread.successors] at hu

/-- No instruction leads to more than two spots. -/
theorem length_successors_le (text : Array Char) (t : Thread) (instr : Instr) :
    (t.successors text instr).length ≤ 2 := by
  cases instr with
  | take s =>
    simp only [Thread.successors]
    split
    · split <;> simp
    · simp
  | look l => simp only [Thread.successors]; split <;> simp
  | save | fork | jump | accept => simp [Thread.successors]

end Program

/-! ## Marks -/

namespace Seen

variable {seen : Seen}

@[simp] theorem has_none (text : Array Char) (a i : Nat) :
    (Seen.none text).has a i = false := by
  by_cases hi : i < text.size + 1 <;> simp [Seen.none, has, Array.getD, hi]

@[simp] theorem size_none (text : Array Char) : (Seen.none text).size = text.size + 1 := by
  simp [Seen.none]

@[simp] theorem size_mark (a i : Nat) : (seen.mark a i).size = seen.size := by simp [mark]

theorem has_mark {a i : Nat} (hi : i < seen.size) (b j : Nat) :
    (seen.mark a i).has b j = (seen.has b j || (decide (b = a) && decide (j = i))) := by
  by_cases hj : j < seen.size
  · by_cases hij : i = j
    · subst hij
      simp [mark, has, Array.getD, hi, Array.getElem_modify, Nat.testBit_shiftLeft,
        Nat.testBit_or]
      by_cases hb : b = a
      · simp [hb]
      · simp only [hb, decide_false, Bool.or_false, Bool.or_eq_left_iff_imp,
          Bool.and_eq_true, decide_eq_true_eq, Nat.testBit_one_eq_true_iff_self_eq_zero]
        omega
    · simp [mark, has, Array.getD, hj, Array.getElem_modify, hij, Ne.symm hij]
  · have hij : j ≠ i := by omega
    simp [mark, has, Array.getD, hj, hij]

/-- Between two steps of a search: no marked spot is one of acceptance, and where a marked
spot leads is marked or stands in line. -/
structure Closed (program : Program) (text : Array Char) (seen : Seen) (line : List Thread) :
    Prop where
  size_eq : seen.size = text.size + 1
  places : ∀ t ∈ line, t.place ≤ text.size
  not_accept : ∀ a i, seen.has a i = true → program[a]? ≠ some .accept
  leads : ∀ a i, seen.has a i = true → ∀ y, program.Leads text (a, i) y →
    seen.has y.1 y.2 = true ∨ ∃ t ∈ line, t.spot = y

/-- How many spots are not marked. -/
def unmarked (program : Program) (text : Array Char) (seen : Seen) : Nat :=
  ((Finset.range program.size ×ˢ Finset.range (text.size + 1)).filter
    fun x => seen.has x.1 x.2 = false).card

variable {program : Program} {text : Array Char} {line : List Thread} {t : Thread}

theorem unmarked_le (program : Program) (text : Array Char) (seen : Seen) :
    unmarked program text seen ≤ program.size * (text.size + 1) :=
  (Finset.card_filter_le _ _).trans (by simp)

/-- One more mark is one spot less. -/
theorem unmarked_mark (program : Program) {a i : Nat} (hsize : seen.size = text.size + 1)
    (ha : a < program.size) (hi : i ≤ text.size) (hnew : seen.has a i = false) :
    unmarked program text (seen.mark a i) < unmarked program text seen := by
  refine Finset.card_lt_card (Finset.ssubset_iff_of_subset ?_ |>.2 ⟨(a, i), ?_, ?_⟩)
  · intro x hx
    simp only [Finset.mem_filter, has_mark (show i < seen.size by omega),
      Bool.or_eq_false_iff] at hx ⊢
    exact ⟨hx.1, hx.2.1⟩
  · simpa [ha, hnew] using Nat.lt_succ_of_le hi
  · simp [has_mark (show i < seen.size by omega)]

theorem unmarked_mark_le (program : Program) (text : Array Char) (a : Nat) {i : Nat}
    (hi : i < seen.size) :
    unmarked program text (seen.mark a i) ≤ unmarked program text seen := by
  apply Finset.card_le_card
  intro x hx
  simp only [Finset.mem_filter, has_mark hi, Bool.or_eq_false_iff] at hx ⊢
  exact ⟨hx.1, hx.2.1⟩

/-- A thread at a marked spot need not be followed. -/
theorem Closed.drop (h : Closed program text seen (t :: line))
    (ht : seen.has t.address t.place = true) : Closed program text seen line where
  size_eq := h.size_eq
  places u hu := h.places u (by simp [hu])
  not_accept := h.not_accept
  leads a i hai y hy := by
    rcases h.leads a i hai y hy with hy | ⟨u, hu, rfl⟩
    · exact .inl hy
    · rcases List.mem_cons.1 hu with rfl | hu
      · exact .inl ht
      · exact .inr ⟨u, hu, rfl⟩

/-- A thread is followed: its spot is marked, and where it leads stands in line. -/
theorem Closed.follow (h : Closed program text seen (t :: line)) {us : List Thread}
    (hplaces : ∀ u ∈ us, u.place ≤ text.size) (haccept : program[t.address]? ≠ some .accept)
    (hus : ∀ y, program.Leads text t.spot y → ∃ u ∈ us, u.spot = y) :
    Closed program text (seen.mark t.address t.place) (us ++ line) := by
  have hmark := has_mark (a := t.address) (i := t.place)
    (by rw [h.size_eq]; exact Nat.lt_succ_of_le (h.places t (by simp)))
  refine ⟨by rw [size_mark, h.size_eq], ?_, ?_, ?_⟩
  · intro u hu
    rcases List.mem_append.1 hu with hu | hu
    · exact hplaces u hu
    · exact h.places u (by simp [hu])
  · intro a i hai
    rw [hmark, Bool.or_eq_true, Bool.and_eq_true, decide_eq_true_eq, decide_eq_true_eq] at hai
    rcases hai with hai | ⟨rfl, -⟩
    · exact h.not_accept a i hai
    · exact haccept
  · intro a i hai y hy
    rw [hmark, Bool.or_eq_true, Bool.and_eq_true, decide_eq_true_eq, decide_eq_true_eq] at hai
    rcases hai with hai | ⟨rfl, rfl⟩
    · rcases h.leads a i hai y hy with hy | ⟨u, hu, rfl⟩
      · exact .inl (by simp [hmark, hy])
      · rcases List.mem_cons.1 hu with rfl | hu
        · exact .inl (by simp [hmark, Thread.spot])
        · exact .inr ⟨u, by simp [hu], rfl⟩
    · obtain ⟨u, hu, rfl⟩ := hus y hy
      exact .inr ⟨u, by simp [hu], rfl⟩

/-- When the line is empty, no path leads from a marked spot to acceptance. -/
theorem Closed.not_accept_of_path (h : Closed program text seen []) {n : Nat} {x y : Spot}
    (path : program.Path text n x y) (hx : seen.has x.1 x.2 = true) :
    program[y.1]? ≠ some .accept := by
  induction path with
  | nil x => exact h.not_accept x.1 x.2 hx
  | cons first _ ih =>
    rcases h.leads _ _ hx _ first with hy | ⟨t, ht, -⟩
    · exact ih hy
    · simp at ht

end Seen

/-! ## Searches -/

variable {program : Program} {text : Array Char}

/-- What a search from a line of threads yields: a thread at acceptance to which one in line
leads, or marks that show that there is no such thread. -/
inductive Searched (program : Program) (text : Array Char) (seen : Seen)
    (line : List Thread) : Option Thread × Seen → Prop where
  | found {t u : Thread} {n : Nat} {seen' : Seen}
    (accept : program[t.address]? = some .accept) (mem : u ∈ line)
    (path : program.Path text n u.spot t.spot) :
      Searched program text seen line (some t, seen')
  | exhausted {seen' : Seen} (closed : seen'.Closed program text [])
      (mono : ∀ a i, seen.has a i = true → seen'.has a i = true)
      (marked : ∀ u ∈ line, seen'.has u.address u.place = true) :
      Searched program text seen line (none, seen')

namespace Searched

variable {seen : Seen} {t : Thread} {line : List Thread} {r : Option Thread × Seen}

theorem drop (h : Searched program text seen line r)
    (ht : seen.has t.address t.place = true) :
    Searched program text seen (t :: line) r := by
  cases h with
  | found accept mem path => exact .found accept (List.mem_cons_of_mem t mem) path
  | exhausted closed mono marked =>
    apply Searched.exhausted closed mono
    intro u hu
    rcases List.mem_cons.1 hu with rfl | hu
    · exact mono _ _ ht
    · exact marked u hu

theorem follow {us : List Thread}
    (h : Searched program text (seen.mark t.address t.place) (us ++ line) r)
    (ht : t.place < seen.size) (hus : ∀ u ∈ us, program.Leads text t.spot u.spot) :
    Searched program text seen (t :: line) r := by
  cases h with
  | found accept mem path =>
    rcases List.mem_append.1 mem with hu | hu
    · exact .found accept List.mem_cons_self (.cons (hus _ hu) path)
    · exact .found accept (List.mem_cons_of_mem t hu) path
  | exhausted closed mono marked =>
    refine .exhausted closed (fun a i hai => mono a i ?_) fun u hu => ?_
    · rw [Seen.has_mark ht, hai, Bool.true_or]
    · rcases List.mem_cons.1 hu with rfl | hu
      · exact mono _ _ (by simp [Seen.has_mark ht])
      · exact marked u (List.mem_append_right us hu)

end Searched

/-- A search with enough steps overlooks nothing. -/
theorem explore_spec {bound : Nat} {seen : Seen} {line : List Thread}
    (h : seen.Closed program text line)
    (hbound : 2 * seen.unmarked program text + line.length ≤ bound) :
    Searched program text seen line (explore program text bound seen line) := by
  -- Each step drops a thread, or marks its spot and puts at most two in its place: the bound,
  -- which counts free spots twice, covers both.
  induction bound generalizing seen line with
  | zero =>
    obtain rfl : line = [] := List.length_eq_zero_iff.1 (by omega)
    exact .exhausted h (fun _ _ hai => hai) (by simp)
  | succ bound ih =>
    cases line with
    | nil => exact .exhausted h (fun _ _ hai => hai) (by simp)
    | cons t line =>
      rw [List.length_cons] at hbound
      have ht : t.place ≤ text.size := h.places t (by simp)
      have hi : t.place < seen.size := by rw [h.size_eq]; omega
      rw [explore]
      by_cases hseen : seen.has t.address t.place = true
      · rw [if_pos hseen]
        exact (ih (h.drop hseen) (by omega)).drop hseen
      · rw [if_neg hseen]
        cases hat : program[t.address]? with
        | none =>
          have hnone (y : Spot) : ¬ program.Leads text t.spot y := by
            rw [Program.leads_iff]; simp [hat]
          have hroom := Seen.unmarked_mark_le program text t.address hi
          have hclosed := h.follow (List.forall_mem_nil _) (by simp [hat])
            (fun y hy => absurd hy (hnone y))
          exact (ih hclosed (by simp only [List.nil_append]; omega)).follow hi (by simp)
        | some instr =>
          have hsize : t.address < program.size := (Array.getElem?_eq_some_iff.1 hat).1
          have hroom := Seen.unmarked_mark program h.size_eq hsize ht
            (by simpa using hseen)
          have hlength := Program.length_successors_le text t instr
          have hleads {y : Spot} :
              program.Leads text t.spot y ↔ ∃ u ∈ t.successors text instr, u.spot = y := by
            rw [Program.leads_iff]; simp [hat]
          have hplaces (u : Thread) (hu : u ∈ t.successors text instr) :
              u.place ≤ text.size :=
            ((hleads.2 ⟨u, hu, rfl⟩).place_le ht).2
          by_cases haccept : instr = .accept
          · subst haccept
            exact .found hat (by simp) (.nil _)
          · have hclosed := h.follow hplaces (by simpa [hat] using haccept)
              (fun y hy => hleads.1 hy)
            have := ih hclosed (by rw [List.length_append]; omega)
            cases instr with
            | accept => exact absurd rfl haccept
            | take | look | save | fork | jump =>
              exact this.follow hi fun u hu => hleads.2 ⟨u, hu, rfl⟩

theorem Seen.closed_none : (Seen.none text).Closed program text [] where
  size_eq := by simp
  places := by simp
  not_accept := by simp
  leads := by simp

/-- A search from one place yields a match there, or marks that show that there is none. -/
theorem explore_from {seen : Seen} (h : seen.Closed program text []) {i : Nat}
    (hi : i ≤ text.size) :
    Searched program text seen [{ address := 0, place := i }]
      (explore program text (exploreBound program text) seen
        [{ address := 0, place := i }]) := by
  refine explore_spec ⟨h.size_eq, by simpa using hi, h.not_accept, fun a i hai y hy => ?_⟩ ?_
  · rcases h.leads a i hai y hy with hy | ⟨t, ht, -⟩
    · exact .inl hy
    · simp at ht
  · have := Seen.unmarked_le program text seen
    simp only [exploreBound, List.length_singleton]
    omega

/-- A match that starts first among the places from `start` up to `stop`, or that there is
none. -/
def IsFirst (program : Program) (text : Array Char) (start stop : Nat) : Option Match → Prop
  | some m => start ≤ m.start ∧ m.start < stop ∧ program.Accepts text m.start m.stop ∧
      ∀ i, start ≤ i → i < m.start → ∀ j, ¬ program.Accepts text i j
  | none => ∀ i, start ≤ i → i < stop → ∀ j, ¬ program.Accepts text i j

/-- What is first among later places is first, if the place before them has no match. -/
theorem IsFirst.cons {start stop : Nat} {r : Option Match}
    (h : IsFirst program text (start + 1) stop r)
    (hstart : ∀ j, ¬ program.Accepts text start j) : IsFirst program text start stop r := by
  cases r with
  | none =>
    intro i h1 h2
    rcases Nat.eq_or_lt_of_le h1 with rfl | h1
    · exact hstart
    · exact h i h1 h2
  | some m =>
    obtain ⟨hm1, hm2, accepts, before⟩ := h
    refine ⟨by omega, hm2, accepts, ?_⟩
    intro i h1 h2
    rcases Nat.eq_or_lt_of_le h1 with rfl | h1
    · exact hstart
    · exact before i h1 h2

theorem findAmong_spec (count start : Nat) {seen : Seen} (h : seen.Closed program text [])
    (hcount : start + count ≤ text.size + 1) :
    IsFirst program text start (start + count) (findAmong program text count seen start) := by
  induction count generalizing seen start with
  | zero => intro i h1 h2; omega
  | succ count ih =>
    have hsearch := explore_from h (show start ≤ text.size by omega)
    rw [findAmong]
    generalize explore program text (exploreBound program text) seen
      [{ address := 0, place := start }] = r at hsearch
    cases hsearch with
    | found accept mem path =>
      obtain rfl := List.mem_singleton.1 mem
      exact ⟨Nat.le_refl _, by simp, ⟨_, _, path, accept⟩,
        fun i h1 h2 => absurd h2 (by simpa using h1)⟩
    | exhausted closed _ marked =>
      have hstart (j : Nat) : ¬ program.Accepts text start j := by
        rintro ⟨n, a, path, accept⟩
        exact closed.not_accept_of_path path
          (marked { address := 0, place := start } (by simp))
          accept
      have hrest := ih (start + 1) closed (show start + 1 + count ≤ text.size + 1 by omega)
      rw [Nat.add_right_comm] at hrest
      exact hrest.cons hstart

theorem findFrom_spec (program : Program) (text : Array Char) (start : Nat) :
    IsFirst program text start (text.size + 1) (findFrom program text start) := by
  rw [findFrom]
  by_cases h : start ≤ text.size + 1
  · have := findAmong_spec (text.size + 1 - start) start
      (Seen.closed_none : (Seen.none text).Closed program text []) (by omega)
    rwa [show start + (text.size + 1 - start) = text.size + 1 by omega] at this
  · rw [show text.size + 1 - start = 0 by omega]
    intro i h1 h2
    omega

/-- The match found is one that starts first. -/
theorem findFrom_some {start : Nat} {m : Match} (h : findFrom program text start = some m) :
    start ≤ m.start ∧ m.start ≤ m.stop ∧ m.stop ≤ text.size ∧
      program.Accepts text m.start m.stop ∧
      ∀ i, start ≤ i → i < m.start → ∀ j, ¬ program.Accepts text i j := by
  have hfirst := findFrom_spec program text start
  rw [h] at hfirst
  obtain ⟨h1, h2, accepts, before⟩ := hfirst
  obtain ⟨h3, h4⟩ := accepts.place_le (Nat.le_of_lt_succ h2)
  exact ⟨h1, h3, h4, accepts, before⟩

/-- Where no match is found, there is none. -/
theorem findFrom_none {start : Nat} (h : findFrom program text start = none) {i j : Nat}
    (hstart : start ≤ i) (hi : i ≤ text.size) : ¬ program.Accepts text i j := by
  have hfirst := findFrom_spec program text start
  rw [h] at hfirst
  exact hfirst i hstart (Nat.lt_succ_of_le hi) j

/-- A match is found if there is one. -/
theorem isSome_findFrom {start : Nat} :
    (findFrom program text start).isSome = true ↔
      ∃ i j, start ≤ i ∧ i ≤ text.size ∧ program.Accepts text i j := by
  constructor
  · intro h
    obtain ⟨m, hm⟩ := Option.isSome_iff_exists.1 h
    obtain ⟨h1, h2, h3, accepts, -⟩ := findFrom_some hm
    exact ⟨m.start, m.stop, h1, h2.trans h3, accepts⟩
  · rintro ⟨i, j, h1, h2, accepts⟩
    by_contra h
    exact findFrom_none (Option.not_isSome_iff_eq_none.1 h) h1 h2 accepts

end PatternAssembly
