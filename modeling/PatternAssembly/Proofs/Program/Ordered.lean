import Mathlib.Data.List.Perm.Subperm
import PatternAssembly.Program.Matches
import PatternAssembly.Proofs.Program.Reaches

/-!
# Matches in order

The matches in a text lie one after another, none over another. So they cut the text into
matches and the texts between them, and replacing is a matter of writing something else for
the matches.

Each match ends after the one before it, an empty one as well. So there is at most one for
each place of the text, however many are asked for.

## Main definitions

* `Ordered`: matches one after another
* `textBefore`, `withTextAfter`: the text between matches

## Main statements

* `ordered_allMatches`: the matches in a text are in order
* `exists_findNext_of_mem_matchesFrom`, `accepts_of_mem_matchesFrom`: what is found, and that
  it is accepted
* `pairwise_stop_matchesFrom`: matches end further and further on
* `length_matchesFrom_le`, `matchesFrom_eq_allMatches`: how many matches there can be
* `allMatches_eq`: the first of all matches is the one that is found alone
* `splice_eq`: a replacement writes the texts between the matches as they are
-/
namespace PatternAssembly

variable {program : Program} {text : Array Char}

/-- The matches lie one after another from a place on. -/
def Ordered (text : Array Char) : (start : Nat) → List Match → Prop
  | _, [] => True
  | start, m :: ms =>
    start ≤ m.start ∧ m.start ≤ m.stop ∧ m.stop ≤ text.size ∧ Ordered text m.stop ms

theorem findNext_none_last (program : Program) (text : Array Char) (start : Nat) :
    findNext program text start none = findFrom program text start := by
  rw [findNext]
  cases findFrom program text start with
  | none => rfl
  | some m => simp

/-- The next match is found from `start` on; or behind it, if an empty match is passed over
there. -/
theorem findNext_cases {start : Nat} {last : Option Nat} {m : Match}
    (h : findNext program text start last = some m) :
    findFrom program text start = some m ∧ ¬ (m.start = m.stop ∧ last = some m.stop) ∨
      findFrom program text (start + 1) = some m := by
  rw [findNext] at h
  cases hfound : findFrom program text start with
  | none => simp [hfound] at h
  | some found =>
    simp only [hfound] at h
    split at h
    · exact .inr h
    · rename_i hnew
      obtain rfl := Option.some.inj h
      exact .inl ⟨rfl, hnew⟩

theorem findNext_some {start : Nat} {last : Option Nat} {m : Match}
    (h : findNext program text start last = some m) :
    start ≤ m.start ∧ m.start ≤ m.stop ∧ m.stop ≤ text.size ∧
      program.Accepts text m.start m.stop := by
  rcases findNext_cases h with ⟨hfound, -⟩ | hbehind
  · obtain ⟨h1, h2, h3, h4, -⟩ := findFrom_some hfound
    exact ⟨h1, h2, h3, h4⟩
  · obtain ⟨h1, h2, h3, h4, -⟩ := findFrom_some hbehind
    exact ⟨Nat.le_of_succ_le h1, h2, h3, h4⟩

theorem ordered_matchesFrom (program : Program) (text : Array Char) (bound start : Nat)
    (last : Option Nat) : Ordered text start (matchesFrom program text bound start last) := by
  induction bound generalizing start last with
  | zero => trivial
  | succ bound ih =>
    rw [matchesFrom]
    cases hnext : findNext program text start last with
    | none => trivial
    | some m =>
      obtain ⟨h1, h2, h3, -⟩ := findNext_some hnext
      exact ⟨h1, h2, h3, ih m.stop (some m.stop)⟩

/-- Every match is the next one at some place. The place before which it may not be empty is
that place itself, unless it is the first match. -/
theorem exists_findNext_of_mem_matchesFrom {bound start : Nat} {last : Option Nat} {m : Match}
    (h : m ∈ matchesFrom program text bound start last) :
    ∃ place last', start ≤ place ∧ (last = some start → last' = some place) ∧
      findNext program text place last' = some m := by
  induction bound generalizing start last with
  | zero => cases h
  | succ bound ih =>
    rw [matchesFrom] at h
    cases hnext : findNext program text start last with
    | none => simp [hnext] at h
    | some first =>
      rw [hnext] at h
      rcases List.mem_cons.1 h with rfl | h
      · exact ⟨start, last, Nat.le_refl _, id, hnext⟩
      · obtain ⟨place, last', hplace, hlast, hfound⟩ := ih h
        obtain ⟨h1, h2, -⟩ := findNext_some hnext
        exact ⟨place, last', (h1.trans h2).trans hplace, fun _ => hlast rfl, hfound⟩

/-- What is found is accepted, and lies in the text. -/
theorem accepts_of_mem_matchesFrom {bound start : Nat} {last : Option Nat} {m : Match}
    (h : m ∈ matchesFrom program text bound start last) :
    m.start ≤ m.stop ∧ m.stop ≤ text.size ∧ program.Accepts text m.start m.stop := by
  obtain ⟨_, _, -, -, hfound⟩ := exists_findNext_of_mem_matchesFrom h
  exact (findNext_some hfound).2

/-- All matches in a text are in order. -/
theorem ordered_allMatches (program : Program) (text : Array Char) :
    Ordered text 0 (allMatches program text) := ordered_matchesFrom _ _ _ _ _

/-- The first of all matches is the one that is found alone. -/
theorem allMatches_eq (program : Program) (text : Array Char) :
    allMatches program text =
      match findFrom program text 0 with
      | none => []
      | some m => m :: matchesFrom program text text.size m.stop (some m.stop) := by
  cases h : findFrom program text 0 <;> simp only [allMatches, matchesFrom,
    findNext_none_last, h]

@[simp] theorem head?_allMatches :
    (allMatches program text).head? = findFrom program text 0 := by
  rw [allMatches_eq]
  cases findFrom program text 0 <;> rfl

/-! ## The number of matches -/

/-- The next match ends after the one before it: an empty match at the end of that one is
passed over. -/
theorem lt_stop_of_findNext {start : Nat} {m : Match}
    (h : findNext program text start (some start) = some m) : start < m.stop := by
  rcases findNext_cases h with ⟨hfound, hnew⟩ | hbehind
  · obtain ⟨h1, h2, -⟩ := findFrom_some hfound
    exact Nat.lt_of_le_of_ne (h1.trans h2) fun heq => hnew ⟨by omega, congrArg some heq⟩
  · obtain ⟨h1, h2, -⟩ := findFrom_some hbehind
    omega

theorem lt_stop_of_mem_matchesFrom {bound start : Nat} {m : Match}
    (h : m ∈ matchesFrom program text bound start (some start)) : start < m.stop := by
  obtain ⟨place, last', hplace, hlast, hfound⟩ := exists_findNext_of_mem_matchesFrom h
  obtain rfl := hlast rfl
  exact Nat.lt_of_le_of_lt hplace (lt_stop_of_findNext hfound)

/-- Every match ends after those before it. -/
theorem pairwise_stop_matchesFrom (program : Program) (text : Array Char) (bound start : Nat)
    (last : Option Nat) :
    (matchesFrom program text bound start last).Pairwise fun m m' => m.stop < m'.stop := by
  induction bound generalizing start last with
  | zero => exact .nil
  | succ bound ih =>
    rw [matchesFrom]
    cases findNext program text start last with
    | none => exact .nil
    | some m => exact List.pairwise_cons.2 ⟨fun m' h => lt_stop_of_mem_matchesFrom h, ih _ _⟩

/-- There is at most one match for each place of the text, however many are asked for. -/
theorem length_matchesFrom_le (program : Program) (text : Array Char) (bound start : Nat)
    (last : Option Nat) :
    (matchesFrom program text bound start last).length ≤ text.size + 1 := by
  have hstops : ((matchesFrom program text bound start last).map Match.stop).Nodup :=
    List.Pairwise.map _ (fun _ _ h => Nat.ne_of_lt h)
      (pairwise_stop_matchesFrom program text bound start last)
  have hplaces : (matchesFrom program text bound start last).map Match.stop ⊆
      List.range (text.size + 1) := by
    intro stop hstop
    obtain ⟨m, hm, rfl⟩ := List.mem_map.1 hstop
    exact List.mem_range.2 (Nat.lt_succ_of_le (accepts_of_mem_matchesFrom hm).2.1)
  simpa using (hstops.subperm hplaces).length_le

/-- Who asks for more matches gets the same ones first. -/
theorem take_matchesFrom (bound more start : Nat) (last : Option Nat) :
    (matchesFrom program text (bound + more) start last).take bound =
      matchesFrom program text bound start last := by
  induction bound generalizing start last with
  | zero => rfl
  | succ bound ih =>
    rw [Nat.add_right_comm, matchesFrom, matchesFrom]
    cases findNext program text start last with
    | none => rfl
    | some m => rw [List.take_succ_cons, ih]

/-- Enough matches are asked for to get all of them. -/
theorem matchesFrom_eq_allMatches {bound : Nat} (h : text.size < bound) :
    matchesFrom program text bound 0 none = allMatches program text := by
  obtain ⟨more, rfl⟩ := Nat.exists_eq_add_of_le (Nat.succ_le_of_lt h)
  rw [allMatches, ← take_matchesFrom (text.size + 1) more, List.take_of_length_le]
  exact length_matchesFrom_le program text _ 0 none

/-! ## Cutting a text at matches -/

theorem slice_append {start middle stop : Nat} (h1 : start ≤ middle) (h2 : middle ≤ stop) :
    slice text start middle ++ slice text middle stop = slice text start stop := by
  rw [slice, slice, slice, ← Array.toList_append, Array.extract_append_extract,
    Nat.min_eq_left h1, Nat.max_eq_right h2]

/-- The text of a match. -/
def Match.chars (text : Array Char) (m : Match) : List Char := slice text m.start m.stop

/-- The text from a place up to the first of some matches. -/
def textBefore (text : Array Char) (start : Nat) (ms : List Match) : List Char :=
  slice text start ((ms.head?.map Match.start).getD text.size)

/-- Matches, each with the text up to the next one. -/
def withTextAfter (text : Array Char) : List Match → List (Match × List Char)
  | [] => []
  | m :: ms => (m, textBefore text m.stop ms) :: withTextAfter text ms

/-- A text with its matches replaced is the texts between them and what is written for
them. -/
theorem splice_eq (f : Match → List Char) (start : Nat) (ms : List Match) :
    splice text f start ms =
      textBefore text start ms ++ (withTextAfter text ms).flatMap fun x => f x.1 ++ x.2 := by
  induction ms generalizing start with
  | nil => simp [splice, textBefore, withTextAfter]
  | cons m ms ih => simp [splice, ih, textBefore, withTextAfter]

/-- Matches replaced by themselves leave the text. -/
theorem splice_chars {start : Nat} {ms : List Match} (h : Ordered text start ms)
    (hstart : start ≤ text.size) : splice text (Match.chars text) start ms
      = slice text start text.size := by
  induction ms generalizing start with
  | nil => rfl
  | cons m ms ih =>
    obtain ⟨h1, h2, h3, h⟩ := h
    rw [splice, Match.chars, ih h h3, List.append_assoc, slice_append h2 h3,
      slice_append h1 (h2.trans h3)]

theorem map_withTextAfter {α : Type} (f : Match → α) (ms : List Match) :
    (withTextAfter text ms).map (fun x => f x.1) = ms.map f := by
  induction ms with
  | nil => rfl
  | cons m ms ih => simp [withTextAfter, ih]

@[simp] theorem slice_zero_size (text : Array Char) :
    slice text 0 text.size = text.toList := by
  simp [slice]

end PatternAssembly
