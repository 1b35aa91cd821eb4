import PatternAssembly.CharSet.Turns
import PatternAssembly.Unicode.Folding

/-!
# Sets of characters

A set of characters is kept by the code points at which membership turns. Each set has one
such list, so sets are equal when their lists are, and a set can be asked for its ranges.

## Main definitions

* `Folding`: which letters count as the same when case is ignored
* `CharSet`: sets of characters
* `CharSet.hasCode`, `CharSet.has`: membership of a code point and of a character
* `CharSet.pieces`: the ranges that a set consists of
-/
namespace PatternAssembly

/-- Which characters count as variants of one letter when case is ignored: the two cases of
`a` to `z`, or those of simple case folding in all scripts. -/
inductive Folding where
  | ascii | simple

/-- The code points that a search ignoring case accepts for `n`. -/
def Folding.variants : Folding → Nat → List Nat
  | .simple, n => Unicode.variants n
  | .ascii, n =>
    if 0x41 ≤ n ∧ n ≤ 0x5A then [n, n + 0x20]
    else if 0x61 ≤ n ∧ n ≤ 0x7A then [n, n - 0x20]
    else [n]

/-- The letters of ASCII with their variants. -/
def asciiCases : List (Nat × List Nat) :=
  (List.range' 0x41 26).map (fun n => (n, [n, n + 0x20])) ++
    (List.range' 0x61 26).map fun n => (n, [n, n - 0x20])

/-- The code points that have a variant besides themselves, in ascending order, with all of
them. -/
def Folding.cases : Folding → List (Nat × List Nat)
  | .simple => Unicode.casePairs
  | .ascii => asciiCases

/-- A set of characters, by the code points at which membership turns, from the first one
held. -/
structure CharSet where
  turns : List Nat
  ascending : turns.Pairwise (· < ·)
deriving DecidableEq

namespace CharSet

/-- Membership of a code point. -/
def hasCode (s : CharSet) (n : Nat) : Bool := Turns.holds false s.turns n

/-- Membership of a character. -/
def has (s : CharSet) (c : Char) : Bool := s.hasCode c.toNat

/-- The empty set. -/
def empty : CharSet := ⟨[], .nil⟩

/-- The code points from `lo` to `hi`. -/
def span (lo hi : Nat) : CharSet :=
  if h : lo ≤ hi then ⟨[lo, hi + 1], List.pairwise_pair.2 (Nat.lt_succ_of_le h)⟩ else empty

/-- A combination of two sets, by a rule for membership that leaves out what neither holds. -/
def combine (f : Bool → Bool → Bool) (s t : CharSet) : CharSet :=
  ⟨Turns.merge f s.turns false false t.turns, Turns.pairwise_merge s.ascending t.ascending⟩

/-- What one of two sets holds. -/
def union : CharSet → CharSet → CharSet := combine (· || ·)

/-- What both sets hold. -/
def inter : CharSet → CharSet → CharSet := combine (· && ·)

/-- What the first set holds and the second does not. -/
def diff : CharSet → CharSet → CharSet := combine fun a b => a && !b

/-- What exactly one of two sets holds. -/
def symmDiff : CharSet → CharSet → CharSet := combine (· ^^ ·)

/-- What one of the sets holds. -/
def unions (sets : List CharSet) : CharSet := sets.foldr union empty

/-- The set with the code points from `lo` to `hi`. In front of all others they need no
merging. -/
def addRange (lo hi : Nat) : CharSet → CharSet
  | ⟨[], _⟩ => span lo hi
  | ⟨t :: ts, ascending⟩ =>
    if h : lo ≤ hi ∧ hi + 1 < t then
      ⟨lo :: (hi + 1) :: t :: ts, by
        obtain ⟨ht, hts⟩ := List.pairwise_cons.1 ascending
        have (u) (hu : u ∈ ts) := ht u hu
        simp only [List.pairwise_cons, List.mem_cons, forall_eq_or_imp]
        exact ⟨⟨by omega, by omega, fun u hu => by have := ht u hu; omega⟩,
          ⟨by omega, fun u hu => by have := ht u hu; omega⟩, ht, hts⟩⟩
    else if h : lo ≤ hi ∧ hi + 1 = t then
      ⟨lo :: ts, List.pairwise_cons.2
        ⟨fun u hu => by have := (List.pairwise_cons.1 ascending).1 u hu; omega,
          (List.pairwise_cons.1 ascending).2⟩⟩
    else union (span lo hi) ⟨t :: ts, ascending⟩

/-- The code points from the first to the second component of a pair. -/
def ranges (pairs : List (Nat × Nat)) : CharSet :=
  pairs.foldr (fun p => addRange p.1 p.2) empty

/-- The code points of a list. -/
def ofCodes (codes : List Nat) : CharSet := ranges (codes.map fun n => (n, n))

/-- Every `step`-th code point of each of the ranges. -/
def every (step : Nat) (pairs : List (Nat × Nat)) : CharSet :=
  ofCodes (pairs.flatMap fun p =>
    (List.range ((p.2 - p.1) / step + 1)).map fun k => p.1 + k * step)

/-- The set of all characters. Surrogate code points are no characters. -/
def full : CharSet := ranges [(0, 0xD7FF), (0xE000, 0x10FFFF)]

/-- The characters that a set does not hold. -/
def compl (s : CharSet) : CharSet := diff full s

/-- The characters from `lo` to `hi`. -/
def range (lo hi : Char) : CharSet := inter (span lo.toNat hi.toNat) full

/-- The set of one character. -/
def single (c : Char) : CharSet := span c.toNat c.toNat

/-- What the set holds, and all variants of it. -/
def closure (f : Folding) (s : CharSet) : CharSet :=
  union s (ofCodes ((f.cases.filter fun p => p.2.any s.hasCode).map (·.1)))

/-- The ranges between the turns of a list. -/
def between : List Nat → List (Nat × Nat)
  | [] => []
  | [lo] => [(lo, 0x10FFFF)]
  | lo :: stop :: rest => (lo, stop - 1) :: between rest

/-- The ranges that the set consists of, in ascending order and none next to another. -/
def pieces (s : CharSet) : List (Nat × Nat) := between s.turns

@[simp] theorem hasCode_empty (n : Nat) : empty.hasCode n = false := rfl

@[simp] theorem hasCode_span (lo hi n : Nat) :
    (span lo hi).hasCode n = (decide (lo ≤ n) && decide (n ≤ hi)) := by
  unfold span
  split
  · by_cases h1 : n < lo
    · simp [hasCode, Turns.holds, h1, Nat.not_le.2 h1]
    · by_cases h2 : n < hi + 1
      · simp [hasCode, Turns.holds, h1, h2, Nat.not_lt.1 h1, Nat.le_of_lt_succ h2]
      · simp [hasCode, Turns.holds, h1, h2, Nat.not_lt.1 h1]; omega
  · rw [hasCode_empty, eq_comm, Bool.and_eq_false_iff]
    by_cases h1 : lo ≤ n
    · right; simp; omega
    · left; simpa using h1

theorem hasCode_combine {f : Bool → Bool → Bool} (hf : f false false = false) (s t : CharSet)
    (n : Nat) : (combine f s t).hasCode n = f (s.hasCode n) (t.hasCode n) := by
  have h := Turns.holds_merge f s.ascending false false t.ascending n
  rw [hf] at h
  exact h

@[simp] theorem hasCode_union (a b : CharSet) (n : Nat) :
    (union a b).hasCode n = (a.hasCode n || b.hasCode n) := hasCode_combine rfl a b n

@[simp] theorem hasCode_inter (a b : CharSet) (n : Nat) :
    (inter a b).hasCode n = (a.hasCode n && b.hasCode n) := hasCode_combine rfl a b n

@[simp] theorem hasCode_diff (a b : CharSet) (n : Nat) :
    (diff a b).hasCode n = (a.hasCode n && !b.hasCode n) := hasCode_combine rfl a b n

@[simp] theorem hasCode_symmDiff (a b : CharSet) (n : Nat) :
    (symmDiff a b).hasCode n = (a.hasCode n ^^ b.hasCode n) := hasCode_combine rfl a b n

@[simp] theorem hasCode_unions (sets : List CharSet) (n : Nat) :
    (unions sets).hasCode n = sets.any (·.hasCode n) := by
  induction sets with
  | nil => rfl
  | cons s sets ih => simp [unions, ← ih]

@[simp] theorem hasCode_addRange (lo hi : Nat) (s : CharSet) (n : Nat) :
    (addRange lo hi s).hasCode n = ((decide (lo ≤ n) && decide (n ≤ hi)) || s.hasCode n) := by
  obtain ⟨ts, ascending⟩ := s
  cases ts with
  | nil => rw [addRange, hasCode_span]; simp [hasCode, Turns.holds]
  | cons t ts =>
    have later (b : Bool) (h : n < t) : Turns.holds b ts n = b :=
      Turns.holds_of_lt fun u hu => Nat.lt_trans h ((List.pairwise_cons.1 ascending).1 u hu)
    rw [addRange]
    split
    · rename_i h
      by_cases h1 : lo ≤ n
      · by_cases h2 : n ≤ hi
        · simp [hasCode, Turns.holds, Nat.not_lt.2 h1, Nat.lt_succ_of_le h2, h1, h2]
        · have h3 : ¬ n < hi + 1 := by omega
          simp [hasCode, Turns.holds, Nat.not_lt.2 h1, h2, h3]
      · have : n < t := by omega
        simp [hasCode, Turns.holds, Nat.not_le.1 h1, h1, this]
    · split
      · rename_i h
        by_cases h1 : lo ≤ n
        · by_cases h2 : n < t
          · have h3 : n ≤ hi := by omega
            simp [hasCode, Turns.holds, Nat.not_lt.2 h1, h1, h3, later true h2]
          · have h3 : ¬ n ≤ hi := by omega
            simp [hasCode, Turns.holds, Nat.not_lt.2 h1, h2, h3]
        · have : n < t := by omega
          simp [hasCode, Turns.holds, Nat.not_le.1 h1, h1, this]
      · rw [hasCode_union, hasCode_span]

@[simp] theorem hasCode_ranges (pairs : List (Nat × Nat)) (n : Nat) :
    (ranges pairs).hasCode n = pairs.any fun p => decide (p.1 ≤ n) && decide (n ≤ p.2) := by
  induction pairs with
  | nil => rfl
  | cons p pairs ih =>
    show (addRange p.1 p.2 (ranges pairs)).hasCode n = _
    rw [hasCode_addRange, ih, List.any_cons]

@[simp] theorem hasCode_ofCodes (codes : List Nat) (n : Nat) :
    (ofCodes codes).hasCode n = codes.contains n := by
  rw [ofCodes, hasCode_ranges, Bool.eq_iff_iff]
  simp only [List.any_map, List.any_eq_true, Function.comp, Bool.and_eq_true,
    decide_eq_true_eq, List.contains_iff_mem]
  constructor
  · rintro ⟨m, hm, h1, h2⟩
    rwa [Nat.le_antisymm h2 h1]
  · exact fun h => ⟨n, h, Nat.le_refl n, Nat.le_refl n⟩

/-- Every character is a member of the full set. -/
@[simp] theorem has_full (c : Char) : full.has c = true := by
  have h : c.toNat < 0xD800 ∨ (0xDFFF < c.toNat ∧ c.toNat < 0x110000) := c.valid
  simp only [has, full, hasCode_ranges, List.any_cons, List.any_nil, Bool.or_false,
    Bool.or_eq_true, Bool.and_eq_true, decide_eq_true_eq]
  omega

@[simp] theorem has_compl (s : CharSet) (c : Char) : (compl s).has c = !s.has c := by
  have h : full.hasCode c.toNat = true := has_full c
  simp [has, compl, h]

@[simp] theorem has_range (lo hi c : Char) :
    (range lo hi).has c = (decide (lo.toNat ≤ c.toNat) && decide (c.toNat ≤ hi.toNat)) := by
  have h : full.hasCode c.toNat = true := has_full c
  simp [has, range, h]

@[simp] theorem has_single (c d : Char) : (single c).has d = decide (d = c) := by
  have h : d = c ↔ d.toNat = c.toNat :=
    ⟨fun h => h ▸ rfl, fun h => Char.ext (UInt32.toNat_inj.1 h)⟩
  by_cases hd : d.toNat = c.toNat
  · simp [has, single, h, hd]
  · simp [has, single, h, hd]; omega

theorem any_between {ts : List Nat} (h : ts.Pairwise (· < ·)) {n : Nat} (hn : n ≤ 0x10FFFF) :
    (between ts).any (fun p => decide (p.1 ≤ n) && decide (n ≤ p.2)) =
      Turns.holds false ts n := by
  fun_induction between ts with
  | case1 => rfl
  | case2 lo =>
    by_cases h1 : lo ≤ n
    · simp [Turns.holds, hn, h1, Nat.not_lt.2 h1]
    · simp [Turns.holds, h1, Nat.not_le.1 h1]
  | case3 lo stop rest ih =>
    obtain ⟨hlo, h⟩ := List.pairwise_cons.1 h
    obtain ⟨hstop, h⟩ := List.pairwise_cons.1 h
    have hlt : lo < stop := hlo stop (by simp)
    rw [List.any_cons, ih h]
    by_cases h1 : lo ≤ n
    · by_cases h2 : n < stop
      · have h3 : n ≤ stop - 1 := by omega
        simp [Turns.holds, h1, h2, h3, Nat.not_lt.2 h1]
      · have h3 : ¬ n ≤ stop - 1 := by omega
        simp [Turns.holds, h2, h3, Nat.not_lt.2 h1]
    · have h2 : Turns.holds false rest n = false :=
        Turns.holds_of_lt fun t ht => Nat.lt_trans (by omega) (hstop t ht)
      simp [Turns.holds, h1, h2, Nat.not_le.1 h1]

/-- A set has the characters in its pieces. -/
theorem any_pieces (s : CharSet) (c : Char) :
    s.pieces.any (fun p => decide (p.1 ≤ c.toNat) && decide (c.toNat ≤ p.2)) = s.has c := by
  have h : c.toNat < 0xD800 ∨ (0xDFFF < c.toNat ∧ c.toNat < 0x110000) := c.valid
  exact any_between s.ascending (by omega)

theorem mem_asciiCases_iff {n : Nat} {vs : List Nat} :
    (n, vs) ∈ asciiCases ↔
      (0x41 ≤ n ∧ n ≤ 0x5A ∨ 0x61 ≤ n ∧ n ≤ 0x7A) ∧ vs = Folding.ascii.variants n := by
  simp only [asciiCases, List.mem_append, List.mem_map, List.mem_range'_1, Prod.mk.injEq]
  constructor
  · rintro (⟨m, hm, rfl, rfl⟩ | ⟨m, hm, rfl, rfl⟩)
    · refine ⟨.inl (by omega), ?_⟩
      rw [Folding.variants, if_pos (by omega)]
    · refine ⟨.inr (by omega), ?_⟩
      rw [Folding.variants, if_neg (by omega), if_pos (by omega)]
  · rintro ⟨h | h, rfl⟩
    · refine .inl ⟨n, by omega, rfl, ?_⟩
      rw [Folding.variants, if_pos h]
    · refine .inr ⟨n, by omega, rfl, ?_⟩
      rw [Folding.variants, if_neg (by omega), if_pos h]

/-- The table of variants is right. -/
theorem variants_of_mem_cases {f : Folding} {n : Nat} {vs : List Nat}
    (h : (n, vs) ∈ f.cases) :
    vs = f.variants n := by
  cases f with
  | ascii => exact (mem_asciiCases_iff.1 h).2
  | simple => exact Unicode.variants_of_mem_casePairs h

/-- The table of variants lacks only what has no variant besides itself. -/
theorem variants_of_not_mem_cases {f : Folding} {n : Nat} (h : (n, f.variants n) ∉ f.cases) :
    f.variants n = [n] := by
  cases f with
  | ascii =>
    have h' : ¬ (0x41 ≤ n ∧ n ≤ 0x5A ∨ 0x61 ≤ n ∧ n ≤ 0x7A) :=
      fun hn => h (mem_asciiCases_iff.2 ⟨hn, rfl⟩)
    rw [Folding.variants, if_neg (by omega), if_neg (by omega)]
  | simple => exact Unicode.variants_of_not_mem_casePairs h

theorem self_mem_variants (f : Folding) (n : Nat) : n ∈ f.variants n := by
  cases f with
  | simple => exact Unicode.self_mem_variants n
  | ascii =>
    rw [Folding.variants]
    split
    · simp
    · split <;> simp

/-- A set closed under case folding holds a code point if it held a variant of it. -/
@[simp] theorem hasCode_closure (f : Folding) (s : CharSet) (n : Nat) :
    (closure f s).hasCode n = (f.variants n).any s.hasCode := by
  rw [closure, hasCode_union, hasCode_ofCodes, Bool.eq_iff_iff]
  simp only [Bool.or_eq_true, List.contains_iff_mem, List.mem_map, List.mem_filter]
  constructor
  · rintro (h | ⟨⟨m, vs⟩, ⟨hm, hv⟩, rfl⟩)
    · exact List.any_eq_true.2 ⟨n, self_mem_variants f n, h⟩
    · exact variants_of_mem_cases hm ▸ hv
  · intro h
    by_cases hn : (n, f.variants n) ∈ f.cases
    · exact .inr ⟨_, ⟨hn, h⟩, rfl⟩
    · rw [variants_of_not_mem_cases hn] at h
      exact .inl (by simpa using h)

/-- A set closed under simple case folding holds a code point if it held one that folds
alike. -/
theorem hasCode_closure_simple (s : CharSet) (n : Nat) :
    (closure .simple s).hasCode n = true ↔
      ∃ m, Unicode.fold m = Unicode.fold n ∧ s.hasCode m = true := by
  simp [Folding.variants, Unicode.mem_variants_iff]

end CharSet

end PatternAssembly
