import PatternAssembly.Proofs.Program.Ordered

/-!
# Scans

A program that accepts nothing empty is looked for from left to right: of the stretches that
it accepts, the leftmost is taken, and the next one is looked for from its end on. Where it is
known what the program accepts, this says which stretches its matches are, for at no place two
stretches start. A scan of a text that falls into two parts, with no stretch across the cut,
is a scan of the one part and then of the other.

Empty stretches may be accepted as well, if all stretches lie apart: then each of them is a
match.

## Main definitions

* `Match.span`: where a match starts and where it ends
* `Scan`: the stretches that are taken from a place on
* `shifted`: a stretch of a later part of a text
* `LieApart`: stretches with a character or more between them
* `Awaited`: what is still to be found

## Main statements

* `Scan.unique`: there is one scan
* `Scan.append`: a scan of two parts
* `scan_allMatches`: the matches in a text are a scan
* `map_span_allMatches_of_char`: the matches, if single characters are accepted
* `map_span_allMatches_of_lieApart`: the matches, if what is accepted lies apart
* `map_span_allMatches_of_empty`: if only empty stretches are accepted, there is a match at
  each place
-/
namespace PatternAssembly

variable {A B R : Nat → Nat → Prop} {program : Program} {text : Array Char}

/-- Where a match starts and where it ends. -/
def Match.span (m : Match) : Nat × Nat := (m.start, m.stop)

/-- From `start` on, the leftmost stretch is taken, then the leftmost from its end on, and so
forth. -/
def Scan (R : Nat → Nat → Prop) : (start : Nat) → List (Nat × Nat) → Prop
  | start, [] => ∀ i j, start ≤ i → ¬ R i j
  | start, s :: ss =>
    start ≤ s.1 ∧ R s.1 s.2 ∧ (∀ i j, start ≤ i → i < s.1 → ¬ R i j) ∧ Scan R s.2 ss

/-- A stretch of a part of a text before which there are `n` characters. -/
def shifted (n : Nat) (s : Nat × Nat) : Nat × Nat := (n + s.1, n + s.2)

namespace Scan

variable {start : Nat} {ss ss' : List (Nat × Nat)}

/-- No stretch starts at the place, so the scan may start after it. -/
theorem tail (h : Scan R start ss) (hstart : ∀ j, ¬ R start j) : Scan R (start + 1) ss := by
  cases ss with
  | nil => exact fun i j hi => h i j (by omega)
  | cons s ss =>
    obtain ⟨hle, hs, hbefore, hrest⟩ := h
    have hne : start ≠ s.1 := fun he => hstart s.2 (he ▸ hs)
    exact ⟨by omega, hs, fun i j hi => hbefore i j (by omega), hrest⟩

/-- No stretch starts at the place, so the scan may start there as well as after it. -/
theorem skip (h : Scan R (start + 1) ss) (hstart : ∀ j, ¬ R start j) : Scan R start ss := by
  have hbehind (i j : Nat) (hi : start ≤ i) (hij : R i j) : start + 1 ≤ i :=
    Nat.lt_of_le_of_ne hi fun he => hstart j (he ▸ hij)
  cases ss with
  | nil => exact fun i j hi hij => h i j (hbehind i j hi hij) hij
  | cons s ss =>
    obtain ⟨hle, hs, hbefore, hrest⟩ := h
    exact ⟨Nat.le_of_succ_le hle, hs,
      fun i j hi hlt hij => hbefore i j (hbehind i j hi hij) hlt hij, hrest⟩

/-- If a stretch starts at the place, it is the first one of the scan. -/
theorem eq_cons (h : Scan R start ss) (hR : ∀ i j k, R i j → R i k → j = k) {stop : Nat}
    (hstart : R start stop) : ∃ rest, ss = (start, stop) :: rest ∧ Scan R stop rest := by
  cases ss with
  | nil => exact absurd hstart (h start stop (Nat.le_refl _))
  | cons s rest =>
    obtain ⟨hle, hs, hbefore, hrest⟩ := h
    have hfirst : s.1 = start := by
      by_contra hne
      exact hbefore start stop (Nat.le_refl _) (by omega) hstart
    have hstop : s.2 = stop := hR start _ _ (hfirst ▸ hs) hstart
    subst hfirst hstop
    exact ⟨rest, rfl, hrest⟩

/-- There is one scan, if at no place two stretches start. -/
theorem unique (h : Scan R start ss) (h' : Scan R start ss')
    (hR : ∀ i j k, R i j → R i k → j = k) : ss = ss' := by
  induction ss generalizing start ss' with
  | nil =>
    cases ss' with
    | nil => rfl
    | cons s' ss' => exact absurd h'.2.1 (h s'.1 s'.2 h'.1)
  | cons s ss ih =>
    obtain ⟨hle, hs, hbefore, hrest⟩ := h
    cases ss' with
    | nil => exact absurd hs (h' s.1 s.2 hle)
    | cons s' ss' =>
      obtain ⟨hle', hs', hbefore', hrest'⟩ := h'
      have hfirst : s.1 = s'.1 := by
        by_contra hne
        rcases Nat.lt_or_gt_of_ne hne with hlt | hlt
        · exact hbefore' s.1 s.2 hle hlt hs
        · exact hbefore s'.1 s'.2 hle' hlt hs'
      have hstop : s.2 = s'.2 := hR s.1 _ _ hs (hfirst ▸ hs')
      rw [Prod.ext hfirst hstop, ih hrest (hstop ▸ hrest')]

/-- A scan of the later part of a text, where from `start` on all stretches lie in that
part. -/
theorem shift {n first : Nat} (h : Scan B first ss) (hstart : start ≤ n + first)
    (hB : ∀ i j, B i j → i ≤ j)
    (hR : ∀ i j, start ≤ i →
      (R i j ↔ ∃ i' j', first ≤ i' ∧ B i' j' ∧ i = n + i' ∧ j = n + j')) :
    Scan R start (ss.map (shifted n)) := by
  induction ss generalizing start first with
  | nil =>
    intro i j hi hij
    obtain ⟨i', j', hi', hij', rfl, rfl⟩ := (hR i j hi).1 hij
    exact h i' j' hi' hij'
  | cons s ss ih =>
    obtain ⟨hle, hs, hbefore, hrest⟩ := h
    have hmono := hB _ _ hs
    refine ⟨?_, (hR _ _ ?_).2 ⟨s.1, s.2, hle, hs, rfl, rfl⟩, ?_, ?_⟩
    · show start ≤ n + s.1
      omega
    · show start ≤ n + s.1
      omega
    · intro i j hi hlt hij
      obtain ⟨i', j', hi', hij', rfl, rfl⟩ := (hR i j hi).1 hij
      exact hbefore i' j' hi' (Nat.lt_of_add_lt_add_left hlt) hij'
    · refine ih hrest (Nat.le_refl _) fun i j (hi : n + s.2 ≤ i) =>
        (hR i j (by omega)).trans ?_
      constructor
      · rintro ⟨i', j', -, hij, rfl, rfl⟩
        exact ⟨i', j', by omega, hij, rfl, rfl⟩
      · rintro ⟨i', j', hi', hij, rfl, rfl⟩
        exact ⟨i', j', by omega, hij, rfl, rfl⟩

/-- A text of two parts, the first one with `n` characters, is scanned part by part, if no
stretch lies in both. -/
theorem append {n : Nat} (h : Scan A start ss) (h' : Scan B 0 ss') (hstart : start ≤ n)
    (hA : ∀ i j, A i j → i < j ∧ j ≤ n) (hB : ∀ i j, B i j → i ≤ j)
    (hR : ∀ i j, R i j ↔ A i j ∨ ∃ i' j', B i' j' ∧ i = n + i' ∧ j = n + j') :
    Scan R start (ss ++ ss'.map (shifted n)) := by
  induction ss generalizing start with
  | nil =>
    refine h'.shift hstart hB fun i j hi => (hR i j).trans ?_
    simp [h i j hi]
  | cons s ss ih =>
    obtain ⟨hle, hs, hbefore, hrest⟩ := h
    refine ⟨hle, (hR _ _).2 (.inl hs), ?_, ih hrest (hA _ _ hs).2⟩
    intro i j hi hlt hij
    rcases (hR i j).1 hij with hij | ⟨i', j', -, rfl, -⟩
    · exact hbefore i j hi hlt hij
    · have := hA _ _ hs
      omega

end Scan

/-! ## Matches -/

/-- The matches from a place on are a scan, if nothing empty is accepted. Every match takes a
character, so `bound` is large enough for all of them. -/
theorem scan_matchesFrom (hR : ∀ i j, R i j ↔ i ≤ text.size ∧ program.Accepts text i j)
    (hempty : ∀ i j, R i j → i < j) (bound start : Nat) (last : Option Nat)
    (hbound : text.size < bound + start) :
    Scan R start ((matchesFrom program text bound start last).map Match.span) := by
  induction bound generalizing start last with
  | zero =>
    intro i j hi hij
    have := ((hR i j).1 hij).1
    omega
  | succ bound ih =>
    -- No match is empty, so none is passed over.
    have hnext : findNext program text start last = findFrom program text start := by
      rw [findNext]
      cases hfound : findFrom program text start with
      | none => rfl
      | some m =>
        obtain ⟨-, h2, h3, haccepts, -⟩ := findFrom_some hfound
        have := hempty _ _ ((hR _ _).2 ⟨h2.trans h3, haccepts⟩)
        exact if_neg fun h => absurd h.1 (by omega)
    rw [matchesFrom, hnext]
    cases hfound : findFrom program text start with
    | none =>
      intro i j hi hij
      obtain ⟨hsize, haccepts⟩ := (hR i j).1 hij
      exact findFrom_none hfound hi hsize haccepts
    | some m =>
      obtain ⟨h1, h2, h3, haccepts, hbefore⟩ := findFrom_some hfound
      have hm : R m.start m.stop := (hR _ _).2 ⟨h2.trans h3, haccepts⟩
      have := hempty _ _ hm
      exact ⟨h1, hm, fun i j hi hlt hij => hbefore i hi hlt j ((hR i j).1 hij).2,
        ih m.stop _ (by omega)⟩

/-- The matches in a text are a scan of what the program accepts, if that is nothing empty. -/
theorem scan_allMatches (hR : ∀ i j, R i j ↔ i ≤ text.size ∧ program.Accepts text i j)
    (hempty : ∀ i j, R i j → i < j) : Scan R 0 ((allMatches program text).map Match.span) :=
  scan_matchesFrom hR hempty _ _ _ (by omega)

/-! ## One character at a time -/

/-- Where all stretches are one character long, a scan takes the characters that are
stretches. -/
theorem scan_findIdxs {p : Char → Bool}
    (hR : ∀ i j, R i j ↔ ∃ c, text[i]? = some c ∧ p c = true ∧ j = i + 1) {start : Nat}
    {cs : List Char} (hcs : text.toList.drop start = cs) :
    Scan R start ((cs.findIdxs p start).map fun i => (i, i + 1)) := by
  induction cs generalizing start with
  | nil =>
    intro i j hi hij
    obtain ⟨c, hc, -⟩ := (hR i j).1 hij
    have hlt := (Array.getElem?_eq_some_iff.1 hc).1
    have hend := List.drop_eq_nil_iff.1 hcs
    rw [Array.length_toList] at hend
    omega
  | cons c cs ih =>
    have hc : text[start]? = some c := by
      rw [← Array.getElem?_toList, ← List.head?_drop, hcs, List.head?_cons]
    have hrest : Scan R (start + 1) ((cs.findIdxs p (start + 1)).map fun i => (i, i + 1)) :=
      ih (by rw [← List.tail_drop, hcs, List.tail_cons])
    rw [List.findIdxs_cons]
    by_cases hp : p c = true
    · rw [if_pos hp]
      exact ⟨Nat.le_refl start, (hR _ _).2 ⟨c, hc, hp, rfl⟩,
        fun i j hi (hlt : i < start) => absurd hlt (Nat.not_lt.2 hi), hrest⟩
    · rw [if_neg hp]
      refine hrest.skip fun j hj => ?_
      obtain ⟨d, hd, hpd, -⟩ := (hR _ _).1 hj
      obtain rfl := Option.some.inj (hc.symm.trans hd)
      exact hp hpd

/-- If single characters are accepted, the matches are these characters, one by one. -/
theorem map_span_allMatches_of_char {p : Char → Bool}
    (h : ∀ i j, program.Accepts text i j ↔ ∃ c, text[i]? = some c ∧ p c = true ∧ j = i + 1) :
    (allMatches program text).map Match.span =
      (text.toList.findIdxs p).map fun i => (i, i + 1) := by
  refine (scan_allMatches (R := program.Accepts text) (fun i j => ?_)
    fun i j hij => ?_).unique (scan_findIdxs h rfl) fun i j k hij hik => ?_
  · refine ⟨fun hij => ⟨?_, hij⟩, And.right⟩
    obtain ⟨c, hc, -⟩ := (h i j).1 hij
    exact Nat.le_of_lt (Array.getElem?_eq_some_iff.1 hc).1
  · obtain ⟨c, -, -, rfl⟩ := (h i j).1 hij
    exact Nat.lt_succ_self i
  · obtain ⟨c, -, -, rfl⟩ := (h i j).1 hij
    obtain ⟨d, -, -, rfl⟩ := (h i k).1 hik
    rfl

/-! ## Stretches that lie apart -/

/-- The stretches lie one after another, with a character or more between them. -/
def LieApart (ss : List (Nat × Nat)) : Prop := ss.Pairwise fun s t => s.2 < t.1

theorem length_le_of_lieApart {ss : List (Nat × Nat)} {n start : Nat} (h : LieApart ss)
    (hss : ∀ s ∈ ss, start ≤ s.1 ∧ s.1 ≤ s.2 ∧ s.2 ≤ n) : ss.length ≤ n + 1 - start := by
  induction ss generalizing start with
  | nil => exact Nat.zero_le _
  | cons s ss ih =>
    obtain ⟨hs, hapart⟩ := List.pairwise_cons.1 h
    obtain ⟨h1, h2, h3⟩ := hss s List.mem_cons_self
    have hrest := @ih (s.2 + 1) hapart fun t ht =>
      ⟨hs t ht, (hss t (List.mem_cons_of_mem _ ht)).2⟩
    rw [List.length_cons]
    omega

/-- What is still to be found from `start` on, when the match before ended there or there was
none: some stretches that lie apart. The match before may be found once more, if it is
empty. -/
structure Awaited (R : Nat → Nat → Prop) (start : Nat) (last : Option Nat)
    (ss : List (Nat × Nat)) :
    Prop where
  before : ∀ l ∈ last, l = start
  apart : LieApart ss
  new : ∀ s ∈ ss, R s.1 s.2 ∧ start ≤ s.1 ∧ s.1 ≤ s.2 ∧ s.1 ∉ last
  all : ∀ i j, start ≤ i → R i j → (i, j) ∈ ss ∨ i ∈ last ∧ i = j

section Apart

variable {start i j : Nat} {last : Option Nat} {s : Nat × Nat} {ss : List (Nat × Nat)}

namespace Awaited

/-- Behind the places that were looked at, a stretch is one that is awaited. -/
theorem mem (h : Awaited R start last ss) (hi : start ≤ i) (hlast : i ∉ last) (hij : R i j) :
    (i, j) ∈ ss := by
  cases h.all i j hi hij with
  | inl hmem => exact hmem
  | inr hempty => exact absurd hempty.1 hlast

/-- Before the first stretch that is awaited none starts. -/
theorem head_le (h : Awaited R start last (s :: ss)) (hi : start ≤ i) (hlast : i ∉ last)
    (hij : R i j) : s = (i, j) ∨ s.2 < i := by
  cases List.mem_cons.1 (h.mem hi hlast hij) with
  | inl hs => exact .inl hs.symm
  | inr hmem => exact .inr ((List.pairwise_cons.1 h.apart).1 (i, j) hmem)

/-- Once the first stretch is found, the others are awaited. -/
theorem tail (h : Awaited R start last (s :: ss)) : Awaited R s.2 (some s.2) ss := by
  obtain ⟨hbehind, hapart⟩ := List.pairwise_cons.1 h.apart
  obtain ⟨-, hstart, hle, hnew⟩ := h.new s List.mem_cons_self
  refine ⟨by simp, hapart, fun t ht => ?_, fun i j hi hij => ?_⟩
  · have hlt := hbehind t ht
    obtain ⟨ht, -, htle, -⟩ := h.new t (List.mem_cons_of_mem _ ht)
    refine ⟨ht, Nat.le_of_lt hlt, htle, ?_⟩
    rw [Option.mem_some_iff]
    omega
  · have hlast : i ∉ last := by
      intro hl
      have hi' : s.1 = i := by
        have := h.before i hl
        omega
      exact hnew (hi' ▸ hl)
    cases List.mem_cons.1 (h.mem (by omega) hlast hij) with
    | inl hs =>
      subst hs
      have hij' : i = j := Nat.le_antisymm hle hi
      exact .inr ⟨by rw [hij']; rfl, hij'⟩
    | inr hmem => exact .inl hmem

end Awaited

variable (hR : ∀ i j, R i j ↔ i ≤ text.size ∧ program.Accepts text i j)

include hR

theorem findFrom_eq_none (h : ∀ i j, start ≤ i → ¬ R i j) :
    findFrom program text start = none := by
  cases hfound : findFrom program text start with
  | none => rfl
  | some m =>
    obtain ⟨h1, h2, h3, haccepts, -⟩ := findFrom_some hfound
    exact absurd ((hR _ _).2 ⟨h2.trans h3, haccepts⟩) (h _ _ h1)

/-- The leftmost stretch is found, if no other one starts where it does. -/
theorem exists_findFrom (hs : R s.1 s.2) (hstart : start ≤ s.1)
    (hfirst : ∀ i j, start ≤ i → R i j → s = (i, j) ∨ s.1 < i) :
    ∃ m, findFrom program text start = some m ∧ m.span = s := by
  cases hfound : findFrom program text start with
  | none =>
    obtain ⟨hsize, haccepts⟩ := (hR _ _).1 hs
    exact absurd haccepts (findFrom_none hfound hstart hsize)
  | some m =>
    obtain ⟨h1, h2, h3, haccepts, hbefore⟩ := findFrom_some hfound
    cases hfirst _ _ h1 ((hR _ _).2 ⟨h2.trans h3, haccepts⟩) with
    | inl hm => exact ⟨m, rfl, hm.symm⟩
    | inr hlt => exact absurd ((hR _ _).1 hs).2 (hbefore s.1 hstart hlt s.2)

/-- From a place on at which nothing is found once more, the first stretch that is awaited is
found. -/
theorem map_span_findFrom {first : Nat} (h : Awaited R start last ss) (hfirst : start ≤ first)
    (hnew : ∀ i j, first ≤ i → R i j → i ∉ last) (hss : ∀ s ∈ ss, first ≤ s.1) :
    (findFrom program text first).map Match.span = ss.head? := by
  cases ss with
  | nil =>
    rw [findFrom_eq_none hR fun i j hi hij =>
      List.not_mem_nil (h.mem (by omega) (hnew i j hi hij) hij)]
    rfl
  | cons s ss =>
    obtain ⟨hs, -, hle, -⟩ := h.new s List.mem_cons_self
    obtain ⟨m, hm, hspan⟩ :=
      exists_findFrom hR hs (hss s List.mem_cons_self) fun i j hi hij => by
      cases h.head_le (by omega) (hnew i j hi hij) hij with
      | inl heq => exact .inl heq
      | inr hlt => exact .inr (by omega)
    rw [hm, List.head?_cons, Option.map_some, hspan]

/-- The next match is the first stretch that is awaited. An empty match that is found once
more is passed over. -/
theorem map_span_findNext (h : Awaited R start last ss) :
    (findNext program text start last).map Match.span = ss.head? := by
  -- What may be found once more is an empty match where the last one stopped.
  by_cases hagain : start ∈ last ∧ R start start
  · obtain ⟨hlast, hempty⟩ := hagain
    obtain ⟨m, hm, hspan⟩ := exists_findFrom hR (s := (start, start)) hempty (Nat.le_refl _)
      fun i j hi hij => by
        rcases Nat.eq_or_lt_of_le hi with rfl | hlt
        · rcases h.all _ _ hi hij with hmem | ⟨-, rfl⟩
          · exact absurd hlast (h.new _ hmem).2.2.2
          · exact .inl rfl
        · exact .inr hlt
    have hnext : findNext program text start last = findFrom program text (start + 1) := by
      obtain ⟨hstart, hstop⟩ := Prod.ext_iff.1 hspan
      have hskip : m.start = m.stop ∧ last = some m.stop :=
        ⟨hstart.trans hstop.symm, hlast.trans (congrArg some hstop.symm)⟩
      rw [findNext, hm]
      exact if_pos hskip
    rw [hnext]
    refine map_span_findFrom hR h (Nat.le_succ _) (fun i j hi _ hl => ?_) fun s hs => ?_
    · have := h.before i hl
      omega
    · obtain ⟨-, hle, -, hnew⟩ := h.new s hs
      exact Nat.lt_of_le_of_ne hle fun heq => hnew (heq ▸ hlast)
  · have hnew (i j : Nat) (hi : start ≤ i) (hij : R i j) : i ∉ last := by
      intro hl
      obtain rfl := h.before i hl
      rcases h.all _ _ hi hij with hmem | ⟨-, rfl⟩
      · exact (h.new _ hmem).2.2.2 hl
      · exact hagain ⟨hl, hij⟩
    have hfind := map_span_findFrom hR h (Nat.le_refl _) hnew fun s hs => (h.new s hs).2.1
    rw [findNext]
    cases hfound : findFrom program text start with
    | none =>
      rw [hfound] at hfind
      exact hfind
    | some m =>
      rw [hfound] at hfind
      obtain ⟨h1, h2, h3, haccepts, -⟩ := findFrom_some hfound
      have hlast := hnew _ _ h1 ((hR _ _).2 ⟨h2.trans h3, haccepts⟩)
      have hskip : ¬(m.start = m.stop ∧ last = some m.stop) := fun hskip =>
        hlast (hskip.1 ▸ hskip.2)
      exact (congrArg _ (if_neg hskip)).trans hfind

theorem map_span_matchesFrom {bound : Nat} (h : Awaited R start last ss)
    (hbound : ss.length ≤ bound) :
    (matchesFrom program text bound start last).map Match.span = ss := by
  induction bound generalizing start last ss with
  | zero => exact (List.length_eq_zero_iff.1 (Nat.le_zero.1 hbound)).symm
  | succ bound ih =>
    have hnext := map_span_findNext hR h
    rw [matchesFrom]
    cases ss with
    | nil =>
      rw [Option.map_eq_none_iff.1 hnext]
      rfl
    | cons s ss =>
      obtain ⟨m, hm, rfl⟩ := Option.map_eq_some_iff.1 hnext
      rw [hm]
      exact congrArg _ (ih h.tail (Nat.le_of_succ_le_succ hbound))

/-- If the stretches that a program accepts lie apart, they are its matches, the empty ones as
well. -/
theorem map_span_allMatches_of_lieApart (hapart : LieApart ss)
    (hss : ∀ i j, R i j ↔ (i, j) ∈ ss) :
    (allMatches program text).map Match.span = ss := by
  have hplaces (s : Nat × Nat) (hs : s ∈ ss) : 0 ≤ s.1 ∧ s.1 ≤ s.2 ∧ s.2 ≤ text.size := by
    obtain ⟨hsize, haccepts⟩ := (hR s.1 s.2).1 ((hss _ _).2 hs)
    exact ⟨Nat.zero_le _, haccepts.place_le hsize⟩
  refine map_span_matchesFrom hR ⟨by simp, hapart, fun s hs => ?_, fun i j _ hij => ?_⟩
    (length_le_of_lieApart hapart hplaces)
  · exact ⟨(hss _ _).2 hs, Nat.zero_le _, (hplaces s hs).2.1, by simp⟩
  · exact .inl ((hss i j).1 hij)

end Apart

/-- If only empty stretches are accepted, there is a match at every place of the text. -/
theorem map_span_allMatches_of_empty
    (h : ∀ i j, i ≤ text.size → (program.Accepts text i j ↔ i = j)) :
    (allMatches program text).map Match.span =
      (List.range (text.size + 1)).map fun i => (i, i) := by
  refine map_span_allMatches_of_lieApart
    (R := fun i j => i ≤ text.size ∧ program.Accepts text i j)
    (fun _ _ => Iff.rfl) ?_ fun i j => ?_
  · exact List.pairwise_map.2 List.pairwise_lt_range
  · simp only [List.mem_map, List.mem_range, Nat.lt_succ_iff, Prod.mk.injEq]
    constructor
    · rintro ⟨hi, haccepts⟩
      exact ⟨i, hi, rfl, (h i j hi).1 haccepts⟩
    · rintro ⟨k, hk, rfl, rfl⟩
      exact ⟨hk, (h k k hk).2 rfl⟩

end PatternAssembly
