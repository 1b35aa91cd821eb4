/-!
# Turns of membership

A set of numbers that consists of few ranges is known by the numbers at which membership
turns: where a range starts, and where it is over. Two such lists are merged into the turns of
any combination of the two sets, and the merged list has no turn that changes nothing.

## Main definitions

* `Turns.holds`: membership, told by the turns up to a number
* `Turns.merge`: the turns of a combination of two sets, with `Turns.holds_merge`
-/
namespace PatternAssembly.Turns

/-- Membership of `n`, when it is `b` before the first turn. -/
def holds (b : Bool) : List Nat → Nat → Bool
  | [], _ => b
  | t :: ts, n => if n < t then b else holds (!b) ts n

/-- The turn `t`, if membership differs before and after it, and later turns. -/
def turnAt (before after : Bool) (t : Nat) (later : List Nat) : List Nat :=
  if before = after then later else t :: later

/-- The turns of `f a ·` over a set that starts with membership `b`. -/
def mapTurns (f : Bool → Bool) (b : Bool) : List Nat → List Nat
  | [] => []
  | t :: ts => turnAt (f b) (f !b) t (mapTurns f (!b) ts)

/-- Merges the turn `x` of the first set with the turns of the second; `next` merges what
follows. -/
def mergeOne (f : Bool → Bool → Bool) (x : Nat) (next : Bool → Bool → List Nat → List Nat)
    (a b : Bool) : List Nat → List Nat
  | [] => turnAt (f a b) (f (!a) b) x (next (!a) b [])
  | y :: ys =>
    if x < y then turnAt (f a b) (f (!a) b) x (next (!a) b (y :: ys))
    else if y < x then turnAt (f a b) (f a !b) y (mergeOne f x next a (!b) ys)
    else turnAt (f a b) (f (!a) !b) x (next (!a) (!b) ys)

/-- The turns of the combination of two sets by `f`, from their turns and from what membership
is before the first ones. -/
def merge (f : Bool → Bool → Bool) : List Nat → Bool → Bool → List Nat → List Nat
  | [], a, b, ys => mapTurns (f a) b ys
  | x :: xs, a, b, ys => mergeOne f x (merge f xs) a b ys

/-- Before the first turn, membership is what it starts with. -/
theorem holds_of_lt {b : Bool} {ts : List Nat} {n : Nat} (h : ∀ t ∈ ts, n < t) :
    holds b ts n = b := by
  cases ts with
  | nil => rfl
  | cons t ts => simp [holds, h t (by simp)]

/-- Membership with a turn that may be left out: it is enough that the rest is right from the
turn on, and does not turn before it. -/
theorem holds_turnAt {p q : Bool} {t n : Nat} {later : List Nat}
    (h : n < t → holds q later n = q) :
    holds p (turnAt p q t later) n = if n < t then p else holds q later n := by
  by_cases hpq : p = q
  · subst hpq
    by_cases hn : n < t <;> simp [turnAt, hn, h]
  · have : (!p) = q := by revert hpq; cases p <;> cases q <;> simp
    simp [turnAt, hpq, holds, this]

theorem holds_mapTurns (f : Bool → Bool) (b : Bool) {ts : List Nat} (h : ts.Pairwise (· < ·))
    (n : Nat) : holds (f b) (mapTurns f b ts) n = f (holds b ts n) := by
  induction ts generalizing b with
  | nil => rfl
  | cons t ts ih =>
    obtain ⟨ht, hts⟩ := List.pairwise_cons.1 h
    rw [mapTurns, holds_turnAt, ih (!b) hts, holds]
    · split <;> rfl
    · intro hn
      rw [ih (!b) hts, holds_of_lt fun u hu => Nat.lt_trans hn (ht u hu)]

theorem holds_cons (b : Bool) (t : Nat) (ts : List Nat) (n : Nat) :
    holds b (t :: ts) n = if n < t then b else holds (!b) ts n := rfl

/-- The merged turns tell the combination. -/
theorem holds_merge (f : Bool → Bool → Bool) {xs : List Nat} (hx : xs.Pairwise (· < ·))
    (a b : Bool) {ys : List Nat} (hy : ys.Pairwise (· < ·)) (n : Nat) :
    holds (f a b) (merge f xs a b ys) n = f (holds a xs n) (holds b ys n) := by
  -- The list with the smaller turn gets shorter; the inner induction serves while the first
  -- list waits.
  induction xs generalizing a b ys with
  | nil => exact holds_mapTurns (f a) b hy n
  | cons x xs ihx =>
    obtain ⟨hx1, hxs⟩ := List.pairwise_cons.1 hx
    have before (c : Bool) (h : n < x) : holds c xs n = c :=
      holds_of_lt fun u hu => Nat.lt_trans h (hx1 u hu)
    induction ys generalizing b with
    | nil =>
      have ih := @ihx hxs (!a) b [] List.Pairwise.nil
      rw [merge, mergeOne, holds_turnAt, ih, holds_cons a]
      · split <;> rfl
      · intro hn
        rw [ih, before _ hn]; rfl
    | cons y ys ihy =>
      obtain ⟨hy1, hys⟩ := List.pairwise_cons.1 hy
      have before' (c : Bool) (h : n < y) : holds c ys n = c :=
        holds_of_lt fun u hu => Nat.lt_trans h (hy1 u hu)
      rw [merge, mergeOne]
      by_cases hxy : x < y
      · have ih := ihx hxs (!a) b hy
        rw [if_pos hxy, holds_turnAt, ih, holds_cons a]
        · by_cases hn : n < x
          · rw [if_pos hn, if_pos hn, holds_cons b, if_pos (by omega)]
          · rw [if_neg hn, if_neg hn]
        · intro hn
          rw [ih, before _ hn, holds_cons b, if_pos (by omega)]
      · rw [if_neg hxy]
        by_cases hyx : y < x
        · have ih := ihy (!b) hys
          rw [merge] at ih
          rw [if_pos hyx, holds_turnAt, ih, holds_cons b]
          · by_cases hn : n < y
            · rw [if_pos hn, if_pos hn, holds_cons a, if_pos (by omega)]
            · rw [if_neg hn, if_neg hn]
          · intro hn
            rw [ih, before' _ hn, holds_cons a, if_pos (by omega)]
        · have hxy : y = x := by omega
          subst hxy
          have ih := ihx hxs (!a) (!b) hys
          rw [if_neg hyx, holds_turnAt, ih, holds_cons a, holds_cons b]
          · split <;> rfl
          · intro hn
            rw [ih, before _ hn, before' _ hn]

theorem mem_of_mem_turnAt {p q : Bool} {t u : Nat} {later : List Nat}
    (h : u ∈ turnAt p q t later) : u = t ∨ u ∈ later := by
  unfold turnAt at h
  split at h
  · exact .inr h
  · exact List.mem_cons.1 h

theorem mem_of_mem_mapTurns {f : Bool → Bool} {b : Bool} {ts : List Nat} {u : Nat}
    (h : u ∈ mapTurns f b ts) : u ∈ ts := by
  induction ts generalizing b with
  | nil => simp [mapTurns] at h
  | cons t ts ih =>
    rcases mem_of_mem_turnAt h with rfl | h
    · simp
    · exact List.mem_cons_of_mem _ (ih h)

/-- Merging adds no turns. -/
theorem mem_of_mem_merge {f : Bool → Bool → Bool} {xs ys : List Nat} {a b : Bool} {u : Nat}
    (h : u ∈ merge f xs a b ys) : u ∈ xs ∨ u ∈ ys := by
  induction xs generalizing a b ys with
  | nil => exact .inr (mem_of_mem_mapTurns h)
  | cons x xs ihx =>
    induction ys generalizing b with
    | nil =>
      rcases mem_of_mem_turnAt h with rfl | h
      · simp
      · rcases ihx h with h | h <;> simp_all
    | cons y ys ihy =>
      rw [merge, mergeOne] at h
      split at h
      · rcases mem_of_mem_turnAt h with rfl | h
        · simp
        · rcases ihx h with h | h
          · simp [h]
          · exact .inr h
      · split at h
        · rcases mem_of_mem_turnAt h with rfl | h
          · simp
          · rcases ihy h with h | h
            · exact .inl h
            · simp [h]
        · rcases mem_of_mem_turnAt h with rfl | h
          · simp
          · rcases ihx h with h | h <;> simp [h]

theorem pairwise_turnAt {p q : Bool} {t : Nat} {later : List Nat} (h : later.Pairwise (· < ·))
    (ht : ∀ u ∈ later, t < u) : (turnAt p q t later).Pairwise (· < ·) := by
  unfold turnAt
  split
  · exact h
  · exact List.pairwise_cons.2 ⟨ht, h⟩

theorem pairwise_mapTurns {f : Bool → Bool} {b : Bool} {ts : List Nat}
    (h : ts.Pairwise (· < ·)) :
    (mapTurns f b ts).Pairwise (· < ·) := by
  induction ts generalizing b with
  | nil => exact .nil
  | cons t ts ih =>
    obtain ⟨ht, hts⟩ := List.pairwise_cons.1 h
    exact pairwise_turnAt (ih hts) fun u hu => ht u (mem_of_mem_mapTurns hu)

/-- Merged turns ascend. -/
theorem pairwise_merge {f : Bool → Bool → Bool} {xs : List Nat} (hx : xs.Pairwise (· < ·))
    {a b : Bool} {ys : List Nat} (hy : ys.Pairwise (· < ·)) :
    (merge f xs a b ys).Pairwise (· < ·) := by
  induction xs generalizing a b ys with
  | nil => exact pairwise_mapTurns hy
  | cons x xs ihx =>
    obtain ⟨hx1, hxs⟩ := List.pairwise_cons.1 hx
    induction ys generalizing b with
    | nil =>
      refine pairwise_turnAt (ihx hxs hy) fun u hu => ?_
      rcases mem_of_mem_merge hu with h | h
      · exact hx1 u h
      · simp at h
    | cons y ys ihy =>
      obtain ⟨hy1, hys⟩ := List.pairwise_cons.1 hy
      rw [merge, mergeOne]
      split
      · refine pairwise_turnAt (ihx hxs hy) fun u hu => ?_
        rcases mem_of_mem_merge hu with h | h
        · exact hx1 u h
        · rcases List.mem_cons.1 h with rfl | h
          · assumption
          · have := hy1 u h; omega
      · split
        · refine pairwise_turnAt (ihy hys) fun u hu => ?_
          have hu : u ∈ merge f (x :: xs) a (!b) ys := hu
          rcases mem_of_mem_merge hu with h | h
          · rcases List.mem_cons.1 h with rfl | h
            · assumption
            · have := hx1 u h; omega
          · exact hy1 u h
        · refine pairwise_turnAt (ihx hxs hys) fun u hu => ?_
          rcases mem_of_mem_merge hu with h | h
          · exact hx1 u h
          · have := hy1 u h; omega

end PatternAssembly.Turns
