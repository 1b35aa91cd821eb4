import Mathlib.Algebra.Order.BigOperators.Group.List
import Mathlib.Algebra.Order.Group.Nat
import Mathlib.Data.List.Perm.Subperm
import PatternAssembly.Matcher

/-!
# Sets of characters fit

The memory of a set grows with the number of ranges that it consists of, and with nothing
else: a range is cut into few products of byte ranges, none of them longer than a character.
Membership of a set turns only at its members or right behind them, and a combination of sets
turns only where one of them does. So the sets that a pattern names by a letter fit, and those
of some ASCII characters, however many times these are written.

## Main statements

* `Turns.holds_of_mem`: membership differs before and after a turn
* `length_turns_le`, `length_turns_compl_le`: how many turns a set has
* `length_byteStringsOf_le`: how many products a range is cut into
* `unshared_take_le`, `fits_ofSet`: what a set needs
-/
namespace PatternAssembly

/-! ## Turns -/

/-- At a turn, membership is not what it is before. -/
theorem Turns.holds_of_mem {b : Bool} {ts : List Nat} (h : ts.Pairwise (· < ·)) {t : Nat}
    (ht : t ∈ ts) : holds b ts t = !(if t = 0 then b else holds b ts (t - 1)) := by
  induction ts generalizing b with
  | nil => cases ht
  | cons u us ih =>
    obtain ⟨hu, hus⟩ := List.pairwise_cons.1 h
    rcases List.mem_cons.1 ht with rfl | ht
    · have hbefore : (if t = 0 then b else holds b (t :: us) (t - 1)) = b := by
        split
        · rfl
        · rw [holds, if_pos (by omega)]
      rw [hbefore, holds, if_neg (Nat.lt_irrefl t), holds_of_lt hu]
    · have hlt := hu t ht
      rw [holds, holds, if_neg (by omega), if_neg (by omega), if_neg (by omega), ih hus ht,
        if_neg (by omega)]

namespace CharSet

variable {s : CharSet}

/-- A turn is at a member, or right behind one. -/
theorem hasCode_of_mem_turns {t : Nat} (h : t ∈ s.turns) :
    s.hasCode t = true ∨ t ≠ 0 ∧ s.hasCode (t - 1) = true := by
  have hturn : s.hasCode t = !(if t = 0 then false else s.hasCode (t - 1)) :=
    Turns.holds_of_mem s.ascending h
  by_cases ht : t = 0
  · rw [if_pos ht] at hturn
    exact .inl hturn
  · rw [if_neg ht] at hturn
    cases hbefore : s.hasCode (t - 1) with
    | false => exact .inl (hturn.trans (by rw [hbefore]; rfl))
    | true => exact .inr ⟨ht, rfl⟩

/-- A set has no more turns than there are places for them. -/
theorem length_turns_le_of_subset {places : List Nat} (h : s.turns ⊆ places) :
    s.turns.length ≤ places.length := by
  have hnodup : s.turns.Nodup := s.ascending.imp Nat.ne_of_lt
  exact (hnodup.subperm h).length_le

/-- A set of some of the given code points has at most two turns for each of them. -/
theorem length_turns_le {codes : List Nat} (h : ∀ n, s.hasCode n = true → n ∈ codes) :
    s.turns.length ≤ 2 * codes.length := by
  have hplaces : s.turns ⊆ codes ++ codes.map (· + 1) := by
    intro t ht
    rcases hasCode_of_mem_turns ht with hat | ⟨hpos, hbefore⟩
    · exact List.mem_append_left _ (h t hat)
    · refine List.mem_append_right _ (List.mem_map.2 ⟨t - 1, h _ hbefore, ?_⟩)
      omega
  have hlength := length_turns_le_of_subset hplaces
  rw [List.length_append, List.length_map] at hlength
  omega

theorem length_turns_combine_le (f : Bool → Bool → Bool) (s t : CharSet) :
    (combine f s t).turns.length ≤ s.turns.length + t.turns.length := by
  rw [← List.length_append]
  exact length_turns_le_of_subset fun u hu => List.mem_append.2 (Turns.mem_of_mem_merge hu)

/-- The characters outside of a set have hardly more turns than it. -/
theorem length_turns_compl_le (s : CharSet) : (compl s).turns.length ≤ 4 + s.turns.length :=
  length_turns_combine_le _ full s

theorem length_pieces_le (s : CharSet) : s.pieces.length ≤ s.turns.length := by
  rw [pieces]
  fun_induction between s.turns with
  | case1 | case2 => exact Nat.le_refl _
  | case3 lo stop rest ih =>
    simp only [List.length_cons]
    omega

/-! ## Bytes -/

/-- What may be left out is no longer without it. -/
theorem length_ite_le {p : Prop} [Decidable p] {parts : List (Nat × Nat)} {n : Nat}
    (h : parts.length ≤ n) : (if p then parts else []).length ≤ n := by
  split
  · exact h
  · exact Nat.zero_le n

theorem length_blocks_le (levels size lo hi : Nat) :
    (blocks levels size lo hi).length ≤ 2 * levels + 1 := by
  induction levels generalizing size lo hi with
  | zero => exact Nat.le_refl 1
  | succ levels ih =>
    rw [blocks]
    split
    · exact Nat.le_add_left 1 _
    · rw [List.length_append, List.length_append]
      calc _ ≤ 1 + (2 * levels + 1) + 1 :=
            Nat.add_le_add
              (Nat.add_le_add (length_ite_le (Nat.le_of_eq List.length_singleton))
                (length_ite_le (ih _ _ _)))
              (length_ite_le (Nat.le_of_eq List.length_singleton))
        _ = 2 * (levels + 1) + 1 := by omega

theorem length_bytesOf_singleton_le (c : Char) : (bytesOf [c]).length ≤ 4 := by
  rw [bytesOf, List.flatMap_singleton, List.length_map, String.length_utf8EncodeChar]
  exact c.utf8Size_le_four

/-- A product has a range for each byte of a character. -/
theorem length_le_of_mem_byteStringsOf {lo hi : Nat} {ranges : List ByteRange}
    (h : ranges ∈ byteStringsOf lo hi) : ranges.length ≤ 4 := by
  obtain ⟨part, -, h⟩ := List.mem_flatMap.1 h
  simp only at h
  split at h
  · cases h
  · split at h
    · rw [List.mem_singleton.1 h]
      exact Nat.le_add_left 1 3
    · obtain ⟨block, -, rfl⟩ := List.mem_map.1 h
      rw [List.length_zip]
      exact (Nat.min_le_left _ _).trans (length_bytesOf_singleton_le _)

/-- A range is cut into few products: at most seven for each length of a character in
bytes. -/
theorem length_byteStringsOf_le (lo hi : Nat) : (byteStringsOf lo hi).length ≤ 35 := by
  rw [byteStringsOf, List.length_flatMap]
  refine List.sum_le_card_nsmul _ 7 fun n hn => ?_
  obtain ⟨part, -, rfl⟩ := List.mem_map.1 hn
  simp only
  split
  · exact Nat.zero_le 7
  · split
    · exact Nat.le_add_left 1 6
    · rw [List.length_map]
      exact length_blocks_le 3 64 _ _

theorem length_byteStrings_le (s : CharSet) :
    s.byteStrings.length ≤ 35 * s.pieces.length := by
  rw [byteStrings, List.length_flatMap, Nat.mul_comm,
    ← List.length_map (fun piece : Nat × Nat => (byteStringsOf piece.1 piece.2).length)]
  refine List.sum_le_card_nsmul _ 35 fun n hn => ?_
  obtain ⟨piece, -, rfl⟩ := List.mem_map.1 hn
  exact length_byteStringsOf_le _ _

end CharSet

/-! ## Expressions -/

namespace Expr

/-- The memory of a set, by the number of its ranges: each product takes 164 bytes at most. -/
theorem unshared_take_le (s : CharSet) : (take s).unshared ≤ 64 + 5740 * s.pieces.length := by
  show (if s.isAscii then 64 + 8 * s.pieces.length
    else 64 + (s.byteStrings.map fun ranges => 4 + 40 * ranges.length).sum) ≤ _
  split
  · omega
  · have hsum : (s.byteStrings.map fun ranges => 4 + 40 * ranges.length).sum ≤
        s.byteStrings.length * 164 := by
      rw [← List.length_map (fun ranges : List ByteRange => 4 + 40 * ranges.length)]
      refine List.sum_le_card_nsmul _ 164 fun n hn => ?_
      obtain ⟨ranges, hranges, rfl⟩ := List.mem_map.1 hn
      obtain ⟨piece, -, hranges⟩ := List.mem_flatMap.1 hranges
      have := CharSet.length_le_of_mem_byteStringsOf hranges
      omega
    have hlength := s.length_byteStrings_le
    omega

/-- A set of one character is a text, which takes as much for each of its bytes. -/
theorem unshared_ofSet_le (s : CharSet) :
    (ofSet s).unshared ≤ 304 + 5740 * s.pieces.length := by
  have htake : (take s).unshared ≤ 304 + 5740 * s.pieces.length :=
    (unshared_take_le s).trans (by omega)
  rw [ofSet]
  split
  · rename_i lo hi _
    split
    · have hbytes := CharSet.length_bytesOf_singleton_le (Char.ofNat lo)
      show 76 * (bytesOf [Char.ofNat lo]).length ≤ _
      omega
    · exact htake
  · exact htake

/-- A set with few turns fits. -/
theorem fits_ofSet {s : CharSet} (h : s.turns.length ≤ 1800) :
    (ofSet s).fits sizeLimit = true := by
  have hunshared := unshared_ofSet_le s
  have hpieces := s.length_pieces_le
  have hle : (ofSet s).unshared + 208 ≤ sizeLimit := by
    rw [sizeLimit]
    omega
  rw [fits, decide_eq_true hle, Bool.true_or]

end Expr

end PatternAssembly
