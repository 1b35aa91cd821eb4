import PatternAssembly.Proofs.Expr.Matches
import PatternAssembly.Proofs.Program.Scan

/-!
# Windows of a text

A window of a text that shows a word is a stretch of it that equals the word character by
character, in a given sense of equality. The windows are taken from left to right: the
leftmost one, then the leftmost one behind its end, and so forth.

## Main definitions

* `Text.windows`: the windows that show a word
* `Shows`: a stretch between two places shows a word

## Main statements

* `Text.windows_append`, `Text.windows_cons`: how windows are taken
* `shows_iff_exists`: a stretch that shows a word, with what is before it and behind it
* `windows_of_scan`: a scan of the stretches that show a word takes its windows
-/
namespace PatternAssembly

namespace Text

variable {α : Type} (same : α → α → Bool) (word : List α)

/-- The windows that show a word, where the next `skip` elements belong to the window
before. -/
def windowsAfter : (skip : Nat) → List α → List (List α)
  | _, [] => []
  | skip + 1, _ :: t => windowsAfter skip t
  | 0, c :: t =>
    let window := (c :: t).take word.length
    if word.isEqv window same then window :: windowsAfter (word.length - 1) t
    else windowsAfter 0 t

/-- The windows that show a word, from left to right; each starts behind the one before it. -/
def windows (t : List α) : List (List α) := windowsAfter same word 0 t

variable {same word}

theorem windowsAfter_eq_drop (skip : Nat) (t : List α) :
    windowsAfter same word skip t = windows same word (t.drop skip) := by
  induction t generalizing skip with
  | nil => simp [windows, windowsAfter]
  | cons c t ih =>
    cases skip with
    | zero => rfl
    | succ skip => simpa [windowsAfter] using ih skip

@[simp] theorem windows_nil : windows same word [] = [] := rfl

theorem length_eq_of_isEqv {as bs : List α} (h : as.isEqv bs same = true) :
    as.length = bs.length := by
  rw [List.isEqv_eq_decide] at h
  split at h
  · assumption
  · simp at h

/-- A window in front is taken, and the others are taken from its end on. -/
theorem windows_append {window : List α} (hword : word ≠ [])
    (h : word.isEqv window same = true) (t : List α) :
    windows same word (window ++ t) = window :: windows same word t := by
  have hlength := length_eq_of_isEqv h
  have htake : (window ++ t).take word.length = window := by rw [hlength, List.take_left]
  cases window with
  | nil => exact absurd (List.length_eq_zero_iff.1 hlength) hword
  | cons c window =>
    rw [List.cons_append] at htake ⊢
    rw [windows, windowsAfter]
    simp only [htake, h, if_true]
    rw [windowsAfter_eq_drop, hlength, List.length_cons, Nat.add_sub_cancel, List.drop_left]

/-- Where no window is in front, the windows are taken from the next character on. -/
theorem windows_cons {c : α} {t : List α}
    (h : ¬ word.isEqv ((c :: t).take word.length) same = true) :
    windows same word (c :: t) = windows same word t := by
  rw [windows, windowsAfter]
  simp only [h, if_false, Bool.false_eq_true]
  rfl

/-- Two windows do not share a character. -/
example : windows (· == ·) ['a', 'a'] ['a', 'a', 'a', 'b', 'a', 'a'] =
    [['a', 'a'], ['a', 'a']] := by decide

end Text

open Text

/-! ## Scans -/

variable {text : Array Char} {same : Char → Char → Bool} {word : List Char}

/-- The stretch between two places of a text shows a word. -/
def Shows (same : Char → Char → Bool) (word : List Char) (text : Array Char) (i j : Nat) :
    Prop :=
  i ≤ j ∧ j ≤ text.size ∧ word.isEqv (slice text i j) same = true

theorem length_slice {i j : Nat} (hij : i ≤ j) (hj : j ≤ text.size) :
    (slice text i j).length = j - i := by
  simp only [slice, Array.toList_extract, List.extract_eq_take_drop, List.length_take,
    List.length_drop, Array.length_toList]
  omega

/-- The middle one of three parts of a text. -/
theorem slice_middle {before middle after : List Char}
    (h : text.toList = before ++ middle ++ after) :
    slice text before.length (before.length + middle.length) = middle := by
  rw [slice, Array.toList_extract, List.extract_eq_take_drop, h, List.append_assoc,
    List.drop_left, Nat.add_sub_cancel_left, List.take_left]

theorem Shows.stop_eq {i j : Nat} (h : Shows same word text i j) : j = i + word.length := by
  obtain ⟨hij, hj, h⟩ := h
  have hlength := length_eq_of_isEqv h
  rw [length_slice hij hj] at hlength
  omega

theorem Shows.stop_unique {i j k : Nat} (h : Shows same word text i j)
    (h' : Shows same word text i k) : j = k := h.stop_eq.trans h'.stop_eq.symm

theorem Shows.lt {i j : Nat} (h : Shows same word text i j) (hword : word ≠ []) : i < j := by
  have hlength := List.length_pos_iff.2 hword
  have := h.stop_eq
  omega

/-- A stretch that shows a word does so with less regard to differences. -/
theorem Shows.mono {same' : Char → Char → Bool} {i j : Nat}
    (hsame : ∀ c d, same c d = true → same' c d = true) (h : Shows same word text i j) :
    Shows same' word text i j := by
  obtain ⟨hij, hj, h⟩ := h
  refine ⟨hij, hj, ?_⟩
  generalize slice text i j = window at h ⊢
  induction word generalizing window with
  | nil =>
    cases window with
    | nil => rfl
    | cons d window => simp at h
  | cons c word ih =>
    cases window with
    | nil => simp at h
    | cons d window =>
      rw [List.isEqv_cons_cons, Bool.and_eq_true] at h ⊢
      exact ⟨hsame c d h.1, ih window h.2⟩

/-- A stretch that shows a word is a part of the text. -/
theorem shows_iff_exists {text : List Char} {i j : Nat} :
    Shows same word text.toArray i j ↔
      ∃ before window after, text = before ++ window ++ after ∧ i = before.length ∧
        j = before.length + window.length ∧ word.isEqv window same = true := by
  constructor
  · rintro ⟨hij, hj, h⟩
    refine ⟨slice text.toArray 0 i, slice text.toArray i j,
      slice text.toArray j text.toArray.size, ?_, ?_, ?_, h⟩
    · rw [slice_append (Nat.zero_le i) hij, slice_append (Nat.zero_le j) hj]
      exact (slice_zero_size text.toArray).symm
    · rw [length_slice (Nat.zero_le i) (hij.trans hj), Nat.sub_zero]
    · rw [length_slice (Nat.zero_le i) (hij.trans hj), length_slice hij hj]
      omega
  · rintro ⟨before, window, after, rfl, rfl, rfl, h⟩
    refine ⟨Nat.le_add_right _ _, ?_, ?_⟩
    · simp only [List.size_toArray, List.length_append]
      omega
    · rwa [slice_middle rfl]

/-- A stretch in front shows a word if it does so as a window. -/
theorem exists_shows_iff {start : Nat} (hstart : start ≤ text.size) :
    (∃ j, Shows same word text start j) ↔
      word.isEqv ((slice text start text.size).take word.length) same = true := by
  have htake {j : Nat} (hij : start ≤ j) (hj : j ≤ text.size) :
      (slice text start text.size).take (j - start) = slice text start j := by
    rw [← slice_append hij hj, ← length_slice hij hj, List.take_left]
  constructor
  · rintro ⟨j, h⟩
    have hlength := h.stop_eq
    obtain ⟨hij, hj, h⟩ := h
    rwa [show word.length = j - start by omega, htake hij hj]
  · intro h
    have hlength := length_eq_of_isEqv h
    rw [List.length_take, length_slice hstart (Nat.le_refl _)] at hlength
    have hj : start + word.length ≤ text.size := by omega
    rw [← Nat.add_sub_cancel_left start word.length, htake (by omega) hj] at h
    exact ⟨start + word.length, by omega, hj, h⟩

/-- A scan of the stretches that show a word takes its windows. -/
theorem windows_of_scan (hword : word ≠ []) {start : Nat} {ss : List (Nat × Nat)}
    (h : Scan (Shows same word text) start ss) (hstart : start ≤ text.size) :
    windows same word (slice text start text.size) = ss.map fun s => slice text s.1 s.2 := by
  induction hn : text.size - start using Nat.strong_induction_on generalizing start ss with
  | _ n ih =>
    by_cases hfront : ∃ j, Shows same word text start j
    · obtain ⟨j, hj⟩ := hfront
      obtain ⟨rest, rfl, hrest⟩ := h.eq_cons (fun _ _ _ => Shows.stop_unique) hj
      have hlt := hj.lt hword
      obtain ⟨hij, hsize, hshows⟩ := hj
      rw [← slice_append hij hsize, windows_append hword hshows,
        ih (text.size - j) (by omega) hrest hsize rfl]
      rfl
    · have htail := h.tail fun j hj => hfront ⟨j, hj⟩
      rw [exists_shows_iff hstart] at hfront
      rcases Nat.eq_or_lt_of_le hstart with rfl | hlt
      · cases ss with
        | nil => simp [slice_self]
        | cons s ss =>
          obtain ⟨hle, ⟨hij, hj, -⟩, -⟩ := htail
          omega
      · have hcons := slice_eq_cons hlt (Nat.le_refl text.size)
        rw [hcons] at hfront ⊢
        rw [windows_cons hfront, ih (text.size - (start + 1)) (by omega) htail hlt rfl]

end PatternAssembly
