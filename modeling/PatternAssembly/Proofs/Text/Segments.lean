import Mathlib.Data.List.TakeWhile
import PatternAssembly.Proofs.Text.Anchored

/-!
# Segments of a text

Where anchors hold at line ends, a text consists of segments: a newline ends one, a carriage
return does so too, and a carriage return with a newline behind it is one end. The segment
behind the last end counts as well, also if it is empty. A word that has to start where a
segment does, or to end where one does, lies flush in a segment: in each segment once at most,
so these places lie apart, even if the word is empty.

## Main definitions

* `Text.segments`: the segments of a text
* `Text.LineEnd`: what ends a line in front of a rest
* `StartsLine`, `EndsLine`: a line starts, or ends, at a place of a text
* `Bordered`, `Flush`: a word at the ends of lines, and at the ends of a whole text
* `Counted`: there are so many stretches, and they lie apart

## Main statements

* `Text.induction_on_segments`: induction on the segments of a text
* `bordered_append_iff`: a bordered word in a line and in the text behind it
* `counted_bordered`: there are as many stretches as segments in which the word lies flush
-/
namespace PatternAssembly

/-! ## Segments -/

namespace Text

/-- The segments of a text. -/
def segments : List Char → List (List Char)
  | [] => [[]]
  | '\r' :: '\n' :: rest => [] :: segments rest
  | c :: rest =>
    if isBreak c then [] :: segments rest else (segments rest).modifyHead (c :: ·)

/-- A newline, or both characters; or a carriage return, which no newline follows. -/
def LineEnd (stop rest : List Char) : Prop :=
  stop = ['\n'] ∨ stop = ['\r', '\n'] ∨ stop = ['\r'] ∧ rest.head? ≠ some '\n'

variable {line stop rest : List Char}

theorem segments_of_break (h : LineEnd stop rest) :
    segments (stop ++ rest) = [] :: segments rest := by
  rcases h with rfl | rfl | ⟨rfl, hrest⟩
  · rfl
  · rfl
  · cases rest with
    | nil => rfl
    | cons c rest =>
      have hc : c ≠ '\n' := by simpa using hrest
      rw [List.singleton_append, segments]
      · rfl
      · rintro cs - heq
        exact hc (List.cons.inj heq).1

theorem segments_cons {c : Char} (hc : isBreak c = false) (text : List Char) :
    segments (c :: text) = (segments text).modifyHead (c :: ·) := by
  rw [segments, if_neg (by simp [hc])]
  rintro cs rfl -
  exact absurd hc (by decide)

/-- A text without breaks is a segment. -/
theorem segments_of_free (h : ∀ c ∈ line, isBreak c = false) : segments line = [line] := by
  induction line with
  | nil => rfl
  | cons c line ih =>
    rw [segments_cons (h c List.mem_cons_self),
      ih fun d hd => h d (List.mem_cons_of_mem _ hd)]
    rfl

/-- A line is a segment, and behind its end come those of the rest. -/
theorem segments_append (h : ∀ c ∈ line, isBreak c = false) (hstop : LineEnd stop rest) :
    segments (line ++ stop ++ rest) = line :: segments rest := by
  induction line with
  | nil => exact segments_of_break hstop
  | cons c line ih =>
    rw [List.cons_append, List.cons_append, segments_cons (h c List.mem_cons_self),
      ih fun d hd => h d (List.mem_cons_of_mem _ hd)]
    rfl

theorem LineEnd.ne_nil (h : LineEnd stop rest) : stop ≠ [] := by
  rcases h with rfl | rfl | ⟨rfl, -⟩ <;> exact List.cons_ne_nil _ _

theorem LineEnd.breaks (h : LineEnd stop rest) : ∀ c ∈ stop, isBreak c = true := by
  rcases h with rfl | rfl | ⟨rfl, -⟩ <;> simp [isBreak]

/-- A break in front of a text ends a line. -/
theorem exists_lineEnd {c : Char} (hc : isBreak c = true) (text : List Char) :
    ∃ stop rest, c :: text = stop ++ rest ∧ LineEnd stop rest := by
  rw [isBreak, Bool.or_eq_true, beq_iff_eq, beq_iff_eq] at hc
  rcases hc with rfl | rfl
  · exact ⟨['\n'], text, rfl, .inl rfl⟩
  · by_cases hnewline : text.head? = some '\n'
    · obtain ⟨rest, rfl⟩ : ∃ rest, text = '\n' :: rest := List.head?_eq_some_iff.1 hnewline
      exact ⟨['\r', '\n'], rest, rfl, .inr (.inl rfl)⟩
    · exact ⟨['\r'], text, rfl, .inr (.inr ⟨rfl, hnewline⟩)⟩

/-- A text has no break, or it has a first line with its end and a rest. -/
theorem induction_on_segments {motive : List Char → Prop}
    (last : ∀ line, (∀ c ∈ line, isBreak c = false) → motive line)
    (append : ∀ line stop rest, (∀ c ∈ line, isBreak c = false) → LineEnd stop rest →
      motive rest → motive (line ++ stop ++ rest))
    (text : List Char) : motive text := by
  induction hn : text.length using Nat.strongRecOn generalizing text with
  | ind n ih =>
    have htext := List.takeWhile_append_dropWhile (p := (!isBreak ·)) (l := text)
    have hline : ∀ c ∈ text.takeWhile (!isBreak ·), isBreak c = false := by
      intro c hc
      simpa using List.mem_takeWhile_imp hc
    cases hdrop : text.dropWhile (!isBreak ·) with
    | nil =>
      rw [hdrop, List.append_nil] at htext
      exact htext ▸ last _ hline
    | cons c behind =>
      have hc : isBreak c = true := by
        have := List.head?_dropWhile_not (!isBreak ·) text
        simpa [hdrop] using this
      obtain ⟨stop, rest, hcons, hstop⟩ := exists_lineEnd hc behind
      rw [hdrop, hcons, ← List.append_assoc] at htext
      have hlength : rest.length < n := by
        have hpos := List.length_pos_iff.2 hstop.ne_nil
        rw [← hn, ← htext, List.length_append, List.length_append]
        omega
      exact htext ▸ append _ stop rest hline hstop (ih _ hlength rest rfl)

end Text

open Text

/-! ## Places where lines start and end -/

/-- A line starts between two parts of a text. -/
def StartsLine (before after : List Char) : Prop :=
  before = [] ∨ before.getLast? = some '\n' ∨ before.getLast? = some '\r' ∧
    after.head? ≠ some '\n'

/-- A line ends between two parts of a text. -/
def EndsLine (before after : List Char) : Prop :=
  after = [] ∨ after.head? = some '\r' ∨ after.head? = some '\n' ∧ before.getLast? ≠ some '\r'

section Places

variable {line stop rest before after : List Char}

/-- Behind characters that are no breaks, no line starts. -/
theorem startsLine_iff_of_free (h : ∀ c ∈ before, isBreak c = false) :
    StartsLine before after ↔ before = [] := by
  have hlast (c : Char) (hc : before.getLast? = some c) : isBreak c = false :=
    h c (List.mem_of_getLast? hc)
  constructor
  · rintro (hnil | hnewline | ⟨hreturn, -⟩)
    · exact hnil
    · exact absurd (hlast _ hnewline) (by decide)
    · exact absurd (hlast _ hreturn) (by decide)
  · exact .inl

/-- In front of characters that are no breaks, no line ends. -/
theorem endsLine_iff_of_free (h : ∀ c ∈ after, isBreak c = false) :
    EndsLine before after ↔ after = [] := by
  have hhead (c : Char) (hc : after.head? = some c) : isBreak c = false :=
    h c (List.mem_of_head? hc)
  constructor
  · rintro (hnil | hreturn | ⟨hnewline, -⟩)
    · exact hnil
    · exact absurd (hhead _ hreturn) (by decide)
    · exact absurd (hhead _ hnewline) (by decide)
  · exact .inl

/-- In a line, a line ends in front of what ends it. -/
theorem endsLine_append_iff_of_free (hbefore : ∀ c ∈ before, isBreak c = false)
    (hafter : ∀ c ∈ after, isBreak c = false) (hstop : LineEnd stop rest) :
    EndsLine before (after ++ (stop ++ rest)) ↔ after = [] := by
  cases after with
  | nil =>
    have hlast : before.getLast? ≠ some '\r' := fun hreturn =>
      absurd (hbefore _ (List.mem_of_getLast? hreturn)) (by decide)
    rcases hstop with rfl | rfl | ⟨rfl, -⟩ <;> simp [EndsLine, hlast]
  | cons c after =>
    have hc := hafter c List.mem_cons_self
    simp only [isBreak, Bool.or_eq_false_iff, beq_eq_false_iff_ne] at hc
    simp [EndsLine, hc.1, hc.2]

/-- Behind the end of a line, a line starts where it does in the rest. -/
theorem startsLine_append_rest_iff (hstop : LineEnd stop (before ++ after)) :
    StartsLine (line ++ stop ++ before) after ↔ StartsLine before after := by
  rcases List.eq_nil_or_concat before with rfl | ⟨start, c, rfl⟩
  · rcases hstop with rfl | rfl | ⟨rfl, hrest⟩
    · simp [StartsLine]
    · simp [StartsLine]
    · simpa [StartsLine] using hrest
  · simp [StartsLine, List.concat_eq_append, ← List.append_assoc]

/-- Behind the end of a line, a line ends where it does in the rest. -/
theorem endsLine_append_rest_iff (hstop : LineEnd stop (before ++ after)) :
    EndsLine (line ++ stop ++ before) after ↔ EndsLine before after := by
  rcases List.eq_nil_or_concat before with rfl | ⟨start, c, rfl⟩
  · rcases hstop with rfl | rfl | ⟨rfl, hrest⟩
    · simp [EndsLine]
    · simp [EndsLine]
    · simp_all [EndsLine]
  · simp [EndsLine, List.concat_eq_append, ← List.append_assoc]

end Places

/-! ## Words at the ends of lines -/

/-- A stretch of a text is a word. If the flags say so, a line starts where the stretch does,
and a line ends where the stretch does. -/
def Bordered (word : List Char) (atStart atEnd : Bool) (text : List Char) (i j : Nat) :
    Prop :=
  ∃ before after, text = before ++ word ++ after ∧ i = before.length ∧
    j = (before ++ word).length ∧
    (atStart = true → StartsLine before (word ++ after)) ∧
    (atEnd = true → EndsLine (before ++ word) after)

/-- A stretch of a text is a word. If the flags say so, it is at the start of the text, and at
its end. -/
def Flush (word : List Char) (atStart atEnd : Bool) (text : List Char) (i j : Nat) : Prop :=
  ∃ before after, text = before ++ word ++ after ∧ i = before.length ∧
    j = (before ++ word).length ∧
    (atStart = true → before = []) ∧ (atEnd = true → after = [])

variable {word line stop rest text : List Char} {atStart atEnd : Bool} {i j : Nat}

theorem Flush.le_length (h : Flush word atStart atEnd text i j) :
    i ≤ j ∧ j ≤ text.length := by
  obtain ⟨before, after, rfl, rfl, rfl, -⟩ := h
  simp only [List.length_append]
  omega

theorem Bordered.le_length (h : Bordered word atStart atEnd text i j) :
    i ≤ j ∧ j ≤ text.length := by
  obtain ⟨before, after, rfl, rfl, rfl, -⟩ := h
  simp only [List.length_append]
  omega

/-- In a text without breaks, lines start and end where the text does. -/
theorem bordered_iff_flush (h : ∀ c ∈ text, isBreak c = false) :
    Bordered word atStart atEnd text i j ↔ Flush word atStart atEnd text i j := by
  refine exists_congr fun before => exists_congr fun after => and_congr_right fun htext => ?_
  subst htext
  rw [startsLine_iff_of_free fun c hc => h c (by simp [hc]),
    endsLine_iff_of_free fun c hc => h c (by simp [hc])]

/-- A stretch without breaks, perhaps an empty one, lies before the end of a line or behind
it, or it is empty and lies inside the end. -/
theorem eq_append_or_inside {before window after : List Char} (hstop : LineEnd stop rest)
    (hfree : ∀ c ∈ window, isBreak c = false)
    (h : line ++ stop ++ rest = before ++ window ++ after) :
    (∃ between, line = before ++ window ++ between ∧ after = between ++ stop ++ rest) ∨
      (∃ between, rest = between ++ window ++ after ∧ before = line ++ stop ++ between) ∨
      window = [] ∧ before = line ++ ['\r'] ∧ after = '\n' :: rest := by
  cases window with
  | cons c window =>
    rcases eq_append_or_of_not_isBreak hstop.ne_nil hstop.breaks
      (List.cons_ne_nil c window) hfree h with hline | hrest
    · exact .inl hline
    · exact .inr (.inl hrest)
  | nil =>
    rw [List.append_nil, List.append_assoc] at h
    rcases List.append_eq_append_iff.1 h with ⟨u, rfl, htail⟩ | ⟨between, rfl, rfl⟩
    · rcases List.append_eq_append_iff.1 htail with ⟨between, rfl, rfl⟩ | ⟨v, rfl, rfl⟩
      · exact .inr (.inl ⟨between, by simp, by simp⟩)
      · rcases List.eq_nil_or_concat u with rfl | ⟨start, c, rfl⟩
        · exact .inl ⟨[], by simp, by simp⟩
        · cases v with
          | nil => exact .inr (.inl ⟨[], by simp, by simp⟩)
          | cons d v =>
            -- Only the end of two characters has a place inside.
            rcases hstop with hone | htwo | ⟨hone, -⟩
            · simp [List.concat_eq_append, List.append_eq_singleton_iff] at hone
            · obtain ⟨hlast, hhead⟩ : start.concat c = ['\r'] ∧ d :: v = ['\n'] := by
                refine List.append_inj htwo ?_
                have hlength := congrArg List.length htwo
                simp only [List.length_append, List.length_concat, List.length_cons,
                  List.length_nil] at hlength ⊢
                omega
              exact .inr (.inr ⟨rfl, by rw [hlast], by rw [hhead]; rfl⟩)
            · simp [List.concat_eq_append, List.append_eq_singleton_iff] at hone
    · exact .inl ⟨between, by simp, by simp⟩

/-- A bordered word in a line, its end and the text behind it lies flush in the line, or
bordered in the text behind. -/
theorem bordered_append_iff (hline : ∀ c ∈ line, isBreak c = false)
    (hstop : LineEnd stop rest) (hword : ∀ c ∈ word, isBreak c = false)
    (hedge : atStart = true ∨ atEnd = true) :
    Bordered word atStart atEnd (line ++ stop ++ rest) i j ↔
      Flush word atStart atEnd line i j ∨
        ∃ i' j', Bordered word atStart atEnd rest i' j' ∧
          i = (line ++ stop).length + i' ∧ j = (line ++ stop).length + j' := by
  constructor
  · rintro ⟨before, after, htext, rfl, rfl, hstart, hend⟩
    rcases eq_append_or_inside hstop hword htext with
      ⟨between, rfl, rfl⟩ | ⟨between, rfl, rfl⟩ | ⟨rfl, rfl, rfl⟩
    · left
      rw [startsLine_iff_of_free fun c hc => hline c (by simp [hc])] at hstart
      rw [List.append_assoc between, endsLine_append_iff_of_free
        (fun c hc => hline c (List.mem_append_left _ hc))
        (fun c hc => hline c (List.mem_append_right _ hc)) hstop] at hend
      exact ⟨before, between, rfl, rfl, rfl, hstart, hend⟩
    · right
      rw [List.append_assoc] at hstop
      rw [startsLine_append_rest_iff hstop] at hstart
      rw [← List.append_assoc] at hstop
      rw [List.append_assoc (line ++ stop), endsLine_append_rest_iff hstop] at hend
      refine ⟨between.length, (between ++ word).length,
        ⟨between, after, rfl, rfl, rfl, hstart, hend⟩, List.length_append, ?_⟩
      rw [List.append_assoc (line ++ stop), List.length_append]
    · -- Between a carriage return and a newline no line starts or ends.
      have hstart' : ¬StartsLine (line ++ ['\r']) ('\n' :: rest) := by simp [StartsLine]
      have hend' : ¬EndsLine (line ++ ['\r']) ('\n' :: rest) := by simp [EndsLine]
      rw [List.append_nil] at hend
      cases hedge with
      | inl h => exact absurd (hstart h) hstart'
      | inr h => exact absurd (hend h) hend'
  · rintro (⟨before, after, rfl, rfl, rfl, hstart, hend⟩ |
      ⟨i', j', ⟨before, after, rfl, rfl, rfl, hstart, hend⟩, rfl, rfl⟩)
    · refine ⟨before, after ++ (stop ++ rest), by simp, rfl, rfl, fun h => .inl (hstart h),
        fun h => ?_⟩
      rw [endsLine_append_iff_of_free (fun c hc => hline c (List.mem_append_left _ hc))
        (fun c hc => hline c (List.mem_append_right _ hc)) hstop]
      exact hend h
    · refine ⟨line ++ stop ++ before, after, by simp, List.length_append.symm, ?_,
        fun h => ?_, fun h => ?_⟩
      · simp only [List.length_append]
        omega
      · rw [List.append_assoc] at hstop
        rw [startsLine_append_rest_iff hstop]
        exact hstart h
      · rw [List.append_assoc (line ++ stop), endsLine_append_rest_iff hstop]
        exact hend h

/-! ## Counting -/

/-- There are `n` stretches, and they lie apart. -/
def Counted (R : Nat → Nat → Prop) (n : Nat) : Prop :=
  ∃ ss, LieApart ss ∧ (∀ i j, R i j ↔ (i, j) ∈ ss) ∧ ss.length = n

/-- Stretches of two parts of a text with something between them. -/
theorem Counted.append {A B R : Nat → Nat → Prop} {a b n : Nat} (hA : Counted A a)
    (hB : Counted B b) (hn : ∀ i j, A i j → j < n)
    (hR : ∀ i j, R i j ↔ A i j ∨ ∃ i' j', B i' j' ∧ i = n + i' ∧ j = n + j') :
    Counted R (a + b) := by
  obtain ⟨ss, hapart, hss, rfl⟩ := hA
  obtain ⟨ss', hapart', hss', rfl⟩ := hB
  refine ⟨ss ++ ss'.map (shifted n), ?_, fun i j => ?_, by simp⟩
  · refine List.pairwise_append.2 ⟨hapart, ?_, ?_⟩
    · refine List.pairwise_map.2 (hapart'.imp fun h => ?_)
      exact Nat.add_lt_add_left h n
    · intro s hs t ht
      obtain ⟨t', -, rfl⟩ := List.mem_map.1 ht
      exact Nat.lt_of_lt_of_le (hn _ _ ((hss _ _).2 hs)) (Nat.le_add_right _ _)
  · rw [hR, hss, List.mem_append, List.mem_map]
    refine or_congr_right ?_
    constructor
    · rintro ⟨i', j', hij, rfl, rfl⟩
      exact ⟨(i', j'), (hss' _ _).1 hij, rfl⟩
    · rintro ⟨⟨i', j'⟩, hmem, heq⟩
      obtain ⟨rfl, rfl⟩ := Prod.mk.inj heq
      exact ⟨i', j', (hss' _ _).2 hmem, rfl, rfl⟩

theorem Flush.unique {i' j' : Nat} (hedge : atStart = true ∨ atEnd = true)
    (h : Flush word atStart atEnd text i j) (h' : Flush word atStart atEnd text i' j') :
    (i', j') = (i, j) := by
  obtain ⟨before, after, htext, rfl, rfl, hstart, hend⟩ := h
  obtain ⟨before', after', htext', rfl, rfl, hstart', hend'⟩ := h'
  have hbefore : before' = before := by
    cases hedge with
    | inl h => rw [hstart h, hstart' h]
    | inr h =>
      rw [htext, hend h, hend' h, List.append_nil, List.append_nil] at htext'
      exact (List.append_cancel_right htext').symm
  rw [hbefore]

/-- A word lies flush in a text once at most. -/
theorem counted_flush (hedge : atStart = true ∨ atEnd = true) {p : List Char → Bool}
    (hp : p text = true ↔ ∃ i j, Flush word atStart atEnd text i j) :
    Counted (Flush word atStart atEnd text) ([text].countP p) := by
  by_cases h : ∃ i j, Flush word atStart atEnd text i j
  · obtain ⟨i, j, hij⟩ := h
    refine ⟨[(i, j)], List.pairwise_singleton _ _, fun i' j' => ?_, ?_⟩
    · rw [List.mem_singleton]
      constructor
      · exact hij.unique hedge
      · intro heq
        obtain ⟨rfl, rfl⟩ := Prod.mk.inj heq
        exact hij
    · rw [List.countP_singleton, if_pos (hp.2 ⟨i, j, hij⟩)]
      rfl
  · refine ⟨[], List.Pairwise.nil, fun i' j' => ?_, ?_⟩
    · exact iff_of_false (fun hij => h ⟨i', j', hij⟩) List.not_mem_nil
    · rw [List.countP_singleton, if_neg fun hp' => h (hp.1 hp')]
      rfl

/-- There are as many bordered words in a text as segments in which the word lies flush. -/
theorem counted_bordered (hword : ∀ c ∈ word, isBreak c = false)
    (hedge : atStart = true ∨ atEnd = true) {p : List Char → Bool}
    (hp : ∀ line, p line = true ↔ ∃ i j, Flush word atStart atEnd line i j)
    (text : List Char) :
    Counted (Bordered word atStart atEnd text) ((segments text).countP p) := by
  induction text using induction_on_segments with
  | last line hline =>
    have hflush := counted_flush hedge (hp line)
    rw [segments_of_free hline]
    obtain ⟨ss, hapart, hss, hlength⟩ := hflush
    exact ⟨ss, hapart, fun i j => (bordered_iff_flush hline).trans (hss i j), hlength⟩
  | append line stop rest hline hstop ih =>
    rw [segments_append hline hstop, List.countP_cons, Nat.add_comm]
    have hflush := counted_flush hedge (hp line)
    rw [List.countP_singleton] at hflush
    refine hflush.append ih (fun i j hij => ?_) fun i j =>
      bordered_append_iff hline hstop hword hedge
    have hpos := List.length_pos_iff.2 hstop.ne_nil
    have := hij.le_length
    rw [List.length_append]
    omega

end PatternAssembly
