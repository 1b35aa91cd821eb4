import PatternAssembly.Proofs.Text.Windows

/-!
# Windows at the ends of lines

A window may have to start where a line starts, or to end where a line ends, or both. Newlines
and carriage returns end lines. A word without them has no window across the end of a line,
and whether a window lies at an end of its line is seen from that line alone. So in a text
that consists of a line, the end of the line and a rest, the windows are those of the line and
those of the rest.

## Main definitions

* `isBreak`: the characters that end lines
* `Anchored`: a window that shows a word where it has to be

## Main statements

* `anchored_append_iff`: the windows in a line and in the text behind it
-/
namespace PatternAssembly

/-- The character ends a line. -/
def isBreak (c : Char) : Bool := c == '\n' || c == '\r'

/-- A stretch of a text shows a word. If the flags say so, a line starts where the stretch
does, and a line ends where the stretch does. -/
def Anchored (same : Char → Char → Bool) (word : List Char) (atStart atEnd : Bool)
    (text : List Char) (i j : Nat) : Prop :=
  ∃ before window after, text = before ++ window ++ after ∧
    i = before.length ∧ j = before.length + window.length ∧ word.isEqv window same = true ∧
    (atStart = true → ∀ c ∈ before.getLast?, isBreak c = true) ∧
    (atEnd = true → ∀ c ∈ after.head?, isBreak c = true)

variable {same : Char → Char → Bool} {word : List Char} {atStart atEnd : Bool}
  {line stop rest text : List Char} {i j k : Nat}

theorem Anchored.stop_eq (h : Anchored same word atStart atEnd text i j) :
    j = i + word.length := by
  obtain ⟨before, window, after, -, rfl, rfl, hshows, -⟩ := h
  rw [Text.length_eq_of_isEqv hshows]

theorem Anchored.stop_unique (h : Anchored same word atStart atEnd text i j)
    (h' : Anchored same word atStart atEnd text i k) :
    j = k := h.stop_eq.trans h'.stop_eq.symm

theorem Anchored.lt (h : Anchored same word atStart atEnd text i j) (hword : word ≠ []) :
    i < j := by
  have hlength := List.length_pos_iff.2 hword
  have := h.stop_eq
  omega

theorem Anchored.le_length (h : Anchored same word atStart atEnd text i j) :
    j ≤ text.length := by
  obtain ⟨before, window, after, rfl, rfl, rfl, -⟩ := h
  simp only [List.length_append]
  omega

/-- What is equal to no break is shown without breaks. -/
theorem not_isBreak_of_isEqv {window : List Char}
    (hbreaks : ∀ c ∈ word, ∀ d, isBreak d = true → same c d = false)
    (h : word.isEqv window same = true) : ∀ d ∈ window, isBreak d = false := by
  induction word generalizing window with
  | nil =>
    cases window with
    | nil => simp
    | cons d window => simp at h
  | cons c word ih =>
    cases window with
    | nil => simp at h
    | cons d window =>
      rw [List.isEqv_cons_cons, Bool.and_eq_true] at h
      intro e he
      rcases List.mem_cons.1 he with rfl | he
      · by_contra hbreak
        have := hbreaks c List.mem_cons_self e (by simpa using hbreak)
        rw [h.1] at this
        cases this
      · exact ih (fun c hc => hbreaks c (List.mem_cons_of_mem _ hc)) h.2 e he

/-! ## A line and the text behind it -/

/-- Of two lists that begin the same list and have nothing in common, one is empty. -/
theorem eq_nil_of_append_eq {α : Type} {xs ys as bs : List α} (h : xs ++ as = ys ++ bs)
    (hne : xs ≠ []) (hdisjoint : ∀ x ∈ xs, x ∉ ys) : ys = [] := by
  cases xs with
  | nil => exact absurd rfl hne
  | cons x xs =>
    cases ys with
    | nil => rfl
    | cons y ys =>
      obtain ⟨rfl, -⟩ := List.cons.inj h
      exact absurd List.mem_cons_self (hdisjoint x List.mem_cons_self)

section Break

variable (hne : stop ≠ []) (hstop : ∀ c ∈ stop, isBreak c = true)

include hne hstop

/-- A stretch without breaks lies before the end of a line or behind it. -/
theorem eq_append_or_of_not_isBreak {before window after : List Char} (hwindow : window ≠ [])
    (hfree : ∀ c ∈ window, isBreak c = false)
    (h : line ++ stop ++ rest = before ++ window ++ after) :
    (∃ between, line = before ++ window ++ between ∧ after = between ++ stop ++ rest) ∨
      ∃ between, rest = between ++ window ++ after ∧ before = line ++ stop ++ between := by
  have hdisjoint (c : Char) (hc : c ∈ window) (hc' : c ∈ stop) : False := by
    have := hstop c hc'
    rw [hfree c hc] at this
    cases this
  rw [List.append_assoc, List.append_assoc] at h
  rcases List.append_eq_append_iff.1 h with ⟨v, rfl, htail⟩ | ⟨u, rfl, htail⟩
  · right
    rcases List.append_eq_append_iff.1 htail with ⟨between, rfl, rfl⟩ | ⟨u, rfl, hhead⟩
    · exact ⟨between, by simp, by simp⟩
    · obtain rfl := eq_nil_of_append_eq hhead hwindow fun c hc hc' =>
        hdisjoint c hc (List.mem_append_right v hc')
      exact ⟨[], by simpa using hhead.symm, by simp⟩
  · left
    rcases List.append_eq_append_iff.1 htail with ⟨between, rfl, rfl⟩ | ⟨v, rfl, hhead⟩
    · exact ⟨between, by simp, by simp⟩
    · obtain rfl := eq_nil_of_append_eq hhead hne fun c hc hc' =>
        hdisjoint c (List.mem_append_right u hc') hc
      exact ⟨[], by simp, by simpa using hhead.symm⟩

/-- Whether a line starts behind the end of a line is seen from the text there. -/
theorem startsLine_append_iff {between : List Char} :
    (∀ c ∈ (line ++ stop ++ between).getLast?, isBreak c = true) ↔
      ∀ c ∈ between.getLast?, isBreak c = true := by
  rcases List.eq_nil_or_concat between with rfl | ⟨start, d, rfl⟩
  · rw [List.append_nil, List.getLast?_append_of_ne_nil _ hne]
    exact ⟨by simp, fun _ c hc => hstop c (List.mem_of_getLast? hc)⟩
  · simp [List.concat_eq_append, ← List.append_assoc]

/-- Whether a line ends before the end of a line is seen from the text there. -/
theorem endsLine_append_iff {between : List Char} :
    (∀ c ∈ (between ++ stop ++ rest).head?, isBreak c = true) ↔
      ∀ c ∈ between.head?, isBreak c = true := by
  cases between with
  | nil =>
    rw [List.nil_append, List.head?_append_of_ne_nil _ hne]
    exact ⟨by simp, fun _ c hc => hstop c (List.mem_of_head? hc)⟩
  | cons d between => simp

/-- The windows in a line, its end and the text behind it are those in the line and those in
the text behind. -/
theorem anchored_append_iff (hword : word ≠ [])
    (hbreaks : ∀ c ∈ word, ∀ d, isBreak d = true → same c d = false) :
    Anchored same word atStart atEnd (line ++ stop ++ rest) i j ↔
      Anchored same word atStart atEnd line i j ∨
        ∃ i' j', Anchored same word atStart atEnd rest i' j' ∧
          i = (line ++ stop).length + i' ∧ j = (line ++ stop).length + j' := by
  constructor
  · rintro ⟨before, window, after, htext, rfl, rfl, hshows, hstart, hend⟩
    have hwindow : window ≠ [] := by
      rintro rfl
      exact hword (List.length_eq_zero_iff.1 (Text.length_eq_of_isEqv hshows))
    rcases eq_append_or_of_not_isBreak hne hstop hwindow
      (not_isBreak_of_isEqv hbreaks hshows) htext
      with ⟨between, rfl, rfl⟩ | ⟨between, rfl, rfl⟩
    · rw [endsLine_append_iff hne hstop] at hend
      exact .inl ⟨before, window, between, rfl, rfl, rfl, hshows, hstart, hend⟩
    · rw [startsLine_append_iff hne hstop] at hstart
      refine .inr ⟨between.length, between.length + window.length,
        ⟨between, window, after, rfl, rfl, rfl, hshows, hstart, hend⟩,
        List.length_append, ?_⟩
      simp only [List.length_append]
      omega
  · rintro (⟨before, window, after, rfl, rfl, rfl, hshows, hstart, hend⟩ |
      ⟨i', j', ⟨before, window, after, rfl, rfl, rfl, hshows, hstart, hend⟩, rfl, rfl⟩)
    · refine ⟨before, window, after ++ stop ++ rest, by simp, rfl, rfl, hshows, hstart, ?_⟩
      rwa [endsLine_append_iff hne hstop]
    · refine ⟨line ++ stop ++ before, window, after, by simp,
        List.length_append.symm, ?_, hshows, ?_, hend⟩
      · simp only [List.length_append]
        omega
      · rwa [startsLine_append_iff hne hstop]

end Break

end PatternAssembly
