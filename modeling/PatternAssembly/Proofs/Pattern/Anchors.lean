import PatternAssembly.Proofs.Pattern.Literals
import PatternAssembly.Proofs.Text.Anchored

/-!
# Literals with anchors

An escaped text may have an anchor before it and one behind it. Where anchors hold at line
ends, its matches in a text are the windows that show it at the ends of lines. So there are as
many of them in a text as in its parts, if these are a line with its end and the text behind
it.

## Main definitions

* `anchoredChars`: an escaped text with anchors
* `Meaning.anchored`: what it means

## Main statements

* `Meaning.anchored_iff`: the anchored windows are meant
* `Matcher.count_append`: the matches in a line and in the text behind it
-/
namespace PatternAssembly

/-! ## Places at the ends of lines -/

section Places

variable (xs ys : List Char)

theorem charBefore_append : charBefore (xs ++ ys).toArray xs.length = xs.getLast? := by
  rcases List.eq_nil_or_concat xs with rfl | ⟨start, c, rfl⟩
  · rfl
  · rw [charBefore, if_neg (by simp), List.getElem?_toArray]
    simp [List.concat_eq_append]

theorem getElem?_length_append : (xs ++ ys).toArray[xs.length]? = ys.head? := by
  rw [List.getElem?_toArray, List.getElem?_append_right (Nat.le_refl _), Nat.sub_self,
    List.head?_eq_getElem?]

variable {xs ys}

/-- Before a character that is no break, a line starts at the start of the text and after a
break. -/
theorem holds_lineStart_iff (hys : ∃ c ∈ ys.head?, isBreak c = false) :
    (Look.lineStart true).holds (xs ++ ys).toArray xs.length = true ↔
      ∀ c ∈ xs.getLast?, isBreak c = true := by
  obtain ⟨c, hhead, hc⟩ := hys
  have hnewline : c ≠ '\n' := by
    rintro rfl
    exact absurd hc (by decide)
  rw [Look.holds, charBefore_append, getElem?_length_append, Option.mem_def.1 hhead]
  rcases List.eq_nil_or_concat xs with rfl | ⟨start, d, rfl⟩
  · simp
  · simp [List.concat_eq_append, isBreak, hnewline]

/-- After a character that is no break, a line ends at the end of the text and before a
break. -/
theorem holds_lineEnd_iff (hxs : ∃ c ∈ xs.getLast?, isBreak c = false) :
    (Look.lineEnd true).holds (xs ++ ys).toArray xs.length = true ↔
      ∀ c ∈ ys.head?, isBreak c = true := by
  obtain ⟨c, hlast, hc⟩ := hxs
  have hreturn : c ≠ '\r' := by
    rintro rfl
    exact absurd hc (by decide)
  rw [Look.holds, charBefore_append, getElem?_length_append, Option.mem_def.1 hlast]
  cases ys with
  | nil => simp
  | cons d ys => simp [isBreak, hreturn, or_comm]

end Places

/-! ## Meaning -/

namespace Meaning

/-- A text, and if the flags say so, the start of a line before it and the end of a line
behind it. -/
def anchored (m : Modes) (atStart atEnd : Bool) (cs : List Char) : Meaning :=
  (if atStart then place (m.look .lineStart) else nothing).andThen
    ((spelled m cs).andThen (if atEnd then place (m.look .lineEnd) else nothing))

theorem ite_place {b : Bool} {l : Look} {text : Array Char} {i j : Nat} :
    (if b then place l else nothing) text i j ↔
      (b = true → l.holds text i = true) ∧ i = j := by
  cases b <;> simp [place, nothing]

theorem anchored_apply {m : Modes} {atStart atEnd : Bool} {cs : List Char} {text : Array Char}
    {i j : Nat} : anchored m atStart atEnd cs text i j ↔
      (atStart = true → (m.look .lineStart).holds text i = true) ∧ spelled m cs text i j ∧
        (atEnd = true → (m.look .lineEnd).holds text j = true) := by
  simp only [anchored, andThen, ite_place]
  constructor
  · rintro ⟨k, ⟨hstart, rfl⟩, l, hcs, hend, rfl⟩
    exact ⟨hstart, hcs, hend⟩
  · rintro ⟨hstart, hcs, hend⟩
    exact ⟨i, ⟨hstart, rfl⟩, j, hcs, hend, rfl⟩

/-- Where anchors hold at line ends, the anchored windows are meant. -/
theorem anchored_iff {m : Modes} (hm : m.unicode = true) (hlines : m.multiLine = true)
    (hreturns : m.carriageReturn = true) {cs : List Char} (hcs : cs ≠ [])
    (hbreaks : ∀ c ∈ cs, ∀ d, isBreak d = true → sameChar m.ignoreCase c d = false)
    {atStart atEnd : Bool} {text : List Char} {i j : Nat} (hi : i ≤ text.length) :
    anchored m atStart atEnd cs text.toArray i j ↔
      Anchored (sameChar m.ignoreCase) cs atStart atEnd text i j := by
  have hstart : m.look .lineStart = .lineStart true := by simp [Modes.look, hlines, hreturns]
  have hend : m.look .lineEnd = .lineEnd true := by simp [Modes.look, hlines, hreturns]
  -- The places before and behind a window are next to characters that are no breaks.
  have hplaces {before window after : List Char}
      (h : cs.isEqv window (sameChar m.ignoreCase) = true) :
      ((Look.lineStart true).holds (before ++ window ++ after).toArray before.length = true ↔
        ∀ c ∈ before.getLast?, isBreak c = true) ∧
      ((Look.lineEnd true).holds (before ++ window ++ after).toArray
          (before.length + window.length) = true ↔ ∀ c ∈ after.head?, isBreak c = true) := by
    have hfree := not_isBreak_of_isEqv hbreaks h
    have hwindow : window ≠ [] := by
      rintro rfl
      exact hcs (List.length_eq_zero_iff.1 (Text.length_eq_of_isEqv h))
    constructor
    · rw [List.append_assoc, holds_lineStart_iff]
      exact ⟨window.head hwindow, by simp [List.head?_append,
        List.head?_eq_some_head hwindow], hfree _ (List.head_mem hwindow)⟩
    · rw [← List.length_append, holds_lineEnd_iff]
      exact ⟨window.getLast hwindow, by simp [List.getLast?_eq_some_getLast hwindow],
        hfree _ (List.getLast_mem hwindow)⟩
  rw [anchored_apply, spelled_iff_shows hm hi, shows_iff_exists, hstart, hend]
  constructor
  · rintro ⟨hstart, ⟨before, window, after, rfl, rfl, rfl, h⟩, hend⟩
    exact ⟨before, window, after, rfl, rfl, rfl, h, fun hs => (hplaces h).1.1 (hstart hs),
      fun he => (hplaces h).2.1 (hend he)⟩
  · rintro ⟨before, window, after, rfl, rfl, rfl, h, hstart, hend⟩
    exact ⟨fun hs => (hplaces h).1.2 (hstart hs), ⟨before, window, after, rfl, rfl, rfl, h⟩,
      fun he => (hplaces h).2.2 (hend he)⟩

end Meaning

/-- A character that ends lines is equal to no other, whether or not case is ignored. -/
theorem sameChar_break {c d : Char} (hc : isBreak c = false) (hd : isBreak d = true)
    (ignoreCase : Bool) : sameChar ignoreCase c d = false := by
  have hne : c ≠ d := by
    rintro rfl
    rw [hc] at hd
    cases hd
  have hvariants : Unicode.variants d.toNat = [d.toNat] := by
    rw [isBreak, Bool.or_eq_true, beq_iff_eq, beq_iff_eq] at hd
    rcases hd with rfl | rfl <;> decide +kernel
  cases ignoreCase with
  | false => exact beq_false_of_ne hne
  | true =>
    refine beq_false_of_ne fun hfold => hne ?_
    have hmem := Unicode.mem_variants_iff.2 hfold
    rw [hvariants, List.mem_singleton] at hmem
    exact Char.ext (UInt32.toNat_inj.1 hmem)

/-! ## Reading -/

/-- An escaped text, if the flags say so with an anchor before it and one behind it. -/
def anchoredChars (atStart atEnd : Bool) (text : String) : List Char :=
  (if atStart then ['^'] else []) ++
    ((escapeLiteral text).toList ++ if atEnd then ['$'] else [])

theorem readsAsPhrase_anchored {m : Modes} (atStart atEnd : Bool) (text : String) :
    ReadsAsPhrase m (anchoredChars atStart atEnd text)
      (.anchored m atStart atEnd text.toList) := by
  have hstart : ReadsAsPhrase m (if atStart then ['^'] else [])
      (if atStart then .place (m.look .lineStart) else .nothing) := by
    cases atStart with
    | false => exact readsAsPhrase_nil
    | true => exact readsAsUnit_lineStart.phrase
  have hend : ReadsAsPhrase m (if atEnd then ['$'] else [])
      (if atEnd then .place (m.look .lineEnd) else .nothing) := by
    cases atEnd with
    | false => exact readsAsPhrase_nil
    | true => exact readsAsUnit_lineEnd.phrase
  exact hstart.append ((readsAsPhrase_escape text).append hend)

/-! ## Matches -/

namespace Matcher

section Anchored

variable {m : Matcher} {flags : Flags} {atStart atEnd : Bool} {cs : List Char}
  (h : m.Accepts (.anchored flags.modes atStart atEnd cs)) (hlines : flags.multiLine = true)
  (hcs : cs ≠ []) (hfree : ∀ c ∈ cs, isBreak c = false)

include h hlines hcs hfree

/-- All matches of an anchored text are a scan of the anchored windows. -/
theorem scan_of_anchored (text : List Char) :
    Scan (Anchored (sameChar flags.ignoreCase) cs atStart atEnd text) 0
      ((allMatches m.program text.toArray).map Match.span) := by
  have hbreaks (c : Char) (hc : c ∈ cs) (d : Char) (hd : isBreak d = true) :
      sameChar flags.ignoreCase c d = false := sameChar_break (hfree c hc) hd _
  refine scan_allMatches (fun i j => ?_) fun i j hij => hij.lt hcs
  have hiff {i j : Nat} (hi : i ≤ text.length) := (h text.toArray i j).trans
    (Meaning.anchored_iff (m := flags.modes) rfl hlines hlines hcs hbreaks hi)
  constructor
  · intro hij
    have hi := (Nat.le_of_lt (hij.lt hcs)).trans hij.le_length
    exact ⟨hi, (hiff hi).2 hij⟩
  · rintro ⟨hi, haccepts⟩
    exact (hiff hi).1 haccepts

/-- The empty text shows nothing. -/
theorem count_nil : m.count (String.ofList []) = 0 := by
  rw [count_eq_length_allMatches, String.toList_ofList]
  have hscan := scan_of_anchored h hlines hcs hfree []
  cases hall : allMatches m.program [].toArray with
  | nil => rfl
  | cons found rest =>
    rw [hall] at hscan
    obtain ⟨-, hfound, -⟩ := hscan
    have hlt := hfound.lt hcs
    have hle : found.span.2 ≤ 0 := hfound.le_length
    omega

/-- The matches in a line, its end and the text behind it are those in the line and those in
the text behind. -/
theorem count_append (line : List Char) {stop : List Char} (hne : stop ≠ [])
    (hstop : ∀ c ∈ stop, isBreak c = true) (rest : List Char) :
    m.count (String.ofList (line ++ stop ++ rest)) =
      m.count (String.ofList line) + m.count (String.ofList rest) := by
  have hscan := scan_of_anchored h hlines hcs hfree
  have happend : Scan
      (Anchored (sameChar flags.ignoreCase) cs atStart atEnd (line ++ stop ++ rest)) 0
      ((allMatches m.program line.toArray).map Match.span ++
        ((allMatches m.program rest.toArray).map Match.span).map
          (shifted (line ++ stop).length)) := by
    refine (hscan line).append (hscan rest) (Nat.zero_le _) (fun i j hij => ⟨hij.lt hcs, ?_⟩)
      (fun i j hij => Nat.le_of_lt (hij.lt hcs)) fun i j => ?_
    · rw [List.length_append]
      exact hij.le_length.trans (Nat.le_add_right _ _)
    · exact anchored_append_iff hne hstop hcs fun c hc d hd =>
        sameChar_break (hfree c hc) hd _
  have hlength := congrArg List.length
    ((hscan (line ++ stop ++ rest)).unique happend fun _ _ _ => Anchored.stop_unique)
  simpa [count_eq_length_allMatches] using hlength

end Anchored

end Matcher

end PatternAssembly
