import PatternAssembly.Pattern
import PatternAssembly.Proofs.Tree.Reading

/-!
# Quantities are read back

The sign of a quantity is read as the bounds that the quantity has. A quantity whose bounds
are reversed is written all the same, and refused when the pattern is read.

## Main definitions

* `Quantity.bounds`, `Quantity.Fits`, `Quantity.Reversed`

## Main statements

* `readsAsCount_sign`: the bounds are read back
* `refused_of_reversed`: reversed bounds are refused
-/
namespace PatternAssembly

namespace Quantity

/-- The least and the greatest number of times. -/
def bounds : Quantity → Nat × Option Nat
  | anyAmount => (0, none)
  | oneOrMore => (1, none)
  | atMostOne => (0, some 1)
  | exactly n => (n, some n)
  | between lo hi => (lo, hi)

/-- The numbers are such as a pattern may hold. -/
def Fits : Quantity → Prop
  | anyAmount | oneOrMore | atMostOne => True
  | exactly n => n < Count.limit
  | between lo hi => lo < Count.limit ∧ ∀ n ∈ hi, n < Count.limit

/-- The greatest number of times is below the least. -/
def Reversed (q : Quantity) : Prop := ∃ hi ∈ q.bounds.2, hi < q.bounds.1

instance : DecidablePred Reversed := fun q =>
  decidable_of_iff (q.bounds.2.any (· < q.bounds.1) = true) (by
    rw [Option.any_eq_true]
    simp [Reversed])

theorem le_of_not_reversed {q : Quantity} (h : ¬ q.Reversed) :
    ∀ n ∈ q.bounds.2, q.bounds.1 ≤ n :=
  fun n hn => Nat.le_of_not_lt fun hlt => h ⟨n, hn, hlt⟩

end Quantity

/-! ## Numbers -/

theorem not_blank_of_isDigit {d : Char} (h : d.isDigit = true) :
    Unicode.isBlank d = false := by
  have hall : ∀ n < 58, (Char.ofNat n).isDigit = true →
      Unicode.isBlank (Char.ofNat n) = false := by
    decide +kernel
  have hlt : d.toNat < 58 := by
    simp [Char.isDigit, UInt32.le_iff_toNat_le] at h
    exact Nat.lt_succ_of_le h.2
  have := hall d.toNat hlt
  rw [Char.ofNat_toNat] at this
  exact this h

/-- The digits of a number. -/
abbrev digits (n : Nat) : List Char := Nat.toDigits 10 n

namespace Count

variable {n : Nat} {ch : Char} {rest : List Char} {c : Cursor}

theorem isDigit_of_mem_digits {d : Char} (h : d ∈ digits n) : d.isDigit = true :=
  Nat.isDigit_of_mem_toDigits (by decide) (by decide) h

theorem decimalValue_digits (n : Nat) : decimalValue (digits n) = n := by
  have h := Nat.ofDigitChars_toDigits (b := 10) (n := n) (by decide) (by decide)
  rwa [Nat.ofDigitChars_eq_foldl] at h

theorem takeWhile_digits (n : Nat) (rest : List Char) (hdigit : ch.isDigit = false) :
    (digits n ++ ch :: rest).takeWhile Char.isDigit = digits n ∧
      (digits n ++ ch :: rest).dropWhile Char.isDigit = ch :: rest := by
  have hall : ∀ d ∈ digits n, d.isDigit = true := fun d => isDigit_of_mem_digits
  rw [List.takeWhile_append_of_pos hall, List.dropWhile_append_of_pos hall]
  simp [hdigit]

/-- A number is read up to a sign that is neither a digit nor a blank. -/
theorem readDecimal_digits (hn : n < limit) (hc : c.rest = digits n ++ ch :: rest)
    (hdigit : ch.isDigit = false) (hblank : Unicode.isBlank ch = false) :
    ∃ c', readDecimal false c = (.ok n, c') ∧ c'.rest = ch :: rest := by
  obtain ⟨pos, _⟩ := c
  subst hc
  have hne : digits n ≠ [] := Nat.toDigits_ne_nil
  have hskip : (⟨pos, digits n ++ ch :: rest⟩ : Cursor).skipBlanks =
      ⟨pos, digits n ++ ch :: rest⟩ := by
    obtain ⟨d, ds, hds⟩ := List.exists_cons_of_ne_nil hne
    have hd : Unicode.isBlank d = false :=
      not_blank_of_isDigit (isDigit_of_mem_digits (hds ▸ List.mem_cons_self))
    simp [Cursor.skipBlanks, hds, hd]
  have hp : (fun ch : Char => decide ('0' ≤ ch) && decide (ch ≤ '9')) = Char.isDigit := rfl
  obtain ⟨htake, hdrop⟩ := takeWhile_digits n rest hdigit
  have hread : readDecimal false ⟨pos, digits n ++ ch :: rest⟩ =
      (.ok n, ⟨pos + (digits n).length, ch :: rest⟩) := by
    simp only [readDecimal, hskip, hp, Cursor.takeWhile_eq, htake, hdrop,
      List.isEmpty_eq_false_iff.2 hne, decimalValue_digits, if_pos hn]
    simp [hblank]
  exact ⟨_, hread, rfl⟩

/-- The digits of bounds. -/
def boundsText (lo : Nat) (hi : Option Nat) : List Char :=
  digits lo ++ ',' :: (hi.map digits).getD []

variable {lo : Nat} {hi : Option Nat}

theorem readBounds_one (hn : n < limit) (hc : c.rest = digits n ++ '\x7d' :: rest)
    (start : Nat) :
    ∃ c', readBounds false start c = .ok ((n, some n), c') ∧ c'.rest = '\x7d' :: rest := by
  obtain ⟨c', hread, hc'⟩ := readDecimal_digits hn hc (by decide) (by decide +kernel)
  have hne : c.rest.isEmpty = false := by simp [hc]
  refine ⟨c', ?_, hc'⟩
  simp only [readBounds, hne, hread, hc']
  rfl

theorem readBounds_two (hlo : lo < limit) (hhi : ∀ n ∈ hi, n < limit)
    (hc : c.rest = boundsText lo hi ++ '\x7d' :: rest) (start : Nat) :
    ∃ c', readBounds false start c = .ok ((lo, hi), c') ∧ c'.rest = '\x7d' :: rest := by
  rw [boundsText, List.append_assoc] at hc
  obtain ⟨c₁, hread₁, hc₁⟩ := readDecimal_digits hlo hc (by decide) (by decide +kernel)
  have hne : c.rest.isEmpty = false := by simp [hc]
  cases hi with
  | none =>
    have hnext : (c₁.advance false).rest = '\x7d' :: rest := by
      simp [Cursor.advance, Cursor.skip, Cursor.next, hc₁]
    refine ⟨c₁.advance false, ?_, hnext⟩
    simp only [readBounds, hne, hread₁, hc₁, hnext]
    rfl
  | some hi =>
    have hnext : (c₁.advance false).rest = digits hi ++ '\x7d' :: rest := by
      simp [Cursor.advance, Cursor.skip, Cursor.next, hc₁]
    obtain ⟨c₂, hread₂, hc₂⟩ :=
      readDecimal_digits (hhi hi rfl) hnext (by decide) (by decide +kernel)
    refine ⟨c₂, ?_, hc₂⟩
    obtain ⟨d, ds, hds⟩ :=
      List.exists_cons_of_ne_nil (Nat.toDigits_ne_nil (b := 10) (n := hi))
    have hd : d ≠ '\x7d' := by
      rintro rfl
      have hmem : '\x7d' ∈ digits hi := by
        rw [digits, hds]
        exact List.mem_cons_self
      exact absurd (isDigit_of_mem_digits hmem) (by decide)
    have hcons : (c₁.advance false).rest = d :: (ds ++ '\x7d' :: rest) := by
      rw [hnext, digits, hds, List.cons_append]
    simp only [readBounds, hne, hread₁, hc₁, hcons, hread₂]
    rw [if_neg Bool.false_ne_true]
    split
    case _ heq => cases heq
    case _ heq => exact absurd (List.cons.inj heq).1 hd
    case _ => rfl

/-- Bounds in braces are refused if they are reversed. -/
theorem readBraces_eq (bs : List Char) (hc : c.rest = '\x7b' :: (bs ++ '\x7d' :: rest))
    (hrest : Calm rest)
    (hb : ∀ c : Cursor, c.rest = bs ++ '\x7d' :: rest → ∀ start, ∃ c',
      readBounds false start c = .ok ((lo, hi), c') ∧ c'.rest = '\x7d' :: rest) :
    ∃ c', c'.rest = rest ∧ readBraces false c =
      if hi.any (· < lo) then refuse .repetitionCountInvalid (c'.spanFrom c.pos)
      else .ok ({ lo, hi, greedy := true }, c') := by
  have hnext : (c.advance false).rest = bs ++ '\x7d' :: rest := by
    simp [Cursor.advance, Cursor.skip, Cursor.next, hc]
  obtain ⟨c', hread, hc'⟩ := hb _ hnext c.pos
  have hstop : (c'.advance false).rest = rest := by
    simp [Cursor.advance, Cursor.skip, Cursor.next, hc']
  have hgreed : readGreed (c'.advance false) = (true, c'.advance false) := by
    rw [readGreed, hstop]
    split
    · exact absurd rfl (calm_cons.1 hrest).1
    · rfl
  refine ⟨c'.advance false, hstop, ?_⟩
  rw [readBraces, hread]
  simp only [Except.bind, bind, hc', hgreed]
  rfl

end Count

/-! ## Quantities -/

variable {r : Reader} {rest : List Char} {t : Tree} {ts : List Tree}

theorem takeLast_eq (hparts : r.current.parts = t :: ts) (ht : t.isRepeatable = true) :
    r.takeLast = .ok (t, { r.current with parts := ts }) := by
  rw [Reader.takeLast, hparts]
  cases t <;> first | rfl | cases ht

/-- A count that was read makes the part before it a repetition. -/
theorem reads_count {qs : List Char} {n : Count} {c : Cursor} (hat : r.At (qs ++ rest))
    (hne : qs ≠ []) (hc : c.rest = rest) (hstep : r.step = .ok { r with
      cursor := c, current := { r.current with parts := Reader.repeated t n c :: ts } }) :
    ∃ s r', r.Reads r' ∧ r'.At rest ∧ r'.groups = r.groups ∧
      r'.current.branches = r.current.branches ∧
      r'.current.parts = .repetition s n.lo n.hi n.greedy t :: ts := by
  have hlength : 0 < qs.length := List.length_pos_iff.2 hne
  refine ⟨c.spanFrom t.span.start, _, ⟨hat.free, hstep, ?_⟩, ⟨hc, hat.free⟩, rfl, rfl, rfl⟩
  simp only [hat.rest, List.length_append, hc]
  omega

/-- One of the three signs. -/
theorem readsAsCount_char (sign : Char) (h : sign = '?' ∨ sign = '*' ∨ sign = '+')
    {lo : Nat} {hi : Option Nat}
    (hbounds : (if sign = '?' then (0, some 1) else if sign = '*' then (0, none)
      else (1, none) : Nat × Option Nat) = (lo, hi)) :
    ReadsAsCount [sign] lo hi := by
  intro r rest t ts hrest hat hparts ht
  have hnext : r.cursor.next.rest = rest := by simp [Cursor.next, hat.rest]
  have hgreed : Count.readGreed r.cursor.next = (true, r.cursor.next) := by
    rw [Count.readGreed, hnext]
    split
    · exact absurd rfl (calm_cons.1 hrest).1
    · rfl
  have hread : Count.readSign sign r.cursor =
      ({ lo, hi, greedy := true }, r.cursor.next) := by
    simp only [Count.readSign, hgreed, hbounds]
  refine reads_count (n := { lo, hi, greedy := true }) hat (by simp) hnext ?_
  have hstep : r.step = r.takeLast >>= fun p => pure { r with
      cursor := (Count.readSign sign r.cursor).2
      current := p.2.push (Reader.repeated p.1 (Count.readSign sign r.cursor).1
        (Count.readSign sign r.cursor).2) } := by
    rw [Reader.step, hat.rest]
    rcases h with rfl | rfl | rfl <;> rfl
  rw [hstep, takeLast_eq hparts ht, hread]
  rfl

theorem step_of_braces (hat : r.At ('\x7b' :: rest)) (hparts : r.current.parts = t :: ts)
    (ht : t.isRepeatable = true) :
    r.step = (Count.readBraces false r.cursor).map fun (n, c) => { r with
      cursor := c, current := { r.current with parts := Reader.repeated t n c :: ts } } := by
  rw [Reader.step, hat.rest]
  simp only [takeLast_eq hparts ht, hat.free]
  cases Count.readBraces false r.cursor <;> rfl

namespace Quantity

theorem toList_sign_exactly (n : Nat) :
    (exactly n).sign.toList = '\x7b' :: (digits n ++ ['\x7d']) := by
  simp [sign]

theorem toList_sign_between (lo : Nat) (hi : Option Nat) :
    (between lo hi).sign.toList = '\x7b' :: (Count.boundsText lo hi ++ ['\x7d']) := by
  cases hi <;> simp [sign, Count.boundsText]

/-- What is read of a quantity in braces. -/
theorem readBraces_sign {q : Quantity} (hq : q.Fits)
    (hbraces : q.sign.toList.head? = some '\x7b') {c : Cursor}
    (hc : c.rest = q.sign.toList ++ rest) (hrest : Calm rest) :
    ∃ c' : Cursor, c'.rest = rest ∧ Count.readBraces false c =
      if q.Reversed then refuse .repetitionCountInvalid (c'.spanFrom c.pos)
      else .ok ({ lo := q.bounds.1, hi := q.bounds.2, greedy := true }, c') := by
  have hreversed : q.Reversed ↔ q.bounds.2.any (· < q.bounds.1) = true := by
    rw [Option.any_eq_true]
    simp [Reversed]
  simp only [hreversed]
  cases q with
  | anyAmount | oneOrMore | atMostOne => simp [sign] at hbraces
  | exactly n =>
    rw [toList_sign_exactly] at hc
    apply Count.readBraces_eq (digits n) (by simpa using hc) hrest
    intro c hc
    exact Count.readBounds_one hq hc
  | between lo hi =>
    rw [toList_sign_between] at hc
    refine Count.readBraces_eq (Count.boundsText lo hi) (by simpa using hc) hrest
      fun c hc => ?_
    exact Count.readBounds_two hq.1 hq.2 hc

theorem braces_or_readsAsCount (q : Quantity) :
    q.sign.toList.head? = some '\x7b' ∨ ReadsAsCount q.sign.toList q.bounds.1 q.bounds.2 := by
  cases q with
  | anyAmount => exact .inr (readsAsCount_char '*' (.inr (.inl rfl)) rfl)
  | oneOrMore => exact .inr (readsAsCount_char '+' (.inr (.inr rfl)) rfl)
  | atMostOne => exact .inr (readsAsCount_char '?' (.inl rfl) rfl)
  | exactly n => exact .inl (by simp [toList_sign_exactly])
  | between lo hi => exact .inl (by simp [toList_sign_between])

/-- The sign of a quantity is read as its bounds. -/
theorem readsAsCount_sign {q : Quantity} (hq : q.Fits) (hbounds : ¬ q.Reversed) :
    ReadsAsCount q.sign.toList q.bounds.1 q.bounds.2 := by
  rcases braces_or_readsAsCount q with hhead | h
  · intro r rest t ts hrest hat hparts ht
    obtain ⟨c, hc, hread⟩ := readBraces_sign hq hhead hat.rest hrest
    obtain ⟨cs, hcs⟩ := List.head?_eq_some_iff.1 hhead
    refine reads_count (n := { lo := q.bounds.1, hi := q.bounds.2, greedy := true }) hat
      (by simp [hcs]) hc ?_
    rw [hcs] at hat
    rw [step_of_braces hat hparts ht, hread, if_neg hbounds]
    rfl
  · exact h

/-- Reversed bounds are refused. -/
theorem refused_of_reversed {q : Quantity} (hq : q.Fits) (hbounds : q.Reversed)
    (hat : r.At (q.sign.toList ++ rest)) (hrest : Calm rest)
    (hparts : r.current.parts = t :: ts) (ht : t.isRepeatable = true) :
    ∃ f, r.step = .error f ∧ f.kind = .repetitionCountInvalid := by
  have hhead : q.sign.toList.head? = some '\x7b' := by
    cases q with
    | anyAmount | oneOrMore => simp [Reversed, bounds] at hbounds
    | atMostOne => simp [Reversed, bounds] at hbounds
    | exactly n => simp [Reversed, bounds] at hbounds
    | between lo hi => simp [toList_sign_between]
  obtain ⟨c, -, hread⟩ := readBraces_sign hq hhead hat.rest hrest
  obtain ⟨cs, hcs⟩ := List.head?_eq_some_iff.1 hhead
  rw [hcs] at hat
  exact ⟨_, by rw [step_of_braces hat hparts ht, hread, if_pos hbounds]; rfl, rfl⟩

end Quantity

end PatternAssembly
