import PatternAssembly.Proofs.Tree.Signs

/-!
# More text behind a sign

A sign of a pattern is read by looking at the characters that belong to it, and perhaps at the
one behind them. So a sign is read the same if more text stands behind the pattern, unless the
sign is the last one: then it stays the same where blanks count and the text behind it
continues nothing.

## Main definitions

* `Cursor.extend`: the same place of a longer pattern
* `Cursor.Stops`: what is read stops before the text behind it
* `Extends`: a reading and the same reading with more text behind

## Main statements

* `Extends.bind`: one reading after the other
* `extends_atom`, `extends_braces`, `extends_opening`: signs, counts and what opens a group
-/
namespace PatternAssembly

variable {free : Bool} {q : List Char}

/-! ## Cursors -/

namespace Cursor

variable {c c' : Cursor}

/-- The same place of a pattern that has more text behind it. -/
def extend (c : Cursor) (q : List Char) : Cursor := ⟨c.pos, c.rest ++ q⟩

@[simp] theorem pos_extend : (c.extend q).pos = c.pos := rfl

@[simp] theorem rest_extend : (c.extend q).rest = c.rest ++ q := rfl

/-- What was read stops before the text behind: something of the pattern is left, or blanks
count and the text continues nothing. -/
def Stops (free : Bool) (q : List Char) (c : Cursor) : Prop :=
  c.rest ≠ [] ∨ free = false ∧ Calm q

theorem rest_next_suffix : c.next.rest <:+ c.rest := by
  rw [next]
  cases h : c.rest with
  | nil => rw [h]
  | cons ch rest => exact List.suffix_cons ch rest

theorem next_extend (h : c.rest ≠ []) : (c.extend q).next = c.next.extend q := by
  rw [next, next, rest_extend]
  cases hrest : c.rest with
  | nil => exact absurd hrest h
  | cons ch rest => rfl

theorem rest_skipFrom_suffix (pos : Nat) (inComment : Bool) (cs : List Char) :
    (skipFrom pos inComment cs).rest <:+ cs := by
  induction cs generalizing pos inComment with
  | nil => exact List.suffix_refl _
  | cons ch cs ih =>
    have hcs (inComment : Bool) : (skipFrom (pos + 1) inComment cs).rest <:+ ch :: cs :=
      (ih _ _).trans (List.suffix_cons ch cs)
    rw [skipFrom]
    split
    · exact hcs _
    · split
      · exact hcs _
      · split
        · exact hcs _
        · exact List.suffix_refl _

theorem skipFrom_append {pos : Nat} {inComment : Bool} {cs : List Char}
    (h : (skipFrom pos inComment cs).rest ≠ []) :
    skipFrom pos inComment (cs ++ q) = (skipFrom pos inComment cs).extend q := by
  induction cs generalizing pos inComment with
  | nil => exact absurd rfl h
  | cons ch cs ih =>
    rw [List.cons_append]
    rw [skipFrom] at h ⊢
    rw [skipFrom]
    split
    · rw [if_pos (by assumption)] at h
      exact ih h
    · rw [if_neg (by assumption)] at h
      split
      · rw [if_pos (by assumption)] at h
        exact ih h
      · rw [if_neg (by assumption)] at h
        split
        · rw [if_pos (by assumption)] at h
          exact ih h
        · rfl

theorem rest_skip_suffix (free : Bool) (c : Cursor) : (c.skip free).rest <:+ c.rest := by
  cases free with
  | false => exact List.suffix_refl _
  | true => exact rest_skipFrom_suffix _ _ _

theorem rest_advance_suffix_next (free : Bool) (c : Cursor) :
    (c.advance free).rest <:+ c.next.rest := rest_skip_suffix free c.next

theorem rest_advance_suffix (free : Bool) (c : Cursor) : (c.advance free).rest <:+ c.rest :=
  (rest_advance_suffix_next free c).trans rest_next_suffix

theorem Stops.of_suffix (h : c'.Stops free q) (hsuffix : c'.rest <:+ c.rest) :
    c.Stops free q := by
  refine h.imp_left fun hne hnil => hne ?_
  rw [hnil] at hsuffix
  exact List.suffix_nil.1 hsuffix

theorem Stops.ne_nil (h : c.Stops true q) : c.rest ≠ [] := h.resolve_right (by simp)

theorem skip_extend (h : (c.skip free).Stops free q) :
    (c.extend q).skip free = (c.skip free).extend q := by
  cases free with
  | false => rfl
  | true => exact skipFrom_append (h.resolve_right (by simp))

theorem advance_extend (hne : c.rest ≠ []) (h : (c.advance free).Stops free q) :
    (c.extend q).advance free = (c.advance free).extend q := by
  rw [advance, next_extend hne]
  exact skip_extend h

end Cursor

open Cursor

/-! ## Readings -/

/-- A reading and the same reading with more text behind: if the first one stops before that
text, the second one does so at the same place. What is left behind `c` is what may be left in
the end. -/
def Extends {α : Type} (free : Bool) (q : List Char) (c : Cursor)
    (x y : Except Fault (α × Cursor)) : Prop :=
  ∀ a c', x = .ok (a, c') → c'.Stops free q → c'.rest <:+ c.rest ∧ y = .ok (a, c'.extend q)

namespace Extends

variable {α β : Type} {a : α} {c c' : Cursor} {x y : Except Fault (α × Cursor)}

theorem ok (h : c'.rest <:+ c.rest) :
    Extends free q c (.ok (a, c')) (.ok (a, c'.extend q)) := by
  intro b stop heq _
  obtain ⟨rfl, rfl⟩ := Prod.mk.inj (Except.ok.inj heq)
  exact ⟨h, rfl⟩

theorem error (f : Fault) : Extends free q c (.error f) y := by
  intro b stop heq
  cases heq

theorem refuse (kind : FaultKind) (span : Span) :
    Extends free q c (PatternAssembly.refuse kind span) y := error _

/-- A reading that goes up to the end is the last one. -/
theorem not_last (h : c'.rest = []) : Extends true q c (.ok (a, c')) y := by
  intro b stop heq hstops
  obtain ⟨rfl, rfl⟩ := Prod.mk.inj (Except.ok.inj heq)
  exact absurd h hstops.ne_nil

/-- What may be the last reading where spacing is free need not be. -/
theorem mono {free' : Bool} (h : Extends free q c x y)
    (hfree : free' = false → free = false) :
    Extends free' q c x y :=
  fun a c' heq hstops => h a c' heq (hstops.imp_right fun h => ⟨hfree h.1, h.2⟩)

/-- One reading after the other. -/
theorem bind {f g : α × Cursor → Except Fault (β × Cursor)} (h : Extends free q c x y)
    (hfg : ∀ a c₁, x = .ok (a, c₁) → Extends free q c₁ (f (a, c₁)) (g (a, c₁.extend q))) :
    Extends free q c (x >>= f) (y >>= g) := by
  intro b stop heq hstops
  obtain ⟨⟨a, c₁⟩, hx, heq⟩ := bind_eq_ok.1 heq
  obtain ⟨hrest, hg⟩ := hfg a c₁ hx b stop heq hstops
  obtain ⟨hrest₁, hy⟩ := h a c₁ hx (hstops.of_suffix hrest)
  rw [hy]
  exact ⟨hrest.trans hrest₁, hg⟩

/-- One reading after the other, if the first one cannot be the last. -/
theorem bind_of_not_last {f g : α × Cursor → Except Fault (β × Cursor)}
    (h : Extends true q c x y)
    (hlast : ∀ a c₁, c₁.rest = [] → ∃ fault, f (a, c₁) = .error fault)
    (hfg : ∀ a c₁, c₁.rest ≠ [] → Extends free q c₁ (f (a, c₁)) (g (a, c₁.extend q))) :
    Extends free q c (x >>= f) (y >>= g) := by
  intro b stop heq hstops
  obtain ⟨⟨a, c₁⟩, hx, heq⟩ := bind_eq_ok.1 heq
  have hne : c₁.rest ≠ [] := by
    intro hnil
    obtain ⟨fault, hfault⟩ := hlast a c₁ hnil
    exact absurd (hfault.symm.trans heq) nofun
  obtain ⟨hrest, hg⟩ := hfg a c₁ hne b stop heq hstops
  obtain ⟨hrest₁, hy⟩ := h a c₁ hx (.inl hne)
  rw [hy]
  exact ⟨hrest.trans hrest₁, hg⟩

theorem ite {p : Prop} [Decidable p] {x' y' : Except Fault (α × Cursor)}
    (h : p → Extends free q c x y) (h' : ¬ p → Extends free q c x' y') :
    Extends free q c (if p then x else x') (if p then y else y') := by
  by_cases hp : p
  · rw [if_pos hp, if_pos hp]
    exact h hp
  · rw [if_neg hp, if_neg hp]
    exact h' hp

/-- What decides how the reading goes on, but is not read, is the same with more text
behind. -/
theorem bind_left {z : Except Fault α} {f g : α → Except Fault (β × Cursor)}
    (hfg : ∀ a, Extends free q c (f a) (g a)) : Extends free q c (z >>= f) (z >>= g) := by
  cases z with
  | error e => exact error e
  | ok a => exact hfg a

/-- A reading that starts further on. With more text behind, the place where it starts has to
be found only if the reading stops before that text. -/
theorem congr {y' : Except Fault (α × Cursor)} (h : Extends free q c' x y)
    (hy : c'.Stops free q → y' = y) (hsuffix : c'.rest <:+ c.rest) :
    Extends free q c x y' := by
  intro b stop heq hstops
  obtain ⟨hrest, hb⟩ := h b stop heq hstops
  rw [hy (hstops.of_suffix hrest)]
  exact ⟨hrest.trans hsuffix, hb⟩

end Extends

/-! ## Runs of characters -/

namespace Cursor

variable {c : Cursor} {p : Char → Bool} {bound bound' : Nat}

theorem rest_takeUpTo_suffix (free : Bool) (p : Char → Bool) (bound : Nat) (c : Cursor) :
    (c.takeUpTo free p bound).2.rest <:+ c.rest := by
  induction bound generalizing c with
  | zero => exact List.suffix_refl _
  | succ bound ih =>
    rw [takeUpTo]
    split
    · exact List.suffix_refl _
    · split
      · exact (ih _).trans (rest_advance_suffix free c)
      · exact List.suffix_refl _

theorem takeUpTo_extend (hbound : c.rest.length ≤ bound)
    (hbound' : (c.rest ++ q).length ≤ bound') (hne : (c.takeUpTo free p bound).2.rest ≠ []) :
    (c.extend q).takeUpTo free p bound' =
      ((c.takeUpTo free p bound).1, (c.takeUpTo free p bound).2.extend q) := by
  induction bound generalizing c bound' with
  | zero => exact absurd (List.length_eq_zero_iff.1 (Nat.le_zero.1 hbound)) hne
  | succ bound ih =>
    rcases c with ⟨pos, rest⟩
    cases rest with
    | nil => exact absurd rfl hne
    | cons ch rest =>
      obtain ⟨bound', rfl⟩ : ∃ n, bound' = n + 1 :=
        Nat.exists_eq_succ_of_ne_zero (by
          simp only [List.length_append, List.length_cons] at hbound'
          omega)
      rw [takeUpTo] at hne ⊢
      rw [takeUpTo]
      by_cases hch : p ch = true
      · simp only [extend, List.cons_append, hch, if_true] at hne ⊢
        have hrest : (advance free ⟨pos, ch :: rest⟩).rest <:+ rest :=
          rest_advance_suffix_next free _
        have hadvance : advance free ⟨pos, ch :: (rest ++ q)⟩ =
            (advance free ⟨pos, ch :: rest⟩).extend q :=
          advance_extend (c := ⟨pos, ch :: rest⟩) (List.cons_ne_nil _ _)
            (Stops.of_suffix (.inl hne) (rest_takeUpTo_suffix _ _ _ _))
        have hlength := hrest.length_le
        simp only [List.length_cons, List.length_append] at hbound hbound'
        rw [hadvance, ih (by omega) (by rw [List.length_append]; omega) hne]
        rfl
      · simp only [extend, List.cons_append, hch, if_false, Bool.false_eq_true]

theorem rest_takeWhile_suffix (free : Bool) (p : Char → Bool) (c : Cursor) :
    (c.takeWhile free p).2.rest <:+ c.rest := rest_takeUpTo_suffix _ _ _ _

/-- A run of characters that ends before the text behind ends there. -/
theorem takeWhile_extend (hne : (c.takeWhile free p).2.rest ≠ []) :
    (c.extend q).takeWhile free p =
      ((c.takeWhile free p).1, (c.takeWhile free p).2.extend q) :=
  takeUpTo_extend (Nat.le_refl _) (Nat.le_refl _) hne

theorem rest_takeWhile_advance_suffix (free : Bool) (p : Char → Bool) (c : Cursor) :
    ((c.advance free).takeWhile free p).2.rest <:+ c.rest :=
  (rest_takeWhile_suffix free p _).trans (rest_advance_suffix free c)

theorem takeWhile_advance_extend (hne : c.rest ≠ [])
    (h : ((c.advance free).takeWhile free p).2.rest ≠ []) :
    ((c.extend q).advance free).takeWhile free p =
      (((c.advance free).takeWhile free p).1,
        ((c.advance free).takeWhile free p).2.extend q) := by
  rw [advance_extend hne (Stops.of_suffix (.inl h) (rest_takeWhile_suffix _ _ _)),
    takeWhile_extend h]

end Cursor

/-! ## Signs -/

section Hex

variable {c : Cursor}

/-- The character of hexadecimal digits without braces. -/
def hexLiteral (start first : Nat) (isByte : Bool) (r : List Char × Cursor) :
    Except Fault (Literal × Cursor) :=
  match charOfCode? (hexValue r.1) with
  | none => PatternAssembly.refuse .escapeHexInvalid (r.2.spanFrom first)
  | some ch => pure ({ span := r.2.spanFrom start, char := ch, isByte }, r.2)

theorem hexLiteral_eq {digits : List Char} {ch : Char}
    (h : charOfCode? (hexValue digits) = some ch) (start first : Nat) (isByte : Bool)
    (c : Cursor) :
    hexLiteral start first isByte (digits, c) =
      .ok ({ span := c.spanFrom start, char := ch, isByte }, c) := by
  simp only [hexLiteral, h]
  rfl

theorem exists_of_hexLiteral {start first : Nat} {isByte : Bool} {digits : List Char}
    {l : Literal} {d : Cursor} (h : hexLiteral start first isByte (digits, c) = .ok (l, d)) :
    ∃ ch, charOfCode? (hexValue digits) = some ch ∧ d = c ∧
      l = { span := c.spanFrom start, char := ch, isByte } := by
  cases hcode : charOfCode? (hexValue digits) with
  | none => simp [hexLiteral, hcode, refuse] at h
  | some ch =>
    rw [hexLiteral_eq hcode] at h
    obtain ⟨rfl, rfl⟩ := Prod.mk.inj (Except.ok.inj h)
    exact ⟨ch, rfl, rfl, rfl⟩

theorem readHex_eq_digits {ch : Char} {rest : List Char} (start : Nat) (letter : Char)
    (hrest : (c.advance free).rest = ch :: rest) (hch : ch ≠ '\x7b') :
    readHex free start letter c =
      readHexDigits free (if letter = 'x' then 2 else if letter = 'u' then 4 else 8)
        (c.advance free) >>= hexLiteral start (c.advance free).pos (letter = 'x') := by
  simp only [readHex, hrest]
  split
  · rename_i h
    cases h
  · rename_i h
    exact absurd (List.cons.inj h).1 hch
  · rfl

/-- Any number of hexadecimal digits in braces, at whose opening one the cursor is. -/
def readBracedHex (free : Bool) (start : Nat) (c : Cursor) :
    Except Fault (Literal × Cursor) :=
  let (digits, stop) := (c.advance free).takeWhile free fun ch => (hexDigit? ch).isSome
  match stop.rest with
  | [] => PatternAssembly.refuse .escapeUnexpectedEnd (stop.spanFrom c.pos)
  | '\x7d' :: _ =>
    let after := stop.advance free
    if digits.isEmpty then PatternAssembly.refuse .escapeHexEmpty (after.spanFrom c.pos)
    else match charOfCode? (hexValue digits) with
      | none => PatternAssembly.refuse .escapeHexInvalid ⟨c.pos + 1, stop.pos⟩
      | some ch => pure ({ span := after.spanFrom start, char := ch, isByte := false }, after)
  | _ => PatternAssembly.refuse .escapeHexInvalidDigit stop.charSpan

theorem readHex_eq_braced {rest : List Char} (start : Nat) (letter : Char)
    (hrest : (c.advance free).rest = '\x7b' :: rest) :
    readHex free start letter c = readBracedHex free start (c.advance free) := by
  simp only [readHex, hrest]
  rfl

theorem extends_hexDigits (count : Nat) (c : Cursor) :
    Extends free q c (readHexDigits free count c)
      (readHexDigits free count (c.extend q)) := by
  induction count generalizing c with
  | zero => exact .ok (List.suffix_refl _)
  | succ count ih =>
    cases hrest : c.rest with
    | nil =>
      rw [readHexDigits, hrest]
      exact .refuse _ _
    | cons ch rest =>
      rw [readHexDigits, readHexDigits, rest_extend, hrest, List.cons_append]
      simp only
      split
      · refine Extends.bind ?_ fun digits c₁ _ => .ok (List.suffix_refl _)
        exact (ih _).congr (fun h => by rw [advance_extend (by simp [hrest]) h])
          (rest_advance_suffix free c)
      · exact .refuse _ _

theorem extends_bracedHex (hne : c.rest ≠ []) (start : Nat) :
    Extends free q c (readBracedHex free start c)
      (readBracedHex free start (c.extend q)) := by
  have hdigits := rest_takeWhile_advance_suffix free (fun ch => (hexDigit? ch).isSome) c
  simp only [readBracedHex]
  rcases htake : (c.advance free).takeWhile free fun ch =>
    (hexDigit? ch).isSome with ⟨digits, stop⟩
  rw [htake] at hdigits
  cases hrest : stop.rest with
  | nil => exact .refuse _ _
  | cons ch rest =>
    rw [takeWhile_advance_extend hne (by simp [htake, hrest])]
    simp only [htake, hrest, rest_extend, List.cons_append]
    by_cases hch : ch = '\x7d'
    · subst hch
      refine .ite (fun _ => .refuse _ _) fun _ => ?_
      cases charOfCode? (hexValue digits) with
      | none => exact .refuse _ _
      | some ch =>
        exact Extends.congr (.ok (List.suffix_refl _))
          (fun h => by rw [advance_extend (by simp [hrest]) h]; rfl)
          ((rest_advance_suffix free stop).trans hdigits)
    · split
      · exact .refuse _ _
      · rename_i h
        exact absurd (List.cons.inj h).1 hch
      · exact .refuse _ _

theorem extends_hex (hne : c.rest ≠ []) (start : Nat) (letter : Char) :
    Extends free q c.next (readHex free start letter c)
      (readHex free start letter (c.extend q)) := by
  have hsuffix := rest_advance_suffix_next free c
  cases hrest : (c.advance free).rest with
  | nil =>
    simp only [readHex, hrest]
    exact .refuse _ _
  | cons ch rest =>
    have hadvance : (c.extend q).advance free = (c.advance free).extend q :=
      advance_extend hne (.inl (by simp [hrest]))
    have hrest' : ((c.extend q).advance free).rest = ch :: (rest ++ q) := by
      rw [hadvance, rest_extend, hrest, List.cons_append]
    by_cases hch : ch = '\x7b'
    · subst hch
      rw [readHex_eq_braced start letter hrest, readHex_eq_braced start letter hrest',
        hadvance]
      exact (extends_bracedHex (by simp [hrest]) start).congr (fun _ => rfl) hsuffix
    · rw [readHex_eq_digits start letter hrest hch, readHex_eq_digits start letter hrest' hch,
        hadvance]
      refine Extends.congr ((extends_hexDigits _ _).bind fun digits c₁ _ => ?_)
        (fun _ => rfl) hsuffix
      cases hcode : charOfCode? (hexValue digits) with
      | none =>
        simp only [hexLiteral, hcode]
        exact .refuse _ _
      | some ch =>
        rw [hexLiteral_eq hcode, pos_extend, hexLiteral_eq hcode]
        exact .ok (List.suffix_refl _)

end Hex

/-- A property of one letter. -/
theorem readProperty_eq_letter {c : Cursor} {ch : Char} {rest : List Char}
    (hrest : (c.advance free).rest = ch :: rest) (hbrace : ch ≠ '\x7b')
    (hbackslash : ch ≠ '\\') (start : Nat) (negated : Bool) :
    readProperty free start negated c =
      .ok (.property (((c.advance free).advance free).spanFrom start)
        (.named (String.singleton ch)) negated, (c.advance free).advance free) := by
  simp only [readProperty, hrest]

theorem extends_property {c : Cursor} (hne : c.rest ≠ []) (start : Nat) (negated : Bool) :
    Extends free q c.next (readProperty free start negated c)
      (readProperty free start negated (c.extend q)) := by
  refine Extends.congr (?_ : Extends free q (c.advance free) _ _) (fun _ => rfl)
    (rest_advance_suffix_next free c)
  cases hrest : (c.advance free).rest with
  | nil =>
    simp only [readProperty, hrest]
    exact .refuse _ _
  | cons ch rest =>
    have hne₁ : (c.advance free).rest ≠ [] := by simp [hrest]
    have hadvance : (c.extend q).advance free = (c.advance free).extend q :=
      advance_extend hne (.inl hne₁)
    have hrest' : ((c.extend q).advance free).rest = ch :: (rest ++ q) := by
      rw [hadvance, rest_extend, hrest, List.cons_append]
    by_cases hbrace : ch = '\x7b'
    · subst hbrace
      simp only [readProperty, hadvance, rest_extend, hrest, List.cons_append]
      generalize c.advance free = c₁ at *
      rcases htake : (c₁.advance free).takeWhile free (· != '\x7d') with ⟨text, c₂⟩
      cases hrest₂ : c₂.rest with
      | nil => exact .refuse _ _
      | cons ch rest =>
        have hne₂ : c₂.rest ≠ [] := by simp [hrest₂]
        rw [takeWhile_advance_extend hne₁ (by simp [htake, hrest₂]), htake]
        simp only [rest_extend, hrest₂, List.cons_append, List.isEmpty_cons, next_extend hne₂]
        refine .ok (rest_next_suffix.trans ?_)
        simpa [htake] using rest_takeWhile_advance_suffix free (· != '\x7d') c₁
    by_cases hbackslash : ch = '\\'
    · subst hbackslash
      simp only [readProperty, hrest]
      exact .refuse _ _
    rw [readProperty_eq_letter hrest hbrace hbackslash,
      readProperty_eq_letter hrest' hbrace hbackslash, hadvance]
    exact Extends.congr (.ok (List.suffix_refl _))
      (fun h => by rw [advance_extend hne₁ h]; rfl) (rest_advance_suffix free _)

/-- The name of a boundary ends with its brace, so it may be the last sign in any spacing. -/
theorem extends_boundary (start : Nat) (c : Cursor) :
    Extends false q c (readBoundary free start c) (readBoundary free start (c.extend q)) := by
  simp only [readBoundary]
  cases hrest : c.rest with
  | nil =>
    refine Extends.congr (.ok (List.suffix_refl _)) (fun h => ?_) (List.suffix_refl _)
    -- The pattern ends here, and calm text behind it begins with no brace.
    have hcalm : Calm q := (h.resolve_left (by simp [hrest])).2
    rw [rest_extend, hrest, List.nil_append]
    split
    · exact absurd rfl (calm_cons.1 hcalm).2.2.2
    · rfl
  | cons ch rest =>
    have hne : c.rest ≠ [] := by simp [hrest]
    simp only [rest_extend, hrest, List.cons_append]
    split
    · rename_i h
      obtain ⟨rfl, rfl⟩ := List.cons.inj h
      simp only
      cases hrest₁ : (c.advance free).rest with
      | nil => exact .refuse _ _
      | cons ch rest =>
        have hne₁ : (c.advance free).rest ≠ [] := by simp [hrest₁]
        simp only [advance_extend hne (.inl hne₁), rest_extend, hrest₁, List.cons_append]
        split
        · have hname :=
            rest_takeWhile_advance_suffix free (fun ch => ch.isAlpha || ch == '-') c
          rcases htake : (c.advance free).takeWhile free fun ch =>
            ch.isAlpha || ch == '-' with ⟨name, c₂⟩
          rw [htake] at hname
          cases hrest₂ : c₂.rest with
          | nil =>
            simp only
            exact .refuse _ _
          | cons ch rest =>
            have hne₂ : c₂.rest ≠ [] := by simp [hrest₂]
            rw [takeWhile_extend (by simp [htake, hrest₂]), htake]
            simp only [rest_extend, hrest₂, List.cons_append]
            split
            · rename_i h
              obtain ⟨rfl, rfl⟩ := List.cons.inj h
              simp only
              split
              · rw [next_extend hne₂]
                exact .ok (rest_next_suffix.trans hname)
              · exact .refuse _ _
            · exact .refuse _ _
        · exact .ok (List.suffix_refl _)
    · rename_i h
      split
      · rename_i h'
        obtain ⟨rfl, rfl⟩ := List.cons.inj h'
        exact absurd rfl (h rest)
      · exact .ok (List.suffix_refl _)

theorem extends_escape {c : Cursor} (hne : c.rest ≠ []) :
    Extends free q c.next (readEscape free c) (readEscape free (c.extend q)) := by
  unfold readEscape
  dsimp only
  rw [next_extend hne]
  generalize c.next = c₁
  cases hrest : c₁.rest with
  | nil => exact .refuse _ _
  | cons ch rest =>
    have hne₁ : c₁.rest ≠ [] := by simp [hrest]
    rw [rest_extend, hrest, List.cons_append]
    -- A reference back, a code, a property, a boundary, and what one letter or sign means.
    refine .ite (fun _ => .refuse _ _) fun _ => .ite (fun _ => ?_) fun _ =>
      .ite (fun _ => ?_) fun _ => .ite (fun _ => ?_) fun _ => ?_
    · exact Extends.congr ((extends_hex hne₁ _ _).bind fun l c₂ _ => .ok (List.suffix_refl _))
        (fun _ => rfl) rest_next_suffix
    · exact (extends_property hne₁ _ _).congr (fun _ => rfl) rest_next_suffix
    · rw [next_extend hne₁]
      exact Extends.congr
        (((extends_boundary _ _).mono fun _ => rfl).bind fun kind c₂ _ =>
          .ok (List.suffix_refl _))
        (fun _ => rfl) rest_next_suffix
    · rw [next_extend hne₁]
      refine .ite (fun _ => .ok rest_next_suffix) fun _ => ?_
      cases controlEscape ch with
      | some control => exact .ok rest_next_suffix
      | none =>
        cases shorthandEscape ch with
        | some shorthand => exact .ok rest_next_suffix
        | none =>
          cases placeEscape ch with
          | some kind => exact .ok rest_next_suffix
          | none => exact .refuse _ _

/-- A sign. -/
theorem extends_atom {c : Cursor} (hne : c.rest ≠ []) :
    Extends free q c.next (Atom.read free c) (Atom.read free (c.extend q)) := by
  obtain ⟨ch, rest, hrest⟩ := List.exists_cons_of_ne_nil hne
  have hrest' : (c.extend q).rest = ch :: (rest ++ q) := by simp [hrest]
  by_cases hch : ch = '\\'
  · subst hch
    simp only [Atom.read, hrest, hrest']
    exact extends_escape hne
  · rw [Atom.read_eq_ofChar _ hch hrest, Atom.read_eq_ofChar _ hch hrest', next_extend hne]
    exact .ok (List.suffix_refl _)

/-! ## Counts -/

namespace Cursor

variable {c : Cursor}

theorem rest_skipBlanks_suffix (c : Cursor) : c.skipBlanks.rest <:+ c.rest :=
  List.dropWhile_suffix _

/-- A run that ends before the text behind ends there. -/
theorem run_append {p : Char → Bool} {cs : List Char} (h : cs.dropWhile p ≠ [])
    (q : List Char) :
    (cs ++ q).takeWhile p = cs.takeWhile p ∧ (cs ++ q).dropWhile p = cs.dropWhile p ++ q := by
  have hdrop : (cs.dropWhile p).isEmpty = false := List.isEmpty_eq_false_iff.2 h
  have htake : (cs.takeWhile p).length ≠ cs.length := by
    intro hlength
    have hall := congrArg List.length (List.takeWhile_append_dropWhile (p := p) (l := cs))
    rw [List.length_append, hlength] at hall
    exact h (List.length_eq_zero_iff.1 (by omega))
  rw [List.takeWhile_append, List.dropWhile_append, if_neg htake, hdrop]
  exact ⟨rfl, rfl⟩

theorem skipBlanks_extend (h : c.skipBlanks.rest ≠ []) :
    (c.extend q).skipBlanks = c.skipBlanks.extend q := by
  obtain ⟨htake, hdrop⟩ := run_append h q
  simp only [skipBlanks, extend, htake, hdrop]

end Cursor

namespace Count

theorem rest_readGreed_suffix (c : Cursor) : (readGreed c).2.rest <:+ c.rest := by
  rw [readGreed]
  split
  · exact rest_next_suffix
  · exact List.suffix_refl _

theorem readGreed_extend {c : Cursor} (h : (readGreed c).2.Stops free q) :
    readGreed (c.extend q) = ((readGreed c).1, (readGreed c).2.extend q) := by
  simp only [readGreed] at h ⊢
  cases hrest : c.rest with
  | nil =>
    rw [hrest] at h
    -- The pattern ends here, and calm text behind it begins with no question mark.
    have hcalm : Calm q := (h.resolve_left (by simp [hrest])).2
    rw [rest_extend, hrest, List.nil_append]
    split
    · exact absurd rfl (calm_cons.1 hcalm).1
    · rfl
  | cons ch rest =>
    have hnext := next_extend (q := q) (c := c) (by simp [hrest])
    simp only [rest_extend, hrest, List.cons_append]
    split
    · rename_i h
      obtain ⟨rfl, rfl⟩ := List.cons.inj h
      simp only [hnext]
    · rename_i hgreedy
      split
      · rename_i h
        obtain ⟨rfl, rfl⟩ := List.cons.inj h
        exact (hgreedy _ rfl).elim
      · rfl

/-- A sign of repetition. -/
theorem extends_sign {c : Cursor} (hne : c.rest ≠ []) (sign : Char) :
    Extends free q c.next (.ok (readSign sign c)) (.ok (readSign sign (c.extend q))) := by
  intro n stop heq hstops
  obtain ⟨rfl, rfl⟩ := Prod.mk.inj (Except.ok.inj heq)
  have hgreed := readGreed_extend (c := c.next) hstops
  refine ⟨rest_readGreed_suffix c.next, ?_⟩
  simp only [readSign, next_extend hne, hgreed]
  rfl

theorem rest_readDecimal_suffix (free : Bool) (c : Cursor) :
    (readDecimal free c).2.rest <:+ c.rest :=
  (rest_takeWhile_suffix _ _ _).trans
    ((rest_takeWhile_suffix _ _ _).trans (rest_skipBlanks_suffix c))

theorem readDecimal_extend {c : Cursor} (h : (readDecimal free c).2.rest ≠ []) :
    readDecimal free (c.extend q) =
      ((readDecimal free c).1, (readDecimal free c).2.extend q) := by
  have hdigits : (c.skipBlanks.takeWhile free fun ch => '0' ≤ ch && ch ≤ '9').2.rest ≠ [] :=
    (rest_takeWhile_suffix _ _ _).ne_nil h
  have hblanks : c.skipBlanks.rest ≠ [] := (rest_takeWhile_suffix _ _ _).ne_nil hdigits
  simp only [readDecimal, skipBlanks_extend hblanks, takeWhile_extend hdigits] at h ⊢
  rw [takeWhile_extend h]
  rfl

theorem extends_bounds (start : Nat) (c : Cursor) :
    Extends true q c (readBounds free start c) (readBounds free start (c.extend q)) := by
  simp only [readBounds]
  cases hrest : c.rest with
  | nil => exact .refuse _ _
  | cons ch rest =>
    simp only [rest_extend, hrest, List.cons_append, List.isEmpty_cons,
      Bool.false_eq_true, if_false]
    have hsuffix : (readDecimal free c).2.rest <:+ c.rest := rest_readDecimal_suffix free c
    rcases hread : readDecimal free c with ⟨lo, c₁⟩
    rw [hread] at hsuffix
    cases hrest₁ : c₁.rest with
    | nil => exact .refuse _ _
    | cons ch rest =>
      have hne₁ : c₁.rest ≠ [] := by simp [hrest₁]
      rw [readDecimal_extend (by simp [hread, hrest₁]), hread]
      simp only [rest_extend, hrest₁, List.cons_append]
      split
      · exact .refuse _ _
      · rename_i h
        obtain ⟨rfl, rfl⟩ := List.cons.inj h
        simp only
        refine Extends.congr ?_ (fun h => by rw [advance_extend hne₁ (.inl h.ne_nil)])
          ((rest_advance_suffix free c₁).trans hsuffix)
        generalize c₁.advance free = c₂
        cases hrest₂ : c₂.rest with
        | nil => exact .refuse _ _
        | cons ch rest =>
          simp only [rest_extend, hrest₂, List.cons_append]
          split
          · exact .refuse _ _
          · rename_i h
            obtain ⟨rfl, rfl⟩ := List.cons.inj h
            exact .bind_left fun lo => .ok (List.suffix_refl _)
          · rename_i hbrace
            split
            · rename_i h
              cases h
            · rename_i h
              obtain ⟨rfl, -⟩ := List.cons.inj h
              exact (hbrace rest rfl).elim
            · refine .bind_left fun lo => ?_
              exact Extends.congr (.bind_left fun hi => .ok (List.suffix_refl _))
                (fun h => by rw [readDecimal_extend h.ne_nil]; rfl)
                (rest_readDecimal_suffix free c₂)
      · rename_i hcomma
        split
        · rename_i h
          cases h
        · rename_i h
          obtain ⟨rfl, -⟩ := List.cons.inj h
          exact (hcomma rest rfl).elim
        · exact .bind_left fun lo => .ok hsuffix

theorem extends_braces {c : Cursor} (hne : c.rest ≠ []) :
    Extends free q c.next (readBraces free c) (readBraces free (c.extend q)) := by
  simp only [readBraces]
  refine Extends.congr
    (.bind_of_not_last (extends_bounds _ _) (fun bounds c₁ h => ?_) fun bounds c₁ hne₁ => ?_)
    (fun h => by rw [advance_extend hne h]; rfl) (rest_advance_suffix_next free c)
  · simp only [h]
    exact ⟨_, rfl⟩
  · cases hrest : c₁.rest with
    | nil => exact absurd hrest hne₁
    | cons ch rest =>
      simp only [rest_extend, hrest, List.cons_append]
      split
      · rename_i h
        obtain ⟨rfl, rfl⟩ := List.cons.inj h
        simp only
        split
        · exact .refuse _ _
        · refine Extends.congr (.ok (List.suffix_refl _)) (fun h => ?_)
            ((rest_readGreed_suffix _).trans (rest_advance_suffix free c₁))
          rw [advance_extend hne₁ (h.of_suffix (rest_readGreed_suffix _)), readGreed_extend h]
          rfl
      · exact .refuse _ _

end Count

/-! ## What opens a group -/

namespace Cursor

variable {c c' : Cursor} {text : List Char}

/-- Whether the text stands at the cursor does not depend on the text behind. -/
def Decides (q : List Char) (c : Cursor) (text : List Char) : Prop :=
  text.isPrefixOf (c.rest ++ q) = text.isPrefixOf c.rest

theorem decides_of_length_le (h : text.length ≤ c.rest.length) : c.Decides q text := by
  rw [Decides, Bool.eq_iff_iff, List.isPrefixOf_iff_prefix, List.isPrefixOf_iff_prefix]
  constructor
  · intro hprefix
    exact List.prefix_of_prefix_length_le hprefix (List.prefix_append _ _) h
  · intro hprefix
    exact hprefix.trans (List.prefix_append _ _)

theorem after?_extend (h : c.Decides q text) :
    (c.extend q).after? text = (c.after? text).map (·.extend q) := by
  rw [after?, after?, rest_extend, h]
  split
  · rename_i hprefix
    have hlength := (List.isPrefixOf_iff_prefix.1 hprefix).length_le
    simp only [Option.map_some, extend, List.drop_append_of_le_length hlength]
  · rfl

theorem rest_after?_suffix (h : c.after? text = some c') : c'.rest <:+ c.rest := by
  rw [after?] at h
  split at h
  · obtain rfl := Option.some.inj h
    exact List.drop_suffix _ _
  · cases h

theorem afterAny?_extend {texts : List String} (h : ∀ text ∈ texts, c.Decides q text.toList) :
    (c.extend q).afterAny? texts = (c.afterAny? texts).map (·.extend q) := by
  induction texts with
  | nil => rfl
  | cons text texts ih =>
    rw [List.forall_mem_cons] at h
    have ih := ih h.2
    simp only [afterAny?, List.findSome?_cons, after?_extend h.1] at ih ⊢
    cases c.after? text.toList with
    | none => exact ih
    | some after => rfl

theorem rest_afterAny?_suffix {texts : List String} (h : c.afterAny? texts = some c') :
    c'.rest <:+ c.rest := by
  obtain ⟨text, -, htext⟩ := List.exists_of_findSome?_eq_some h
  exact rest_after?_suffix htext

end Cursor

theorem extends_flags (seen : List (Option Mode × Span)) (pos : Nat) (cs : List Char) :
    Extends free q ⟨pos, cs⟩ (readFlags seen pos cs) (readFlags seen pos (cs ++ q)) := by
  induction cs generalizing seen pos with
  | nil => exact .refuse _ _
  | cons ch cs ih =>
    have hgo (seen : List (Option Mode × Span)) : Extends free q ⟨pos, ch :: cs⟩
        (readFlags seen (pos + 1) cs) (readFlags seen (pos + 1) (cs ++ q)) :=
      (ih seen (pos + 1)).congr (fun _ => rfl) (List.suffix_cons ch cs)
    rw [List.cons_append]
    unfold readFlags
    simp only
    split
    · split
      · exact .refuse _ _
      · exact .ok (List.suffix_refl _)
    · split
      · split
        · exact .error _
        · exact hgo _
      · split
        · exact .refuse _ _
        · split
          · exact .error _
          · exact (hgo _).bind fun changes c _ => .ok (List.suffix_refl _)

theorem readName_extend {c c' : Cursor} {span : Span} {name : String}
    (h : readName c = .ok (span, name, c')) :
    c'.rest <:+ c.rest ∧ readName (c.extend q) = .ok (span, name, c'.extend q) := by
  rw [readName] at h ⊢
  by_cases hnil : c.rest.isEmpty = true
  · rw [if_pos hnil] at h
    cases h
  · rw [if_neg hnil] at h
    rw [if_neg (by simp_all)]
    cases hdrop : c.rest.dropWhile (· != '>') with
    | nil =>
      simp only [hdrop] at h
      split at h <;> cases h
    | cons ch rest =>
      have hne : c.rest.dropWhile (· != '>') ≠ [] := by simp [hdrop]
      obtain ⟨htake', hdrop'⟩ := run_append hne q
      simp only [hdrop] at h
      simp only [rest_extend, htake', hdrop', hdrop, List.cons_append]
      split at h
      · cases h
      · rename_i hfind
        split at h
        · cases h
        · rename_i hempty
          simp only [Except.ok.injEq, Prod.mk.injEq] at h
          obtain ⟨rfl, rfl, rfl⟩ := h
          simp only [if_neg hempty]
          refine ⟨?_, rfl⟩
          refine (List.suffix_cons ch rest).trans ?_
          rw [← hdrop]
          exact List.dropWhile_suffix _

theorem rest_readFlags_ne_nil {seen : List (Option Mode × Span)} {pos : Nat} {cs : List Char}
    {changes : ModeChanges} {c : Cursor} (h : readFlags seen pos cs = .ok (changes, c)) :
    c.rest ≠ [] := by
  induction cs generalizing seen pos changes with
  | nil => cases h
  | cons ch cs ih =>
    unfold readFlags at h
    simp only at h
    split at h
    · split at h
      · cases h
      · obtain ⟨-, rfl⟩ := Prod.mk.inj (Except.ok.inj h)
        exact List.cons_ne_nil _ _
    · split at h
      · split at h
        · cases h
        · exact ih h
      · split at h
        · cases h
        · split at h
          · cases h
          · obtain ⟨⟨changes', c'⟩, hflags, h⟩ := bind_eq_ok.1 h
            obtain ⟨-, rfl⟩ := Prod.mk.inj (Except.ok.inj h)
            exact ih hflags

/-- The marks that may follow an opening parenthesis, but for plain flags. -/
theorem decides_marks {c : Cursor} {rest : List Char} (hrest : c.rest = '?' :: rest)
    (hnil : rest ≠ []) (hname : rest ≠ ['<']) (hlong : rest ≠ ['P']) :
    ∀ text ∈ ["?=", "?!", "?<=", "?<!"] ++ ["?P<", "?<"], c.Decides q text.toList := by
  match rest, hnil with
  | [ch], _ =>
    have hname : ch ≠ '<' := by simpa using hname
    have hlong : ch ≠ 'P' := by simpa using hlong
    simp [Decides, hrest, List.isPrefixOf, hname.symm, hlong.symm]
  | ch :: ch' :: rest, _ =>
    intro text htext
    refine decides_of_length_le ?_
    have hlength : text.toList.length ≤ 3 := by
      revert text
      decide
    rw [hrest]
    simp only [List.length_cons]
    omega

/-- A question mark alone, or one that begins a mark without ending it. -/
theorem read_undecided {c : Cursor} {rest : List Char}
    (hrest : (c.advance free).rest = '?' :: rest)
    (h : rest = [] ∨ rest = ['<'] ∨ rest = ['P']) :
    ∃ fault, GroupOpening.read free c = .error fault := by
  simp only [GroupOpening.read]
  generalize c.advance free = c₁ at *
  rcases c₁ with ⟨pos, rest⟩
  rcases h with rfl | rfl | rfl <;> subst hrest <;>
    simp [afterAny?, after?, readName, readFlags, modeOfFlag, refuse, bind, Except.bind, next]

theorem extends_name (c : Cursor) :
    Extends free q c (readName c >>= fun r => pure (GroupOpening.named r.1 r.2.1, r.2.2))
      (readName (c.extend q) >>= fun r => pure (GroupOpening.named r.1 r.2.1, r.2.2)) := by
  intro opening stop heq _
  obtain ⟨⟨span, name, c'⟩, hname, heq⟩ := bind_eq_ok.1 heq
  obtain ⟨hsuffix, hextend⟩ := readName_extend (q := q) hname
  obtain ⟨rfl, rfl⟩ := Prod.mk.inj (Except.ok.inj heq)
  rw [hextend]
  exact ⟨hsuffix, rfl⟩

/-- A group that is no plain one is read the same even at the end, and in free spacing. -/
theorem extends_marked {c : Cursor} (hne : c.rest ≠ [])
    (hhead : (c.advance free).rest.head? = some '?') :
    Extends false q c.next (GroupOpening.read free c)
      (GroupOpening.read free (c.extend q)) := by
  obtain ⟨rest, hrest⟩ := List.head?_eq_some_iff.1 hhead
  -- A mark that is cut off is refused, so what comes behind it does not matter.
  by_cases hdecided : rest ≠ [] ∧ rest ≠ ['<'] ∧ rest ≠ ['P']
  · obtain ⟨hlook, hnamed⟩ := List.forall_mem_append.1
      (decides_marks (q := q) hrest hdecided.1 hdecided.2.1 hdecided.2.2)
    simp only [GroupOpening.read]
    refine Extends.congr ?_ (fun _ => by rw [advance_extend hne (.inl (by simp [hrest]))])
      (rest_advance_suffix_next free c)
    generalize c.advance free = c₁ at *
    rw [afterAny?_extend hlook, afterAny?_extend hnamed]
    cases c₁.afterAny? ["?=", "?!", "?<=", "?<!"] with
    | some after => exact .refuse _ _
    | none =>
      cases hafter : c₁.afterAny? ["?P<", "?<"] with
      | some after =>
        simp only [Option.map_some, Option.map_none]
        exact (extends_name after).congr (fun _ => rfl) (rest_afterAny?_suffix hafter)
      | none =>
        simp only [Option.map_none, rest_extend, hrest, List.cons_append]
        have hnext : c₁.next.rest = rest := by simp [next, hrest]
        have hempty : rest.isEmpty = false := List.isEmpty_eq_false_iff.2 hdecided.1
        have hempty' : (rest ++ q).isEmpty = false := by simp [hdecided.1]
        rw [next_extend (by simp [hrest])]
        simp only [rest_extend, hnext, hempty, hempty', Bool.false_eq_true, if_false]
        refine Extends.congr ((extends_flags _ _ _).bind fun changes c₂ hflags => ?_)
          (fun _ => rfl) ?_
        · have hne₂ := rest_readFlags_ne_nil hflags
          cases hrest₂ : c₂.rest with
          | nil => exact absurd hrest₂ hne₂
          | cons ch rest =>
            simp only [rest_extend, hrest₂, List.cons_append, next_extend hne₂]
            split
            · rename_i h
              obtain ⟨rfl, rfl⟩ := List.cons.inj h
              simp only
              split
              · exact .refuse _ _
              · rename_i hpos
                rw [pos_extend, pos_extend, if_neg hpos]
                exact .ok rest_next_suffix
            · rename_i hclose
              split
              · rename_i h
                exact (hclose _ (by rw [(List.cons.inj h).1])).elim
              · exact .ok rest_next_suffix
        · rw [hrest]
          exact List.suffix_cons _ _
  · obtain ⟨fault, hfault⟩ := read_undecided hrest (by tauto)
    rw [hfault]
    exact .error fault

/-- What opens a group. -/
theorem extends_opening {c : Cursor} (hne : c.rest ≠ []) :
    Extends free q c.next (GroupOpening.read free c)
      (GroupOpening.read free (c.extend q)) := by
  by_cases hhead : (c.advance free).rest.head? = some '?'
  · exact (extends_marked hne hhead).mono fun _ => rfl
  · rw [read_numbered hhead]
    refine Extends.congr (.ok (List.suffix_refl _)) (fun h => ?_)
      (rest_advance_suffix_next free c)
    rw [read_numbered, advance_extend hne h]
    rw [advance_extend hne h, rest_extend]
    cases hrest : (c.advance free).rest with
    | nil =>
      have hcalm : Calm q := (h.resolve_left (by simp [hrest])).2
      exact fun hhead => (hcalm '?' hhead).1 rfl
    | cons ch rest => simpa [hrest] using hhead

end PatternAssembly
