import PatternAssembly.Proofs.Tree.Behind

/-!
# The last sign of a pattern in any spacing

Where spacing is free, the last sign of a pattern takes along the blanks and the comments
behind it. Text behind the pattern is read after all of this, or belongs to a comment that is
still open. Which of the two happens does not depend on that text, if it is one line and
starts with a sign.

## Main definitions

* `Firm`: a text that no pattern takes along but in a comment
* `EndsAt`: a reading up to the end, and the same reading with more text behind

## Main statements

* `Cursor.advance_firm`: blanks and comments before the text behind
* `Reader.step_firm`: the last sign
* `Reader.passes_firm`: a whole pattern
-/
namespace PatternAssembly

open Cursor

/-- The text is one line, so that a comment goes on behind it, and starts with a sign that is
neither a blank nor a comment and does not continue the sign before it. -/
structure Firm (q : List Char) : Prop where
  calm : Calm q
  sign : ∀ c ∈ q.head?, Unicode.isBlank c = false ∧ c ≠ '#'
  line : '\n' ∉ q

variable {free : Bool} {q : List Char}

/-! ## Blanks and comments -/

namespace Cursor

variable {c : Cursor}

theorem skipFrom_comment (pos : Nat) {cs : List Char} (h : '\n' ∉ cs) :
    (skipFrom pos true cs).rest = [] := by
  induction cs generalizing pos with
  | nil => rfl
  | cons ch cs ih =>
    rw [List.mem_cons, not_or] at h
    have hch : (ch != '\n') = true := bne_iff_ne.2 (Ne.symm h.1)
    rw [skipFrom, if_pos rfl, hch]
    exact ih _ h.2

theorem skipFrom_of_firm (hq : Firm q) (pos : Nat) : skipFrom pos false q = ⟨pos, q⟩ := by
  cases q with
  | nil => rfl
  | cons ch q =>
    obtain ⟨hblank, hhash⟩ := hq.sign ch rfl
    simp [skipFrom, hblank, hhash]

/-- Over blanks and comments, the text behind stays, or a comment takes it along. -/
theorem skipFrom_firm (pos : Nat) (inComment : Bool) (cs : List Char) :
    (∀ q, Firm q → skipFrom pos inComment (cs ++ q) = (skipFrom pos inComment cs).extend q) ∨
      (skipFrom pos inComment cs).rest = [] ∧
        ∀ q, Firm q → (skipFrom pos inComment (cs ++ q)).rest = [] := by
  induction cs generalizing pos inComment with
  | nil =>
    cases inComment with
    | false => exact .inl fun q hq => skipFrom_of_firm hq pos
    | true => exact .inr ⟨rfl, fun q hq => skipFrom_comment pos hq.line⟩
  | cons ch cs ih =>
    simp only [List.cons_append, skipFrom]
    split_ifs
    · exact ih _ _
    · exact ih _ _
    · exact ih _ _
    · exact .inl fun q _ => rfl

theorem skip_firm (free : Bool) (c : Cursor) :
    (∀ q, Firm q → (c.extend q).skip free = (c.skip free).extend q) ∨
      (c.skip free).rest = [] ∧ ∀ q, Firm q → ((c.extend q).skip free).rest = [] := by
  cases free with
  | false => exact .inl fun q _ => rfl
  | true => exact skipFrom_firm _ _ _

theorem advance_firm (free : Bool) (hne : c.rest ≠ []) :
    (∀ q, Firm q → (c.extend q).advance free = (c.advance free).extend q) ∨
      (c.advance free).rest = [] ∧ ∀ q, Firm q → ((c.extend q).advance free).rest = [] := by
  simp only [advance, next_extend hne]
  exact skip_firm free c.next

end Cursor

/-! ## Readings up to the end -/

/-- If the reading goes up to the end, then with more text behind it stops before that text,
or takes it along in a comment. What is read then may differ in its place, and is related to
what is read without. -/
def EndsAt {α : Type} (R : α → α → Prop) (x : Except Fault (α × Cursor))
    (y : List Char → Except Fault (α × Cursor)) : Prop :=
  ∀ a c, x = .ok (a, c) → c.rest = [] →
    (∀ q, Firm q → y q = .ok (a, c.extend q)) ∨
      ∀ q, Firm q → ∃ b d, y q = .ok (b, d) ∧ d.rest = [] ∧ R a b

/-- Nothing is asked of what is read. -/
def Anything {α : Type} (_ _ : α) : Prop := True

namespace EndsAt

variable {α β : Type} {R : α → α → Prop} {S : β → β → Prop} {x : Except Fault (α × Cursor)}
  {y : List Char → Except Fault (α × Cursor)} {c : Cursor}

theorem refuse (kind : FaultKind) (span : Span) :
    EndsAt R (PatternAssembly.refuse kind span) y := nofun

/-- A reading that stops at a place does so in any spacing. -/
theorem ok (a : α) (c : Cursor) : EndsAt R (.ok (a, c)) fun q => .ok (a, c.extend q) := by
  intro b d heq _
  obtain ⟨rfl, rfl⟩ := Prod.mk.inj (Except.ok.inj heq)
  exact .inl fun q _ => rfl

/-- A reading that stops behind a sign and what follows the sign. -/
theorem advance (hne : c.rest ≠ []) (f : Cursor → α) (hf : ∀ c q, f (c.extend q) = f c) :
    EndsAt Anything (.ok (f (c.advance free), c.advance free)) fun q =>
      .ok (f ((c.extend q).advance free), (c.extend q).advance free) := by
  intro a d heq _
  obtain ⟨rfl, rfl⟩ := Prod.mk.inj (Except.ok.inj heq)
  refine (advance_firm free hne).imp (fun hmeets q hq => ?_) fun hdrowns q hq => ?_
  · simp only [hmeets q hq, hf]
  · exact ⟨_, _, rfl, hdrowns.2 q hq, trivial⟩

theorem congr {y' : List Char → Except Fault (α × Cursor)} (h : EndsAt R x y)
    (hy : ∀ q, Firm q → y' q = y q) : EndsAt R x y' := by
  intro a d heq hnil
  refine (h a d heq hnil).imp (fun hmeets q hq => ?_) fun hdrowns q hq => ?_
  · rw [hy q hq, hmeets q hq]
  · rw [hy q hq]
    exact hdrowns q hq

theorem ite {p : Prop} [Decidable p] {x' : Except Fault (α × Cursor)}
    {y' : List Char → Except Fault (α × Cursor)} (h : p → EndsAt R x y)
    (h' : ¬ p → EndsAt R x' y') :
    EndsAt R (if p then x else x') fun q => if p then y q else y' q := by
  by_cases hp : p
  · simp only [if_pos hp]
    exact h hp
  · simp only [if_neg hp]
    exact h' hp

theorem of_extends (h : ∀ q, Firm q → Extends false q c x (y q)) : EndsAt R x y :=
  fun a d heq _ => .inl fun q hq => (h q hq a d heq (.inr ⟨rfl, hq.calm⟩)).2

/-- What is read is put into other words. -/
theorem map {f : α × Cursor → Except Fault (β × Cursor)} (h : EndsAt R x y)
    (hf : ∀ a c b d, f (a, c) = .ok (b, d) → d = c ∧
      (∀ q, f (a, c.extend q) = .ok (b, c.extend q)) ∧
        ∀ a' c', R a a' → ∃ b', f (a', c') = .ok (b', c') ∧ S b b') :
    EndsAt S (x >>= f) fun q => y q >>= f := by
  intro b d heq hnil
  obtain ⟨⟨a, c⟩, hx, heq⟩ := bind_eq_ok.1 heq
  obtain ⟨rfl, hmeets, hdrowns⟩ := hf a c b d heq
  refine (h a d hx hnil).imp (fun hy q hq => ?_) fun hy q hq => ?_
  · exact bind_eq_ok.2 ⟨_, hy q hq, hmeets q⟩
  · obtain ⟨a', c', hy, hnil', hR⟩ := hy q hq
    obtain ⟨b', hb, hS⟩ := hdrowns a' c' hR
    exact ⟨b', c', bind_eq_ok.2 ⟨_, hy, hb⟩, hnil', hS⟩

end EndsAt

/-! ## Signs -/

variable {c : Cursor}

theorem endsAt_hexDigits (count : Nat) (c : Cursor) :
    EndsAt Eq (readHexDigits free count c) fun q =>
      readHexDigits free count (c.extend q) := by
  induction count generalizing c with
  | zero => exact .ok [] c
  | succ count ih =>
    simp only [readHexDigits, rest_extend]
    cases hrest : c.rest with
    | nil => exact .refuse _ _
    | cons ch rest =>
      simp only [List.cons_append]
      split_ifs
      · rcases advance_firm free (c := c) (by simp [hrest]) with hmeets | ⟨hnil, hdrowns⟩
        · refine EndsAt.congr ((ih (c.advance free)).map (S := Eq) fun a d b d' heq => ?_)
            fun q hq => by rw [hmeets q hq]
          obtain ⟨rfl, rfl⟩ := Prod.mk.inj (Except.ok.inj heq)
          exact ⟨rfl, fun q => rfl, fun a' c' h => ⟨_, rfl, congrArg (List.cons ch) h⟩⟩
        · -- Behind the last digit nothing is left to read, so there are no more digits.
          cases count with
          | zero =>
            intro digits d heq _
            obtain ⟨rfl, rfl⟩ := Prod.mk.inj (Except.ok.inj heq)
            exact .inr fun q hq => ⟨_, _, rfl, hdrowns q hq, rfl⟩
          | succ count =>
            simp only [readHexDigits, hnil]
            exact .refuse _ _
      · exact .refuse _ _

theorem endsAt_bracedHex (hne : c.rest ≠ []) (start : Nat) :
    EndsAt Anything (readBracedHex free start c) fun q =>
      readBracedHex free start (c.extend q) := by
  simp only [readBracedHex]
  rcases htake : (c.advance free).takeWhile free fun ch =>
    (hexDigit? ch).isSome with ⟨digits, stop⟩
  cases hrest : stop.rest with
  | nil => exact .refuse _ _
  | cons ch rest =>
    have hextend (q : List Char) : ((c.extend q).advance free).takeWhile free
        (fun ch => (hexDigit? ch).isSome) = (digits, stop.extend q) := by
      rw [takeWhile_advance_extend hne (by simp [htake, hrest]), htake]
    simp only [hextend, rest_extend, hrest, List.cons_append]
    by_cases hch : ch = '\x7d'
    · subst hch
      refine .ite (fun _ => .refuse _ _) fun _ => ?_
      cases charOfCode? (hexValue digits) with
      | none => exact .refuse _ _
      | some ch =>
        exact .advance (c := stop) (by simp [hrest])
          (fun c => ({ span := c.spanFrom start, char := ch, isByte := false } : Literal))
          fun _ _ => rfl
    · split
      · exact .refuse _ _
      · rename_i h
        exact absurd (List.cons.inj h).1 hch
      · exact .refuse _ _

theorem endsAt_hex (hne : c.rest ≠ []) (start : Nat) (letter : Char) :
    EndsAt Anything (readHex free start letter c) fun q =>
      readHex free start letter (c.extend q) := by
  cases hrest : (c.advance free).rest with
  | nil =>
    simp only [readHex, hrest]
    exact .refuse _ _
  | cons ch rest =>
    have hadvance (q : List Char) : (c.extend q).advance free = (c.advance free).extend q :=
      advance_extend hne (.inl (by simp [hrest]))
    have hrest' (q : List Char) : ((c.extend q).advance free).rest = ch :: (rest ++ q) := by
      rw [hadvance, rest_extend, hrest, List.cons_append]
    by_cases hch : ch = '\x7b'
    · subst hch
      rw [readHex_eq_braced start letter hrest]
      refine (endsAt_bracedHex (by simp [hrest]) start).congr fun q _ => ?_
      rw [readHex_eq_braced start letter (hrest' q), hadvance]
    · generalize hcount : (if letter = 'x' then 2 else if letter = 'u' then 4 else 8) = count
      have hdigits : EndsAt Eq (readHexDigits free count (c.advance free)) fun q =>
          readHexDigits free count ((c.advance free).extend q) := endsAt_hexDigits count _
      have hliteral := hdigits.map (S := Anything)
        (f := hexLiteral start (c.advance free).pos (letter = 'x'))
        fun digits d l d' heq => ?_
      · rw [readHex_eq_digits start letter hrest hch, hcount]
        refine hliteral.congr fun q _ => ?_
        rw [readHex_eq_digits start letter (hrest' q) hch, hadvance, hcount, pos_extend]
      · obtain ⟨ch, hcode, rfl, rfl⟩ := exists_of_hexLiteral heq
        refine ⟨rfl, fun q => hexLiteral_eq hcode _ _ _ _, fun digits' c' h => ?_⟩
        subst h
        exact ⟨_, hexLiteral_eq hcode _ _ _ _, trivial⟩

theorem endsAt_property (hne : c.rest ≠ []) (start : Nat) (negated : Bool) :
    EndsAt Anything (readProperty free start negated c) fun q =>
      readProperty free start negated (c.extend q) := by
  cases hrest : (c.advance free).rest with
  | nil =>
    simp only [readProperty, hrest]
    exact .refuse _ _
  | cons ch rest =>
    have hadvance (q : List Char) : (c.extend q).advance free = (c.advance free).extend q :=
      advance_extend hne (.inl (by simp [hrest]))
    have hne₁ : (c.advance free).rest ≠ [] := by simp [hrest]
    by_cases hbrace : ch = '\x7b'
    · subst hbrace
      simp only [readProperty, hadvance, rest_extend, hrest, List.cons_append]
      generalize c.advance free = c₁ at *
      rcases htake : (c₁.advance free).takeWhile free (· != '\x7d') with ⟨text, c₂⟩
      cases hrest₂ : c₂.rest with
      | nil =>
        simp only [List.isEmpty_nil, if_true]
        exact .refuse _ _
      | cons ch rest =>
        have hextend (q : List Char) : ((c₁.extend q).advance free).takeWhile free
            (· != '\x7d') = (text, c₂.extend q) := by
          rw [takeWhile_advance_extend hne₁ (by simp [htake, hrest₂]), htake]
        simp only [hextend, rest_extend, hrest₂, List.cons_append, List.isEmpty_cons,
          next_extend (c := c₂) (by simp [hrest₂])]
        exact .ok _ _
    by_cases hbackslash : ch = '\\'
    · subst hbackslash
      simp only [readProperty, hrest]
      exact .refuse _ _
    rw [readProperty_eq_letter hrest hbrace hbackslash]
    refine EndsAt.congr (EndsAt.advance hne₁
      (fun c => Atom.property (c.spanFrom start) (.named (String.singleton ch)) negated)
      fun _ _ => rfl) fun q _ => ?_
    have hrest' : ((c.extend q).advance free).rest = ch :: (rest ++ q) := by
      rw [hadvance, rest_extend, hrest, List.cons_append]
    rw [readProperty_eq_letter hrest' hbrace hbackslash, hadvance]

theorem endsAt_escape (hne : c.rest ≠ []) :
    EndsAt Anything (readEscape free c) fun q => readEscape free (c.extend q) := by
  unfold readEscape
  dsimp only
  conv => enter [3, q]; rw [next_extend hne]
  generalize c.next = c₁
  cases hrest : c₁.rest with
  | nil => exact .refuse _ _
  | cons ch rest =>
    have hne₁ : c₁.rest ≠ [] := by simp [hrest]
    conv => enter [3, q]; rw [rest_extend, hrest, List.cons_append, next_extend hne₁]
    dsimp only
    refine .ite (fun _ => .refuse _ _) fun _ => .ite (fun _ => ?_) fun _ =>
      .ite (fun _ => ?_) fun _ => .ite (fun _ => ?_) fun _ => ?_
    · refine (endsAt_hex hne₁ _ _).map fun l d a d' heq => ?_
      obtain ⟨rfl, rfl⟩ := Prod.mk.inj (Except.ok.inj heq)
      exact ⟨rfl, fun q => rfl, fun l' c' _ => ⟨_, rfl, trivial⟩⟩
    · exact endsAt_property hne₁ _ _
    · refine (EndsAt.of_extends (R := Anything) fun q _ => extends_boundary _ _).map
        fun kind d a d' heq => ?_
      obtain ⟨rfl, rfl⟩ := Prod.mk.inj (Except.ok.inj heq)
      exact ⟨rfl, fun q => rfl, fun kind' c' _ => ⟨_, rfl, trivial⟩⟩
    · refine .ite (fun _ => .ok _ _) fun _ => ?_
      cases controlEscape ch with
      | some control => exact .ok _ _
      | none =>
        cases shorthandEscape ch with
        | some shorthand => exact .ok _ _
        | none =>
          cases placeEscape ch with
          | some kind => exact .ok _ _
          | none => exact .refuse _ _

/-- A sign. -/
theorem endsAt_atom (hne : c.rest ≠ []) :
    EndsAt Anything (Atom.read free c) fun q => Atom.read free (c.extend q) := by
  obtain ⟨ch, rest, hrest⟩ := List.exists_cons_of_ne_nil hne
  have hrest' (q : List Char) : (c.extend q).rest = ch :: (rest ++ q) := by simp [hrest]
  by_cases hch : ch = '\\'
  · subst hch
    simp only [Atom.read, hrest, hrest']
    exact endsAt_escape hne
  · -- The other signs are one character, in any spacing.
    rw [Atom.read_eq_ofChar _ hch hrest, ← Atom.read_eq_ofChar false hch hrest]
    refine EndsAt.congr (EndsAt.of_extends fun q _ => extends_atom hne) fun q _ => ?_
    rw [Atom.read_eq_ofChar _ hch (hrest' q), Atom.read_eq_ofChar _ hch (hrest' q)]

theorem Count.endsAt_braces (hne : c.rest ≠ []) :
    EndsAt Anything (Count.readBraces free c) fun q =>
      Count.readBraces free (c.extend q) := by
  intro n stop heq hnil
  rw [readBraces] at heq
  obtain ⟨⟨⟨lo, hi⟩, c₁⟩, hbounds, heq⟩ := bind_eq_ok.1 heq
  simp only at heq
  split at heq
  · rename_i rest hrest₁
    have hne₁ : c₁.rest ≠ [] := by simp [hrest₁]
    have hadvance (q : List Char) :
        readBounds free c.pos ((c.extend q).advance free) = .ok ((lo, hi), c₁.extend q) := by
      obtain ⟨hsuffix, hextend⟩ :=
        extends_bounds (q := q) c.pos (c.advance free) _ _ hbounds (.inl hne₁)
      rw [advance_extend hne (.inl (hsuffix.ne_nil hne₁)), hextend]
    split at heq
    · cases heq
    · rename_i hbound
      obtain ⟨rfl, rfl⟩ := Prod.mk.inj (Except.ok.inj heq)
      have hread (q : List Char) : readBraces free (c.extend q) =
          .ok ({ lo, hi, greedy := (readGreed ((c₁.extend q).advance free)).1 },
            (readGreed ((c₁.extend q).advance free)).2) := by
        rw [readBraces, pos_extend, hadvance]
        simp [hrest₁, hbound, bind, Except.bind]
        rfl
      refine (advance_firm free hne₁).imp (fun hmeets q hq => ?_) fun hdrowns q hq => ?_
      · have hstops : (readGreed (c₁.advance free)).2.Stops false q := .inr ⟨rfl, hq.calm⟩
        have hgreed := readGreed_extend hstops
        exact (hread q).trans (by rw [hmeets q hq, hgreed])
      · refine ⟨_, _, hread q, ?_, trivial⟩
        have hnil := hdrowns.2 q hq
        rw [readGreed, hnil]
        exact hnil
  · cases heq

/-! ## Whole patterns -/

namespace Reader

variable {r r' : Reader}

/-- A sign that neither opens nor closes a group. -/
theorem sign_firm {α : Type} {R : α → α → Prop} {x : Except Fault (α × Cursor)}
    {y : List Char → Except Fault (α × Cursor)} {f : α × Cursor → Except Fault Reader}
    {g : List Char → α × Cursor → Except Fault Reader} (hread : EndsAt R x y)
    (h : x >>= f = .ok r') (hnil : r'.cursor.rest = [])
    (hf : ∀ a c, f (a, c) = .ok r' → r'.cursor = c ∧
      (∀ q, g q (a, c.extend q) = .ok (r'.extend q)) ∧ ∀ q b d, ∃ s, g q (b, d) = .ok s ∧
        s.cursor = d ∧ s.groups = r'.groups) :
    (∀ q, Firm q → y q >>= g q = .ok (r'.extend q)) ∨
      ∀ q, Firm q → ∃ s, y q >>= g q = .ok s ∧ s.cursor.rest = [] ∧ s.groups = r'.groups := by
  obtain ⟨⟨a, c⟩, hx, h⟩ := bind_eq_ok.1 h
  obtain ⟨hcursor, hmeets, hdrowns⟩ := hf a c h
  rw [hcursor] at hnil
  refine (hread a c hx hnil).imp (fun hy q hq => ?_) fun hy q hq => ?_
  · exact bind_eq_ok.2 ⟨_, hy q hq, hmeets q⟩
  · obtain ⟨b, d, hb, hd, -⟩ := hy q hq
    obtain ⟨s, hs, rfl, hgroups⟩ := hdrowns q b d
    exact ⟨s, bind_eq_ok.2 ⟨_, hb, hs⟩, hd, hgroups⟩

/-- The last sign is read the same with more text behind, or that text belongs to a comment
after it. -/
theorem step_firm (hne : r.cursor.rest ≠ []) (h : r.step = .ok r')
    (hnil : r'.cursor.rest = []) (hgroups : r'.groups = []) :
    (∀ q, Firm q → (r.extend q).step = .ok (r'.extend q)) ∨
      ∀ q, Firm q → ∃ s, (r.extend q).step = .ok s ∧ s.cursor.rest = [] ∧
        s.groups = r'.groups := by
  obtain ⟨ch, rest, hrest⟩ := List.exists_cons_of_ne_nil hne
  have hrest' (q : List Char) : (r.extend q).cursor.rest = ch :: (rest ++ q) := by
    simp [hrest]
  have hstep (q : List Char) : (r.extend q).step = (r.extend q).stepAt ch :=
    step_eq (hrest' q)
  rw [step_eq hrest] at h
  simp only [hstep, stepAt, takeLast_extend, cursor_extend, free_extend] at h ⊢
  -- A group opened or closed, a bar, a class, bounds, a sign of repetition, any other sign.
  split_ifs at h ⊢ with hopen hclose hbar hbracket hbrace hsign
  · exact .inl fun q hq => (openGroup_extend hq.calm hne h (.inr hgroups)).2
  · exact .inl fun q hq => (closeGroup_extend hne h).2
  · obtain rfl := Except.ok.inj h
    refine .inl fun q hq => ?_
    rw [next_extend hne]
    rfl
  · refine sign_firm (.of_extends fun q _ => extends_bracket hne) h hnil (R := Anything)
      fun t c heq => ?_
    obtain rfl := Except.ok.inj heq
    exact ⟨rfl, fun q => rfl, fun q b d => ⟨_, rfl, rfl, rfl⟩⟩
  · obtain ⟨⟨t, part⟩, htake, h⟩ := bind_eq_ok.1 h
    rw [htake]
    refine sign_firm (Count.endsAt_braces hne) h hnil fun n c heq => ?_
    obtain rfl := Except.ok.inj heq
    exact ⟨rfl, fun q => rfl, fun q b d => ⟨_, rfl, rfl, rfl⟩⟩
  · obtain ⟨⟨t, part⟩, htake, h⟩ := bind_eq_ok.1 h
    rw [htake]
    refine sign_firm (.of_extends fun q _ => Count.extends_sign hne ch) h hnil (R := Anything)
      (g := fun q n => .ok
        { r.extend q with cursor := n.2, current := part.push (repeated t n.1 n.2) })
      fun n c heq => ?_
    obtain rfl := Except.ok.inj heq
    exact ⟨rfl, fun q => rfl, fun q b d => ⟨_, rfl, rfl, rfl⟩⟩
  · refine sign_firm (endsAt_atom hne) h hnil fun a c heq => ?_
    obtain rfl := Except.ok.inj heq
    exact ⟨rfl, fun q => rfl, fun q b d => ⟨_, rfl, rfl, rfl⟩⟩

/-- With no group open, text behind a pattern is read where the pattern ends. -/
def Meets (r r' : Reader) (q : List Char) : Prop :=
  ∃ s, (r.extend q).Passes s ∧ s.skip = r'.extend q

/-- A comment at the end of a pattern goes on, so text behind the pattern belongs to it. -/
def Drowns (r : Reader) (q : List Char) : Prop :=
  ∃ s, (r.extend q).Passes s ∧ s.skip.cursor.rest = [] ∧ s.groups = []

/-- **Text behind a pattern in any spacing.** It is read where the pattern ends, or belongs to
a comment; this is the same for all texts of one line that start with a sign of their own. -/
theorem passes_firm {bound : Nat} (hbound : r.cursor.rest.length < bound)
    (h : r.run bound = .ok r') (hgroups : r'.groups = []) :
    (∀ q, Firm q → r.Meets r' q) ∨ ∀ q, Firm q → r.Drowns q := by
  induction bound generalizing r with
  | zero => omega
  | succ bound ih =>
    rcases run_succ_of_ok h with ⟨hnil, rfl⟩ | ⟨hne, r₁, hstep, hrun⟩
    · refine (skip_firm r.free r.cursor).imp (fun hmeets q hq => ?_) fun hdrowns q hq => ?_
      · exact ⟨_, .refl, congrArg (fun c => { r with cursor := c }) (hmeets q hq)⟩
      · exact ⟨_, .refl, hdrowns.2 q hq, hgroups⟩
    · have hlength := length_rest_step_lt hne hstep
      have hskip := length_rest_skip_le r
      have hhead {q : List Char} {s : Reader} (hs : (r.skip.extend q).step = .ok s) :
          (r.extend q).Next s := by
        rw [← extend_skip hne] at hs
        exact ⟨by simp [extend_skip hne, hne], hs⟩
      -- If the first sign is read the same, what follows it decides.
      have hfollow (hr₁ : ∀ q, Firm q → (r.skip.extend q).step = .ok (r₁.extend q)) :
          (∀ q, Firm q → r.Meets r' q) ∨ ∀ q, Firm q → r.Drowns q := by
        refine (ih (by omega) hrun).imp (fun hmeets q hq => ?_) fun hdrowns q hq => ?_
        · obtain ⟨s, hpasses, hs⟩ := hmeets q hq
          exact ⟨s, .head (hhead (hr₁ q hq)) hpasses, hs⟩
        · obtain ⟨s, hpasses, hs⟩ := hdrowns q hq
          exact ⟨s, .head (hhead (hr₁ q hq)) hpasses, hs⟩
      -- Only the last sign may have a comment behind it that goes on.
      by_cases hnil : r₁.cursor.rest = []
      · have hgroups₁ : r₁.groups = [] := (unchanged_of_run hnil hrun).1.trans hgroups
        rcases step_firm hne hstep hnil hgroups₁ with hmeets | hdrowns
        · exact hfollow hmeets
        · refine .inr fun q hq => ?_
          obtain ⟨s, hs, hend, hgroups'⟩ := hdrowns q hq
          refine ⟨s, .single (hhead hs), ?_, hgroups'.trans hgroups₁⟩
          rwa [skip_of_rest_eq_nil hend]
      · exact hfollow fun q hq => (step_extend hq.calm hne hstep (.inl hnil)).2

end Reader

end PatternAssembly
