import PatternAssembly.Expr.Simplified
import PatternAssembly.Proofs.Expr.Matches

/-!
# Simplifying keeps the meaning

Expressions are put together in a simplified form. Each way of putting them together matches
just what it says: a sequence what its parts match one after another, alternatives what one of
them matches, and a repetition what its part matches so many times in a row.

A set without characters is kept out, since it has no least character to be written as a text.

## Main definitions

* `Expr.MatchesAll`: expressions match one after another
* `Expr.Filled`: every set of an expression has a character

## Main statements

* `matches_ofSet`, `matches_ofSeq`, `matches_ofAlt`, `matches_repeated`
* `filled_ofSet`, `filled_ofSeq`, `filled_ofAlt`, `filled_repeated`
-/
namespace PatternAssembly.Expr

variable {text : Array Char} {i j : Nat}

/-- The expressions match one after another from the first place up to the second. -/
def MatchesAll (text : Array Char) : List Expr → Nat → Nat → Prop
  | [], i, j => i = j
  | e :: es, i, j => ∃ k, e.Matches text i k ∧ MatchesAll text es k j

/-- Every set that the expression takes a character of has one. -/
def Filled : Expr → Prop
  | empty | .text _ | look _ => True
  | take s => ∃ c, s.has c = true
  | seq a b | alt a b => a.Filled ∧ b.Filled
  | times _ _ _ e | group _ e => e.Filled

@[simp] theorem matches_empty : empty.Matches text i j ↔ i = j := Iff.rfl

@[simp] theorem matches_text {cs : List Char} :
    (Expr.text cs).Matches text i j ↔ spells text cs i j := Iff.rfl

@[simp] theorem matches_take {s : CharSet} :
    (take s).Matches text i j ↔ ∃ c, text[i]? = some c ∧ s.has c = true ∧ j = i + 1 := Iff.rfl

@[simp] theorem matches_look {l : Look} :
    (look l).Matches text i j ↔ l.holds text i = true ∧ i = j := Iff.rfl

@[simp] theorem matches_seq {a b : Expr} :
    (seq a b).Matches text i j ↔ ∃ k, a.Matches text i k ∧ b.Matches text k j := Iff.rfl

@[simp] theorem matches_alt {a b : Expr} :
    (alt a b).Matches text i j ↔ a.Matches text i j ∨ b.Matches text i j := Iff.rfl

@[simp] theorem matches_group {index : Nat} {e : Expr} :
    (group index e).Matches text i j ↔ e.Matches text i j := Iff.rfl

@[simp] theorem matchesAll_nil : MatchesAll text [] i j ↔ i = j := Iff.rfl

@[simp] theorem matchesAll_cons {e : Expr} {es : List Expr} :
    MatchesAll text (e :: es) i j ↔ ∃ k, e.Matches text i k ∧ MatchesAll text es k j :=
  Iff.rfl

theorem matchesAll_append {es fs : List Expr} :
    MatchesAll text (es ++ fs) i j ↔
      ∃ k, MatchesAll text es i k ∧ MatchesAll text fs k j := by
  induction es generalizing i with
  | nil => simp
  | cons e es ih =>
    simp only [List.cons_append, matchesAll_cons, ih]
    constructor
    · rintro ⟨k, he, l, hes, hfs⟩
      exact ⟨l, ⟨k, he, hes⟩, hfs⟩
    · rintro ⟨l, ⟨k, he, hes⟩, hfs⟩
      exact ⟨k, he, l, hes, hfs⟩

/-! ## Sets -/

/-- A set that consists of one code point holds the character of that code point only. -/
theorem has_iff_of_pieces {s : CharSet} {n : Nat} (h : s.pieces = [(n, n)])
    (hfilled : ∃ c, s.has c = true) (c : Char) : s.has c = true ↔ c = Char.ofNat n := by
  have hhas (c : Char) : s.has c = true ↔ c.toNat = n := by
    rw [← CharSet.any_pieces, h]
    simp
    omega
  obtain ⟨d, hd⟩ := hfilled
  obtain rfl := (hhas d).1 hd
  rw [hhas, Char.ofNat_toNat]
  exact ⟨fun h => Char.ext (UInt32.toNat_inj.1 h), fun h => h ▸ rfl⟩

theorem matches_ofSet {s : CharSet} (h : ∃ c, s.has c = true) :
    (ofSet s).Matches text i j ↔ (take s).Matches text i j := by
  rw [ofSet]
  split
  · rename_i lo hi hpieces
    split
    · rename_i hlo
      subst hlo
      simp only [matches_text, spells_cons, spells_nil, matches_take,
        has_iff_of_pieces hpieces h]
      constructor
      · rintro ⟨hc, rfl⟩
        exact ⟨_, hc, rfl, rfl⟩
      · rintro ⟨c, hc, rfl, rfl⟩
        exact ⟨hc, rfl⟩
    · rfl
  · rfl

theorem filled_ofSet {s : CharSet} (h : ∃ c, s.has c = true) : (ofSet s).Filled := by
  rw [ofSet]
  split
  · split
    · trivial
    · exact h
  · exact h

/-! ## Sequences -/

theorem matchesAll_parts (e : Expr) : MatchesAll text e.parts i j ↔ e.Matches text i j := by
  induction e generalizing i j with
  | seq a b iha ihb => simp [parts, matchesAll_append, iha, ihb]
  | empty => rfl
  | _ => simp [parts]

theorem matchesAll_flatMap_parts (es : List Expr) :
    MatchesAll text (es.flatMap parts) i j ↔ MatchesAll text es i j := by
  induction es generalizing i with
  | nil => rfl
  | cons e es ih => simp [matchesAll_append, matchesAll_parts, ih]

theorem matchesAll_joinTexts (es : List Expr) :
    MatchesAll text (joinTexts es) i j ↔ MatchesAll text es i j := by
  fun_induction joinTexts es generalizing i with
  | case1 => rfl
  | case2 cs es ds rest heq ih =>
    simp only [matchesAll_cons, matches_text, spells_append, ← ih, heq]
    constructor
    · rintro ⟨k, ⟨l, hcs, hds⟩, hrest⟩
      exact ⟨l, hcs, k, hds, hrest⟩
    · rintro ⟨l, hcs, k, hds, hrest⟩
      exact ⟨k, ⟨l, hcs, hds⟩, hrest⟩
  | case3 cs es hne ih => simp only [matchesAll_cons, ih]
  | case4 e es hne ih => simp only [matchesAll_cons, ih]

theorem matches_ofParts (es : List Expr) :
    (ofParts es).Matches text i j ↔ MatchesAll text es i j := by
  fun_induction ofParts es generalizing i with
  | case1 => rfl
  | case2 e => simp
  | case3 e es hne ih => simp [ih]

/-- A sequence matches what its parts match one after another. -/
theorem matches_ofSeq (es : List Expr) :
    (ofSeq es).Matches text i j ↔ MatchesAll text es i j := by
  rw [ofSeq, matches_ofParts, matchesAll_joinTexts, matchesAll_flatMap_parts]

theorem filled_parts {e : Expr} (h : e.Filled) : ∀ f ∈ e.parts, f.Filled := by
  induction e with
  | seq a b iha ihb =>
    intro f hf
    rcases List.mem_append.1 hf with hf | hf
    · exact iha h.1 f hf
    · exact ihb h.2 f hf
  | empty => simp [parts]
  | _ =>
    intro f hf
    obtain rfl := List.mem_singleton.1 hf
    exact h

theorem filled_joinTexts {es : List Expr} (h : ∀ e ∈ es, e.Filled) :
    ∀ e ∈ joinTexts es, e.Filled := by
  fun_induction joinTexts es with
  | case1 => simp
  | case2 cs es ds rest heq ih =>
    have hrest := ih fun e he => h e (List.mem_cons_of_mem _ he)
    rw [heq] at hrest
    intro e he
    rcases List.mem_cons.1 he with rfl | he
    · trivial
    · exact hrest e (List.mem_cons_of_mem _ he)
  | case3 cs es hne ih =>
    intro e he
    rcases List.mem_cons.1 he with rfl | he
    · trivial
    · exact ih (fun e he => h e (List.mem_cons_of_mem _ he)) e he
  | case4 e es hne ih =>
    intro f hf
    rcases List.mem_cons.1 hf with rfl | hf
    · exact h f List.mem_cons_self
    · exact ih (fun e he => h e (List.mem_cons_of_mem _ he)) f hf

theorem filled_ofParts {es : List Expr} (h : ∀ e ∈ es, e.Filled) : (ofParts es).Filled := by
  fun_induction ofParts es with
  | case1 => trivial
  | case2 e => exact h e (by simp)
  | case3 e es hne ih =>
    exact ⟨h e (by simp), ih fun e he => h e (List.mem_cons_of_mem _ he)⟩

theorem filled_ofSeq {es : List Expr} (h : ∀ e ∈ es, e.Filled) : (ofSeq es).Filled := by
  refine filled_ofParts (filled_joinTexts fun e he => ?_)
  obtain ⟨f, hf, he⟩ := List.mem_flatMap.1 he
  exact filled_parts (h f hf) e he

/-! ## Alternatives -/

theorem matches_choices (e : Expr) :
    (∃ f ∈ e.choices, f.Matches text i j) ↔ e.Matches text i j := by
  induction e with
  | alt a b iha ihb => simp [choices, or_and_right, exists_or, iha, ihb]
  | _ => simp [choices]

theorem filled_choices {e : Expr} (h : e.Filled) : ∀ f ∈ e.choices, f.Filled := by
  induction e with
  | alt a b iha ihb =>
    intro f hf
    rcases List.mem_append.1 hf with hf | hf
    · exact iha h.1 f hf
    · exact ihb h.2 f hf
  | _ =>
    intro f hf
    obtain rfl := List.mem_singleton.1 hf
    exact h

theorem choices_ne_nil (e : Expr) : e.choices ≠ [] := by
  induction e with
  | alt a b iha ihb => simp [choices, iha]
  | _ => simp [choices]

theorem matches_nest (es : List Expr) :
    (nest es).Matches text i j ↔ ∃ e ∈ es, e.Matches text i j := by
  fun_induction nest es with
  | case1 => simp [CharSet.has]
  | case2 e => simp
  | case3 e es hne ih => simp [ih]

theorem filled_nest {es : List Expr} (hne : es ≠ []) (h : ∀ e ∈ es, e.Filled) :
    (nest es).Filled := by
  fun_induction nest es with
  | case1 => exact absurd rfl hne
  | case2 e => exact h e (by simp)
  | case3 e es hes ih =>
    exact ⟨h e (by simp), ih hes fun e he => h e (List.mem_cons_of_mem _ he)⟩

/-- Where each element is made from what is read of it, the list is made from what is read of
the list. -/
theorem eq_map_of_mapM {α β : Type} {f : α → Option β} {g : β → α}
    (hread : ∀ a b, f a = some b → a = g b) {as : List α} {bs : List β}
    (h : as.mapM f = some bs) :
    as = bs.map g := by
  induction as generalizing bs with
  | nil =>
    obtain rfl : [] = bs := by simpa using h
    rfl
  | cons a as ih =>
    simp only [List.mapM_cons, Option.bind_eq_bind, Option.bind_eq_some_iff, Option.pure_def,
      Option.some.injEq] at h
    obtain ⟨b, hb, bs, hbs, rfl⟩ := h
    rw [List.map_cons, ← hread a b hb, ← ih hbs]

theorem eq_map_of_asChars? {es : List Expr} {cs : List Char} (h : asChars? es = some cs) :
    es = cs.map fun c => Expr.text [c] := by
  refine eq_map_of_mapM (fun e c he => ?_) h
  split at he <;> simp_all

theorem eq_map_of_asSets? {es : List Expr} {sets : List CharSet}
    (h : asSets? es = some sets) :
    es = sets.map take := by
  refine eq_map_of_mapM (fun e s he => ?_) h
  split at he <;> simp_all

/-- The set that alternatives stand for has the characters that they take. -/
theorem asSet?_spec {es : List Expr} {s : CharSet} (h : asSet? es = some s) :
    (take s).Matches text i j ↔ ∃ e ∈ es, e.Matches text i j := by
  rw [asSet?] at h
  split at h
  · rename_i cs hcs
    obtain rfl := Option.some.inj h
    rw [eq_map_of_asChars? hcs]
    simp only [matches_take, List.mem_map, exists_exists_and_eq_and, matches_text,
      spells_cons, spells_nil]
    constructor
    · rintro ⟨c, hc, hmem, rfl⟩
      have hmem : c.toNat ∈ cs.map Char.toNat := by simpa [CharSet.has] using hmem
      obtain ⟨d, hd, heq⟩ := List.mem_map.1 hmem
      obtain rfl : d = c := Char.ext (UInt32.toNat_inj.1 heq)
      exact ⟨d, hd, hc, rfl⟩
    · rintro ⟨c, hmem, hc, rfl⟩
      exact ⟨c, hc, by simpa [CharSet.has] using ⟨c, hmem, rfl⟩, rfl⟩
  · obtain ⟨sets, hsets, rfl⟩ := Option.map_eq_some_iff.1 h
    rw [eq_map_of_asSets? hsets]
    simp only [matches_take, List.mem_map, exists_exists_and_eq_and, CharSet.has,
      CharSet.hasCode_unions, List.any_eq_true]
    constructor
    · rintro ⟨c, hc, ⟨t, ht, htc⟩, rfl⟩
      exact ⟨t, ht, c, hc, htc, rfl⟩
    · rintro ⟨t, ht, c, hc, htc, rfl⟩
      exact ⟨c, hc, ⟨t, ht, htc⟩, rfl⟩

/-- An expression that takes one character matches a text of one character. -/
theorem filled_asSet? {es : List Expr} {s : CharSet} (h : asSet? es = some s) (hne : es ≠ [])
    (hfilled : ∀ e ∈ es, e.Filled) : ∃ c, s.has c = true := by
  rw [asSet?] at h
  split at h
  · rename_i cs hcs
    obtain rfl := Option.some.inj h
    rw [eq_map_of_asChars? hcs] at hne
    cases cs with
    | nil => simp at hne
    | cons c cs => exact ⟨c, by simp [CharSet.has]⟩
  · obtain ⟨sets, hsets, rfl⟩ := Option.map_eq_some_iff.1 h
    rw [eq_map_of_asSets? hsets] at hne hfilled
    cases sets with
    | nil => simp at hne
    | cons t ts =>
      obtain ⟨c, hc⟩ := hfilled (take t) (by simp)
      exact ⟨c, by simpa [CharSet.has] using .inl hc⟩

theorem matches_ofChoices {es : List Expr} (h : ∀ e ∈ es, e.Filled) :
    (ofChoices es).Matches text i j ↔ ∃ e ∈ es, e.Matches text i j := by
  rw [ofChoices]
  split
  · exact matches_nest es
  · rename_i hlength
    split
    · rename_i s hs
      have hne : es ≠ [] := by rintro rfl; simp at hlength
      rw [matches_ofSet (filled_asSet? hs hne h), asSet?_spec hs]
    · exact matches_nest es

theorem filled_ofChoices {es : List Expr} (hne : es ≠ []) (h : ∀ e ∈ es, e.Filled) :
    (ofChoices es).Filled := by
  rw [ofChoices]
  split
  · exact filled_nest hne h
  · split
    · rename_i s hs
      exact filled_ofSet (filled_asSet? hs hne h)
    · exact filled_nest hne h

theorem commonStart_isPrefix (as bs : List Expr) :
    commonStart as bs <+: as ∧ commonStart as bs <+: bs := by
  fun_induction commonStart as bs with
  | case1 as b bs ih =>
    exact ⟨(List.prefix_cons_inj b).2 ih.1, (List.prefix_cons_inj b).2 ih.2⟩
  | case2 | case3 => exact ⟨List.nil_prefix, List.nil_prefix⟩

theorem foldl_commonStart_isPrefix (start : List Expr) (es : List Expr) :
    (es.foldl (fun start e => commonStart start e.parts) start) <+: start ∧
      ∀ e ∈ es, (es.foldl (fun start e => commonStart start e.parts) start) <+: e.parts := by
  induction es generalizing start with
  | nil => simp
  | cons e es ih =>
    obtain ⟨h1, h2⟩ := ih (commonStart start e.parts)
    obtain ⟨hstart, hparts⟩ := commonStart_isPrefix start e.parts
    refine ⟨h1.trans hstart, ?_⟩
    intro f hf
    rcases List.mem_cons.1 hf with rfl | hf
    · exact h1.trans hparts
    · exact h2 f hf

/-- What alternatives share is what each of them starts with. -/
theorem sharedStart_isPrefix {es : List Expr} {e : Expr} (he : e ∈ es) :
    sharedStart es <+: e.parts := by
  cases es with
  | nil => simp at he
  | cons f es =>
    rw [sharedStart]
    split
    · obtain ⟨h1, h2⟩ := foldl_commonStart_isPrefix f.parts es
      rcases List.mem_cons.1 he with rfl | he
      · exact h1
      · exact h2 e he
    · exact List.nil_prefix

/-- What all alternatives start with may stand in front of them. -/
theorem matches_shared {shared : List Expr} {e : Expr} (h : shared <+: e.parts) :
    e.Matches text i j ↔ ∃ k, MatchesAll text shared i k ∧
      (ofSeq (e.parts.drop shared.length)).Matches text k j := by
  obtain ⟨rest, hrest⟩ := h
  rw [← matchesAll_parts, ← hrest, matchesAll_append, List.drop_left]
  simp only [matches_ofSeq]

theorem matches_flatMap_choices (es : List Expr) :
    (∃ f ∈ es.flatMap choices, f.Matches text i j) ↔ ∃ e ∈ es, e.Matches text i j := by
  simp only [List.mem_flatMap]
  constructor
  · rintro ⟨f, ⟨e, he, hf⟩, hmatches⟩
    exact ⟨e, he, (matches_choices e).1 ⟨f, hf, hmatches⟩⟩
  · rintro ⟨e, he, hmatches⟩
    obtain ⟨f, hf, hmatches⟩ := (matches_choices e).2 hmatches
    exact ⟨f, ⟨e, he, hf⟩, hmatches⟩

theorem filled_flatMap_choices {es : List Expr} (h : ∀ e ∈ es, e.Filled) :
    ∀ f ∈ es.flatMap choices, f.Filled := by
  intro f hf
  obtain ⟨e, he, hf⟩ := List.mem_flatMap.1 hf
  exact filled_choices (h e he) f hf

theorem flatMap_choices_ne_nil {es : List Expr} (h : es ≠ []) : es.flatMap choices ≠ [] := by
  cases es with
  | nil => exact absurd rfl h
  | cons e es => simp [choices_ne_nil e]

/-- What is left of an alternative after its first parts. -/
theorem filled_rest {e : Expr} (h : e.Filled) (n : Nat) : (ofSeq (e.parts.drop n)).Filled :=
  filled_ofSeq fun f hf => filled_parts h f (List.mem_of_mem_drop hf)

/-- Alternatives match what one of them matches. -/
theorem matches_ofAlt {es : List Expr} (h : ∀ e ∈ es, e.Filled) :
    (ofAlt es).Matches text i j ↔ ∃ e ∈ es, e.Matches text i j := by
  have hfilled := filled_flatMap_choices h
  rw [ofAlt, ← matches_flatMap_choices]
  generalize es.flatMap choices = all at hfilled ⊢
  split
  · exact matches_ofChoices hfilled
  · have hrests : ∀ f ∈ (all.map fun e =>
        ofSeq (e.parts.drop (sharedStart all).length)).flatMap choices, f.Filled :=
      filled_flatMap_choices fun f hf => by
        obtain ⟨e, he, rfl⟩ := List.mem_map.1 hf
        exact filled_rest (hfilled e he) _
    rw [matches_ofSeq, matchesAll_append]
    simp only [matchesAll_cons, matchesAll_nil, exists_eq_right, matches_ofChoices hrests,
      matches_flatMap_choices, List.mem_map, exists_exists_and_eq_and]
    constructor
    · rintro ⟨k, hshared, e, he, hrest⟩
      exact ⟨e, he, (matches_shared (sharedStart_isPrefix he)).2 ⟨k, hshared, hrest⟩⟩
    · rintro ⟨e, he, hmatches⟩
      obtain ⟨k, hshared, hrest⟩ := (matches_shared (sharedStart_isPrefix he)).1 hmatches
      exact ⟨k, hshared, e, he, hrest⟩

theorem filled_ofAlt {es : List Expr} (hne : es ≠ []) (h : ∀ e ∈ es, e.Filled) :
    (ofAlt es).Filled := by
  have hall := flatMap_choices_ne_nil hne
  have hfilled := filled_flatMap_choices h
  rw [ofAlt]
  split
  · exact filled_ofChoices hall hfilled
  · apply filled_ofSeq
    intro f hf
    rcases List.mem_append.1 hf with hf | hf
    · obtain ⟨e, he⟩ := List.exists_mem_of_ne_nil _ hall
      exact filled_parts (hfilled e he) f ((sharedStart_isPrefix he).subset hf)
    · obtain rfl := List.mem_singleton.1 hf
      refine filled_ofChoices (flatMap_choices_ne_nil (by simpa using hall)) ?_
      apply filled_flatMap_choices
      intro r hr
      obtain ⟨e, he, rfl⟩ := List.mem_map.1 hr
      exact filled_rest (hfilled e he) _

/-! ## Repetitions -/

theorem eq_of_takesNothing {e : Expr} (h : e.takesNothing = true)
    (hmatches : e.Matches text i j) : i = j := by
  induction e generalizing i j with
  | empty => exact hmatches
  | look l => exact hmatches.2
  | text cs | take s => simp [takesNothing] at h
  | seq a b iha ihb =>
    rw [takesNothing, Bool.and_eq_true] at h
    obtain ⟨k, ha, hb⟩ := hmatches
    exact (iha h.1 ha).trans (ihb h.2 hb)
  | alt a b iha ihb =>
    rw [takesNothing, Bool.and_eq_true] at h
    exact hmatches.elim (iha h.1) (ihb h.2)
  | times lo hi greedy e ih =>
    obtain ⟨n, -, -, hn⟩ := hmatches
    induction n generalizing i with
    | zero => exact hn
    | succ n ihn =>
      obtain ⟨k, hk, hn⟩ := hn
      exact (ih h hk).trans (ihn hn)
  | group index e ih => exact ih h hmatches

/-- What takes no character matches several times in a row what it matches once. -/
theorem rounds_of_takesNothing {e : Expr} (h : e.takesNothing = true) {n : Nat} (hn : n ≠ 0) :
    rounds (e.Matches text) n i j ↔ e.Matches text i j := by
  induction n generalizing i with
  | zero => exact absurd rfl hn
  | succ n ih =>
    constructor
    · rintro ⟨k, hk, hrest⟩
      obtain rfl := eq_of_takesNothing h hk
      rcases Nat.eq_zero_or_pos n with rfl | hn
      · obtain rfl : i = j := hrest
        exact hk
      · exact (ih hn.ne').1 hrest
    · intro hmatches
      obtain rfl := eq_of_takesNothing h hmatches
      rcases Nat.eq_zero_or_pos n with rfl | hn
      · exact ⟨i, hmatches, rfl⟩
      · exact ⟨i, hmatches, (ih hn.ne').2 hmatches⟩

/-- What takes no character need not be tried a second time. -/
theorem exists_rounds_of_takesNothing {e : Expr} (h : e.takesNothing = true) {lo : Nat}
    {hi : Option Nat} (hbounds : ∀ n ∈ hi, lo ≤ n) :
    (∃ n, lo ≤ n ∧ (∀ h ∈ hi, n ≤ h) ∧ rounds (e.Matches text) n i j) ↔
      ∃ n, min lo 1 ≤ n ∧ n ≤ min (hi.getD 1) 1 ∧ rounds (e.Matches text) n i j := by
  constructor
  · rintro ⟨n, hlo, hhi, hn⟩
    rcases Nat.eq_zero_or_pos n with rfl | hpos
    · exact ⟨0, by omega, by omega, hn⟩
    · refine ⟨1, by omega, ?_, rounds_one.2 ((rounds_of_takesNothing h hpos.ne').1 hn)⟩
      cases hi with
      | none => simp
      | some m =>
        have hm : n ≤ m := hhi m rfl
        simp
        omega
  · rintro ⟨n, hlo, hhi, hn⟩
    obtain rfl | rfl : n = 0 ∨ n = 1 := by omega
    · exact ⟨0, by omega, by simp, hn⟩
    · have hone := rounds_one.1 hn
      rcases Nat.eq_zero_or_pos lo with rfl | hpos
      · refine ⟨1, Nat.zero_le _, ?_, hn⟩
        cases hi with
        | none => simp
        | some m => simpa using hhi
      · exact ⟨lo, le_rfl, hbounds, (rounds_of_takesNothing h hpos.ne').2 hone⟩

/-- A repetition within its bounds matches so many times in a row what its part matches. -/
theorem matches_times {e : Expr} {lo : Nat} {hi : Option Nat} {greedy : Bool}
    (hbounds : ∀ n ∈ hi, lo ≤ n) :
    (times lo hi greedy e).Matches text i j ↔
      ∃ n, lo ≤ n ∧ (∀ h ∈ hi, n ≤ h) ∧ rounds (e.Matches text) n i j := by
  cases hi with
  | none => simp [Matches]
  | some m =>
    have hm : max lo m = m := max_eq_right (hbounds m rfl)
    simp only [Matches, Option.mem_some_iff, forall_eq', hm]

/-- What is repeated in the simplified form. -/
theorem matches_timesOf {e : Expr} {lo : Nat} {hi : Option Nat} {greedy : Bool}
    (hbounds : ∀ n ∈ hi, lo ≤ n) :
    (if lo = 0 ∧ hi = some 0 then empty else if lo = 1 ∧ hi = some 1 then e
      else times lo hi greedy e).Matches text i j ↔
      ∃ n, lo ≤ n ∧ (∀ h ∈ hi, n ≤ h) ∧ rounds (e.Matches text) n i j := by
  split
  · rename_i h
    obtain ⟨rfl, rfl⟩ := h
    constructor
    · intro he
      exact ⟨0, le_rfl, by simp, he⟩
    · rintro ⟨n, -, hhi, hn⟩
      obtain rfl : n = 0 := Nat.le_zero.1 (hhi 0 rfl)
      exact hn
  · split
    · rename_i h
      obtain ⟨rfl, rfl⟩ := h
      constructor
      · intro he
        exact ⟨1, le_rfl, by simp, rounds_one.2 he⟩
      · rintro ⟨n, hlo, hhi, hn⟩
        obtain rfl : n = 1 := Nat.le_antisymm (hhi 1 rfl) hlo
        exact rounds_one.1 hn
    · exact matches_times hbounds

/-- A repetition matches so many times in a row what its part matches. -/
theorem matches_repeated {e : Expr} {lo : Nat} {hi : Option Nat} {greedy : Bool}
    (hbounds : ∀ n ∈ hi, lo ≤ n) :
    (repeated lo hi greedy e).Matches text i j ↔
      ∃ n, lo ≤ n ∧ (∀ h ∈ hi, n ≤ h) ∧ rounds (e.Matches text) n i j := by
  by_cases h : e.takesNothing = true
  · rw [exists_rounds_of_takesNothing h hbounds]
    simp only [repeated, h, if_true]
    rw [matches_timesOf]
    · simp
    · cases hi with
      | none => simp
      | some m =>
        have hm : lo ≤ m := hbounds m rfl
        simp
        omega
  · simp only [repeated, h, if_false, Bool.false_eq_true]
    exact matches_timesOf hbounds

theorem filled_repeated {e : Expr} {lo : Nat} {hi : Option Nat} {greedy : Bool}
    (h : e.Filled) :
    (repeated lo hi greedy e).Filled := by
  rw [repeated]
  generalize (if e.takesNothing then min lo 1 else lo) = lo'
  generalize (if e.takesNothing then some (min (hi.getD 1) 1) else hi) = hi'
  split
  · trivial
  · split <;> exact h

end PatternAssembly.Expr
