import Mathlib.Computability.Language
import PatternAssembly.Proofs.Expr.Matches
import PatternAssembly.Proofs.Pattern.Fragments

/-!
# Meanings that are languages

Most fragments say nothing about the characters around what they take. What they mean is then
a language: whether a stretch of a text is meant depends on its characters only.

## Main definitions

* `Meaning.Spells`: the meaning is a language

## Main statements

* `spells_andThen`, `spells_inARow`: languages one after another
* `spells_oneOf`: the union of languages
* `spells_char`: a set of characters as a language
* `spells_times`: so many texts of a language in a row
-/
namespace PatternAssembly.Meaning

open Language

variable {S T : Meaning} {L K : Language Char}

/-- A stretch of a text is meant just if its characters are in the language. -/
def Spells (S : Meaning) (L : Language Char) : Prop :=
  ∀ (text : Array Char) (i j : Nat), i ≤ text.size →
    (S text i j ↔ i ≤ j ∧ j ≤ text.size ∧ slice text i j ∈ L)

theorem spells_nothing : nothing.Spells 1 := by
  intro text i j hi
  rw [Language.mem_one]
  constructor
  · rintro rfl
    exact ⟨le_rfl, hi, slice_self text i⟩
  · rintro ⟨hij, hj, hslice⟩
    exact (spells_iff_slice hi).2 ⟨hij, hj, hslice⟩

/-- The characters of a set, each as a text of its own. -/
def ofChars (p : Char → Prop) : Language Char := {cs | ∃ c, cs = [c] ∧ p c}

theorem spells_char {s : CharSet} {p : Char → Prop} (h : ∀ c, s.has c = true ↔ p c) :
    (char s).Spells (ofChars p) := by
  intro text i j hi
  constructor
  · rintro ⟨c, hc, hs, rfl⟩
    have hspells : spells text [c] i (i + 1) := ⟨hc, rfl⟩
    obtain ⟨hij, hj, hslice⟩ := (spells_iff_slice hi).1 hspells
    exact ⟨hij, hj, c, hslice, (h c).1 hs⟩
  · rintro ⟨hij, hj, c, hslice, hp⟩
    obtain ⟨hc, rfl⟩ : spells text [c] i j := (spells_iff_slice hi).2 ⟨hij, hj, hslice⟩
    exact ⟨c, hc, (h c).2 hp, rfl⟩

theorem spells_andThen (hS : S.Spells L) (hT : T.Spells K) :
    (S.andThen T).Spells (L * K) := by
  intro text i j hi
  rw [Language.mem_mul]
  constructor
  · rintro ⟨k, hk, hj⟩
    obtain ⟨hik, hksize, hleft⟩ := (hS text i k hi).1 hk
    obtain ⟨hkj, hjsize, hright⟩ := (hT text k j hksize).1 hj
    exact ⟨hik.trans hkj, hjsize, _, hleft, _, hright, slice_append hik hkj⟩
  · rintro ⟨hij, hj, a, ha, b, hb, hslice⟩
    obtain ⟨k, hleft, hright⟩ :=
      spells_append.1 ((spells_iff_slice hi).2 ⟨hij, hj, hslice.symm⟩)
    obtain ⟨hik, hksize, rfl⟩ := (spells_iff_slice hi).1 hleft
    obtain ⟨hkj, hjsize, rfl⟩ := (spells_iff_slice hksize).1 hright
    exact ⟨k, (hS text i k hi).2 ⟨hik, hksize, ha⟩, (hT text k j hksize).2 ⟨hkj, hjsize, hb⟩⟩

/-- Languages in a row are their product. -/
theorem spells_inARow {Ss : List Meaning} {Ls : List (Language Char)}
    (h : List.Forall₂ Spells Ss Ls) : (inARow Ss).Spells Ls.prod := by
  induction h with
  | nil => exact spells_nothing
  | cons hS _ ih =>
    rw [List.prod_cons]
    exact spells_andThen hS ih

theorem oneOf_cons {Ss : List Meaning} {text : Array Char} {i j : Nat} :
    oneOf (S :: Ss) text i j ↔ S text i j ∨ oneOf Ss text i j := by simp [oneOf]

theorem spells_oneOf {Ss : List Meaning} {Ls : List (Language Char)}
    (h : List.Forall₂ Spells Ss Ls) : (oneOf Ss).Spells Ls.sum := by
  intro text i j hi
  induction h with
  | nil => simp [oneOf, Language.notMem_zero]
  | cons hS _ ih =>
    rw [oneOf_cons, ih, hS text i j hi, List.sum_cons, Language.mem_add]
    constructor
    · rintro (⟨hij, hj, h⟩ | ⟨hij, hj, h⟩)
      · exact ⟨hij, hj, .inl h⟩
      · exact ⟨hij, hj, .inr h⟩
    · rintro ⟨hij, hj, h | h⟩
      · exact .inl ⟨hij, hj, h⟩
      · exact .inr ⟨hij, hj, h⟩

theorem spells_rounds (h : S.Spells L) (n : Nat) :
    Spells (fun text => rounds (S text) n) (L ^ n) := by
  induction n with
  | zero => exact pow_zero L ▸ spells_nothing
  | succ n ih => exact pow_succ' L n ▸ spells_andThen h ih

/-- Repeated between two bounds, a language is the union of its powers between them. -/
theorem spells_times (h : S.Spells L) (lo : Nat) (hi : Option Nat) :
    (S.times lo hi).Spells {cs | ∃ n, lo ≤ n ∧ (∀ h ∈ hi, n ≤ h) ∧ cs ∈ L ^ n} := by
  intro text i j hi
  constructor
  · rintro ⟨n, hlo, hhi, hrounds⟩
    obtain ⟨hij, hj, hmem⟩ := (spells_rounds h n text i j hi).1 hrounds
    exact ⟨hij, hj, n, hlo, hhi, hmem⟩
  · rintro ⟨hij, hj, n, hlo, hhi, hmem⟩
    exact ⟨n, hlo, hhi, (spells_rounds h n text i j hi).2 ⟨hij, hj, hmem⟩⟩

/-- The powers of a set of characters. -/
theorem mem_ofChars_pow {p : Char → Prop} {n : Nat} {cs : List Char} :
    cs ∈ ofChars p ^ n ↔ cs.length = n ∧ ∀ c ∈ cs, p c := by
  induction n generalizing cs with
  | zero =>
    rw [pow_zero, Language.mem_one, List.length_eq_zero_iff]
    exact ⟨fun h => ⟨h, by simp [h]⟩, And.left⟩
  | succ n ih =>
    rw [pow_succ', Language.mem_mul]
    constructor
    · rintro ⟨_, ⟨c, rfl, hc⟩, cs, hcs, rfl⟩
      obtain ⟨rfl, hall⟩ := ih.1 hcs
      exact ⟨by simp, by simpa using ⟨hc, hall⟩⟩
    · rintro ⟨hlength, hall⟩
      obtain ⟨c, cs, rfl⟩ := List.exists_cons_of_length_eq_add_one hlength
      rw [List.forall_mem_cons] at hall
      exact ⟨[c], ⟨c, rfl, hall.1⟩, cs, ih.2 ⟨by simpa using hlength, hall.2⟩, rfl⟩

/-- Repeated between two bounds, a set of characters takes the texts of such lengths. -/
theorem spells_times_char {s : CharSet} {p : Char → Prop} (h : ∀ c, s.has c = true ↔ p c)
    (lo : Nat) (hi : Option Nat) : ((char s).times lo hi).Spells
      {cs | lo ≤ cs.length ∧ (∀ h ∈ hi, cs.length ≤ h) ∧ ∀ c ∈ cs, p c} := by
  have hL : {cs | ∃ n, lo ≤ n ∧ (∀ h ∈ hi, n ≤ h) ∧ cs ∈ ofChars p ^ n} =
      {cs : List Char | lo ≤ cs.length ∧ (∀ h ∈ hi, cs.length ≤ h) ∧ ∀ c ∈ cs, p c} := by
    ext cs
    constructor
    · rintro ⟨n, hlo, hhi, hcs⟩
      obtain ⟨rfl, hall⟩ := mem_ofChars_pow.1 hcs
      exact ⟨hlo, hhi, hall⟩
    · rintro ⟨hlo, hhi, hall⟩
      exact ⟨cs.length, hlo, hhi, mem_ofChars_pow.2 ⟨rfl, hall⟩⟩
  exact hL ▸ spells_times (spells_char h) lo hi

/-- The powers of one text. -/
theorem mem_singleton_pow {v cs : List Char} {n : Nat} :
    cs ∈ ({v} : Language Char) ^ n ↔ cs = (List.replicate n v).flatten := by
  induction n generalizing cs with
  | zero => rw [pow_zero, Language.mem_one, List.replicate_zero, List.flatten_nil]
  | succ n ih =>
    rw [pow_succ', Language.mem_mul, List.replicate_succ, List.flatten_cons]
    constructor
    · rintro ⟨_, rfl, ds, hds, rfl⟩
      rw [ih.1 hds]
    · rintro rfl
      exact ⟨v, rfl, _, ih.2 rfl, rfl⟩

theorem spelled_iff_spells {m : Modes} (hm : m.ignoreCase = false) {cs : List Char}
    {text : Array Char} {i j : Nat} : spelled m cs text i j ↔ spells text cs i j := by
  induction cs generalizing i with
  | nil => rfl
  | cons c cs ih =>
    have hset : m.charSet c = .single c := by simp [Modes.charSet, hm]
    show (char (m.charSet c)).andThen (spelled m cs) text i j ↔ _
    rw [hset, spells_cons, ← ih]
    constructor
    · rintro ⟨k, ⟨d, hd, hdc, rfl⟩, hrest⟩
      obtain rfl : d = c := by simpa using hdc
      exact ⟨hd, hrest⟩
    · rintro ⟨hc, hrest⟩
      exact ⟨i + 1, ⟨c, hc, by simp, rfl⟩, hrest⟩

/-- A text as a language, where case counts. -/
theorem spells_spelled {m : Modes} (hm : m.ignoreCase = false) (cs : List Char) :
    (spelled m cs).Spells {cs} := fun text i j hi => by
  rw [spelled_iff_spells hm, spells_iff_slice hi]
  rfl

end PatternAssembly.Meaning
