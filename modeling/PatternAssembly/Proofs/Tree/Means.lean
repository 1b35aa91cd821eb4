import PatternAssembly.Expr.OfTree
import PatternAssembly.Proofs.Expr.Simplified

/-!
# What the parts of a pattern stand for

A part of a pattern stands for the stretches of a text that it matches. What a compound part
stands for is put together from what its parts stand for, so that neither the tree nor the
expression made of it has to be known.

Only parts that leave the modes as they are stand for something here. Groups of flags do not.

## Main definitions

* `Meaning`: the stretches of a text that something stands for
* `Tree.Means`: what a part stands for under given modes
* `Tree.InARow`: what parts one after another stand for

## Main statements

* `means_ofParts`, `means_ofBranches`: sequences and alternatives
* `means_repetition`, `means_group`: repetitions and groups
-/
namespace PatternAssembly

/-- The stretches of a text that are meant, each from a first place up to a second. -/
abbrev Meaning := Array Char → Nat → Nat → Prop

namespace Meaning

/-- No character at all. -/
def nothing : Meaning := fun _ i j => i = j

/-- One character of a set. -/
def char (s : CharSet) : Meaning :=
  fun text i j => ∃ c, text[i]? = some c ∧ s.has c = true ∧ j = i + 1

/-- No character, but at such a place. -/
def place (l : Look) : Meaning := fun text i j => l.holds text i = true ∧ i = j

/-- The one and then the other. -/
def andThen (S T : Meaning) : Meaning := fun text i j => ∃ k, S text i k ∧ T text k j

/-- One after another. -/
def inARow (Ss : List Meaning) : Meaning := Ss.foldr andThen nothing

/-- One of several. -/
def oneOf (Ss : List Meaning) : Meaning := fun text i j => ∃ S ∈ Ss, S text i j

/-- So many times in a row. -/
def times (lo : Nat) (hi : Option Nat) (S : Meaning) : Meaning := fun text i j =>
  ∃ n, lo ≤ n ∧ (∀ h ∈ hi, n ≤ h) ∧ rounds (S text) n i j

variable {S T U : Meaning}

theorem ext (h : ∀ text i j, S text i j ↔ T text i j) : S = T :=
  funext fun text => funext fun i => funext fun j => propext (h text i j)

@[simp] theorem nothing_andThen : nothing.andThen S = S :=
  ext fun text i j => by simp [andThen, nothing]

@[simp] theorem andThen_nothing : S.andThen nothing = S :=
  ext fun text i j => by simp [andThen, nothing]

theorem andThen_assoc : (S.andThen T).andThen U = S.andThen (T.andThen U) := by
  apply ext
  intro text i j
  constructor
  · rintro ⟨l, ⟨k, hS, hT⟩, hU⟩
    exact ⟨k, hS, l, hT, hU⟩
  · rintro ⟨k, hS, l, hT, hU⟩
    exact ⟨l, ⟨k, hS, hT⟩, hU⟩

@[simp] theorem inARow_nil : inARow [] = nothing := rfl

@[simp] theorem inARow_cons {Ss : List Meaning} : inARow (S :: Ss) = S.andThen (inARow Ss) :=
  rfl

theorem inARow_append {Ss Ts : List Meaning} :
    inARow (Ss ++ Ts) = (inARow Ss).andThen (inARow Ts) := by
  induction Ss with
  | nil => simp
  | cons S Ss ih => simp [ih, andThen_assoc]

@[simp] theorem oneOf_singleton : oneOf [S] = S := ext fun text i j => by simp [oneOf]

end Meaning

/-! ## Expressions -/

/-- The expression matches what is meant. -/
structure Expr.Means (e : Expr) (S : Meaning) : Prop where
  filled : e.Filled
  matches_iff : ∀ text i j, e.Matches text i j ↔ S text i j

namespace Expr

theorem means_empty : empty.Means .nothing := ⟨trivial, fun _ _ _ => Iff.rfl⟩

theorem means_look (l : Look) : (look l).Means (.place l) := ⟨trivial, fun _ _ _ => Iff.rfl⟩

theorem means_ofSet {s : CharSet} (h : ∃ c, s.has c = true) : (ofSet s).Means (.char s) :=
  ⟨filled_ofSet h, fun _ _ _ => matches_ofSet h⟩

theorem means_text (c : Char) : (Expr.text [c]).Means (.char (.single c)) := by
  refine ⟨trivial, ?_⟩
  intro text i j
  constructor
  · rintro ⟨hc, rfl⟩
    exact ⟨c, hc, by simp, rfl⟩
  · rintro ⟨d, hd, hdc, rfl⟩
    obtain rfl : d = c := by simpa using hdc
    exact ⟨hd, rfl⟩

variable {es : List Expr} {Ss : List Meaning}

theorem matchesAll_iff_inARow (h : List.Forall₂ Means es Ss) {text : Array Char} {i j : Nat} :
    MatchesAll text es i j ↔ Meaning.inARow Ss text i j := by
  induction h generalizing i with
  | nil => rfl
  | cons he _ ih => simp only [matchesAll_cons, he.matches_iff, ih, Meaning.inARow_cons,
      Meaning.andThen]

theorem exists_matches_iff_oneOf (h : List.Forall₂ Means es Ss) {text : Array Char}
    {i j : Nat} :
    (∃ e ∈ es, e.Matches text i j) ↔ Meaning.oneOf Ss text i j := by
  induction h with
  | nil => simp [Meaning.oneOf]
  | cons he _ ih =>
    simp only [Meaning.oneOf, List.mem_cons, exists_eq_or_imp, he.matches_iff] at ih ⊢
    rw [ih]

theorem filled_of_forall₂ (h : List.Forall₂ Means es Ss) : ∀ e ∈ es, e.Filled := by
  induction h with
  | nil => simp
  | cons he _ ih => simpa using ⟨he.filled, ih⟩

theorem means_ofSeq (h : List.Forall₂ Means es Ss) : (ofSeq es).Means (.inARow Ss) :=
  ⟨filled_ofSeq (filled_of_forall₂ h), fun _ _ _ =>
    (matches_ofSeq es).trans (matchesAll_iff_inARow h)⟩

theorem means_ofAlt (h : List.Forall₂ Means es Ss) (hne : es ≠ []) :
    (ofAlt es).Means (.oneOf Ss) :=
  ⟨filled_ofAlt hne (filled_of_forall₂ h), fun _ _ _ =>
    (matches_ofAlt (filled_of_forall₂ h)).trans (exists_matches_iff_oneOf h)⟩

theorem means_repeated {e : Expr} {S : Meaning} {lo : Nat} {hi : Option Nat} {greedy : Bool}
    (h : e.Means S) (hbounds : ∀ n ∈ hi, lo ≤ n) :
    (repeated lo hi greedy e).Means (.times lo hi S) := by
  have heq (text : Array Char) : e.Matches text = S text :=
    funext fun i => funext fun j => propext (h.matches_iff text i j)
  refine ⟨filled_repeated h.filled, ?_⟩
  intro text i j
  rw [matches_repeated hbounds, heq]
  rfl

end Expr

/-! ## Trees -/

/-- The characters that count as a character under the modes. -/
def Modes.charSet (m : Modes) (c : Char) : CharSet :=
  if m.ignoreCase then .ofCodes (m.folding.variants c.toNat) else .single c

theorem Modes.has_charSet (m : Modes) (c : Char) : (m.charSet c).has c = true := by
  rw [charSet]
  split
  · simpa [CharSet.has] using CharSet.self_mem_variants _ _
  · simp

namespace Tree

variable {m : Modes} {t : Tree} {S : Meaning} {s : Span}

/-- Under the modes the part becomes an expression that matches what is meant, and the modes
stay. -/
def Means (m : Modes) (t : Tree) (S : Meaning) : Prop :=
  ∃ e, t.resolve m = .ok (e, m) ∧ e.Means S

theorem means_empty : (empty s).Means m .nothing := ⟨_, rfl, Expr.means_empty⟩

theorem means_assertion (kind : Assertion) :
    (assertion s kind).Means m (.place (m.look kind)) := ⟨_, rfl, Expr.means_look _⟩

/-- A character means itself, and its variants where case is ignored. -/
theorem means_literal (c : Char) :
    (literal { span := s, char := c, isByte := false }).Means m (.char (m.charSet c)) := by
  refine ⟨takeChar m c, by simp [resolve_literal, Literal.resolve], ?_⟩
  have hfilled := m.has_charSet c
  rw [takeChar, Modes.charSet] at *
  split at hfilled
  · rename_i h
    simpa only [h, if_true] using Expr.means_ofSet ⟨c, hfilled⟩
  · rename_i h
    simpa only [h, if_false, Bool.false_eq_true] using Expr.means_text c

theorem means_dot (hm : m.unicode = true) : (dot s).Means m (.char m.dotSet) := by
  refine ⟨_, by simp [resolve_dot, hm], Expr.means_ofSet ⟨'a', ?_⟩⟩
  rw [Modes.dotSet]
  split
  · simp
  · split <;> simp <;> rfl

/-- A class means the characters of its set, or with a negation all others. -/
def classSet (negated : Bool) (s : CharSet) : CharSet := if negated then .compl s else s

theorem negateIn_unicode (hm : m.unicode = true) (negated : Bool) (set : CharSet) :
    negateIn m s negated set = .ok (classSet negated set) := by
  cases negated <;> simp [negateIn, classSet, hm]

theorem means_shorthand (hm : m.unicode = true) (kind : Shorthand) (negated : Bool)
    (hfilled : ∃ c, (classSet negated (kind.set true)).has c = true) :
    (shorthand s kind negated).Means m (.char (classSet negated (kind.set true))) :=
  ⟨_, by rw [resolve_shorthand, negateIn_unicode hm, hm]; rfl, Expr.means_ofSet hfilled⟩

theorem means_bracket (hm : m.unicode = true) {set : ClassTree} {chars : CharSet}
    {negated : Bool} (hset : set.toSet m = .ok chars)
    (hfilled : ∃ c, (classSet negated (m.foldSet chars)).has c = true) :
    (bracket s negated set).Means m (.char (classSet negated (m.foldSet chars))) :=
  ⟨_, by rw [resolve_bracket, hset]; simp only [Except.bind, bind, negateIn_unicode hm]; rfl,
    Expr.means_ofSet hfilled⟩

theorem means_repetition {lo : Nat} {hi : Option Nat} {greedy : Bool} (h : t.Means m S)
    (hbounds : ∀ n ∈ hi, lo ≤ n) :
    (repetition s lo hi greedy t).Means m (.times lo hi S) := by
  obtain ⟨e, he, hS⟩ := h
  exact ⟨_, by rw [resolve_repetition, he]; rfl, Expr.means_repeated hS hbounds⟩

theorem means_group {index : Nat} (h : t.Means m S) :
    (group s (.capture index) t).Means m S := by
  obtain ⟨e, he, hS⟩ := h
  exact ⟨.group index e, by rw [resolve_group, he]; rfl, hS.filled, hS.matches_iff⟩

theorem resolveAll_of_means {ts : List Tree} {Ss : List Meaning}
    (h : List.Forall₂ (Means m) ts Ss) :
    ∃ es, resolveAll m ts = .ok (es, m) ∧ List.Forall₂ Expr.Means es Ss := by
  induction h with
  | nil => exact ⟨[], rfl, .nil⟩
  | cons ht _ ih =>
    obtain ⟨e, he, hS⟩ := ht
    obtain ⟨es, hes, hSs⟩ := ih
    refine ⟨e :: es, ?_, .cons hS hSs⟩
    rw [resolveAll_cons, he]
    show (resolveAll m _ >>= fun r => pure (e :: r.1, r.2)) = .ok (e :: es, m)
    rw [hes]
    rfl

/-- The parts mean, one after another, what is meant. -/
def InARow (m : Modes) (ts : List Tree) (S : Meaning) : Prop :=
  ∃ Ss, List.Forall₂ (Means m) ts Ss ∧ Meaning.inARow Ss = S

theorem inARow_nil : InARow m [] .nothing := ⟨[], .nil, rfl⟩

theorem inARow_singleton (h : t.Means m S) : InARow m [t] S := ⟨[S], .cons h .nil, by simp⟩

theorem InARow.append {ts us : List Tree} {T : Meaning} (ht : InARow m ts S)
    (hu : InARow m us T) :
    InARow m (ts ++ us) (S.andThen T) := by
  obtain ⟨Ss, hts, rfl⟩ := ht
  obtain ⟨Ts, hus, rfl⟩ := hu
  exact ⟨Ss ++ Ts, List.rel_append hts hus, Meaning.inARow_append⟩

/-- A sequence means what its parts mean one after another. -/
theorem means_ofParts {ts : List Tree} (h : InARow m ts S) : (ofParts s ts).Means m S := by
  obtain ⟨Ss, hts, rfl⟩ := h
  fun_cases ofParts s ts with
  | case1 =>
    obtain rfl := List.forall₂_nil_left_iff.1 hts
    exact means_empty
  | case2 t =>
    obtain ⟨S, _, ht, hnil, rfl⟩ := List.forall₂_cons_left_iff.1 hts
    obtain rfl := List.forall₂_nil_left_iff.1 hnil
    simpa using ht
  | case3 =>
    obtain ⟨es, hes, hSs⟩ := resolveAll_of_means hts
    exact ⟨_, by rw [resolve_sequence, hes]; rfl, Expr.means_ofSeq hSs⟩

/-- Alternatives mean what one of them means. -/
theorem means_ofBranches {ts : List Tree} {Ss : List Meaning}
    (h : List.Forall₂ (Means m) ts Ss) (hne : ts ≠ []) :
    (ofBranches s ts).Means m (.oneOf Ss) := by
  fun_cases ofBranches s ts with
  | case1 => exact absurd rfl hne
  | case2 t =>
    obtain ⟨S, _, ht, hnil, rfl⟩ := List.forall₂_cons_left_iff.1 h
    obtain rfl := List.forall₂_nil_left_iff.1 hnil
    simpa using ht
  | case3 =>
    obtain ⟨es, hes, hSs⟩ := resolveAll_of_means h
    refine ⟨_, by rw [resolve_alternation, hes]; rfl, Expr.means_ofAlt hSs ?_⟩
    rintro rfl
    obtain rfl := List.forall₂_nil_left_iff.1 hSs
    exact hne (List.forall₂_nil_right_iff.1 h)

end Tree

end PatternAssembly
