import PatternAssembly.Proofs.Tree.Means
import PatternAssembly.Tree.Reader

/-!
# Reading one piece of a pattern after the other

A pattern is read sign by sign, and what a sign becomes depends on the characters after it
only where these are a sign of repetition, an opening brace or a question mark. A text of
signs that is followed by none of them is a phrase: wherever it stands, it adds the same
meaning to what was read before, and phrases may be written one after the other.

## Main definitions

* `Reader.Reaches`, `Reader.Ends`: what reading leads to
* `Reader.Grown`: more parts in the current alternative, and all else unchanged
* `ReadsAsUnit`, `ReadsAsPhrase`: the meaning that a text adds
* `OpenPart.Shows`: the meaning of what has been read of a group

## Main statements

* `reads_append`, `ReadsAsPhrase.append`: phrases one after the other
* `ReadsAsUnit.repeated`: a repeated unit
* `OpenPart.Shows.push`, `OpenPart.Shows.close`: a group under way, and closed
-/
namespace PatternAssembly

/-- One result and then another, if neither is a fault. -/
theorem bind_eq_ok {ε α β : Type} {x : Except ε α} {f : α → Except ε β} {b : β} :
    x >>= f = .ok b ↔ ∃ a, x = .ok a ∧ f a = .ok b := by
  cases x <;> simp [bind, Except.bind]

/-- A fault put into other words is no result, and a result stays. -/
theorem mapError_eq_ok_iff {α ε ε' : Type} {f : ε → ε'} {x : Except ε α} {a : α} :
    x.mapError f = .ok a ↔ x = .ok a := by
  cases x <;> simp [Except.mapError]

/-! ## Runs of characters -/

namespace Cursor

variable {c : Cursor}

theorem takeUpTo_eq (p : Char → Bool) (bound : Nat) (h : c.rest.length ≤ bound) :
    c.takeUpTo false p bound =
      (c.rest.takeWhile p, ⟨c.pos + (c.rest.takeWhile p).length, c.rest.dropWhile p⟩) := by
  obtain ⟨pos, rest⟩ := c
  induction rest generalizing pos bound with
  | nil => cases bound <;> rfl
  | cons d ds ih =>
    cases bound with
    | zero => simp at h
    | succ bound =>
      rw [takeUpTo]
      by_cases hd : p d = true
      · have hnext : advance false ⟨pos, d :: ds⟩ = ⟨pos + 1, ds⟩ := rfl
        simp [hd, hnext, ih bound (pos + 1) (by simpa using h)]
        omega
      · simp [hd]

theorem takeWhile_eq (p : Char → Bool) :
    c.takeWhile false p =
      (c.rest.takeWhile p, ⟨c.pos + (c.rest.takeWhile p).length, c.rest.dropWhile p⟩) :=
  takeUpTo_eq p _ le_rfl

end Cursor

/-! ## Signs one after the other -/

namespace Reader

variable {r r' r'' : Reader} {cs rest : List Char}

/-- The characters are next, and blanks count. -/
structure At (r : Reader) (cs : List Char) : Prop where
  rest : r.cursor.rest = cs
  free : r.free = false

theorem at_start {pattern : List Char} (h : pattern = cs) : (start pattern).At cs := ⟨h, rfl⟩

/-- The next sign is read. -/
structure Reads (r r' : Reader) : Prop where
  free : r.free = false
  step : r.step = .ok r'
  shorter : r'.cursor.rest.length < r.cursor.rest.length

/-- Several signs are read, or none. -/
def Reaches : Reader → Reader → Prop := Relation.ReflTransGen Reads

/-- Reading ends so, if at least one more sign is allowed than there are characters. -/
def Ends (r : Reader) (x : Except Fault Reader) : Prop :=
  ∀ bound, r.cursor.rest.length < bound → r.run bound = x

theorem Ends.unique {x y : Except Fault Reader} (hx : r.Ends x) (hy : r.Ends y) : x = y :=
  (hx _ (Nat.lt_succ_self _)).symm.trans (hy _ (Nat.lt_succ_self _))

theorem run_succ (h : r.free = false) (bound : Nat) :
    r.run (bound + 1) =
      if r.cursor.rest.isEmpty then .ok r else r.step >>= fun r' => r'.run bound := by
  have hskip : r.cursor.skip r.free = r.cursor := by simp [Cursor.skip, h]
  rw [run, hskip]

theorem ends_nil (h : r.At []) : r.Ends (.ok r) := by
  intro bound hbound
  cases bound with
  | zero => omega
  | succ bound => simp [run_succ h.free, h.rest]

theorem ends_of_refused {f : Fault} (h : r.At cs) (hne : cs ≠ [])
    (hstep : r.step = .error f) :
    r.Ends (.error f) := by
  intro bound hbound
  cases bound with
  | zero => omega
  | succ bound =>
    rw [run_succ h.free, h.rest, hstep, List.isEmpty_eq_false_iff.2 hne]
    rfl

theorem Reads.ends {x : Except Fault Reader} (h : r.Reads r') (hx : r'.Ends x) :
    r.Ends x := by
  intro bound hbound
  cases bound with
  | zero => omega
  | succ bound =>
    have hshorter := h.shorter
    have hne : r.cursor.rest.isEmpty = false := by
      cases hrest : r.cursor.rest with
      | nil => simp [hrest] at hshorter
      | cons c cs => rfl
    rw [run_succ h.free, hne, h.step]
    exact hx bound (by omega)

theorem Reaches.ends {x : Except Fault Reader} (h : r.Reaches r') (hx : r'.Ends x) :
    r.Ends x := by
  induction h using Relation.ReflTransGen.head_induction_on with
  | refl => exact hx
  | head hstep _ ih => exact hstep.ends ih

theorem Reaches.trans (h : r.Reaches r') (h' : r'.Reaches r'') : r.Reaches r'' :=
  Relation.ReflTransGen.trans h h'

theorem Reads.reaches (h : r.Reads r') : r.Reaches r' := .single h

/-- The current alternative has more parts, `rest` is next, and all else is as before. -/
structure Grown (r : Reader) (ts : List Tree) (rest : List Char) (r' : Reader) : Prop where
  at_rest : r'.At rest
  groups : r'.groups = r.groups
  branches : r'.current.branches = r.current.branches
  parts : r'.current.parts = ts.reverse ++ r.current.parts

theorem Grown.refl (h : r.At rest) : r.Grown [] rest r := ⟨h, rfl, rfl, rfl⟩

theorem Grown.trans {ts us : List Tree} (h : r.Grown ts cs r') (h' : r'.Grown us rest r'') :
    r.Grown (ts ++ us) rest r'' := by
  refine ⟨h'.at_rest, h'.groups.trans h.groups, h'.branches.trans h.branches, ?_⟩
  rw [h'.parts, h.parts, List.reverse_append, List.append_assoc]

theorem grown_push {t : Tree} {c : Cursor} (h : r.free = false) (hc : c.rest = rest) :
    r.Grown [t] rest (r.push t c) := ⟨⟨hc, h⟩, rfl, rfl, rfl⟩

end Reader

open Reader

/-! ## Units and phrases -/

/-- The text does not continue the sign before it. -/
def Calm (cs : List Char) : Prop := ∀ c ∈ cs.head?, c ≠ '?' ∧ c ≠ '*' ∧ c ≠ '+' ∧ c ≠ '\x7b'

@[simp] theorem calm_nil : Calm [] := by simp [Calm]

@[simp] theorem calm_cons {c : Char} {cs : List Char} :
    Calm (c :: cs) ↔ c ≠ '?' ∧ c ≠ '*' ∧ c ≠ '+' ∧ c ≠ '\x7b' := by simp [Calm]

theorem Calm.append {cs ds : List Char} (h : Calm cs) (h' : Calm ds) : Calm (cs ++ ds) := by
  cases cs with
  | nil => exact h'
  | cons c cs => simpa using h

/-- The part may be repeated. -/
def Tree.isRepeatable : Tree → Bool
  | .empty _ | .modes _ _ => false
  | _ => true

/-- Wherever the text stands, it is read as one part that may be repeated and has this
meaning. -/
structure ReadsAsUnit (m : Modes) (cs : List Char) (S : Meaning) : Prop where
  calm : cs ≠ [] ∧ Calm cs
  reads : ∀ (r : Reader) (rest : List Char), r.At (cs ++ rest) →
    ∃ t r', r.Reaches r' ∧ r.Grown [t] rest r' ∧ t.isRepeatable = true ∧ t.Means m S

/-- Wherever the text stands, unless the characters after it continue it, it is read as parts
that have this meaning one after another. -/
structure ReadsAsPhrase (m : Modes) (cs : List Char) (S : Meaning) : Prop where
  calm : Calm cs
  reads : ∀ (r : Reader) (rest : List Char), Calm rest → r.At (cs ++ rest) →
    ∃ ts r', r.Reaches r' ∧ r.Grown ts rest r' ∧ Tree.InARow m ts S

variable {m : Modes} {cs ds : List Char} {S T : Meaning}

theorem ReadsAsUnit.phrase (h : ReadsAsUnit m cs S) : ReadsAsPhrase m cs S := by
  refine ⟨h.calm.2, ?_⟩
  intro r rest _ hat
  obtain ⟨t, r', hreaches, hgrown, -, ht⟩ := h.reads r rest hat
  exact ⟨[t], r', hreaches, hgrown, Tree.inARow_singleton ht⟩

theorem readsAsPhrase_nil : ReadsAsPhrase m [] .nothing :=
  ⟨calm_nil, fun r _ _ hat => ⟨[], r, .refl, .refl hat, Tree.inARow_nil⟩⟩

/-- What is read wherever a text stands, and then what is read where the next one stands:
whatever is known of the parts of both holds of all of them. -/
theorem reads_append {P Q R : List Tree → Prop} (hds : Calm ds)
    (h : ∀ (r : Reader) (rest : List Char), Calm rest → r.At (cs ++ rest) →
      ∃ ts r', r.Reaches r' ∧ r.Grown ts rest r' ∧ P ts)
    (h' : ∀ (r : Reader) (rest : List Char), Calm rest → r.At (ds ++ rest) →
      ∃ ts r', r.Reaches r' ∧ r.Grown ts rest r' ∧ Q ts)
    (hjoin : ∀ ts us, P ts → Q us → R (ts ++ us)) (r : Reader) (rest : List Char)
    (hrest : Calm rest) (hat : r.At (cs ++ ds ++ rest)) :
    ∃ ts r', r.Reaches r' ∧ r.Grown ts rest r' ∧ R ts := by
  rw [List.append_assoc] at hat
  obtain ⟨ts, r₁, hreaches, hgrown, hts⟩ := h r _ (hds.append hrest) hat
  obtain ⟨us, r₂, hreaches', hgrown', hus⟩ := h' r₁ rest hrest hgrown.at_rest
  exact ⟨ts ++ us, r₂, hreaches.trans hreaches', hgrown.trans hgrown', hjoin ts us hts hus⟩

/-- Phrases may be written one after the other. -/
theorem ReadsAsPhrase.append (h : ReadsAsPhrase m cs S) (h' : ReadsAsPhrase m ds T) :
    ReadsAsPhrase m (cs ++ ds) (S.andThen T) :=
  ⟨h.calm.append h'.calm,
    reads_append h'.calm h.reads h'.reads fun _ _ hts hus => hts.append hus⟩

theorem readsAsPhrase_flatten {css : List (List Char)} {Ss : List Meaning}
    (h : List.Forall₂ (ReadsAsPhrase m) css Ss) :
    ReadsAsPhrase m css.flatten (.inARow Ss) := by
  induction h with
  | nil => exact readsAsPhrase_nil
  | cons hcs _ ih => exact hcs.append ih

/-! ## Repetitions -/

/-- The text says that the part before it is repeated so many times. -/
def ReadsAsCount (qs : List Char) (lo : Nat) (hi : Option Nat) : Prop :=
  ∀ (r : Reader) (rest : List Char) (t : Tree) (ts : List Tree), Calm rest →
    r.At (qs ++ rest) →
    r.current.parts = t :: ts → t.isRepeatable = true →
      ∃ s r', r.Reads r' ∧ r'.At rest ∧ r'.groups = r.groups ∧
        r'.current.branches = r.current.branches ∧
        r'.current.parts = .repetition s lo hi true t :: ts

/-- A unit may be repeated. -/
theorem ReadsAsUnit.repeated {qs : List Char} {lo : Nat} {hi : Option Nat}
    (h : ReadsAsUnit m cs S) (hq : ReadsAsCount qs lo hi) (hbounds : ∀ n ∈ hi, lo ≤ n) :
    ReadsAsPhrase m (cs ++ qs) (S.times lo hi) := by
  refine ⟨?_, fun r rest hrest hat => ?_⟩
  · obtain ⟨hne, hcalm⟩ := h.calm
    cases cs with
    | nil => exact absurd rfl hne
    | cons c cs => simpa using hcalm
  · rw [List.append_assoc] at hat
    obtain ⟨t, r₁, hreaches, hgrown, hrepeatable, ht⟩ := h.reads r _ hat
    obtain ⟨s, r₂, hreads, hat₂, hgroups, hbranches, hparts⟩ :=
      hq r₁ rest t r.current.parts hrest hgrown.at_rest hgrown.parts hrepeatable
    refine ⟨[.repetition s lo hi true t], r₂, hreaches.trans hreads.reaches,
      ⟨hat₂, hgroups.trans hgrown.groups, hbranches.trans hgrown.branches, hparts⟩,
      Tree.inARow_singleton (Tree.means_repetition ht hbounds)⟩

/-! ## Alternatives -/

/-- What has been read of a group means the alternatives `done`, the last one first, and what
the current one means so far. -/
structure OpenPart.Shows (m : Modes) (p : OpenPart) (done : List Meaning) (S : Meaning) :
    Prop where
  branches : List.Forall₂ (Tree.Means m) p.branches done
  parts : Tree.InARow m p.parts.reverse S

namespace OpenPart

variable {p : OpenPart} {done : List Meaning}

theorem shows_beginning (pos : Nat) : (beginning pos).Shows m [] .nothing :=
  ⟨.nil, Tree.inARow_nil⟩

theorem Shows.push {t : Tree} (h : p.Shows m done S) (ht : t.Means m T) :
    (p.push t).Shows m done (S.andThen T) := by
  refine ⟨h.branches, ?_⟩
  simpa [OpenPart.push] using h.parts.append (Tree.inARow_singleton ht)

theorem Shows.branch (h : p.Shows m done S) (stop : Nat) : (p.branch stop).Means m S :=
  Tree.means_ofParts h.parts

theorem Shows.alternate (h : p.Shows m done S) (stop next : Nat) :
    (p.alternate stop next).Shows m (S :: done) .nothing :=
  ⟨.cons (h.branch stop) h.branches, Tree.inARow_nil⟩

theorem Shows.close (h : p.Shows m done S) (stop : Nat) :
    (p.close stop).Means m (.oneOf (done.reverse ++ [S])) := by
  rw [← List.reverse_cons]
  exact Tree.means_ofBranches (List.rel_reverse (.cons (h.branch stop) h.branches)) (by simp)

end OpenPart

theorem Reader.Grown.shows {r r' : Reader} {ts : List Tree} {rest : List Char}
    {done : List Meaning} (hgrown : r.Grown ts rest r') (h : r.current.Shows m done S)
    (hts : Tree.InARow m ts T) : r'.current.Shows m done (S.andThen T) := by
  refine ⟨hgrown.branches ▸ h.branches, ?_⟩
  rw [hgrown.parts, List.reverse_append, List.reverse_reverse]
  exact h.parts.append hts

end PatternAssembly
