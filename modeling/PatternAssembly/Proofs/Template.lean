import PatternAssembly.Template
import PatternAssembly.Proofs.Program.Ordered

/-!
# Templates piece by piece

A template that is written piece by piece is read piece by piece: every dollar sign of a text
is doubled, a reference stands in braces, or without them where what follows could not belong
to its name. So its expansion at a match is the texts of its pieces, whatever pieces stand
side by side.

## Main definitions

* `TemplatePart`, with `TemplatePart.written`: the pieces and how each is written
* `TemplatePart.Readable`: each piece ends where the next one starts
* `Match.captured`: the text of the group that a name means

## Main statements

* `expand_read_written`: the expansion of what is written is what the pieces stand for
-/
namespace PatternAssembly

/-! ## Groups by their names -/

/-- The number that decimal digits write. -/
def decimalNumber (digits : List Char) : Nat :=
  digits.foldl (fun n d => 10 * n + (d.toNat - 0x30)) 0

/-- The number of the group that a name of letters, digits and underscores means: digits that
write a number of 64 bits mean the group of that number. -/
def groupNumber? (names : List (String × Nat)) (name : List Char) : Option Nat :=
  if name.all Char.isDigit ∧ decimalNumber name < 2 ^ 64 then some (decimalNumber name)
  else names.lookup (String.ofList name)

/-- The text of the group that a name means in a match: group 0 is the whole match, and a
group that is unknown or took no part in the match has no text. -/
def Match.captured (names : List (String × Nat)) (text : Array Char) (m : Match)
    (name : List Char) : List Char :=
  match groupNumber? names name with
  | none => []
  | some 0 => m.chars text
  | some n =>
    match m.saved.lookup (2 * n), m.saved.lookup (2 * n + 1) with
    | some start, some stop => slice text start stop
    | _, _ => []

/-- A name that a reference may have without braces. -/
def IsReferenceName (name : List Char) : Prop :=
  name ≠ [] ∧ ∀ c ∈ name, isReferenceChar c = true

theorem ofText_of_isReferenceName {name : List Char} (h : IsReferenceName name) :
    GroupReference.ofText name =
      if name.all Char.isDigit ∧ decimalNumber name < 2 ^ 64 then .number (decimalNumber name)
      else .name (String.ofList name) := by
  obtain ⟨hne, hchars⟩ := h
  cases name with
  | nil => exact absurd rfl hne
  | cons c cs =>
    have hc : c ≠ '+' := by
      rintro rfl
      exact absurd (hchars '+' (by simp)) (by decide)
    rw [GroupReference.ofText]
    · simp only [List.isEmpty_cons, Bool.not_false, Bool.true_and, Bool.and_eq_true]
      exact if_congr (and_congr Iff.rfl decide_eq_true_iff) rfl rfl
    · intro digits heq
      exact hc (List.cons.inj heq).1

/-- A reference stands for the text of its group. -/
theorem expand_group {names : List (String × Nat)} {text : Array Char} {m : Match}
    {name : List Char} (h : IsReferenceName name) :
    (TemplatePiece.group (.ofText name)).expand names text m =
      m.captured names text name := by
  have hindex : (GroupReference.ofText name).index? names = groupNumber? names name := by
    rw [ofText_of_isReferenceName h, groupNumber?]
    split <;> rfl
  rw [TemplatePiece.expand, hindex, Match.captured]
  match groupNumber? names name with
  | none => rfl
  | some 0 => rfl
  | some (n + 1) =>
    simp only [Option.bind_some, Match.group, Nat.succ_ne_zero, if_false]
    cases m.saved.lookup (2 * (n + 1)) with
    | none => rfl
    | some start => cases m.saved.lookup (2 * (n + 1) + 1) <;> rfl

/-! ## Templates as written -/

/-- A piece of a template: text for itself, or a reference in braces or without them. -/
inductive TemplatePart where
  | text (s : List Char)
  | braced (name : List Char)
  | bare (name : List Char)
deriving DecidableEq

namespace TemplatePart

/-- How a piece is written. -/
def written : TemplatePart → List Char
  | text s => s.flatMap fun c => if c = '$' then ['$', '$'] else [c]
  | braced name => '$' :: '{' :: name ++ ['}']
  | bare name => '$' :: name

/-- What a piece stands for at a match. -/
def value (names : List (String × Nat)) (chars : Array Char) (m : Match) :
    TemplatePart → List Char
  | text s => s
  | braced name | bare name => m.captured names chars name

/-- References have names, and what follows a name without braces could not belong to it. -/
def Readable : List TemplatePart → Prop
  | [] => True
  | text _ :: parts => Readable parts
  | braced name :: parts => IsReferenceName name ∧ Readable parts
  | bare name :: parts =>
    IsReferenceName name ∧ (∀ c ∈ (parts.flatMap written).head?, isReferenceChar c = false) ∧
      Readable parts

end TemplatePart

namespace Template

theorem readUpTo_dollars (bound : Nat) (rest : List Char) :
    readUpTo (bound + 1) ('$' :: '$' :: rest) = .text ['$'] :: readUpTo bound rest := rfl

theorem readUpTo_char {c : Char} (hc : c ≠ '$') (bound : Nat) (rest : List Char) :
    readUpTo (bound + 1) (c :: rest) = .text [c] :: readUpTo bound rest := by
  rw [readUpTo]
  all_goals intros; simp_all

theorem readUpTo_braced {name : List Char} (h : IsReferenceName name) (bound : Nat)
    (rest : List Char) :
    readUpTo (bound + 1) ('$' :: '{' :: name ++ '}' :: rest) =
      .group (.ofText name) :: readUpTo bound rest := by
  have hname : ∀ c ∈ name, (c != '}') = true := fun c hc => by
    have := h.2 c hc
    simp only [bne_iff_ne, ne_eq]
    rintro rfl
    exact absurd this (by decide)
  simp [readUpTo, List.dropWhile_append_of_pos hname, List.takeWhile_append_of_pos hname]

theorem readUpTo_bare {name rest : List Char} (h : IsReferenceName name)
    (hrest : ∀ c ∈ rest.head?, isReferenceChar c = false) (bound : Nat) :
    readUpTo (bound + 1) ('$' :: name ++ rest) =
      .group (.ofText name) :: readUpTo bound rest := by
  obtain ⟨hne, hchars⟩ := h
  have htake : rest.takeWhile isReferenceChar = [] ∧
      rest.dropWhile isReferenceChar = rest := by
    cases rest with
    | nil => exact ⟨rfl, rfl⟩
    | cons c rest => simp [hrest c (by simp)]
  have hrun : (name ++ rest).takeWhile isReferenceChar = name := by
    rw [List.takeWhile_append_of_pos hchars, htake.1, List.append_nil]
  have hdrop : (name ++ rest).dropWhile isReferenceChar = rest := by
    rw [List.dropWhile_append_of_pos hchars, htake.2]
  cases name with
  | nil => exact absurd rfl hne
  | cons c cs =>
    have hc := hchars c (by simp)
    have h1 : c ≠ '$' := by rintro rfl; exact absurd hc (by decide)
    have h2 : c ≠ '{' := by rintro rfl; exact absurd hc (by decide)
    rw [List.cons_append, readUpTo, hrun, hdrop]
    · intros; simp_all
    · intros; simp_all

variable {names : List (String × Nat)} {chars : Array Char} {m : Match}

@[simp] theorem expand_nil : expand [] names chars m = [] := rfl

@[simp] theorem expand_cons (p : TemplatePiece) (t : Template) :
    expand (p :: t) names chars m = p.expand names chars m ++ expand t names chars m := rfl

/-- A text with its dollar signs doubled stands for itself. -/
theorem expand_readUpTo_text (names : List (String × Nat)) (s rest : List Char) {bound : Nat}
    (hbound : (TemplatePart.written (.text s) ++ rest).length ≤ bound) :
    ∃ left, rest.length ≤ left ∧
      expand (readUpTo bound (TemplatePart.written (.text s) ++ rest)) names chars m =
        s ++ expand (readUpTo left rest) names chars m := by
  -- A dollar sign is written as two characters and read in one step, so the bound that is
  -- left is not known exactly.
  induction s generalizing bound with
  | nil => exact ⟨bound, hbound, rfl⟩
  | cons c s ih =>
    obtain ⟨bound, rfl⟩ : ∃ k, bound = k + 1 := by
      cases bound with
      | zero => by_cases hc : c = '$' <;> simp [TemplatePart.written, hc] at hbound
      | succ k => exact ⟨k, rfl⟩
    by_cases hc : c = '$'
    · subst hc
      obtain ⟨left, hleft, hexpand⟩ := @ih bound (by
        simp only [TemplatePart.written, List.flatMap_cons, if_true, List.length_append,
          List.length_cons, List.length_nil] at hbound ⊢
        omega)
      refine ⟨left, hleft, ?_⟩
      show expand (readUpTo (bound + 1)
        ('$' :: '$' :: (TemplatePart.written (.text s) ++ rest)))
        names chars m = _
      rw [readUpTo_dollars, expand_cons, hexpand]
      rfl
    · obtain ⟨left, hleft, hexpand⟩ := @ih bound (by
        simp only [TemplatePart.written, List.flatMap_cons, if_neg hc, List.length_append,
          List.length_cons, List.length_nil] at hbound ⊢
        omega)
      refine ⟨left, hleft, ?_⟩
      have : TemplatePart.written (.text (c :: s)) ++ rest
          = c :: (TemplatePart.written (.text s) ++ rest) := by
        simp [TemplatePart.written, hc]
      rw [this, readUpTo_char hc, expand_cons, hexpand]
      rfl

/-- What the pieces stand for, one after another, is the expansion of what they write. -/
theorem expand_readUpTo_written {parts : List TemplatePart} (h : TemplatePart.Readable parts)
    {bound : Nat} (hbound : (parts.flatMap TemplatePart.written).length ≤ bound) :
    expand (readUpTo bound (parts.flatMap TemplatePart.written)) names chars m =
      parts.flatMap (TemplatePart.value names chars m) := by
  induction parts generalizing bound with
  | nil => cases bound <;> rfl
  | cons part parts ih =>
    rw [List.flatMap_cons] at hbound ⊢
    rw [List.flatMap_cons]
    cases part with
    | text s =>
      obtain ⟨left, hleft, hexpand⟩ := expand_readUpTo_text names s _ hbound
      rw [hexpand, ih h hleft]
      rfl
    | braced name =>
      obtain ⟨hname, h⟩ := h
      cases bound with
      | zero => simp [TemplatePart.written] at hbound
      | succ bound =>
        have hwritten :
            TemplatePart.written (.braced name) ++ parts.flatMap TemplatePart.written =
              '$' :: '{' :: name ++ '}' :: parts.flatMap TemplatePart.written := by
          simp [TemplatePart.written]
        rw [hwritten] at hbound ⊢
        rw [readUpTo_braced hname, expand_cons, expand_group hname, ih h]
        · rfl
        · simp only [List.length_cons, List.length_append] at hbound
          omega
    | bare name =>
      obtain ⟨hname, hhead, h⟩ := h
      cases bound with
      | zero => simp [TemplatePart.written] at hbound
      | succ bound =>
        rw [TemplatePart.written] at hbound ⊢
        rw [readUpTo_bare hname hhead, expand_cons, expand_group hname, ih h]
        · rfl
        · simp only [List.length_cons, List.length_append] at hbound
          omega

/-- The expansion of a template that is written piece by piece is what the pieces stand
for. -/
theorem expand_read_written {parts : List TemplatePart} (h : TemplatePart.Readable parts) :
    (read (parts.flatMap TemplatePart.written)).expand names chars m =
      parts.flatMap (TemplatePart.value names chars m) :=
  expand_readUpTo_written h (Nat.le_refl _)

end Template

end PatternAssembly
