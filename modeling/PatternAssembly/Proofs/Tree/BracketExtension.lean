import PatternAssembly.Proofs.Tree.Extension

/-!
# More text behind a class in square brackets

A class ends with its closing bracket, and up to there nothing is read that depends on what
stands behind: neither the character after a hyphen, nor the end of a class by name, nor how
many steps are allowed.

## Main definitions

* `readLeading`, `readItemFrom`, `readInner`: parts of the reading that are followed on their
  own
* `SetSign`: what is next in a set

## Main statements

* `readAsciiClass_extend`, `readItem_extend`: what stands between the brackets
* `readSet_extend`: a set up to its closing bracket
* `extends_bracket`: a class
-/
namespace PatternAssembly

open Cursor

variable {free : Bool} {q : List Char} {c c' : Cursor}

/-! ## Classes of ASCII characters by name -/

theorem asciiClassByName_eq_none {name : List Char} (h : ']' ∈ name) :
    asciiClassByName name = none := by
  cases hkind : asciiClassByName name with
  | none => rfl
  | some kind =>
    rw [asciiClassByName, List.lookup_eq_some_iff] at hkind
    obtain ⟨before, behind, htable, -⟩ := hkind
    have hall : (before ++ (String.ofList name, kind) :: behind).all
        fun entry => !entry.1.toList.contains ']' := by
      rw [← htable]
      decide
    have hentry := List.all_eq_true.1 hall (String.ofList name, kind) (by simp)
    simp [h] at hentry

namespace Cursor

/-- A text stands at the cursor or not, if a character is to come that only the end of the
text may be. -/
theorem decides_of_mem {text : List Char} {ch : Char} (h : ch ∈ c.rest)
    (htext : ch ∉ text.dropLast) : c.Decides q text := by
  by_cases hlength : text.length ≤ c.rest.length
  · exact decides_of_length_le hlength
  · have hnot (q : List Char) : ¬ text <+: c.rest ++ q := by
      intro hprefix
      have hrest : c.rest <+: text :=
        List.prefix_of_prefix_length_le (List.prefix_append _ _) hprefix (by omega)
      have hdrop : c.rest <+: text.dropLast :=
        List.prefix_of_prefix_length_le hrest (List.dropLast_prefix _) (by
          rw [List.length_dropLast]
          omega)
      exact htext (hdrop.subset h)
    rw [Decides, Bool.eq_iff_iff, List.isPrefixOf_iff_prefix, List.isPrefixOf_iff_prefix]
    exact ⟨fun hp => (hnot q hp).elim, fun hp => (hnot [] (by simpa using hp)).elim⟩

theorem after?_extend_of_mem {text : List Char} {ch : Char} (h : ch ∈ c.rest)
    (htext : ch ∉ text.dropLast) :
    (c.extend q).after? text = (c.after? text).map (·.extend q) :=
  after?_extend (decides_of_mem h htext)

theorem mem_of_after? {text : List Char} {ch : Char} (hc : c.after? text = some c')
    (h : ch ∈ c.rest) (htext : ch ∉ text) : ch ∈ c'.rest := by
  rw [after?] at hc
  split at hc
  · rename_i hprefix
    obtain ⟨behind, hrest⟩ := List.isPrefixOf_iff_prefix.1 hprefix
    obtain rfl := Option.some.inj hc
    rw [← hrest, List.mem_append] at h
    rw [← hrest]
    simpa using h.resolve_left htext
  · cases hc

end Cursor

/-- The name of a class, and the end of it. -/
def readAsciiName (start : Nat) (negated : Bool) (named : Cursor) :
    Option (ClassTree × Cursor) := do
  let (name, stop) := named.takeWhile false (· != ':')
  let kind ← asciiClassByName name
  let after ← stop.after? [':', ']']
  pure (.ascii (after.spanFrom start) kind negated, after)

theorem readAsciiClass_eq (c : Cursor) :
    readAsciiClass c = (c.after? ['[', ':']).bind fun inside =>
      (match inside.after? ['^'] with
        | some after => readAsciiName c.pos true after
        | none => readAsciiName c.pos false inside) := by
  rw [readAsciiClass]
  cases c.after? ['[', ':'] with
  | none => rfl
  | some inside =>
    simp only [Option.bind_eq_bind, Option.bind_some]
    cases inside.after? ['^'] <;> rfl

theorem readAsciiName_extend (start : Nat) (negated : Bool) (h : ']' ∈ c.rest) :
    readAsciiName start negated (c.extend q) =
      (readAsciiName start negated c).map fun r => (r.1, r.2.extend q) := by
  -- The run that is looked up has no closing bracket, so it ends before the text behind.
  have hmem : ']' ∈ c.rest.takeWhile (· != ':') ∨ ']' ∈ c.rest.dropWhile (· != ':') := by
    rwa [← List.mem_append, List.takeWhile_append_dropWhile]
  simp only [readAsciiName, takeWhile_eq, rest_extend]
  rcases hmem with hmem | hmem
  · have hmem' : ']' ∈ (c.rest ++ q).takeWhile (· != ':') := by
      rw [List.takeWhile_append]
      split
      · exact List.mem_append_left _ ((List.takeWhile_prefix _).subset hmem)
      · exact hmem
    rw [asciiClassByName_eq_none hmem, asciiClassByName_eq_none hmem']
    rfl
  · obtain ⟨htake, hdrop⟩ := run_append (List.ne_nil_of_mem hmem) q
    rw [htake, hdrop]
    cases asciiClassByName (c.rest.takeWhile (· != ':')) with
    | none => rfl
    | some kind =>
      have hafter (pos : Nat) :
          (Cursor.mk pos (c.rest.dropWhile (· != ':') ++ q)).after? [':', ']'] =
            ((Cursor.mk pos (c.rest.dropWhile (· != ':'))).after? [':', ']']).map
              (·.extend q) :=
        after?_extend_of_mem (c := ⟨pos, c.rest.dropWhile (· != ':')⟩) hmem (by decide)
      simp only [Option.bind_eq_bind, Option.bind_some, hafter, pos_extend]
      cases after? [':', ']'] _ with
      | none => rfl
      | some after => rfl

/-- A class by name stands at the cursor or not, if a closing bracket is to come. -/
theorem readAsciiClass_extend (h : ']' ∈ c.rest) :
    readAsciiClass (c.extend q) = (readAsciiClass c).map fun r => (r.1, r.2.extend q) := by
  rw [readAsciiClass_eq, readAsciiClass_eq, after?_extend_of_mem h (by decide)]
  cases hinside : c.after? ['[', ':'] with
  | none => rfl
  | some inside =>
    have hmem := mem_of_after? hinside h (by decide)
    simp only [Option.map_some, Option.bind_some]
    rw [after?_extend_of_mem hmem (by decide)]
    cases hnamed : inside.after? ['^'] with
    | none => exact readAsciiName_extend _ _ hmem
    | some named => exact readAsciiName_extend _ _ (mem_of_after? hnamed hmem (by decide))

/-! ## Items -/

/-- A character that ends the run is behind it. -/
theorem mem_dropWhile_of_not {p : Char → Bool} {ch : Char} {cs : List Char} (h : ch ∈ cs)
    (hp : p ch = false) : ch ∈ cs.dropWhile p := by
  rw [← List.takeWhile_append_dropWhile (p := p) (l := cs), List.mem_append] at h
  refine h.resolve_left fun hmem => ?_
  rw [List.all_eq_true.1 List.all_takeWhile ch hmem] at hp
  cases hp

/-- The character behind the one at the cursor is known, if a closing bracket is to come. -/
theorem peekPast_extend (hne : c.rest ≠ []) (h : ']' ∈ c.next.rest) :
    (c.extend q).peekPast free = c.peekPast free := by
  simp only [peekPast, next_extend hne, rest_extend]
  generalize c.next.rest = rest at *
  have hhead : (rest ++ q).head? = rest.head? := by
    cases rest with
    | nil => cases h
    | cons ch rest => rfl
  rw [hhead]
  split
  -- In free spacing the blanks end before the bracket, and so do those behind a number sign.
  · have hmem := mem_dropWhile_of_not h (show Unicode.isBlank ']' = false by decide)
    rw [(run_append (List.ne_nil_of_mem hmem) q).2]
    cases hdrop : rest.dropWhile Unicode.isBlank with
    | nil =>
      rw [hdrop] at hmem
      cases hmem
    | cons ch comment =>
      rw [List.cons_append]
      by_cases hch : ch = '#'
      · subst hch
        have hcomment : ']' ∈ comment := by simpa [hdrop] using hmem
        have hmem' := mem_dropWhile_of_not hcomment
          (show Unicode.isBlank ']' = false by decide)
        simp only
        rw [(run_append (List.ne_nil_of_mem hmem') q).2]
        cases hdrop' : comment.dropWhile Unicode.isBlank with
        | nil =>
          rw [hdrop'] at hmem'
          cases hmem'
        | cons ch behind => rfl
      · split
        · rename_i h
          exact absurd (List.cons.inj h).1 hch
        · rename_i h
          cases h
        · rename_i h
          obtain ⟨rfl, -⟩ := List.cons.inj h
          rfl
  · rfl

theorem extends_classAtom (hne : c.rest ≠ []) :
    Extends free q c.next (readClassAtom free c) (readClassAtom free (c.extend q)) := by
  obtain ⟨ch, rest, hrest⟩ := List.exists_cons_of_ne_nil hne
  have hrest' : (c.extend q).rest = ch :: (rest ++ q) := by simp [hrest]
  by_cases hch : ch = '\\'
  · subst hch
    simp only [readClassAtom, hrest, hrest']
    exact extends_escape hne
  · rw [readClassAtom_eq_literal hch hrest, readClassAtom_eq_literal hch hrest',
      next_extend hne]
    exact .ok (List.suffix_refl _)

/-- The rest of an item, from the character behind its first sign on. The character `past`
that one decides whether a hyphen makes a range. -/
def readItemFrom (free : Bool) (opened : Span) (first : Atom) (past : Option Char)
    (c : Cursor) : Except Fault (ClassTree × Cursor) :=
  match c.rest with
  | [] => refuse .classUnclosed opened
  | ch :: _ =>
    if ch != '-' || past == some ']' || past == some '-' then do
      let item ← first.toItem
      pure (item, c)
    else
      let c := c.advance free
      if c.rest.isEmpty then refuse .classUnclosed opened
      else do
        let (second, c) ← readClassAtom free c
        let lo ← first.toBoundary
        let hi ← second.toBoundary
        let span : Span := ⟨first.span.start, second.span.stop⟩
        if hi.char < lo.char then refuse .classRangeInvalid span
        else pure (.range span lo hi, c)

theorem readItem_eq (free : Bool) (opened : Span) (c : Cursor) :
    readItem free opened c = readClassAtom free c >>= fun r =>
      readItemFrom free opened r.1 ((r.2.skip free).peekPast free) (r.2.skip free) := rfl

/-- Only behind a hyphen the character past it counts. -/
theorem readItemFrom_congr {opened : Span} {first : Atom} {past past' : Option Char}
    (h : c.rest.head? = some '-' → past = past') :
    readItemFrom free opened first past c = readItemFrom free opened first past' c := by
  by_cases hhead : c.rest.head? = some '-'
  · rw [h hhead]
  · rw [readItemFrom, readItemFrom]
    cases hrest : c.rest with
    | nil => rfl
    | cons ch rest =>
      have hch : (ch != '-') = true := by simpa [hrest] using hhead
      simp only [hch, Bool.true_or, if_true]

theorem extends_itemFrom (opened : Span) (first : Atom) (past : Option Char) (c : Cursor) :
    Extends true q c (readItemFrom free opened first past c)
      (readItemFrom free opened first past (c.extend q)) := by
  simp only [readItemFrom]
  cases hrest : c.rest with
  | nil => exact .refuse _ _
  | cons ch rest =>
    have hne : c.rest ≠ [] := by simp [hrest]
    rw [rest_extend, hrest, List.cons_append]
    refine .ite (fun _ => .bind_left fun item => .ok (List.suffix_refl _)) fun _ => ?_
    refine Extends.congr ?_ (fun h => by rw [advance_extend hne (.inl h.ne_nil)])
      (rest_advance_suffix free c)
    generalize c.advance free = c₁
    cases hrest₁ : c₁.rest with
    | nil => exact .refuse _ _
    | cons ch rest =>
      have hne₁ : c₁.rest ≠ [] := by simp [hrest₁]
      rw [rest_extend, hrest₁, List.cons_append]
      refine Extends.congr (.bind ((extends_classAtom hne₁).mono nofun) fun second c₂ _ => ?_)
        (fun _ => rfl) rest_next_suffix
      refine .bind_left fun lo => .bind_left fun hi => .ite (fun _ => .refuse _ _) fun _ => ?_
      exact .ok (List.suffix_refl _)

/-- An item of a set is read the same, if a closing bracket is to come. -/
theorem readItem_extend {opened : Span} {item : ClassTree} (hne : c.rest ≠ [])
    (h : readItem free opened c = .ok (item, c')) (hclose : ']' ∈ c'.rest) :
    c'.rest <:+ c.next.rest ∧
      readItem free opened (c.extend q) = .ok (item, c'.extend q) := by
  rw [readItem_eq] at h ⊢
  obtain ⟨⟨first, c₁⟩, hfirst, h⟩ := bind_eq_ok.1 h
  have hclose' : c'.rest ≠ [] := List.ne_nil_of_mem hclose
  obtain ⟨hsuffix, hextend⟩ :=
    extends_itemFrom (q := q) opened first _ (c₁.skip free) item c' h (.inl hclose')
  have hskip : (c₁.skip free).rest <:+ c₁.rest := rest_skip_suffix free c₁
  have hne₂ := hsuffix.ne_nil hclose'
  obtain ⟨hsuffix₁, hextend₁⟩ :=
    extends_classAtom (q := q) hne first c₁ hfirst (.inl (hskip.ne_nil hne₂))
  refine ⟨hsuffix.trans (hskip.trans hsuffix₁), ?_⟩
  rw [hextend₁]
  show readItemFrom free opened first (((c₁.extend q).skip free).peekPast free)
    ((c₁.extend q).skip free) = _
  rw [skip_extend (.inl hne₂), ← hextend]
  refine readItemFrom_congr fun hhead => peekPast_extend hne₂ ?_
  cases hrest : (c₁.skip free).rest with
  | nil => exact absurd hrest hne₂
  | cons ch rest =>
    obtain rfl : ch = '-' := by simpa [hrest] using hhead
    have hmem : ']' ∈ '-' :: rest := hrest ▸ hsuffix.subset hclose
    simpa [next, hrest] using hmem

/-! ## The start of a class -/

theorem extends_hyphens (start : Nat) {bound bound' : Nat} (s : OpenSet)
    (hbound : bound ≤ bound') (hlength : c.rest.length ≤ bound) :
    Extends true q c (readHyphens free start bound s c)
      (readHyphens free start bound' s (c.extend q)) := by
  induction bound generalizing bound' s c with
  | zero => exact .not_last (List.length_eq_zero_iff.1 (Nat.le_zero.1 hlength))
  | succ bound ih =>
    obtain ⟨bound', rfl⟩ : ∃ n, bound' = n + 1 := Nat.exists_eq_succ_of_ne_zero (by omega)
    rw [readHyphens, readHyphens]
    cases hrest : c.rest with
    | nil => exact .not_last hrest
    | cons ch rest =>
      have hne : c.rest ≠ [] := by simp [hrest]
      simp only [rest_extend, hrest, List.cons_append]
      split
      · rename_i h
        obtain ⟨rfl, rfl⟩ := List.cons.inj h
        have hlength' := (rest_advance_suffix_next free c).length_le
        simp only [next, hrest, List.length_cons] at hlength hlength'
        refine Extends.congr ?_ (fun h => by rw [advance_extend hne (.inl h.ne_nil)])
          (rest_advance_suffix free c)
        generalize c.advance free = c₁ at *
        cases hrest₁ : c₁.rest with
        | nil => exact .refuse _ _
        | cons ch rest =>
          simp only [rest_extend, hrest₁, List.cons_append, List.isEmpty_cons,
            Bool.false_eq_true, if_false]
          exact ih _ (by omega) (by omega)
      · rename_i hhyphen
        split
        · rename_i h
          exact (hhyphen rest (by rw [(List.cons.inj h).1])).elim
        · exact .ok (List.suffix_refl _)

/-- The first items of a class: hyphens, and a closing bracket if nothing is before it. -/
def readLeading (free : Bool) (start : Nat) (c : Cursor) : Except Fault (OpenSet × Cursor) :=
  if c.rest.isEmpty then refuse .classUnclosed (c.spanFrom start)
  else do
    let (s, c) ← readHyphens free start c.rest.length { start := c.pos } c
    if s.items.isEmpty && c.rest.head? == some ']' then
      let s := s.push (.literal { span := c.charSpan, char := ']', isByte := false })
      let c := c.advance free
      if c.rest.isEmpty then refuse .classUnclosed (c.spanFrom start) else pure (s, c)
    else pure (s, c)

theorem extends_leading (start : Nat) (c : Cursor) :
    Extends true q c (readLeading free start c) (readLeading free start (c.extend q)) := by
  rw [readLeading, readLeading]
  cases hrest : c.rest with
  | nil => exact .refuse _ _
  | cons ch rest =>
    have hbound : (ch :: rest).length ≤ (ch :: rest ++ q).length := by simp
    simp only [rest_extend, hrest, List.cons_append, List.isEmpty_cons,
      Bool.false_eq_true, if_false]
    refine .bind (extends_hyphens start _ hbound (by rw [hrest])) fun s c₁ _ => ?_
    simp only [rest_extend]
    cases hrest₁ : c₁.rest with
    | nil =>
      simp only [List.head?_nil, reduceCtorEq, Option.none_beq_some, Bool.and_false]
      exact .not_last hrest₁
    | cons ch rest =>
      have hne₁ : c₁.rest ≠ [] := by simp [hrest₁]
      rw [List.cons_append, List.head?_cons, List.head?_cons]
      refine .ite (fun _ => ?_) fun _ => .ok (List.suffix_refl _)
      refine Extends.congr ?_ (fun h => by rw [advance_extend hne₁ (.inl h.ne_nil)])
        (rest_advance_suffix free c₁)
      generalize c₁.advance free = c₂
      cases hrest₂ : c₂.rest with
      | nil => exact .refuse _ _
      | cons ch rest =>
        simp only [rest_extend, hrest₂, List.cons_append, List.isEmpty_cons,
          Bool.false_eq_true, if_false]
        exact .ok (List.suffix_refl _)

theorem openBracket_eq (free : Bool) (c : Cursor) :
    openBracket free c =
      if (c.advance free).rest.isEmpty then
        refuse .classUnclosed ((c.advance free).spanFrom c.pos)
      else
        let negated := (c.advance free).rest.head? == some '^'
        readLeading free c.pos
            (if negated then (c.advance free).advance free else c.advance free) >>=
          fun r => pure (negated, r) := by
  rw [openBracket]
  generalize c.advance free = c₁
  by_cases hnil : c₁.rest.isEmpty = true
  · simp only [hnil, if_true]
    rfl
  · simp only [hnil]
    generalize (if (c₁.rest.head? == some '^') = true then c₁.advance free else c₁) = c₂
    rw [readLeading]
    by_cases hnil₂ : c₂.rest.isEmpty = true
    · simp only [hnil₂, if_true]
      rfl
    · simp only [hnil₂]
      cases readHyphens free c.pos c₂.rest.length { start := c₂.pos } c₂ with
      | error e => rfl
      | ok r =>
        simp only [bind, Except.bind, Bool.false_eq_true, if_false]
        split
        · rename_i hitems hrest
          simp only [hitems, hrest, List.isEmpty_nil, List.head?_cons, beq_self_eq_true,
            Bool.and_true, if_true]
          split <;> rfl
        · rename_i hother
          have hleading : (r.1.items.isEmpty && r.2.rest.head? == some ']') = false := by
            by_contra hleading
            rw [Bool.not_eq_false, Bool.and_eq_true, beq_iff_eq, List.isEmpty_iff] at hleading
            obtain ⟨tail, htail⟩ := List.head?_eq_some_iff.1 hleading.2
            exact hother tail hleading.1 htail
          rw [hleading]
          rfl

/-- The start of a class is read the same, unless it ends the pattern. -/
theorem openBracket_extend {negated : Bool} {s : OpenSet} (hne : c.rest ≠ [])
    (h : openBracket free c = .ok (negated, s, c')) (hne' : c'.rest ≠ []) :
    c'.rest <:+ c.next.rest ∧
      openBracket free (c.extend q) = .ok (negated, s, c'.extend q) := by
  rw [openBracket_eq] at h ⊢
  cases hrest : (c.advance free).rest with
  | nil =>
    rw [hrest] at h
    cases h
  | cons ch rest =>
    have hne₁ : (c.advance free).rest ≠ [] := by simp [hrest]
    have hsuffix : (c.advance free).rest <:+ c.next.rest := rest_advance_suffix_next free c
    rw [advance_extend hne (.inl hne₁)]
    generalize c.advance free = c₁ at *
    simp only [rest_extend, hrest, List.cons_append, List.isEmpty_cons,
      Bool.false_eq_true, if_false, List.head?_cons] at h ⊢
    generalize (some ch == some '^') = marked at *
    obtain ⟨⟨leading, c₂⟩, hleading, h⟩ := bind_eq_ok.1 h
    simp only [pure, Except.pure, Except.ok.injEq, Prod.mk.injEq] at h
    obtain ⟨rfl, rfl, rfl⟩ := h
    obtain ⟨hrest₂, hextend⟩ :=
      extends_leading (q := q) c.pos _ leading c₂ hleading (.inl hne')
    have hstart : (if marked = true then (c₁.extend q).advance free else c₁.extend q) =
        (if marked = true then c₁.advance free else c₁).extend q := by
      cases marked with
      | false => rfl
      | true => exact advance_extend hne₁ (.inl (hrest₂.ne_nil hne'))
    have hsuffix₁ : (if marked = true then c₁.advance free else c₁).rest <:+ c₁.rest := by
      cases marked with
      | false => exact List.suffix_refl _
      | true => exact rest_advance_suffix free c₁
    rw [hstart]
    exact ⟨hrest₂.trans (hsuffix₁.trans hsuffix), by rw [pos_extend, hextend]; rfl⟩

theorem rest_readAsciiClass_suffix {item : ClassTree}
    (h : readAsciiClass c = some (item, c')) :
    c'.rest <:+ c.rest := by
  have hname (start : Nat) (negated : Bool) (named : Cursor)
      (h : readAsciiName start negated named = some (item, c')) : c'.rest <:+ named.rest := by
    simp only [readAsciiName, Option.bind_eq_bind, Option.bind_eq_some_iff] at h
    obtain ⟨kind, -, after, hafter, heq⟩ := h
    obtain ⟨-, rfl⟩ := Prod.mk.inj (Option.some.inj heq)
    exact (rest_after?_suffix hafter).trans (rest_takeWhile_suffix _ _ _)
  rw [readAsciiClass_eq, Option.bind_eq_some_iff] at h
  obtain ⟨inside, hinside, h⟩ := h
  refine List.IsSuffix.trans ?_ (rest_after?_suffix hinside)
  cases hnamed : inside.after? ['^'] with
  | none =>
    rw [hnamed] at h
    exact hname _ _ _ h
  | some named =>
    rw [hnamed] at h
    exact (hname _ _ _ h).trans (rest_after?_suffix hnamed)

/-! ## Sets -/

/-- The operations, each with the character that is written twice for it. -/
def setOperations : List (Char × SetOperation) :=
  [('&', .intersection), ('-', .difference), ('~', .symmetricDifference)]

/-- An item is next in a set, neither a bracket nor an operation. -/
structure StartsItem (cs : List Char) : Prop where
  ne : cs ≠ []
  close : cs.head? ≠ some ']'
  opening : cs.head? ≠ some '['
  operation : ∀ w ∈ setOperations, ¬ [w.1, w.1] <+: cs

/-- What is next in a set. -/
inductive SetSign : List Char → Prop where
  | missing : SetSign []
  | close (rest : List Char) : SetSign (']' :: rest)
  | opening (rest : List Char) : SetSign ('[' :: rest)
  | operation (w : Char × SetOperation) (known : w ∈ setOperations) (rest : List Char) :
    SetSign (w.1 :: w.1 :: rest)
  | item {cs : List Char} (h : StartsItem cs) : SetSign cs

theorem setSign (cs : List Char) : SetSign cs := by
  by_cases hitem : StartsItem cs
  · exact .item hitem
  · cases cs with
    | nil => exact .missing
    | cons ch rest =>
      by_cases hclose : ch = ']'
      · exact hclose ▸ .close rest
      by_cases hopening : ch = '['
      · exact hopening ▸ .opening rest
      have hoperation : ¬ ∀ w ∈ setOperations, ¬ [w.1, w.1] <+: ch :: rest := fun h =>
        hitem ⟨by simp, by simpa using hclose, by simpa using hopening, h⟩
      simp only [not_forall, not_not] at hoperation
      obtain ⟨w, hw, rest', hrest⟩ := hoperation
      rw [← hrest]
      exact .operation w hw rest'

theorem StartsItem.append {cs : List Char} (h : StartsItem cs) (hmem : ']' ∈ cs) :
    StartsItem (cs ++ q) := by
  obtain ⟨ch, rest, rfl⟩ := List.exists_cons_of_ne_nil h.ne
  have hne : ']' ≠ ch := by
    rintro rfl
    exact h.close rfl
  -- The closing bracket is not the first character, so there are two at least.
  obtain ⟨ch', rest, rfl⟩ :=
    List.exists_cons_of_ne_nil (List.ne_nil_of_mem (List.mem_of_ne_of_mem hne hmem))
  refine ⟨by simp, h.close, h.opening, fun w hw hfirst => h.operation w hw ?_⟩
  simp only [List.cons_append, List.cons_prefix_cons] at hfirst ⊢
  exact ⟨hfirst.1, hfirst.2.1, List.nil_prefix⟩

section Signs

variable {opened : Span} {bound : Nat} {s : OpenSet} {rest : List Char}

theorem readSet_missing (h : (c.skip free).rest = []) :
    readSet free opened (bound + 1) s c = refuse .classUnclosed opened := by
  simp only [readSet, h]

theorem readSet_close (h : (c.skip free).rest = ']' :: rest) :
    readSet free opened (bound + 1) s c = .ok (s.close, (c.skip free).next) := by
  simp only [readSet, h]
  rfl

theorem readSet_operation {w : Char × SetOperation} (hw : w ∈ setOperations)
    (h : (c.skip free).rest = w.1 :: w.1 :: rest) :
    readSet free opened (bound + 1) s c = readSet free opened bound
      (s.operator w.2 ((c.skip free).pos + 2)) (c.skip free).next.next := by
  simp only [setOperations, List.mem_cons, List.not_mem_nil, or_false] at hw
  rcases hw with rfl | rfl | rfl <;> simp only [readSet, h]

theorem readSet_item (h : StartsItem (c.skip free).rest) :
    readSet free opened (bound + 1) s c = readItem free opened (c.skip free) >>= fun r =>
      readSet free opened bound (s.push r.1) r.2 := by
  rw [readSet]
  split
  · exact (h.ne ‹_›).elim
  · rename_i hrest
    exact (h.close (by simp [hrest])).elim
  · rename_i hrest
    exact (h.opening (by simp [hrest])).elim
  · rename_i hrest
    exact (h.operation ('&', .intersection) (by simp [setOperations]) (by simp [hrest])).elim
  · rename_i hrest
    exact (h.operation ('-', .difference) (by simp [setOperations]) (by simp [hrest])).elim
  · rename_i hrest
    exact (h.operation ('~', .symmetricDifference) (by simp [setOperations])
      (by simp [hrest])).elim
  · rfl

end Signs

/-- A set within a set, or a named class, and what is behind it. -/
def readInner (free : Bool) (opened : Span) (bound : Nat) (s : OpenSet) (c : Cursor) :
    Except Fault (ClassTree × Cursor) :=
  match readAsciiClass c with
  | some (item, after) => readSet free opened bound (s.push item) after
  | none => do
    let (negated, inner, after) ← openBracket free c
    let (set, after) ← readSet free (after.spanFrom c.pos) bound inner after
    readSet free opened bound (s.push (.bracket (after.spanFrom c.pos) negated set)) after

theorem readSet_opening {opened : Span} {bound : Nat} {s : OpenSet} {rest : List Char}
    (h : (c.skip free).rest = '[' :: rest) :
    readSet free opened (bound + 1) s c = readInner free opened bound s (c.skip free) := by
  simp only [readSet, h]
  rfl

/-- A set is read the same, if so many steps are allowed, and it has a closing bracket. -/
def SetExtends (free : Bool) (q : List Char) (bound bound' : Nat) : Prop :=
  ∀ ⦃opened : Span⦄ ⦃s : OpenSet⦄ ⦃c c' : Cursor⦄ ⦃set : ClassTree⦄,
    readSet free opened bound s c = .ok (set, c') →
      ']' ∈ c.rest ∧ c'.rest <:+ c.rest ∧
        readSet free opened bound' s (c.extend q) = .ok (set, c'.extend q)

namespace SetExtends

variable {bound bound' : Nat} {opened : Span} {s : OpenSet} {set : ClassTree}

/-- What is read further on is read the same, and holds the closing bracket. -/
theorem behind (ih : SetExtends free q bound bound') {c₁ : Cursor}
    (hsuffix : c₁.rest <:+ c.rest) (h : readSet free opened bound s c₁ = .ok (set, c')) :
    ']' ∈ c.rest ∧ c'.rest <:+ c.rest ∧
      readSet free opened bound' s (c₁.extend q) = .ok (set, c'.extend q) := by
  obtain ⟨hclose, hrest, hset⟩ := ih h
  exact ⟨hsuffix.subset hclose, hrest.trans hsuffix, hset⟩

theorem inner (ih : SetExtends free q bound bound') (hne : c.rest ≠ [])
    (h : readInner free opened bound s c = .ok (set, c')) :
    ']' ∈ c.rest ∧ c'.rest <:+ c.rest ∧
      readInner free opened bound' s (c.extend q) = .ok (set, c'.extend q) := by
  rw [readInner] at h ⊢
  cases hascii : readAsciiClass c with
  | some r =>
    obtain ⟨item, after⟩ := r
    rw [hascii] at h
    have hset := ih.behind (rest_readAsciiClass_suffix hascii) h
    rw [readAsciiClass_extend hset.1, hascii]
    exact hset
  | none =>
    rw [hascii] at h
    obtain ⟨⟨negated, inner, after⟩, hopen, h⟩ := bind_eq_ok.1 h
    obtain ⟨⟨innerSet, stop⟩, hinner, h⟩ := bind_eq_ok.1 h
    obtain ⟨hmem, hstop, hinner'⟩ := ih hinner
    obtain ⟨hafter, hopen'⟩ := openBracket_extend (q := q) hne hopen (List.ne_nil_of_mem hmem)
    obtain ⟨hclose, hsuffix, hset⟩ :=
      ih.behind (hstop.trans (hafter.trans rest_next_suffix)) h
    refine ⟨hclose, hsuffix, ?_⟩
    rw [readAsciiClass_extend hclose, hascii]
    exact bind_eq_ok.2 ⟨_, hopen', bind_eq_ok.2 ⟨_, hinner', hset⟩⟩

theorem item (ih : SetExtends free q bound bound') (hne : c.rest ≠ [])
    (h : readItem free opened c >>= (fun r => readSet free opened bound (s.push r.1) r.2) =
      .ok (set, c')) :
    ']' ∈ c.rest ∧ c'.rest <:+ c.rest ∧
      readItem free opened (c.extend q) >>=
          (fun r => readSet free opened bound' (s.push r.1) r.2) =
        .ok (set, c'.extend q) := by
  obtain ⟨⟨item, after⟩, hitem, h⟩ := bind_eq_ok.1 h
  obtain ⟨hmem, -, -⟩ := ih h
  obtain ⟨hafter, hextend⟩ := readItem_extend (q := q) hne hitem hmem
  obtain ⟨hclose, hsuffix, hset⟩ := ih.behind (hafter.trans rest_next_suffix) h
  exact ⟨hclose, hsuffix, bind_eq_ok.2 ⟨_, hextend, hset⟩⟩

/-- One more step. -/
theorem succ (ih : SetExtends free q bound bound') :
    SetExtends free q (bound + 1) (bound' + 1) := by
  intro opened s c c' set h
  have hskip : (c.skip free).rest <:+ c.rest := rest_skip_suffix free c
  -- What stands behind the blanks decides, and the bracket is to be found there.
  suffices hgoal : ']' ∈ (c.skip free).rest ∧ c'.rest <:+ (c.skip free).rest ∧
      readSet free opened (bound' + 1) s (c.extend q) = .ok (set, c'.extend q) from
    ⟨hskip.subset hgoal.1, hgoal.2.1.trans hskip, hgoal.2.2⟩
  by_cases hne : (c.skip free).rest = []
  · rw [readSet_missing hne] at h
    cases h
  have hextend : (c.extend q).skip free = (c.skip free).extend q := skip_extend (.inl hne)
  have hcs : ((c.extend q).skip free).rest = (c.skip free).rest ++ q := by
    rw [hextend, rest_extend]
  have hnext : ((c.skip free).extend q).next = (c.skip free).next.extend q := next_extend hne
  have hsign := setSign (c.skip free).rest
  generalize hrest : (c.skip free).rest = cs at hsign hcs ⊢
  cases hsign with
  | missing => exact absurd hrest hne
  | close rest =>
    rw [readSet_close hrest] at h
    obtain ⟨rfl, rfl⟩ := Prod.mk.inj (Except.ok.inj h)
    refine ⟨List.mem_cons_self, hrest ▸ rest_next_suffix, ?_⟩
    rw [readSet_close hcs, hextend, hnext]
  | opening rest =>
    rw [readSet_opening hrest] at h
    rw [readSet_opening hcs, hextend, ← hrest]
    exact ih.inner hne h
  | operation w hw rest =>
    rw [readSet_operation hw hrest] at h
    have hnext' : (c.skip free).next.rest ≠ [] := by simp [next, hrest]
    rw [readSet_operation hw hcs, hextend, hnext, next_extend hnext', pos_extend, ← hrest]
    exact ih.behind (rest_next_suffix.trans rest_next_suffix) h
  | item hitem =>
    rw [readSet_item (hrest ▸ hitem)] at h
    obtain ⟨hclose, hsuffix, hset⟩ := ih.item hne h
    rw [hrest] at hclose hsuffix
    refine ⟨hclose, hsuffix, ?_⟩
    rw [readSet_item (hcs ▸ hitem.append hclose), hextend]
    exact hset

end SetExtends

/-- A set is read the same, however many more steps are allowed. -/
theorem readSet_extend {bound bound' : Nat} (hbound : bound ≤ bound') :
    SetExtends free q bound bound' := by
  induction bound generalizing bound' with
  | zero =>
    intro opened s c c' set h
    cases h
  | succ bound ih =>
    obtain ⟨bound', rfl⟩ : ∃ n, bound' = n + 1 := Nat.exists_eq_succ_of_ne_zero (by omega)
    exact (ih (by omega)).succ

/-- A class, which may be the last sign in any spacing. -/
theorem extends_bracket {free' : Bool} (hne : c.rest ≠ []) :
    Extends free' q c.next (readBracket free c) (readBracket free (c.extend q)) := by
  intro t stop heq _
  rw [readBracket] at heq ⊢
  obtain ⟨⟨negated, s, after⟩, hopen, heq⟩ := bind_eq_ok.1 heq
  obtain ⟨⟨set, c'⟩, hset, heq⟩ := bind_eq_ok.1 heq
  obtain ⟨rfl, rfl⟩ := Prod.mk.inj (Except.ok.inj heq)
  have hbound : after.rest.length + 1 ≤ (after.extend q).rest.length + 1 := by simp
  obtain ⟨hmem, hstop, hset'⟩ := readSet_extend hbound hset
  obtain ⟨hafter, hopen'⟩ := openBracket_extend (q := q) hne hopen (List.ne_nil_of_mem hmem)
  refine ⟨hstop.trans hafter, ?_⟩
  rw [hopen']
  show (readSet free (after.spanFrom c.pos) ((after.extend q).rest.length + 1) s
    (after.extend q) >>= _) = _
  rw [hset']
  rfl

end PatternAssembly
