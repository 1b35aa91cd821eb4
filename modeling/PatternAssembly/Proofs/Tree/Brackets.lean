import PatternAssembly.Proofs.Tree.Depth

/-!
# What classes in square brackets mean

A class of characters and ranges is a unit, and means a character that one of them holds. Only
characters that mean nothing between brackets are considered.

## Main definitions

* `ClassItem`: a character or a range as written, with `ClassItem.set`

## Main statements

* `readsAsUnit_bracket`: the meaning of a class
-/
namespace PatternAssembly

/-- The character means nothing between square brackets. -/
def isPlain (c : Char) : Bool := !(['\\', '[', ']', '^', '&', '-', '~'].contains c)

/-- What may stand in a class. -/
inductive ClassItem where
  | char (c : Char)
  | range (lo hi : Char)

namespace ClassItem

/-- How the item is written. -/
def written : ClassItem → List Char
  | char c => [c]
  | range lo hi => [lo, '-', hi]

/-- The item is written with characters that mean nothing, and its range is in order. -/
def Plain : ClassItem → Prop
  | char c => isPlain c = true
  | range lo hi => isPlain lo = true ∧ isPlain hi = true ∧ lo.toNat ≤ hi.toNat

instance : DecidablePred Plain
  | char c => inferInstanceAs (Decidable (isPlain c = true))
  | range lo hi =>
    inferInstanceAs (Decidable (isPlain lo = true ∧ isPlain hi = true ∧ lo.toNat ≤ hi.toNat))

/-- The characters of the item. -/
def set : ClassItem → CharSet
  | char c => .single c
  | range lo hi => .range lo hi

theorem exists_written {i : ClassItem} (h : i.Plain) :
    ∃ c cs, i.written = c :: cs ∧ isPlain c = true ∧ i.set.has c = true := by
  cases i with
  | char c => exact ⟨c, [], rfl, h, by simp [set]⟩
  | range lo hi => exact ⟨lo, ['-', hi], rfl, h.1, by simpa [set] using h.2.2⟩

end ClassItem

variable {m : Modes} {c : Cursor} {rest : List Char} {items : List ClassItem} {d : Char}

theorem readClassAtom_plain (hd : isPlain d = true) (hc : c.rest = d :: rest) :
    readClassAtom false c =
      .ok (.literal { span := c.charSpan, char := d, isByte := false },
        ⟨c.pos + 1, rest⟩) := by
  have hnext : c.next = ⟨c.pos + 1, rest⟩ := by simp [Cursor.next, hc]
  have hbackslash : d ≠ '\\' := by
    rintro rfl
    exact absurd hd (by decide)
  rw [readClassAtom_eq_literal hbackslash hc, hnext]

theorem resolveInClass_unicode (hm : m.unicode = true) (l : Literal) :
    l.resolveInClass m = .ok l.char := by simp [Literal.resolveInClass, Literal.resolve, hm]

/-- A sign without a hyphen after it is an item. -/
theorem readItem_alone {a : Atom} {c' : Cursor} (hread : readClassAtom false c = .ok (a, c'))
    (hc' : c'.rest = d :: rest) (hd : d ≠ '-') (opened : Span) :
    readItem false opened c = a.toItem.map fun item => (item, c') := by
  have hskip : c'.skip false = c' := rfl
  simp only [readItem, hread, bind, Except.bind, hskip, hc']
  rw [if_pos (by simp [hd])]
  cases a.toItem <;> rfl

/-- Two signs with a hyphen between them are a range, unless the second one ends the class. -/
theorem readItem_pair {a b : Atom} {c' c'' : Cursor} {e : Char}
    (hread : readClassAtom false c = .ok (a, c')) (hc' : c'.rest = '-' :: e :: rest)
    (he : isPlain e = true) (hread' : readClassAtom false c'.next = .ok (b, c''))
    (opened : Span) :
    readItem false opened c = (do
      let lo ← a.toBoundary
      let hi ← b.toBoundary
      let span : Span := ⟨a.span.start, b.span.stop⟩
      if hi.char < lo.char then refuse .classRangeInvalid span
      else pure (.range span lo hi, c'')) := by
  have hskip : c'.skip false = c' := rfl
  have hadvance : c'.advance false = c'.next := rfl
  have hnext : c'.next.rest = e :: rest := by simp [Cursor.next, hc']
  have hpast : (c'.peekPast false == some ']' || c'.peekPast false == some '-') = false := by
    rw [Cursor.peekPast, hnext]
    by_contra h
    rw [Bool.not_eq_false, Bool.or_eq_true, beq_iff_eq, beq_iff_eq] at h
    rcases h with h | h <;>
    · obtain rfl := Option.some.inj h
      exact absurd he (by decide)
  have hne : c'.next.rest.isEmpty = false := by simp [hnext]
  simp only [readItem, hread, bind, Except.bind, hskip, hc', hadvance, hne, hread']
  rw [if_neg (by simpa [Bool.or_assoc] using hpast)]
  rfl

/-- The tree of an item stands for its set, and holds no other items. -/
structure ClassTree.StandsFor (m : Modes) (t : ClassTree) (i : ClassItem) : Prop where
  toSet : t.toSet m = .ok i.set
  isLeaf : ∀ room, t.tooDeep? room = none

/-- An item is read as the tree of its set. -/
theorem readItem_plain (hm : m.unicode = true) {i : ClassItem} (hi : i.Plain) (hd : d ≠ '-')
    (opened : Span) (hc : c.rest = i.written ++ d :: rest) :
    ∃ t c', readItem false opened c = .ok (t, c') ∧ c'.rest = d :: rest ∧
      t.StandsFor m i := by
  cases i with
  | char e =>
    have hread : readItem false opened c =
        .ok (.literal { span := c.charSpan, char := e, isByte := false },
          ⟨c.pos + 1, d :: rest⟩) := readItem_alone (readClassAtom_plain hi hc) rfl hd opened
    refine ⟨_, _, hread, rfl, ?_, fun room => by rw [ClassTree.tooDeep?]⟩
    rw [ClassTree.toSet, resolveInClass_unicode hm]
    rfl
  | range lo hi' =>
    obtain ⟨hlo, hhi, hle⟩ := hi
    have hsecond := readClassAtom_plain (c := ⟨c.pos + 2, hi' :: d :: rest⟩) hhi rfl
    have hpair := readItem_pair (readClassAtom_plain hlo hc) rfl hhi hsecond opened
    have hread : readItem false opened c =
        .ok (.range ⟨c.pos, c.pos + 3⟩
          { span := ⟨c.pos, c.pos + 1⟩, char := lo, isByte := false }
          { span := ⟨c.pos + 2, c.pos + 3⟩, char := hi', isByte := false },
          ⟨c.pos + 3, d :: rest⟩) := by
      rw [hpair]
      show (if hi' < lo then _ else _) = _
      rw [if_neg (show ¬ hi' < lo from Nat.not_lt.2 hle)]
      rfl
    refine ⟨_, _, hread, rfl, ?_, fun room => by rw [ClassTree.tooDeep?]⟩
    rw [ClassTree.toSet, resolveInClass_unicode hm, resolveInClass_unicode hm]
    rfl

/-- The trees stand for the sets of the items. -/
def StandFor (m : Modes) (ts : List ClassTree) (items : List ClassItem) : Prop :=
  List.Forall₂ (ClassTree.StandsFor m) ts items

theorem exists_head_items (rest : List Char) (hplain : ∀ i ∈ items, i.Plain) :
    ∃ d cs, items.flatMap ClassItem.written ++ ']' :: rest = d :: cs ∧ d ≠ '-' := by
  cases items with
  | nil => exact ⟨']', rest, rfl, by decide⟩
  | cons i items =>
    obtain ⟨d, cs, hi, hd, -⟩ := ClassItem.exists_written (hplain i List.mem_cons_self)
    refine ⟨d, cs ++ (items.flatMap ClassItem.written ++ ']' :: rest), by simp [hi], ?_⟩
    rintro rfl
    exact absurd hd (by decide)

/-- A plain character between brackets starts an item. -/
theorem readSet_plain (hd : isPlain d = true) (hc : c.rest = d :: rest) (opened : Span)
    (bound : Nat) (s : OpenSet) :
    readSet false opened (bound + 1) s c = (do
      let (item, after) ← readItem false opened c
      readSet false opened bound (s.push item) after) := by
  have hskip : c.skip false = c := rfl
  rw [readSet, hskip, hc]
  split
  case _ h => cases h
  case _ h | _ h | _ h | _ h | _ h =>
    obtain ⟨rfl, -⟩ := List.cons.inj h
    exact absurd hd (by decide)
  case _ => rfl

/-- Items are read up to the closing bracket. -/
theorem readSet_items (hm : m.unicode = true) (hplain : ∀ i ∈ items, i.Plain) (opened : Span)
    (hc : c.rest = items.flatMap ClassItem.written ++ ']' :: rest) {bound : Nat}
    (hbound : items.length < bound) (s : OpenSet) :
    ∃ ts c', readSet false opened bound s c =
        .ok (({ s with items := ts.reverse ++ s.items } : OpenSet).close, c') ∧
      c'.rest = rest ∧ StandFor m ts items := by
  induction items generalizing bound c s with
  | nil =>
    obtain ⟨bound, rfl⟩ : ∃ n, bound = n + 1 := ⟨bound - 1, by simp at hbound; omega⟩
    refine ⟨[], c.next, ?_, by simp [Cursor.next, hc], .nil⟩
    have hskip : c.skip false = c := rfl
    rw [readSet, hskip, hc]
    rfl
  | cons i items ih =>
    obtain ⟨bound, rfl⟩ : ∃ n, bound = n + 1 := ⟨bound - 1, by simp at hbound; omega⟩
    have hi := hplain i List.mem_cons_self
    have hitems : ∀ j ∈ items, j.Plain := fun j hj => hplain j (List.mem_cons_of_mem _ hj)
    obtain ⟨e, cs, hwritten, he, -⟩ := ClassItem.exists_written hi
    obtain ⟨d, ds, hnext, hd⟩ := exists_head_items rest hitems
    rw [List.flatMap_cons, List.append_assoc] at hc
    obtain ⟨t, c₁, hread, hc₁, ht⟩ := readItem_plain hm hi hd opened (hnext ▸ hc)
    obtain ⟨ts, c₂, hset, hc₂, hts⟩ :=
      ih hitems (hc₁.trans hnext.symm) (by simpa using hbound) (s.push t)
    refine ⟨t :: ts, c₂, ?_, hc₂, .cons ht hts⟩
    rw [readSet_plain he (by rw [hc, hwritten]; rfl), hread]
    show readSet false opened bound (s.push t) c₁ = _
    rw [hset]
    simp [OpenSet.push]

/-- A class is negated by a circumflex at its start. -/
def circumflex (negated : Bool) : List Char := if negated then ['^'] else []

/-- The start of a class is read, up to its first item. -/
theorem openBracket_plain (hd : isPlain d = true) (negated : Bool)
    (hc : c.rest = '[' :: (circumflex negated ++ d :: rest)) :
    ∃ pos c', openBracket false c = .ok (negated, { start := pos }, c') ∧
      c'.rest = d :: rest := by
  have hhyphen : d ≠ '-' := by rintro rfl; exact absurd hd (by decide)
  have hcaret : d ≠ '^' := by rintro rfl; exact absurd hd (by decide)
  have hclose : d ≠ ']' := by rintro rfl; exact absurd hd (by decide)
  obtain ⟨pos, _⟩ := c
  subst hc
  have hhyphens (start bound : Nat) (s : OpenSet) (pos : Nat) :
      readHyphens false start bound s ⟨pos, d :: rest⟩ = .ok (s, ⟨pos, d :: rest⟩) := by
    cases bound with
    | zero => rfl
    | succ bound =>
      rw [readHyphens]
      simp [hhyphen]
  cases negated with
  | false =>
    refine ⟨pos + 1, ⟨pos + 1, d :: rest⟩, ?_, rfl⟩
    simp [openBracket, circumflex, Cursor.advance, Cursor.next, Cursor.skip, hhyphens,
      bind, Except.bind, pure, Except.pure, hclose, beq_eq_false_iff_ne.2 hcaret]
  | true =>
    refine ⟨pos + 2, ⟨pos + 2, d :: rest⟩, ?_, rfl⟩
    simp [openBracket, circumflex, Cursor.advance, Cursor.next, Cursor.skip, hhyphens,
      bind, Except.bind, pure, Except.pure, hclose]

theorem close_eq {s : OpenSet} (h : s.pending = none) :
    ∃ span, s.close = ClassTree.ofItems span s.items.reverse :=
  ⟨_, by rw [OpenSet.close, h]⟩

theorem length_le_length_written (hplain : ∀ i ∈ items, i.Plain) :
    items.length ≤ (items.flatMap ClassItem.written).length := by
  induction items with
  | nil => simp
  | cons i items ih =>
    obtain ⟨d, cs, hi, -⟩ := ClassItem.exists_written (hplain i List.mem_cons_self)
    have := ih fun j hj => hplain j (List.mem_cons_of_mem _ hj)
    rw [List.flatMap_cons, hi, List.length_append, List.length_cons, List.length_cons]
    omega

/-- The trees of items side by side stand for what one of the items holds. -/
theorem toSet_ofItems {ts : List ClassTree} (h : StandFor m ts items) (s : Span) :
    ∃ chars, (ClassTree.ofItems s ts).toSet m = .ok chars ∧
      ∀ n, chars.hasCode n = (CharSet.unions (items.map ClassItem.set)).hasCode n := by
  have hunion : ∃ chars, ClassTree.toUnion m ts = .ok chars ∧
      ∀ n, chars.hasCode n = (CharSet.unions (items.map ClassItem.set)).hasCode n := by
    induction h with
    | nil => exact ⟨.empty, rfl, fun n => rfl⟩
    | @cons t i ts items ht _ ih =>
      obtain ⟨chars, hchars, hhas⟩ := ih
      refine ⟨.union i.set chars, ?_, fun n => by simp [hhas]⟩
      rw [ClassTree.toUnion, ht.toSet, hchars]
      rfl
  fun_cases ClassTree.ofItems s ts with
  | case1 =>
    obtain rfl := List.forall₂_nil_left_iff.1 h
    exact ⟨.empty, rfl, fun n => rfl⟩
  | case2 t =>
    obtain ⟨i, _, ht, hnil, rfl⟩ := List.forall₂_cons_left_iff.1 h
    obtain rfl := List.forall₂_nil_left_iff.1 hnil
    exact ⟨i.set, ht.toSet, fun n => by simp⟩
  | case3 => simpa only [ClassTree.toSet] using hunion

/-! ## Classes -/

theorem hasCode_foldSet_congr {s t : CharSet} (h : ∀ n, s.hasCode n = t.hasCode n) (n : Nat) :
    (m.foldSet s).hasCode n = (m.foldSet t).hasCode n := by
  have heq : s.hasCode = t.hasCode := funext h
  rw [Modes.foldSet, Modes.foldSet]
  split <;> simp [heq]

theorem Modes.has_foldSet {s : CharSet} {d : Char} (h : s.has d = true) :
    (m.foldSet s).has d = true := by
  rw [Modes.foldSet]
  split
  · rw [CharSet.has, CharSet.hasCode_closure, List.any_eq_true]
    exact ⟨d.toNat, CharSet.self_mem_variants _ _, h⟩
  · exact h

theorem Meaning.char_congr {s t : CharSet} (h : ∀ d, s.has d = t.has d) :
    Meaning.char s = Meaning.char t :=
  Meaning.ext fun text i j => by simp [Meaning.char, h]

theorem has_classSet (negated : Bool) (s : CharSet) (d : Char) :
    (Tree.classSet negated s).has d = (negated ^^ s.has d) := by
  cases negated <;> simp [Tree.classSet]

/-- The characters of a class under the modes. -/
def Modes.classSet (m : Modes) (negated : Bool) (items : List ClassItem) : CharSet :=
  Tree.classSet negated (m.foldSet (.unions (items.map ClassItem.set)))

/-- A set with the code points of the items makes the same class. -/
theorem Modes.has_classSet_congr {chars : CharSet} (negated : Bool)
    (h : ∀ n, chars.hasCode n = (CharSet.unions (items.map ClassItem.set)).hasCode n)
    (d : Char) :
    (Tree.classSet negated (m.foldSet chars)).has d = (m.classSet negated items).has d := by
  rw [Modes.classSet, PatternAssembly.has_classSet, PatternAssembly.has_classSet, CharSet.has,
    CharSet.has, hasCode_foldSet_congr h]

/-- The text of a class. -/
def classText (negated : Bool) (items : List ClassItem) : List Char :=
  '[' :: (circumflex negated ++ (items.flatMap ClassItem.written ++ [']']))

/-- A class is read as the trees of its items. -/
theorem readBracket_items (hm : m.unicode = true) (negated : Bool) (hne : items ≠ [])
    (hplain : ∀ i ∈ items, i.Plain) (hc : c.rest = classText negated items ++ rest) :
    ∃ ts span c', readBracket false c =
        .ok (.bracket (c'.spanFrom c.pos) negated (.ofItems span ts), c') ∧
      c'.rest = rest ∧ StandFor m ts items := by
  obtain ⟨d, cs, hcs, hd⟩ : ∃ d cs, items.flatMap ClassItem.written = d :: cs ∧
      isPlain d = true := by
    obtain ⟨i, items, rfl⟩ := List.exists_cons_of_ne_nil hne
    obtain ⟨d, cs, hi, hd, -⟩ := ClassItem.exists_written (hplain i List.mem_cons_self)
    exact ⟨d, cs ++ items.flatMap ClassItem.written, by simp [hi], hd⟩
  have hrest : c.rest = '[' :: (circumflex negated ++ d :: (cs ++ ']' :: rest)) := by
    rw [hc]
    simp [classText, hcs]
  obtain ⟨pos, c₁, hopen, hc₁⟩ := openBracket_plain hd negated hrest
  replace hc₁ : c₁.rest = items.flatMap ClassItem.written ++ ']' :: rest := by
    rw [hc₁, hcs]; rfl
  have hbound : items.length < c₁.rest.length + 1 := by
    have := length_le_length_written hplain
    rw [hc₁, List.length_append]
    omega
  obtain ⟨ts, c₂, hset, hc₂, hts⟩ :=
    readSet_items hm hplain (c₁.spanFrom c.pos) hc₁ hbound { start := pos }
  obtain ⟨span, hclose⟩ :=
    close_eq (s := { start := pos, items := ts.reverse ++ [] }) rfl
  rw [List.append_nil, List.reverse_reverse] at hclose
  refine ⟨ts, span, c₂, ?_, hc₂, hts⟩
  rw [readBracket, hopen]
  show (readSet false _ _ _ _ >>= _) = _
  rw [hset, List.append_nil, hclose]
  rfl

/-- A class is one sign, which becomes the trees of its items. -/
theorem step_classText (hm : m.unicode = true) {negated : Bool} (hne : items ≠ [])
    (hplain : ∀ i ∈ items, i.Plain) {r : Reader}
    (hat : r.At (classText negated items ++ rest)) :
    ∃ ts span c, r.step =
        .ok (r.push (.bracket (c.spanFrom r.cursor.pos) negated (.ofItems span ts)) c) ∧
      c.rest = rest ∧ StandFor m ts items := by
  obtain ⟨ts, span, c, hread, hc, hts⟩ := readBracket_items hm negated hne hplain hat.rest
  refine ⟨ts, span, c, ?_, hc, hts⟩
  rw [Reader.step, hat.rest]
  show (readBracket r.free r.cursor >>= _) = _
  rw [hat.free, hread]
  rfl

/-- A class needs a level for the brackets and one for its items, however many these are. -/
theorem StandFor.within_bracket {ts : List ClassTree} (h : StandFor m ts items)
    (s span : Span) (negated : Bool) :
    (Tree.bracket s negated (.ofItems span ts)).Within 2 := by
  have hany (room : Nat) : ClassTree.anyTooDeep? room ts = none := by
    induction h with
    | nil => rw [ClassTree.anyTooDeep?]
    | cons ht _ ih => rw [ClassTree.anyTooDeep?, ht.isLeaf room, ih]; rfl
  intro room
  rw [Tree.tooDeep?]
  fun_cases ClassTree.ofItems span ts with
  | case1 => rw [ClassTree.tooDeep?]
  | case2 t =>
    obtain ⟨i, _, ht, -, -⟩ := List.forall₂_cons_left_iff.1 h
    exact ht.isLeaf (room + 1)
  | case3 => rw [ClassTree.tooDeep?, hany]

/-- A class means a character that one of its items holds, or with a circumflex any other
one. -/
theorem readsAsUnit_bracket (hm : m.unicode = true) {negated : Bool} (hne : items ≠ [])
    (hplain : ∀ i ∈ items, i.Plain) (hfilled : ∃ d, (m.classSet negated items).has d = true) :
    ReadsAsUnit m (classText negated items) (.char (m.classSet negated items)) := by
  apply readsAsUnit_of_step ⟨List.cons_ne_nil _ _, by simp⟩
  intro r rest hat
  obtain ⟨ts, span, c, hstep, hc, hts⟩ := step_classText hm hne hplain hat
  obtain ⟨chars, hchars, hhas⟩ := toSet_ofItems hts span
  have heq := Modes.has_classSet_congr (m := m) negated hhas
  rw [← Meaning.char_congr heq]
  exact ⟨_, c, hstep, hc, rfl, Tree.means_bracket hm hchars
    (hfilled.imp fun d hd => (heq d).trans hd)⟩

/-- A class without a circumflex is never empty. -/
theorem filled_classSet (hne : items ≠ []) (hplain : ∀ i ∈ items, i.Plain) :
    ∃ d, (m.classSet false items).has d = true := by
  obtain ⟨i, items, rfl⟩ := List.exists_cons_of_ne_nil hne
  obtain ⟨d, cs, -, -, hd⟩ := ClassItem.exists_written (hplain i List.mem_cons_self)
  exact ⟨d, Modes.has_foldSet (by simpa [CharSet.has] using .inl hd)⟩

end PatternAssembly
