import PatternAssembly.Proofs.Tree.Reading

/-!
# What the signs of a pattern mean

Most signs are units: characters, with a backslash where they have a meaning, the dot, the
classes of one letter, and the anchors.

## Main statements

* `readsAsUnit_char`, `readsAsUnit_escaped`: characters that stand for themselves
* `readsAsUnit_shorthand`, `readsAsUnit_dot`: characters of a kind
* `readsAsUnit_lineStart`, `readsAsPhrase_boundary` and the like: places
* `readsAsUnit_group`: alternatives in parentheses
-/
namespace PatternAssembly

variable {m : Modes} {cs rest : List Char} {S : Meaning} {r : Reader} {ch : Char} {c : Cursor}

theorem reads_push {t : Tree} (hat : r.At (cs ++ rest)) (hne : cs ≠ [])
    (hstep : r.step = .ok (r.push t c)) (hc : c.rest = rest) : r.Reads (r.push t c) := by
  refine ⟨hat.free, hstep, ?_⟩
  have hlength : 0 < cs.length := List.length_pos_iff.2 hne
  rw [hat.rest, List.length_append, ← hc]
  show c.rest.length < _
  omega

/-- A text that is read in one step as one part. -/
theorem readsAsUnit_of_step (hcalm : cs ≠ [] ∧ Calm cs)
    (h : ∀ (r : Reader) (rest : List Char), r.At (cs ++ rest) → ∃ t c,
      r.step = .ok (r.push t c) ∧ c.rest = rest ∧ t.isRepeatable = true ∧ t.Means m S) :
    ReadsAsUnit m cs S := by
  refine ⟨hcalm, ?_⟩
  intro r rest hat
  obtain ⟨t, c, hstep, hc, hrepeatable, ht⟩ := h r rest hat
  exact ⟨t, r.push t c, (reads_push hat hcalm.1 hstep hc).reaches,
    Reader.grown_push hat.free hc, hrepeatable, ht⟩

/-! ## Signs of one part -/

/-- The characters that open, close, separate or repeat. -/
def isStructural (c : Char) : Bool := ['(', ')', '|', '[', '\x7b', '?', '*', '+'].contains c

theorem step_of_atom (hat : r.At (ch :: rest)) (hch : isStructural ch = false) {a : Atom}
    (hread : Atom.read false r.cursor = .ok (a, c)) : r.step = .ok (r.push a.toTree c) := by
  rw [Reader.step, hat.rest]
  split
  case _ h => cases h
  case _ h | _ h | _ h | _ h | _ h =>
    obtain ⟨rfl, -⟩ := List.cons.inj h
    exact absurd hch (by decide)
  case _ h =>
    obtain ⟨rfl, -⟩ := List.cons.inj h
    have hne : ¬ (ch = '?' ∨ ch = '*' ∨ ch = '+') := by
      rintro (rfl | rfl | rfl) <;> exact absurd hch (by decide)
    rw [if_neg hne, hat.free, hread]
    rfl

theorem calm_of_not_structural (h : isStructural ch = false) : Calm (ch :: cs) := by
  rw [calm_cons]
  refine ⟨?_, ?_, ?_, ?_⟩ <;> rintro rfl <;> exact absurd h (by decide)

/-- A text that is read as a sign of one part. -/
theorem readsAsUnit_of_atom (hch : isStructural ch = false)
    (h : ∀ (c : Cursor) (rest : List Char), c.rest = ch :: (cs ++ rest) → ∃ a c',
      Atom.read false c = .ok (a, c') ∧ c'.rest = rest ∧ a.toTree.Means m S) :
    ReadsAsUnit m (ch :: cs) S := by
  apply readsAsUnit_of_step ⟨List.cons_ne_nil _ _, calm_of_not_structural hch⟩
  intro r rest hat
  obtain ⟨a, c', hread, hc', ha⟩ := h r.cursor rest hat.rest
  exact ⟨a.toTree, c', step_of_atom hat hch hread, hc', by cases a <;> rfl, ha⟩

/-- The characters that are no literals by themselves. -/
def isSign (c : Char) : Bool := isStructural c || ['\\', '.', '^', '$'].contains c

/-- A list of signs of one kind has no character of another kind. -/
theorem not_contains_of_all {p : Char → Bool} {signs : List Char}
    (hsigns : signs.all p = true) (h : p ch = false) : signs.contains ch = false := by
  rw [← Bool.not_eq_true, List.contains_iff_mem]
  intro hmem
  rw [List.all_eq_true.1 hsigns ch hmem] at h
  cases h

theorem not_sign_of_not_meta (h : isMeta ch = false) : isSign ch = false :=
  Bool.or_eq_false_iff.2
    ⟨not_contains_of_all (p := isMeta) (by decide) h,
      not_contains_of_all (p := isMeta) (by decide) h⟩

/-- A sign that is one character, which is no backslash. -/
def Atom.ofChar (s : Span) (ch : Char) : Atom :=
  if ch = '.' then .dot s
  else if ch = '^' then .assertion s .lineStart
  else if ch = '$' then .assertion s .lineEnd
  else .literal { span := s, char := ch, isByte := false }

theorem Atom.read_eq_ofChar (free : Bool) (hch : ch ≠ '\\') (hc : c.rest = ch :: rest) :
    Atom.read free c = .ok (.ofChar c.charSpan ch, c.next) := by
  rw [Atom.read, hc]
  split
  case _ heq => cases heq
  case _ heq => exact absurd (List.cons.inj heq).1 hch
  case _ heq | _ heq | _ heq =>
    obtain ⟨rfl, -⟩ := List.cons.inj heq
    rfl
  case _ hdot hstart hend heq =>
    obtain ⟨rfl, -⟩ := List.cons.inj heq
    rw [ofChar, if_neg hdot, if_neg hstart, if_neg hend]

/-- Between square brackets such a character is always meant for itself. -/
theorem readClassAtom_eq_literal {free : Bool} (hch : ch ≠ '\\') (hc : c.rest = ch :: rest) :
    readClassAtom free c =
      .ok (.literal { span := c.charSpan, char := ch, isByte := false }, c.next) := by
  rw [readClassAtom, hc]
  split
  case _ heq => exact absurd (List.cons.inj heq).1 hch
  case _ heq =>
    obtain ⟨rfl, -⟩ := List.cons.inj heq
    rfl
  case _ heq => cases heq

theorem read_char (h : isSign ch = false) (hc : c.rest = ch :: rest) :
    Atom.read false c = .ok (.literal { span := c.charSpan, char := ch, isByte := false },
      c.next) := by
  obtain ⟨-, hsign⟩ := Bool.or_eq_false_iff.1 h
  simp only [List.contains_cons, List.contains_nil, Bool.or_false, Bool.or_eq_false_iff,
    beq_eq_false_iff_ne] at hsign
  obtain ⟨hbackslash, hdot, hstart, hend⟩ := hsign
  rw [Atom.read_eq_ofChar _ hbackslash hc, Atom.ofChar, if_neg hdot, if_neg hstart,
    if_neg hend]

/-- A character without a meaning of its own stands for itself. -/
theorem readsAsUnit_char (h : isSign ch = false) :
    ReadsAsUnit m [ch] (.char (m.charSet ch)) := by
  apply readsAsUnit_of_atom (Bool.or_eq_false_iff.1 h).1
  intro c rest hc
  exact ⟨_, c.next, read_char h hc, by simp [Cursor.next, hc], Tree.means_literal ch⟩

theorem readsAsUnit_dot (hm : m.unicode = true) : ReadsAsUnit m ['.'] (.char m.dotSet) := by
  apply readsAsUnit_of_atom (by decide)
  intro c rest hc
  exact ⟨.dot c.charSpan, c.next, by simp [Atom.read, hc], by simp [Cursor.next, hc],
    Tree.means_dot hm⟩

theorem readsAsUnit_lineStart : ReadsAsUnit m ['^'] (.place (m.look .lineStart)) := by
  apply readsAsUnit_of_atom (by decide)
  intro c rest hc
  exact ⟨.assertion c.charSpan .lineStart, c.next, by simp [Atom.read, hc],
    by simp [Cursor.next, hc], Tree.means_assertion _⟩

theorem readsAsUnit_lineEnd : ReadsAsUnit m ['$'] (.place (m.look .lineEnd)) := by
  apply readsAsUnit_of_atom (by decide)
  intro c rest hc
  exact ⟨.assertion c.charSpan .lineEnd, c.next, by simp [Atom.read, hc],
    by simp [Cursor.next, hc], Tree.means_assertion _⟩

/-! ## Escapes -/

/-- The letters after a backslash that more than one character belongs to. -/
def startsLongEscape (c : Char) : Bool := ['x', 'u', 'U', 'p', 'P', 'b'].contains c

/-- A backslash and a letter that nothing else belongs to. -/
theorem readEscape_short (hc : c.rest = '\\' :: ch :: rest) (hdigit : ¬ ('0' ≤ ch ∧ ch ≤ '9'))
    (hlong : startsLongEscape ch = false) :
    readEscape false c =
      let span : Span := ⟨c.pos, c.pos + 2⟩
      if isEscapable ch then .ok (.literal { span, char := ch, isByte := false }, c.next.next)
      else match controlEscape ch, shorthandEscape ch, placeEscape ch with
        | some control, _, _ =>
          .ok (.literal { span, char := control, isByte := false }, c.next.next)
        | _, some (kind, negated), _ => .ok (.shorthand span kind negated, c.next.next)
        | _, _, some kind => .ok (.assertion span kind, c.next.next)
        | none, none, none => refuse .escapeUnrecognized span := by
  have hnext : c.next = ⟨c.pos + 1, ch :: rest⟩ := by simp [Cursor.next, hc]
  have hhex : ¬ (ch = 'x' ∨ ch = 'u' ∨ ch = 'U') := by
    rintro (rfl | rfl | rfl) <;> exact absurd hlong (by decide)
  have hproperty : ¬ (ch = 'p' ∨ ch = 'P') := by
    rintro (rfl | rfl) <;> exact absurd hlong (by decide)
  have hboundary : ¬ ch = 'b' := by
    rintro rfl
    exact absurd hlong (by decide)
  rw [readEscape, hnext]
  refine (if_neg hdigit).trans ((if_neg hhex).trans ((if_neg hproperty).trans ?_))
  exact if_neg hboundary

theorem read_escaped (h : isMeta ch = true) (hc : c.rest = '\\' :: ch :: rest) :
    Atom.read false c =
      .ok (.literal { span := ⟨c.pos, c.pos + 2⟩, char := ch, isByte := false },
        c.next.next) := by
  rw [isMeta, List.contains_iff_mem] at h
  have hall : ['\\', '.', '+', '*', '?', '(', ')', '|', '[', ']', '\x7b', '\x7d', '^', '$',
      '#', '&', '-', '~'].all fun d => ¬ ('0' ≤ d ∧ d ≤ '9') ∧ startsLongEscape d = false ∧
      isEscapable d = true := by decide
  obtain ⟨hdigit, hlong, hescapable⟩ := of_decide_eq_true (List.all_eq_true.1 hall ch h)
  rw [Atom.read, hc, readEscape_short hc hdigit hlong, if_pos hescapable]
  rfl

/-- A backslash takes the meaning away from a character. -/
theorem readsAsUnit_escaped (h : isMeta ch = true) :
    ReadsAsUnit m ['\\', ch] (.char (m.charSet ch)) := by
  apply readsAsUnit_of_atom (by decide)
  intro c rest hc
  exact ⟨_, c.next.next, read_escaped h hc, by simp [Cursor.next, hc], Tree.means_literal ch⟩

/-- The letter of a class after a backslash. -/
def shorthandLetter : Shorthand → Bool → Char
  | .digit, false => 'd'
  | .digit, true => 'D'
  | .blank, false => 's'
  | .blank, true => 'S'
  | .word, false => 'w'
  | .word, true => 'W'

theorem filled_shorthand (kind : Shorthand) (negated : Bool) :
    ∃ c, (Tree.classSet negated (kind.set true)).has c = true := by
  cases negated with
  | false =>
    cases kind with
    | digit => exact ⟨'0', by decide +kernel⟩
    | blank => exact ⟨' ', by decide +kernel⟩
    | word => exact ⟨'a', by decide +kernel⟩
  | true =>
    refine ⟨'!', ?_⟩
    rw [Tree.classSet, if_pos rfl, CharSet.has_compl]
    cases kind <;> decide +kernel

theorem readsAsUnit_shorthand (hm : m.unicode = true) (kind : Shorthand) (negated : Bool) :
    ReadsAsUnit m ['\\', shorthandLetter kind negated]
      (.char (Tree.classSet negated (kind.set true))) := by
  apply readsAsUnit_of_atom (by decide)
  intro c rest hc
  refine ⟨.shorthand ⟨c.pos, c.pos + 2⟩ kind negated, c.next.next, ?_,
    by simp [Cursor.next, hc],
    Tree.means_shorthand hm kind negated (filled_shorthand kind negated)⟩
  rw [Atom.read, hc]
  cases kind <;> cases negated <;> rw [readEscape_short hc (by decide) (by decide)] <;> rfl

theorem readsAsUnit_notBoundary :
    ReadsAsUnit m ['\\', 'B'] (.place (m.look .notWordBoundary)) := by
  apply readsAsUnit_of_atom (by decide)
  intro c rest hc
  refine ⟨.assertion ⟨c.pos, c.pos + 2⟩ .notWordBoundary, c.next.next, ?_,
    by simp [Cursor.next, hc], Tree.means_assertion _⟩
  rw [Atom.read, hc, readEscape_short hc (by decide) (by decide)]
  rfl

/-- A brace after a word boundary would belong to it, so it is no unit. -/
theorem readsAsPhrase_boundary :
    ReadsAsPhrase m ['\\', 'b'] (.place (m.look .wordBoundary)) := by
  refine ⟨by simp, ?_⟩
  intro r rest hrest hat
  have hnext : r.cursor.next = ⟨r.cursor.pos + 1, 'b' :: rest⟩ := by
    simp [Cursor.next, hat.rest]
  have hbrace (rest' : List Char) : rest ≠ '\x7b' :: rest' := by
    rintro rfl
    exact (calm_cons.1 hrest).2.2.2 rfl
  have hboundary (start : Nat) :
      readBoundary false start ⟨r.cursor.pos + 2, rest⟩ =
        .ok (.wordBoundary, ⟨r.cursor.pos + 2, rest⟩) := by
    rw [readBoundary]
    split
    case _ rest' heq => exact absurd heq (hbrace rest')
    case _ => rfl
  have hread : Atom.read false r.cursor =
      .ok (.assertion ⟨r.cursor.pos, r.cursor.pos + 2⟩ .wordBoundary,
        ⟨r.cursor.pos + 2, rest⟩) := by
    rw [Atom.read, hat.rest]
    show readEscape false r.cursor = _
    rw [readEscape, hnext]
    show (readBoundary false r.cursor.pos ⟨r.cursor.pos + 2, rest⟩ >>= _) = _
    rw [hboundary]
    rfl
  have hstep := step_of_atom hat (by decide) hread
  exact ⟨_, _, (reads_push hat (List.cons_ne_nil _ _) hstep rfl).reaches,
    Reader.grown_push hat.free rfl, Tree.inARow_singleton (Tree.means_assertion _)⟩

/-! ## Groups -/

theorem afterAny?_eq_none {texts : List String} (hhead : c.rest.head? ≠ some '?')
    (h : ∀ text ∈ texts, text.toList.head? = some '?') : c.afterAny? texts = none := by
  rw [Cursor.afterAny?, List.findSome?_eq_none_iff]
  intro text htext
  have hmark := h text htext
  rw [Cursor.after?, if_neg]
  cases hc : text.toList with
  | nil => simp [hc] at hmark
  | cons d ds =>
    obtain rfl : d = '?' := by simpa [hc] using hmark
    cases hrest : c.rest with
    | nil => simp
    | cons e es =>
      have hne : e ≠ '?' := by simpa [hrest] using hhead
      simp [hne.symm]

/-- An opening parenthesis that no question mark follows. -/
theorem read_numbered {free : Bool} (hhead : (c.advance free).rest.head? ≠ some '?') :
    GroupOpening.read free c = .ok (.numbered, c.advance free) := by
  simp only [GroupOpening.read]
  rw [afterAny?_eq_none hhead (by decide), afterAny?_eq_none hhead (by decide)]
  simp only
  split
  · rename_i h
    exact absurd (by rw [h]; rfl) hhead
  · rfl

theorem read_opening (hrest : Calm rest) (hc : c.rest = '(' :: rest) :
    GroupOpening.read false c = .ok (.numbered, c.next) := by
  refine read_numbered ?_
  have hnext : (c.advance false).rest = rest := by
    simp [Cursor.advance, Cursor.skip, Cursor.next, hc]
  rw [hnext]
  exact fun hhead => (hrest '?' hhead).1 rfl

/-- An opening parenthesis begins a group that captures, if no question mark follows. -/
theorem reads_opening (hrest : Calm rest) (hat : r.At ('(' :: rest)) :
    ∃ pos index opened r', r.Reads r' ∧ r'.At rest ∧ r'.current = .beginning pos ∧
      r'.groups = { opened, kind := .capture index, outer := r.current, free := false } ::
        r.groups := by
  have hnext : r.cursor.next.rest = rest := by simp [Cursor.next, hat.rest]
  have hstep : r.step = .ok { r.enter (.capture (r.captures + 1)) r.free r.cursor.next with
      captures := r.captures + 1 } := by
    rw [Reader.step, hat.rest]
    show r.openGroup = _
    rw [Reader.openGroup, hat.free, read_opening hrest hat.rest]
    rfl
  refine ⟨r.cursor.next.pos, r.captures + 1, r.cursor.charSpan, _, ⟨hat.free, hstep, ?_⟩,
    ⟨hnext, hat.free⟩, rfl, ?_⟩
  · simp [Reader.enter, hnext, hat.rest]
  · simp only [Reader.enter, hat.free]

/-- A closing parenthesis makes the alternatives of the innermost group a part of what is
around it. -/
theorem reads_closing {g : OpenGroup} {groups : List OpenGroup} (hat : r.At (')' :: rest))
    (hgroups : r.groups = g :: groups) (hfree : g.free = false) :
    ∃ s r', r.Reads r' ∧ r'.At rest ∧ r'.groups = groups ∧
      r'.current = g.outer.push (.group s g.kind (r.current.close r.cursor.pos)) := by
  have hnext : r.cursor.next.rest = rest := by simp [Cursor.next, hat.rest]
  have hstep : r.step = .ok { r with
      cursor := r.cursor.next
      current := g.outer.push (.group (r.cursor.next.spanFrom g.opened.start) g.kind
        (r.current.close r.cursor.pos))
      groups
      free := g.free } := by
    rw [Reader.step, hat.rest]
    simp only [Reader.closeGroup, hgroups]
  exact ⟨_, _, ⟨hat.free, hstep, by simp [hnext, hat.rest]⟩, ⟨hnext, hfree⟩, rfl, rfl⟩

theorem reads_bar (hat : r.At ('|' :: rest)) :
    ∃ stop next r', r.Reads r' ∧ r'.At rest ∧ r'.groups = r.groups ∧
      r'.current = r.current.alternate stop next := by
  have hnext : r.cursor.next.rest = rest := by simp [Cursor.next, hat.rest]
  have hstep : r.step = .ok { r with
      cursor := r.cursor.next
      current := r.current.alternate r.cursor.pos r.cursor.next.pos } := by
    rw [Reader.step, hat.rest]
    rfl
  exact ⟨_, _, _, ⟨hat.free, hstep, by simp [hnext, hat.rest]⟩, ⟨hnext, hat.free⟩, rfl, rfl⟩

/-- Phrases with bars between them. -/
theorem reaches_alternatives {css : List (List Char)} {Ss : List Meaning}
    {done : List Meaning} (hcs : ReadsAsPhrase m cs S)
    (hcss : List.Forall₂ (ReadsAsPhrase m) css Ss) (hrest : Calm rest)
    (hat : r.At (['|'].intercalate (cs :: css) ++ rest))
    (hr : r.current.Shows m done .nothing) :
    ∃ r', r.Reaches r' ∧ r'.At rest ∧ r'.groups = r.groups ∧ ∃ done' T,
      r'.current.Shows m done' T ∧ done'.reverse ++ [T] = done.reverse ++ S :: Ss := by
  induction hcss generalizing r cs S done with
  | nil =>
    obtain ⟨ts, r', hreaches, hgrown, hts⟩ := hcs.reads r rest hrest (by simpa using hat)
    refine ⟨r', hreaches, hgrown.at_rest, hgrown.groups, done, S, ?_, rfl⟩
    simpa using hgrown.shows hr hts
  | @cons ds T css Ss hds _ ih =>
    rw [List.intercalate_cons_cons, List.append_assoc, List.append_assoc] at hat
    obtain ⟨ts, r₁, hreaches₁, hgrown, hts⟩ := hcs.reads r _ (by simp) hat
    obtain ⟨stop, next, r₂, hreads, hat₂, hgroups₂, hcurrent⟩ := reads_bar hgrown.at_rest
    have hshows : r₂.current.Shows m (S :: done) .nothing := by
      rw [hcurrent]
      simpa using (hgrown.shows hr hts).alternate stop next
    obtain ⟨r₃, hreaches₃, hat₃, hgroups₃, done', U, hU, heq⟩ := ih hds hat₂ hshows
    refine ⟨r₃, (hreaches₁.trans hreads.reaches).trans hreaches₃, hat₃,
      hgroups₃.trans (hgroups₂.trans hgrown.groups), done', U, hU, ?_⟩
    simpa using heq

/-- Alternatives in parentheses are a unit. -/
theorem readsAsUnit_group {css : List (List Char)} {Ss : List Meaning}
    (hcs : ReadsAsPhrase m cs S) (hcss : List.Forall₂ (ReadsAsPhrase m) css Ss) :
    ReadsAsUnit m ('(' :: (['|'].intercalate (cs :: css) ++ [')'])) (.oneOf (S :: Ss)) := by
  refine ⟨by simp, ?_⟩
  intro r rest hat
  rw [List.cons_append, List.append_assoc] at hat
  have hcalm : Calm (['|'].intercalate (cs :: css) ++ ([')'] ++ rest)) := by
    cases css with
    | nil => simpa using hcs.calm.append (by simp)
    | cons ds css =>
      rw [List.intercalate_cons_cons, List.append_assoc, List.append_assoc]
      exact hcs.calm.append (by simp)
  obtain ⟨pos, index, opened, r₁, hreads₁, hat₁, hcurrent₁, hgroups₁⟩ :=
    reads_opening hcalm hat
  obtain ⟨r₂, hreaches₂, hat₂, hgroups₂, done, T, hshows, hdone⟩ :=
    reaches_alternatives hcs hcss (by simp) hat₁ (hcurrent₁ ▸ OpenPart.shows_beginning pos)
  obtain ⟨s, r₃, hreads₃, hat₃, hgroups₃, hcurrent₃⟩ :=
    reads_closing hat₂ (hgroups₂.trans hgroups₁) rfl
  refine ⟨_, r₃, (hreads₁.reaches.trans hreaches₂).trans hreads₃.reaches,
    ⟨hat₃, hgroups₃, by rw [hcurrent₃]; rfl, by rw [hcurrent₃]; rfl⟩, rfl, ?_⟩
  have hclose := hshows.close r₂.cursor.pos
  rw [hdone] at hclose
  exact Tree.means_group hclose

end PatternAssembly
