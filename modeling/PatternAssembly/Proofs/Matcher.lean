import PatternAssembly.Matcher
import PatternAssembly.Proofs.Program.Layout
import PatternAssembly.Proofs.Tree.Depth
import PatternAssembly.Proofs.Tree.NotForDepth
import PatternAssembly.Proofs.Tree.Reading

/-!
# Compiled patterns do what the pattern means

Once it is known how the reading of a pattern ends, only the limits of the engine stand
between the pattern and its program, and the program accepts what the pattern means.

## Main definitions

* `Refusal.IsLimit`: a pattern is refused for its depth or its size only

## Main statements

* `Refusal.isLimit_iff`: when that is
* `compile_of_read`: what stands between a meaning and its program
* `compile_of_step`: a pattern of one part compiles, if the part fits
* `compile_of_phrase`: a phrase compiles to what it means
* `compile_of_within`: a phrase that hardly nests is refused for its size alone
* `compile_of_ends`, `compile_of_ends_error`, `compile_of_ends_open`: how compiling ends
* `test_iff`, `exists_accepts_of_mem_matchedTexts`: what a compiled pattern finds
-/
namespace PatternAssembly

variable {text : String} {flags : Flags} {r : Reader} {done : List Meaning} {S : Meaning}

/-- The program of a compiled pattern accepts what is meant. -/
def Matcher.Accepts (m : Matcher) (S : Meaning) : Prop :=
  ∀ (text : Array Char) (i j : Nat), m.program.Accepts text i j ↔ S text i j

theorem read_of_ends (hends : (Reader.start text.toList).Ends (.ok r))
    (hgroups : r.groups = []) :
    Tree.read text.toList =
      .ok ⟨r.current.close r.cursor.pos, r.names.reverse.map fun n => (n.1, n.2.1)⟩ := by
  rw [Tree.read, hends (text.toList.length + 1) (Nat.lt_succ_self _)]
  show r.finish = _
  rw [Reader.finish, hgroups]

/-- A compiled pattern is read to its end, and its program accepts what the expression of its
tree matches. -/
theorem exists_resolve_of_compile {m : Matcher} (h : Matcher.compile text flags = .ok m) :
    ∃ reading e after, Tree.read text.toList = .ok reading ∧
      reading.tree.resolve flags.modes = .ok (e, after) ∧
      ∀ (t : Array Char) (i j : Nat), m.program.Accepts t i j ↔ e.Matches t i j := by
  rw [Matcher.compile] at h
  cases hpattern : Expr.ofPattern flags.modes text.toList with
  | error reason => simp [hpattern] at h
  | ok result =>
    rw [hpattern] at h
    obtain rfl := Except.ok.inj h
    obtain ⟨reading, hreading, hpattern⟩ := bind_eq_ok.1 hpattern
    obtain ⟨e, he, hpattern⟩ := bind_eq_ok.1 hpattern
    obtain ⟨read, hread, hdepth⟩ := bind_eq_ok.1 (mapError_eq_ok_iff.1 hreading)
    obtain ⟨⟨e', after⟩, hresolve, he'⟩ := bind_eq_ok.1 (mapError_eq_ok_iff.1 he)
    obtain rfl := Except.ok.inj he'
    split at hdepth
    · cases hdepth
    · obtain rfl := Except.ok.inj hdepth
      split at hpattern
      · obtain rfl := Except.ok.inj hpattern
        exact ⟨read, e', after, hread, hresolve, fun _ _ _ => accepts_ofExpr_iff⟩
      · cases hpattern

/-- A pattern that is read, does not nest too deep and has an expression is judged by the size
of that expression. -/
theorem compile_of_resolve {reading : Reading} {e : Expr} {after : Modes}
    (hread : Tree.read text.toList = .ok reading)
    (hdepth : reading.tree.tooDeep? nestLimit = none)
    (hresolve : reading.tree.resolve flags.modes = .ok (e, after)) :
    Matcher.compile text flags =
      if e.fits sizeLimit = true then
        .ok { pattern := text, global := flags.global, program := .ofExpr e,
              names := reading.names }
      else .error (.invalidPattern text (.tooBig sizeLimit)) := by
  have hpattern : readPattern text.toList = .ok reading := by
    simp only [readPattern, hread, bind, Except.bind, hdepth, pure, Except.pure]
  have hexpr : reading.tree.toExpr flags.modes = .ok e := by rw [Tree.toExpr, hresolve]; rfl
  simp only [Matcher.compile, Expr.ofPattern, hpattern, hexpr, Except.mapError, bind,
    Except.bind]
  by_cases hfits : e.fits sizeLimit = true
  · rw [if_pos hfits, if_pos hfits]
    rfl
  · rw [if_neg hfits, if_neg hfits]

/-- A pattern that does not nest too deep, and whose expression fits, compiles to that
expression. -/
theorem compile_of_fits {reading : Reading} {e : Expr} {after : Modes}
    (hread : Tree.read text.toList = .ok reading)
    (hdepth : reading.tree.tooDeep? nestLimit = none)
    (hresolve : reading.tree.resolve flags.modes = .ok (e, after))
    (hfits : e.fits sizeLimit = true) :
    Matcher.compile text flags = .ok
      { pattern := text, global := flags.global, program := .ofExpr e,
        names := reading.names } :=
  (compile_of_resolve hread hdepth hresolve).trans (if_pos hfits)

/-- A pattern at fault is refused for its fault. -/
theorem compile_of_read_error {f : Fault} (hread : Tree.read text.toList = .error f) :
    Matcher.compile text flags = .error (.invalidPattern text (.fault f)) := by
  simp only [Matcher.compile, Expr.ofPattern, readPattern, hread]
  rfl

/-- A pattern that nests too deep is refused for that, whatever its parts mean. -/
theorem compile_of_tooDeep {reading : Reading} {span : Span}
    (hread : Tree.read text.toList = .ok reading)
    (hdepth : reading.tree.tooDeep? nestLimit = some span) :
    Matcher.compile text flags = .error (.invalidPattern text
      (.fault { kind := .nestLimitExceeded nestLimit, span })) := by
  simp only [Matcher.compile, Expr.ofPattern, readPattern, hread, bind, Except.bind, hdepth]
  rfl

/-- A pattern that does not nest too deep, and whose expression does not fit, is refused for
that. -/
theorem compile_of_not_fits {reading : Reading} {e : Expr} {after : Modes}
    (hread : Tree.read text.toList = .ok reading)
    (hdepth : reading.tree.tooDeep? nestLimit = none)
    (hresolve : reading.tree.resolve flags.modes = .ok (e, after))
    (hfits : ¬ e.fits sizeLimit = true) :
    Matcher.compile text flags = .error (.invalidPattern text (.tooBig sizeLimit)) :=
  (compile_of_resolve hread hdepth hresolve).trans (if_neg hfits)

/-- A part of the pattern is at fault under the modes that are in force there. -/
theorem compile_of_resolve_error {reading : Reading} {f : Fault}
    (hread : Tree.read text.toList = .ok reading)
    (hdepth : reading.tree.tooDeep? nestLimit = none)
    (hresolve : reading.tree.resolve flags.modes = .error f) :
    Matcher.compile text flags = .error (.invalidPattern text (.fault f)) := by
  simp only [Matcher.compile, Expr.ofPattern, readPattern, hread, bind, Except.bind,
    hdepth, pure, Except.pure, Except.mapError, Tree.toExpr, hresolve]

/-- The pattern nests too deep, or would need too much memory. -/
def Refusal.IsLimit : Refusal → Prop
  | .fault f => f.kind = .nestLimitExceeded nestLimit
  | .tooBig limit => limit = sizeLimit

/-- **A refusal is one for a limit where a limit is passed, and only there**: the pattern is
read, and its tree nests too deep, or has an expression that does not fit. -/
theorem Refusal.isLimit_iff {reason : Refusal}
    (h : Matcher.compile text flags = .error (.invalidPattern text reason)) :
    reason.IsLimit ↔ ∃ reading, Tree.read text.toList = .ok reading ∧
      (reading.tree.tooDeep? nestLimit ≠ none ∨
        ∃ e after, reading.tree.resolve flags.modes = .ok (e, after) ∧
          ¬ e.fits sizeLimit = true) := by
  constructor
  · intro hlimit
    cases hread : Tree.read text.toList with
    | error fault =>
      rw [compile_of_read_error hread] at h
      cases h
      -- Reading does not judge the depth.
      have hdepth := Tree.notForDepth_read text.toList fault hread
      rw [show fault.kind = _ from hlimit] at hdepth
      cases hdepth
    | ok reading =>
      refine ⟨reading, rfl, ?_⟩
      cases hdepth : reading.tree.tooDeep? nestLimit with
      | some span => exact .inl nofun
      | none =>
        cases hresolve : reading.tree.resolve flags.modes with
        | error fault =>
          rw [compile_of_resolve_error hread hdepth hresolve] at h
          cases h
          have hkind := reading.tree.notForDepth_resolve flags.modes fault hresolve
          rw [show fault.kind = _ from hlimit] at hkind
          cases hkind
        | ok resolved =>
          obtain ⟨e, after⟩ := resolved
          refine .inr ⟨e, after, rfl, fun hfits => ?_⟩
          rw [compile_of_fits hread hdepth hresolve hfits] at h
          cases h
  · rintro ⟨reading, hread, hpassed⟩
    cases hdepth : reading.tree.tooDeep? nestLimit with
    | some span =>
      rw [compile_of_tooDeep hread hdepth] at h
      cases h
      rfl
    | none =>
      rcases hpassed with hpassed | ⟨e, after, hresolve, hfits⟩
      · exact absurd hdepth hpassed
      · rw [compile_of_not_fits hread hdepth hresolve hfits] at h
        cases h
        rfl

/-- A pattern whose tree has a meaning is refused for its depth, or for its size, or compiles
to that meaning. -/
theorem compile_of_read {reading : Reading} (hread : Tree.read text.toList = .ok reading)
    (hmeans : reading.tree.Means flags.modes S) :
    (∃ span, reading.tree.tooDeep? nestLimit = some span ∧
        Matcher.compile text flags = .error (.invalidPattern text
          (.fault { kind := .nestLimitExceeded nestLimit, span }))) ∨
      Matcher.compile text flags = .error (.invalidPattern text (.tooBig sizeLimit)) ∨
      ∃ m, Matcher.compile text flags = .ok m ∧ m.Accepts S := by
  obtain ⟨e, he, hmeans⟩ := hmeans
  cases hdepth : reading.tree.tooDeep? nestLimit with
  | some span =>
    exact .inl ⟨span, rfl, compile_of_tooDeep hread hdepth⟩
  | none =>
    by_cases hfits : e.fits sizeLimit = true
    · refine .inr (.inr ⟨_, compile_of_fits hread hdepth he hfits, fun t i j => ?_⟩)
      rw [accepts_ofExpr_iff, hmeans.matches_iff]
    · exact .inr (.inl (compile_of_not_fits hread hdepth he hfits))

/-- A pattern that is read in one step compiles to what its part means, if that hardly nests
and fits. -/
theorem compile_of_step {t : Tree} {c : Cursor} {e : Expr} {levels : Nat}
    (hne : text.toList ≠ [])
    (hstep : (Reader.start text.toList).step = .ok ((Reader.start text.toList).push t c))
    (hc : c.rest = []) (hwithin : t.Within levels) (hlevels : levels ≤ nestLimit)
    (hresolve : t.resolve flags.modes = .ok (e, flags.modes)) (hmeans : e.Means S)
    (hfits : e.fits sizeLimit = true) :
    ∃ m, Matcher.compile text flags = .ok m ∧ m.Accepts S := by
  have hat : (Reader.start text.toList).At (text.toList ++ []) := Reader.at_start (by simp)
  have hgrown := Reader.grown_push (t := t) hat.free hc
  have hends := (reads_push hat hne hstep hc).ends (Reader.ends_nil hgrown.at_rest)
  have hdepth : t.tooDeep? nestLimit = none := by simpa using hwithin.mono hlevels 0
  -- The part alone is the alternative, and this is the pattern.
  have hread : Tree.read text.toList = .ok ⟨t, []⟩ := read_of_ends hends rfl
  refine ⟨_, compile_of_fits hread hdepth hresolve hfits, fun t i j => ?_⟩
  rw [accepts_ofExpr_iff, hmeans.matches_iff]

/-- A pattern that is read to its end, with no group open, compiles to what it means, unless a
limit is in the way. -/
theorem compile_of_ends (hends : (Reader.start text.toList).Ends (.ok r))
    (hgroups : r.groups = []) (hshows : r.current.Shows flags.modes done S) :
    (∃ reason, Matcher.compile text flags = .error (.invalidPattern text reason) ∧
        reason.IsLimit) ∨
      ∃ m, Matcher.compile text flags = .ok m ∧ m.Accepts (.oneOf (done.reverse ++ [S])) := by
  have hmeans := hshows.close r.cursor.pos
  rcases compile_of_read (read_of_ends hends hgroups) hmeans with ⟨span, -, h⟩ | h | h
  · exact .inl ⟨_, h, rfl⟩
  · exact .inl ⟨_, h, rfl⟩
  · exact .inr h

/-- A phrase compiles to what it means, unless a limit is in the way. -/
theorem compile_of_phrase (flags : Flags) (h : ReadsAsPhrase flags.modes text.toList S) :
    (∃ reason, Matcher.compile text flags = .error (.invalidPattern text reason) ∧
        reason.IsLimit) ∨
      ∃ m, Matcher.compile text flags = .ok m ∧ m.Accepts S := by
  have hat : (Reader.start text.toList).At (text.toList ++ []) :=
    ⟨by simp [Reader.start], rfl⟩
  obtain ⟨ts, r, hreaches, hgrown, hts⟩ := h.reads _ [] calm_nil hat
  have hshows := hgrown.shows (OpenPart.shows_beginning 0) hts
  simpa using compile_of_ends (hreaches.ends (Reader.ends_nil hgrown.at_rest))
    hgrown.groups hshows

/-- A phrase that nests less than patterns may is refused for its size alone. -/
theorem compile_of_within {levels : Nat} (flags : Flags)
    (h : ReadsAsPhrase flags.modes text.toList S) (hwithin : ReadsWithin levels text.toList)
    (hlevels : levels < nestLimit) :
    Matcher.compile text flags = .error (.invalidPattern text (.tooBig sizeLimit)) ∨
      ∃ m, Matcher.compile text flags = .ok m ∧ m.Accepts S := by
  have hat : (Reader.start text.toList).At (text.toList ++ []) :=
    ⟨by simp [Reader.start], rfl⟩
  obtain ⟨ts, r, hreaches, hgrown, hts⟩ := h.reads _ [] calm_nil hat
  obtain ⟨us, r', hreaches', hgrown', hus⟩ := hwithin.reads _ [] calm_nil hat
  have hends := hreaches.ends (Reader.ends_nil hgrown.at_rest)
  -- Both say how reading ends, so what they say is of one reader.
  obtain rfl : r = r' :=
    Except.ok.inj (hends.unique (hreaches'.ends (Reader.ends_nil hgrown'.at_rest)))
  have hmeans := (hgrown.shows (OpenPart.shows_beginning 0) hts).close r.cursor.pos
  have hclose := OpenPart.within_close (p := r.current) hgrown'.branches
    (by simpa [hgrown'.parts, Reader.start, OpenPart.beginning] using hus) r.cursor.pos
  have hdepth := hclose.mono hlevels 0
  rw [Nat.zero_add] at hdepth
  rcases compile_of_read (read_of_ends hends hgrown.groups) hmeans with
    ⟨span, hspan, -⟩ | h | h
  · exact absurd (hdepth.symm.trans hspan) (by simp)
  · exact .inl h
  · exact .inr (by simpa using h)

/-- A phrase that does not nest is refused for its size alone. -/
theorem compile_of_leaves (flags : Flags) (h : ReadsAsPhrase flags.modes text.toList S)
    (hleaves : ReadsAsLeaves text.toList) :
    Matcher.compile text flags = .error (.invalidPattern text (.tooBig sizeLimit)) ∨
      ∃ m, Matcher.compile text flags = .ok m ∧ m.Accepts S :=
  compile_of_within flags h (readsWithin_zero.2 hleaves) (by decide)

theorem compile_of_ends_error {f : Fault}
    (hends : (Reader.start text.toList).Ends (.error f)) :
    Matcher.compile text flags = .error (.invalidPattern text (.fault f)) := by
  refine compile_of_read_error ?_
  rw [Tree.read, hends (text.toList.length + 1) (Nat.lt_succ_self _)]
  rfl

/-- A pattern that ends inside a group is refused. -/
theorem compile_of_ends_open (hends : (Reader.start text.toList).Ends (.ok r))
    (hgroups : r.groups ≠ []) :
    ∃ f : Fault, f.kind = .groupUnclosed ∧
      Matcher.compile text flags = .error (.invalidPattern text (.fault f)) := by
  obtain ⟨g, groups, hg⟩ := List.exists_cons_of_ne_nil hgroups
  refine ⟨{ kind := .groupUnclosed, span := g.opened }, rfl, compile_of_read_error ?_⟩
  rw [Tree.read, hends (text.toList.length + 1) (Nat.lt_succ_self _)]
  show r.finish = _
  rw [Reader.finish, hg]
  rfl

/-- A text is found where it contains something that is meant. -/
theorem Matcher.test_iff {m : Matcher} (h : m.Accepts S) (t : String) :
    m.test t = true ↔
      ∃ i j, i ≤ t.toList.toArray.size ∧ S t.toList.toArray i j := by
  rw [test, isSome_findFrom]
  simp [h _ _ _]

/-- The text of a match is a stretch that the program accepts. -/
theorem Matcher.exists_accepts_of_mem_matchedTexts {m : Matcher} {t s : String}
    (h : s ∈ m.matchedTexts t) : ∃ i j, i ≤ j ∧ j ≤ t.toList.toArray.size ∧
      m.program.Accepts t.toList.toArray i j ∧ s.toList = slice t.toList.toArray i j := by
  obtain ⟨found, hfound, rfl⟩ := List.mem_map.1 h
  refine ⟨found.start, found.stop, ?_⟩
  rw [String.toList_ofList, ← and_assoc, ← and_assoc]
  refine ⟨?_, rfl⟩
  rw [and_assoc]
  rw [Matcher.found] at hfound
  split at hfound
  · exact accepts_of_mem_matchesFrom hfound
  · obtain ⟨-, hij, hj, haccepts, -⟩ := findFrom_some (Option.mem_toList.1 hfound)
    exact ⟨hij, hj, haccepts⟩

end PatternAssembly
