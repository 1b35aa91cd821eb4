import PatternAssembly.Proofs.Pattern.Searches
import PatternAssembly.Proofs.Matcher
import PatternAssembly.Proofs.Tree.Inside
import PatternAssembly.Proofs.Tree.ModesBehind

/-!
# Values between anchors

A value that a whole text is to equal is put between two anchors, with no group around it. So
the anchors hold for the value if it has no alternatives of its own, and if the flags that it
leaves in force leave the anchor behind it as it is. In a group the anchors hold for any
value.

## Main definitions

* `hasAlternatives`: a pattern with alternatives outside of all groups
* `Matcher.MatchesAll`: a compiled pattern can match all of a text

## Main statements

* `exists_read_anchored`, `exists_read_grouped`: how a pattern between anchors is read
* `Matcher.test_anchored`, `Matcher.test_grouped`: what it finds
* `values_match_whole_texts`: the texts that equal a value
-/
namespace PatternAssembly

open Reader

variable {p rest : List Char} {reading : Reading} {r : Reader}

/-! ## Reading -/

theorem reads_lineStart (hat : r.At ('^' :: rest)) :
    r.Reads (r.push (.assertion r.cursor.charSpan .lineStart) r.cursor.next) ∧
      (r.push (.assertion r.cursor.charSpan .lineStart) r.cursor.next).At rest := by
  have hnext : r.cursor.next.rest = rest := by simp [Cursor.next, hat.rest]
  have hread : Atom.read false r.cursor =
      .ok (.assertion r.cursor.charSpan .lineStart, r.cursor.next) := by
    simp [Atom.read, hat.rest]
  have hat₀ : r.At (['^'] ++ rest) := hat
  exact ⟨reads_push hat₀ (by simp) (step_of_atom hat (by decide) hread) hnext,
    hnext, hat.free⟩

/-- An anchor is one more part, in any spacing. -/
theorem next_lineEnd (hrest : r.skip.cursor.rest = '$' :: rest) :
    r.Next (r.skip.push (.assertion r.skip.cursor.charSpan .lineEnd) r.skip.cursor.next) := by
  refine ⟨by simp [hrest], ?_⟩
  rw [step_eq hrest]
  simp [stepAt, Atom.read, hrest]
  rfl

/-- A closing parenthesis ends the innermost group, in any spacing. -/
theorem next_closing {g : OpenGroup} {groups : List OpenGroup}
    (hrest : r.skip.cursor.rest = ')' :: rest) (hgroups : r.groups = g :: groups)
    (hfree : g.free = false) : ∃ span stop r', r.Next r' ∧ r'.At rest ∧ r'.groups = groups ∧
      r'.current = g.outer.push (.group span g.kind (r.current.close stop)) := by
  have hgroups' : r.skip.groups = g :: groups := hgroups
  have hstep : r.skip.step = .ok { r.skip with
      cursor := r.skip.cursor.next
      current := g.outer.push (.group (r.skip.cursor.next.spanFrom g.opened.start) g.kind
        (r.skip.current.close r.skip.cursor.pos))
      groups
      free := g.free } := by
    rw [step_eq hrest]
    simp [stepAt, closeGroup, hgroups']
  exact ⟨_, _, _, ⟨by simp [hrest], hstep⟩, ⟨by simp [Cursor.next, hrest], hfree⟩, rfl, rfl⟩

/-- A group that only groups is opened. -/
theorem reads_plain (hat : r.At ('(' :: '?' :: ':' :: rest)) (hfresh : r.Fresh) :
    ∃ opened r', r.Reads r' ∧ r'.At rest ∧ r'.Fresh ∧ r'.current.parts = [] ∧
      r'.groups =
        { opened, kind := .plain [], outer := r.current, free := false } :: r.groups := by
  obtain ⟨⟨pos, _⟩, current, groups, _, captures, names⟩ := r
  obtain ⟨rfl, rfl⟩ := hat
  refine ⟨⟨pos, pos + 1⟩, Reader.enter _ (.plain []) false ⟨pos + 3, rest⟩,
    ⟨rfl, rfl, ?_⟩, ⟨rfl, rfl⟩, ⟨hfresh.captures, hfresh.names, rfl⟩, rfl, rfl⟩
  simp [enter]
  omega

theorem Tree.bare_ofParts_congr {s s' : Span} {ts ts' : List Tree}
    (h : ts'.map bare = ts.map bare) :
    (ofParts s' ts').bare = (ofParts s ts).bare := by
  rw [bare_ofParts, bare_ofParts, h]

/-- Reading ends behind the last anchor. -/
theorem read_of_passes (hpasses : (start p).Passes r) (hrest : r.skip.cursor.rest = ['$'])
    (hgroups : r.groups = []) (halone : r.current.branches = []) :
    ∃ reading, Tree.read p = .ok reading ∧
      reading.tree.bare = (Tree.ofParts .nowhere
        (r.current.parts.reverse ++ [.assertion .nowhere .lineEnd])).bare := by
  have hnext := next_lineEnd hrest
  have hnil : (r.skip.push (.assertion r.skip.cursor.charSpan .lineEnd)
      r.skip.cursor.next).cursor.rest = [] := by
    simp [push, Cursor.next, hrest]
  have hends := Passes.ends (hpasses.tail hnext)
    (ends_of_rest_eq_nil (by rwa [skip_of_rest_eq_nil hnil]))
  rw [skip_of_rest_eq_nil hnil] at hends
  have hread := bind_eq_ok.2 ⟨_, hends _ (Nat.lt_succ_self _),
    finish_eq_ok_iff.2 ⟨hgroups, rfl⟩⟩
  refine ⟨_, hread, ?_⟩
  rw [OpenPart.close_eq_ofParts (by exact halone)]
  refine Tree.bare_ofParts_congr ?_
  rw [Reader.push, OpenPart.push, List.reverse_cons, List.map_append, List.map_append]
  rfl

/-- The pattern has alternatives outside of all groups. -/
def hasAlternatives (p : List Char) : Bool :=
  match Tree.read p with
  | .ok { tree := .alternation _ _, .. } => true
  | _ => false

theorem Tree.ofBranches_of_two_le {s : Span} {ts : List Tree} (h : 2 ≤ ts.length) :
    ofBranches s ts = alternation s ts := by
  match ts with
  | [] | [_] => simp at h
  | _ :: _ :: _ => rfl

theorem branches_eq_nil {part : OpenPart} {stop : Nat} (hread : Tree.read p = .ok reading)
    (htree : reading.tree = part.close stop) (halone : hasAlternatives p = false) :
    part.branches = [] := by
  obtain ⟨tree, names⟩ := reading
  obtain rfl : tree = part.close stop := htree
  by_contra hne
  have hlength : 2 ≤ (part.branch stop :: part.branches).reverse.length := by
    have := List.length_pos_iff.2 hne
    rw [List.length_reverse, List.length_cons]
    omega
  rw [hasAlternatives, hread, OpenPart.close, Tree.ofBranches_of_two_le hlength] at halone
  cases halone

theorem firm_lineEnd : Firm ['$'] := ⟨by simp, by simp; decide, by simp⟩

theorem firm_closing : Firm [')', '$'] := ⟨by simp, by simp; decide, by simp⟩

/-- A pattern without alternatives stands between the anchors with its parts. -/
theorem exists_read_anchored (hread : Tree.read p = .ok reading)
    (hinside : ReadsInside p reading.tree) (halone : hasAlternatives p = false) :
    ∃ span ps reading', reading.tree = .ofParts span ps ∧
      Tree.read ('^' :: (p ++ ['$'])) = .ok reading' ∧
      reading'.tree.bare = (Tree.ofParts .nowhere ([.assertion .nowhere .lineStart] ++
        (ps ++ [.assertion .nowhere .lineEnd]))).bare := by
  obtain ⟨hcaret, hat⟩ := reads_lineStart (r := start ('^' :: (p ++ ['$']))) (at_start rfl)
  obtain ⟨r', hpasses, hrest, hgroups, part, stop, htree, hled⟩ :=
    hinside _ _ firm_lineEnd hat ⟨rfl, rfl, rfl⟩
  have hbranches := branches_eq_nil hread htree halone
  obtain ⟨halone', hparts⟩ := hled.parts_of_alone hbranches
  obtain ⟨reading', hread', htree'⟩ :=
    read_of_passes (.head hcaret.next hpasses) hrest hgroups halone'
  refine ⟨_, _, reading', htree.trans (OpenPart.close_eq_ofParts hbranches stop), hread',
    htree'.trans (Tree.bare_ofParts_congr ?_)⟩
  rw [List.map_append, List.map_reverse, hparts]
  simp [push, OpenPart.push, start, OpenPart.beginning, Tree.bare]

/-- The state in front of a value in a group. -/
theorem exists_passes_plain (p : List Char) :
    ∃ opened span r, (start ('^' :: '(' :: '?' :: ':' :: (p ++ [')', '$']))).Passes r ∧
      r.At (p ++ [')', '$']) ∧ r.Fresh ∧ r.current.parts = [] ∧ r.groups =
        [{ opened, kind := .plain [], free := false,
           outer := (OpenPart.beginning 0).push (.assertion span .lineStart) }] := by
  obtain ⟨hcaret, hat⟩ :=
    reads_lineStart (r := start ('^' :: '(' :: '?' :: ':' :: (p ++ [')', '$'])))
      (at_start rfl)
  obtain ⟨opened, r, hopening, hat₀, hfresh, hparts, hgroups⟩ :=
    reads_plain hat ⟨rfl, rfl, rfl⟩
  exact ⟨opened, _, r, .head hcaret.next (.single hopening.next), hat₀, hfresh,
    hparts, hgroups⟩

/-- A comment that goes on behind the value would leave the group open. -/
theorem readsInside_of_grouped {reading' : Reading} (hread : Tree.read p = .ok reading)
    (hgrouped : Tree.read ('^' :: '(' :: '?' :: ':' :: (p ++ [')', '$'])) = .ok reading') :
    ReadsInside p reading.tree := by
  refine (readsInside_or_drownsInside hread).resolve_right fun hdrowns => ?_
  obtain ⟨opened, span, r, hpasses, hat, hfresh, -, hgroups⟩ := exists_passes_plain p
  obtain ⟨r', hpasses', hnil, hgroups'⟩ := hdrowns _ _ firm_closing hat hfresh
  have hends := (Passes.ends (hpasses.trans hpasses') (ends_of_rest_eq_nil hnil)) _
    (Nat.lt_succ_self _)
  obtain ⟨r₁, hrun, hfinish⟩ := bind_eq_ok.1 hgrouped
  obtain rfl := Except.ok.inj (hends.symm.trans hrun)
  have hclosed : r'.groups = [] := (finish_eq_ok_iff.1 hfinish).1
  rw [hgroups', hgroups] at hclosed
  cases hclosed

/-- A pattern in a group that only groups is one part between the anchors. -/
theorem exists_read_grouped (hinside : ReadsInside p reading.tree) :
    ∃ reading', Tree.read ('^' :: '(' :: '?' :: ':' :: (p ++ [')', '$'])) = .ok reading' ∧
      reading'.tree.bare = (Tree.ofParts .nowhere ([.assertion .nowhere .lineStart] ++
        ([.group .nowhere (.plain []) reading.tree] ++
          [.assertion .nowhere .lineEnd]))).bare := by
  obtain ⟨opened, span, r, hpasses, hat, hfresh, hparts, hgroups⟩ := exists_passes_plain p
  obtain ⟨r', hpasses', hrest, hgroups', part, stop, htree, hled⟩ :=
    hinside _ _ firm_closing hat hfresh
  rw [hparts] at hled
  obtain ⟨span', stop', r₁, hclosing, hat₁, hgroups₁, hcurrent⟩ :=
    next_closing hrest (hgroups'.trans hgroups) rfl
  have hrest₁ : r₁.skip.cursor.rest = ['$'] := by rw [skip_eq_self hat₁.free, hat₁.rest]
  obtain ⟨reading', hread', htree'⟩ := read_of_passes
    ((hpasses.trans hpasses').tail hclosing) hrest₁ hgroups₁ (by rw [hcurrent]; rfl)
  refine ⟨reading', hread', htree'.trans (Tree.bare_ofParts_congr ?_)⟩
  rw [hcurrent, htree]
  simp [OpenPart.push, OpenPart.beginning, Tree.bare, hled.bare_close stop stop']

/-! ## Matches -/

/-- Under any modes a line ends at the end of the text. -/
theorem Modes.holds_lineEnd_size (m : Modes) (text : Array Char) :
    (m.look .lineEnd).holds text text.size = true := by
  rw [look]
  split
  · cases m.carriageReturn <;> simp [Look.holds]
  · simp [Look.holds]

/-- The pattern can match all of the text. -/
def Matcher.MatchesAll (m : Matcher) (t : String) : Prop :=
  m.program.Accepts t.toList.toArray 0 t.toList.toArray.size

section Anchored

variable {v : String} {alone whole : Matcher}

/-- Between two anchors, a pattern matches from the start of the text up to a place that the
second one asks for. -/
theorem Matcher.test_iff_of_between {last : Look} (h : ∀ (text : Array Char) (i j : Nat),
      whole.program.Accepts text i j ↔ ∃ k, Meaning.place .textStart text i k ∧
        ∃ l, alone.program.Accepts text k l ∧ Meaning.place last text l j) (t : String) :
    whole.test t = true ↔
      ∃ j, alone.program.Accepts t.toList.toArray 0 j ∧
        last.holds t.toList.toArray j = true := by
  rw [Matcher.test, isSome_findFrom]
  constructor
  · rintro ⟨i, j, -, -, hmatch⟩
    obtain ⟨_, ⟨hfirst, rfl⟩, _, halone, hlast, rfl⟩ := (h _ i j).1 hmatch
    obtain rfl : i = 0 := by simpa [Look.holds] using hfirst
    exact ⟨_, halone, hlast⟩
  · rintro ⟨j, halone, hlast⟩
    exact ⟨0, j, Nat.le_refl 0, Nat.zero_le _,
      (h _ 0 j).2 ⟨0, ⟨rfl, rfl⟩, j, halone, hlast, rfl⟩⟩

theorem toList_grouped (v : String) : ("^(?:" ++ v ++ ")$").toList =
    '^' :: '(' :: '?' :: ':' :: (v.toList ++ [')', '$']) := by
  simp

/-- If a pattern compiles alone and in a group, text behind it is read after it. -/
theorem Matcher.exists_readsInside (halone : Matcher.compile v {} = .ok alone)
    (hgrouped : Matcher.compile ("^(?:" ++ v ++ ")$") {} = .ok whole) :
    ∃ reading, Tree.read v.toList = .ok reading ∧ ReadsInside v.toList reading.tree := by
  obtain ⟨reading, -, -, hread, -⟩ := exists_resolve_of_compile halone
  obtain ⟨reading', -, -, hread', -⟩ := exists_resolve_of_compile hgrouped
  rw [toList_grouped] at hread'
  exact ⟨reading, hread, readsInside_of_grouped hread hread'⟩

/-- Without alternatives, a pattern between anchors is found where it matches from the start
of the text up to a place that the second anchor asks for, under the modes behind the
pattern. -/
theorem Matcher.test_anchored (halone : Matcher.compile v {} = .ok alone)
    (hread : Tree.read v.toList = .ok reading) (hinside : ReadsInside v.toList reading.tree)
    (hsingle : hasAlternatives v.toList = false)
    (hwhole : Matcher.compile ("^" ++ v ++ "$") {} = .ok whole) (t : String) :
    whole.test t = true ↔ ∃ j, alone.program.Accepts t.toList.toArray 0 j ∧
      ((({} : Modes).behind v.toList).look .lineEnd).holds t.toList.toArray j = true := by
  obtain ⟨_, e, after, hread₀, hresolve, haccepts⟩ := exists_resolve_of_compile halone
  obtain ⟨_, e', after', hread', hresolve', haccepts'⟩ := exists_resolve_of_compile hwhole
  obtain rfl := Except.ok.inj (hread.symm.trans hread₀)
  obtain ⟨span, ps, reading', htree, hread'', htree'⟩ :=
    exists_read_anchored hread hinside hsingle
  have hchars : ("^" ++ v ++ "$").toList = '^' :: (v.toList ++ ['$']) := by simp
  rw [hchars, hread''] at hread'
  obtain rfl := Except.ok.inj hread'
  -- The second anchor is read under the modes that the pattern leaves behind.
  have hafter : after = ({} : Modes).behind v.toList := by
    rw [Modes.behind, hread]
    exact Tree.modes_of_resolve _ hresolve
  rw [htree] at hresolve
  refine Matcher.test_iff_of_between (fun text i j => ?_) t
  rw [haccepts', Tree.matches_ofParts_between
    (Tree.inARow_singleton (Tree.means_assertion _)) hresolve
    (Tree.inARow_singleton (Tree.means_assertion _))
    ((Tree.resolve_congr htree' _).1 hresolve'), hafter]
  simp only [haccepts]
  rfl

/-- In a group between anchors, a pattern is found where it can match all of the text. -/
theorem Matcher.test_grouped (halone : Matcher.compile v {} = .ok alone)
    (hwhole : Matcher.compile ("^(?:" ++ v ++ ")$") {} = .ok whole) (t : String) :
    whole.test t = true ↔ alone.MatchesAll t := by
  obtain ⟨reading, hread, hinside⟩ := Matcher.exists_readsInside halone hwhole
  obtain ⟨_, e, after, hread₀, hresolve, haccepts⟩ := exists_resolve_of_compile halone
  obtain ⟨_, e', after', hread', hresolve', haccepts'⟩ := exists_resolve_of_compile hwhole
  obtain rfl := Except.ok.inj (hread.symm.trans hread₀)
  obtain ⟨reading', hread'', htree'⟩ := exists_read_grouped hinside
  rw [toList_grouped, hread''] at hread'
  obtain rfl := Except.ok.inj hread'
  -- Out of a group no modes come, so the second anchor is the end of the text.
  have hgroup :
      (Tree.ofParts .nowhere [.group .nowhere (.plain []) reading.tree]).resolve {} =
        .ok (e, {}) :=
    bind_eq_ok.2 ⟨_, hresolve, rfl⟩
  have hbetween (text : Array Char) (i j : Nat) : whole.program.Accepts text i j ↔
      ∃ k, Meaning.place .textStart text i k ∧
        ∃ l, alone.program.Accepts text k l ∧ Meaning.place .textEnd text l j := by
    rw [haccepts', Tree.matches_ofParts_between
      (Tree.inARow_singleton (Tree.means_assertion _)) hgroup
      (Tree.inARow_singleton (Tree.means_assertion _))
      ((Tree.resolve_congr htree' _).1 hresolve')]
    simp only [haccepts]
    rfl
  rw [Matcher.test_iff_of_between hbetween]
  simp [Look.holds, Matcher.MatchesAll]

end Anchored

/-! ## Searches -/

namespace Pattern

/-- A value between anchors. -/
def equalTo (v : String) : Pattern := (create none).after (.equalsTo v)

/-- A value in a group between anchors. -/
def equalToGroup (v : String) : Pattern := create (some ("^(?:" ++ v ++ ")$"))

theorem text_equalTo (v : String) : (equalTo v).text = "^" ++ v ++ "$" := String.empty_append

/-- What a search answers is what a compiled pattern says of the text. -/
theorem exists_test_of_isIn {p : Pattern} {t : String} {found : Bool}
    (hp : p.engine = .regular) (h : (p.isIn t).result = .ok found) :
    ∃ m, Matcher.compile p.text {} = .ok m ∧ m.test t = found := by
  rw [result_isIn hp] at h
  cases hcompile : Matcher.compile p.text {} with
  | error e => simp [hcompile, Except.map] at h
  | ok m =>
    rw [hcompile] at h
    exact ⟨m, rfl, Except.ok.inj h⟩

end Pattern

/-- **A text equals a value just if the value can match all of it.** So it is for any value in
a group. A value without a group is to have no alternatives of its own, and to leave anchors
at the ends of the text: with multiple lines left switched on, it is found in the texts all of
which it can match, and perhaps in others. -/
theorem values_match_whole_texts (v t : String) {alone : Matcher} {equal grouped : Bool}
    (halone : Matcher.compile v {} = .ok alone)
    (hequal : ((Pattern.equalTo v).isIn t).result = .ok equal)
    (hgrouped : ((Pattern.equalToGroup v).isIn t).result = .ok grouped) :
    (grouped = true ↔ alone.MatchesAll t) ∧
      (hasAlternatives v.toList = false →
        (grouped = true → equal = true) ∧
        ((({} : Modes).behind v.toList).multiLine = false →
          (equal = true ↔ grouped = true))) := by
  obtain ⟨anchored, hanchored, rfl⟩ := Pattern.exists_test_of_isIn rfl hequal
  obtain ⟨whole, hwhole, rfl⟩ := Pattern.exists_test_of_isIn rfl hgrouped
  rw [Pattern.text_equalTo] at hanchored
  have hgroup := Matcher.test_grouped halone hwhole t
  obtain ⟨reading, hread, hinside⟩ := Matcher.exists_readsInside halone hwhole
  refine ⟨hgroup, fun hsingle => ?_⟩
  have hanchor := Matcher.test_anchored halone hread hinside hsingle hanchored t
  constructor
  · intro hfound
    exact hanchor.2 ⟨_, hgroup.1 hfound, Modes.holds_lineEnd_size _ _⟩
  · intro hlines
    rw [hanchor, hgroup]
    simp [Modes.look, hlines, Look.holds, Matcher.MatchesAll]

/-- The value ignores case and leaves spacing free, and its alternatives stand in a group. -/
theorem values_match_whole_texts_group :
    ∃ alone equal grouped, Matcher.compile "(?ix)(a | b) c" {} = .ok alone ∧
      hasAlternatives "(?ix)(a | b) c".toList = false ∧
      ((Pattern.equalTo "(?ix)(a | b) c").isIn "Bc").result = .ok equal ∧
      ((Pattern.equalToGroup "(?ix)(a | b) c").isIn "Bc").result = .ok grouped ∧
      (({} : Modes).behind "(?ix)(a | b) c".toList).multiLine = false ∧
      (grouped = true ↔ alone.MatchesAll "Bc") ∧ (equal = true ↔ grouped = true) := by
  have hsingle : hasAlternatives "(?ix)(a | b) c".toList = false := by decide +kernel
  have hlines : (({} : Modes).behind "(?ix)(a | b) c".toList).multiLine = false := by
    decide +kernel
  obtain ⟨alone, halone⟩ : ∃ m, Matcher.compile "(?ix)(a | b) c" {} = .ok m := ⟨_, rfl⟩
  have hequal : ((Pattern.equalTo "(?ix)(a | b) c").isIn "Bc").result = .ok true := by
    rw [Pattern.result_isIn rfl]
    decide +kernel
  have hgrouped : ((Pattern.equalToGroup "(?ix)(a | b) c").isIn "Bc").result = .ok true := by
    rw [Pattern.result_isIn rfl]
    decide +kernel
  obtain ⟨hall, hiff⟩ := values_match_whole_texts "(?ix)(a | b) c" "Bc" halone hequal hgrouped
  exact ⟨alone, true, true, halone, hsingle, hequal, hgrouped, hlines, hall,
    (hiff hsingle).2 hlines⟩

/-- The start of the text is asked for in the first alternative only, and the end in the last
one only. -/
theorem alternative_equals_part :
    (∃ alone, Matcher.compile "a|b" {} = .ok alone) ∧
      ((Pattern.equalTo "a|b").isIn "ab").result = .ok true ∧
      ((Pattern.equalToGroup "a|b").isIn "ab").result = .ok false := by
  refine ⟨⟨_, rfl⟩, ?_, ?_⟩
  · rw [Pattern.result_isIn rfl]
    decide +kernel
  · rw [Pattern.result_isIn rfl]
    decide +kernel

end PatternAssembly
