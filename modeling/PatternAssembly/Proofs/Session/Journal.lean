import PatternAssembly.Proofs.Pattern.Assembly
import PatternAssembly.Proofs.Pattern.Searches

/-!
# What a session notes down

A search has the pattern compiled once, as it is at that moment, for flags that the search and
its options fix; then it tests, lists or replaces with what was compiled. The engine notes
that it is asked to compile before it does so, and the regular engine notes the matches that
were listed. Nothing else that is done with a pattern compiles it, and only steps that misuse
groups leave a record besides.

## Main definitions

* `Query.flags`: the flags for which a search compiles
* `Query.runWith`: what a search does with the compiled pattern
* `FlagTable`: the flags of all searches
* `Beginning.NothingCached`: what is compiled in a session
* `Action.Logged`: what the log says of an action

## Main statements

* `Query.run_eq`: every search compiles once and goes on with what was compiled
* `answer_of_error`, `answer_of_ok`: what a search with the regular engine is answered and
  notes down
* `nothing_cached`: the compilations of a session
* `log_of_session`: the log of a session
-/
namespace PatternAssembly

/-! ## Events of runs -/

namespace Run

variable {α β : Type}

/-- The events of a run in order. -/
def events (x : Run α) : List Event := Traced.events x.run

@[simp] theorem events_pure (a : α) : (pure a : Run α).events = [] := rfl

@[simp] theorem events_log (r : LogRecord) : (log r).events = [.log r] := rfl

@[simp] theorem events_note (e : Event) : Run.events (ExceptT.lift (Traced.note e)) = [e] :=
  rfl

@[simp] theorem events_lift (x : Except PatternError α) : (liftM x : Run α).events = [] := rfl

/-- After a refusal nothing more is noted. -/
theorem events_bind (x : Run α) (f : α → Run β) :
    (x >>= f).events = x.events ++
      match x.result with
      | .ok a => (f a).events
      | .error _ => [] := by
  simp only [events, result, ExceptT.run_bind, Traced.events_bind]
  cases (ExceptT.run x).value <;> rfl

end Run

/-! ## One search -/

theorem Matcher.pattern_of_compile {text : String} {flags : Flags} {m : Matcher}
    (h : compile text flags = .ok m) : m.pattern = text := by
  simp only [compile] at h
  split at h
  · cases h; rfl
  · cases h

namespace Query

variable {p : Pattern} {q : Query} {m : Matcher}

/-- The flags for which a search has the pattern compiled. -/
def flags : Query → Flags
  | isIn _ | firstMatch _ => {}
  | matchList _ o => o.toFlags
  | count _ o | replaceAll _ _ o => o.toFlags.withGlobal true
  | replaceFirst _ _ o => o.toFlags.withGlobal false

/-- What a search does with the compiled pattern. -/
def runWith (m : CompiledPattern) : Query → Run Answer
  | isIn text => pure (.truth (m.test text))
  | firstMatch text => do
    let found ← m.matchAll text
    pure (.text (found.bind List.head?))
  | matchList text _ => do
    let found ← m.matchAll text
    pure (.texts found)
  | count text _ => do
    let found ← m.matchAll text
    pure (.number ((found.map List.length).getD 0))
  | replaceFirst text template _ | replaceAll text template _ =>
    pure (.text (some (m.replace text template)))

/-- Every search has the pattern compiled once, as it is, and goes on with what was
compiled. -/
theorem run_eq (p : Pattern) (q : Query) :
    q.run p = (do let m ← p.compile q.flags; q.runWith m) := by
  cases q <;>
    simp only [run, runWith, flags, Pattern.isIn, Pattern.firstMatchIn, Pattern.matchesIn,
      Pattern.countIn, Pattern.replaceFirst, Pattern.replaceAll, Pattern.replaceWith,
      bind_assoc, pure_bind]
  -- Counting sets its option where the others set a flag.
  rfl

/-- A search answers what its run yields; a refusal is an answer. -/
theorem answer_eq (p : Pattern) (q : Query) : q.answer p =
    { value := match (q.run p).result with
        | .ok a => a
        | .error e => .refused e
      events := (q.run p).events } := by
  have hvalue : (q.answer p).value = match (q.run p).result with
      | .ok a => a
      | .error e => .refused e := by
    rw [answer, Traced.value_bind, Run.result]
    cases (ExceptT.run (q.run p)).value <;> rfl
  have hevents : (q.answer p).events = (q.run p).events := by
    rw [answer, Traced.events_bind, Run.events]
    cases (ExceptT.run (q.run p)).value <;> exact List.append_nil _
  rw [← hvalue, ← hevents]

/-- The text in which a search lists the matches, if it lists them. -/
def searched? : Query → Option String
  | firstMatch text | matchList text _ | count text _ => some text
  | isIn _ | replaceFirst _ _ _ | replaceAll _ _ _ => none

/-- What a search is answered once the regular engine has compiled the pattern. -/
def answerBy (m : Matcher) : Query → Answer
  | isIn text => .truth (m.test text)
  | firstMatch text => .text (m.matchedTexts text).head?
  | matchList text _ => .texts (listed (m.matchedTexts text))
  | count text _ => .number (m.matchedTexts text).length
  | replaceFirst text template _ | replaceAll text template _ =>
    .text (some (m.replace text template))

theorem result_runWith_regular : (q.runWith (.regular m)).result = .ok (q.answerBy m) := by
  have hall (text : String) :
      (CompiledPattern.matchAll (.regular m) text).result =
        .ok (listed (m.matchedTexts text)) := by
    rfl
  cases q <;> simp only [runWith, answerBy, Run.result_bind, hall, Except.bind,
    Run.result_pure, head?_listed, length_listed] <;> rfl

/-- The matches that are listed are noted. -/
theorem events_runWith_regular : (q.runWith (.regular m)).events =
    (q.searched?.map fun text =>
      .log (.matchAll text m.pattern (m.matchedTexts text))).toList := by
  cases q <;> rfl

/-- With the recording engine nothing is refused, and only the compilation is noted. -/
theorem events_runWith_recorded : (q.runWith .recorded).events = [] := by
  cases q <;> rfl

section Regular

variable (hp : p.engine = .regular)
include hp

theorem events_compile_regular (flags : Flags) :
    (p.compile flags).events = [.log (.compile p.text flags)] := by
  rw [Pattern.compile, hp, Engine.compile, Run.events_bind]
  simp only [Run.events_log, Run.result_log, Run.events_bind, Run.events_lift,
    Run.result_lift, Run.events_pure]
  cases Matcher.compile p.text flags <;> rfl

/-- A pattern that is refused is answered by the refusal, and only the compilation is
noted. -/
theorem answer_of_error {e : PatternError} (h : Matcher.compile p.text q.flags = .error e) :
    q.answer p = { value := .refused e, events := [.log (.compile p.text q.flags)] } := by
  have hresult : (p.compile q.flags).result = .error e := by
    rw [Pattern.result_compile hp, h]
    rfl
  rw [answer_eq, run_eq, Run.result_bind, Run.events_bind, hresult, events_compile_regular hp]
  rfl

/-- A pattern that compiles is answered by its matcher, and listed matches are noted after the
compilation. -/
theorem answer_of_ok (h : Matcher.compile p.text q.flags = .ok m) : q.answer p =
    { value := q.answerBy m
      events := .log (.compile p.text q.flags) ::
        (q.searched?.map fun text =>
          .log (.matchAll text p.text (m.matchedTexts text))).toList } := by
  have hresult : (p.compile q.flags).result = .ok (.regular m) := by
    rw [Pattern.result_compile hp, h]
    rfl
  rw [answer_eq, run_eq, Run.result_bind, Run.events_bind, hresult, events_compile_regular hp]
  simp only [Except.bind, result_runWith_regular, events_runWith_regular,
    Matcher.pattern_of_compile h]
  rfl

end Regular

/-- With the recording engine a search notes that it compiles, and nothing else. -/
theorem events_answer_recording (hp : p.engine = .recording) :
    (q.answer p).events = [.compiled p.text q.flags] := by
  rw [answer_eq, run_eq]
  simp only [Run.events_bind, Pattern.compile, hp, Engine.compile, Run.events_note]
  exact congrArg _ events_runWith_recorded

end Query

/-- What an engine notes when it is asked to compile. -/
def Engine.compileEvent (pattern : String) (flags : Flags) : Engine → Event
  | regular => .log (.compile pattern flags)
  | recording => .compiled pattern flags

/-- A search notes that it compiles, first of all and once; what it may note besides are
matches. -/
theorem Query.events_answer (p : Pattern) (q : Query) : ∃ listings,
    (q.answer p).events = p.engine.compileEvent p.text q.flags :: listings ∧
      ∀ event ∈ listings, ∃ text found, event = .log (.matchAll text p.text found) := by
  cases hp : p.engine with
  | recording => exact ⟨[], events_answer_recording hp, List.forall_mem_nil _⟩
  | regular =>
    cases h : Matcher.compile p.text q.flags with
    | error e =>
      exact ⟨[], congrArg Traced.events (answer_of_error hp h), List.forall_mem_nil _⟩
    | ok m =>
      refine ⟨_, congrArg Traced.events (answer_of_ok hp h), ?_⟩
      cases q.searched? with
      | none => exact List.forall_mem_nil _
      | some text => exact List.forall_mem_singleton.2 ⟨text, _, rfl⟩

/-! ## One action -/

/-- The record is not of a compilation. -/
def LogRecord.IsOther (r : LogRecord) : Prop := ∀ pattern flags, r ≠ .compile pattern flags

/-- Warnings are not of compilations. -/
theorem Step.isOther_of_warning {s : Step} {text : String} {n : Nat} {r : LogRecord}
    (h : s.warning text n = some r) : r.IsOther := by
  intro pattern flags
  rintro rfl
  cases s <;> simp [warning] at h

namespace Action

variable {β : Type} {f : Event → Option β}

/-- The search of an action, if it is one. -/
def query? : Action → Option Query
  | query q => some q
  | _ => none

theorem events_step (p : Pattern) (s : Step) :
    ((step s).answered p).events = (s.warning p.text p.openOptions).toList.map .log :=
  List.append_nil _

theorem answered_query (p : Pattern) (q : Query) : (query q).answered p = q.answer p := by
  have h : (q.answer p).events ++ [] = (q.answer p).events := List.append_nil _
  exact congrArg (Traced.mk (q.answer p).value) h

/-- Whoever looks at compilations only sees one for each search, and none else. -/
theorem filterMap_events (hf : ∀ r : LogRecord, r.IsOther → f (.log r) = none) (p : Pattern)
    (a : Action) : (a.answered p).events.filterMap f =
      (a.query?.bind fun q => f (p.engine.compileEvent p.text q.flags)).toList := by
  cases a with
  | step s =>
    rw [events_step, List.filterMap_map]
    cases h : s.warning p.text p.openOptions with
    | none => rfl
    | some r => exact List.filterMap_cons_none (hf r (s.isOther_of_warning h))
  | query q =>
    obtain ⟨listings, hevents, hlistings⟩ := q.events_answer p
    have hnone : listings.filterMap f = [] := by
      rw [List.filterMap_eq_nil_iff]
      intro event hevent
      obtain ⟨text, found, rfl⟩ := hlistings event hevent
      exact hf _ nofun
    rw [answered_query, hevents, List.filterMap_cons, hnone]
    cases h : f (p.engine.compileEvent p.text q.flags) <;> simp [query?, h]
  | _ => rfl

end Action

/-! ## What is compiled in a session -/

/-- What an engine, whichever it is, is asked to compile by an event. -/
def Event.request? : Event → Option (String × Flags)
  | log (.compile pattern flags) | compiled pattern flags => some (pattern, flags)
  | log _ => none

/-- The searches of a session in order, each with what is done before it. -/
def searches (actions : List Action) : List (List Action × Query) :=
  (actions.inits.zip actions).filterMap fun x => x.2.query?.map (x.1, ·)

/-- In a session, whoever looks at compilations only sees one for each search. -/
theorem flatMap_filterMap_events {β : Type} {f : Event → Option β} {p : Pattern}
    {actions : List Action} (hf : ∀ r : LogRecord, r.IsOther → f (.log r) = none) :
    (perform p actions).2.flatMap (fun x => x.events.filterMap f) =
      (searches actions).filterMap fun s =>
        f ((perform p s.1).1.engine.compileEvent (perform p s.1).1.text s.2.flags) := by
  rw [perform_snd, List.flatMap_map, searches, List.filterMap_filterMap,
    List.filterMap_eq_flatMap_toList]
  congr
  funext x
  rw [Action.filterMap_events hf]
  cases x.2.query? <;> rfl

/-- The flags for which the searches compile. -/
structure FlagTable (flags : Query → Flags) : Prop where
  isIn (text : String) : flags (.isIn text) = {}
  firstMatch (text : String) : flags (.firstMatch text) = {}
  matchList (text : String) (o : SearchOptions) : flags (.matchList text o) = o.toFlags
  matchListByDefault (text : String) : (flags (.matchListByDefault text)).toText = "gm"
  count (text : String) (o : SearchOptions) :
    flags (.count text o) = o.toFlags.withGlobal true
  countByDefault (text : String) : (flags (.countByDefault text)).toText = "gm"
  replaceFirst (text template : String) (o : SearchOptions) :
    flags (.replaceFirst text template o) = o.toFlags.withGlobal false
  replaceFirstByDefault (text template : String) :
    (flags (.replaceFirstByDefault text template)).toText = "m"
  replaceAll (text template : String) (o : SearchOptions) :
    flags (.replaceAll text template o) = o.toFlags.withGlobal true
  replaceAllByDefault (text template : String) :
    (flags (.replaceAllByDefault text template)).toText = "gm"

/-- The table gives the flags of the searches, and no others. -/
theorem flagTable_iff {flags : Query → Flags} : FlagTable flags ↔ flags = Query.flags := by
  constructor
  · intro h
    funext q
    cases q with
    | isIn text => exact h.isIn text
    | firstMatch text => exact h.firstMatch text
    | matchList text o => exact h.matchList text o
    | count text o => exact h.count text o
    | replaceFirst text template o => exact h.replaceFirst text template o
    | replaceAll text template o => exact h.replaceAll text template o
  · rintro rfl
    constructor <;> intros <;> rfl

namespace Beginning

/-- What the recording engines of a session keep; they share one list. -/
def compilations (b : Beginning) (actions : List Action) : List (String × Flags) :=
  (perform b.pattern actions).2.flatMap Traced.compilations

/-- What the engines of a session are asked to compile, whichever is in force. -/
def requests (b : Beginning) (actions : List Action) : List (String × Flags) :=
  (perform b.pattern actions).2.flatMap fun x => x.events.filterMap Event.request?

/-- Every search of a session compiles the text as it is at that moment, and nothing else
compiles. Compilations are kept that come while a recording engine is in force. -/
structure NothingCached (b : Beginning) (actions : List Action) : Prop where
  requests : b.requests actions =
    (searches actions).map fun s => ((b.after s.1).text, s.2.flags)
  compilations : b.compilations actions =
    ((searches actions).filter fun s => (b.after s.1).engine = .recording).map fun s =>
      ((b.after s.1).text, s.2.flags)
  others (a : Action) (h : a.query? = none) :
    (a.answered (b.after actions)).events.filterMap Event.request? = []

end Beginning

/-- **Nothing is cached.** In every session, every search compiles the text at that moment
once, for the flags of the table. The list that recording engines share has these compilations
in order, as far as a recording engine is in force; and nothing but searches compiles. -/
theorem nothing_cached (b : Beginning) (actions : List Action) :
    (∀ flags, FlagTable flags ↔ flags = Query.flags) ∧ b.NothingCached actions := by
  have hrequest (r : LogRecord) (hr : r.IsOther) : Event.request? (.log r) = none := by
    cases r with
    | compile pattern flags => exact absurd rfl (hr pattern flags)
    | _ => rfl
  -- Each list is what a session shows to one who looks at compilations only: at all, or at
  -- those kept.
  refine ⟨fun flags => flagTable_iff, ?_, ?_, ?_⟩
  · rw [Beginning.requests, flatMap_filterMap_events hrequest, ← List.filterMap_eq_map]
    congr
    funext s
    show Event.request? ((b.after s.1).engine.compileEvent _ _) = _
    cases (b.after s.1).engine <;> rfl
  · rw [Beginning.compilations, ← List.filterMap_eq_map, List.filterMap_filter]
    refine (flatMap_filterMap_events fun _ _ => rfl).trans ?_
    congr
    funext s
    show Event.compilation? ((b.after s.1).engine.compileEvent _ _) = _
    cases (b.after s.1).engine <;> rfl
  · intro a ha
    rw [Action.filterMap_events hrequest, ha]
    rfl

/-! ## The log of a session -/

/-- The answer agrees with the matches that were listed. -/
def Answer.Lists (found : List String) : Answer → Prop
  | texts ts => ts = listed found
  | text t => t = found.head?
  | number n => n = found.length
  | _ => False

/-- What the log says of a search: that the text is compiled for the flags of the search, and
then, if it compiles and the search lists matches, which matches there are. -/
def Query.Logged (p : Pattern) (q : Query) (x : Traced Answer) : Prop :=
  (∃ e, (p.compile q.flags).result = .error e ∧ x.value = .refused e ∧
      x.records = [.compile p.text q.flags]) ∨
    (∃ m, (p.compile q.flags).result = .ok m) ∧ (∀ e, x.value ≠ .refused e) ∧
      match q.searched? with
      | none => x.records = [.compile p.text q.flags]
      | some text => ∃ found, x.value.Lists found ∧
          x.records = [.compile p.text q.flags, .matchAll text p.text found]

/-- What the log says of an action on a pattern: a warning if an option begins or a group is
closed while none is open, what belongs to a search, and nothing else. -/
def Action.Logged (p : Pattern) (x : Traced Answer) : Action → Prop
  | step (.nextOption _) =>
    x.records = if p.isEnteringOptions then [] else [.optionOutside p.text]
  | step .closeOptions =>
    x.records = if p.isEnteringOptions then [] else [.closeOutside p.text]
  | query q => q.Logged p x
  | _ => x.records = []

theorem Query.logged_answer {p : Pattern} (hp : p.engine = .regular) (q : Query) :
    q.Logged p (q.answer p) := by
  rw [Logged, Pattern.result_compile hp]
  cases h : Matcher.compile p.text q.flags with
  | error e =>
    rw [answer_of_error hp h]
    exact .inl ⟨e, rfl, rfl, rfl⟩
  | ok m =>
    rw [answer_of_ok hp h]
    refine .inr ⟨⟨.regular m, rfl⟩, ?_, ?_⟩
    · cases q <;> nofun
    · cases q with
      | isIn _ | replaceFirst _ _ _ | replaceAll _ _ _ => rfl
      | firstMatch text | matchList text _ | count text _ =>
        exact ⟨m.matchedTexts text, rfl, rfl⟩

/-- The log has the warning of a step, if there is one. -/
theorem Action.records_step (p : Pattern) (s : Step) :
    ((step s).answered p).records = (s.warning p.text p.openOptions).toList := by
  rw [Traced.records, events_step, List.filterMap_map]
  exact List.filterMap_some

theorem Action.logged_answered {p : Pattern} (hp : p.engine = .regular) (a : Action) :
    a.Logged p (a.answered p) := by
  cases a with
  | step s =>
    have hopen : p.isEnteringOptions = true ↔ ¬ p.openOptions = 0 := by
      rw [Pattern.isEnteringOptions, decide_eq_true_eq, Nat.pos_iff_ne_zero]
    cases s with
    | nextOption _ | closeOptions =>
      rw [Logged, records_step, Step.warning]
      by_cases h : p.openOptions = 0 <;> simp [hopen, h]
    | _ => exact records_step p _
  | query q =>
    rw [answered_query]
    exact q.logged_answer hp
  | _ => rfl

/-- **The log of a session is determined by its actions.** At every point of a session at
which the regular engine is in force, an action leaves the records that belong to it, and no
others. -/
theorem log_of_session (b : Beginning) (earlier : List Action) (a : Action)
    (later : List Action) (hregular : (b.after earlier).engine = .regular) :
    ∃ x, (perform b.pattern (earlier ++ a :: later)).2[earlier.length]? = some x ∧
      a.Logged (b.after earlier) x :=
  ⟨_, getElem?_perform_snd, a.logged_answered hregular⟩

/-- A group is closed that was not open, and what is searched with then is refused. -/
theorem log_of_session_refused :
    let b := Beginning.create (some "a")
    let earlier := [Action.step .closeOptions, .engine .recording, .engine .regular]
    let a := Action.query (.countByDefault "a")
    (b.after earlier).engine = .regular ∧
      (∃ x, (perform b.pattern (earlier ++ [a])).2[earlier.length]? = some x ∧
        a.Logged (b.after earlier) x) ∧
      (perform b.pattern (earlier ++ [a])).2.flatMap Traced.records =
        [.closeOutside "a", .compile "a)" { global := true, multiLine := true }] :=
  ⟨rfl, log_of_session _ _ _ _ rfl, rfl⟩

end PatternAssembly
