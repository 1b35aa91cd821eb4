import PatternAssembly.Proofs.Session

/-!
# The text of a pattern

A pattern is the text it starts with and the fragments of its steps, in the order in which
they were added. What fragment a step adds stands in a table, by the name of the step and what
the caller supplies; only a literal text depends on the engine in force as well. Nothing else
does: not the text before, not the open groups, not an engine that comes later.

## Main definitions

* `FragmentTable`: the table of fragments
* `Action.steps`, `fragments`: what a session adds
* `Beginning`: how a pattern begins

## Main statements

* `fragmentTable_iff`: the fragments of the steps are those of the table, and no others
* `text_foldl_next`: what a session adds to the text
* `fragments_in_call_order`: the text of a pattern, at every point of a session
-/
namespace PatternAssembly

variable {p : Pattern} {e : Engine} {escape : String → String} {frag : Step → String}
  {a : Action} {actions earlier later : List Action}

/-! ## The table of fragments -/

/-- The table of fragments, where `escape` writes a literal text. What the caller supplies is
inserted as it is; what is left out, where that may be, is the same as an empty text. -/
structure FragmentTable (escape : String → String) (frag : Step → String) : Prop where
  append (v : String) : frag (.append v) = v
  contains (v : String) : frag (.contains v) = frag (.append v)
  startsWith (v : String) : frag (.startsWith (some v)) = "^" ++ v
  startsWith_none : frag (.startsWith none) = frag (.startsWith (some ""))
  endsWith (v : String) : frag (.endsWith (some v)) = v ++ "$"
  endsWith_none : frag (.endsWith none) = frag (.endsWith (some ""))
  equalsTo (v : String) : frag (.equalsTo v) = "^" ++ v ++ "$"
  -- A quantity with a sequence repeats the sequence, one without it the unit before.
  sequence (q : Quantity) (v : String) (h : v ≠ "") :
    frag (.repeated q (some v)) = "(" ++ v ++ ")" ++ frag (.repeated q none)
  sequence_none (q : Quantity) : frag (.repeated q none) = frag (.repeated q (some ""))
  canHaveAnyAmount : frag (.canHaveAnyAmount none) = "*"
  canHave (v : Option String) : frag (.canHave v) = frag (.canHaveAnyAmount v)
  oneOrMore : frag (.repeated .oneOrMore none) = "+"
  atMostOne : frag (.repeated .atMostOne none) = "?"
  ofAmount (n : Nat) : frag (.ofAmount n none) = "\x7b" ++ toString n ++ "\x7d"
  hasAmount (n : Nat) (v : Option String) : frag (.hasAmount n v) = frag (.ofAmount n v)
  ofAmountInRange (lo hi : Nat) :
    frag (.ofAmountInRange lo (some hi) none) =
      "\x7b" ++ toString lo ++ "," ++ toString hi ++ "\x7d"
  ofAmountInRange_none (lo : Nat) :
    frag (.ofAmountInRange lo none none) = "\x7b" ++ toString lo ++ ",\x7d"
  hasAmountInRange (lo : Nat) (hi : Option Nat) (v : Option String) :
    frag (.hasAmountInRange lo hi v) = frag (.ofAmountInRange lo hi v)
  openOptions (v : String) : frag (.openOptions (some v)) = "(" ++ v
  openOptions_none : frag (.openOptions none) = frag (.openOptions (some ""))
  nextOption (v : String) : frag (.nextOption (some v)) = "|" ++ v
  nextOption_none : frag (.nextOption none) = frag (.nextOption (some ""))
  closeOptions : frag .closeOptions = ")"
  oneOf_nil : frag (.oneOf []) = "()"
  oneOf_cons (v : String) (vs : List String) :
    frag (.oneOf (v :: vs)) = "(" ++ v ++ String.join (vs.map ("|" ++ ·)) ++ ")"
  characterOf (v : String) : frag (.characterOf v) = "[" ++ v ++ "]"
  characterExcept (v : String) : frag (.characterExcept v) = "[^" ++ v ++ "]"
  whole (v : String) : frag (.word .whole v) = "\\b" ++ v ++ "\\b"
  start (v : String) : frag (.word .start v) = "\\b" ++ v ++ "\\B"
  stop (v : String) : frag (.word .stop v) = "\\B" ++ v ++ "\\b"
  inside (v : String) : frag (.word .inside v) = "\\B" ++ v ++ "\\B"
  digit : frag (.shape .digit) = "\\d"
  nonDigit : frag (.shape .nonDigit) = "\\D"
  wordCharacter : frag (.shape .wordCharacter) = "\\w"
  nonWordCharacter : frag (.shape .nonWordCharacter) = "\\W"
  space : frag (.shape .space) = "\\s"
  nonSpace : frag (.shape .nonSpace) = "\\S"
  any : frag (.shape .any) = "."
  letter : frag (.shape .letter) = "[a-zA-Z]"
  lowercaseLetter : frag (.shape .lowercaseLetter) = "[a-z]"
  uppercaseLetter : frag (.shape .uppercaseLetter) = "[A-Z]"
  integer : frag (.shape .integer) = "^(-?\\d+)$"
  decimal : frag (.shape .decimal) = "^(-?\\d*)[.,](\\d+)$"
  fraction : frag (.shape .fraction) = "^(-?\\d+)[/](-?\\d+)$"
  hexColor : frag (.shape .hexColor) = "\\B#([a-fA-F0-9]\x7b6\x7d|[a-fA-F0-9]\x7b3\x7d)\\b"
  literal (v : String) : frag (.literal v) = escape v

/-- Texts with a separator between them are the first text, and the separator before each
other one. -/
theorem intercalate_cons (separator v : String) (vs : List String) :
    String.intercalate separator (v :: vs) = v ++ String.join (vs.map (separator ++ ·)) := by
  induction vs generalizing v with
  | nil => simp [String.intercalate_singleton]
  | cons w vs ih =>
    rw [String.intercalate_cons_cons, ih, List.map_cons, String.join_cons]
    simp only [String.append_assoc]

/-- The fragments of the steps are those of the table. -/
theorem fragmentTable_fragment (e : Engine) : FragmentTable e.escape (Step.fragment e) where
  append _ := rfl
  contains _ := rfl
  startsWith _ := rfl
  startsWith_none := rfl
  endsWith _ := rfl
  endsWith_none := rfl
  equalsTo _ := rfl
  sequence q v h := by simp [Step.fragment, Step.group, h]
  sequence_none _ := rfl
  canHaveAnyAmount := rfl
  canHave _ := rfl
  oneOrMore := rfl
  atMostOne := rfl
  ofAmount n := by simp [Step.fragment, Step.group, Quantity.sign]
  hasAmount _ _ := rfl
  ofAmountInRange lo hi := by simp [Step.fragment, Step.group, Quantity.sign]
  ofAmountInRange_none lo := by
    simp [Step.fragment, Step.group, Quantity.sign, String.append_assoc]
  hasAmountInRange _ _ _ := rfl
  openOptions _ := rfl
  openOptions_none := rfl
  nextOption _ := rfl
  nextOption_none := rfl
  closeOptions := rfl
  oneOf_nil := rfl
  oneOf_cons v vs := by rw [Step.fragment, intercalate_cons]; simp only [String.append_assoc]
  characterOf _ := rfl
  characterExcept _ := rfl
  whole _ := rfl
  start _ := rfl
  stop _ := rfl
  inside _ := rfl
  digit := rfl
  nonDigit := rfl
  wordCharacter := rfl
  nonWordCharacter := rfl
  space := rfl
  nonSpace := rfl
  any := rfl
  letter := rfl
  lowercaseLetter := rfl
  uppercaseLetter := rfl
  integer := rfl
  decimal := rfl
  fraction := rfl
  hexColor := rfl
  literal _ := rfl

namespace FragmentTable

variable {frag' : Step → String} (h : FragmentTable escape frag)
    (h' : FragmentTable escape frag')
include h h'

/-- The table fixes the signs of the quantities. -/
theorem sign_unique (q : Quantity) : frag (.repeated q none) = frag' (.repeated q none) := by
  cases q with
  | anyAmount => rw [h.canHaveAnyAmount, h'.canHaveAnyAmount]
  | oneOrMore => rw [h.oneOrMore, h'.oneOrMore]
  | atMostOne => rw [h.atMostOne, h'.atMostOne]
  | exactly n => rw [h.ofAmount, h'.ofAmount]
  | between lo hi =>
    cases hi with
    | none => rw [h.ofAmountInRange_none, h'.ofAmountInRange_none]
    | some hi => rw [h.ofAmountInRange, h'.ofAmountInRange]

/-- The table fixes the fragments of the quantities. -/
theorem repeated_unique (q : Quantity) (sequence : Option String) :
    frag (.repeated q sequence) = frag' (.repeated q sequence) := by
  cases sequence with
  | none => exact h.sign_unique h' q
  | some v =>
    by_cases hv : v = ""
    · rw [hv, ← h.sequence_none, ← h'.sequence_none, h.sign_unique h']
    · rw [h.sequence q v hv, h'.sequence q v hv, h.sign_unique h']

/-- The table fixes the fragments without arguments. -/
theorem shape_unique (s : Shape) : frag (.shape s) = frag' (.shape s) := by
  cases s with
  | digit => rw [h.digit, h'.digit]
  | nonDigit => rw [h.nonDigit, h'.nonDigit]
  | wordCharacter => rw [h.wordCharacter, h'.wordCharacter]
  | nonWordCharacter => rw [h.nonWordCharacter, h'.nonWordCharacter]
  | space => rw [h.space, h'.space]
  | nonSpace => rw [h.nonSpace, h'.nonSpace]
  | any => rw [h.any, h'.any]
  | letter => rw [h.letter, h'.letter]
  | lowercaseLetter => rw [h.lowercaseLetter, h'.lowercaseLetter]
  | uppercaseLetter => rw [h.uppercaseLetter, h'.uppercaseLetter]
  | integer => rw [h.integer, h'.integer]
  | decimal => rw [h.decimal, h'.decimal]
  | fraction => rw [h.fraction, h'.fraction]
  | hexColor => rw [h.hexColor, h'.hexColor]

/-- The table fixes every fragment. -/
theorem unique : frag = frag' := by
  funext s
  cases s with
  | append v => rw [h.append, h'.append]
  | startsWith v =>
    cases v with
    | none => rw [h.startsWith_none, h'.startsWith_none, h.startsWith, h'.startsWith]
    | some v => rw [h.startsWith, h'.startsWith]
  | endsWith v =>
    cases v with
    | none => rw [h.endsWith_none, h'.endsWith_none, h.endsWith, h'.endsWith]
    | some v => rw [h.endsWith, h'.endsWith]
  | equalsTo v => rw [h.equalsTo, h'.equalsTo]
  | repeated q sequence => exact h.repeated_unique h' q sequence
  | oneOf values =>
    cases values with
    | nil => rw [h.oneOf_nil, h'.oneOf_nil]
    | cons v vs => rw [h.oneOf_cons, h'.oneOf_cons]
  | characterOf v => rw [h.characterOf, h'.characterOf]
  | characterExcept v => rw [h.characterExcept, h'.characterExcept]
  | word position v =>
    cases position with
    | whole => rw [h.whole, h'.whole]
    | start => rw [h.start, h'.start]
    | stop => rw [h.stop, h'.stop]
    | inside => rw [h.inside, h'.inside]
  | shape s => exact h.shape_unique h' s
  | literal v => rw [h.literal, h'.literal]
  | openOptions v =>
    cases v with
    | none => rw [h.openOptions_none, h'.openOptions_none, h.openOptions, h'.openOptions]
    | some v => rw [h.openOptions, h'.openOptions]
  | nextOption v =>
    cases v with
    | none => rw [h.nextOption_none, h'.nextOption_none, h.nextOption, h'.nextOption]
    | some v => rw [h.nextOption, h'.nextOption]
  | closeOptions => rw [h.closeOptions, h'.closeOptions]

end FragmentTable

/-- The table gives the fragments of the steps, and nothing else. -/
theorem fragmentTable_iff : FragmentTable e.escape frag ↔ frag = Step.fragment e := by
  constructor
  · intro h
    exact h.unique (fragmentTable_fragment e)
  · intro h
    rw [h]
    exact fragmentTable_fragment e

/-! ## The fragments of a session -/

/-- The step that an action adds, if it does. -/
def Action.step? : Action → Option Step
  | step s => some s
  | _ => none

/-- The engine in force after an action. -/
def Action.engineAfter (e : Engine) : Action → Engine
  | engine e' => e'
  | _ => e

/-- The steps that a session adds. -/
def Action.steps (actions : List Action) : List Step := actions.filterMap Action.step?

/-- The fragments that a session adds, where the first engine is in force. -/
def fragments (e : Engine) : List Action → List String
  | [] => []
  | a :: rest => (a.step?.map (Step.fragment e)).toList ++ fragments (a.engineAfter e) rest

/-- What one action adds to the text. -/
theorem Action.text_next : (a.next p).text =
    p.text ++ String.join (a.step?.map (Step.fragment p.engine)).toList := by
  cases a <;> simp [next, step?, Pattern.after, Pattern.withEngine]

/-- The engine after one action. -/
theorem Action.engine_next : (a.next p).engine = a.engineAfter p.engine := by
  cases a <;> rfl

/-- What a session adds to the text. -/
theorem text_foldl_next : (actions.foldl Action.next p).text =
    p.text ++ String.join (fragments p.engine actions) := by
  induction actions generalizing p with
  | nil => simp [fragments]
  | cons a actions ih =>
    rw [List.foldl_cons, ih, Action.text_next, Action.engine_next, fragments,
      String.join_append, String.append_assoc]

/-- A session adds no literal text. -/
def WithoutLiterals (actions : List Action) : Prop := ∀ v, .literal v ∉ Action.steps actions

/-- Only a literal text depends on the engine. -/
theorem Step.fragment_congr {s : Step} {e' : Engine} (h : ∀ v, s ≠ .literal v) :
    s.fragment e = s.fragment e' := by
  cases s with
  | literal v => exact absurd rfl (h v)
  | _ => rfl

/-- Where no literal text is added, the fragments are those of the steps, whatever engine is
in force. -/
theorem fragments_eq_map (h : WithoutLiterals actions) :
    fragments e actions = (Action.steps actions).map (Step.fragment .regular) := by
  induction actions generalizing e with
  | nil => rfl
  | cons a actions ih =>
    cases a with
    | step s =>
      have hsteps : Action.steps (.step s :: actions) = s :: Action.steps actions := rfl
      simp only [WithoutLiterals, hsteps, List.mem_cons, not_or] at h
      have hs : s.fragment e = s.fragment .regular :=
        Step.fragment_congr fun v hv => (h v).1 hv.symm
      have hrest : fragments e actions = _ := ih fun v => (h v).2
      simp [fragments, Action.step?, Action.engineAfter, hsteps, hs, hrest]
    | _ => exact ih h

/-! ## The text at every point of a session -/

/-- How a pattern begins: with a text or without one, as a text that is made a pattern, or
without anything. -/
inductive Beginning where
  | create (start : Option String)
  | ofText (text : String)
  | empty

namespace Beginning

/-- The text that a pattern begins with. -/
def text : Beginning → String
  | create start => start.getD ""
  | ofText text => text
  | empty => ""

/-- The pattern that there is at the beginning. -/
def pattern : Beginning → Pattern
  | create start => .create start
  | ofText text => .create (some text)
  | empty => {}

/-- The pattern after a session. -/
def after (b : Beginning) (actions : List Action) : Pattern := (perform b.pattern actions).1

/-- What an action is answered, between what is done earlier and what is done later. -/
def answer (b : Beginning) (earlier : List Action) (a : Action) (later : List Action) :
    Option Answer :=
  (perform b.pattern (earlier ++ a :: later)).2[earlier.length]?.map Traced.value

variable {b : Beginning}

/-- The answer is that of the pattern at this point, whatever is done later. -/
theorem answer_eq : b.answer earlier a later = some (a.perform (b.after earlier)).value.2 :=
  getElem?_perform

/-- The text after a session. -/
theorem text_after :
    (b.after actions).text = b.text ++ String.join (fragments .regular actions) := by
  rw [after, perform_fst, text_foldl_next]
  cases b <;> rfl

/-- The text after more of a session. -/
theorem text_after_append : (b.after (earlier ++ later)).text =
    (b.after earlier).text ++ String.join (fragments (b.after earlier).engine later) := by
  rw [after, perform_append, perform_fst, text_foldl_next, after]

/-- At a point of a session, the text is the one at the beginning and the fragments in their
order. What is done later goes behind it, every answer shows the text as it is, and without
literal texts it does not matter what engines are set. -/
structure InCallOrder (b : Beginning) (earlier later : List Action) : Prop where
  text : (b.after earlier).text = b.text ++ String.join (fragments .regular earlier)
  text_append : (b.after (earlier ++ later)).text =
    (b.after earlier).text ++ String.join (fragments (b.after earlier).engine later)
  text_prefix : (b.after earlier).text.toList <+: (b.after (earlier ++ later)).text.toList
  build : b.answer earlier .build later = some (.text (some (b.after earlier).text))
  step (s : Step) : b.answer earlier (.step s) later =
    some (.pattern ((b.after earlier).text ++ s.fragment (b.after earlier).engine)
      (0 < s.openAfter (b.after earlier).openOptions))
  engine (e : Engine) : b.answer earlier (.engine e) later =
    some (.pattern (b.after earlier).text (b.after earlier).isEnteringOptions)
  withoutLiterals (h : WithoutLiterals earlier) (others : List Action)
    (hsteps : Action.steps others = Action.steps earlier) :
    (b.after others).text = (b.after earlier).text

end Beginning

/-- **The pattern is the concatenation of the fragments in call order.** The fragments are
those of the table, for every engine, and at every point of every session the text is the one
at the beginning with the fragments of the steps so far. -/
theorem fragments_in_call_order (b : Beginning) (earlier later : List Action) :
    (∀ e frag, FragmentTable e.escape frag ↔ frag = Step.fragment e) ∧
      b.InCallOrder earlier later := by
  constructor
  · intro e frag
    exact fragmentTable_iff
  constructor
  case text => exact Beginning.text_after
  case text_append => exact Beginning.text_after_append
  case text_prefix =>
    rw [Beginning.text_after_append, String.toList_append]
    exact List.prefix_append _ _
  case build => exact Beginning.answer_eq
  case step => intro s; exact Beginning.answer_eq
  case engine => intro e; exact Beginning.answer_eq
  case withoutLiterals =>
    intro h others hsteps
    have hothers : WithoutLiterals others := by
      rw [WithoutLiterals, hsteps]
      exact h
    rw [Beginning.text_after, Beginning.text_after, fragments_eq_map h,
      fragments_eq_map hothers, hsteps]

/-- Before a literal text is added the engine does not matter; a literal text is written by
the engine in force, which may change again. -/
theorem fragments_in_call_order_engines :
    let b := Beginning.create (some "bo")
    let earlier := [Action.step (.shape .digit), .engine .recording, .build]
    let later := [Action.step (.literal "."), .engine .regular, .step (.literal ".")]
    WithoutLiterals earlier ∧ b.InCallOrder earlier later ∧
      (b.after (earlier ++ later)).text = "bo\\d<.>\\." := by
  intro b earlier later
  have hsteps : Action.steps earlier = [.shape .digit] := rfl
  refine ⟨?_, (fragments_in_call_order b earlier later).2, by decide +kernel⟩
  intro v hv
  simp [hsteps] at hv

end PatternAssembly
