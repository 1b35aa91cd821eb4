import PatternAssembly.Pattern.Search

/-!
# Sessions

A session is a pattern and what is done with it, one action after another. An action that is
refused leaves the pattern as it is, and the session goes on.

## Main definitions

* `Query`: what may be asked of a pattern and a text
* `Action`: steps, changes of the engine and questions
* `Answer`: what an action answers
* `Action.perform`, `perform`: one action, and several
-/
namespace PatternAssembly

/-- A search with a pattern. The first match is looked for without flags. -/
inductive Query where
  | isIn (text : String)
  | firstMatch (text : String)
  | matchList (text : String) (o : SearchOptions)
  | count (text : String) (o : SearchOptions)
  | replaceFirst (text template : String) (o : SearchOptions)
  | replaceAll (text template : String) (o : SearchOptions)
deriving DecidableEq

namespace Query

/-- The matches, with the options that hold by default. -/
abbrev matchListByDefault (text : String) : Query := matchList text {}

/-- The number of matches, with the options that hold by default. -/
abbrev countByDefault (text : String) : Query := count text {}

/-- The text with the first match replaced, with the options that hold by default. -/
abbrev replaceFirstByDefault (text template : String) : Query := replaceFirst text template {}

/-- The text with every match replaced, with the options that hold by default. -/
abbrev replaceAllByDefault (text template : String) : Query := replaceAll text template {}

end Query

/-- What is done with a pattern. -/
inductive Action where
  | step (s : Step)
  | engine (e : Engine)
  | build
  | isEnteringOptions
  | shown
  | query (q : Query)
deriving DecidableEq

/-- What an action answers. After a change of the pattern this is its text, and whether a
group of options is open. -/
inductive Answer where
  | pattern (text : String) (isOpen : Bool)
  | truth (b : Bool)
  | text (t : Option String)
  | texts (ts : Option (List String))
  | number (n : Nat)
  | refused (e : PatternError)
deriving DecidableEq

/-- The run of a query. -/
def Query.run (p : Pattern) : Query → Run Answer
  | isIn text => do pure (.truth (← p.isIn text))
  | firstMatch text => do pure (.text (← p.firstMatchIn text))
  | matchList text o => do pure (.texts (← p.matchesIn text o))
  | count text o => do pure (.number (← p.countIn text o))
  | replaceFirst text template o => do pure (.text (some (← p.replaceFirst text template o)))
  | replaceAll text template o => do pure (.text (some (← p.replaceAll text template o)))

/-- What a query answers; a refusal is an answer. -/
def Query.answer (p : Pattern) (q : Query) : Traced Answer := do
  match ← (q.run p).run with
  | .ok a => pure a
  | .error e => pure (.refused e)

/-- The pattern after an action, and the answer. -/
def Action.perform (p : Pattern) : Action → Traced (Pattern × Answer)
  | step s => do
    let p ← p.add s
    pure (p, .pattern p.text p.isEnteringOptions)
  | engine e =>
    let p := p.withEngine e
    pure (p, .pattern p.text p.isEnteringOptions)
  | build => pure (p, .text (some p.text))
  | isEnteringOptions => pure (p, .truth p.isEnteringOptions)
  | shown => pure (p, .text p.shown)
  | query q => do
    let a ← q.answer p
    pure (p, a)

/-- The pattern after several actions, and each action's answer with its events. -/
def perform (p : Pattern) : List Action → Pattern × List (Traced Answer)
  | [] => (p, [])
  | a :: rest =>
    let first := a.perform p
    let (final, answers) := perform first.value.1 rest
    (final, { value := first.value.2, events := first.events } :: answers)

end PatternAssembly
