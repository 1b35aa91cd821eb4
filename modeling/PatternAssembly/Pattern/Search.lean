import PatternAssembly.Pattern

/-!
# Searching with a pattern

Every search compiles the text of the pattern as it is at that moment; nothing is kept for the
next one.

## Main definitions

* `Pattern.isIn`, `Pattern.firstMatchIn`: searches without flags
* `Pattern.matchesIn`, `Pattern.countIn`: lists and numbers of matches
* `Pattern.replaceFirst`, `Pattern.replaceAll`: replacements
-/
namespace PatternAssembly.Pattern

/-- The pattern compiled for the given flags. -/
def compile (p : Pattern) (flags : Flags) : Run CompiledPattern :=
  p.engine.compile p.text flags

/-- Some part of the text matches. -/
def isIn (p : Pattern) (text : String) : Run Bool := do
  let m ← p.compile {}
  pure (m.test text)

/-- The first match, looked for without flags. -/
def firstMatchIn (p : Pattern) (text : String) : Run (Option String) := do
  let m ← p.compile {}
  let found ← m.matchAll text
  pure (found.bind List.head?)

/-- The matches, or with `allMatches` off the first one; `none` rather than an empty list. -/
def matchesIn (p : Pattern) (text : String) (o : SearchOptions) :
    Run (Option (List String)) := do
  let m ← p.compile o.toFlags
  m.matchAll text

/-- The number of matches, whatever `allMatches` says. -/
def countIn (p : Pattern) (text : String) (o : SearchOptions) : Run Nat := do
  let found ← p.matchesIn text { o with allMatches := true }
  pure ((found.map List.length).getD 0)

/-- The text with matches replaced, as the flags say. -/
def replaceWith (p : Pattern) (text template : String) (flags : Flags) : Run String := do
  let m ← p.compile flags
  pure (m.replace text template)

/-- The text with the first match replaced, whatever `allMatches` says. -/
def replaceFirst (p : Pattern) (text template : String) (o : SearchOptions) : Run String :=
  p.replaceWith text template (o.toFlags.withGlobal false)

/-- The text with every match replaced, whatever `allMatches` says. -/
def replaceAll (p : Pattern) (text template : String) (o : SearchOptions) : Run String :=
  p.replaceWith text template (o.toFlags.withGlobal true)

end PatternAssembly.Pattern
