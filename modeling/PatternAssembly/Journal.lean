import PatternAssembly.Matcher

/-!
# What a run notes down

Some operations leave a record in the log, and the recording engine keeps a list of what it
was asked to compile. Both are part of the result of a run, in the order in which they arose.

## Main definitions

* `LogRecord`, with `LogRecord.text`
* `Event`: a record or a compilation that the recording engine noted
* `Traced`: a result with its events
-/
namespace PatternAssembly

/-- A text with its quotes, in a list of texts. -/
def quoteList (texts : List String) : String :=
  "[" ++ String.intercalate ", " (texts.map Text.quote) ++ "]"

/-- A truth value in a record. -/
def boolText (b : Bool) : String := if b then "true" else "false"

/-- A record in the log. One about a group of options holds the text of the pattern before the
step. -/
inductive LogRecord where
  | optionOutside (text : String)
  | closeOutside (text : String)
  | compile (pattern : String) (flags : Flags)
  | matchAll (text pattern : String) (found : List String)
deriving DecidableEq

/-- The flags in a record. -/
def Flags.record (f : Flags) : String :=
  "Flags \x7b global: " ++ boolText f.global ++ ", multi_line: " ++ boolText f.multiLine
    ++ ", case_insensitive: " ++ boolText f.ignoreCase ++ " \x7d"

/-- A record as the log shows it: its level and its message. -/
def LogRecord.text : LogRecord → String
  | optionOutside t => "WARN or() called outside of an options group in " ++ Text.quote t
  | closeOutside t =>
    "WARN stop_entering_options() without an open options group in " ++ Text.quote t
  | compile p f => "DEBUG compile(" ++ Text.quote p ++ ", " ++ f.record ++ ")"
  | matchAll t p found =>
    "DEBUG match_all(" ++ Text.quote t ++ ") against Regex(" ++ Text.quote p ++ "): "
      ++ quoteList found

/-- Something noted down during a run. -/
inductive Event where
  | log (r : LogRecord)
  | compiled (pattern : String) (flags : Flags)
deriving DecidableEq

/-- The record of an event, if it is one in the log. -/
def Event.record? : Event → Option LogRecord
  | log r => some r
  | compiled _ _ => none

/-- The compilation that an event noted, if it did. -/
def Event.compilation? : Event → Option (String × Flags)
  | compiled p f => some (p, f)
  | log _ => none

/-- A result, and what was noted down on the way to it. -/
structure Traced (α : Type) where
  value : α
  events : List Event := []

namespace Traced

variable {α β : Type}

/-- A result for which nothing is noted down. -/
def silent (a : α) : Traced α := { value := a }

/-- One event. -/
def note (e : Event) : Traced Unit := { value := (), events := [e] }

/-- A result, and then what follows from it; the events of both in order. -/
def andThen (x : Traced α) (f : α → Traced β) : Traced β :=
  { value := (f x.value).value, events := x.events ++ (f x.value).events }

instance : Monad Traced where
  pure := silent
  bind := andThen

@[simp] theorem value_pure (a : α) : (pure a : Traced α).value = a := rfl

@[simp] theorem events_pure (a : α) : (pure a : Traced α).events = [] := rfl

@[simp] theorem value_bind (x : Traced α) (f : α → Traced β) :
    (x >>= f).value = (f x.value).value := rfl

@[simp] theorem events_bind (x : Traced α) (f : α → Traced β) :
    (x >>= f).events = x.events ++ (f x.value).events := rfl

instance : LawfulMonad Traced :=
  LawfulMonad.mk' Traced
    (fun x => by cases x; simp [Functor.map, andThen, silent])
    (fun a f => by simp [bind, pure, andThen, silent])
    (fun x f g => by simp [bind, andThen])

/-- The log of a run. -/
def records (x : Traced α) : List LogRecord := x.events.filterMap Event.record?

/-- What the recording engine noted in a run. -/
def compilations (x : Traced α) : List (String × Flags) :=
  x.events.filterMap Event.compilation?

end Traced

end PatternAssembly
