import PatternAssembly.Tree.Cursor
import PatternAssembly.Unicode.Recent

/-!
# Reading what opens a group

After an opening parenthesis: nothing, a name, or flags. Flags that the closing parenthesis
follows are no group but change the modes of the enclosing one.

## Main definitions

* `GroupOpening`: the four forms
* `GroupOpening.read`: the form at the cursor
-/
namespace PatternAssembly

/-- The forms of what an opening parenthesis begins. -/
inductive GroupOpening where
  | modes (span : Span) (changes : ModeChanges)
  | plain (changes : ModeChanges)
  | numbered
  | named (span : Span) (name : String)

/-- The mode of a flag. -/
def modeOfFlag : Char → Option Mode
  | 'i' => some .ignoreCase
  | 'm' => some .multiLine
  | 's' => some .dotAll
  | 'U' => some .swapGreed
  | 'u' => some .unicode
  | 'R' => some .carriageReturn
  | 'x' => some .freeSpacing
  | _ => none

/-- Flags up to a colon or a closing parenthesis, which stays at the cursor. What was read so
far is in `seen`, the last one first, a minus sign as `none`. -/
def readFlags (seen : List (Option Mode × Span)) : (pos : Nat) → List Char →
    Except Fault (ModeChanges × Cursor)
  | pos, [] => refuse .flagUnexpectedEnd ⟨pos, pos⟩
  | pos, ch :: rest =>
    let span : Span := ⟨pos, pos + 1⟩
    let setting := !seen.any (·.1.isNone)
    if ch = ':' ∨ ch = ')' then
      match seen with
      | (none, dash) :: _ => refuse .flagDanglingNegation dash
      | _ => .ok ([], ⟨pos, ch :: rest⟩)
    else if ch = '-' then
      match seen.find? (·.1.isNone) with
      | some (_, earlier) =>
        .error { kind := .flagRepeatedNegation, span, earlier := some earlier }
      | none => readFlags ((none, span) :: seen) (pos + 1) rest
    else
      match modeOfFlag ch with
      | none => refuse .flagUnrecognized span
      | some mode =>
        match seen.find? (·.1 == some mode) with
        | some (_, earlier) =>
          .error { kind := .flagDuplicate, span, earlier := some earlier }
        | none => do
          let (changes, c) ← readFlags ((some mode, span) :: seen) (pos + 1) rest
          pure ((mode, setting) :: changes, c)

/-- A character that the name of a group may hold, respectively start with. -/
def isNameChar (isFirst : Bool) (c : Char) : Bool :=
  c == '_' || Unicode.nameLetters.has c ||
    !isFirst && (c == '.' || c == '[' || c == ']' || Unicode.nameNumbers.has c)

/-- The name of a group, up to the closing angle bracket, with its stretch of text. -/
def readName (c : Cursor) : Except Fault (Span × String × Cursor) :=
  if c.rest.isEmpty then refuse .groupNameUnexpectedEnd c.here
  else
    let name := c.rest.takeWhile (· != '>')
    match name.zipIdx.find? fun (ch, i) => !isNameChar (i == 0) ch with
    | some (_, i) => refuse .groupNameInvalid ⟨c.pos + i, c.pos + i + 1⟩
    | none =>
      let stop := c.pos + name.length
      match c.rest.dropWhile (· != '>') with
      | [] => refuse .groupNameUnexpectedEnd ⟨stop, stop⟩
      | _ :: rest =>
        if name.isEmpty then refuse .groupNameEmpty c.here
        else .ok (⟨c.pos, stop⟩, String.ofList name, ⟨stop + 1, rest⟩)

/-- The first of the texts that stands at the cursor, and the cursor after it. -/
def Cursor.afterAny? (texts : List String) (c : Cursor) : Option Cursor :=
  texts.findSome? fun text => c.after? text.toList

/-- What the opening parenthesis at the cursor begins. -/
def GroupOpening.read (free : Bool) (c : Cursor) : Except Fault (GroupOpening × Cursor) := do
  let opened := c.charSpan
  let c := c.advance free
  match c.afterAny? ["?=", "?!", "?<=", "?<!"] with
  | some after => refuse .unsupportedLookAround (after.spanFrom opened.start)
  | none =>
    match c.afterAny? ["?P<", "?<"] with
    | some after => do
      let (span, name, stop) ← readName after
      pure (.named span name, stop)
    | none =>
      match c.rest with
      | '?' :: _ =>
        let flags := c.next
        if flags.rest.isEmpty then refuse .groupUnclosed opened
        else do
          let (changes, stop) ← readFlags [] flags.pos flags.rest
          match stop.rest with
          | ')' :: _ =>
            if stop.pos = flags.pos then refuse .repetitionMissing c.here
            else pure (.modes (stop.next.spanFrom opened.start) changes, stop.next)
          | _ => pure (.plain changes, stop.next)
      | _ => pure (.numbered, c)

end PatternAssembly
