import PatternAssembly.Tree.Cursor

/-!
# Reading single signs

A character that stands for itself, the dot, an anchor, or a backslash with what belongs to
it.

## Main definitions

* `Atom`: a sign, as it may stand in a pattern or between square brackets
* `Atom.read`: the sign at the cursor
* `isMeta`, `isEscapable`: the characters that a backslash turns into themselves
-/
namespace PatternAssembly

/-- A sign that consists of one character or of a backslash and what belongs to it. -/
inductive Atom where
  | literal (l : Literal)
  | assertion (span : Span) (kind : Assertion)
  | dot (span : Span)
  | shorthand (span : Span) (kind : Shorthand) (negated : Bool)
  | property (span : Span) (query : Unicode.PropertyQuery) (negated : Bool)

/-- The stretch of text of a sign. -/
def Atom.span : Atom → Span
  | literal l => l.span
  | assertion s _ | dot s | shorthand s _ _ | property s _ _ => s

/-- The sign as a part of a pattern. -/
def Atom.toTree : Atom → Tree
  | literal l => .literal l
  | assertion s kind => .assertion s kind
  | dot s => .dot s
  | shorthand s kind negated => .shorthand s kind negated
  | property s query negated => .property s query negated

/-- The characters with a meaning in patterns; a backslash before one takes the meaning
away. -/
def isMeta (c : Char) : Bool :=
  ['\\', '.', '+', '*', '?', '(', ')', '|', '[', ']', '{', '}', '^', '$', '#', '&', '-',
    '~'].contains c

/-- The characters that stand for themselves after a backslash: every ASCII character but
letters, digits and the two angle brackets. -/
def isEscapable (c : Char) : Bool :=
  c.toNat < 0x80 && !c.isAlphanum && c != '<' && c != '>'

/-- The control characters that are written as a backslash and a letter. -/
def controlEscape : Char → Option Char
  | 'a' => some '\x07'
  | 'f' => some '\x0C'
  | 't' => some '\t'
  | 'n' => some '\n'
  | 'r' => some '\r'
  | 'v' => some '\x0B'
  | _ => none

/-- The classes that are written as a backslash and a letter; the capital letter negates. -/
def shorthandEscape : Char → Option (Shorthand × Bool)
  | 'd' => some (.digit, false)
  | 's' => some (.blank, false)
  | 'w' => some (.word, false)
  | 'D' => some (.digit, true)
  | 'S' => some (.blank, true)
  | 'W' => some (.word, true)
  | _ => none

/-- The places that are written as a backslash and a letter. -/
def placeEscape : Char → Option Assertion
  | 'A' => some .textStart
  | 'z' => some .textEnd
  | 'B' => some .notWordBoundary
  | '<' => some .wordStart
  | '>' => some .wordEnd
  | _ => none

/-- The value of a hexadecimal digit. -/
def hexDigit? (c : Char) : Option Nat :=
  if '0' ≤ c ∧ c ≤ '9' then some (c.toNat - 0x30)
  else if 'a' ≤ c ∧ c ≤ 'f' then some (c.toNat - 0x57)
  else if 'A' ≤ c ∧ c ≤ 'F' then some (c.toNat - 0x37)
  else none

/-- The number that hexadecimal digits write. -/
def hexValue (digits : List Char) : Nat :=
  digits.foldl (fun n d => 16 * n + (hexDigit? d).getD 0) 0

/-- The character of a code point. -/
def charOfCode? (n : Nat) : Option Char := if n.isValidChar then some (Char.ofNat n) else none

/-- Exactly `count` hexadecimal digits. -/
def readHexDigits (free : Bool) : (count : Nat) → Cursor → Except Fault (List Char × Cursor)
  | 0, c => .ok ([], c)
  | count + 1, c =>
    match c.rest with
    | [] => refuse .escapeUnexpectedEnd c.here
    | ch :: _ =>
      if (hexDigit? ch).isSome then do
        let (digits, c) ← readHexDigits free count (c.advance free)
        pure (ch :: digits, c)
      else refuse .escapeHexInvalidDigit c.charSpan

/-- A character by its number: two, four or eight hexadecimal digits, or any number of them in
braces. The cursor is at the letter, the backslash stands at `start`. -/
def readHex (free : Bool) (start : Nat) (letter : Char) (c : Cursor) :
    Except Fault (Literal × Cursor) := do
  let c := c.advance free
  match c.rest with
  | [] => refuse .escapeUnexpectedEnd c.here
  | '{' :: _ =>
    let brace := c.pos
    let (digits, c) := (c.advance free).takeWhile free fun ch => (hexDigit? ch).isSome
    match c.rest with
    | [] => refuse .escapeUnexpectedEnd (c.spanFrom brace)
    | '}' :: _ =>
      let stop := c.pos
      let c := c.advance free
      if digits.isEmpty then refuse .escapeHexEmpty (c.spanFrom brace)
      else match charOfCode? (hexValue digits) with
        | none => refuse .escapeHexInvalid ⟨brace + 1, stop⟩
        | some ch => pure ({ span := c.spanFrom start, char := ch, isByte := false }, c)
    | _ => refuse .escapeHexInvalidDigit c.charSpan
  | _ =>
    let first := c.pos
    let count := if letter = 'x' then 2 else if letter = 'u' then 4 else 8
    let (digits, c) ← readHexDigits free count c
    match charOfCode? (hexValue digits) with
    | none => refuse .escapeHexInvalid (c.spanFrom first)
    | some ch => pure ({ span := c.spanFrom start, char := ch, isByte := letter = 'x' }, c)

/-- The two sides of the first place where a text holds `sep`. -/
def splitAtFirst (sep : List Char) : List Char → Option (List Char × List Char)
  | [] => none
  | ch :: rest =>
    if sep.isPrefixOf (ch :: rest) then some ([], (ch :: rest).drop sep.length)
    else (splitAtFirst sep rest).map fun (before, after) => (ch :: before, after)

/-- The query between the braces of a property class, and whether it asks for what the value
is not. -/
def queryOfText (text : List Char) : Unicode.PropertyQuery × Bool :=
  let valued (sides : List Char × List Char) : Unicode.PropertyQuery :=
    .valued (String.ofList sides.1) (String.ofList sides.2)
  match splitAtFirst ['!', '='] text with
  | some sides => (valued sides, true)
  | none =>
    match splitAtFirst [':'] text <|> splitAtFirst ['='] text with
    | some sides => (valued sides, false)
    | none => (.named (String.ofList text), false)

/-- A class by property: one letter, or a query in braces. The cursor is at the letter `p` or
`P`, the backslash stands at `start`. -/
def readProperty (free : Bool) (start : Nat) (negated : Bool) (c : Cursor) :
    Except Fault (Atom × Cursor) :=
  let c := c.advance free
  match c.rest with
  | [] => refuse .escapeUnexpectedEnd c.here
  | '{' :: _ =>
    let (text, c) := (c.advance free).takeWhile free (· != '}')
    if c.rest.isEmpty then refuse .escapeUnexpectedEnd c.here
    else
      let c := c.next
      let (query, differs) := queryOfText text
      .ok (.property (c.spanFrom start) query (negated != differs), c)
  | '\\' :: _ => refuse .unicodeClassInvalid c.charSpan
  | ch :: _ =>
    let c := c.advance free
    .ok (.property (c.spanFrom start) (.named (String.singleton ch)) negated, c)

/-- The places named in braces after `\b`. -/
def namedBoundary (name : String) : Option Assertion :=
  if name = "start" then some .wordStart
  else if name = "end" then some .wordEnd
  else if name = "start-half" then some .wordStartHalf
  else if name = "end-half" then some .wordEndHalf
  else none

/-- A word boundary, whose kind may be named in braces. If what follows the brace can start no
name, the brace is left for a repetition. The cursor is after the letter, the backslash stands
at `start`. -/
def readBoundary (free : Bool) (start : Nat) (c : Cursor) :
    Except Fault (Assertion × Cursor) :=
  let isNameChar (ch : Char) : Bool := ch.isAlpha || ch == '-'
  match c.rest with
  | '{' :: _ =>
    let inside := c.advance free
    match inside.rest with
    | [] => refuse .specialWordOrRepetitionUnexpectedEnd (inside.spanFrom start)
    | ch :: _ =>
      if isNameChar ch then
        let (name, stop) := inside.takeWhile free isNameChar
        match stop.rest with
        | '}' :: _ =>
          match namedBoundary (String.ofList name) with
          | some kind => .ok (kind, stop.next)
          | none => refuse .specialWordBoundaryUnrecognized (stop.spanFrom inside.pos)
        | _ => refuse .specialWordBoundaryUnclosed (stop.spanFrom c.pos)
      else .ok (.wordBoundary, c)
  | _ => .ok (.wordBoundary, c)

/-- A backslash, at the cursor, with what belongs to it. -/
def readEscape (free : Bool) (c : Cursor) : Except Fault (Atom × Cursor) := do
  let start := c.pos
  let c := c.next
  match c.rest with
  | [] => refuse .escapeUnexpectedEnd (c.spanFrom start)
  | ch :: _ =>
    let span : Span := ⟨start, c.pos + 1⟩
    if '0' ≤ ch ∧ ch ≤ '9' then refuse .unsupportedBackreference span
    else if ch = 'x' ∨ ch = 'u' ∨ ch = 'U' then do
      let (l, c) ← readHex free start ch c
      pure (.literal l, c)
    else if ch = 'p' ∨ ch = 'P' then readProperty free start (ch == 'P') c
    else if ch = 'b' then do
      let (kind, c) ← readBoundary free start c.next
      pure (.assertion (c.spanFrom start) kind, c)
    else if isEscapable ch then pure (.literal { span, char := ch, isByte := false }, c.next)
    else match controlEscape ch, shorthandEscape ch, placeEscape ch with
      | some control, _, _ =>
        pure (.literal { span, char := control, isByte := false }, c.next)
      | _, some (kind, negated), _ => pure (.shorthand span kind negated, c.next)
      | _, _, some kind => pure (.assertion span kind, c.next)
      | none, none, none => refuse .escapeUnrecognized span

/-- The sign at the cursor, which is not at the end of the pattern. -/
def Atom.read (free : Bool) (c : Cursor) : Except Fault (Atom × Cursor) :=
  match c.rest with
  | [] => refuse .escapeUnexpectedEnd c.here
  | '\\' :: _ => readEscape free c
  | '.' :: _ => .ok (.dot c.charSpan, c.next)
  | '^' :: _ => .ok (.assertion c.charSpan .lineStart, c.next)
  | '$' :: _ => .ok (.assertion c.charSpan .lineEnd, c.next)
  | ch :: _ => .ok (.literal { span := c.charSpan, char := ch, isByte := false }, c.next)

end PatternAssembly
