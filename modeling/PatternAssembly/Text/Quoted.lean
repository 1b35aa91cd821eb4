import PatternAssembly.Unicode.Recent

/-!
# Quoted text

How a text is shown inside a message: between double quotes, with a backslash in front of what
would end the quote or could not be seen.

## Main definitions

* `isShown`: the characters that are shown as they are
* `encode`: the text between the quotes
* `quote`: the text with its quotes
-/
namespace PatternAssembly.Text

/-- The characters that cannot be shown on their own: controls, blanks other than the space,
fillers without a shape, and code points without a character. -/
def unprintable : CharSet :=
  .diff
    (.unions [Unicode.control, Unicode.format, Unicode.privateUse, Unicode.unassignedStill,
      Unicode.lineSeparator, Unicode.paragraphSeparator, Unicode.spaceSeparator,
      Unicode.defaultIgnorable])
    (.single ' ')

/-- The characters that would change how the one before them looks. The two sound marks of
halfwidth Katakana extend it too, but take a place of their own. -/
def attached : CharSet := .diff Unicode.extenders (.ranges [(0xFF9E, 0xFF9F)])

/-- A character that is shown as it is, apart from the quote and the backslash. -/
def isShown (c : Char) : Bool :=
  if c.toNat < 0x7F then 0x20 ≤ c.toNat
  else !(attached.has c || unprintable.has c)

/-- A character by its code point in braces. -/
def encodeCode (c : Char) : List Char :=
  '\\' :: 'u' :: '{' :: Nat.toDigits 16 c.toNat ++ ['}']

/-- A character between quotes. -/
def encodeChar (c : Char) : List Char :=
  if c = '\x00' then ['\\', '0']
  else if c = '\t' then ['\\', 't']
  else if c = '\n' then ['\\', 'n']
  else if c = '\r' then ['\\', 'r']
  else if c = '"' then ['\\', '"']
  else if c = '\\' then ['\\', '\\']
  else if isShown c then [c]
  else encodeCode c

/-- A text between quotes. -/
def encode (s : List Char) : List Char := s.flatMap encodeChar

/-- A text with its quotes. -/
def quote (s : String) : String := String.ofList ('"' :: encode s.toList ++ ['"'])

end PatternAssembly.Text
