/-!
# Flags of a search

A search is told by three letters whether to find every match, whether anchors hold at line
ends, and whether case counts. Callers say the same by options with defaults.

## Main definitions

* `Flags`, with `Flags.ofText?` and `Flags.toText`
* `SearchOptions`, with `SearchOptions.toFlags`
-/
namespace PatternAssembly

/-- How a pattern is compiled and searched: every match counts (`g`), anchors hold at line
ends (`m`), case is ignored (`i`). -/
structure Flags where
  global : Bool := false
  multiLine : Bool := false
  ignoreCase : Bool := false
deriving DecidableEq

namespace Flags

/-- The flags with one more letter; another character than the three letters is handed
back. -/
def add (f : Flags) : Char → Except Char Flags
  | 'g' => .ok { f with global := true }
  | 'm' => .ok { f with multiLine := true }
  | 'i' => .ok { f with ignoreCase := true }
  | c => .error c

/-- The flags that letters name, in any order and number; or else the first other
character. -/
def ofText? (text : String) : Except Char Flags := text.toList.foldlM add {}

/-- The letters of the flags. -/
def toText (f : Flags) : String :=
  (if f.global then "g" else "") ++ (if f.multiLine then "m" else "")
    ++ (if f.ignoreCase then "i" else "")

/-- The flags with every match counting, or only the first. -/
def withGlobal (f : Flags) (on : Bool) : Flags := { f with global := on }

end Flags

/-- What callers of a search may choose. -/
structure SearchOptions where
  allMatches : Bool := true
  multiLine : Bool := true
  caseSensitive : Bool := true
deriving DecidableEq

/-- The flags of the options. -/
def SearchOptions.toFlags (o : SearchOptions) : Flags :=
  { global := o.allMatches, multiLine := o.multiLine, ignoreCase := !o.caseSensitive }

end PatternAssembly
