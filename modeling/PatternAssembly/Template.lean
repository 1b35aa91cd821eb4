import PatternAssembly.Program.Matches

/-!
# Replacement templates

A template is text with references to groups: a dollar sign with a name, or with a name in
braces. Two dollar signs stand for one. A dollar sign that begins no reference stands for
itself.

## Main definitions

* `Template`: texts and references in order
* `Template.read`: the template that a text writes
* `Template.expand`: what it stands for at a match
-/
namespace PatternAssembly

/-- A group, as a template refers to it. -/
inductive GroupReference where
  | number (index : Nat)
  | name (name : String)
deriving DecidableEq

/-- A part of a template. -/
inductive TemplatePiece where
  | text (s : List Char)
  | group (r : GroupReference)
deriving DecidableEq

/-- Texts and references in order. -/
abbrev Template := List TemplatePiece

/-- Numbers of groups are below this bound; longer digit strings are names. -/
def GroupReference.limit : Nat := 18446744073709551616

/-- A reference by number, if the text is a decimal number, and else by name. -/
def GroupReference.ofText (text : List Char) : GroupReference :=
  let digits := match text with
    | '+' :: digits => digits
    | _ => text
  let value := digits.foldl (fun n d => 10 * n + (d.toNat - 0x30)) 0
  if !digits.isEmpty && digits.all Char.isDigit && value < limit then .number value
  else .name (String.ofList text)

/-- The characters of a name that needs no braces. -/
def isReferenceChar (c : Char) : Bool := c.isAlphanum || c == '_'

namespace Template

/-- The template that a text of at most `bound` characters writes. -/
def readUpTo : (bound : Nat) → List Char → Template
  | 0, _ => []
  | _ + 1, [] => []
  | bound + 1, '$' :: '$' :: rest => .text ['$'] :: readUpTo bound rest
  | bound + 1, '$' :: '{' :: rest =>
    match rest.dropWhile (· != '}') with
    | _ :: after =>
      .group (.ofText (rest.takeWhile (· != '}'))) :: readUpTo bound after
    | [] => .text ['$'] :: readUpTo bound ('{' :: rest)
  | bound + 1, '$' :: rest =>
    match rest.takeWhile isReferenceChar with
    | [] => .text ['$'] :: readUpTo bound rest
    | name => .group (.ofText name) :: readUpTo bound (rest.dropWhile isReferenceChar)
  | bound + 1, c :: rest => .text [c] :: readUpTo bound rest

/-- The template that a text writes. -/
def read (text : List Char) : Template := readUpTo text.length text

end Template

/-- The number of the group that a reference means. -/
def GroupReference.index? (names : List (String × Nat)) : GroupReference → Option Nat
  | number index => some index
  | name n => names.lookup n

/-- What a part of a template stands for at a match; a group that is unknown or took no part
in the match stands for nothing. -/
def TemplatePiece.expand (names : List (String × Nat)) (text : Array Char) (m : Match) :
    TemplatePiece → List Char
  | .text s => s
  | .group r =>
    match (r.index? names).bind m.group with
    | some (start, stop) => slice text start stop
    | none => []

/-- What a template stands for at a match. -/
def Template.expand (t : Template) (names : List (String × Nat)) (text : Array Char)
    (m : Match) :
    List Char :=
  t.flatMap (·.expand names text m)

end PatternAssembly
