import PatternAssembly.Unicode.Age
import PatternAssembly.Unicode.Binary
import PatternAssembly.Unicode.Break
import PatternAssembly.Unicode.Category
import PatternAssembly.Unicode.Script

/-!
# Properties by name

A pattern asks for a property by a name alone (`Greek`, `Lu`, `alphabetic`) or by the name of
a property and one of its values (`script=Greek`). Names are compared loosely: case, blanks,
hyphens and underscores do not matter, and neither does a leading `is`.

## Main definitions

* `looseName`: what is left of a name when only the differences that count are kept
* `PropertyQuery`: the two ways to ask
* `PropertyQuery.find`: the set of characters asked for
-/
namespace PatternAssembly.Unicode

/-- The first two characters spell `is`. -/
def startsWithIs : List Char → Bool
  | a :: b :: _ => (a == 'i' || a == 'I') && (b == 's' || b == 'S')
  | _ => false

/-- The part of a name that counts: its ASCII characters in lower case without a leading `is`
and without blanks, hyphens and underscores. The name `isc` keeps its `is`, as `c` is another
name. -/
def looseName (name : String) : String :=
  let kept (cs : List Char) : List Char :=
    (cs.filter fun c => c.toNat < 0x80 && c != ' ' && c != '_' && c != '-').map Char.toLower
  let cs := name.toList
  if startsWithIs cs then
    let rest := kept (cs.drop 2)
    String.ofList (if rest == ['c'] then ['i', 's', 'c'] else rest)
  else String.ofList (kept cs)

/-- What is asked for in a pattern: a property that holds or not, a general category or a
script by its name, or a property with its value. -/
inductive PropertyQuery where
  | named (name : String)
  | valued (property value : String)
deriving DecidableEq

/-- Why there is no such set of characters: no property has the name, or it has no such value
that a character can have. -/
inductive PropertyError where
  | unknownProperty | unknownValue
deriving DecidableEq

/-- The row of a table that lists the name. -/
def byName (table : List (List String × CharSet)) (name : String) : Option CharSet :=
  (table.find? (·.1.contains name)).map (·.2)

/-- The categories that hold of no character although they have a name. -/
def emptyCategoryNames : List String := ["cs", "surrogate"]

/-- The scripts that no character has although they have a name. -/
def emptyScriptNames : List String := ["hrkt", "katakanaorhiragana", "unknown", "zzzz"]

/-- The general category of a name; `any`, `assigned` and `ascii` count as categories. -/
def categoryByName (name : String) : Option CharSet :=
  if name = "any" then some .full
  else if name = "assigned" then some (.compl unassigned)
  else if name = "ascii" then some (.ranges [(0, 0x7F)])
  else byName categoryNames name

/-- The characters that a script uses, those included that it shares with others. -/
def scriptExtension (name : String) : Option CharSet :=
  (scriptTable.find? (·.1.contains name)).map fun row =>
    let shared := sharedTable.find? fun entry => row.1.head? == some entry.1
    .union (.diff row.2 sharedChars) (shared.elim .empty (·.2))

/-- The code points that a version of the standard or an earlier one assigned. -/
def ageByName (name : String) : Option CharSet :=
  match ageTable.findIdx? (·.1.contains name) with
  | some i => some (.unions ((ageTable.take (i + 1)).map (·.2)))
  | none => none

/-- The properties whose values can be asked for, by their names. -/
def valueTables : List (List String × (String → Option CharSet)) :=
  [(["gc", "generalcategory"], categoryByName),
   (["sc", "script"], byName scriptTable),
   (["scx", "scriptextensions"], scriptExtension),
   (["age"], ageByName),
   (["gcb", "graphemeclusterbreak"], byName graphemeBreakNames),
   (["wb", "wordbreak"], byName wordBreakNames),
   (["sb", "sentencebreak"], byName sentenceBreakNames)]

/-- Further properties of the standard; their values cannot be asked for. -/
def otherPropertyNames : List String :=
  ["bc", "bidiclass", "bidimirroringglyph", "bidipairedbracket", "bidipairedbrackettype",
   "blk", "block", "bmg", "bpb", "bpt", "canonicalcombiningclass", "casefolding", "ccc", "ce",
   "cf", "changeswhennfkccasefolded", "cjkaccountingnumeric", "cjkcompatibilityvariant",
   "cjkiicore", "cjkirggsource", "cjkirghsource", "cjkirgjsource", "cjkirgkpsource",
   "cjkirgksource", "cjkirgmsource", "cjkirgssource", "cjkirgtsource", "cjkirguksource",
   "cjkirgusource", "cjkirgvsource", "cjkothernumeric", "cjkprimarynumeric", "cjkrsunicode",
   "compex", "compositionexclusion", "cwkcf", "decompositionmapping", "decompositiontype",
   "dm", "dt", "ea", "eastasianwidth", "equideo", "equivalentunifiedideograph",
   "expandsonnfc", "expandsonnfd", "expandsonnfkc", "expandsonnfkd", "fcnfkc",
   "fcnfkcclosure", "fullcompositionexclusion", "hangulsyllabletype", "hst", "incb",
   "indicconjunctbreak", "indicpositionalcategory", "indicsyllabiccategory", "inpc", "insc",
   "isc", "jamoshortname", "jg", "joininggroup", "joiningtype", "jsn", "jt",
   "kaccountingnumeric", "kcompatibilityvariant", "kehcat", "kehdesc", "kehhg", "kehifao",
   "kehjsesh", "kehnomirror", "kehnorotate", "kiicore", "kirggsource", "kirghsource",
   "kirgjsource", "kirgkpsource", "kirgksource", "kirgmsource", "kirgssource", "kirgtsource",
   "kirguksource", "kirgusource", "kirgvsource", "kothernumeric", "kprimarynumeric",
   "krsunicode", "lb", "lc", "linebreak", "lowercasemapping", "na", "na1", "name",
   "namealias", "nfcqc", "nfcquickcheck", "nfdqc", "nfdquickcheck", "nfkccasefold", "nfkccf",
   "nfkcqc", "nfkcquickcheck", "nfkcscf", "nfkcsimplecasefold", "nfkdqc", "nfkdquickcheck",
   "nt", "numerictype", "numericvalue", "nv", "ocomment", "scf", "sfc", "simplecasefolding",
   "simplelowercasemapping", "simpletitlecasemapping", "simpleuppercasemapping", "slc", "stc",
   "suc", "tc", "titlecasemapping", "uc", "unicode1name", "unicoderadicalstroke",
   "uppercasemapping", "urs", "verticalorientation", "vo", "xonfc", "xonfd", "xonfkc",
   "xonfkd"]

/-- The characters with a property, a category or a script of the loose name. Three names that
belong to a category and to a property with values stand for the category. -/
def findNamed (name : String) : Except PropertyError CharSet :=
  let property := if name ∈ ["cf", "sc", "lc"] then none else byName binaryNames name
  match property <|> categoryByName name <|> byName scriptTable name with
  | some s => .ok s
  | none =>
    if name ∈ emptyCategoryNames ∨ name ∈ emptyScriptNames then .error .unknownValue
    else .error .unknownProperty

/-- The characters that have the value of the property, both given by their loose names. -/
def findValued (property value : String) : Except PropertyError CharSet :=
  match valueTables.find? (·.1.contains property) with
  | some (_, lookup) =>
    match lookup value with
    | some s => .ok s
    | none => .error .unknownValue
  | none =>
    if (byName binaryNames property).isSome ∨ property ∈ otherPropertyNames then
      .error .unknownValue
    else .error .unknownProperty

/-- The set of characters that a query asks for. -/
def PropertyQuery.find : PropertyQuery → Except PropertyError CharSet
  | named name => findNamed (looseName name)
  | valued property value => findValued (looseName property) (looseName value)

end PatternAssembly.Unicode
