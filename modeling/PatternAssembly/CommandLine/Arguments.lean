import PatternAssembly.Pattern

/-!
# Arguments of the command line

Options have a long name, some also a letter. Letters may share one dash; the value of an
option is the next argument, or what follows the letter, or what follows an equals sign.

## Main definitions

* `Switch`, `ValueOption`: the options without and with a value
* `Arguments`: what the options say
* `Arguments.read`: the arguments of a command line, or why they are refused
* `Arguments.pattern`, `Arguments.options`: what to search for, and how
-/
namespace PatternAssembly.CommandLine

/-- Options without a value. -/
inductive Switch where
  | ignoreCase | count | all | printPattern | help | version
deriving DecidableEq

/-- Options with a value. -/
inductive ValueOption where
  | extendedRegexp | startsWith | contains | fixedStrings | word | equals | endsWith | replace
deriving DecidableEq

/-- An option. -/
inductive OptionName where
  | switch (s : Switch)
  | value (o : ValueOption)
deriving DecidableEq

/-- The long names. -/
def longNames : List (String × OptionName) :=
  [("extended-regexp", .value .extendedRegexp), ("starts-with", .value .startsWith),
   ("contains", .value .contains), ("fixed-strings", .value .fixedStrings),
   ("word", .value .word), ("equals", .value .equals), ("ends-with", .value .endsWith),
   ("replace", .value .replace), ("ignore-case", .switch .ignoreCase),
   ("count", .switch .count), ("all", .switch .all),
   ("print-pattern", .switch .printPattern), ("help", .switch .help),
   ("version", .switch .version)]

/-- The letters. -/
def letters : List (Char × OptionName) :=
  [('E', .value .extendedRegexp), ('F', .value .fixedStrings), ('w', .value .word),
   ('r', .value .replace), ('i', .switch .ignoreCase), ('c', .switch .count),
   ('a', .switch .all), ('h', .switch .help), ('V', .switch .version)]

/-- The options that may occur more than once. -/
def ValueOption.repeatable : ValueOption → Bool
  | contains | fixedStrings | word => true
  | _ => false

/-- Why a command line is not run. Options conflict that exclude each other, and one that
occurs twice does so too; the help and the version are asked for instead of a run. -/
inductive UsageError where
  | unknownArgument | missingValue | conflict | missingOption | tooManyValues | help | version
deriving DecidableEq

/-- The exit code of a command line that is not run. -/
def UsageError.exitCode : UsageError → Nat
  | help | version => 0
  | _ => 2

/-- What the options say. With `replace` every line is printed with its first match replaced,
or with all of them; with `printPattern` nothing is read. -/
structure Arguments where
  extendedRegexp : Option String := none
  startsWith : Option String := none
  contains : List String := []
  fixedStrings : List String := []
  words : List String := []
  equals : Option String := none
  endsWith : Option String := none
  ignoreCase : Bool := false
  count : Bool := false
  replace : Option String := none
  all : Bool := false
  printPattern : Bool := false
deriving DecidableEq

namespace Arguments

/-- The arguments with an option without a value; it may occur once. -/
def addSwitch (a : Arguments) : Switch → Except UsageError Arguments
  | .ignoreCase =>
    if a.ignoreCase then .error .conflict else .ok { a with ignoreCase := true }
  | .count => if a.count then .error .conflict else .ok { a with count := true }
  | .all => if a.all then .error .conflict else .ok { a with all := true }
  | .printPattern =>
    if a.printPattern then .error .conflict else .ok { a with printPattern := true }
  | .help => .error .help
  | .version => .error .version

/-- A value for an option that may occur once. -/
def once (old : Option String) (value : String) : Except UsageError (Option String) :=
  if old.isSome then .error .conflict else .ok (some value)

/-- The arguments with an option and its value. -/
def addValue (a : Arguments) (o : ValueOption) (value : String) :
    Except UsageError Arguments := do
  match o with
  | .extendedRegexp => pure { a with extendedRegexp := ← once a.extendedRegexp value }
  | .startsWith => pure { a with startsWith := ← once a.startsWith value }
  | .contains => pure { a with contains := a.contains ++ [value] }
  | .fixedStrings => pure { a with fixedStrings := a.fixedStrings ++ [value] }
  | .word => pure { a with words := a.words ++ [value] }
  | .equals => pure { a with equals := ← once a.equals value }
  | .endsWith => pure { a with endsWith := ← once a.endsWith value }
  | .replace => pure { a with replace := ← once a.replace value }

end Arguments

/-- The state between two arguments. The last option waits, with its value once that was
there, until the next one begins; behind two dashes no option follows. -/
structure ArgumentReader where
  arguments : Arguments := {}
  pending : Option (ValueOption × Option String) := none
  ended : Bool := false

namespace ArgumentReader

/-- The option that was waiting is taken into account. -/
def settle (r : ArgumentReader) : Except UsageError ArgumentReader :=
  match r.pending with
  | none => .ok r
  | some (_, none) => .error .missingValue
  | some (o, some value) => do
    let arguments ← r.arguments.addValue o value
    pure { r with arguments, pending := none }

/-- An option without a value. -/
def switch (r : ArgumentReader) (s : Switch) : Except UsageError ArgumentReader := do
  let r ← r.settle
  let arguments ← r.arguments.addSwitch s
  pure { r with arguments }

/-- An option with a value, if the value is in the same argument, and else one that waits for
it. -/
def valueOption (r : ArgumentReader) (o : ValueOption) (attached : Option String) :
    Except UsageError ArgumentReader := do
  let r ← r.settle
  match attached with
  | none => pure { r with pending := some (o, none) }
  | some value =>
    let arguments ← r.arguments.addValue o value
    pure { r with arguments }

/-- An argument that starts with two dashes, without them. -/
def long (r : ArgumentReader) (text : List Char) : Except UsageError ArgumentReader :=
  let name := String.ofList (text.takeWhile (· != '='))
  let attached := match text.dropWhile (· != '=') with
    | [] => none
    | _ :: value => some (String.ofList value)
  match longNames.lookup name, attached with
  | none, _ => .error .unknownArgument
  | some (.switch s), none => r.switch s
  | some (.switch _), some _ => .error .tooManyValues
  | some (.value o), _ => r.valueOption o attached

/-- The letters after a single dash. -/
def cluster (r : ArgumentReader) : List Char → Except UsageError ArgumentReader
  | [] => .ok r
  | letter :: rest =>
    match letters.lookup letter with
    | none => .error .unknownArgument
    | some (.switch s) => do
      let r ← r.switch s
      r.cluster rest
    | some (.value o) =>
      match rest with
      | [] => r.valueOption o none
      | '=' :: value => r.valueOption o (some (String.ofList value))
      | _ => r.valueOption o (some (String.ofList rest))

/-- An argument that is no option: the value of the option before, or else it belongs to
none. -/
def plain (r : ArgumentReader) (text : String) : Except UsageError ArgumentReader :=
  match r.pending with
  | some (o, none) => .ok { r with pending := some (o, some text) }
  | _ => .error .unknownArgument

/-- The next argument. -/
def step (r : ArgumentReader) (argument : String) : Except UsageError ArgumentReader :=
  if r.ended then .error .unknownArgument
  else match argument.toList with
    | ['-', '-'] => .ok { r with ended := true }
    | '-' :: '-' :: text => r.long text
    | '-' :: letter :: rest => r.cluster (letter :: rest)
    | _ => r.plain argument

/-- What the options say together. The exclusion of two options counts before the lack of one,
and an option that is excluded anyway is not missed. -/
def finish (r : ArgumentReader) : Except UsageError Arguments := do
  let r ← r.settle
  let a := r.arguments
  if a.count && a.replace.isSome then .error .conflict
  else if a.all && a.replace.isNone && !a.count then .error .missingOption
  else pure a

end ArgumentReader

namespace Arguments

/-- The arguments of a command line. -/
def read (arguments : List String) : Except UsageError Arguments := do
  let r ← arguments.foldlM ArgumentReader.step {}
  r.finish

/-- The steps of the pattern, in a fixed order, whatever the order of the options. -/
def steps (a : Arguments) : List Step :=
  a.startsWith.toList.map (fun s => .startsWith (some s))
    ++ a.contains.map Step.contains
    ++ a.fixedStrings.map .literal
    ++ a.words.map (.word .whole)
    ++ a.equals.toList.map .equalsTo
    ++ a.endsWith.toList.map (fun s => .endsWith (some s))

/-- The pattern to search for. -/
def pattern (a : Arguments) : Pattern :=
  a.steps.foldl Pattern.after (.create a.extendedRegexp)

/-- How to search. -/
def options (a : Arguments) : SearchOptions := { caseSensitive := !a.ignoreCase }

end Arguments

end PatternAssembly.CommandLine
