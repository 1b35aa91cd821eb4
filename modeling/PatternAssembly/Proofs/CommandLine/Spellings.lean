import Mathlib.Data.List.TakeWhile
import PatternAssembly.Proofs.CommandLine.Occurrences

/-!
# How options are written

An option has a long name and perhaps a letter. Letters may share a dash, and a value follows
as an argument of its own, behind an equals sign, or directly behind its letter. However
options are written, reading them takes them into account one after the other.

## Main definitions

* `Lettered`: options as letters behind one dash
* `Spelled`: one option, or some that share a dash, as they are written
* `Written`: all options of a command line
* `ArgumentReader.Takes`: a reading takes some options into account

## Main statements

* `read_of_written`: what is read is what the options say, taken one after the other
* `read_eq_ok_iff_of_written`: when they are accepted
-/
namespace PatternAssembly.CommandLine

open Occurrence

/-! ## Spellings -/

/-- Options as letters behind one dash, and the argument behind them if the last one has its
value there. A value may also stand behind its letter, with an equals sign or without one. -/
inductive Lettered : List Occurrence → List Char → List String → Prop where
  | nil : Lettered [] [] []
  | switch {letter : Char} {s : Switch} {os : List Occurrence} {cs : List Char}
    {args : List String} (hletter : letters.lookup letter = some (.switch s))
    (hs : s ≠ .help ∧ s ≠ .version) (h : Lettered os cs args) :
    Lettered (.switch s :: os) (letter :: cs) args
  | separate {letter : Char} {o : ValueOption} {v : String}
      (hletter : letters.lookup letter = some (.value o)) (hv : v.toList.head? ≠ some '-') :
      Lettered [.value o v] [letter] [v]
  | equals {letter : Char} {o : ValueOption} {v : String}
      (hletter : letters.lookup letter = some (.value o)) :
      Lettered [.value o v] (letter :: '=' :: v.toList) []
  | attached {letter : Char} {o : ValueOption} {v : String}
      (hletter : letters.lookup letter = some (.value o)) (hv : v ≠ "")
      (hequals : v.toList.head? ≠ some '=') : Lettered [.value o v] (letter :: v.toList) []

/-- An option by its long name, with its value behind an equals sign or as an argument of its
own; or some options that share a dash. -/
inductive Spelled : List Occurrence → List String → Prop where
  | switch {name : String} {s : Switch} (hname : longNames.lookup name = some (.switch s))
      (hs : s ≠ .help ∧ s ≠ .version) : Spelled [.switch s] ["--" ++ name]
  | separate {name : String} {o : ValueOption} {v : String}
      (hname : longNames.lookup name = some (.value o)) (hv : v.toList.head? ≠ some '-') :
      Spelled [.value o v] ["--" ++ name, v]
  | equals {name : String} {o : ValueOption} {v : String}
      (hname : longNames.lookup name = some (.value o)) :
      Spelled [.value o v] ["--" ++ (name ++ "=" ++ v)]
  | letters {os : List Occurrence} {letter : Char} {cs : List Char} {args : List String}
      (h : Lettered os (letter :: cs) args) :
      Spelled os (String.ofList ('-' :: letter :: cs) :: args)

/-- The options of a command line as they are written. Help and version are not among them. -/
inductive Written : List Occurrence → List String → Prop where
  | nil : Written [] []
  | append {os os' : List Occurrence} {args args' : List String} (h : Spelled os args)
      (h' : Written os' args') : Written (os ++ os') (args ++ args')

/-! ## Reading options -/

namespace ArgumentReader

variable {r r' : ArgumentReader} {os os' : List Occurrence}
  {x : Except UsageError ArgumentReader}
  {f : ArgumentReader → Except UsageError ArgumentReader}

/-- What the options so far say, the last one taken into account. -/
def gathered (r : ArgumentReader) : Except UsageError Arguments := r.settle.map (·.arguments)

/-- A reading from `r` on, with what comes of it, takes some options into account: if it fails
it is for the reason that they fail for, and else it goes on. -/
def Takes (r : ArgumentReader) (os : List Occurrence) :
    Except UsageError ArgumentReader → Prop
  | .error e => (r.gathered >>= fun a => os.foldlM addTo a) = .error e
  | .ok r' => r'.ended = false ∧ r'.gathered = r.gathered >>= fun a => os.foldlM addTo a

theorem pending_of_settle (h : r.settle = .ok r') :
    r'.pending = none ∧ r'.ended = r.ended := by
  rcases r with ⟨a, - | ⟨o, - | v⟩, ended⟩
  · obtain rfl := Except.ok.inj h
    exact ⟨rfl, rfl⟩
  · cases h
  · obtain ⟨b, -, hb⟩ := bind_eq_ok.1 h
    obtain rfl := Except.ok.inj hb
    exact ⟨rfl, rfl⟩

theorem settle_of_pending (h : r.pending = none) : r.settle = .ok r := by rw [settle, h]

theorem gathered_of_pending (h : r.pending = none) : r.gathered = .ok r.arguments := by
  rw [gathered, settle_of_pending h]
  rfl

/-! ### One argument -/

theorem step_long {text : String} (hended : r.ended = false) (htext : text ≠ "") :
    r.step ("--" ++ text) = r.long text.toList := by
  have hchars : ("--" ++ text).toList = '-' :: '-' :: text.toList := by
    rw [String.toList_append]
    rfl
  rw [step, if_neg (by simp [hended]), hchars]
  cases h : text.toList with
  | nil => exact absurd (String.toList_inj.1 h) htext
  | cons c cs => rfl

theorem step_letters {letter : Char} {cs : List Char} (hended : r.ended = false)
    (hletter : letter ≠ '-') :
    r.step (String.ofList ('-' :: letter :: cs)) = r.cluster (letter :: cs) := by
  rw [step, if_neg (by simp [hended]), String.toList_ofList]
  split <;> simp_all

theorem step_plain {v : String} (hended : r.ended = false) (hv : v.toList.head? ≠ some '-') :
    r.step v = r.plain v := by
  rw [step, if_neg (by simp [hended])]
  split <;> simp_all

/-! ### Options -/

namespace Takes

theorem nil (h : r.ended = false) : Takes r [] (.ok r) := by
  refine ⟨h, ?_⟩
  cases r.gathered <;> rfl

/-- Options are taken into account one after the other. -/
theorem bind (h : Takes r os x) (hf : ∀ r', r'.ended = false → Takes r' os' (f r')) :
    Takes r (os ++ os') (x >>= f) := by
  have hall : (r.gathered >>= fun a => (os ++ os').foldlM addTo a) =
      (r.gathered >>= fun a => os.foldlM addTo a) >>= fun a => os'.foldlM addTo a := by
    simp only [List.foldlM_append, bind_assoc]
  cases x with
  | error e =>
    show _ = _
    rw [hall, show _ = Except.error e from h]
    rfl
  | ok r' =>
    obtain ⟨hended, hgathered⟩ := h
    have hrest := hf r' hended
    show Takes r (os ++ os') (f r')
    cases hx : f r' with
    | error e =>
      rw [hx] at hrest
      show _ = _
      rw [hall, ← hgathered]
      exact hrest
    | ok last =>
      rw [hx] at hrest
      refine ⟨hrest.1, ?_⟩
      rw [hall, ← hgathered]
      exact hrest.2

/-- An option is taken into account once the one before it is. -/
theorem settle (hended : r.ended = false)
    (hf : ∀ r', r'.pending = none → r'.ended = false → Takes r' os (f r')) :
    Takes r os (r.settle >>= f) := by
  have hr : r.gathered = r.settle.map (·.arguments) := rfl
  cases hsettle : r.settle with
  | error e =>
    show _ = _
    rw [hr, hsettle]
    rfl
  | ok r' =>
    obtain ⟨hpending, hended'⟩ := pending_of_settle hsettle
    have h := hf r' hpending (hended'.trans hended)
    have hgathered : r.gathered = r'.gathered := by
      rw [hr, hsettle, gathered_of_pending hpending]
      rfl
    show Takes r os (f r')
    cases hx : f r' with
    | error e =>
      rw [hx] at h
      show _ = _
      rw [hgathered]
      exact h
    | ok last =>
      rw [hx] at h
      exact ⟨h.1, hgathered ▸ h.2⟩

/-- An option is added to what the options before it say. -/
theorem add {y : Occurrence} (hpending : r.pending = none) (hended : r.ended = false) :
    Takes r [y] (y.addTo r.arguments >>= fun b => pure { r with arguments := b }) := by
  have hone : (r.gathered >>= fun a => [y].foldlM addTo a) = y.addTo r.arguments := by
    rw [gathered_of_pending hpending]
    show (y.addTo r.arguments >>= fun b => pure b) = _
    rw [bind_pure]
  cases hy : y.addTo r.arguments with
  | error e =>
    show _ = _
    rw [hone, hy]
  | ok b =>
    refine ⟨hended, ?_⟩
    rw [hone, hy]
    exact gathered_of_pending (r := { r with arguments := b }) hpending

theorem switch (s : Switch) (hended : r.ended = false) : Takes r [.switch s] (r.switch s) :=
  settle hended fun _ hpending hended' => add (y := .switch s) hpending hended'

theorem valueOption (o : ValueOption) (v : String) (hended : r.ended = false) :
    Takes r [.value o v] (r.valueOption o (some v)) :=
  settle hended fun _ hpending hended' => add (y := .value o v) hpending hended'

/-- A value as an argument of its own. -/
theorem separate (o : ValueOption) {v : String} (hended : r.ended = false)
    (hv : v.toList.head? ≠ some '-') :
    Takes r [.value o v] (r.valueOption o none >>= fun r' => [v].foldlM step r') := by
  have hassoc : (r.valueOption o none >>= fun r' => [v].foldlM step r') =
      r.settle >>= fun r' => [v].foldlM step { r' with pending := some (o, none) } := by
    rw [ArgumentReader.valueOption, bind_assoc]
    rfl
  rw [hassoc]
  refine settle hended fun r' hpending hended' => ?_
  have hplain : [v].foldlM step { r' with pending := some (o, none) } =
      .ok { r' with pending := some (o, some v) } := by
    rw [List.foldlM_cons, step_plain (by exact hended') hv]
    rfl
  rw [hplain]
  refine ⟨hended', ?_⟩
  rw [gathered_of_pending hpending]
  show Except.map _ (_ >>= _) = (addTo r'.arguments (.value o v) >>= fun b => pure b)
  rw [addTo]
  cases r'.arguments.addValue o v <;> rfl

end Takes

theorem dash_ne_of_lookup {letter : Char} {name : OptionName}
    (h : letters.lookup letter = some name) : letter ≠ '-' := by
  rintro rfl
  cases h

variable {args : List String}

/-- Letters behind one dash, and the argument behind them, are read. -/
theorem takes_of_lettered {cs : List Char} (h : Lettered os cs args)
    (hended : r.ended = false) :
    Takes r os (r.cluster cs >>= fun r' => args.foldlM step r') := by
  induction h generalizing r with
  | nil => exact Takes.nil hended
  | @switch letter s os cs args hletter hs h ih =>
    have hcluster : (r.cluster (letter :: cs) >>= fun r' => args.foldlM step r') =
        r.switch s >>= fun r' => r'.cluster cs >>= fun r' => args.foldlM step r' := by
      rw [cluster, hletter]
      exact bind_assoc ..
    rw [hcluster]
    exact (Takes.switch s hended).bind fun r' hended' => ih hended'
  | @separate letter o v hletter hv =>
    rw [cluster, hletter]
    exact Takes.separate o hended hv
  | @equals letter o v hletter =>
    rw [cluster, hletter]
    show Takes r _ (r.valueOption o (some (String.ofList v.toList)) >>= pure)
    rw [bind_pure, String.ofList_toList]
    exact Takes.valueOption o v hended
  | @attached letter o v hletter hv hequals =>
    -- The value begins with no equals sign, which would not belong to it.
    have hcluster : r.cluster (letter :: v.toList) = r.valueOption o (some v) := by
      rw [cluster, hletter]
      cases hchars : v.toList with
      | nil => exact absurd (String.toList_inj.1 hchars) hv
      | cons c cs =>
        rw [← String.ofList_toList (s := v), hchars]
        split <;> simp_all
    show Takes r _ (r.cluster (letter :: v.toList) >>= pure)
    rw [bind_pure, hcluster]
    exact Takes.valueOption o v hended

variable {name : String}

/-- A long name is not empty, and has no equals sign in it. -/
theorem name_of_lookup {n : OptionName} (h : longNames.lookup name = some n) :
    name ≠ "" ∧ ∀ c ∈ name.toList, (c != '=') = true := by
  have hall : longNames.all (fun p => p.1 != "" && p.1.toList.all (· != '=')) = true := by
    decide
  obtain ⟨before, behind, hnames, -⟩ := List.lookup_eq_some_iff.1 h
  have hname := List.all_eq_true.1 hall (name, n) (hnames ▸ by simp)
  rw [Bool.and_eq_true, List.all_eq_true] at hname
  exact ⟨by simpa using hname.1, hname.2⟩

theorem long_of_lookup {n : OptionName} (h : longNames.lookup name = some n) :
    r.long name.toList = match (n : OptionName) with
      | .switch s => r.switch s
      | .value o => r.valueOption o none := by
  have hname := (name_of_lookup h).2
  have htake : name.toList.takeWhile (· != '=') = name.toList :=
    List.takeWhile_eq_self_iff.2 hname
  have hdrop : name.toList.dropWhile (· != '=') = [] := List.dropWhile_eq_nil_iff.2 hname
  simp only [long, htake, hdrop, String.ofList_toList, h]
  cases n <;> rfl

theorem long_equals_of_lookup {o : ValueOption} (h : longNames.lookup name = some (.value o))
    (v : String) :
    r.long (name ++ "=" ++ v).toList = r.valueOption o (some v) := by
  have hname := (name_of_lookup h).2
  have hchars : (name ++ "=" ++ v).toList = name.toList ++ '=' :: v.toList := by simp
  have htake : (name ++ "=" ++ v).toList.takeWhile (· != '=') = name.toList := by
    rw [hchars, List.takeWhile_append_of_pos hname]
    simp
  have hdrop : (name ++ "=" ++ v).toList.dropWhile (· != '=') = '=' :: v.toList := by
    rw [hchars, List.dropWhile_append_of_pos hname]
    simp
  simp only [long, htake, hdrop, String.ofList_toList, h]

/-- Options are taken into account however they are written. -/
theorem takes_of_spelled (h : Spelled os args) (hended : r.ended = false) :
    Takes r os (args.foldlM step r) := by
  cases h with
  | @switch name s hname hs =>
    rw [List.foldlM_cons, step_long hended (name_of_lookup hname).1, long_of_lookup hname]
    show Takes r _ (r.switch s >>= pure)
    rw [bind_pure]
    exact Takes.switch s hended
  | @separate name o v hname hv =>
    rw [List.foldlM_cons, step_long hended (name_of_lookup hname).1, long_of_lookup hname]
    exact Takes.separate o hended hv
  | @equals name o v hname =>
    have hne : name ++ "=" ++ v ≠ "" := by
      intro h
      simpa using congrArg String.toList h
    rw [List.foldlM_cons, step_long hended hne, long_equals_of_lookup hname]
    show Takes r _ (r.valueOption o (some v) >>= pure)
    rw [bind_pure]
    exact Takes.valueOption o v hended
  | @letters _ letter cs args h =>
    have hletter : letter ≠ '-' := by
      cases h with
      | switch hletter | separate hletter | equals hletter | attached hletter =>
        exact dash_ne_of_lookup hletter
    rw [List.foldlM_cons, step_letters hended hletter]
    exact takes_of_lettered h hended

theorem takes_of_written (h : Written os args) (hended : r.ended = false) :
    Takes r os (args.foldlM step r) := by
  induction h generalizing r with
  | nil => exact Takes.nil hended
  | append h _ ih =>
    rw [List.foldlM_append]
    exact (takes_of_spelled h hended).bind fun r' hended' => ih hended'

end ArgumentReader

/-- **Options say what they say however they are written.** What is read is what the options
say, taken into account one after the other, once it is checked that they go together. -/
theorem read_of_written {os : List Occurrence} {args : List String} (h : Written os args) :
    Arguments.read args =
      os.foldlM addTo {} >>= fun a => ({ arguments := a } : ArgumentReader).finish := by
  have hfinish (r : ArgumentReader) :
      r.finish = r.gathered >>= fun a => ({ arguments := a } : ArgumentReader).finish := by
    rw [ArgumentReader.finish, ArgumentReader.gathered]
    cases r.settle <;> rfl
  have htakes := ArgumentReader.takes_of_written h (r := {}) rfl
  rw [Arguments.read]
  cases hfold : args.foldlM ArgumentReader.step {} with
  | error e =>
    rw [hfold] at htakes
    have hos : os.foldlM addTo {} = .error e := htakes
    rw [hos]
    rfl
  | ok r =>
    rw [hfold] at htakes
    show r.finish = _
    rw [hfinish, htakes.2]
    rfl

/-- A command line is accepted if its options are taken together and go together. -/
theorem read_eq_ok_iff_of_written {os : List Occurrence} {args : List String} {a : Arguments}
    (h : Written os args) :
    Arguments.read args = .ok a ↔ os.foldlM addTo {} = .ok a ∧ a.Fits := by
  rw [read_of_written h, bind_eq_ok]
  constructor
  · rintro ⟨b, hfold, hfinish⟩
    obtain ⟨r, hsettle, rfl, hfits⟩ := ArgumentReader.finish_eq_ok_iff.1 hfinish
    obtain rfl := Except.ok.inj hsettle
    exact ⟨hfold, hfits⟩
  · rintro ⟨hfold, hfits⟩
    exact ⟨a, hfold, ArgumentReader.finish_eq_ok_iff.2 ⟨_, rfl, rfl, hfits⟩⟩

end PatternAssembly.CommandLine
