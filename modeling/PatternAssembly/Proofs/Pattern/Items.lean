import PatternAssembly.Proofs.Pattern.Chains
import PatternAssembly.Proofs.Pattern.Languages

/-!
# Chains of fragments denote concatenations

Texts that match themselves, characters of classes and groups of options can be put together
in any order and to any depth. Each of them has a language of its own, whatever stands around
it, and a chain of them stands for their concatenation.

## Main definitions

* `OneCharacter`: a step for one character
* `Item`, `ItemOptions`: a step, or a group of options with all the steps in it
* `Item.language`: the texts that an item stands for

## Main statements

* `Item.readsAs`: an item reads as its language
* `isIn_iff_splits`: a whole text is in an anchored chain just if it splits into texts of the
  items
-/
namespace PatternAssembly

open Language

/-! ## Characters -/

namespace Shape

/-- The fragment takes one character. -/
def isCharacter : Shape → Bool
  | integer | decimal | fraction | hexColor => false
  | _ => true

/-- The fragment takes this character. -/
def Takes : Shape → Char → Prop
  | digit, c => Unicode.digitChars.has c = true
  | nonDigit, c => Unicode.digitChars.has c = false
  | wordCharacter, c => Unicode.wordChars.has c = true
  | nonWordCharacter, c => Unicode.wordChars.has c = false
  | space, c => Unicode.blankChars.has c = true
  | nonSpace, c => Unicode.blankChars.has c = false
  | any, c => c ≠ '\n'
  | letter, c => 'a' ≤ c ∧ c ≤ 'z' ∨ 'A' ≤ c ∧ c ≤ 'Z'
  | lowercaseLetter, c => 'a' ≤ c ∧ c ≤ 'z'
  | uppercaseLetter, c => 'A' ≤ c ∧ c ≤ 'Z'
  | integer, _ | decimal, _ | fraction, _ | hexColor, _ => False

end Shape

/-- A step for one character. -/
inductive OneCharacter where
  | shape (s : Shape) (h : s.isCharacter = true)
  | of (chars : String) (h : IsAlnum chars)
  | except (chars : String) (h : IsAlnum chars)

namespace OneCharacter

/-- The step that the pattern gets. -/
def step : OneCharacter → Step
  | shape s _ => .shape s
  | of chars _ => .characterOf chars
  | except chars _ => .characterExcept chars

/-- The step takes this character. -/
def Takes : OneCharacter → Char → Prop
  | shape s _, c => s.Takes c
  | of chars _, c => c ∈ chars.toList
  | except chars _, c => c ∉ chars.toList

end OneCharacter

/-- The set of a class where case counts. -/
theorem has_classSet_iff {m : Modes} (hm : m.ignoreCase = false) (negated : Bool)
    (items : List ClassItem) (c : Char) :
    (m.classSet negated items).has c = (negated ^^ items.any fun i => i.set.has c) := by
  rw [Modes.classSet, has_classSet, Modes.foldSet, if_neg (by simp [hm]), CharSet.has,
    CharSet.hasCode_unions, List.any_map]
  rfl

theorem has_range_iff {lo hi c : Char} :
    (CharSet.range lo hi).has c = true ↔ lo ≤ c ∧ c ≤ hi := by
  rw [CharSet.has_range, Bool.and_eq_true, decide_eq_true_eq, decide_eq_true_eq]
  exact Iff.rfl

theorem has_dotSet_iff {c : Char} : (Modes.dotSet {}).has c = true ↔ c ≠ '\n' := by
  have hne : c = '\n' ↔ c.toNat = 0x0A :=
    ⟨fun h => h ▸ rfl, fun h => Char.ext (UInt32.toNat_inj.1 h)⟩
  rw [Modes.dotSet, if_neg (by decide), if_neg (by decide), CharSet.has_compl, CharSet.has,
    CharSet.hasCode_ranges, Ne, hne]
  simp

/-- The set of a fragment for one character where no modes are set. -/
theorem Shape.exists_set {s : Shape} (h : s.isCharacter = true) :
    ∃ set : CharSet, s.meaning {} = .char set ∧ ∀ c, set.has c = true ↔ s.Takes c := by
  cases s with
  | digit | wordCharacter | space => exact ⟨_, rfl, fun c => Iff.rfl⟩
  | nonDigit | nonWordCharacter | nonSpace =>
    exact ⟨_, rfl, fun c => by rw [has_classSet, Bool.true_xor, Bool.not_eq_true']; rfl⟩
  | any => exact ⟨_, rfl, fun c => has_dotSet_iff⟩
  | letter | lowercaseLetter | uppercaseLetter =>
    refine ⟨_, rfl, ?_⟩
    intro c
    rw [has_classSet_iff rfl]
    simp [letters, ClassItem.set, has_range_iff, Takes, -CharSet.has_range]
  | integer | decimal | fraction | hexColor => cases h

/-- A step for one character reads as the language of its characters. -/
theorem OneCharacter.exists_phrase (o : OneCharacter) :
    ∃ S, ReadsAsPhrase {} o.step.chars S ∧ S.Spells (Meaning.ofChars o.Takes) := by
  cases o with
  | shape s h =>
    obtain ⟨set, hset, htakes⟩ := Shape.exists_set h
    exact ⟨_, hset ▸ readsAsPhrase_shape rfl s, Meaning.spells_char htakes⟩
  | of chars h =>
    refine ⟨_, (readsAsUnit_characterOf rfl h).phrase, Meaning.spells_char fun c => ?_⟩
    simp [has_classSet_iff, classOf, ClassItem.set, Takes]
  | except chars h =>
    refine ⟨_, (readsAsUnit_characterExcept rfl h).phrase, Meaning.spells_char fun c => ?_⟩
    simp only [has_classSet_iff, classOf, List.any_map, Bool.true_xor, Bool.not_eq_true',
      List.any_eq_false, Takes]
    simp only [Function.comp_apply, ClassItem.set, CharSet.has_single, decide_eq_true_eq]
    exact ⟨fun hall hc => hall c hc rfl, fun hc d hd hcd => hc (hcd ▸ hd)⟩

/-! ## Items -/

mutual

/-- One step, among them a group of options all at once, or a group of options step by step
with all the steps in it. -/
inductive Item where
  | literal (value : String)
  | oneOf (values : List String)
  | character (o : OneCharacter)
  | group (options : ItemOptions)

/-- The options of a group, each of which starts with a text or without one. -/
inductive ItemOptions where
  | last (start : Option String) (items : List Item)
  | before (start : Option String) (items : List Item) (others : ItemOptions)

end

mutual

/-- The steps of an item. The texts of options are escaped by the caller. -/
def Item.steps : Item → List Step
  | .literal value => [.literal value]
  | .oneOf values => [.oneOf (values.map (Engine.escape .regular))]
  | .character o => [o.step]
  | .group options => options.steps .openOptions

/-- The steps of items one after another. -/
def Item.allSteps : List Item → List Step
  | [] => []
  | i :: is => i.steps ++ Item.allSteps is

/-- The steps of options, the first of which begins with the given step. -/
def ItemOptions.steps (begin : Option String → Step) : ItemOptions → List Step
  | .last start items =>
    begin (start.map (Engine.escape .regular)) :: (Item.allSteps items ++ [.closeOptions])
  | .before start items others =>
    begin (start.map (Engine.escape .regular)) ::
      (Item.allSteps items ++ others.steps .nextOption)

end

/-- The given values. The group that is written for no values is empty, and stands for the
empty text. -/
def unionOf (values : List String) : Language Char :=
  {cs | (∃ v ∈ values, cs = v.toList) ∨ values = [] ∧ cs = []}

mutual

/-- The texts that an item stands for. -/
def Item.language : Item → Language Char
  | .literal value => {value.toList}
  | .oneOf values => unionOf values
  | .character o => {cs | ∃ c, cs = [c] ∧ o.Takes c}
  | .group options => options.language

/-- The concatenations of texts of the items. -/
def Item.allLanguage : List Item → Language Char
  | [] => 1
  | i :: is => i.language * Item.allLanguage is

/-- The texts of one of the options: its start, and after it texts of its items. -/
def ItemOptions.language : ItemOptions → Language Char
  | .last start items => {(start.getD "").toList} * Item.allLanguage items
  | .before start items others =>
    {(start.getD "").toList} * Item.allLanguage items + others.language

end

/-! ## Items as phrases -/

/-- The text of steps one after another. -/
def chainChars (steps : List Step) : List Char := steps.flatMap Step.chars

theorem chainChars_append (ss ts : List Step) :
    chainChars (ss ++ ts) = chainChars ss ++ chainChars ts := List.flatMap_append

theorem chainChars_cons (s : Step) (ss : List Step) :
    chainChars (s :: ss) = s.chars ++ chainChars ss := List.flatMap_cons

theorem chars_openOptions (start : Option String) :
    (Step.openOptions start).chars = '(' :: (start.getD "").toList := by
  simp [Step.chars, Step.fragment]

theorem chars_nextOption (option : Option String) :
    (Step.nextOption option).chars = '|' :: (option.getD "").toList := by
  simp [Step.chars, Step.fragment]

theorem chainChars_singleton (s : Step) : chainChars [s] = s.chars := by simp [chainChars]

/-- A text reads as a language. -/
def ReadsAs (cs : List Char) (L : Language Char) : Prop :=
  ∃ S, ReadsAsPhrase {} cs S ∧ S.Spells L

theorem readsAs_escape (text : String) :
    ReadsAs (Engine.escape .regular text).toList {text.toList} :=
  ⟨_, readsAsPhrase_escape text, Meaning.spells_spelled rfl _⟩

theorem ReadsAs.append {cs ds : List Char} {L K : Language Char} (h : ReadsAs cs L)
    (h' : ReadsAs ds K) : ReadsAs (cs ++ ds) (L * K) := by
  obtain ⟨S, hS, hL⟩ := h
  obtain ⟨T, hT, hK⟩ := h'
  exact ⟨_, hS.append hT, Meaning.spells_andThen hL hK⟩

/-- The start of an option, escaped, or nothing. -/
theorem readsAs_start (start : Option String) :
    ReadsAs ((start.map (Engine.escape .regular)).getD "").toList
      {(start.getD "").toList} := by
  cases start with
  | none => exact ⟨_, readsAsPhrase_nil, Meaning.spells_nothing⟩
  | some text => exact readsAs_escape text

/-- Alternatives in parentheses read as the union of their languages. -/
theorem readsAs_group {cs : List Char} {css : List (List Char)} {L : Language Char}
    {Ls : List (Language Char)} (h : ReadsAs cs L) (hs : List.Forall₂ ReadsAs css Ls) :
    ReadsAs ('(' :: (['|'].intercalate (cs :: css) ++ [')'])) (L + Ls.sum) := by
  obtain ⟨S, hS, hL⟩ := h
  have hall : ∃ Ss, List.Forall₂ (ReadsAsPhrase {}) css Ss ∧
      List.Forall₂ Meaning.Spells Ss Ls := by
    induction hs with
    | nil => exact ⟨[], .nil, .nil⟩
    | cons h _ ih =>
      obtain ⟨T, hT, hK⟩ := h
      obtain ⟨Ss, hSs, hLs⟩ := ih
      exact ⟨T :: Ss, .cons hT hSs, .cons hK hLs⟩
  obtain ⟨Ss, hSs, hLs⟩ := hall
  refine ⟨_, (readsAsUnit_group hS hSs).phrase, ?_⟩
  rw [← List.sum_cons]
  exact Meaning.spells_oneOf (.cons hL hLs)

theorem mem_unionOf {values : List String} {cs : List Char} :
    cs ∈ unionOf values ↔ (∃ v ∈ values, cs = v.toList) ∨ values = [] ∧ cs = [] := Iff.rfl

theorem mem_sum_texts (values : List String) (cs : List Char) :
    cs ∈ (values.map fun v => ({v.toList} : Language Char)).sum ↔
      ∃ v ∈ values, cs = v.toList := by
  induction values with
  | nil => simp [Language.notMem_zero]
  | cons v values ih =>
    rw [List.map_cons, List.sum_cons, Language.mem_add, ih]
    simp only [List.mem_cons, exists_eq_or_imp]
    exact Iff.rfl

theorem readsAs_oneOf (values : List String) :
    ReadsAs (Step.oneOf (values.map (Engine.escape .regular))).chars
      (unionOf values) := by
  have htext : (Step.oneOf (values.map (Engine.escape .regular))).chars =
      '(' :: (['|'].intercalate (values.map fun v => (Engine.escape .regular v).toList)
        ++ [')']) := by
    simp [Step.chars, Step.fragment, Function.comp_def]
  rw [htext]
  cases values with
  | nil =>
    -- Two parentheses with nothing in between take the empty text.
    have hempty : ReadsAs [] (unionOf []) := by
      have hone : unionOf [] = 1 := by
        ext cs
        simp [mem_unionOf, Language.mem_one]
      exact ⟨_, readsAsPhrase_nil, hone ▸ Meaning.spells_nothing⟩
    simpa using readsAs_group hempty .nil
  | cons v values =>
    have hvalues : List.Forall₂ ReadsAs
        (values.map fun v => (Engine.escape .regular v).toList)
        (values.map fun v => {v.toList}) := by
      rw [List.forall₂_map_left_iff, List.forall₂_map_right_iff, List.forall₂_same]
      exact fun w _ => readsAs_escape w
    have hunion : unionOf (v :: values) =
        {v.toList} + (values.map fun v => ({v.toList} : Language Char)).sum := by
      ext cs
      have hsum := mem_sum_texts (v :: values) cs
      rw [List.map_cons, List.sum_cons] at hsum
      simp [mem_unionOf, hsum]
    rw [hunion]
    exact readsAs_group (readsAs_escape v) hvalues

mutual

/-- The steps of an item read as its language. -/
theorem Item.readsAs (i : Item) : ReadsAs (chainChars i.steps) i.language := by
  cases i with
  | literal value =>
    rw [Item.steps, chainChars_singleton, Item.language]
    exact readsAs_escape value
  | oneOf values =>
    rw [Item.steps, chainChars_singleton]
    exact readsAs_oneOf values
  | character o =>
    rw [Item.steps, chainChars_singleton, Item.language]
    exact o.exists_phrase
  | group options =>
    obtain ⟨cs, css, L, Ls, hL, hLs, hopening, -, hlanguage⟩ := options.exists_readsAs
    rw [Item.steps, hopening, Item.language, hlanguage]
    exact readsAs_group hL hLs

theorem Item.readsAs_all (is : List Item) :
    ReadsAs (chainChars (Item.allSteps is)) (Item.allLanguage is) := by
  cases is with
  | nil => exact ⟨_, readsAsPhrase_nil, Meaning.spells_nothing⟩
  | cons i is =>
    rw [Item.allSteps, chainChars_append, Item.allLanguage]
    exact i.readsAs.append (Item.readsAs_all is)

/-- The options of a group are alternatives, and each of them reads as its language. -/
theorem ItemOptions.exists_readsAs (o : ItemOptions) :
    ∃ cs css L Ls, ReadsAs cs L ∧ List.Forall₂ ReadsAs css Ls ∧
      chainChars (o.steps .openOptions) = '(' :: (['|'].intercalate (cs :: css) ++ [')']) ∧
      chainChars (o.steps .nextOption) = '|' :: (['|'].intercalate (cs :: css) ++ [')']) ∧
      o.language = L + Ls.sum := by
  cases o with
  | last start items =>
    refine ⟨_, [], _, [], (readsAs_start start).append (Item.readsAs_all items),
      .nil, ?_, ?_, ?_⟩
    · rw [ItemOptions.steps, chainChars_cons, chars_openOptions, chainChars_append]
      simp [chainChars, Step.chars, Step.fragment]
    · rw [ItemOptions.steps, chainChars_cons, chars_nextOption, chainChars_append]
      simp [chainChars, Step.chars, Step.fragment]
    · simp [ItemOptions.language]
  | before start items others =>
    obtain ⟨cs, css, L, Ls, hL, hLs, -, hnext, hlanguage⟩ := others.exists_readsAs
    refine ⟨_, cs :: css, _, L :: Ls, (readsAs_start start).append (Item.readsAs_all items),
      .cons hL hLs, ?_, ?_, ?_⟩
    · rw [ItemOptions.steps, chainChars_cons, chars_openOptions, chainChars_append, hnext,
        List.intercalate_cons_cons]
      simp
    · rw [ItemOptions.steps, chainChars_cons, chars_nextOption, chainChars_append, hnext,
        List.intercalate_cons_cons]
      simp
    · rw [ItemOptions.language, hlanguage, List.sum_cons]

end

/-! ## Whole texts -/

theorem allSteps_eq (items : List Item) : Item.allSteps items = items.flatMap Item.steps := by
  induction items with
  | nil => rfl
  | cons i is ih => rw [Item.allSteps, ih, List.flatMap_cons]

/-- The concatenations of items are the texts that split into a piece for each of them. -/
theorem mem_allLanguage_iff {items : List Item} {cs : List Char} :
    cs ∈ Item.allLanguage items ↔ ∃ pieces : List (List Char), pieces.flatten = cs ∧
      List.Forall₂ (fun piece item => piece ∈ item.language) pieces items := by
  induction items generalizing cs with
  | nil => simp [Item.allLanguage, Language.mem_one, eq_comm]
  | cons i is ih =>
    rw [Item.allLanguage, Language.mem_mul]
    constructor
    · rintro ⟨a, ha, b, hb, rfl⟩
      obtain ⟨pieces, rfl, hpieces⟩ := ih.1 hb
      exact ⟨a :: pieces, rfl, .cons ha hpieces⟩
    · rintro ⟨pieces, rfl, hpieces⟩
      obtain ⟨a, rest, ha, hrest, rfl⟩ := List.forall₂_cons_right_iff.1 hpieces
      exact ⟨a, ha, rest.flatten, ih.2 ⟨rest, rfl, hrest⟩, rfl⟩

/-- The whole text is asked for. -/
theorem exists_whole_iff {S : Meaning} {L : Language Char} (h : S.Spells L) (text : String) :
    (∃ i j, i ≤ text.toList.toArray.size ∧ Meaning.andThen (.place .textStart)
        (S.andThen (.place .textEnd)) text.toList.toArray i j) ↔ text.toList ∈ L := by
  have hspells := h text.toList.toArray 0 text.toList.toArray.size (Nat.zero_le _)
  rw [slice_zero_size] at hspells
  constructor
  · rintro ⟨i, j, -, k, ⟨hstart, rfl⟩, l, hS, hend, rfl⟩
    obtain rfl : i = 0 := by simpa [Look.holds] using hstart
    obtain rfl : l = text.toList.toArray.size := by simpa [Look.holds] using hend
    simpa using (hspells.1 hS).2.2
  · intro hmem
    refine ⟨0, text.toList.toArray.size, Nat.zero_le _, 0, ⟨rfl, rfl⟩, _, ?_, ?_, rfl⟩
    · exact hspells.2 ⟨Nat.zero_le _, le_rfl, by simpa using hmem⟩
    · simp [Look.holds]

/-- **A chain of fragments denotes the concatenation of its parts.** Between the two ends of a
text, a chain is in the text just if the text splits into pieces, one for each item and each
in the language of its item. Only the limits of the engine keep a chain from compiling. -/
theorem isIn_iff_splits (items : List Item) (text : String) :
    let p := Pattern.ofSteps
      (.startsWith none :: (items.flatMap Item.steps ++ [.endsWith none]))
    (∃ reason, (p.isIn text).result = .error (.invalidPattern p.text reason) ∧
      reason.IsLimit) ∨
      ∃ found, (p.isIn text).result = .ok found ∧
        (found = true ↔ ∃ pieces : List (List Char), pieces.flatten = text.toList ∧
          List.Forall₂ (fun piece item => piece ∈ item.language) pieces items) := by
  intro p
  have hengine : p.engine = .regular := Pattern.engine_foldl_after
  obtain ⟨S, hS, hL⟩ := Item.readsAs_all items
  have hphrase : ReadsAsPhrase {} p.text.toList (.andThen (.place .textStart)
      (S.andThen (.place .textEnd))) := by
    have htext : p.text.toList = ['^'] ++ (chainChars (Item.allSteps items) ++ ['$']) := by
      rw [Pattern.toList_text_ofSteps, allSteps_eq]
      simp [chainChars, Step.chars, Step.fragment]
    rw [htext]
    exact readsAsUnit_lineStart.phrase.append (hS.append readsAsUnit_lineEnd.phrase)
  rw [Pattern.result_isIn hengine]
  rcases compile_of_phrase {} hphrase with ⟨reason, hcompile, hlimit⟩ | ⟨m, hcompile, hm⟩
  · exact .inl ⟨reason, by rw [hcompile]; rfl, hlimit⟩
  · refine .inr ⟨m.test text, by rw [hcompile]; rfl, ?_⟩
    rw [Matcher.test_iff hm, exists_whole_iff hL, mem_allLanguage_iff]

/-- The group for no values takes the empty text, although it is none of the values. -/
theorem isIn_of_no_values :
    ((Pattern.ofSteps [.startsWith none, .oneOf [], .endsWith none]).isIn "").result =
      .ok true ∧ ¬ ∃ pieces : List (List Char), pieces.flatten = "".toList ∧
        List.Forall₂ (fun piece values => ∃ v ∈ values, piece = String.toList v) pieces
          [([] : List String)] := by
  refine ⟨rfl, ?_⟩
  rintro ⟨pieces, -, hpieces⟩
  obtain ⟨piece, rest, ⟨v, hv, -⟩, -⟩ := List.forall₂_cons_right_iff.1 hpieces
  exact absurd hv List.not_mem_nil

end PatternAssembly
