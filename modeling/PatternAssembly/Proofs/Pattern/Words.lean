import PatternAssembly.Proofs.Pattern.Anchors
import PatternAssembly.Proofs.Pattern.Found

/-!
# Literals at a position in a word

A literal may be looked for as a whole word, at the start or at the end of a longer word, or
inside one. Which of these an occurrence is depends on its two ends alone: words start or end
there, or they do not. So every occurrence is at one of the four positions, and a literal
occurs at all if it does so at one.

## Main definitions

* `IsBoundary`: a word starts or ends between two parts of a text
* `WordPosition.Occurs`: a text occurs at the position in another

## Main statements

* `holds_boundary_iff`, `holds_notBoundary_iff`: the two signs are complements at every place
* `Meaning.exists_at_iff`: a language between the signs of a position
* `exists_occurs_iff_infix`: every occurrence is at one of the positions
* `words_classify_occurrences`: what searches at the four positions yield
-/
namespace PatternAssembly

/-! ## Boundaries -/

/-- A word starts or ends between two parts of a text: of the characters next to the place,
just one belongs to a word. Where the text ends there is none. -/
def IsBoundary (before after : List Char) : Prop :=
  Xor (∃ c ∈ before.getLast?, Unicode.isWord c = true)
    (∃ c ∈ after.head?, Unicode.isWord c = true)

theorem holds_boundary_iff (xs ys : List Char) :
    (Look.word .boundary true).holds (xs ++ ys).toArray xs.length = true ↔
      IsBoundary xs ys := by
  have hset : (wordSet true).has = Unicode.isWord := rfl
  have hany (o : Option Char) :
      (∃ c ∈ o, Unicode.isWord c = true) ↔ o.any Unicode.isWord = true := by cases o <;> simp
  rw [Look.holds, charBefore_append, getElem?_length_append, hset, IsBoundary, hany, hany]
  cases xs.getLast?.any Unicode.isWord <;> cases ys.head?.any Unicode.isWord <;> decide

theorem holds_notBoundary_iff (xs ys : List Char) :
    (Look.word .notBoundary true).holds (xs ++ ys).toArray xs.length = true ↔
      ¬ IsBoundary xs ys := by
  rw [← holds_boundary_iff]
  simp [Look.holds, WordPlace.holds]

/-! ## Positions -/

namespace WordPosition

variable (position : WordPosition)

/-- Whether words start or end at the two ends of a text at the position. -/
def Ends (first last : Prop) : Prop :=
  match position with
  | whole => first ∧ last
  | start => first ∧ ¬ last
  | stop => ¬ first ∧ last
  | inside => ¬ first ∧ ¬ last

theorem exists_ends (first last : Prop) :
    ∃ position : WordPosition, position.Ends first last := by
  by_cases hfirst : first
  · by_cases hlast : last
    · exact ⟨whole, hfirst, hlast⟩
    · exact ⟨start, hfirst, hlast⟩
  · by_cases hlast : last
    · exact ⟨stop, hfirst, hlast⟩
    · exact ⟨inside, hfirst, hlast⟩

/-- The value stands somewhere in the text with such ends as the position asks for. -/
def Occurs (value text : List Char) : Prop :=
  ∃ before after, text = before ++ value ++ after ∧
    position.Ends (IsBoundary before (value ++ after)) (IsBoundary (before ++ value) after)

/-- The signs before and behind a value ask for its position. -/
theorem holds_places_iff (before value after : List Char) :
    ((({} : Modes).look position.places.1).holds (before ++ value ++ after).toArray
          before.length = true ∧
        (({} : Modes).look position.places.2).holds (before ++ value ++ after).toArray
          (before ++ value).length = true) ↔
      position.Ends (IsBoundary before (value ++ after))
        (IsBoundary (before ++ value) after) := by
  have hfirst := holds_boundary_iff before (value ++ after)
  have hfirst' := holds_notBoundary_iff before (value ++ after)
  rw [← List.append_assoc] at hfirst hfirst'
  have hlast := holds_boundary_iff (before ++ value) after
  have hlast' := holds_notBoundary_iff (before ++ value) after
  cases position with
  | whole => exact and_congr hfirst hlast
  | start => exact and_congr hfirst hlast'
  | stop => exact and_congr hfirst' hlast
  | inside => exact and_congr hfirst' hlast'

end WordPosition

/-- Whatever the characters around it, an occurrence is at one of the positions. -/
theorem exists_occurs_iff_infix {value text : List Char} :
    (∃ position : WordPosition, position.Occurs value text) ↔ value <:+: text := by
  constructor
  · rintro ⟨position, before, after, rfl, -⟩
    exact ⟨before, after, rfl⟩
  · rintro ⟨before, after, rfl⟩
    obtain ⟨position, hends⟩ := WordPosition.exists_ends
      (IsBoundary before (value ++ after)) (IsBoundary (before ++ value) after)
    exact ⟨position, before, after, rfl, hends⟩

/-! ## Searches -/

/-- Between the signs of a position, a language means the occurrences of its texts there. -/
theorem Meaning.exists_at_iff {S : Meaning} {L : Language Char} (h : S.Spells L)
    (position : WordPosition) (text : List Char) :
    (∃ i j, i ≤ text.toArray.size ∧
      inARow [.place (({} : Modes).look position.places.1), S,
        .place (({} : Modes).look position.places.2)] text.toArray i j) ↔
      ∃ value ∈ L, position.Occurs value text := by
  rw [inARow_cons, inARow_cons, inARow_cons, inARow_nil, andThen_nothing,
    exists_between_iff h]
  constructor
  · rintro ⟨before, value, after, rfl, hvalue, hplaces⟩
    exact ⟨value, hvalue, before, after, rfl, (position.holds_places_iff ..).1 hplaces⟩
  · rintro ⟨value, hvalue, before, after, rfl, hends⟩
    exact ⟨before, value, after, rfl, hvalue, (position.holds_places_iff ..).2 hends⟩

namespace Pattern

/-- A literal at a position in a word. -/
def word (position : WordPosition) (value : String) : Pattern :=
  ofSteps [.word position (Engine.escape .regular value)]

/-- A literal at a position is found where it occurs there. -/
theorem isIn_word (position : WordPosition) (value t : String) :
    (word position value).AtLimit t ∨
      (word position value).IsInIff t (position.Occurs value.toList t.toList) := by
  have htext : (word position value).text.toList =
      ((Step.word position (escapeLiteral value)).fragment .regular).toList := by
    rw [word, toList_text_ofSteps]
    exact List.append_nil _
  have hphrase : ReadsAsPhrase {} (word position value).text.toList _ :=
    htext ▸ readsAsPhrase_word (readsAsPhrase_escape value)
  refine (isIn_of_phrase rfl hphrase t).imp_right fun h => h.congr ?_
  rw [Meaning.exists_at_iff (Meaning.spells_spelled rfl value.toList)]
  exact exists_eq_left

/-- A literal without a position is found where it is a part of the text. -/
theorem isIn_literal (value t : String) : (literals [value]).AtLimit t ∨
    ((literals [value]).isIn t).result = .ok (decide (value.toList <:+: t.toList)) := by
  have htext : (literals [value]).text = escapeLiteral value := by
    rw [text_literals, String.join_cons, String.join_nil, String.append_empty]
  have hresult := result_isIn_escape (p := literals [value]) rfl htext t
  rw [AtLimit, hresult, htext]
  rcases compile_escape value {} with hcompile | ⟨m, hcompile, -⟩
  · exact .inl ⟨.tooBig sizeLimit, by rw [hcompile]; rfl, rfl⟩
  · exact .inr (by rw [hcompile]; rfl)

end Pattern

/-- **The positions classify occurrences.** At each of the four positions, a literal is found
just if it occurs in the text at some place with such ends; only a limit of the engine keeps
it from being looked for. Without a position it is found just if it is found at one of
them. -/
theorem words_classify_occurrences (value t : String) :
    (∀ position : WordPosition, (Pattern.word position value).AtLimit t ∨
      (Pattern.word position value).IsInIff t (position.Occurs value.toList t.toList)) ∧
    ((Pattern.literals [value]).AtLimit t ∨
      (∃ position : WordPosition, (Pattern.word position value).AtLimit t) ∨
      (Pattern.literals [value]).IsInIff t
        (∃ position : WordPosition,
          ((Pattern.word position value).isIn t).result = .ok true)) := by
  have hword (position : WordPosition) := Pattern.isIn_word position value t
  refine ⟨hword, ?_⟩
  rcases Pattern.isIn_literal value t with hlimit | hfound
  · exact .inl hlimit
  refine .inr (or_iff_not_imp_left.2 fun hlimits => ⟨_, hfound, ?_⟩)
  rw [decide_eq_true_iff, ← exists_occurs_iff_infix]
  refine exists_congr fun position => ?_
  obtain ⟨found, hresult, hiff⟩ := (hword position).resolve_left fun h =>
    hlimits ⟨position, h⟩
  rw [← hiff, hresult, Except.ok.injEq]

end PatternAssembly
