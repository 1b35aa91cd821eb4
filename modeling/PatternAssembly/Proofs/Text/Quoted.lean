import Mathlib.Tactic.SplitIfs
import PatternAssembly.Text.Quoted
import PatternAssembly.Tree.Atom

/-!
# Quoted text is read back

What stands between the quotes is read character by character: a backslash tells how many
signs belong to the next character, and a quote without one ends the text. So no text can end
its own quotes, and a quoted text is read back whatever stands behind it.

## Main definitions

* `decodeChar?`: the next character of a text between quotes
* `decode`: the text up to the quote that ends it
* `unquote`: a quoted text, and what stands behind it

## Main statements

* `hexValue_toDigits`: the number of a character is read back
* `decodeChar?_encodeChar_append`: each character is read back
* `unquote_quote_append`: a quoted text is read back
* `quote_append_inj`: where a quoted text begins, the text and what is behind it are
  determined
-/
namespace PatternAssembly

/-! ## Hexadecimal digits -/

theorem hexDigit?_digitChar {d : Nat} (hd : d < 16) : hexDigit? d.digitChar = some d := by
  have hall : ∀ d < 16, hexDigit? (Nat.digitChar d) = some d := by decide
  exact hall d hd

theorem hexValue_append_singleton (digits : List Char) (c : Char) :
    hexValue (digits ++ [c]) = 16 * hexValue digits + (hexDigit? c).getD 0 := by
  simp [hexValue]

/-- The digits of a number are hexadecimal digits, and write the number. -/
theorem hexValue_toDigits (n : Nat) :
    (∀ c ∈ Nat.toDigits 16 n, (hexDigit? c).isSome = true) ∧
      hexValue (Nat.toDigits 16 n) = n := by
  induction n using Nat.strongRecOn with
  | ind n ih =>
    by_cases hn : n < 16
    · rw [Nat.toDigits_of_lt_base hn]
      simp [hexValue, hexDigit?_digitChar hn]
    · have hlast : n % 16 < 16 := Nat.mod_lt n (by decide)
      obtain ⟨hdigits, hvalue⟩ := ih (n / 16) (by omega)
      rw [Nat.toDigits_of_base_le (by decide) (by omega)]
      constructor
      · intro c hc
        rcases List.mem_append.1 hc with hc | hc
        · exact hdigits c hc
        · rw [List.mem_singleton.1 hc, hexDigit?_digitChar hlast]
          rfl
      · rw [hexValue_append_singleton, hvalue, hexDigit?_digitChar hlast, Option.getD_some]
        exact Nat.div_add_mod n 16

namespace Text

/-! ## One character -/

/-- The character that is written as a backslash and a letter or sign. -/
def ofEscape? : Char → Option Char
  | '0' => some '\x00'
  | 't' => some '\t'
  | 'n' => some '\n'
  | 'r' => some '\r'
  | '"' => some '"'
  | '\\' => some '\\'
  | _ => none

/-- A character by its code point in braces, and what is behind it. -/
def decodeCode? : List Char → Option (Char × List Char)
  | '{' :: rest =>
    let isHex := fun c => (hexDigit? c).isSome
    match rest.dropWhile isHex with
    | '}' :: behind => some (Char.ofNat (hexValue (rest.takeWhile isHex)), behind)
    | _ => none
  | _ => none

/-- The next character of a text between quotes, and what is behind it. There is none at the
quote that ends the text. -/
def decodeChar? : List Char → Option (Char × List Char)
  | '\\' :: 'u' :: rest => decodeCode? rest
  | '\\' :: c :: rest => (ofEscape? c).map (·, rest)
  | ['\\'] => none
  | '"' :: _ => none
  | c :: rest => some (c, rest)
  | [] => none

variable {c : Char} {s rest : List Char}

theorem decodeCode?_toDigits (c : Char) (rest : List Char) :
    decodeCode? ('{' :: Nat.toDigits 16 c.toNat ++ '}' :: rest) = some (c, rest) := by
  obtain ⟨hdigits, hvalue⟩ := hexValue_toDigits c.toNat
  have htake : (Nat.toDigits 16 c.toNat ++ '}' :: rest).takeWhile
      (fun c => (hexDigit? c).isSome) = Nat.toDigits 16 c.toNat := by
    rw [List.takeWhile_append_of_pos hdigits]
    simp [hexDigit?]
  have hdrop : (Nat.toDigits 16 c.toNat ++ '}' :: rest).dropWhile
      (fun c => (hexDigit? c).isSome) = '}' :: rest := by
    rw [List.dropWhile_append_of_pos hdigits]
    simp [hexDigit?]
  rw [List.cons_append, decodeCode?]
  simp only [htake, hdrop, hvalue, Char.ofNat_toNat]

theorem decodeChar?_of_ne (hquote : c ≠ '"') (hbackslash : c ≠ '\\') :
    decodeChar? (c :: rest) = some (c, rest) := by
  rw [decodeChar?.eq_def]
  split <;> simp_all

/-- A character is read back, whatever stands behind it. -/
theorem decodeChar?_encodeChar_append (c : Char) (rest : List Char) :
    decodeChar? (encodeChar c ++ rest) = some (c, rest) := by
  rw [encodeChar.eq_def]
  -- A character that is written as it is is neither a quote nor a backslash: these have
  -- escapes.
  split_ifs with hnull htab hnewline hreturn hquote hbackslash hshown
  · rw [hnull]; rfl
  · rw [htab]; rfl
  · rw [hnewline]; rfl
  · rw [hreturn]; rfl
  · rw [hquote]; rfl
  · rw [hbackslash]; rfl
  · exact decodeChar?_of_ne hquote hbackslash
  · show decodeCode? ('{' :: Nat.toDigits 16 c.toNat ++ ['}'] ++ rest) = _
    rw [List.append_assoc]
    exact decodeCode?_toDigits c rest

theorem length_lt_of_decodeCode? (h : decodeCode? s = some (c, rest)) :
    rest.length < s.length := by
  rw [decodeCode?.eq_def] at h
  split at h
  · rename_i digits
    dsimp only at h
    split at h
    · rename_i behind hdrop
      obtain ⟨-, rfl⟩ := Prod.mk.inj (Option.some.inj h)
      have hle := (List.dropWhile_suffix (fun c => (hexDigit? c).isSome)
        (l := digits)).length_le
      rw [hdrop, List.length_cons] at hle
      rw [List.length_cons]
      omega
    · cases h
  · cases h

theorem length_lt_of_decodeChar? (h : decodeChar? s = some (c, rest)) :
    rest.length < s.length := by
  rw [decodeChar?.eq_def] at h
  split at h
  · have hlt := length_lt_of_decodeCode? h
    simp only [List.length_cons]
    omega
  · obtain ⟨_, -, heq⟩ := Option.map_eq_some_iff.1 h
    obtain ⟨-, rfl⟩ := Prod.mk.inj heq
    simp only [List.length_cons]
    omega
  · cases h
  · cases h
  · obtain ⟨-, rfl⟩ := Prod.mk.inj (Option.some.inj h)
    exact Nat.lt_succ_self _
  · cases h

/-! ## A text -/

/-- The text up to the quote that ends it, and what is left from there on. -/
def decode (s : List Char) : List Char × List Char :=
  match h : decodeChar? s with
  | none => ([], s)
  | some (c, rest) =>
    have := length_lt_of_decodeChar? h
    let (text, behind) := decode rest
    (c :: text, behind)
termination_by s.length

theorem decode_of_eq_none (h : decodeChar? s = none) : decode s = ([], s) := by
  rw [decode]
  split <;> simp_all

theorem decode_of_eq_some (h : decodeChar? s = some (c, rest)) :
    decode s = (c :: (decode rest).1, (decode rest).2) := by
  rw [decode]
  split <;> simp_all

/-- The text between the quotes is read back. The quote that ends it is not taken for a part
of it, nor a part of it for the quote. -/
theorem decode_encode_append (s rest : List Char) :
    decode (encode s ++ '"' :: rest) = (s, '"' :: rest) := by
  induction s with
  | nil => exact decode_of_eq_none rfl
  | cons c s ih =>
    have hchar := decodeChar?_encodeChar_append c (encode s ++ '"' :: rest)
    rw [encode, List.flatMap_cons, List.append_assoc, ← encode, decode_of_eq_some hchar, ih]

/-- A text in quotes, and what stands behind it. -/
def unquote : List Char → Option (List Char × List Char)
  | '"' :: s =>
    match decode s with
    | (text, '"' :: behind) => some (text, behind)
    | _ => none
  | _ => none

/-- A quoted text is read back, whatever stands behind it. -/
theorem unquote_quote_append (s t : String) :
    unquote (quote s ++ t).toList = some (s.toList, t.toList) := by
  have hchars : (quote s ++ t).toList = '"' :: (encode s.toList ++ '"' :: t.toList) := by
    simp [quote]
  rw [hchars, unquote, decode_encode_append]
  rfl

/-- Where a quoted text begins, both the text and what stands behind it are determined. -/
theorem quote_append_inj {s s' t t' : String} :
    quote s ++ t = quote s' ++ t' ↔ s = s' ∧ t = t' := by
  constructor
  · intro h
    have hread := unquote_quote_append s t
    rw [h, unquote_quote_append] at hread
    obtain ⟨htext, hbehind⟩ := Prod.mk.inj (Option.some.inj hread)
    exact ⟨(String.toList_inj.1 htext).symm, (String.toList_inj.1 hbehind).symm⟩
  · rintro ⟨rfl, rfl⟩
    rfl

/-- A text that imitates the end of its quotes and what could stand behind. -/
example : unquote (quote "a\", \x7d" ++ "\\").toList = some ("a\", \x7d".toList, ['\\']) := by
  decide +kernel

end Text

end PatternAssembly
