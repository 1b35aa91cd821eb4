import PatternAssembly.Proofs.Text.Lines

/-!
# Bytes that are no text

An input is a list of bytes, which need not be a text. Whether it is one shows line by line: a
line end is a text by itself, so an input is a text if each of its lines is. If an input is no
text, there is a first line that is none, and what is before this line is a text of whole
lines.

## Main definitions

* `Text.IsText`: the bytes are those of a text
* `Text.CutAtFault`: an input is cut at its first line that is no text

## Main statements

* `Text.isText_dropReturn`: the carriage return at the end of a line has no say
* `Text.exists_cutAtFault`: every input that is no text is cut somewhere
* `Text.CutAtFault.lines_eq`: the lines of such an input
-/
namespace PatternAssembly.Text

variable {input bytes fault rest : List UInt8} {before : String}

/-- The bytes are those of a text. -/
def IsText (bytes : List UInt8) : Prop := (⟨bytes.toArray⟩ : ByteArray).IsValidUTF8

theorem isText_iff :
    IsText bytes ↔ ∃ cs : List Char, cs.flatMap String.utf8EncodeChar = bytes := by
  have hencode (cs : List Char) :
      cs.utf8Encode = ⟨(cs.flatMap String.utf8EncodeChar).toArray⟩ :=
    ByteArray.ext List.data_toByteArray
  constructor
  · rintro ⟨cs, h⟩
    rw [hencode] at h
    exact ⟨cs, (List.toArray_inj (ByteArray.mk.inj h)).symm⟩
  · rintro ⟨cs, rfl⟩
    rw [IsText, ← hencode]
    exact ByteArray.isValidUTF8_utf8Encode

theorem exists_toUTF8_of_isText (h : IsText bytes) :
    ∃ s : String, s.toUTF8.toList = bytes := by
  obtain ⟨cs, rfl⟩ := isText_iff.1 h
  exact ⟨String.ofList cs, by rw [toList_toUTF8, String.toList_ofList]⟩

theorem IsText.append {more : List UInt8} (h : IsText bytes) (hmore : IsText more) :
    IsText (bytes ++ more) := by
  obtain ⟨cs, rfl⟩ := isText_iff.1 h
  obtain ⟨ds, rfl⟩ := isText_iff.1 hmore
  exact isText_iff.2 ⟨cs ++ ds, List.flatMap_append⟩

theorem fromUTF8?_eq_none_iff :
    String.fromUTF8? ⟨bytes.toArray⟩ = none ↔ ¬ IsText bytes := by
  rw [String.fromUTF8?, IsText]
  split <;> simp [*]

/-- An ASCII character is a byte of its own. -/
theorem isText_concat_iff {c : Char} (hc : c.toNat < 0x80) :
    IsText (bytes ++ [UInt8.ofNat c.toNat]) ↔ IsText bytes := by
  constructor
  · intro h
    obtain ⟨cs, hcs⟩ := isText_iff.1 h
    rcases List.eq_nil_or_concat cs with rfl | ⟨start, d, rfl⟩
    · simp at hcs
    rw [List.concat_eq_append, List.flatMap_append, List.flatMap_singleton] at hcs
    have hlast : UInt8.ofNat c.toNat ∈ String.utf8EncodeChar d := by
      have hlast := congrArg List.getLast? hcs
      rw [List.getLast?_append_of_ne_nil _ String.utf8EncodeChar_ne_nil,
        List.getLast?_concat] at hlast
      exact List.mem_of_getLast? hlast
    obtain rfl := eq_of_mem_utf8EncodeChar hc hlast
    rw [utf8EncodeChar_ascii hc] at hcs
    exact isText_iff.2 ⟨start, (List.append_inj_left' hcs rfl)⟩
  · intro h
    exact h.append (isText_iff.2
      ⟨[c], by rw [List.flatMap_singleton, utf8EncodeChar_ascii hc]⟩)

/-- The carriage return at the end of a line has no say in whether the line is a text. -/
theorem isText_dropReturn {line : List UInt8} :
    IsText (dropReturn 0x0D line) ↔ IsText line := by
  by_cases h : line.getLast? = some 0x0D
  · obtain ⟨start, rfl⟩ := List.getLast?_eq_some_iff.1 h
    rw [dropReturn_concat]
    exact (isText_concat_iff (c := '\r') (by decide)).symm
  · rw [dropReturn_of_ne h]

/-- An input is cut at its first line that is no text: before it are whole lines of a text,
and the line has its newline with it, unless the input ends before there is one. -/
structure CutAtFault (input : List UInt8) (before : String) (fault rest : List UInt8) :
    Prop where
  eq_append : input = before.toUTF8.toList ++ fault ++ rest
  ended : Ended '\n' before.toList
  one_line : ∃ line, 0x0A ∉ line ∧ (fault = line ++ [0x0A] ∨ fault = line ∧ rest = [])
  not_isText : ¬ IsText fault

/-- An input that is no text has a first line that is none. -/
theorem exists_cutAtFault (h : ¬ IsText input) :
    ∃ before fault rest, CutAtFault input before fault rest := by
  induction input using induction_on_lines (0x0A : UInt8) with
  | last line hline =>
    exact ⟨"", line, [], ⟨by simp, .inl rfl, ⟨line, hline, .inr ⟨rfl, rfl⟩⟩, h⟩⟩
  | cons line rest hline ih =>
    rw [List.append_cons] at h ⊢
    by_cases htext : IsText (line ++ [0x0A])
    · -- the first line is a text, so the fault lies behind it
      have hrest : ¬ IsText rest := fun hrest => h (htext.append hrest)
      obtain ⟨before, fault, rest, hcut⟩ := ih hrest
      obtain ⟨first, hfirst⟩ :=
        exists_toUTF8_of_isText ((isText_concat_iff (c := '\n') (by decide)).1 htext)
      refine ⟨first ++ "\n" ++ before, fault, rest, ⟨?_, ?_, hcut.one_line, hcut.not_isText⟩⟩
      · have hnewline : "\n".toUTF8.toList = [0x0A] := by
          rw [toList_toUTF8]
          rfl
        rw [toList_toUTF8_append, toList_toUTF8_append, hfirst, hnewline, hcut.eq_append]
        simp only [List.append_assoc]
      · rw [String.toList_append, String.toList_append]
        exact (ended_concat first.toList).append hcut.ended
    · exact ⟨"", line ++ [0x0A], rest,
        ⟨by simp, .inl rfl, ⟨line, hline, .inl rfl⟩, htext⟩⟩

/-- The lines of an input that is no text: those of the text before the fault, the faulty one,
and others. -/
theorem CutAtFault.lines_eq (h : CutAtFault input before fault rest) :
    ∃ line others, lines 0x0A 0x0D input =
      lines 0x0A 0x0D before.toUTF8.toList ++ line :: others ∧ ¬ IsText line := by
  obtain ⟨line, hline, hfault⟩ := h.one_line
  have hended : Ended 0x0A before.toUTF8.toList := by
    rw [toList_toUTF8]
    exact h.ended.flatMap_utf8EncodeChar
  rw [h.eq_append, List.append_assoc, lines_append_of_ended hended]
  rcases hfault with rfl | ⟨rfl, rfl⟩
  · refine ⟨dropReturn 0x0D line, lines 0x0A 0x0D rest, ?_, ?_⟩
    · rw [List.append_assoc, List.singleton_append, lines_append hline]
    · rw [isText_dropReturn, ← isText_concat_iff (c := '\n') (by decide)]
      exact h.not_isText
  · refine ⟨fault, [], ?_, h.not_isText⟩
    have hne : fault ≠ [] := by
      rintro rfl
      exact h.not_isText (isText_iff.2 ⟨[], rfl⟩)
    rw [List.append_nil, lines_of_not_mem hline, if_neg (by simpa using hne)]

end PatternAssembly.Text
