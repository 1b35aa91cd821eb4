import Mathlib.Data.List.Basic
import PatternAssembly.Text.Lines

/-!
# Lines, of characters and of bytes

A text either has no newline, and then it is one line unless it is empty, or it is a first
line with a newline behind it and a rest. In UTF-8 a newline and a carriage return are one
byte each, and these bytes occur in no other character. So the lines of the bytes of a text
are the bytes of its lines.

## Main definitions

* `Text.Ended`: no line of a text is left open

## Main statements

* `Text.lines_append`, `Text.lines_of_not_mem`: the lines of a text, one after the other
* `Text.lines_append_of_ended`: the lines of two texts, one behind the other
* `Text.lines_flatMap_concat`: lines that are written are read back
* `Text.exists_line_end`: what is dropped at the end of a line
* `Text.induction_on_lines`: induction on the lines of a text
* `Text.lines_flatMap_utf8EncodeChar`: the lines of the bytes of a text
* `Text.fromUTF8?_flatMap_utf8EncodeChar`: bytes of characters are a text
-/
namespace PatternAssembly.Text

section

variable {α : Type} [BEq α] [LawfulBEq α] {newline carriageReturn : α} {line rest : List α}

theorem cutLines_append (h : newline ∉ line) (rest : List α) :
    cutLines newline (line ++ newline :: rest) =
      (line :: (cutLines newline rest).1, (cutLines newline rest).2) := by
  induction line with
  | nil =>
    show pushFront newline newline (cutLines newline rest) = _
    rcases cutLines newline rest with ⟨lines, last⟩
    cases lines <;> simp [pushFront]
  | cons x line ih =>
    rw [List.mem_cons, not_or] at h
    show pushFront newline x (cutLines newline (line ++ newline :: rest)) = _
    rw [ih h.2, pushFront, if_neg (by simpa using Ne.symm h.1)]

theorem cutLines_of_not_mem (h : newline ∉ line) : cutLines newline line = ([], line) := by
  induction line with
  | nil => rfl
  | cons x line ih =>
    rw [List.mem_cons, not_or] at h
    show pushFront newline x (cutLines newline line) = _
    rw [ih h.2, pushFront, if_neg (by simpa using Ne.symm h.1)]

/-- The first newline ends the first line. -/
theorem lines_append (h : newline ∉ line) (rest : List α) :
    lines newline carriageReturn (line ++ newline :: rest) =
      dropReturn carriageReturn line :: lines newline carriageReturn rest := by
  rw [lines, cutLines_append h, lines]
  rfl

/-- A text without a newline is one line, unless it is empty. -/
theorem lines_of_not_mem (h : newline ∉ line) :
    lines newline carriageReturn line = if line.isEmpty then [] else [line] := by
  rw [lines, cutLines_of_not_mem h]
  rfl

/-- A text has no newline, or it has a first line and a rest. -/
theorem induction_on_lines (newline : α) {motive : List α → Prop}
    (last : ∀ line, newline ∉ line → motive line)
    (cons : ∀ line rest, newline ∉ line → motive rest → motive (line ++ newline :: rest))
    (xs : List α) : motive xs := by
  induction hn : xs.length using Nat.strongRecOn generalizing xs with
  | ind n ih =>
    by_cases h : newline ∈ xs
    · obtain ⟨line, rest, rfl, hline⟩ := List.eq_append_cons_of_mem h
      rw [List.length_append, List.length_cons] at hn
      exact cons line rest hline (ih rest.length (by omega) rest rfl)
    · exact last xs h

theorem dropReturn_concat (line : List α) :
    dropReturn carriageReturn (line ++ [carriageReturn]) = line := by
  rw [dropReturn, List.getLast?_concat, if_pos (beq_self_eq_true _), List.dropLast_concat]

theorem dropReturn_of_ne (h : line.getLast? ≠ some carriageReturn) :
    dropReturn carriageReturn line = line := by
  rw [dropReturn, if_neg (by simpa using h)]

/-- Behind what is left of a line comes its end: a newline, or a carriage return and a
newline. -/
theorem exists_line_end (newline carriageReturn : α) (line rest : List α) :
    ∃ stop, (stop = [newline] ∨ stop = [carriageReturn, newline]) ∧
      line ++ newline :: rest = dropReturn carriageReturn line ++ stop ++ rest := by
  by_cases h : line.getLast? = some carriageReturn
  · obtain ⟨start, rfl⟩ := List.getLast?_eq_some_iff.1 h
    exact ⟨_, .inr rfl, by simp [dropReturn_concat]⟩
  · exact ⟨_, .inl rfl, by simp [dropReturn_of_ne h]⟩

omit [LawfulBEq α] in
theorem dropReturn_subset (line : List α) : dropReturn carriageReturn line ⊆ line := by
  rw [dropReturn]
  split
  · exact List.dropLast_subset line
  · exact List.Subset.refl line

/-- A line is a part of the text in which there is no newline. -/
theorem of_mem_lines {xs : List α} (hline : line ∈ lines newline carriageReturn xs) :
    newline ∉ line ∧ line ⊆ xs := by
  induction xs using induction_on_lines newline with
  | last xs h =>
    rw [lines_of_not_mem h] at hline
    split at hline
    · cases hline
    · obtain rfl := List.mem_singleton.1 hline
      exact ⟨h, List.Subset.refl _⟩
  | cons first rest h ih =>
    rw [lines_append h, List.mem_cons] at hline
    rcases hline with rfl | hline
    · exact ⟨fun hmem => h (dropReturn_subset first hmem),
        List.subset_append_of_subset_left _ (dropReturn_subset first)⟩
    · obtain ⟨hnewline, hsubset⟩ := ih hline
      exact ⟨hnewline, List.subset_append_of_subset_right _
        (List.subset_cons_of_subset _ hsubset)⟩

/-! ### Texts that end with a line -/

/-- No line is left open: the text is empty, or its last element is a newline. -/
def Ended (newline : α) (xs : List α) : Prop := xs = [] ∨ xs.getLast? = some newline

omit [BEq α] [LawfulBEq α] in
theorem Ended.of_append (h : Ended newline (line ++ newline :: rest)) :
    Ended newline rest := by
  cases rest with
  | nil => exact .inl rfl
  | cons x rest =>
    right
    simpa [Ended] using h

omit [BEq α] [LawfulBEq α] in
theorem ended_concat (xs : List α) : Ended newline (xs ++ [newline]) :=
  .inr List.getLast?_concat

omit [BEq α] [LawfulBEq α] in
theorem Ended.append {xs ys : List α} (hx : Ended newline xs) (hy : Ended newline ys) :
    Ended newline (xs ++ ys) := by
  rcases hy with rfl | hlast
  · rwa [List.append_nil]
  · right
    rw [List.getLast?_append, hlast, Option.some_or]

/-- Behind the end of a line the lines begin anew. -/
theorem lines_append_of_ended {xs : List α} (h : Ended newline xs) (ys : List α) :
    lines newline carriageReturn (xs ++ ys) =
      lines newline carriageReturn xs ++ lines newline carriageReturn ys := by
  induction xs using induction_on_lines newline with
  | last xs hxs =>
    rcases h with rfl | hlast
    · rfl
    · exact absurd (List.mem_of_getLast? hlast) hxs
  | cons line rest hline ih =>
    rw [List.append_assoc, List.cons_append, lines_append hline, lines_append hline,
      ih h.of_append, List.cons_append]

/-- Lines that are written with a newline behind each of them are read back. -/
theorem lines_flatMap_concat {written : List (List α)}
    (h : ∀ line ∈ written, newline ∉ line ∧ line.getLast? ≠ some carriageReturn) :
    lines newline carriageReturn (written.flatMap (· ++ [newline])) = written := by
  induction written with
  | nil => rfl
  | cons line written ih =>
    obtain ⟨⟨hnewline, hreturn⟩, hwritten⟩ := List.forall_mem_cons.1 h
    rw [List.flatMap_cons, List.append_assoc, List.singleton_append, lines_append hnewline,
      dropReturn_of_ne hreturn, ih hwritten]

end

/-! ## Bytes -/

theorem utf8EncodeChar_ascii {c : Char} (h : c.toNat < 0x80) :
    String.utf8EncodeChar c = [UInt8.ofNat c.toNat] := by
  have hle : c.val.toNat ≤ 0x7f := Nat.le_of_lt_succ h
  rw [String.utf8EncodeChar, if_pos hle]
  rfl

/-- The bytes of other characters lie above those of ASCII. -/
theorem le_of_mem_utf8EncodeChar {c : Char} {b : UInt8} (hc : 0x80 ≤ c.toNat)
    (h : b ∈ String.utf8EncodeChar c) : 0x80 ≤ b.toNat := by
  have hne : ¬ c.val.toNat ≤ 0x7f := by
    have : 0x80 ≤ c.val.toNat := hc
    omega
  rw [String.utf8EncodeChar, if_neg hne] at h
  split at h
  · simp only [List.mem_cons, List.not_mem_nil, or_false] at h
    rcases h with rfl | rfl <;> rw [UInt8.toNat_ofNat'] <;> omega
  · split at h
    · simp only [List.mem_cons, List.not_mem_nil, or_false] at h
      rcases h with rfl | rfl | rfl <;> rw [UInt8.toNat_ofNat'] <;> omega
    · simp only [List.mem_cons, List.not_mem_nil, or_false] at h
      rcases h with rfl | rfl | rfl | rfl <;> rw [UInt8.toNat_ofNat'] <;> omega

/-- The byte of an ASCII character occurs in no other character. -/
theorem eq_of_mem_utf8EncodeChar {c d : Char} (hd : d.toNat < 0x80)
    (h : UInt8.ofNat d.toNat ∈ String.utf8EncodeChar c) : c = d := by
  have hbyte : (UInt8.ofNat d.toNat).toNat = d.toNat := by
    rw [UInt8.toNat_ofNat']
    omega
  by_cases hc : c.toNat < 0x80
  · rw [utf8EncodeChar_ascii hc, List.mem_singleton, ← UInt8.toNat_inj, hbyte,
      UInt8.toNat_ofNat'] at h
    exact Char.ext (UInt32.toNat_inj.1 (show c.toNat = d.toNat by omega))
  · have := le_of_mem_utf8EncodeChar (Nat.le_of_not_lt hc) h
    omega

theorem mem_flatMap_utf8EncodeChar_iff {d : Char} (hd : d.toNat < 0x80) {cs : List Char} :
    UInt8.ofNat d.toNat ∈ cs.flatMap String.utf8EncodeChar ↔ d ∈ cs := by
  rw [List.mem_flatMap]
  constructor
  · rintro ⟨c, hc, h⟩
    exact eq_of_mem_utf8EncodeChar hd h ▸ hc
  · intro h
    exact ⟨d, h, by rw [utf8EncodeChar_ascii hd, List.mem_singleton]⟩

/-- The last byte of a text is that of a carriage return if the last character is one. -/
theorem dropReturn_flatMap_utf8EncodeChar (line : List Char) :
    dropReturn 0x0D (line.flatMap String.utf8EncodeChar) =
      (dropReturn '\r' line).flatMap String.utf8EncodeChar := by
  have hreturn : String.utf8EncodeChar '\r' = [0x0D] := utf8EncodeChar_ascii (by decide)
  rcases List.eq_nil_or_concat line with rfl | ⟨start, c, rfl⟩
  · rfl
  rw [List.concat_eq_append, List.flatMap_append, List.flatMap_singleton]
  by_cases hc : c = '\r'
  · rw [hc, hreturn, dropReturn_concat, dropReturn_concat]
  · rw [dropReturn_of_ne, dropReturn_of_ne, List.flatMap_append, List.flatMap_singleton]
    · simpa using hc
    · intro h
      rw [List.getLast?_append_of_ne_nil _ String.utf8EncodeChar_ne_nil] at h
      exact hc (eq_of_mem_utf8EncodeChar (d := '\r') (by decide) (List.mem_of_getLast? h))

/-- The lines of the bytes of a text are the bytes of its lines. -/
theorem lines_flatMap_utf8EncodeChar (cs : List Char) :
    lines 0x0A 0x0D (cs.flatMap String.utf8EncodeChar) =
      (lines '\n' '\r' cs).map fun line => line.flatMap String.utf8EncodeChar := by
  have hnewline : String.utf8EncodeChar '\n' = [0x0A] := utf8EncodeChar_ascii (by decide)
  have hmem {line : List Char} (h : '\n' ∉ line) :
      (0x0A : UInt8) ∉ line.flatMap String.utf8EncodeChar :=
    fun h' => h ((mem_flatMap_utf8EncodeChar_iff (d := '\n') (by decide)).1 h')
  induction cs using induction_on_lines '\n' with
  | last line h =>
    rw [lines_of_not_mem h, lines_of_not_mem (hmem h)]
    cases line <;> simp
  | cons line rest h ih =>
    rw [List.flatMap_append, List.flatMap_cons, hnewline, List.cons_append, List.nil_append,
      lines_append (hmem h), lines_append h, List.map_cons, ih,
      dropReturn_flatMap_utf8EncodeChar]

/-- A line that ends in a text ends in its bytes. -/
theorem Ended.flatMap_utf8EncodeChar {cs : List Char} (h : Ended '\n' cs) :
    Ended 0x0A (cs.flatMap String.utf8EncodeChar) := by
  rcases h with rfl | hlast
  · exact .inl rfl
  · obtain ⟨start, rfl⟩ := List.getLast?_eq_some_iff.1 hlast
    right
    rw [List.flatMap_append, List.flatMap_singleton, utf8EncodeChar_ascii (by decide)]
    exact List.getLast?_concat

/-- The bytes of characters are read as these characters. -/
theorem fromUTF8?_flatMap_utf8EncodeChar (cs : List Char) :
    String.fromUTF8? ⟨(cs.flatMap String.utf8EncodeChar).toArray⟩ =
      some (String.ofList cs) := by
  have hbytes : (⟨(cs.flatMap String.utf8EncodeChar).toArray⟩ : ByteArray) = cs.utf8Encode :=
    ByteArray.ext List.data_toByteArray.symm
  have hvalid : cs.utf8Encode.IsValidUTF8 := ByteArray.isValidUTF8_utf8Encode
  rw [hbytes, String.fromUTF8?, dif_pos hvalid]
  exact congrArg some (String.toByteArray_inj.1 String.toByteArray_ofList.symm)

theorem toList_loop_eq (bytes : ByteArray) (i : Nat) (start : List UInt8) :
    ByteArray.toList.loop bytes i start = start.reverse ++ bytes.data.toList.drop i := by
  fun_induction ByteArray.toList.loop bytes i start with
  | case1 i start hi ih =>
    have hlength : i < bytes.data.toList.length := hi
    have hget : bytes.get! i = bytes.data.toList[i] := getElem!_pos bytes.data i hi
    rw [ih, hget, List.drop_eq_getElem_cons hlength, List.reverse_cons, List.append_assoc]
    rfl
  | case2 i start hi =>
    rw [List.drop_eq_nil_of_le (Nat.le_of_not_lt hi), List.append_nil]

/-- The bytes of a text are those of its characters. -/
theorem toList_toUTF8 (s : String) :
    s.toUTF8.toList = s.toList.flatMap String.utf8EncodeChar := by
  show s.toByteArray.toList = _
  rw [ByteArray.toList, toList_loop_eq, ← String.utf8Encode_toList, List.utf8Encode,
    List.data_toByteArray]
  rfl

theorem toList_toUTF8_append (s t : String) :
    (s ++ t).toUTF8.toList = s.toUTF8.toList ++ t.toUTF8.toList := by
  simp only [toList_toUTF8, String.toList_append, List.flatMap_append]

end PatternAssembly.Text
