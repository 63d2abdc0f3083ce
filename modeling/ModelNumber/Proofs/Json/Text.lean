import ModelNumber.Json.Printer
import ModelNumber.Json.Reader

/-
  Texts are read as they were written, in every form of a
  document: each character, escaped or not, is read back, and
  the closing quote ends the text.

  Main declarations:
    * `Text.toList_hex_four`
    * `Json.Reader.textFrom_escape`
    * `Json.Reader.textFrom_printChar`
    * `Json.exists_printText`
-/

namespace ModelNumber

------------------------------------------------------------
-- Hexadecimal digits
------------------------------------------------------------

/- A digit in front of the last one, or a zero. -/
theorem Text.toList_hex_succ (width n : Nat) :
    (hex (width + 2) n).toList =
      (hex (width + 1) (n / 16)).toList
        ++ [Nat.digitChar (n % 16)] := by
  unfold hex
  rw [String.toList_ofList, String.toList_ofList]
  by_cases hn : n < 16
  · rw [Nat.toDigits_of_lt_base hn, Nat.div_eq_of_lt hn,
      Nat.mod_eq_of_lt hn, Nat.toDigits_zero]
    exact
      congrArg (· ++ [Nat.digitChar n]) List.replicate_succ'
  · rw [Nat.toDigits_of_base_le (by decide) (Nat.le_of_not_lt hn),
      List.length_append, List.length_singleton,
      Nat.add_sub_add_right _ 1, List.append_assoc]

/- Four hexadecimal digits, from the first to the last. -/
theorem Text.toList_hex_four
    {n : Nat}
    (hn : n < 0x10000) :
    (hex 4 n).toList =
      [Nat.digitChar (n / 4096), Nat.digitChar (n / 256 % 16),
        Nat.digitChar (n / 16 % 16), Nat.digitChar (n % 16)] := by
  have hFirst :
      (hex 1 (n / 4096)).toList = [Nat.digitChar (n / 4096)] := by
    unfold hex
    rw [Nat.toDigits_of_lt_base (by omega), String.toList_ofList]
    rfl
  rw [toList_hex_succ, toList_hex_succ, toList_hex_succ]
  simp only [Nat.div_div_eq_div_mul, Nat.reduceMul, hFirst,
    List.cons_append, List.nil_append]

namespace Json

namespace Reader

/- A digit is read as what it was written for. -/
theorem hexDigit?_digitChar :
    ∀ d < 16, hexDigit? (Nat.digitChar d) = some d := by
  decide

/- Four digits are read as the code unit they were written for. -/
theorem unit?_digitChars
    {n : Nat}
    (hn : n < 0x10000) :
    unit? (Nat.digitChar (n / 4096))
        (Nat.digitChar (n / 256 % 16))
        (Nat.digitChar (n / 16 % 16))
        (Nat.digitChar (n % 16)) =
      some n := by
  unfold unit?
  rw [hexDigit?_digitChar _ (by omega),
    hexDigit?_digitChar _ (by omega),
    hexDigit?_digitChar _ (by omega),
    hexDigit?_digitChar _ (by omega)]
  change some _ = _
  rw [Option.some.injEq]
  omega

------------------------------------------------------------
-- Escapes
------------------------------------------------------------

/- The escape of a code unit. -/
theorem toList_unitEscape
    {n : Nat}
    (hn : n < 0x10000) :
    (unitEscape n).toList =
      ['\\', 'u', Nat.digitChar (n / 4096),
        Nat.digitChar (n / 256 % 16),
        Nat.digitChar (n / 16 % 16), Nat.digitChar (n % 16)] := by
  rw [unitEscape, String.toList_append, Text.toList_hex_four hn]
  rfl

/- A code unit that is no surrogate is read as its character. -/
theorem textFrom_unitEscape
    {n : Nat}
    (hn : n < 0x10000)
    (hHigh : isHighSurrogate n = false)
    (read rest : List Char) :
    textFrom none read ((unitEscape n).toList ++ rest) =
      textFrom none (charOfUnit n :: read) rest := by
  rw [toList_unitEscape hn]
  simp only [List.cons_append, List.nil_append]
  rw [textFrom, unit?_digitChars hn]
  simp only [hHigh, Bool.false_eq_true, if_false]

/- Two surrogates are read as the character of the pair. -/
theorem textFrom_surrogates
    {high low : Nat}
    (hHigh : isHighSurrogate high = true)
    (hLow : isLowSurrogate low = true)
    (read rest : List Char) :
    textFrom none read
        ((unitEscape high).toList
          ++ ((unitEscape low).toList ++ rest)) =
      textFrom none (charOfPair high low :: read) rest := by
  have hHighBound : high < 0x10000 := by
    simp [isHighSurrogate] at hHigh
    omega
  have hLowBound : low < 0x10000 := by
    simp [isLowSurrogate] at hLow
    omega
  rw [toList_unitEscape hHighBound, toList_unitEscape hLowBound]
  simp only [List.cons_append, List.nil_append]
  rw [textFrom, unit?_digitChars hHighBound]
  simp only [hHigh, if_true]
  rw [textFrom, unit?_digitChars hLowBound]
  simp only [hLow, if_true]

/- The character of the surrogates that an offset is split into. -/
theorem charOfPair_surrogates (offset : Nat) :
    charOfPair (0xD800 + offset / 0x400)
        (0xDC00 + offset % 0x400) =
      Char.ofNat (0x10000 + offset) := by
  rw [charOfPair, Nat.add_sub_cancel_left,
    Nat.add_sub_cancel_left, Nat.add_assoc, Nat.div_add_mod']

/- An escaped character is read back. -/
theorem textFrom_escape
    (c : Char)
    (read rest : List Char) :
    textFrom none read ((escape c).toList ++ rest) =
      textFrom none (c :: read) rest := by
  have hValid : c.toNat.isValidChar := c.valid
  rw [Nat.isValidChar] at hValid
  unfold escape
  by_cases hPlane : c.toNat < 0x10000
  · have hHigh : isHighSurrogate c.toNat = false := by
      simp only [isHighSurrogate, Bool.and_eq_false_iff,
        decide_eq_false_iff_not]
      omega
    have hLow : isLowSurrogate c.toNat = false := by
      simp only [isLowSurrogate, Bool.and_eq_false_iff,
        decide_eq_false_iff_not]
      omega
    have hChar : charOfUnit c.toNat = c := by
      rw [charOfUnit, hHigh, hLow]
      exact Char.ofNat_toNat c
    simp only [if_pos hPlane]
    rw [textFrom_unitEscape hPlane hHigh, hChar]
  · simp only [if_neg hPlane]
    rw [String.toList_append, List.append_assoc,
      textFrom_surrogates, charOfPair_surrogates,
      Nat.add_sub_cancel' (Nat.le_of_not_lt hPlane),
      Char.ofNat_toNat]
    · simp only [isHighSurrogate, Bool.and_eq_true,
        decide_eq_true_eq]
      omega
    · simp only [isLowSurrogate, Bool.and_eq_true,
        decide_eq_true_eq]
      omega

------------------------------------------------------------
-- Characters
------------------------------------------------------------

/- A character with a short escape is read back. -/
theorem textFrom_simpleEscape
    {e c : Char}
    (hEscape : simpleEscape? e = some c)
    (read rest : List Char) :
    textFrom none read ('\\' :: e :: rest) =
      textFrom none (c :: read) rest := by
  have hLetter : e ≠ 'u' := by
    rintro rfl
    cases hEscape
  rw [textFrom.eq_def]
  split
  · rename_i hSame
    cases hSame
  · rename_i hSame
    exact absurd (List.cons.inj (List.cons.inj hSame).2).1 hLetter
  · rename_i hSame
    cases hSame
    simp only [hEscape]
    rfl

/- A character that is not escaped is read back. -/
theorem textFrom_plain
    {c : Char}
    (hQuote : c ≠ '"')
    (hBackslash : c ≠ '\\')
    (hControl : ¬ c.toNat < 0x20)
    (read rest : List Char) :
    textFrom none read (c :: rest) =
      textFrom none (c :: read) rest := by
  rw [textFrom.eq_def]
  split
  · rename_i hSame
    cases hSame
  · rename_i hSame
    exact absurd (List.cons.inj hSame).1 hBackslash
  · rename_i hSame
    cases hSame
    simp only [if_neg hQuote, if_neg hBackslash, if_neg hControl]

/- A written character is read back. -/
theorem textFrom_printChar
    (form : Form)
    (c : Char)
    (read rest : List Char) :
    textFrom none read ((printChar form c).toList ++ rest) =
      textFrom none (c :: read) rest := by
  unfold printChar
  by_cases hQuote : c = '"'
  · rw [if_pos hQuote, hQuote]
    exact textFrom_simpleEscape rfl read rest
  rw [if_neg hQuote]
  by_cases hBackslash : c = '\\'
  · rw [if_pos hBackslash, hBackslash]
    exact textFrom_simpleEscape rfl read rest
  rw [if_neg hBackslash]
  by_cases hNewline : c = '\n'
  · rw [if_pos hNewline, hNewline]
    exact textFrom_simpleEscape rfl read rest
  rw [if_neg hNewline]
  by_cases hReturn : c = '\r'
  · rw [if_pos hReturn, hReturn]
    exact textFrom_simpleEscape rfl read rest
  rw [if_neg hReturn]
  by_cases hTab : c = '\t'
  · rw [if_pos hTab, hTab]
    exact textFrom_simpleEscape rfl read rest
  rw [if_neg hTab]
  by_cases hBackspace : c = '\x08'
  · rw [if_pos hBackspace, hBackspace]
    exact textFrom_simpleEscape rfl read rest
  rw [if_neg hBackspace]
  by_cases hFeed : c = '\x0C'
  · rw [if_pos hFeed, hFeed]
    exact textFrom_simpleEscape rfl read rest
  rw [if_neg hFeed]
  split
  · exact textFrom_escape c read rest
  · rename_i hPlain
    rw [Bool.or_eq_true, not_or, decide_eq_true_eq] at hPlain
    rw [String.toList_singleton]
    exact textFrom_plain hQuote hBackslash hPlain.1 read rest

/- The characters of a text are read up to its closing quote. -/
theorem textFrom_join
    (form : Form)
    (cs read rest : List Char) :
    textFrom none read
        ((String.join (cs.map (printChar form))).toList
          ++ '"' :: rest) =
      .ok (String.ofList (read.reverse ++ cs), rest) := by
  induction cs generalizing read with
  | nil =>
      rw [List.map_nil, String.join_nil, List.append_nil]
      change textFrom none read ('"' :: rest) = _
      rw [textFrom.eq_def]
      rfl
  | cons c cs ih =>
      rw [List.map_cons, String.join_cons, String.toList_append,
        List.append_assoc, textFrom_printChar, ih,
        List.reverse_cons, List.append_assoc]
      rfl

end Reader

/- A written text is read back after its opening quote. -/
theorem exists_printText
    (form : Form)
    (s : String)
    (rest : List Char) :
    ∃ body,
      (printText form s).toList ++ rest = '"' :: body ∧
        Reader.text body = .ok (s, rest) := by
  refine
    ⟨(String.join (s.toList.map (printChar form))).toList
        ++ '"' :: rest, ?_, ?_⟩
  · rw [printText, String.toList_append, String.toList_append,
      List.append_assoc, List.append_assoc]
    rfl
  · rw [Reader.text, Reader.textFrom_join]
    exact congrArg (fun t => Except.ok (t, rest))
      String.ofList_toList

end Json

end ModelNumber
