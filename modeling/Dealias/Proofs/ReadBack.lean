import Dealias.Json.Reader
import Dealias.Json.Value

/-!
# Texts and numbers read back

What is written for a text is read back as this text, whatever its characters are: each of them is
written as itself or as an escape, and the reader makes the same character of either
(`readString_quoted`).  What is written for a number is read back as this number if it fits into 64
bits and what follows does not go on with it (`readNatural_decimal`).
-/

namespace Dealias.Json

variable {cs rest left done letters digits : List Char} {c d : Char} {n m : Nat}

theorem skipBlank_cons (hc : isBlank c = false) (rest : List Char) :
    skipBlank (c :: rest) = c :: rest := by
  simp [skipBlank, hc]

theorem readEnd_nil : readEnd [] = .ok () := rfl

/-! ## Texts -/

/-- A hexadecimal digit is read back as its value. -/
theorem hexValue?_hexDigit : ∀ n < 16, Text.hexValue? (hexDigit n) = some n := by
  decide

/-- A control character is read back from its number. -/
theorem readEscape_numbered (hc : c.toNat < 0x20) :
    readEscape ('u' :: '0' :: '0' :: hexDigit (c.toNat / 16) :: hexDigit (c.toNat % 16) :: rest) =
      .ok (c, rest) := by
  have hzero : Text.hexValue? '0' = some 0 := by decide
  have hhigh := hexValue?_hexDigit (c.toNat / 16) (by omega)
  have hlow := hexValue?_hexDigit (c.toNat % 16) (by omega)
  have hnumber : ((0 * 16 + 0) * 16 + c.toNat / 16) * 16 + c.toNat % 16 = c.toNat := by omega
  have hhex : readHex ('0' :: '0' :: hexDigit (c.toNat / 16) :: hexDigit (c.toNat % 16) :: rest) =
      .ok (c.toNat, rest) := by
    simp only [readHex, hzero, hhigh, hlow, hnumber]
  have htrailing : isTrailing c.toNat = false := by
    simp only [isTrailing, Bool.and_eq_false_iff, decide_eq_false_iff_not]
    omega
  have hleading : isLeading c.toNat = false := by
    simp only [isLeading, Bool.and_eq_false_iff, decide_eq_false_iff_not]
    omega
  simp [readEscape, readNumbered, hhex, htrailing, hleading, bind, Except.bind, Char.ofNat_toNat]

/-- An escaped character is read as one of the text, and reading goes on behind it. -/
theorem readString_of_readEscape (h : readEscape rest = .ok (d, left)) :
    readString done ('\\' :: rest) = readString (d :: done) left := by
  rw [readString, if_neg (by decide), if_pos rfl]
  split
  · simp_all
  · rename_i h'
    rw [h] at h'
    cases h'
    rfl

/-- A character with a name of its own is read back from it. -/
theorem readEscape_named (h : namedEscape? d = some c) :
    readEscape (d :: rest) = .ok (c, rest) := by
  unfold readEscape
  split
  · rename_i hnil
    cases hnil
  · rename_i hletter
    obtain ⟨rfl, -⟩ := List.cons.inj hletter
    cases h
  · rename_i hletter
    obtain ⟨rfl, rfl⟩ := List.cons.inj hletter
    simp [h]

/-- **The written form of a character is read as the character.** -/
theorem readString_escape (c : Char) :
    readString done (escape c ++ rest) = readString (c :: done) rest := by
  by_cases hnamed : c ∈ ['"', '\\', '\u0008', '\t', '\n', '\u000c', '\r']
  · simp only [List.mem_cons, List.not_mem_nil, or_false] at hnamed
    rcases hnamed with rfl | rfl | rfl | rfl | rfl | rfl | rfl <;>
      exact readString_of_readEscape (readEscape_named rfl)
  · simp only [List.mem_cons, List.not_mem_nil, or_false, not_or] at hnamed
    obtain ⟨hquote, hbackslash, hbackspace, htab, hline, hpage, hreturn⟩ := hnamed
    by_cases hcontrol : c.toNat < 0x20
    · simp only [escape, hquote, hbackslash, hbackspace, htab, hline, hpage, hreturn, hcontrol,
        if_false, if_true]
      exact readString_of_readEscape (readEscape_numbered hcontrol)
    · have hblank : ¬ c < ' ' := by
        rw [Char.lt_def, UInt32.lt_iff_toNat_lt]
        exact hcontrol
      simp only [escape, hquote, hbackslash, hbackspace, htab, hline, hpage, hreturn, hcontrol,
        if_false, List.singleton_append]
      rw [readString, if_neg hquote, if_neg hbackslash, if_neg hblank]

/-- Written characters are read back up to the closing quotation mark. -/
theorem readString_flatMap_escape :
    readString done (letters.flatMap escape ++ '"' :: rest) =
      .ok (String.ofList (done.reverse ++ letters), rest) := by
  induction letters generalizing done with
  | nil => simp [readString]
  | cons c letters ih =>
      rw [List.flatMap_cons, List.append_assoc, readString_escape, ih]
      simp

/-- A quoted text begins with its quotation mark. -/
theorem quote_append (s : String) (rest : List Char) :
    quote s ++ rest = '"' :: (s.toList.flatMap escape ++ '"' :: rest) := by
  simp [quote]

/-- **A text is read back from between its quotation marks.** -/
theorem readString_quoted (s : String) (rest : List Char) :
    readString [] (s.toList.flatMap escape ++ '"' :: rest) = .ok (s, rest) := by
  rw [readString_flatMap_escape, List.reverse_nil, List.nil_append, String.ofList_toList]

/-- A quoted text is read back whole. -/
theorem readText_quote (s : String) (rest : List Char) :
    readText (quote s ++ rest) = .ok (s, rest) := by
  rw [quote_append]
  simp only [readText, skipBlank_cons (by decide : isBlank '"' = false)]
  exact readString_quoted s rest

/-! ## Numbers -/

/-- What follows does not go on with a number. -/
def EndsNumber (rest : List Char) : Prop :=
  ∀ c ∈ rest.head?, ¬ c.isDigit ∧ c ≠ '.' ∧ c ≠ 'e' ∧ c ≠ 'E'

theorem endsNumber_nil : EndsNumber [] := by
  intro c hc
  cases hc

/-- A number ends where a comma or a bracket follows. -/
theorem endsNumber_cons (hc : c ∈ [',', ']', '\x7d']) (rest : List Char) :
    EndsNumber (c :: rest) := by
  intro d hd
  obtain rfl : c = d := Option.some.inj hd
  simp only [List.mem_cons, List.not_mem_nil, or_false] at hc
  rcases hc with rfl | rfl | rfl <;> decide

/-- Digits behind a number do not make it less. -/
theorem le_ofDigitChars (digits : List Char) (n : Nat) : n ≤ Nat.ofDigitChars 10 digits n := by
  induction digits generalizing n with
  | nil => exact Nat.le_refl n
  | cons d digits ih =>
      have := ih (10 * n + (d.toNat - '0'.toNat))
      rw [Nat.ofDigitChars_cons]
      omega

/-- Digits that fit are all taken. -/
theorem absorb_eq (h : Nat.ofDigitChars 10 digits n < wordLimit) :
    absorb n digits = (Nat.ofDigitChars 10 digits n, digits.length) := by
  induction digits generalizing n with
  | nil => rfl
  | cons d digits ih =>
      rw [Nat.ofDigitChars_cons] at h ⊢
      have hnext : n * 10 + digitValue d = 10 * n + (d.toNat - '0'.toNat) := by
        rw [Nat.mul_comm]
        rfl
      have hfits := Nat.lt_of_le_of_lt (le_ofDigitChars digits _) h
      simp only [absorb, hnext, if_pos hfits, ih h, List.length_cons]

/-- A written number has nothing but digits. -/
theorem isDigit_of_mem_decimal (h : c ∈ decimal n) : c.isDigit = true :=
  Nat.isDigit_of_mem_toDigits (by decide) (by decide) h

/-- A written number begins with a digit. -/
theorem exists_decimal_eq_cons (n : Nat) :
    ∃ d digits, decimal n = d :: digits ∧ d.isDigit = true := by
  have hne : decimal n ≠ [] := Nat.toDigits_ne_nil
  obtain ⟨d, digits, h⟩ := List.exists_cons_of_ne_nil hne
  exact ⟨d, digits, h, isDigit_of_mem_decimal (h ▸ List.mem_cons_self)⟩

/-- Only zero is written with a zero in front. -/
theorem head?_decimal_ne (hn : 0 < n) : (decimal n).head? ≠ some '0' := by
  induction n using Nat.strongRecOn with
  | _ n ih =>
      rw [decimal, Nat.toDigits_eq_if (by decide)]
      split
      · rename_i hsmall
        have hdigits : ∀ m < 10, 0 < m → Nat.digitChar m ≠ '0' := by decide
        simpa using hdigits n hsmall hn
      · rename_i hlarge
        have hfront := ih (n / 10) (by omega) (by omega)
        obtain ⟨d, digits, hdigits, -⟩ := exists_decimal_eq_cons (n / 10)
        rw [hdigits] at hfront
        rw [← decimal, hdigits]
        exact hfront

/-- Where a number ends no digit follows. -/
theorem takeWhile_isDigit_of_ends (hrest : EndsNumber rest) :
    rest.takeWhile Char.isDigit = [] ∧ rest.dropWhile Char.isDigit = rest := by
  cases rest with
  | nil => exact ⟨rfl, rfl⟩
  | cons c rest =>
      have hdigit := (hrest c rfl).1
      simp [hdigit]

/-- The digits of a number are read up to its end. -/
theorem readUnsigned_decimal (hn : n < wordLimit) (hrest : EndsNumber rest) :
    readUnsigned (decimal n ++ rest) = .ok (.natural n, rest) := by
  have hdigits : ∀ c ∈ decimal n, c.isDigit = true := fun c => isDigit_of_mem_decimal
  obtain ⟨htake, hdrop⟩ := takeWhile_isDigit_of_ends hrest
  have hfront : (decimal n ++ rest).takeWhile Char.isDigit = decimal n := by
    rw [List.takeWhile_append_of_pos hdigits, htake, List.append_nil]
  have hback : (decimal n ++ rest).dropWhile Char.isDigit = rest := by
    rw [List.dropWhile_append_of_pos hdigits, hdrop]
  have hne : decimal n ≠ [] := Nat.toDigits_ne_nil
  have hzero : ¬ ((decimal n).head? = some '0' ∧ (decimal n).length ≠ 1) := by
    intro h
    by_cases hpos : 0 < n
    · exact head?_decimal_ne hpos h.1
    · obtain rfl : n = 0 := by omega
      exact h.2 rfl
  have hvalue : Nat.ofDigitChars 10 (decimal n) 0 = n :=
    Nat.ofDigitChars_toDigits (by decide) (by decide)
  have habsorb : absorb 0 (decimal n) = (n, (decimal n).length) := by
    have hfits : Nat.ofDigitChars 10 (decimal n) 0 < wordLimit := by rwa [hvalue]
    rw [absorb_eq hfits, hvalue]
  simp only [readUnsigned, hfront, hback, if_neg hne, if_neg hzero, habsorb]
  split
  · exact absurd rfl (hrest _ rfl).2.1
  · exact absurd rfl (hrest _ rfl).2.2.1
  · exact absurd rfl (hrest _ rfl).2.2.2
  · simp

theorem isBlank_eq_false (hc : c.isDigit = true) : isBlank c = false := by
  rw [Bool.eq_false_iff]
  intro hblank
  simp only [isBlank, Bool.or_eq_true, decide_eq_true_eq] at hblank
  rcases hblank with ((rfl | rfl) | rfl) | rfl <;> cases hc

/-- **A number is read back from its digits.** -/
theorem readNatural_decimal (hn : n < wordLimit) (hrest : EndsNumber rest) :
    readNatural (decimal n ++ rest) = .ok (n, rest) := by
  obtain ⟨d, digits, hdecimal, hdigit⟩ := exists_decimal_eq_cons n
  have hread := readUnsigned_decimal hn hrest
  rw [hdecimal, List.cons_append] at hread ⊢
  have hminus : d ≠ '-' := by
    rintro rfl
    cases hdigit
  have hblank := isBlank_eq_false hdigit
  have hnumber : readNumber (d :: (digits ++ rest)) = readUnsigned (d :: (digits ++ rest)) := by
    unfold readNumber
    split
    · rename_i h
      exact absurd (List.cons.inj h).1 hminus
    · rfl
  simp [readNatural, skipBlank_cons hblank, hdigit, hnumber, hread]

end Dealias.Json
