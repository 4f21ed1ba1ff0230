import Dealias.Json.Number
import Dealias.Text.Hex

/-!
# Reading JSON

Readers for the pieces of a JSON text.  A reader takes the characters that are left and gives back
what it read with the characters behind it, or says what kept it from reading: the text ended too
early, it is not JSON, or it is JSON but not what was asked for.  Reading stops at the first
problem, so of two problems the one that stands further left is reported.

Each reader leaves fewer characters than it was given (`readString_shorter` and its
like); that is the measure by which the readers of nested values end.
-/

namespace Dealias.Json

/-- What keeps a text from being read. -/
inductive Problem
  /-- The text ended too early. -/
  | ended
  /-- The text is not JSON. -/
  | malformed
  /-- The text is JSON, but does not hold what was asked for. -/
  | mismatched
  deriving DecidableEq, Repr

/-- The four characters that may stand between the pieces of a JSON text. -/
def isBlank (c : Char) : Bool :=
  c = ' ' || c = '\n' || c = '\t' || c = '\r'

/-- The text from its first character that is not blank. -/
def skipBlank (cs : List Char) : List Char :=
  cs.dropWhile isBlank

/-- Skipping blanks makes no text longer. -/
theorem skipBlank_length (cs : List Char) : (skipBlank cs).length ≤ cs.length :=
  (List.dropWhile_sublist _).length_le

/-! ## Texts -/

/-- Four digits in base sixteen.  A text with fewer than four bytes left has ended. -/
def readHex : List Char → Except Problem (Nat × List Char)
  | a :: b :: c :: d :: rest =>
    match Text.hexValue? a, Text.hexValue? b, Text.hexValue? c, Text.hexValue? d with
    | some i, some j, some k, some l => .ok (((i * 16 + j) * 16 + k) * 16 + l, rest)
    | _, _, _, _ => .error .malformed
  | short => .error (if (String.ofList short).utf8ByteSize < 4 then .ended else .malformed)

/-- A number is the first half of a pair that stands for one character. -/
def isLeading (n : Nat) : Bool := 0xD800 ≤ n && n ≤ 0xDBFF

/-- A number is the second half of a pair that stands for one character. -/
def isTrailing (n : Nat) : Bool := 0xDC00 ≤ n && n ≤ 0xDFFF

/-- The second half of a pair, with its escape in front. -/
def readTrailing : List Char → Except Problem (Nat × List Char)
  | [] => .error .ended
  | '\\' :: [] => .error .ended
  | '\\' :: 'u' :: rest => do
    let (n, rest) ← readHex rest
    if isTrailing n then .ok (n, rest) else .error .malformed
  | _ => .error .malformed

/-- A character given by its number, behind `\u`. -/
def readNumbered (cs : List Char) : Except Problem (Char × List Char) := do
  let (n, rest) ← readHex cs
  if isTrailing n then .error .malformed
  else if isLeading n then
    let (m, rest) ← readTrailing rest
    .ok (Char.ofNat ((n - 0xD800) * 0x400 + (m - 0xDC00) + 0x10000), rest)
  else .ok (Char.ofNat n, rest)

/-- The characters that a single letter behind a backslash stands for. -/
def namedEscape? : Char → Option Char
  | '"' => some '"'
  | '\\' => some '\\'
  | '/' => some '/'
  | 'b' => some '\u0008'
  | 'f' => some '\u000c'
  | 'n' => some '\n'
  | 'r' => some '\r'
  | 't' => some '\t'
  | _ => none

/-- An escaped character, behind its backslash. -/
def readEscape : List Char → Except Problem (Char × List Char)
  | [] => .error .ended
  | 'u' :: rest => readNumbered rest
  | c :: rest =>
    match namedEscape? c with
    | some d => .ok (d, rest)
    | none => .error .malformed

theorem readHex_shorter {cs rest : List Char} {n : Nat} (h : readHex cs = .ok (n, rest)) :
    rest.length < cs.length := by
  unfold readHex at h
  split at h
  · split at h
    · simp only [Except.ok.injEq, Prod.mk.injEq] at h
      simp only [List.length_cons, ← h.2]
      omega
    · simp at h
  · simp at h

theorem readTrailing_shorter {cs rest : List Char} {n : Nat}
    (h : readTrailing cs = .ok (n, rest)) : rest.length < cs.length := by
  unfold readTrailing at h
  split at h
  · simp at h
  · simp at h
  · next tail =>
    cases ht : readHex tail with
    | error e => simp [ht, bind, Except.bind] at h
    | ok r =>
      obtain ⟨m, left⟩ := r
      have hs := readHex_shorter ht
      by_cases hm : isTrailing m = true
      · simp [ht, bind, Except.bind, hm] at h
        simp only [List.length_cons, ← h.2]
        omega
      · simp [ht, bind, Except.bind, hm] at h
  · simp at h

theorem readNumbered_shorter {cs rest : List Char} {c : Char}
    (h : readNumbered cs = .ok (c, rest)) : rest.length < cs.length := by
  unfold readNumbered at h
  cases hr : readHex cs with
  | error e => simp [hr, bind, Except.bind] at h
  | ok r =>
    obtain ⟨n, left⟩ := r
    have hs := readHex_shorter hr
    by_cases ht : isTrailing n = true
    · simp [hr, bind, Except.bind, ht] at h
    by_cases hl : isLeading n = true
    · cases hm : readTrailing left with
      | error e => simp [hr, bind, Except.bind, ht, hl, hm] at h
      | ok r =>
        obtain ⟨m, last⟩ := r
        have hs' := readTrailing_shorter hm
        simp [hr, bind, Except.bind, ht, hl, hm] at h
        rw [← h.2]
        omega
    · simp [hr, bind, Except.bind, ht, hl] at h
      rw [← h.2]
      omega

theorem readEscape_shorter {cs rest : List Char} {c : Char}
    (h : readEscape cs = .ok (c, rest)) : rest.length < cs.length := by
  unfold readEscape at h
  split at h
  · simp at h
  · have := readNumbered_shorter h
    simp only [List.length_cons]
    omega
  · split at h
    · simp only [Except.ok.injEq, Prod.mk.injEq] at h
      simp [← h.2]
    · simp at h

/-- The rest of a text behind its opening quotation mark; `done` holds what is read, last character
first. -/
def readString (done : List Char) : List Char → Except Problem (String × List Char)
  | [] => .error .ended
  | c :: rest =>
    if c = '"' then .ok (String.ofList done.reverse, rest)
    else if c = '\\' then
      match _h : readEscape rest with
      | .error e => .error e
      | .ok (d, rest') => readString (d :: done) rest'
    else if c < ' ' then .error .malformed
    else readString (c :: done) rest
termination_by cs => cs.length
decreasing_by
  · have := readEscape_shorter _h
    simp only [List.length_cons]
    omega
  · simp

theorem readString_shorter {done cs rest : List Char} {s : String}
    (h : readString done cs = .ok (s, rest)) : rest.length < cs.length := by
  fun_induction readString done cs with
  | case1 => simp at h
  | case2 done tail =>
    simp only [Except.ok.injEq, Prod.mk.injEq] at h
    simp [← h.2]
  | case3 => simp at h
  | case4 done tail d left he _ ih =>
    have := readEscape_shorter he
    have := ih h
    simp only [List.length_cons]
    omega
  | case5 => simp at h
  | case6 done c tail h1 h2 h3 ih =>
    have := ih h
    simp only [List.length_cons]
    omega

/-! ## Words and numbers -/

/-- The letters of a fixed word. -/
def readWord : (word : List Char) → List Char → Except Problem (List Char)
  | [], cs => .ok cs
  | _ :: _, [] => .error .ended
  | w :: word, c :: cs => if w = c then readWord word cs else .error .malformed

/-- A number: an unsigned 64-bit integer, or another one. -/
inductive Number
  | natural (n : Nat)
  | other
  deriving DecidableEq, Repr

/-- The value of a number that has a fraction or an exponent, or does not fit into 64 bits. -/
def fractional (significand : Nat) (exponent : Int) : Except Problem Number :=
  if beyondDouble significand exponent then .error .malformed else .ok .other

/-- The largest exponent.  A larger one makes a number infinite, or zero. -/
def exponentLimit : Nat := 2147483647

/-- The value of the digits of an exponent, or a number above the limit. -/
def exponentSize (digits : List Char) : Nat :=
  digits.foldl (fun n d => min (n * 10 + digitValue d) (exponentLimit + 1)) 0

/-- The digits of an exponent, behind its letter. -/
def readExponent (significand : Nat) (exponent : Int) (cs : List Char) :
    Except Problem (Number × List Char) := do
  let (negative, cs) :=
    match cs with
    | '+' :: rest => (false, rest)
    | '-' :: rest => (true, rest)
    | _ => (false, cs)
  let digits := cs.takeWhile Char.isDigit
  let rest := cs.dropWhile Char.isDigit
  if digits = [] then .error (if cs = [] then .ended else .malformed)
  else
    let size := exponentSize digits
    if exponentLimit < size then
      if significand ≠ 0 ∧ ¬ negative then .error .malformed else .ok (.other, rest)
    else
      let number ← fractional significand (if negative then exponent - size else exponent + size)
      .ok (number, rest)

/-- An exponent, if there is one. -/
def readScale (significand : Nat) (exponent : Int) (cs : List Char) :
    Except Problem (Number × List Char) :=
  match cs with
  | 'e' :: rest => readExponent significand exponent rest
  | 'E' :: rest => readExponent significand exponent rest
  | _ => do .ok (← fractional significand exponent, cs)

/-- A number from its first digit on. -/
def readUnsigned (cs : List Char) : Except Problem (Number × List Char) := do
  let digits := cs.takeWhile Char.isDigit
  let rest := cs.dropWhile Char.isDigit
  if digits = [] then .error (if cs = [] then .ended else .malformed)
  else if digits.head? = some '0' ∧ digits.length ≠ 1 then .error .malformed
  else
    let (significand, used) := absorb 0 digits
    let exponent : Int := digits.length - used
    match rest with
    | '.' :: rest =>
      let places := rest.takeWhile Char.isDigit
      let rest := rest.dropWhile Char.isDigit
      if places = [] then .error (if rest = [] then .ended else .malformed)
      else
        let (significand, used) := absorb significand places
        readScale significand (exponent - used) rest
    | 'e' :: rest => readExponent significand exponent rest
    | 'E' :: rest => readExponent significand exponent rest
    | _ =>
      if used = digits.length then .ok (.natural significand, rest)
      else do .ok (← fractional significand exponent, rest)

/-- A number.  With a minus sign in front it is never natural: minus zero is no integer. -/
def readNumber : List Char → Except Problem (Number × List Char)
  | '-' :: rest => do
    let (_, rest) ← readUnsigned rest
    .ok (.other, rest)
  | cs => readUnsigned cs

/-- What is wrong with a value that is not of the kind asked for: the value itself, unless it
cannot be read. -/
def mismatch : List Char → Problem
  | [] => .ended
  | 'n' :: rest => result (readWord "ull".toList rest)
  | 't' :: rest => result (readWord "rue".toList rest)
  | 'f' :: rest => result (readWord "alse".toList rest)
  | '"' :: rest => result (readString [] rest)
  | '[' :: _ => .mismatched
  | '\x7b' :: _ => .mismatched
  | c :: rest => if c = '-' ∨ c.isDigit then result (readNumber (c :: rest)) else .malformed
where
  result {α : Type} : Except Problem α → Problem
    | .error e => e
    | .ok _ => .mismatched

/-- A text, with blanks in front of it. -/
def readText (cs : List Char) : Except Problem (String × List Char) :=
  match skipBlank cs with
  | '"' :: rest => readString [] rest
  | cs => .error (mismatch cs)

/-- An unsigned 64-bit integer, with blanks in front of it. -/
def readNatural (cs : List Char) : Except Problem (Nat × List Char) :=
  match skipBlank cs with
  | [] => .error .ended
  | c :: rest =>
    if c = '-' ∨ c.isDigit then
      match readNumber (c :: rest) with
      | .ok (.natural n, rest) => .ok (n, rest)
      | .ok (.other, _) => .error .mismatched
      | .error e => .error e
    else .error (mismatch (c :: rest))

/-- Nothing but blanks may follow a value. -/
def readEnd (cs : List Char) : Except Problem Unit :=
  if skipBlank cs = [] then .ok () else .error .malformed

end Dealias.Json
