import Dealias.Json.Reader

/-!
# Passing over a JSON value

A value whose content does not matter is only checked for its form.  The check is laxer than
reading: a number may be of any size and a text may hold halves of pairs.  It keeps the brackets
that are open in a list and moves between four phases, so nesting costs no recursion of its own.
-/

namespace Dealias.Json

/-- An escaped character that is passed over, behind its backslash. -/
def skipEscape : List Char → Except Problem (List Char)
  | [] => .error .ended
  | 'u' :: rest => do return (← readHex rest).2
  | c :: rest => if (namedEscape? c).isSome then .ok rest else .error .malformed

theorem skipEscape_shorter {cs rest : List Char} (h : skipEscape cs = .ok rest) :
    rest.length < cs.length := by
  unfold skipEscape at h
  split at h
  · simp at h
  · next tail =>
    cases hr : readHex tail with
    | error e => simp [hr, bind, Except.bind] at h
    | ok r =>
      obtain ⟨n, left⟩ := r
      have := readHex_shorter hr
      simp [hr, bind, Except.bind, pure, Except.pure] at h
      simp only [List.length_cons, ← h]
      omega
  · split at h
    · simp only [Except.ok.injEq] at h
      simp [← h]
    · simp at h

/-- The rest of a text behind its opening quotation mark. -/
def skipString : List Char → Except Problem (List Char)
  | [] => .error .ended
  | c :: rest =>
    if c = '"' then .ok rest
    else if c = '\\' then
      match _h : skipEscape rest with
      | .error e => .error e
      | .ok rest' => skipString rest'
    else if c < ' ' then .error .malformed
    else skipString rest
termination_by cs => cs.length
decreasing_by
  · have := skipEscape_shorter _h
    simp only [List.length_cons]
    omega
  · simp

theorem skipString_shorter {cs rest : List Char} (h : skipString cs = .ok rest) :
    rest.length < cs.length := by
  fun_induction skipString cs with
  | case1 => simp at h
  | case2 tail =>
    simp only [Except.ok.injEq] at h
    simp [← h]
  | case3 => simp at h
  | case4 tail left he _ ih =>
    have := skipEscape_shorter he
    have := ih h
    simp only [List.length_cons]
    omega
  | case5 => simp at h
  | case6 c tail h1 h2 h3 ih =>
    have := ih h
    simp only [List.length_cons]
    omega

/-- One or more digits. -/
def skipDigits (cs : List Char) : Except Problem (List Char) :=
  match cs with
  | c :: rest => if c.isDigit then .ok (rest.dropWhile Char.isDigit) else .error .malformed
  | [] => .error .malformed

/-- The digits of an exponent, behind its letter. -/
def skipExponent : List Char → Except Problem (List Char)
  | '+' :: rest => skipDigits rest
  | '-' :: rest => skipDigits rest
  | cs => skipDigits cs

/-- An exponent, if there is one. -/
def skipScale : List Char → Except Problem (List Char)
  | 'e' :: rest => skipExponent rest
  | 'E' :: rest => skipExponent rest
  | cs => .ok cs

/-- A fraction and an exponent, if there are any. -/
def skipFraction : List Char → Except Problem (List Char)
  | '.' :: rest => do skipScale (← skipDigits rest)
  | cs => skipScale cs

/-- A number behind its sign. -/
def skipUnsigned : List Char → Except Problem (List Char)
  | [] => .error .malformed
  | c :: rest =>
    if c = '0' then
      if rest.head?.any Char.isDigit then .error .malformed else skipFraction rest
    else if c.isDigit then skipFraction (rest.dropWhile Char.isDigit)
    else .error .malformed

theorem skipDigits_length {cs rest : List Char} (h : skipDigits cs = .ok rest) :
    rest.length ≤ cs.length := by
  unfold skipDigits at h
  split at h
  · next tail =>
    split at h
    · simp only [Except.ok.injEq] at h
      have := (List.dropWhile_sublist Char.isDigit : (tail.dropWhile _).Sublist tail).length_le
      simp only [List.length_cons, ← h]
      omega
    · simp at h
  · simp at h

theorem skipExponent_length {cs rest : List Char} (h : skipExponent cs = .ok rest) :
    rest.length ≤ cs.length := by
  unfold skipExponent at h
  split at h <;> have := skipDigits_length h <;> simp_all <;> omega

theorem skipScale_length {cs rest : List Char} (h : skipScale cs = .ok rest) :
    rest.length ≤ cs.length := by
  unfold skipScale at h
  split at h
  · have := skipExponent_length h
    simp only [List.length_cons]
    omega
  · have := skipExponent_length h
    simp only [List.length_cons]
    omega
  · simp_all

theorem skipFraction_length {cs rest : List Char} (h : skipFraction cs = .ok rest) :
    rest.length ≤ cs.length := by
  unfold skipFraction at h
  split at h
  · next tail =>
    cases hd : skipDigits tail with
    | error e => simp [hd, bind, Except.bind] at h
    | ok left =>
      have := skipDigits_length hd
      have hs : skipScale left = .ok rest := by simpa [hd, bind, Except.bind] using h
      have := skipScale_length hs
      simp only [List.length_cons]
      omega
  · exact skipScale_length h

theorem skipUnsigned_shorter {cs rest : List Char} (h : skipUnsigned cs = .ok rest) :
    rest.length < cs.length := by
  unfold skipUnsigned at h
  split at h
  · simp at h
  · next c tail =>
    have hd := (List.dropWhile_sublist Char.isDigit : (tail.dropWhile _).Sublist tail).length_le
    simp only [List.length_cons]
    split at h
    · split at h
      · simp at h
      · have := skipFraction_length h
        omega
    · split at h
      · have := skipFraction_length h
        omega
      · simp at h

theorem readWord_length {word cs rest : List Char} (h : readWord word cs = .ok rest) :
    rest.length ≤ cs.length := by
  induction word generalizing cs with
  | nil => simp_all [readWord]
  | cons w word ih =>
    cases cs with
    | nil => simp [readWord] at h
    | cons c cs =>
      by_cases hw : w = c
      · have := ih (by simpa [readWord, hw] using h)
        simp only [List.length_cons]
        omega
      · simp [readWord, hw] at h

/-- A value without members, and not blank in front. -/
def skipScalar : List Char → Except Problem (List Char)
  | 'n' :: rest => readWord "ull".toList rest
  | 't' :: rest => readWord "rue".toList rest
  | 'f' :: rest => readWord "alse".toList rest
  | '"' :: rest => skipString rest
  | '-' :: rest => skipUnsigned rest
  | cs => skipUnsigned cs

theorem skipScalar_shorter {cs rest : List Char} (h : skipScalar cs = .ok rest) :
    rest.length < cs.length := by
  unfold skipScalar at h
  split at h
  iterate 3
    have := readWord_length h
    simp only [List.length_cons]
    omega
  · have := skipString_shorter h
    simp only [List.length_cons]
    omega
  · have := skipUnsigned_shorter h
    simp only [List.length_cons]
    omega
  · exact skipUnsigned_shorter h

/-- What holds the values that are being passed over. -/
inductive Bracket
  | list
  | object
  deriving DecidableEq, Repr

/-- The character that closes a bracket. -/
def Bracket.close : Bracket → Char
  | list => ']'
  | object => '\x7d'

/-- What comes next. -/
inductive Phase
  /-- A value. -/
  | value
  /-- What follows a value. -/
  | after
  /-- The first member of a bracket, or its end. -/
  | first
  /-- A member of an object, from its key on. -/
  | member
  deriving DecidableEq, Repr

/-- A first member is a member, after which the text need not have become shorter. -/
def Phase.rank : Phase → Nat
  | first => 1
  | _ => 0

/-- The phase in which the members of a bracket start. -/
def Bracket.phase : Bracket → Phase
  | list => .value
  | object => .member

/-- The key of a member, behind its opening quotation mark, and the colon behind it. -/
def skipKey (cs : List Char) : Except Problem (List Char) := do
  match skipBlank (← skipString cs) with
  | ':' :: rest => .ok rest
  | [] => .error .ended
  | _ => .error .malformed

theorem skipKey_shorter {cs rest : List Char} (h : skipKey cs = .ok rest) :
    rest.length < cs.length := by
  unfold skipKey at h
  cases hs : skipString cs with
  | error e => simp [hs, bind, Except.bind] at h
  | ok left =>
    have h1 := skipString_shorter hs
    have h2 := skipBlank_length left
    simp only [hs, bind, Except.bind] at h
    split at h
    · next tail hb =>
      simp only [Except.ok.injEq] at h
      rw [hb] at h2
      simp only [List.length_cons, h] at h2
      omega
    · simp at h
    · simp at h

/-- Passes over the rest of a value: what the phase says comes next, inside the open brackets,
innermost first. -/
def skip (phase : Phase) (within : List Bracket) (cs : List Char) :
    Except Problem (List Char) :=
  match phase, within, _h : skipBlank cs with
  | .after, [], _ => .ok cs
  | _, _, [] => .error .ended
  | .value, within, c :: rest =>
    if c = '[' then skip .first (.list :: within) rest
    else if c = '\x7b' then skip .first (.object :: within) rest
    else
      match _hs : skipScalar (c :: rest) with
      | .error e => .error e
      | .ok left => skip .after within left
  | .after, bracket :: within, c :: rest =>
    if c = ',' then skip bracket.phase (bracket :: within) rest
    else if c = bracket.close then skip .after within rest
    else .error .malformed
  | .first, bracket :: within, c :: rest =>
    if c = bracket.close then skip .after within rest
    else skip bracket.phase (bracket :: within) (c :: rest)
  | .first, [], _ => .error .malformed
  | .member, within, c :: rest =>
    if c = '"' then
      match _hk : skipKey rest with
      | .error e => .error e
      | .ok left => skip .value within left
    else .error .malformed
termination_by (cs.length, phase.rank)
decreasing_by
  all_goals
    have hb := skipBlank_length cs
    rw [_h] at hb
    simp only [List.length_cons] at hb
  · exact Prod.Lex.left _ _ (by omega)
  · exact Prod.Lex.left _ _ (by omega)
  · have := skipScalar_shorter _hs
    simp only [List.length_cons] at this
    exact Prod.Lex.left _ _ (by omega)
  · exact Prod.Lex.left _ _ (by omega)
  · exact Prod.Lex.left _ _ (by omega)
  · exact Prod.Lex.left _ _ (by omega)
  · rcases Nat.lt_or_eq_of_le hb with hlt | heq
    · exact Prod.Lex.left _ _ (by simpa using hlt)
    · have : (c :: rest).length = cs.length := by simpa using heq
      rw [this]
      exact Prod.Lex.right _ (by cases bracket <;> simp [Bracket.phase, Phase.rank])
  · have := skipKey_shorter _hk
    exact Prod.Lex.left _ _ (by omega)

theorem skipBlank_shorter {cs rest : List Char} {c : Char} (h : skipBlank cs = c :: rest) :
    rest.length < cs.length := by
  have := skipBlank_length cs
  rw [h, List.length_cons] at this
  omega

theorem skip_length {phase : Phase} {within : List Bracket} {cs rest : List Char}
    (h : skip phase within cs = .ok rest) : rest.length ≤ cs.length := by
  fun_induction skip phase within cs <;>
    grind [→ skipBlank_shorter, → skipScalar_shorter, → skipKey_shorter]

/-- Passes over one value. -/
def skipValue (cs : List Char) : Except Problem (List Char) :=
  skip .value [] cs

theorem skipValue_length {cs rest : List Char} (h : skipValue cs = .ok rest) :
    rest.length ≤ cs.length :=
  skip_length h

end Dealias.Json
