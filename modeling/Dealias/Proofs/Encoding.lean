import Dealias.Path
import Dealias.Proofs.Cut

/-!
# Searching in encoded texts

The byte that begins a character never continues one, and no encoding of a character is the
beginning of another.  So the bytes of a literal stand in the bytes of a text only where the
literal stands in the text (`exists_of_encode_eq`), and a cut of the text is, part by part, the cut
of its bytes (`cut_encode`).

A path is read as a text exactly if it is made of this text (`Path.text?_eq_some_iff`).
-/

namespace Dealias.Text

open Search

/-- The UTF-8 encoding of a sequence of characters. -/
def encode (chars : List Char) : List UInt8 :=
  chars.flatMap String.utf8EncodeChar

@[simp]
theorem encode_nil : encode [] = [] := rfl

@[simp]
theorem encode_append (xs ys : List Char) : encode (xs ++ ys) = encode xs ++ encode ys :=
  List.flatMap_append

theorem encode_cons (c : Char) (chars : List Char) :
    encode (c :: chars) = String.utf8EncodeChar c ++ encode chars := rfl

theorem bytes_ofList (chars : List Char) : bytes (String.ofList chars) = encode chars := by
  simp [bytes, encode, List.utf8Encode]

theorem bytes_eq_encode (text : String) : bytes text = encode text.toList := by
  rw [← bytes_ofList, String.ofList_toList]

theorem bytes_append (text other : String) : bytes (text ++ other) = bytes text ++ bytes other := by
  simp [bytes_eq_encode]

/-- A text is read back from its bytes. -/
theorem ofBytes?_bytes (text : String) : ofBytes? (bytes text) = some text := by
  have hbytes : (⟨(bytes text).toArray⟩ : ByteArray) = text.toByteArray := by simp [bytes]
  rw [ofBytes?, hbytes, String.fromUTF8?, dif_pos text.isValidUTF8]
  rfl

/-- No two texts have the same bytes. -/
theorem bytes_injective : Function.Injective bytes := by
  intro text other h
  simpa [ofBytes?_bytes] using congrArg ofBytes? h

/-- Only the bytes of a text are read as that text. -/
theorem bytes_of_ofBytes? {content : List UInt8} {text : String}
    (h : ofBytes? content = some text) : bytes text = content := by
  unfold ofBytes? String.fromUTF8? at h
  split at h
  · cases h; simp [bytes, String.fromUTF8]
  · cases h

/-- No encoding of a character is the beginning of another one. -/
theorem utf8EncodeChar_append_inj {c d : Char} {xs ys : List UInt8}
    (h : String.utf8EncodeChar c ++ xs = String.utf8EncodeChar d ++ ys) : c = d ∧ xs = ys := by
  have hc := ByteArray.utf8DecodeChar?_utf8EncodeChar_append (b := xs.toByteArray) (c := c)
  have hd := ByteArray.utf8DecodeChar?_utf8EncodeChar_append (b := ys.toByteArray) (c := d)
  have heq : (String.utf8EncodeChar c).toByteArray ++ xs.toByteArray
      = (String.utf8EncodeChar d).toByteArray ++ ys.toByteArray := by
    simpa using congrArg List.toByteArray h
  rw [heq, hd] at hc
  obtain rfl : d = c := Option.some.inj hc
  exact ⟨rfl, List.append_cancel_left h⟩

/-- A byte that begins a character is the first one in its encoding. -/
theorem eq_nil_of_utf8EncodeChar_eq {c : Char} {xs ys : List UInt8} {b : UInt8}
    (hb : b.IsUTF8FirstByte) (h : String.utf8EncodeChar c = xs ++ b :: ys) : xs = [] := by
  have hlength : xs.length < (String.utf8EncodeChar c).length := by simp [h]
  have hget : (String.utf8EncodeChar c)[xs.length] = b := by simp [h]
  have hzero := UInt8.isUTF8FirstByte_getElem_utf8EncodeChar.1 (hget ▸ hb)
  exact List.length_eq_zero_iff.1 hzero

/-- Bytes in front of the beginning of a character encode the characters up to there. -/
theorem exists_of_encode_eq_append_cons {chars : List Char} {xs ys : List UInt8} {b : UInt8}
    (hb : b.IsUTF8FirstByte) (h : encode chars = xs ++ b :: ys) :
    ∃ x y, chars = x ++ y ∧ encode x = xs ∧ encode y = b :: ys := by
  induction chars generalizing xs with
  | nil => simp at h
  | cons c chars ih =>
      rw [encode_cons, List.append_eq_append_iff] at h
      rcases h with ⟨rest, rfl, hrest⟩ | ⟨inside, hchar, hrest⟩
      · obtain ⟨x, y, rfl, rfl, hy⟩ := ih hrest
        exact ⟨c :: x, y, rfl, rfl, hy⟩
      · cases inside with
        | nil => exact ⟨[c], chars, rfl, by simpa [encode] using hchar, by simpa using hrest.symm⟩
        | cons d inside =>
            obtain rfl : b = d := (List.cons.inj hrest).1
            obtain rfl := eq_nil_of_utf8EncodeChar_eq hb hchar
            exact ⟨[], c :: chars, rfl, rfl, by rw [encode_cons, hchar, hrest]; rfl⟩

/-- What begins with the bytes of a literal begins with the literal. -/
theorem exists_of_encode_eq_encode_append {literal chars : List Char} {ys : List UInt8}
    (h : encode chars = encode literal ++ ys) : ∃ y, chars = literal ++ y ∧ encode y = ys := by
  induction literal generalizing chars with
  | nil => exact ⟨chars, rfl, h⟩
  | cons c literal ih =>
      cases chars with
      | nil => simp [encode_cons] at h
      | cons d chars =>
          rw [encode_cons, encode_cons, List.append_assoc] at h
          obtain ⟨rfl, hrest⟩ := utf8EncodeChar_append_inj h
          obtain ⟨y, rfl, hy⟩ := ih hrest
          exact ⟨y, rfl, hy⟩

/-- **The bytes of a literal stand only where the literal stands.** -/
theorem exists_of_encode_eq {literal chars : List Char} {xs ys : List UInt8}
    (hliteral : literal ≠ []) (h : encode chars = xs ++ (encode literal ++ ys)) :
    ∃ x y, chars = x ++ (literal ++ y) ∧ encode x = xs ∧ encode y = ys := by
  obtain ⟨c, others, rfl⟩ := List.exists_cons_of_ne_nil hliteral
  obtain ⟨b, bytes, hbytes⟩ := List.exists_cons_of_ne_nil (String.utf8EncodeChar_ne_nil (c := c))
  have hfirst : b.IsUTF8FirstByte := by
    have := UInt8.isUTF8FirstByte_getElem_zero_utf8EncodeChar (c := c)
    simpa [hbytes] using this
  have hsplit : encode chars = xs ++ b :: (bytes ++ (encode others ++ ys)) := by
    simpa [encode_cons, hbytes] using h
  obtain ⟨x, rest, rfl, hx, hrest⟩ := exists_of_encode_eq_append_cons hfirst hsplit
  have hfront : encode rest = encode (c :: others) ++ ys := by
    simp [hrest, encode_cons, hbytes]
  obtain ⟨y, rfl, hy⟩ := exists_of_encode_eq_encode_append hfront
  exact ⟨x, y, rfl, hx, hy⟩

variable {literal : List Char}

/-- A literal has bytes, as each of its characters has. -/
theorem encode_ne_nil (hliteral : literal ≠ []) : encode literal ≠ [] := by
  obtain ⟨c, others, rfl⟩ := List.exists_cons_of_ne_nil hliteral
  simp [encode_cons]

/-- Absent from the text, absent from its bytes. -/
theorem not_infix_encode {chars : List Char} (hliteral : literal ≠ [])
    (habsent : ¬ literal <:+: chars) : ¬ encode literal <:+: encode chars := by
  rintro ⟨xs, ys, h⟩
  obtain ⟨x, y, hxy, -, -⟩ := exists_of_encode_eq hliteral (by rw [← h, List.append_assoc])
  exact habsent ⟨x, y, by rw [hxy, List.append_assoc]⟩

/-- If no occurrence of a literal begins in a part of a text, none of its bytes does in the bytes of
that part. -/
theorem clearBefore_encode {before rest : List Char} (hliteral : literal ≠ [])
    (hfirst : ClearBefore literal before rest) :
    ClearBefore (encode literal) (encode before) (encode rest) := by
  intro xs ys h
  rw [← encode_append] at h
  obtain ⟨x, y, hxy, rfl, -⟩ := exists_of_encode_eq hliteral h
  have hprefix : before <+: x :=
    List.prefix_of_prefix_length_le ⟨rest, hxy⟩ ⟨literal ++ y, rfl⟩ (hfirst x y hxy)
  obtain ⟨more, rfl⟩ := hprefix
  simp

/-- **The cut of a text is the cut of its bytes.** -/
theorem cut_encode {chars : List Char} {gaps : List (List Char)} (hliteral : literal ≠ [])
    (hcut : Cut literal chars gaps) : Cut (encode literal) (encode chars) (gaps.map encode) := by
  induction hcut with
  | whole habsent => exact .whole (not_infix_encode hliteral habsent)
  | @atFirst before after gaps hfirst tail ih =>
      have hbytes := clearBefore_encode hliteral hfirst
      rw [encode_append] at hbytes
      rw [encode_append, encode_append]
      exact .atFirst hbytes ih

/-- A literal has as many spans in the bytes of a text as its cut tells. -/
theorem length_spans_encode {chars : List Char} {gaps : List (List Char)}
    (hliteral : literal ≠ []) (hcut : Cut literal chars gaps) :
    (spans (encode literal) (encode chars)).length + 1 = gaps.length := by
  simpa using (cut_encode hliteral hcut).length_spans (encode_ne_nil hliteral)

end Dealias.Text

namespace Dealias.Path

variable {p : Path} {text : String}

/-- A path is read as the text that it is made of. -/
theorem text?_eq_some_iff : p.text? = some text ↔ p = .ofText text := by
  constructor
  · intro htext
    rw [ofText, Text.bytes_of_ofBytes? htext]
  · intro hmade
    rw [hmade]
    exact Text.ofBytes?_bytes text

/-- Only a path that is made of no text is none. -/
theorem text?_eq_none_iff : p.text? = none ↔ ∀ text, p ≠ .ofText text := by
  rw [Option.eq_none_iff_forall_ne_some]
  simp only [ne_eq, text?_eq_some_iff]

/-- No two texts make the same path. -/
theorem ofText_injective : Function.Injective ofText := by
  intro text other h
  exact Text.bytes_injective (mk.inj h)

end Dealias.Path
