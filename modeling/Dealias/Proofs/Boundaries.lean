import Dealias.Proofs.Splice

/-!
# Spans of characters

References are looked for in the bytes of a text, by a scan that knows nothing of characters.  Still
no span begins or ends inside one: a byte that begins a character never continues one, so the bytes
of the literal stand where its characters stand, and nowhere else.  The scan of the bytes therefore
keeps step with a scan of the characters, gap by gap (`Search.Cut.spansFrom_encode`), and reports the
same spans, counted in bytes.

What is put in the place of these spans are bytes of characters as well.  So the bytes that come of
it are those of a text again (`Alias.find_at_boundaries`).
-/

namespace Dealias

namespace Text

/-- The byte at which the character at some position begins. -/
def offset (chars : List Char) (i : Nat) : Nat :=
  (encode (chars.take i)).length

/-- The bytes in front of a place are those of the characters that are passed. -/
theorem offset_append (passed chars : List Char) :
    offset (passed ++ chars) passed.length = (encode passed).length := by
  rw [offset, List.take_left]

/-- Where a character begins, there is a boundary between characters. -/
theorem isValid_offset (text : String) (i : Nat) :
    String.Pos.Raw.IsValid text ⟨offset text.toList i⟩ := by
  rw [String.Pos.Raw.isValid_iff_exists_append]
  refine ⟨String.ofList (text.toList.take i), String.ofList (text.toList.drop i), ?_, ?_⟩
  · rw [← String.ofList_append, List.take_append_drop, String.ofList_toList]
  · have hsize := congrArg List.length (bytes_ofList (text.toList.take i))
    rw [bytes, Array.length_toList] at hsize
    rw [offset, ← hsize]
    rfl

end Text

namespace Search

/-- A span of characters, counted in bytes. -/
def Span.inBytes (chars : List Char) (s : Span) : Span :=
  ⟨Text.offset chars s.start, Text.offset chars s.stop⟩

variable {literal chars : List Char} {gaps : List (List Char)}

/-- **The scan of the bytes keeps step with the scan of the characters.**  The text that is passed
grows with every occurrence up to the end of it, from where the scan goes on. -/
theorem Cut.spansFrom_encode (passed : List Char) (hliteral : literal ≠ [])
    (hcut : Cut literal chars gaps) :
    spansFrom (Text.encode literal) 0 (Text.encode passed).length (Text.encode chars)
      = (spansFrom literal 0 passed.length chars).map (Span.inBytes (passed ++ chars)) := by
  induction hcut generalizing passed with
  | @whole chars habsent =>
      have hchars := spansFrom_append_of_clear passed.length (.of_absent habsent)
      have hbytes := spansFrom_append_of_clear (Text.encode passed).length
        (.of_absent (Text.not_infix_encode hliteral habsent))
      rw [List.append_nil] at hchars hbytes
      rw [hchars, hbytes]
      rfl
  | @atFirst before after gaps hfirst tail ih =>
      have hclear := Text.clearBefore_encode hliteral hfirst
      rw [Text.encode_append] at hclear
      have hrest := ih (passed ++ before ++ literal)
      have hstart := Text.offset_append (passed ++ before) (literal ++ after)
      have hstop := Text.offset_append (passed ++ before ++ literal) after
      simp only [List.append_assoc, List.length_append, Text.encode_append] at hrest hstart hstop
      rw [Text.encode_append, Text.encode_append, spansFrom_append_of_clear _ hclear,
        spansFrom_literal_append _ _ (Text.encode_ne_nil hliteral),
        spansFrom_append_of_clear _ hfirst, spansFrom_literal_append _ _ hliteral, List.map_cons]
      simp only [Nat.add_assoc, Span.inBytes, hstart, hstop, hrest]

/-- A search in the bytes of a text finds what a search in its characters finds. -/
theorem spans_encode (hliteral : literal ≠ []) (chars : List Char) :
    spans (Text.encode literal) (Text.encode chars)
      = (spans literal chars).map (Span.inBytes chars) := by
  obtain ⟨gaps, hcut⟩ := exists_cut hliteral chars
  exact hcut.spansFrom_encode [] hliteral

/-- The second character begins behind the two bytes of the first. -/
example : (spans ['→'] ['ü', '→']).map (Span.inBytes ['ü', '→']) = [⟨2, 5⟩] := by decide

end Search

namespace Alias

/-- **References are found at the boundaries of characters.**  The spans that are found in the bytes
of a text are those of a search in its characters, counted in bytes; and with a resolved reference in
the place of each of them, the bytes are read back as the text that was to come of it. -/
theorem find_at_boundaries (a : Alias) (text : String) (depth : Depth) :
    (∀ s ∈ a.find text,
        String.Pos.Raw.IsValid text ⟨s.start⟩ ∧ String.Pos.Raw.IsValid text ⟨s.stop⟩) ∧
      a.find text =
        (Search.spans a.literal.toList text.toList).map (Search.Span.inBytes text.toList) ∧
      Text.ofBytes? (Search.splice (Text.bytes a.call ++ Text.encode depth.ascent)
        (Text.bytes text) 0 (a.find text)) = some (a.textAfter false text depth) := by
  have hsame : a.find text =
      (Search.spans a.literal.toList text.toList).map (Search.Span.inBytes text.toList) := by
    rw [find, Text.bytes_eq_encode, Text.bytes_eq_encode]
    exact Search.spans_encode a.literal_toList_ne_nil text.toList
  refine ⟨?_, hsame, ?_⟩
  · intro s hs
    rw [hsame] at hs
    obtain ⟨span, -, rfl⟩ := List.mem_map.1 hs
    exact ⟨Text.isValid_offset text span.start, Text.isValid_offset text span.stop⟩
  · obtain ⟨gaps, hcut⟩ := Search.exists_cut a.literal_toList_ne_nil text.toList
    have hword : Text.bytes a.call ++ Text.encode depth.ascent = Text.encode (a.resolved depth) := by
      rw [Text.bytes_eq_encode, resolved, Text.encode_append]
    rw [hword, ← encode_intercalate_eq_splice hcut, ← Text.bytes_ofList, ← textAfter_of_cut hcut,
      Text.ofBytes?_bytes]

/-- A pattern with characters of two and of three bytes. -/
def accented : Alias :=
  ⟨"ü", "→", by decide, by decide, by decide, by decide⟩

/-- Behind a character of two bytes and one of four, the reference begins at the seventh byte. -/
theorem find_at_boundaries_accented :
    accented.find "é😀ü→ü" = [⟨6, 11⟩] ∧
      String.Pos.Raw.IsValid "é😀ü→ü" ⟨6⟩ ∧ String.Pos.Raw.IsValid "é😀ü→ü" ⟨11⟩ ∧
      accented.find "é😀ü→ü" =
        (Search.spans ['ü', '→'] ['é', '😀', 'ü', '→', 'ü']).map
          (Search.Span.inBytes ['é', '😀', 'ü', '→', 'ü']) ∧
      Text.ofBytes? (Search.splice (Text.bytes "ü" ++ Text.encode Depth.root.ascent)
        (Text.bytes "é😀ü→ü") 0 (accented.find "é😀ü→ü")) = some "é😀ü./ü" := by
  have hfound : accented.find "é😀ü→ü" = [⟨6, 11⟩] := by decide
  obtain ⟨hboundaries, hspans, hbytes⟩ := find_at_boundaries accented "é😀ü→ü" .root
  obtain ⟨hstart, hstop⟩ := hboundaries ⟨6, 11⟩ (by simp [hfound])
  exact ⟨hfound, hstart, hstop, hspans, hbytes⟩

end Alias

end Dealias
