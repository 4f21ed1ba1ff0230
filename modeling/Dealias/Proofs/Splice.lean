import Dealias.Proofs.Rewriting

/-!
# Rewriting puts a word in the place of spans

References are found by one pass over the bytes of a text, and replaced by another over its
characters.  Here the second pass is told from the first: the bytes of what is rewritten are those
of the text, with a resolved reference in the place of each span that was found
(`Alias.rewrite_eq_splice`).  Both follow the cut of the text, one gap after the other
(`Cut.splice_spansFrom`), which also gives the length (`Cut.length_intercalate`).
-/

namespace Dealias

namespace Search

variable {α : Type} {literal text : List α} {gaps : List (List α)}

/-- The text from a place on, with a word in the place of each span. -/
def splice (word text : List α) : (here : Nat) → List Span → List α
  | here, [] => text.drop here
  | here, s :: found => (text.take s.start).drop here ++ (word ++ splice word text s.stop found)

/-- For each place where a text is cut, it changes by the lengths of the word and the literal. -/
theorem Cut.length_intercalate (word : List α) {n : Nat} (hcut : Cut literal text gaps)
    (hn : n + 1 = gaps.length) :
    (word.intercalate gaps).length + n * literal.length = text.length + n * word.length := by
  simpa using hcut.countP_intercalate (fun _ => true) word hn

variable [DecidableEq α]

/-- **A word in the place of each span that is found comes between the gaps.**  The text that is
passed grows with every occurrence up to the end of it, from where the scan goes on. -/
theorem Cut.splice_spansFrom (word passed : List α) (hliteral : literal ≠ [])
    (hcut : Cut literal text gaps) :
    splice word (passed ++ text) passed.length (spansFrom literal 0 passed.length text)
      = word.intercalate gaps := by
  induction hcut generalizing passed with
  | @whole text habsent =>
      have hclear := spansFrom_append_of_clear passed.length (.of_absent habsent)
      rw [List.append_nil] at hclear
      simp [hclear, spansFrom, splice]
  | @atFirst before after gaps hfirst tail ih =>
      have hgap : ((passed ++ (before ++ (literal ++ after))).take
          (passed.length + before.length)).drop passed.length = before := by
        rw [← List.append_assoc, ← List.length_append, List.take_left, List.drop_left]
      have hrest := ih (passed ++ before ++ literal)
      rw [List.length_append, List.length_append] at hrest
      rw [spansFrom_append_of_clear _ hfirst, spansFrom_literal_append _ _ hliteral, splice, hgap,
        List.intercalate_cons_of_ne_nil tail.gaps_ne_nil, ← hrest]
      simp

end Search

namespace Text

/-- The bytes of words with a word between them are their bytes, with its bytes between them. -/
theorem encode_intercalate (word : List Char) (gaps : List (List Char)) :
    encode (word.intercalate gaps) = (encode word).intercalate (gaps.map encode) := by
  induction gaps with
  | nil => rfl
  | cons gap gaps ih =>
      by_cases hgaps : gaps = []
      · simp [hgaps]
      · rw [List.intercalate_cons_of_ne_nil hgaps, List.map_cons,
          List.intercalate_cons_of_ne_nil (by simpa using hgaps), encode_append, encode_append, ih]

end Text

namespace Alias

open Search

variable {a : Alias} {text : String} {depth : Depth} {gaps : List (List Char)}

/-- The bytes of the resolved text, told from the spans that are found in the text. -/
theorem encode_intercalate_eq_splice (hcut : Cut a.literal.toList text.toList gaps) :
    Text.encode ((a.resolved depth).intercalate gaps)
      = splice (Text.encode (a.resolved depth)) (Text.bytes text) 0 (a.find text) := by
  have hliteral := a.literal_toList_ne_nil
  rw [Text.encode_intercalate, find, Text.bytes_eq_encode, Text.bytes_eq_encode, spans]
  exact ((Text.cut_encode hliteral hcut).splice_spansFrom _ [] (Text.encode_ne_nil hliteral)).symm

/-- For each reference a marker is lost from the bytes and a way to the root comes in. -/
theorem length_encode_intercalate (depth : Depth) (hcut : Cut a.literal.toList text.toList gaps)
    {n : Nat} (hn : n + 1 = gaps.length) :
    (Text.encode ((a.resolved depth).intercalate gaps)).length + n * (Text.bytes a.marker).length
      = (Text.bytes text).length + n * (Text.encode depth.ascent).length := by
  have hbytes := (Text.cut_encode a.literal_toList_ne_nil hcut).length_intercalate
    (Text.encode (a.resolved depth)) (by simpa using hn)
  rw [← Text.encode_intercalate, literal_toList, resolved, Text.encode_append, Text.encode_append,
    List.length_append, List.length_append, Nat.mul_add, Nat.mul_add] at hbytes
  rw [Text.bytes_eq_encode, Text.bytes_eq_encode, resolved]
  omega

/-- **Rewriting a text puts a resolved reference in the place of each span that is found there**,
and leaves the bytes between them as they are.  It leaves the text alone exactly when nothing is
found, and it counts the spans. -/
theorem rewrite_eq_splice (a : Alias) (text : String) (depth : Depth) :
    (a.rewrite text depth = .unchanged ↔ a.find text = []) ∧
      (a.find text ≠ [] → ∃ new,
        a.rewrite text depth = .rewritten new (a.find text).length ∧
        Text.bytes new = splice (Text.bytes a.call ++ Text.encode depth.ascent) (Text.bytes text) 0
          (a.find text) ∧
        ((Text.bytes new).length : Int) = (Text.bytes text).length
          - (a.find text).length * (Text.bytes a.marker).length
          + (a.find text).length * (Text.encode depth.ascent).length) := by
  obtain ⟨gaps, hcut⟩ := exists_cut a.literal_toList_ne_nil text.toList
  have hlength := length_find hcut
  refine ⟨rewrite_eq_unchanged_iff.trans find_eq_nil_iff.symm, fun hfound => ?_⟩
  have hpos := List.length_pos_iff.2 hfound
  have hrewrite : a.rewrite text depth =
      .rewritten (String.ofList ((a.resolved depth).intercalate gaps)) (a.find text).length := by
    rw [rewrite_eq_of_cut hcut, if_neg (by omega), ← hlength, Nat.add_sub_cancel]
  have hword : Text.bytes a.call ++ Text.encode depth.ascent = Text.encode (a.resolved depth) := by
    rw [Text.bytes_eq_encode, resolved, Text.encode_append]
  refine ⟨_, hrewrite, ?_, ?_⟩
  · rw [Text.bytes_ofList, hword, encode_intercalate_eq_splice hcut]
  · have hsize := length_encode_intercalate depth hcut hlength
    rw [Text.bytes_ofList]
    omega

end Alias

end Dealias
