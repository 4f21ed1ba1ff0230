import Mathlib.Algebra.GroupWithZero.Nat
import Dealias.Proofs.Spans

/-!
# Rewriting a text piece by piece

A text may be rewritten in two pieces, if no reference begins in the first and ends in the second
(`Alias.rewrite_piecewise`).  That the scan takes the first occurrence it comes to makes no
difference: up to the boundary it sees what it would see if the text ended there, so what it takes
in the first piece ends with it at the latest, and behind the boundary it starts afresh
(`Search.Apart.spansFrom_append`).

A letter that is not in the literal is such a boundary on both of its sides.  So, for a literal
without line breaks, a text is rewritten line by line.
-/

namespace Dealias

namespace Search

variable {α : Type} {literal front back text : List α} {c stop : α}

/-- No occurrence of the literal begins in the front and ends behind it. -/
def Apart (literal front back : List α) : Prop :=
  ∀ i < front.length, StandsAt literal (front ++ back) i → i + literal.length ≤ front.length

instance [DecidableEq α] (literal front back : List α) : Decidable (Apart literal front back) :=
  inferInstanceAs (Decidable
    (∀ i < front.length, StandsAt literal (front ++ back) i → i + literal.length ≤ front.length))

/-- What is passed over behind the first letter of an occurrence ends with the text at the latest. -/
theorem skip_le_of_startsWith [DecidableEq α] (hstart : startsWith literal (c :: text) = true) :
    literal.length - 1 ≤ text.length := by
  obtain ⟨rest, hrest⟩ := startsWith_iff.1 hstart
  have hlength := congrArg List.length hrest
  simp only [List.length_cons, List.length_append] at hlength
  omega

namespace Apart

theorem tail (h : Apart literal (c :: front) back) : Apart literal front back := by
  rintro i hi ⟨before, after, htext, rfl⟩
  have hend := h (before.length + 1) (Nat.succ_lt_succ hi) ⟨c :: before, after, by simp [htext], rfl⟩
  rw [List.length_cons] at hend
  omega

/-- What begins in the front does not reach behind it. -/
theorem prefix_cons (h : Apart literal (c :: front) back)
    (hstart : literal <+: c :: (front ++ back)) : literal <+: c :: front := by
  obtain ⟨after, hafter⟩ := hstart
  have hend := h 0 (Nat.succ_pos _) ⟨[], after, hafter.symm, rfl⟩
  exact List.prefix_of_prefix_length_le ⟨after, hafter⟩ ⟨back, rfl⟩ (by simpa using hend)

/-- A letter that is not in the literal keeps apart what stands in front of it. -/
theorem before_of_not_mem (hstop : stop ∉ literal) (front back : List α) :
    Apart literal front (stop :: back) := by
  rintro i hi ⟨before, after, htext, rfl⟩
  obtain ⟨rest, rfl⟩ : before <+: front :=
    List.prefix_of_prefix_length_le ⟨_, htext.symm⟩ ⟨stop :: back, rfl⟩ (Nat.le_of_lt hi)
  rw [List.append_assoc] at htext
  have hinside : literal <+: rest :=
    prefix_of_prefix_append_cons hstop ⟨after, (List.append_cancel_left htext).symm⟩
  rw [List.length_append]
  exact Nat.add_le_add_left hinside.length_le _

/-- It keeps apart what stands behind it as well. -/
theorem after_of_not_mem (hstop : stop ∉ literal) (back : List α) :
    Apart literal [stop] back := by
  rintro i hi ⟨before, after, htext, rfl⟩
  obtain rfl : before = [] := by simpa using hi
  have hinside : literal <+: [] := prefix_of_prefix_append_cons hstop ⟨after, htext.symm⟩
  simp [List.prefix_nil.1 hinside]

variable [DecidableEq α]

/-- In the front the scan does not see what stands behind. -/
theorem startsWith_append (h : Apart literal (c :: front) back) :
    startsWith literal (c :: (front ++ back)) = startsWith literal (c :: front) := by
  rw [Bool.eq_iff_iff, startsWith_iff, startsWith_iff]
  constructor
  · rintro ⟨rest, hrest⟩
    obtain ⟨inside, hinside⟩ := h.prefix_cons ⟨rest, hrest.symm⟩
    exact ⟨inside, hinside.symm⟩
  · rintro ⟨inside, hinside⟩
    exact ⟨inside ++ back, by rw [← List.cons_append, hinside, List.append_assoc]⟩

/-- **At the boundary the scan starts afresh.**  An occurrence that begins in the front does not reach
behind it, so the scan has nothing left to skip there. -/
theorem spansFrom_append {skip : Nat} (here : Nat) (h : Apart literal front back)
    (hskip : skip ≤ front.length) :
    spansFrom literal skip here (front ++ back)
      = spansFrom literal skip here front ++ spansFrom literal 0 (here + front.length) back := by
  induction front generalizing skip here with
  | nil =>
      obtain rfl : skip = 0 := Nat.le_zero.1 hskip
      rfl
  | cons c front ih =>
      have hend : here + (c :: front).length = here + 1 + front.length := by
        rw [List.length_cons]
        omega
      rw [hend]
      cases skip with
      | succ skip => exact ih (here + 1) h.tail (Nat.le_of_succ_le_succ hskip)
      | zero =>
          simp only [List.cons_append, spansFrom, h.startsWith_append]
          split
          · rename_i hstart
            rw [ih (here + 1) h.tail (skip_le_of_startsWith hstart), List.cons_append]
          · exact ih (here + 1) h.tail (Nat.zero_le _)

/-- Replacing does so as well. -/
theorem replaceFrom_append {skip : Nat} (word done : List α) (h : Apart literal front back)
    (hskip : skip ≤ front.length) :
    replaceFrom literal word skip done (front ++ back)
      = replaceFrom literal word skip done front ++ replace literal word back := by
  induction front generalizing skip done with
  | nil =>
      obtain rfl : skip = 0 := Nat.le_zero.1 hskip
      exact replaceFrom_eq_append literal word 0 done back
  | cons c front ih =>
      cases skip with
      | succ skip => exact ih done h.tail (Nat.le_of_succ_le_succ hskip)
      | zero =>
          simp only [List.cons_append, replaceFrom, h.startsWith_append]
          split
          · rename_i hstart
            exact ih _ h.tail (skip_le_of_startsWith hstart)
          · exact ih _ h.tail (Nat.zero_le _)

end Apart

/-- The same stretch of a text with letters in front of it. -/
def Span.shift (n : Nat) (s : Span) : Span :=
  ⟨n + s.start, n + s.stop⟩

variable [DecidableEq α]

/-- A scan that starts counting later finds its spans as much further on. -/
theorem spansFrom_add (start skip here : Nat) (text : List α) :
    spansFrom literal skip (start + here) text
      = (spansFrom literal skip here text).map (Span.shift start) := by
  induction text generalizing skip here with
  | nil => rfl
  | cons c text ih =>
      cases skip with
      | succ skip => exact ih skip (here + 1)
      | zero =>
          have hrest := fun skip => ih skip (here + 1)
          simp only [spansFrom]
          split
          · rw [List.map_cons, ← hrest, Span.shift, Nat.add_assoc, Nat.add_assoc]
          · exact hrest 0

/-- Kept apart, both parts have their own spans, those of the back as far on as the front is
long. -/
theorem Apart.spans_append (h : Apart literal front back) :
    spans literal (front ++ back)
      = spans literal front ++ (spans literal back).map (Span.shift front.length) := by
  rw [spans, h.spansFrom_append 0 (Nat.zero_le _), Nat.zero_add, spans, spans, ← spansFrom_add]
  rfl

/-- Kept apart, both parts are replaced for themselves. -/
theorem Apart.replace_append (word : List α) (h : Apart literal front back) :
    replace literal word (front ++ back) = replace literal word front ++ replace literal word back :=
  h.replaceFrom_append word [] (Nat.zero_le _)

end Search

namespace Text

open Search

/-- What keeps apart the characters of a literal keeps apart its bytes.  An occurrence of the bytes
comes from one of the characters, which begins in the front as it has not all letters of the front
before it. -/
theorem apart_encode {literal front back : List Char} (hliteral : literal ≠ [])
    (h : Apart literal front back) : Apart (encode literal) (encode front) (encode back) := by
  rintro i hi ⟨xs, ys, hbytes, rfl⟩
  rw [← encode_append] at hbytes
  obtain ⟨before, after, htext, rfl, -⟩ := exists_of_encode_eq hliteral hbytes
  have hfront : front <+: front ++ back := ⟨back, rfl⟩
  have hbefore : before.length < front.length := by
    by_contra hle
    obtain ⟨more, rfl⟩ : front <+: before :=
      List.prefix_of_prefix_length_le hfront ⟨_, htext.symm⟩ (Nat.le_of_not_lt hle)
    rw [encode_append, List.length_append] at hi
    omega
  have hend := h before.length hbefore ⟨before, after, htext, rfl⟩
  obtain ⟨rest, rfl⟩ : before ++ literal <+: front :=
    List.prefix_of_prefix_length_le ⟨after, by rw [htext, List.append_assoc]⟩ hfront
      (by rw [List.length_append]; exact hend)
  simp

/-- The lines of a text, without the line breaks between them. -/
def lines (text : String) : List String :=
  (text.toList.splitOn '\n').map String.ofList

/-- A text is its lines with line breaks between them. -/
theorem intercalate_lines (text : String) : "\n".intercalate (lines text) = text := by
  have hlists : (lines text).map String.toList = text.toList.splitOn '\n' := by
    simp [lines, Function.comp_def]
  have hbreak : "\n".toList = ['\n'] := rfl
  rw [← String.toList_inj, String.toList_intercalate, hlists, hbreak, List.intercalate_splitOn]

end Text

namespace Alias

variable {a : Alias} {front back : String}

/-- No reference begins in the front and ends behind it. -/
def Apart (a : Alias) (front back : String) : Prop :=
  Search.Apart a.literal.toList front.toList back.toList

instance (a : Alias) (front back : String) : Decidable (a.Apart front back) :=
  inferInstanceAs (Decidable (Search.Apart ..))

/-- Kept apart, both parts have their own references, counted in bytes. -/
theorem Apart.find_append (h : a.Apart front back) :
    a.find (front ++ back)
      = a.find front ++ (a.find back).map (Search.Span.shift (Text.bytes front).length) := by
  have hbytes := Text.apart_encode a.literal_toList_ne_nil h
  rw [find, find, find, Text.bytes_append]
  simp only [Text.bytes_eq_encode]
  exact hbytes.spans_append

/-- What a text is in the end, told from its letters alone. -/
theorem textAfter_eq_substitute (a : Alias) (text : String) (depth : Depth) :
    a.textAfter false text depth = a.substitute text depth := by
  obtain ⟨gaps, hcut⟩ := Search.exists_cut a.literal_toList_ne_nil text.toList
  rw [textAfter_of_cut hcut, substitute, hcut.replace_eq _ a.literal_toList_ne_nil, resolved]

/-- Kept apart, both parts are rewritten for themselves. -/
theorem Apart.textAfter_append (h : a.Apart front back) (depth : Depth) :
    a.textAfter false (front ++ back) depth
      = a.textAfter false front depth ++ a.textAfter false back depth := by
  simp only [textAfter_eq_substitute, substitute]
  rw [String.toList_append, Search.Apart.replace_append _ h, String.ofList_append]

/-- Kept apart, the references of both parts add up. -/
theorem Apart.length_find_append (h : a.Apart front back) :
    (a.find (front ++ back)).length = (a.find front).length + (a.find back).length := by
  rw [h.find_append, List.length_append, List.length_map]

/-! ## Lines -/

section

variable (hbreak : '\n' ∉ a.literal.toList)

include hbreak

/-- No reference is found in the end of a line. -/
theorem find_break : a.find "\n" = [] := by
  rw [find_eq_nil_iff]
  intro h
  obtain ⟨c, others, hliteral⟩ := List.exists_cons_of_ne_nil a.literal_toList_ne_nil
  have hmem : c ∈ a.literal.toList := by simp [hliteral]
  have hc : c = '\n' := by simpa using h.subset hmem
  exact hbreak (hc ▸ hmem)

/-- Nothing reaches over the end of a line. -/
theorem apart_break (line rest : String) : a.Apart line ("\n" ++ rest) := by
  rw [Apart, String.toList_append]
  exact Search.Apart.before_of_not_mem hbreak _ _

/-- Nothing begins in the end of a line and reaches over it. -/
theorem break_apart (rest : String) : a.Apart "\n" rest :=
  Search.Apart.after_of_not_mem hbreak _

/-- A line is rewritten for itself, whatever follows it. -/
theorem textAfter_line (line rest : String) (depth : Depth) :
    a.textAfter false (line ++ "\n" ++ rest) depth
      = a.textAfter false line depth ++ "\n" ++ a.textAfter false rest depth := by
  have hkept : a.textAfter false "\n" depth = "\n" := by
    by_contra hchanged
    exact find_eq_nil_iff.1 (find_break hbreak) (textAfter_ne_iff.1 hchanged)
  rw [String.append_assoc, (apart_break hbreak line rest).textAfter_append,
    (break_apart hbreak rest).textAfter_append, hkept, String.append_assoc]

theorem length_find_line (line rest : String) :
    (a.find (line ++ "\n" ++ rest)).length = (a.find line).length + (a.find rest).length := by
  rw [String.append_assoc, (apart_break hbreak line rest).length_find_append,
    (break_apart hbreak rest).length_find_append, find_break hbreak, List.length_nil, Nat.zero_add]

/-- **Lines are rewritten one by one.** -/
theorem textAfter_intercalate (lines : List String) (depth : Depth) :
    a.textAfter false ("\n".intercalate lines) depth
      = "\n".intercalate (lines.map (a.textAfter false · depth)) := by
  induction lines with
  | nil => rfl
  | cons line lines ih =>
      cases lines with
      | nil => simp
      | cons next lines =>
          rw [String.intercalate_cons_cons, textAfter_line hbreak, ih]
          simp

/-- **The references of all lines add up.** -/
theorem length_find_intercalate (lines : List String) :
    (a.find ("\n".intercalate lines)).length = (lines.map fun line => (a.find line).length).sum := by
  induction lines with
  | nil => rfl
  | cons line lines ih =>
      cases lines with
      | nil => simp
      | cons next lines =>
          rw [String.intercalate_cons_cons, length_find_line hbreak, ih]
          simp

end

/-- **A text is rewritten piece by piece.**  Where no reference begins in one piece and ends in the
next, what is found in both together is found in each of them, each becomes what it becomes alone,
and the references add up.  So a text is rewritten line by line, if there is no line break in a
reference. -/
theorem rewrite_piecewise (a : Alias) (depth : Depth) :
    (∀ front back, a.Apart front back →
      a.find (front ++ back)
          = a.find front ++ (a.find back).map (Search.Span.shift (Text.bytes front).length) ∧
        a.textAfter false (front ++ back) depth
          = a.textAfter false front depth ++ a.textAfter false back depth ∧
        (a.outcome (front ++ back) depth).occurrences
          = (a.outcome front depth).occurrences + (a.outcome back depth).occurrences ∧
        (a.rewrite (front ++ back) depth = .unchanged ↔
          a.rewrite front depth = .unchanged ∧ a.rewrite back depth = .unchanged)) ∧
      ('\n' ∉ a.literal.toList → ∀ text,
        a.textAfter false text depth
            = "\n".intercalate ((Text.lines text).map (a.textAfter false · depth)) ∧
          (a.outcome text depth).occurrences
            = ((Text.lines text).map fun line => (a.outcome line depth).occurrences).sum) := by
  refine ⟨fun front back hapart => ⟨hapart.find_append, hapart.textAfter_append depth, ?_, ?_⟩,
    fun hbreak text => ⟨?_, ?_⟩⟩
  · simp only [occurrences_outcome]
    exact hapart.length_find_append
  · simp only [rewrite_eq_unchanged_iff, ← find_eq_nil_iff]
    rw [hapart.find_append, List.append_eq_nil_iff, List.map_eq_nil_iff]
  · rw [← textAfter_intercalate hbreak, Text.intercalate_lines]
  · simp only [occurrences_outcome]
    rw [← length_find_intercalate hbreak, Text.intercalate_lines]

/-- A pattern whose references overlap themselves. -/
def overlapping : Alias :=
  ⟨"a", "ba", by decide, by decide, by decide, by decide⟩

/-- The references on both sides touch the boundary, and the one that is passed over in the first
piece does so as well. -/
theorem rewrite_piecewise_overlapping :
    overlapping.Apart "ababa" "aba" ∧
      overlapping.find "ababaaba" = [⟨0, 3⟩, ⟨5, 8⟩] ∧
      overlapping.textAfter false "ababaaba" .root = "a./baa./" ∧
      (overlapping.outcome "ababaaba" .root).occurrences = 2 ∧
      overlapping.rewrite "ababaaba" .root ≠ .unchanged ∧
      '\n' ∉ overlapping.literal.toList ∧
      overlapping.textAfter false "ababa\naba" .root = "a./ba\na./" ∧
      (overlapping.outcome "ababa\naba" .root).occurrences = 2 := by
  have hapart : overlapping.Apart "ababa" "aba" := by decide
  have hbreak : '\n' ∉ overlapping.literal.toList := by decide
  obtain ⟨hpieces, hlines⟩ := rewrite_piecewise overlapping .root
  obtain ⟨hfind, htext, hcount, hunchanged⟩ := hpieces "ababa" "aba" hapart
  obtain ⟨hrewritten, htold⟩ := hlines hbreak "ababa\naba"
  exact ⟨hapart, hfind.trans (by decide), htext.trans (by decide), hcount.trans (by decide),
    mt hunchanged.1 (by decide), hbreak, hrewritten.trans (by decide), htold.trans (by decide)⟩

end Alias

end Dealias
