import Dealias.Search

/-!
# Texts cut at a literal

The occurrences that a scan takes are described here without the scan: a text is cut at the first
place where the literal stands, and what lies behind that occurrence is cut in the same way.  What
remains are the gaps between the occurrences, one more than there are occurrences.

Every text has exactly one such cut (`exists_cut`, `Cut.unique`), and both scans follow it: the
gaps joined by a word are the text with that word in place of the literal (`Cut.replace_eq`), and
there is one span for each place where the text is cut (`Cut.length_spans`).
-/

namespace Dealias.Search

variable {α : Type} {literal text : List α} {gaps : List (List α)}

/-- No occurrence of the literal in a text of two parts begins in the first part. -/
def ClearBefore (literal before rest : List α) : Prop :=
  ∀ x y, before ++ rest = x ++ (literal ++ y) → before.length ≤ x.length

theorem ClearBefore.tail {c : α} {before rest : List α}
    (hfirst : ClearBefore literal (c :: before) rest) : ClearBefore literal before rest := by
  intro x y hxy
  have := hfirst (c :: x) y (by simp [hxy])
  simpa using this

/-- Where the literal is absent, no occurrence begins. -/
theorem ClearBefore.of_absent (habsent : ¬ literal <:+: text) : ClearBefore literal text [] := by
  intro x y hxy
  exact absurd ⟨x, y, by simpa using hxy.symm⟩ habsent

/-- A text with the gaps between the occurrences of a literal that are taken from left to right,
each of them the first one behind the one before. -/
inductive Cut (literal : List α) : List α → List (List α) → Prop
  | whole {text : List α} (habsent : ¬ literal <:+: text) : Cut literal text [text]
  | atFirst {before after : List α} {gaps : List (List α)}
      (hfirst : ClearBefore literal before (literal ++ after)) (tail : Cut literal after gaps) :
      Cut literal (before ++ (literal ++ after)) (before :: gaps)

/-- A cut leaves at least one gap. -/
theorem Cut.gaps_ne_nil (hcut : Cut literal text gaps) : gaps ≠ [] := by
  cases hcut <;> simp

/-- Between gaps and the gaps behind them stands the separator. -/
theorem intercalate_append (separator : List α) {later : List (List α)} (h : gaps ≠ [])
    (hlater : later ≠ []) :
    separator.intercalate (gaps ++ later) =
      separator.intercalate gaps ++ (separator ++ separator.intercalate later) := by
  induction gaps with
  | nil => exact absurd rfl h
  | cons gap gaps ih =>
      have hrest : gaps ++ later ≠ [] := by simp [hlater]
      rw [List.cons_append, List.intercalate_cons_of_ne_nil hrest]
      by_cases hgaps : gaps = []
      · simp [hgaps]
      · rw [ih hgaps, List.intercalate_cons_of_ne_nil hgaps]
        simp

/-- Joined by the literal again, the gaps are the text. -/
theorem Cut.intercalate_literal (hcut : Cut literal text gaps) :
    literal.intercalate gaps = text := by
  induction hcut with
  | whole => exact List.intercalate_singleton
  | atFirst hfirst tail ih =>
      rw [List.intercalate_cons_of_ne_nil tail.gaps_ne_nil, ih, List.append_assoc]

/-- For each place where a text is cut, the word is there in the place of the literal: with its
letters of some kind, and without those of the literal. -/
theorem Cut.countP_intercalate (p : α → Bool) (word : List α) {n : Nat}
    (hcut : Cut literal text gaps) (hn : n + 1 = gaps.length) :
    (word.intercalate gaps).countP p + n * literal.countP p = text.countP p + n * word.countP p := by
  induction hcut generalizing n with
  | whole =>
      obtain rfl : n = 0 := by simpa using hn
      simp
  | @atFirst before after gaps hfirst tail ih =>
      have hpos := List.length_pos_iff.2 tail.gaps_ne_nil
      obtain ⟨m, rfl⟩ : ∃ m, n = m + 1 := ⟨n - 1, by simp only [List.length_cons] at hn; omega⟩
      have hrest := ih (by simpa using hn)
      rw [List.intercalate_cons_of_ne_nil tail.gaps_ne_nil]
      simp only [List.countP_append, Nat.succ_mul]
      omega

/-- The text is one gap exactly when the literal is absent. -/
theorem Cut.length_eq_one_iff (hcut : Cut literal text gaps) :
    gaps.length = 1 ↔ ¬ literal <:+: text := by
  cases hcut with
  | whole habsent => simp [habsent]
  | @atFirst before after _ hfirst tail =>
      have hpos := List.length_pos_iff.2 tail.gaps_ne_nil
      have hinfix : literal <:+: before ++ (literal ++ after) := ⟨before, after, by simp⟩
      simp only [List.length_cons, hinfix, not_true_eq_false, iff_false]
      omega

/-- **A text has one cut only.**  The first occurrence is where it is, so two cuts agree in their
first gap and go on with the same rest. -/
theorem Cut.unique {others : List (List α)} (hcut : Cut literal text gaps)
    (hother : Cut literal text others) : gaps = others := by
  induction hcut generalizing others with
  | @whole text habsent =>
      generalize htext : text = t at hother
      cases hother with
      | whole => rfl
      | @atFirst before after _ _ _ => exact absurd ⟨before, after, by simp [htext]⟩ habsent
  | @atFirst before after gaps hfirst tail ih =>
      generalize htext : before ++ (literal ++ after) = t at hother
      cases hother with
      | whole habsent => exact absurd ⟨before, after, by simp [← htext]⟩ habsent
      | @atFirst before' after' gaps' hfirst' tail' =>
          have hle := hfirst before' after' htext
          have hge := hfirst' before after htext.symm
          obtain ⟨rfl, hrest⟩ := List.append_inj htext (Nat.le_antisymm hle hge)
          obtain rfl := List.append_cancel_left hrest
          rw [ih tail']

/-- A literal that stands in a text has a first place there. -/
theorem exists_first (h : literal <:+: text) :
    ∃ before after, text = before ++ (literal ++ after) ∧
      ClearBefore literal before (literal ++ after) := by
  classical
  induction text with
  | nil =>
      have hnil : literal = [] := by simpa using h
      exact ⟨[], [], by simp [hnil], fun x y _ => Nat.zero_le _⟩
  | cons c text ih =>
      by_cases hstart : literal <+: c :: text
      · obtain ⟨after, hafter⟩ := hstart
        exact ⟨[], after, hafter.symm, fun x y _ => Nat.zero_le _⟩
      · obtain ⟨before, after, rfl, hfirst⟩ := ih ((List.infix_cons_iff.1 h).resolve_left hstart)
        refine ⟨c :: before, after, rfl, fun x y hxy => ?_⟩
        cases x with
        | nil => exact absurd ⟨y, hxy.symm⟩ hstart
        | cons d x => exact Nat.succ_le_succ (hfirst x y (List.cons.inj hxy).2)

/-- Every text can be cut at a literal. -/
theorem exists_cut (hliteral : literal ≠ []) (text : List α) : ∃ gaps, Cut literal text gaps := by
  induction hn : text.length using Nat.strongRecOn generalizing text with
  | ind n ih =>
      by_cases h : literal <:+: text
      · obtain ⟨before, after, rfl, hfirst⟩ := exists_first h
        have hpos := List.length_pos_iff.2 hliteral
        simp only [List.length_append] at hn
        obtain ⟨gaps, tail⟩ := ih after.length (by omega) after rfl
        exact ⟨before :: gaps, .atFirst hfirst tail⟩
      · exact ⟨[text], .whole h⟩

/-! ## Words that do not bring the literal back -/

/-- A literal without the stop that begins before a stop also ends before it. -/
theorem prefix_of_prefix_append_cons {xs ys : List α} {stop : α} (hstop : stop ∉ literal)
    (h : literal <+: xs ++ stop :: ys) : literal <+: xs := by
  induction literal generalizing xs with
  | nil => exact List.nil_prefix
  | cons a literal ih =>
      cases xs with
      | nil =>
          have ha : a = stop := (List.cons_prefix_cons.1 h).1
          exact absurd (ha ▸ List.mem_cons_self) hstop
      | cons b xs =>
          obtain ⟨hab, hrest⟩ := List.cons_prefix_cons.1 h
          have hrest' := ih (fun hm => hstop (List.mem_cons_of_mem _ hm)) hrest
          exact List.cons_prefix_cons.2 ⟨hab, hrest'⟩

/-- A literal without the stop stands on one side of a stop. -/
theorem infix_of_infix_append_cons {xs ys : List α} {stop : α} (hstop : stop ∉ literal)
    (h : literal <:+: xs ++ stop :: ys) : literal <:+: xs ∨ literal <:+: ys := by
  induction xs with
  | nil =>
      rcases List.infix_cons_iff.1 h with hstart | hrest
      · have hnil : literal <+: [] := prefix_of_prefix_append_cons hstop hstart
        exact .inl hnil.isInfix
      · exact .inr hrest
  | cons x xs ih =>
      rcases List.infix_cons_iff.1 h with hstart | hrest
      · have hleft : literal <+: x :: xs := prefix_of_prefix_append_cons hstop hstart
        exact .inl hleft.isInfix
      · exact (ih hrest).imp_left fun hleft => List.infix_cons_iff.2 (.inr hleft)

/-- A literal cannot begin among letters that are not its first. -/
theorem infix_of_infix_append {tail ys : List α} (hliteral : literal ≠ [])
    (htail : ∀ c ∈ tail, literal.head? ≠ some c) (h : literal <:+: tail ++ ys) :
    literal <:+: ys := by
  induction tail with
  | nil => exact h
  | cons c tail ih =>
      have hrest : literal <:+: tail ++ ys := by
        refine (List.infix_cons_iff.1 h).resolve_left fun hstart => ?_
        obtain ⟨a, others, rfl⟩ := List.exists_cons_of_ne_nil hliteral
        have hac : a = c := (List.cons_prefix_cons.1 hstart).1
        exact htail c List.mem_cons_self (by simp [hac])
      exact ih (fun d hd => htail d (List.mem_cons_of_mem _ hd)) hrest

/-- **Replacing clears the literal.**  When the end of every occurrence is replaced by a stop that
is not in the literal, and by letters behind it that are not its first, no occurrence is left: one
that reached from a gap to the stop would have come before the one that was cut out. -/
theorem Cut.not_infix_intercalate {front back tail : List α} {stop : α} (hback : back ≠ [])
    (hstop : stop ∉ front ++ back) (htail : ∀ c ∈ tail, (front ++ back).head? ≠ some c)
    (hcut : Cut (front ++ back) text gaps) :
    ¬ front ++ back <:+: (front ++ stop :: tail).intercalate gaps := by
  have hliteral : front ++ back ≠ [] := by simp [hback]
  induction hcut with
  | whole habsent => simpa using habsent
  | @atFirst before after gaps hfirst rest ih =>
      rw [List.intercalate_cons_of_ne_nil rest.gaps_ne_nil]
      intro h
      have hsplit : front ++ back <:+: (before ++ front) ++
          stop :: (tail ++ (front ++ stop :: tail).intercalate gaps) := by
        simpa using h
      rcases infix_of_infix_append_cons hstop hsplit with ⟨x, y, hxy⟩ | hlater
      · have htext : before ++ (front ++ back ++ after) =
            x ++ (front ++ back ++ (y ++ (back ++ after))) := by
          have := congrArg (· ++ (back ++ after)) hxy
          simpa using this.symm
        have hle := hfirst x _ htext
        have hlength := congrArg List.length hxy
        have hpos := List.length_pos_iff.2 hback
        simp only [List.length_append] at hlength
        omega
      · exact ih (infix_of_infix_append hliteral htail hlater)

/-! ## The scans -/

variable [DecidableEq α]

/-- What is left of the occurrence before is passed over. -/
theorem replaceFrom_append (word passed done : List α) :
    replaceFrom literal word passed.length done (passed ++ text)
      = replaceFrom literal word 0 done text := by
  induction passed with
  | nil => rfl
  | cons c passed ih => exact ih

/-- A scan that is told to skip what was passed finds what a scan of the rest finds. -/
theorem spansFrom_append (passed : List α) (here : Nat) :
    spansFrom literal passed.length here (passed ++ text)
      = spansFrom literal 0 (here + passed.length) text := by
  induction passed generalizing here with
  | nil => rfl
  | cons c passed ih =>
      have := ih (here + 1)
      simpa [spansFrom, Nat.add_comm, Nat.add_left_comm] using this

/-- An occurrence at the front is taken. -/
theorem replace_literal_append (word text : List α) (hliteral : literal ≠ []) :
    replace literal word (literal ++ text) = word ++ replace literal word text := by
  obtain ⟨a, others, rfl⟩ := List.exists_cons_of_ne_nil hliteral
  have hstart : startsWith (a :: others) (a :: (others ++ text)) = true :=
    startsWith_iff.2 ⟨text, rfl⟩
  simp only [replace, List.cons_append, replaceFrom, hstart, if_true, List.length_cons,
    Nat.add_sub_cancel]
  rw [replaceFrom_append, replaceFrom_eq_append]
  simp

/-- A scan that starts at the literal finds its span first and goes on behind it. -/
theorem spansFrom_literal_append (text : List α) (here : Nat) (hliteral : literal ≠ []) :
    spansFrom literal 0 here (literal ++ text)
      = ⟨here, here + literal.length⟩ :: spansFrom literal 0 (here + literal.length) text := by
  obtain ⟨a, others, rfl⟩ := List.exists_cons_of_ne_nil hliteral
  have hstart : startsWith (a :: others) (a :: (others ++ text)) = true :=
    startsWith_iff.2 ⟨text, rfl⟩
  simp only [List.cons_append, spansFrom, hstart, if_true, List.length_cons, Nat.add_sub_cancel]
  rw [spansFrom_append]
  simp [Nat.add_comm, Nat.add_left_comm]

/-- Where no occurrence begins in the first part, none begins at its first letter. -/
theorem ClearBefore.startsWith_eq_false {c : α} {before rest : List α}
    (hfirst : ClearBefore literal (c :: before) rest) :
    startsWith literal (c :: (before ++ rest)) = false := by
  rw [← Bool.not_eq_true, startsWith_iff]
  rintro ⟨y, hy⟩
  have := hfirst [] y hy
  simp at this

/-- Up to the first occurrence nothing is taken. -/
theorem replace_append_of_clear {before rest : List α} (word : List α)
    (hfirst : ClearBefore literal before rest) :
    replace literal word (before ++ rest) = before ++ replace literal word rest := by
  induction before with
  | nil => rfl
  | cons c before ih =>
      have hstart := hfirst.startsWith_eq_false
      have hrest := ih hfirst.tail
      simp only [replace, List.cons_append, replaceFrom, hstart, Bool.false_eq_true, if_false] at *
      rw [replaceFrom_eq_append, hrest]
      rfl

/-- A scan finds nothing in a part in which no occurrence begins. -/
theorem spansFrom_append_of_clear {before rest : List α} (here : Nat)
    (hfirst : ClearBefore literal before rest) :
    spansFrom literal 0 here (before ++ rest)
      = spansFrom literal 0 (here + before.length) rest := by
  induction before generalizing here with
  | nil => rfl
  | cons c before ih =>
      have hstart := hfirst.startsWith_eq_false
      simp only [List.cons_append, spansFrom, hstart, Bool.false_eq_true, if_false]
      rw [ih (here + 1) hfirst.tail]
      simp [Nat.add_comm, Nat.add_left_comm]

/-- **Replacing follows the cut**: the gaps stay, and the word comes between them. -/
theorem Cut.replace_eq (word : List α) (hliteral : literal ≠ []) (hcut : Cut literal text gaps) :
    replace literal word text = word.intercalate gaps := by
  induction hcut with
  | @whole text habsent =>
      have := replace_append_of_clear word (.of_absent habsent)
      simpa [replace, replaceFrom] using this
  | @atFirst before after gaps hfirst tail ih =>
      rw [List.intercalate_cons_of_ne_nil tail.gaps_ne_nil, replace_append_of_clear word hfirst,
        replace_literal_append _ _ hliteral, ih, List.append_assoc]

/-- A scan finds one span less than there are gaps, wherever its count of letters starts. -/
theorem Cut.length_spansFrom (here : Nat) (hliteral : literal ≠ [])
    (hcut : Cut literal text gaps) :
    (spansFrom literal 0 here text).length + 1 = gaps.length := by
  induction hcut generalizing here with
  | @whole text habsent =>
      have := spansFrom_append_of_clear here (.of_absent habsent)
      simpa [spansFrom] using this
  | @atFirst before after gaps hfirst tail ih =>
      rw [spansFrom_append_of_clear here hfirst, spansFrom_literal_append _ _ hliteral,
        List.length_cons, List.length_cons, ih]

/-- There is a span for each place where the text is cut. -/
theorem Cut.length_spans (hliteral : literal ≠ []) (hcut : Cut literal text gaps) :
    (spans literal text).length + 1 = gaps.length :=
  hcut.length_spansFrom 0 hliteral

end Dealias.Search
