import Mathlib.Data.List.Infix
import Dealias.Config
import Dealias.Proofs.Encoding

/-!
# What rewriting a text does

The references of a text are found in its bytes and replaced in its characters.  Both follow the
cut of the text at the literal, so one equation says what rewriting gives (`rewrite_eq_of_cut`): a
text without references is left alone, and in any other the way to the root comes into each gap.
What is told of a text and what it is in the end (`Alias.outcome`, `Alias.textAfter`) follow from it.

For a pattern without dots whose call does not start with a separator, what is rewritten has no
references left (`Plain.not_mentions`): the dot that takes the place of a marker cannot be part of
another reference, and the separators behind it cannot begin one.
-/

namespace Dealias

open Search

/-- The way to the root is a dot, with dots and separators behind it. -/
theorem Depth.exists_ascent_eq (d : Depth) :
    ∃ tail, d.ascent = '.' :: tail ∧ ∀ c ∈ tail, c = '.' ∨ c = '/' := by
  unfold Depth.ascent
  split
  · exact ⟨['/'], rfl, by simp⟩
  · obtain ⟨n, hn⟩ : ∃ n, d.levels = n + 1 := Nat.exists_eq_succ_of_ne_zero ‹_›
    refine ⟨['.', '/'] ++ (List.replicate n ['.', '.', '/']).flatten, by simp [hn, List.replicate],
      fun c hc => ?_⟩
    simp only [List.mem_append, List.mem_flatten, List.mem_replicate] at hc
    rcases hc with hc | ⟨_, ⟨_, rfl⟩, hc⟩ <;> simpa using hc

namespace Alias

variable {a : Alias} {text : String} {depth : Depth} {gaps : List (List Char)}

/-- Does the text hold a reference? -/
def Mentions (a : Alias) (text : String) : Prop :=
  a.literal.toList <:+: text.toList

instance (a : Alias) (text : String) : Decidable (a.Mentions text) := by
  unfold Mentions
  infer_instance

/-- What a reference begins with when it is rewritten. -/
def resolved (a : Alias) (depth : Depth) : List Char :=
  a.call.toList ++ depth.ascent

/-- Nothing in the pattern can be mistaken for dot segments. -/
structure Plain (a : Alias) : Prop where
  call_dot : '.' ∉ a.call.toList
  marker_dot : '.' ∉ a.marker.toList
  call_slash : a.call.toList.head? ≠ some '/'

theorem plain_standard : standard.Plain := ⟨by decide, by decide, by decide⟩

theorem literal_toList (a : Alias) : a.literal.toList = a.call.toList ++ a.marker.toList := by
  simp [literal]

theorem call_toList_ne_nil (a : Alias) : a.call.toList ≠ [] :=
  fun h => a.call_ne (String.toList_eq_nil_iff.1 h)

theorem marker_toList_ne_nil (a : Alias) : a.marker.toList ≠ [] :=
  fun h => a.marker_ne (String.toList_eq_nil_iff.1 h)

theorem literal_toList_ne_nil (a : Alias) : a.literal.toList ≠ [] := by
  simp [literal_toList, a.call_toList_ne_nil]

/-- The references found are as many as the cut tells. -/
theorem length_find (hcut : Cut a.literal.toList text.toList gaps) :
    (a.find text).length + 1 = gaps.length := by
  rw [find, Text.bytes_eq_encode, Text.bytes_eq_encode]
  exact Text.length_spans_encode a.literal_toList_ne_nil hcut

/-- **Rewriting follows the cut of the text.** -/
theorem rewrite_eq_of_cut (hcut : Cut a.literal.toList text.toList gaps) :
    a.rewrite text depth =
      if gaps.length = 1 then .unchanged
      else .rewritten (String.ofList ((a.resolved depth).intercalate gaps)) (gaps.length - 1) := by
  have hlength := length_find hcut
  unfold rewrite
  split
  · rename_i hnone
    rw [hnone] at hlength
    rw [if_pos (by simpa using hlength.symm)]
  · rename_i hsome
    have hpos := List.length_pos_iff.2 hsome
    rw [if_neg (by omega), substitute, hcut.replace_eq _ a.literal_toList_ne_nil, ← hlength]
    rfl

/-- A text is left alone exactly when it holds no reference. -/
theorem rewrite_eq_unchanged_iff : a.rewrite text depth = .unchanged ↔ ¬ a.Mentions text := by
  obtain ⟨gaps, hcut⟩ := exists_cut a.literal_toList_ne_nil text.toList
  rw [rewrite_eq_of_cut hcut, Mentions, ← hcut.length_eq_one_iff]
  split <;> simp [*]

/-- Rewriting counts the references that are found. -/
theorem rewrite_eq (a : Alias) (text : String) (depth : Depth) :
    a.rewrite text depth = if a.find text = [] then .unchanged
      else .rewritten (a.substitute text depth) (a.find text).length := by
  unfold rewrite
  split
  · simp [*]
  · rename_i hsome
    rw [if_neg hsome]

/-- What is rewritten is the text with all its references replaced. -/
theorem eq_of_rewrite_eq_rewritten {new : String} {n : Nat}
    (h : a.rewrite text depth = .rewritten new n) :
    new = a.substitute text depth ∧ n = (a.find text).length := by
  rw [rewrite_eq] at h
  split at h
  · cases h
  · obtain ⟨rfl, rfl⟩ := Rewrite.rewritten.inj h
    exact ⟨rfl, rfl⟩

/-- Nothing is found in a text exactly if it does not mention the literal. -/
theorem find_eq_nil_iff : a.find text = [] ↔ ¬ a.Mentions text := by
  have hroot : a.rewrite text .root = .unchanged ↔ ¬ a.Mentions text := rewrite_eq_unchanged_iff
  rw [← hroot, rewrite_eq]
  split <;> simp [*]

/-- What is rewritten held a reference, and the references of its cut are resolved. -/
theorem rewrite_eq_rewritten {new : String} {n : Nat}
    (h : a.rewrite text depth = .rewritten new n) :
    a.Mentions text ∧ 0 < n ∧ ∃ gaps, Cut a.literal.toList text.toList gaps ∧
      n + 1 = gaps.length ∧ new = String.ofList ((a.resolved depth).intercalate gaps) := by
  obtain ⟨gaps, hcut⟩ := exists_cut a.literal_toList_ne_nil text.toList
  have hpos := List.length_pos_iff.2 hcut.gaps_ne_nil
  have hone := hcut.length_eq_one_iff
  rw [rewrite_eq_of_cut hcut] at h
  split at h
  · cases h
  · rename_i hmany
    obtain ⟨rfl, rfl⟩ := Rewrite.rewritten.inj h
    exact ⟨Classical.not_not.1 (mt hone.2 hmany), by omega, gaps, hcut, by omega, rfl⟩

/-- **What is rewritten is another text**: in the place of the first marker stands a dot, and no
marker begins with one. -/
theorem ne_of_rewrite_eq_rewritten {new : String} {n : Nat}
    (h : a.rewrite text depth = .rewritten new n) : new ≠ text := by
  obtain ⟨-, hpos, gaps, hcut, hcount, rfl⟩ := rewrite_eq_rewritten h
  obtain ⟨tail, hascent, -⟩ := depth.exists_ascent_eq
  obtain ⟨first, others, hmarker⟩ := List.exists_cons_of_ne_nil a.marker_toList_ne_nil
  intro hsame
  have hletters := congrArg String.toList hsame
  rw [String.toList_ofList] at hletters
  generalize text.toList = letters at hcut hletters
  cases hcut with
  | whole => simp at hcount; omega
  | @atFirst before after gaps _ rest =>
      have hbehind : a.resolved depth ++ (a.resolved depth).intercalate gaps =
          a.literal.toList ++ after := by
        rw [List.intercalate_cons_of_ne_nil rest.gaps_ne_nil, List.append_assoc] at hletters
        exact List.append_cancel_left hletters
      rw [resolved, literal_toList, List.append_assoc, List.append_assoc, hascent, hmarker] at hbehind
      have hdot : '.' = first := (List.cons.inj (List.append_cancel_left hbehind)).1
      exact a.marker_dot (by rw [hmarker, hdot]; rfl)

/-- **A rewritten text of a plain pattern holds no reference.** -/
theorem Plain.not_mentions (hplain : a.Plain) {new : String} {n : Nat}
    (h : a.rewrite text depth = .rewritten new n) : ¬ a.Mentions new := by
  obtain ⟨-, -, gaps, hcut, -, rfl⟩ := rewrite_eq_rewritten h
  obtain ⟨tail, hascent, htail⟩ := depth.exists_ascent_eq
  rw [literal_toList] at hcut
  rw [Mentions, String.toList_ofList, literal_toList, resolved, hascent]
  refine hcut.not_infix_intercalate a.marker_toList_ne_nil ?_ fun c hc => ?_
  · simp [hplain.call_dot, hplain.marker_dot]
  · have hhead : (a.call.toList ++ a.marker.toList).head? = a.call.toList.head? := by
      obtain ⟨first, others, hcall⟩ := List.exists_cons_of_ne_nil a.call_toList_ne_nil
      simp [hcall]
    rw [hhead]
    rcases htail c hc with rfl | rfl
    · exact fun hdot => hplain.call_dot (List.mem_of_head? hdot)
    · exact hplain.call_slash

/-! ## What becomes of a text -/

/-- What is told of a text at some depth. -/
def outcome (a : Alias) (text : String) (depth : Depth) : Outcome :=
  match a.rewrite text depth with
  | .unchanged => .unchanged
  | .rewritten _ n => .rewritten n

/-- What a text at some depth is in the end. -/
def textAfter (a : Alias) (dryRun : Bool) (text : String) (depth : Depth) : String :=
  match a.rewrite text depth with
  | .unchanged => text
  | .rewritten new _ => if dryRun then text else new

/-- A text is told to be changed if it holds a reference. -/
theorem isModified_outcome_iff : (a.outcome text depth).isModified = true ↔ a.Mentions text := by
  unfold outcome
  cases hrewrite : a.rewrite text depth with
  | unchanged =>
      have habsent := rewrite_eq_unchanged_iff.1 hrewrite
      simp [Outcome.isModified, habsent]
  | rewritten new n =>
      have hmentions := (rewrite_eq_rewritten hrewrite).1
      simp [Outcome.isModified, hmentions]

/-- What is told of a text are the references that are found in it. -/
theorem occurrences_outcome (a : Alias) (text : String) (depth : Depth) :
    (a.outcome text depth).occurrences = (a.find text).length := by
  unfold outcome
  cases hrewrite : a.rewrite text depth with
  | unchanged =>
      have habsent := find_eq_nil_iff.2 (rewrite_eq_unchanged_iff.1 hrewrite)
      rw [habsent]
      rfl
  | rewritten new n => exact (eq_of_rewrite_eq_rewritten hrewrite).2

theorem length_find_pos_iff (a : Alias) (text : String) :
    0 < (a.find text).length ↔ a.Mentions text := by
  rw [List.length_pos_iff, ne_eq, find_eq_nil_iff, Classical.not_not]

/-- A text is changed if it holds a reference. -/
theorem textAfter_ne_iff : a.textAfter false text depth ≠ text ↔ a.Mentions text := by
  unfold textAfter
  cases hrewrite : a.rewrite text depth with
  | unchanged =>
      have habsent := rewrite_eq_unchanged_iff.1 hrewrite
      simp [habsent]
  | rewritten new n =>
      have hmentions := (rewrite_eq_rewritten hrewrite).1
      have hne : new ≠ text := ne_of_rewrite_eq_rewritten hrewrite
      simp [hmentions, hne]

/-- In the end a text is its gaps with resolved references between them, also if it has one gap
only. -/
theorem textAfter_of_cut (hcut : Cut a.literal.toList text.toList gaps) :
    a.textAfter false text depth = String.ofList ((a.resolved depth).intercalate gaps) := by
  rw [textAfter, rewrite_eq_of_cut hcut]
  split
  · rename_i hunchanged
    split at hunchanged
    · rename_i hone
      obtain ⟨gap, rfl⟩ := List.length_eq_one_iff.1 hone
      have htext := hcut.intercalate_literal
      rw [List.intercalate_singleton] at htext ⊢
      rw [htext, String.ofList_toList]
    · cases hunchanged
  · rename_i hrewritten
    split at hrewritten
    · cases hrewritten
    · obtain ⟨rfl, -⟩ := Rewrite.rewritten.inj hrewritten
      rfl

end Alias

end Dealias
