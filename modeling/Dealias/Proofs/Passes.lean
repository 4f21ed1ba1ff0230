import Mathlib.Algebra.GroupWithZero.Nat
import Dealias.Proofs.Returning

/-!
# Rewriting a text again and again

One pass over a text may not settle it: references of some patterns come back
(`Alias.rewritten_settled_iff_not_returns`), and the text may become longer each time.  What becomes
less are its letters other than dots and separators.  The way to the root has none of them, whatever
the depth, so each reference that is rewritten takes away those of one marker, and nothing puts any
back (`Alias.weight_textAfter`).

So a marker with such a letter can be taken out only as often as the text has room for it.  A pass
that finds nothing leaves the text as it is, and then no later pass finds anything
(`Alias.passes_settle`).
-/

namespace Dealias

open Search

namespace Text

/-- Is the letter neither a dot nor a separator? -/
def weighs (c : Char) : Bool :=
  c ≠ '.' ∧ c ≠ '/'

/-- The number of letters of a text that are neither dots nor separators. -/
def weight (text : String) : Nat :=
  text.toList.countP weighs

end Text

/-- The way to the root has dots and separators only. -/
theorem Depth.countP_ascent (d : Depth) : d.ascent.countP Text.weighs = 0 := by
  obtain ⟨tail, hascent, htail⟩ := d.exists_ascent_eq
  rw [hascent, List.countP_eq_zero]
  rintro c (_ | ⟨_, hc⟩)
  · decide
  · rcases htail c hc with rfl | rfl <;> decide

namespace Alias

variable {a : Alias} {depths : Nat → Depth} {text : String} {k : Nat}

theorem countP_literal (a : Alias) (p : Char → Bool) :
    a.literal.toList.countP p = a.call.toList.countP p + a.marker.toList.countP p := by
  rw [literal_toList, List.countP_append]

/-- A resolved reference weighs as much as its call. -/
theorem countP_resolved (a : Alias) (depth : Depth) :
    (a.resolved depth).countP Text.weighs = a.call.toList.countP Text.weighs := by
  rw [resolved, List.countP_append, depth.countP_ascent, Nat.add_zero]

/-- **Each reference that is rewritten takes away the weight of a marker.** -/
theorem weight_textAfter (a : Alias) (text : String) (depth : Depth) :
    Text.weight (a.textAfter false text depth)
        + (a.outcome text depth).occurrences * Text.weight a.marker
      = Text.weight text := by
  obtain ⟨gaps, hcut⟩ := exists_cut a.literal_toList_ne_nil text.toList
  have hcount := hcut.countP_intercalate Text.weighs (a.resolved depth) (length_find hcut)
  rw [countP_literal, countP_resolved, Nat.mul_add] at hcount
  rw [occurrences_outcome, textAfter_of_cut hcut, Text.weight, Text.weight, Text.weight,
    String.toList_ofList]
  omega

/-- The text after some passes, each at a depth of its own. -/
def passes (a : Alias) (depths : Nat → Depth) (text : String) : Nat → String
  | 0 => text
  | k + 1 => a.textAfter false (a.passes depths text k) (depths k)

/-- The number of references that a pass rewrites. -/
def rewrittenAt (a : Alias) (depths : Nat → Depth) (text : String) (k : Nat) : Nat :=
  (a.outcome (a.passes depths text k) (depths k)).occurrences

/-- The number of references that some passes rewrite together. -/
def rewrittenBefore (a : Alias) (depths : Nat → Depth) (text : String) (k : Nat) : Nat :=
  ((List.range k).map (a.rewrittenAt depths text)).sum

/-- One more pass adds the references that it rewrites. -/
theorem rewrittenBefore_succ :
    a.rewrittenBefore depths text (k + 1)
      = a.rewrittenBefore depths text k + a.rewrittenAt depths text k := by
  simp [rewrittenBefore, List.range_succ]

/-- What all passes together have taken away is missing from the text. -/
theorem weight_passes (a : Alias) (depths : Nat → Depth) (text : String) (k : Nat) :
    Text.weight (a.passes depths text k)
        + a.rewrittenBefore depths text k * Text.weight a.marker
      = Text.weight text := by
  induction k with
  | zero => simp [passes, rewrittenBefore]
  | succ k ih =>
      have hpass := a.weight_textAfter (a.passes depths text k) (depths k)
      rw [rewrittenBefore_succ, Nat.add_mul, passes, rewrittenAt]
      omega

/-- A text that holds a reference after a pass held one before it. -/
theorem mentions_of_mentions_succ (h : a.Mentions (a.passes depths text (k + 1))) :
    a.Mentions (a.passes depths text k) := by
  by_contra habsent
  have hkept : a.passes depths text (k + 1) = a.passes depths text k :=
    Classical.not_not.1 (mt textAfter_ne_iff.1 habsent)
  exact habsent (hkept ▸ h)

/-- A pass over a text that holds a reference rewrites one at least. -/
theorem rewrittenAt_pos (h : a.Mentions (a.passes depths text k)) :
    0 < a.rewrittenAt depths text k := by
  rw [rewrittenAt, occurrences_outcome]
  exact (a.length_find_pos_iff _).2 h

/-- Where a reference is found in a pass, each pass up to it has rewritten one. -/
theorem lt_rewrittenBefore (h : a.Mentions (a.passes depths text k)) :
    k < a.rewrittenBefore depths text (k + 1) := by
  have hpos := rewrittenAt_pos h
  induction k with
  | zero =>
      rw [rewrittenBefore_succ]
      omega
  | succ k ih =>
      have hearlier := mentions_of_mentions_succ h
      have hmany := ih hearlier (rewrittenAt_pos hearlier)
      rw [rewrittenBefore_succ]
      omega

/-- All passes together take away no more than the text weighs. -/
theorem rewrittenBefore_mul_le (a : Alias) (depths : Nat → Depth) (text : String) (k : Nat) :
    a.rewrittenBefore depths text k * Text.weight a.marker ≤ Text.weight text := by
  have hkept := a.weight_passes depths text k
  omega

/-- **A text is settled after finitely many passes**, if the marker has a letter that is neither a
dot nor a separator.  Each pass takes away the weight of a marker for each reference that it
rewrites, so together they rewrite no more references than the text has room for, and find none
after as many passes. -/
theorem passes_settle (a : Alias) (depths : Nat → Depth) (text : String)
    (hmarker : ∃ c ∈ a.marker.toList, c ≠ '.' ∧ c ≠ '/') :
    (∀ k, Text.weight (a.passes depths text (k + 1))
          + a.rewrittenAt depths text k * Text.weight a.marker
        = Text.weight (a.passes depths text k)) ∧
      (∀ k, a.rewrittenBefore depths text k * Text.weight a.marker ≤ Text.weight text) ∧
      ∀ k, Text.weight text / Text.weight a.marker ≤ k →
        a.rewrite (a.passes depths text k) (depths k) = .unchanged := by
  refine ⟨fun k => a.weight_textAfter _ _, a.rewrittenBefore_mul_le depths text, fun k hk => ?_⟩
  have hpos : 0 < Text.weight a.marker := by
    obtain ⟨c, hc, hweighs⟩ := hmarker
    exact List.countP_pos_iff.2 ⟨c, hc, by simpa [Text.weighs] using hweighs⟩
  rw [rewrite_eq_unchanged_iff]
  intro hmentions
  have hroom : a.rewrittenBefore depths text (k + 1) ≤ Text.weight text / Text.weight a.marker :=
    (Nat.le_div_iff_mul_le hpos).2 (a.rewrittenBefore_mul_le depths text (k + 1))
  have hmany := lt_rewrittenBefore hmentions
  omega

/-- A reference that comes back is gone after the second pass, here one directory further down, and
the text has become twice as long. -/
theorem passes_settle_slashed :
    (∃ c ∈ slashed.marker.toList, c ≠ '.' ∧ c ≠ '/') ∧
      slashed.passes Depth.mk "/~~" 1 = "/./~" ∧ slashed.passes Depth.mk "/~~" 2 = "/./../" ∧
      Text.weight "/./~" + slashed.rewrittenAt Depth.mk "/~~" 0 * Text.weight "~"
        = Text.weight "/~~" ∧
      slashed.rewrittenBefore Depth.mk "/~~" 2 * Text.weight "~" ≤ Text.weight "/~~" ∧
      Text.weight "/~~" / Text.weight "~" ≤ 2 ∧
      slashed.rewrite "/./../" ⟨2⟩ = .unchanged := by
  have hmarker : ∃ c ∈ slashed.marker.toList, c ≠ '.' ∧ c ≠ '/' := ⟨'~', by decide, by decide⟩
  have hfirst : slashed.passes Depth.mk "/~~" 1 = "/./~" := by decide
  have hsecond : slashed.passes Depth.mk "/~~" 2 = "/./../" := by decide
  have hroom : Text.weight "/~~" / Text.weight "~" ≤ 2 := by decide
  obtain ⟨hpass, hall, hsettled⟩ := passes_settle slashed Depth.mk "/~~" hmarker
  refine ⟨hmarker, hfirst, hsecond, ?_, hall 2, hroom, ?_⟩
  · rw [← hfirst]
    exact hpass 0
  · rw [← hsecond]
    exact hsettled 2 hroom

end Alias

end Dealias
