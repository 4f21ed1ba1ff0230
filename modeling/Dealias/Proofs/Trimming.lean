import Mathlib.Data.List.DropRight
import Dealias.Text.Blank

/-!
# Trimming

The core of a text is what is left of it without the white space around it (`IsCore`).  Each text
has exactly one core, and trimming finds it (`trim_eq_iff`).
-/

namespace Dealias.Text

variable {before after core cs : List Char}

/-- There is nothing but white space. -/
def Blank (cs : List Char) : Prop :=
  ∀ c ∈ cs, isBlank c = true

/-- There is no white space at either end. -/
structure Bare (cs : List Char) : Prop where
  first : ∀ c ∈ cs.head?, isBlank c = false
  last : ∀ c ∈ cs.getLast?, isBlank c = false

/-- The characters are a core with white space around it. -/
structure IsCore (core cs : List Char) : Prop where
  bare : Bare core
  padded : ∃ before after, Blank before ∧ Blank after ∧ cs = before ++ core ++ after

theorem trimEnd_eq_rdropWhile (cs : List Char) : trimEnd cs = cs.rdropWhile isBlank := rfl

/-- More white space at the end is cut off as well. -/
theorem trimEnd_append (hafter : Blank after) (cs : List Char) :
    trimEnd (cs ++ after) = trimEnd cs := by
  have hreversed : ∀ c ∈ after.reverse, isBlank c = true := by
    intro c hc
    exact hafter c (List.mem_reverse.1 hc)
  unfold trimEnd
  rw [List.reverse_append, List.dropWhile_append_of_pos hreversed]

/-- White space at the ends plays no part.  If there is nothing else, all of it goes at the front. -/
theorem trim_padded (hbefore : Blank before) (hafter : Blank after) (cs : List Char) :
    trim (before ++ cs ++ after) = trim cs := by
  unfold trim
  rw [List.append_assoc, List.dropWhile_append_of_pos hbefore, List.dropWhile_append]
  by_cases hblank : cs.dropWhile isBlank = []
  · have hnone : after.dropWhile isBlank = [] := List.dropWhile_eq_nil_iff.2 hafter
    rw [if_pos (List.isEmpty_iff.2 hblank), hblank, hnone]
  · have hsome : ¬ (cs.dropWhile isBlank).isEmpty = true := by
      rwa [List.isEmpty_iff]
    rw [if_neg hsome, trimEnd_append hafter]

/-- What is bare is left as it is. -/
theorem Bare.trim_eq (h : Bare cs) : trim cs = cs := by
  have hfront : cs.dropWhile isBlank = cs := by
    cases cs with
    | nil => rfl
    | cons c rest => simp [h.first c rfl]
  unfold trim
  rw [hfront, trimEnd_eq_rdropWhile, List.rdropWhile_eq_self_iff]
  intro hne
  rw [h.last _ (List.getLast?_eq_some_getLast hne)]
  exact Bool.false_ne_true

/-- What is left by trimming is bare.  It begins as what was left before the end was cut. -/
theorem bare_trim (cs : List Char) : Bare (trim cs) := by
  unfold trim
  rw [trimEnd_eq_rdropWhile]
  constructor
  · intro c hc
    obtain ⟨behind, hbehind⟩ := List.rdropWhile_prefix isBlank (cs.dropWhile isBlank)
    obtain ⟨rest, hrest⟩ := List.head?_eq_some_iff.1 hc
    have hhead : (cs.dropWhile isBlank).head? = some c := by
      rw [← hbehind, hrest]
      rfl
    have hnot := List.head?_dropWhile_not isBlank cs
    rwa [hhead] at hnot
  · intro c hc
    have hne : (cs.dropWhile isBlank).rdropWhile isBlank ≠ [] := by
      intro hnil
      rw [hnil] at hc
      cases hc
    have hnot := List.rdropWhile_last_not isBlank _ hne
    rw [List.getLast?_eq_some_getLast hne] at hc
    cases hc
    simpa using hnot

/-- What is cut away is white space. -/
theorem exists_padding (cs : List Char) :
    ∃ before after, Blank before ∧ Blank after ∧ cs = before ++ trim cs ++ after := by
  refine ⟨cs.takeWhile isBlank, (cs.dropWhile isBlank).rtakeWhile isBlank, ?_, ?_, ?_⟩
  · intro c hc
    exact List.mem_takeWhile_imp hc
  · intro c hc
    exact List.mem_rtakeWhile_imp hc
  · calc cs = cs.takeWhile isBlank ++ cs.dropWhile isBlank :=
          List.takeWhile_append_dropWhile.symm
      _ = cs.takeWhile isBlank ++
          (trim cs ++ (cs.dropWhile isBlank).rtakeWhile isBlank) := by
          rw [trim, trimEnd_eq_rdropWhile, List.rdropWhile_append_rtakeWhile]
      _ = _ := (List.append_assoc _ _ _).symm

/-- **Trimming finds the core**, and there is no other. -/
theorem trim_eq_iff : trim cs = core ↔ IsCore core cs := by
  constructor
  · intro h
    subst h
    exact ⟨bare_trim cs, exists_padding cs⟩
  · intro h
    obtain ⟨before, after, hbefore, hafter, hcs⟩ := h.padded
    rw [hcs, trim_padded hbefore hafter, h.bare.trim_eq]

/-- More white space around a text does not change its core. -/
theorem IsCore.pad (h : IsCore core cs) (hbefore : Blank before) (hafter : Blank after) :
    IsCore core (before ++ cs ++ after) := by
  rw [← trim_eq_iff, trim_padded hbefore hafter]
  exact trim_eq_iff.2 h

theorem Bare.isCore (h : Bare cs) : IsCore cs cs :=
  trim_eq_iff.1 h.trim_eq

end Dealias.Text
