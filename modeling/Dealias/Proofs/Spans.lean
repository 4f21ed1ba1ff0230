import Dealias.Proofs.Rewriting

/-!
# Which spans a search reports

Spans mark a literal in a text when they go from left to right without overlapping, each of them
covers the literal, and wherever the literal begins, that place is covered too (`Marks`).  This says
nothing of a scan.  Still there is one such list only, and it is the one that the scan finds
(`Alias.eq_find_iff_marks`): a span that marks the next place where the literal begins cannot begin
before it, and it cannot begin behind it either, since that place would be left out
(`MarksFrom.unique`).

The scan goes through the text letter by letter, so it is followed from any place on
(`MarksFrom`): what it reports from there marks all of the literal from there.
-/

namespace Dealias

namespace Search

variable {α : Type} {literal text : List α} {found others : List Span} {here : Nat}

/-- The literal stands in the text at this position. -/
def StandsAt (literal text : List α) (i : Nat) : Prop :=
  ∃ before after, text = before ++ (literal ++ after) ∧ before.length = i

/-- The letters that a span covers. -/
def Span.letters (s : Span) (text : List α) : List α :=
  (text.take s.stop).drop s.start

/-- The spans mark the literal in the text. -/
structure Marks (literal text : List α) (found : List Span) : Prop where
  increasing : found.Pairwise fun s t => s.start < t.start
  disjoint : found.Pairwise fun s t => s.stop ≤ t.start ∨ t.stop ≤ s.start
  inside : ∀ s ∈ found, s.stop ≤ text.length
  covers : ∀ s ∈ found, s.letters text = literal
  complete : ∀ i, StandsAt literal text i → ∃ s ∈ found, s.start ≤ i ∧ i < s.stop

/-! ## One span -/

theorem StandsAt.le_length {i : Nat} (h : StandsAt literal text i) :
    i + literal.length ≤ text.length := by
  obtain ⟨before, after, rfl, rfl⟩ := h
  simp only [List.length_append]
  omega

/-- A literal stands at a position if the text goes on with it from there. -/
theorem standsAt_iff {i : Nat} :
    StandsAt literal text i ↔ i ≤ text.length ∧ literal <+: text.drop i := by
  constructor
  · rintro ⟨before, after, rfl, rfl⟩
    simp
  · rintro ⟨hle, after, hafter⟩
    refine ⟨text.take i, after, ?_, by rw [List.length_take, Nat.min_eq_left hle]⟩
    rw [hafter, List.take_append_drop]

instance [DecidableEq α] (literal text : List α) (i : Nat) : Decidable (StandsAt literal text i) :=
  decidable_of_iff _ standsAt_iff.symm

/-- A span covers the literal exactly when the literal stands where it begins, and it is as long. -/
theorem Span.letters_eq_iff {s : Span} (hliteral : literal ≠ []) :
    s.stop ≤ text.length ∧ s.letters text = literal ↔
      StandsAt literal text s.start ∧ s.stop = s.start + literal.length := by
  have hpos := List.length_pos_iff.2 hliteral
  constructor
  · rintro ⟨hinside, hcovers⟩
    have hlength : literal.length = s.stop - s.start := by
      rw [← hcovers, Span.letters, List.length_drop, List.length_take, Nat.min_eq_left hinside]
    have hstart : (text.take s.stop).take s.start = text.take s.start := by
      rw [List.take_take, Nat.min_eq_left (by omega)]
    refine ⟨⟨text.take s.start, text.drop s.stop, ?_, ?_⟩, by omega⟩
    · calc
        text = text.take s.stop ++ text.drop s.stop := (List.take_append_drop ..).symm
        _ = (text.take s.stop).take s.start ++ s.letters text ++ text.drop s.stop := by
            rw [Span.letters, List.take_append_drop s.start]
        _ = text.take s.start ++ (literal ++ text.drop s.stop) := by
            rw [hstart, hcovers, List.append_assoc]
    · rw [List.length_take]
      omega
  · rintro ⟨⟨before, after, rfl, hstart⟩, hstop⟩
    refine ⟨by simp only [List.length_append]; omega, ?_⟩
    have hends : s.stop = (before ++ literal).length := by simp [hstart, hstop]
    rw [Span.letters, hends, ← List.append_assoc, List.take_left, ← hstart, List.drop_left]

/-! ## The spans from a place on -/

/-- The spans mark the literal in the text from a place on. -/
structure MarksFrom (literal text : List α) (here : Nat) (found : List Span) : Prop where
  behind : ∀ s ∈ found, here ≤ s.start
  ordered : found.Pairwise fun s t => s.stop ≤ t.start
  covers : ∀ s ∈ found, StandsAt literal text s.start ∧ s.stop = s.start + literal.length
  complete : ∀ i, here ≤ i → StandsAt literal text i → ∃ s ∈ found, s.start ≤ i ∧ i < s.stop

/-- Marking a literal is marking it from the beginning on. -/
theorem marks_iff_marksFrom (hliteral : literal ≠ []) :
    Marks literal text found ↔ MarksFrom literal text 0 found := by
  have hpos := List.length_pos_iff.2 hliteral
  constructor
  · intro h
    have hcovers : ∀ s ∈ found, StandsAt literal text s.start ∧ s.stop = s.start + literal.length :=
      fun s hs => (Span.letters_eq_iff hliteral).1 ⟨h.inside s hs, h.covers s hs⟩
    refine ⟨fun _ _ => Nat.zero_le _, ?_, hcovers, fun i _ => h.complete i⟩
    refine (h.increasing.and h.disjoint).imp_of_mem fun {s t} _ ht hst => ?_
    have hstop := (hcovers t ht).2
    omega
  · intro h
    have hcovers := fun s hs => (Span.letters_eq_iff hliteral).2 (h.covers s hs)
    refine ⟨?_, h.ordered.imp .inl, fun s hs => (hcovers s hs).1, fun s hs => (hcovers s hs).2,
      fun i => h.complete i (Nat.zero_le i)⟩
    refine h.ordered.imp_of_mem fun {s t} hs _ hst => ?_
    have hstop := (h.covers s hs).2
    omega

namespace MarksFrom

/-- Behind the end of the text there is nothing to mark. -/
theorem nil (hliteral : literal ≠ []) (hend : text.length ≤ here) :
    MarksFrom literal text here [] := by
  refine ⟨by simp, .nil, by simp, fun i hi hstands => ?_⟩
  have hle := hstands.le_length
  have hpos := List.length_pos_iff.2 hliteral
  omega

/-- Where the literal does not stand, the marks are those from the next place on. -/
theorem skip (habsent : ¬ StandsAt literal text here)
    (h : MarksFrom literal text (here + 1) found) : MarksFrom literal text here found := by
  refine ⟨fun s hs => Nat.le_of_succ_le (h.behind s hs), h.ordered, h.covers,
    fun i hi hstands => ?_⟩
  have hne : here ≠ i := by
    rintro rfl
    exact habsent hstands
  exact h.complete i (Nat.lt_of_le_of_ne hi hne) hstands

/-- Where it stands, it is marked, and the other marks are those from its end on. -/
theorem cons (hstands : StandsAt literal text here)
    (h : MarksFrom literal text (here + literal.length) found) :
    MarksFrom literal text here (⟨here, here + literal.length⟩ :: found) := by
  refine ⟨?_, List.pairwise_cons.2 ⟨h.behind, h.ordered⟩, ?_, fun i hi hlater => ?_⟩
  · rintro s (_ | ⟨_, hs⟩)
    · exact Nat.le_refl here
    · exact Nat.le_trans (Nat.le_add_right ..) (h.behind s hs)
  · rintro s (_ | ⟨_, hs⟩)
    · exact ⟨hstands, rfl⟩
    · exact h.covers s hs
  · by_cases hinside : i < here + literal.length
    · exact ⟨_, List.mem_cons_self, hi, hinside⟩
    · obtain ⟨s, hs, hcovered⟩ := h.complete i (Nat.le_of_not_lt hinside) hlater
      exact ⟨s, List.mem_cons_of_mem _ hs, hcovered⟩

/-- The first span is not behind any place from which on the literal is marked. -/
theorem head_le {s : Span} {i : Nat} (h : MarksFrom literal text here (s :: found)) (hi : here ≤ i)
    (hstands : StandsAt literal text i) : s.start ≤ i := by
  obtain ⟨t, ht, hle, -⟩ := h.complete i hi hstands
  rcases List.mem_cons.1 ht with rfl | hlater
  · exact hle
  · have hapart := (List.pairwise_cons.1 h.ordered).1 t hlater
    have hstop := (h.covers s List.mem_cons_self).2
    omega

/-- Behind the first span the others mark the literal. -/
theorem tail {s : Span} (h : MarksFrom literal text here (s :: found)) :
    MarksFrom literal text s.stop found := by
  obtain ⟨hapart, hordered⟩ := List.pairwise_cons.1 h.ordered
  have hle := h.behind s List.mem_cons_self
  have hstop := (h.covers s List.mem_cons_self).2
  refine ⟨hapart, hordered, fun t ht => h.covers t (List.mem_cons_of_mem _ ht),
    fun i hi hstands => ?_⟩
  obtain ⟨t, ht, hcovered⟩ := h.complete i (by omega) hstands
  rcases List.mem_cons.1 ht with rfl | hlater
  · omega
  · exact ⟨t, hlater, hcovered⟩

/-- **The literal is marked in one way only.** -/
theorem unique (h : MarksFrom literal text here found)
    (hothers : MarksFrom literal text here others) : found = others := by
  induction found generalizing here others with
  | nil =>
      cases others with
      | nil => rfl
      | cons t others =>
          obtain ⟨s, hs, -⟩ := h.complete t.start (hothers.behind t List.mem_cons_self)
            (hothers.covers t List.mem_cons_self).1
          cases hs
  | cons s found ih =>
      have hs := h.covers s List.mem_cons_self
      have hbehind := h.behind s List.mem_cons_self
      cases others with
      | nil =>
          obtain ⟨t, ht, -⟩ := hothers.complete s.start hbehind hs.1
          cases ht
      | cons t others =>
          have ht := hothers.covers t List.mem_cons_self
          have hstart : s.start = t.start :=
            Nat.le_antisymm (h.head_le (hothers.behind t List.mem_cons_self) ht.1)
              (hothers.head_le hbehind hs.1)
          have hstop : s.stop = t.stop := by rw [hs.2, ht.2, hstart]
          have hsame : s = t := by
            cases s
            cases t
            simp_all
          subst hsame
          rw [ih h.tail hothers.tail]

end MarksFrom

/-! ## The scan -/

variable [DecidableEq α]

/-- **What the scan reports from a place on marks all of the literal from there**, once the letters
are passed over that still belong to the occurrence before. -/
theorem marksFrom_spansFrom (hliteral : literal ≠ []) (skip : Nat) (passed text : List α) :
    MarksFrom literal (passed ++ text) (passed.length + skip)
      (spansFrom literal skip passed.length text) := by
  induction text generalizing skip passed with
  | nil => exact .nil hliteral (by simp)
  | cons c text ih =>
      have hpos := List.length_pos_iff.2 hliteral
      have hsplit : passed ++ c :: text = (passed ++ [c]) ++ text := by simp
      have hlength : (passed ++ [c]).length = passed.length + 1 := by simp
      cases skip with
      | succ skip =>
          have hlater := ih skip (passed ++ [c])
          rw [← hsplit, hlength, Nat.add_right_comm] at hlater
          exact hlater
      | zero =>
          have hstands : startsWith literal (c :: text) = true ↔
              StandsAt literal (passed ++ c :: text) passed.length := by
            rw [startsWith_iff]
            constructor
            · rintro ⟨rest, hrest⟩
              exact ⟨passed, rest, by rw [hrest], rfl⟩
            · rintro ⟨before, after, htext, hbefore⟩
              exact ⟨after, (List.append_inj htext hbefore.symm).2⟩
          by_cases hstart : startsWith literal (c :: text) = true
          · have hlater := ih (literal.length - 1) (passed ++ [c])
            have hend : passed.length + 1 + (literal.length - 1) =
                passed.length + literal.length := by
              omega
            rw [← hsplit, hlength, hend] at hlater
            simp only [spansFrom, hstart, if_true]
            exact .cons (hstands.1 hstart) hlater
          · have hlater := ih 0 (passed ++ [c])
            rw [← hsplit, hlength] at hlater
            simp only [spansFrom, hstart, Bool.false_eq_true, if_false]
            exact .skip (mt hstands.2 hstart) hlater

/-- The scan marks the literal. -/
theorem marks_spans (hliteral : literal ≠ []) (text : List α) :
    Marks literal text (spans literal text) :=
  (marks_iff_marksFrom hliteral).2 (marksFrom_spansFrom hliteral 0 [] text)

/-- The literal stands at four places of this text, and two spans cover them. -/
example : spans ['a', 'a'] ['a', 'a', 'a', 'a', 'a'] = [⟨0, 2⟩, ⟨2, 4⟩] := by decide

end Search

theorem Alias.bytes_literal_ne_nil (a : Alias) : Text.bytes a.literal ≠ [] := by
  rw [Text.bytes_eq_encode]
  exact Text.encode_ne_nil a.literal_toList_ne_nil

/-- **A search finds the one list of spans that marks the literal**: those spans increase, do not
overlap, cover the bytes of the literal, and leave out no place where these begin. -/
theorem Alias.eq_find_iff_marks (a : Alias) (text : String) (found : List Search.Span) :
    found = a.find text ↔ Search.Marks (Text.bytes a.literal) (Text.bytes text) found := by
  have hfound := Search.marks_spans a.bytes_literal_ne_nil (Text.bytes text)
  constructor
  · rintro rfl
    exact hfound
  · intro h
    rw [Search.marks_iff_marksFrom a.bytes_literal_ne_nil] at h hfound
    exact h.unique hfound

end Dealias
