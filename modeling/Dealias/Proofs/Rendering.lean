import Mathlib
import Dealias.Proofs.Documents
import Dealias.Proofs.Encoding
import Dealias.Summary.Render

/-!
# Rendered summaries

As a sentence a summary can always be shown.  As JSON it can be shown exactly if its changed paths
are texts (`render_eq_error_iff`).  Whoever reads the JSON gets the summary back: an object with its
counts, its paths in their order and character for character, and the sentence
(`render_reads_back`).
-/

namespace Dealias

namespace Summary

open Json (Value wordLimit readDocument)

variable {s : Summary} {paths : List Path} {texts : List String} {format : Format}
  {e : SystemError} {rendered : String}

/-- A path that is a text is told in front of the others. -/
theorem pathTexts_cons {p : Path} {text : String} (h : p.text? = some text) (rest : List Path) :
    pathTexts (p :: rest) = (pathTexts rest).map (text :: ·) := by
  simp only [pathTexts, h]

/-- The paths can be told unless one of them is no text. -/
theorem pathTexts_eq_error_iff :
    pathTexts paths = .error e ↔ e = .summaryRender ∧ ∃ p ∈ paths, p.text? = none := by
  induction paths with
  | nil => simp [pathTexts]
  | cons p rest ih =>
      cases htext : p.text? with
      | none => simp [pathTexts, htext, eq_comm]
      | some text =>
          rw [pathTexts_cons htext]
          cases hrest : pathTexts rest <;> simp_all [Except.map]

/-- The texts of paths are the texts that the paths are made of. -/
theorem eq_of_pathTexts (h : pathTexts paths = .ok texts) : paths = texts.map .ofText := by
  induction paths generalizing texts with
  | nil =>
      cases h
      rfl
  | cons p rest ih =>
      cases htext : p.text? with
      | none => simp [pathTexts, htext] at h
      | some text =>
          rw [pathTexts_cons htext] at h
          have hmade : p = .ofText text := Path.text?_eq_some_iff.1 htext
          cases hrest : pathTexts rest with
          | error e => simp [hrest, Except.map] at h
          | ok others =>
              obtain rfl : text :: others = texts := by simpa [hrest, Except.map] using h
              rw [List.map_cons, ← hmade, ← ih hrest]

/-- **A summary cannot be rendered exactly if it is to be JSON and a changed path is no text.** -/
theorem render_eq_error_iff :
    s.render format = .error e ↔
      e = .summaryRender ∧ format = .json ∧ ∃ p ∈ s.changed, p.text? = none := by
  cases format with
  | text => simp [render]
  | json =>
      have htexts : pathTexts s.changed = .error e ↔ _ := pathTexts_eq_error_iff
      cases hpaths : pathTexts s.changed <;> simp_all [render, toValue, Except.map]

/-- The members of a summary as JSON. -/
def members (s : Summary) (texts : List String) (message : String) : List (String × Value) :=
  [("scanned", .natural s.scanned), ("changed", .list (texts.map .text)),
    ("occurrences", .natural s.occurrences), ("dry_run", .bool s.dryRun),
    ("message", .text message)]

/-- The members of a summary fit if its two counts do, as nothing else in them is a number. -/
theorem fits_members (hscanned : s.scanned < wordLimit) (hoccurrences : s.occurrences < wordLimit)
    (texts : List String) (message : String) : Json.Fits (.object (s.members texts message)) := by
  have htexts : Json.Fits (.list (texts.map .text)) := by
    refine .list fun v hv => ?_
    obtain ⟨text, -, rfl⟩ := List.mem_map.1 hv
    exact .text text
  refine .object fun m hm => ?_
  simp only [members, List.mem_cons, List.not_mem_nil, or_false] at hm
  rcases hm with rfl | rfl | rfl | rfl | rfl
  · exact .natural hscanned
  · exact htexts
  · exact .natural hoccurrences
  · exact .bool s.dryRun
  · exact .text message

/-- **A summary is read back from its JSON**, which there is exactly if the changed paths are texts;
its sentence there always is. -/
theorem render_reads_back (s : Summary) (hscanned : s.scanned < wordLimit)
    (hoccurrences : s.occurrences < wordLimit) :
    ∃ message, s.render .text = .ok message ∧
      ((∃ e, s.render .json = .error e) ↔ ∃ p ∈ s.changed, ∀ text, p ≠ .ofText text) ∧
      (∀ e, s.render .json = .error e → e = .summaryRender) ∧
      ∀ rendered, s.render .json = .ok rendered → ∃ texts : List String,
        s.changed = texts.map .ofText ∧
        readDocument rendered = .ok (.object
          [("scanned", .natural s.scanned), ("changed", .list (texts.map .text)),
           ("occurrences", .natural s.occurrences), ("dry_run", .bool s.dryRun),
           ("message", .text message)]) := by
  refine ⟨s.message, rfl, ?_, fun e he => (render_eq_error_iff.1 he).1, ?_⟩
  · constructor
    · rintro ⟨e, he⟩
      obtain ⟨-, -, p, hp, hnone⟩ := render_eq_error_iff.1 he
      exact ⟨p, hp, Path.text?_eq_none_iff.1 hnone⟩
    · rintro ⟨p, hp, hother⟩
      exact ⟨.summaryRender,
        render_eq_error_iff.2 ⟨rfl, rfl, p, hp, Path.text?_eq_none_iff.2 hother⟩⟩
  · intro rendered hrendered
    cases htexts : pathTexts s.changed with
    | error e => simp [render, toValue, htexts, Except.map] at hrendered
    | ok texts =>
        obtain rfl :
            String.ofList (Json.pretty 0 (.object (s.members texts s.message))) = rendered := by
          simpa [render, toValue, htexts, Except.map, members] using hrendered
        refine ⟨texts, eq_of_pathTexts htexts, ?_⟩
        exact Json.readDocument_pretty (fits_members hscanned hoccurrences texts s.message)

/-- A summary with the largest number that is read back, and a path all of whose letters but two
are escaped or encoded. -/
def escapedSummary : Summary :=
  ⟨18446744073709551615, [.ofText "d/\"\\\n\u0001é😀"], 1, true⟩

/-- A path with a quotation mark and the greatest count are read back. -/
theorem render_reads_back_escaped :
    escapedSummary.scanned < wordLimit ∧ escapedSummary.occurrences < wordLimit ∧
    ∃ rendered, escapedSummary.render .json = .ok rendered ∧
      readDocument rendered = .ok (.object
        [("scanned", .natural 18446744073709551615), ("changed", .list [.text "d/\"\\\n\u0001é😀"]),
         ("occurrences", .natural 1), ("dry_run", .bool true),
         ("message", .text "Would fix 1 file (of 18446744073709551615).")]) := by
  have hscanned : escapedSummary.scanned < wordLimit := by decide
  have hoccurrences : escapedSummary.occurrences < wordLimit := by decide
  obtain ⟨message, hmessage, hfails, -, hreads⟩ :=
    render_reads_back escapedSummary hscanned hoccurrences
  refine ⟨hscanned, hoccurrences, ?_⟩
  cases hrendered : escapedSummary.render .json with
  | error e =>
      obtain ⟨p, hp, hother⟩ := hfails.1 ⟨e, hrendered⟩
      exact absurd (List.mem_singleton.1 hp) (hother _)
  | ok rendered =>
      obtain ⟨texts, htexts, hread⟩ := hreads rendered hrendered
      obtain rfl : ["d/\"\\\n\u0001é😀"] = texts :=
        (List.map_inj_right fun _ _ h => Path.ofText_injective h).1 htexts
      obtain rfl := Except.ok.inj hmessage
      have hsentence : escapedSummary.message = "Would fix 1 file (of 18446744073709551615)." := by
        cbv
      rw [hsentence] at hread
      exact ⟨rendered, rfl, hread⟩

end Summary

end Dealias
