import Dealias.Proofs.Rewriting
import Dealias.Proofs.WalkOrder

/-!
# The way to the root

A rewritten reference is read as a path from the directory of its file: segment by segment, where
an empty segment and a lone dot stay, two dots drop the last component, and any other segment is
one component more (`resolve`).  It says nothing of links or of what is there.

The dot segments of a depth drop as many components as the depth counts, so from a directory that
lies so deep below a root they lead to the root (`resolve_ascent_append`), and on the way they never
drop a component of the root itself (`prefix_foldl_follow`).  A walk counts the directories above
its files, so what follows a reference is read from the root, whatever it is.
-/

namespace Dealias

open Disk (Name Location)
open Search (Cut)

namespace Path

/-- The segments of a text between its separators. -/
def segments (text : List Char) : List (List UInt8) :=
  Search.parts slash (Text.encode text)

/-- Where one segment leads from a place. -/
def follow (place : List Component) (segment : List UInt8) : List Component :=
  if segment = [] ∨ segment = [dot] then place
  else if segment = [dot, dot] then place.dropLast
  else place ++ [.name segment]

/-- Where a text leads from a place, by its segments alone. -/
def resolve (place : List Component) (text : List Char) : List Component :=
  (segments text).foldl follow place

/-- As long as there are no more steps up than components below a place, the place is not left. -/
theorem prefix_foldl_follow {place below : List Component} {passed : List (List UInt8)}
    (hcount : passed.count [dot, dot] ≤ below.length) :
    place <+: passed.foldl follow (place ++ below) := by
  induction passed generalizing below with
  | nil => exact List.prefix_append ..
  | cons segment passed ih =>
      have hlater : passed.count [dot, dot] ≤ (segment :: passed).count [dot, dot] :=
        List.count_le_count_cons
      rw [List.foldl_cons]
      unfold follow
      split
      · exact ih (hlater.trans hcount)
      · split
        · rename_i hup
          subst hup
          rw [List.count_cons_self] at hcount
          have hne : below ≠ [] := List.ne_nil_of_length_pos (by omega)
          rw [List.dropLast_append_of_ne_nil hne]
          refine ih ?_
          rw [List.length_dropLast]
          omega
        · rw [List.append_assoc]
          refine ih ?_
          rw [List.length_append]
          omega

/-- As many steps up as there are components below a place lead to it. -/
theorem foldl_follow_ups (place below : List Component) :
    (List.replicate below.length [dot, dot]).foldl follow (place ++ below) = place := by
  induction below using List.reverseRecOn with
  | nil => simp
  | append_singleton below last ih =>
      have hup : follow (place ++ (below ++ [last])) [dot, dot] = place ++ below := by
        rw [← List.append_assoc]
        simp [follow, dot]
      rw [List.length_append, List.length_singleton, List.replicate_succ, List.foldl_cons, hup, ih]

end Path

namespace Depth

open Dealias.Path (segments follow resolve dot Component)

/-- The segments of the way to the root. -/
def ups (d : Depth) : List (List UInt8) :=
  if d.levels = 0 then [[dot]] else List.replicate d.levels [dot, dot]

/-- **The segments of the way to the root come before those of the text behind it.** -/
theorem segments_ascent_append (d : Depth) (tail : List Char) :
    segments (d.ascent ++ tail) = d.ups ++ segments tail := by
  have hsegment : ∀ (part : List UInt8) (chars text : List Char),
      Text.encode chars = part ++ [Path.slash] → Path.slash ∉ part →
      segments (chars ++ text) = part :: segments text := by
    intro part chars text hchars hpart
    rw [segments, Text.encode_append, hchars, List.append_assoc, List.singleton_append,
      Search.parts_append_cons, Search.parts_of_not_mem hpart]
    rfl
  unfold ascent ups
  split
  · exact hsegment [dot] ['.', '/'] tail (by decide) (by decide)
  · induction d.levels with
    | zero => rfl
    | succ n ih =>
        rw [List.replicate_succ, List.replicate_succ, List.flatten_cons, List.append_assoc,
          hsegment [dot, dot] _ _ (by decide) (by decide), ih]
        rfl

theorem segments_ascent (d : Depth) : segments d.ascent = d.ups ++ [[]] := by
  have h := d.segments_ascent_append []
  rwa [List.append_nil] at h

/-- The way to the root goes up as often as the depth counts. -/
theorem count_segments_ascent (d : Depth) : (segments d.ascent).count [dot, dot] = d.levels := by
  rw [segments_ascent, List.count_append]
  unfold ups
  split
  · simp [*, dot]
  · simp

/-- **From a place as many components below another, the way to the root leads to the other.** -/
theorem resolve_ascent_append {d : Depth} (place below : List Component)
    (hdepth : d.levels = below.length) (tail : List Char) :
    resolve (place ++ below) (d.ascent ++ tail) = resolve place tail := by
  have hups : d.ups.foldl follow (place ++ below) = place := by
    unfold ups
    split
    · have hnil : below = [] := List.length_eq_zero_iff.1 (by omega)
      simp [hnil, follow]
    · rw [hdepth, Path.foldl_follow_ups]
  rw [resolve, segments_ascent_append, List.foldl_append, hups, ← resolve]

end Depth

/-- **Where a text is cut, rewriting puts the way to the root**: the gaps in front and behind stay,
with what becomes of the other references between them. -/
theorem Alias.rewrite_at_reference (a : Alias) {text : String} {depth : Depth}
    {before after : List (List Char)} (hcut : Cut a.literal.toList text.toList (before ++ after))
    (hbefore : before ≠ []) (hafter : after ≠ []) :
    ∃ new n, a.rewrite text depth = .rewritten new n ∧
      new.toList = (a.resolved depth).intercalate before ++
        (a.call.toList ++ (depth.ascent ++ (a.resolved depth).intercalate after)) := by
  have hmany : (before ++ after).length ≠ 1 := by
    have := List.length_pos_iff.2 hbefore
    have := List.length_pos_iff.2 hafter
    rw [List.length_append]
    omega
  refine ⟨_, _, (rewrite_eq_of_cut hcut).trans (if_neg hmany), ?_⟩
  rw [String.toList_ofList, Search.intercalate_append _ hbefore hafter]
  nth_rewrite 2 [resolved]
  rw [List.append_assoc]

open Dealias.Path (segments follow resolve) in
/-- **A rewritten reference leads to the root of the walk.**  An entry lies in the directory that
some names lead to below the root.  From there the dot segments of its depth lead to the root and
never above it, so that any text behind them leads where it leads from the root; and in the
rewritten text they stand in front of what stood behind the marker. -/
theorem reference_leads_from_root {disk : Disk} {here : Location} {root : Path}
    {entries : List Entry} {entry : Entry} (hwalk : (disk.walk here root).result = .ok entries)
    (hmem : entry ∈ entries) :
    ∃ directories last, entry.path = root.below (directories ++ [last]) ∧
      entry.depth = ⟨directories.length⟩ ∧
      (∀ passed, passed <+: segments entry.depth.ascent →
        root.components <+: passed.foldl follow (root.below directories).components) ∧
      (∀ tail, resolve (root.below directories).components (entry.depth.ascent ++ tail) =
        resolve root.components tail) ∧
      ∀ (pattern : Alias) (text : String) (before : List (List Char)) (tail : List Char)
        (after : List (List Char)), before ≠ [] →
        Cut pattern.literal.toList text.toList (before ++ tail :: after) →
        ∃ new n, pattern.rewrite text entry.depth = .rewritten new n ∧
          new.toList = (pattern.resolved entry.depth).intercalate before ++
            (pattern.call.toList ++ (entry.depth.ascent ++
              (pattern.resolved entry.depth).intercalate (tail :: after))) := by
  obtain ⟨rows, hentries, -, hmem'⟩ := Disk.walk_finds hwalk
  rw [hentries, List.mem_map] at hmem
  obtain ⟨names, hnames, rfl⟩ := hmem
  have hne := ((hmem' names).1 hnames).ne_nil
  obtain ⟨directories, last, rfl⟩ : ∃ directories last, names = directories ++ [last] :=
    ⟨_, _, (List.dropLast_append_getLast hne).symm⟩
  have hdepth : (Disk.entryBelow root .root (directories ++ [last])).depth =
      ⟨directories.length⟩ := by
    simp [Disk.entryBelow, Depth.root]
  refine ⟨directories, last, rfl, hdepth, fun passed hpassed => ?_, fun tail => ?_, ?_⟩
  · rw [Path.components_below]
    refine Path.prefix_foldl_follow ?_
    refine (hpassed.sublist.count_le _).trans ?_
    rw [Depth.count_segments_ascent, hdepth, List.length_map]
  · rw [Path.components_below]
    exact Depth.resolve_ascent_append _ _ (by rw [hdepth, List.length_map]) tail
  · intro pattern text before tail after hbefore hcut
    exact pattern.rewrite_at_reference hcut hbefore (by simp)

open Dealias.Path (segments follow resolve) in
/-- The entry that a directory holds one directory below the root. -/
theorem reference_leads_from_linkedRoot :
    ∃ directories last, Path.ofText "d/a/x.js" = (Path.ofText "d").below (directories ++ [last]) ∧
      (⟨1⟩ : Depth) = ⟨directories.length⟩ ∧
      (∀ passed, passed <+: segments (Depth.ascent ⟨1⟩) → (Path.ofText "d").components <+:
        passed.foldl follow ((Path.ofText "d").below directories).components) ∧
      (∀ tail, resolve ((Path.ofText "d").below directories).components (Depth.ascent ⟨1⟩ ++ tail) =
        resolve (Path.ofText "d").components tail) ∧
      ∀ (pattern : Alias) (text : String) (before : List (List Char)) (tail : List Char)
        (after : List (List Char)), before ≠ [] →
        Cut pattern.literal.toList text.toList (before ++ tail :: after) →
        ∃ new n, pattern.rewrite text ⟨1⟩ = .rewritten new n ∧
          new.toList = (pattern.resolved ⟨1⟩).intercalate before ++
            (pattern.call.toList ++ (Depth.ascent ⟨1⟩ ++
              (pattern.resolved ⟨1⟩).intercalate (tail :: after))) := by
  have hwalk : (Disk.linkedDisk.walk [] (.ofText "d")).result = .ok Disk.linkedEntries := by cbv
  have hmem : ⟨.ofText "d/a/x.js", ⟨1⟩⟩ ∈ Disk.linkedEntries := List.mem_cons_self
  exact reference_leads_from_root hwalk hmem

end Dealias
