import Mathlib
import Dealias.Proofs.Identity

/-!
# What a dry run foretells

A dry run reads every candidate as it is in the beginning.  The run itself meets a file again that
two paths lead to, and by then its references are gone.  So the dry run counts such a file at each
of its paths, and the run at the first one only (`run_fixes_first_foretold`): both tell the same
exactly if no two of the changed paths lead to one file.
-/

namespace Dealias

/-! ## The first value for each key -/

section

variable {α κ : Type} [DecidableEq κ] {key : α → κ} {xs : List α}

/-- The first value for each key, in order. -/
def firstOf (key : α → κ) (xs : List α) : List α :=
  xs.eraseDupsBy fun x y => key x = key y

/-- A first value is kept, and the later ones with its key are left out. -/
theorem firstOf_cons (key : α → κ) (x : α) (xs : List α) :
    firstOf key (x :: xs) = x :: firstOf key (xs.filter fun y => key y ≠ key x) := by
  simp [firstOf, List.eraseDupsBy_cons]

/-- A last value stays if no value before it has its key. -/
theorem firstOf_concat (key : α → κ) (xs : List α) (x : α) :
    firstOf key (xs ++ [x]) =
      if key x ∈ xs.map key then firstOf key xs else firstOf key xs ++ [x] := by
  induction hn : xs.length using Nat.strongRecOn generalizing xs with
  | ind n ih =>
      cases xs with
      | nil => simp [firstOf, List.eraseDupsBy_cons]
      | cons y ys =>
          rw [List.cons_append, firstOf_cons, firstOf_cons, List.filter_append]
          by_cases hxy : key x = key y
          · simp [hxy]
          · have hshort : (ys.filter fun z => key z ≠ key y).length < n := by
              have := List.length_filter_le (fun z => key z ≠ key y) ys
              simp only [List.length_cons] at hn
              omega
            have hmem : key x ∈ (ys.filter fun z => key z ≠ key y).map key ↔ key x ∈ ys.map key := by
              simp only [List.mem_map, List.mem_filter]
              grind
            have hsingle : [x].filter (fun z => key z ≠ key y) = [x] := by simp [hxy]
            rw [hsingle, ih _ hshort _ rfl]
            simp only [hmem, List.map_cons, List.mem_cons, hxy, false_or]
            split <;> rfl

/-- The first values keep their order. -/
theorem firstOf_sublist (key : α → κ) (xs : List α) : (firstOf key xs).Sublist xs := by
  induction xs using List.reverseRecOn with
  | nil => exact .refl []
  | append_singleton xs x ih =>
      rw [firstOf_concat]
      split
      · exact ih.trans (List.sublist_append_left ..)
      · exact ih.append (.refl [x])

/-- All values stay exactly if their keys are different. -/
theorem firstOf_eq_self_iff : firstOf key xs = xs ↔ (xs.map key).Nodup := by
  induction xs using List.reverseRecOn with
  | nil => simp [firstOf]
  | append_singleton xs x ih =>
      have hnodup : ((xs ++ [x]).map key).Nodup ↔ key x ∉ xs.map key ∧ (xs.map key).Nodup := by
        rw [List.map_append, List.map_singleton, ← List.concat_eq_append, List.nodup_concat]
      rw [hnodup, firstOf_concat, ← ih]
      split
      · have hlength := (firstOf_sublist key xs).length_le
        have hne : firstOf key xs ≠ xs ++ [x] := by
          intro h
          simp only [h, List.length_append, List.length_singleton] at hlength
          omega
        simp [*]
      · simp [*]

end

/-! ## References on a disk -/

namespace Disk

variable {disk next : Disk} {here : Location} {mode : WriteMode} {pattern : Alias}
  {dryRun progress : Bool} {entry : Entry} {entries : List Entry} {outcome : Outcome}
  {done : Account} {events : List Event} {text : String} {p : Path}

/-- How many references the file that a path leads to holds. -/
def references (disk : Disk) (here : Location) (pattern : Alias) (p : Path) : Nat :=
  match disk.readText here p with
  | .ok text => (pattern.find text).length
  | .error _ => 0

/-- The paths whose files hold references. -/
def referring (disk : Disk) (here : Location) (pattern : Alias) (paths : List Path) : List Path :=
  paths.filter fun p => 0 < disk.references here pattern p

/-- A last path counts if its file holds a reference. -/
theorem referring_concat (disk : Disk) (here : Location) (pattern : Alias) (paths : List Path)
    (p : Path) :
    disk.referring here pattern (paths ++ [p]) =
      if disk.references here pattern p = 0 then disk.referring here pattern paths
      else disk.referring here pattern paths ++ [p] := by
  rw [referring, List.filter_append]
  split <;> simp [referring, Nat.pos_iff_ne_zero, *]

/-- The references of a file are those that are found in its text. -/
theorem references_of_readText (h : disk.readText here p = .ok text) :
    disk.references here pattern p = (pattern.find text).length := by
  rw [references, h]

/-- A file without references is one whose text does not mention the literal. -/
theorem references_eq_zero_iff (h : disk.readText here p = .ok text) :
    disk.references here pattern p = 0 ↔ ¬ pattern.Mentions text := by
  rw [references_of_readText h, List.length_eq_zero_iff, Alias.find_eq_nil_iff]

/-- **Handling a file counts the references that it holds at that moment**, in a dry run too, which
leaves the disk as it is. -/
theorem references_of_fixFile
    (hfix : fixFile (access here mode) pattern dryRun disk entry = ⟨events, .ok (next, outcome)⟩) :
    (∃ text, disk.readText here entry.path = .ok text) ∧
      outcome.occurrences = disk.references here pattern entry.path ∧
      (outcome.isModified = true ↔ 0 < outcome.occurrences) ∧ (dryRun = true → next = disk) := by
  have hstep := fixFile_handling (access here mode) pattern dryRun disk entry
  rw [hfix] at hstep
  have hrewritten : ∀ {text new : String} {n : Nat}, disk.readText here entry.path = .ok text →
      pattern.rewrite text entry.depth = .rewritten new n →
      0 < n ∧ n = disk.references here pattern entry.path := by
    intro text new n hread hrewrite
    refine ⟨(Alias.rewrite_eq_rewritten hrewrite).2.1, ?_⟩
    obtain ⟨-, rfl⟩ := Alias.eq_of_rewrite_eq_rewritten hrewrite
    exact (references_of_readText hread).symm
  cases hstep with
  | @clean text hok hrewrite =>
      have hread := readText_of_read hok
      have hnone := (references_eq_zero_iff hread).2 (Alias.rewrite_eq_unchanged_iff.1 hrewrite)
      exact ⟨⟨text, hread⟩, hnone.symm, by simp [Outcome.isModified, Outcome.occurrences],
        fun _ => rfl⟩
  | @foretold text new n hok hrewrite =>
      have hread := readText_of_read hok
      obtain ⟨hpos, hn⟩ := hrewritten hread hrewrite
      exact ⟨⟨text, hread⟩, hn, iff_of_true rfl hpos, fun _ => rfl⟩
  | @written text new n _ hok hrewrite hdry =>
      have hread := readText_of_read hok
      obtain ⟨hpos, hn⟩ := hrewritten hread hrewrite
      exact ⟨⟨text, hread⟩, hn, iff_of_true rfl hpos, fun h => by simp [hdry] at h⟩

end Disk

/-! ## Accounts -/

section

variable {path : Path} {outcome : Outcome}

/-- A last file is told as changed if references of it were counted. -/
theorem Account.changed_concat (done : Account) (path : Path)
    (hmodified : outcome.isModified = true ↔ 0 < outcome.occurrences) :
    changed (done ++ [(path, outcome)]) =
      if outcome.occurrences = 0 then done.changed else done.changed ++ [path] := by
  rw [changed_append]
  cases hmod : outcome.isModified
  · have hnone : outcome.occurrences = 0 := by simpa [hmod] using hmodified
    simp [changed, hmod, hnone]
  · have hsome : outcome.occurrences ≠ 0 := by
      have := hmodified.1 hmod
      omega
    simp [changed, hmod, hsome]

/-- The references of a last file are added to the others. -/
theorem Account.occurrences_concat (done : Account) (path : Path) (outcome : Outcome) :
    occurrences (done ++ [(path, outcome)]) = done.occurrences + outcome.occurrences := by
  simp [occurrences]

end

namespace Stretch

open Disk

variable {disk final : Disk} {here : Location} {mode : WriteMode} {pattern : Alias}
  {dryRun progress : Bool} {entry : Entry} {entries : List Entry} {done : Account}
  {events : List Event} {p : Path} {text : String}

/-- **A dry run finds every file as it is in the beginning.** -/
theorem foretold
    (h : Stretch (access here mode) pattern true progress disk entries final done events) :
    final = disk ∧ done.changed = disk.referring here pattern (entries.map Entry.path) ∧
      done.occurrences = (done.changed.map (disk.references here pattern)).sum ∧
      ∀ entry ∈ entries, ∃ text, disk.readText here entry.path = .ok text := by
  induction entries using List.reverseRecOn generalizing final done events with
  | nil =>
      cases h
      simp [referring, Account.changed, Account.occurrences]
  | append_singleton front entry ih =>
      obtain ⟨middle, before, after, past, rest, rfl, hfront, hlast⟩ := h.split
      obtain ⟨rfl, hchanged, hcount, hreads⟩ := ih hfront
      cases hlast with
      | @cons _ _ _ _ _ outcome _ _ _ hfix tail =>
          cases tail
          obtain ⟨hread, hoccurrences, hmodified, hsame⟩ := references_of_fixFile hfix
          obtain rfl := hsame rfl
          rw [Account.changed_concat _ _ hmodified, Account.occurrences_concat, hoccurrences,
            List.map_append, List.map_singleton, referring_concat, ← hchanged, hcount]
          refine ⟨rfl, rfl, ?_, ?_⟩
          · split <;> simp [*]
          · simpa [or_imp, forall_and] using ⟨hreads, hread⟩

/-- **A file that was met before holds no reference any more**, and any other holds those that it
held in the beginning. -/
theorem references_eq (htree : IsTree disk) (hplain : pattern.Plain)
    (h : Stretch (access here mode) pattern false progress disk entries final done events)
    (hreads : ∀ entry ∈ entries, ∃ text, disk.readText here entry.path = .ok text)
    (hread : disk.readText here p = .ok text) :
    final.references here pattern p =
      if disk.identityAt? mode here p ∈
          (disk.referring here pattern (entries.map Entry.path)).map (disk.identityAt? mode here)
      then 0 else disk.references here pattern p := by
  obtain ⟨l, permissions, written, hp, hlook⟩ := readText_eq_ok_iff.1 hread
  obtain ⟨k, hl, hk⟩ := exists_identity_of_fileAt? mode hp
  have hp' : final.fileAt? here p = some l :=
    (fileAt?_of_sameShape (h.keeps htree).sameShape p).trans hp
  split
  · rename_i hmet
    obtain ⟨q, hq, hsame⟩ := List.mem_map.1 hmet
    obtain ⟨entry, hentry, rfl⟩ := List.mem_map.1 (List.mem_filter.1 hq).1
    obtain ⟨left, _, _, hleft, habsent⟩ :=
      h.exists_text htree hplain hentry (hsame.trans hk) hl
    have hfinal : final.readText here p = .ok left := readText_eq_ok_iff.2 ⟨l, _, _, hp', hleft⟩
    exact (references_eq_zero_iff hfinal).2 habsent
  · rename_i hunmet
    have hsame : final.look l = disk.look l := by
      refine h.look_eq htree fun entry hentry hkey => ?_
      obtain ⟨kept, hkept⟩ := hreads entry hentry
      have hnone : disk.references here pattern entry.path = 0 := by
        by_contra hsome
        have hreferring : entry.path ∈ disk.referring here pattern (entries.map Entry.path) :=
          List.mem_filter.2 ⟨List.mem_map_of_mem hentry, by simpa [Nat.pos_iff_ne_zero] using hsome⟩
        have hkeys := List.mem_map_of_mem (f := disk.identityAt? mode here) hreferring
        rw [hkey, hl, ← hk] at hkeys
        exact hunmet hkeys
      obtain ⟨_, _, hlook'⟩ := exists_look_of_readText (hkey.trans hl) hkept hl
      exact ⟨kept, _, _, hlook', (references_eq_zero_iff hkept).1 hnone⟩
    have hfinal : final.readText here p = .ok text :=
      readText_eq_ok_iff.2 ⟨l, permissions, written, hp', hsame.trans hlook⟩
    rw [references_of_readText hfinal, references_of_readText hread]

/-- **A stretch changes every file once**, at the first path that leads to it. -/
theorem changed_eq (htree : IsTree disk) (hplain : pattern.Plain)
    (h : Stretch (access here mode) pattern false progress disk entries final done events)
    (hreads : ∀ entry ∈ entries, ∃ text, disk.readText here entry.path = .ok text) :
    done.changed = firstOf (disk.identityAt? mode here)
        (disk.referring here pattern (entries.map Entry.path)) ∧
      done.occurrences = (done.changed.map (disk.references here pattern)).sum := by
  induction entries using List.reverseRecOn generalizing final done events with
  | nil =>
      cases h
      simp [referring, firstOf, Account.changed, Account.occurrences]
  | append_singleton front entry ih =>
      obtain ⟨middle, before, after, past, rest, rfl, hfront, hlast⟩ := h.split
      have hreadsFront : ∀ other ∈ front, ∃ text, disk.readText here other.path = .ok text :=
        fun other hother => hreads other (List.mem_append_left _ hother)
      obtain ⟨text, hread⟩ := hreads entry (by simp)
      obtain ⟨hchanged, hcount⟩ := ih hfront hreadsFront
      have hleft := hfront.references_eq htree hplain hreadsFront hread
      cases hlast with
      | @cons _ _ _ _ _ outcome _ _ _ hfix tail =>
          obtain ⟨-, hoccurrences, hmodified, -⟩ := references_of_fixFile hfix
          cases tail
          rw [← hoccurrences] at hleft
          rw [Account.changed_concat _ _ hmodified, Account.occurrences_concat, hcount,
            List.map_append, List.map_singleton, referring_concat]
          by_cases hnone : disk.references here pattern entry.path = 0
          · have hstill : outcome.occurrences = 0 := by simpa [hnone] using hleft
            simp [hnone, hstill, hchanged]
          · rw [if_neg hnone, firstOf_concat, hchanged]
            split at hleft
            · rename_i hmet
              simp [hleft, hmet]
            · rename_i hnew
              simp [hleft, hnone, hnew]

end Stretch

/-! ## Runs -/

open Disk (Location IsTree)

/-- **A run fixes what a dry run foretells, at the first path to each file.**  A dry run leaves the
disk as it is and tells the paths of the candidates that hold references, with all that they hold.
The run itself changes, of these paths, the first one that leads to each file, and counts the
references of those.  So the two tell the same exactly if the paths lead to different files. -/
theorem run_fixes_first_foretold (here : Location) (config : Config) (disk : Disk)
    (foretold done : Summary) (htree : IsTree disk) (hplain : config.pattern.Plain)
    (hdry : (Program.runConfig here { config with dryRun := true } disk).result = .ok foretold)
    (hreal : (Program.runConfig here { config with dryRun := false } disk).result = .ok done) :
    let key := disk.identityAt? config.mode here
    let count := disk.references here config.pattern
    ∃ entries, (disk.walk here config.root).result = .ok entries ∧
      let paths := (config.suffix.candidates entries).map Entry.path
      (Program.runConfig here { config with dryRun := true } disk).disk = disk ∧
        foretold.scanned = paths.length ∧ done.scanned = paths.length ∧
        foretold.changed = disk.referring here config.pattern paths ∧
        done.changed = firstOf key foretold.changed ∧
        foretold.occurrences = (foretold.changed.map count).sum ∧
        done.occurrences = (done.changed.map count).sum ∧
        (done.changed = foretold.changed ↔ (foretold.changed.map key).Nodup) := by
  intro key count
  obtain ⟨entries, told, _, hwalk, hstretch, rfl⟩ := Program.exists_stretch_of_ok hdry
  obtain ⟨entries', fixed, _, hwalk', hstretch', rfl⟩ := Program.exists_stretch_of_ok hreal
  obtain rfl : entries = entries' := Except.ok.inj (hwalk.symm.trans hwalk')
  obtain ⟨hkept, htold, htoldCount, hreads⟩ := hstretch.foretold
  obtain ⟨hfixed, hfixedCount⟩ := hstretch'.changed_eq htree hplain hreads
  rw [← htold] at hfixed
  simp only [Summary.after_eq, Summary.empty, List.nil_append, Nat.zero_add, List.length_map]
  refine ⟨entries, hwalk, hkept, hstretch.length_eq, hstretch'.length_eq, htold, hfixed, htoldCount,
    hfixedCount, ?_⟩
  rw [hfixed, firstOf_eq_self_iff]

/-- A file with a reference and a link to it, side by side. -/
def twiceReachedDisk : Disk where
  nodes :=
    ⟨[(.ofPath (.ofText "/dist"), .directory),
      (.ofPath (.ofText "/dist/a.js"), .file 0),
      (.ofPath (.ofText "/dist/b.js"), .link (.ofText "a.js"))],
      by decide⟩
  files := .set .empty 0 ⟨Text.bytes "require(\"~/x\")", 0o644, false⟩

/-- A dry run over `twiceReachedDisk` counts the file at both paths, and the run at the first one
only. -/
theorem twice_foretold_fixed_once :
    IsTree twiceReachedDisk ∧
      (Program.runConfig [] { Config.standard (.ofText "dist") with dryRun := true }
        twiceReachedDisk).result =
          .ok ⟨2, [.ofText "dist/a.js", .ofText "dist/b.js"], 2, true⟩ ∧
      (Program.runConfig [] { Config.standard (.ofText "dist") with dryRun := false }
        twiceReachedDisk).result = .ok ⟨2, [.ofText "dist/a.js"], 1, false⟩ :=
  ⟨Disk.isTree_of_rows (by decide), by cbv, by cbv⟩

theorem run_fixes_first_foretold_twiceReached :
    let config := Config.standard (.ofText "dist")
    let key := twiceReachedDisk.identityAt? config.mode []
    let count := twiceReachedDisk.references [] config.pattern
    let foretold := [Path.ofText "dist/a.js", .ofText "dist/b.js"]
    let changed := [Path.ofText "dist/a.js"]
    ∃ entries, (twiceReachedDisk.walk [] config.root).result = .ok entries ∧
      let paths := (config.suffix.candidates entries).map Entry.path
      (Program.runConfig [] { config with dryRun := true } twiceReachedDisk).disk =
          twiceReachedDisk ∧
        2 = paths.length ∧ 2 = paths.length ∧
        foretold = twiceReachedDisk.referring [] config.pattern paths ∧
        changed = firstOf key foretold ∧ 2 = (foretold.map count).sum ∧
        1 = (changed.map count).sum ∧ (changed = foretold ↔ (foretold.map key).Nodup) :=
  run_fixes_first_foretold [] (.standard (.ofText "dist")) twiceReachedDisk
    ⟨2, [.ofText "dist/a.js", .ofText "dist/b.js"], 2, true⟩ ⟨2, [.ofText "dist/a.js"], 1, false⟩
    (Disk.isTree_of_rows (by decide)) Alias.plain_standard (by cbv) (by cbv)

end Dealias
