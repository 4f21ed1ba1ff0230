import Mathlib
import Dealias.Proofs.Accessible
import Dealias.Proofs.AllOrNothing
import Dealias.Proofs.Identity

/-!
# The first visit decides

A file that lies below the root of a run is a leaf at its own path, with the number of directories
above it as its depth (`leaf_of_file`).  Other paths may lead to the same file, along links and at
other depths.  A run meets the file at each of them in the order of its walk; the first one to meet
it rewrites its references for the depth of that path, and the later ones find none left
(`first_visit_decides`).
-/

namespace Dealias

open Disk (Name Location IsTree Accessible Leaf entryBelow linkFirstDisk linkedNames)
open Search (Cut)

variable {disk : Disk} {here r l : Location} {p : Path} {names : List Name} {id : Nat}
  {mode : WriteMode} {entries : List Entry} {entry : Entry}

/-! ## Files below the root -/

/-- **A file below an accessible path is a leaf**, and its path leads to its place. -/
theorem Disk.leaf_of_file (htree : IsTree disk) (haccess : disk.Accessible here p)
    (hp : disk.visit here p = .ok (r, .directory)) (hne : names ≠ [])
    (hfile : disk.node? (r ++ names) = some (.file id)) :
    Leaf disk here p names ∧ disk.visit here (p.below names) = .ok (r ++ names, .file id) := by
  induction names generalizing p r with
  | nil => exact absurd rfl hne
  | cons name rest ih =>
      have hlist : r ++ name :: rest = r ++ [name] ++ rest := by simp
      rw [hlist] at hfile ⊢
      have hname : ∀ node, disk.node? (r ++ [name]) = some node → node.isLink = false →
          disk.visit here (p.child name.bytes) = .ok (r ++ [name], node) ∧
            (node = .directory → disk.Accessible here (p.child name.bytes)) := by
        intro node hnode hlink
        obtain ⟨m, hm, hnames⟩ := Disk.accessible_iff.1 haccess
        obtain ⟨rfl, -⟩ : m = r ∧ True := by simpa [hp] using hm.symm
        obtain ⟨found, hfound, hbelow⟩ :=
          hnames name (Disk.mem_children.2 (Option.isSome_of_eq_some hnode))
        have hvisit := Disk.visit_child hp hnode hlink (Disk.length_lt_of_visit hfound)
        rw [hvisit] at hfound
        cases hfound
        exact ⟨hvisit, hbelow⟩
      by_cases hrest : rest = []
      · subst hrest
        rw [List.append_nil] at hfile ⊢
        obtain ⟨hvisit, -⟩ := hname _ hfile rfl
        exact ⟨.last hvisit (by simp), hvisit⟩
      · have hdirectory := htree.directory_of_isSome hrest (Option.isSome_of_eq_some hfile)
        obtain ⟨hvisit, hbelow⟩ := hname _ hdirectory rfl
        obtain ⟨hleaf, hlast⟩ := ih (hbelow rfl) hvisit hrest hfile
        exact ⟨.inside hvisit hleaf, hlast⟩

/-! ## Visits -/

/-- The path of the entry leads to the file at the location. -/
def Visits (mode : WriteMode) (disk : Disk) (here l : Location) (entry : Entry) : Prop :=
  ∃ k, disk.identity? mode l = some k ∧ disk.identityAt? mode here entry.path = some k

/-- Of some entries, the first that leads to the file at the location. -/
def FirstVisit (mode : WriteMode) (disk : Disk) (here l : Location) (entries : List Entry)
    (first : Entry) : Prop :=
  ∃ before after, entries = before ++ first :: after ∧ Visits mode disk here l first ∧
    ∀ entry ∈ before, ¬ Visits mode disk here l entry

/-- If an entry leads to a file, there is a first one that does. -/
theorem exists_firstVisit (hmem : entry ∈ entries) (h : Visits mode disk here l entry) :
    ∃ first, FirstVisit mode disk here l entries first := by
  induction entries with
  | nil => cases hmem
  | cons head rest ih =>
      by_cases hhead : Visits mode disk here l head
      · exact ⟨head, [], rest, rfl, hhead, by simp⟩
      · have hrest : entry ∈ rest := by
          rcases List.mem_cons.1 hmem with rfl | hrest
          · exact absurd h hhead
          · exact hrest
        obtain ⟨first, before, after, rfl, hfirst, hbefore⟩ := ih hrest
        exact ⟨first, head :: before, after, rfl, hfirst, by simpa using ⟨hhead, hbefore⟩⟩

/-- **Along a stretch the first visit decides.**  Up to it the file stays as it is, and behind it
there is no reference left to rewrite. -/
theorem Stretch.look_of_firstVisit {final : Disk} {pattern : Alias} {progress : Bool}
    {first : Entry} {done : Account} {events : List Event} {text : String} {permissions : Nat}
    {written : Bool} (htree : IsTree disk) (hplain : pattern.Plain)
    (h : Stretch (Disk.access here mode) pattern false progress disk entries final done events)
    (hfirst : FirstVisit mode disk here l entries first)
    (hlook : disk.look l = some (.file (Text.bytes text) permissions written))
    (hmentions : pattern.Mentions text) :
    ∃ gaps, Cut pattern.literal.toList text.toList gaps ∧
      final.look l =
        some (.file (Text.bytes (String.ofList ((pattern.resolved first.depth).intercalate gaps)))
          permissions true) := by
  obtain ⟨before, after, rfl, ⟨k, hk, hat⟩, hbefore⟩ := hfirst
  obtain ⟨middle, _, _, _, _, -, hfront, hrest⟩ := h.split
  have hkeeps := hfront.keeps htree
  have hmiddle : middle.look l = disk.look l :=
    hfront.look_eq htree fun entry hentry hsame =>
      absurd ⟨k, hk, hsame.trans hk⟩ (hbefore entry hentry)
  have hkMiddle : middle.identity? mode l = some k := (hkeeps.identity l).trans hk
  rw [hlook] at hmiddle
  cases hrest with
  | cons hfix tail =>
      obtain ⟨other, read, hother, hread, hhandled⟩ :=
        Disk.handled_of_fixFile (hkeeps.isTree htree) hfix
      obtain rfl : other = k :=
        Option.some.inj (hother.symm.trans ((hkeeps.identityAt? _).trans hat))
      obtain ⟨_, _, hlook'⟩ := Disk.exists_look_of_readText hother hread hkMiddle
      obtain rfl : read = text := Text.bytes_injective (by simp_all)
      have htail := tail.look_eq (hhandled.keeps.isTree (hkeeps.isTree htree)) (m := l)
      cases hhandled with
      | clean hrewrite => exact absurd hmentions (Alias.rewrite_eq_unchanged_iff.1 hrewrite)
      | written hrewrite hwrote =>
          have hnew := hwrote.there l _ _ _ hkMiddle hmiddle
          have hfinal := htail fun _ _ _ => ⟨_, _, _, hnew, hplain.not_mentions hrewrite⟩
          obtain ⟨-, -, gaps, hcut, -, rfl⟩ := Alias.rewrite_eq_rewritten hrewrite
          exact ⟨gaps, hcut, hfinal.trans hnew⟩

/-! ## Runs -/

/-- **The first visit decides how a file is rewritten.**  When a run with a plain pattern succeeds,
a file that lies below its root, with a reference in it and a path that ends in the suffix, is one
of the candidates at its own path.  Each of its references has become the way to the root from the
depth of the first candidate that leads to the file, and its permissions are kept. -/
theorem first_visit_decides (here top : Location) (config : Config) (disk : Disk)
    (summary : Summary) (names : List Name) (text : String) (permissions : Nat) (written : Bool)
    (htree : IsTree disk) (hplain : config.pattern.Plain) (hdry : config.dryRun = false)
    (hresult : (Program.runConfig here config disk).result = .ok summary)
    (hroot : disk.visit here config.root = .ok (top, .directory)) (hne : names ≠ [])
    (hlook : disk.look (top ++ names) = some (.file (Text.bytes text) permissions written))
    (haccepts : config.suffix.accepts (config.root.below names) = true)
    (hmentions : config.pattern.Mentions text) :
    ∃ entries first gaps, (disk.walk here config.root).result = .ok entries ∧
      entryBelow config.root .root names ∈ config.suffix.candidates entries ∧
      Visits config.mode disk here (top ++ names) (entryBelow config.root .root names) ∧
      FirstVisit config.mode disk here (top ++ names) (config.suffix.candidates entries) first ∧
      Cut config.pattern.literal.toList text.toList gaps ∧
      (Program.runConfig here config disk).disk.look (top ++ names) =
        some (.file
          (Text.bytes (String.ofList ((config.pattern.resolved first.depth).intercalate gaps)))
          permissions true) := by
  obtain ⟨entries, done, events, hwalk, hstretch, -⟩ := Program.exists_stretch_of_ok hresult
  rw [hdry] at hstretch
  obtain ⟨id, hfile, -⟩ := Disk.look_eq_file_iff.1 hlook
  obtain ⟨hleaf, hvisit⟩ :=
    Disk.leaf_of_file htree (Disk.exists_walk_iff.1 ⟨entries, hwalk⟩) hroot hne hfile
  have hcandidate : entryBelow config.root .root names ∈ config.suffix.candidates entries := by
    obtain ⟨rows, hentries, -, hmem⟩ := Disk.walk_finds hwalk
    refine List.mem_filter.2 ⟨?_, haccepts⟩
    rw [hentries]
    exact List.mem_map_of_mem ((hmem names).2 hleaf)
  have hown : Visits config.mode disk here (top ++ names) (entryBelow config.root .root names) :=
    Disk.exists_identity_of_fileAt? config.mode (Disk.fileAt?_eq_some_iff.2 ⟨id, hvisit⟩)
  obtain ⟨first, hfirst⟩ := exists_firstVisit hcandidate hown
  obtain ⟨gaps, hcut, hfinal⟩ := hstretch.look_of_firstVisit htree hplain hfirst hlook hmentions
  exact ⟨entries, first, gaps, hwalk, hcandidate, hown, hfirst, hcut, hfinal⟩

/-- One directory lies between the root and the file, but its reference is rewritten for the link,
which lies in the root itself. -/
theorem shallow_link_decides :
    let root := Path.ofText "dist"
    let top : Location := [⟨Text.bytes "dist", by decide⟩]
    let session := Program.runConfig [] (.standard root) linkFirstDisk
    IsTree linkFirstDisk ∧ linkFirstDisk.visit [] root = .ok (top, .directory) ∧
      linkFirstDisk.look (top ++ linkedNames) =
        some (.file (Text.bytes "require(\"~/x\")") 0o644 false) ∧
      Suffix.standard.accepts (root.below linkedNames) = true ∧
      session.result = .ok ⟨2, [.ofText "dist/a.js"], 1, false⟩ ∧
      session.disk.look (top ++ linkedNames) =
        some (.file (Text.bytes "require(\"./x\")") 0o644 true) ∧
      Alias.standard.rewrite "require(\"~/x\")" (entryBelow root .root linkedNames).depth =
        .rewritten "require(\"../x\")" 1 :=
  ⟨Disk.isTree_of_rows (by decide), by cbv, by cbv, by cbv, by cbv, by cbv, by cbv⟩

theorem first_visit_decides_linkFirst :
    let config := Config.standard (.ofText "dist")
    let top : Location := [⟨Text.bytes "dist", by decide⟩]
    ∃ entries first gaps, (linkFirstDisk.walk [] config.root).result = .ok entries ∧
      entryBelow config.root .root linkedNames ∈ config.suffix.candidates entries ∧
      Visits config.mode linkFirstDisk [] (top ++ linkedNames)
        (entryBelow config.root .root linkedNames) ∧
      FirstVisit config.mode linkFirstDisk [] (top ++ linkedNames)
        (config.suffix.candidates entries) first ∧
      Cut config.pattern.literal.toList "require(\"~/x\")".toList gaps ∧
      (Program.runConfig [] config linkFirstDisk).disk.look (top ++ linkedNames) =
        some (.file
          (Text.bytes (String.ofList ((config.pattern.resolved first.depth).intercalate gaps)))
          0o644 true) :=
  first_visit_decides [] _ (.standard (.ofText "dist")) linkFirstDisk
    ⟨2, [.ofText "dist/a.js"], 1, false⟩ linkedNames "require(\"~/x\")" 0o644 false
    (Disk.isTree_of_rows (by decide)) Alias.plain_standard rfl (by cbv) (by cbv) (by decide)
    (by cbv) (by cbv) (by decide)

end Dealias
