import Mathlib
import Dealias.Proofs.Identity
import Dealias.Proofs.Lockstep
import Dealias.Proofs.Room

/-!
# Either mode leaves the same

In place a file is overwritten through all links; otherwise a new file takes its place.  On a disk on
which every file has one place only (`SingleLinked`), nothing of this can be seen.  So a run in one
mode and a run in the other are in lockstep, with two disks that look alike (`Twins`): they read the
same texts, also where two paths lead to one file, they stop at the same fault, and in the end there
is no difference in names, links, texts and permissions (`modes_leave_same`).
-/

namespace Dealias.Disk

/-- Every file of a tree is at one place only. -/
structure SingleLinked (disk : Disk) : Prop extends IsTree disk where
  one_place : ∀ l m id, disk.node? l = some (.file id) → disk.node? m = some (.file id) → l = m

/-- A file has a row, unlike the top. -/
theorem row_of_file {disk : Disk} {l : Location} {id : Nat} (hl : disk.node? l = some (.file id)) :
    (disk.nodes.get? l).isSome := by
  have hne : l ≠ [] := by
    rintro rfl
    cases hl
  rw [node?, if_neg hne] at hl
  exact Option.isSome_of_eq_some hl

/-- **The rows of a disk decide whether it is single-linked.** -/
theorem singleLinked_of_rows {disk : Disk} (htree : ∀ l ∈ disk.nodes.keys, IsTreeAt disk l)
    (hplaces : ∀ l ∈ disk.nodes.keys, ∀ m ∈ disk.nodes.keys,
      ∀ id ∈ (disk.node? l).bind Node.file?, (disk.node? m).bind Node.file? = some id → l = m) :
    SingleLinked disk := by
  refine ⟨isTree_of_rows htree, ?_⟩
  intro l m id hl hm
  have hrow : l ∈ disk.nodes.keys := Table.mem_keys.2 (row_of_file hl)
  have hrow' : m ∈ disk.nodes.keys := Table.mem_keys.2 (row_of_file hm)
  exact hplaces l hrow m hrow' id (by simp [hl, Node.file?]) (by simp [hm, Node.file?])

/-- The same is seen at every location. -/
def LooksLike (disk next : Disk) : Prop :=
  ∀ l, next.look l = disk.look l

variable {mode : WriteMode} {disk next : Disk} {here l m : Location} {p : Path} {id : Nat}
  {text : String} {k : Identity} {content old : List UInt8} {permissions : Nat} {written : Bool}

/-! ## Disks that look alike -/

/-- What is seen at a location tells what kind of node is there. -/
theorem LooksLike.sameShape (h : LooksLike disk next) : SameShape disk next := by
  intro l
  have hlook := h l
  unfold look at hlook
  cases hdisk : disk.node? l with
  | none => simpa [hdisk] using hlook
  | some node =>
      cases hnext : next.node? l with
      | none => simp [hdisk, hnext] at hlook
      | some other => cases node <;> cases other <;> simp_all [Node.shape]

/-- A path leads nowhere on both disks, for one reason, or to a file on both, or to the same node that
is no file. -/
theorem SameShape.visit_cases (h : SameShape disk next) (here : Location) (p : Path) :
    (∃ fault, disk.visit here p = .error fault ∧ next.visit here p = .error fault) ∨
      (∃ l id other, disk.visit here p = .ok (l, .file id) ∧
        next.visit here p = .ok (l, .file other)) ∨
      ∃ l node, node.file? = none ∧ disk.visit here p = .ok (l, node) ∧
        next.visit here p = .ok (l, node) := by
  have hresolve := resolve_of_sameShape h here .visit p
  unfold visit
  revert hresolve
  rcases next.resolve here .visit p with e | (⟨m, _ | _ | _⟩ | _ | _) <;>
    rcases disk.resolve here .visit p with e' | (⟨m', _ | _ | _⟩ | _ | _) <;>
    simp +contextual [Except.map, Place.shape, Node.shape, Node.file?]

/-- **What can be read is the same on disks that look alike**, and so is the fault where nothing
can. -/
theorem LooksLike.readText_eq (h : LooksLike disk next) (here : Location) (p : Path) :
    next.readText here p = disk.readText here p := by
  unfold readText
  rcases h.sameShape.visit_cases here p with ⟨fault, hdisk, hnext⟩ | ⟨l, id, other, hdisk, hnext⟩ |
      ⟨l, node, hnode, hdisk, hnext⟩
  · rw [hdisk, hnext]
  · have hlook := h l
    rw [look, look, node?_of_visit hdisk, node?_of_visit hnext] at hlook
    simp only [Option.map_some, Option.some.injEq, Look.file.injEq] at hlook
    simp only [hdisk, hnext, hlook.1]
  · rw [hdisk, hnext]
    cases node with
    | file id => cases hnode
    | directory => rfl
    | link target => rfl

/-! ## Putting a text back -/

/-- Where every file has one place, it is this place that a text is put back at, in either mode.  In
place a text would also appear wherever else the file is. -/
theorem Wrote.look_eq (hwrote : Wrote mode disk k content next) (hsingle : SingleLinked disk)
    (hl : disk.identity? mode l = some k)
    (hlook : disk.look l = some (.file old permissions written)) (m : Location) :
    next.look m = if l = m then some (.file content permissions true) else disk.look m := by
  split
  · rename_i hsame
    subst hsame
    exact hwrote.there l old permissions written hl hlook
  · rename_i hother
    apply hwrote.elsewhere
    intro hm
    obtain ⟨id, hnode, rfl⟩ := identity?_eq_some_iff.1 hl
    obtain ⟨id', hnode', hsame⟩ := identity?_eq_some_iff.1 hm
    cases mode with
    | inPlace =>
        obtain rfl := Identity.number.inj hsame
        exact hother (hsingle.one_place l m id' hnode hnode')
    | atomic => exact hother (Identity.place.inj hsame).symm

/-- **In place, a file that a path leads to is overwritten without a fault.** -/
theorem SingleLinked.exists_inPlace (hsingle : SingleLinked disk)
    (h : disk.visit here p = .ok (l, .file id)) (text : String) :
    ∃ next, writeText .inPlace disk here p text = .ok next ∧ SingleLinked next := by
  have hopen := resolve_create_of_visit h
  have hwrite : writeText .inPlace disk here p text = .ok (disk.writeFile id (Text.bytes text)) := by
    simp only [writeText, overwrite, hopen]
  have htree := (grown_setFile hsingle.toIsTree id
    { disk.file id with content := Text.bytes text, written := true }).isTree
  exact ⟨_, hwrite, htree, hsingle.one_place⟩

/-- A new file has one place, as its number is not in use elsewhere. -/
theorem Replaced.singleLinked {f : File} (h : Replaced disk l f next) (hsingle : SingleLinked disk)
    (hl : disk.node? l = some (.file id)) : SingleLinked next := by
  refine ⟨h.isTree hsingle.toIsTree hl, ?_⟩
  intro a b other ha hb
  have hfresh : ∀ m, disk.node? m ≠ some (.file disk.freshId) :=
    fun m hm => hsingle.ne_freshId hm rfl
  rw [h.node?] at ha hb
  split at ha <;> split at hb
  · rename_i hla hlb
    exact hla.symm.trans hlb
  · rw [← Option.some.inj ha] at hb
    exact absurd hb (hfresh b)
  · rw [← Option.some.inj hb] at ha
    exact absurd ha (hfresh a)
  · exact hsingle.one_place a b other ha hb

/-- **With room for it, a new file takes its place without a fault.** -/
theorem SingleLinked.exists_atomic (hsingle : SingleLinked disk) (hroom : HasRoom disk here p)
    (h : disk.visit here p = .ok (l, .file id)) (text : String) :
    ∃ next, writeText .atomic disk here p text = .ok next ∧ SingleLinked next ∧
      SameShape disk next ∧ next.nodes.rows.length = disk.nodes.rows.length := by
  obtain ⟨next, hreplace, hreplaced, hnodes⟩ := exists_replace hroom h (Text.bytes text)
  have hl := node?_of_visit h
  have hwrite : writeText .atomic disk here p text = .ok next := by
    simp only [writeText, hreplace]
  refine ⟨next, hwrite, hreplaced.singleLinked hsingle hl, hreplaced.sameShape hl, ?_⟩
  rw [hnodes, Table.length_rows_set _ (row_of_file hl)]

/-! ## Step by step -/

/-- A disk that was written in place and one that was written by new files, from one beginning, with
room for what is left to be done. -/
structure Twins (here : Location) (start : Disk) (rest : List Entry) (inPlace atomic : Disk) :
    Prop where
  inPlace_single : SingleLinked inPlace
  atomic_single : SingleLinked atomic
  looksLike : LooksLike inPlace atomic
  sameShape : SameShape start atomic
  room : ∀ entry ∈ rest, HasRoom atomic here entry.path

variable {start inPlace atomic : Disk} {rest : List Entry} {entry : Entry} {pattern : Alias}
  {dryRun : Bool}

theorem Twins.tail (h : Twins here start (entry :: rest) inPlace atomic) :
    Twins here start rest inPlace atomic := by
  refine ⟨h.inPlace_single, h.atomic_single, h.looksLike, h.sameShape, ?_⟩
  intro later hlater
  exact h.room later (List.mem_cons_of_mem entry hlater)

/-- **A text that was read is put back in both modes**, and the disks look alike again.  The path
leads to one place on both, though the files there may have different numbers. -/
theorem Twins.exists_write (h : Twins here start (entry :: rest) inPlace atomic)
    (hread : inPlace.readText here entry.path = .ok text) (new : String) :
    ∃ inPlace' atomic', writeText .inPlace inPlace here entry.path new = .ok inPlace' ∧
      writeText .atomic atomic here entry.path new = .ok atomic' ∧
      Twins here start rest inPlace' atomic' := by
  obtain ⟨l, permissions, written, hfile, hlook⟩ := readText_eq_ok_iff.1 hread
  have hfile' : atomic.fileAt? here entry.path = some l :=
    (fileAt?_of_sameShape h.looksLike.sameShape entry.path).trans hfile
  have hlook' : atomic.look l = some (.file (Text.bytes text) permissions written) :=
    (h.looksLike l).trans hlook
  obtain ⟨id, hvisit⟩ := fileAt?_eq_some_iff.1 hfile
  obtain ⟨id', hvisit'⟩ := fileAt?_eq_some_iff.1 hfile'
  obtain ⟨next, hwrite, hsingle⟩ := h.inPlace_single.exists_inPlace hvisit new
  obtain ⟨next', hwrite', hsingle', hshape', hrows'⟩ :=
    h.atomic_single.exists_atomic (h.room entry List.mem_cons_self) hvisit' new
  obtain ⟨k, hl, hk⟩ := exists_identity_of_fileAt? .inPlace hfile
  obtain ⟨k', hl', hk'⟩ := exists_identity_of_fileAt? .atomic hfile'
  have hwrote := wrote_of_writeText h.inPlace_single.toIsTree hk hwrite
  have hwrote' := wrote_of_writeText h.atomic_single.toIsTree hk' hwrite'
  refine ⟨next, next', hwrite, hwrite', hsingle, hsingle', ?_, h.sameShape.trans hshape', ?_⟩
  · intro m
    rw [hwrote.look_eq h.inPlace_single hl hlook m, hwrote'.look_eq h.atomic_single hl' hlook' m,
      h.looksLike m]
  · intro later hlater
    exact (h.tail.room later hlater).congr hshape' hrows'

/-- **Handling a file comes to the same in either mode.** -/
theorem Twins.alike (h : Twins here start (entry :: rest) inPlace atomic) :
    Alike (Twins here start rest)
      (fixFile (access here .inPlace) pattern dryRun inPlace entry)
      (fixFile (access here .atomic) pattern dryRun atomic entry) := by
  have hread : (access here .atomic).read atomic entry.path =
      (access here .inPlace).read inPlace entry.path := by
    simp only [access, h.looksLike.readText_eq here entry.path]
  have hstep := fixFile_handling (access here .inPlace) pattern dryRun inPlace entry
  generalize fixFile (access here .inPlace) pattern dryRun inPlace entry = fix at hstep
  cases hstep with
  | @unread e hfailed =>
      have hother := (Handling.unread (hread.trans hfailed) : Handling _ pattern dryRun atomic entry _)
      rw [hother.fixFile_eq]
      exact .failed e
  | clean hok hrewrite =>
      have hother := (Handling.clean (hread.trans hok) hrewrite :
        Handling _ pattern dryRun atomic entry _)
      rw [hother.fixFile_eq]
      exact .done .unchanged h.tail
  | @foretold text new n hok hrewrite hdry =>
      have hother := Handling.foretold (hread.trans hok) hrewrite hdry
      rw [hother.fixFile_eq]
      exact .done (.rewritten n) h.tail
  | @unwritten text new n e hok _ _ hfailed =>
      obtain ⟨next, -, hwrite, -⟩ := h.exists_write (readText_of_read hok) new
      simp [access, hwrite, Except.mapError] at hfailed
  | @written text new n next hok hrewrite hdry hwritten =>
      obtain ⟨next, next', hwrite, hwrite', htwins⟩ := h.exists_write (readText_of_read hok) new
      obtain rfl := Except.ok.inj (hwrite.symm.trans (eq_ok_of_mapError hwritten))
      have hput : (access here .atomic).write atomic entry.path new = .ok next' := by
        simp [access, hwrite', Except.mapError]
      have hother := Handling.written (hread.trans hok) hrewrite hdry hput
      rw [hother.fixFile_eq]
      exact .done (.rewritten n) htwins

end Dealias.Disk

namespace Dealias

open Disk (Location LooksLike SameShape SingleLinked HasRoom Twins)

/-! ## Runs -/

/-- **Either mode leaves the same.**  On a disk on which every file has one place, with room for
replacing the candidates, a run with new files and a run in place fail for the same reason or end in
the same summary.  In either case they leave disks that look alike, and nothing is there that was not
there before. -/
theorem modes_leave_same (here : Location) (config : Config) (disk : Disk)
    (hsingle : SingleLinked disk)
    (hroom : ∀ entries, (disk.walk here config.root).result = .ok entries →
      ∀ entry ∈ config.suffix.candidates entries, HasRoom disk here entry.path) :
    let inPlace := Program.runConfig here { config with mode := .inPlace } disk
    let atomic := Program.runConfig here { config with mode := .atomic } disk
    atomic.result = inPlace.result ∧ (∀ l, atomic.disk.look l = inPlace.disk.look l) ∧
      SameShape disk atomic.disk := by
  intro inPlace atomic
  have htwins : ∀ rest : List Entry, (∀ entry ∈ rest, HasRoom disk here entry.path) →
      Twins here disk rest disk disk :=
    fun rest hrest => ⟨hsingle, hsingle, fun l => rfl, .refl disk, hrest⟩
  have hlockstep : InLockstep (fun first second => ∃ rest, Twins here disk rest first second)
      config.dryRun
      (run (Disk.access here .inPlace) { config with mode := .inPlace } true disk)
      (run (Disk.access here .atomic) { config with mode := .atomic } true disk) := by
    apply run_inLockstep { config with mode := .inPlace } .atomic true
    · intro entry rest first second h
      exact h.alike
    · rfl
    · exact htwins [] (by simp)
    · intro notes entries hwalk
      exact htwins _ (hroom entries (congrArg Prod.snd hwalk))
  obtain ⟨rest, hstores⟩ := hlockstep.stores
  refine ⟨?_, hstores.looksLike, hstores.sameShape⟩
  have hmarked := result_map_marked (Disk.access here .inPlace) { config with mode := .inPlace } true
    disk
  have hresult := hlockstep.result.trans hmarked
  exact congrArg (Except.mapError _) hresult

/-- A file and a link to it, and a directory with a file and a link to it. -/
def sharedDisk : Disk where
  nodes :=
    ⟨[(.ofPath (.ofText "/dist"), .directory),
      (.ofPath (.ofText "/dist/a.js"), .file 0),
      (.ofPath (.ofText "/dist/b.js"), .link (.ofText "a.js")),
      (.ofPath (.ofText "/dist/lib"), .directory),
      (.ofPath (.ofText "/dist/lib/c.js"), .file 1),
      (.ofPath (.ofText "/dist/more"), .link (.ofText "lib"))],
      by decide⟩
  files :=
    ⟨[(0, ⟨Text.bytes "require(\"~/x\")", 0o600, false⟩),
      (1, ⟨Text.bytes "require(\"~/a\")", 0o644, false⟩)], by decide⟩

/-- Each of the two files is reached at two paths, and either mode fixes it at the first one. -/
theorem modes_leave_same_shared :
    let config := Config.standard (.ofText "dist")
    let inPlace := Program.runConfig [] { config with mode := .inPlace } sharedDisk
    let atomic := Program.runConfig [] { config with mode := .atomic } sharedDisk
    inPlace.result = .ok ⟨4, [.ofText "dist/a.js", .ofText "dist/lib/c.js"], 2, false⟩ ∧
      atomic.result = inPlace.result ∧ (∀ l, atomic.disk.look l = inPlace.disk.look l) ∧
      SameShape sharedDisk atomic.disk := by
  refine ⟨by cbv, ?_⟩
  apply modes_leave_same [] (.standard (.ofText "dist")) sharedDisk
  · exact Disk.singleLinked_of_rows (by decide) (by decide)
  · intro entries hwalk
    have hlisted : (sharedDisk.walk [] (.ofText "dist")).result =
        .ok [⟨.ofText "dist/a.js", .root⟩, ⟨.ofText "dist/b.js", .root⟩,
          ⟨.ofText "dist/lib/c.js", ⟨1⟩⟩, ⟨.ofText "dist/more/c.js", ⟨1⟩⟩] := by
      cbv
    obtain rfl := Except.ok.inj (hwalk.symm.trans hlisted)
    have hroom : ∀ text ∈ ["dist/a.js", "dist/b.js", "dist/lib/c.js", "dist/more/c.js"],
        HasRoom sharedDisk [] (.ofText text) := by
      decide +kernel
    intro entry hentry
    have hmem := List.mem_of_mem_filter hentry
    simp only [List.mem_cons, List.not_mem_nil, or_false] at hmem
    rcases hmem with rfl | rfl | rfl | rfl <;> exact hroom _ (by simp)

end Dealias
