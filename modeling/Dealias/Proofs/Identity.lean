import Dealias.Program
import Dealias.Proofs.Replaced
import Dealias.Proofs.Stretch

/-!
# One file under several paths

Two paths of a run may lead to one file, along links or because the file has two names.  Whether
what is put back at one of them is read at the other depends on the mode: in place a file is
written under all its names, otherwise the new file takes one place and the other names keep the old
one.  `identity?` is what counts in either mode, and it stays what it is along a run.

Handling a file changes what is seen where its identity is, and nowhere else (`Handled`).  So along
a stretch of files nothing changes at a location that none of them leads to, nor where no reference
is left (`Stretch.look_eq`); and with a plain pattern no reference is left where one of them leads
(`Stretch.exists_text`).
-/

namespace Dealias.Disk

/-- What tells a file from all others when it is written. -/
inductive Identity
  /-- In place: the file itself, wherever it stands. -/
  | number (id : Nat)
  /-- With a new file: the place that it takes. -/
  | place (l : Location)
  deriving DecidableEq

/-- The identity of a file at a location. -/
def Identity.of (mode : WriteMode) (l : Location) (id : Nat) : Identity :=
  match mode with
  | .inPlace => .number id
  | .atomic => .place l

/-- The identity of what is at a location, if it is a file. -/
def identity? (mode : WriteMode) (disk : Disk) (l : Location) : Option Identity :=
  match disk.node? l with
  | some (.file id) => some (.of mode l id)
  | _ => none

/-- The identity of the file that a path leads to. -/
def identityAt? (mode : WriteMode) (disk : Disk) (here : Location) (p : Path) : Option Identity :=
  (disk.fileAt? here p).bind (disk.identity? mode)

variable {mode : WriteMode} {disk next final : Disk} {here l m : Location} {p : Path} {id : Nat}
  {text : String} {k : Identity}

/-- Only files have an identity, told by their number or their place. -/
theorem identity?_eq_some_iff :
    disk.identity? mode l = some k ↔ ∃ id, disk.node? l = some (.file id) ∧ .of mode l id = k := by
  unfold identity?
  split
  · rename_i id hnode
    simp [hnode]
  · rename_i hother
    simp only [reduceCtorEq, false_iff]
    rintro ⟨id, hnode, -⟩
    exact hother id hnode

/-- What a path leads to has the identity of the file that is there. -/
theorem identityAt?_eq_some_iff :
    disk.identityAt? mode here p = some k ↔
      ∃ l, disk.fileAt? here p = some l ∧ disk.identity? mode l = some k :=
  Option.bind_eq_some_iff

/-- A path that leads to a file leads to its identity. -/
theorem exists_identity_of_fileAt? (mode : WriteMode) (h : disk.fileAt? here p = some l) :
    ∃ k, disk.identity? mode l = some k ∧ disk.identityAt? mode here p = some k := by
  obtain ⟨id, hvisit⟩ := fileAt?_eq_some_iff.1 h
  have hl : disk.identity? mode l = some (.of mode l id) :=
    identity?_eq_some_iff.2 ⟨id, node?_of_visit hvisit, rfl⟩
  exact ⟨_, hl, identityAt?_eq_some_iff.2 ⟨l, h, hl⟩⟩

/-- Two places with one identity look the same. -/
theorem look_eq_of_identity (hl : disk.identity? mode l = some k)
    (hm : disk.identity? mode m = some k) : disk.look m = disk.look l := by
  obtain ⟨id, hnode, rfl⟩ := identity?_eq_some_iff.1 hl
  obtain ⟨other, hother, hsame⟩ := identity?_eq_some_iff.1 hm
  cases mode with
  | inPlace =>
      obtain rfl := Identity.number.inj hsame
      rw [look, look, hnode, hother]
  | atomic => rw [Identity.place.inj hsame]

/-- What a run keeps of a disk, whatever it puts back: paths lead to the same places, and what is
one file stays one file. -/
structure Keeps (mode : WriteMode) (disk next : Disk) : Prop where
  isTree : IsTree disk → IsTree next
  sameShape : SameShape disk next
  identity : ∀ m, next.identity? mode m = disk.identity? mode m

namespace Keeps

theorem refl (mode : WriteMode) (disk : Disk) : Keeps mode disk disk :=
  ⟨id, .refl disk, fun _ => rfl⟩

theorem trans (h : Keeps mode disk next) (h' : Keeps mode next final) : Keeps mode disk final :=
  ⟨h'.isTree ∘ h.isTree, h.sameShape.trans h'.sameShape,
    fun m => (h'.identity m).trans (h.identity m)⟩

/-- A path goes on leading to the same file. -/
theorem identityAt? (h : Keeps mode disk next) (p : Path) :
    next.identityAt? mode here p = disk.identityAt? mode here p := by
  unfold Disk.identityAt?
  rw [fileAt?_of_sameShape h.sameShape, funext h.identity]

end Keeps

/-! ## Putting a text back -/

/-- The content of a file has become another one: it shows wherever the file is, and nowhere
else. -/
structure Wrote (mode : WriteMode) (disk : Disk) (k : Identity) (content : List UInt8)
    (next : Disk) : Prop where
  keeps : Keeps mode disk next
  there : ∀ m old permissions written, disk.identity? mode m = some k →
    disk.look m = some (.file old permissions written) →
    next.look m = some (.file content permissions true)
  elsewhere : ∀ m, disk.identity? mode m ≠ some k → next.look m = disk.look m

/-- In place, the new content shows wherever the file is. -/
theorem wrote_of_writeFile (disk : Disk) (id : Nat) (content : List UInt8) :
    Wrote .inPlace disk (.number id) content (disk.writeFile id content) := by
  have hidentity : ∀ m, disk.identity? .inPlace m = some (.number id) ↔
      disk.node? m = some (.file id) := by
    intro m
    simp [identity?_eq_some_iff, Identity.of]
  have htree : IsTree disk → IsTree (disk.writeFile id content) :=
    fun h => (grown_setFile h id _).isTree
  refine ⟨⟨htree, fun m => rfl, fun m => rfl⟩, fun m old permissions written hm hlook => ?_,
    fun m hm => ?_⟩
  · obtain ⟨other, hnode, hfile⟩ := look_eq_file_iff.1 hlook
    rw [(hidentity m).1 hm] at hnode
    cases hnode
    rw [look_writeFile, if_pos ((hidentity m).1 hm), hfile]
  · rw [look_writeFile, if_neg fun hnode => hm ((hidentity m).2 hnode)]

/-- With a new file, the content shows at the place that was replaced and nowhere else. -/
theorem Replaced.wrote {content : List UInt8} (htree : IsTree disk)
    (hl : disk.node? l = some (.file id))
    (h : Replaced disk l ⟨content, (disk.file id).mode, true⟩ next) :
    Wrote .atomic disk (.place l) content next := by
  have hplace : ∀ m, disk.identity? .atomic m = some (.place l) ↔ l = m := by
    intro m
    simp only [identity?_eq_some_iff, Identity.of, Identity.place.injEq]
    constructor
    · rintro ⟨-, -, rfl⟩
      rfl
    · rintro rfl
      exact ⟨id, hl, rfl⟩
  have hidentity : ∀ m, next.identity? .atomic m = disk.identity? .atomic m := by
    intro m
    unfold identity?
    rcases (h.sameShape hl).node?_cases m with ⟨hdisk, hnext⟩ | ⟨hdisk, hnext⟩ |
        ⟨id, other, hdisk, hnext⟩ | ⟨target, hdisk, hnext⟩ <;> simp [hdisk, hnext, Identity.of]
  refine ⟨⟨fun _ => h.isTree htree hl, h.sameShape hl, hidentity⟩,
    fun m old permissions written hm hlook => ?_, fun m hm => ?_⟩
  · obtain rfl := (hplace m).1 hm
    obtain ⟨other, hnode, hfile⟩ := look_eq_file_iff.1 hlook
    rw [hl] at hnode
    cases hnode
    rw [h.look htree, if_pos rfl, hfile]
  · rw [h.look htree, if_neg fun hsame => hm ((hplace m).2 hsame)]

/-- **A text that is put back shows where the file is**, in either mode. -/
theorem wrote_of_writeText (htree : IsTree disk) (hk : disk.identityAt? mode here p = some k)
    (hwrite : writeText mode disk here p text = .ok next) :
    Wrote mode disk k (Text.bytes text) next := by
  obtain ⟨l, hp, hl⟩ := identityAt?_eq_some_iff.1 hk
  obtain ⟨id, hvisit⟩ := fileAt?_eq_some_iff.1 hp
  have hnode := node?_of_visit hvisit
  obtain rfl : Identity.of mode l id = k := by simpa [identity?, hnode] using hl
  cases mode with
  | inPlace =>
      have hopen := resolve_create_of_visit hvisit
      obtain rfl : disk.writeFile id (Text.bytes text) = next := by
        simpa [writeText, overwrite, hopen] using hwrite
      exact wrote_of_writeFile disk id _
  | atomic =>
      unfold writeText at hwrite
      dsimp only at hwrite
      split at hwrite
      · rename_i hok
        obtain rfl := Except.ok.inj hwrite
        exact (replaced_of_visit hvisit hok).wrote htree hnode
      · cases hwrite

/-! ## Handling a file -/

/-- What can be read at a path is what is seen where the path leads. -/
theorem readText_eq_ok_iff :
    disk.readText here p = .ok text ↔ ∃ l permissions written, disk.fileAt? here p = some l ∧
      disk.look l = some (.file (Text.bytes text) permissions written) := by
  have htext : ∀ content, Text.ofBytes? content = some text ↔ content = Text.bytes text :=
    fun content => ⟨fun h => (Text.bytes_of_ofBytes? h).symm, fun h => h ▸ Text.ofBytes?_bytes text⟩
  constructor
  · intro h
    unfold readText at h
    split at h
    · cases h
    · rename_i l id hvisit
      split at h
      · rename_i read hread
        obtain rfl := Except.ok.inj h
        have hcontent := (htext _).1 hread
        exact ⟨l, _, _, fileAt?_eq_some_iff.2 ⟨id, hvisit⟩,
          look_eq_file_iff.2 ⟨id, node?_of_visit hvisit, by rw [← hcontent]⟩⟩
      · cases h
    · cases h
  · rintro ⟨l, permissions, written, hp, hlook⟩
    obtain ⟨id, hvisit⟩ := fileAt?_eq_some_iff.1 hp
    obtain ⟨other, hnode, hfile⟩ := look_eq_file_iff.1 hlook
    rw [node?_of_visit hvisit] at hnode
    cases hnode
    simp [readText, hvisit, hfile, Text.ofBytes?_bytes]

/-- What is read at a path is seen wherever the file is. -/
theorem exists_look_of_readText (hk : disk.identityAt? mode here p = some k)
    (hread : disk.readText here p = .ok text) (hm : disk.identity? mode m = some k) :
    ∃ permissions written, disk.look m = some (.file (Text.bytes text) permissions written) := by
  obtain ⟨l, permissions, written, hp, hlook⟩ := readText_eq_ok_iff.1 hread
  obtain ⟨_, hp', hl⟩ := identityAt?_eq_some_iff.1 hk
  obtain rfl := Option.some.inj (hp.symm.trans hp')
  exact ⟨permissions, written, (look_eq_of_identity hl hm).trans hlook⟩

/-- What can be read is a file, so it has an identity. -/
theorem exists_identity_of_readText (mode : WriteMode) (hread : disk.readText here p = .ok text) :
    ∃ k, disk.identityAt? mode here p = some k := by
  obtain ⟨l, _, _, hp, -⟩ := readText_eq_ok_iff.1 hread
  obtain ⟨k, -, hk⟩ := exists_identity_of_fileAt? mode hp
  exact ⟨k, hk⟩

/-- What a run reads is the text of the file on the disk. -/
theorem readText_of_read (h : (access here mode).read disk p = .ok text) :
    disk.readText here p = .ok text :=
  eq_ok_of_mapError h

variable {pattern : Alias} {entry : Entry} {outcome : Outcome} {events : List Event}

/-- What becomes of a disk when a file is handled. -/
inductive Handled (mode : WriteMode) (pattern : Alias) (disk : Disk) (k : Identity) (text : String)
    (depth : Depth) : Disk → Outcome → Prop
  | clean (hrewrite : pattern.rewrite text depth = .unchanged) :
      Handled mode pattern disk k text depth disk .unchanged
  | written {next : Disk} {new : String} {n : Nat}
      (hrewrite : pattern.rewrite text depth = .rewritten new n)
      (hwrote : Wrote mode disk k (Text.bytes new) next) :
      Handled mode pattern disk k text depth next (.rewritten n)

/-- **A file that is handled is read where its path leads, and put back there.** -/
theorem handled_of_fixFile (htree : IsTree disk)
    (hfix : fixFile (access here mode) pattern false disk entry = ⟨events, .ok (next, outcome)⟩) :
    ∃ k text, disk.identityAt? mode here entry.path = some k ∧
      disk.readText here entry.path = .ok text ∧
      Handled mode pattern disk k text entry.depth next outcome := by
  have hstep := fixFile_handling (access here mode) pattern false disk entry
  rw [hfix] at hstep
  cases hstep with
  | @clean text hok hrewrite =>
      have hread := readText_of_read hok
      obtain ⟨k, hk⟩ := exists_identity_of_readText mode hread
      exact ⟨k, text, hk, hread, .clean hrewrite⟩
  | foretold _ _ hdry => cases hdry
  | @written text new n next hok hrewrite _ hwrite =>
      have hread := readText_of_read hok
      obtain ⟨k, hk⟩ := exists_identity_of_readText mode hread
      have hwrote := wrote_of_writeText htree hk (eq_ok_of_mapError hwrite)
      exact ⟨k, text, hk, hread, .written hrewrite hwrote⟩

namespace Handled

variable {depth : Depth}

/-- Handling a file keeps where paths lead and which files are one. -/
theorem keeps (h : Handled mode pattern disk k text depth next outcome) : Keeps mode disk next := by
  cases h with
  | clean => exact .refl mode disk
  | written _ hwrote => exact hwrote.keeps

/-- Nothing changes but where the file is, and there only if it holds a reference. -/
theorem look_eq (h : Handled mode pattern disk k text depth next outcome)
    (hm : disk.identity? mode m = some k → ¬ pattern.Mentions text) :
    next.look m = disk.look m := by
  cases h with
  | clean => rfl
  | written hrewrite hwrote =>
      have hmentions := (Alias.rewrite_eq_rewritten hrewrite).1
      exact hwrote.elsewhere m fun hk => hm hk hmentions

/-- With a plain pattern the file holds no reference afterwards. -/
theorem exists_text (h : Handled mode pattern disk k text depth next outcome)
    (hplain : pattern.Plain) {permissions : Nat} {written : Bool}
    (hm : disk.identity? mode m = some k)
    (hlook : disk.look m = some (.file (Text.bytes text) permissions written)) :
    ∃ new written, next.look m = some (.file (Text.bytes new) permissions written) ∧
      ¬ pattern.Mentions new := by
  cases h with
  | clean hrewrite => exact ⟨text, written, hlook, Alias.rewrite_eq_unchanged_iff.1 hrewrite⟩
  | written hrewrite hwrote =>
      exact ⟨_, true, hwrote.there m _ _ _ hm hlook, hplain.not_mentions hrewrite⟩

end Handled

end Dealias.Disk

namespace Dealias.Stretch

open Disk

variable {mode : WriteMode} {disk final : Disk} {here m : Location} {pattern : Alias}
  {progress : Bool} {entries : List Entry} {done : Account} {events : List Event} {k : Identity}

/-! ## Stretches -/

/-- Handling files one after the other keeps where paths lead and which files are one. -/
theorem keeps (htree : IsTree disk)
    (h : Stretch (access here mode) pattern false progress disk entries final done events) :
    Keeps mode disk final := by
  induction h with
  | nil disk => exact .refl mode disk
  | cons hfix _ ih =>
      obtain ⟨k, text, -, -, hhandled⟩ := handled_of_fixFile htree hfix
      exact hhandled.keeps.trans (ih (hhandled.keeps.isTree htree))

/-- **Along a stretch nothing changes where it does not lead, nor where there is no reference.** -/
theorem look_eq (htree : IsTree disk)
    (h : Stretch (access here mode) pattern false progress disk entries final done events)
    (hm : ∀ entry ∈ entries, disk.identityAt? mode here entry.path = disk.identity? mode m →
      ∃ text permissions written, disk.look m = some (.file (Text.bytes text) permissions written) ∧
        ¬ pattern.Mentions text) :
    final.look m = disk.look m := by
  induction h with
  | nil => rfl
  | @cons disk next _ entry rest _ _ _ _ hfix _ ih =>
      obtain ⟨k, text, hk, hread, hhandled⟩ := handled_of_fixFile htree hfix
      have hnext : next.look m = disk.look m := by
        refine hhandled.look_eq fun hmk => ?_
        obtain ⟨kept, _, _, hlook, habsent⟩ := hm entry List.mem_cons_self (hk.trans hmk.symm)
        obtain ⟨_, _, hlook'⟩ := exists_look_of_readText hk hread hmk
        obtain rfl : kept = text := Text.bytes_injective (by simp_all)
        exact habsent
      have hkeeps := hhandled.keeps
      rw [← hnext]
      refine ih (hkeeps.isTree htree) fun later hlater hsame => ?_
      rw [hkeeps.identityAt?, hkeeps.identity] at hsame
      rw [hnext]
      exact hm later (List.mem_cons_of_mem _ hlater) hsame

/-- **A stretch leaves no reference where it leads**, if the pattern is plain. -/
theorem exists_text (htree : IsTree disk) (hplain : pattern.Plain)
    (h : Stretch (access here mode) pattern false progress disk entries final done events)
    {entry : Entry} (hmem : entry ∈ entries)
    (hk : disk.identityAt? mode here entry.path = some k) (hm : disk.identity? mode m = some k) :
    ∃ text permissions written, final.look m = some (.file (Text.bytes text) permissions written) ∧
      ¬ pattern.Mentions text := by
  induction h with
  | nil => cases hmem
  | @cons disk next _ first rest _ _ _ _ hfix tail ih =>
      obtain ⟨other, text, hother, hread, hhandled⟩ := handled_of_fixFile htree hfix
      have hkeeps := hhandled.keeps
      rcases List.mem_cons.1 hmem with rfl | hrest
      · obtain rfl := Option.some.inj (hother.symm.trans hk)
        obtain ⟨permissions, written, hlook⟩ := exists_look_of_readText hk hread hm
        obtain ⟨new, written, hnew, habsent⟩ := hhandled.exists_text hplain hm hlook
        have hfinal := tail.look_eq (hkeeps.isTree htree) (m := m)
          fun _ _ _ => ⟨new, permissions, written, hnew, habsent⟩
        exact ⟨new, permissions, written, hfinal.trans hnew, habsent⟩
      · exact ih (hkeeps.isTree htree) hrest ((hkeeps.identityAt? _).trans hk)
          ((hkeeps.identity m).trans hm)

end Dealias.Stretch

namespace Dealias.Program

/-- A run on a disk that succeeds is a stretch over the candidates that its walk finds. -/
theorem exists_stretch_of_ok {here : Disk.Location} {config : Config} {disk : Disk}
    {summary : Summary} (hresult : (runConfig here config disk).result = .ok summary) :
    ∃ entries done events, (disk.walk here config.root).result = .ok entries ∧
      Stretch (Disk.access here config.mode) config.pattern config.dryRun true disk
        (config.suffix.candidates entries) (runConfig here config disk).disk done events ∧
      summary = (Summary.empty config.dryRun).after done := by
  obtain ⟨entries, notes, done, events, hwalk, h, hsummary⟩ :=
    Dealias.exists_stretch_of_ok (Disk.eq_ok_of_mapError hresult)
  exact ⟨entries, done, events, congrArg Prod.snd hwalk, h, hsummary⟩

end Dealias.Program
