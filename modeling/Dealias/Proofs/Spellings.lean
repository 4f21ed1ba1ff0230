import Mathlib
import Dealias.Proofs.Obstacle
import Dealias.Proofs.Replaced

/-!
# Two spellings of one root

A root may be spelled in many ways: from the top or from the working directory, with dots and
separators that say nothing, or over a link.  The paths below it take over its spelling, so they too
are spelled in two ways, and the names behind the root are all that they have in common.

Two paths that lead to one directory lead to the same below it, name by name, unless one of them
meets a limit: it gets too long, or leads over too many links (`visit_child_eq`).  So two walks find
the same rows of names or get stuck at the same one (`crawl_parallel`), and two runs read and write
the same files at the same moments (`spellings_run_same`).
-/

namespace Dealias.Disk

variable {disk next : Disk} {here l m r : Location} {p q : Path} {depth : Depth} {name : Name}
  {names row : List Name} {fault : Fault} {id links more : Nat} {purpose : Purpose}
  {xs : List Step}

/-! ## How many links are left -/

/-- Steps that need no more links than may be followed lead to the same place with more of them. -/
theorem along_of_links {atLink atMore : Location → List Step → Except Errno Place}
    (hlink : ∀ m zs, atLink m zs ≠ .error .tooManyLinks → atMore m zs = atLink m zs)
    (h : along disk purpose atLink l xs ≠ .error .tooManyLinks) :
    along disk purpose atMore l xs = along disk purpose atLink l xs := by
  induction xs generalizing l with
  | nil => rfl
  | cons step rest ih =>
      cases step with
      | here => exact ih h
      | slash => exact ih h
      | up => exact ih h
      | overlong => rfl
      | down name =>
          cases hnode : disk.node? (l ++ [name]) with
          | none => simp only [along, hnode]
          | some node =>
              cases node with
              | directory =>
                  simp only [along, hnode] at h ⊢
                  split_ifs at h ⊢
                  · rfl
                  · rfl
                  · exact ih h
              | file id => simp only [along, hnode]
              | link target =>
                  simp only [along, hnode] at h ⊢
                  split_ifs at h ⊢
                  · rfl
                  · rfl
                  · rfl
                  · exact hlink _ _ h
                  · exact hlink _ _ h

/-- With more links left, a path leads where it leads with fewer that are enough. -/
theorem within_of_le (hle : links ≤ more)
    (h : within disk purpose links l xs ≠ .error .tooManyLinks) :
    within disk purpose more l xs = within disk purpose links l xs := by
  induction links generalizing more l xs with
  | zero =>
      cases more with
      | zero => rfl
      | succ more => exact along_of_links (fun m zs hlimit => absurd rfl hlimit) h
  | succ links ih =>
      cases more with
      | zero => exact absurd hle (Nat.not_succ_le_zero links)
      | succ more =>
          exact along_of_links (fun m zs hlimit => ih (Nat.le_of_succ_le_succ hle) hlimit) h

/-- Two numbers of links that are enough lead to the same. -/
theorem within_eq (h : within disk purpose links l xs ≠ .error .tooManyLinks)
    (h' : within disk purpose more l xs ≠ .error .tooManyLinks) :
    within disk purpose more l xs = within disk purpose links l xs := by
  rcases Nat.le_total links more with hle | hle
  · exact within_of_le hle h
  · exact (within_of_le hle h').symm

/-! ## One directory -/

/-- The fault is that a path is too long, or that it leads over too many links. -/
def AtLimit (p : Path) (fault : Fault) : Prop :=
  pathLimit ≤ p.bytes.length ∨ fault = .system .tooManyLinks

/-- A name behind the path of a directory leads where it leads with enough links, or to a limit. -/
theorem visit_child_cases (hp : disk.visit here p = .ok (l, .directory)) (name : Name) :
    (∃ left, within disk .visit left l [.down name] ≠ .error .tooManyLinks ∧
      disk.resolve here .visit (p.child name.bytes) =
        (within disk .visit left l [.down name]).mapError .system) ∨
      ∃ fault, disk.visit here (p.child name.bytes) = .error fault ∧
        AtLimit (p.child name.bytes) fault := by
  by_cases hlength : (p.child name.bytes).bytes.length < pathLimit
  · obtain ⟨left, hresolve⟩ := exists_resolve_child hp name hlength
    have hvisit := hresolve .visit (by decide)
    by_cases hlinks : within disk .visit left l [.down name] = .error .tooManyLinks
    · refine .inr ⟨.system .tooManyLinks, ?_, .inr rfl⟩
      rw [visit, hvisit, hlinks]
      rfl
    · exact .inl ⟨left, hlinks, hvisit⟩
  · right
    cases hvisit : disk.visit here (p.child name.bytes) with
    | error fault => exact ⟨fault, rfl, .inl (Nat.le_of_not_lt hlength)⟩
    | ok found => exact absurd (length_lt_of_visit hvisit) hlength

/-- **Below two paths that lead to one directory a name leads to the same**, if neither path meets a
limit. -/
theorem visit_child_eq (hp : disk.visit here p = .ok (l, .directory))
    (hq : disk.visit here q = .ok (l, .directory))
    (hplimit : ∀ fault, disk.visit here (p.child name.bytes) = .error fault →
      ¬ AtLimit (p.child name.bytes) fault)
    (hqlimit : ∀ fault, disk.visit here (q.child name.bytes) = .error fault →
      ¬ AtLimit (q.child name.bytes) fault) :
    disk.visit here (q.child name.bytes) = disk.visit here (p.child name.bytes) := by
  rcases visit_child_cases hp name with ⟨left, hleft, hresolve⟩ | ⟨fault, hfault, hlimit⟩
  · rcases visit_child_cases hq name with ⟨left', hleft', hresolve'⟩ | ⟨fault, hfault, hlimit⟩
    · rw [visit, visit, hresolve, hresolve', within_eq hleft hleft']
    · exact absurd hlimit (hqlimit fault hfault)
  · exact absurd hlimit (hplimit fault hfault)

/-! ## Walks -/

/-- Both paths lead to the same file. -/
def SameFile (disk : Disk) (here : Location) (p q : Path) : Prop :=
  ∃ l id, disk.visit here p = .ok (l, .file id) ∧ disk.visit here q = .ok (l, .file id)

/-- What is at the end of a path, and is no directory, is a file. -/
theorem exists_file_of_visit {node : Node} (h : disk.visit here p = .ok (l, node))
    (hnode : node ≠ .directory) : ∃ id, node = .file id := by
  have harrives := arrives_of_within (visit_eq_ok h).2.2
  clear h
  generalize linkLimit = links at harrives
  generalize pathStart here p = start at harrives
  generalize steps p = xs at harrives
  induction harrives with
  | directory => exact absurd rfl hnode
  | @file _ _ _ id => exact ⟨id, rfl⟩
  | go _ _ ih => exact ih hnode
  | follow _ _ ih => exact ih hnode

/-- Two walks find the same rows of names, each leading to one file below either path, or they get
stuck at the same row with the same fault. -/
inductive Parallel (disk : Disk) (here : Location) (p q : Path) (depth : Depth) :
    Except SystemError (List Entry) → Except SystemError (List Entry) → Prop
  | found (rows : List (List Name)) (hnames : ∀ row ∈ rows, row ≠ [])
      (hfiles : ∀ row ∈ rows, SameFile disk here (p.below row) (q.below row)) :
      Parallel disk here p q depth (.ok (rows.map (entryBelow p depth)))
        (.ok (rows.map (entryBelow q depth)))
  | stuck (row : List Name) (fault : Fault) :
      Parallel disk here p q depth (.error (.directoryRead (p.below row) fault))
        (.error (.directoryRead (q.below row) fault))

/-- What failed is a limit on a path: where the path led, or how it was to be spelled out. -/
def IsLimit : SystemError → Prop
  | .directoryRead p fault => AtLimit p fault
  | .fileWrite _ fault => fault = .system .nameTooLong
  | _ => False

/-- A limit is not what failed. -/
def WithinLimits {α : Type} (result : Except SystemError α) : Prop :=
  ∀ e, result = .error e → ¬ IsLimit e

namespace WithinLimits

/-- A crawl within the limits does not fail for one at its first name. -/
theorem head (h : WithinLimits (disk.crawlNames here p depth (name :: names)).result)
    (fault : Fault) (hvisit : disk.visit here (p.child name.bytes) = .error fault) :
    ¬ AtLimit (p.child name.bytes) fault := by
  rw [crawlNames_of_error hvisit] at h
  exact h _ rfl

/-- If two walks are within the limits, the first one is. -/
theorem first {first : Walk} {later : Unit → Walk} (h : WithinLimits (first.andThen later).result) :
    WithinLimits first.result := by
  intro e hfirst
  exact h e (by simp [Walk.andThen, hfirst])

/-- If two walks are within the limits and the first one succeeds, the second one is. -/
theorem later {first : Walk} {later : Unit → Walk} (h : WithinLimits (first.andThen later).result)
    {entries : List Entry} (hfirst : first.result = .ok entries) :
    WithinLimits (later ()).result := by
  intro e hlater
  exact h e (by simp [Walk.andThen, hfirst, hlater, Except.map])

theorem found {entry : Entry} {later : Walk} (h : WithinLimits (Walk.found entry later).result) :
    WithinLimits later.result := by
  intro e hlater
  exact h e (by simp [Walk.found, hlater, Except.map])

end WithinLimits

namespace Parallel

/-- A file in front of what two walks find. -/
theorem cons {first second : Walk}
    (hfile : SameFile disk here (p.child name.bytes) (q.child name.bytes))
    (h : Parallel disk here p q depth first.result second.result) :
    Parallel disk here p q depth (Walk.found ⟨p.child name.bytes, depth⟩ first).result
      (Walk.found ⟨q.child name.bytes, depth⟩ second).result := by
  simp only [Walk.found]
  generalize first.result = result at h
  generalize second.result = result' at h
  cases h with
  | found rows hnames hfiles =>
      exact .found ([name] :: rows) (by simpa using hnames) (List.forall_mem_cons.2 ⟨hfile, hfiles⟩)
  | stuck row fault => exact .stuck row fault

/-- Two walks below a name, and two walks over the names behind it. -/
theorem andThen {first second : Walk} {later later' : Unit → Walk}
    (h : Parallel disk here (p.child name.bytes) (q.child name.bytes) depth.descend first.result
      second.result)
    (hlater : ∀ mine other, first.result = .ok mine → second.result = .ok other →
      Parallel disk here p q depth (later ()).result (later' ()).result) :
    Parallel disk here p q depth (first.andThen later).result (second.andThen later').result := by
  have hentries : ∀ (p : Path) (rows : List (List Name)), (∀ row ∈ rows, row ≠ []) →
      rows.map (entryBelow (p.child name.bytes) depth.descend) =
        (rows.map (name :: ·)).map (entryBelow p depth) := by
    intro p rows hnames
    rw [List.map_map]
    exact List.map_congr_left fun row hrow => entryBelow_child (hnames row hrow)
  simp only [Walk.andThen]
  generalize first.result = result at h hlater
  generalize second.result = result' at h hlater
  cases h with
  | stuck row fault => exact .stuck (name :: row) fault
  | found rows hnames hfiles =>
      specialize hlater _ _ rfl rfl
      dsimp only
      generalize (later ()).result = result at hlater
      generalize (later' ()).result = result' at hlater
      cases hlater with
      | stuck row fault => exact .stuck row fault
      | found others hnames' hfiles' =>
          rw [hentries p rows hnames, hentries q rows hnames]
          simp only [Except.map, ← List.map_append]
          refine .found (rows.map (name :: ·) ++ others) ?_ ?_
          · exact List.forall_mem_append.2 ⟨by simp, hnames'⟩
          · exact List.forall_mem_append.2 ⟨List.forall_mem_map.2 hfiles, hfiles'⟩

end Parallel

/-- The crawl of a directory is that of the names in it. -/
theorem crawl_result (hp : disk.visit here p = .ok (r, .directory)) :
    (disk.crawl here p depth).result = (disk.crawlNames here p depth (disk.children r)).result := by
  rw [crawl, list, hp]
  rfl

/-- **Two crawls from paths that lead to one directory are parallel**, if neither meets a limit.  The
induction is along the first crawl, and the second one goes with it. -/
theorem crawl_parallel (hp : disk.visit here p = .ok (r, .directory))
    (hq : disk.visit here q = .ok (r, .directory))
    (hplimit : WithinLimits (disk.crawl here p depth).result)
    (hqlimit : WithinLimits (disk.crawl here q depth).result) :
    Parallel disk here p q depth (disk.crawl here p depth).result
      (disk.crawl here q depth).result := by
  refine crawl.induct disk here
    (fun p depth => ∀ q r, disk.visit here p = .ok (r, .directory) →
      disk.visit here q = .ok (r, .directory) → WithinLimits (disk.crawl here p depth).result →
      WithinLimits (disk.crawl here q depth).result →
      Parallel disk here p q depth (disk.crawl here p depth).result
        (disk.crawl here q depth).result)
    (fun p depth names => ∀ q r, disk.visit here p = .ok (r, .directory) →
      disk.visit here q = .ok (r, .directory) →
      WithinLimits (disk.crawlNames here p depth names).result →
      WithinLimits (disk.crawlNames here q depth names).result →
      Parallel disk here p q depth (disk.crawlNames here p depth names).result
        (disk.crawlNames here q depth names).result)
    ?_ ?_ ?_ ?_ ?_ p depth q r hp hq hplimit hqlimit
  · intro p depth ih q r hp hq hplimit hqlimit
    rw [crawl_result hp] at hplimit ⊢
    rw [crawl_result hq] at hqlimit ⊢
    exact ih _ q r hp hq hplimit hqlimit
  · intro p depth q r _ _ _ _
    rw [crawlNames, crawlNames]
    exact .found [] (by simp) (by simp)
  · intro p depth name names fault hvisit q r hp hq hplimit hqlimit
    have hsame := visit_child_eq hp hq hplimit.head hqlimit.head
    rw [crawlNames_of_error hvisit, crawlNames_of_error (hsame.trans hvisit)]
    exact .stuck [name] fault
  · intro p depth name names l hvisit ihBelow ihLater q r hp hq hplimit hqlimit
    have hvisit' := (visit_child_eq hp hq hplimit.head hqlimit.head).trans hvisit
    rw [crawlNames_of_directory hvisit] at hplimit ⊢
    rw [crawlNames_of_directory hvisit'] at hqlimit ⊢
    refine .andThen (ihBelow _ l hvisit hvisit' hplimit.first hqlimit.first) ?_
    intro mine other hmine hother
    exact ihLater q r hp hq (hplimit.later hmine) (hqlimit.later hother)
  · rintro p depth name names ⟨l, node⟩ hother hvisit ihLater q r hp hq hplimit hqlimit
    have hnode : node ≠ .directory := fun hd => hother l (by rw [hd])
    have hvisit' := (visit_child_eq hp hq hplimit.head hqlimit.head).trans hvisit
    rw [crawlNames_of_ne_directory hvisit hnode] at hplimit ⊢
    rw [crawlNames_of_ne_directory hvisit' hnode] at hqlimit ⊢
    obtain ⟨id, rfl⟩ := exists_file_of_visit hvisit hnode
    exact .cons ⟨l, id, hvisit, hvisit'⟩ (ihLater q r hp hq hplimit.found hqlimit.found)

/-! ## One file -/

/-- What takes the place of a file depends on the file, and not on its path, unless the path is too
long to be spelled out. -/
theorem replace_cases {node : Node} (hp : disk.visit here p = .ok (l, node))
    (hq : disk.visit here q = .ok (l, node)) (content : List UInt8) :
    replace Replace.calm disk here q content = replace Replace.calm disk here p content ∨
      (replace Replace.calm disk here p content).fault? = some (.system .nameTooLong) ∨
      (replace Replace.calm disk here q content).fault? = some (.system .nameTooLong) := by
  rcases replaceTarget_of_visit hp with htarget | hlimit
  · rcases replaceTarget_of_visit hq with htarget' | hlimit
    · left
      simp only [replace, stage, Replace.calm, htarget, htarget']
    · exact .inr (.inr (by simp [replace, Replace.calm, stage, hlimit]))
  · exact .inr (.inl (by simp [replace, Replace.calm, stage, hlimit]))

namespace SameFile

/-- Two paths lead to the same file after files were put in the place of files. -/
theorem of_sameShape (h : SameFile disk here p q) (hshape : SameShape disk next) :
    SameFile next here p q := by
  obtain ⟨l, id, hp, hq⟩ := h
  have hplace : next.fileAt? here p = some l :=
    (fileAt?_of_sameShape hshape p).trans (fileAt?_eq_some_iff.2 ⟨id, hp⟩)
  have hplace' : next.fileAt? here q = some l :=
    (fileAt?_of_sameShape hshape q).trans (fileAt?_eq_some_iff.2 ⟨id, hq⟩)
  obtain ⟨other, hother⟩ := fileAt?_eq_some_iff.1 hplace
  obtain ⟨other', hother'⟩ := fileAt?_eq_some_iff.1 hplace'
  obtain rfl : other = other' := by
    simpa [node?_of_visit hother] using node?_of_visit hother'
  exact ⟨l, other, hother, hother'⟩

/-- One file has one text, whatever path it is read at. -/
theorem readText_eq (h : SameFile disk here p q) :
    disk.readText here q = disk.readText here p := by
  obtain ⟨l, id, hp, hq⟩ := h
  rw [readText, readText, hp, hq]

/-- A text is put back at the same file, unless one of the paths is too long to be spelled out. -/
theorem writeText_cases (h : SameFile disk here p q) (mode : WriteMode) (text : String) :
    writeText mode disk here q text = writeText mode disk here p text ∨
      writeText mode disk here p text = .error (.system .nameTooLong) ∨
      writeText mode disk here q text = .error (.system .nameTooLong) := by
  obtain ⟨l, id, hp, hq⟩ := h
  cases mode with
  | inPlace =>
      left
      simp only [writeText, overwrite, resolve_create_of_visit hp, resolve_create_of_visit hq]
  | atomic =>
      simp only [writeText]
      rcases replace_cases hp hq (Text.bytes text) with hsame | hlimit | hlimit
      · exact .inl (by rw [hsame])
      · exact .inr (.inl (by rw [hlimit]))
      · exact .inr (.inr (by rw [hlimit]))

end SameFile

/-- A text that is put back at a file is put in the place of a file. -/
theorem sameShape_of_writeText {mode : WriteMode} {text : String}
    (hvisit : disk.visit here p = .ok (l, .file id))
    (hwrite : writeText mode disk here p text = .ok next) : SameShape disk next := by
  cases mode with
  | inPlace =>
      simp only [writeText, overwrite, resolve_create_of_visit hvisit] at hwrite
      obtain rfl := Except.ok.inj hwrite
      exact fun m => rfl
  | atomic =>
      simp only [writeText] at hwrite
      split at hwrite
      · rename_i hok
        obtain rfl := Except.ok.inj hwrite
        exact (replaced_of_visit hvisit hok).sameShape (node?_of_visit hvisit)
      · cases hwrite

/-- Two handlings of a file under two paths come to the same. -/
inductive SameFix (disk : Disk) (p q : Path) :
    Except SystemError (Disk × Outcome) → Except SystemError (Disk × Outcome) → Prop
  | done {next : Disk} (outcome : Outcome) (hshape : SameShape disk next) :
      SameFix disk p q (.ok (next, outcome)) (.ok (next, outcome))
  | unread (fault : Fault) :
      SameFix disk p q (.error (.fileRead p fault)) (.error (.fileRead q fault))
  | unwritten (fault : Fault) :
      SameFix disk p q (.error (.fileWrite p fault)) (.error (.fileWrite q fault))

/-- **Handling a file does not depend on the spelling of its path.** -/
theorem fixFile_same {mode : WriteMode} {pattern : Alias} {dryRun : Bool}
    (hsame : SameFile disk here p q)
    (hp : WithinLimits (fixFile (access here mode) pattern dryRun disk ⟨p, depth⟩).result)
    (hq : WithinLimits (fixFile (access here mode) pattern dryRun disk ⟨q, depth⟩).result) :
    SameFix disk p q (fixFile (access here mode) pattern dryRun disk ⟨p, depth⟩).result
      (fixFile (access here mode) pattern dryRun disk ⟨q, depth⟩).result := by
  simp only [fixFile, access, hsame.readText_eq] at hp hq ⊢
  cases hread : disk.readText here p with
  | error fault => exact .unread fault
  | ok text =>
      simp only [hread, Except.mapError] at hp hq ⊢
      cases hrewrite : pattern.rewrite text depth with
      | unchanged => exact .done .unchanged (.refl disk)
      | rewritten new n =>
          simp only [hrewrite] at hp hq ⊢
          cases dryRun with
          | true => exact .done (.rewritten n) (.refl disk)
          | false =>
              simp only [Bool.false_eq_true, if_false] at hp hq ⊢
              rcases hsame.writeText_cases mode new with hwrite | hlimit | hlimit
              · rw [hwrite]
                cases hwritten : writeText mode disk here p new with
                | error fault => exact .unwritten fault
                | ok next =>
                    obtain ⟨l, id, hvisit, -⟩ := hsame
                    exact .done (.rewritten n) (sameShape_of_writeText hvisit hwritten)
              · rw [hlimit] at hp
                exact absurd rfl (hp _ rfl)
              · rw [hlimit] at hq
                exact absurd rfl (hq _ rfl)

/-! ## Runs -/

/-- Two summaries count the same, and name the same files as changed, each below a root of its
own. -/
structure SameSummary (first second : Path) (s t : Summary) : Prop where
  scanned : t.scanned = s.scanned
  occurrences : t.occurrences = s.occurrences
  dryRun : t.dryRun = s.dryRun
  changed : ∃ rows : List (List Name), s.changed = rows.map first.below ∧
    t.changed = rows.map second.below

/-- The same outcome at the same row below either root is recorded alike. -/
theorem SameSummary.record {first second : Path} {s t : Summary} (h : SameSummary first second s t)
    (row : List Name) (outcome : Outcome) :
    SameSummary first second (s.record (first.below row) outcome)
      (t.record (second.below row) outcome) := by
  obtain ⟨hscanned, hoccurrences, hdry, rows, hs, ht⟩ := h
  refine ⟨congrArg (· + 1) hscanned, congrArg (· + _) hoccurrences, hdry, ?_⟩
  simp only [Summary.record, hs, ht]
  split
  · exact ⟨rows ++ [row], by simp, by simp⟩
  · exact ⟨rows, rfl, rfl⟩

/-- Two runs end alike, each below a root of its own: both succeed, or both fail at the same names
with the same fault. -/
inductive SameEnd (first second : Path) :
    Except Failure Summary → Except Failure Summary → Prop
  | finished {s t : Summary} (h : SameSummary first second s t) :
      SameEnd first second (.ok s) (.ok t)
  | unlisted (row : List Name) (fault : Fault) :
      SameEnd first second
        (.error (.stopped (.scanning first) (.system (.directoryRead (first.below row) fault))))
        (.error (.stopped (.scanning second) (.system (.directoryRead (second.below row) fault))))
  | unread (row : List Name) (fault : Fault) :
      SameEnd first second
        (.error
          (.stopped (.fixing (first.below row)) (.system (.fileRead (first.below row) fault))))
        (.error
          (.stopped (.fixing (second.below row)) (.system (.fileRead (second.below row) fault))))
  | unwritten (row : List Name) (fault : Fault) :
      SameEnd first second
        (.error
          (.stopped (.fixing (first.below row)) (.system (.fileWrite (first.below row) fault))))
        (.error
          (.stopped (.fixing (second.below row)) (.system (.fileWrite (second.below row) fault))))

/-- A run does not fail at a limit. -/
def MeetsNoLimit (result : Except Failure Summary) : Prop :=
  ∀ stage e, result = .error (.stopped stage (.system e)) → ¬ IsLimit e

variable {first second : Path} {mode : WriteMode} {pattern : Alias} {dryRun progress : Bool}

/-- **Runs over the same rows of names come to the same**, whichever root the rows are below.  The
disk becomes another one with every file, but no path leads to another place on it. -/
theorem fixAll_same {rows : List (List Name)} {s t : Summary}
    (hfiles : ∀ row ∈ rows, SameFile disk here (first.below row) (second.below row))
    (hsummary : SameSummary first second s t)
    (hfirst : MeetsNoLimit (fixAll (access here mode) pattern dryRun progress disk s
      (rows.map (entryBelow first .root))).result)
    (hsecond : MeetsNoLimit (fixAll (access here mode) pattern dryRun progress disk t
      (rows.map (entryBelow second .root))).result) :
    let made := fixAll (access here mode) pattern dryRun progress disk s
      (rows.map (entryBelow first .root))
    let made' := fixAll (access here mode) pattern dryRun progress disk t
      (rows.map (entryBelow second .root))
    made'.store = made.store ∧ SameEnd first second made.result made'.result := by
  induction rows generalizing disk s t with
  | nil => exact ⟨rfl, .finished hsummary⟩
  | cons row rows ih =>
      obtain ⟨hfile, hfiles⟩ := List.forall_mem_cons.1 hfiles
      have hfix : WithinLimits
          (fixFile (access here mode) pattern dryRun disk (entryBelow first .root row)).result := by
        intro e he
        refine hfirst (.fixing (first.below row)) e ?_
        rw [List.map_cons, fixAll, he]
        rfl
      have hfix' : WithinLimits
          (fixFile (access here mode) pattern dryRun disk (entryBelow second .root row)).result := by
        intro e he
        refine hsecond (.fixing (second.below row)) e ?_
        rw [List.map_cons, fixAll, he]
        rfl
      have hsame : SameFix disk (first.below row) (second.below row)
          (fixFile (access here mode) pattern dryRun disk (entryBelow first .root row)).result
          (fixFile (access here mode) pattern dryRun disk (entryBelow second .root row)).result :=
        fixFile_same hfile hfix hfix'
      simp only [List.map_cons, fixAll] at hfirst hsecond ⊢
      generalize fixFile (access here mode) pattern dryRun disk (entryBelow first .root row) = fix
        at hsame hfirst ⊢
      generalize fixFile (access here mode) pattern dryRun disk (entryBelow second .root row) = fix'
        at hsame hsecond ⊢
      obtain ⟨events, result⟩ := fix
      obtain ⟨events', result'⟩ := fix'
      cases hsame with
      | unread fault => exact ⟨rfl, .unread row fault⟩
      | unwritten fault => exact ⟨rfl, .unwritten row fault⟩
      | done outcome hshape =>
          have hrest := fun other hother => (hfiles other hother).of_sameShape hshape
          exact ih hrest (hsummary.record row outcome) hfirst hsecond

/-! ## The suffix -/

/-- A text without a separator has no separator among its bytes. -/
theorem slash_notMem_bytes {text : String} (h : '/' ∉ text.toList) :
    Path.slash ∉ Text.bytes text := by
  rw [Text.bytes_eq_encode]
  intro hmem
  obtain ⟨xs, ys, hsplit⟩ := List.append_of_mem hmem
  have hslash : Text.encode ['/'] = [Path.slash] := by decide
  obtain ⟨x, y, hchars, -, -⟩ := Text.exists_of_encode_eq (List.cons_ne_nil '/' [])
    (hsplit.trans (by rw [hslash]; rfl))
  exact h (by simp [hchars])

/-- In front of the name behind a path there is a separator, or nothing. -/
theorem exists_bytes_child (p : Path) (name : Name) :
    ∃ front, (p.child name.bytes).bytes = front ++ name.bytes ∧
      (front = [] ∨ front.getLast? = some Path.slash) := by
  unfold Path.child
  split
  · rename_i hend
    exact ⟨p.bytes, rfl, hend.imp_right fun hslash => by simpa [Path.endsInSlash] using hslash⟩
  · exact ⟨p.bytes ++ [Path.slash], by simp, .inr (by simp)⟩

/-- A path ends in a suffix without a separator if its last name does.  A suffix that reached beyond
the name would hold the separator in front of it. -/
theorem accepts_child {suffix : Suffix} (hslash : '/' ∉ suffix.text.toList) (p : Path)
    (name : Name) :
    suffix.accepts (p.child name.bytes) = true ↔ Text.bytes suffix.text <:+ name.bytes := by
  obtain ⟨front, hbytes, hfront⟩ := exists_bytes_child p name
  rw [Suffix.accepts, List.isSuffixOf_iff_suffix, hbytes]
  constructor
  · rintro ⟨before, hsplit⟩
    rcases List.append_eq_append_iff.1 hsplit with ⟨inside, rfl, hname⟩ | ⟨inside, -, hname⟩
    · rcases List.eq_nil_or_concat' inside with rfl | ⟨inside, last, rfl⟩
      · exact ⟨[], hname⟩
      · have hlast : last = Path.slash := by simpa using hfront
        exact absurd (by simp [hname, hlast]) (slash_notMem_bytes hslash)
    · exact ⟨inside, hname.symm⟩
  · exact fun h => h.trans (List.suffix_append ..)

/-- Whether a suffix accepts a path depends on the names below the root alone. -/
theorem accepts_below_eq {suffix : Suffix} (hslash : '/' ∉ suffix.text.toList) (hne : row ≠ [])
    (p q : Path) : suffix.accepts (q.below row) = suffix.accepts (p.below row) := by
  obtain ⟨front, name, rfl⟩ := (List.eq_nil_or_concat' row).resolve_left hne
  rw [Path.below_append, Path.below_append, Bool.eq_iff_iff, accepts_child hslash,
    accepts_child hslash]

/-- The candidates among some rows are the same below either root. -/
theorem candidates_map {suffix : Suffix} (hslash : '/' ∉ suffix.text.toList)
    {rows : List (List Name)} (hnames : ∀ row ∈ rows, row ≠ []) (p q : Path) :
    suffix.candidates (rows.map (entryBelow q depth)) =
      (rows.filter fun row => suffix.accepts (p.below row)).map (entryBelow q depth) := by
  rw [Suffix.candidates, List.filter_map]
  congr 1
  exact List.filter_congr fun row hrow => accepts_below_eq hslash (hnames row hrow) p q

/-! ## Runs below a root -/

/-- The run of some settings with another root. -/
def runFrom (here : Location) (config : Config) (progress : Bool) (disk : Disk) (root : Path) :
    Run Disk :=
  run (access here config.mode) { config with root := root } progress disk

/-- A run whose walk fails leaves the disk and fails as scanning did. -/
theorem runFrom_of_error {config : Config} {progress : Bool} {root : Path} {e : SystemError}
    (hwalk : (disk.walk here root).result = .error e) :
    (runFrom here config progress disk root).store = disk ∧
      (runFrom here config progress disk root).result =
        .error (.stopped (.scanning root) (.system e)) := by
  simp [runFrom, run, access, hwalk]

/-- A run whose walk succeeds comes to what fixing its candidates comes to. -/
theorem runFrom_of_ok {config : Config} {progress : Bool} {root : Path} {entries : List Entry}
    (hwalk : (disk.walk here root).result = .ok entries) :
    let fixed := fixAll (access here config.mode) config.pattern config.dryRun progress disk
      (.empty config.dryRun) (config.suffix.candidates entries)
    (runFrom here config progress disk root).store = fixed.store ∧
      (runFrom here config progress disk root).result = fixed.result := by
  simp [runFrom, run, access, hwalk]

/-- **The spelling of the root does not matter.**  Two runs from roots that lead to one directory
leave the same disk and end alike, with what they tell of files told below either root, if the
suffix has no separator and neither run fails because a path is too long or leads over too many
links. -/
theorem spellings_run_same (here top : Location) (config : Config) (progress : Bool) (disk : Disk)
    (first second : Path) (hfirst : disk.visit here first = .ok (top, .directory))
    (hsecond : disk.visit here second = .ok (top, .directory))
    (hslash : '/' ∉ config.suffix.text.toList)
    (hlimit : MeetsNoLimit (runFrom here config progress disk first).result)
    (hlimit' : MeetsNoLimit (runFrom here config progress disk second).result) :
    (runFrom here config progress disk second).store =
        (runFrom here config progress disk first).store ∧
      SameEnd first second (runFrom here config progress disk first).result
        (runFrom here config progress disk second).result := by
  have hcrawl : ∀ root, MeetsNoLimit (runFrom here config progress disk root).result →
      WithinLimits (disk.crawl here root .root).result := by
    intro root hlimit e he
    exact hlimit (.scanning root) e (runFrom_of_error ((walk_result disk here root).trans he)).2
  have hparallel := crawl_parallel hfirst hsecond (hcrawl first hlimit) (hcrawl second hlimit')
  rw [← walk_result, ← walk_result] at hparallel
  generalize hwalk : (disk.walk here first).result = result at hparallel
  generalize hwalk' : (disk.walk here second).result = result' at hparallel
  cases hparallel with
  | stuck row fault =>
      obtain ⟨hstore, hresult⟩ := runFrom_of_error hwalk
      obtain ⟨hstore', hresult'⟩ := runFrom_of_error hwalk'
      rw [hstore, hstore', hresult, hresult']
      exact ⟨rfl, .unlisted row fault⟩
  | found rows hnames hfiles =>
      obtain ⟨hstore, hresult⟩ := runFrom_of_ok hwalk
      obtain ⟨hstore', hresult'⟩ := runFrom_of_ok hwalk'
      rw [candidates_map hslash hnames first first] at hstore hresult
      rw [candidates_map hslash hnames first second] at hstore' hresult'
      rw [hresult] at hlimit ⊢
      rw [hresult'] at hlimit' ⊢
      rw [hstore, hstore']
      have hsummary : SameSummary first second (.empty config.dryRun) (.empty config.dryRun) :=
        ⟨rfl, rfl, rfl, [], rfl, rfl⟩
      exact fixAll_same (fun row hrow => hfiles row (List.mem_of_mem_filter hrow)) hsummary hlimit
        hlimit'

/-- From the working directory and from the top, with dots and separators that say nothing. -/
theorem spellings_run_same_sampleDisk :
    let made := runFrom [] (.standard (.ofText "d")) true sampleDisk (.ofText "/d")
    let made' := runFrom [] (.standard (.ofText "d")) true sampleDisk (.ofText ".//d/")
    made'.store = made.store ∧
      SameEnd (.ofText "/d") (.ofText ".//d/") made.result made'.result := by
  have hresult : (runFrom [] (.standard (.ofText "d")) true sampleDisk (.ofText "/d")).result =
      .ok ⟨2, [.ofText "/d/a.js", .ofText "/d/s/b.js"], 3, false⟩ := by
    cbv
  have hresult' : (runFrom [] (.standard (.ofText "d")) true sampleDisk (.ofText ".//d/")).result =
      .ok ⟨2, [.ofText ".//d/a.js", .ofText ".//d/s/b.js"], 3, false⟩ := by
    cbv
  refine spellings_run_same [] [⟨Text.bytes "d", by decide⟩] _ true sampleDisk _ _ (by cbv) (by cbv)
    (by decide) ?_ ?_
  · intro stage e he
    rw [hresult] at he
    cases he
  · intro stage e he
    rw [hresult'] at he
    cases he

end Dealias.Disk
