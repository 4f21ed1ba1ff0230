import Dealias.Disk.Read

/-!
# Where steps lead

A path is followed through directories and links, and how many links are left matters only to what
comes behind it.  `Leads` keeps to that part of the way: the steps lead from one directory to
another, with a number of links left at either end.  Whatever the purpose, steps that lead
somewhere can be cut off the front of a path (`Leads.within_append`).

So the paths that a walk makes are easily followed: the path of a directory and a name behind it
lead to the entry under this name, if the directory holds one that is no link (`visit_child`).
-/

namespace Dealias

/-! ## The steps of a path -/

namespace Search

variable {α : Type} [DecidableEq α] {separator : α}

theorem parts_ne_nil (separator : α) (text : List α) : parts separator text ≠ [] := by
  cases text with
  | nil => simp [parts]
  | cons c text =>
      unfold parts
      split
      · simp
      · split <;> simp

/-- A separator parts a text into the parts on either side. -/
theorem parts_append_cons (xs ys : List α) :
    parts separator (xs ++ separator :: ys) = parts separator xs ++ parts separator ys := by
  induction xs with
  | nil => simp [parts]
  | cons c xs ih =>
      by_cases hc : c = separator
      · simp [parts, hc, ih]
      · obtain ⟨first, others, hparts⟩ := List.exists_cons_of_ne_nil (parts_ne_nil separator xs)
        simp [parts, hc, ih, hparts]

/-- A text without the separator is a part of its own. -/
theorem parts_of_not_mem {text : List α} (h : separator ∉ text) :
    parts separator text = [text] := by
  induction text with
  | nil => rfl
  | cons c text ih =>
      rw [List.mem_cons, not_or] at h
      simp [parts, Ne.symm h.1, ih h.2]

end Search

namespace Disk

theorem Name.not_slash_mem (name : Name) : Path.slash ∉ name.bytes :=
  name.isName.2.2.2.1

/-- A path and a name behind it start from the same place. -/
theorem isAbsolute_child (p : Path) (name : Name) :
    (p.child name.bytes).isAbsolute = p.isAbsolute := by
  have hhead : name.bytes.head? ≠ some Path.slash :=
    fun h => name.not_slash_mem (List.mem_of_head? h)
  unfold Path.child
  split
  · cases hbytes : p.bytes <;> simp [Path.isAbsolute, hbytes, hhead]
  · cases hbytes : p.bytes <;> simp_all [Path.isAbsolute]

/-- The steps of a path without the mark of a last separator. -/
def named (p : Path) : List Step :=
  ((Search.parts Path.slash p.bytes).filter (· ≠ [])).map Step.ofBytes

theorem steps_eq (p : Path) :
    steps p = if p.endsInSlash ∧ named p ≠ [] then named p ++ [.slash] else named p := rfl

/-- The steps of a path are those of its names, with at most the last separator behind them. -/
theorem steps_eq_or (p : Path) : steps p = named p ∨ steps p = named p ++ [.slash] := by
  rw [steps_eq]
  split
  · exact .inr rfl
  · exact .inl rfl

/-- A name is a step down, as it is no dot, not two, and not too long. -/
theorem Step.ofBytes_name (name : Name) : Step.ofBytes name.bytes = .down name := by
  obtain ⟨-, hdot, hdots, -⟩ := name.isName
  simp [Step.ofBytes, hdot, hdots, Name.ofBytes?, name.isName]

/-- The parts of a name behind a path are those of the path, but for an empty last one, and the
name. -/
theorem exists_parts_child (p : Path) (name : Name) :
    ∃ front tail, Search.parts Path.slash p.bytes = front ++ tail ∧
      Search.parts Path.slash (p.child name.bytes).bytes = front ++ [name.bytes] ∧
      (tail = [] ∨ tail = [[]]) := by
  have hname : Search.parts Path.slash name.bytes = [name.bytes] :=
    Search.parts_of_not_mem name.not_slash_mem
  unfold Path.child
  split
  · rename_i hend
    rcases hend with hempty | hslash
    · exact ⟨[], [[]], by simp [hempty, Search.parts], by simp [hempty, hname], .inr rfl⟩
    · have hlast : p.bytes.getLast? = some Path.slash := by simpa [Path.endsInSlash] using hslash
      obtain ⟨front, hfront⟩ := List.getLast?_eq_some_iff.1 hlast
      refine ⟨Search.parts Path.slash front, [[]], ?_, ?_, .inr rfl⟩
      · rw [hfront, Search.parts_append_cons]
        rfl
      · simp [hfront, Search.parts_append_cons, hname]
  · exact ⟨_, [], (List.append_nil _).symm, by rw [Search.parts_append_cons, hname], .inl rfl⟩

/-- A name behind a path is one step down more. -/
theorem named_child (p : Path) (name : Name) :
    named (p.child name.bytes) = named p ++ [.down name] := by
  obtain ⟨front, tail, hparts, hchild, htail⟩ := exists_parts_child p name
  have hne := name.isName.1
  rcases htail with rfl | rfl <;> simp [named, hparts, hchild, hne, Step.ofBytes_name]

/-- A path that ends in a name is meant as it is. -/
theorem steps_child (p : Path) (name : Name) :
    steps (p.child name.bytes) = named p ++ [.down name] := by
  have hlast : (p.child name.bytes).endsInSlash = false := by
    have hmem : name.bytes.getLast? ≠ some Path.slash :=
      fun h => name.not_slash_mem (List.mem_of_getLast? h)
    obtain ⟨last, hlast⟩ := Option.isSome_iff_exists.1
      (List.getLast?_isSome.2 name.isName.1)
    unfold Path.endsInSlash Path.child
    split <;> simp_all [List.getLast?_append, List.getLast?_cons]
  rw [steps_eq, if_neg (by simp [hlast]), named_child]

/-! ## Steps that lead somewhere -/

variable {disk : Disk} {purpose : Purpose} {l r : Location} {name : Name} {links left : Nat}
  {step : Step} {rest xs ys : List Step}

/-- A step that leads from a directory to a directory without a link. -/
inductive Goes (disk : Disk) (l : Location) : Step → Location → Prop
  | here : Goes disk l .here l
  | slash : Goes disk l .slash l
  | up : Goes disk l .up l.dropLast
  | down {name : Name} (hnode : disk.node? (l ++ [name]) = some .directory) :
      Goes disk l (.down name) (l ++ [name])

/-- Where a link found in a directory is followed from. -/
def linkStart (l : Location) (target : Path) : Location :=
  if target.isAbsolute then [] else l

/-- From a directory, with a number of links that may be followed, the steps lead to a directory,
with a number of links left. -/
inductive Leads (disk : Disk) : Nat → Location → List Step → Nat → Location → Prop
  | arrived (links : Nat) (l : Location) : Leads disk links l [] links l
  | go {links left : Nat} {l m r : Location} {step : Step} {rest : List Step}
      (hstep : Goes disk l step m) (tail : Leads disk links m rest left r) :
      Leads disk links l (step :: rest) left r
  | follow {links left : Nat} {l r : Location} {name : Name} {target : Path} {rest : List Step}
      (hnode : disk.node? (l ++ [name]) = some (.link target))
      (tail : Leads disk links (linkStart l target) (steps target ++ rest) left r) :
      Leads disk (links + 1) l (.down name :: rest) left r

/-- Steps that lead somewhere are two parts that do. -/
theorem Leads.split (h : Leads disk links l (xs ++ ys) left r) :
    ∃ between middle, Leads disk links l xs between middle ∧
      Leads disk between middle ys left r := by
  generalize hsteps : xs ++ ys = zs at h
  induction h generalizing xs with
  | arrived links l =>
      obtain ⟨rfl, rfl⟩ := List.append_eq_nil_iff.1 hsteps
      exact ⟨links, l, .arrived links l, .arrived links l⟩
  | @go links left l m r step rest hstep tail ih =>
      cases xs with
      | nil =>
          obtain rfl : ys = step :: rest := hsteps
          exact ⟨links, l, .arrived links l, .go hstep tail⟩
      | cons x xs =>
          obtain ⟨rfl, hrest⟩ := List.cons.inj hsteps
          obtain ⟨between, middle, hfirst, hsecond⟩ := ih hrest
          exact ⟨between, middle, .go hstep hfirst, hsecond⟩
  | @follow links left l r name target rest hnode tail ih =>
      cases xs with
      | nil =>
          obtain rfl : ys = .down name :: rest := hsteps
          exact ⟨links + 1, l, .arrived (links + 1) l, .follow hnode tail⟩
      | cons x xs =>
          obtain ⟨rfl, rfl⟩ : x = .down name ∧ xs ++ ys = rest := List.cons.inj hsteps
          obtain ⟨between, middle, hfirst, hsecond⟩ := ih (List.append_assoc ..)
          exact ⟨between, middle, .follow hnode hfirst, hsecond⟩

/-! ## Following steps -/

/-- Only spelling out a path minds how long the way to an entry is. -/
theorem isBeyond_eq_false (hspell : purpose ≠ .spell) (directory : Location) (length : Nat)
    (asDirectory : Bool) : purpose.isBeyond directory length asDirectory = false := by
  simp [Purpose.isBeyond, hspell]

/-- A step from a directory to a directory is taken, unless what comes behind it marks the entry as
a directory that may be new. -/
theorem within_cons_of_goes (hspell : purpose ≠ .spell) {m : Location} (hstep : Goes disk l step m)
    (hrest : rest ≠ [.slash]) :
    within disk purpose links l (step :: rest) = within disk purpose links m rest := by
  cases hstep with
  | here => cases links <;> rfl
  | slash => cases links <;> rfl
  | up => cases links <;> rfl
  | down hnode => cases links <;> simp [within, along, hnode, hrest, isBeyond_eq_false hspell]

/-- A link is followed in front of other steps, and at the end if the purpose asks for it. -/
theorem within_cons_of_link (hspell : purpose ≠ .spell) {target : Path}
    (hnode : disk.node? (l ++ [name]) = some (.link target))
    (hne : rest ≠ [] ∨ purpose.follows = true) (hrest : rest ≠ [.slash]) :
    within disk purpose (links + 1) l (.down name :: rest) =
      within disk purpose links (linkStart l target) (steps target ++ rest) := by
  have hgoes : ¬ (rest = [] ∧ ¬ purpose.follows = true) :=
    fun h => hne.elim (fun hrest => hrest h.1) h.2
  simp only [within, along, hnode, hrest, and_false, isBeyond_eq_false hspell, hgoes, linkStart]
  simp

/-- **Steps that lead somewhere can be left out in front of a path.** -/
theorem Leads.within_append (h : Leads disk links l xs left r) (hspell : purpose ≠ .spell)
    (hne : ys ≠ []) (hys : ys ≠ [.slash]) :
    within disk purpose links l (xs ++ ys) = within disk purpose left r ys := by
  have hrest : ∀ zs : List Step, zs ++ ys ≠ [] ∧ zs ++ ys ≠ [.slash] := by
    intro zs
    cases zs with
    | nil => exact ⟨hne, hys⟩
    | cons z zs => simp [hne]
  induction h with
  | arrived => rfl
  | @go _ _ _ _ _ _ rest hstep _ ih =>
      rw [List.cons_append, within_cons_of_goes hspell hstep (hrest rest).2, ih]
  | @follow _ _ _ _ _ _ rest hnode _ ih =>
      rw [List.cons_append, within_cons_of_link hspell hnode (.inl (hrest rest).1) (hrest rest).2,
        ← List.append_assoc, ih]

/-! ## Steps that are followed -/

/-- From a directory, with a number of links that may be followed, the steps lead to a node: to the
directory that they end in, or to a file at the very end. -/
inductive Arrives (disk : Disk) : Nat → Location → List Step → Location → Node → Prop
  | directory (links : Nat) (l : Location) : Arrives disk links l [] l .directory
  | file {links : Nat} {l : Location} {name : Name} {id : Nat}
      (hnode : disk.node? (l ++ [name]) = some (.file id)) :
      Arrives disk links l [.down name] (l ++ [name]) (.file id)
  | go {links : Nat} {l m r : Location} {step : Step} {rest : List Step} {node : Node}
      (hstep : Goes disk l step m) (tail : Arrives disk links m rest r node) :
      Arrives disk links l (step :: rest) r node
  | follow {links : Nat} {l r : Location} {name : Name} {target : Path} {rest : List Step}
      {node : Node} (hnode : disk.node? (l ++ [name]) = some (.link target))
      (tail : Arrives disk links (linkStart l target) (steps target ++ rest) r node) :
      Arrives disk (links + 1) l (.down name :: rest) r node

/-- Steps that lead to a node arrive there, if they do from every link that is met. -/
theorem arrives_of_along {node : Node} {atLink : Location → List Step → Except Errno Place}
    (hlink : ∀ m zs, atLink m zs = .ok (.found r node) →
      ∃ fewer, links = fewer + 1 ∧ Arrives disk fewer m zs r node)
    (h : along disk .visit atLink l xs = .ok (.found r node)) :
    Arrives disk links l xs r node := by
  induction xs generalizing l with
  | nil =>
      obtain ⟨rfl, rfl⟩ : l = r ∧ .directory = node := by simpa [along] using h
      exact .directory links l
  | cons step rest ih =>
      cases step with
      | here => exact .go .here (ih h)
      | slash => exact .go .slash (ih h)
      | up => exact .go .up (ih h)
      | overlong length => simp [along, Purpose.mayBeNew] at h
      | down name =>
          have hspell : Purpose.visit ≠ .spell := by decide
          simp only [along, isBeyond_eq_false hspell, Purpose.mayBeNew, Purpose.follows] at h
          cases hnode : disk.node? (l ++ [name]) with
          | none => simp [hnode] at h
          | some entry =>
              cases entry with
              | directory => exact .go (.down hnode) (ih (by simpa [hnode] using h))
              | file id =>
                  by_cases hlast : rest = []
                  · obtain ⟨rfl, rfl⟩ : l ++ [name] = r ∧ .file id = node := by
                      simpa [hnode, hlast] using h
                    exact hlast ▸ .file hnode
                  · simp [hnode, hlast] at h
              | link target =>
                  obtain ⟨fewer, rfl, tail⟩ := hlink _ _ (by simpa [hnode] using h)
                  exact .follow hnode tail

/-- **A path that is followed with success arrives step by step.** -/
theorem arrives_of_within {node : Node} (h : within disk .visit links l xs = .ok (.found r node)) :
    Arrives disk links l xs r node := by
  induction links generalizing l xs with
  | zero => exact arrives_of_along (fun m zs hlink => by cases hlink) h
  | succ links ih => exact arrives_of_along (fun m zs hlink => ⟨links, rfl, ih hlink⟩) h

/-- Steps that arrive at a directory lead to it. -/
theorem Arrives.exists_leads (h : Arrives disk links l xs r .directory) :
    ∃ left, Leads disk links l xs left r := by
  generalize hnode : Node.directory = node at h
  induction h with
  | directory links l => exact ⟨links, .arrived links l⟩
  | file => cases hnode
  | go hstep _ ih =>
      obtain ⟨left, tail⟩ := ih hnode
      exact ⟨left, .go hstep tail⟩
  | follow hlink _ ih =>
      obtain ⟨left, tail⟩ := ih hnode
      exact ⟨left, .follow hlink tail⟩

/-! ## A name behind a path -/

variable {here : Location} {p : Path}

/-- The directory from which a path is followed. -/
def pathStart (here : Location) (p : Path) : Location :=
  if p.isAbsolute then [] else here

theorem eq_ok_of_mapError {ε ε' α : Type} {f : ε → ε'} {x : Except ε α} {a : α}
    (h : x.mapError f = .ok a) : x = .ok a := by
  cases x with
  | error e => cases h
  | ok b => exact congrArg _ (Except.ok.inj h)

/-- What it takes for a path to lead to a node. -/
theorem visit_eq_ok {node : Node} (h : disk.visit here p = .ok (r, node)) :
    p.bytes ≠ [] ∧ 0 ∉ p.bytes ∧
      within disk .visit linkLimit (pathStart here p) (steps p) = .ok (.found r node) := by
  unfold visit at h
  split at h
  · rename_i l found hfound
    obtain ⟨rfl, rfl⟩ : l = r ∧ found = node := by simpa using h
    unfold resolve at hfound
    split at hfound
    · cases hfound
    · rename_i hzero
      split at hfound
      · cases hfound
      · rename_i hne
        split at hfound
        · cases hfound
        · exact ⟨hne, hzero, eq_ok_of_mapError hfound⟩
  · cases h
  · cases h

/-- A path that leads to a directory leads there without the mark of a last separator. -/
theorem exists_leads_of_visit (h : disk.visit here p = .ok (r, .directory)) :
    ∃ left, Leads disk linkLimit (pathStart here p) (named p) left r := by
  obtain ⟨left, hleads⟩ := (arrives_of_within (visit_eq_ok h).2.2).exists_leads
  rcases steps_eq_or p with hsteps | hsteps
  · exact ⟨left, hsteps ▸ hleads⟩
  · rw [hsteps] at hleads
    obtain ⟨between, middle, hfirst, hlast⟩ := hleads.split
    cases hlast with
    | go hstep tail =>
        cases hstep
        cases tail
        exact ⟨left, hfirst⟩

/-- **A name behind the path of a directory is looked up in this directory.** -/
theorem exists_resolve_child (h : disk.visit here p = .ok (r, .directory)) (name : Name)
    (hlength : (p.child name.bytes).bytes.length < pathLimit) :
    ∃ left, ∀ purpose : Purpose, purpose ≠ .spell →
      disk.resolve here purpose (p.child name.bytes) =
        (within disk purpose left r [.down name]).mapError .system := by
  obtain ⟨hne, hzero, -⟩ := visit_eq_ok h
  obtain ⟨left, hleads⟩ := exists_leads_of_visit h
  have hzero' : 0 ∉ (p.child name.bytes).bytes := by
    have := name.isName.2.2.2.2.1
    unfold Path.child
    split <;> simp [hzero, this, Path.slash]
  have hne' : (p.child name.bytes).bytes ≠ [] := by
    unfold Path.child
    split <;> simp [hne]
  have hstart : pathStart here (p.child name.bytes) = pathStart here p := by
    rw [pathStart, isAbsolute_child, ← pathStart]
  refine ⟨left, fun purpose hspell => ?_⟩
  rw [resolve, if_neg hzero', if_neg hne', if_neg (by omega), steps_child]
  rw [← pathStart, hstart, hleads.within_append hspell (by simp) (by simp)]

/-- The entry under a name leads to itself, if it is no link. -/
theorem within_down {node : Node} (hspell : purpose ≠ .spell)
    (hnode : disk.node? (l ++ [name]) = some node) (hlink : node.isLink = false) :
    within disk purpose links l [.down name] = .ok (.found (l ++ [name]) node) := by
  cases node with
  | directory => cases links <;> simp [within, along, hnode, isBeyond_eq_false hspell]
  | file id => cases links <;> simp [within, along, hnode, isBeyond_eq_false hspell]
  | link target => cases hlink

/-- A name that a directory does not hold leads nowhere. -/
theorem within_down_of_none (hnode : disk.node? (l ++ [name]) = none) :
    within disk .visit links l [.down name] = .error .noEntry := by
  have hspell : Purpose.visit ≠ .spell := by decide
  cases links <;> simp [within, along, hnode, isBeyond_eq_false hspell, Purpose.mayBeNew]

/-- The entry of a directory under a name is met at the path of the directory with the name behind
it, for reading and for writing. -/
theorem resolve_child {node : Node} (h : disk.visit here p = .ok (r, .directory))
    (hnode : disk.node? (r ++ [name]) = some node) (hlink : node.isLink = false)
    (hlength : (p.child name.bytes).bytes.length < pathLimit) (hspell : purpose ≠ .spell) :
    disk.resolve here purpose (p.child name.bytes) = .ok (.found (r ++ [name]) node) := by
  obtain ⟨left, hresolve⟩ := exists_resolve_child h name hlength
  rw [hresolve purpose hspell, within_down hspell hnode hlink]
  rfl

/-- A name behind the path of a directory leads to the entry under it, if this is no link and the
path is not too long. -/
theorem visit_child {node : Node} (h : disk.visit here p = .ok (r, .directory))
    (hnode : disk.node? (r ++ [name]) = some node) (hlink : node.isLink = false)
    (hlength : (p.child name.bytes).bytes.length < pathLimit) :
    disk.visit here (p.child name.bytes) = .ok (r ++ [name], node) := by
  rw [visit, resolve_child h hnode hlink hlength (by decide)]

/-- What leads somewhere from a directory is an entry of it. -/
theorem isSome_of_visit_child {found : Location × Node}
    (h : disk.visit here p = .ok (r, .directory))
    (hchild : disk.visit here (p.child name.bytes) = .ok found) :
    (disk.node? (r ++ [name])).isSome := by
  obtain ⟨left, hresolve⟩ := exists_resolve_child h name (length_lt_of_visit hchild)
  rw [Option.isSome_iff_ne_none]
  intro hnone
  rw [visit, hresolve .visit (by decide), within_down_of_none hnone] at hchild
  cases hchild

end Disk

end Dealias
