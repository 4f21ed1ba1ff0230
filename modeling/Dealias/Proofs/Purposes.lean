import Dealias.Proofs.Leads

/-!
# One file for every purpose

What a path leads to depends on what it is wanted for.  A path that is opened for writing may end in
a new name, and one that is spelled out may meet a limit that it does not meet when it is followed.
But where a path leads to a file, it is this file for every purpose: opening for writing finds it
too (`resolve_create_of_visit`), and spelling out finds it or fails at the limit (`resolve_spell`).
-/

namespace Dealias.Disk

variable {disk : Disk} {here l r : Location} {p : Path} {id links : Nat} {xs : List Step}
  {node : Node}

/-! ## Opening for writing -/

/-- Steps that end in the mark of a directory arrive at a directory. -/
theorem Arrives.eq_directory (h : Arrives disk links l (xs ++ [.slash]) r node) :
    node = .directory := by
  generalize hsteps : xs ++ [.slash] = steps at h
  induction h generalizing xs with
  | directory => rfl
  | @file _ _ name =>
      cases xs with
      | nil => cases hsteps
      | cons x xs => simp at hsteps
  | go hstep tail ih =>
      cases xs with
      | nil =>
          obtain ⟨-, rfl⟩ := List.cons.inj hsteps
          cases tail
          rfl
      | cons x xs => exact ih (List.cons.inj hsteps).2
  | follow hnode tail ih =>
      cases xs with
      | nil => cases hsteps
      | cons x xs =>
          obtain ⟨-, rfl⟩ := List.cons.inj hsteps
          exact ih (List.append_assoc ..)

/-- **Steps that arrive at a file lead to it also where a last name may be new.** -/
theorem Arrives.within_create (h : Arrives disk links l xs r (.file id)) :
    within disk .create links l xs = .ok (.found r (.file id)) := by
  have hspell : Purpose.create ≠ .spell := by decide
  have hmark : ∀ {links : Nat} {l : Location} {step : Step} {rest : List Step},
      Arrives disk links l (step :: rest) r (.file id) → rest ≠ [.slash] := by
    rintro links l step rest harrives rfl
    have hends : Arrives disk links l ([step] ++ [.slash]) r (.file id) := harrives
    cases hends.eq_directory
  generalize hnode : Node.file id = node at h
  induction h with
  | directory => cases hnode
  | file hfile =>
      cases hnode
      exact within_down hspell hfile rfl
  | go hstep tail ih =>
      subst hnode
      rw [within_cons_of_goes hspell hstep (hmark (.go hstep tail))]
      exact ih hmark rfl
  | follow hlink tail ih =>
      subst hnode
      rw [within_cons_of_link hspell hlink (.inr rfl) (hmark (.follow hlink tail))]
      exact ih hmark rfl

/-- **A file that is read at a path is the one that is opened there for writing.** -/
theorem resolve_create_of_visit (h : disk.visit here p = .ok (l, .file id)) :
    disk.resolve here .create p = .ok (.found l (.file id)) := by
  obtain ⟨hne, hzero, hwithin⟩ := visit_eq_ok h
  have hlength := length_lt_of_visit h
  have hcreate := (arrives_of_within hwithin).within_create
  rw [resolve, if_neg hzero, if_neg hne, if_neg (by omega), ← pathStart, hcreate]
  rfl

/-- The file that a path leads to stands where the path leads. -/
theorem Arrives.node?_eq (h : Arrives disk links l xs r (.file id)) :
    disk.node? r = some (.file id) := by
  generalize hnode : Node.file id = node at h
  induction h with
  | directory => cases hnode
  | file hfile => exact hnode ▸ hfile
  | go _ _ ih => exact ih hnode
  | follow _ _ ih => exact ih hnode

theorem node?_of_visit (h : disk.visit here p = .ok (l, .file id)) :
    disk.node? l = some (.file id) :=
  (arrives_of_within (visit_eq_ok h).2.2).node?_eq

/-! ## Spelling out -/

/-- What is wrong behind a file is the same when a path is spelled out, but for the limit. -/
theorem beyondFile_spell (rest : List Step) :
    beyondFile .spell l rest = beyondFile .visit l rest ∨ beyondFile .spell l rest = .nameTooLong := by
  have hvisit : Purpose.visit ≠ .spell := by decide
  have hmissing : ∀ name rest, beyondFile.missing .spell l name rest =
      beyondFile.missing .visit l name rest ∨ beyondFile.missing .spell l name rest = .nameTooLong := by
    intro name rest
    unfold beyondFile.missing
    rw [isBeyond_eq_false hvisit]
    split <;> simp
  induction rest with
  | nil => exact .inl rfl
  | cons step rest ih =>
      cases step with
      | here => exact ih
      | slash => exact ih
      | up => exact .inl rfl
      | overlong length => exact hmissing length rest
      | down name => exact hmissing name.bytes.length rest

/-- Spelled out, steps lead where they lead when they are followed, or on to the limit. -/
theorem along_spell {atVisit atSpell : Location → List Step → Except Errno Place}
    (hlink : ∀ m zs, atSpell m zs = atVisit m zs ∨ atSpell m zs = .error .nameTooLong) :
    along disk .spell atSpell l xs = along disk .visit atVisit l xs ∨
      along disk .spell atSpell l xs = .error .nameTooLong := by
  induction xs generalizing l with
  | nil => exact .inl rfl
  | cons step rest ih =>
      cases step with
      | here => exact ih
      | slash => exact ih
      | up => exact ih
      | overlong length => exact .inl rfl
      | down name =>
          have hvisit : Purpose.visit ≠ .spell := by decide
          simp only [along, isBeyond_eq_false hvisit, Purpose.mayBeNew, Purpose.follows,
            Bool.false_eq_true, false_and, if_false]
          split
          · exact .inr rfl
          · cases disk.node? (l ++ [name]) with
            | none => exact .inl rfl
            | some node =>
                cases node with
                | directory => exact ih
                | file other =>
                    by_cases hlast : rest = []
                    · simp [hlast]
                    · simpa [hlast] using beyondFile_spell (l := l ++ [name]) rest
                | link target => simpa using hlink _ _

/-- Spelled out, a path leads where it leads anyway, unless it gets too long. -/
theorem within_spell (disk : Disk) (links : Nat) (l : Location) (xs : List Step) :
    within disk .spell links l xs = within disk .visit links l xs ∨
      within disk .spell links l xs = .error .nameTooLong := by
  induction links generalizing l xs with
  | zero => exact along_spell fun m zs => .inl rfl
  | succ links ih => exact along_spell ih

/-- **A path that leads somewhere is spelled out as it is followed**, or its spelling is too
long. -/
theorem resolve_spell_of_visit (h : disk.visit here p = .ok (l, node)) :
    disk.resolve here .spell p = .ok (.found l node) ∨
      disk.resolve here .spell p = .error (.system .nameTooLong) := by
  obtain ⟨hne, hzero, hwithin⟩ := visit_eq_ok h
  rw [resolve, if_neg hzero, if_neg hne, if_neg (by simp), ← pathStart]
  rcases within_spell disk linkLimit (pathStart here p) (steps p) with hsame | hlimit
  · exact .inl (by rw [hsame, hwithin]; rfl)
  · exact .inr (by rw [hlimit]; rfl)

end Dealias.Disk
