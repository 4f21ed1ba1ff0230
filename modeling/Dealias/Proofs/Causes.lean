import Dealias.Failure

/-!
# The fault behind a failure

Behind a failure stands what it names as its source, behind that stands the next source, and so on
to the end (`Cause.chain`).  This chain passes through every layer: where a stage stopped, it meets
the layer's own error first and then the failure that stopped it.  It is the chain that is told to
the user (`map_link_chain`).

`Failure.system?` does not follow it.  It looks through notes and stages at once, down to the leaf.
Both ways come to the same fault: a chain holds a fault of the system exactly if `system?` finds
one, this one stands in front of all others, and nothing that is wrapped around a failure changes
which it is (`system?_first_in_chain`).  For this no fault may lie behind a refused pattern.

The fault that `system?` finds need not be the only one.  A fault that was made of another error
hands on what lies behind that error, so the chain may go on to a second fault, which `system?` does
not find (`two_faults_in_chain`).
-/

namespace Dealias

/-- The links of an error that stands behind another are its own and those of its source. -/
theorem Source.links_eq (source : Source) :
    source.links = .ofSource source :: (source.source?.map Source.links).getD [] := by
  cases source with
  | system error => cases error <;> rfl
  | fault fault => cases fault <;> rfl
  | last text => rfl
  | other text next => rfl

namespace Failure

/-- The fault of the system that a link tells. -/
def Link.system? : Link → Option SystemError
  | .system e => some e
  | _ => none

/-- An error that stands in a chain, with all that lies behind it. -/
inductive Cause
  | failure (f : Failure)
  | stopped (stage : Stage) (cause : Failure)
  | config (e : ConfigError)
  | usage (e : UsageError)
  /-- A fault of the system, or an error that stands behind a leaf. -/
  | source (s : Source)

namespace Cause

variable {c next : Cause} {e : SystemError}

/-- A fault of the system, as an error of a chain. -/
def system (e : SystemError) : Cause :=
  source (.system e)

/-- What an error names as its source. -/
def source? : Cause → Option Cause
  | failure (.context _ cause) => some (failure cause)
  | failure (.stopped stage cause) => some (stopped stage cause)
  | failure (.config e) => some (config e)
  | failure (.system e) => some (system e)
  | failure (.usage e) => some (usage e)
  | stopped _ cause => some (failure cause)
  | config e => e.source?.map source
  | usage _ => none
  | source s => s.source?.map source

/-- The link that tells an error. -/
def link : Cause → Link
  | failure f => .failure f
  | stopped stage _ => .stage stage
  | config e => .config e
  | usage e => .usage e
  | source s => .ofSource s

/-- The links of all that lies behind an error. -/
def links : Cause → List Link
  | failure f => f.links
  | stopped _ cause => .failure cause :: cause.links
  | config e => e.links
  | usage _ => []
  | source s => (s.source?.map Source.links).getD []

/-- The links behind an error are that of its source and those behind the source. -/
theorem links_eq (c : Cause) :
    c.links = (c.source?.map fun next => next.link :: next.links).getD [] := by
  cases c with
  | failure f =>
      cases f with
      | context note cause => rfl
      | stopped stage cause => rfl
      | config e => rfl
      | system e =>
          show Link.system e :: e.links = Link.system e :: e.source.links
          cases e <;> rfl
      | usage e => rfl
  | stopped stage cause => rfl
  | config e =>
      simp only [links, source?, ConfigError.links]
      cases e.source? with
      | none => rfl
      | some s => exact s.links_eq
  | usage e => rfl
  | source s =>
      simp only [links, source?]
      cases s.source? with
      | none => rfl
      | some next => exact next.links_eq

/-- Every source is nearer to the end. -/
theorem links_of_source (h : c.source? = some next) : c.links = next.link :: next.links := by
  rw [links_eq, h]
  rfl

/-- Behind an error without a source stands nothing. -/
theorem links_of_none (h : c.source? = none) : c.links = [] := by
  rw [links_eq, h]
  rfl

/-- All that lies behind an error, one source after the other. -/
def chain (c : Cause) : List Cause :=
  match _h : c.source? with
  | none => []
  | some next => next :: next.chain
termination_by c.links.length
decreasing_by simp [links_of_source _h]

/-- The chain behind an error is its source and the chain behind that. -/
theorem chain_eq (c : Cause) :
    c.chain = (c.source?.map fun next => next :: next.chain).getD [] := by
  rw [chain]
  split
  · rename_i hnone
    rw [hnone]
    rfl
  · rename_i next hnext
    rw [hnext]
    rfl

/-- The chain goes on with the source and its chain. -/
theorem chain_of_some (h : c.source? = some next) : c.chain = next :: next.chain := by
  rw [chain_eq, h]
  rfl

/-- The chain ends at an error without a source. -/
theorem chain_of_none (h : c.source? = none) : c.chain = [] := by
  rw [chain_eq, h]
  rfl

/-- What stands behind the source stands behind the error. -/
theorem chain_subset (h : c.source? = some next) : next.chain ⊆ c.chain := by
  rw [chain_of_some h]
  exact List.subset_cons_self next next.chain

/-- **The links behind an error are its chain of sources.** -/
theorem map_link_chain (c : Cause) : c.chain.map link = c.links := by
  cases hsource : c.source? with
  | none => rw [chain_of_none hsource, links_of_none hsource, List.map_nil]
  | some next =>
      rw [chain_of_some hsource, links_of_source hsource, List.map_cons, map_link_chain next]
termination_by c.links.length
decreasing_by simp [links_of_source hsource]

/-- Behind the first error of a chain stands its own chain. -/
theorem chain_behind_first {after : List Cause} (h : c.chain = next :: after) :
    after = next.chain := by
  cases hsource : c.source? with
  | none => simp [chain_of_none hsource] at h
  | some first =>
      rw [chain_of_some hsource, List.cons.injEq] at h
      obtain ⟨rfl, htail⟩ := h
      exact htail.symm

/-- Behind any error of a chain stands its own chain. -/
theorem chain_behind {before after : List Cause} (h : c.chain = before ++ next :: after) :
    after = next.chain := by
  induction before generalizing c with
  | nil => exact chain_behind_first h
  | cons first before ih => exact ih (chain_behind_first h).symm

/-! ## Faults of the system in a chain -/

/-- The fault of the system that an error is. -/
def system? (c : Cause) : Option SystemError :=
  c.link.system?

/-- An error counts as a fault of the system only if it is that fault itself. -/
theorem system?_eq_some_iff : c.system? = some e ↔ c = system e := by
  cases c with
  | source s => cases s <;> simp [system?, link, Link.ofSource, Link.system?, system]
  | _ => simp [system?, link, Link.system?, system]

/-- A search for a fault of the system fails exactly if the chain holds none. -/
theorem findSome?_system?_eq_none_iff {chain : List Cause} :
    chain.findSome? system? = none ↔ ∀ e, system e ∉ chain := by
  rw [List.findSome?_eq_none_iff]
  constructor
  · intro h e he
    cases h _ he
  · intro h c hc
    rw [Option.eq_none_iff_forall_ne_some]
    intro e he
    rw [system?_eq_some_iff.1 he] at hc
    exact h e hc

/-- The links behind an error tell which faults of the system stand in its chain. -/
theorem system_mem_chain_iff : system e ∈ c.chain ↔ .system e ∈ c.links := by
  rw [← map_link_chain, List.mem_map]
  constructor
  · intro h
    exact ⟨system e, h, rfl⟩
  · intro h
    obtain ⟨other, hother, hlink⟩ := h
    have hsystem : other.system? = some e := by rw [system?, hlink, Link.system?]
    rwa [system?_eq_some_iff.1 hsystem] at hother

/-- A fault of the system stands in a chain, and none stands in front of it. -/
def First (e : SystemError) (chain : List Cause) : Prop :=
  ∃ before after, chain = before ++ system e :: after ∧ ∀ other, system other ∉ before

/-- A fault of the system stands in a chain, in one place, and no other does. -/
def Only (e : SystemError) (chain : List Cause) : Prop :=
  ∃ before after, chain = before ++ system e :: after ∧ ∀ other, system other ∉ before ++ after

/-- The first fault of the system is the one that a search from the front finds. -/
theorem first_iff {chain : List Cause} : First e chain ↔ chain.findSome? system? = some e := by
  rw [List.findSome?_eq_some_iff]
  constructor
  · intro h
    obtain ⟨before, after, heq, hbefore⟩ := h
    have hnone := findSome?_system?_eq_none_iff.2 hbefore
    exact ⟨before, system e, after, heq, rfl, List.findSome?_eq_none_iff.1 hnone⟩
  · intro h
    obtain ⟨before, c, after, heq, hc, hbefore⟩ := h
    rw [system?_eq_some_iff.1 hc] at heq
    have hnone := List.findSome?_eq_none_iff.2 hbefore
    exact ⟨before, after, heq, findSome?_system?_eq_none_iff.1 hnone⟩

/-- A fault of the system is the only one of a chain if it is the first and none stands behind
it. -/
theorem only_iff_first :
    Only e c.chain ↔ First e c.chain ∧ ∀ other, system other ∉ (system e).chain := by
  constructor
  · intro h
    obtain ⟨before, after, heq, hother⟩ := h
    rw [← chain_behind heq]
    constructor
    · exact ⟨before, after, heq, fun other h => hother other (List.mem_append_left after h)⟩
    · exact fun other h => hother other (List.mem_append_right before h)
  · intro h
    obtain ⟨⟨before, after, heq, hbefore⟩, hafter⟩ := h
    rw [← chain_behind heq] at hafter
    refine ⟨before, after, heq, fun other h => ?_⟩
    cases List.mem_append.1 h with
    | inl hmem => exact hbefore other hmem
    | inr hmem => exact hafter other hmem

end Cause

open Cause (chain_of_some chain_of_none chain_subset)

/-- The links of a failure are the chain of its sources. -/
theorem map_link_chain (f : Failure) : (Cause.failure f).chain.map Cause.link = f.links :=
  Cause.map_link_chain (.failure f)

/-- Each layer tells of a file that could not be read, and so does the layer's own error. -/
example :
    causes (.stopped (.fixing (.ofText "p")) (.system (.fileRead (.ofText "p") .notText))) =
      ["Failed to fix 'p'",
       "Infrastructure error: Failed to read file 'p': stream did not contain valid UTF-8",
       "Failed to read file 'p': stream did not contain valid UTF-8",
       "stream did not contain valid UTF-8"] := rfl

/-- No fault of the system stands behind a refused setting of a failure.  This has to be said, as
what caused a pattern to be refused may be any error. -/
def RefusedAlone (f : Failure) : Prop :=
  ∀ refused, Cause.config refused ∈ (Cause.failure f).chain →
    ∀ e, Cause.system e ∉ (Cause.config refused).chain

/-- If the refused settings of a failure stand alone, so do those of any part of its chain. -/
theorem RefusedAlone.of_subset {f cause : Failure} (h : f.RefusedAlone)
    (hsub : (Cause.failure cause).chain ⊆ (Cause.failure f).chain) : cause.RefusedAlone :=
  fun refused hrefused => h refused (hsub hrefused)

/-- A failure without a refused setting among its links has nothing behind one. -/
theorem RefusedAlone.of_links {f : Failure} (h : ∀ refused, .config refused ∉ f.links) :
    f.RefusedAlone := by
  intro refused hrefused
  have hlink := List.mem_map_of_mem (f := Cause.link) hrefused
  rw [map_link_chain] at hlink
  exact absurd hlink (h refused)

/-- Following the sources from the front comes first to the fault of the system at the leaf. -/
theorem findSome?_chain (f : Failure) (h : f.RefusedAlone) :
    (Cause.failure f).chain.findSome? Cause.system? = f.system? := by
  induction f with
  | context note cause ih =>
      have hcause := ih (h.of_subset (chain_subset rfl))
      rw [chain_of_some rfl, List.findSome?_cons_of_isNone rfl, hcause]
      rfl
  | stopped stage cause ih =>
      have hstage : (Cause.stopped stage cause).source? = some (.failure cause) := rfl
      have hcause := ih (h.of_subset (List.Subset.trans (chain_subset hstage) (chain_subset rfl)))
      rw [chain_of_some rfl, List.findSome?_cons_of_isNone rfl, chain_of_some hstage,
        List.findSome?_cons_of_isNone rfl, hcause]
      rfl
  | config refused =>
      have hchain : (Cause.failure (.config refused)).chain =
          .config refused :: (Cause.config refused).chain := chain_of_some rfl
      have hnone : ∀ e, Cause.system e ∉ (Cause.config refused).chain :=
        h refused (by rw [hchain]; exact List.mem_cons_self)
      rw [hchain, List.findSome?_cons_of_isNone rfl]
      exact Cause.findSome?_system?_eq_none_iff.2 hnone
  | system e =>
      rw [chain_of_some rfl]
      rfl
  | usage e =>
      rw [chain_of_some rfl, chain_of_none rfl]
      rfl

/-! ## Wrappers -/

/-- What may be put around a failure. -/
inductive Wrapper
  | note (text : String)
  | stage (stage : Stage)

/-- A failure with a wrapper around it. -/
def wrap : Wrapper → Failure → Failure
  | .note text, f => .context text f
  | .stage stage, f => .stopped stage f

/-- A failure with wrappers around it, outermost first. -/
def wrapped (wrappers : List Wrapper) (f : Failure) : Failure :=
  wrappers.foldr wrap f

/-- Wrappers hide no fault of the system and add none. -/
theorem system?_wrapped (wrappers : List Wrapper) (f : Failure) :
    (wrapped wrappers f).system? = f.system? := by
  induction wrappers with
  | nil => rfl
  | cons wrapper wrappers ih =>
      cases wrapper with
      | note text => exact ih
      | stage stage => exact ih

/-- **The fault that `system?` finds is the first one in the chain of a failure**, and the chain
holds none if there is none to be found.  It is the only one exactly if none stands behind itself,
handed on by the error that it was made of.  Whatever is wrapped around the failure, the same fault
is found. -/
theorem system?_first_in_chain (f : Failure) (h : f.RefusedAlone) :
    (f.system?.isSome ↔ ∃ e, Cause.system e ∈ (Cause.failure f).chain) ∧
    (∀ e, f.system? = some e ↔ Cause.First e (Cause.failure f).chain) ∧
    (∀ e, Cause.Only e (Cause.failure f).chain ↔
      f.system? = some e ∧ ∀ other, Cause.system other ∉ (Cause.system e).chain) ∧
    ∀ wrappers, (wrapped wrappers f).system? = f.system? := by
  have hchain := findSome?_chain f h
  have hfirst : ∀ e, f.system? = some e ↔ Cause.First e (Cause.failure f).chain := by
    intro e
    rw [Cause.first_iff, hchain]
  refine ⟨?_, hfirst, ?_, fun wrappers => system?_wrapped wrappers f⟩
  · rw [Option.isSome_iff_exists]
    constructor
    · intro hsome
      obtain ⟨e, he⟩ := hsome
      obtain ⟨before, after, heq, -⟩ := (hfirst e).1 he
      exact ⟨e, by rw [heq]; simp⟩
    · intro hmem
      obtain ⟨e, he⟩ := hmem
      apply Option.ne_none_iff_exists'.1
      intro hnone
      rw [← hchain, Cause.findSome?_system?_eq_none_iff] at hnone
      exact hnone e he
  · intro e
    rw [Cause.only_iff_first, hfirst]

/-- A file that was missed while something else was handled. -/
def missingFile : SystemError :=
  .fileRead (.ofText "p") (.ofKind .notFound)

/-- A summary could not be written, and the writer's own error was that of a missing file. -/
def twoFaults : Failure :=
  .system (.summaryWrite (.carrying (message (.system missingFile)) (.system missingFile)))

/-- A pattern was refused by an error behind which stands a missing file. -/
def hiddenFault : Failure :=
  let cause : Source := .other "no pattern" (.system missingFile)
  .config (.invalidPattern "~/" (.stated "no pattern" (some cause)))

/-- What is found around `twoFaults` is the outer fault, the first of the chain. -/
theorem system?_first_around_twoFaults :
    let f := wrapped [.note "while reporting", .stage (.fixing (.ofText "p"))] twoFaults
    f.RefusedAlone ∧ ∃ e, f.system? = some e ∧ Cause.First e (Cause.failure f).chain := by
  intro f
  have halone : f.RefusedAlone := by
    apply RefusedAlone.of_links
    simp [f, wrapped, wrap, twoFaults, missingFile, links, SystemError.links, Fault.links,
      Source.links]
  exact ⟨halone, _, rfl, ((system?_first_in_chain f halone).2.1 _).1 rfl⟩

/-- **The fault that `system?` finds need not be the only one of the chain**, and a chain can hold
one that it does not find, behind a refused pattern. -/
theorem two_faults_in_chain :
    (twoFaults.RefusedAlone ∧
      ∃ outer, twoFaults.system? = some outer ∧ missingFile ≠ outer ∧
        Cause.system outer ∈ (Cause.failure twoFaults).chain ∧
        Cause.system missingFile ∈ (Cause.failure twoFaults).chain ∧
        ¬ Cause.Only outer (Cause.failure twoFaults).chain) ∧
    hiddenFault.system? = none ∧ Cause.system missingFile ∈ (Cause.failure hiddenFault).chain := by
  simp only [Cause.system_mem_chain_iff, Cause.only_iff_first]
  refine ⟨⟨?_, _, rfl, by decide, by decide, by decide, ?_⟩, rfl, by decide⟩
  · apply RefusedAlone.of_links
    simp [twoFaults, missingFile, links, SystemError.links, Fault.links, Source.links]
  · intro h
    exact h.2 missingFile (by decide)

end Failure

end Dealias
