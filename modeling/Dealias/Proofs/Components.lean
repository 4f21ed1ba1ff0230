import Mathlib.Data.List.Lex
import Dealias.Proofs.Found

/-!
# Components of a path

A path taken apart: the top or the dot that it starts from, and then its names and its steps up.
Separators in a row and lone dots on the way leave nothing behind.  Paths are put in order by the
first component in which they differ, not by the first byte: `a/x` stands before `a-b`, although a
separator stands behind a hyphen.

A name below a path is one more component (`components_child`), so rows of names in order make
paths in order (`precedes_below`).
-/

namespace Dealias

open Disk (Name Before)

namespace Path

/-- A part of a path that says something about the way. -/
inductive Component
  /-- The top of the file system, from which an absolute path starts. -/
  | top
  /-- The dot that a relative path may start with. -/
  | here
  | up
  | name (bytes : List UInt8)
  deriving DecidableEq

namespace Component

/-- The place of a component among those of other kinds. -/
def rank : Component → Nat
  | top => 0
  | here => 1
  | up => 2
  | name _ => 3

/-- Components in order: by their kinds, and names by their bytes. -/
inductive Precedes : Component → Component → Prop
  | kind {a b : Component} (h : a.rank < b.rank) : Precedes a b
  | name {x y : List UInt8} (h : x < y) : Precedes (.name x) (.name y)

/-- The component that the bytes between two separators make. -/
def ofBytes (bytes : List UInt8) : Component :=
  if bytes = [dot, dot] then .up else .name bytes

theorem Precedes.irrefl (a : Component) : ¬ Precedes a a := by
  intro h
  cases h with
  | kind h => exact Nat.lt_irrefl _ h
  | name h => exact List.lt_irrefl _ h

end Component

/-- The components of a path, from left to right. -/
def components (p : Path) : List Component :=
  let parts := Search.parts slash p.bytes
  let start := if p.isAbsolute then [.top] else if parts.head? = some [dot] then [.here] else []
  start ++ (parts.filter fun part => part ≠ [] ∧ part ≠ [dot]).map Component.ofBytes

/-- Paths in order: by the first component that differs. -/
def Precedes (p q : Path) : Prop :=
  List.Lex Component.Precedes p.components q.components

/-- No path stands before itself. -/
theorem Precedes.ne {p q : Path} (h : p.Precedes q) : p ≠ q := by
  rintro rfl
  exact List.lex_irrefl Component.Precedes.irrefl _ h

/-- A name is read as itself, as no name is two dots. -/
theorem ofBytes_name (name : Name) : Component.ofBytes name.bytes = .name name.bytes :=
  if_neg name.isName.2.2.1

/-- **A name below a path is one more component.** -/
theorem components_child (p : Path) (name : Name) :
    (p.child name.bytes).components = p.components ++ [.name name.bytes] := by
  obtain ⟨front, tail, hparts, hchild, htail⟩ := Disk.exists_parts_child p name
  have hne := name.isName.1
  have hdot := name.isName.2.1
  have hhead : (front ++ [name.bytes]).head? = some [dot] ↔ (front ++ tail).head? = some [dot] := by
    cases front with
    | nil => rcases htail with rfl | rfl <;> simp [hdot]
    | cons first front => simp
  have hfilter : (tail.filter fun part => part ≠ [] ∧ part ≠ [dot]) = [] := by
    rcases htail with rfl | rfl <;> simp
  simp only [components, Disk.isAbsolute_child, hparts, hchild, hhead, List.filter_append, hfilter]
  simp [hne, hdot, ofBytes_name]

/-- Names below a path are the components behind those of the path. -/
theorem components_below (p : Path) (names : List Name) :
    (p.below names).components = p.components ++ names.map fun name => .name name.bytes := by
  induction names generalizing p with
  | nil => simp [below]
  | cons name names ih => simp [below, ih, components_child]

/-- **Rows of names in order make paths in order.** -/
theorem precedes_below (p : Path) {row other : List Name} (h : Before row other) :
    (p.below row).Precedes (p.below other) := by
  unfold Precedes
  rw [components_below, components_below]
  refine List.Lex.append_left _ ?_ _
  induction h with
  | nil => exact .nil
  | cons _ ih => exact .cons ih
  | rel hlt => exact .rel (.name hlt)

end Path

end Dealias
