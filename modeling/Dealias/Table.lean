/-!
# Tables

A finite table gives a value to each of its keys.  Its rows keep the order in which the keys came;
no key has two rows.  A table is seen through `get?`, and each operation says what it does to that
view.
-/

namespace Dealias

/-- Rows of keys and values, each key once. -/
structure Table (κ ν : Type) where
  rows : List (κ × ν)
  distinct : (rows.map Prod.fst).Nodup

namespace Table

variable {κ ν : Type} [DecidableEq κ]

/-- The value in the row of a key. -/
def lookup (k : κ) : List (κ × ν) → Option ν
  | [] => none
  | (l, v) :: rest => if l = k then some v else lookup k rest

/-- Puts a value into the row of a key, or into a new last row. -/
def assign (k : κ) (v : ν) : List (κ × ν) → List (κ × ν)
  | [] => [(k, v)]
  | (l, w) :: rest => if l = k then (l, v) :: rest else (l, w) :: assign k v rest

/-- Takes out the row of a key. -/
def remove (k : κ) (rows : List (κ × ν)) : List (κ × ν) :=
  rows.filter fun row => row.1 ≠ k

theorem mem_assign_keys {k : κ} {v : ν} {rows : List (κ × ν)} {l : κ} :
    l ∈ (assign k v rows).map Prod.fst ↔ l = k ∨ l ∈ rows.map Prod.fst := by
  induction rows with
  | nil => simp [assign]
  | cons row rest ih =>
    by_cases h : row.1 = k
    · simp only [assign, h, if_true, List.map_cons, List.mem_cons]
      grind
    · simp only [assign, h, if_false, List.map_cons, List.mem_cons, ih]
      grind

theorem assign_distinct {k : κ} {v : ν} {rows : List (κ × ν)}
    (h : (rows.map Prod.fst).Nodup) : ((assign k v rows).map Prod.fst).Nodup := by
  induction rows with
  | nil => simp [assign]
  | cons row rest ih =>
    simp only [List.map_cons, List.nodup_cons] at h
    by_cases hk : row.1 = k
    · simpa only [assign, hk, if_true, List.map_cons, List.nodup_cons] using hk ▸ h
    · simp only [assign, hk, if_false, List.map_cons, List.nodup_cons]
      refine ⟨fun hm => ?_, ih h.2⟩
      rcases mem_assign_keys.1 hm with hm | hm
      · exact hk hm
      · exact h.1 hm

theorem remove_distinct {k : κ} {rows : List (κ × ν)} (h : (rows.map Prod.fst).Nodup) :
    ((remove k rows).map Prod.fst).Nodup :=
  h.sublist (List.filter_sublist.map Prod.fst)

/-- The table without rows. -/
def empty : Table κ ν := ⟨[], List.nodup_nil⟩

/-- The value of a key. -/
def get? (t : Table κ ν) (k : κ) : Option ν := lookup k t.rows

/-- The keys, in the order of their rows. -/
def keys (t : Table κ ν) : List κ := t.rows.map Prod.fst

/-- The table with a value for a key. -/
def set (t : Table κ ν) (k : κ) (v : ν) : Table κ ν :=
  ⟨assign k v t.rows, assign_distinct t.distinct⟩

/-- The table without a key. -/
def erase (t : Table κ ν) (k : κ) : Table κ ν := ⟨remove k t.rows, remove_distinct t.distinct⟩

theorem lookup_assign (k l : κ) (v : ν) (rows : List (κ × ν)) :
    lookup l (assign k v rows) = if k = l then some v else lookup l rows := by
  induction rows with
  | nil => simp [assign, lookup]
  | cons row rest ih =>
    by_cases hk : row.1 = k
    · by_cases hl : k = l <;> simp [assign, lookup, hk, hl]
    · simp only [assign, hk, if_false, lookup, ih]
      by_cases hl : row.1 = l
      · have : ¬ k = l := fun h => hk (hl.trans h.symm)
        simp [hl, this]
      · simp [hl]

/-- A key that was set has the new value, every other its old one. -/
theorem get?_set (t : Table κ ν) (k l : κ) (v : ν) :
    (t.set k v).get? l = if k = l then some v else t.get? l :=
  lookup_assign k l v t.rows

theorem lookup_remove (k l : κ) (rows : List (κ × ν)) :
    lookup l (remove k rows) = if k = l then none else lookup l rows := by
  induction rows with
  | nil => simp [remove, lookup]
  | cons row rest ih =>
    unfold remove at ih ⊢
    by_cases hk : row.1 = k
    · by_cases hl : k = l <;> simp_all [lookup]
    · by_cases hl : row.1 = l
      · have : ¬ k = l := fun h => hk (hl.trans h.symm)
        simp_all [lookup]
      · simp_all [lookup]

/-- A key that was erased has no value, every other its old one. -/
theorem get?_erase (t : Table κ ν) (k l : κ) :
    (t.erase k).get? l = if k = l then none else t.get? l :=
  lookup_remove k l t.rows

theorem lookup_eq_none {k : κ} {rows : List (κ × ν)} :
    lookup k rows = none ↔ k ∉ rows.map Prod.fst := by
  induction rows with
  | nil => simp [lookup]
  | cons row rest ih =>
    by_cases h : row.1 = k
    · simp [lookup, h]
    · simp only [lookup, h, if_false, ih, List.map_cons, List.mem_cons, not_or]
      exact ⟨fun hm => ⟨fun he => h he.symm, hm⟩, fun hm => hm.2⟩

/-- The keys are those that have a value. -/
theorem mem_keys {t : Table κ ν} {k : κ} : k ∈ t.keys ↔ (t.get? k).isSome := by
  have := @lookup_eq_none κ ν _ k t.rows
  rw [Option.isSome_iff_ne_none, ne_eq, get?, this, keys, Classical.not_not]

/-- What a key was set to does not matter once it is erased. -/
theorem erase_set_eq (t : Table κ ν) (k : κ) (v : ν) : (t.set k v).erase k = t.erase k := by
  obtain ⟨rows, distinct⟩ := t
  simp only [erase, set, mk.injEq]
  clear distinct
  induction rows with
  | nil => simp [assign, remove]
  | cons row rest ih =>
    unfold remove at ih ⊢
    by_cases hk : row.1 = k
    · simp [assign, hk]
    · simpa [assign, hk] using ih

/-- Erasing a key that has no value changes nothing. -/
theorem erase_eq_self {t : Table κ ν} {k : κ} (h : t.get? k = none) : t.erase k = t := by
  obtain ⟨rows, distinct⟩ := t
  have hk : k ∉ rows.map Prod.fst := lookup_eq_none.1 h
  simp only [erase, remove, mk.injEq, List.filter_eq_self, decide_eq_true_eq]
  rintro row hrow rfl
  exact hk (List.mem_map_of_mem hrow)

/-- Setting a new key and erasing it again changes nothing. -/
theorem erase_set {t : Table κ ν} {k : κ} {v : ν} (h : t.get? k = none) :
    (t.set k v).erase k = t := by
  rw [erase_set_eq, erase_eq_self h]

/-- Setting a key that has a value makes no new row. -/
theorem length_rows_set {t : Table κ ν} {k : κ} (v : ν) (h : (t.get? k).isSome) :
    (t.set k v).rows.length = t.rows.length := by
  obtain ⟨rows, distinct⟩ := t
  simp only [get?, set] at h ⊢
  clear distinct
  induction rows with
  | nil => simp [lookup] at h
  | cons row rest ih =>
    by_cases hk : row.1 = k
    · simp [assign, hk]
    · simp only [lookup, hk, if_false] at h
      simpa [assign, hk] using ih h

end Table

end Dealias
