import Mathlib.Tactic

/-!
# Tables with a primary key

A table keeps its rows in insertion order and no two rows share a key; the
invariant is a field, so an insertion that would break it is refused and an
update must leave the keys alone.  Reads are by key (`find`), by any condition
(`fetchone`, the first match) or of all matches (`select`).
-/

namespace Ryuk
namespace Foundation

/-- Rows in insertion order with pairwise distinct keys. -/
structure Table (ρ κ : Type) (key : ρ → κ) where
  rows : List ρ
  unique : (rows.map key).Nodup

namespace Table

variable {ρ κ : Type} {key : ρ → κ}

@[ext] theorem ext {left right : Table ρ κ key} (h : left.rows = right.rows) : left = right := by
  cases left
  cases right
  simpa using h

/-- The table without rows. -/
def empty : Table ρ κ key := ⟨[], List.nodup_nil⟩

/-- All rows that satisfy a condition, in insertion order. -/
def select (table : Table ρ κ key) (condition : ρ → Bool) : List ρ :=
  table.rows.filter condition

/-- The first row that satisfies a condition. -/
def fetchone (table : Table ρ κ key) (condition : ρ → Bool) : Option ρ :=
  table.rows.find? condition

/-- Change the rows that satisfy a condition; keys stay. -/
def update (table : Table ρ κ key) (condition : ρ → Bool) (change : ρ → ρ)
    (hkey : ∀ row, key (change row) = key row) : Table ρ κ key where
  rows := table.rows.map fun row => if condition row then change row else row
  unique := by
    have hmap : (table.rows.map fun row => if condition row then change row else row).map key =
        table.rows.map key := by
      rw [List.map_map]
      refine List.map_congr_left fun row _ => ?_
      simp only [Function.comp]
      split_ifs
      · exact hkey row
      · rfl
    rw [hmap]
    exact table.unique

theorem mem_select {table : Table ρ κ key} {condition : ρ → Bool} {row : ρ} :
    row ∈ table.select condition ↔ row ∈ table.rows ∧ condition row = true :=
  List.mem_filter

/-- A query that implies one with a single row finds that row, if it meets it. -/
theorem fetchone_of_select {table : Table ρ κ key} {condition weaker : ρ → Bool} {row : ρ}
    (honly : table.select weaker = [row]) (hrow : condition row = true)
    (himplies : ∀ other, condition other = true → weaker other = true) :
    table.fetchone condition = some row := by
  have hmem : row ∈ table.rows := by
    have hselect : row ∈ table.select weaker := by
      rw [honly]
      exact List.mem_singleton_self row
    exact (mem_select.mp hselect).1
  cases hfound : table.fetchone condition with
  | none => exact absurd hrow (List.find?_eq_none.mp hfound row hmem)
  | some other =>
      have hother : other ∈ table.select weaker := mem_select.mpr
        ⟨List.mem_of_find?_eq_some hfound, himplies other (List.find?_some hfound)⟩
      rw [honly, List.mem_singleton] at hother
      rw [hother]

@[simp] theorem select_empty (condition : ρ → Bool) :
    (empty : Table ρ κ key).select condition = [] := rfl

variable [DecidableEq κ]

/-- The row with a key. -/
def find (table : Table ρ κ key) (k : κ) : Option ρ :=
  table.rows.find? fun row => decide (key row = k)

/-- Append a row; refused when its key is taken. -/
def insert (table : Table ρ κ key) (row : ρ) : Option (Table ρ κ key) :=
  if h : key row ∈ table.rows.map key then none
  else some
    { rows := table.rows ++ [row]
      unique := by
        rw [List.map_append, List.map_singleton, List.nodup_append]
        refine ⟨table.unique, List.nodup_singleton _, ?_⟩
        intro taken htaken fresh hfresh heq
        rw [List.mem_singleton] at hfresh
        rw [heq, hfresh] at htaken
        exact h htaken }

/-! ### Reading by key -/

@[simp] theorem find_empty (k : κ) : (empty : Table ρ κ key).find k = none := rfl

theorem find_key {table : Table ρ κ key} {k : κ} {row : ρ} (h : table.find k = some row) :
    key row = k := by
  simpa using List.find?_some h

theorem mem_of_find {table : Table ρ κ key} {k : κ} {row : ρ} (h : table.find k = some row) :
    row ∈ table.rows :=
  List.mem_of_find?_eq_some h

/-- A row is what its key finds. -/
theorem find_of_mem {table : Table ρ κ key} {row : ρ} (h : row ∈ table.rows) :
    table.find (key row) = some row := by
  obtain ⟨rows, unique⟩ := table
  unfold find
  simp only at h ⊢
  induction rows with
  | nil => cases h
  | cons first rest ih =>
      rw [List.map_cons, List.nodup_cons] at unique
      rcases List.mem_cons.mp h with rfl | hrest
      · simp
      · have hne : key first ≠ key row := by
          intro heq
          exact unique.1 (heq ▸ List.mem_map_of_mem hrest)
        rw [List.find?_cons_of_neg (by simpa using hne)]
        exact ih unique.2 hrest

theorem find_eq_some_iff {table : Table ρ κ key} {k : κ} {row : ρ} :
    table.find k = some row ↔ row ∈ table.rows ∧ key row = k := by
  constructor
  · intro h
    exact ⟨mem_of_find h, find_key h⟩
  · rintro ⟨hmem, rfl⟩
    exact find_of_mem hmem

theorem find_eq_none_iff {table : Table ρ κ key} {k : κ} :
    table.find k = none ↔ k ∉ table.rows.map key := by
  unfold find
  rw [List.find?_eq_none]
  simp [List.mem_map]

/-- A condition that fixes the key reads the row with that key. -/
theorem fetchone_of_key {table : Table ρ κ key} {condition : ρ → Bool} {k : κ}
    (h : ∀ row, condition row = true → key row = k) :
    table.fetchone condition = (table.find k).filter condition := by
  cases hfound : table.fetchone condition with
  | none =>
      cases hfind : table.find k with
      | none => rfl
      | some row =>
          have hrow := List.find?_eq_none.mp hfound row (mem_of_find hfind)
          simp [Option.filter, hrow]
  | some row =>
      have hcondition : condition row = true := List.find?_some hfound
      have hmem : row ∈ table.rows := List.mem_of_find?_eq_some hfound
      rw [find_eq_some_iff.mpr ⟨hmem, h row hcondition⟩]
      simp [Option.filter, hcondition]

/-- At most one row has a key. -/
theorem select_key_length_le_one (table : Table ρ κ key) (k : κ) :
    (table.select fun row => decide (key row = k)).length ≤ 1 := by
  have hcount : (table.select fun row => decide (key row = k)).length =
      (table.rows.map key).count k := by
    rw [select, List.count, List.countP_map, List.countP_eq_length_filter]
    congr 1
  rw [hcount]
  exact List.nodup_iff_count_le_one.mp table.unique k

/-- Exactly one row satisfies a condition that fixes the key of a row that does. -/
theorem select_length_eq_one {table : Table ρ κ key} {condition : ρ → Bool} {k : κ} {row : ρ}
    (hfixed : ∀ other, condition other = true → key other = k) (hrow : table.find k = some row)
    (hcondition : condition row = true) : (table.select condition).length = 1 := by
  have hmem : row ∈ table.select condition := mem_select.mpr ⟨mem_of_find hrow, hcondition⟩
  have hpos : 0 < (table.select condition).length := List.length_pos_of_mem hmem
  have hle : (table.select condition).length ≤
      (table.select fun row => decide (key row = k)).length := by
    apply List.Sublist.length_le
    refine List.monotone_filter_right table.rows fun other hother => ?_
    exact decide_eq_true (hfixed other hother)
  have := table.select_key_length_le_one k
  omega

/-! ### Reading after an insertion -/

theorem insert_rows {table next : Table ρ κ key} {row : ρ} (h : table.insert row = some next) :
    next.rows = table.rows ++ [row] := by
  unfold insert at h
  split_ifs at h
  rw [← Option.some.inj h]

theorem insert_fresh {table next : Table ρ κ key} {row : ρ} (h : table.insert row = some next) :
    table.find (key row) = none := by
  rw [find_eq_none_iff]
  intro htaken
  rw [insert, dif_pos htaken] at h
  cases h

theorem insert_of_fresh {table : Table ρ κ key} {row : ρ} (h : table.find (key row) = none) :
    ∃ next, table.insert row = some next := by
  rw [find_eq_none_iff] at h
  rw [insert, dif_neg h]
  exact ⟨_, rfl⟩

theorem insert_taken {table : Table ρ κ key} {row found : ρ}
    (h : table.find (key row) = some found) : table.insert row = none := by
  cases hinsert : table.insert row with
  | none => rfl
  | some next =>
      rw [insert_fresh hinsert] at h
      cases h

theorem find_insert {table next : Table ρ κ key} {row : ρ} (h : table.insert row = some next)
    (k : κ) : next.find k = if key row = k then some row else table.find k := by
  unfold find
  rw [insert_rows h, List.find?_append]
  have hfresh := insert_fresh h
  split_ifs with hk
  · subst hk
    unfold find at hfresh
    rw [hfresh]
    simp
  · have hlast : [row].find? (fun row => decide (key row = k)) = none := by simp [hk]
    rw [hlast, Option.or_none]

theorem select_insert {table next : Table ρ κ key} {row : ρ} (h : table.insert row = some next)
    (condition : ρ → Bool) :
    next.select condition =
      table.select condition ++ (if condition row then [row] else []) := by
  unfold select
  rw [insert_rows h, List.filter_append, List.filter_singleton]
  cases condition row with
  | true => rfl
  | false => rfl

theorem mem_insert {table next : Table ρ κ key} {row other : ρ}
    (h : table.insert row = some next) :
    other ∈ next.rows ↔ other ∈ table.rows ∨ other = row := by
  rw [insert_rows h, List.mem_append, List.mem_singleton]

/-! ### Reading after an update -/

theorem find_update (table : Table ρ κ key) (condition : ρ → Bool) (change : ρ → ρ)
    (hkey : ∀ row, key (change row) = key row) (k : κ) :
    (table.update condition change hkey).find k =
      (table.find k).map fun row => if condition row then change row else row := by
  unfold find update
  simp only
  rw [List.find?_map]
  congr 1
  refine congrArg (fun test => List.find? test table.rows) ?_
  funext row
  simp only [Function.comp]
  split_ifs
  · rw [hkey]
  · rfl

/-- An update of the row with one key reads as before at every other key. -/
theorem find_update_other {table : Table ρ κ key} {condition : ρ → Bool} {change : ρ → ρ}
    {hkey : ∀ row, key (change row) = key row} {target k : κ}
    (hcondition : ∀ row, condition row = true → key row = target) (hne : k ≠ target) :
    (table.update condition change hkey).find k = table.find k := by
  rw [find_update]
  cases hfind : table.find k with
  | none => rfl
  | some row =>
      have hrow : condition row ≠ true := by
        intro htrue
        exact hne ((find_key hfind).symm.trans (hcondition row htrue))
      simp [hrow]

/-- An update that meets the row with its key changes that row. -/
theorem find_update_self {table : Table ρ κ key} {condition : ρ → Bool} {change : ρ → ρ}
    {hkey : ∀ row, key (change row) = key row} {k : κ} {row : ρ}
    (hfind : table.find k = some row) (hrow : condition row = true) :
    (table.update condition change hkey).find k = some (change row) := by
  rw [find_update, hfind]
  simp [hrow]

omit [DecidableEq κ] in
/-- An update that a condition does not see changes the selected rows in place. -/
theorem select_update (table : Table ρ κ key) {condition : ρ → Bool} {change : ρ → ρ}
    {hkey : ∀ row, key (change row) = key row} {test : ρ → Bool}
    (htest : ∀ row, test (change row) = test row) :
    (table.update condition change hkey).select test =
      (table.select test).map fun row => if condition row then change row else row := by
  unfold select update
  simp only
  rw [List.filter_map]
  congr 1
  refine congrArg (fun test => List.filter test table.rows) ?_
  funext row
  simp only [Function.comp]
  split_ifs
  · rw [htest]
  · rfl

end Table
end Foundation
end Ryuk
