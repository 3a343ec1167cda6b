import Ryuk.Control.RecordStore

/-!
# Migration under crashes

A file in the first layout goes through the renaming, which commits at once, before anything
else of its migration is stored; the copied rows and the new version are stored by the last
statement.  A crash in between leaves a file whose renaming fails forever.
-/

namespace Ryuk
namespace Control

open Foundation Foundation.Json Foundation.Autocommit

/-- The table of the first layout. -/
abbrev RecordsV1 := Table RecordRow (String × String) RecordRow.key

/-! ### The files a migration can leave -/

/-- A file in the first layout. -/
def versionOne (table : RecordsV1) : RecordDatabase := ⟨some [1], some (.keyed table), none⟩

/-- The rows of a table with sequence numbers, as they are copied. -/
def numberedRows (table : RecordsV1) : List (Nat × RecordRow) × Nat :=
  table.rows.foldl RecordDatabase.appendRow ([], 0)

/-- A file after the whole migration. -/
def migrated (table : RecordsV1) : RecordDatabase :=
  ⟨some [2], some (.numbered (numberedRows table).1 (numberedRows table).2 true), none⟩

/-- A file of version 1 in which the renaming fails: its records have been renamed, and perhaps
the new table has been created. -/
inductive LockedOut : RecordDatabase → Prop
  | renamed (table : RecordsTable) : LockedOut ⟨some [1], none, some table⟩
  | created (table other : RecordsTable) : LockedOut ⟨some [1], some other, some table⟩

/-! ### One opening -/

/-- An opening of a locked file changes nothing. -/
theorem LockedOut.crashAt_eq {file : RecordDatabase} (h : LockedOut file) (cut : Nat) :
    migrate.crashAt cut (.connect file) = file := by
  cases h with
  | renamed table =>
      -- the third statement is the renaming
      match cut with
      | 0 => rfl
      | 1 => rfl
      | 2 => rfl
      | _ + 3 => rfl
  | created table other =>
      match cut with
      | 0 => rfl
      | 1 => rfl
      | 2 => rfl
      | _ + 3 => rfl

/-- An opening of a locked file fails. -/
theorem LockedOut.openStore_error {file : RecordDatabase} (h : LockedOut file) :
    ∃ error, openStore file = .error error := by
  cases h with
  | renamed table => exact ⟨_, rfl⟩
  | created table other => exact ⟨_, rfl⟩

variable (table : RecordsV1)

/-- Before the renaming nothing is changed. -/
theorem crashAt_early (cut : Nat) (h : cut < 3) :
    migrate.crashAt cut (.connect (versionOne table)) = versionOne table := by
  match cut with
  | 0 => rfl
  | 1 => rfl
  | 2 => rfl

/-- From the renaming up to the commit a crash locks the file. -/
theorem crashAt_middle (cut : Nat) (hlow : 3 ≤ cut) (hhigh : cut < 11) :
    LockedOut (migrate.crashAt cut (.connect (versionOne table))) := by
  match cut with
  | 3 => exact .renamed (.keyed table)
  | 4 => exact .created (.keyed table) (.numbered [] 0 false)
  | 5 | 6 | 7 | 8 | 9 | 10 => exact .created (.keyed table) (.numbered [] 0 true)

/-- From the commit on the migration is stored. -/
theorem crashAt_late (cut : Nat) (h : 11 ≤ cut) :
    migrate.crashAt cut (.connect (versionOne table)) = migrated table := by
  obtain ⟨rest, rfl⟩ := Nat.exists_eq_add_of_le' h
  rfl

/-- A migrated file is not changed any more. -/
theorem crashAt_migrated (cut : Nat) :
    migrate.crashAt cut (.connect (migrated table)) = migrated table := by
  match cut with
  | 0 => rfl
  | 1 => rfl
  | 2 => rfl
  | 3 => rfl
  | 4 => rfl
  | _ + 5 => rfl

theorem openStore_versionOne :
    openStore (versionOne table) = .ok (.connect (migrated table)) := rfl

theorem openStore_migrated : openStore (migrated table) = .ok (.connect (migrated table)) := rfl


/-! ### Reading a migrated file -/

theorem foldl_appendRow (rows : List RecordRow) (start : List (Nat × RecordRow) × Nat) :
    (rows.foldl RecordDatabase.appendRow start).1.map Prod.snd = start.1.map Prod.snd ++ rows := by
  induction rows generalizing start with
  | nil => rw [List.foldl_nil, List.append_nil]
  | cons row rest ih =>
      rw [List.foldl_cons, ih]
      simp [RecordDatabase.appendRow]

/-- The copy holds the rows of the table. -/
theorem numberedRows_rows : (numberedRows table).1.map Prod.snd = table.rows := by
  unfold numberedRows
  rw [foldl_appendRow]
  rfl

/-- One row was copied for a key of the table. -/
theorem matchingRows_numbered {row : RecordRow} (hrow : row ∈ table.rows) :
    ∃ sequence, matchingRows row.tenantId row.requestId (numberedRows table).1 =
      [(sequence, row)] := by
  have hselect : (matchingRows row.tenantId row.requestId (numberedRows table).1).map Prod.snd =
      table.select fun other => decide (other.tenantId = row.tenantId) &&
        decide (other.requestId = row.requestId) := by
    unfold matchingRows Table.select
    rw [← numberedRows_rows table, List.filter_map]
    rfl
  -- the rows that agree on both columns have the same key
  have hlength : (table.select fun other => decide (other.tenantId = row.tenantId) &&
      decide (other.requestId = row.requestId)).length = 1 := by
    have hfound : table.find row.key = some row := Table.find_of_mem hrow
    apply Table.select_length_eq_one _ hfound
    · simp
    · intro other hother
      rw [Bool.and_eq_true, decide_eq_true_eq, decide_eq_true_eq] at hother
      exact Prod.ext hother.1 hother.2
  obtain ⟨only, honly⟩ := List.length_eq_one_iff.mp hlength
  have hmem : row ∈ [only] := by
    rw [← honly]
    apply Table.mem_select.mpr
    exact ⟨hrow, by simp⟩
  rw [honly, ← List.mem_singleton.mp hmem] at hselect
  obtain ⟨entry, hentry, hsnd⟩ := List.map_eq_singleton_iff.mp hselect
  exact ⟨entry.1, by rw [hentry, ← hsnd]⟩

/-- Every record of the table is read back from the migrated file. -/
theorem getRecord_migrated {row : RecordRow} (hrow : row ∈ table.rows) :
    getRecord (.connect (migrated table)) row.tenantId row.requestId = row.record.map some := by
  obtain ⟨sequence, hmatching⟩ := matchingRows_numbered table hrow
  have hrecords : (Connection.connect (migrated table)).view.executionRecords =
      some (.numbered (numberedRows table).1 (numberedRows table).2 true) := rfl
  have hsorted : Ranking.sortBy (fun entry : Nat × RecordRow => -(entry.1 : Int))
      [(sequence, row)] = [(sequence, row)] :=
    List.perm_singleton.mp (Ranking.sortBy_perm _ _)
  unfold getRecord
  rw [hrecords]
  dsimp only
  rw [hmatching, hsorted]
  rfl

/-! ### The result -/

/-- The file after openings that were cut short after some of their statements.  An opening
has eleven statements, so one that is not cut short counts as cut after that many or more. -/
def afterOpenings (cuts : List Nat) : RecordDatabase :=
  migrate.afterCrashes (versionOne table) cuts

/-- The last opening succeeds, reports the current version and gives every record of the
first layout. -/
def Survives (cuts : List Nat) : Prop :=
  ∃ store, openStore (afterOpenings table cuts) = .ok store ∧
    reportedVersion store = some schemaVersion ∧
    ∀ row ∈ table.rows, getRecord store row.tenantId row.requestId = row.record.map some

/-- The first opening that gets as far as the renaming also commits. -/
def FirstMigrationCommits (cuts : List Nat) : Prop :=
  ∀ cut, (cuts.find? fun cut => decide (3 ≤ cut)) = some cut → 11 ≤ cut

theorem survives_of_migrated {file : RecordDatabase}
    (h : openStore file = .ok (.connect (migrated table))) :
    ∃ store, openStore file = .ok store ∧ reportedVersion store = some schemaVersion ∧
      ∀ row ∈ table.rows, getRecord store row.tenantId row.requestId = row.record.map some :=
  ⟨_, h, rfl, fun _ hrow => getRecord_migrated table hrow⟩

/-- Only the first opening from the renaming on decides what is left. -/
theorem afterOpenings_eq (cuts : List Nat) : afterOpenings table cuts =
    match cuts.find? fun cut => decide (3 ≤ cut) with
    | none => versionOne table
    | some cut => migrate.crashAt cut (.connect (versionOne table)) := by
  unfold afterOpenings
  rw [Script.afterCrashes_of_first 3 cuts (crashAt_early table)]
  cases hfirst : cuts.find? fun cut => decide (3 ≤ cut) with
  | none => rfl
  | some cut =>
      have hlow : 3 ≤ cut := by simpa using List.find?_some hfirst
      apply Script.afterCrashes_of_fixed
      intro later _
      rcases Nat.lt_or_ge cut 11 with hhigh | hhigh
      · exact (crashAt_middle table cut hlow hhigh).crashAt_eq later
      · rw [crashAt_late table cut hhigh]
        exact crashAt_migrated table later

/-- **When a migration survives crashes.**  Whatever the records and however often the file was
opened and the opening cut short, the next opening finds every record exactly when the first
opening that renamed the table also committed. -/
theorem migration_survives_iff (cuts : List Nat) :
    Survives table cuts ↔ FirstMigrationCommits cuts := by
  have hfile := afterOpenings_eq table cuts
  unfold Survives FirstMigrationCommits
  cases hfirst : cuts.find? fun cut => decide (3 ≤ cut) with
  | none =>
      rw [hfirst] at hfile
      rw [hfile]
      constructor
      · intro _ cut hcut
        cases hcut
      · exact fun _ => survives_of_migrated table (openStore_versionOne table)
  | some first =>
      have hlow : 3 ≤ first := by simpa using List.find?_some hfirst
      rw [hfirst] at hfile
      rw [hfile]
      constructor
      · rintro ⟨store, hopen, -⟩ cut hcut
        cases hcut
        by_contra hhigh
        obtain ⟨error, herror⟩ :=
          (crashAt_middle table first hlow (Nat.lt_of_not_le hhigh)).openStore_error
        exact absurd (herror.symm.trans hopen) (by simp)
      · intro hcommits
        dsimp only
        rw [crashAt_late table first (hcommits first rfl)]
        exact survives_of_migrated table (openStore_migrated table)

/-- A file with one record of a tenant. -/
def oneRecord : RecordsV1 where
  rows := [⟨"request-1", "tenant-a", "accepted", "policy-v1", "{}", "2026-01-01T00:00:00+00:00"⟩]
  unique := List.nodup_singleton _

/-- A crash right after the renaming loses the record: no later opening succeeds. -/
theorem crash_after_renaming :
    ¬ ∀ (table : RecordsV1) (cuts : List Nat), Survives table cuts := by
  intro h
  obtain ⟨store, hopen, -⟩ := h oneRecord [3]
  cases hopen

end Control
end Ryuk
