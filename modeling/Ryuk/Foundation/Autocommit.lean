import Mathlib.Tactic

/-!
# Scripts under autocommit

A connection in which definitions commit at once unless a transaction is open, and a change of
rows opens one that lasts until `commit`.  A script may be cut short after any of its
statements; what the open transaction wrote is then rolled back.
-/

namespace Ryuk
namespace Foundation
namespace Autocommit

/-- A statement over databases `σ` with failures `ε`. -/
inductive Statement (σ ε : Type) where
  | define (effect : σ → Except ε σ)
  | modify (effect : σ → Except ε σ)
  | commit

/-- Statements in a row, where what is read decides what follows. -/
inductive Script (σ ε : Type) where
  | done
  | raise (error : ε)
  | execute (statement : Statement σ ε) (rest : Script σ ε)
  | select (rest : σ → Script σ ε)

/-- What is stored, and what an open transaction sees. -/
structure Connection (σ : Type) where
  disk : σ
  transaction : Option σ

variable {σ ε : Type}

namespace Connection

/-- A new connection. -/
def connect (disk : σ) : Connection σ := ⟨disk, none⟩

/-- What the statements of a connection see. -/
def view (connection : Connection σ) : σ := connection.transaction.getD connection.disk

/-- The connection after a statement. -/
def execute (connection : Connection σ) : Statement σ ε → Except ε (Connection σ)
  | .define effect =>
      (effect connection.view).map fun next =>
        match connection.transaction with
        | none => ⟨next, none⟩
        | some _ => ⟨connection.disk, some next⟩
  | .modify effect => (effect connection.view).map fun next => ⟨connection.disk, some next⟩
  | .commit => .ok ⟨connection.view, none⟩

end Connection

namespace Script

/-- A script that is not cut short. -/
def run : Script σ ε → Connection σ → Except ε (Connection σ)
  | .done, connection => .ok connection
  | .raise error, _ => .error error
  | .execute statement rest, connection =>
      match connection.execute statement with
      | .ok next => rest.run next
      | .error error => .error error
  | .select rest, connection => (rest connection.view).run connection

/-- What is stored when a script is cut short after some statements, or is over by then. -/
def crashAt : Script σ ε → Nat → Connection σ → σ
  | .done, _, connection => connection.disk
  | .raise _, _, connection => connection.disk
  | .execute _ _, 0, connection => connection.disk
  | .execute statement rest, count + 1, connection =>
      match connection.execute statement with
      | .ok next => rest.crashAt count next
      | .error _ => connection.disk
  | .select _, 0, connection => connection.disk
  | .select rest, count + 1, connection => (rest connection.view).crashAt count connection

/-- What is stored after a script was started some times and cut short each time. -/
def afterCrashes (script : Script σ ε) (disk : σ) (cuts : List Nat) : σ :=
  cuts.foldl (fun stored cut => script.crashAt cut (.connect stored)) disk

variable {script : Script σ ε} {disk : σ}

/-- **Fixed-point rule.**  What no cut changes is never changed. -/
theorem afterCrashes_of_fixed (cuts : List Nat)
    (h : ∀ cut ∈ cuts, script.crashAt cut (.connect disk) = disk) :
    script.afterCrashes disk cuts = disk := by
  induction cuts with
  | nil => rfl
  | cons cut rest ih =>
      show script.afterCrashes (script.crashAt cut (.connect disk)) rest = disk
      rw [h cut List.mem_cons_self]
      exact ih fun later hlater => h later (List.mem_cons_of_mem _ hlater)

/-- **First-change rule.**  Cuts before a threshold change nothing, so the first one from the
threshold on decides, and nothing if there is none. -/
theorem afterCrashes_of_first (threshold : Nat) (cuts : List Nat)
    (hearly : ∀ cut, cut < threshold → script.crashAt cut (.connect disk) = disk) :
    script.afterCrashes disk cuts =
      match cuts.find? fun cut => decide (threshold ≤ cut) with
      | none => disk
      | some cut => script.afterCrashes (script.crashAt cut (.connect disk))
          (cuts.dropWhile fun cut => decide (cut < threshold)).tail := by
  induction cuts with
  | nil => rfl
  | cons cut rest ih =>
      show script.afterCrashes (script.crashAt cut (.connect disk)) rest = _
      by_cases hcut : threshold ≤ cut
      · rw [List.find?_cons_of_pos (by simpa using hcut),
          List.dropWhile_cons_of_neg (by simpa using hcut), List.tail_cons]
      · rw [hearly cut (by omega), ih, List.find?_cons_of_neg (by simpa using hcut),
          List.dropWhile_cons_of_pos (by simpa using hcut)]

end Script
end Autocommit
end Foundation
end Ryuk
