import Ryuk.Workflows.Budget
import Ryuk.Workflows.GraphOperations
import Ryuk.Workflows.GraphViews
import Ryuk.Workflows.Leases

/-!
# The budget of a graph

The row of `workflow_graph_budgets` that all handles of a graph share.  Its
deadline is an absolute time, rounded to microseconds when the budget was bound;
with that deadline the row allows exactly what a budget in memory allows, whatever
other operations come between the calls.
-/

namespace Ryuk
namespace Workflows

open Foundation Foundation.Json Foundation.Text Foundation.Datetime Foundation.Transaction
open Foundation.Decimal

/-! ### Statements -/

/-- A Python integer as a parameter of a statement. -/
def sqliteInteger (value : Int) : Except PyError Int :=
  if inSqlite value then .ok value else .error .overflowError

/-- `WHERE tenant=? AND graph_id=?` on budgets. -/
def budgetOf (tenant graphId : String) (row : GraphBudgetRow) : Bool :=
  decide (row.tenant = tenant) && decide (row.graphId = graphId)

/-- `UPDATE workflow_graph_budgets SET ... WHERE tenant=? AND graph_id=?`.  SQLite
goes on with a real number when a sum leaves its integers; here the sum is exact. -/
def GraphTables.setBudget (tenant graphId : String) (change : GraphBudgetRow → GraphBudgetRow)
    (hkey : ∀ row, (change row).graphId = row.graphId) (tables : GraphTables) : GraphTables :=
  { tables with budgets := tables.budgets.update (budgetOf tenant graphId) change hkey }

/-- `SET attempts=attempts+1`. -/
def GraphBudgetRow.reserved (row : GraphBudgetRow) : GraphBudgetRow :=
  { row with attempts := row.attempts + 1 }

/-- `SET output_tokens=output_tokens+?`. -/
def GraphBudgetRow.recorded (count : Int) (row : GraphBudgetRow) : GraphBudgetRow :=
  { row with outputTokens := row.outputTokens + count }

theorem reserved_graphId (row : GraphBudgetRow) : row.reserved.graphId = row.graphId := rfl

theorem recorded_graphId (count : Int) (row : GraphBudgetRow) :
    (row.recorded count).graphId = row.graphId := rfl

/-- `datetime.fromisoformat(deadline_at) <= self._now(now)`. -/
def deadlinePassed (deadlineAt : String) (now : DateTime) : Except PyError Bool :=
  match fromisoformat deadlineAt with
  | none => .error (.valueError "Invalid isoformat string")
  | some deadline => do
      let current ← utcNow now
      match deadline.utcoffset with
      | none => throw .typeError
      | some offset => pure (decide ((deadline.reading.micros : Int) - offset ≤ current.micros))

/-- `get_graph_budget`. -/
def getGraphBudget (tenant graphId : String) : GraphTx (Option GraphBudgetRow) :=
  selectBudget tenant graphId

/-- `reserve_graph_attempt`. -/
def reserveGraphAttempt (tenant graphId : String) (now : DateTime) : GraphTx Bool := do
  let row ← selectBudget tenant graphId
  match row with
  | none => fail (.workflowConflict "Graph budget is not bound")
  | some row => do
      let passed ← lift (deadlinePassed row.deadlineAt now)
      if passed || decide (row.maxAttempts ≤ row.attempts) then pure false
      else do
        write (GraphTables.setBudget tenant graphId GraphBudgetRow.reserved reserved_graphId)
        pure true

/-- `record_graph_output_tokens`. -/
def recordGraphOutputTokens (tenant graphId : String) (count : Option Int) : GraphTx Bool :=
  match count with
  | none => pure true
  | some count => do
      require (decide (0 ≤ count))
        (.valueError "Output token count must be a nonnegative integer")
      let row ← selectBudget tenant graphId
      match row with
      | none => fail (.workflowConflict "Graph budget is not bound")
      | some row => do
          if row.maxOutputTokens.any fun limit => decide (limit < row.outputTokens + count) then
            pure false
          else do
            let bound ← lift (sqliteInteger count)
            write (GraphTables.setBudget tenant graphId (GraphBudgetRow.recorded bound)
              (recorded_graphId bound))
            pure true

/-! ### Handles -/

/-- `DurableGraphBudget`: which budget of the store it stands for. -/
structure DurableGraphBudget where
  tenant : String
  graphId : String
  deriving DecidableEq

/-- `DurableGraphBudget(store, tenant, graph_id)`. -/
def DurableGraphBudget.new (tenant graphId : String) : GraphTx DurableGraphBudget := do
  let row ← getGraphBudget tenant graphId
  require row.isSome (.workflowConflict "Graph budget is not bound")
  pure ⟨tenant, graphId⟩

/-- A call of a handle; the store reads the clock in UTC. -/
def DurableGraphBudget.call (handle : DurableGraphBudget) : BudgetCall → GraphTx Bool
  | .reserveAttempt clock => reserveGraphAttempt handle.tenant handle.graphId clock.utc
  | .recordOutputTokens count => recordGraphOutputTokens handle.tenant handle.graphId count

/-- What may happen to a store whose graphs have budgets. -/
inductive BudgetInput where
  | operation (operation : GraphOperation)
  | openBudget (tenant graphId : String)
  | call (handle : DurableGraphBudget) (call : BudgetCall)
  /-- `SQLiteWorkflowStore(path)` on the file of a closed store. -/
  | reopen

inductive BudgetAnswer where
  | operation (answer : GraphAnswer)
  | handle (handle : DurableGraphBudget)
  | granted (granted : Bool)
  | reopened

def BudgetInput.body (platform : Platform) : BudgetInput → GraphTx BudgetAnswer
  | .operation made => .operation <$> made.body platform
  | .openBudget tenant graphId => .handle <$> DurableGraphBudget.new tenant graphId
  | .call handle made => .granted <$> handle.call made
  | .reopen => pure .reopened

/-- The graph store with budgets: public operations, calls of any handles, and
reopenings in any order. -/
def budgetStore (platform : Platform) :
    Machine GraphTables BudgetInput (Except PyError BudgetAnswer) where
  step tables input := commit (input.body platform) tables

/-- The calls of handles on one graph. -/
def callOn (tenant graphId : String) : BudgetInput → Option BudgetCall
  | .call handle call => if handle = ⟨tenant, graphId⟩ then some call else none
  | .operation _ | .openBudget _ _ | .reopen => none

/-- The answer to a call as a reply. -/
def durableReply : Except PyError BudgetAnswer → Option Allowance.Reply
  | .ok (.granted granted) => budgetReply (.ok granted)
  | .ok _ => none
  | .error error => budgetReply (.error error)

/-! ### The row of a budget -/

section Rows

variable {platform : Platform} {tables next final : GraphTables} {tenant graphId : String}
  {row : GraphBudgetRow}

theorem budgetOf_iff :
    budgetOf tenant graphId row = true ↔ row.tenant = tenant ∧ row.graphId = graphId := by
  unfold budgetOf
  rw [Bool.and_eq_true, decide_eq_true_eq, decide_eq_true_eq]

/-- The row of a budget, as its tenant finds it. -/
theorem selectBudget_of_row (hrow : tables.budgets.find graphId = some row)
    (howned : row.tenant = tenant) :
    selectBudget tenant graphId tables = .ok (some row, tables) := by
  have hfixed : ∀ row, budgetOf tenant graphId row = true → row.graphId = graphId :=
    fun row hrow => (budgetOf_iff.mp hrow).2
  have hfound : tables.budgets.fetchone (budgetOf tenant graphId) = some row := by
    rw [Table.fetchone_of_key hfixed, Option.filter_eq_some_iff]
    exact ⟨hrow, budgetOf_iff.mpr ⟨howned, Table.find_key hrow⟩⟩
  show Except.ok (tables.budgets.fetchone (budgetOf tenant graphId), tables) = _
  rw [hfound]

/-- An update of a budget, seen from a row. -/
theorem find_setBudget {change : GraphBudgetRow → GraphBudgetRow}
    {hkey : ∀ row, (change row).graphId = row.graphId} {caller target : String}
    (hrow : tables.budgets.find graphId = some row) :
    (tables.setBudget caller target change hkey).budgets.find graphId =
      some (if row.tenant = caller ∧ graphId = target then change row else row) := by
  have hid : row.graphId = graphId := Table.find_key hrow
  have hcondition : (budgetOf caller target row = true) = (row.tenant = caller ∧ graphId = target) :=
    propext (by rw [budgetOf_iff, hid])
  unfold GraphTables.setBudget
  simp only [Table.find_update, hrow, Option.map_some, hcondition]

/-- **Call lemma.**  A call that returns changes nothing or counts once. -/
theorem call_cases {handle : DurableGraphBudget} {call : BudgetCall} {granted : Bool}
    (h : handle.call call tables = .ok (granted, final)) :
    final = tables ∨
      final = tables.setBudget handle.tenant handle.graphId GraphBudgetRow.reserved
        reserved_graphId ∨
      ∃ count, 0 ≤ count ∧ final = tables.setBudget handle.tenant handle.graphId
        (GraphBudgetRow.recorded count) (recorded_graphId count) := by
  cases call with
  | reserveAttempt clock =>
      unfold DurableGraphBudget.call reserveGraphAttempt selectBudget at h
      simp only [query_bind_ok] at h
      generalize tables.budgets.fetchone _ = found at h
      cases found with
      | none => simp only [fail_ok] at h
      | some found =>
          simp only [lift_bind_ok] at h
          obtain ⟨passed, -, h⟩ := h
          split_ifs at h
          · exact Or.inl (pure_ok.mp h).2.symm
          · simp only [write_bind_ok, pure_ok] at h
            exact Or.inr (Or.inl h.2.symm)
  | recordOutputTokens count =>
      cases count with
      | none => exact Or.inl (pure_ok.mp h).2.symm
      | some count =>
          unfold DurableGraphBudget.call recordGraphOutputTokens selectBudget at h
          simp only [require_bind_ok, query_bind_ok, decide_eq_true_eq] at h
          obtain ⟨hcount, h⟩ := h
          generalize tables.budgets.fetchone _ = found at h
          cases found with
          | none => simp only [fail_ok] at h
          | some found =>
              simp only at h
              split_ifs at h
              · exact Or.inl (pure_ok.mp h).2.symm
              · simp only [lift_bind_ok, write_bind_ok, pure_ok] at h
                obtain ⟨bound, hbound, -, hfinal⟩ := h
                obtain rfl : count = bound := by
                  unfold sqliteInteger at hbound
                  split_ifs at hbound
                  exact Except.ok.inj hbound
                exact Or.inr (Or.inr ⟨count, hcount, hfinal.symm⟩)

/-- What a call of a handle does to a row: nothing, or one count of its own. -/
theorem call_row {handle : DurableGraphBudget} {call : BudgetCall} {granted : Bool}
    (hrow : tables.budgets.find graphId = some row)
    (h : handle.call call tables = .ok (granted, final)) :
    ∃ row', final.budgets.find graphId = some row' ∧
      (row' = row ∨ (handle = ⟨row.tenant, graphId⟩ ∧
        (row' = row.reserved ∨ ∃ count, 0 ≤ count ∧ row' = row.recorded count))) := by
  obtain ⟨caller, target⟩ := handle
  have hset : ∀ change hkey, ∃ row',
      (tables.setBudget caller target change hkey).budgets.find graphId = some row' ∧
        (row' = row ∨ ((⟨caller, target⟩ : DurableGraphBudget) = ⟨row.tenant, graphId⟩ ∧
          row' = change row)) := by
    intro change hkey
    rw [find_setBudget hrow]
    by_cases hown : row.tenant = caller ∧ graphId = target
    · obtain ⟨rfl, rfl⟩ := hown
      rw [if_pos ⟨rfl, rfl⟩]
      exact ⟨change row, rfl, Or.inr ⟨rfl, rfl⟩⟩
    · rw [if_neg hown]
      exact ⟨row, rfl, Or.inl rfl⟩
  rcases call_cases h with rfl | rfl | ⟨count, hcount, rfl⟩
  · exact ⟨row, hrow, Or.inl rfl⟩
  · obtain ⟨row', hrow', hcases⟩ := hset GraphBudgetRow.reserved reserved_graphId
    exact ⟨row', hrow', hcases.imp_right (And.imp_right Or.inl)⟩
  · obtain ⟨row', hrow', hcases⟩ := hset (GraphBudgetRow.recorded count) (recorded_graphId count)
    exact ⟨row', hrow', hcases.imp_right (And.imp_right fun hsame =>
      Or.inr ⟨count, hcount, hsame⟩)⟩

/-- A call of a handle adds no row. -/
theorem call_absent {handle : DurableGraphBudget} {call : BudgetCall} {granted : Bool}
    (hnone : tables.budgets.find graphId = none)
    (h : handle.call call tables = .ok (granted, final)) :
    final.budgets.find graphId = none := by
  have hset : ∀ change hkey, (GraphTables.setBudget handle.tenant handle.graphId change hkey
      tables).budgets.find graphId = none := by
    intro change hkey
    unfold GraphTables.setBudget
    simp only [Table.find_update, hnone, Option.map_none]
  rcases call_cases h with rfl | rfl | ⟨count, -, rfl⟩
  · exact hnone
  · exact hset _ _
  · exact hset _ _

theorem deadlinePassed_isoformat (deadline clock : Instant) :
    deadlinePassed deadline.isoformat clock.utc =
      .ok (decide ((deadline.micros : Int) ≤ clock.micros)) := by
  unfold deadlinePassed
  rw [fromisoformat_isoformat]
  simp only [utcNow_utc]
  show Except.ok (decide ((deadline.micros : Int) - 0 ≤ clock.micros)) = _
  rw [Int.sub_zero]

/-- A reservation that finds the row. -/
theorem reserveGraphAttempt_eq {deadline clock : Instant}
    (hrow : tables.budgets.find graphId = some row) (howned : row.tenant = tenant)
    (hdeadline : row.deadlineAt = deadline.isoformat) :
    reserveGraphAttempt tenant graphId clock.utc tables =
      if (deadline.micros : Int) ≤ clock.micros ∨ row.maxAttempts ≤ row.attempts then
        .ok (false, tables)
      else .ok (true, tables.setBudget tenant graphId GraphBudgetRow.reserved reserved_graphId) := by
  unfold reserveGraphAttempt
  rw [bind_of_ok (selectBudget_of_row hrow howned)]
  simp only [hdeadline, deadlinePassed_isoformat]
  show ((if (decide _ || decide _) = true then pure false else _) : GraphTx Bool) tables = _
  simp only [Bool.or_eq_true, decide_eq_true_eq]
  split_ifs
  · rfl
  · rfl

/-- A count that finds the row. -/
theorem recordGraphOutputTokens_eq {count : Int} (hcount : 0 ≤ count)
    (hrow : tables.budgets.find graphId = some row) (howned : row.tenant = tenant)
    (hbound : Allowance.exceeds row.maxOutputTokens (row.outputTokens + count) = false →
      count < sqliteLimit) :
    recordGraphOutputTokens tenant graphId (some count) tables =
      if Allowance.exceeds row.maxOutputTokens (row.outputTokens + count) = true then
        .ok (false, tables)
      else .ok (true, tables.setBudget tenant graphId (GraphBudgetRow.recorded count)
        (recorded_graphId count)) := by
  have hrequire : (require (decide (0 ≤ count))
      (.valueError "Output token count must be a nonnegative integer") : GraphTx Unit) tables =
        .ok ((), tables) := require_ok.mpr ⟨decide_eq_true hcount, rfl⟩
  unfold recordGraphOutputTokens
  simp only
  rw [bind_of_ok hrequire, bind_of_ok (selectBudget_of_row hrow howned)]
  show ((if Allowance.exceeds row.maxOutputTokens (row.outputTokens + count) = true then
    pure false else _) : GraphTx Bool) tables = _
  split_ifs with hexceeds
  · rfl
  · have hpositive : 0 < sqliteLimit := by decide
    have hlimit : count < sqliteLimit := hbound (by simpa using hexceeds)
    have hstored : sqliteInteger count = .ok count := if_pos (decide_eq_true ⟨by omega, hlimit⟩)
    rw [hstored]
    rfl

/-! ### What the row allows -/

/-- The allowance of a row with this deadline. -/
def GraphBudgetRow.allowance (row : GraphBudgetRow) (deadline : Instant) : Allowance Int where
  deadline := deadline.micros
  maxUses := row.maxAttempts
  maxAmount := row.maxOutputTokens
  uses := row.attempts
  amount := row.outputTokens

/-- The budget of the graph is stored, and it allows this much. -/
def Tracks (tenant graphId : String) (tables : GraphTables) (allowance : Allowance Int) : Prop :=
  ∃ row deadline, tables.budgets.find graphId = some row ∧ row.tenant = tenant ∧
    row.deadlineAt = deadline.isoformat ∧ row.allowance deadline = allowance

/-- A call after which SQLite can store what was counted. -/
def Stored (allowance : Allowance Int) (call : BudgetCall) : Prop :=
  allowance.Within ∧ (budgetAllowance.next allowance call).amount < sqliteLimit

variable {allowance : Allowance Int}

/-- A granted reservation. -/
theorem Tracks.reserved {deadline : Instant} (hrow : tables.budgets.find graphId = some row)
    (howned : row.tenant = tenant) (hdeadline : row.deadlineAt = deadline.isoformat) :
    Tracks tenant graphId (tables.setBudget tenant graphId GraphBudgetRow.reserved reserved_graphId)
      { row.allowance deadline with uses := row.attempts + 1 } := by
  refine ⟨row.reserved, deadline, ?_, howned, hdeadline, rfl⟩
  rw [find_setBudget hrow, if_pos ⟨howned, rfl⟩]

/-- An accepted count. -/
theorem Tracks.recorded {deadline : Instant} {count : Int}
    (hrow : tables.budgets.find graphId = some row) (howned : row.tenant = tenant)
    (hdeadline : row.deadlineAt = deadline.isoformat) :
    Tracks tenant graphId
      (tables.setBudget tenant graphId (GraphBudgetRow.recorded count)
        (recorded_graphId count))
      { row.allowance deadline with amount := row.outputTokens + count } := by
  refine ⟨row.recorded count, deadline, ?_, howned, hdeadline, rfl⟩
  rw [find_setBudget hrow, if_pos ⟨howned, rfl⟩]

/-- The answer to a call follows the allowance, and so does the state after it. -/
def Follows (tenant graphId : String) (tables : GraphTables) (call : BudgetCall)
    (reply : Allowance.Reply) (allowance : Allowance Int) : Prop :=
  (∃ granted final, (DurableGraphBudget.mk tenant graphId).call call tables =
      .ok (granted, final) ∧ budgetReply (.ok granted) = some reply ∧
      Tracks tenant graphId final allowance) ∨
    ∃ message, (DurableGraphBudget.mk tenant graphId).call call tables =
      .error (.valueError message) ∧ reply = .invalid ∧ Tracks tenant graphId tables allowance

theorem reserve_follows {clock : Instant} (h : Tracks tenant graphId tables allowance) :
    Follows tenant graphId tables (.reserveAttempt clock)
      (Allowance.step allowance (.reserve clock.micros)).1
      (Allowance.step allowance (.reserve clock.micros)).2 := by
  have htracks := h
  obtain ⟨row, deadline, hrow, howned, hdeadline, rfl⟩ := h
  have hbody := @reserveGraphAttempt_eq tables tenant graphId row deadline clock hrow howned hdeadline
  by_cases hrefused : (deadline.micros : Int) ≤ clock.micros ∨ row.maxAttempts ≤ row.attempts
  · have hstep : Allowance.step (row.allowance deadline) (.reserve (clock.micros : Int)) =
        (.refused, row.allowance deadline) := if_pos hrefused
    rw [hstep]
    exact Or.inl ⟨false, tables, hbody.trans (if_pos hrefused), rfl, htracks⟩
  · have hstep : Allowance.step (row.allowance deadline) (.reserve (clock.micros : Int)) =
        (.granted, { row.allowance deadline with uses := row.attempts + 1 }) := if_neg hrefused
    rw [hstep]
    exact Or.inl ⟨true, _, hbody.trans (if_neg hrefused), rfl,
      Tracks.reserved hrow howned hdeadline⟩

theorem record_follows {count : Option Int} (h : Tracks tenant graphId tables allowance)
    (hstored : Stored allowance (.recordOutputTokens count)) :
    Follows tenant graphId tables (.recordOutputTokens count)
      (Allowance.step allowance (.record count)).1
      (Allowance.step allowance (.record count)).2 := by
  have htracks := h
  obtain ⟨row, deadline, hrow, howned, hdeadline, rfl⟩ := h
  cases count with
  | none => exact Or.inl ⟨true, tables, rfl, rfl, htracks⟩
  | some count =>
      by_cases hnegative : count < 0
      · have hstep : Allowance.step (row.allowance deadline) (.record (some count)) =
            (.invalid, row.allowance deadline) := if_pos hnegative
        rw [hstep]
        refine Or.inr ⟨"Output token count must be a nonnegative integer", ?_, rfl, htracks⟩
        show recordGraphOutputTokens tenant graphId (some count) tables = _
        have hrefused : decide (0 ≤ count) = false := decide_eq_false (by omega)
        unfold recordGraphOutputTokens
        simp only [hrefused]
        rfl
      · by_cases hexceeds : Allowance.exceeds row.maxOutputTokens (row.outputTokens + count) = true
        · have hstep : Allowance.step (row.allowance deadline) (.record (some count)) =
              (.refused, row.allowance deadline) := (if_neg hnegative).trans (if_pos hexceeds)
          have hbody := @recordGraphOutputTokens_eq tables tenant graphId row count (by omega) hrow
            howned (fun hnot => by rw [hexceeds] at hnot; cases hnot)
          rw [hstep]
          exact Or.inl ⟨false, tables, hbody.trans (if_pos hexceeds), rfl, htracks⟩
        · have hstep : Allowance.step (row.allowance deadline) (.record (some count)) =
              (.granted, { row.allowance deadline with amount := row.outputTokens + count }) :=
            (if_neg hnegative).trans (if_neg hexceeds)
          -- what is counted after the call fits, so the count does
          have hlimit : count < sqliteLimit := by
            obtain ⟨hwithin, hafter⟩ := hstored
            have hlow : 0 ≤ row.outputTokens := hwithin.amount_nonneg
            change (Allowance.step (row.allowance deadline) (.record (some count))).2.amount <
              sqliteLimit at hafter
            rw [hstep] at hafter
            change row.outputTokens + count < sqliteLimit at hafter
            omega
          have hbody := @recordGraphOutputTokens_eq tables tenant graphId row count (by omega) hrow
            howned (fun _ => hlimit)
          rw [hstep]
          exact Or.inl ⟨true, _, hbody.trans (if_neg hexceeds), rfl,
            Tracks.recorded hrow howned hdeadline⟩

/-! ### Where budgets come from -/

/-- The row of a budget that was bound at a time, by a creation or later. -/
def GraphBudget.bound (budget : GraphBudget) (tenant graphId deadline : String) : GraphBudgetRow :=
  ⟨graphId, tenant, deadline, budget.maxAttempts, budget.maxOutputTokens, 0, 0⟩

/-- The operation gives the graph this budget. -/
inductive Binds (tenant graphId : String) (budget : GraphBudget) (now : DateTime) :
    GraphOperation → Prop
  | bind : Binds tenant graphId budget now (.call (.bindGraphBudget tenant graphId budget now))
  | create (key : String) (graph : WorkflowGraph) (binding : Option (List (String × Json))) :
      Binds tenant graphId budget now
        (.call (.createGraph tenant key graph (some budget) binding now graphId))

/-- The operation added the row of a valid budget. -/
def Added (operation : GraphOperation) (tables final : GraphTables) : Prop :=
  ∃ tenant graphId budget now deadline, Binds tenant graphId budget now operation ∧
    validateGraphBudget budget = .ok () ∧ deadlineAt budget now = .ok deadline ∧
    tables.budgets.insert (budget.bound tenant graphId deadline) = some final.budgets

/-- Statements on nodes and events leave the budgets alone. -/
theorem budgets_blind : BlindTo tenant GraphTables.budgets where
  setNodes _ _ _ _ _ _ := rfl
  log _ _ _ _ := rfl
  addNode tables row next _ hadd := by
    obtain ⟨nodes, -, rfl⟩ := Option.map_eq_some_iff.mp hadd
    rfl

theorem addBudget_budgets (h : tables.addBudget row = some next) :
    tables.budgets.insert row = some next.budgets := by
  obtain ⟨budgets, hinsert, rfl⟩ := Option.map_eq_some_iff.mp h
  exact hinsert

theorem bindGraphBudget_budgets {budget : GraphBudget} {now : DateTime} {answer : GraphBudgetRow}
    (h : bindGraphBudget tenant graphId budget now tables = .ok (answer, final)) :
    final.budgets = tables.budgets ∨
      Added (.call (.bindGraphBudget tenant graphId budget now)) tables final := by
  unfold bindGraphBudget at h
  simp only [lift_bind_ok] at h
  obtain ⟨_, hbudget, deadline, hdeadline, h⟩ := h
  obtain ⟨state, -, h⟩ := getGraphState_bind_ok h
  unfold selectBudget at h
  simp only [require_bind_ok, query_bind_ok] at h
  obtain ⟨-, h⟩ := h
  generalize tables.budgets.fetchone _ = existing at h
  cases existing with
  | some row =>
      simp only [require_bind_ok, pure_ok] at h
      exact Or.inl (by rw [← h.2.2])
  | none =>
      simp only [insertBudgetRow_bind_ok, pure_ok] at h
      obtain ⟨-, next, hadd, -, rfl⟩ := h
      exact Or.inr ⟨tenant, graphId, budget, now, deadline, Binds.bind, hbudget, hdeadline,
        addBudget_budgets hadd⟩

theorem createGraph_budgets {key uuid4 answer : String} {graph : WorkflowGraph}
    {budget : Option GraphBudget} {binding : Option (List (String × Json))} {now : DateTime}
    (h : createGraph platform tenant key graph budget binding now uuid4 tables =
      .ok (answer, final)) :
    final.budgets = tables.budgets ∨
      Added (.call (.createGraph tenant key graph budget binding now uuid4)) tables final := by
  unfold createGraph at h
  simp only [require_bind_ok, lift_bind_ok, query_bind_ok] at h
  obtain ⟨-, -, dict, -, validated, -, value, -, encoded, -, bound, -, hashed, hhashed, initial, -,
    h⟩ := h
  generalize tables.graphs.fetchone _ = existing at h
  cases existing with
  | some row =>
      simp only [require_bind_ok, pure_ok] at h
      exact Or.inl (by rw [← h.2.2])
  | none =>
      simp only [attempt_bind_ok] at h
      obtain ⟨added, hadd, h⟩ := h
      rw [bind_ok] at h
      obtain ⟨_, inserted, hinsert, h⟩ := h
      rw [bind_ok] at h
      obtain ⟨_, budgeted, hbudget, h⟩ := h
      obtain ⟨-, rfl⟩ := pure_ok.mp h
      have hsame : inserted.budgets = tables.budgets := by
        obtain ⟨graphs, -, rfl⟩ := Option.map_eq_some_iff.mp hadd
        have hkept := insertNodes_keeps budgets_blind _ _ _ hinsert
        exact hkept
      cases budget with
      | none =>
          obtain rfl := (pure_ok.mp hbudget).2
          exact Or.inl hsame
      | some budget =>
          unfold insertBudget at hbudget
          simp only [lift_bind_ok, insertBudgetRow_ok] at hbudget
          obtain ⟨deadline, hdeadline, -, hrow⟩ := hbudget
          have hvalid : validateGraphBudget budget = .ok () := by
            unfold hashedGraph at hhashed
            simp only [except_bind_ok] at hhashed
            obtain ⟨_, ⟨_, hvalid, -⟩, -⟩ := hhashed
            exact hvalid
          refine Or.inr ⟨tenant, uuid4, budget, now, deadline, Binds.create key graph binding, hvalid,
            hdeadline, ?_⟩
          rw [← hsame]
          exact addBudget_budgets hrow

theorem addArtifact_budgets {artifact : GraphArtifactRow}
    (h : tables.addArtifact artifact = some next) : next.budgets = tables.budgets := by
  obtain ⟨artifacts, -, rfl⟩ := Option.map_eq_some_iff.mp h
  rfl

theorem completeGraphNode_budgets {nodeId owner uuid4 : String} {fence : Int}
    {result : List (String × Json)} {succeeded : Bool} {now : DateTime} {ref : ArtifactRef}
    (h : completeGraphNode platform tenant graphId nodeId owner fence result succeeded now uuid4
      tables = .ok (ref, final)) : final.budgets = tables.budgets := by
  unfold completeGraphNode at h
  simp only [lift_bind_ok] at h
  obtain ⟨encoded, -, h⟩ := h
  obtain ⟨row, -, -, -, -, -, -, h⟩ := requireGraphLease_bind_ok h
  simp only [attempt_bind_ok] at h
  obtain ⟨next, hadd, h⟩ := h
  rw [bind_ok] at h
  obtain ⟨updated, middle, hmove, h⟩ := h
  unfold updateNodes at h
  simp only [bind_assoc, query_bind_ok, write_bind_ok, pure_bind, pure_ok] at h
  obtain ⟨-, rfl⟩ := h
  have hkept := transitionGraphNode_keeps budgets_blind _ _ _ hmove
  exact hkept.trans (addArtifact_budgets hadd)

theorem validateGraphNode_budgets {nodeId : String} {policy : Audit.ValidationPolicy}
    {report : Json}
    (h : validateGraphNode platform tenant graphId nodeId policy tables = .ok (report, final)) :
    final.budgets = tables.budgets := by
  rcases validateGraphNode_cases h with rfl | ⟨row, artifactId, accepted, reportJson, updated, -, -,
    -, -, hmove⟩
  · rfl
  · have hkept := transitionGraphNode_keeps budgets_blind _ _ _ hmove
    exact hkept

/-- **Frame lemma.**  Operations leave the budgets alone, apart from adding one. -/
theorem graphBody_budgets {operation : GraphOperation} {answer : GraphAnswer}
    (h : operation.body platform tables = .ok (answer, final)) :
    final.budgets = tables.budgets ∨ Added operation tables final := by
  cases operation with
  | transitionGraphNode tenant graphId nodeId target =>
      exact Or.inl (Keeps.map (transitionGraphNode_keeps budgets_blind) _ _ _ h)
  | call call =>
      cases call with
      | createGraph tenant key graph budget binding now uuid4 =>
          obtain ⟨id, hcreate, -⟩ := map_ok.mp h
          exact createGraph_budgets hcreate
      | bindGraphBudget tenant graphId budget now =>
          obtain ⟨row, hbind, -⟩ := map_ok.mp h
          exact bindGraphBudget_budgets hbind
      | claimGraphNode tenant graphId nodeId owner leaseSeconds now =>
          exact Or.inl (Keeps.map (claimGraphNode_keeps budgets_blind) _ _ _ h)
      | completeGraphNode tenant graphId nodeId owner fence result succeeded now uuid4 =>
          obtain ⟨ref, hcomplete, -⟩ := map_ok.mp h
          exact Or.inl (completeGraphNode_budgets hcomplete)
      | validateGraphNode tenant graphId nodeId policy =>
          obtain ⟨report, hvalidate, -⟩ := map_ok.mp h
          exact Or.inl (validateGraphNode_budgets hvalidate)
      | cancelGraph tenant graphId =>
          exact Or.inl (Keeps.map (cancelGraph_keeps budgets_blind) _ _ _ h)
      | recoverGraphNodesStartup limit now =>
          exact Or.inl (Keeps.map (recoverGraphNodesStartup_keeps fun _ => budgets_blind) _ _ _ h)

/-- A row is not replaced. -/
theorem graphBody_row {operation : GraphOperation} {answer : GraphAnswer}
    (h : operation.body platform tables = .ok (answer, final))
    (hrow : tables.budgets.find graphId = some row) : final.budgets.find graphId = some row := by
  rcases graphBody_budgets h with hsame | ⟨caller, target, budget, now, deadline, -, -, -, hinsert⟩
  · rw [hsame]
    exact hrow
  · rw [Table.find_insert hinsert, if_neg]
    · exact hrow
    · intro hsame
      have hfresh := Table.insert_fresh hinsert
      rw [hsame, hrow] at hfresh
      cases hfresh

end Rows

end Workflows
end Ryuk
