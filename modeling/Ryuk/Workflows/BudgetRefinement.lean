import Ryuk.Workflows.DurableBudget
import Ryuk.Workflows.GraphProgress

/-!
# The durable budget refines the one in memory

Both do what an allowance does.  They differ in two places: a deadline is an exact
number of seconds in memory and a whole number of microseconds in the store, and
the store counts in the integers of SQLite.
-/

namespace Ryuk
namespace Workflows

open Foundation Foundation.Json Foundation.Text Foundation.Datetime Foundation.Transaction
open Foundation.Decimal

section Refinement

variable {platform : Platform} {tables next final : GraphTables} {tenant graphId : String}
  {row : GraphBudgetRow} {allowance : Allowance Int}

/-! ### The store follows the allowance -/

theorem commit_map_error {α β : Type} {body : GraphTx α} {change : α → β} {error : PyError}
    (h : body tables = .error error) : commit (change <$> body) tables = (.error error, tables) := by
  have hbody : (change <$> body) tables = .error error := by
    show (Except.map _ (body tables)) = _
    rw [h]
    rfl
  unfold commit
  rw [hbody]

/-- Inputs that are no calls on the budget leave its row alone. -/
theorem unseen_row {input : BudgetInput} (hunseen : callOn row.tenant graphId input = none)
    (hrow : tables.budgets.find graphId = some row) :
    ((budgetStore platform).next tables input).budgets.find graphId = some row := by
  show (commit (input.body platform) tables).2.budgets.find graphId = some row
  rcases commit_cases (input.body platform) tables with ⟨answer, -, h⟩ | ⟨-, hsame⟩
  · generalize (commit (input.body platform) tables).2 = final at h ⊢
    cases input with
    | operation made =>
        obtain ⟨answer, hmade, -⟩ := map_ok.mp h
        exact graphBody_row hmade hrow
    | openBudget caller target =>
        obtain ⟨handle, hopen, -⟩ := map_ok.mp h
        unfold DurableGraphBudget.new getGraphBudget selectBudget at hopen
        simp only [query_bind_ok, require_bind_ok, pure_ok] at hopen
        obtain ⟨-, -, rfl⟩ := hopen
        exact hrow
    | call handle made =>
        obtain ⟨granted, hcall, -⟩ := map_ok.mp h
        obtain ⟨row', hrow', rfl | ⟨hown, -⟩⟩ := call_row hrow hcall
        · exact hrow'
        · simp only [callOn, hown, if_true] at hunseen
          cases hunseen
    | reopen =>
        obtain ⟨-, rfl⟩ := pure_ok.mp h
        exact hrow
  · rw [hsame]
    exact hrow

/-- A call on the budget. -/
theorem follows_step {call : BudgetCall} {reply : Allowance.Reply}
    (h : Follows tenant graphId tables call reply allowance) :
    durableReply ((budgetStore platform).answer tables (.call ⟨tenant, graphId⟩ call)) =
        some reply ∧
      Tracks tenant graphId
        ((budgetStore platform).next tables (.call ⟨tenant, graphId⟩ call)) allowance := by
  rcases h with ⟨granted, final, hcall, hreply, htracks⟩ | ⟨message, hcall, rfl, htracks⟩
  · have hstep : (budgetStore platform).step tables (.call ⟨tenant, graphId⟩ call) =
        (.ok (.granted granted), final) := commit_of_ok (map_ok.mpr ⟨granted, hcall, rfl⟩)
    rw [Machine.answer_of_step hstep, Machine.next_of_step hstep]
    exact ⟨hreply, htracks⟩
  · have hstep : (budgetStore platform).step tables (.call ⟨tenant, graphId⟩ call) =
        (.error (.valueError message), tables) := commit_map_error hcall
    rw [Machine.answer_of_step hstep, Machine.next_of_step hstep]
    exact ⟨rfl, htracks⟩

/-- **Refinement.**  The store does what the allowance of a row does. -/
theorem budgetStore_simulates :
    Machine.Simulates (budgetStore platform) budgetAllowance (callOn tenant graphId) Stored
      (Tracks tenant graphId) durableReply some where
  unseen tables allowance input htracks hunseen := by
    obtain ⟨row, deadline, hrow, rfl, hdeadline, hallows⟩ := htracks
    exact ⟨row, deadline, unseen_row hunseen hrow, rfl, hdeadline, hallows⟩
  seen tables allowance input call htracks hseen hstored := by
    have hinput : input = .call ⟨tenant, graphId⟩ call := by
      unfold callOn at hseen
      split at hseen
      · split_ifs at hseen with hhandle
        rw [hhandle, Option.some.inj hseen]
      · cases hseen
      · cases hseen
      · cases hseen
    subst hinput
    cases call with
    | reserveAttempt clock => exact follows_step (reserve_follows htracks)
    | recordOutputTokens count => exact follows_step (record_follows htracks hstored)

/-! ### Bound budgets -/

/-- In the run, the graph got the budget at this time; later inputs follow. -/
structure BoundIn (platform : Platform) (before : List BudgetInput) (made : GraphOperation)
    (tenant graphId : String) (budget : GraphBudget) (bound : Instant) (duration : Int) : Prop where
  binds : ∃ now, Binds tenant graphId budget now made ∧ utcNow now = .ok bound
  duration : microseconds budget.deadlineSeconds = .ok duration
  absent : ((budgetStore platform).after GraphTables.empty before).budgets.find graphId = none
  stored : ((budgetStore platform).after GraphTables.empty
    (before ++ [.operation made])).budgets.find graphId ≠ none

/-- The value of a number of seconds; a float stands for the nearest double. -/
def exactSeconds : Number → ℚ
  | .int value => value
  | .float (.finite value) => Binary64.nearest value.toRat
  | .float .nan | .float (.infinity _) => 0

/-- A number of seconds, in the whole microseconds `timedelta` makes of it. -/
def wholeMicroseconds (number : Number) : ℚ :=
  match microseconds number with
  | .ok duration => (duration : ℚ) / 1000000
  | .error _ => 0

/-- What a budget allows when it was just bound. -/
def GraphBudget.boundAllowance (budget : GraphBudget) (bound : Instant) (duration : Int) :
    Allowance Int where
  deadline := bound.micros + duration
  maxUses := budget.maxAttempts
  maxAmount := budget.maxOutputTokens
  uses := 0
  amount := 0

/-- A finite number has a value and a duration. -/
theorem isfinite_true {number : Number} (h : isfinite number = .ok true) :
    ∃ seconds duration, number.toRat? = some seconds ∧ microseconds number = .ok duration := by
  cases number with
  | int value => exact ⟨value, value * 1000000, rfl, rfl⟩
  | float value =>
      cases value with
      | finite value => exact ⟨value.toRat, _, rfl, rfl⟩
      | nan => cases h
      | infinity negative => cases h

theorem validateGraphBudget_ok {budget : GraphBudget} (h : validateGraphBudget budget = .ok ()) :
    ∃ seconds duration, budget.deadlineSeconds.toRat? = some seconds ∧ 0 < seconds ∧
      microseconds budget.deadlineSeconds = .ok duration ∧
      1 ≤ budget.maxAttempts ∧ ∀ limit ∈ budget.maxOutputTokens, 1 ≤ limit := by
  unfold validateGraphBudget at h
  simp only [except_bind_ok, ensure_ok, Bool.and_eq_true, decide_eq_true_eq] at h
  obtain ⟨_, hpositive, finite, hfinite, ⟨rfl, hattempts⟩, htokens⟩ := h
  obtain ⟨seconds, duration, hseconds, hduration⟩ := isfinite_true hfinite
  rw [hseconds, Option.all_some, decide_eq_true_eq] at hpositive
  refine ⟨seconds, duration, hseconds, hpositive, hduration, hattempts, fun limit hlimit => ?_⟩
  rw [Option.mem_def] at hlimit
  rw [hlimit, Option.all_some, decide_eq_true_eq] at htokens
  exact htokens

theorem deadlineAt_ok {budget : GraphBudget} {now : DateTime} {deadline : String} {duration : Int}
    (hduration : microseconds budget.deadlineSeconds = .ok duration)
    (h : deadlineAt budget now = .ok deadline) :
    ∃ bound later : Instant, utcNow now = .ok bound ∧ deadline = later.isoformat ∧
      (later.micros : Int) = bound.micros + duration := by
  unfold deadlineAt at h
  rw [except_bind_ok] at h
  obtain ⟨bound, hbound, h⟩ := h
  rw [hduration, except_ok_bind] at h
  split at h
  · rename_i later hlater
    exact ⟨bound, later, hbound, (Except.ok.inj h).symm, Instant.shift_micros hlater⟩
  · cases h

/-- An operation that adds a budget gives the graph its allowance. -/
theorem Added.tracks {made : GraphOperation} (h : Added made tables final) :
    ∃ tenant graphId budget now bound duration, Binds tenant graphId budget now made ∧
      utcNow now = .ok bound ∧ validateGraphBudget budget = .ok () ∧
      microseconds budget.deadlineSeconds = .ok duration ∧
      tables.budgets.find graphId = none ∧
      Tracks tenant graphId final (budget.boundAllowance bound duration) ∧
      ∀ other, other ≠ graphId → final.budgets.find other = tables.budgets.find other := by
  obtain ⟨tenant, graphId, budget, now, deadline, hbinds, hvalid, hdeadline, hinsert⟩ := h
  obtain ⟨-, duration, -, -, hduration, -⟩ := validateGraphBudget_ok hvalid
  obtain ⟨bound, later, hbound, rfl, hlater⟩ := deadlineAt_ok hduration hdeadline
  have hfind := Table.find_insert hinsert
  refine ⟨tenant, graphId, budget, now, bound, duration, hbinds, hbound, hvalid, hduration,
    Table.insert_fresh hinsert, ⟨budget.bound tenant graphId later.isoformat, later, ?_, rfl, rfl, ?_⟩,
    fun other hother => ?_⟩
  · rw [hfind]
    exact if_pos rfl
  · unfold GraphBudgetRow.allowance GraphBudget.boundAllowance
    rw [hlater]
    rfl
  · rw [hfind]
    exact if_neg fun hsame => hother hsame.symm

theorem Binds.unique {made : GraphOperation} {budget budget' : GraphBudget} {now now' : DateTime}
    {tenant' graphId' : String} (h : Binds tenant graphId budget now made)
    (h' : Binds tenant' graphId' budget' now' made) :
    tenant' = tenant ∧ graphId' = graphId ∧ budget' = budget ∧ now' = now := by
  cases h with
  | bind =>
      cases h' with
      | bind => exact ⟨rfl, rfl, rfl, rfl⟩
  | create key graph binding =>
      cases h' with
      | create => exact ⟨rfl, rfl, rfl, rfl⟩

section Runs

variable {before : List BudgetInput} {made : GraphOperation} {budget : GraphBudget}
  {bound : Instant} {duration : Int}

theorem after_snoc (inputs : List BudgetInput) (input : BudgetInput) :
    (budgetStore platform).after GraphTables.empty (inputs ++ [input]) =
      (budgetStore platform).next ((budgetStore platform).after GraphTables.empty inputs) input := by
  rw [Machine.after_append, Machine.after_cons, Machine.after_nil]

/-- An input that makes the row of a budget appear is an operation that binds it. -/
theorem appears {input : BudgetInput} (hnone : tables.budgets.find graphId = none)
    (hsome : ((budgetStore platform).next tables input).budgets.find graphId ≠ none) :
    ∃ made tenant budget now bound duration, input = .operation made ∧
      Binds tenant graphId budget now made ∧ utcNow now = .ok bound ∧
      validateGraphBudget budget = .ok () ∧ microseconds budget.deadlineSeconds = .ok duration ∧
      Tracks tenant graphId ((budgetStore platform).next tables input)
        (budget.boundAllowance bound duration) := by
  change (commit (input.body platform) tables).2.budgets.find graphId ≠ none at hsome
  show ∃ made tenant budget now bound duration, input = .operation made ∧
    Binds tenant graphId budget now made ∧ utcNow now = .ok bound ∧
    validateGraphBudget budget = .ok () ∧ microseconds budget.deadlineSeconds = .ok duration ∧
    Tracks tenant graphId (commit (input.body platform) tables).2
      (budget.boundAllowance bound duration)
  rcases commit_cases (input.body platform) tables with ⟨answer, -, h⟩ | ⟨-, hsame⟩
  · generalize (commit (input.body platform) tables).2 = final at h hsome ⊢
    cases input with
    | operation made =>
        obtain ⟨answer, hmade, -⟩ := map_ok.mp h
        rcases graphBody_budgets hmade with hsame | hadded
        · rw [hsame] at hsome
          exact absurd hnone hsome
        · obtain ⟨tenant, other, budget, now, bound, duration, hbinds, hbound, hvalid, hduration, -,
            htracks, hothers⟩ := hadded.tracks
          by_cases hother : graphId = other
          · subst hother
            exact ⟨made, tenant, budget, now, bound, duration, rfl, hbinds, hbound, hvalid, hduration,
              htracks⟩
          · rw [hothers graphId hother] at hsome
            exact absurd hnone hsome
    | openBudget caller target =>
        obtain ⟨handle, hopen, -⟩ := map_ok.mp h
        unfold DurableGraphBudget.new getGraphBudget selectBudget at hopen
        simp only [query_bind_ok, require_bind_ok, pure_ok] at hopen
        obtain ⟨-, -, rfl⟩ := hopen
        exact absurd hnone hsome
    | call handle made =>
        obtain ⟨granted, hcall, -⟩ := map_ok.mp h
        exact absurd (call_absent hnone hcall) hsome
    | reopen =>
        obtain ⟨-, rfl⟩ := pure_ok.mp h
        exact absurd hnone hsome
  · rw [hsame] at hsome
    exact absurd hnone hsome

/-- A budget that was bound is stored with its limits. -/
theorem BoundIn.tracks (h : BoundIn platform before made tenant graphId budget bound duration) :
    validateGraphBudget budget = .ok () ∧
      Tracks tenant graphId
        ((budgetStore platform).after GraphTables.empty (before ++ [.operation made]))
        (budget.boundAllowance bound duration) := by
  have hstored := h.stored
  rw [after_snoc] at hstored ⊢
  obtain ⟨made', tenant', budget', now', bound', duration', hmade, hbinds', hbound', hvalid,
    hduration', htracks⟩ := appears h.absent hstored
  obtain rfl := BudgetInput.operation.inj hmade
  obtain ⟨now, hbinds, hbound⟩ := h.binds
  obtain ⟨rfl, -, rfl, rfl⟩ := hbinds.unique hbinds'
  obtain rfl := Except.ok.inj (hbound'.symm.trans hbound)
  obtain rfl := Except.ok.inj (hduration'.symm.trans h.duration)
  exact ⟨hvalid, htracks⟩

/-! ### Rows only grow -/

/-- The same budget, with at least as much used of it. -/
structure GraphBudgetRow.Grows (row later : GraphBudgetRow) : Prop where
  tenant : later.tenant = row.tenant
  deadline : later.deadlineAt = row.deadlineAt
  maxAttempts : later.maxAttempts = row.maxAttempts
  maxOutputTokens : later.maxOutputTokens = row.maxOutputTokens
  attempts : row.attempts ≤ later.attempts
  outputTokens : row.outputTokens ≤ later.outputTokens

theorem GraphBudgetRow.Grows.refl (row : GraphBudgetRow) : row.Grows row :=
  ⟨rfl, rfl, rfl, rfl, Int.le_refl _, Int.le_refl _⟩

theorem GraphBudgetRow.Grows.trans {first second third : GraphBudgetRow}
    (hfirst : first.Grows second) (hsecond : second.Grows third) : first.Grows third where
  tenant := hsecond.tenant.trans hfirst.tenant
  deadline := hsecond.deadline.trans hfirst.deadline
  maxAttempts := hsecond.maxAttempts.trans hfirst.maxAttempts
  maxOutputTokens := hsecond.maxOutputTokens.trans hfirst.maxOutputTokens
  attempts := hfirst.attempts.trans hsecond.attempts
  outputTokens := hfirst.outputTokens.trans hsecond.outputTokens

/-- **Step lemma.** -/
theorem next_grows {row : GraphBudgetRow} (input : BudgetInput)
    (hrow : tables.budgets.find graphId = some row) :
    ∃ later, ((budgetStore platform).next tables input).budgets.find graphId = some later ∧
      row.Grows later := by
  cases hseen : callOn row.tenant graphId input with
  | none => exact ⟨row, unseen_row hseen hrow, GraphBudgetRow.Grows.refl row⟩
  | some call =>
      cases input with
      | operation made => cases hseen
      | openBudget caller target => cases hseen
      | reopen => cases hseen
      | call handle made =>
          show ∃ later, (commit (BudgetAnswer.granted <$> handle.call made) tables).2.budgets.find
            graphId = some later ∧ row.Grows later
          rcases commit_cases (BudgetAnswer.granted <$> handle.call made) tables with
            ⟨answer, -, h⟩ | ⟨-, hsame⟩
          · obtain ⟨granted, hcall, -⟩ := map_ok.mp h
            obtain ⟨later, hlater, hcases⟩ := call_row hrow hcall
            refine ⟨later, hlater, ?_⟩
            rcases hcases with rfl | ⟨-, rfl | ⟨count, hcount, rfl⟩⟩
            · exact GraphBudgetRow.Grows.refl _
            · refine ⟨rfl, rfl, rfl, rfl, ?_, Int.le_refl _⟩
              show row.attempts ≤ row.attempts + 1
              omega
            · refine ⟨rfl, rfl, rfl, rfl, Int.le_refl _, ?_⟩
              show row.outputTokens ≤ row.outputTokens + count
              omega
          · rw [hsame]
            exact ⟨row, hrow, GraphBudgetRow.Grows.refl row⟩

/-- **Run lemma.** -/
theorem after_grows {row : GraphBudgetRow} (inputs : List BudgetInput)
    (hrow : tables.budgets.find graphId = some row) :
    ∃ later, ((budgetStore platform).after tables inputs).budgets.find graphId = some later ∧
      row.Grows later := by
  induction inputs generalizing tables row with
  | nil => exact ⟨row, hrow, GraphBudgetRow.Grows.refl row⟩
  | cons input rest ih =>
      obtain ⟨middle, hmiddle, hfirst⟩ := @next_grows platform tables graphId row input hrow
      obtain ⟨later, hlater, hsecond⟩ := ih hmiddle
      exact ⟨later, hlater, hfirst.trans hsecond⟩

/-- Every budget of a reachable store was bound once. -/
theorem exists_boundIn {row : GraphBudgetRow} {inputs : List BudgetInput}
    (hrow : ((budgetStore platform).after GraphTables.empty inputs).budgets.find graphId =
      some row) :
    ∃ before made later budget bound duration, inputs = before ++ .operation made :: later ∧
      BoundIn platform before made row.tenant graphId budget bound duration := by
  obtain ⟨before, input, later, hsplit, ⟨habsent, happears⟩, hsince⟩ :=
    @Machine.after_origin _ _ _ (budgetStore platform) (fun _ => True)
      (fun tables => tables.budgets.find graphId ≠ none)
      (fun tables input => tables.budgets.find graphId = none ∧
        ((budgetStore platform).next tables input).budgets.find graphId ≠ none)
      GraphTables.empty (fun _ _ _ => trivial)
      (fun tables input _ hnext => by
        by_cases hfound : tables.budgets.find graphId = none
        · exact Or.inr ⟨hfound, hnext⟩
        · exact Or.inl hfound)
      trivial (fun h => h rfl) inputs (by rw [hrow]; exact Option.some_ne_none row)
  obtain ⟨made, tenant, budget, now, bound, duration, rfl, hbinds, hbound, -, hduration, htracks⟩ :=
    appears habsent happears
  -- the row kept its tenant
  obtain ⟨first, deadline, hfirst, htenant, -⟩ := htracks
  obtain ⟨last, hlast, hgrows⟩ := @after_grows platform _ graphId first later hfirst
  have hsame : ((budgetStore platform).after GraphTables.empty inputs).budgets.find graphId =
      some last := by
    rw [hsplit, Machine.after_append, Machine.after_cons]
    exact hlast
  rw [hrow, Option.some.injEq] at hsame
  subst hsame
  refine ⟨before, made, later, budget, bound, duration, hsplit, ⟨now, ?_, hbound⟩, hduration, habsent,
    ?_⟩
  · rw [hgrows.tenant, htenant]
    exact hbinds
  · rw [after_snoc]
    exact happears

/-! ### Agreement -/

/-- What was accepted stays below the integers of SQLite. -/
def FitsSqlite (budget : GraphBudget) (bound : Instant) (duration : Int) (calls : List BudgetCall) :
    Prop :=
  (budgetAllowance.after (budget.boundAllowance bound duration) calls).amount < sqliteLimit

/-- The answers of all handles on a budget are those of one budget in memory, with
the same limits and started when the budget was bound; `measured` reads the
deadline, and `fits` says which calls are made. -/
def BudgetsAgree (platform : Platform) (measured : Number → ℚ)
    (fits : GraphBudget → Instant → Int → List BudgetCall → Prop) : Prop :=
  ∀ before made later tenant graphId budget bound duration memory,
    BoundIn platform before made tenant graphId budget bound duration →
    WorkflowBudget.new (measured budget.deadlineSeconds) budget.maxAttempts budget.maxOutputTokens bound =
      .ok memory →
    fits budget bound duration (later.filterMap (callOn tenant graphId)) →
    ((budgetStore platform).transcript (callOn tenant graphId)
        ((budgetStore platform).after GraphTables.empty (before ++ [.operation made])) later).map
          (fun pair => (pair.1, durableReply pair.2)) =
      (workflowBudget.answers memory (later.filterMap (callOn tenant graphId))).map
        (fun pair => (pair.1, budgetReply pair.2))

/-- What an answered call adds to the attempts. -/
def attemptGain : BudgetCall × Option Allowance.Reply → Int
  | (call, some reply) => Allowance.grantedUse call.request reply
  | (_, none) => 0

/-- What an answered call adds to the output tokens. -/
def tokenGain : BudgetCall × Option Allowance.Reply → Int
  | (call, some reply) => Allowance.acceptedAmount call.request reply
  | (_, none) => 0

/-- The row of a budget after these replies. -/
structure BudgetCounts (budget : GraphBudget) (tenant : String) (bound : Instant) (duration : Int)
    (replies : List (BudgetCall × Option Allowance.Reply)) (row : GraphBudgetRow) : Prop where
  tenant : row.tenant = tenant
  maxAttempts : row.maxAttempts = budget.maxAttempts
  maxOutputTokens : row.maxOutputTokens = budget.maxOutputTokens
  attempts : row.attempts = (replies.map attemptGain).sum
  outputTokens : row.outputTokens = (replies.map tokenGain).sum
  attempts_nonneg : 0 ≤ row.attempts
  attempts_le : row.attempts ≤ row.maxAttempts
  outputTokens_nonneg : 0 ≤ row.outputTokens
  outputTokens_le : ∀ limit ∈ row.maxOutputTokens, row.outputTokens ≤ limit
  refused : ∀ clock reply, (BudgetCall.reserveAttempt clock, reply) ∈ replies →
    bound.micros + duration ≤ (clock.micros : Int) →
    reply = some .refused

/-- A budget call by call is its allowance request by request. -/
theorem budgetAllowance_after (allowance : Allowance Int) (calls : List BudgetCall) :
    budgetAllowance.after allowance calls =
      Allowance.machine.after allowance (calls.map BudgetCall.request) := by
  induction calls generalizing allowance with
  | nil => rfl
  | cons call rest ih => exact ih _

theorem budgetAllowance_answers (allowance : Allowance Int) (calls : List BudgetCall) :
    (budgetAllowance.answers allowance calls).map (fun pair => (pair.1.request, pair.2)) =
      Allowance.machine.answers allowance (calls.map BudgetCall.request) := by
  induction calls generalizing allowance with
  | nil => rfl
  | cons call rest ih =>
      rw [Machine.answers_cons, List.map_cons, List.map_cons, Machine.answers_cons, ih]
      rfl

theorem boundAllowance_within (hvalid : validateGraphBudget budget = .ok ()) :
    (budget.boundAllowance bound duration).Within := by
  obtain ⟨-, -, -, -, -, hattempts, hlimits⟩ := validateGraphBudget_ok hvalid
  refine ⟨Int.le_refl 0, ?_, Int.le_refl 0, fun limit hlimit => ?_⟩
  · show 0 ≤ budget.maxAttempts
    omega
  · have hone := hlimits limit hlimit
    show 0 ≤ limit
    omega

/-- Every call of a run whose amount fits is stored. -/
theorem stored_of_fits (hvalid : validateGraphBudget budget = .ok ()) {calls : List BudgetCall}
    (hfits : FitsSqlite budget bound duration calls) :
    ∀ before call rest, calls = before ++ call :: rest →
      Stored (budgetAllowance.after (budget.boundAllowance bound duration) before) call := by
  rintro before call rest rfl
  constructor
  · rw [budgetAllowance_after]
    exact (boundAllowance_within hvalid).after
  · unfold FitsSqlite at hfits
    rw [Machine.after_append, Machine.after_cons, budgetAllowance_after] at hfits
    exact Int.lt_of_le_of_lt (Allowance.after_le _ _).2 hfits

/-- **Run lemma.**  The store answers as the bound allowance does. -/
theorem BoundIn.run (h : BoundIn platform before made tenant graphId budget bound duration)
    {later : List BudgetInput}
    (hfits : FitsSqlite budget bound duration (later.filterMap (callOn tenant graphId))) :
    ((budgetStore platform).transcript (callOn tenant graphId)
        ((budgetStore platform).after GraphTables.empty (before ++ [.operation made])) later).map
          (fun pair => (pair.1, durableReply pair.2)) =
      (budgetAllowance.answers (budget.boundAllowance bound duration)
        (later.filterMap (callOn tenant graphId))).map (fun pair => (pair.1, some pair.2)) ∧
    Tracks tenant graphId
      ((budgetStore platform).after GraphTables.empty (before ++ .operation made :: later))
      (budgetAllowance.after (budget.boundAllowance bound duration)
        (later.filterMap (callOn tenant graphId))) := by
  obtain ⟨hvalid, htracks⟩ := h.tracks
  have hsimulates := @budgetStore_simulates platform tenant graphId
  have hrun := hsimulates.run htracks later (stored_of_fits hvalid hfits)
  have hlast : (budgetStore platform).after GraphTables.empty (before ++ .operation made :: later) =
      (budgetStore platform).after
        ((budgetStore platform).after GraphTables.empty (before ++ [.operation made])) later := by
    simp only [Machine.after_append, Machine.after_cons, Machine.after_nil]
  rw [hlast]
  exact hrun

/-- A new budget in memory, with the deadline the store keeps, has the bound
allowance. -/
theorem new_allowance {memory : WorkflowBudget}
    (hduration : microseconds budget.deadlineSeconds = .ok duration)
    (h : WorkflowBudget.new (wholeMicroseconds budget.deadlineSeconds) budget.maxAttempts
      budget.maxOutputTokens bound = .ok memory) :
    memory.allowance = budget.boundAllowance bound duration := by
  unfold WorkflowBudget.new at h
  split at h
  · obtain rfl := Except.ok.inj h
    have hceil : ⌈wholeMicroseconds budget.deadlineSeconds * 1000000⌉ = duration := by
      unfold wholeMicroseconds
      rw [hduration, div_mul_cancel₀ _ (by norm_num)]
      exact Int.ceil_intCast _
    unfold WorkflowBudget.allowance GraphBudget.boundAllowance
    rw [hceil]
  · cases h

theorem durable_agrees : BudgetsAgree platform wholeMicroseconds FitsSqlite := by
  intro before made later tenant graphId budget bound duration memory hbound hnew hfits
  obtain ⟨hstore, -⟩ := hbound.run hfits
  have hmemory := workflowBudget_simulates.run (new_allowance hbound.duration hnew)
    (later.filterMap (callOn tenant graphId)) fun _ _ _ _ => trivial
  rw [List.filterMap_some] at hmemory
  rw [hstore]
  exact hmemory.1.symm

/-- The row of a bound budget counts the granted attempts and the accepted tokens,
within the limits. -/
theorem BoundIn.counts (h : BoundIn platform before made tenant graphId budget bound duration)
    {later : List BudgetInput}
    (hfits : FitsSqlite budget bound duration (later.filterMap (callOn tenant graphId))) :
    ∃ row, ((budgetStore platform).after GraphTables.empty
        (before ++ .operation made :: later)).budgets.find graphId = some row ∧
      BudgetCounts budget tenant bound duration
        (((budgetStore platform).transcript (callOn tenant graphId)
          ((budgetStore platform).after GraphTables.empty (before ++ [.operation made])) later).map
            fun pair => (pair.1, durableReply pair.2)) row := by
  obtain ⟨hreplies, row, deadline, hrow, howned, -, hallows⟩ := h.run hfits
  obtain ⟨hvalid, -⟩ := h.tracks
  rw [hreplies]
  generalize later.filterMap (callOn tenant graphId) = calls at hallows ⊢
  -- the row is what the allowance became
  have huses := Machine.after_total Allowance.next_uses (budget.boundAllowance bound duration)
    (calls.map BudgetCall.request)
  have hamount := Machine.after_total Allowance.next_amount (budget.boundAllowance bound duration)
    (calls.map BudgetCall.request)
  have hlimits := Allowance.after_limits (budget.boundAllowance bound duration)
    (calls.map BudgetCall.request)
  have hwithin : (Allowance.machine.after (budget.boundAllowance bound duration)
      (calls.map BudgetCall.request)).Within := (boundAllowance_within hvalid).after
  rw [budgetAllowance_after] at hallows
  rw [← hallows] at huses hamount hlimits hwithin
  have hsum : ∀ gain : Allowance.Request Int → Allowance.Reply → Int,
      Allowance.machine.total gain (budget.boundAllowance bound duration)
          (calls.map BudgetCall.request) =
        ((budgetAllowance.answers (budget.boundAllowance bound duration) calls).map
          fun pair => gain pair.1.request pair.2).sum := by
    intro gain
    unfold Machine.total
    rw [← budgetAllowance_answers, List.map_map]
    rfl
  rw [hsum] at huses hamount
  refine ⟨row, hrow, howned, hlimits.2.1, hlimits.2.2, ?_, ?_, hwithin.uses_nonneg, hwithin.uses_le,
    hwithin.amount_nonneg, hwithin.amount_le, ?_⟩
  · rw [List.map_map]
    exact huses.trans (Int.zero_add _)
  · rw [List.map_map]
    exact hamount.trans (Int.zero_add _)
  · intro clock reply hmem hdeadline
    obtain ⟨⟨call, found⟩, hpair, hsame⟩ := List.mem_map.mp hmem
    obtain ⟨rfl, rfl⟩ := Prod.mk.inj hsame
    have hanswer : (Allowance.Request.reserve (clock.micros : Int), found) ∈
        Allowance.machine.answers (budget.boundAllowance bound duration)
          (calls.map BudgetCall.request) := by
      rw [← budgetAllowance_answers]
      exact List.mem_map.mpr ⟨_, hpair, rfl⟩
    rw [Allowance.refused_of_deadline _ _ _ _ hanswer hdeadline]

end Runs

/-- **Budgets.**  Whatever operations, handles and reopenings come between them,
the calls on the budget of a graph are answered as by one budget in memory whose
deadline is the bound one in whole microseconds; the row counts the granted
attempts and the accepted tokens, within the limits, and never goes back. -/
theorem durable_budget_refines (platform : Platform) :
    BudgetsAgree platform wholeMicroseconds FitsSqlite ∧
    (∀ before made later tenant graphId budget bound duration,
      BoundIn platform before made tenant graphId budget bound duration →
      FitsSqlite budget bound duration (later.filterMap (callOn tenant graphId)) →
      ∃ row, ((budgetStore platform).after GraphTables.empty
          (before ++ .operation made :: later)).budgets.find graphId = some row ∧
        BudgetCounts budget tenant bound duration
          (((budgetStore platform).transcript (callOn tenant graphId)
            ((budgetStore platform).after GraphTables.empty (before ++ [.operation made])) later).map
              fun pair => (pair.1, durableReply pair.2)) row) ∧
    ∀ inputs graphId row,
      ((budgetStore platform).after GraphTables.empty inputs).budgets.find graphId = some row →
      (∃ before made later budget bound duration, inputs = before ++ .operation made :: later ∧
        BoundIn platform before made row.tenant graphId budget bound duration) ∧
      ∀ more, ∃ later, ((budgetStore platform).after GraphTables.empty
        (inputs ++ more)).budgets.find graphId = some later ∧ row.Grows later := by
  refine ⟨durable_agrees, ?_, fun inputs graphId row hrow => ⟨exists_boundIn hrow, fun more => ?_⟩⟩
  · intro before made later tenant graphId budget bound duration hbound hfits
    exact hbound.counts hfits
  · rw [Machine.after_append]
    exact after_grows more hrow

/-! ### Where they differ -/

section Differences

variable {platform : Platform} {budget : GraphBudget} {duration : Int}

/-- The stored deadline of a shift that stays in the calendar. -/
theorem deadlineAt_of_shift {bound later : Instant}
    (hduration : microseconds budget.deadlineSeconds = .ok duration)
    (hlater : bound.shift duration = some later) :
    deadlineAt budget bound.utc = .ok later.isoformat := by
  unfold deadlineAt
  rw [utcNow_utc, except_ok_bind, hduration, except_ok_bind, hlater]
  rfl

/-- A budget can be bound at the first instant, if its deadline is in the calendar. -/
theorem exists_bound_pair (hvalid : validateGraphBudget budget = .ok ())
    (hduration : microseconds budget.deadlineSeconds = .ok duration)
    (hfits : limitsFit budget.maxAttempts budget.maxOutputTokens = true)
    (hlow : 0 ≤ duration) (hhigh : duration < (maxOrdinal * microsPerDay : Nat)) :
    ∃ before final, ∃ bound : Instant, ∃ row,
      ((budgetStore platform).after GraphTables.empty before).budgets.find "g" = none ∧
      (budgetStore platform).step ((budgetStore platform).after GraphTables.empty before)
          (.operation (.call (.bindGraphBudget "t" "g" budget bound.utc))) =
        (.ok (.operation (.budget row)), final) ∧
      final.budgets.find "g" ≠ none := by
  obtain ⟨packet, hpacket⟩ : ∃ packet : TaskPacket, packet.Storable :=
    ⟨TaskPacket.short, TaskPacket.short_storable⟩
  obtain ⟨bound, hbound⟩ : ∃ bound : Instant, bound.micros = 0 := ⟨⟨0, by decide⟩, rfl⟩
  obtain ⟨row, created, hcreate, hrow, hstored, hlisted⟩ :=
    @createGraph_fresh platform GraphTables.empty "t" (WorkflowGraph.pair packet packet) "k" "g" _
      bound.utc graphsSound_empty (by decide) (by decide) (fun node hnode => by
        fin_cases hnode
        · exact hpacket
        · exact hpacket) (pair_initial packet packet) (fun row hrow => by cases hrow) rfl
  have hnext : (budgetStore platform).after GraphTables.empty [.operation (.call (.createGraph "t"
      "k" (WorkflowGraph.pair packet packet) none none bound.utc "g"))] = created := by
    rw [Machine.after_cons, Machine.after_nil]
    exact Machine.next_of_step (commit_of_ok (map_ok.mpr ⟨.graphId "g", map_ok.mpr
      ⟨"g", hcreate, rfl⟩, rfl⟩))
  -- the creation stored no budget
  have hnone : created.budgets.find "g" = none := by
    rcases createGraph_budgets hcreate with hsame | ⟨tenant, id, budget, now, deadline, hbinds, -⟩
    · rw [hsame]
      rfl
    · cases hbinds
  obtain ⟨later, hlater⟩ : ∃ later, bound.shift duration = some later := by
    apply Instant.exists_shift
    · rw [hbound]
      omega
    · rw [hbound]
      omega
  have hdeadline := deadlineAt_of_shift hduration hlater
  obtain ⟨budgets, hinsert⟩ : ∃ budgets,
      created.budgets.insert (budget.bound "t" "g" later.isoformat) = some budgets :=
    Table.insert_of_fresh hnone
  have hget := getGraphState_valid hrow hstored hlisted
  have hselect : selectBudget "t" "g" created = .ok (none, created) := by
    have hfixed : ∀ row, budgetOf "t" "g" row = true → row.graphId = "g" :=
      fun row hrow => (budgetOf_iff.mp hrow).2
    show Except.ok (created.budgets.fetchone (budgetOf "t" "g"), created) = _
    rw [Table.fetchone_of_key hfixed, hnone]
    rfl
  have hbind : bindGraphBudget "t" "g" budget bound.utc created =
      .ok (budget.bound "t" "g" later.isoformat, { created with budgets }) := by
    unfold bindGraphBudget
    simp only [lift_bind_ok]
    refine ⟨(), hvalid, later.isoformat, hdeadline, ?_⟩
    rw [bind_of_ok hget]
    simp only [Option.isSome_some, require_bind_ok, true_and]
    rw [bind_of_ok hselect]
    simp only [insertBudgetRow_bind_ok, pure_ok]
    exact ⟨hfits, { created with budgets }, Option.map_eq_some_iff.mpr ⟨budgets, hinsert, rfl⟩,
      rfl, rfl⟩
  refine ⟨_, { created with budgets }, bound, budget.bound "t" "g" later.isoformat, hnext ▸ hnone,
    ?_, ?_⟩
  · rw [hnext]
    exact commit_of_ok (map_ok.mpr ⟨_, map_ok.mpr ⟨_, hbind, rfl⟩, rfl⟩)
  · show budgets.find "g" ≠ none
    rw [Table.find_insert hinsert]
    intro h
    cases h

theorem exists_boundIn_pair (hvalid : validateGraphBudget budget = .ok ())
    (hduration : microseconds budget.deadlineSeconds = .ok duration)
    (hfits : limitsFit budget.maxAttempts budget.maxOutputTokens = true)
    (hlow : 0 ≤ duration) (hhigh : duration < (maxOrdinal * microsPerDay : Nat)) :
    ∃ before made bound, BoundIn platform before made "t" "g" budget bound duration := by
  obtain ⟨before, final, bound, row, hnone, hstep, hstored⟩ :=
    @exists_bound_pair platform budget duration hvalid hduration hfits hlow hhigh
  refine ⟨before, .call (.bindGraphBudget "t" "g" budget bound.utc), bound,
    ⟨bound.utc, Binds.bind, utcNow_utc bound⟩, hduration, hnone, ?_⟩
  rw [after_snoc, Machine.next_of_step hstep]
  exact hstored

/-- A new budget in memory without a token limit. -/
theorem exists_new {maxAttempts : Int} (bound : Instant) (hseconds : 0 < seconds)
    (hattempts : 1 ≤ maxAttempts) :
    ∃ memory, WorkflowBudget.new seconds maxAttempts none bound = .ok memory ∧
      memory.allowance = ⟨bound.micros + ⌈seconds * 1000000⌉, maxAttempts, none, 0, 0⟩ := by
  have hcheck : WorkflowBudget.check seconds maxAttempts none = .ok () := by
    unfold WorkflowBudget.check
    simp only [ensure_bind_ok, ensure_ok, decide_eq_true_eq]
    exact ⟨hseconds, hattempts, rfl⟩
  refine ⟨⟨seconds, maxAttempts, none, bound, 0, 0, hcheck⟩, ?_, rfl⟩
  unfold WorkflowBudget.new
  split
  · rfl
  · rename_i error herror
    rw [hcheck] at herror
    cases herror

/-- What a budget in memory answers to a first call. -/
theorem answers_single {memory : WorkflowBudget} (call : BudgetCall) :
    (workflowBudget.answers memory [call]).map (fun pair => (pair.1, budgetReply pair.2)) =
      [(call, some (Allowance.step memory.allowance call.request).1)] := by
  have hrun := workflowBudget_simulates.run (rfl : memory.allowance = memory.allowance) [call]
    fun _ _ _ _ => trivial
  exact hrun.1

/-- What the store answers to a single call on a budget. -/
theorem transcript_single {tables : GraphTables} {tenant graphId : String} (call : BudgetCall) :
    ((budgetStore platform).transcript (callOn tenant graphId) tables
      [.call ⟨tenant, graphId⟩ call]).map (fun pair => (pair.1, durableReply pair.2)) =
      [(call, durableReply ((budgetStore platform).answer tables (.call ⟨tenant, graphId⟩ call)))] := by
  simp only [Machine.transcript, callOn, if_true, List.map_cons, List.map_nil]

/-- A budget for a tenth of a microsecond. -/
def GraphBudget.instantaneous : GraphBudget where
  deadlineSeconds := .float (.finite ⟨false, 1, -7, by decide, by decide⟩)
  maxAttempts := 1
  maxOutputTokens := none

/-- A budget for a second, with no limit of tokens. -/
def GraphBudget.unlimited : GraphBudget where
  deadlineSeconds := .int 1
  maxAttempts := 1
  maxOutputTokens := none

/-- A count that SQLite cannot store is refused with an error. -/
theorem record_overflows {tables : GraphTables} {allowance : Allowance Int}
    (htracks : Tracks "t" "g" tables allowance) (hunlimited : allowance.maxAmount = none) :
    durableReply ((budgetStore platform).answer tables
      (.call ⟨"t", "g"⟩ (.recordOutputTokens (some sqliteLimit)))) = none := by
  obtain ⟨row, deadline, hrow, howned, -, hallows⟩ := htracks
  have hnone : row.maxOutputTokens = none := by
    rw [← hunlimited, ← hallows]
    rfl
  have hrequire : (require (decide (0 ≤ sqliteLimit))
      (.valueError "Output token count must be a nonnegative integer") : GraphTx Unit) tables =
        .ok ((), tables) := require_ok.mpr ⟨by decide, rfl⟩
  have hbody : recordGraphOutputTokens "t" "g" (some sqliteLimit) tables =
      .error .overflowError := by
    unfold recordGraphOutputTokens
    simp only
    rw [bind_of_ok hrequire, bind_of_ok (selectBudget_of_row hrow howned)]
    simp only [hnone]
    rfl
  have hstep : (budgetStore platform).step tables
      (.call ⟨"t", "g"⟩ (.recordOutputTokens (some sqliteLimit))) =
        (.error .overflowError, tables) := commit_map_error hbody
  rw [Machine.answer_of_step hstep]
  rfl

/-- If the two agree, they answer a single call alike. -/
theorem BudgetsAgree.single {measured : Number → ℚ}
    {fits : GraphBudget → Instant → Int → List BudgetCall → Prop}
    (h : BudgetsAgree platform measured fits) {before : List BudgetInput} {made : GraphOperation}
    {bound : Instant} {memory : WorkflowBudget} {call : BudgetCall}
    (hbound : BoundIn platform before made "t" "g" budget bound duration)
    (hnew : WorkflowBudget.new (measured budget.deadlineSeconds) budget.maxAttempts
      budget.maxOutputTokens bound = .ok memory) (hfits : fits budget bound duration [call]) :
    durableReply ((budgetStore platform).answer
        ((budgetStore platform).after GraphTables.empty (before ++ [.operation made]))
        (.call ⟨"t", "g"⟩ call)) =
      some (Allowance.step memory.allowance call.request).1 := by
  have hcalls : List.filterMap (callOn "t" "g") [.call ⟨"t", "g"⟩ call] = [call] := by
    simp only [callOn, if_true, List.filterMap_cons, List.filterMap_nil]
  have hagree := h before made [.call ⟨"t", "g"⟩ call] "t" "g" budget bound duration memory hbound
    hnew (hcalls ▸ hfits)
  rw [hcalls, transcript_single, answers_single] at hagree
  exact (Prod.mk.inj (List.singleton_inj.mp hagree)).2

/-- A deadline that rounds to nothing grants no attempt in the store, and a count
too large for SQLite is no answer there. -/
theorem budgets_differ :
    (¬ ∀ platform, BudgetsAgree platform exactSeconds FitsSqlite) ∧
      ¬ ∀ platform, BudgetsAgree platform wholeMicroseconds fun _ _ _ _ => True := by
  obtain ⟨platform⟩ : Nonempty Platform := ⟨⟨id, id, fun _ => true⟩⟩
  constructor
  · intro h
    have hvalid : validateGraphBudget GraphBudget.instantaneous = .ok () := by decide +kernel
    have hduration : microseconds GraphBudget.instantaneous.deadlineSeconds = .ok 0 := by
      decide +kernel
    have hpositive : 0 < exactSeconds GraphBudget.instantaneous.deadlineSeconds := by
      decide +kernel
    have hceil : ⌈exactSeconds GraphBudget.instantaneous.deadlineSeconds * 1000000⌉ = 1 := by
      decide +kernel
    obtain ⟨before, made, bound, hbound⟩ := @exists_boundIn_pair platform _ _ hvalid hduration
      (by decide) (by omega) (by decide)
    obtain ⟨memory, hnew, hallows⟩ := @exists_new _ 1 bound hpositive (by omega)
    have hagree := @BudgetsAgree.single platform _ _ _ _ (h platform) _ _ _ _ (.reserveAttempt bound)
      hbound hnew (by
        show (Allowance.step _ (.reserve (bound.micros : Int))).2.amount < sqliteLimit
        simp only [Allowance.step]
        split_ifs <;> exact (by decide : (0 : Int) < sqliteLimit))
    -- the deadline is the moment of binding in the store, and later in memory
    have hstore := (@follows_step platform _ _ _ _ _ _
      (@reserve_follows _ _ _ _ bound hbound.tracks.2)).1
    have hrefused : Allowance.step (GraphBudget.instantaneous.boundAllowance bound 0)
        (.reserve (bound.micros : Int)) = (.refused, _) :=
      if_pos (Or.inl (Int.add_zero _).le)
    have hgranted : (Allowance.step memory.allowance (.reserve (bound.micros : Int))).1 =
        .granted := by
      rw [hallows]
      simp only [Allowance.step, hceil]
      rw [if_neg]
      omega
    rw [hstore, hrefused] at hagree
    change some Allowance.Reply.refused =
      some (Allowance.step memory.allowance (.reserve (bound.micros : Int))).1 at hagree
    rw [hgranted] at hagree
    cases hagree
  · intro h
    have hvalid : validateGraphBudget GraphBudget.unlimited = .ok () := by decide +kernel
    have hduration : microseconds GraphBudget.unlimited.deadlineSeconds = .ok 1000000 := rfl
    have hwhole : wholeMicroseconds GraphBudget.unlimited.deadlineSeconds = 1 := by
      unfold wholeMicroseconds
      rw [hduration]
      norm_num
    obtain ⟨before, made, bound, hbound⟩ := @exists_boundIn_pair platform _ _ hvalid hduration
      (by decide) (by omega) (by decide)
    obtain ⟨memory, hnew, hallows⟩ := @exists_new 1 1 bound (by norm_num) (by omega)
    have hagree := @BudgetsAgree.single platform _ _ _ _ (h platform) _ _ _ _
      (.recordOutputTokens (some sqliteLimit)) hbound (hwhole.symm ▸ hnew) trivial
    rw [record_overflows hbound.tracks.2 rfl] at hagree
    cases hagree

end Differences

end Refinement

end Workflows
end Ryuk
