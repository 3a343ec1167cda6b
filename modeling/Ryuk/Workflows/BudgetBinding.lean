import Ryuk.Workflows.BudgetRefinement
import Ryuk.Workflows.GraphIdempotency

/-!
# Attaching a budget twice

A graph gets its budget when it is created or later.  A second creation under the
same key compares a hash that covers all three limits; a second binding compares
the stored columns, and of the duration only a deadline is stored.
-/

namespace Ryuk
namespace Workflows

open Foundation Foundation.Json Foundation.Text Foundation.Datetime Foundation.Transaction
open Foundation.Registry Foundation.Decimal
open Relation

/-! ### Equal budgets -/

/-- The triples of limits are equal; numbers are compared by value, so that an integer
equals the float of its value. -/
def GraphBudget.Same (first second : GraphBudget) : Prop :=
  first.deadlineSeconds.toRat? = second.deadlineSeconds.toRat? ∧
    first.maxAttempts = second.maxAttempts ∧ first.maxOutputTokens = second.maxOutputTokens

theorem GraphBudget.Same.refl (budget : GraphBudget) : budget.Same budget := ⟨rfl, rfl, rfl⟩

/-- A double is less than the integers that are too long to be written. -/
theorem Finite.digits_lt (value : Finite) (hdigits : value.digits ≠ 0) :
    (value.digits : ℚ) * 10 ^ value.exponent < 10 ^ maxIntDigits := by
  have hlength : (digitsOf value.digits).length + value.exponent ≤ 309 := by
    have hbounded := value.bounded
    unfold overflows at hbounded
    by_contra hlong
    simp only [if_neg (show ¬ (digitsOf value.digits).length + value.exponent < 309 by omega),
      if_pos (show 309 < (digitsOf value.digits).length + value.exponent by omega)] at hbounded
    exact hdigits (by simpa using hbounded)
  have hlimit : (digitsOf value.digits).length + value.exponent ≤ maxIntDigits := by
    show _ ≤ (4300 : ℤ)
    omega
  have hsize : value.digits < 10 ^ (digitsOf value.digits).length :=
    (Nat.length_toDigits_le_iff (by decide) Nat.length_toDigits_pos).mp (Nat.le_refl _)
  calc (value.digits : ℚ) * 10 ^ value.exponent
      < 10 ^ (digitsOf value.digits).length * 10 ^ value.exponent := by
        gcongr
        exact_mod_cast hsize
    _ = 10 ^ ((digitsOf value.digits).length + value.exponent) := by
        rw [zpow_add₀ (by norm_num), zpow_natCast]
    _ ≤ 10 ^ (maxIntDigits : ℤ) := zpow_le_zpow_right₀ (by norm_num) hlimit
    _ = 10 ^ maxIntDigits := zpow_natCast _ _

/-- An integer that equals a double is short enough to be written. -/
theorem printable_int_of_toRat {value : Int} {float : Finite} (h : float.toRat = value) :
    printable (.int value) = true := by
  have hbound : value.natAbs < 10 ^ maxIntDigits := by
    by_cases hdigits : float.digits = 0
    · rw [Finite.toRat, hdigits, Nat.cast_zero, mul_zero, zero_mul] at h
      have hzero : value = 0 := by exact_mod_cast h.symm
      rw [hzero]
      exact Nat.pow_pos (by decide)
    · have hsize : ((value.natAbs : ℕ) : ℚ) = float.digits * 10 ^ float.exponent := by
        rw [Nat.cast_natAbs, Int.cast_abs, ← h, Finite.toRat, mul_assoc, abs_mul]
        have hsign : |(if float.negative then (-1 : ℚ) else 1)| = 1 := by
          split_ifs
          · rw [abs_neg, abs_one]
          · exact abs_one
        rw [hsign, one_mul, abs_of_nonneg (by positivity)]
      have hlt := Finite.digits_lt float hdigits
      rw [← hsize] at hlt
      exact_mod_cast hlt
  rw [printable, decide_eq_true_eq]
  exact (Nat.length_toDigits_le_iff (by decide) (by decide)).mpr hbound

theorem printable_number {first second : Number} {seconds : ℚ}
    (hfirst : first.toRat? = some seconds) (hsecond : second.toRat? = some seconds)
    (h : printable (numberJson first) = true) : printable (numberJson second) = true := by
  cases second with
  | float second =>
      cases second with
      | nan => cases hsecond
      | infinity negative => cases hsecond
      | finite value => rfl
  | int second =>
      have hvalue : (second : ℚ) = seconds := Option.some.inj hsecond
      cases first with
      | int first =>
          have hsame : (first : ℚ) = second := (Option.some.inj hfirst).trans hvalue.symm
          rw [← Int.cast_inj.mp hsame]
          exact h
      | float first =>
          cases first with
          | nan => cases hfirst
          | infinity negative => cases hfirst
          | finite value =>
              exact printable_int_of_toRat ((Option.some.inj hfirst).trans hvalue.symm)

section Texts

variable {first second : GraphBudget} {text : String}

/-- What is the same as a written budget can be written. -/
theorem GraphBudget.Same.printable (h : first.Same second)
    (hvalid : validateGraphBudget first = .ok ()) (hprintable : printable first.toDict = true) :
    Json.printable second.toDict = true := by
  obtain ⟨seconds, -, hseconds, -⟩ := validateGraphBudget_ok hvalid
  unfold GraphBudget.toDict at hprintable ⊢
  rw [Json.printable, printableFields, Bool.and_eq_true] at hprintable ⊢
  rw [← h.2.1, ← h.2.2]
  exact ⟨printable_number hseconds (h.1 ▸ hseconds) hprintable.1, hprintable.2⟩

theorem numberJson_injective : Function.Injective numberJson := by
  intro first second h
  cases first with
  | int first =>
      cases second with
      | int second => rw [Json.int.inj h]
      | float second => cases h
  | float first =>
      cases second with
      | int second => cases h
      | float second => rw [Json.float.inj h]

theorem canon_numberJson (number : Number) : canon (numberJson number) = numberJson number := by
  cases number with
  | int value => rfl
  | float value => rfl

theorem canon_optionalInt (value : Option Int) : canon (optionalInt value) = optionalInt value := by
  cases value with
  | none => rfl
  | some value => rfl

theorem optionalInt_injective : Function.Injective optionalInt := by
  intro first second h
  cases first with
  | none =>
      cases second with
      | none => rfl
      | some second => cases h
  | some first =>
      cases second with
      | none => cases h
      | some second => rw [Json.int.inj h]

/-- The text of a budget determines it. -/
theorem GraphBudget.toDict_injective (hfirst : canonicalJson first.toDict = .ok text)
    (hsecond : canonicalJson second.toDict = .ok text) : first = second := by
  have hsame : ∀ key, (canon first.toDict).get? key = (canon second.toDict).get? key := by
    intro key
    rw [dumps_injective (canonicalJson_ok hfirst) (canonicalJson_ok hsecond)]
  have hkeys : ∀ budget : GraphBudget, (canon budget.toDict).get? "deadline_seconds" =
        some (numberJson budget.deadlineSeconds) ∧
      (canon budget.toDict).get? "max_attempts" = some (.int budget.maxAttempts) ∧
      (canon budget.toDict).get? "max_output_tokens" =
        some (optionalInt budget.maxOutputTokens) := by
    intro budget
    have hnodup : (keys [("deadline_seconds", numberJson budget.deadlineSeconds),
        ("max_attempts", .int budget.maxAttempts),
        ("max_output_tokens", optionalInt budget.maxOutputTokens)]).Nodup :=
      show ["deadline_seconds", "max_attempts", "max_output_tokens"].Nodup by decide
    unfold GraphBudget.toDict
    refine ⟨?_, ?_, ?_⟩
    · rw [get?_canon hnodup]
      exact congrArg some (canon_numberJson _)
    · rw [get?_canon hnodup]
      rfl
    · rw [get?_canon hnodup]
      exact congrArg some (canon_optionalInt _)
  obtain ⟨hdeadline, hattempts, htokens⟩ := hkeys first
  obtain ⟨hdeadline', hattempts', htokens'⟩ := hkeys second
  rw [hsame] at hdeadline hattempts htokens
  have hdurations := numberJson_injective (Option.some.inj (hdeadline.symm.trans hdeadline'))
  have hcounts := Json.int.inj (Option.some.inj (hattempts.symm.trans hattempts'))
  have hlimits := optionalInt_injective (Option.some.inj (htokens.symm.trans htokens'))
  exact congr (congr (congrArg GraphBudget.mk hdurations) hcounts) hlimits

end Texts

/-! ### Graphs stay -/

section Graphs

variable {platform : Platform} {tables next final : GraphTables} {tenant graphId : String}

theorem GraphStep.row_kept {view later : GraphView} {row : GraphRow} (hstep : GraphStep view later)
    (hrow : view.row = some row) : later.row = some row := by
  cases hstep with
  | create created state habsent hstored hinitial =>
      rw [habsent] at hrow
      cases hrow
  | move hfound hstored hstates hmove hordered => exact hrow

theorem GraphQuiet.row_kept {row : GraphRow} (h : GraphQuiet tables final)
    (hrow : (tables.graphView tenant graphId).row = some row) :
    (final.graphView tenant graphId).row = some row := by
  have hsteps := h tenant graphId
  generalize final.graphView tenant graphId = later at hsteps ⊢
  induction hsteps with
  | refl => exact hrow
  | tail _ hstep ih => exact hstep.row_kept ih

/-- **Step lemma.**  Calls on budgets leave the graphs alone. -/
theorem budgetStore_quiet (tables : GraphTables) (input : BudgetInput)
    (hvalid : AllGraphsValid tables) :
    GraphQuiet tables ((budgetStore platform).next tables input) := by
  refine @commit_preserves _ _ _ (input.body platform) (GraphQuiet tables) tables
    (GraphQuiet.refl tables) fun answer final h => ?_
  cases input with
  | operation made =>
      obtain ⟨inner, hmade, -⟩ := map_ok.mp h
      exact graphBody_quiet hvalid hmade
  | openBudget caller target =>
      obtain ⟨handle, hopen, -⟩ := map_ok.mp h
      have hsame : final = tables := @openBudget_keeps _ _ _ id _ _ _ hopen
      rw [hsame]
      exact GraphQuiet.refl tables
  | call handle made =>
      obtain ⟨granted, hcall, -⟩ := map_ok.mp h
      apply SameGraphs.quiet
      rcases call_cases hcall with rfl | rfl | ⟨count, -, rfl⟩
      · exact SameGraphs.of_rows rfl rfl rfl
      · exact SameGraphs.of_rows rfl rfl rfl
      · exact SameGraphs.of_rows rfl rfl rfl
  | reopen =>
      obtain ⟨-, rfl⟩ := pure_ok.mp h
      exact GraphQuiet.refl tables

theorem budgetStore_valid (tables : GraphTables) (input : BudgetInput)
    (hvalid : AllGraphsValid tables) : AllGraphsValid ((budgetStore platform).next tables input) :=
  (budgetStore_quiet tables input hvalid).valid hvalid

/-- **Run lemma.** -/
theorem budgetStore_after_quiet (hvalid : AllGraphsValid tables) (inputs : List BudgetInput) :
    GraphQuiet tables ((budgetStore platform).after tables inputs) :=
  Machine.after_related budgetStore_valid GraphQuiet.refl (fun _ _ _ => GraphQuiet.trans)
    budgetStore_quiet hvalid inputs

/-- A graph of a sound store can be read. -/
theorem getGraphState_total {row : GraphRow} (hvalid : AllGraphsValid tables)
    (hrow : (tables.graphView tenant graphId).row = some row) :
    ∃ state, getGraphState tenant graphId tables = .ok (some state, tables) := by
  obtain ⟨state, hstored, hstates, -⟩ := (hvalid tenant graphId).stored row hrow
  exact ⟨state, getGraphState_valid hrow hstored hstates⟩

end Graphs

/-! ### Binding again -/

/-- The deadline of a budget that is bound now lies in the calendar. -/
def GraphBudget.Reaches (budget : GraphBudget) (now : DateTime) : Prop :=
  ∃ current duration deadline, utcNow now = .ok current ∧
    microseconds budget.deadlineSeconds = .ok duration ∧ current.shift duration = some deadline

section Binding

variable {platform : Platform} {tables final : GraphTables} {tenant graphId : String}
  {budget : GraphBudget} {now : DateTime} {row answer : GraphBudgetRow}

/-- What is no duration is no conflict either. -/
theorem microseconds_error {number : Number} {error : PyError}
    (h : microseconds number = .error error) (message : String) :
    error ≠ .workflowConflict message := by
  rintro rfl
  cases number with
  | int value => cases h
  | float value => cases value <;> cases h

/-- A deadline is found exactly when it lies in the calendar. -/
theorem deadlineAt_cases (budget : GraphBudget) (now : DateTime) :
    (budget.Reaches now ∧ ∃ deadline, deadlineAt budget now = .ok deadline) ∨
      (¬ budget.Reaches now ∧ ∃ error, deadlineAt budget now = .error error ∧
        ∀ message, error ≠ .workflowConflict message) := by
  unfold deadlineAt
  cases hnow : utcNow now with
  | error error =>
      refine Or.inr ⟨?_, error, rfl, ?_⟩
      · rintro ⟨current, duration, deadline, hcurrent, -⟩
        rw [hnow] at hcurrent
        cases hcurrent
      · intro message hconflict
        unfold utcNow at hnow
        rw [hconflict] at hnow
        split at hnow
        · cases hnow
        · split at hnow
          · cases hnow
          · cases hnow
  | ok current =>
      rw [except_ok_bind]
      cases hduration : microseconds budget.deadlineSeconds with
      | error error =>
          refine Or.inr ⟨?_, error, rfl, ?_⟩
          · rintro ⟨-, duration, deadline, -, hfound, -⟩
            rw [hduration] at hfound
            cases hfound
          · intro message hconflict
            exact microseconds_error hduration message hconflict
      | ok duration =>
          rw [except_ok_bind]
          cases hshift : current.shift duration with
          | some deadline =>
              exact Or.inl ⟨⟨current, duration, deadline, hnow, hduration, hshift⟩,
                deadline.isoformat, rfl⟩
          | none =>
              refine Or.inr ⟨?_, .overflowError, rfl, fun message hconflict => by cases hconflict⟩
              rintro ⟨current', duration', deadline, hcurrent, hfound, hreached⟩
              obtain rfl := Except.ok.inj (hnow.symm.trans hcurrent)
              obtain rfl := Except.ok.inj (hduration.symm.trans hfound)
              rw [hshift] at hreached
              cases hreached

/-- What a binding returned is the row of the graph, with the limits it asked for. -/
theorem bindGraphBudget_returns
    (h : bindGraphBudget tenant graphId budget now tables = .ok (answer, final)) :
    final.budgets.find graphId = some answer ∧ answer.tenant = tenant ∧
      answer.maxAttempts = budget.maxAttempts ∧
      answer.maxOutputTokens = budget.maxOutputTokens ∧
      validateGraphBudget budget = .ok () ∧
      ∃ state, getGraphState tenant graphId tables = .ok (some state, tables) := by
  unfold bindGraphBudget at h
  simp only [lift_bind_ok] at h
  obtain ⟨_, hvalid, deadline, -, h⟩ := h
  obtain ⟨found, hfound, h⟩ := getGraphState_bind_ok h
  rw [require_bind_ok] at h
  obtain ⟨hsome, h⟩ := h
  obtain ⟨state, rfl⟩ := Option.isSome_iff_exists.mp hsome
  unfold selectBudget at h
  rw [query_bind_ok] at h
  cases hexisting : tables.budgets.fetchone (fun row =>
      decide (row.tenant = tenant) && decide (row.graphId = graphId)) with
  | some row =>
      simp only [hexisting, require_bind_ok, pure_ok, Bool.and_eq_true, decide_eq_true_eq] at h
      obtain ⟨⟨hattempts, htokens⟩, rfl, rfl⟩ := h
      have howned := budgetOf_iff.mp (List.find?_some hexisting)
      refine ⟨?_, howned.1, hattempts, htokens, hvalid, state, hfound⟩
      rw [← howned.2]
      exact Table.find_of_mem (List.mem_of_find?_eq_some hexisting)
  | none =>
      simp only [hexisting, insertBudgetRow_bind_ok, pure_ok] at h
      obtain ⟨-, added, hadd, rfl, rfl⟩ := h
      refine ⟨?_, rfl, rfl, rfl, hvalid, state, hfound⟩
      rw [Table.find_insert (addBudget_budgets hadd)]
      exact if_pos rfl

/-- A binding to a graph that has a budget compares two of the limits. -/
theorem bindGraphBudget_again {state : GraphState}
    (hstate : getGraphState tenant graphId tables = .ok (some state, tables))
    (hrow : tables.budgets.find graphId = some row) (howned : row.tenant = tenant)
    (hvalid : validateGraphBudget budget = .ok ()) :
    bindGraphBudget tenant graphId budget now tables =
      (deadlineAt budget now).bind fun _ =>
        if row.maxAttempts = budget.maxAttempts ∧ row.maxOutputTokens = budget.maxOutputTokens then
          .ok (row, tables)
        else .error (.workflowConflict "Graph budget is already bound") := by
  unfold bindGraphBudget
  rw [hvalid, lift_ok_bind]
  cases hdeadline : deadlineAt budget now with
  | error error => rfl
  | ok deadline =>
      rw [lift_ok_bind, bind_of_ok hstate, require_true_bind (show (some state).isSome = true from rfl),
        bind_of_ok (selectBudget_of_row hrow howned)]
      show (require (decide (row.maxAttempts = budget.maxAttempts) &&
        decide (row.maxOutputTokens = budget.maxOutputTokens)) _ >>= fun _ => pure row) tables = _
      by_cases hsame : row.maxAttempts = budget.maxAttempts ∧
          row.maxOutputTokens = budget.maxOutputTokens
      · have htest : (decide (row.maxAttempts = budget.maxAttempts) &&
            decide (row.maxOutputTokens = budget.maxOutputTokens)) = true := by
          rw [Bool.and_eq_true, decide_eq_true_eq, decide_eq_true_eq]
          exact hsame
        rw [require_true_bind htest]
        exact (if_pos hsame).symm
      · have htest : (decide (row.maxAttempts = budget.maxAttempts) &&
            decide (row.maxOutputTokens = budget.maxOutputTokens)) = false := by
          rw [← Bool.not_eq_true, Bool.and_eq_true, decide_eq_true_eq, decide_eq_true_eq]
          exact hsame
        rw [htest]
        exact (if_neg hsame).symm

end Binding

/-! ### Creating again -/

section Creating

variable {platform : Platform} {tables final : GraphTables} {tenant key uuid4 hashed id : String}
  {graph : WorkflowGraph} {binding : Option (List (String × Json))} {first second : GraphBudget}
  {now : DateTime} {request : String × Option String × Option String}

/-- The request of a graph, with another budget. -/
theorem graphRequest_budget (h : graphRequest graph (some first) binding = .ok request) :
    validateGraphBudget first = .ok () ∧
      ∃ text, canonicalJson first.toDict = .ok text ∧ request = (request.1, some text, request.2.2) ∧
        ∀ second, validateGraphBudget second = .ok () →
          graphRequest graph (some second) binding =
            (canonicalJson second.toDict).map fun text => (request.1, some text, request.2.2) := by
  have hparts := h
  unfold graphRequest budgetText at hparts
  simp only [except_bind_ok] at hparts
  obtain ⟨dict, hdict, encoded, hencoded, bound, hbound, budgeted, ⟨_, hvalid, htext⟩, hrequest⟩ :=
    hparts
  obtain rfl := Except.ok.inj hrequest
  cases hfirst : canonicalJson first.toDict with
  | error error =>
      rw [hfirst] at htext
      cases htext
  | ok text =>
      rw [hfirst] at htext
      obtain rfl := Except.ok.inj htext
      refine ⟨hvalid, text, rfl, rfl, fun second hsecond => ?_⟩
      unfold graphRequest budgetText
      rw [hdict, except_ok_bind, hencoded, except_ok_bind, hbound, except_ok_bind]
      simp only [hsecond, except_ok_bind]
      cases canonicalJson second.toDict with
      | error error => rfl
      | ok text' => rfl

/-- What decides a second creation with another budget: whether the two are written alike. -/
theorem replayAnswer_budget (h : graphRequest graph (some first) binding = .ok request)
    (hsecond : validateGraphBudget second = .ok ()) {conflict : String} :
    (∃ message, replayAnswer request (graphRequest graph (some second) binding) id
        (.workflowConflict conflict) = .error (.workflowConflict message)) ↔
      printable second.toDict = true ∧ first ≠ second := by
  obtain ⟨-, text, htext, hrequest, hothers⟩ := graphRequest_budget h
  rw [hothers second hsecond]
  cases hprintable : printable second.toDict with
  | false =>
      rw [canonicalJson_unprintable hprintable]
      constructor
      · rintro ⟨message, herror⟩
        cases herror
      · rintro ⟨htrue, -⟩
        cases htrue
  | true =>
      obtain ⟨text', htext'⟩ := canonicalJson_printable hprintable
      rw [htext']
      have hanswer : replayAnswer request
          ((Except.ok text').map fun text => (request.1, some text, request.2.2)) id
          (.workflowConflict conflict) = if (request.1, some text', request.2.2) = request then .ok id
            else .error (.workflowConflict conflict) := rfl
      rw [hanswer]
      by_cases hsame : text' = text
      · rw [hsame, if_pos hrequest.symm]
        constructor
        · rintro ⟨message, herror⟩
          cases herror
        · rintro ⟨-, hne⟩
          exact absurd (GraphBudget.toDict_injective htext (hsame ▸ htext')) hne
      · have hother : (request.1, some text', request.2.2) ≠ request := by
          intro hequal
          rw [hrequest] at hequal
          exact hsame (Option.some.inj (Prod.mk.inj (Prod.mk.inj hequal).2).1)
        rw [if_neg hother]
        refine ⟨fun _ => ⟨rfl, ?_⟩, fun _ => ⟨conflict, rfl⟩⟩
        rintro rfl
        exact hsame (Except.ok.inj (htext'.symm.trans htext))

/-! ### Every creation with a budget has a row -/

/-- The graphs whose hash covers a budget have one. -/
def Budgeted (platform : Platform) (tables : GraphTables) : Prop :=
  ∀ entry ∈ tables.requests, ∀ graph budget binding request text,
    graphRequest graph (some budget) binding = .ok request → graphText request = .ok text →
    entry.digest = platform.sha256 text → tables.budgets.find entry.identity ≠ none

theorem Budgeted.of_kept (h : Budgeted platform tables) (hrequests : final.requests = tables.requests)
    (hrows : ∀ graphId, tables.budgets.find graphId ≠ none → final.budgets.find graphId ≠ none) :
    Budgeted platform final := by
  intro entry hentry graph budget binding request text hrequest htext hdigest
  rw [hrequests] at hentry
  exact hrows _ (h entry hentry graph budget binding request text hrequest htext hdigest)

theorem next_row (input : BudgetInput) {graphId : String}
    (h : tables.budgets.find graphId ≠ none) :
    ((budgetStore platform).next tables input).budgets.find graphId ≠ none := by
  obtain ⟨row, hrow⟩ := Option.ne_none_iff_exists'.mp h
  obtain ⟨later, hlater, -⟩ := @next_grows platform tables graphId row input hrow
  rw [hlater]
  exact Option.some_ne_none later

/-- **Step lemma.** -/
theorem budgetStore_budgeted (hinjective : Function.Injective platform.sha256)
    (tables : GraphTables) (input : BudgetInput) (h : Budgeted platform tables) :
    Budgeted platform ((budgetStore platform).next tables input) := by
  have hrows : ∀ graphId, tables.budgets.find graphId ≠ none →
      ((budgetStore platform).next tables input).budgets.find graphId ≠ none :=
    fun graphId => next_row input
  by_cases hcreation : ∃ tenant key graph budget binding now uuid4,
      input = graphCreation tenant key graph budget binding now uuid4
  · obtain ⟨tenant, key, graph, budget, binding, now, uuid4, rfl⟩ := hcreation
    rcases commit_cases ((graphCreation tenant key graph budget binding now uuid4).body platform)
      tables with ⟨answer, -, hok⟩ | ⟨-, hsame⟩
    · change Budgeted platform (commit _ tables).2
      change ∀ graphId, _ → (commit _ tables).2.budgets.find graphId ≠ none at hrows
      generalize (commit ((graphCreation tenant key graph budget binding now uuid4).body platform)
        tables).2 = final at hok hrows ⊢
      obtain ⟨inner, hok, -⟩ := map_ok.mp hok
      obtain ⟨id, hcreate, -⟩ := map_ok.mp hok
      obtain ⟨-, -, request, hashed, nodeStates, hrequest, hhashed, hregister⟩ :=
        createGraph_request hcreate
      rcases registerGraph_cases hregister with ⟨rfl, -⟩ | ⟨-, -, hrequests, hbudget⟩
      · exact h
      · intro entry hentry graph' budget' binding' request' text hrequest' htext hdigest
        rw [hrequests] at hentry
        rcases List.mem_append.mp hentry with hold | hnew
        · exact hrows _ (h entry hold graph' budget' binding' request' text hrequest' htext hdigest)
        · obtain rfl := List.mem_singleton.mp hnew
          -- the hash of the new graph is that of a request with a budget
          have htexts : hashed = text := hinjective hdigest
          have hequal := graphText_injective hrequest hrequest' hhashed (htexts ▸ htext)
          apply hbudget
          rw [← (graphRequest_isSome hrequest).1, hequal, (graphRequest_isSome hrequest').1]
          rfl
    · change Budgeted platform (commit _ tables).2
      rw [hsame]
      exact h
  · refine h.of_kept ((body_requests ?_).commit tables) hrows
    intro tenant key graph budget binding now uuid4 hsame
    exact hcreation ⟨tenant, key, graph, budget, binding, now, uuid4, hsame⟩

/-- **Run lemma.** -/
theorem budgetStore_after_budgeted (hinjective : Function.Injective platform.sha256)
    (inputs : List BudgetInput) :
    Budgeted platform ((budgetStore platform).after GraphTables.empty inputs) :=
  Machine.after_invariant (budgetStore_budgeted hinjective) (fun _ h => (List.not_mem_nil h).elim)
    inputs

end Creating

/-! ### The two ways -/

/-- A way to attach a budget: with the creation of a graph, or to a graph that exists. -/
inductive Attachment where
  | create (tenant key : String) (graph : WorkflowGraph) (binding : Option (List (String × Json)))
  | bind (tenant graphId : String)

/-- The call that attaches a budget at a time; a creation has a fresh id. -/
def Attachment.call (budget : GraphBudget) (now : DateTime) (uuid4 : String) :
    Attachment → BudgetInput
  | .create tenant key graph binding =>
      graphCreation tenant key graph (some budget) binding now uuid4
  | .bind tenant graphId => .operation (.call (.bindGraphBudget tenant graphId budget now))

/-- The call returned, for this graph. -/
def Attachment.Returned (graphId : String) (answer : Except PyError BudgetAnswer) :
    Attachment → Prop
  | .create _ _ _ _ => answer = .ok (graphCreated graphId)
  | .bind _ target => target = graphId ∧ ∃ row, answer = .ok (.operation (.budget row))

/-- A call left the budget of the graph alone.  Its deadline and limits are those it had
when it was attached, and it counts at least as much as then. -/
def Untouched (graphId : String) (opened later final : GraphTables) : Prop :=
  ∃ original row, opened.budgets.find graphId = some original ∧
    later.budgets.find graphId = some row ∧ original.Grows row ∧
    final.budgets.find graphId = some row

/-- What is asked of a second attachment: a conflict that changes nothing exactly when the
budgets differ, and the budget kept when they are the same. -/
structure Meets (platform : Platform) (first second : GraphBudget) (graphId : String)
    (opened later : GraphTables) (call : BudgetInput) : Prop where
  conflict : ((∃ message, (budgetStore platform).answer later call =
      .error (.workflowConflict message)) ∧
        Untouched graphId opened later ((budgetStore platform).next later call)) ↔
    ¬ first.Same second
  kept : first.Same second →
    Untouched graphId opened later ((budgetStore platform).next later call)

/-- A property of second attachments, in every run and with any calls between: `holds` is
told the way, the budgets, the time of the second call, and whether that call does what is
asked. -/
def SecondAttachments (platform : Platform)
    (holds : Attachment → GraphBudget → GraphBudget → DateTime → Prop → Prop) : Prop :=
  ∀ (way : Attachment) before between first second now now' uuid4 uuid4' graphId opened later,
    Function.Injective platform.sha256 →
    way.Returned graphId ((budgetStore platform).answer
      ((budgetStore platform).after GraphTables.empty before) (way.call first now uuid4)) →
    opened = (budgetStore platform).after GraphTables.empty (before ++ [way.call first now uuid4]) →
    later = (budgetStore platform).after opened between →
    validateGraphBudget second = .ok () →
    holds way first second now'
      (Meets platform first second graphId opened later (way.call second now' uuid4'))

/-- When a second attachment does what is asked.  A creation compares how the limits are
written, so a duration may not be an integer once and the equal float once, and integers
must be short enough to be written.  A binding compares two limits, so the durations may
not be all that differs, and it computes its deadline before it compares. -/
def Attachment.Decides (first second : GraphBudget) (now : DateTime) : Attachment → Prop
  | .create _ _ _ _ =>
      (first.Same second → first = second) ∧
        (¬ first.Same second → printable second.toDict = true)
  | .bind _ _ =>
      (first.maxAttempts = second.maxAttempts ∧ first.maxOutputTokens = second.maxOutputTokens →
        first.deadlineSeconds.toRat? = second.deadlineSeconds.toRat?) ∧
      (¬ (first.maxAttempts = second.maxAttempts ∧
        first.maxOutputTokens = second.maxOutputTokens) → second.Reaches now)

section Attaching

variable {platform : Platform} {first second : GraphBudget} {graphId tenant key uuid4 : String}
  {opened later : GraphTables} {call : BudgetInput} {now : DateTime}

/-- A call that leaves the budget alone is judged by when it raises the conflict. -/
theorem meets_iff {raised : Prop}
    (huntouched : Untouched graphId opened later ((budgetStore platform).next later call))
    (hraised : (∃ message, (budgetStore platform).answer later call =
      .error (.workflowConflict message)) ↔ raised) :
    Meets platform first second graphId opened later call ↔ (raised ↔ ¬ first.Same second) := by
  constructor
  · intro hmeets
    rw [← hraised, ← hmeets.conflict]
    exact (and_iff_left huntouched).symm
  · intro hsame
    refine ⟨?_, fun _ => huntouched⟩
    rw [and_iff_left huntouched, hraised]
    exact hsame

/-- A row stays what it was, until a call that changes nothing. -/
theorem untouched_of_next {original : GraphBudgetRow} (between : List BudgetInput)
    (horiginal : opened.budgets.find graphId = some original)
    (hlater : later = (budgetStore platform).after opened between)
    (hnext : (budgetStore platform).next later call = later) :
    Untouched graphId opened later ((budgetStore platform).next later call) := by
  obtain ⟨row, hrow, hgrows⟩ := @after_grows platform opened graphId original between horiginal
  rw [← hlater] at hrow
  exact ⟨original, row, horiginal, hrow, hgrows, hnext.symm ▸ hrow⟩

/-- What decides a second creation. -/
theorem create_decides (hfirst : validateGraphBudget first = .ok ())
    (hprintable : printable first.toDict = true) :
    (printable second.toDict = true ∧ first ≠ second ↔ ¬ first.Same second) ↔
      (first.Same second → first = second) ∧
        (¬ first.Same second → printable second.toDict = true) := by
  constructor
  · intro hraised
    refine ⟨fun hsame => ?_, fun hdiffers => (hraised.mpr hdiffers).1⟩
    by_contra hne
    exact hraised.mp ⟨hsame.printable hfirst hprintable, hne⟩ hsame
  · rintro ⟨hwritten, hshort⟩
    refine ⟨fun hraised hsame => hraised.2 (hwritten hsame), fun hdiffers => ⟨hshort hdiffers, ?_⟩⟩
    rintro rfl
    exact hdiffers (GraphBudget.Same.refl first)

/-- What decides a second binding. -/
theorem bind_decides :
    (second.Reaches now ∧ ¬ (first.maxAttempts = second.maxAttempts ∧
        first.maxOutputTokens = second.maxOutputTokens) ↔ ¬ first.Same second) ↔
      (first.maxAttempts = second.maxAttempts ∧ first.maxOutputTokens = second.maxOutputTokens →
        first.deadlineSeconds.toRat? = second.deadlineSeconds.toRat?) ∧
      (¬ (first.maxAttempts = second.maxAttempts ∧
        first.maxOutputTokens = second.maxOutputTokens) → second.Reaches now) := by
  unfold GraphBudget.Same
  constructor
  · intro hraised
    refine ⟨fun hlimits => ?_, fun hdiffer => ?_⟩
    · by_contra hdurations
      exact (hraised.mpr fun hsame => hdurations hsame.1).2 hlimits
    · exact (hraised.mpr fun hsame => hdiffer hsame.2).1
  · rintro ⟨hdurations, hreaches⟩
    refine ⟨fun hraised hsame => hraised.2 hsame.2, fun hdiffers => ?_⟩
    have hlimits : ¬ (first.maxAttempts = second.maxAttempts ∧
        first.maxOutputTokens = second.maxOutputTokens) :=
      fun hlimits => hdiffers ⟨hdurations hlimits, hlimits⟩
    exact ⟨hreaches hlimits, hlimits⟩

/-- **Second creations.** -/
theorem create_meets_iff {before between : List BudgetInput} {graph : WorkflowGraph}
    {binding : Option (List (String × Json))} {now' : DateTime} {uuid4' : String}
    (hinjective : Function.Injective platform.sha256)
    (hanswer : (budgetStore platform).answer
      ((budgetStore platform).after GraphTables.empty before)
      (graphCreation tenant key graph (some first) binding now uuid4) = .ok (graphCreated graphId))
    (hopened : opened = (budgetStore platform).after GraphTables.empty
      (before ++ [graphCreation tenant key graph (some first) binding now uuid4]))
    (hlater : later = (budgetStore platform).after opened between)
    (hsecond : validateGraphBudget second = .ok ()) :
    Meets platform first second graphId opened later
        (graphCreation tenant key graph (some second) binding now' uuid4') ↔
      (first.Same second → first = second) ∧
        (¬ first.Same second → printable second.toDict = true) := by
  obtain ⟨request, hrequest, hreplay⟩ := @second_graph platform before between tenant key uuid4 graphId
    uuid4' graph graph (some first) (some second) binding binding now now' hanswer
    fun text _ text' _ hdigest => hinjective hdigest
  have hstep := hreplay later (by
    rw [hlater, hopened, Machine.after_append, Machine.after_append, Machine.after_cons,
      Machine.after_cons, Machine.after_nil])
  obtain ⟨hfirst, text, htext, -, -⟩ := graphRequest_budget hrequest
  -- the graph of the first creation has a row
  obtain ⟨original, horiginal⟩ : ∃ original, opened.budgets.find graphId = some original := by
    obtain ⟨answer, hcall, hid⟩ := map_ok.mp (commit_of_answer hanswer)
    obtain ⟨found, hcreate, hfound⟩ := map_ok.mp hcall
    obtain rfl : found = graphId := by
      rw [← hfound] at hid
      exact GraphAnswer.graphId.inj (BudgetAnswer.operation.inj hid)
    obtain ⟨-, -, request', hashed, nodeStates, hrequest', hhashed, hregister⟩ :=
      createGraph_request hcreate
    apply Option.ne_none_iff_exists'.mp
    have hbudgeted := @budgetStore_after_budgeted platform hinjective
      (before ++ [graphCreation tenant key graph (some first) binding now uuid4])
    rw [← hopened] at hbudgeted
    refine hbudgeted ⟨(tenant, key), found, platform.sha256 hashed⟩ ?_ graph first binding request'
      hashed hrequest' hhashed rfl
    rw [hopened, after_snoc]
    exact (registerGraph_ok hregister).2
  have huntouched : Untouched graphId opened later ((budgetStore platform).next later
      (graphCreation tenant key graph (some second) binding now' uuid4')) :=
    untouched_of_next between horiginal hlater (Machine.next_of_step hstep)
  rw [← create_decides hfirst (printable_of_canonicalJson htext)]
  apply meets_iff huntouched
  rw [Machine.answer_of_step hstep, ← replayAnswer_budget hrequest hsecond]
  cases replayAnswer request (graphRequest graph (some second) binding) graphId
      (.workflowConflict "Graph idempotency key conflicts with existing input") with
  | error error =>
      simp only [Except.map, Except.error.injEq]
  | ok id =>
      constructor
      · rintro ⟨message, herror⟩
        cases herror
      · rintro ⟨message, herror⟩
        cases herror

/-- **Second bindings.** -/
theorem bind_meets_iff {before between : List BudgetInput} {now' : DateTime} {row : GraphBudgetRow}
    (hanswer : (budgetStore platform).answer
      ((budgetStore platform).after GraphTables.empty before)
      (.operation (.call (.bindGraphBudget tenant graphId first now))) =
        .ok (.operation (.budget row)))
    (hopened : opened = (budgetStore platform).after GraphTables.empty
      (before ++ [.operation (.call (.bindGraphBudget tenant graphId first now))]))
    (hlater : later = (budgetStore platform).after opened between)
    (hsecond : validateGraphBudget second = .ok ()) :
    Meets platform first second graphId opened later
        (.operation (.call (.bindGraphBudget tenant graphId second now'))) ↔
      (first.maxAttempts = second.maxAttempts ∧ first.maxOutputTokens = second.maxOutputTokens →
        first.deadlineSeconds.toRat? = second.deadlineSeconds.toRat?) ∧
      (¬ (first.maxAttempts = second.maxAttempts ∧
        first.maxOutputTokens = second.maxOutputTokens) → second.Reaches now') := by
  have hstart : AllGraphsValid ((budgetStore platform).after GraphTables.empty before) :=
    (budgetStore_after_quiet graph_empty_valid before).valid graph_empty_valid
  obtain ⟨answer, hcall, hbudget⟩ := map_ok.mp (commit_of_answer hanswer)
  obtain ⟨bound, hbind, -⟩ := map_ok.mp hcall
  obtain ⟨horiginal, howned, hattempts, htokens, -, state, hstate⟩ := bindGraphBudget_returns hbind
  rw [after_snoc] at hopened
  have horiginal : opened.budgets.find graphId = some bound := hopened ▸ horiginal
  -- the graph and its row are still there
  obtain ⟨graphRow, hgraph, -⟩ := getGraphState_stored hstart hstate
  have hattached : GraphQuiet ((budgetStore platform).after GraphTables.empty before) opened := by
    rw [hopened]
    exact budgetStore_quiet _ _ hstart
  have hquiet : GraphQuiet ((budgetStore platform).after GraphTables.empty before) later := by
    apply hattached.trans
    rw [hlater]
    exact budgetStore_after_quiet (hattached.valid hstart) between
  obtain ⟨state', hstate'⟩ := getGraphState_total (hquiet.valid hstart) (hquiet.row_kept hgraph)
  obtain ⟨current, hcurrent, hgrows⟩ := @after_grows platform opened graphId bound between horiginal
  rw [← hlater] at hcurrent
  have hagain := @bindGraphBudget_again later tenant graphId second now' current state' hstate'
    hcurrent (hgrows.tenant.trans howned) hsecond
  rw [hgrows.maxAttempts, hgrows.maxOutputTokens, hattempts, htokens] at hagain
  -- the second binding returns the row or raises
  have hstep : (budgetStore platform).step later
      (.operation (.call (.bindGraphBudget tenant graphId second now'))) =
        (((deadlineAt second now').bind fun _ =>
          if first.maxAttempts = second.maxAttempts ∧
              first.maxOutputTokens = second.maxOutputTokens then
            .ok (.operation (.budget current))
          else .error (.workflowConflict "Graph budget is already bound")), later) := by
    show commit (BudgetAnswer.operation <$> (GraphAnswer.budget <$>
      bindGraphBudget tenant graphId second now')) later = _
    rw [commit_map, commit_map]
    unfold commit
    rw [hagain]
    cases deadlineAt second now' with
    | error error => rfl
    | ok deadline =>
        simp only [Except.bind]
        split_ifs
        · rfl
        · rfl
  have huntouched : Untouched graphId opened later ((budgetStore platform).next later
      (.operation (.call (.bindGraphBudget tenant graphId second now')))) :=
    untouched_of_next between horiginal hlater (Machine.next_of_step hstep)
  rw [← bind_decides]
  apply meets_iff huntouched
  rw [Machine.answer_of_step hstep]
  rcases deadlineAt_cases second now' with ⟨hreaches, deadline, hdeadline⟩ |
    ⟨hreaches, error, hdeadline, hother⟩
  · rw [hdeadline]
    simp only [Except.bind, hreaches, true_and]
    split_ifs with hlimits
    · refine ⟨?_, fun hdiffer => (hdiffer hlimits).elim⟩
      rintro ⟨message, herror⟩
      cases herror
    · exact ⟨fun _ => hlimits, fun _ => ⟨_, rfl⟩⟩
  · rw [hdeadline]
    refine ⟨?_, fun hraised => absurd hraised.1 hreaches⟩
    rintro ⟨message, herror⟩
    exact absurd (Except.error.inj herror) (hother message)

theorem Attachment.meets_iff (way : Attachment) {before between : List BudgetInput}
    {now' : DateTime} {uuid4' : String} (hinjective : Function.Injective platform.sha256)
    (hanswer : way.Returned graphId ((budgetStore platform).answer
      ((budgetStore platform).after GraphTables.empty before) (way.call first now uuid4)))
    (hopened : opened = (budgetStore platform).after GraphTables.empty
      (before ++ [way.call first now uuid4]))
    (hlater : later = (budgetStore platform).after opened between)
    (hsecond : validateGraphBudget second = .ok ()) :
    Meets platform first second graphId opened later (way.call second now' uuid4') ↔
      way.Decides first second now' := by
  cases way with
  | create tenant key graph binding =>
      exact create_meets_iff hinjective hanswer hopened hlater hsecond
  | bind tenant target =>
      obtain ⟨rfl, row, hrow⟩ := hanswer
      exact bind_meets_iff hrow hopened hlater hsecond

end Attaching

/-- **Two budgets for one graph.**  Exactly when a second attachment raises a conflict for
the budgets that differ, and for no others. -/
theorem secondAttachments_iff : ∀ platform, SecondAttachments platform
    fun way first second now meets => meets ↔ way.Decides first second now := by
  intro platform way before between first second now now' uuid4 uuid4' graphId opened later
    hinjective hanswer hopened hlater hsecond
  exact way.meets_iff hinjective hanswer hopened hlater hsecond

/-- A minute, three attempts and twenty tokens. -/
def GraphBudget.minute : GraphBudget := ⟨.int 60, 3, some 20⟩

/-- The same for an hour. -/
def GraphBudget.hour : GraphBudget := ⟨.int 3600, 3, some 20⟩

/-- An hour may be bound where a minute is. -/
theorem longer_budget_no_conflict : ¬ ∀ platform, SecondAttachments platform
    fun _ _ _ _ meets => meets := by
  intro h
  let platform : Platform := ⟨id, id, fun _ => true⟩
  have hvalid : validateGraphBudget GraphBudget.minute = .ok () := by decide +kernel
  have hhour : validateGraphBudget GraphBudget.hour = .ok () := by decide +kernel
  obtain ⟨before, final, bound, row, -, hstep, -⟩ := @exists_bound_pair platform GraphBudget.minute
    60000000 hvalid rfl (by decide) (by omega) (by decide)
  let way := Attachment.bind "t" "g"
  have hanswer : way.Returned "g" ((budgetStore platform).answer
      ((budgetStore platform).after GraphTables.empty before)
      (way.call GraphBudget.minute bound.utc "")) := ⟨rfl, row, Machine.answer_of_step hstep⟩
  have hmeets := h platform way before [] GraphBudget.minute GraphBudget.hour bound.utc bound.utc "" ""
    "g" _ _ Function.injective_id hanswer rfl rfl hhour
  rw [way.meets_iff Function.injective_id hanswer rfl rfl hhour] at hmeets
  -- the other two limits agree, but the durations do not
  have hdurations : some (60 : ℚ) = some 3600 := hmeets.1 ⟨rfl, rfl⟩
  norm_num at hdurations

end Workflows
end Ryuk
