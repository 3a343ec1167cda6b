import Ryuk.Workflows.GraphShown

/-!
# Registrations of graphs

What `create_graph` does with a graph that can be stored: under a key that stands for a
request it answers by the digest, and under a fresh key it stores the graph and its budget,
or fails because the identifier is taken or the deadline is past the calendar.  What a row
holds is what its digest covers.
-/

namespace Ryuk
namespace Workflows

open Foundation Foundation.Json Foundation.Transaction Foundation.Registry

variable {platform : Platform} {tables later final : GraphTables}
  {tenant graphId key id digest uuid4 hashed : String} {graph : WorkflowGraph}
  {now : Datetime.DateTime}

/-! ### The register -/

/-- What the tenant and the key of a creation stand for. -/
def GraphTables.Registered (tables : GraphTables) (tenant key id digest : String) : Prop :=
  ⟨(tenant, key), id, digest⟩ ∈ tables.requests

/-- Nothing is created under the key. -/
def GraphTables.Fresh (tables : GraphTables) (tenant key : String) : Prop :=
  (tenant, key) ∉ tables.requests.map Registration.key

theorem GraphTables.Registered.evolves (h : tables.Registered tenant key id digest)
    (hlater : GraphsEvolve platform tables later) : later.Registered tenant key id digest := by
  obtain ⟨inputs, rfl⟩ := hlater
  induction inputs generalizing tables with
  | nil => exact h
  | cons input rest ih =>
      rw [Machine.after_cons]
      exact ih ((budgetStore_registers platform).kept [input.input] h)

/-- A graph is registered once. -/
theorem GraphTables.Registered.unique {other key' digest' : String}
    (h : tables.Registered tenant key id digest) (h' : tables.Registered other key' id digest') :
    other = tenant ∧ key' = key := by
  obtain ⟨row, hrow, hentry⟩ := List.mem_map.mp h
  obtain ⟨row', hrow', hentry'⟩ := List.mem_map.mp h'
  have hid : row.id = row'.id := (congrArg Registration.identity hentry).trans
    (congrArg Registration.identity hentry').symm
  have hsame : some row = some row' := by
    rw [← Table.find_of_mem hrow, ← Table.find_of_mem hrow', hid]
  obtain rfl := Option.some.inj hsame
  exact Prod.mk.inj ((congrArg Registration.key hentry').symm.trans
    (congrArg Registration.key hentry))

theorem graphFetchone_fresh (h : tables.Fresh tenant key) :
    tables.graphs.fetchone (fun row =>
      decide (row.tenant = tenant) && decide (row.idempotencyKey = key)) = none := by
  apply List.find?_eq_none.mpr
  intro row hrow hmatch
  apply h
  rw [← (graphRequested_iff row).mp hmatch]
  exact List.mem_map_of_mem (List.mem_map_of_mem hrow)

/-! ### Creations -/

/-- A graph that can be stored has a request, and `create_graph` registers it. -/
theorem createGraph_registers {budget : Option GraphBudget} {binding : Option (List (String × Json))}
    {budgeted bound : Option String} (htenant : isCanonicalId tenant = true)
    (hkey : isCanonicalId key = true) (hpackets : ∀ node ∈ graph.nodes, node.packet.Storable)
    (hbudget : budgetText budget = .ok budgeted) (hbound : boundText binding = .ok bound) :
    ∃ encoded hashed initial, graphRequest graph budget binding = .ok (encoded, budgeted, bound) ∧
      graphText (encoded, budgeted, bound) = .ok hashed ∧ graph.initialState = .ok initial ∧
      (∃ value, loadsJson encoded = .ok value ∧ WorkflowGraph.fromDict value = .ok graph) ∧
      ∀ now uuid4, createGraph platform tenant key graph budget binding now uuid4 =
        registerGraph platform tenant key (encoded, budgeted, bound) hashed initial.nodeStates budget
          now uuid4 := by
  obtain ⟨dict, hdict, hprintable⟩ := WorkflowGraph.toDict_total hpackets
  obtain ⟨encoded, hencoded⟩ := canonicalJson_printable hprintable
  have hstable := WorkflowGraph.stable_of_storable hpackets
  have hdecode : WorkflowGraph.fromDict dict = .ok graph :=
    WorkflowGraph.fromDict_toDict hstable hdict hprintable
  obtain ⟨initial, hinitial⟩ := graph.initialState_total
  have hrequest : graphRequest graph budget binding = .ok (encoded, budgeted, bound) := by
    unfold graphRequest
    rw [hdict, except_ok_bind, hencoded, except_ok_bind, hbound, except_ok_bind, hbudget]
    rfl
  obtain ⟨hashed, hhashed⟩ := graphText_total hrequest
  have hcovered : hashedGraph encoded dict budget bound = .ok hashed := by
    rw [hashedGraph_eq hencoded (boundText_object hbound), hbudget]
    exact hhashed
  refine ⟨encoded, hashed, initial, hrequest, hhashed, hinitial,
    WorkflowGraph.fromDict_stored hstable hdict hencoded, ?_⟩
  intro now uuid4
  unfold createGraph
  rw [require_true_bind htenant, require_true_bind hkey, hdict, lift_ok_bind, hdecode, lift_ok_bind,
    hdict, lift_ok_bind, hencoded, lift_ok_bind]
  show (lift (boundText binding) >>= _) = _
  rw [hbound, lift_ok_bind, hcovered, lift_ok_bind, hinitial, lift_ok_bind]
  rfl

/-- Why the registration of a new graph fails. -/
inductive RegistrationFails (tables : GraphTables) (uuid4 : String) (budget : GraphBudget)
    (now : Datetime.DateTime) : PyError → Prop
  | taken (htaken : tables.graphs.find uuid4 ≠ none ∨ tables.budgets.find uuid4 ≠ none) :
      RegistrationFails tables uuid4 budget now .integrityError
  | overdue {error : PyError} (hdeadline : deadlineAt budget now = .error error) :
      RegistrationFails tables uuid4 budget now error

/-- The budget of a new graph is stored, or its graph has one, or it has no deadline. -/
theorem insertBudget_outcome {budget : GraphBudget}
    (hfits : limitsFit budget.maxAttempts budget.maxOutputTokens = true) :
    (∃ final, insertBudget tenant graphId now (some budget) tables = .ok ((), final)) ∨
      ∃ error, ((error = .integrityError ∧ tables.budgets.find graphId ≠ none) ∨
          deadlineAt budget now = .error error) ∧
        insertBudget tenant graphId now (some budget) tables = .error error := by
  have hinsert : insertBudget tenant graphId now (some budget) =
      (lift (deadlineAt budget now) >>= fun deadline =>
        insertBudgetRow (budget.bound tenant graphId deadline)) := rfl
  rw [hinsert]
  cases hdeadline : deadlineAt budget now with
  | error error => exact Or.inr ⟨error, Or.inr rfl, rfl⟩
  | ok deadline =>
      let row : GraphBudgetRow := budget.bound tenant graphId deadline
      have hrow : insertBudgetRow row = attempt (GraphTables.addBudget row) .integrityError :=
        require_true_bind hfits
      rw [lift_ok_bind, hrow]
      cases htaken : tables.budgets.find graphId with
      | some found =>
          refine Or.inr ⟨.integrityError, Or.inl ⟨rfl, Option.some_ne_none found⟩,
            attempt_error ?_⟩
          show (tables.budgets.insert row).map _ = none
          rw [Table.insert_taken (show tables.budgets.find row.graphId = some found from htaken)]
          rfl
      | none =>
          obtain ⟨budgets, hadded⟩ : ∃ budgets, tables.budgets.insert row = some budgets :=
            Table.insert_of_fresh htaken
          refine Or.inl ⟨{ tables with budgets }, attempt_ok.mpr ?_⟩
          show (tables.budgets.insert row).map _ = _
          rw [hadded]
          rfl

/-- A new graph is stored under its identifier, with its text, or its registration fails. -/
theorem registerGraph_fresh {budget : GraphBudget} {request : String × Option String × Option String}
    {nodeStates : List (String × NodeState)}
    (hfits : limitsFit budget.maxAttempts budget.maxOutputTokens = true) (h : tables.Stored platform)
    (hfresh : tables.Fresh tenant key) (hnodup : (nodeStates.map Prod.fst).Nodup) :
    (∃ final, registerGraph platform tenant key request hashed nodeStates (some budget) now uuid4
        tables = .ok (uuid4, final)) ∨
      ∃ error, RegistrationFails tables uuid4 budget now error ∧
        registerGraph platform tenant key request hashed nodeStates (some budget) now uuid4 tables =
          .error error := by
  have hquery : (query fun tables => tables.graphs.fetchone fun row =>
      decide (row.tenant = tenant) && decide (row.idempotencyKey = key) : GraphTx (Option GraphRow))
      tables = .ok (none, tables) := by
    show Except.ok (tables.graphs.fetchone _, tables) = _
    rw [graphFetchone_fresh hfresh]
  let row : GraphRow := ⟨uuid4, tenant, key, platform.sha256 hashed, request.1, request.2.2⟩
  cases htaken : tables.graphs.find uuid4 with
  | some found =>
      refine Or.inr ⟨.integrityError, .taken (Or.inl (htaken ▸ Option.some_ne_none found)), ?_⟩
      have hrefused : tables.addGraph row = none := by
        unfold GraphTables.addGraph
        rw [Table.insert_taken (show tables.graphs.find row.id = some found from htaken)]
        rfl
      unfold registerGraph
      rw [bind_of_ok hquery]
      show (attempt (GraphTables.addGraph row) PyError.integrityError >>= _) tables = _
      exact bind_of_error (attempt_error hrefused)
  | none =>
      obtain ⟨graphs, hinsert⟩ : ∃ graphs, tables.graphs.insert row = some graphs :=
        Table.insert_of_fresh htaken
      have hadded : tables.addGraph row = some { tables with graphs } := by
        unfold GraphTables.addGraph
        rw [hinsert]
        rfl
      -- no node is stored under an identifier that no graph has
      have hnodes : ∀ nodeId, tables.nodes.find (uuid4, nodeId) = none := by
        intro nodeId
        cases hfound : tables.nodes.find (uuid4, nodeId) with
        | none => rfl
        | some found =>
            have howned := h.graphs.rows.owned (uuid4, nodeId) found hfound
            have hnone : (tables.graphView found.tenant uuid4).row = none := by
              show tables.graphRow found.tenant uuid4 = none
              rw [graphRow_eq, htaken]
              rfl
            rw [hnone] at howned
            cases howned
      obtain ⟨inserted, hinserted⟩ : ∃ inserted, insertNodes tenant uuid4 nodeStates
          { tables with graphs } = .ok ((), inserted) :=
        insertNodes_total hnodup fun nodeId _ => hnodes nodeId
      have hbudgets : inserted.budgets = tables.budgets := by
        have hkept := insertNodes_keeps budgets_blind _ _ _ hinserted
        exact hkept
      have hregister : registerGraph platform tenant key request hashed nodeStates (some budget) now
          uuid4 tables = (insertBudget tenant uuid4 now (some budget) >>= fun _ => pure uuid4)
            inserted := by
        unfold registerGraph
        rw [bind_of_ok hquery]
        show (attempt (GraphTables.addGraph row) PyError.integrityError >>= _) tables = _
        have hattempt : (attempt (GraphTables.addGraph row) PyError.integrityError : GraphTx Unit)
            tables = .ok ((), { tables with graphs }) := attempt_ok.mpr hadded
        rw [bind_of_ok hattempt]
        exact bind_of_ok hinserted
      rw [hregister]
      rcases @insertBudget_outcome inserted tenant uuid4 now budget hfits with ⟨final, hdone⟩ |
        ⟨error, hfails, hdone⟩
      · exact Or.inl ⟨final, bind_of_ok hdone⟩
      · refine Or.inr ⟨error, ?_, bind_of_error hdone⟩
        rcases hfails with ⟨rfl, htaken'⟩ | hdeadline
        · rw [hbudgets] at htaken'
          exact .taken (Or.inr htaken')
        · exact .overdue hdeadline

end Workflows
end Ryuk
