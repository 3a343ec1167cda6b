import Ryuk.Inference.Execution

/-!
# Answers of an upstream

What an HTTP client gives an adapter: a status and the pieces of a body, or a fault of the
connection before or inside them.  The reader of JSON is a parameter: it takes any body to any
value or to one of the errors it has, all of them a `ValueError`.  What the adapters share in
reading an answer stands here; the requests they send only the upstream reads.
-/

namespace Ryuk
namespace Inference

open Foundation Foundation.Json

/-! ### The wire -/

/-- `httpx.TimeoutException` and the other kinds of `httpx.TransportError`. -/
inductive TransportFault where
  | timeout
  | transport
  deriving DecidableEq

/-- One request: nothing comes back, or a status and a body in pieces, which may break off. -/
inductive Exchange where
  | unanswered (fault : TransportFault)
  | answered (status : Nat) (chunks : List (List UInt8)) (broken : Option TransportFault)
  deriving DecidableEq

/-- What `client.get` and `client.delete` raise: they read the body to its end. -/
def Exchange.fault : Exchange → Option TransportFault
  | .unanswered fault => some fault
  | .answered _ _ broken => broken

/-- `response.is_success`. -/
def isSuccess (status : Nat) : Bool := decide (200 ≤ status) && decide (status < 300)

/-- Why a body is no JSON: the text, its encoding, or a number with too many digits, for which
the error is a `ValueError` of no narrower class. -/
inductive ReadError where
  | jsonDecodeError
  | unicodeError
  | valueError (message : String)
  deriving DecidableEq

/-- `json.loads(body)` and `json.loads(body.decode("utf-8"))`. -/
structure JsonReader where
  loads : List UInt8 → Except ReadError Json
  loadsText : List UInt8 → Except ReadError Json

/-! ### Failures -/

/-- `failure(context=...)`. -/
def failureWith (cls : FailureClass) (details : List (String × Json)) : Interruption :=
  .failure { InferenceFailure.bare cls with
    context := { FailureContext.empty with details := details } }

/-- The context of a failure that a status calls for. -/
def statusContext (operation : String) (status : Nat) : List (String × Json) :=
  [("operation", .str operation), ("status", .int status)]

/-- The context of an answer that breaks the contract. -/
def protocolContext (operation reason : String) : List (String × Json) :=
  [("operation", .str operation), ("reason", .str reason)]

/-- The failure a fault of the connection becomes. -/
def transportFailure (operation : String) (fault : TransportFault) : Interruption :=
  match fault with
  | .timeout =>
      if operation = "generation" then
        failureWith .deadlineExceeded [("operation", .str operation)]
      else failureWith .deploymentUnavailable [("operation", .str operation)]
  | .transport => failureWith .deploymentUnavailable [("operation", .str operation)]

/-- The exceptions an adapter may let out: the `InferenceFailure`s. -/
def IsFailure : Interruption → Prop
  | .failure _ => True
  | _ => False

theorem isFailure_failureWith (cls : FailureClass) (details : List (String × Json)) :
    IsFailure (failureWith cls details) := trivial

theorem isFailure_transportFailure (operation : String) (fault : TransportFault) :
    IsFailure (transportFailure operation fault) := by
  cases fault with
  | timeout =>
      unfold transportFailure
      dsimp only
      split_ifs
      · exact isFailure_failureWith _ _
      · exact isFailure_failureWith _ _
  | transport => exact isFailure_failureWith _ _

theorem not_isFailure_raised (error : PyError) : ¬ IsFailure (.raised error) := id

/-! ### Reading a body -/

/-- The body, piece by piece; it is given up as soon as it is too long. -/
def receive (maxResponseBytes : Int) (operation : String) (tooLarge : Interruption)
    (broken : Option TransportFault) (body : List UInt8) :
    List (List UInt8) → Except Interruption (List UInt8)
  | [] =>
      match broken with
      | none => .ok body
      | some fault => .error (transportFailure operation fault)
  | chunk :: rest =>
      if maxResponseBytes < ((body ++ chunk).length : Int) then .error tooLarge
      else receive maxResponseBytes operation tooLarge broken (body ++ chunk) rest

/-- The answer inside `async with client.stream(...)`: its status is checked before its body. -/
def stream (maxResponseBytes : Int) (operation : String) (tooLarge : Interruption)
    (raiseForStatus : Nat → Except Interruption Unit) :
    Exchange → Except Interruption (Nat × List UInt8)
  | .unanswered fault => .error (transportFailure operation fault)
  | .answered status chunks broken => do
      raiseForStatus status
      let body ← receive maxResponseBytes operation tooLarge broken [] chunks
      pure (status, body)

/-- A successful answer arrives in full. -/
def Exchange.Delivers (maxResponseBytes : Int) (exchange : Exchange) (status : Nat)
    (body : List UInt8) : Prop :=
  ∃ chunks, exchange = .answered status chunks none ∧ isSuccess status = true ∧
    (chunks = [] ∨ (chunks.flatten.length : Int) ≤ maxResponseBytes) ∧ body = chunks.flatten

section Receive

variable {maxResponseBytes : Int} {operation : String} {tooLarge : Interruption}
  {broken : Option TransportFault}

theorem receive_failures (htooLarge : IsFailure tooLarge) (body : List UInt8)
    (chunks : List (List UInt8)) :
    Raises IsFailure (receive maxResponseBytes operation tooLarge broken body chunks) := by
  induction chunks generalizing body with
  | nil =>
      cases broken with
      | none => exact raises_ok body
      | some fault => exact raises_error (isFailure_transportFailure operation fault)
  | cons chunk rest ih =>
      unfold receive
      exact Raises.ite (raises_error htooLarge) (ih _)

/-- What was read is the body so far and all its pieces. -/
theorem receive_ok {body result : List UInt8} {chunks : List (List UInt8)} :
    receive maxResponseBytes operation tooLarge broken body chunks = .ok result ↔
      broken = none ∧
        (chunks = [] ∨ ((body ++ chunks.flatten).length : Int) ≤ maxResponseBytes) ∧
        result = body ++ chunks.flatten := by
  induction chunks generalizing body with
  | nil =>
      cases broken with
      | none => simp [receive, eq_comm]
      | some fault => simp [receive]
  | cons chunk rest ih =>
      unfold receive
      by_cases hlong : maxResponseBytes < ((body ++ chunk).length : Int)
      · rw [if_pos hlong]
        simp only [List.length_append] at hlong
        simp only [List.flatten_cons, List.length_append, reduceCtorEq, false_or, false_iff]
        rintro ⟨-, hfits, -⟩
        omega
      · rw [if_neg hlong, ih]
        simp only [List.length_append, not_lt] at hlong
        simp only [List.flatten_cons, List.append_assoc, List.length_append, reduceCtorEq,
          false_or]
        -- with no piece left, the body so far is the whole body
        have hfits : (rest = [] ∨
            (body.length : Int) + (chunk.length + rest.flatten.length) ≤ maxResponseBytes) ↔
              (body.length : Int) + (chunk.length + rest.flatten.length) ≤ maxResponseBytes := by
          constructor
          · rintro (rfl | h)
            · simpa using hlong
            · exact h
          · exact Or.inr
        push_cast
        rw [hfits]

end Receive

section Stream

variable {maxResponseBytes : Int} {operation : String} {tooLarge : Interruption}
  {raiseForStatus : Nat → Except Interruption Unit}

theorem stream_failures (htooLarge : IsFailure tooLarge)
    (hstatus : ∀ status, Raises IsFailure (raiseForStatus status)) (exchange : Exchange) :
    Raises IsFailure (stream maxResponseBytes operation tooLarge raiseForStatus exchange) := by
  cases exchange with
  | unanswered fault => exact raises_error (isFailure_transportFailure operation fault)
  | answered status chunks broken =>
      apply (hstatus status).bind
      intro _
      apply (receive_failures htooLarge [] chunks).bind
      intro body
      exact raises_pure _

/-- What is read from an answer is what it delivers, when exactly the successful statuses pass. -/
theorem stream_ok (hstatus : ∀ status, raiseForStatus status = .ok () ↔ isSuccess status = true)
    {exchange : Exchange} {status : Nat} {body : List UInt8} :
    stream maxResponseBytes operation tooLarge raiseForStatus exchange = .ok (status, body) ↔
      exchange.Delivers maxResponseBytes status body := by
  unfold Exchange.Delivers
  cases exchange with
  | unanswered fault => simp [stream]
  | answered found chunks broken =>
      unfold stream
      rw [bind_eq_ok]
      simp only [bind_eq_ok]
      constructor
      · rintro ⟨_, hpassed, result, hread, hpair⟩
        cases hpair
        obtain ⟨rfl, hfits, hbody⟩ := receive_ok.mp hread
        exact ⟨chunks, rfl, (hstatus _).mp hpassed, hfits, hbody⟩
      · rintro ⟨chunks, hexchange, hsuccess, hfits, hbody⟩
        cases hexchange
        exact ⟨(), (hstatus _).mpr hsuccess, body, receive_ok.mpr ⟨rfl, hfits, hbody⟩, rfl⟩

end Stream

end Inference
end Ryuk
