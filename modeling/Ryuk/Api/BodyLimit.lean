import Ryuk.Foundation.Conversation
import Ryuk.Foundation.JsonText

/-!
# The limit on request bodies

`RequestBodyLimitMiddleware` stands between the server and an application.  It counts
the bytes of the body while the application receives them, raises inside the
application's own call of `receive` when there are too many, and answers with a 413
itself when that error comes back out of the application.  The application is an
arbitrary program: nothing keeps it from starting a response before it has read the
body.
-/

namespace Ryuk
namespace Api

open Foundation Foundation.Decimal Foundation.Json

/-! ### Bytes -/

abbrev Bytes := List UInt8

/-- `text.encode("ascii")`. -/
def asciiBytes (text : List Char) : Bytes := text.map fun c => UInt8.ofNat c.toNat

/-- `value.lower()` of bytes. -/
def lowerBytes (value : Bytes) : Bytes :=
  value.map fun byte => if 65 ≤ byte ∧ byte ≤ 90 then byte + 32 else byte

def isDigitByte (byte : UInt8) : Bool := decide (48 ≤ byte) && decide (byte ≤ 57)

def isSpaceByte (byte : UInt8) : Bool := byte == 32 || (decide (9 ≤ byte) && decide (byte ≤ 13))

/-- The digits of a literal, in which single underscores may stand between digits. -/
def readDigits : Bytes → Option (List Nat)
  | [] => none
  | [byte] => if isDigitByte byte then some [byte.toNat - 48] else none
  | byte :: 95 :: rest =>
      if isDigitByte byte then (readDigits rest).map ((byte.toNat - 48) :: ·) else none
  | byte :: next :: rest =>
      if isDigitByte byte then (readDigits (next :: rest)).map ((byte.toNat - 48) :: ·) else none

/-- `int(value)` of bytes; `none` where it raises a `ValueError`. -/
def intOfBytes (value : Bytes) : Option Int :=
  let text := ((value.dropWhile isSpaceByte).reverse.dropWhile isSpaceByte).reverse
  let digits := match text with
    | 43 :: rest | 45 :: rest => rest
    | text => text
  (readDigits digits).bind fun digits =>
    if digits.length ≤ maxIntDigits then
      let magnitude : Int := Nat.ofDigits 10 digits.reverse
      some (if text.head? = some 45 then -magnitude else magnitude)
    else none

/-! ### Messages and applications -/

/-- A message of the protocol. -/
structure Message where
  type : String
  body : Option Bytes
  moreBody : Bool
  status : Option Int
  headers : List (Bytes × Bytes)

structure Scope where
  type : String
  headers : List (Bytes × Bytes)

/-- `_headers`: names are compared in lower case, and the last value counts. -/
def Scope.header (scope : Scope) (name : Bytes) : Option Bytes :=
  (scope.headers.reverse.find? fun pair => decide (lowerBytes pair.1 = name)).map Prod.snd

/-- What leaves an application as an exception. -/
inductive AppError where
  | requestBodyTooLarge
  | other (name : String)
  deriving DecidableEq

inductive Query where
  | receive
  | send (message : Message)

inductive Answer where
  | received (message : Message)
  | raised (error : AppError)
  | sent

inductive Outcome where
  | returned
  | raised (error : AppError)
  deriving DecidableEq

/-- An application: any program that receives and sends messages, and may go on after
an exception of `receive`. -/
structure Application (σ : Type) where
  start : Scope → σ
  program : Program σ Query Answer Outcome

/-! ### The middleware -/

/-- The messages that the client still sends, the bytes counted so far, and the
messages that went to the application and to the server. -/
structure Exchange where
  incoming : List Message
  receivedBytes : Nat
  delivered : List Message
  forwarded : List Message

/-- `await receive()`: a client that has sent everything is gone. -/
def Exchange.next (exchange : Exchange) : Message × Exchange :=
  match exchange.incoming with
  | [] => (⟨"http.disconnect", none, false, none, []⟩, exchange)
  | message :: rest => (message, { exchange with incoming := rest })

/-- `len(message.get("body", b""))`. -/
def Message.bodyLength (message : Message) : Nat := (message.body.getD []).length

/-- `limited_receive`. -/
def Exchange.limitedReceive (maxBytes : Nat) (exchange : Exchange) : Answer × Exchange :=
  let (message, exchange) := exchange.next
  if message.type = "http.request" then
    let receivedBytes := exchange.receivedBytes + message.bodyLength
    if maxBytes < receivedBytes then
      (.raised .requestBodyTooLarge, { exchange with receivedBytes := receivedBytes })
    else
      (.received message, { exchange with
        receivedBytes := receivedBytes
        delivered := exchange.delivered ++ [message] })
  else (.received message, { exchange with delivered := exchange.delivered ++ [message] })

/-- The callables the application is given under the limit. -/
def Exchange.limited (maxBytes : Nat) (exchange : Exchange) : Query → Answer × Exchange
  | .receive => exchange.limitedReceive maxBytes
  | .send message => (.sent, { exchange with forwarded := exchange.forwarded ++ [message] })

/-- The callables of the server itself. -/
def Exchange.unlimited (exchange : Exchange) : Query → Answer × Exchange
  | .receive =>
      let (message, exchange) := exchange.next
      (.received message, { exchange with delivered := exchange.delivered ++ [message] })
  | .send message => (.sent, { exchange with forwarded := exchange.forwarded ++ [message] })

def tooLargeBody : Bytes :=
  asciiBytes (renderWith [' '] (.obj [("detail", .str "Request body too large.")]))

/-- The messages of `_send_too_large`. -/
def sendTooLarge : List Message :=
  [⟨"http.response.start", none, false, some 413,
      [(asciiBytes "content-type".toList, asciiBytes "application/json".toList),
        (asciiBytes "content-length".toList, asciiBytes (digitsOf tooLargeBody.length))]⟩,
    ⟨"http.response.body", some tooLargeBody, false, none, []⟩]

/-- `int(content_length) > self.max_bytes`, where the header is there and is a number. -/
def declaresTooLarge (maxBytes : Nat) (scope : Scope) : Bool :=
  ((scope.header (asciiBytes "content-length".toList)).bind intOfBytes).any fun length =>
    decide ((maxBytes : Int) < length)

section Call

variable {σ : Type} (app : Application σ) (maxBytes : Nat) (scope : Scope)
  (incoming : List Message)

/-- The application under the limit, after a number of turns. -/
def limitedTalk (turns : Nat) : Talk σ Exchange Outcome :=
  Talk.after app.program (Exchange.limited maxBytes)
    (Talk.begin (app.start scope) ⟨incoming, 0, [], []⟩) turns

/-- The application without the limit. -/
def unlimitedTalk (turns : Nat) : Talk σ Exchange Outcome :=
  Talk.after app.program Exchange.unlimited
    (Talk.begin (app.start scope) ⟨incoming, 0, [], []⟩) turns

/-- What the middleware adds when the error comes out of the application. -/
def answerTooLarge (outcome : Option Outcome) : List Message :=
  if outcome = some (.raised .requestBodyTooLarge) then sendTooLarge else []

/-- What a call has delivered to the application and forwarded to the server. -/
structure Course where
  delivered : List Message
  forwarded : List Message

/-- `RequestBodyLimitMiddleware.__call__`, after a number of turns of the application. -/
def RequestBodyLimitMiddleware.call (turns : Nat) : Course :=
  if scope.type ≠ "http" then
    let talk := unlimitedTalk app scope incoming turns
    ⟨talk.handler.delivered, talk.handler.forwarded⟩
  else if declaresTooLarge maxBytes scope then ⟨[], sendTooLarge⟩
  else
    let talk := limitedTalk app maxBytes scope incoming turns
    ⟨talk.handler.delivered, talk.handler.forwarded ++ answerTooLarge talk.outcome⟩

end Call

/-! ### Counting -/

/-- The body bytes among messages of a client. -/
def bodyBytes (messages : List Message) : Nat :=
  (messages.map fun message =>
    if message.type = "http.request" then message.bodyLength else 0).sum

/-- The responses that are started by messages of an application. -/
def starts (messages : List Message) : Nat :=
  messages.countP fun message => decide (message.type = "http.response.start")

@[simp] theorem bodyBytes_append (first second : List Message) :
    bodyBytes (first ++ second) = bodyBytes first + bodyBytes second := by
  simp [bodyBytes]

@[simp] theorem starts_append (first second : List Message) :
    starts (first ++ second) = starts first + starts second :=
  List.countP_append

theorem bodyBytes_single (message : Message) :
    bodyBytes [message] = if message.type = "http.request" then message.bodyLength else 0 := by
  simp [bodyBytes]

theorem starts_single (message : Message) :
    starts [message] = if message.type = "http.response.start" then 1 else 0 := by
  simp [starts, List.countP_cons]

@[simp] theorem starts_sendTooLarge : starts sendTooLarge = 1 := by
  simp [starts, sendTooLarge]

/-! ### Bytes that are delivered -/

/-- The application has at most the bytes that were counted, and never too many. -/
def Exchange.Within (maxBytes : Nat) (exchange : Exchange) : Prop :=
  bodyBytes exchange.delivered ≤ exchange.receivedBytes ∧
    bodyBytes exchange.delivered ≤ maxBytes

theorem Exchange.next_kept (exchange : Exchange) :
    exchange.next.2.receivedBytes = exchange.receivedBytes ∧
      exchange.next.2.delivered = exchange.delivered := by
  unfold Exchange.next
  cases exchange.incoming with
  | nil => exact ⟨rfl, rfl⟩
  | cons message rest => exact ⟨rfl, rfl⟩

/-- **Step lemma.**  Whatever the application asks for, the bytes stay within the
limit. -/
theorem Exchange.Within.limited {maxBytes : Nat} {exchange : Exchange}
    (h : exchange.Within maxBytes) (query : Query) :
    (exchange.limited maxBytes query).2.Within maxBytes := by
  cases query with
  | send message => exact h
  | receive =>
      obtain ⟨hreceived, hdelivered⟩ := exchange.next_kept
      unfold Exchange.Within at h
      rw [← hreceived, ← hdelivered] at h
      show (exchange.limitedReceive maxBytes).2.Within maxBytes
      unfold Exchange.limitedReceive Exchange.Within
      generalize exchange.next = next at h
      obtain ⟨message, later⟩ := next
      dsimp only at h ⊢
      split_ifs with hbody hmore
      · -- the bytes that are too many are counted and not delivered
        dsimp only
        omega
      · simp only [bodyBytes_append, bodyBytes_single, if_pos hbody]
        omega
      · simp only [bodyBytes_append, bodyBytes_single, if_neg hbody]
        omega

theorem limitedTalk_within {σ : Type} (app : Application σ) (maxBytes : Nat) (scope : Scope)
    (incoming : List Message) (turns : Nat) :
    (limitedTalk app maxBytes scope incoming turns).handler.Within maxBytes := by
  apply @Talk.after_handler _ _ _ _ _ _ _ _ (Exchange.Within maxBytes)
  · intro exchange query hwithin
    exact hwithin.limited query
  · exact ⟨Nat.le_refl _, Nat.zero_le _⟩

/-! ### Responses that are started -/

/-- Whether a turn of the application starts a response: its own, or the refusal that
the middleware sends once the error is out. -/
def startsResponse : Query ⊕ Outcome → Bool
  | .inl (.send message) => decide (message.type = "http.response.start")
  | .inr (.raised .requestBodyTooLarge) => true
  | _ => false

/-- The next turn starts no second response. -/
def SingleStart {σ : Type} (app : Application σ) (talk : Talk σ Exchange Outcome) : Prop :=
  startsResponse (app.program.turn talk.program) = true → starts talk.handler.forwarded = 0

theorem Exchange.forwarded_receive (maxBytes : Nat) (exchange : Exchange) :
    (exchange.limited maxBytes .receive).2.forwarded = exchange.forwarded := by
  show (exchange.limitedReceive maxBytes).2.forwarded = _
  have hnext : exchange.next.2.forwarded = exchange.forwarded := by
    unfold Exchange.next
    cases exchange.incoming with
    | nil => rfl
    | cons message rest => rfl
  unfold Exchange.limitedReceive
  generalize exchange.next = next at hnext
  obtain ⟨message, later⟩ := next
  dsimp only at hnext ⊢
  split_ifs
  · exact hnext
  · exact hnext
  · exact hnext

/-- **Step lemma.**  After a turn there is still one response at most exactly when the
turn starts no second one. -/
theorem singleStart_step {σ : Type} (app : Application σ) (maxBytes : Nat)
    (talk : Talk σ Exchange Outcome) (houtcome : talk.outcome = none)
    (hone : starts (talk.handler.forwarded ++ answerTooLarge talk.outcome) ≤ 1) :
    let later := Talk.step app.program (Exchange.limited maxBytes) talk
    starts (later.handler.forwarded ++ answerTooLarge later.outcome) ≤ 1 ↔
      SingleStart app talk := by
  have hnone : starts (answerTooLarge none) = 0 := rfl
  rw [houtcome, starts_append, hnone, Nat.add_zero] at hone
  unfold SingleStart
  cases hturn : app.program.turn talk.program with
  | inl query =>
      rw [Talk.step_query houtcome hturn]
      dsimp only
      rw [starts_append, hnone, Nat.add_zero]
      cases query with
      | receive =>
          rw [Exchange.forwarded_receive]
          exact ⟨fun _ hfalse => absurd hfalse (by simp [startsResponse]), fun _ => hone⟩
      | send message =>
          show starts (talk.handler.forwarded ++ [message]) ≤ 1 ↔ _
          rw [starts_append, starts_single]
          simp only [startsResponse, decide_eq_true_eq]
          split_ifs with hstart
          · simp only [hstart, true_implies]
            omega
          · simp only [hstart, false_implies, iff_true]
            omega
  | inr outcome =>
      rw [Talk.step_outcome houtcome hturn]
      dsimp only
      rw [starts_append]
      by_cases hraised : outcome = .raised .requestBodyTooLarge
      · subst hraised
        have hanswer : starts (answerTooLarge (some (.raised .requestBodyTooLarge))) = 1 :=
          starts_sendTooLarge
        rw [hanswer]
        simp only [startsResponse, true_implies]
        omega
      · -- any other end adds nothing
        have hanswer : starts (answerTooLarge (some outcome)) = 0 := by
          unfold answerTooLarge
          rw [if_neg (by simpa using hraised)]
          rfl
        have hquiet : startsResponse (.inr outcome) = false := by
          cases outcome with
          | returned => rfl
          | raised error =>
              cases error with
              | requestBodyTooLarge => exact absurd rfl hraised
              | other name => rfl
        rw [hanswer, hquiet]
        simpa using hone

/-! ### What the limit promises -/

/-- At most so many body bytes are delivered, and at most one response is started. -/
def Limits (maxBytes : Nat) (course : Nat → Course) : Prop :=
  ∀ turns, bodyBytes (course turns).delivered ≤ maxBytes ∧ starts (course turns).forwarded ≤ 1

/-- **The limit.**  No application is delivered too many bytes.  At most one response
is started exactly when the request is refused by its declared length or the
application neither starts a second response nor lets the error out after it has
started one. -/
theorem bodyLimit_iff {σ : Type} (app : Application σ) (maxBytes : Nat)
    (headers : List (Bytes × Bytes)) (incoming : List Message) :
    let scope : Scope := ⟨"http", headers⟩
    let course := RequestBodyLimitMiddleware.call app maxBytes scope incoming
    (∀ turns, bodyBytes (course turns).delivered ≤ maxBytes) ∧
      (Limits maxBytes course ↔ declaresTooLarge maxBytes scope = true ∨
        ∀ turns, (limitedTalk app maxBytes scope incoming turns).outcome = none →
          SingleStart app (limitedTalk app maxBytes scope incoming turns)) := by
  intro scope course
  have hhttp : ¬ scope.type ≠ "http" := fun h => h rfl
  by_cases hdeclared : declaresTooLarge maxBytes scope = true
  · have hcourse : ∀ turns, course turns = ⟨[], sendTooLarge⟩ := fun turns => by
      show RequestBodyLimitMiddleware.call app maxBytes scope incoming turns = _
      rw [RequestBodyLimitMiddleware.call, if_neg hhttp, if_pos hdeclared]
    refine ⟨fun turns => ?_, fun _ => Or.inl hdeclared, fun _ turns => ?_⟩
    · rw [hcourse]
      exact Nat.zero_le _
    · rw [hcourse]
      exact ⟨Nat.zero_le _, Nat.le_of_eq starts_sendTooLarge⟩
  · have hcourse : ∀ turns, course turns =
        ⟨(limitedTalk app maxBytes scope incoming turns).handler.delivered,
          (limitedTalk app maxBytes scope incoming turns).handler.forwarded ++
            answerTooLarge (limitedTalk app maxBytes scope incoming turns).outcome⟩ :=
      fun turns => by
        show RequestBodyLimitMiddleware.call app maxBytes scope incoming turns = _
        rw [RequestBodyLimitMiddleware.call, if_neg hhttp, if_neg hdeclared]
    have hbytes : ∀ turns, bodyBytes (course turns).delivered ≤ maxBytes := fun turns => by
      rw [hcourse]
      exact (limitedTalk_within app maxBytes scope incoming turns).2
    refine ⟨hbytes, ?_⟩
    have hruns := @Talk.always_iff _ _ _ _ _ app.program (Exchange.limited maxBytes)
      (Talk.begin (app.start scope) ⟨incoming, 0, [], []⟩)
      (fun talk => starts (talk.handler.forwarded ++ answerTooLarge talk.outcome) ≤ 1)
      (SingleStart app) (singleStart_step app maxBytes) (Nat.zero_le _)
    unfold Limits
    constructor
    · intro hlimits
      refine Or.inr (hruns.mp fun turns => ?_)
      have hstarts := (hlimits turns).2
      rw [hcourse] at hstarts
      exact hstarts
    · rintro (hrefused | hsingle)
      · exact absurd hrefused hdeclared
      · intro turns
        refine ⟨hbytes turns, ?_⟩
        rw [hcourse]
        exact hruns.mpr hsingle turns

/-- An application that starts its response, reads the body and does not catch what
`receive` raises. -/
def streamingApp : Application Nat where
  start := fun _ => 0
  program :=
    { turn := fun place =>
        if place = 0 then .inl (.send ⟨"http.response.start", none, false, some 200, []⟩)
        else if place = 1 then .inl .receive
        else .inr (.raised .requestBodyTooLarge)
      resume := fun place _ => place + 1 }

/-- A chunk of eleven bytes under a limit of ten is refused with a second response. -/
theorem late_refusal_starts_twice :
    ¬ Limits 10 (RequestBodyLimitMiddleware.call streamingApp 10 ⟨"http", []⟩
      [⟨"http.request", some (asciiBytes "01234567890".toList), false, none, []⟩]) := by
  intro h
  have htwice := (h 3).2
  revert htwice
  decide

end Api
end Ryuk
