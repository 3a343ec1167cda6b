import Ryuk.Control.RedisExpiry

/-!
# Quotas across processes

The ledger of a fleet says what the scripts are for: it keeps every grant of a tenant with its
time, and the number of permits that are held, and admits a request when the grants of its
minute and the permits leave room for it.  The controllers of a fleet, whatever their processes
do and whenever Redis drops an idle key, answer as this ledger does, and so keep the limits of
every tenant.
-/

namespace Ryuk
namespace Control

open Foundation Foundation.Redis Foundation.Redis.Script UsageEntry

/-! ### The ledger -/

/-- What was granted to a tenant, each grant with its time and its tokens, and the permits. -/
structure Account where
  grants : List (Nat × Int)
  held : Int

namespace Account

def empty : Account := ⟨[], 0⟩

/-- What the grants at some times add up to. -/
def spentBy (account : Account) (amount : Int → Int) (during : Nat → Bool) : Int :=
  (account.grants.map fun grant => if during grant.1 = true then amount grant.2 else 0).sum

/-- How many grants there were at some times. -/
def requests (account : Account) (during : Nat → Bool) : Int := account.spentBy (fun _ => 1) during

/-- The tokens of the grants at some times. -/
def tokens (account : Account) (during : Nat → Bool) : Int := account.spentBy id during

def grant (account : Account) (now : Nat) (estimatedTokens : Int) : Account :=
  ⟨account.grants ++ [(now, estimatedTokens)], account.held + 1⟩

def release (account : Account) : Account := { account with held := account.held - 1 }

end Account

/-- The times of a minute. -/
def inMinute (minute : Int) (now : Nat) : Bool := decide (minuteOf now = minute)

/-- The sixty seconds from a time on. -/
def inWindow (start now : Nat) : Bool := decide (start ≤ now ∧ now < start + 60 * 1000000)

/-- Whether an account leaves room for a request. -/
def QuotaPolicy.Fits (policy : QuotaPolicy) (account : Account) (now : Nat)
    (estimatedTokens : Int) : Prop :=
  account.requests (inMinute (minuteOf now)) < policy.requestsPerMinute ∧
    account.tokens (inMinute (minuteOf now)) + estimatedTokens ≤ policy.tokensPerMinute ∧
    account.held < policy.concurrentRequests

instance (policy : QuotaPolicy) (account : Account) (now : Nat) (estimatedTokens : Int) :
    Decidable (policy.Fits account now estimatedTokens) :=
  inferInstanceAs (Decidable (_ ∧ _))

/-- Whether a tenant is admitted. -/
def Admits (policies : String → Option QuotaPolicy) (ledger : String → Account) (tenantId : String)
    (estimatedTokens : Int) (now : Nat) : Prop :=
  0 ≤ estimatedTokens ∧
    ∃ policy ∈ policies tenantId, policy.Fits (ledger tenantId) now estimatedTokens

instance (policies : String → Option QuotaPolicy) (ledger : String → Account) (tenantId : String)
    (estimatedTokens : Int) (now : Nat) :
    Decidable (Admits policies ledger tenantId estimatedTokens now) :=
  inferInstanceAs (Decidable (_ ∧ _))

/-- The ledger of a fleet with these policies, as a machine. -/
def ledgerMachine (policies : String → Option QuotaPolicy) :
    Machine (String → Account) RedisCall Bool where
  step ledger
    | .request _ tenantId estimatedTokens now =>
        if Admits policies ledger tenantId estimatedTokens now then
          (true, Function.update ledger tenantId ((ledger tenantId).grant now estimatedTokens))
        else (false, ledger)
    | .release _ tenantId _ =>
        (true, Function.update ledger tenantId (ledger tenantId).release)

/-- The ledger before the first call. -/
def noGrants : String → Account := fun _ => .empty

/-! ### Fleets -/

/-- The controller that makes a call. -/
def RedisCall.controller : RedisCall → RedisAdmissionController
  | .request controller _ _ _ => controller
  | .release controller _ _ => controller

/-- A run of controllers of one configuration: times rise, and permits that are held are
released. -/
structure FleetRun (controller : RedisAdmissionController) (due : Nat → Nat → Bool)
    (calls : List RedisCall) : Prop where
  controllers : ∀ call ∈ calls, call.controller = controller
  rising : (calls.map RedisCall.now).Pairwise (· ≤ ·)
  matched : ∀ before other tenantId now later,
    calls = before ++ .release other tenantId now :: later →
      0 < permitsHeld due before (other.key tenantId)

/-- The limits are numbers the scripts do not round. -/
def Exact (policies : String → Option QuotaPolicy) : Prop :=
  ∀ tenantId policy, policies tenantId = some policy →
    policy.requestsPerMinute < 2 ^ 53 ∧ policy.concurrentRequests < 2 ^ 53 ∧
      policy.tokensPerMinute < 2 ^ 53

/-! ### Accounts -/

namespace Account

variable {account : Account} {amount : Int → Int} {during first second : Nat → Bool} {now : Nat}
  {estimatedTokens : Int}

theorem spentBy_grant : (account.grant now estimatedTokens).spentBy amount during =
    account.spentBy amount during + if during now = true then amount estimatedTokens else 0 := by
  unfold spentBy grant
  rw [List.map_append, List.sum_append, List.map_singleton, List.sum_singleton]

theorem spentBy_nonneg (h : ∀ entry ∈ account.grants, 0 ≤ amount entry.2) :
    0 ≤ account.spentBy amount during := by
  apply List.sum_nonneg
  intro spent hspent
  obtain ⟨entry, hentry, rfl⟩ := List.mem_map.mp hspent
  split_ifs
  · exact h entry hentry
  · exact Int.le_refl 0

/-- The times of two parts hold at most what both parts hold. -/
theorem spentBy_le (h : ∀ entry ∈ account.grants, 0 ≤ amount entry.2)
    (hparts : ∀ time, during time = true → first time = true ∨ second time = true) :
    account.spentBy amount during ≤
      account.spentBy amount first + account.spentBy amount second := by
  unfold spentBy
  revert h
  induction account.grants with
  | nil => exact fun _ => Int.le_refl 0
  | cons entry rest ih =>
      intro h
      have hrest := ih fun other hother => h other (List.mem_cons_of_mem _ hother)
      have hamount := h entry List.mem_cons_self
      rw [List.map_cons, List.map_cons, List.map_cons, List.sum_cons, List.sum_cons, List.sum_cons]
      by_cases hduring : during entry.1 = true
      · rw [if_pos hduring]
        rcases hparts entry.1 hduring with hpart | hpart
        · rw [if_pos hpart]
          split_ifs <;> omega
        · rw [if_pos hpart]
          split_ifs <;> omega
      · rw [if_neg hduring]
        split_ifs <;> omega

end Account

/-! ### What a request sees -/

/-- Below `2 ^ 53` a script compares what it sees with the limits exactly. -/
theorem requestAnswer_exact {counters : Int × Int} {concurrent requestsPerMinute
    concurrentRequests tokensPerMinute estimatedTokens : Int}
    (hrequests : 0 ≤ counters.1 ∧ counters.1 ≤ requestsPerMinute ∧ requestsPerMinute < 2 ^ 53)
    (htokens : 0 ≤ counters.2 ∧ counters.2 ≤ tokensPerMinute ∧ tokensPerMinute < 2 ^ 53)
    (hheld : 0 ≤ concurrent ∧ concurrent ≤ concurrentRequests ∧ concurrentRequests < 2 ^ 53)
    (hestimate : 0 ≤ estimatedTokens) :
    requestAnswer counters concurrent requestsPerMinute concurrentRequests tokensPerMinute
        estimatedTokens =
      .ok (if counters.1 < requestsPerMinute ∧ counters.2 + estimatedTokens ≤ tokensPerMinute ∧
        concurrent < concurrentRequests then 1 else 0) := by
  have hsum : tonumber tokensPerMinute < tonumber (tonumber counters.2 + tonumber estimatedTokens) ↔
      tokensPerMinute < counters.2 + estimatedTokens := by
    rw [tonumber_of_lt (by omega) htokens.2.2, tonumber_of_lt htokens.1 (by omega)]
    rcases lt_or_ge estimatedTokens (2 ^ 53) with hsmall | hlarge
    · rw [tonumber_of_lt hestimate hsmall]
      rcases lt_or_ge (counters.2 + estimatedTokens) (2 ^ 53) with hfits | hover
      · rw [tonumber_of_lt (by omega) hfits]
      · have hrounded := pow_le_tonumber hover (by norm_num)
        omega
    · -- what is rounded is far above the limit
      have hpart := pow_le_tonumber hlarge (by norm_num)
      have htotal : 2 ^ 53 ≤ counters.2 + tonumber estimatedTokens := by omega
      have hrounded := pow_le_tonumber htotal (by norm_num)
      omega
  have hranges : ∀ value : Int, 0 ≤ value → value ≤ 2 ^ 53 → InRange value := by
    intro value hnonneg hle
    unfold InRange
    omega
  unfold requestAnswer
  rw [tonumber_of_lt (by omega) hrequests.2.2, tonumber_of_lt hrequests.1 (by omega),
    tonumber_of_lt (by omega) hheld.2.2, tonumber_of_lt hheld.1 (by omega)]
  by_cases hfits : counters.1 < requestsPerMinute ∧
      counters.2 + estimatedTokens ≤ tokensPerMinute ∧ concurrent < concurrentRequests
  · rw [if_pos hfits, if_neg (by rw [hsum]; omega)]
    rw [if_neg (not_not.mpr (hranges 1 (by omega) (by omega))),
      if_neg (not_not.mpr (hranges (counters.1 + 1) (by omega) (by omega))),
      if_neg (not_not.mpr (hranges estimatedTokens (by omega) (by omega))),
      if_neg (not_not.mpr (hranges (counters.2 + estimatedTokens) (by omega) (by omega))),
      if_neg (not_not.mpr (hranges 1 (by omega) (by omega))),
      if_neg (not_not.mpr (hranges (concurrent + 1) (by omega) (by omega)))]
  · rw [if_neg hfits, if_pos (by rw [hsum]; omega)]

/-! ### Entries and accounts -/

/-- What an entry has at a time is what the account has. -/
structure Posted (now : Nat) (account : Account) (entry : UsageEntry) : Prop where
  concurrent : UsageEntry.concurrent entry = account.held
  counters : ∀ minute, minuteOf now ≤ minute →
    UsageEntry.counters entry minute =
      (account.requests (inMinute minute), account.tokens (inMinute minute))
  future : ∀ minute, minuteOf now < minute →
    account.requests (inMinute minute) = 0 ∧ account.tokens (inMinute minute) = 0

/-- An account that keeps the limits. -/
structure Account.Within (policy : QuotaPolicy) (account : Account) : Prop where
  grants : ∀ entry ∈ account.grants, 0 ≤ entry.2
  requests : ∀ minute, account.requests (inMinute minute) ≤ policy.requestsPerMinute
  tokens : ∀ minute, account.tokens (inMinute minute) ≤ policy.tokensPerMinute
  held : account.held ≤ policy.concurrentRequests

section Entries

variable {now next : Nat} {account : Account} {entry : UsageEntry} {policy : QuotaPolicy}
  {estimatedTokens : Int}

theorem Posted.missing (now : Nat) : Posted now .empty none := by
  refine ⟨rfl, fun minute _ => counters_none, fun minute _ => ?_⟩
  exact ⟨rfl, rfl⟩

theorem Posted.later (h : Posted now account entry) (hlater : now ≤ next) :
    Posted next account entry :=
  ⟨h.concurrent, fun minute hminute => h.counters minute ((minuteOf_mono hlater).trans hminute),
    fun minute hminute => h.future minute ((minuteOf_mono hlater).trans_lt hminute)⟩

/-- A refused request starts its minute. -/
theorem Posted.refused (h : Posted now account entry) :
    Posted now account (started entry (minuteOf now)) := by
  refine ⟨(started_concurrent entry).trans h.concurrent, fun minute hminute => ?_, h.future⟩
  rcases hminute.eq_or_lt with rfl | hlater
  · rw [counters_started, h.counters _ le_rfl]
  · rw [counters_of_ne _ fun hstored => hlater.ne ((started_minute entry).symm.trans hstored),
      (h.future minute hlater).1, (h.future minute hlater).2]

theorem Posted.granted (h : Posted now account entry) (estimatedTokens : Int) :
    Posted now (account.grant now estimatedTokens)
      (UsageEntry.granted (started entry (minuteOf now)) estimatedTokens) := by
  have hstarted := h.refused
  have hspent : ∀ amount minute, minuteOf now < minute →
      (account.grant now estimatedTokens).spentBy amount (inMinute minute) =
        account.spentBy amount (inMinute minute) := by
    intro amount minute hminute
    have hout : ¬ inMinute minute now = true := fun hin => hminute.ne (of_decide_eq_true hin)
    rw [Account.spentBy_grant, if_neg hout, Int.add_zero]
  have hfuture : ∀ minute, minuteOf now < minute →
      (account.grant now estimatedTokens).requests (inMinute minute) = 0 ∧
        (account.grant now estimatedTokens).tokens (inMinute minute) = 0 := by
    intro minute hminute
    unfold Account.requests Account.tokens
    rw [hspent _ _ hminute, hspent _ _ hminute]
    exact h.future minute hminute
  refine ⟨?_, fun minute hminute => ?_, hfuture⟩
  · rw [granted_concurrent, hstarted.concurrent]
    rfl
  · rcases hminute.eq_or_lt with rfl | hlater
    · have hin : inMinute (minuteOf now) now = true := decide_eq_true rfl
      rw [counters_granted _ _ (started_minute entry), hstarted.counters _ le_rfl]
      unfold Account.requests Account.tokens
      rw [Account.spentBy_grant, Account.spentBy_grant, if_pos hin, if_pos hin]
      rfl
    · have hstored : ((UsageEntry.granted (started entry (minuteOf now)) estimatedTokens).field
          .minute).getD (-1) = minuteOf now := (granted_minute _ _).trans (started_minute entry)
      rw [counters_of_ne _ (hstored.trans_ne hlater.ne), (hfuture minute hlater).1,
        (hfuture minute hlater).2]

theorem Posted.released (h : Posted now account entry) (time : Nat) :
    Posted now account.release (UsageEntry.released entry time) := by
  refine ⟨?_, fun minute hminute => ?_, h.future⟩
  · rw [released_concurrent, h.concurrent]
    rfl
  · rw [counters_released, h.counters minute hminute]
    rfl

theorem Account.Within.grant (h : account.Within policy)
    (hfits : policy.Fits account now estimatedTokens) (htokens : 0 ≤ estimatedTokens) :
    (account.grant now estimatedTokens).Within policy := by
  obtain ⟨hrequests, htotal, hheld⟩ := hfits
  have hbelow : ∀ (amount : Int → Int) limit minute,
      account.spentBy amount (inMinute minute) ≤ limit →
      account.spentBy amount (inMinute (minuteOf now)) + amount estimatedTokens ≤ limit →
      (account.grant now estimatedTokens).spentBy amount (inMinute minute) ≤ limit := by
    intro amount limit minute hold hnew
    rw [Account.spentBy_grant]
    by_cases hin : inMinute minute now = true
    · rw [if_pos hin]
      have hminute : minuteOf now = minute := of_decide_eq_true hin
      rw [← hminute]
      exact hnew
    · rw [if_neg hin]
      omega
  refine ⟨fun entry hentry => ?_, fun minute => ?_, fun minute => ?_, ?_⟩
  · rcases List.mem_append.mp hentry with hold | hnew
    · exact h.grants entry hold
    · rw [List.mem_singleton.mp hnew]
      exact htokens
  · exact hbelow _ _ minute (h.requests minute) (by unfold Account.requests at hrequests; omega)
  · exact hbelow _ _ minute (h.tokens minute) htotal
  · show account.held + 1 ≤ _
    omega

theorem Account.Within.release (h : account.Within policy) : account.release.Within policy := by
  refine ⟨h.grants, h.requests, h.tokens, ?_⟩
  have := h.held
  show account.held - 1 ≤ _
  omega

theorem Account.Within.empty (policy : QuotaPolicy) : Account.empty.Within policy := by
  have := policy.positive
  refine ⟨fun _ hmem => (List.not_mem_nil hmem).elim, fun minute => ?_, fun minute => ?_, ?_⟩
  · show (0 : Int) ≤ _
    omega
  · show (0 : Int) ≤ _
    omega
  · show (0 : Int) ≤ _
    omega

/-- A request is answered as the account says. -/
theorem Posted.answer (h : Posted now account entry) (hwithin : account.Within policy)
    (hheld : 0 ≤ account.held)
    (hexact : policy.requestsPerMinute < 2 ^ 53 ∧ policy.concurrentRequests < 2 ^ 53 ∧
      policy.tokensPerMinute < 2 ^ 53) (hestimate : 0 ≤ estimatedTokens) :
    requestAnswer (UsageEntry.counters entry (minuteOf now)) (UsageEntry.concurrent entry)
        policy.requestsPerMinute policy.concurrentRequests policy.tokensPerMinute estimatedTokens =
      .ok (if policy.Fits account now estimatedTokens then 1 else 0) := by
  have hrequests : 0 ≤ account.requests (inMinute (minuteOf now)) :=
    Account.spentBy_nonneg fun _ _ => Int.one_nonneg
  have htokens : 0 ≤ account.tokens (inMinute (minuteOf now)) :=
    Account.spentBy_nonneg hwithin.grants
  rw [h.counters _ le_rfl, h.concurrent]
  apply requestAnswer_exact
  · exact ⟨hrequests, hwithin.requests _, hexact.1⟩
  · exact ⟨htokens, hwithin.tokens _, hexact.2.2⟩
  · exact ⟨hheld, hwithin.held, hexact.2.1⟩
  · exact hestimate

end Entries

/-! ### One call -/

theorem key_inj {controller : RedisAdmissionController} {tenantId other : String} :
    controller.key tenantId = controller.key other ↔ tenantId = other := by
  unfold RedisAdmissionController.key
  exact String.append_right_inj _

/-- The keys of a fleet have what its ledger has, and no tenant is over its limits. -/
structure Booked (controller : RedisAdmissionController) (now : Nat) (ledger : String → Account)
    (database : Database UsageField) : Prop where
  posted : ∀ tenantId, Posted now (ledger tenantId) (database (controller.key tenantId))
  nonneg : ∀ tenantId, 0 ≤ (ledger tenantId).held
  within : ∀ tenantId policy, controller.policies tenantId = some policy →
    (ledger tenantId).Within policy
  unknown : ∀ tenantId, controller.policies tenantId = none → ledger tenantId = .empty

section Steps

variable {controller : RedisAdmissionController} {now : Nat} {ledger : String → Account}
  {database : Database UsageField} {call : RedisCall} {tenantId : String} {account : Account}
  {entry : UsageEntry}

theorem Booked.initially (controller : RedisAdmissionController) (now : Nat) :
    Booked controller now noGrants noKeys :=
  ⟨fun _ => Posted.missing now, fun _ => Int.le_refl 0, fun _ policy _ => Account.Within.empty policy,
    fun _ _ => rfl⟩

theorem Booked.later {next : Nat} (h : Booked controller now ledger database) (hnext : now ≤ next) :
    Booked controller next ledger database :=
  ⟨fun tenantId => (h.posted tenantId).later hnext, h.nonneg, h.within, h.unknown⟩

/-- A change of one tenant's entry and account. -/
theorem Booked.update (h : Booked controller now ledger database)
    (hposted : Posted now account entry) (hnonneg : 0 ≤ account.held)
    (hwithin : ∀ policy, controller.policies tenantId = some policy → account.Within policy)
    (hunknown : controller.policies tenantId = none → account = .empty) :
    Booked controller now (Function.update ledger tenantId account)
      (Function.update database (controller.key tenantId) entry) := by
  refine ⟨fun other => ?_, ?_, ?_, ?_⟩
  · by_cases hother : other = tenantId
    · subst hother
      rw [Function.update_self, Function.update_self]
      exact hposted
    · rw [Function.update_of_ne hother, Function.update_of_ne fun hkey => hother (key_inj.mp hkey)]
      exact h.posted other
  · exact (Function.forall_update_iff ledger fun _ account => 0 ≤ account.held).mpr
      ⟨hnonneg, fun other _ => h.nonneg other⟩
  · exact (Function.forall_update_iff ledger fun other account =>
      ∀ policy, controller.policies other = some policy → account.Within policy).mpr
      ⟨hwithin, fun other _ => h.within other⟩
  · exact (Function.forall_update_iff ledger fun other account =>
      controller.policies other = none → account = .empty).mpr
      ⟨hunknown, fun other _ => h.unknown other⟩

/-- A script that changes nothing but the entry, in a ledger that stays. -/
theorem Booked.keep (h : Booked controller now ledger database)
    (hposted : Posted now (ledger tenantId) entry) :
    Booked controller now ledger (Function.update database (controller.key tenantId) entry) := by
  have hupdate := h.update hposted (h.nonneg tenantId) (h.within tenantId) (h.unknown tenantId)
  rwa [Function.update_eq_self] at hupdate

/-- What both sides do with a call. -/
structure AnswersAlike (controller : RedisAdmissionController) (ledger : String → Account)
    (database : Database UsageField) (call : RedisCall) : Prop where
  answer : ((redisMachine never).answer database call).isGranted =
    (ledgerMachine controller.policies).answer ledger call
  next : Booked controller call.now ((ledgerMachine controller.policies).next ledger call)
    ((redisMachine never).next database call)

theorem AnswersAlike.of_steps {answer : RedisAnswer} {granted : Bool}
    {database' : Database UsageField} {ledger' : String → Account}
    (hstep : (redisMachine never).step database call = (answer, database'))
    (hstep' : (ledgerMachine controller.policies).step ledger call = (granted, ledger'))
    (halike : answer.isGranted = granted) (hnext : Booked controller call.now ledger' database') :
    AnswersAlike controller ledger database call := by
  constructor
  · rw [Machine.answer_of_step hstep, Machine.answer_of_step hstep']
    exact halike
  · rw [Machine.next_of_step hstep, Machine.next_of_step hstep']
    exact hnext

/-- A request without a script. -/
theorem Booked.unscripted {estimatedTokens : Int} (h : Booked controller now ledger database)
    (hscript : (RedisCall.request controller tenantId estimatedTokens now).script = none)
    (hrefused : ¬ Admits controller.policies ledger tenantId estimatedTokens now) :
    AnswersAlike controller ledger database (.request controller tenantId estimatedTokens now) := by
  have hstep : (redisMachine never).step database
    (.request controller tenantId estimatedTokens now) = _ := redis_step_none hscript
  have hstep' : (ledgerMachine controller.policies).step ledger
    (.request controller tenantId estimatedTokens now) = _ := if_neg hrefused
  rw [purge_never] at hstep
  exact .of_steps hstep hstep' rfl h

/-- A request that the script decides. -/
theorem Booked.scripted {policy : QuotaPolicy} {estimatedTokens : Int}
    (h : Booked controller now ledger database) (hexact : Exact controller.policies)
    (hpolicy : controller.policies tenantId = some policy) (hestimate : 0 ≤ estimatedTokens) :
    AnswersAlike controller ledger database (.request controller tenantId estimatedTokens now) := by
  have hscript : (RedisCall.request controller tenantId estimatedTokens now).script =
      some (requestScript now policy.requestsPerMinute policy.concurrentRequests
        policy.tokensPerMinute estimatedTokens) := by
    simp only [RedisCall.script, hpolicy, if_neg (not_lt.mpr hestimate)]
  have hstep : (redisMachine never).step database
    (.request controller tenantId estimatedTokens now) = _ := redis_step_some hscript
  have hposted := h.posted tenantId
  have hwithin := h.within tenantId policy hpolicy
  obtain ⟨hanswer, hrefused, hgranted⟩ := @requestScript_run
    (database (controller.key tenantId)) now policy.requestsPerMinute
    policy.concurrentRequests policy.tokensPerMinute estimatedTokens
  rw [hposted.answer hwithin (h.nonneg tenantId) (hexact tenantId policy hpolicy) hestimate]
    at hanswer hrefused hgranted
  have hkey : (RedisCall.request controller tenantId estimatedTokens now).key =
    controller.key tenantId := rfl
  rw [purge_never, hkey, hanswer] at hstep
  have hadmits : Admits controller.policies ledger tenantId estimatedTokens now ↔
      policy.Fits (ledger tenantId) now estimatedTokens := by
    constructor
    · rintro ⟨-, found, hfound, hroom⟩
      obtain rfl := Option.some.inj (hpolicy.symm.trans hfound)
      exact hroom
    · exact fun hroom => ⟨hestimate, policy, hpolicy, hroom⟩
  by_cases hfits : policy.Fits (ledger tenantId) now estimatedTokens
  · have hstep' : (ledgerMachine controller.policies).step ledger
      (.request controller tenantId estimatedTokens now) = _ := if_pos (hadmits.mpr hfits)
    rw [if_pos hfits] at hgranted hstep
    rw [hgranted rfl] at hstep
    apply AnswersAlike.of_steps hstep hstep' rfl
    apply h.update (hposted.granted estimatedTokens)
    · have := h.nonneg tenantId
      show 0 ≤ (ledger tenantId).held + 1
      omega
    · intro found hfound
      obtain rfl := Option.some.inj (hpolicy.symm.trans hfound)
      exact hwithin.grant hfits hestimate
    · intro hmissing
      rw [hpolicy] at hmissing
      cases hmissing
  · have hstep' : (ledgerMachine controller.policies).step ledger
      (.request controller tenantId estimatedTokens now) = _ :=
        if_neg fun hroom => hfits (hadmits.mp hroom)
    rw [if_neg hfits] at hrefused hstep
    rw [hrefused rfl] at hstep
    exact .of_steps hstep hstep' rfl (h.keep hposted.refused)

/-- The release of a permit that is held. -/
theorem Booked.released (h : Booked controller now ledger database)
    (hexact : Exact controller.policies) (hheld : 0 < (ledger tenantId).held) :
    AnswersAlike controller ledger database (.release controller tenantId now) := by
  have hposted := h.posted tenantId
  have hstep : (redisMachine never).step database (.release controller tenantId now) = _ :=
    redis_step_some rfl
  have hstep' : (ledgerMachine controller.policies).step ledger
    (.release controller tenantId now) = _ := rfl
  have hkey : (RedisCall.release controller tenantId now).key = controller.key tenantId := rfl
  -- who holds a permit has a policy
  obtain ⟨policy, hpolicy⟩ : ∃ policy, controller.policies tenantId = some policy := by
    apply Option.ne_none_iff_exists'.mp
    intro hnone
    rw [h.unknown tenantId hnone] at hheld
    exact absurd hheld (lt_irrefl 0)
  have hwithin := h.within tenantId policy hpolicy
  have hrange : InRange (UsageEntry.concurrent (database (controller.key tenantId)) - 1) := by
    have hlimit := hwithin.held
    have hsmall := (hexact tenantId policy hpolicy).2.1
    rw [hposted.concurrent]
    unfold InRange
    omega
  have hrelease := @releaseScript_run (database (controller.key tenantId)) now
    (hposted.concurrent.symm ▸ hheld)
  rw [if_pos hrange] at hrelease
  rw [purge_never, hkey, hrelease] at hstep
  apply AnswersAlike.of_steps hstep hstep' rfl
  apply h.update (hposted.released now)
  · show 0 ≤ (ledger tenantId).held - 1
    omega
  · intro found hfound
    exact (h.within tenantId found hfound).release
  · intro hmissing
    rw [hpolicy] at hmissing
    cases hmissing

/-- **Step.**  A call is answered as the ledger answers it. -/
theorem Booked.step (h : Booked controller now ledger database)
    (hexact : Exact controller.policies) (hcall : call.controller = controller)
    (hnow : now ≤ call.now)
    (hmatched : ∀ other tenantId time, call = .release other tenantId time →
      0 < (ledger tenantId).held) :
    AnswersAlike controller ledger database call := by
  have hbooked := h.later hnow
  cases call with
  | request other tenantId estimatedTokens time =>
      obtain rfl : other = controller := hcall
      cases hpolicy : other.policies tenantId with
      | none =>
          apply hbooked.unscripted
          · simp only [RedisCall.script, hpolicy]
          · rintro ⟨-, policy, hsome, -⟩
            rw [hpolicy] at hsome
            cases hsome
      | some policy =>
          rcases lt_or_ge estimatedTokens 0 with hnegative | hestimate
          · apply hbooked.unscripted
            · simp only [RedisCall.script, hpolicy, if_pos hnegative]
            · exact fun hadmits => absurd hadmits.1 (not_le.mpr hnegative)
          · exact hbooked.scripted hexact hpolicy hestimate
  | release other tenantId time =>
      obtain rfl : other = controller := hcall
      exact hbooked.released hexact (hmatched other tenantId time rfl)

end Steps

/-! ### Runs -/

section Runs

variable {controller : RedisAdmissionController} {due : Nat → Nat → Bool}
  {calls : List RedisCall} {call : RedisCall}

theorem FleetRun.init (h : FleetRun controller due (calls ++ [call])) :
    FleetRun controller due calls ∧ ∀ earlier ∈ calls, earlier.now ≤ call.now := by
  obtain ⟨hrising, htimes⟩ := rising_init h.rising
  exact ⟨⟨fun earlier hearlier => h.controllers earlier (List.mem_append_left _ hearlier), hrising,
    matched_init h.matched⟩, htimes⟩

/-- No script of a fleet is stopped. -/
theorem FleetRun.undisturbed (hdue : ∀ deadline now, due deadline now = true → deadline ≤ now)
    (hexact : Exact controller.policies) (h : FleetRun controller due calls) :
    Undisturbed due calls := by
  have hmodest : Modest calls := by
    intro other tenantId estimatedTokens now policy hcall hpolicy
    obtain rfl : other = controller := h.controllers _ hcall
    obtain ⟨hrequests, hheld, htokens⟩ := hexact tenantId policy hpolicy
    refine ⟨?_, ?_, ?_⟩ <;> omega
  exact (hmodest.undisturbed hdue h.rising h.matched).1

/-- The permits granted less those released are the ones in the ledger. -/
theorem Booked.permits {now : Nat} {ledger : String → Account}
    (hdue : ∀ deadline now, due deadline now = true → deadline ≤ now)
    (hundisturbed : Undisturbed due calls) (hnow : ∀ call ∈ calls, call.now ≤ now)
    (h : Booked controller now ledger ((redisMachine never).after noKeys calls))
    (tenantId : String) :
    permitsHeld due calls (controller.key tenantId) = (ledger tenantId).held :=
  ((retained_after hdue hundisturbed).2 now hnow _).concurrent'.symm.trans
    (h.posted tenantId).concurrent

/-- **Run.**  A fleet whose keys never expire answers as its ledger does. -/
theorem FleetRun.booked (hdue : ∀ deadline now, due deadline now = true → deadline ≤ now)
    (hexact : Exact controller.policies) (h : FleetRun controller due calls) :
    ((redisMachine never).answers noKeys calls).map (fun pair => (pair.1, pair.2.isGranted)) =
        (ledgerMachine controller.policies).answers noGrants calls ∧
      ∀ now, (∀ call ∈ calls, call.now ≤ now) →
        Booked controller now ((ledgerMachine controller.policies).after noGrants calls)
          ((redisMachine never).after noKeys calls) := by
  induction calls using List.reverseRecOn with
  | nil => exact ⟨rfl, fun now _ => Booked.initially controller now⟩
  | append_singleton calls call ih =>
      obtain ⟨hinit, htimes⟩ := h.init
      obtain ⟨hanswers, hbooked⟩ := ih hinit
      have hlast := h.controllers call (List.mem_append_right _ List.mem_cons_self)
      -- a permit that is released is one of the ledger's
      have hmatched : ∀ other tenantId time, call = .release other tenantId time →
          0 < ((ledgerMachine controller.policies).after noGrants calls tenantId).held := by
        intro other tenantId time hcall
        subst hcall
        obtain rfl : other = controller := hlast
        rw [← (hbooked time htimes).permits hdue (hinit.undisturbed hdue hexact) htimes]
        exact h.matched calls other tenantId time [] rfl
      have hstep := (hbooked call.now htimes).step hexact hlast le_rfl hmatched
      rw [Machine.answers_append, Machine.answers_append, List.map_append, hanswers,
        Machine.after_append, Machine.after_append]
      refine ⟨?_, fun now hnow => ?_⟩
      · show _ ++ [(call, _)] = _ ++ [(call, _)]
        rw [hstep.answer]
      · exact hstep.next.later (hnow call (List.mem_append_right _ List.mem_cons_self))

/-- Sixty seconds touch two minutes of the clock. -/
theorem Account.Within.window {account : Account} {policy : QuotaPolicy}
    (h : account.Within policy) (start : Nat) :
    account.requests (inWindow start) ≤ 2 * policy.requestsPerMinute ∧
      account.tokens (inWindow start) ≤ 2 * policy.tokensPerMinute := by
  have hparts : ∀ time, inWindow start time = true →
      inMinute (minuteOf start) time = true ∨ inMinute (minuteOf start + 1) time = true := by
    intro time htime
    have hbounds : start ≤ time ∧ time < start + 60 * 1000000 := of_decide_eq_true htime
    unfold inMinute minuteOf
    rw [decide_eq_true_iff, decide_eq_true_iff]
    omega
  have hrequests : account.requests (inWindow start) ≤
      account.requests (inMinute (minuteOf start)) +
        account.requests (inMinute (minuteOf start + 1)) :=
    Account.spentBy_le (fun _ _ => Int.one_nonneg) hparts
  have htokens : account.tokens (inWindow start) ≤
      account.tokens (inMinute (minuteOf start)) + account.tokens (inMinute (minuteOf start + 1)) :=
    Account.spentBy_le h.grants hparts
  have hfirst := h.requests (minuteOf start)
  have hsecond := h.requests (minuteOf start + 1)
  have hfirst' := h.tokens (minuteOf start)
  have hsecond' := h.tokens (minuteOf start + 1)
  constructor <;> omega

end Runs

/-- The run of a fleet is one of its ledger.  A tenant holds the permits that the ledger says;
it never has more permits, or more grants in a minute of the clock, than its policy allows, and
in any sixty seconds at most twice as many grants. -/
structure KeepsQuotas (controller : RedisAdmissionController) (due : Nat → Nat → Bool)
    (calls : List RedisCall) : Prop where
  answers : ((redisMachine due).answers noKeys calls).map (fun pair => (pair.1, pair.2.isGranted)) =
    (ledgerMachine controller.policies).answers noGrants calls
  permits : ∀ tenantId, permitsHeld due calls (controller.key tenantId) =
    ((ledgerMachine controller.policies).after noGrants calls tenantId).held
  nonneg : ∀ tenantId, 0 ≤ permitsHeld due calls (controller.key tenantId)
  within : ∀ tenantId policy, controller.policies tenantId = some policy →
    ((ledgerMachine controller.policies).after noGrants calls tenantId).Within policy
  window : ∀ tenantId policy start, controller.policies tenantId = some policy →
    ((ledgerMachine controller.policies).after noGrants calls tenantId).requests (inWindow start) ≤
        2 * policy.requestsPerMinute ∧
      ((ledgerMachine controller.policies).after noGrants calls tenantId).tokens (inWindow start) ≤
        2 * policy.tokensPerMinute

/-- **Quotas.**  Whenever Redis drops the keys whose deadlines have passed, a fleet answers as
its ledger does, and keeps every tenant's limits. -/
theorem fleet_keeps_quotas {controller : RedisAdmissionController} {due : Nat → Nat → Bool}
    {calls : List RedisCall} (hdue : ∀ deadline now, due deadline now = true → deadline ≤ now)
    (hexact : Exact controller.policies) (h : FleetRun controller due calls) :
    KeepsQuotas controller due calls := by
  have hundisturbed := h.undisturbed hdue hexact
  obtain ⟨hanswers, hbooked⟩ := h.booked hdue hexact
  obtain ⟨now, hnow⟩ := exists_last calls
  have hlast := hbooked now hnow
  have hpermits := hlast.permits hdue hundisturbed hnow
  refine ⟨?_, hpermits, fun tenantId => ?_, hlast.within, fun tenantId policy start hpolicy => ?_⟩
  · rw [(retained_after hdue hundisturbed).1]
    exact hanswers
  · rw [hpermits]
    exact hlast.nonneg tenantId
  · exact (hlast.within tenantId policy hpolicy).window start

/-- One permit at a time, and two requests of eight tokens in all a minute. -/
def singleQuota : QuotaPolicy := ⟨2, 1, 8, by decide⟩

def singleController : RedisAdmissionController := ⟨fun _ => some singleQuota, "ryuk:admission:v1"⟩

/-- A permit is granted and released; the key has expired when the next one is asked for. -/
def singleRun : List RedisCall :=
  [.request singleController "tenant-a" 1 0, .release singleController "tenant-a" 1000000,
    .request singleController "tenant-a" 1 182000000]

theorem fleet_keeps_quotas_single : KeepsQuotas singleController passed singleRun := by
  have hfirst : (redisMachine passed).answer noKeys
      (.request singleController "tenant-a" 1 0) = some (.ok 1) :=
    (answer_noKeys rfl).trans (by decide +kernel)
  apply fleet_keeps_quotas
  · exact fun deadline now hpassed => of_decide_eq_true hpassed
  · rintro tenantId policy hpolicy
    obtain rfl := Option.some.inj hpolicy
    decide
  · refine ⟨fun call hcall => ?_, by decide, fun before other tenantId now later hsplit => ?_⟩
    · simp only [singleRun, List.mem_cons, List.not_mem_nil, or_false] at hcall
      rcases hcall with rfl | rfl | rfl <;> rfl
    · -- the only release comes second
      rcases before with _ | ⟨first, _ | ⟨second, _ | ⟨third, before⟩⟩⟩
      · simp [singleRun] at hsplit
      · simp only [singleRun, List.cons_append, List.nil_append, List.cons.injEq,
          RedisCall.release.injEq] at hsplit
        obtain ⟨rfl, ⟨rfl, rfl, -⟩, -⟩ := hsplit
        rw [permitsHeld_granted hfirst]
        exact Int.one_pos
      · simp [singleRun] at hsplit
      · simp [singleRun] at hsplit

end Control
end Ryuk
