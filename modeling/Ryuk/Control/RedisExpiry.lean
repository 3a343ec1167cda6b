import Ryuk.Control.RedisRetention

/-!
# Expiry of idle keys

Two runs of the same calls, one whose keys expire and one whose keys do not, answer
alike.  This takes one exception out: a request that `HINCRBY` stops halfway has
counted, but has not taken the deadline away.  No limit of up to `2 ^ 61` lets a
request go so far.
-/

namespace Ryuk
namespace Control

open Foundation Foundation.Redis Foundation.Redis.Script UsageEntry

/-! ### One call -/

section Calls

variable {due : Nat → Nat → Bool} {database kept : Database UsageField} {now : Nat}
  {held : String → Int} {call : RedisCall}

theorem redis_step_none (hscript : call.script = none) :
    (redisMachine due).step database call = (none, database.purge due call.now) := by
  unfold redisMachine
  simp only [hscript]

theorem redis_step_some {script : Script UsageField Int} (hscript : call.script = some script) :
    (redisMachine due).step database call =
      (some (script.run (database.purge due call.now call.key)).1,
        Function.update (database.purge due call.now) call.key
          (script.run (database.purge due call.now call.key)).2) := by
  unfold redisMachine
  simp only [hscript]
  rfl

theorem purge_never (now : Nat) (database : Database UsageField) :
    database.purge never now = database := by
  funext key
  unfold Database.purge
  cases (database key).deadline <;> rfl

/-- Deleting what has expired, at a later time. -/
theorem Retained.purge (hdue : ∀ deadline now, due deadline now = true → deadline ≤ now)
    (h : ∀ key, Retained now (held key) (database key) (kept key)) {later : Nat}
    (hlater : now ≤ later) (key : String) :
    Retained later (held key) (database.purge due later key) (kept.purge never later key) := by
  have hkey := (h key).later hlater
  rw [purge_never]
  unfold Database.purge
  split_ifs with hexpired
  · obtain ⟨deadline, hdeadline, hcome⟩ := (Option.any_eq_true _ _).mp hexpired
    exact hkey.expired hdeadline (hdue deadline later hcome)
  · exact hkey

theorem permitGain_of_ne {key : String} (answer : RedisAnswer) (h : key ≠ call.key) :
    permitGain key call answer = 0 := by
  cases call with
  | request controller tenantId tokens now => exact if_neg fun hgain => h hgain.1.symm
  | release controller tenantId now => exact if_neg fun hkey => h hkey.symm

theorem permitGain_refused {controller : RedisAdmissionController} {tenantId key : String}
    {tokens : Int} {answer : RedisAnswer} (h : answer.isGranted = false) :
    permitGain key (.request controller tenantId tokens now) answer = 0 := by
  refine if_neg fun hgain => ?_
  rw [h] at hgain
  cases hgain.2

theorem permitGain_granted {controller : RedisAdmissionController} {tenantId : String}
    {tokens : Int} :
    permitGain (RedisCall.request controller tenantId tokens now).key
      (.request controller tenantId tokens now) (some (.ok 1)) = 1 :=
  if_pos ⟨rfl, rfl⟩

theorem permitGain_release {controller : RedisAdmissionController} {tenantId : String}
    (answer : RedisAnswer) :
    permitGain (RedisCall.release controller tenantId now).key
      (.release controller tenantId now) answer = -1 :=
  if_pos rfl

/-- A call that leaves every key but its own alone. -/
theorem Retained.update {before : String → Int} {answer : RedisAnswer} {entry entry' : UsageEntry}
    (h : ∀ key, Retained now (before key) (database key) (kept key))
    (hown : Retained now (before call.key + permitGain call.key call answer) entry entry')
    (key : String) :
    Retained now (before key + permitGain key call answer)
      (Function.update database call.key entry key)
      (Function.update kept call.key entry' key) := by
  by_cases hkey : key = call.key
  · subst hkey
    rw [Function.update_self, Function.update_self]
    exact hown
  · rw [Function.update_of_ne hkey, Function.update_of_ne hkey, permitGain_of_ne answer hkey,
      Int.add_zero]
    exact h key

/-- A script is answered alike on what was retained, and retains it. -/
theorem Retained.script {entry entry' : UsageEntry} {permits : Int}
    {script : Script UsageField Int} (h : Retained call.now permits entry entry')
    (hscript : call.script = some script)
    (hmatched : ∀ controller tenantId time, call = .release controller tenantId time → 0 < permits)
    (hrun : ∀ error, (script.run entry).1 ≠ .error error) :
    (script.run entry).1 = (script.run entry').1 ∧
      Retained call.now (permits + permitGain call.key call (some (script.run entry).1))
        (script.run entry).2 (script.run entry').2 := by
  cases call with
  | request controller tenantId estimatedTokens now =>
      cases hpolicy : controller.policies tenantId with
      | none =>
          simp only [RedisCall.script, hpolicy] at hscript
          cases hscript
      | some policy =>
          simp only [RedisCall.script, hpolicy] at hscript
          split_ifs at hscript
          obtain rfl := Option.some.inj hscript
          obtain ⟨hanswer, hrefused, hgranted⟩ := @requestScript_run entry now
            policy.requestsPerMinute policy.concurrentRequests policy.tokensPerMinute
            estimatedTokens
          obtain ⟨hanswer', hrefused', hgranted'⟩ := @requestScript_run entry' now
            policy.requestsPerMinute policy.concurrentRequests policy.tokensPerMinute
            estimatedTokens
          -- both runs see the same counters and the same concurrent count
          have hcounters : UsageEntry.counters entry' (minuteOf now) =
              UsageEntry.counters entry (minuteOf now) := (h.counters _ le_rfl).symm
          have hconcurrent : UsageEntry.concurrent entry' = UsageEntry.concurrent entry :=
            h.concurrent'.trans h.concurrent.symm
          rw [hcounters, hconcurrent] at hanswer' hrefused' hgranted'
          refine ⟨hanswer.trans hanswer'.symm, ?_⟩
          rcases requestAnswer_cases (UsageEntry.counters entry (minuteOf now))
              (UsageEntry.concurrent entry) policy.requestsPerMinute policy.concurrentRequests
              policy.tokensPerMinute estimatedTokens with hcase | hcase | ⟨error, hcase⟩
          · rw [hrefused hcase, hrefused' hcase, hanswer, hcase, permitGain_refused rfl,
              Int.add_zero]
            exact h.refused
          · rw [hgranted hcase, hgranted' hcase, hanswer, hcase]
            rw [permitGain_granted]
            exact h.granted estimatedTokens
          · exact absurd (hanswer.trans hcase) (hrun error)
  | release controller tenantId now =>
      obtain rfl := Option.some.inj hscript
      have hheld := hmatched controller tenantId now rfl
      have hrelease := @releaseScript_run _ now (h.concurrent.symm ▸ hheld)
      have hrelease' := @releaseScript_run _ now (h.concurrent'.symm ▸ hheld)
      rw [h.concurrent] at hrelease
      rw [h.concurrent'] at hrelease'
      show ((releaseScript now).run entry).1 = ((releaseScript now).run entry').1 ∧
        Retained now _ ((releaseScript now).run entry).2 ((releaseScript now).run entry').2
      by_cases hrange : InRange (permits - 1)
      · rw [if_pos hrange] at hrelease hrelease'
        rw [hrelease, hrelease']
        rw [permitGain_release]
        exact ⟨rfl, h.released hheld⟩
      · rw [if_neg hrange] at hrelease
        exact absurd (congrArg Prod.fst hrelease) (hrun _)

/-- **Step.**  A call is answered alike with and without expiry, and keeps what was
retained, unless `HINCRBY` stops it. -/
theorem Retained.step (hdue : ∀ deadline now, due deadline now = true → deadline ≤ now)
    (h : ∀ key, Retained now (held key) (database key) (kept key)) (hnow : now ≤ call.now)
    (hmatched : ∀ controller tenantId time, call = .release controller tenantId time →
      0 < held call.key)
    (hrun : ∀ error, (redisMachine due).answer database call ≠ some (.error error)) :
    (redisMachine due).answer database call = (redisMachine never).answer kept call ∧
      ∀ key, Retained call.now
        (held key + permitGain key call ((redisMachine due).answer database call))
        ((redisMachine due).next database call key)
        ((redisMachine never).next kept call key) := by
  have hpurged := Retained.purge hdue h hnow
  cases hscript : call.script with
  | none =>
      have hstep : (redisMachine due).step database call = _ := redis_step_none hscript
      have hstep' : (redisMachine never).step kept call = _ := redis_step_none hscript
      rw [Machine.answer_of_step hstep, Machine.answer_of_step hstep', Machine.next_of_step hstep,
        Machine.next_of_step hstep']
      refine ⟨rfl, fun key => ?_⟩
      have hgain : permitGain key call none = 0 := by
        cases call with
        | request => exact permitGain_refused rfl
        | release => cases hscript
      rw [hgain, Int.add_zero]
      exact hpurged key
  | some script =>
      have hstep : (redisMachine due).step database call = _ := redis_step_some hscript
      have hstep' : (redisMachine never).step kept call = _ := redis_step_some hscript
      rw [Machine.answer_of_step hstep] at hrun
      rw [Machine.answer_of_step hstep, Machine.answer_of_step hstep', Machine.next_of_step hstep,
        Machine.next_of_step hstep']
      obtain ⟨hanswer, hown⟩ := (hpurged call.key).script hscript hmatched fun error herror =>
        hrun error (congrArg some herror)
      exact ⟨congrArg some hanswer, Retained.update hpurged hown⟩

/-! ### Runs -/

/-- A run in which the times rise, every release matches a granted permit, and no
script is stopped by an error. -/
structure Undisturbed (due : Nat → Nat → Bool) (calls : List RedisCall) : Prop where
  rising : (calls.map RedisCall.now).Pairwise (· ≤ ·)
  matched : ∀ before controller tenantId now later,
    calls = before ++ .release controller tenantId now :: later →
      0 < permitsHeld due before (controller.key tenantId)
  completed : ∀ pair ∈ (redisMachine due).answers noKeys calls, ∀ error,
    pair.2 ≠ some (.error error)

theorem permitsHeld_concat (calls : List RedisCall) (call : RedisCall) (key : String) :
    permitsHeld due (calls ++ [call]) key = permitsHeld due calls key +
      permitGain key call ((redisMachine due).answer ((redisMachine due).after noKeys calls) call) :=
  Machine.total_concat ..

/-- The answer of a script that is the first one. -/
theorem answer_noKeys {script : Script UsageField Int} (hscript : call.script = some script) :
    (redisMachine due).answer noKeys call = some (script.run none).1 := by
  have hstep : (redisMachine due).step noKeys call = _ := redis_step_some hscript
  rw [Machine.answer_of_step hstep]
  rfl

theorem permitsHeld_granted {controller : RedisAdmissionController} {tenantId : String}
    {tokens : Int}
    (h : (redisMachine due).answer noKeys (.request controller tenantId tokens now) =
      some (.ok 1)) :
    permitsHeld due [.request controller tenantId tokens now] (controller.key tenantId) = 1 := by
  show [permitGain _ _ _].sum = 1
  rw [h, List.sum_singleton]
  exact permitGain_granted

/-- The times before the last call rise, and none is after it. -/
theorem rising_init {calls : List RedisCall}
    (h : ((calls ++ [call]).map RedisCall.now).Pairwise (· ≤ ·)) :
    (calls.map RedisCall.now).Pairwise (· ≤ ·) ∧ ∀ earlier ∈ calls, earlier.now ≤ call.now := by
  rw [List.map_append, List.pairwise_append] at h
  exact ⟨h.1, fun earlier hearlier =>
    h.2.2 _ (List.mem_map_of_mem hearlier) _ List.mem_cons_self⟩

/-- The releases before the last call match what they matched in the whole run. -/
theorem matched_init {calls : List RedisCall}
    (h : ∀ before controller tenantId now later,
      calls ++ [call] = before ++ .release controller tenantId now :: later →
        0 < permitsHeld due before (controller.key tenantId)) :
    ∀ before controller tenantId now later,
      calls = before ++ .release controller tenantId now :: later →
        0 < permitsHeld due before (controller.key tenantId) :=
  fun before controller tenantId now later hsplit =>
    h before controller tenantId now (later ++ [call])
      (by rw [hsplit, List.append_assoc, List.cons_append])

/-- No call of a run comes after some time. -/
theorem exists_last (calls : List RedisCall) : ∃ now, ∀ call ∈ calls, call.now ≤ now :=
  ⟨(calls.map RedisCall.now).sum, fun _ hcall =>
    List.single_le_sum (fun _ _ => Nat.zero_le _) _ (List.mem_map_of_mem hcall)⟩

theorem Undisturbed.init {calls : List RedisCall} (h : Undisturbed due (calls ++ [call])) :
    Undisturbed due calls ∧ (∀ earlier ∈ calls, earlier.now ≤ call.now) ∧
      ∀ error, (redisMachine due).answer ((redisMachine due).after noKeys calls) call ≠
        some (.error error) := by
  obtain ⟨hrising, htimes⟩ := rising_init h.rising
  have hcompleted := h.completed
  rw [Machine.answers_append] at hcompleted
  exact ⟨⟨hrising, matched_init h.matched,
    fun pair hpair => hcompleted pair (List.mem_append_left _ hpair)⟩, htimes,
    hcompleted (call, _) (List.mem_append_right _ List.mem_cons_self)⟩

/-- **Run.**  Both runs answer alike, and what one deletes need not be kept. -/
theorem retained_after (hdue : ∀ deadline now, due deadline now = true → deadline ≤ now)
    {calls : List RedisCall} (h : Undisturbed due calls) :
    (redisMachine due).answers noKeys calls = (redisMachine never).answers noKeys calls ∧
      ∀ now, (∀ call ∈ calls, call.now ≤ now) → ∀ key,
        Retained now (permitsHeld due calls key) ((redisMachine due).after noKeys calls key)
          ((redisMachine never).after noKeys calls key) := by
  induction calls using List.reverseRecOn with
  | nil => exact ⟨rfl, fun _ _ _ => Retained.missing⟩
  | append_singleton calls call ih =>
      obtain ⟨hinit, htimes, hrun⟩ := h.init
      obtain ⟨hanswers, hretained⟩ := ih hinit
      obtain ⟨hanswer, hnext⟩ := Retained.step hdue (hretained call.now htimes) le_rfl
        (fun controller tenantId time hcall => by
          subst hcall
          exact h.matched calls controller tenantId time [] rfl) hrun
      rw [Machine.answers_append, Machine.answers_append, hanswers, Machine.after_append,
        Machine.after_append]
      refine ⟨?_, fun now hnow key => ?_⟩
      · show _ ++ [(call, _)] = _ ++ [(call, _)]
        rw [hanswer]
      · rw [permitsHeld_concat]
        exact (hnext key).later (hnow call (List.mem_append_right _ List.mem_cons_self))

/-- The limits of the policies that a run uses are at most `2 ^ 61`. -/
def Modest (calls : List RedisCall) : Prop :=
  ∀ controller tenantId tokens now policy, .request controller tenantId tokens now ∈ calls →
    controller.policies tenantId = some policy →
      policy.requestsPerMinute ≤ 2 ^ 61 ∧ policy.concurrentRequests ≤ 2 ^ 61 ∧
        policy.tokensPerMinute ≤ 2 ^ 61

/-- No counter of an entry is negative. -/
def Counts (entry : UsageEntry) : Prop :=
  ∀ minute, 0 ≤ (UsageEntry.counters entry minute).1 ∧ 0 ≤ (UsageEntry.counters entry minute).2

theorem Counts.missing : Counts none := by
  intro minute
  rw [counters_none]
  exact ⟨Int.le_refl 0, Int.le_refl 0⟩

theorem Counts.started {entry : UsageEntry} (h : Counts entry) (minute : Int) :
    Counts (UsageEntry.started entry minute) := by
  intro other
  by_cases hsame : minute = other
  · rw [← hsame, counters_started]
    exact h minute
  · rw [counters_of_ne _ fun hstored => hsame ((started_minute entry).symm.trans hstored)]
    exact ⟨Int.le_refl 0, Int.le_refl 0⟩

theorem Counts.granted {entry : UsageEntry} (h : Counts entry) {tokens : Int}
    (htokens : 0 ≤ tokens) : Counts (UsageEntry.granted entry tokens) := by
  intro minute
  by_cases hsame : (entry.field .minute).getD (-1) = minute
  · rw [counters_granted _ _ hsame]
    have := h minute
    constructor <;> simp only <;> omega
  · rw [counters_of_ne _ ((granted_minute entry tokens).trans_ne hsame)]
    exact ⟨Int.le_refl 0, Int.le_refl 0⟩

theorem Counts.released {entry : UsageEntry} (h : Counts entry) (now : Nat) :
    Counts (UsageEntry.released entry now) := by
  intro minute
  rw [counters_released]
  exact h minute

/-- A script under modest limits is not stopped, and neither counter nor permits leave
their bounds. -/
theorem Counts.script {entry : UsageEntry} {permits : Int} {script : Script UsageField Int}
    (h : Counts entry) (hpermits : UsageEntry.concurrent entry = permits) (hnonneg : 0 ≤ permits)
    (hbound : permits ≤ 2 ^ 61) (hscript : call.script = some script) (hmodest : Modest [call])
    (hmatched : ∀ controller tenantId time, call = .release controller tenantId time → 0 < permits) :
    (∀ error, (script.run entry).1 ≠ .error error) ∧ Counts (script.run entry).2 ∧
      permits + permitGain call.key call (some (script.run entry).1) ≤ 2 ^ 61 := by
  cases call with
  | request controller tenantId estimatedTokens now =>
      cases hpolicy : controller.policies tenantId with
      | none =>
          simp only [RedisCall.script, hpolicy] at hscript
          cases hscript
      | some policy =>
          obtain ⟨hperMinute, hheld, htokens⟩ := hmodest controller tenantId estimatedTokens now
            policy List.mem_cons_self hpolicy
          simp only [RedisCall.script, hpolicy] at hscript
          split_ifs at hscript with hestimate
          obtain rfl := Option.some.inj hscript
          obtain ⟨hanswer, hrefused, hgranted⟩ := @requestScript_run entry now
            policy.requestsPerMinute policy.concurrentRequests policy.tokensPerMinute
            estimatedTokens
          have hcompleted := requestAnswer_completed (h (minuteOf now)).1 (h (minuteOf now)).2
            (hpermits ▸ hnonneg) (not_lt.mp hestimate) hperMinute hheld htokens
          rw [hanswer]
          refine ⟨hcompleted, ?_⟩
          rcases requestAnswer_cases (UsageEntry.counters entry (minuteOf now))
              (UsageEntry.concurrent entry) policy.requestsPerMinute policy.concurrentRequests
              policy.tokensPerMinute estimatedTokens with hcase | hcase | ⟨error, hcase⟩
          · rw [hrefused hcase, hcase, permitGain_refused rfl, Int.add_zero]
            exact ⟨h.started _, hbound⟩
          · rw [hgranted hcase, hcase, permitGain_granted]
            refine ⟨(h.started _).granted (not_lt.mp hestimate), ?_⟩
            have := requestAnswer_below hcase hheld
            omega
          · exact absurd hcase (hcompleted error)
  | release controller tenantId now =>
      obtain rfl := Option.some.inj hscript
      have hpositive := hmatched controller tenantId now rfl
      have hrelease := @releaseScript_run _ now (hpermits.symm ▸ hpositive)
      have hrange : InRange (UsageEntry.concurrent entry - 1) := by
        rw [hpermits]
        unfold InRange
        omega
      rw [if_pos hrange] at hrelease
      rw [hrelease, permitGain_release]
      exact ⟨nofun, h.released now, by omega⟩

/-- Under modest limits no script is stopped. -/
theorem Modest.undisturbed (hdue : ∀ deadline now, due deadline now = true → deadline ≤ now)
    {calls : List RedisCall} (hmodest : Modest calls)
    (hrising : (calls.map RedisCall.now).Pairwise (· ≤ ·))
    (hmatched : ∀ before controller tenantId now later,
      calls = before ++ .release controller tenantId now :: later →
        0 < permitsHeld due before (controller.key tenantId)) :
    Undisturbed due calls ∧ ∀ key, Counts ((redisMachine due).after noKeys calls key) ∧
      permitsHeld due calls key ≤ 2 ^ 61 := by
  induction calls using List.reverseRecOn with
  | nil =>
      refine ⟨⟨hrising, hmatched, fun pair hpair => ?_⟩, fun key => ⟨Counts.missing, ?_⟩⟩
      · cases hpair
      · show (0 : Int) ≤ 2 ^ 61
        norm_num
  | append_singleton calls call ih =>
      obtain ⟨hrising', htimes⟩ := rising_init hrising
      obtain ⟨hinit, hcounts⟩ := ih
        (fun controller tenantId tokens now policy hcall =>
          hmodest controller tenantId tokens now policy (List.mem_append_left _ hcall))
        hrising' (matched_init hmatched)
      have hretained := (retained_after hdue hinit).2 call.now htimes
      have hpurged := Retained.purge hdue hretained le_rfl
      have hcounts' : ∀ key,
          Counts (((redisMachine due).after noKeys calls).purge due call.now key) := by
        intro key
        unfold Database.purge
        split_ifs
        · exact Counts.missing
        · exact (hcounts key).1
      have hlast : (∀ error, (redisMachine due).answer ((redisMachine due).after noKeys calls)
          call ≠ some (.error error)) ∧
          ∀ key, Counts ((redisMachine due).next ((redisMachine due).after noKeys calls) call key) ∧
            permitsHeld due calls key + permitGain key call ((redisMachine due).answer
              ((redisMachine due).after noKeys calls) call) ≤ 2 ^ 61 := by
        cases hscript : call.script with
        | none =>
            have hstep : (redisMachine due).step ((redisMachine due).after noKeys calls) call = _ :=
              redis_step_none hscript
            have hgain : ∀ key, permitGain key call none = 0 := by
              intro key
              cases call with
              | request => exact permitGain_refused rfl
              | release => cases hscript
            rw [Machine.answer_of_step hstep, Machine.next_of_step hstep]
            refine ⟨nofun, fun key => ⟨hcounts' key, ?_⟩⟩
            rw [hgain, Int.add_zero]
            exact (hcounts key).2
        | some script =>
            have hstep : (redisMachine due).step ((redisMachine due).after noKeys calls) call = _ :=
              redis_step_some hscript
            obtain ⟨hrun, hnext, hbound⟩ := (hcounts' call.key).script
              (hpurged call.key).concurrent (hpurged call.key).nonneg (hcounts call.key).2 hscript
              (fun controller tenantId tokens now policy hcall =>
                hmodest controller tenantId tokens now policy (List.mem_append_right _ hcall))
              fun controller tenantId time hcall => by
                subst hcall
                exact hmatched calls controller tenantId time [] rfl
            rw [Machine.answer_of_step hstep, Machine.next_of_step hstep]
            refine ⟨fun error herror => hrun error (Option.some.inj herror), fun key => ?_⟩
            by_cases hkey : key = call.key
            · rw [hkey, Function.update_self]
              exact ⟨hnext, hbound⟩
            · rw [Function.update_of_ne hkey, permitGain_of_ne _ hkey, Int.add_zero]
              exact ⟨hcounts' key, (hcounts key).2⟩
      refine ⟨⟨hrising, hmatched, fun pair hpair => ?_⟩, fun key => ?_⟩
      · rw [Machine.answers_append] at hpair
        rcases List.mem_append.mp hpair with hold | hnew
        · exact hinit.completed pair hold
        · rw [List.mem_singleton.mp hnew]
          exact hlast.1
      · rw [Machine.after_append, permitsHeld_concat]
        exact hlast.2 key

end Calls

/-- Deleting a tenant's key once its deadline has come never changes an answer; a key
with a permit that is held has no deadline, and its concurrent count is the number of
permits granted less those released.  So it is in every run that no error of a script
disturbs, and under limits of at most `2 ^ 61` there are none. -/
structure ExpiryUnobserved (due : Nat → Nat → Bool) : Prop where
  unobserved : ∀ calls : List RedisCall, Undisturbed due calls →
    (redisMachine due).answers noKeys calls = (redisMachine never).answers noKeys calls ∧
      ∀ key, UsageEntry.concurrent ((redisMachine due).after noKeys calls key) =
          permitsHeld due calls key ∧
        (0 < permitsHeld due calls key →
          ((redisMachine due).after noKeys calls key).deadline = none)
  modest : ∀ calls : List RedisCall, Modest calls →
    (calls.map RedisCall.now).Pairwise (· ≤ ·) →
    (∀ before controller tenantId now later,
      calls = before ++ .release controller tenantId now :: later →
        0 < permitsHeld due before (controller.key tenantId)) →
    Undisturbed due calls

/-- Expiry is unobserved, whichever time from its deadline on deletes a key. -/
def ExpiryNeverObserved : Prop :=
  ∀ due : Nat → Nat → Bool, (∀ deadline now, due deadline now = true → deadline ≤ now) →
    ExpiryUnobserved due

/-- **Expiry.** -/
theorem expiry_unobserved : ExpiryNeverObserved := by
  intro due hdue
  refine ⟨fun calls h => ?_, fun calls hmodest hrising hmatched =>
    (hmodest.undisturbed hdue hrising hmatched).1⟩
  obtain ⟨hanswers, hretained⟩ := retained_after hdue h
  refine ⟨hanswers, fun key => ?_⟩
  obtain ⟨now, hnow⟩ := exists_last calls
  have hkey := hretained now hnow key
  refine ⟨hkey.concurrent, fun hheld => ?_⟩
  cases hdeadline : ((redisMachine due).after noKeys calls key).deadline with
  | none => rfl
  | some deadline =>
      have := (hkey.idle deadline hdeadline).1
      omega

/-! ### A script that is stopped halfway -/

/-- The answers of calls that are all about one key. -/
def soloAnswers (due : Nat → Nat → Bool) (entry : UsageEntry) : List RedisCall → List RedisAnswer
  | [] => []
  | call :: rest =>
      let entry := if entry.deadline.any fun deadline => due deadline call.now then none else entry
      match call.script with
      | none => none :: soloAnswers due entry rest
      | some script =>
          some (script.run entry).1 :: soloAnswers due (script.run entry).2 rest

theorem answers_solo {due : Nat → Nat → Bool} {key : String} {calls : List RedisCall}
    (hcalls : ∀ call ∈ calls, call.key = key) (database : Database UsageField) :
    ((redisMachine due).answers database calls).map Prod.snd =
      soloAnswers due (database key) calls := by
  induction calls generalizing database with
  | nil => rfl
  | cons call rest ih =>
      have hkey := hcalls call List.mem_cons_self
      have hrest := ih fun other hother => hcalls other (List.mem_cons_of_mem _ hother)
      rw [Machine.answers_cons, List.map_cons, hrest, soloAnswers]
      cases hscript : call.script with
      | none =>
          have hstep : (redisMachine due).step database call = _ := redis_step_none hscript
          rw [Machine.answer_of_step hstep, Machine.next_of_step hstep]
          rfl
      | some script =>
          have hstep : (redisMachine due).step database call = _ := redis_step_some hscript
          rw [Machine.answer_of_step hstep, Machine.next_of_step hstep, hkey, Function.update_self]
          rfl

/-- Limits whose token counter leaves the range of `HINCRBY`. -/
def wideQuota : QuotaPolicy := ⟨1, 1, 2 ^ 63, by decide⟩

def wideController : RedisAdmissionController := ⟨fun _ => some wideQuota, "ryuk:admission:v1"⟩

/-- A permit is granted and released; the key expires after 181 seconds.  One second
earlier a request with an estimate of `2 ^ 63` tokens is stopped after it has counted. -/
def stoppedRun : List RedisCall :=
  [.request wideController "tenant-a" 1 0, .release wideController "tenant-a" 1000000,
    .request wideController "tenant-a" (2 ^ 63) 180000000,
    .request wideController "tenant-a" 1 182000000]

theorem stoppedRun_solo : ∀ call ∈ stoppedRun, call.key = wideController.key "tenant-a" := by
  intro call hcall
  simp only [stoppedRun, List.mem_cons, List.not_mem_nil, or_false] at hcall
  rcases hcall with rfl | rfl | rfl | rfl <;> rfl

/-- The last request is granted where the key has expired, and refused where it is kept. -/
theorem expiry_observed_by_stopped :
    (stoppedRun.map RedisCall.now).Pairwise (· ≤ ·) ∧
      (∀ before controller tenantId now later,
        stoppedRun = before ++ .release controller tenantId now :: later →
          0 < permitsHeld passed before (controller.key tenantId)) ∧
      ((redisMachine passed).answers noKeys stoppedRun).map Prod.snd =
        [some (.ok 1), some (.ok 1), some (.error "ERR value is not an integer or out of range"),
          some (.ok 1)] ∧
      ((redisMachine never).answers noKeys stoppedRun).map Prod.snd =
        [some (.ok 1), some (.ok 1), some (.error "ERR value is not an integer or out of range"),
          some (.ok 0)] := by
  have hfirst : (redisMachine passed).answer noKeys
      (.request wideController "tenant-a" 1 0) = some (.ok 1) :=
    (answer_noKeys rfl).trans (by decide +kernel)
  refine ⟨by decide, fun before controller tenantId now later hsplit => ?_, ?_, ?_⟩
  · -- the only release comes second
    rcases before with _ | ⟨first, _ | ⟨second, _ | ⟨third, _ | ⟨fourth, before⟩⟩⟩⟩
    · simp [stoppedRun] at hsplit
    · simp only [stoppedRun, List.cons_append, List.nil_append, List.cons.injEq,
        RedisCall.release.injEq] at hsplit
      obtain ⟨rfl, ⟨rfl, rfl, -⟩, -⟩ := hsplit
      rw [permitsHeld_granted hfirst]
      exact Int.one_pos
    · simp [stoppedRun] at hsplit
    · simp [stoppedRun] at hsplit
    · simp [stoppedRun] at hsplit
  · rw [answers_solo stoppedRun_solo]
    decide +kernel
  · rw [answers_solo stoppedRun_solo]
    decide +kernel

end Control
end Ryuk
