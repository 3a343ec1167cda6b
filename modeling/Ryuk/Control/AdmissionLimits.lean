import Mathlib.Algebra.Order.Ring.Rat
import Ryuk.Control.Admission

/-!
# Quotas are kept

`Effect` says once what a call can do.  From it follow what a run keeps for each
tenant: the concurrent count is the number of permits held, and the window counters
are those of `Windowed`, so that no sixty seconds hold more than two windows' worth
of grants.  A call reads and changes only what is kept for its own tenant.
-/

namespace Ryuk
namespace Control

open Foundation Foundation.FixedWindow

/-! ### The controller -/

namespace AdmissionController

variable (controller : AdmissionController) {tenantId other : String}

@[simp] theorem store_policies (usage : TenantUsage) :
    (controller.store tenantId usage).policies = controller.policies := rfl

@[simp] theorem store_usage (usage : TenantUsage) :
    (controller.store tenantId usage).usage tenantId = some usage :=
  Function.update_self ..

theorem store_usage_of_ne (usage : TenantUsage) (h : other ≠ tenantId) :
    (controller.store tenantId usage).usage other = controller.usage other :=
  Function.update_of_ne h _ _

@[simp] theorem release_policies :
    (controller.release tenantId).policies = controller.policies := by
  unfold release
  split
  · rfl
  · split_ifs <;> rfl

theorem release_usage_of_ne (h : other ≠ tenantId) :
    (controller.release tenantId).usage other = controller.usage other := by
  unfold release
  split
  · rfl
  · split_ifs
    · exact controller.store_usage_of_ne _ h
    · rfl

/-- A release gives one permit back, if any is held. -/
theorem release_usage : (controller.release tenantId).usage tenantId =
    (controller.usage tenantId).map fun usage =>
      if 0 < usage.concurrent then { usage with concurrent := usage.concurrent - 1 }
      else usage := by
  cases husage : controller.usage tenantId with
  | none => simp only [release, husage, Option.map_none]
  | some usage =>
      simp only [release, husage, Option.map_some]
      split_ifs
      · exact controller.store_usage _
      · exact husage

end AdmissionController

/-! ### One call -/

namespace ControlPlane

variable (plane : ControlPlane) {tenantId other : String}

@[simp] theorem withPermits_permits (admission : AdmissionController)
    (permits : List AdmissionPermit) :
    (plane.withPermits admission tenantId permits).permits tenantId = permits :=
  Function.update_self ..

theorem withPermits_permits_of_ne (admission : AdmissionController)
    (permits : List AdmissionPermit) (h : other ≠ tenantId) :
    (plane.withPermits admission tenantId permits).permits other = plane.permits other :=
  Function.update_of_ne h _ _

end ControlPlane

/-- The answer to a refused request. -/
def refusal : Answer := .permit (.error ⟨429, "quota_exceeded", "Request quota exceeded."⟩)

/-- The usage that a request finds: the one that is kept, with a fresh window if the
last one is over. -/
def foundUsage (plane : ControlPlane) (tenantId : String) (current : Rat) : TenantUsage :=
  ((plane.admission.usage tenantId).getD (.new current)).renewed current

/-- What a call can do. -/
inductive Effect (plane : ControlPlane) : Call → Answer → ControlPlane → Prop
  | ignored {tenantId : String} {estimatedTokens : Int} {current : Rat}
      (hunknown : plane.admission.policies tenantId = none ∨ estimatedTokens < 0) :
      Effect plane (.request tenantId estimatedTokens current) refusal plane
  | refused {tenantId : String} {estimatedTokens : Int} {current : Rat} {policy : QuotaPolicy}
      (hpolicy : plane.admission.policies tenantId = some policy) (htokens : 0 ≤ estimatedTokens)
      (hrefuses : (foundUsage plane tenantId current).Refuses policy estimatedTokens) :
      Effect plane (.request tenantId estimatedTokens current) refusal
        { plane with
          admission := plane.admission.store tenantId (foundUsage plane tenantId current) }
  | granted {tenantId : String} {estimatedTokens : Int} {current : Rat} {policy : QuotaPolicy}
      (hpolicy : plane.admission.policies tenantId = some policy) (htokens : 0 ≤ estimatedTokens)
      (hadmits : ¬ (foundUsage plane tenantId current).Refuses policy estimatedTokens) :
      Effect plane (.request tenantId estimatedTokens current) (.permit (.ok (.new tenantId)))
        (plane.withPermits
          (plane.admission.store tenantId
            ((foundUsage plane tenantId current).granted estimatedTokens))
          tenantId (plane.permits tenantId ++ [.new tenantId]))
  | kept {tenantId : String} {index : Nat}
      (hkept : ∀ permit, (plane.permits tenantId)[index]? = some permit → permit.released = true) :
      Effect plane (.release tenantId index) .done plane
  | released {tenantId : String} {index : Nat} {permit : AdmissionPermit}
      (hpermit : (plane.permits tenantId)[index]? = some permit)
      (hheld : permit.released = false) :
      Effect plane (.release tenantId index) .done
        (plane.withPermits (plane.admission.release permit.tenantId) tenantId
          ((plane.permits tenantId).set index { permit with released := true }))

open ControlPlane in
/-- Every step has one of these effects. -/
theorem step_effect (plane : ControlPlane) (call : Call) :
    Effect plane call (machine.answer plane call) (machine.next plane call) := by
  cases call with
  | request tenantId estimatedTokens current =>
      show Effect plane _ (plane.step (.request tenantId estimatedTokens current)).1
        (plane.step (.request tenantId estimatedTokens current)).2
      cases hpolicy : plane.admission.policies tenantId with
      | none =>
          simp only [step, admitPermit, AdmissionController.admitRequest, hpolicy]
          exact .ignored (Or.inl hpolicy)
      | some policy =>
          by_cases htokens : estimatedTokens < 0
          · simp only [step, admitPermit, AdmissionController.admitRequest, hpolicy, if_pos htokens]
            exact .ignored (Or.inr htokens)
          · by_cases hrefuses : (foundUsage plane tenantId current).Refuses policy estimatedTokens
            · have hstep : plane.admission.admitRequest tenantId estimatedTokens current =
                  (false, plane.admission.store tenantId (foundUsage plane tenantId current)) := by
                simp only [AdmissionController.admitRequest, hpolicy, if_neg htokens]
                exact if_pos hrefuses
              simp only [step, admitPermit, hstep]
              exact .refused hpolicy (by omega) hrefuses
            · have hstep : plane.admission.admitRequest tenantId estimatedTokens current =
                  (true, plane.admission.store tenantId
                    ((foundUsage plane tenantId current).granted estimatedTokens)) := by
                simp only [AdmissionController.admitRequest, hpolicy, if_neg htokens]
                exact if_neg hrefuses
              simp only [step, admitPermit, hstep]
              exact .granted hpolicy (by omega) hrefuses
  | release tenantId index =>
      show Effect plane _ (plane.step (.release tenantId index)).1
        (plane.step (.release tenantId index)).2
      cases hpermit : (plane.permits tenantId)[index]? with
      | none =>
          simp only [step, hpermit]
          refine .kept fun permit hfound => ?_
          rw [hpermit] at hfound
          cases hfound
      | some permit =>
          cases hheld : permit.released with
          | true =>
              -- the permit is put back as it was
              have hsame : (plane.permits tenantId).set index permit = plane.permits tenantId := by
                obtain ⟨hlt, rfl⟩ := List.getElem?_eq_some_iff.mp hpermit
                exact List.set_getElem_self hlt
              have hplane : plane.withPermits plane.admission tenantId (plane.permits tenantId) =
                  plane := by
                unfold withPermits
                rw [Function.update_eq_self]
              simp only [step, hpermit, AdmissionPermit.release, hheld, Bool.true_eq_false,
                if_false, hsame, hplane]
              refine .kept fun other hfound => ?_
              rw [hpermit] at hfound
              rw [← Option.some.inj hfound]
              exact hheld
          | false =>
              simp only [step, hpermit, AdmissionPermit.release, hheld, if_true]
              exact .released hpermit hheld

/-! ### What a run keeps of permits and policies -/

/-- The policies are the given ones, and a permit carries the tenant it was granted to. -/
structure Wired (policies : String → Option QuotaPolicy) (plane : ControlPlane) : Prop where
  policies : plane.admission.policies = policies
  named : ∀ tenantId, ∀ permit ∈ plane.permits tenantId, permit.tenantId = tenantId

section Run

open ControlPlane

variable {policies : String → Option QuotaPolicy} {plane : ControlPlane} {call : Call}
  {tenantId : String}

theorem Wired.new (policies : String → Option QuotaPolicy) :
    Wired policies (ControlPlane.new policies) := by
  refine ⟨rfl, fun tenantId permit hpermit => ?_⟩
  cases hpermit

theorem Wired.effect {answer : Answer} {plane' : ControlPlane} (h : Wired policies plane)
    (heffect : Effect plane call answer plane') : Wired policies plane' := by
  cases heffect with
  | ignored => exact h
  | refused => exact ⟨h.policies, h.named⟩
  | kept => exact h
  | @granted tenant estimatedTokens current policy =>
      refine ⟨h.policies, fun other permit hpermit => ?_⟩
      by_cases hsame : other = tenant
      · subst hsame
        rw [withPermits_permits] at hpermit
        rcases List.mem_append.mp hpermit with hold | hnew
        · exact h.named other permit hold
        · rw [List.mem_singleton.mp hnew]
          rfl
      · rw [withPermits_permits_of_ne _ _ _ hsame] at hpermit
        exact h.named other permit hpermit
  | @released tenant index permit hpermit hheld =>
      refine ⟨?_, fun other permit' hmem => ?_⟩
      · show (plane.admission.release permit.tenantId).policies = policies
        rw [AdmissionController.release_policies, h.policies]
      · by_cases hsame : other = tenant
        · subst hsame
          rw [withPermits_permits] at hmem
          rcases List.mem_or_eq_of_mem_set hmem with hold | rfl
          · exact h.named other permit' hold
          · exact h.named other permit (List.mem_of_getElem? hpermit)
        · rw [withPermits_permits_of_ne _ _ _ hsame] at hmem
          exact h.named other permit' hmem

theorem wired_after (policies : String → Option QuotaPolicy) (calls : List Call) :
    Wired policies (machine.after (ControlPlane.new policies) calls) :=
  Machine.after_invariant (fun plane call h => h.effect (step_effect plane call))
    (Wired.new policies) calls

/-- What is kept for a tenant, by a call for another one. -/
theorem Wired.frame {answer : Answer} {plane' : ControlPlane} (h : Wired policies plane)
    (heffect : Effect plane call answer plane') (hother : call.tenantId ≠ tenantId) :
    plane'.admission.usage tenantId = plane.admission.usage tenantId ∧
      plane'.permits tenantId = plane.permits tenantId := by
  have hne : tenantId ≠ call.tenantId := Ne.symm hother
  cases heffect with
  | ignored => exact ⟨rfl, rfl⟩
  | kept => exact ⟨rfl, rfl⟩
  | refused => exact ⟨AdmissionController.store_usage_of_ne _ _ hne, rfl⟩
  | granted =>
      exact ⟨AdmissionController.store_usage_of_ne _ _ hne, withPermits_permits_of_ne _ _ _ hne⟩
  | @released tenant index permit hpermit hheld =>
      have hname := h.named tenant permit (List.mem_of_getElem? hpermit)
      refine ⟨?_, withPermits_permits_of_ne _ _ _ hne⟩
      show (plane.admission.release permit.tenantId).usage tenantId = _
      rw [hname]
      exact AdmissionController.release_usage_of_ne _ hne

/-! ### Windows of rounded times -/

/-- The times of a run as a clock reads them: doubles that are not negative and do not fall. -/
structure Timely (times : List Rat) : Prop where
  rising : times.Pairwise (· ≤ ·)
  nonneg : ∀ time ∈ times, 0 ≤ time
  doubles : ∀ time ∈ times, Binary64.Represented time

theorem Timely.before {times later : List Rat} (h : Timely (times ++ later)) : Timely times :=
  ⟨(List.pairwise_append.mp h.rising).1, fun time htime => h.nonneg time (List.mem_append_left _ htime),
    fun time htime => h.doubles time (List.mem_append_left _ htime)⟩

theorem Timely.le_last {times : List Rat} {current time : Rat} (h : Timely (times ++ [current]))
    (htime : time ∈ times) : time ≤ current :=
  (List.pairwise_append.mp h.rising).2.2 time htime current List.mem_cons_self

section Differences

variable {started current : Rat}

theorem represented_sixty : Binary64.Represented 60 :=
  Binary64.represented_intCast (show |(60 : ℤ)| ≤ 2 ^ 53 by decide)

/-- A call whose rounded age is less than a window lies in the window. -/
theorem lt_of_age (h : Binary64.nearest (current - started) < 60) : current < started + 60 := by
  by_contra hlate
  exact absurd (Binary64.le_nearest represented_sixty (by linarith)) (not_le.mpr h)

/-- Nothing is older than a window before its start. -/
theorem age_of_le (h : current ≤ started) : Binary64.nearest (current - started) < 60 := by
  have hzero : Binary64.Represented 0 :=
    Binary64.represented_intCast (show |(0 : ℤ)| ≤ 2 ^ 53 by decide)
  have hle : Binary64.nearest (current - started) ≤ 0 := Binary64.nearest_le hzero (by linarith)
  exact hle.trans_lt (by norm_num)

/-- From a start that is not negative, a window is over at sixty at the earliest. -/
theorem sixty_le_of_over (hstarted : 0 ≤ started) (hcurrent : Binary64.Represented current)
    (hover : 60 ≤ Binary64.nearest (current - started)) : 60 ≤ current :=
  hover.trans (Binary64.nearest_le hcurrent (by linarith))

/-- A window that starts at sixty or later is not over early: differences within a factor of
two are exact, and larger ones exceed sixty. -/
theorem exact_of_over (hstarted : Binary64.Represented started)
    (hcurrent : Binary64.Represented current) (hlate : 60 ≤ started) (hle : started ≤ current)
    (hover : 60 ≤ Binary64.nearest (current - started)) : started + 60 ≤ current := by
  rcases le_total current (2 * started) with hclose | hfar
  · rw [Binary64.nearest_of_represented (Binary64.represented_sub hcurrent hstarted hle hclose)]
      at hover
    linarith
  · linarith

end Differences

/-! ### One tenant's usage -/

/-- The windows of a tenant.  The first one may end early by the rounding of a difference; all
grants then lie in it. -/
structure Windows (policy : QuotaPolicy) (times : List Rat) (usage : TenantUsage)
    (granted : List (Rat × Int)) : Prop where
  requests : Windowed 60 policy.requestsPerMinute usage.windowStarted usage.requests
    (asRequests granted)
  tokens : Windowed 60 policy.tokensPerMinute usage.windowStarted usage.tokens granted
  timed : ∀ entry ∈ granted, entry.1 ∈ times
  aged : ∀ entry ∈ granted, Binary64.nearest (entry.1 - usage.windowStarted) < 60
  first : usage.windowStarted < 60 → ∀ entry ∈ granted, usage.windowStarted ≤ entry.1

/-- The usage of a tenant with the permits it holds and the requests it was granted;
the current window started at the time of some call. -/
structure Kept (policy : QuotaPolicy) (times : List Rat) (usage : TenantUsage) (held : Int)
    (granted : List (Rat × Int)) : Prop where
  started : usage.windowStarted ∈ times
  windows : Timely times → Windows policy times usage granted
  concurrent : usage.concurrent = held
  limit : usage.concurrent ≤ policy.concurrentRequests

variable {policy : QuotaPolicy} {times : List Rat} {usage : TenantUsage} {held : Int}
  {granted : List (Rat × Int)} {current : Rat} {estimatedTokens : Int}

theorem Kept.new (policy : QuotaPolicy) (current : Rat) (hcurrent : current ∈ times) :
    Kept policy times (.new current) 0 [] := by
  have hpositive := policy.positive
  refine ⟨hcurrent, fun _ => ⟨?_, ?_, ?_, ?_, ?_⟩, rfl, ?_⟩
  · exact Windowed.nil (by norm_num) (by omega) current
  · exact Windowed.nil (by norm_num) (by omega) current
  · exact fun entry hentry => (List.not_mem_nil hentry).elim
  · exact fun entry hentry => (List.not_mem_nil hentry).elim
  · exact fun _ entry hentry => (List.not_mem_nil hentry).elim
  · show (0 : Int) ≤ _
    omega

theorem Windows.later (h : Windows policy times usage granted) (later : List Rat) :
    Windows policy (times ++ later) usage granted :=
  ⟨h.requests, h.tokens, fun entry hentry => List.mem_append_left _ (h.timed entry hentry), h.aged,
    h.first⟩

theorem Kept.later (h : Kept policy times usage held granted) (current : Option Rat) :
    Kept policy (times ++ current.toList) usage held granted :=
  ⟨List.mem_append_left _ h.started, fun htimely => (h.windows htimely.before).later _,
    h.concurrent, h.limit⟩

/-- The grants of a window that is over all came before. -/
theorem Windows.before (h : Windows policy times usage granted)
    (htimely : Timely (times ++ [current]))
    (hover : 60 ≤ Binary64.nearest (current - usage.windowStarted)) :
    ∀ entry ∈ granted, entry.1 < current := by
  intro entry hentry
  apply lt_of_le_of_ne (htimely.le_last (h.timed entry hentry))
  intro hsame
  have hage := h.aged entry hentry
  rw [hsame] at hage
  exact absurd hover (not_le.mpr hage)

/-- Every grant counts once at its time. -/
theorem mem_asRequests {entry : Rat × Int} (h : entry ∈ asRequests granted) :
    ∃ found ∈ granted, entry.1 = found.1 := by
  obtain ⟨found, hfound, rfl⟩ := List.mem_map.mp h
  exact ⟨found, hfound, rfl⟩

/-- A fresh window is started once the last one is over. -/
theorem Windows.restart (h : Windows policy times usage granted)
    (hstarted : usage.windowStarted ∈ times) (htimely : Timely (times ++ [current]))
    (hover : 60 ≤ Binary64.nearest (current - usage.windowStarted)) :
    Windows policy (times ++ [current])
      { usage with windowStarted := current, requests := 0, tokens := 0 } granted := by
  have hmem : current ∈ times ++ [current] := List.mem_append_right _ List.mem_cons_self
  have hbefore := h.before htimely hover
  have hnonneg := htimely.nonneg _ (List.mem_append_left _ hstarted)
  have hlate : 60 ≤ current := sixty_le_of_over hnonneg (htimely.doubles current hmem) hover
  refine ⟨?_, ?_, (h.later _).timed, fun entry hentry => age_of_le (hbefore entry hentry).le,
    fun hearly => absurd hlate (not_le.mpr hearly)⟩
  · rcases lt_or_ge usage.windowStarted 60 with hfirst | hnext
    · refine h.requests.restart_first (fun entry hentry => ?_) fun entry hentry => ?_
      · obtain ⟨found, hfound, hsame⟩ := mem_asRequests hentry
        exact hsame ▸ h.first hfirst found hfound
      · obtain ⟨found, hfound, hsame⟩ := mem_asRequests hentry
        exact hsame ▸ hbefore found hfound
    · exact h.requests.restart (exact_of_over (htimely.before.doubles _ hstarted)
        (htimely.doubles current hmem) hnext (htimely.le_last hstarted) hover)
  · rcases lt_or_ge usage.windowStarted 60 with hfirst | hnext
    · exact h.tokens.restart_first (h.first hfirst) hbefore
    · exact h.tokens.restart (exact_of_over (htimely.before.doubles _ hstarted)
        (htimely.doubles current hmem) hnext (htimely.le_last hstarted) hover)

theorem Kept.renewed (h : Kept policy times usage held granted) (current : Rat) :
    Kept policy (times ++ [current]) (usage.renewed current) held granted := by
  unfold TenantUsage.renewed
  split_ifs with hover
  · exact ⟨List.mem_append_right _ List.mem_cons_self,
      fun htimely => (h.windows htimely.before).restart h.started htimely hover, h.concurrent,
      h.limit⟩
  · exact h.later (some current)

/-- The window that a request finds is one its rounded age is less than. -/
theorem age_renewed (usage : TenantUsage) (current : Rat) :
    Binary64.nearest (current - (usage.renewed current).windowStarted) < 60 := by
  unfold TenantUsage.renewed
  split_ifs with hover
  · exact age_of_le le_rfl
  · exact not_le.mp hover

theorem Kept.grant (h : Kept policy (times ++ [current]) usage held granted)
    (hage : Binary64.nearest (current - usage.windowStarted) < 60)
    (htokens : 0 ≤ estimatedTokens) (hadmits : ¬ usage.Refuses policy estimatedTokens) :
    Kept policy (times ++ [current]) (usage.granted estimatedTokens) (held + 1)
      (granted ++ [(current, estimatedTokens)]) := by
  unfold TenantUsage.Refuses at hadmits
  have hconcurrent := h.concurrent
  refine ⟨h.started, fun htimely => ?_, ?_, ?_⟩
  · have hwindows := h.windows htimely
    have hstarted : usage.windowStarted ≤ current := by
      rcases List.mem_append.mp h.started with hold | hnew
      · exact htimely.le_last hold
      · exact (List.mem_singleton.mp hnew).le
    refine ⟨?_, ?_, ?_, ?_, ?_⟩
    · unfold asRequests
      rw [List.map_append]
      exact hwindows.requests.grant hstarted (lt_of_age hage) (by omega) (by omega)
    · exact hwindows.tokens.grant hstarted (lt_of_age hage) htokens (by omega)
    · intro entry hentry
      rcases List.mem_append.mp hentry with hold | hnew
      · exact hwindows.timed entry hold
      · rw [List.mem_singleton.mp hnew]
        exact List.mem_append_right _ List.mem_cons_self
    · intro entry hentry
      rcases List.mem_append.mp hentry with hold | hnew
      · exact hwindows.aged entry hold
      · rw [List.mem_singleton.mp hnew]
        exact hage
    · intro hfirst entry hentry
      rcases List.mem_append.mp hentry with hold | hnew
      · exact hwindows.first hfirst entry hold
      · rw [List.mem_singleton.mp hnew]
        exact hstarted
  · show usage.concurrent + 1 = held + 1
    omega
  · show usage.concurrent + 1 ≤ policy.concurrentRequests
    omega

theorem Kept.release (h : Kept policy times usage held granted) :
    Kept policy times { usage with concurrent := usage.concurrent - 1 } (held - 1) granted := by
  have hconcurrent := h.concurrent
  have hlimit := h.limit
  refine ⟨h.started, fun htimely => ?_, ?_, ?_⟩
  · have hwindows := h.windows htimely
    exact ⟨hwindows.requests, hwindows.tokens, hwindows.timed, hwindows.aged, hwindows.first⟩
  · show usage.concurrent - 1 = held - 1
    omega
  · show usage.concurrent - 1 ≤ policy.concurrentRequests
    omega

/-! ### One tenant in a run -/

/-- What a run has kept for a tenant: nothing before its first request. -/
inductive QuotaKept (policies : String → Option QuotaPolicy) (tenantId : String)
    (times : List Rat) (granted : List (Rat × Int)) (plane : ControlPlane) : Prop
  | unused (husage : plane.admission.usage tenantId = none) (hpermits : plane.permits tenantId = [])
      (hgranted : granted = [])
  | used {policy : QuotaPolicy} {usage : TenantUsage} (hpolicy : policies tenantId = some policy)
      (husage : plane.admission.usage tenantId = some usage)
      (hkept : Kept policy times usage (plane.outstanding tenantId) granted)

theorem outstanding_append (permits : List AdmissionPermit) (tenantId : String) :
    ((permits ++ [AdmissionPermit.new tenantId]).countP fun permit => !permit.released) =
      (permits.countP fun permit => !permit.released) + 1 := by
  rw [List.countP_append]
  rfl

/-- Releasing a held permit leaves one less. -/
theorem outstanding_set {permits : List AdmissionPermit} {index : Nat} {permit : AdmissionPermit}
    (hpermit : permits[index]? = some permit) (hheld : permit.released = false) :
    ((permits.set index { permit with released := true }).countP fun permit => !permit.released) +
      1 = permits.countP fun permit => !permit.released := by
  obtain ⟨hlt, rfl⟩ := List.getElem?_eq_some_iff.mp hpermit
  have hpositive : 0 < permits.countP fun permit => !permit.released :=
    List.countP_pos_iff.mpr ⟨permits[index], List.getElem_mem hlt, by rw [hheld]; rfl⟩
  rw [List.countP_set hlt]
  simp only [hheld, Bool.not_false, Bool.not_true, if_true, Bool.false_eq_true, if_false]
  omega

theorem QuotaKept.frame {plane' : ControlPlane} (h : QuotaKept policies tenantId times granted plane)
    (husage : plane'.admission.usage tenantId = plane.admission.usage tenantId)
    (hpermits : plane'.permits tenantId = plane.permits tenantId) (current : Option Rat) :
    QuotaKept policies tenantId (times ++ current.toList) granted plane' := by
  cases h with
  | unused hnone hempty hgranted =>
      exact .unused (husage.trans hnone) (hpermits.trans hempty) hgranted
  | used hpolicy hsome hkept =>
      have hheld : plane'.outstanding tenantId = plane.outstanding tenantId := by
        unfold outstanding
        rw [hpermits]
      refine .used hpolicy (husage.trans hsome) ?_
      rw [hheld]
      exact hkept.later current

theorem grantOf_of_ne {answer : Answer} (h : call.tenantId ≠ tenantId) :
    grantOf tenantId (call, answer) = none := by
  cases call with
  | release => rfl
  | request tenant estimatedTokens current => exact if_neg fun hgrant => h hgrant.1

theorem grantOf_refusal : grantOf tenantId (call, refusal) = none := by
  cases call with
  | release => rfl
  | request tenant estimatedTokens current => exact if_neg fun hgrant => by cases hgrant.2

theorem grantOf_granted (permit : AdmissionPermit) :
    grantOf tenantId (.request tenantId estimatedTokens current, .permit (.ok permit)) =
      some (current, estimatedTokens) :=
  if_pos ⟨rfl, rfl⟩

/-- The usage that a request finds is kept as well as the one before. -/
theorem QuotaKept.found (h : QuotaKept policies tenantId times granted plane)
    (hpolicy : policies tenantId = some policy) :
    Kept policy (times ++ [current]) (foundUsage plane tenantId current)
        (plane.outstanding tenantId) granted ∧
      Binary64.nearest (current - (foundUsage plane tenantId current).windowStarted) < 60 := by
  refine ⟨?_, age_renewed _ current⟩
  cases h with
  | unused husage hpermits hgranted =>
      have hheld : plane.outstanding tenantId = 0 := by
        unfold outstanding
        rw [hpermits]
        rfl
      have hfound : foundUsage plane tenantId current = .new current := by
        unfold foundUsage TenantUsage.renewed
        rw [husage, Option.getD_none]
        exact if_neg (not_le.mpr (age_of_le le_rfl))
      rw [hfound, hheld, hgranted]
      exact Kept.new policy current (List.mem_append_right _ List.mem_cons_self)
  | @used policy' usage hpolicy' husage hkept =>
      have hfound : foundUsage plane tenantId current = usage.renewed current := by
        unfold foundUsage
        rw [husage, Option.getD_some]
      obtain rfl : policy' = policy := Option.some.inj (hpolicy'.symm.trans hpolicy)
      rw [hfound]
      exact hkept.renewed current

/-- **Step.**  A call keeps what is kept for every tenant. -/
theorem QuotaKept.effect {answer : Answer} {plane' : ControlPlane}
    (hwired : Wired policies plane) (h : QuotaKept policies tenantId times granted plane)
    (heffect : Effect plane call answer plane') :
    QuotaKept policies tenantId (times ++ call.time.toList)
      (granted ++ (grantOf tenantId (call, answer)).toList) plane' := by
  by_cases hown : call.tenantId = tenantId
  · subst hown
    cases heffect with
    | @ignored tenant estimatedTokens current =>
        rw [grantOf_refusal, Option.toList_none, List.append_nil]
        exact h.frame rfl rfl _
    | @refused tenant estimatedTokens current policy hpolicy htokens hrefuses =>
        rw [grantOf_refusal, Option.toList_none, List.append_nil]
        rw [hwired.policies] at hpolicy
        exact .used hpolicy (AdmissionController.store_usage _ _) (h.found hpolicy).1
    | @granted tenant estimatedTokens current policy hpolicy htokens hadmits =>
        rw [hwired.policies] at hpolicy
        obtain ⟨hkept, hage⟩ := h.found hpolicy
        refine .used hpolicy (AdmissionController.store_usage _ _) ?_
        have hheld : (plane.withPermits (plane.admission.store tenant
            ((foundUsage plane tenant current).granted estimatedTokens)) tenant
            (plane.permits tenant ++ [.new tenant])).outstanding tenant =
              plane.outstanding tenant + 1 := by
          unfold outstanding
          rw [withPermits_permits, outstanding_append]
          rfl
        show Kept policy _ _ _ (granted ++ (grantOf tenant _).toList)
        rw [grantOf_granted, Option.toList_some]
        show Kept policy _ _ (ControlPlane.outstanding _ tenant) _
        rw [hheld]
        exact hkept.grant hage htokens hadmits
    | kept =>
        rw [show grantOf _ _ = none from rfl, Option.toList_none, List.append_nil]
        exact h.frame rfl rfl _
    | @released tenant index permit hpermit hheld =>
        rw [show grantOf _ _ = none from rfl, Option.toList_none, List.append_nil]
        have hname := hwired.named tenant permit (List.mem_of_getElem? hpermit)
        have hcount := outstanding_set hpermit hheld
        cases h with
        | unused husage hpermits hgranted =>
            rw [show (Call.release tenant index).tenantId = tenant from rfl] at hpermits
            rw [hpermits] at hpermit
            cases hpermit
        | @used policy usage hpolicy husage hkept =>
            have hheld' : (plane.withPermits (plane.admission.release permit.tenantId) tenant
                ((plane.permits tenant).set index { permit with released := true })).outstanding
                  tenant = plane.outstanding tenant - 1 := by
              unfold outstanding
              rw [withPermits_permits]
              omega
            have hpositive : 0 < usage.concurrent := by
              rw [hkept.concurrent]
              show (0 : Int) < plane.outstanding tenant
              unfold outstanding
              omega
            have husage' : (plane.admission.release permit.tenantId).usage tenant =
                some { usage with concurrent := usage.concurrent - 1 } := by
              rw [hname, AdmissionController.release_usage]
              rw [show plane.admission.usage tenant = some usage from husage, Option.map_some,
                if_pos hpositive]
            refine .used hpolicy husage' ?_
            show Kept policy _ _ (ControlPlane.outstanding _ tenant) _
            rw [hheld']
            exact (hkept.later none).release
  · rw [grantOf_of_ne hown, Option.toList_none, List.append_nil]
    obtain ⟨husage, hpermits⟩ := hwired.frame heffect hown
    exact h.frame husage hpermits _

/-- What a run adds to the grants with its last call. -/
theorem grants_concat (calls : List Call) (call : Call) (tenantId : String) :
    grants policies (calls ++ [call]) tenantId = grants policies calls tenantId ++
      (grantOf tenantId (call,
        machine.answer (machine.after (ControlPlane.new policies) calls) call)).toList := by
  unfold grants
  rw [Machine.answers_append, List.filterMap_append]
  rw [Machine.answers_cons, List.filterMap_cons]
  split
  · next hgrant =>
      rw [hgrant]
      rfl
  · next hgrant =>
      rw [hgrant]
      rfl

/-- **Run.**  Calls keep what is kept for every tenant. -/
theorem quotaKept_after (calls : List Call) (tenantId : String) :
    QuotaKept policies tenantId (calls.filterMap Call.time) (grants policies calls tenantId)
      (machine.after (.new policies) calls) := by
  induction calls using List.reverseRecOn with
  | nil => exact .unused rfl rfl rfl
  | append_singleton calls call ih =>
      have htimes : [call].filterMap Call.time = call.time.toList := by
        cases htime : call.time <;> simp [htime]
      rw [List.filterMap_append, htimes, grants_concat, Machine.after_append]
      exact ih.effect (wired_after policies calls) (step_effect _ call)

/-- Every permit was granted by one answer. -/
theorem permits_length (calls : List Call) (tenantId : String) :
    ((machine.after (ControlPlane.new policies) calls).permits tenantId).length =
      (grants policies calls tenantId).length := by
  induction calls using List.reverseRecOn with
  | nil => rfl
  | append_singleton calls call ih =>
      have hwired := wired_after policies calls
      have heffect := step_effect (machine.after (ControlPlane.new policies) calls) call
      rw [grants_concat, List.length_append, ← ih, Machine.after_append]
      show ((machine.next _ call).permits tenantId).length = _
      by_cases hown : call.tenantId = tenantId
      · subst hown
        generalize machine.next _ call = plane' at heffect ⊢
        generalize machine.answer _ call = answer at heffect ⊢
        cases heffect with
        | ignored => rw [grantOf_refusal]; rfl
        | refused => rw [grantOf_refusal]; rfl
        | kept => rfl
        | released =>
            show ((ControlPlane.withPermits _ _ _ _).permits _).length = _
            simp only [Call.tenantId, withPermits_permits, List.length_set]
            rfl
        | granted =>
            show ((ControlPlane.withPermits _ _ _ _).permits _).length = _
            simp only [Call.tenantId, withPermits_permits, List.length_append, grantOf_granted]
            rfl
      · rw [(hwired.frame heffect hown).2, grantOf_of_ne hown]
        rfl

/-! ### One tenant's calls alone -/

/-- Two control planes keep the same for a tenant. -/
structure SameFor (policies : String → Option QuotaPolicy) (tenantId : String)
    (plane plane' : ControlPlane) : Prop where
  wired : Wired policies plane
  wired' : Wired policies plane'
  usage : plane.admission.usage tenantId = plane'.admission.usage tenantId
  permits : plane.permits tenantId = plane'.permits tenantId

/-- A controller that keeps the same for a tenant decides alike, and keeps the same. -/
theorem admitRequest_congr {controller controller' : AdmissionController}
    (hpolicies : controller.policies tenantId = controller'.policies tenantId)
    (husage : controller.usage tenantId = controller'.usage tenantId) (estimatedTokens : Int)
    (current : Rat) :
    (controller.admitRequest tenantId estimatedTokens current).1 =
        (controller'.admitRequest tenantId estimatedTokens current).1 ∧
      (controller.admitRequest tenantId estimatedTokens current).2.usage tenantId =
        (controller'.admitRequest tenantId estimatedTokens current).2.usage tenantId := by
  simp only [AdmissionController.admitRequest, hpolicies, husage]
  split
  · exact ⟨rfl, husage⟩
  · split_ifs
    · exact ⟨rfl, husage⟩
    · exact ⟨rfl, by rw [AdmissionController.store_usage, AdmissionController.store_usage]⟩
    · exact ⟨rfl, by rw [AdmissionController.store_usage, AdmissionController.store_usage]⟩

/-- A tenant's call is answered alike where the same is kept for the tenant, and
leaves the same. -/
theorem SameFor.own {plane' : ControlPlane} (h : SameFor policies tenantId plane plane')
    (hown : call.tenantId = tenantId) :
    machine.answer plane call = machine.answer plane' call ∧
      SameFor policies tenantId (machine.next plane call) (machine.next plane' call) := by
  have hwired := h.wired.effect (step_effect plane call)
  have hwired' := h.wired'.effect (step_effect plane' call)
  have hpolicies : plane.admission.policies tenantId = plane'.admission.policies tenantId := by
    rw [h.wired.policies, h.wired'.policies]
  suffices hboth : (plane.step call).1 = (plane'.step call).1 ∧
      (plane.step call).2.admission.usage tenantId =
        (plane'.step call).2.admission.usage tenantId ∧
      (plane.step call).2.permits tenantId = (plane'.step call).2.permits tenantId from
    ⟨hboth.1, hwired, hwired', hboth.2.1, hboth.2.2⟩
  cases call with
  | request tenant estimatedTokens current =>
      obtain rfl : tenant = tenantId := hown
      obtain ⟨hdecision, husage⟩ := admitRequest_congr hpolicies h.usage estimatedTokens current
      revert hdecision husage
      simp only [step, admitPermit]
      generalize plane.admission.admitRequest tenant estimatedTokens current = left
      generalize plane'.admission.admitRequest tenant estimatedTokens current = right
      obtain ⟨decision, admission⟩ := left
      obtain ⟨decision', admission'⟩ := right
      rintro (rfl : decision = decision') husage
      cases decision with
      | false => exact ⟨rfl, husage, h.permits⟩
      | true =>
          refine ⟨rfl, husage, ?_⟩
          simp only [withPermits_permits, h.permits]
  | release tenant index =>
      obtain rfl : tenant = tenantId := hown
      simp only [step, ← h.permits]
      cases hpermit : (plane.permits tenant)[index]? with
      | none => exact ⟨rfl, h.usage, h.permits⟩
      | some permit =>
          have hname := h.wired.named tenant permit (List.mem_of_getElem? hpermit)
          refine ⟨rfl, ?_, ?_⟩
          · -- the permit is the same, so it is released in both or in none
            show (permit.release plane.admission).2.usage tenant =
              (permit.release plane'.admission).2.usage tenant
            unfold AdmissionPermit.release
            rw [hname]
            split_ifs
            · simp only [AdmissionController.release_usage, h.usage]
            · exact h.usage
          · show (ControlPlane.withPermits _ _ _ _).permits tenant =
              (ControlPlane.withPermits _ _ _ _).permits tenant
            rw [withPermits_permits, withPermits_permits]
            unfold AdmissionPermit.release
            split_ifs <;> rfl

/-- A call for another tenant leaves the same. -/
theorem SameFor.other {plane' : ControlPlane} (h : SameFor policies tenantId plane plane')
    (hother : call.tenantId ≠ tenantId) :
    SameFor policies tenantId (machine.next plane call) plane' := by
  have heffect := step_effect plane call
  obtain ⟨husage, hpermits⟩ := h.wired.frame heffect hother
  exact ⟨h.wired.effect heffect, h.wired', husage.trans h.usage, hpermits.trans h.permits⟩

/-- Whether a call is one of a tenant. -/
def Call.isFor (tenantId : String) (call : Call) : Bool := decide (call.tenantId = tenantId)

/-- A tenant's calls alone simulate the calls of all tenants. -/
theorem simulates_own (policies : String → Option QuotaPolicy) (tenantId : String) :
    machine.Simulates machine (Option.guard (Call.isFor tenantId)) (fun _ _ => True)
      (SameFor policies tenantId) id id := by
  refine ⟨fun plane plane' call h hunseen => ?_, fun plane plane' call seen h hseen _ => ?_⟩
  · apply h.other
    intro hown
    simp [Option.guard, Call.isFor, hown] at hunseen
  · obtain ⟨rfl, hown⟩ := Option.guard_eq_some_iff.mp hseen
    exact h.own (of_decide_eq_true hown)

/-! ### Refused calls -/

/-- A refused request leaves everything as it was, or starts an empty window. -/
theorem refused_leaves (plane : ControlPlane) (tenantId : String) (estimatedTokens : Int)
    (current : Rat)
    (h : (machine.answer plane (.request tenantId estimatedTokens current)).isGranted = false) :
    machine.next plane (.request tenantId estimatedTokens current) = plane ∨
      machine.next plane (.request tenantId estimatedTokens current) =
        { plane with
          admission := plane.admission.store tenantId
            ⟨current, 0, 0, plane.concurrent tenantId⟩ } := by
  have heffect := step_effect plane (.request tenantId estimatedTokens current)
  generalize machine.next plane _ = plane' at heffect ⊢
  generalize machine.answer plane _ = answer at heffect h
  cases heffect with
  | ignored => exact Or.inl rfl
  | granted => cases h
  | refused =>
      unfold foundUsage ControlPlane.concurrent
      cases husage : plane.admission.usage tenantId with
      | none =>
          -- a first window, which is not over at its start
          right
          have hsame : (TenantUsage.new current).renewed current = .new current := by
            unfold TenantUsage.renewed
            exact if_neg (not_le.mpr (age_of_le le_rfl))
          rw [Option.getD_none, hsame]
          rfl
      | some usage =>
          rw [Option.getD_some, Option.map_some, Option.getD_some]
          unfold TenantUsage.renewed
          split_ifs with hover
          · exact Or.inr rfl
          · -- what was kept is kept again
            left
            have hsame : plane.admission.store tenantId usage = plane.admission := by
              unfold AdmissionController.store
              rw [← husage, Function.update_eq_self]
            rw [hsame]

/-! ### Quotas -/

/-- The grants of a tenant in the sixty seconds from a time on. -/
def grantsFrom (policies : String → Option QuotaPolicy) (calls : List Call) (tenantId : String)
    (start : Rat) : List (Rat × Int) :=
  (grants policies calls tenantId).filter fun entry =>
    decide (start ≤ entry.1 ∧ entry.1 < start + 60)

theorem spent_asRequests (granted : List (Rat × Int)) (start stop : Rat) :
    spent (asRequests granted) start stop =
      ((granted.filter fun entry => decide (start ≤ entry.1 ∧ entry.1 < stop)).length : Nat) := by
  unfold asRequests
  induction granted with
  | nil => rfl
  | cons entry rest ih =>
      rw [List.map_cons, spent_cons, ih]
      by_cases hin : start ≤ entry.1 ∧ entry.1 < stop
      · rw [if_pos hin, List.filter_cons_of_pos (by simpa using hin), List.length_cons]
        omega
      · rw [if_neg hin, List.filter_cons_of_neg (by simpa using hin)]
        omega

/-- What a run of calls keeps of the permits of one tenant. -/
structure Respected (policies : String → Option QuotaPolicy) (calls : List Call)
    (tenantId : String) (plane : ControlPlane) : Prop where
  permits : (plane.permits tenantId).length = (grants policies calls tenantId).length
  concurrent : plane.concurrent tenantId = plane.outstanding tenantId
  limit : ∀ policy, policies tenantId = some policy →
    plane.concurrent tenantId ≤ policy.concurrentRequests

/-- No sixty seconds hold more grants to a tenant than two windows may. -/
structure Sliding (policies : String → Option QuotaPolicy) (calls : List Call)
    (tenantId : String) : Prop where
  requests : ∀ policy start, policies tenantId = some policy →
    ((grantsFrom policies calls tenantId start).length : Int) ≤ 2 * policy.requestsPerMinute
  tokens : ∀ policy start, policies tenantId = some policy →
    ((grantsFrom policies calls tenantId start).map Prod.snd).sum ≤ 2 * policy.tokensPerMinute

theorem respected_after (calls : List Call) (tenantId : String) :
    Respected policies calls tenantId (machine.after (.new policies) calls) := by
  have hlength : _ = (grants policies calls tenantId).length := permits_length calls tenantId
  have hquota : QuotaKept policies tenantId _ _ _ := quotaKept_after calls tenantId
  cases hquota with
  | unused husage hpermits hgranted =>
      have hzero : (machine.after (ControlPlane.new policies) calls).concurrent tenantId = 0 := by
        unfold ControlPlane.concurrent
        rw [husage]
        rfl
      refine ⟨hlength, ?_, fun policy _ => ?_⟩
      · rw [hzero]
        unfold outstanding
        rw [hpermits]
        rfl
      · have := policy.positive
        omega
  | @used policy usage hpolicy husage hkept =>
      have hcount : (machine.after (ControlPlane.new policies) calls).concurrent tenantId =
          usage.concurrent := by
        unfold ControlPlane.concurrent
        rw [husage]
        rfl
      refine ⟨hlength, hcount.trans hkept.concurrent, fun other hother => ?_⟩
      obtain rfl : other = policy := Option.some.inj (hother.symm.trans hpolicy)
      rw [hcount]
      exact hkept.limit

theorem sliding_after {calls : List Call} (htimely : Timely (calls.filterMap Call.time))
    (tenantId : String) : Sliding policies calls tenantId := by
  have hquota : QuotaKept policies tenantId _ _ _ := quotaKept_after calls tenantId
  cases hquota with
  | unused husage hpermits hgranted =>
      have hnone : ∀ start, grantsFrom policies calls tenantId start = [] := by
        intro start
        unfold grantsFrom
        rw [hgranted]
        rfl
      refine ⟨fun policy start _ => ?_, fun policy start _ => ?_⟩
      · have := policy.positive
        rw [hnone start, List.length_nil]
        omega
      · have := policy.positive
        rw [hnone start, List.map_nil, List.sum_nil]
        omega
  | @used policy usage hpolicy husage hkept =>
      have hwindows := hkept.windows htimely
      refine ⟨fun other start hother => ?_, fun other start hother => ?_⟩
      · obtain rfl : other = policy := Option.some.inj (hother.symm.trans hpolicy)
        have hsliding := hwindows.requests.sliding start
        rw [spent_asRequests] at hsliding
        exact hsliding
      · obtain rfl : other = policy := Option.some.inj (hother.symm.trans hpolicy)
        exact hwindows.tokens.sliding start

end Run

/-- The quotas of a set of policies, in every run of requests and releases. -/
structure QuotasEnforced (policies : String → Option QuotaPolicy) : Prop where
  /-- Permits and their limit, whatever the times. -/
  respected : ∀ (calls : List Call) (tenantId : String),
    Respected policies calls tenantId (ControlPlane.machine.after (.new policies) calls)
  /-- The bounds of sixty seconds, in a run whose times do not fall and are not negative. -/
  sliding : ∀ calls : List Call, Timely (calls.filterMap Call.time) → ∀ tenantId,
    Sliding policies calls tenantId
  /-- A refused request changes nothing, or starts an empty window. -/
  refused : ∀ (calls : List Call) (tenantId : String) (estimatedTokens : Int) (current : Rat),
    let plane := ControlPlane.machine.after (.new policies) calls
    let call := Call.request tenantId estimatedTokens current
    (ControlPlane.machine.answer plane call).isGranted = false →
      ControlPlane.machine.next plane call = plane ∨
        ControlPlane.machine.next plane call =
          { plane with
            admission := plane.admission.store tenantId
              ⟨current, 0, 0, plane.concurrent tenantId⟩ }
  /-- The calls for one tenant are answered as if there were no others. -/
  answers : ∀ (calls : List Call) (tenantId : String),
    (ControlPlane.machine.answers (.new policies) calls).filter
        (fun pair => pair.1.isFor tenantId) =
      ControlPlane.machine.answers (.new policies) (calls.filter (Call.isFor tenantId))
  /-- What is kept for a tenant depends on the calls for it. -/
  independent : ∀ (calls : List Call) (tenantId : String),
    let plane := ControlPlane.machine.after (.new policies) calls
    let alone := ControlPlane.machine.after (.new policies) (calls.filter (Call.isFor tenantId))
    plane.admission.usage tenantId = alone.admission.usage tenantId ∧
      plane.permits tenantId = alone.permits tenantId

/-- **Quotas.** -/
theorem quotas_enforced (policies : String → Option QuotaPolicy) : QuotasEnforced policies := by
  have halone : ∀ (calls : List Call) (tenantId : String),
      (ControlPlane.machine.answers (.new policies) calls).filter
          (fun pair => pair.1.isFor tenantId) =
        ControlPlane.machine.answers (.new policies) (calls.filter (Call.isFor tenantId)) ∧
      SameFor policies tenantId (ControlPlane.machine.after (.new policies) calls)
        (ControlPlane.machine.after (.new policies) (calls.filter (Call.isFor tenantId))) := by
    intro calls tenantId
    have hstart : SameFor policies tenantId (.new policies) (.new policies) :=
      ⟨Wired.new policies, Wired.new policies, rfl, rfl⟩
    have hrun := (simulates_own policies tenantId).run hstart calls fun _ _ _ _ => trivial
    have hfilter : calls.filterMap (Option.guard (Call.isFor tenantId)) =
        calls.filter (Call.isFor tenantId) := congrFun List.filterMap_eq_filter calls
    rw [hfilter, Machine.transcript_guard] at hrun
    simpa using hrun
  refine ⟨respected_after, fun calls htimely => sliding_after htimely,
    fun calls tenantId tokens current hrefused => refused_leaves _ _ _ _ hrefused,
    fun calls tenantId => (halone calls tenantId).1, fun calls tenantId => ?_⟩
  have hsame := (halone calls tenantId).2
  exact ⟨hsame.usage, hsame.permits⟩

/-- One request and one token a minute. -/
def oneAMinute (_ : String) : Option QuotaPolicy := some ⟨1, 3, 1, by decide⟩

/-- The first request is refused for its tokens, but starts a window; the next two windows
start within sixty seconds, by half a unit of the last place each. -/
def earlyCalls : List Call :=
  [.request "t" 2 (-60), .request "t" 0 (-(2 ^ 52 + 1) / 2 ^ 100), .request "t" 0 (-1 / 2 ^ 48),
    .request "t" 0 (60 - 1 / 2 ^ 47)]

/-- Before the start of the clock, three windows may meet sixty seconds. -/
theorem early_windows : ¬ ∀ (policies : String → Option QuotaPolicy) (calls : List Call),
    (calls.filterMap Call.time).Pairwise (· ≤ ·) →
    (∀ time ∈ calls.filterMap Call.time, Binary64.Represented time) →
    ∀ tenantId, Sliding policies calls tenantId := by
  intro h
  have hrising : (earlyCalls.filterMap Call.time).Pairwise (· ≤ ·) := by decide +kernel
  have hdoubles : ∀ time ∈ earlyCalls.filterMap Call.time, Binary64.Represented time := by
    have hrounded : ∀ time ∈ earlyCalls.filterMap Call.time, Binary64.nearest time = time := by
      decide +kernel
    intro time htime
    rw [← hrounded time htime]
    exact Binary64.represented_nearest time
  have hthree : (grantsFrom oneAMinute earlyCalls "t" (-(2 ^ 52 + 1) / 2 ^ 100)).length = 3 := by
    decide +kernel
  have htwo := (h oneAMinute earlyCalls hrising hdoubles "t").requests ⟨1, 3, 1, by decide⟩
    (-(2 ^ 52 + 1) / 2 ^ 100) rfl
  rw [hthree] at htwo
  exact absurd htwo (by decide)

end Control
end Ryuk
