import Ryuk.Control.RedisAdmission

/-!
# What a tenant's entry retains

A script sees of an entry its counters in the current minute and its concurrent
count.  An entry with a deadline holds no permit, and counts nothing in the minute
of its deadline or later, so deleting it then changes nothing a script can see.
-/

namespace Ryuk
namespace Control

open Foundation Foundation.Redis Foundation.Redis.Script

/-! ### What a script sees -/

namespace UsageEntry

/-- `concurrent`, none at a missing key. -/
def concurrent (entry : UsageEntry) : Int := (entry.field .concurrent).getD 0

/-- The requests and tokens that count in a minute. -/
def counters (entry : UsageEntry) (minute : Int) : Int × Int :=
  if (entry.field .minute).getD (-1) = minute then
    ((entry.field .requests).getD 0, (entry.field .tokens).getD 0)
  else (0, 0)

/-- The entry after `startMinute`. -/
def started (entry : UsageEntry) (minute : Int) : UsageEntry :=
  if (entry.field .minute).getD (-1) = minute then entry
  else ((entry.set .minute minute).set .requests 0).set .tokens 0

/-- The entry after a granted request. -/
def granted (entry : UsageEntry) (estimatedTokens : Int) : UsageEntry :=
  (((entry.set .requests ((entry.field .requests).getD 0 + 1)).set .tokens
    ((entry.field .tokens).getD 0 + estimatedTokens)).set .concurrent
      (concurrent entry + 1)).setDeadline none

/-- The entry after the release of a permit. -/
def released (entry : UsageEntry) (now : Nat) : UsageEntry :=
  if concurrent entry - 1 = 0 then
    (entry.set .concurrent (concurrent entry - 1)).setDeadline (some (now + 180 * 1000000))
  else entry.set .concurrent (concurrent entry - 1)

variable (entry : UsageEntry) {minute other : Int}

@[simp] theorem concurrent_none : concurrent none = 0 := rfl

theorem counters_none : counters none minute = (0, 0) := by
  unfold counters
  split_ifs <;> rfl

theorem started_deadline : (started entry minute).deadline = entry.deadline := by
  unfold started
  split_ifs <;> rfl

theorem started_concurrent : concurrent (started entry minute) = concurrent entry := by
  unfold started concurrent
  split_ifs
  · rfl
  · rw [Entry.field_set_of_ne _ (by decide), Entry.field_set_of_ne _ (by decide),
      Entry.field_set_of_ne _ (by decide)]

/-- The stored minute of a started entry is the current one. -/
theorem started_minute : ((started entry minute).field .minute).getD (-1) = minute := by
  unfold started
  split_ifs with hstored
  · exact hstored
  · rw [Entry.field_set_of_ne _ (by decide), Entry.field_set_of_ne _ (by decide), Entry.field_set]
    rfl

/-- The counters of a started entry are the ones seen in the minute. -/
theorem started_fields :
    (((started entry minute).field .requests).getD 0, ((started entry minute).field .tokens).getD 0) =
      counters entry minute := by
  unfold started counters
  split_ifs
  · rfl
  · rw [Entry.field_set_of_ne _ (by decide), Entry.field_set, Entry.field_set]
    rfl

theorem counters_started : counters (started entry minute) minute = counters entry minute := by
  exact (if_pos (started_minute entry)).trans (started_fields entry)

/-- Nothing counts in a minute that is not stored. -/
theorem counters_of_ne (h : (entry.field .minute).getD (-1) ≠ other) :
    counters entry other = (0, 0) :=
  if_neg h

theorem granted_concurrent (tokens : Int) :
    concurrent (granted entry tokens) = concurrent entry + 1 := by
  show ((granted entry tokens).field .concurrent).getD 0 = _
  unfold granted
  rw [Entry.field_setDeadline, Entry.field_set]
  rfl

theorem granted_minute (tokens : Int) :
    ((granted entry tokens).field .minute).getD (-1) = (entry.field .minute).getD (-1) := by
  unfold granted
  rw [Entry.field_setDeadline, Entry.field_set_of_ne _ (by decide),
    Entry.field_set_of_ne _ (by decide), Entry.field_set_of_ne _ (by decide)]

theorem counters_granted (tokens : Int) (h : (entry.field .minute).getD (-1) = minute) :
    counters (granted entry tokens) minute =
      ((counters entry minute).1 + 1, (counters entry minute).2 + tokens) := by
  have hgranted : ((granted entry tokens).field .minute).getD (-1) = minute :=
    (granted_minute entry tokens).trans h
  unfold counters
  rw [if_pos hgranted, if_pos h]
  unfold granted
  simp only [Entry.field_setDeadline]
  rw [Entry.field_set_of_ne _ (by decide), Entry.field_set_of_ne _ (by decide), Entry.field_set,
    Entry.field_set_of_ne _ (by decide), Entry.field_set]
  rfl

theorem released_concurrent (now : Nat) :
    concurrent (released entry now) = concurrent entry - 1 := by
  unfold released
  split_ifs
  · show (Entry.field (Entry.setDeadline _ _) UsageField.concurrent).getD 0 = _
    rw [Entry.field_setDeadline, Entry.field_set]
    rfl
  · show (Entry.field (Entry.set _ _ _) UsageField.concurrent).getD 0 = _
    rw [Entry.field_set]
    rfl

theorem released_field (now : Nat) {name : UsageField} (h : name ≠ .concurrent) :
    (released entry now).field name = entry.field name := by
  unfold released
  split_ifs
  · show (Entry.field (Entry.setDeadline _ _) name) = _
    rw [Entry.field_setDeadline, Entry.field_set_of_ne _ h]
  · exact Entry.field_set_of_ne _ h

theorem counters_released (now : Nat) :
    counters (released entry now) minute = counters entry minute := by
  unfold counters
  rw [released_field entry now (by decide), released_field entry now (by decide),
    released_field entry now (by decide)]

/-- Only the last release sets a deadline. -/
theorem released_deadline {now deadline : Nat} (h : (released entry now).deadline = some deadline) :
    concurrent entry - 1 = 0 ∧ deadline = now + 180 * 1000000 ∨ entry.deadline = some deadline := by
  unfold released at h
  split_ifs at h with hlast
  · exact Or.inl ⟨hlast, (Option.some.inj h).symm⟩
  · exact Or.inr h

end UsageEntry

/-! ### The scripts -/

open UsageEntry

section Scripts

variable {entry : UsageEntry} {now : Nat}

theorem run_startMinute_bind {α : Type} (minute : Int) (rest : Unit → Script UsageField α) :
    (startMinute minute >>= rest).run entry = (rest ()).run (started entry minute) := by
  rw [run_bind]
  unfold startMinute started
  rw [run_hget_bind]
  by_cases hstored : (entry.field .minute).getD (-1) = minute
  · simp only [hstored, ne_eq, not_true_eq_false, if_false, if_true, run_pure]
  · simp only [hstored, ne_eq, not_false_eq_true, if_false, if_true, run_hset_bind, run_pure]

/-- What `_ADMIT_SCRIPT` answers when it sees these counters. -/
def requestAnswer (counters : Int × Int) (concurrent requestsPerMinute concurrentRequests
    tokensPerMinute estimatedTokens : Int) : Except String Int :=
  if tonumber requestsPerMinute ≤ tonumber counters.1 ∨
      tonumber tokensPerMinute < tonumber (tonumber counters.2 + tonumber estimatedTokens) ∨
      tonumber concurrentRequests ≤ tonumber concurrent then .ok 0
  else if ¬ InRange 1 then .error "ERR value is not an integer or out of range"
  else if ¬ InRange (counters.1 + 1) then .error "ERR increment or decrement would overflow"
  else if ¬ InRange estimatedTokens then .error "ERR value is not an integer or out of range"
  else if ¬ InRange (counters.2 + estimatedTokens) then
    .error "ERR increment or decrement would overflow"
  else if ¬ InRange 1 then .error "ERR value is not an integer or out of range"
  else if ¬ InRange (concurrent + 1) then .error "ERR increment or decrement would overflow"
  else .ok 1

/-- The answer of a request is determined by what it sees; a refused one leaves the
entry with the current minute, a granted one counts. -/
theorem requestScript_run (requestsPerMinute concurrentRequests tokensPerMinute estimatedTokens :
    Int) :
    let script := requestScript now requestsPerMinute concurrentRequests tokensPerMinute
      estimatedTokens
    let answer := requestAnswer (counters entry (minuteOf now)) (concurrent entry)
      requestsPerMinute concurrentRequests tokensPerMinute estimatedTokens
    (script.run entry).1 = answer ∧
      (answer = .ok 0 → (script.run entry).2 = started entry (minuteOf now)) ∧
      (answer = .ok 1 →
        (script.run entry).2 = granted (started entry (minuteOf now)) estimatedTokens) := by
  have hconcurrent : ((started entry (minuteOf now)).field .concurrent).getD 0 =
      concurrent entry := started_concurrent entry
  have hfields := @started_fields entry (minuteOf now)
  intro script answer
  simp only [script, answer, requestScript, run_startMinute_bind, run_hget_bind, hconcurrent]
  rw [← hfields]
  unfold requestAnswer
  generalize started entry (minuteOf now) = found at hconcurrent
  by_cases hrefuses : tonumber requestsPerMinute ≤ tonumber ((found.field .requests).getD 0) ∨
      tonumber tokensPerMinute <
        tonumber (tonumber ((found.field .tokens).getD 0) + tonumber estimatedTokens) ∨
      tonumber concurrentRequests ≤ tonumber (concurrent entry)
  · rw [if_pos hrefuses, if_pos hrefuses]
    refine ⟨rfl, fun _ => rfl, fun hanswer => ?_⟩
    cases hanswer
  · rw [if_neg hrefuses, if_neg hrefuses]
    have htokens : ∀ value, (found.set .requests value).field .tokens = found.field .tokens :=
      fun value => Entry.field_set_of_ne _ (by decide)
    have hconcurrent' : ∀ value value', ((found.set .requests value).set .tokens value').field
        .concurrent = found.field .concurrent := fun value value' => by
      rw [Entry.field_set_of_ne _ (by decide), Entry.field_set_of_ne _ (by decide)]
    simp only [run_hincrby_bind, run_persist_bind, run_pure, htokens, hconcurrent', hconcurrent]
    -- each increment stays in range, or is the error of both sides
    split_ifs
    all_goals refine ⟨rfl, fun hanswer => ?_, fun hanswer => ?_⟩
    all_goals try (simp at hanswer; done)
    show _ = granted found estimatedTokens
    unfold granted
    rw [show concurrent found = concurrent entry from hconcurrent]

theorem requestAnswer_cases (counters : Int × Int) (concurrent requestsPerMinute concurrentRequests
    tokensPerMinute estimatedTokens : Int) :
    let answer := requestAnswer counters concurrent requestsPerMinute concurrentRequests
      tokensPerMinute estimatedTokens
    answer = .ok 0 ∨ answer = .ok 1 ∨ ∃ error, answer = .error error := by
  intro answer
  unfold answer requestAnswer
  split_ifs <;> simp

/-- Under limits that are far from the end of the range, no request is stopped. -/
theorem requestAnswer_completed {counters : Int × Int} {concurrent requestsPerMinute
    concurrentRequests tokensPerMinute estimatedTokens : Int} (hrequests : 0 ≤ counters.1)
    (htokens : 0 ≤ counters.2) (hconcurrent : 0 ≤ concurrent) (hestimate : 0 ≤ estimatedTokens)
    (hperMinute : requestsPerMinute ≤ 2 ^ 61) (hheld : concurrentRequests ≤ 2 ^ 61)
    (htokensPerMinute : tokensPerMinute ≤ 2 ^ 61) (error : String) :
    requestAnswer counters concurrent requestsPerMinute concurrentRequests tokensPerMinute
      estimatedTokens ≠ .error error := by
  have hnonneg : ∀ value, 0 ≤ value → 0 ≤ tonumber value := fun value hvalue => by
    rcases hvalue.eq_or_lt with rfl | hpos
    · rw [tonumber_zero]
    · exact (tonumber_pos hpos).le
  -- a counter below its limit is below the bound of the limits
  have hbelow : ∀ limit value, limit ≤ 2 ^ 61 → ¬ tonumber limit ≤ tonumber value →
      value < 2 ^ 61 := by
    intro limit value hlimit hless
    by_contra hlarge
    exact hless ((tonumber_le_pow hlimit).trans (pow_le_tonumber (not_lt.mp hlarge) (by norm_num)))
  unfold requestAnswer
  by_cases hrefuses : tonumber requestsPerMinute ≤ tonumber counters.1 ∨
      tonumber tokensPerMinute < tonumber (tonumber counters.2 + tonumber estimatedTokens) ∨
      tonumber concurrentRequests ≤ tonumber concurrent
  · rw [if_pos hrefuses]
    nofun
  · rw [if_neg hrefuses]
    rw [not_or, not_or] at hrefuses
    obtain ⟨hfirst, hsecond, hthird⟩ := hrefuses
    have hsum : counters.2 + estimatedTokens < 2 ^ 63 := by
      by_contra hlarge
      have hpart : 2 ^ 62 ≤ tonumber counters.2 + tonumber estimatedTokens := by
        have hleft := hnonneg _ htokens
        have hright := hnonneg _ hestimate
        rcases le_or_gt (2 ^ 62) counters.2 with hpart | hpart
        · have := pow_le_tonumber hpart (by norm_num)
          omega
        · have := pow_le_tonumber (show 2 ^ 62 ≤ estimatedTokens by omega) (by norm_num)
          omega
      have hrounded := pow_le_tonumber hpart (by norm_num)
      have hlimit := tonumber_le_pow htokensPerMinute
      omega
    have hless := hbelow _ _ hperMinute hfirst
    have hless' := hbelow _ _ hheld hthird
    have hone : InRange 1 := by decide
    have hranges : InRange (counters.1 + 1) ∧ InRange estimatedTokens ∧
        InRange (counters.2 + estimatedTokens) ∧ InRange (concurrent + 1) := by
      unfold InRange
      omega
    simp only [hone, hranges.1, hranges.2.1, hranges.2.2.1, hranges.2.2.2, not_true_eq_false,
      if_false]
    nofun

/-- A request is granted below the limit of permits only. -/
theorem requestAnswer_below {counters : Int × Int} {concurrent requestsPerMinute
    concurrentRequests tokensPerMinute estimatedTokens : Int}
    (h : requestAnswer counters concurrent requestsPerMinute concurrentRequests tokensPerMinute
      estimatedTokens = .ok 1) (hheld : concurrentRequests ≤ 2 ^ 61) : concurrent < 2 ^ 61 := by
  by_contra hlarge
  have hlimit : tonumber concurrentRequests ≤ tonumber concurrent :=
    (tonumber_le_pow hheld).trans (pow_le_tonumber (not_lt.mp hlarge) (by norm_num))
  unfold requestAnswer at h
  rw [if_pos (Or.inr (Or.inr hlimit))] at h
  simp at h

/-- The release of a permit that is held. -/
theorem releaseScript_run (hheld : 0 < concurrent entry) :
    (releaseScript now).run entry =
      if InRange (concurrent entry - 1) then (.ok 1, released entry now)
      else (.error "ERR increment or decrement would overflow", entry) := by
  unfold releaseScript
  rw [run_hget_bind]
  simp only [show (entry.field .concurrent).getD 0 = concurrent entry from rfl,
    if_pos (tonumber_pos hheld)]
  rw [run_hincrby_bind, if_neg (not_not.mpr (by decide : InRange (-1)))]
  rw [show (entry.field .concurrent).getD 0 + -1 = concurrent entry - 1 from rfl]
  by_cases hrange : InRange (concurrent entry - 1)
  · rw [if_neg (not_not.mpr hrange), if_pos hrange]
    unfold released
    split_ifs
    · rw [run_expire_bind, run_pure]
    · rw [run_pure]
  · rw [if_pos hrange, if_neg hrange]

end Scripts

/-! ### One key, with and without expiry -/

/-- An entry that may expire, and the one that is kept instead: a script sees the same
in both now and in later minutes, and one with a deadline holds no permit and counts
nothing in the minute of its deadline or later. -/
structure Retained (now : Nat) (held : Int) (entry kept : UsageEntry) : Prop where
  concurrent : UsageEntry.concurrent entry = held
  concurrent' : UsageEntry.concurrent kept = held
  nonneg : 0 ≤ held
  counters : ∀ minute, minuteOf now ≤ minute →
    UsageEntry.counters entry minute = UsageEntry.counters kept minute
  future : ∀ minute, minuteOf now < minute → UsageEntry.counters entry minute = (0, 0)
  idle : ∀ deadline, entry.deadline = some deadline →
    held = 0 ∧ ∀ minute, minuteOf deadline ≤ minute → UsageEntry.counters entry minute = (0, 0)

section Keys

variable {now : Nat} {held : Int} {entry kept : UsageEntry}

theorem minuteOf_mono {earlier later : Nat} (h : earlier ≤ later) :
    minuteOf earlier ≤ minuteOf later := by
  unfold minuteOf
  exact Int.ofNat_le.mpr (Nat.div_le_div_right (Nat.div_le_div_right h))

/-- The retention of an idle key ends in a later minute. -/
theorem minuteOf_lt_retention (now : Nat) : minuteOf now < minuteOf (now + 180 * 1000000) := by
  unfold minuteOf
  omega

theorem Retained.missing : Retained now 0 none none := by
  refine ⟨rfl, rfl, Int.le_refl 0, fun _ _ => rfl, fun _ _ => counters_none, ?_⟩
  intro deadline hdeadline
  cases hdeadline

theorem Retained.later {later : Nat} (h : Retained now held entry kept) (hlater : now ≤ later) :
    Retained later held entry kept :=
  ⟨h.concurrent, h.concurrent', h.nonneg,
    fun minute hminute => h.counters minute ((minuteOf_mono hlater).trans hminute),
    fun minute hminute => h.future minute ((minuteOf_mono hlater).trans_lt hminute), h.idle⟩

/-- An entry whose deadline has come may go. -/
theorem Retained.expired {deadline : Nat} (h : Retained now held entry kept)
    (hdeadline : entry.deadline = some deadline) (hcome : deadline ≤ now) :
    Retained now held none kept := by
  obtain ⟨hheld, hcounters⟩ := h.idle deadline hdeadline
  refine ⟨hheld.symm, h.concurrent', h.nonneg, fun minute hminute => ?_,
    fun _ _ => counters_none, fun other hother => ?_⟩
  · rw [← h.counters minute hminute, hcounters minute ((minuteOf_mono hcome).trans hminute),
      counters_none]
  · cases hother

/-- A refused request. -/
theorem Retained.refused (h : Retained now held entry kept) :
    Retained now held (started entry (minuteOf now)) (started kept (minuteOf now)) := by
  have hother : ∀ (found : UsageEntry) minute, minuteOf now ≠ minute →
      UsageEntry.counters (started found (minuteOf now)) minute = (0, 0) :=
    fun found minute hminute =>
      counters_of_ne _ fun hstored => hminute ((started_minute found).symm.trans hstored)
  refine ⟨(started_concurrent entry).trans h.concurrent,
    (started_concurrent kept).trans h.concurrent', h.nonneg, fun minute hminute => ?_,
    fun minute hminute => hother entry minute hminute.ne, fun deadline hdeadline => ?_⟩
  · rcases hminute.eq_or_lt with rfl | hlater
    · rw [counters_started, counters_started, h.counters _ le_rfl]
    · rw [hother entry minute hlater.ne, hother kept minute hlater.ne]
  · rw [started_deadline] at hdeadline
    obtain ⟨hheld, hcounters⟩ := h.idle deadline hdeadline
    refine ⟨hheld, fun minute hminute => ?_⟩
    by_cases hsame : minuteOf now = minute
    · rw [← hsame, counters_started]
      exact hcounters _ (hsame ▸ hminute)
    · exact hother entry minute hsame

/-- A granted request takes the deadline away. -/
theorem Retained.granted (h : Retained now held entry kept) (estimatedTokens : Int) :
    Retained now (held + 1)
      (UsageEntry.granted (started entry (minuteOf now)) estimatedTokens)
      (UsageEntry.granted (started kept (minuteOf now)) estimatedTokens) := by
  have hstarted := h.refused
  have hminute : ∀ found : UsageEntry,
      ((UsageEntry.granted (started found (minuteOf now)) estimatedTokens).field .minute).getD
        (-1) = minuteOf now := fun found =>
    (granted_minute _ _).trans (started_minute found)
  refine ⟨?_, ?_, by have := h.nonneg; omega, fun minute hlate => ?_, fun minute hlate => ?_,
    fun deadline hdeadline => ?_⟩
  · rw [granted_concurrent, hstarted.concurrent]
  · rw [granted_concurrent, hstarted.concurrent']
  · rcases hlate.eq_or_lt with rfl | hlater
    · rw [counters_granted _ _ (started_minute entry), counters_granted _ _ (started_minute kept),
        hstarted.counters _ le_rfl]
    · rw [counters_of_ne _ ((hminute entry).trans_ne hlater.ne),
        counters_of_ne _ ((hminute kept).trans_ne hlater.ne)]
  · exact counters_of_ne _ ((hminute entry).trans_ne hlate.ne)
  · cases hdeadline

/-- The release of a held permit; the last one sets a deadline. -/
theorem Retained.released (h : Retained now held entry kept) (hheld : 0 < held) :
    Retained now (held - 1) (UsageEntry.released entry now) (UsageEntry.released kept now) := by
  refine ⟨?_, ?_, by omega, fun minute hminute => ?_, fun minute hminute => ?_,
    fun deadline hdeadline => ?_⟩
  · rw [released_concurrent, h.concurrent]
  · rw [released_concurrent, h.concurrent']
  · rw [counters_released, counters_released]
    exact h.counters minute hminute
  · rw [counters_released]
    exact h.future minute hminute
  · rcases released_deadline entry hdeadline with ⟨hlast, rfl⟩ | hold
    · refine ⟨by rw [← h.concurrent]; exact hlast, fun minute hminute => ?_⟩
      rw [counters_released]
      exact h.future minute ((minuteOf_lt_retention now).trans_le hminute)
    · have := (h.idle deadline hold).1
      omega

end Keys

end Control
end Ryuk
