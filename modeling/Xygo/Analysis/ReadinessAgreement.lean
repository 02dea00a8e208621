import Xygo.Analysis.EmailSpec
import Xygo.Model.ReadinessChecks

/-!
# One health from two computations

The Postgres checks ask the database for aggregates of each status and combine them; the other
stores go over the records. They come to the same answer iff three things hold
(`readiness_checks_agree_iff`): the moment from which something counts as stale is one a timestamp
can hold, no status has more rows than an `int`, and no record stands at that moment when cutting
it to a millisecond has moved it forward, as it does before 1970. For the emails each delivery
must pass `assertEmailDelivery` besides, which only one of the two makes.

The moment is `now - staleAfterMs`, and `Number.MAX_SAFE_INTEGER`, the value the checks use for a
threshold without a limit, leads out of the range of a date (`unlimited_age_rejected`).
-/

set_option autoImplicit false

namespace Xygo.Analysis

open Xygo.Computation Xygo.Model

/-! ### Queries -/

section

variable {ε β κ : Type}

/-- A map whose calls all return, returns what they return. -/
theorem mapM_eq_ok_map (f : κ → Except ε β) (value : κ → β) {keys : List κ}
    (h : ∀ k ∈ keys, f k = .ok (value k)) : keys.mapM f = .ok (keys.map value) := by
  induction keys with
  | nil => rfl
  | cons k keys ih =>
    rw [List.mapM_cons, h k List.mem_cons_self,
      ih fun other hother => h other (List.mem_cons_of_mem k hother)]
    rfl

/-- A map with a call that throws, throws. -/
theorem mapM_eq_error {f : κ → Except ε β} {keys : List κ} {k : κ} (hk : k ∈ keys) {error : ε}
    (h : f k = .error error) : ∃ error', keys.mapM f = .error error' := by
  induction keys with
  | nil => cases hk
  | cons first keys ih =>
    rw [List.mapM_cons]
    cases hfirst : f first with
    | error error' => exact ⟨error', rfl⟩
    | ok value =>
      have hne : k ≠ first := by
        rintro rfl
        rw [hfirst] at h
        cases h
      have hrest : k ∈ keys := (List.mem_cons.mp hk).resolve_left hne
      obtain ⟨error', herror⟩ := ih hrest
      exact ⟨error', by rw [herror]; rfl⟩

end

theorem toInteger_eq_ok {n : ℕ} (h : n < 2 ^ 31) : toInteger n = .ok n := if_pos h

theorem toInteger_eq_error {n : ℕ} (h : ¬ n < 2 ^ 31) : toInteger n = .error .integerOutOfRange :=
  if_neg h

/-! ### The moment -/

theorem truncate_intCast (n : ℤ) : truncate n = n := by
  unfold truncate
  split
  · exact Int.floor_intCast n
  · exact Int.ceil_intCast n

/-- A number is cut to one of the two integers around it. -/
theorem truncate_bounds (q : ℚ) : ⌊q⌋ ≤ truncate q ∧ truncate q ≤ ⌊q⌋ + 1 := by
  unfold truncate
  split
  · omega
  · exact ⟨Int.floor_le_ceil q, Int.ceil_le_floor_add_one q⟩

/-- The times up to a number: those up to where it is cut, but for that moment itself where it
lies ahead of the number. -/
theorem le_truncate_iff {q : ℚ} {time : ℤ} :
    time ≤ truncate q ↔ (time : ℚ) ≤ q ∨ time = truncate q := by
  obtain ⟨hlower, hupper⟩ := truncate_bounds q
  rw [← Int.le_floor]
  omega

/-- A timestamp parameter that is accepted: a number in the range of dates and timestamps, cut to
a millisecond. -/
theorem timestampParameter_eq_ok_iff {moment : Double} {time : Int} :
    timestampParameter moment = .ok time ↔
      ∃ q, moment = .finite q ∧ |q| ≤ maxTime ∧ minTimestamp ≤ truncate q ∧ time = truncate q := by
  cases moment with
  | nan => simp [timestampParameter, dateTime]
  | infinity negative => simp [timestampParameter, dateTime]
  | finite q =>
    by_cases hdate : |q| ≤ maxTime
    · by_cases htime : truncate q < minTimestamp
      · simp [timestampParameter, dateTime, hdate, htime]
      · simp [timestampParameter, dateTime, hdate, htime, not_lt.mp htime, eq_comm]
    · simp [timestampParameter, dateTime, hdate]

/-- What the two computations must agree on: of rows with a key, each perhaps with a time that may
be stale, and the moment from which it is.

* `fits`: the rows of a key can be counted in an `int`.
* `moment`: the moment is a timestamp, and no row stands at it where it was cut to a later one. -/
structure Aligned {α κ : Type} [DecidableEq κ] (key : α → κ) (time? : α → Option Int)
    (staleBefore : Double) (rows : List α) : Prop where
  fits : ∀ k, (group key rows k).length < 2 ^ 31
  moment : ∃ q, staleBefore = .finite q ∧ |q| ≤ maxTime ∧ minTimestamp ≤ truncate q ∧
    ∀ row ∈ rows, time? row = some (truncate q) → (truncate q : ℚ) ≤ q

section

variable {α : Type} {time? : α → Option Int}

/-- Whether a row's time is not after a moment of the program. -/
def isStaleAt (time? : α → Option Int) (staleBefore : Double) (row : α) : Bool :=
  (time? row).any fun (time : Int) => Double.atMost (.finite time) staleBefore

/-- Whether a row's time is not after a timestamp. -/
def isStaleInQuery (time? : α → Option Int) (staleBefore : Int) (row : α) : Bool :=
  (time? row).any fun time => time ≤ staleBefore

/-- **The stale rows are as many before and after the cut iff no row stands where the cut moved
the moment forward.** -/
theorem stale_counts_eq_iff (q : ℚ) (rows : List α) :
    rows.countP (isStaleInQuery time? (truncate q)) =
        rows.countP (isStaleAt time? (.finite q)) ↔
      ∀ row ∈ rows, time? row = some (truncate q) → (truncate q : ℚ) ≤ q := by
  have hle : ∀ row ∈ rows, isStaleAt time? (.finite q) row = true →
      isStaleInQuery time? (truncate q) row = true := by
    intro row _ hrow
    unfold isStaleAt at hrow
    unfold isStaleInQuery
    cases htime : time? row with
    | none => simp [htime] at hrow
    | some time =>
      rw [htime, Option.any_some] at hrow
      rw [Option.any_some, decide_eq_true_eq]
      exact le_truncate_iff.mpr (.inl (of_decide_eq_true hrow))
  rw [eq_comm, countP_eq_iff hle]
  refine forall₂_congr fun row _ => ?_
  unfold isStaleAt isStaleInQuery
  cases htime : time? row with
  | none => simp
  | some time =>
    simp only [Option.any_some, decide_eq_true_eq, Option.some.injEq]
    constructor
    · rintro h rfl
      exact of_decide_eq_true (h le_rfl)
    · intro h hquery
      refine decide_eq_true ?_
      rcases le_truncate_iff.mp hquery with hbefore | heq
      · exact hbefore
      · rw [heq]
        exact h heq

end

/-! ### A query that counts the rows of each key -/

section

variable {α β κ : Type} [DecidableEq κ] {key : α → κ} {rows : List α} {staleBefore : Double}
  {row : Int → κ → Except QueryError β}

/-- Where the moment is a timestamp and every group can be counted, the query answers. -/
theorem query_eq_ok (groups : Grouping key rows) (value : Int → κ → β) {time : Int}
    (hrow : ∀ k, (group key rows k).length < 2 ^ 31 → row time k = .ok (value time k))
    (htime : timestampParameter staleBefore = .ok time)
    (hfits : ∀ k, (group key rows k).length < 2 ^ 31) :
    (do groups.keys.mapM (row (← timestampParameter staleBefore))) =
      .ok (groups.keys.map (value time)) := by
  rw [htime]
  exact mapM_eq_ok_map _ _ fun k _ => hrow k (hfits k)

/-- A query that answers had a timestamp and counted every group. -/
theorem of_query_ok {groups : Grouping key rows} {result : List β}
    (hrow : ∀ time k, ¬ (group key rows k).length < 2 ^ 31 →
      row time k = .error .integerOutOfRange)
    (h : (do groups.keys.mapM (row (← timestampParameter staleBefore))) = .ok result) :
    (∃ time, timestampParameter staleBefore = .ok time) ∧
      ∀ k, (group key rows k).length < 2 ^ 31 := by
  cases htime : timestampParameter staleBefore with
  | error error =>
    rw [htime] at h
    cases h
  | ok time =>
    refine ⟨⟨time, rfl⟩, fun k => ?_⟩
    by_cases hk : k ∈ groups.keys
    · by_contra hfits
      obtain ⟨error, herror⟩ := mapM_eq_error hk (hrow time k hfits)
      rw [htime] at h
      have hmap : groups.keys.mapM (row time) = .ok result := h
      rw [herror] at hmap
      cases hmap
    · rw [groups.group_eq_nil hk]
      norm_num

end

/-! ### The outbox -/

/-- The time of a job that may be stale. -/
def claimTime (record : OutboxJob) : Option Int :=
  if record.status = .processing then record.lockedAt else none

theorem isStaleClaim_eq (staleBefore : Double) :
    isStaleClaim staleBefore = isStaleAt claimTime staleBefore := by
  funext record
  unfold isStaleClaim isStaleAt claimTime
  by_cases h : record.status = .processing
  · simp [h]
  · simp [h]

theorem isLockedBefore_eq (staleBefore : Int) :
    isLockedBefore staleBefore = isStaleInQuery claimTime staleBefore := by
  funext record
  unfold isLockedBefore isStaleInQuery claimTime
  by_cases h : record.status = .processing
  · simp [h]
  · simp [h]

/-- The creation of the oldest job that is still to be done. -/
def oldestBacklogged (rows : List OutboxJob) : Option Int :=
  minFiltered (fun row => isBacklogged row.status) OutboxJob.createdAt rows

/-- What the records add to the variables of the loop. -/
theorem foldl_tally (staleBefore : Double) (records : List OutboxJob) (tally : OutboxTally) :
    records.foldl (OutboxTally.add staleBefore) tally =
      { counts := fun status =>
          tally.counts status + records.countP fun record => record.status = status
        stale := tally.stale + records.countP (isStaleClaim staleBefore)
        oldestCreatedAt :=
          Option.merge min tally.oldestCreatedAt (oldestBacklogged records) } := by
  induction records generalizing tally with
  | nil => cases tally; simp [oldestBacklogged, minFiltered, aggregate]
  | cons record records ih =>
    have holdest : oldestBacklogged (record :: records) = Option.merge min
        (if isBacklogged record.status then some record.createdAt else none)
        (oldestBacklogged records) := aggregate_cons _ _ _
    rw [List.foldl_cons, ih, holdest, ← (Option.associative_merge min).assoc]
    congr 1
    · funext status
      by_cases hstatus : record.status = status
      · subst hstatus
        simp [OutboxTally.add]
        omega
      · simp [OutboxTally.add, hstatus, Function.update_of_ne (Ne.symm hstatus)]
    · by_cases hstale : isStaleClaim staleBefore record = true
      · simp [OutboxTally.add, hstale]
        omega
      · simp [OutboxTally.add, hstale]
    · by_cases hpending : isBacklogged record.status = true
      · simp only [OutboxTally.add, hpending, if_true]
        cases tally.oldestCreatedAt <;> rfl
      · simp [OutboxTally.add, hpending]

/-- The health of the records: what is counted of them, put together. -/
theorem healthFromRecords_eq (records : List OutboxJob) (options : OutboxReadinessOptions)
    (clock : Double) :
    healthFromRecords records options clock =
      outboxHealth options clock (fun status => records.countP fun record => record.status = status)
        (records.countP (isStaleAt claimTime (options.staleBefore clock)))
        (oldestBacklogged records) := by
  unfold healthFromRecords
  rw [foldl_tally, isStaleClaim_eq]
  simp

/-- The row of the result for a status whose jobs can be counted. -/
def countedJobs (staleBefore : Int) (rows : List OutboxJob) (status : JobStatus) : OutboxGroup :=
  { status := status
    count := (group OutboxJob.status rows status).length
    stale := countFiltered (isLockedBefore staleBefore) (group OutboxJob.status rows status)
    oldestCreatedAt := oldestBacklogged (group OutboxJob.status rows status) }

theorem outboxGroup_eq_ok {staleBefore : Int} {rows : List OutboxJob} {status : JobStatus}
    (h : (group OutboxJob.status rows status).length < 2 ^ 31) :
    outboxGroup staleBefore rows status = .ok (countedJobs staleBefore rows status) := by
  have hstale : countFiltered (isLockedBefore staleBefore) (group OutboxJob.status rows status) <
      2 ^ 31 := by
    rw [countFiltered_eq]
    exact List.countP_le_length.trans_lt h
  unfold outboxGroup
  dsimp only
  rw [toInteger_eq_ok h, toInteger_eq_ok hstale]
  rfl

theorem outboxGroup_eq_error {staleBefore : Int} {rows : List OutboxJob} {status : JobStatus}
    (h : ¬ (group OutboxJob.status rows status).length < 2 ^ 31) :
    outboxGroup staleBefore rows status = .error .integerOutOfRange := by
  unfold outboxGroup
  dsimp only
  rw [toInteger_eq_error h]
  rfl

/-- What the rows of a result add to the variables of the loop. -/
theorem foldl_addGroup (result : JobStatus → OutboxGroup) (keys : List JobStatus)
    (tally : OutboxTally) (hkey : ∀ status, (result status).status = status) :
    (keys.map result).foldl OutboxTally.addGroup tally =
      { counts := keys.foldl
          (fun counts status => Function.update counts status (result status).count) tally.counts
        stale := keys.foldl (fun total status => total + (result status).stale) tally.stale
        oldestCreatedAt := keys.foldl
          (fun oldest status => Option.merge min oldest (result status).oldestCreatedAt)
          tally.oldestCreatedAt } := by
  induction keys generalizing tally with
  | nil => rfl
  | cons status keys ih =>
    rw [List.map_cons, List.foldl_cons, ih]
    simp only [List.foldl_cons]
    congr 2
    · simp only [OutboxTally.addGroup, hkey]
    · unfold OutboxTally.addGroup
      cases (result status).oldestCreatedAt with
      | none => exact Option.merge_none_right.symm
      | some createdAt => cases tally.oldestCreatedAt <;> rfl

/-- **The loop over the groups gathers what the loop over the records does.** -/
theorem foldl_countedJobs (staleBefore : Int) {rows : List OutboxJob}
    (groups : Grouping OutboxJob.status rows) :
    (groups.keys.map (countedJobs staleBefore rows)).foldl OutboxTally.addGroup {} =
      { counts := fun status => rows.countP fun row => row.status = status
        stale := rows.countP (isStaleInQuery claimTime staleBefore)
        oldestCreatedAt := oldestBacklogged rows } := by
  have hstale : groups.keys.foldl (fun total status =>
      total + (countedJobs staleBefore rows status).stale) 0 =
      countFiltered (isLockedBefore staleBefore) rows := groups.aggregate_groups _
  have holdest : groups.keys.foldl (fun oldest status =>
      Option.merge min oldest (countedJobs staleBefore rows status).oldestCreatedAt) none =
      oldestBacklogged rows := groups.aggregate_groups _
  rw [foldl_addGroup _ _ _ fun _ => rfl, hstale, holdest, countFiltered_eq, isLockedBefore_eq]
  congr 1
  exact groups.counts_groups

/-- An answer shows the health it was made of. -/
theorem requireOutboxHealth_injective {options : OutboxReadinessOptions}
    {health other : OutboxHealth}
    (h : requireOutboxHealth options health = requireOutboxHealth options other) :
    health = other := by
  unfold requireOutboxHealth at h
  split at h
  · split at h
    · injection h with h
      injection h
    · cases h
  · split at h
    · cases h
    · exact Except.ok.inj h

/-- **The two checks of the outbox agree iff the rows and the moment are aligned.** -/
theorem outbox_checks_agree_iff (rows : List OutboxJob) (groups : Grouping OutboxJob.status rows)
    (options : OutboxReadinessOptions) (clock : Double) :
    postgresCheckReadiness rows groups options clock clock = checkReadiness rows options clock ↔
      Aligned OutboxJob.status claimTime (options.staleBefore clock) rows := by
  have hanswer : ∀ {time : Int}, timestampParameter (options.staleBefore clock) = .ok time →
      (∀ status, (group OutboxJob.status rows status).length < 2 ^ 31) →
      postgresCheckReadiness rows groups options clock clock =
        requireOutboxHealth options (outboxHealth options clock
          (fun status => rows.countP fun row => row.status = status)
          (rows.countP (isStaleInQuery claimTime time)) (oldestBacklogged rows)) := by
    intro time htime hfits
    have hquery : queryOutboxHealth (options.staleBefore clock) rows groups =
        .ok (groups.keys.map (countedJobs time rows)) :=
      query_eq_ok groups (countedJobs · rows) (fun _ => outboxGroup_eq_ok) htime hfits
    unfold postgresCheckReadiness
    rw [hquery]
    show requireOutboxHealth options _ = _
    rw [foldl_countedJobs]
  unfold checkReadiness
  rw [healthFromRecords_eq]
  constructor
  · intro h
    cases hquery : queryOutboxHealth (options.staleBefore clock) rows groups with
    | error error =>
      unfold postgresCheckReadiness requireOutboxHealth at h
      rw [hquery] at h
      split at h
      · injection h with h
        cases h
      · cases h
    | ok result =>
      obtain ⟨⟨time, htime⟩, hfits⟩ := of_query_ok (fun _ _ => outboxGroup_eq_error) hquery
      obtain ⟨q, hmoment, hdate, hrange, rfl⟩ := timestampParameter_eq_ok_iff.mp htime
      rw [hanswer htime hfits, hmoment] at h
      have hstale := congrArg OutboxHealth.stale (requireOutboxHealth_injective h)
      exact ⟨hfits, q, hmoment, hdate, hrange, (stale_counts_eq_iff q rows).mp hstale⟩
  · rintro ⟨hfits, q, hmoment, hdate, hrange, hcut⟩
    have htime := timestampParameter_eq_ok_iff.mpr ⟨q, hmoment, hdate, hrange, rfl⟩
    rw [hanswer htime hfits, hmoment, (stale_counts_eq_iff q rows).mpr hcut]

/-! ### The emails -/

/-- The time of a delivery that may be stale. -/
def deliveryTime (delivery : EmailDelivery) : Option Int :=
  if isUndelivered delivery.status then some delivery.updatedAt else none

theorem isStaleDelivery_eq (staleBefore : Double) :
    isStaleDelivery staleBefore = isStaleAt deliveryTime staleBefore := by
  funext delivery
  unfold isStaleDelivery isStaleAt deliveryTime
  by_cases h : isUndelivered delivery.status = true
  · simp [h]
  · simp [h]

theorem isUpdatedBefore_eq (staleBefore : Int) :
    isUpdatedBefore staleBefore = isStaleInQuery deliveryTime staleBefore := by
  funext delivery
  unfold isUpdatedBefore isStaleInQuery deliveryTime
  by_cases h : isUndelivered delivery.status = true
  · simp [h]
  · simp [h]

section

variable (P : Platform)

/-- What deliveries that pass their check add to the variables of the loop. -/
theorem foldlM_tally (staleBefore : Double) {deliveries : List EmailDelivery} (tally : EmailTally)
    (h : ∀ delivery ∈ deliveries, ValidDelivery P delivery) :
    deliveries.foldlM (EmailTally.add P staleBefore) tally =
      .ok { counts := fun status =>
              tally.counts status + deliveries.countP fun delivery => delivery.status = status
            stale := tally.stale + deliveries.countP (isStaleDelivery staleBefore) } := by
  induction deliveries generalizing tally with
  | nil => rfl
  | cons delivery deliveries ih =>
    have hrest := fun other hother => h other (List.mem_cons_of_mem delivery hother)
    have hcheck : assertEmailDelivery P delivery = .ok delivery :=
      (assertEmailDelivery_eq_ok P).mpr ⟨h delivery List.mem_cons_self, rfl⟩
    rw [List.foldlM_cons, EmailTally.add, hcheck]
    show deliveries.foldlM _ _ = _
    rw [ih _ hrest]
    congr 2
    · funext status
      by_cases hstatus : delivery.status = status
      · subst hstatus
        simp
        omega
      · simp [hstatus, Function.update_of_ne (Ne.symm hstatus)]
    · by_cases hstale : isStaleDelivery staleBefore delivery = true
      · simp [hstale]
        omega
      · simp [hstale]

/-- A loop that ends has checked every delivery. -/
theorem of_foldlM_tally {staleBefore : Double} {deliveries : List EmailDelivery}
    {tally result : EmailTally}
    (h : deliveries.foldlM (EmailTally.add P staleBefore) tally = .ok result) :
    ∀ delivery ∈ deliveries, ValidDelivery P delivery := by
  induction deliveries generalizing tally with
  | nil => simp
  | cons delivery deliveries ih =>
    rw [List.foldlM_cons, EmailTally.add] at h
    cases hassert : assertEmailDelivery P delivery with
    | error error => rw [hassert] at h; cases h
    | ok checked =>
      rw [hassert] at h
      exact List.forall_mem_cons.mpr
        ⟨((assertEmailDelivery_eq_ok P).mp hassert).1, ih h⟩

end

/-- The row of the result for a status whose deliveries can be counted. -/
def countedDeliveries (staleBefore : Int) (rows : List EmailDelivery)
    (status : EmailDeliveryStatus) : EmailGroup :=
  { status := status
    count := (group EmailDelivery.status rows status).length
    stale := countFiltered (isUpdatedBefore staleBefore) (group EmailDelivery.status rows status) }

theorem emailGroup_eq_ok {staleBefore : Int} {rows : List EmailDelivery}
    {status : EmailDeliveryStatus}
    (h : (group EmailDelivery.status rows status).length < 2 ^ 31) :
    emailGroup staleBefore rows status = .ok (countedDeliveries staleBefore rows status) := by
  have hstale : countFiltered (isUpdatedBefore staleBefore)
      (group EmailDelivery.status rows status) < 2 ^ 31 := by
    rw [countFiltered_eq]
    exact List.countP_le_length.trans_lt h
  unfold emailGroup
  dsimp only
  rw [toInteger_eq_ok h, toInteger_eq_ok hstale]
  rfl

theorem emailGroup_eq_error {staleBefore : Int} {rows : List EmailDelivery}
    {status : EmailDeliveryStatus}
    (h : ¬ (group EmailDelivery.status rows status).length < 2 ^ 31) :
    emailGroup staleBefore rows status = .error .integerOutOfRange := by
  unfold emailGroup
  dsimp only
  rw [toInteger_eq_error h]
  rfl

/-- What the rows of a result add to the variables of the loop. -/
theorem foldl_addEmailGroup (result : EmailDeliveryStatus → EmailGroup)
    (keys : List EmailDeliveryStatus) (tally : EmailTally)
    (hkey : ∀ status, (result status).status = status) :
    (keys.map result).foldl EmailTally.addGroup tally =
      { counts := keys.foldl
          (fun counts status => Function.update counts status (result status).count) tally.counts
        stale := keys.foldl (fun total status => total + (result status).stale) tally.stale } := by
  induction keys generalizing tally with
  | nil => rfl
  | cons status keys ih =>
    rw [List.map_cons, List.foldl_cons, ih]
    simp only [List.foldl_cons, EmailTally.addGroup, hkey]

/-- **The loop over the groups gathers what the loop over the deliveries does.** -/
theorem foldl_countedDeliveries (staleBefore : Int) {rows : List EmailDelivery}
    (groups : Grouping EmailDelivery.status rows) :
    (groups.keys.map (countedDeliveries staleBefore rows)).foldl EmailTally.addGroup {} =
      { counts := fun status => rows.countP fun row => row.status = status
        stale := rows.countP (isStaleInQuery deliveryTime staleBefore) } := by
  have hstale : groups.keys.foldl (fun total status =>
      total + (countedDeliveries staleBefore rows status).stale) 0 =
      countFiltered (isUpdatedBefore staleBefore) rows := groups.aggregate_groups _
  rw [foldl_addEmailGroup _ _ _ fun _ => rfl, hstale, countFiltered_eq, isUpdatedBefore_eq]
  congr 1
  exact groups.counts_groups

/-- An answer shows how many deliveries were stale. -/
theorem emailAnswer_injective {options : EmailReadinessOptions}
    {counts : EmailDeliveryStatus → ℕ} {stale other : ℕ}
    (h : emailAnswer options counts stale = emailAnswer options counts other) : stale = other := by
  unfold emailAnswer at h
  dsimp only at h
  split at h
  · split at h
    · injection h with h
      injection h with _ h
      exact congrArg EmailHealth.stale h
    · cases h
  · split at h
    · cases h
    · exact congrArg EmailHealth.stale (Except.ok.inj h)

/-- What was gathered is answered with a health, in the answer or in its error. -/
theorem emailAnswer_cases (options : EmailReadinessOptions) (counts : EmailDeliveryStatus → ℕ)
    (stale : ℕ) : ∃ health, emailAnswer options counts stale = .ok health ∨
      emailAnswer options counts stale = .error (.unhealthy emailUnhealthy health) := by
  unfold emailAnswer
  dsimp only
  split
  · exact ⟨_, .inr rfl⟩
  · exact ⟨_, .inl rfl⟩

/-- **The two checks of the emails agree iff every delivery passes its check, and the rows and the
moment are aligned.** -/
theorem email_checks_agree_iff (P : Platform) (rows : List EmailDelivery)
    (groups : Grouping EmailDelivery.status rows) (options : EmailReadinessOptions)
    (clock : Double) :
    postgresCheckEmailDeliveryReadiness rows groups options clock =
        summarizeEmailDeliveryHealth P rows options clock ↔
      Aligned EmailDelivery.status deliveryTime (options.staleBefore clock) rows ∧
        ∀ delivery ∈ rows, ValidDelivery P delivery := by
  have hquery : ∀ {time : Int}, timestampParameter (options.staleBefore clock) = .ok time →
      (∀ status, (group EmailDelivery.status rows status).length < 2 ^ 31) →
      postgresCheckEmailDeliveryReadiness rows groups options clock =
        emailAnswer options (fun status => rows.countP fun row => row.status = status)
          (rows.countP (isStaleInQuery deliveryTime time)) := by
    intro time htime hfits
    have hresult : queryEmailHealth (options.staleBefore clock) rows groups =
        .ok (groups.keys.map (countedDeliveries time rows)) :=
      query_eq_ok groups (countedDeliveries · rows) (fun _ => emailGroup_eq_ok) htime hfits
    unfold postgresCheckEmailDeliveryReadiness
    rw [hresult]
    show emailAnswer options _ _ = _
    rw [foldl_countedDeliveries]
  have hrecords : (∀ delivery ∈ rows, ValidDelivery P delivery) →
      summarizeEmailDeliveryHealth P rows options clock =
        emailAnswer options (fun status => rows.countP fun row => row.status = status)
          (rows.countP (isStaleAt deliveryTime (options.staleBefore clock))) := by
    intro hpass
    unfold summarizeEmailDeliveryHealth
    rw [foldlM_tally P _ _ hpass, isStaleDelivery_eq]
    show emailAnswer options _ _ = _
    simp
  constructor
  · intro h
    cases hresult : queryEmailHealth (options.staleBefore clock) rows groups with
    | error error =>
      -- a failed query is no answer of the other check
      have hfailed : postgresCheckEmailDeliveryReadiness rows groups options clock =
          .error (.query error) := by
        unfold postgresCheckEmailDeliveryReadiness
        rw [hresult]
        rfl
      rw [hfailed] at h
      unfold summarizeEmailDeliveryHealth at h
      cases hloop : rows.foldlM (EmailTally.add P (options.staleBefore clock)) {} with
      | error error =>
        rw [hloop] at h
        injection h with h
        cases h
      | ok tally =>
        rw [hloop] at h
        obtain ⟨health, hok | herror⟩ := emailAnswer_cases options tally.counts tally.stale
        · cases h.trans hok
        · injection h.trans herror with h
          cases h
    | ok result =>
      obtain ⟨⟨time, htime⟩, hfits⟩ :=
        of_query_ok (fun _ _ => emailGroup_eq_error) hresult
      obtain ⟨q, hmoment, hdate, hrange, rfl⟩ := timestampParameter_eq_ok_iff.mp htime
      rw [hquery htime hfits] at h
      have hpass : ∀ delivery ∈ rows, ValidDelivery P delivery := by
        cases hloop : rows.foldlM (EmailTally.add P (options.staleBefore clock)) {} with
        | ok tally => exact of_foldlM_tally P hloop
        | error error =>
          -- an answer of the query is no error of the loop
          unfold summarizeEmailDeliveryHealth at h
          rw [hloop] at h
          obtain ⟨health, hok | herror⟩ := emailAnswer_cases options
            (fun status => rows.countP fun row => row.status = status)
            (rows.countP (isStaleInQuery deliveryTime (truncate q)))
          · cases hok.symm.trans h
          · injection herror.symm.trans h with h
            cases h
      rw [hrecords hpass, hmoment] at h
      exact ⟨⟨hfits, q, hmoment, hdate, hrange,
        (stale_counts_eq_iff q rows).mp (emailAnswer_injective h)⟩, hpass⟩
  · rintro ⟨⟨hfits, q, hmoment, hdate, hrange, hcut⟩, hpass⟩
    have htime := timestampParameter_eq_ok_iff.mpr ⟨q, hmoment, hdate, hrange, rfl⟩
    rw [hquery htime hfits, hrecords hpass, hmoment, (stale_counts_eq_iff q rows).mpr hcut]

/-! ### Both -/

/-- **The checks of the outbox agree iff its jobs are aligned with the moment from which a claim is
stale; those of the emails iff the deliveries are, and each passes its check.** -/
theorem readiness_checks_agree_iff (P : Platform) (jobs : List OutboxJob)
    (jobGroups : Grouping OutboxJob.status jobs) (outboxOptions : OutboxReadinessOptions)
    (deliveries : List EmailDelivery) (deliveryGroups : Grouping EmailDelivery.status deliveries)
    (emailOptions : EmailReadinessOptions) (clock : Double) :
    (postgresCheckReadiness jobs jobGroups outboxOptions clock clock =
        checkReadiness jobs outboxOptions clock ↔
      Aligned OutboxJob.status claimTime (outboxOptions.staleBefore clock) jobs) ∧
    (postgresCheckEmailDeliveryReadiness deliveries deliveryGroups emailOptions clock =
        summarizeEmailDeliveryHealth P deliveries emailOptions clock ↔
      Aligned EmailDelivery.status deliveryTime (emailOptions.staleBefore clock) deliveries ∧
        ∀ delivery ∈ deliveries, ValidDelivery P delivery) :=
  ⟨outbox_checks_agree_iff jobs jobGroups outboxOptions clock,
    email_checks_agree_iff P deliveries deliveryGroups emailOptions clock⟩

/-- Whole milliseconds in the range of a timestamp are aligned with all rows that can be counted. -/
theorem Aligned.of_milliseconds {α κ : Type} [DecidableEq κ] {key : α → κ}
    {time? : α → Option Int} {rows : List α} {now staleAfterMs : ℤ}
    (hlower : minTimestamp ≤ now - staleAfterMs) (hupper : now - staleAfterMs ≤ maxTime)
    (hfits : ∀ k, (group key rows k).length < 2 ^ 31) :
    Aligned key time? (Double.sub (.finite now) (.finite staleAfterMs)) rows := by
  unfold minTimestamp at hlower
  unfold maxTime at hupper
  refine ⟨hfits, (now - staleAfterMs : ℤ), Double.sub_intCast (by omega), ?_, ?_, ?_⟩
  · have hrange : |now - staleAfterMs| ≤ maxTime := by
      rw [abs_le]
      unfold maxTime
      omega
    exact_mod_cast hrange
  · rw [truncate_intCast]
    exact hlower
  · intro row _ _
    rw [truncate_intCast]

/-! ### A threshold without a limit -/

/-- A job that waits to be claimed, enqueued at a time. -/
def waitingJob (createdAt : Int) : OutboxJob where
  id := "job"
  tenantId := none
  event := { id := "job", eventType := "report.ready", aggregateType := "report",
             aggregateId := "r-1" }
  idempotencyKey := "report.ready:1:report:r-1"
  status := .pending
  attempts := 0
  nextAttemptAt := createdAt
  lockedAt := none
  lockedBy := none
  lastError := none
  replayCount := 0
  lastReplayedAt := none
  lastReplayReason := none
  createdAt := createdAt
  updatedAt := createdAt
  completedAt := none

/-- The one group of one job. -/
def waitingGroup (createdAt : Int) : Grouping OutboxJob.status [waitingJob createdAt] where
  keys := [.pending]
  nodup := List.nodup_singleton _
  mem_keys := fun _ => by simp [waitingJob, eq_comm]

/-- The check at a moment of 2026, with claims that never become stale. -/
def neverStale : OutboxReadinessOptions :=
  { now := some (.finite (1780000000000 : ℤ)), staleAfterMs := some (.finite (maxSafeInteger : ℤ)) }

/-- **With the value for a threshold without a limit, the records are healthy and the query
fails.** -/
theorem unlimited_age_rejected :
    postgresCheckReadiness [waitingJob 1779999990000] (waitingGroup 1779999990000) neverStale
        .nan .nan = .error (.query .invalidTimestamp) ∧
      ∃ health, checkReadiness [waitingJob 1779999990000] neverStale .nan = .ok health ∧
        health.ready = true ∧ health.stale = 0 ∧ health.backlog = 1 := by
  have hmoment : neverStale.staleBefore .nan = .finite (-9005419254740991 : ℤ) :=
    Double.sub_intCast (by decide)
  have hage : Double.sub (.finite (1780000000000 : ℤ)) (.finite (1779999990000 : ℤ)) =
      .finite (10000 : ℤ) := Double.sub_intCast (by decide)
  constructor
  · have htime : timestampParameter (neverStale.staleBefore .nan) = .error .invalidTimestamp := by
      rw [hmoment]
      norm_num [timestampParameter, dateTime, maxTime]
    unfold postgresCheckReadiness queryOutboxHealth
    rw [htime]
    rfl
  · have hstale : [waitingJob 1779999990000].countP
        (isStaleAt claimTime (neverStale.staleBefore .nan)) = 0 := rfl
    have holdest : oldestBacklogged [waitingJob 1779999990000] = some 1779999990000 := rfl
    refine ⟨healthFromRecords [waitingJob 1779999990000] neverStale .nan, rfl, ?_, ?_, ?_⟩
    · rw [healthFromRecords_eq, hstale, holdest]
      simp only [outboxHealth, neverStale, Option.getD_some, hage]
      simp [waitingJob, Double.atMost, Double.greatest, maxSafeInteger]
      norm_num
    · rw [healthFromRecords_eq, hstale]
      rfl
    · rw [healthFromRecords_eq]
      rfl

end Xygo.Analysis
