import Xygo.Analysis.OutboxInvariant
import Xygo.Analysis.SqliteFail
import Xygo.Analysis.SqliteRefinement
import Xygo.Model.WorkerOptions

/-!
# Failed jobs come back after their delay

With an accepted worker configuration the delay after a failure is an exact integer between the
two bounds and does not shrink from attempt to attempt. A job that failed stays as it is until a
claim takes it, so that its delay decides when claims may: on the memory store at every time, and
on SQLite, which compares date texts, at times of years with four digits.
-/

set_option autoImplicit false

namespace Xygo.Analysis

open Xygo.Computation Xygo.Model

/-! ### The delay -/

/-- INTERNAL: the delay does not shrink from attempt to attempt.
SOURCE: apps/api/src/reliability/outbox.js:117-119 -/
theorem backoffMs_mono {a b : Nat} (hab : a ≤ b) {base max : Int} (hbase : 0 ≤ base) :
    backoffMs a base max ≤ backoffMs b base max := by
  have hpower : (2 : Int) ^ (a - 1) ≤ 2 ^ (b - 1) :=
    pow_le_pow_right₀ (by omega) (Nat.sub_le_sub_right hab 1)
  exact min_le_min_left max (mul_le_mul_of_nonneg_left hpower hbase)

/-- INTERNAL: the delay lies between the two bounds.
SOURCE: apps/api/src/reliability/outbox.js:117-119 -/
theorem backoffMs_bounds (attempts : Nat) {base max : Int} (hbase : 0 ≤ base) (hle : base ≤ max) :
    base ≤ backoffMs attempts base max ∧ backoffMs attempts base max ≤ max := by
  have hpower : (1 : Int) ≤ 2 ^ (attempts - 1) := one_le_pow₀ (by omega)
  have hgrown : base * 1 ≤ base * 2 ^ (attempts - 1) := mul_le_mul_of_nonneg_left hpower hbase
  exact ⟨le_min hle (by omega), min_le_left _ _⟩

/-- INTERNAL: up to 20 attempts from a base of at most 15 minutes, the arithmetic is exact.
SOURCE: apps/api/src/reliability/outbox.js:117-119 -/
theorem backoffNumber_exact {attempts : Nat} (hattempts : attempts ≤ 20) {base : Int}
    (hbase : 0 ≤ base ∧ base ≤ 900000) (max : Int) :
    backoffNumber attempts base max = .finite (backoffMs attempts base max) := by
  have hpower : (2 : Int) ^ (attempts - 1) ≤ 2 ^ 19 :=
    pow_le_pow_right₀ (by omega) (by omega)
  have hnonneg : (0 : Int) ≤ 2 ^ (attempts - 1) := pow_nonneg (by omega) _
  have hproduct : base * 2 ^ (attempts - 1) ≤ 900000 * 2 ^ 19 :=
    mul_le_mul hbase.2 hpower hnonneg (by omega)
  have hpositive : 0 ≤ base * 2 ^ (attempts - 1) := mul_nonneg hbase.1 hnonneg
  have hbits : (base * 2 ^ (attempts - 1)).natAbs ≤ 2 ^ 53 := by omega
  rw [backoffNumber, Double.twoPow_eq (by omega), Double.mul_intCast hbits, Double.least_intCast]
  rfl

/-! ### What the stores keep of a failed job -/

/-- Whether an answer is a claim that returned the job. -/
def returnsJob (id : String) : Except JsError OutboxResult → Prop
  | .ok (.jobs records) => id ∈ records.map OutboxJob.id
  | _ => False

/-- INTERNAL: a failed job stays as it is in the memory store until a claim returns it.
SOURCE: apps/api/src/reliability/outbox.js:163-282 -/
theorem outcome_keeps_failed {log : OutboxLog} {s t : OutboxStore} {c : OutboxCall}
    {r : Except JsError OutboxResult} (inv : OutboxInvariant log s) (out : Outcome s c r t)
    {id : String} {job : OutboxJob} (found : s.items.get id = some job)
    (failed : job.status = .failed) (notReturned : ¬ returnsJob id r) :
    t.items.get id = some job := by
  cases out with
  | refused c e => exact found
  | @enqueued event key now new built freeKey freeId =>
    have hne : id ≠ new.id := by
      rintro rfl
      rw [OrderedMap.get_eq_none.mpr freeId] at found
      cases found
    simp [hne, found]
  | duplicate built boundKey same existing => exact found
  | @claimed workerId now limit staleAfterMs valid =>
    have hids : id ∉ (sliceTo (ready s now staleAfterMs) limit).map OutboxJob.id := by
      intro hmem
      apply notReturned
      simpa [returnsJob, claimed] using hmem
    show (s.items.mapValues _).get id = some job
    rw [get_claimed inv, if_neg hids, found]
  | completed taken processing holder valid =>
    exact get_put_of_status_ne taken found (by simp [failed, processing])
  | failed taken processing holder valid due =>
    exact get_put_of_status_ne taken found (by simp [failed, processing])
  | absent => exact found
  | replayed accepted taken own dead valid =>
    exact get_put_of_status_ne taken found (by simp [failed, dead])

/-- The ways a call of the SQLite store can change its table. -/
inductive TableOutcome (table : OutboxTable) :
    OutboxCall → Except JsError OutboxResult → OutboxTable → Prop
  /-- The call throws before it writes. -/
  | refused (c : OutboxCall) (e : JsError) : TableOutcome table c (.error e) table
  /-- The row of a new job is offered to the table. -/
  | offered {event : OutboxEvent} {key : Option String} {now : Int} {job : OutboxJob}
      {r : Except JsError OutboxResult} (built : newJob event key now = .ok job) :
      TableOutcome table (.enqueue event key now) r (insertOrIgnore job event table)
  /-- The selected rows are claimed, and what is read of them afterwards is the answer. -/
  | claimed {workerId : String} {now limit staleAfterMs : Int} (valid : isValidTime now = true) :
      TableOutcome table (.claim workerId now limit staleAfterMs)
        (.ok (.jobs ((selectReady table now (now - staleAfterMs) limit).filterMap (rereadJob
          ((selectReady table now (now - staleAfterMs) limit).foldl (updateClaim workerId now)
            table)))))
        ((selectReady table now (now - staleAfterMs) limit).foldl (updateClaim workerId now) table)
  /-- One row that has not failed is updated. -/
  | updated {c : OutboxCall} {r : Except JsError OutboxResult} {id : String}
      {condition : OutboxRow → Bool} {change : OutboxRow → OutboxRow}
      (settled : ∀ row, condition row = true → row.status ≠ .failed)
      (sameId : ∀ row, (change row).id = row.id) :
      TableOutcome table c r (updateById id condition change table).1

/-- INTERNAL: a worker holds no failed row.
SOURCE: apps/api/src/reliability/outbox.js:361-362, 377 -/
theorem claimedBy_not_failed (workerId : String) (row : OutboxRow)
    (h : claimedBy workerId row = true) : row.status ≠ .failed := by
  intro hfailed
  simp [claimedBy, hfailed] at h

/-- INTERNAL: a dead row is no failed one.
SOURCE: apps/api/src/reliability/outbox.js:397 -/
theorem deadOf_not_failed (tenantId : Option String) (row : OutboxRow)
    (h : deadOf tenantId row = true) : row.status ≠ .failed := by
  intro hfailed
  simp [deadOf, hfailed] at h

/-- Every call of the SQLite store changes its table in one of the listed ways.
SOURCE: apps/api/src/reliability/outbox.js:306-419 -/
theorem tableOutcome_call (table : OutboxTable) (c : OutboxCall) :
    TableOutcome table c (sqliteOutbox.call c table).1 (sqliteOutbox.call c table).2 := by
  cases c with
  | enqueue event key now =>
    cases hjob : newJob event key now with
    | error e =>
      simpa [sqliteOutbox, OutboxCall.sqliteOperation, sqliteEnqueue, hjob] using
        TableOutcome.refused _ e
    | ok job =>
      have hafter : (sqliteOutbox.call (.enqueue event key now) table).2 =
          insertOrIgnore job event table := by
        cases hanswer : enqueueAnswer (insertOrIgnore job event table) job event <;>
          simp [sqliteOutbox, OutboxCall.sqliteOperation, sqliteEnqueue, hjob, hanswer]
      rw [hafter]
      exact .offered hjob
  | claim workerId now limit staleAfterMs =>
    obtain ⟨hvalid, hnow⟩ | ⟨e, he⟩ := nowIso_cases now
    · obtain ⟨-, hstale⟩ | ⟨e, he⟩ := nowIso_cases (now - staleAfterMs)
      · simpa [sqliteOutbox, OutboxCall.sqliteOperation, sqliteClaim, hnow, hstale] using
          TableOutcome.claimed hvalid
      · simpa [sqliteOutbox, OutboxCall.sqliteOperation, sqliteClaim, hnow, he] using
          TableOutcome.refused _ e
    · simpa [sqliteOutbox, OutboxCall.sqliteOperation, sqliteClaim, he] using
        TableOutcome.refused _ e
  | complete id workerId now =>
    obtain ⟨-, hnow⟩ | ⟨e, he⟩ := nowIso_cases now
    · have hafter : (sqliteOutbox.call (.complete id workerId now) table).2 =
          (updateComplete id workerId now table).1 := by
        by_cases hchanges : (updateComplete id workerId now table).2 = 1 <;>
          simp [sqliteOutbox, OutboxCall.sqliteOperation, sqliteComplete, hnow, hchanges]
      rw [hafter]
      exact .updated (claimedBy_not_failed workerId) fun row => rfl
    · simpa [sqliteOutbox, OutboxCall.sqliteOperation, sqliteComplete, he] using
        TableOutcome.refused _ e
  | fail id workerId error now options =>
    cases hheld : heldRow table id workerId with
    | error e =>
      simpa [sqliteOutbox, OutboxCall.sqliteOperation, sqliteFail, hheld] using
        TableOutcome.refused _ e
    | ok record =>
      obtain ⟨-, hnow⟩ | ⟨e, he⟩ := nowDate_cases now
      · cases hdue : retryAt record now options with
        | error e =>
          simpa [sqliteOutbox, OutboxCall.sqliteOperation, sqliteFail, hheld, hnow, hdue] using
            TableOutcome.refused _ e
        | ok next =>
          have hafter : (sqliteOutbox.call (.fail id workerId error now options) table).2 =
              (updateFail id workerId (exhausted record options) next error now table).1 := by
            simp [sqliteOutbox, OutboxCall.sqliteOperation, sqliteFail, hheld, hnow, hdue]
          rw [hafter]
          exact .updated (claimedBy_not_failed workerId) fun row => rfl
      · simpa [sqliteOutbox, OutboxCall.sqliteOperation, sqliteFail, hheld, he] using
          TableOutcome.refused _ e
  | replay id tenantId reason now =>
    cases hreason : normalizedReplayReason reason with
    | error e =>
      simpa [sqliteOutbox, OutboxCall.sqliteOperation, sqliteReplay, hreason] using
        TableOutcome.refused _ e
    | ok replayReason =>
      obtain ⟨-, hnow⟩ | ⟨e, he⟩ := nowIso_cases now
      · have hafter : (sqliteOutbox.call (.replay id tenantId reason now) table).2 =
            (updateReplay id tenantId replayReason now table).1 := by
          simp [sqliteOutbox, OutboxCall.sqliteOperation, sqliteReplay, hreason, hnow]
        rw [hafter]
        exact .updated (deadOf_not_failed tenantId) fun row => rfl
      · simpa [sqliteOutbox, OutboxCall.sqliteOperation, sqliteReplay, hreason, he] using
          TableOutcome.refused _ e

/-- The rows of a table stand under their ids. -/
def RowsKeyed (table : OutboxTable) : Prop := ∀ id row, table.get id = some row → row.id = id

/-- INTERNAL: what an update leaves under an id. -/
theorem get_updateById (id : String) (condition : OutboxRow → Bool)
    (change : OutboxRow → OutboxRow) (table : OutboxTable) (id' : String) :
    (updateById id condition change table).1.get id' =
      if id' = id then
        (table.get id).map fun row => if condition row then change row else row
      else table.get id' := by
  unfold updateById
  cases hget : table.get id with
  | none =>
    by_cases hid : id' = id
    · simp [hid, hget]
    · simp [hid]
  | some row =>
    by_cases hid : id' = id
    · by_cases hcondition : condition row = true <;> simp [hid, hcondition, hget]
    · by_cases hcondition : condition row = true <;> simp [hid, hcondition]

/-- INTERNAL: what the offer of a row leaves under an id.
SOURCE: apps/api/src/reliability/outbox.js:321-328 -/
theorem get_insertOrIgnore (job : OutboxJob) (event : OutboxEvent) (table : OutboxTable)
    {id : String} {row : OutboxRow} (h : (insertOrIgnore job event table).get id = some row) :
    table.get id = some row ∨ table.get id = none ∧ id = job.id ∧ row = insertedRow job event := by
  unfold insertOrIgnore at h
  split at h
  · exact Or.inl h
  · rename_i hfree
    simp only [Bool.or_eq_true, not_or, Bool.not_eq_true] at hfree
    by_cases hid : id = job.id
    · subst hid
      rw [OrderedMap.get_set, if_pos rfl] at h
      exact Or.inr ⟨OrderedMap.get_eq_none.mpr hfree.1, rfl, (Option.some.inj h).symm⟩
    · rw [OrderedMap.get_set, if_neg hid] at h
      exact Or.inl h

/-- INTERNAL: the ids a claim selects do not repeat in a keyed table.
SOURCE: apps/api/src/reliability/outbox.js:341-346 -/
theorem RowsKeyed.nodup_selectReady {table : OutboxTable} (h : RowsKeyed table)
    (claimedAt staleBefore limit : Int) : (selectReady table claimedAt staleBefore limit).Nodup := by
  have hids : table.values.map OutboxRow.id = table.keys := by
    unfold OrderedMap.values OrderedMap.keys
    rw [List.map_map]
    refine List.map_congr_left fun entry hentry => ?_
    exact h entry.1 entry.2 (OrderedMap.get_eq_some.mpr hentry)
  have hrows : (table.values.map OutboxRow.id).Nodup := hids ▸ table.nodup_keys
  have hready : ((table.values.filter (isReadyRow claimedAt staleBefore)).map
      OutboxRow.id).Nodup := (List.filter_sublist.map _).nodup hrows
  have hsorted := ((List.perm_insertionSort (fun a b => rowLe a b = true)
    (table.values.filter (isReadyRow claimedAt staleBefore))).map OutboxRow.id).nodup_iff.mpr hready
  unfold selectReady sqlLimit
  split
  · exact hsorted
  · exact ((List.take_sublist _ _).map _).nodup hsorted

/-- INTERNAL: an id that is selected is the id of a ready row.
SOURCE: apps/api/src/reliability/outbox.js:341-346 -/
theorem ready_of_selected {table : OutboxTable} (h : RowsKeyed table)
    {claimedAt staleBefore limit : Int} {id : String} {row : OutboxRow}
    (found : table.get id = some row) (sel : id ∈ selectReady table claimedAt staleBefore limit) :
    isReadyRow claimedAt staleBefore row = true := by
  obtain ⟨selected, hselected, hid⟩ := List.mem_map.mp sel
  have hsorted : selected ∈ (table.values.filter (isReadyRow claimedAt staleBefore)).insertionSort
      fun a b => rowLe a b = true := by
    unfold sqlLimit at hselected
    split at hselected
    · exact hselected
    · exact List.mem_of_mem_take hselected
  have hready := (List.mem_insertionSort _).mp hsorted
  obtain ⟨hvalue, hok⟩ := List.mem_filter.mp hready
  obtain ⟨key, hget⟩ := OrderedMap.mem_values_iff_get.mp hvalue
  obtain rfl : key = id := by rw [← h key selected hget, hid]
  obtain rfl : selected = row := Option.some.inj (hget.symm.trans found)
  exact hok

/-- INTERNAL: every call keeps the table keyed.
SOURCE: apps/api/src/reliability/outbox.js:306-419 -/
theorem RowsKeyed.step {table after : OutboxTable} {c : OutboxCall}
    {r : Except JsError OutboxResult} (h : RowsKeyed table) (out : TableOutcome table c r after) :
    RowsKeyed after := by
  intro id row hget
  cases out with
  | refused c e => exact h id row hget
  | @offered event key now job r built =>
    obtain hold | ⟨-, rfl, rfl⟩ := get_insertOrIgnore job event table hget
    · exact h id row hold
    · rfl
  | @claimed workerId now limit staleAfterMs valid =>
    rw [(claimRows_spec workerId now (h.nodup_selectReady _ _ _) table).2] at hget
    split at hget
    · obtain ⟨old, hold, rfl⟩ := Option.map_eq_some_iff.mp hget
      exact h id old hold
    · exact h id row hget
  | @updated c r id' condition change settled sameId =>
    rw [get_updateById] at hget
    split at hget
    · rename_i hid
      subst hid
      obtain ⟨old, hold, rfl⟩ := Option.map_eq_some_iff.mp hget
      split
      · rw [sameId]
        exact h id old hold
      · exact h id old hold
    · exact h id row hget

/-- INTERNAL: the jobs a claim of the SQLite store returns are those it selected.
SOURCE: apps/api/src/reliability/outbox.js:341-352 -/
theorem returnsJob_of_selected {table : OutboxTable} (h : RowsKeyed table) (workerId : String)
    {now staleBefore limit : Int} {id : String} {row : OutboxRow}
    (found : table.get id = some row) (sel : id ∈ selectReady table now staleBefore limit) :
    returnsJob id (.ok (.jobs ((selectReady table now staleBefore limit).filterMap (rereadJob
      ((selectReady table now staleBefore limit).foldl (updateClaim workerId now) table))))) := by
  have hclaimed := (claimRows_spec workerId now (h.nodup_selectReady now staleBefore limit)
    table).2 id
  rw [if_pos sel, found] at hclaimed
  refine List.mem_map.mpr ⟨sqliteRow (setClaimed workerId now row), ?_, h id row found⟩
  refine List.mem_filterMap.mpr ⟨id, sel, ?_⟩
  rw [rereadJob, selectById, hclaimed]
  rfl

/-- INTERNAL: a failed row stays as it is until a claim returns its job.
SOURCE: apps/api/src/reliability/outbox.js:306-419 -/
theorem tableOutcome_keeps_failed {table after : OutboxTable} {c : OutboxCall}
    {r : Except JsError OutboxResult} (keyed : RowsKeyed table)
    (out : TableOutcome table c r after) {id : String} {row : OutboxRow}
    (found : table.get id = some row) (failed : row.status = .failed)
    (notReturned : ¬ returnsJob id r) : after.get id = some row := by
  cases out with
  | refused c e => exact found
  | @offered event key now job r built =>
    unfold insertOrIgnore
    split
    · exact found
    · rename_i hfree
      simp only [Bool.or_eq_true, not_or, Bool.not_eq_true] at hfree
      have hne : id ≠ job.id := by
        rintro rfl
        rw [OrderedMap.get_eq_none.mpr hfree.1] at found
        cases found
      rw [OrderedMap.get_set, if_neg hne, found]
  | @claimed workerId now limit staleAfterMs valid =>
    have hids : id ∉ selectReady table now (now - staleAfterMs) limit := by
      intro hmem
      exact notReturned (returnsJob_of_selected keyed workerId found hmem)
    rw [(claimRows_spec workerId now (keyed.nodup_selectReady _ _ _) table).2, if_neg hids, found]
  | @updated c r id' condition change settled sameId =>
    have hcondition : condition row = false := by
      apply Bool.eq_false_iff.mpr
      intro h
      exact settled row h failed
    exact updateById_get_of_not found hcondition

/-! ### Jobs and their delays -/

/-- A store keeps failed jobs to their delays: in every state that calls without a claim of the job
lead to after a failure that leaves it failed, no claim before the delay is over returns it, and
every claim from then on finds it eligible. The times compared are those `comparable` allows.
SOURCE: apps/api/src/reliability/outbox.js:182-237, 337-380 -/
def KeepsDelay {σ : Type} (O : Object σ OutboxCall (Except JsError OutboxResult)) (start : σ)
    (eligible : σ → Int → Int → List String) (comparable : Int → Prop) (options : FailOptions) :
    Prop :=
  ∀ (before later : List OutboxCall) (id workerId : String) (error : JsError) (t : Int)
    (job : OutboxJob) (failing after : σ) (delay : Int),
    failing = (O.run start before).2 →
    (O.call (.fail id workerId error t options) failing).1 = .ok (.job job) →
    job.status = .failed →
    after = (O.run (O.call (.fail id workerId error t options) failing).2 later).2 →
    (∀ entry ∈ (O.run (O.call (.fail id workerId error t options) failing).2 later).1,
      ¬ returnsJob id entry.2) →
    delay = backoffMs job.attempts options.baseBackoffMs options.maxBackoffMs →
    comparable (t + delay) →
    job.attempts < options.maxAttempts ∧
      ∀ now staleAfterMs, comparable now →
        (now < t + delay → ∀ claimer limit,
          ¬ returnsJob id (O.call (.claim claimer now limit staleAfterMs) after).1) ∧
        (t + delay ≤ now → id ∈ eligible after now staleAfterMs)

/-- The jobs a claim of the memory store chooses from. -/
def memoryEligible (s : OutboxStore) (now staleAfterMs : Int) : List String :=
  (ready s now staleAfterMs).map OutboxJob.id

/-- The rows a claim of the SQLite store selects without a limit. -/
def sqliteEligible (table : OutboxTable) (now staleAfterMs : Int) : List String :=
  selectReady table now (now - staleAfterMs) (-1)

/-- INTERNAL: when a failure leaves a job failed, its next attempt is due after the delay.
SOURCE: apps/api/src/reliability/outbox.js:225-230 -/
theorem due_of_failed {record : OutboxJob} {t next : Int} {options : FailOptions}
    (remains : exhausted record options = false) (due : retryAt record t options = .ok next) :
    next = t + backoffMs record.attempts options.baseBackoffMs options.maxBackoffMs ∧
      record.attempts < options.maxAttempts := by
  unfold retryAt at due
  rw [remains] at due
  unfold exhausted at remains
  exact ⟨(toISOString_eq_ok due).1, not_le.mp (decide_eq_false_iff_not.mp remains)⟩

/-- INTERNAL: the record a failure leaves in the memory store.
SOURCE: apps/api/src/reliability/outbox.js:219-237 -/
theorem memory_fail_answer {s after : OutboxStore} {id workerId : String} {error : JsError}
    {t : Int} {options : FailOptions} {job : OutboxJob}
    (out : Outcome s (.fail id workerId error t options) (.ok (.job job)) after)
    (failed : job.status = .failed) :
    after.items.get id = some job ∧ job.attempts < options.maxAttempts ∧
      job.nextAttemptAt =
        t + backoffMs job.attempts options.baseBackoffMs options.maxBackoffMs := by
  cases out with
  | @failed _ _ _ _ next _ record found processing holder valid due =>
    have hremains : exhausted record options = false := by
      cases hexhausted : exhausted record options with
      | false => rfl
      | true => simp [Model.failed, hexhausted] at failed
    obtain ⟨hnext, hattempts⟩ := due_of_failed hremains due
    refine ⟨?_, hattempts, hnext⟩
    rw [get_put, if_pos rfl]

/-- INTERNAL: the row a failure leaves in the SQLite store.
SOURCE: apps/api/src/reliability/outbox.js:367-380 -/
theorem sqlite_fail_answer {table : OutboxTable} {id workerId : String} {error : JsError}
    {t : Int} {options : FailOptions} {job : OutboxJob}
    (answer : (sqliteOutbox.call (.fail id workerId error t options) table).1 = .ok (.job job))
    (failed : job.status = .failed) :
    ∃ row, (sqliteOutbox.call (.fail id workerId error t options) table).2.get id = some row ∧
      sqliteRow row = job ∧ job.attempts < options.maxAttempts ∧
      job.nextAttemptAt =
        t + backoffMs job.attempts options.baseBackoffMs options.maxBackoffMs := by
  cases hheld : heldRow table id workerId with
  | error e =>
    simp [sqliteOutbox, OutboxCall.sqliteOperation, sqliteFail, hheld] at answer
  | ok record =>
    obtain ⟨row, hget, hclaimed, rfl⟩ := heldRow_spec hheld
    obtain ⟨-, hnow⟩ | ⟨e, he⟩ := nowDate_cases t
    · cases hdue : retryAt (sqliteRow row) t options with
      | error e =>
        simp [sqliteOutbox, OutboxCall.sqliteOperation, sqliteFail, hheld, hnow, hdue] at answer
      | ok next =>
        have hcall : sqliteOutbox.call (.fail id workerId error t options) table =
            (.ok (.job (sqliteRow (setFailed (exhausted (sqliteRow row) options) next error t
              row))), table.set id (setFailed (exhausted (sqliteRow row) options) next error t
              row)) := by
          simp [sqliteOutbox, OutboxCall.sqliteOperation, sqliteFail, hheld, hnow, hdue,
            updateFail, updateById_of_meets hget hclaimed, rereadJob, selectById, jobOrNull]
        rw [hcall] at answer ⊢
        obtain rfl : sqliteRow _ = job := OutboxResult.job.inj (Except.ok.inj answer)
        have hremains : exhausted (sqliteRow row) options = false := by
          cases hexhausted : exhausted (sqliteRow row) options with
          | false => rfl
          | true =>
            rw [hexhausted] at failed
            cases failed
        obtain ⟨hnext, hattempts⟩ := due_of_failed hremains hdue
        refine ⟨_, ?_, rfl, hattempts, hnext⟩
        rw [OrderedMap.get_set, if_pos rfl]
    · simp [sqliteOutbox, OutboxCall.sqliteOperation, sqliteFail, hheld, he] at answer

/-- INTERNAL: a job that a claim of the SQLite store returns was selected.
SOURCE: apps/api/src/reliability/outbox.js:337-357 -/
theorem selected_of_returnsJob {table : OutboxTable} (keyed : RowsKeyed table)
    {claimer : String} {now limit staleAfterMs : Int} {id : String}
    (h : returnsJob id (sqliteOutbox.call (.claim claimer now limit staleAfterMs) table).1) :
    id ∈ selectReady table now (now - staleAfterMs) limit := by
  obtain ⟨hvalid, hnow⟩ | ⟨e, he⟩ := nowIso_cases now
  · obtain ⟨-, hstale⟩ | ⟨e, he⟩ := nowIso_cases (now - staleAfterMs)
    · have hanswer : (sqliteOutbox.call (.claim claimer now limit staleAfterMs) table).1 =
          .ok (.jobs ((selectReady table now (now - staleAfterMs) limit).filterMap (rereadJob
            ((selectReady table now (now - staleAfterMs) limit).foldl (updateClaim claimer now)
              table)))) := by
        simp [sqliteOutbox, OutboxCall.sqliteOperation, sqliteClaim, hnow, hstale]
      rw [hanswer] at h
      obtain ⟨job, hjob, hid⟩ := List.mem_map.mp h
      obtain ⟨selected, hselected, hreread⟩ := List.mem_filterMap.mp hjob
      obtain ⟨row, hrow, rfl⟩ := Option.map_eq_some_iff.mp hreread
      have houtcome : TableOutcome table (.claim claimer now limit staleAfterMs) _ _ :=
        .claimed hvalid
      have hkeyed := keyed.step houtcome
      have hsame : row.id = selected := hkeyed selected row hrow
      rw [← hid]
      show row.id ∈ _
      rw [hsame]
      exact hselected
    · simp [sqliteOutbox, OutboxCall.sqliteOperation, sqliteClaim, hnow, he, returnsJob] at h
  · simp [sqliteOutbox, OutboxCall.sqliteOperation, sqliteClaim, he, returnsJob] at h

/-- INTERNAL: when a failed job is ready.
SOURCE: apps/api/src/reliability/outbox.js:185-188 -/
theorem isReady_failed {job : OutboxJob} (failed : job.status = .failed) (now stale : Int) :
    isReady now stale job = true ↔ job.nextAttemptAt ≤ now := by
  simp [isReady, failed]

/-- INTERNAL: when a failed row is ready.
SOURCE: apps/api/src/reliability/outbox.js:342-344 -/
theorem isReadyRow_failed {row : OutboxRow} (failed : row.status = .failed) (now stale : Int) :
    isReadyRow now stale row = true ↔ textLe row.nextAttemptAt now = true := by
  simp [isReadyRow, failed]

/-- INTERNAL: **the memory store keeps failed jobs to their delays.**
SOURCE: apps/api/src/reliability/outbox.js:182-237 -/
theorem memory_keepsDelay (options : FailOptions) :
    KeepsDelay memoryOutbox .empty memoryEligible (fun _ => True) options := by
  intro before later id workerId error t job failing after delay hfailing hanswer hfailed hafter
    hquiet hdelay _
  subst hdelay
  have hrun : OutboxInvariant (memoryOutbox.run .empty before).1 failing := by
    rw [hfailing]
    exact memoryOutbox.history outboxInvariant_empty
      (fun log s c h => h.step (outcome_call s c)) before
  have hout := outcome_fail failing id workerId error t options
  have hnext := hrun.step hout
  rw [hanswer] at hout
  obtain ⟨hget, hattempts, hdue⟩ := memory_fail_answer hout hfailed
  have hlater : (∃ log, OutboxInvariant log after) ∧ after.items.get id = some job := by
    rw [hafter]
    refine memoryOutbox.invariant_of_answers
      (I := fun s => (∃ log, OutboxInvariant log s) ∧ s.items.get id = some job)
      (R := fun _ answer => ¬ returnsJob id answer) ?_ ⟨⟨_, hnext⟩, hget⟩ hquiet
    rintro s c ⟨⟨log, hinv⟩, hfound⟩ hnot
    have hcall := outcome_call s c
    exact ⟨⟨_, hinv.step hcall⟩, outcome_keeps_failed hinv hcall hfound hfailed hnot⟩
  obtain ⟨⟨log, hinv⟩, hfound⟩ := hlater
  refine ⟨hattempts, fun now staleAfterMs _ => ⟨fun hearly claimer limit hreturns => ?_,
    fun hover => ?_⟩⟩
  · have hclaim := outcome_claim after claimer now limit staleAfterMs
    generalize (memoryOutbox.call (.claim claimer now limit staleAfterMs) after).1 = answer at *
    generalize (memoryOutbox.call (.claim claimer now limit staleAfterMs) after).2 = end' at *
    cases hclaim with
    | refused c e => exact hreturns
    | claimed valid =>
      have hselected :
          id ∈ (sliceTo (ready after now staleAfterMs) limit).map OutboxJob.id := by
        simpa [returnsJob, claimed] using hreturns
      obtain ⟨selected, hget', hready⟩ := selected_ready hinv hselected
      obtain rfl : selected = job := Option.some.inj (hget'.symm.trans hfound)
      have hle := (isReady_failed hfailed now (now - staleAfterMs)).mp hready
      omega
  · refine List.mem_map.mpr ⟨job, List.mem_filter.mpr ⟨?_, ?_⟩, (hinv.jobs id job hfound).keyed⟩
    · exact OrderedMap.mem_values_iff_get.mpr ⟨id, hfound⟩
    · exact (isReady_failed hfailed now (now - staleAfterMs)).mpr (by omega)

/-- INTERNAL: **the SQLite store keeps failed jobs to their delays at times of four-digit years.**
SOURCE: apps/api/src/reliability/outbox.js:337-380 -/
theorem sqlite_keepsDelay (options : FailOptions) :
    KeepsDelay sqliteOutbox .empty sqliteEligible (fun t => fourDigitYear t = true) options := by
  intro before later id workerId error t job failing after delay hfailing hanswer hfailed hafter
    hquiet hdelay hyear
  subst hdelay
  have hkeyed : RowsKeyed failing := by
    rw [hfailing]
    exact sqliteOutbox.history (I := fun _ table => RowsKeyed table)
      (fun id row h => by simp at h) (fun log s c h => h.step (tableOutcome_call s c)) before
  have hnext := hkeyed.step (tableOutcome_call failing (.fail id workerId error t options))
  obtain ⟨row, hget, hrow, hattempts, hdue⟩ := sqlite_fail_answer hanswer hfailed
  have hrowFailed : row.status = .failed := by rw [← hrow] at hfailed; exact hfailed
  have hrowDue : row.nextAttemptAt = job.nextAttemptAt := by rw [← hrow]; rfl
  have hlater : RowsKeyed after ∧ after.get id = some row := by
    rw [hafter]
    refine sqliteOutbox.invariant_of_answers
      (I := fun table => RowsKeyed table ∧ table.get id = some row)
      (R := fun _ answer => ¬ returnsJob id answer) ?_ ⟨hnext, hget⟩ hquiet
    rintro table c ⟨hinv, hfound⟩ hnot
    have hcall := tableOutcome_call table c
    exact ⟨hinv.step hcall, tableOutcome_keeps_failed hinv hcall hfound hrowFailed hnot⟩
  obtain ⟨hinv, hfound⟩ := hlater
  rw [← hdue] at hyear ⊢
  refine ⟨hattempts, fun now staleAfterMs hnow => ⟨fun hearly claimer limit hreturns => ?_,
    fun hover => ?_⟩⟩
  · have hselected := selected_of_returnsJob hinv hreturns
    have hready := ready_of_selected hinv hfound hselected
    rw [isReadyRow_failed hrowFailed, hrowDue, textLe_iff hyear hnow] at hready
    omega
  · unfold sqliteEligible selectReady sqlLimit
    rw [if_pos (by omega)]
    refine List.mem_map.mpr ⟨row, ?_, hinv id row hfound⟩
    refine (List.mem_insertionSort _).mpr (List.mem_filter.mpr
      ⟨OrderedMap.mem_values_iff_get.mpr ⟨id, hfound⟩, ?_⟩)
    rw [isReadyRow_failed hrowFailed, hrowDue, textLe_iff hyear hnow]
    exact hover

/-- The delays of a configuration: exact integers between the base and the greatest delay, the
longer the more attempts, and exact in their sum with any time.
SOURCE: apps/api/src/reliability/outbox.js:117-119, 230 -/
structure ExactDelays (options : WorkerRuntimeOptions) : Prop where
  exact : ∀ attempts, 1 ≤ attempts → attempts ≤ options.maxAttempts →
    backoffNumber attempts options.baseBackoffMs options.maxBackoffMs =
      .finite (backoffMs attempts options.baseBackoffMs options.maxBackoffMs)
  bounded : ∀ attempts, 1 ≤ attempts → attempts ≤ options.maxAttempts →
    (options.baseBackoffMs : Int) ≤
        backoffMs attempts options.baseBackoffMs options.maxBackoffMs ∧
      backoffMs attempts options.baseBackoffMs options.maxBackoffMs ≤ options.maxBackoffMs
  monotone : ∀ a b, 1 ≤ a → a ≤ b → b ≤ options.maxAttempts →
    backoffMs a options.baseBackoffMs options.maxBackoffMs ≤
      backoffMs b options.baseBackoffMs options.maxBackoffMs
  due : ∀ t attempts, isValidTime t = true → 1 ≤ attempts → attempts ≤ options.maxAttempts →
    Double.add (.finite t)
        (backoffNumber attempts options.baseBackoffMs options.maxBackoffMs) =
      .finite (t + backoffMs attempts options.baseBackoffMs options.maxBackoffMs : Int)

/-- INTERNAL: an accepted configuration has exact delays.
SOURCE: packages/production-config/src/index.js:368-401 -/
theorem exactDelays {env : ProcessEnv} {options : WorkerRuntimeOptions}
    (accepted : workerRuntimeOptionsFromEnvironment env = .ok options) : ExactDelays options := by
  obtain ⟨hattempts, hbase, hle, hmax⟩ := workerRuntimeOptions_bounds accepted
  have hexact : ∀ attempts, 1 ≤ attempts → attempts ≤ options.maxAttempts →
      backoffNumber attempts options.baseBackoffMs options.maxBackoffMs =
        .finite (backoffMs attempts options.baseBackoffMs options.maxBackoffMs) := by
    intro attempts _ hlast
    exact backoffNumber_exact (by omega) (by omega) _
  have hbounds : ∀ attempts, (options.baseBackoffMs : Int) ≤
        backoffMs attempts options.baseBackoffMs options.maxBackoffMs ∧
      backoffMs attempts options.baseBackoffMs options.maxBackoffMs ≤ options.maxBackoffMs := by
    intro attempts
    exact backoffMs_bounds attempts (by omega) (by omega)
  refine ⟨hexact, fun attempts _ _ => hbounds attempts, ?_, ?_⟩
  · intro a b _ hab _
    exact backoffMs_mono hab (by omega)
  · intro t attempts hvalid hfirst hlast
    rw [hexact attempts hfirst hlast]
    apply Double.add_intCast
    obtain ⟨hlow, hhigh⟩ := hbounds attempts
    unfold isValidTime maxTime at hvalid
    rw [Bool.and_eq_true, decide_eq_true_eq, decide_eq_true_eq] at hvalid
    omega

/-- **Failed jobs come back after their delay.** With every accepted configuration the delays are
exact, bounded and monotone; the memory store keeps every failed job to its delay, and the SQLite
store does at times of four-digit years.
SOURCE: apps/api/src/reliability/outbox.js:117-119, 182-237, 337-380;
packages/production-config/src/index.js:368-401 -/
theorem failed_jobs_keep_delay (env : ProcessEnv) (options : WorkerRuntimeOptions)
    (accepted : workerRuntimeOptionsFromEnvironment env = .ok options) :
    ExactDelays options ∧
      KeepsDelay memoryOutbox .empty memoryEligible (fun _ => True) options.failOptions ∧
      KeepsDelay sqliteOutbox .empty sqliteEligible (fun t => fourDigitYear t = true)
        options.failOptions :=
  ⟨exactDelays accepted, memory_keepsDelay _, sqlite_keepsDelay _⟩

/-- The configuration of an empty environment. -/
def defaultWorkerOptions : WorkerRuntimeOptions where
  intervalMs := 1000
  maxAttempts := 5
  baseBackoffMs := 1000
  maxBackoffMs := 900000
  concurrency := 4
  staleAfterMs := 60000
  shutdownTimeoutMs := 30000
  maxDeadJobs := 0

/-- An empty environment is accepted, with the defaults. -/
theorem workerRuntimeOptions_default :
    workerRuntimeOptionsFromEnvironment (fun _ => none) = .ok defaultWorkerOptions := by
  decide +kernel

/-- A worker that is configured by the defaults. -/
theorem failed_jobs_keep_delay_default :
    ExactDelays defaultWorkerOptions ∧
      KeepsDelay memoryOutbox .empty memoryEligible (fun _ => True)
        defaultWorkerOptions.failOptions ∧
      KeepsDelay sqliteOutbox .empty sqliteEligible (fun t => fourDigitYear t = true)
        defaultWorkerOptions.failOptions :=
  failed_jobs_keep_delay (fun _ => none) defaultWorkerOptions (by decide +kernel)

/-- A job that is claimed once. -/
def claimedOnce : List OutboxCall :=
  [.enqueue (eventOf "job-1") none 0, .claim "worker-a" 0 1 60000]

/-- The job after its first failure. -/
def failedOnce : OutboxJob where
  id := "job-1"
  tenantId := some "tenant-1"
  event := eventOf "job-1"
  idempotencyKey := "report.requested:1:report:job-1"
  status := .failed
  attempts := 1
  nextAttemptAt := 1000
  lockedAt := none
  lockedBy := none
  lastError := some "timeout"
  replayCount := 0
  lastReplayedAt := none
  lastReplayReason := none
  createdAt := 0
  updatedAt := 0
  completedAt := none

/-- A job that failed in 1970 is not eligible in the year 10000 on SQLite, whose texts begin with a
sign from then on; and a job that failed for the last time is dead, with no delay to wait for.
SOURCE: apps/api/src/reliability/outbox.js:341-345, 374-375 -/
theorem sqlite_delay_never_over :
    ¬ ∀ (env : ProcessEnv) (options : WorkerRuntimeOptions),
      workerRuntimeOptionsFromEnvironment env = .ok options →
      KeepsDelay sqliteOutbox .empty sqliteEligible (fun _ => True) options.failOptions := by
  intro h
  have hkeeps := h (fun _ => none) defaultWorkerOptions (by decide +kernel)
  have hfailed : (sqliteOutbox.call (.fail "job-1" "worker-a" (newError "timeout") 0
      defaultWorkerOptions.failOptions) (sqliteOutbox.run .empty claimedOnce).2).1 =
      .ok (.job failedOnce) := rfl
  obtain ⟨-, hdelay⟩ := hkeeps claimedOnce [] "job-1" "worker-a" (newError "timeout") 0 failedOnce
    _ _ 1000 rfl hfailed rfl rfl (by simp) (by decide) trivial
  have heligible := (hdelay 253402300800000 60000 trivial).2 (by decide)
  exact absurd heligible (by decide +kernel)

end Xygo.Analysis
