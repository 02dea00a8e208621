import Xygo.Analysis.IsoOrder
import Xygo.Analysis.OutboxInvariant
import Xygo.Model.SqliteOutbox

/-!
# The SQLite outbox refines the memory outbox

The table holds the records of the memory store, in the same order (`Refines`), and a call
keeps it so and gets the same answer (`refines_call`), as long as the call is `Comparable`:
the times it writes have years of four digits, so that texts sort as times; a claim takes
all ready jobs, or the ready jobs were enqueued in the order in which SQLite selects them;
and a replay names a tenant. The one answer that differs is that of a replay of a job that
is not dead: the memory store throws, SQLite returns `null`.
-/

set_option autoImplicit false

namespace Xygo.Analysis

open Xygo.Computation Xygo.Model

/-! ## Times of four-digit years -/

/-- INTERNAL: the times of the years 0 to 9999 are an interval. -/
theorem fourDigitYear_iff (t : Int) :
    fourDigitYear t = true ↔ -62167219200000 ≤ t ∧ t < 253402300800000 := by
  obtain ⟨hlow, hhigh⟩ := yearFromTime_spec t
  have hfirst : dayFromYear 0 = -719528 := by decide
  have hlast : dayFromYear 10000 = 2932897 := by decide
  have hday : day t = t / 86400000 := rfl
  simp only [fourDigitYear, Bool.and_eq_true, decide_eq_true_eq]
  constructor
  · rintro ⟨h0, h9⟩
    have hge := monotone_dayFromYear h0
    have hle := monotone_dayFromYear (show yearFromTime t + 1 ≤ 10000 by omega)
    omega
  · rintro ⟨h0, h9⟩
    constructor
    · by_contra hneg
      have hle := monotone_dayFromYear (show yearFromTime t + 1 ≤ 0 by omega)
      omega
    · by_contra hpos
      have hge := monotone_dayFromYear (show 10000 ≤ yearFromTime t by omega)
      omega

/-- INTERNAL: they are valid times. -/
theorem isValidTime_of_fourDigitYear {t : Int} (h : fourDigitYear t = true) :
    isValidTime t = true := by
  rw [fourDigitYear_iff] at h
  unfold isValidTime maxTime
  rw [Bool.and_eq_true, decide_eq_true_eq, decide_eq_true_eq]
  omega

/-- INTERNAL: `nowIso` returns a time of a four-digit year. -/
theorem nowIso_of_fourDigitYear {t : Int} (h : fourDigitYear t = true) : nowIso t = .ok t := by
  have hvalid := isValidTime_of_fourDigitYear h
  simp [nowIso, nowDate, toISOString, hvalid, bind, Except.bind]

/-! ## The relation of the stores -/

/-- The times of a row have years of four digits. -/
structure RowTimes (row : OutboxRow) : Prop where
  next : fourDigitYear row.nextAttemptAt = true
  created : fourDigitYear row.createdAt = true
  locked : ∀ t, row.lockedAt = some t → fourDigitYear t = true

/-- The table holds the records of the memory store, whose calls so far are `log`. -/
structure Refines (log : OutboxLog) (s : OutboxStore) (table : OutboxTable) : Prop where
  items : s.items = table.mapValues sqliteRow
  outbox : OutboxInvariant log s
  times : ∀ id row, table.get id = some row → RowTimes row

/-- The order in which SQLite selects ready jobs: by next attempt, creation and id. -/
def selectedBefore (a b : OutboxJob) : Prop :=
  a.nextAttemptAt < b.nextAttemptAt ∨ (a.nextAttemptAt = b.nextAttemptAt ∧
    (a.createdAt < b.createdAt ∨ (a.createdAt = b.createdAt ∧ a.id ≤ b.id)))

/-- The calls on which the two stores are compared. -/
def Comparable (s : OutboxStore) : OutboxCall → Prop
  | .enqueue _ _ now => fourDigitYear now = true
  | .claim _ now limit staleAfterMs =>
    fourDigitYear now = true ∧ fourDigitYear (now - staleAfterMs) = true ∧ 0 ≤ limit ∧
      ((ready s now staleAfterMs).length ≤ limit ∨
        (ready s now staleAfterMs).Pairwise selectedBefore)
  | .complete _ _ now => fourDigitYear now = true
  | .fail _ _ _ now options =>
    fourDigitYear now = true ∧ 0 ≤ options.baseBackoffMs ∧ 0 ≤ options.maxBackoffMs ∧
      fourDigitYear (now + options.maxBackoffMs) = true
  | .replay _ tenantId _ now => fourDigitYear now = true ∧ tenantId.isSome = true

/-- The answers of the two stores to a call: both throw, both return the same, a claim
returns the same jobs, or a replay met a job that is not dead. -/
inductive SameAnswer : OutboxCall → Except JsError OutboxResult → Except JsError OutboxResult → Prop
  | throws (c : OutboxCall) (e e' : JsError) : SameAnswer c (.error e) (.error e')
  | returns (c : OutboxCall) (r : OutboxResult) : SameAnswer c (.ok r) (.ok r)
  | claims (workerId : String) (now limit staleAfterMs : Int) {jobs jobs' : List OutboxJob}
      (same : jobs.Perm jobs') :
      SameAnswer (.claim workerId now limit staleAfterMs) (.ok (.jobs jobs)) (.ok (.jobs jobs'))
  | notDead (id : String) (tenantId : Option String) (reason : String) (now : Int) :
      SameAnswer (.replay id tenantId reason now) (.error notDead) (.ok (.replayed none))

variable {log : OutboxLog} {s : OutboxStore} {table : OutboxTable}

/-- INTERNAL: a lookup in the two stores. -/
theorem Refines.get (h : Refines log s table) (id : String) :
    s.items.get id = (table.get id).map sqliteRow := by
  rw [h.items, OrderedMap.get_mapValues]

/-- INTERNAL: a row lies under its id. -/
theorem Refines.keyed (h : Refines log s table) {id : String} {row : OutboxRow}
    (hget : table.get id = some row) : row.id = id :=
  (h.outbox.jobs id (sqliteRow row) (by rw [h.get, hget]; rfl)).keyed

/-- INTERNAL: writing the same record into both stores. -/
theorem Refines.set (h : Refines log s table) (id : String) {row : OutboxRow} :
    (s.put id (sqliteRow row)).items = (table.set id row).mapValues sqliteRow := by
  rw [OrderedMap.mapValues_set, ← h.items]
  rfl

/-- INTERNAL: the rows of a table after one is written. -/
theorem Refines.times_set (h : Refines log s table) {id : String} {row : OutboxRow}
    (new : RowTimes row) :
    ∀ id' row', (table.set id row).get id' = some row' → RowTimes row' := by
  intro id' row' hget
  rw [OrderedMap.get_set] at hget
  split at hget
  · obtain rfl := Option.some.inj hget
    exact new
  · exact h.times id' row' hget

/-- INTERNAL: the key that finds a job in the memory store finds its row in the table.
SOURCE: apps/api/src/reliability/outbox.js:171-173, 329 -/
theorem Refines.selectByKey_some (h : Refines log s table) {key id : String} {row : OutboxRow}
    (hget : table.get id = some row) (hkey : row.idempotencyKey = key) :
    selectByKey table key = some row := by
  have hbound (id' : String) (row' : OutboxRow) (hget' : table.get id' = some row')
      (hkey' : row'.idempotencyKey = key) : s.idempotencyKeys.get key = some id' :=
    (h.outbox.bound key id').mpr ⟨sqliteRow row', by rw [h.get, hget']; rfl, hkey'⟩
  cases hfind : selectByKey table key with
  | none =>
    have hmem : row ∈ table.values := OrderedMap.mem_values_iff_get.mpr ⟨id, hget⟩
    have hnone := List.find?_eq_none.mp hfind row hmem
    simp [hkey] at hnone
  | some found =>
    have hfoundKey : found.idempotencyKey = key := by
      simpa using List.find?_some hfind
    obtain ⟨id', hid'⟩ := OrderedMap.mem_values_iff_get.mp (List.mem_of_find?_eq_some hfind)
    have hsame : id' = id := Option.some.inj
      ((hbound id' found hid' hfoundKey).symm.trans (hbound id row hget hkey))
    rw [← hget, ← hid', hsame]

/-- INTERNAL: a key that finds nothing in the memory store finds nothing in the table.
SOURCE: apps/api/src/reliability/outbox.js:171, 329 -/
theorem Refines.selectByKey_none (h : Refines log s table) {key : String}
    (hfree : s.idempotencyKeys.get key = none) : selectByKey table key = none := by
  refine List.find?_eq_none.mpr fun row hrow => ?_
  obtain ⟨id, hget⟩ := OrderedMap.mem_values_iff_get.mp hrow
  have hbound : s.idempotencyKeys.get row.idempotencyKey = some id :=
    (h.outbox.bound _ id).mpr ⟨sqliteRow row, by rw [h.get, hget]; rfl, rfl⟩
  have hne : row.idempotencyKey ≠ key := by
    rintro rfl
    rw [hfree] at hbound
    cases hbound
  simpa using hne

/-! ## The operations -/

/-- What the two stores do with one call: they answer alike and hold the same records. -/
structure Agree (s : OutboxStore) (table : OutboxTable) (c : OutboxCall) : Prop where
  answer : SameAnswer c (memoryOutbox.call c s).1 (sqliteOutbox.call c table).1
  items : (memoryOutbox.call c s).2.items =
    (sqliteOutbox.call c table).2.mapValues sqliteRow
  times : ∀ id row, (sqliteOutbox.call c table).2.get id = some row → RowTimes row

/-- INTERNAL: `newJob` builds the job whose row `INSERT` writes, at the time of the call.
SOURCE: apps/api/src/reliability/outbox.js:87-111, 321-328 -/
theorem newJob_inserted {event : OutboxEvent} {key : Option String} {now : Int} {job : OutboxJob}
    (h : newJob event key now = .ok job) :
    sqliteRow (insertedRow job event) = job ∧ sameLogicalEvent job event = true ∧
      job.nextAttemptAt = now ∧ job.createdAt = now := by
  unfold newJob at h
  obtain ⟨id, -, h⟩ := bind_eq_ok.mp h
  obtain ⟨-, -, h⟩ := bind_eq_ok.mp h
  obtain ⟨-, -, h⟩ := bind_eq_ok.mp h
  obtain ⟨-, -, h⟩ := bind_eq_ok.mp h
  obtain ⟨timestamp, htime, h⟩ := bind_eq_ok.mp h
  obtain ⟨idempotencyKey, -, h⟩ := bind_eq_ok.mp h
  obtain rfl := Except.ok.inj h
  have hnow : timestamp = now := by
    obtain ⟨-, hok⟩ | ⟨e, he⟩ := nowIso_cases now
    · exact Except.ok.inj (htime.symm.trans hok)
    · simp [he] at htime
  exact ⟨rfl, by simp [sameLogicalEvent], hnow, hnow⟩

/-- INTERNAL: the stores agree on a call whose outcomes are known. -/
theorem Agree.of_calls {c : OutboxCall} {r r' : Except JsError OutboxResult} (s' : OutboxStore)
    (table' : OutboxTable) (hmem : memoryOutbox.call c s = (r, s'))
    (hsql : sqliteOutbox.call c table = (r', table')) (answer : SameAnswer c r r')
    (items : s'.items = table'.mapValues sqliteRow)
    (times : ∀ id row, table'.get id = some row → RowTimes row) : Agree s table c where
  answer := by rw [hmem, hsql]; exact answer
  items := by rw [hmem, hsql]; exact items
  times := by rw [hsql]; exact times

/-- INTERNAL: the two stores agree on `enqueue`.
SOURCE: apps/api/src/reliability/outbox.js:169-181, 318-336 -/
theorem agree_enqueue (h : Refines log s table) {event : OutboxEvent} {key : Option String}
    {now : Int} (hnow : fourDigitYear now = true) : Agree s table (.enqueue event key now) := by
  cases hjob : newJob event key now with
  | error e =>
    refine Agree.of_calls s table ?_ ?_ (.throws _ e e) h.items h.times
    · simp [memoryOutbox, OutboxCall.operation, enqueue, hjob]
    · simp [sqliteOutbox, OutboxCall.sqliteOperation, sqliteEnqueue, hjob]
  | ok job =>
    obtain ⟨hinserted, hsame, hnext, hcreated⟩ := newJob_inserted hjob
    cases hkey : s.idempotencyKeys.get job.idempotencyKey with
    | some existingId =>
      obtain ⟨existing, hget, hexisting⟩ := (h.outbox.bound _ _).mp hkey
      rw [h.get] at hget
      obtain ⟨row, hrow, rfl⟩ := Option.map_eq_some_iff.mp hget
      have hselect := h.selectByKey_some hrow hexisting
      have hinsert : insertOrIgnore job event table = table := by
        simp [insertOrIgnore, hselect]
      by_cases hlogical : sameLogicalEvent (sqliteRow row) event = true
      · refine Agree.of_calls s table ?_ ?_ (.returns _ (.job (sqliteRow row))) h.items h.times
        · simp [memoryOutbox, OutboxCall.operation, enqueue, hjob, hkey, h.get, hrow, hlogical]
        · simp [sqliteOutbox, OutboxCall.sqliteOperation, sqliteEnqueue, hjob, hinsert,
            enqueueAnswer, hselect, hlogical]
      · refine Agree.of_calls s table ?_ ?_ (.throws _ idempotencyConflict idempotencyConflict)
          h.items h.times
        · simp [memoryOutbox, OutboxCall.operation, enqueue, hjob, hkey, h.get, hrow, hlogical]
        · simp [sqliteOutbox, OutboxCall.sqliteOperation, sqliteEnqueue, hjob, hinsert,
            enqueueAnswer, hselect, hlogical]
    | none =>
      have hselect := h.selectByKey_none hkey
      cases hid : table.has job.id with
      | true =>
        have htaken : s.items.has job.id = true := by rw [h.items, OrderedMap.has_mapValues, hid]
        have hinsert : insertOrIgnore job event table = table := by simp [insertOrIgnore, hid]
        obtain ⟨row, hrow⟩ := Option.isSome_iff_exists.mp (OrderedMap.has_eq_isSome table _ ▸ hid)
        refine Agree.of_calls s table ?_ ?_ (.throws _ idTaken idTaken) h.items h.times
        · simp [memoryOutbox, OutboxCall.operation, enqueue, hjob, hkey, htaken]
        · simp [sqliteOutbox, OutboxCall.sqliteOperation, sqliteEnqueue, hjob, hinsert,
            enqueueAnswer, hselect, selectById, hrow]
      | false =>
        have hfree : s.items.has job.id = false := by rw [h.items, OrderedMap.has_mapValues, hid]
        have hinsert : insertOrIgnore job event table =
            table.set job.id (insertedRow job event) := by simp [insertOrIgnore, hid, hselect]
        have hreread : selectByKey (table.set job.id (insertedRow job event)) job.idempotencyKey =
            some (insertedRow job event) := by
          have hvalues := OrderedMap.values_set_of_not_has hid (insertedRow job event)
          rw [selectByKey, hvalues, List.find?_append]
          rw [show List.find? _ table.values = none from hselect]
          simp [insertedRow]
        refine Agree.of_calls
          ⟨s.items.set job.id job, s.idempotencyKeys.set job.idempotencyKey job.id⟩
          (table.set job.id (insertedRow job event)) ?_ ?_ (.returns _ (.job job)) ?_
          (h.times_set ?_)
        · simp [memoryOutbox, OutboxCall.operation, enqueue, hjob, hkey, hfree]
        · simp [sqliteOutbox, OutboxCall.sqliteOperation, sqliteEnqueue, hjob, hinsert,
            enqueueAnswer, hreread, hinserted, hsame]
        · rw [OrderedMap.mapValues_set, ← h.items, hinserted]
        · exact {
            next := by rw [← hnext] at hnow; exact hnow
            created := by rw [← hcreated] at hnow; exact hnow
            locked := fun t ht => by cases ht }

/-- INTERNAL: the two stores find the same job claimed by a worker.
SOURCE: apps/api/src/reliability/outbox.js:204-207, 368-371 -/
theorem heldRow_eq_heldBy (h : Refines log s table) (id workerId : String) :
    heldRow table id workerId = heldBy s id workerId := by
  unfold heldRow heldBy selectById
  rw [h.get]
  cases hget : table.get id with
  | none => rfl
  | some row =>
    by_cases hclaimed : claimedBy workerId row = true
    · have hheld : row.status = .processing ∧ row.lockedBy = some workerId := by
        simpa [claimedBy] using hclaimed
      simp [hclaimed, sqliteRow, hheld]
    · have hfree : row.status ≠ .processing ∨ row.lockedBy ≠ some workerId := by
        simpa [claimedBy, imp_iff_not_or] using hclaimed
      simp [hclaimed, sqliteRow, hfree]

/-- INTERNAL: a claimed job and the row that an update of its claim changes.
SOURCE: apps/api/src/reliability/outbox.js:204-207, 363, 377 -/
theorem heldBy_row (h : Refines log s table) {id workerId : String} {record : OutboxJob}
    (hheld : heldBy s id workerId = .ok record) :
    ∃ row, table.get id = some row ∧ sqliteRow row = record ∧
      ∀ change, updateById id (claimedBy workerId) change table =
        (table.set id (change row), 1) := by
  rw [← heldRow_eq_heldBy h] at hheld
  unfold heldRow selectById at hheld
  split at hheld
  · rename_i row hget
    split at hheld
    · rename_i hclaimed
      exact ⟨row, hget, Except.ok.inj hheld, fun change => by simp [updateById, hget, hclaimed]⟩
    · cases hheld
  · cases hheld

/-- INTERNAL: an update of a claim that the worker does not hold changes nothing.
SOURCE: apps/api/src/reliability/outbox.js:204-207, 363, 377 -/
theorem not_heldBy_row (h : Refines log s table) {id workerId : String}
    (hheld : heldBy s id workerId = .error notClaimed) (change : OutboxRow → OutboxRow) :
    updateById id (claimedBy workerId) change table = (table, 0) := by
  rw [← heldRow_eq_heldBy h] at hheld
  unfold heldRow selectById at hheld
  unfold updateById
  split at hheld
  · split at hheld
    · cases hheld
    · rename_i hclaimed
      simp [hclaimed]
  · simp

/-- INTERNAL: the two stores agree on `complete`.
SOURCE: apps/api/src/reliability/outbox.js:203-218, 358-366 -/
theorem agree_complete (h : Refines log s table) {id workerId : String} {now : Int}
    (hnow : fourDigitYear now = true) : Agree s table (.complete id workerId now) := by
  have hiso := nowIso_of_fourDigitYear hnow
  obtain ⟨record, hheld, -⟩ | hheld := heldBy_cases s id workerId
  · obtain ⟨row, hget, rfl, hupdate⟩ := heldBy_row h hheld
    refine Agree.of_calls (s.put id (sqliteRow (setCompleted now row)))
      (table.set id (setCompleted now row)) ?_ ?_
      (.returns _ (.job (sqliteRow (setCompleted now row)))) (h.set id) (h.times_set ?_)
    · simp [memoryOutbox, OutboxCall.operation, complete, hheld, hiso]
      exact ⟨rfl, rfl⟩
    · simp [sqliteOutbox, OutboxCall.sqliteOperation, sqliteComplete, hiso, updateComplete, hupdate,
        rereadJob, selectById, jobOrNull]
    · have htimes := h.times id row hget
      exact ⟨htimes.next, htimes.created, fun t ht => by cases ht⟩
  · refine Agree.of_calls s table ?_ ?_ (.throws _ notClaimed notClaimed) h.items h.times
    · simp [memoryOutbox, OutboxCall.operation, complete, hheld]
    · simp [sqliteOutbox, OutboxCall.sqliteOperation, sqliteComplete, hiso, updateComplete,
        not_heldBy_row h hheld]

/-- INTERNAL: a failed job is next due at a time of a four-digit year.
SOURCE: apps/api/src/reliability/outbox.js:117-119, 228-230 -/
theorem retryAt_fourDigitYear (record : OutboxJob) {now : Int} {options : FailOptions}
    (hnow : fourDigitYear now = true) (hbase : 0 ≤ options.baseBackoffMs)
    (hmax : 0 ≤ options.maxBackoffMs)
    (hlast : fourDigitYear (now + options.maxBackoffMs) = true) :
    ∃ next, retryAt record now options = .ok next ∧ fourDigitYear next = true := by
  have hiso {t : Int} (ht : fourDigitYear t = true) : toISOString t = .ok t := by
    simp [toISOString, isValidTime_of_fourDigitYear ht]
  unfold retryAt
  split
  · exact ⟨now, hiso hnow, hnow⟩
  · have hpow : 0 ≤ options.baseBackoffMs * 2 ^ (record.attempts - 1) :=
      Int.mul_nonneg hbase (by positivity)
    have hlow : 0 ≤ backoffMs record.attempts options.baseBackoffMs options.maxBackoffMs :=
      le_min hmax hpow
    have hhigh : backoffMs record.attempts options.baseBackoffMs options.maxBackoffMs ≤
        options.maxBackoffMs := min_le_left _ _
    have hyear : fourDigitYear
        (now + backoffMs record.attempts options.baseBackoffMs options.maxBackoffMs) = true := by
      rw [fourDigitYear_iff] at hnow hlast ⊢
      omega
    exact ⟨_, hiso hyear, hyear⟩

/-- INTERNAL: the two stores agree on `fail`.
SOURCE: apps/api/src/reliability/outbox.js:219-237, 367-380 -/
theorem agree_fail (h : Refines log s table) {id workerId : String} {error : JsError} {now : Int}
    {options : FailOptions} (hnow : fourDigitYear now = true) (hbase : 0 ≤ options.baseBackoffMs)
    (hmax : 0 ≤ options.maxBackoffMs)
    (hlast : fourDigitYear (now + options.maxBackoffMs) = true) :
    Agree s table (.fail id workerId error now options) := by
  have hdate : nowDate now = .ok now := by simp [nowDate, isValidTime_of_fourDigitYear hnow]
  obtain ⟨record, hheld, -⟩ | hheld := heldBy_cases s id workerId
  · obtain ⟨row, hget, rfl, hupdate⟩ := heldBy_row h hheld
    obtain ⟨next, hretry, hnext⟩ := retryAt_fourDigitYear (sqliteRow row) hnow hbase hmax hlast
    let row' := setFailed (exhausted (sqliteRow row) options) next error now row
    refine Agree.of_calls (s.put id (sqliteRow row')) (table.set id row') ?_ ?_
      (.returns _ (.job (sqliteRow row'))) (h.set id) (h.times_set ?_)
    · simp [memoryOutbox, OutboxCall.operation, fail, hheld, hdate, hretry]
      exact ⟨rfl, rfl⟩
    · simp [sqliteOutbox, OutboxCall.sqliteOperation, sqliteFail, heldRow_eq_heldBy h, hheld, hdate,
        hretry, updateFail, hupdate, rereadJob, selectById, jobOrNull]
      exact ⟨rfl, rfl⟩
    · exact ⟨hnext, (h.times id row hget).created, fun t ht => by cases ht⟩
  · refine Agree.of_calls s table ?_ ?_ (.throws _ notClaimed notClaimed) h.items h.times
    · simp [memoryOutbox, OutboxCall.operation, fail, hheld]
    · simp [sqliteOutbox, OutboxCall.sqliteOperation, sqliteFail, heldRow_eq_heldBy h, hheld]

/-- INTERNAL: the two stores agree on `replay`, up to the error of the memory store on a job
that is not dead.
SOURCE: apps/api/src/reliability/outbox.js:253-273, 391-400 -/
theorem agree_replay (h : Refines log s table) {id : String} {tenantId : Option String}
    {reason : String} {now : Int} (hnow : fourDigitYear now = true)
    (htenant : tenantId.isSome = true) : Agree s table (.replay id tenantId reason now) := by
  have hiso := nowIso_of_fourDigitYear hnow
  cases hreason : normalizedReplayReason reason with
  | error e =>
    refine Agree.of_calls s table ?_ ?_ (.throws _ e e) h.items h.times
    · simp [memoryOutbox, OutboxCall.operation, replay, hreason]
    · simp [sqliteOutbox, OutboxCall.sqliteOperation, sqliteReplay, hreason]
  | ok replayReason =>
    cases hget : table.get id with
    | none =>
      refine Agree.of_calls s table ?_ ?_ (.returns _ (.replayed none)) h.items h.times
      · simp [memoryOutbox, OutboxCall.operation, replay, hreason, h.get, hget]
      · simp [sqliteOutbox, OutboxCall.sqliteOperation, sqliteReplay, hreason, hiso, updateReplay,
          updateById, hget]
    | some row =>
      by_cases hown : (sqliteRow row).tenantId = tenantId
      · by_cases hdead : (sqliteRow row).status = .dead
        · let row' := setReplayed replayReason now row
          have hmeets : deadOf tenantId row = true := by
            have hrow : row.tenantId = tenantId ∧ row.status = .dead := ⟨hown, hdead⟩
            simp [deadOf, hrow, htenant]
          refine Agree.of_calls (s.put id (sqliteRow row')) (table.set id row') ?_ ?_
            (.returns _ (.replayed (some (sqliteRow row')))) (h.set id) (h.times_set ?_)
          · simp [memoryOutbox, OutboxCall.operation, replay, hreason, h.get, hget, hown, hdead,
              hiso]
            exact ⟨rfl, rfl⟩
          · simp [sqliteOutbox, OutboxCall.sqliteOperation, sqliteReplay, hreason, hiso,
              updateReplay, updateById, hget, hmeets, rereadJob, selectById]
            exact ⟨rfl, rfl⟩
          · exact ⟨hnow, (h.times id row hget).created, fun t ht => by cases ht⟩
        · have hfails : deadOf tenantId row = false := by
            have hrow : row.status ≠ .dead := hdead
            simp [deadOf, hrow]
          refine Agree.of_calls s table ?_ ?_ (.notDead id tenantId reason now) h.items h.times
          · simp [memoryOutbox, OutboxCall.operation, replay, hreason, h.get, hget, hown, hdead]
          · simp [sqliteOutbox, OutboxCall.sqliteOperation, sqliteReplay, hreason, hiso,
              updateReplay, updateById, hget, hfails]
      · have hfails : deadOf tenantId row = false := by
          have hrow : row.tenantId ≠ tenantId := hown
          simp [deadOf, hrow]
        refine Agree.of_calls s table ?_ ?_ (.returns _ (.replayed none)) h.items h.times
        · simp [memoryOutbox, OutboxCall.operation, replay, hreason, h.get, hget, hown]
        · simp [sqliteOutbox, OutboxCall.sqliteOperation, sqliteReplay, hreason, hiso,
            updateReplay, updateById, hget, hfails]

/-! ## Claims -/

/-- INTERNAL: the two stores agree on which jobs are ready.
SOURCE: apps/api/src/reliability/outbox.js:185-188, 342-344 -/
theorem isReadyRow_eq {row : OutboxRow} (times : RowTimes row) {now staleBefore : Int}
    (hnow : fourDigitYear now = true) (hstale : fourDigitYear staleBefore = true) :
    isReadyRow now staleBefore row = isReady now staleBefore (sqliteRow row) := by
  have hnext : textLe row.nextAttemptAt now = decide (row.nextAttemptAt ≤ now) := by
    rw [Bool.eq_iff_iff, textLe_iff times.next hnow, decide_eq_true_eq]
  unfold isReadyRow isReady
  rw [hnext]
  cases hlocked : row.lockedAt with
  | none => simp [sqliteRow, hlocked]
  | some t =>
    have hlock : textLe t staleBefore = decide (t ≤ staleBefore) := by
      rw [Bool.eq_iff_iff, textLe_iff (times.locked t hlocked) hstale, decide_eq_true_eq]
    simp [sqliteRow, hlocked, hlock]

/-- INTERNAL: texts of four-digit years are equal as the times are. -/
theorem isoText_eq_iff {a b : Int} (ha : fourDigitYear a = true) (hb : fourDigitYear b = true) :
    isoText a = isoText b ↔ a = b := by
  constructor
  · intro h
    have hab : ¬ a < b := by
      rw [← isoText_lt_iff ha hb, h]
      exact List.lt_irrefl _
    have hba : ¬ b < a := by
      rw [← isoText_lt_iff hb ha, h]
      exact List.lt_irrefl _
    omega
  · rintro rfl
    rfl

/-- INTERNAL: SQLite orders rows as `selectedBefore` says.
SOURCE: apps/api/src/reliability/outbox.js:345 -/
theorem rowLe_iff {a b : OutboxRow} (ha : RowTimes a) (hb : RowTimes b) :
    rowLe a b = true ↔ selectedBefore (sqliteRow a) (sqliteRow b) := by
  simp [rowLe, selectedBefore, sqliteRow, isoText_lt_iff ha.next hb.next,
    isoText_eq_iff ha.next hb.next, isoText_lt_iff ha.created hb.created,
    isoText_eq_iff ha.created hb.created]

/-- INTERNAL: the ready jobs of the memory store are the ready rows, in the same order.
SOURCE: apps/api/src/reliability/outbox.js:182-189, 341-345 -/
theorem Refines.ready_eq (h : Refines log s table) {now staleAfterMs : Int}
    (hnow : fourDigitYear now = true) (hstale : fourDigitYear (now - staleAfterMs) = true) :
    ready s now staleAfterMs =
      (table.values.filter (isReadyRow now (now - staleAfterMs))).map sqliteRow := by
  unfold ready
  rw [h.items, OrderedMap.values_mapValues, List.filter_map]
  congr 1
  refine List.filter_congr fun row hrow => ?_
  obtain ⟨id, hget⟩ := OrderedMap.mem_values_iff_get.mp hrow
  exact (isReadyRow_eq (h.times id row hget) hnow hstale).symm

/-- INTERNAL: a comparable claim selects the same jobs in both stores.
SOURCE: apps/api/src/reliability/outbox.js:192, 341-346 -/
theorem selectReady_perm (h : Refines log s table) {workerId : String}
    {now limit staleAfterMs : Int} (hc : Comparable s (.claim workerId now limit staleAfterMs)) :
    (selectReady table now (now - staleAfterMs) limit).Perm
      ((sliceTo (ready s now staleAfterMs) limit).map OutboxJob.id) := by
  obtain ⟨hnow, hstale, hlimit, hcover⟩ := hc
  rw [h.ready_eq hnow hstale] at hcover ⊢
  have htimes : ∀ row ∈ table.values.filter (isReadyRow now (now - staleAfterMs)),
      RowTimes row := by
    intro row hrow
    obtain ⟨id, hget⟩ := OrderedMap.mem_values_iff_get.mp (List.mem_filter.mp hrow).1
    exact h.times id row hget
  unfold selectReady sqlLimit sliceTo
  generalize table.values.filter (isReadyRow now (now - staleAfterMs)) = rows at hcover htimes ⊢
  have hneg : ¬ limit < 0 := by omega
  have hids : (fun row : OutboxRow => (sqliteRow row).id) = OutboxRow.id := rfl
  rw [if_neg hneg, if_neg hneg, ← List.map_take, List.map_map, Function.comp_def, hids]
  refine List.Perm.map _ ?_
  rcases hcover with hall | hordered
  · have hlen : rows.length ≤ limit.toNat := by simp only [List.length_map] at hall; omega
    rw [List.take_of_length_le hlen,
      List.take_of_length_le ((List.length_insertionSort _ rows).trans_le hlen)]
    exact List.perm_insertionSort _ rows
  · have hpair : rows.Pairwise fun a b => rowLe a b = true := by
      refine (List.pairwise_map.mp hordered).imp_of_mem fun ha hb hab => ?_
      exact (rowLe_iff (htimes _ ha) (htimes _ hb)).mpr hab
    rw [List.Pairwise.insertionSort_eq hpair]

/-- INTERNAL: the row under an id after the claim's update of one row.
SOURCE: apps/api/src/reliability/outbox.js:347-350 -/
theorem get_updateClaim (workerId : String) (now : Int) (table : OutboxTable) (id id' : String) :
    (updateClaim workerId now table id).get id' =
      if id' = id then (table.get id).map (setClaimed workerId now) else table.get id' := by
  unfold updateClaim updateById
  cases hget : table.get id with
  | none =>
    by_cases hid : id' = id
    · subst hid; simp [hget]
    · simp [hid]
  | some row => simp

/-- INTERNAL: an update adds and removes no row.
SOURCE: apps/api/src/reliability/outbox.js:347-350 -/
theorem keys_updateClaim (workerId : String) (now : Int) (table : OutboxTable) (id : String) :
    (updateClaim workerId now table id).keys = table.keys := by
  unfold updateClaim updateById
  cases hget : table.get id with
  | none => rfl
  | some row =>
    have hhas : table.has id = true := by simp [OrderedMap.has_eq_isSome, hget]
    simp [OrderedMap.keys_set_of_has hhas]

/-- INTERNAL: the table after the updates of a claim, one for each selected row. The induction
is on the selected ids; each of them is updated once.
SOURCE: apps/api/src/reliability/outbox.js:350 -/
theorem claimRows_spec (workerId : String) (now : Int) {ids : List String} (hnd : ids.Nodup)
    (table : OutboxTable) :
    (ids.foldl (updateClaim workerId now) table).keys = table.keys ∧
      ∀ id, (ids.foldl (updateClaim workerId now) table).get id =
        if id ∈ ids then (table.get id).map (setClaimed workerId now) else table.get id := by
  induction ids generalizing table with
  | nil => exact ⟨rfl, fun id => by simp⟩
  | cons first ids ih =>
    obtain ⟨hfirst, hrest⟩ := List.nodup_cons.mp hnd
    obtain ⟨hkeys, hget⟩ := ih hrest (updateClaim workerId now table first)
    refine ⟨hkeys.trans (keys_updateClaim workerId now table first), fun id => ?_⟩
    rw [List.foldl_cons, hget id, get_updateClaim]
    by_cases hid : id = first
    · subst hid
      simp [hfirst]
    · simp [hid]

/-- INTERNAL: the ids a claim selects do not repeat.
SOURCE: apps/api/src/reliability/outbox.js:192 -/
theorem nodup_selected (h : OutboxInvariant log s) (now limit staleAfterMs : Int) :
    ((sliceTo (ready s now staleAfterMs) limit).map OutboxJob.id).Nodup := by
  have hids : s.items.values.map OutboxJob.id = s.items.keys := by
    unfold OrderedMap.values OrderedMap.keys
    rw [List.map_map]
    refine List.map_congr_left fun e he => ?_
    exact (h.jobs e.1 e.2 (OrderedMap.get_eq_some.mpr he)).keyed
  have hsub : ((sliceTo (ready s now staleAfterMs) limit).map OutboxJob.id).Sublist
      (s.items.values.map OutboxJob.id) :=
    ((sliceTo_sublist _ _).trans List.filter_sublist).map _
  exact hsub.nodup (hids ▸ s.items.nodup_keys)

/-- INTERNAL: the two stores agree on a comparable claim.
SOURCE: apps/api/src/reliability/outbox.js:190-202, 337-357 -/
theorem agree_claim (h : Refines log s table) {workerId : String} {now limit staleAfterMs : Int}
    (hc : Comparable s (.claim workerId now limit staleAfterMs)) :
    Agree s table (.claim workerId now limit staleAfterMs) := by
  have hperm := selectReady_perm h hc
  have hnow := nowIso_of_fourDigitYear hc.1
  have hstale := nowIso_of_fourDigitYear hc.2.1
  have hget := get_claimed h.outbox workerId now limit staleAfterMs
  generalize hsel : sliceTo (ready s now staleAfterMs) limit = selected at hperm hget
  generalize hids : selectReady table now (now - staleAfterMs) limit = ids at hperm
  have hnd : ids.Nodup :=
    hperm.nodup_iff.mpr (hsel ▸ nodup_selected h.outbox now limit staleAfterMs)
  obtain ⟨hkeys, hrows⟩ := claimRows_spec workerId now hnd table
  have hclaimedRow (row : OutboxRow) :
      sqliteRow (setClaimed workerId now row) = claimed workerId now (sqliteRow row) := rfl
  have hstored : ∀ job ∈ selected, s.items.get job.id = some job := by
    intro job hjob
    rw [← hsel] at hjob
    obtain ⟨id, hid⟩ :=
      OrderedMap.mem_values_iff_get.mp (List.mem_filter.mp (mem_of_mem_sliceTo hjob)).1
    rw [(h.outbox.jobs id job hid).keyed, hid]
  have hreread : ∀ job ∈ selected,
      rereadJob (ids.foldl (updateClaim workerId now) table) job.id =
        some (claimed workerId now job) := by
    intro job hjob
    have hjobId : job.id ∈ ids := hperm.mem_iff.mpr (List.mem_map_of_mem hjob)
    have hjobRow := hstored job hjob
    rw [h.get] at hjobRow
    obtain ⟨row, hrow, rfl⟩ := Option.map_eq_some_iff.mp hjobRow
    simp [rereadJob, selectById, hrows, hjobId, hrow, hclaimedRow]
  have hjobs : (selected.map (claimed workerId now)).Perm
      (ids.filterMap (rereadJob (ids.foldl (updateClaim workerId now) table))) := by
    refine List.Perm.trans (List.Perm.of_eq ?_) (hperm.symm.filterMap _)
    rw [List.filterMap_map, ← List.filterMap_eq_map]
    exact List.filterMap_congr fun job hjob => (hreread job hjob).symm
  refine Agree.of_calls
    { s with items := s.items.mapValues fun record =>
        if record.id ∈ selected.map OutboxJob.id then claimed workerId now record else record }
    (ids.foldl (updateClaim workerId now) table) ?_ ?_ (.claims _ _ _ _ hjobs) ?_ ?_
  · simp [memoryOutbox, OutboxCall.operation, claim, hnow, hsel]
  · simp [sqliteOutbox, OutboxCall.sqliteOperation, sqliteClaim, hnow, hstale, hids]
  · refine OrderedMap.ext_get ?_ fun id => ?_
    · simp [hkeys, h.items]
    · rw [hget, OrderedMap.get_mapValues, hrows, h.get]
      by_cases hid : id ∈ ids
      · rw [if_pos hid, if_pos (hperm.mem_iff.mp hid), Option.map_map, Option.map_map]
        rfl
      · rw [if_neg hid, if_neg (fun hmem => hid (hperm.mem_iff.mpr hmem))]
  · intro id row hrow
    rw [hrows] at hrow
    split at hrow
    · obtain ⟨old, hold, rfl⟩ := Option.map_eq_some_iff.mp hrow
      have htimes := h.times id old hold
      refine ⟨htimes.next, htimes.created, fun t ht => ?_⟩
      obtain rfl : now = t := Option.some.inj ht
      exact hc.1
    · exact h.times id row hrow

/-! ## Runs -/

/-- INTERNAL: **the step lemma.** A comparable call keeps the relation of the stores and gets
the same answer.
SOURCE: apps/api/src/reliability/outbox.js:163-282, 306-419 -/
theorem refines_call (h : Refines log s table) {c : OutboxCall} (hc : Comparable s c) :
    SameAnswer c (memoryOutbox.call c s).1 (sqliteOutbox.call c table).1 ∧
      Refines (log ++ [(c, (memoryOutbox.call c s).1)]) (memoryOutbox.call c s).2
        (sqliteOutbox.call c table).2 := by
  have hagree : Agree s table c := by
    cases c with
    | enqueue event key now => exact agree_enqueue h hc
    | claim workerId now limit staleAfterMs => exact agree_claim h hc
    | complete id workerId now => exact agree_complete h hc
    | fail id workerId error now options => exact agree_fail h hc.1 hc.2.1 hc.2.2.1 hc.2.2.2
    | replay id tenantId reason now => exact agree_replay h hc.1 hc.2
  exact ⟨hagree.answer, {
    items := hagree.items
    outbox := h.outbox.step (outcome_call s c)
    times := hagree.times }⟩

/-- INTERNAL: the two empty stores.
SOURCE: apps/api/src/reliability/outbox.js:163-166, 310 -/
theorem refines_empty : Refines [] .empty .empty where
  items := rfl
  outbox := outboxInvariant_empty
  times id row h := by simp at h

/-- An event with the given id, whose key is its own. -/
def eventOf (id : String) : OutboxEvent where
  id := id
  eventType := "report.requested"
  aggregateType := "report"
  aggregateId := id
  tenantId := some "tenant-1"

/-- Two jobs of one instant, the later id first. -/
def twoJobs : List OutboxCall :=
  [.enqueue (eventOf "job-2") none 0, .enqueue (eventOf "job-1") none 0]

/-- The ids of the jobs a run claimed. -/
def claimedIds (log : OutboxLog) : List String :=
  log.flatMap fun
    | (_, .ok (.jobs jobs)) => jobs.map OutboxJob.id
    | _ => []

end Xygo.Analysis
