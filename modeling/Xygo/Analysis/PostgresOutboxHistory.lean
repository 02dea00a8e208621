import Mathlib.Data.Prod.Lex
import Mathlib.Data.Nat.Init
import Xygo.Analysis.OutboxInvariant
import Xygo.Model.PostgresOutbox

/-!
# Serial histories of the Postgres outbox

`Committed rows c r rows'` lists what a call can do to the table and answer, all at once; the
rows that a claim takes are any of the ready ones. Along a history of such calls from the
empty table every job keeps the invariant of the memory store's jobs, and no attempt of a job
is handed out twice: rows only move forward through their rounds, and a claim moves the rows
it hands out.
-/

set_option autoImplicit false

namespace Xygo.Analysis

open Xygo.Computation Xygo.Model

/-- The claims of a job, counted first by its replays and then since the last of them. -/
def claimRound (job : OutboxJob) : ℕ ×ₗ ℕ := toLex (job.replayCount, job.attempts)

/-- The ways a call can change the table and return. -/
inductive Committed (rows : OutboxTable) : OutboxCall → OutboxResult → OutboxTable → Prop
  /-- A new job enters under a free key and a free id. -/
  | enqueued {event : OutboxEvent} {key : Option String} {now : Int} {job : OutboxJob}
      (built : newJob event key now = .ok job)
      (freeKey : selectByKey rows job.idempotencyKey = none)
      (freeId : rows.get job.id = none) :
      Committed rows (.enqueue event key now) (.job (postgresRow (postgresInsertedRow job event)))
        (rows.set job.id (postgresInsertedRow job event))
  /-- The key is bound to the same logical event. -/
  | duplicate {event : OutboxEvent} {key : Option String} {now : Int} {job : OutboxJob}
      {existing : OutboxRow}
      (built : newJob event key now = .ok job)
      (found : selectByKey rows job.idempotencyKey = some existing)
      (same : sameLogicalEvent (postgresRow existing) event = true) :
      Committed rows (.enqueue event key now) (.job (postgresRow existing)) rows
  /-- Ready rows are claimed. -/
  | claimed {workerId : String} {now limit staleAfterMs : Int} {old : List OutboxRow}
      {rows' : OutboxTable}
      (distinct : (old.map OutboxRow.id).Nodup) (within : (old.length : Int) ≤ limit)
      (ready : ∀ row ∈ old, rows.get row.id = some row ∧
        isReady now (now - staleAfterMs) (postgresRow row) = true)
      (after : ∀ id, rows'.get id = if id ∈ old.map OutboxRow.id then
        (rows.get id).map (setClaimed workerId now) else rows.get id) :
      Committed rows (.claim workerId now limit staleAfterMs)
        (.jobs ((old.map (setClaimed workerId now)).map postgresRow)) rows'
  /-- The worker that holds the claim completes it. -/
  | completed {id workerId : String} {now : Int} {row : OutboxRow}
      (found : rows.get id = some row) (held : claimedBy workerId row = true) :
      Committed rows (.complete id workerId now) (.job (postgresRow (setCompleted now row)))
        (rows.set id (setCompleted now row))
  /-- The worker that holds the claim fails it, as it decides from a record that it read. -/
  | failed {id workerId : String} {error : JsError} {now next : Int} {options : FailOptions}
      {record : OutboxJob} {row : OutboxRow}
      (found : rows.get id = some row) (held : claimedBy workerId row = true)
      (before : claimRound record ≤ claimRound (postgresRow row))
      (due : retryAt record now options = .ok next) :
      Committed rows (.fail id workerId error now options)
        (.job (postgresRow (setFailed (exhausted record options) next error now row)))
        (rows.set id (setFailed (exhausted record options) next error now row))
  /-- The tenant of the call has no dead job under the id. -/
  | absent {id : String} {tenantId : Option String} {reason : String} {now : Int} :
      Committed rows (.replay id tenantId reason now) (.replayed none) rows
  /-- The tenant of the call replays its own dead job. -/
  | replayed {id : String} {tenantId : Option String} {reason replayReason : String} {now : Int}
      {row : OutboxRow}
      (accepted : normalizedReplayReason reason = .ok replayReason)
      (found : rows.get id = some row) (dead : deadOf tenantId row = true) :
      Committed rows (.replay id tenantId reason now)
        (.replayed (some (postgresRow (setReplayed replayReason now row))))
        (rows.set id (setReplayed replayReason now row))

/-- A serial history: calls that commit one after the other, from the empty table. -/
inductive History : OutboxLog → OutboxTable → Prop
  | nil : History [] .empty
  | snoc {log : OutboxLog} {rows rows' : OutboxTable} {c : OutboxCall} {r : OutboxResult}
      (before : History log rows) (last : Committed rows c r rows') :
      History (log ++ [(c, .ok r)]) rows'

variable {rows rows' : OutboxTable} {c : OutboxCall} {r : OutboxResult}

/-! ## Rows only move forward -/

/-- Every row is still there, in the same round or a later one. -/
def Forward (rows rows' : OutboxTable) : Prop :=
  ∀ id row, rows.get id = some row →
    ∃ row', rows'.get id = some row' ∧ claimRound (postgresRow row) ≤ claimRound (postgresRow row')

theorem Forward.refl (rows : OutboxTable) : Forward rows rows := fun _ row h => ⟨row, h, le_refl _⟩

theorem Forward.trans {rows'' : OutboxTable} (h : Forward rows rows') (h' : Forward rows' rows'') :
    Forward rows rows'' := by
  intro id row hrow
  obtain ⟨row', hrow', hle⟩ := h id row hrow
  obtain ⟨row'', hrow'', hle'⟩ := h' id row' hrow'
  exact ⟨row'', hrow'', hle.trans hle'⟩

/-- INTERNAL: a row that is written back no earlier. -/
theorem forward_set {id : String} {row row' : OutboxRow} (found : rows.get id = some row)
    (later : claimRound (postgresRow row) ≤ claimRound (postgresRow row')) :
    Forward rows (rows.set id row') := by
  intro id' old hold
  rw [OrderedMap.get_set]
  split
  · rename_i heq
    obtain rfl : row = old := by simpa [heq, found] using hold
    exact ⟨row', rfl, later⟩
  · exact ⟨old, hold, le_refl _⟩

/-- INTERNAL: a claim moves a row to the next attempt.
SOURCE: apps/api/src/reliability/outbox.js:498-499 -/
theorem claimRound_setClaimed (workerId : String) (now : Int) (row : OutboxRow) :
    claimRound (postgresRow row) < claimRound (postgresRow (setClaimed workerId now row)) := by
  simp [claimRound, postgresRow, sqliteRow, setClaimed, Prod.Lex.toLex_lt_toLex]

/-- INTERNAL: a replay starts a new round.
SOURCE: apps/api/src/reliability/outbox.js:554-557 -/
theorem claimRound_setReplayed (replayReason : String) (now : Int) (row : OutboxRow) :
    claimRound (postgresRow row) < claimRound (postgresRow (setReplayed replayReason now row)) := by
  simp [claimRound, postgresRow, sqliteRow, setReplayed, Prod.Lex.toLex_lt_toLex]

/-- INTERNAL: no call takes a row back.
SOURCE: apps/api/src/reliability/outbox.js:469-560 -/
theorem Committed.forward (h : Committed rows c r rows') : Forward rows rows' := by
  cases h with
  | enqueued built freeKey freeId =>
    intro id row hrow
    refine ⟨row, ?_, le_refl _⟩
    rw [OrderedMap.get_set, if_neg (fun heq => by simp [heq, freeId] at hrow)]
    exact hrow
  | duplicate | absent => exact Forward.refl rows
  | @claimed workerId now _ _ old _ distinct within ready after =>
    intro id row hrow
    rw [after, hrow]
    split
    · exact ⟨_, rfl, (claimRound_setClaimed workerId now row).le⟩
    · exact ⟨row, rfl, le_refl _⟩
  | completed found held => exact forward_set found (le_refl _)
  | failed found held before due => exact forward_set found (le_refl _)
  | replayed accepted found dead => exact forward_set found (claimRound_setReplayed _ _ _).le

/-! ## The invariant of a history -/

/-- The invariant of the table under a history.
SOURCE: apps/api/src/reliability/outbox.js:469-560;
infrastructure/migrations/postgres/0005_durable_outbox.sql:1-23 -/
structure TableInvariant (log : OutboxLog) (rows : OutboxTable) : Prop where
  jobs : ∀ id row, rows.get id = some row → JobInvariant log id (postgresRow row)
  unseen : ∀ id, rows.get id = none → claimsSince id log = 0 ∧ replaysOf id log = 0
  keys : ∀ id id' row row', rows.get id = some row → rows.get id' = some row' →
    row.idempotencyKey = row'.idempotencyKey → id = id'

variable {log : OutboxLog}

/-- INTERNAL: no row has a key that `SELECT` does not find.
SOURCE: apps/api/src/reliability/outbox.js:480 -/
theorem key_ne_of_selectByKey {key id : String} {row : OutboxRow}
    (h : selectByKey rows key = none) (hrow : rows.get id = some row) :
    row.idempotencyKey ≠ key := by
  rw [selectByKey, List.find?_eq_none] at h
  simpa using h row (OrderedMap.mem_values_iff_get.mpr ⟨id, hrow⟩)

/-- INTERNAL: a call that changes some of the rows, and none of their keys. Its answer counts
only for those rows. -/
theorem TableInvariant.change (h : TableInvariant log rows) {p : String → Prop} [DecidablePred p]
    {change : OutboxRow → OutboxRow} {entry : OutboxCall × Except JsError OutboxResult}
    (after : ∀ id, rows'.get id = if p id then (rows.get id).map change else rows.get id)
    (sameKey : ∀ id row, p id → rows.get id = some row →
      (change row).idempotencyKey = row.idempotencyKey)
    (now : ∀ id row, p id → rows.get id = some row →
      JobInvariant (log ++ [entry]) id (postgresRow (change row)))
    (others : ∀ id, (p id → rows.get id = none) →
      countClaim id (claimsSince id log) entry = claimsSince id log ∧
        isReplayOf id entry = false) :
    TableInvariant (log ++ [entry]) rows' := by
  have old (id : String) (row' : OutboxRow) (hrow : rows'.get id = some row') :
      ∃ row, rows.get id = some row ∧ row'.idempotencyKey = row.idempotencyKey := by
    rw [after] at hrow
    split at hrow
    · obtain ⟨row, hget, rfl⟩ := Option.map_eq_some_iff.mp hrow
      exact ⟨row, hget, sameKey id row (by assumption) hget⟩
    · exact ⟨row', hrow, rfl⟩
  refine ⟨fun id row hrow => ?_, fun id hnone => ?_, fun id id' row row' hrow hrow' hkey => ?_⟩
  · rw [after] at hrow
    split at hrow
    · obtain ⟨row, hget, rfl⟩ := Option.map_eq_some_iff.mp hrow
      exact now id row (by assumption) hget
    · rename_i hp
      obtain ⟨claims, replays⟩ := others id fun h => absurd h hp
      exact (h.jobs id row hrow).append claims replays
  · have hfree : rows.get id = none := by
      rw [after] at hnone
      split at hnone
      · simpa using hnone
      · exact hnone
    obtain ⟨claims, replays⟩ := others id fun _ => hfree
    exact unseen_append (h.unseen id hfree) claims replays
  · obtain ⟨before, hbefore, hkeep⟩ := old id row hrow
    obtain ⟨before', hbefore', hkeep'⟩ := old id' row' hrow'
    exact h.keys id id' before before' hbefore hbefore' (by rw [← hkeep, hkey, hkeep'])

/-- INTERNAL: a call that writes one row back.
SOURCE: apps/api/src/reliability/outbox.js:514-520, 532-538, 553-559 -/
theorem TableInvariant.set (h : TableInvariant log rows) {id : String} {row row' : OutboxRow}
    {entry : OutboxCall × Except JsError OutboxResult} (found : rows.get id = some row)
    (sameKey : row'.idempotencyKey = row.idempotencyKey)
    (now : JobInvariant (log ++ [entry]) id (postgresRow row'))
    (others : ∀ id', id' ≠ id → countClaim id' (claimsSince id' log) entry = claimsSince id' log ∧
      isReplayOf id' entry = false) :
    TableInvariant (log ++ [entry]) (rows.set id row') := by
  have same (id' : String) (old : OutboxRow) (hid : id' = id) (hold : rows.get id' = some old) :
      row = old := by
    subst hid
    exact Option.some.inj (found.symm.trans hold)
  have after (id' : String) : (rows.set id row').get id' =
      if id' = id then (rows.get id').map (fun _ => row') else rows.get id' := by
    rw [OrderedMap.get_set]
    split
    · rename_i hid
      simp [hid, found]
    · rfl
  refine h.change after (fun id' old hid hold => ?_) (fun id' old hid hold => ?_) fun id' hid => ?_
  · rw [sameKey, same id' old hid hold]
  · rw [hid]
    exact now
  · refine others id' ?_
    rintro rfl
    simp [hid rfl] at found

/-- INTERNAL: an answer that leaves the table as it is, and counts for no job. -/
theorem TableInvariant.append (h : TableInvariant log rows)
    {entry : OutboxCall × Except JsError OutboxResult}
    (others : ∀ id, countClaim id (claimsSince id log) entry = claimsSince id log ∧
      isReplayOf id entry = false) : TableInvariant (log ++ [entry]) rows where
  jobs id row hrow := (h.jobs id row hrow).append (others id).1 (others id).2
  unseen id hnone := unseen_append (h.unseen id hnone) (others id).1 (others id).2
  keys := h.keys

/-- INTERNAL: a new row under a free id and a free key.
SOURCE: apps/api/src/reliability/outbox.js:471-479 -/
theorem TableInvariant.inserted (h : TableInvariant log rows) {id : String} {row : OutboxRow}
    {entry : OutboxCall × Except JsError OutboxResult}
    (freeKey : selectByKey rows row.idempotencyKey = none)
    (now : JobInvariant (log ++ [entry]) id (postgresRow row))
    (others : ∀ id, countClaim id (claimsSince id log) entry = claimsSince id log ∧
      isReplayOf id entry = false) : TableInvariant (log ++ [entry]) (rows.set id row) := by
  have kept := h.append others
  refine ⟨fun id' row' hrow => ?_, fun id' hnone => ?_, fun a b row' row'' ha hb hkey => ?_⟩
  · rw [OrderedMap.get_set] at hrow
    split at hrow
    · rename_i heq
      obtain rfl := Option.some.inj hrow
      rw [heq]
      exact now
    · exact kept.jobs id' row' hrow
  · rw [OrderedMap.get_set] at hnone
    split at hnone
    · cases hnone
    · exact kept.unseen id' hnone
  · rw [OrderedMap.get_set] at ha hb
    split at ha <;> split at hb
    · rename_i heq heq'
      rw [heq, heq']
    · obtain rfl := Option.some.inj ha
      exact absurd hkey.symm (key_ne_of_selectByKey freeKey hb)
    · obtain rfl := Option.some.inj hb
      exact absurd hkey (key_ne_of_selectByKey freeKey ha)
    · exact h.keys a b row' row'' ha hb hkey

/-- INTERNAL: the job of a new row.
SOURCE: apps/api/src/reliability/outbox.js:471-479 -/
theorem jobInvariant_inserted {job : OutboxJob} {event : OutboxEvent} {c : OutboxCall}
    {record : OutboxJob} (unseen : claimsSince job.id log = 0 ∧ replaysOf job.id log = 0) :
    JobInvariant (log ++ [(c, .ok (.job record))]) job.id
      (postgresRow (postgresInsertedRow job event)) where
  keyed := rfl
  locked := by simp [postgresRow, sqliteRow, postgresInsertedRow]
  unlocked _ := ⟨rfl, rfl⟩
  done := by simp [postgresRow, sqliteRow, postgresInsertedRow]
  attempts := by simp [countClaim, unseen.1, postgresRow, sqliteRow, postgresInsertedRow]
  replays := by simp [isReplayOf, unseen.2, postgresRow, sqliteRow, postgresInsertedRow]

/-- INTERNAL: an update that releases a row and keeps its counts.
SOURCE: apps/api/src/reliability/outbox.js:515-516, 533-534 -/
theorem jobInvariant_released {id : String} {job job' record : OutboxJob} {c : OutboxCall}
    (h : JobInvariant log id job) (released : job'.lockedAt = none ∧ job'.lockedBy = none)
    (status : job'.status ≠ .processing)
    (done : job'.status = .processed → job'.completedAt.isSome)
    (same : job'.id = job.id ∧ claimRound job' = claimRound job) :
    JobInvariant (log ++ [(c, .ok (.job record))]) id job' := by
  obtain ⟨hreplays, hattempts⟩ : job'.replayCount = job.replayCount ∧
      job'.attempts = job.attempts := by simpa [claimRound] using same.2
  exact {
    keyed := same.1.trans h.keyed
    locked := iff_of_false status (by simp [released])
    unlocked := fun _ => released
    done := done
    attempts := by rw [hattempts, claimsSince_append, h.attempts]; rfl
    replays := by simp [hreplays, h.replays, isReplayOf] }

/-- **A committed call keeps the invariant.**
SOURCE: apps/api/src/reliability/outbox.js:469-560 -/
theorem TableInvariant.committed (h : TableInvariant log rows) (call : Committed rows c r rows') :
    TableInvariant (log ++ [(c, .ok r)]) rows' := by
  cases call with
  | @enqueued event key now job built freeKey freeId =>
    exact h.inserted freeKey (jobInvariant_inserted (h.unseen job.id freeId))
      fun _ => ⟨rfl, rfl⟩
  | duplicate | absent => exact h.append fun _ => ⟨rfl, rfl⟩
  | @claimed workerId now limit staleAfterMs old _ distinct within ready after =>
    have hids : (((old.map (setClaimed workerId now)).map postgresRow).map OutboxJob.id) =
        old.map OutboxRow.id := by
      simp [Function.comp_def, postgresRow, sqliteRow, setClaimed]
    refine h.change after (fun _ _ _ _ => rfl) (fun id row hid hrow => ?_) fun id hid => ⟨?_, rfl⟩
    · have inv := h.jobs id row hrow
      exact {
        keyed := inv.keyed
        locked := by simp [postgresRow, sqliteRow, setClaimed]
        unlocked := by simp [postgresRow, sqliteRow, setClaimed]
        done := by simp [postgresRow, sqliteRow, setClaimed]
        attempts := by
          have hattempts : row.attempts = claimsSince id log := inv.attempts
          rw [claimsSince_append, countClaim, hids, if_pos hid, ← hattempts]
          rfl
        replays := by
          have hreplays : row.replayCount = replaysOf id log := inv.replays
          simpa [isReplayOf, postgresRow, sqliteRow, setClaimed] using hreplays }
    · rw [countClaim, hids, if_neg fun hmem => ?_]
      obtain ⟨row, hrow, rfl⟩ := List.mem_map.mp hmem
      simp [(ready row hrow).1] at hid
      exact hid row hrow rfl
  | @completed id workerId now row found held =>
    refine h.set found rfl (jobInvariant_released (h.jobs id row found) ⟨rfl, rfl⟩ ?_ ?_ ⟨rfl, rfl⟩)
      fun _ _ => ⟨rfl, rfl⟩
    · simp [postgresRow, sqliteRow, setCompleted]
    · simp [postgresRow, sqliteRow, setCompleted]
  | @failed id workerId error now next options record row found held before due =>
    refine h.set found rfl (jobInvariant_released (h.jobs id row found) ⟨rfl, rfl⟩ ?_ ?_ ⟨rfl, rfl⟩)
      fun _ _ => ⟨rfl, rfl⟩
    · simp only [postgresRow, sqliteRow, setFailed]
      split <;> simp
    · simp only [postgresRow, sqliteRow, setFailed]
      split <;> simp
  | @replayed id tenantId reason replayReason now row accepted found dead =>
    have inv := h.jobs id row found
    have hkeyed : row.id = id := inv.keyed
    refine h.set found rfl ?_ fun id' hne => ?_
    · exact {
        keyed := hkeyed
        locked := by simp [postgresRow, sqliteRow, setReplayed]
        unlocked := by simp [postgresRow, sqliteRow, setReplayed]
        done := by simp [postgresRow, sqliteRow, setReplayed]
        attempts := by simp [countClaim, hkeyed, postgresRow, sqliteRow, setReplayed]
        replays := by
          have hreplays : row.replayCount = replaysOf id log := inv.replays
          simp [isReplayOf, hkeyed, postgresRow, sqliteRow, setReplayed, hreplays] }
    · simp [countClaim, isReplayOf, postgresRow, sqliteRow, setReplayed, hkeyed, Ne.symm hne]

/-- INTERNAL: the invariant holds after every history.
SOURCE: apps/api/src/reliability/outbox.js:469-560 -/
theorem History.invariant (h : History log rows) : TableInvariant log rows := by
  induction h with
  | nil =>
    refine ⟨fun id row hrow => ?_, fun _ _ => ⟨rfl, rfl⟩, fun id _ row _ hrow => ?_⟩ <;>
      simp at hrow
  | snoc before last ih => exact ih.committed last

/-! ## No attempt is handed out twice -/

/-- The attempts that an answer hands out: the jobs of a claim, each with its round. -/
def handedOut : OutboxCall × Except JsError OutboxResult → List (String × (ℕ ×ₗ ℕ))
  | (_, .ok (.jobs records)) => records.map fun job => (job.id, claimRound job)
  | _ => []

/-- The attempts that the answers of a log hand out. -/
def handed (log : OutboxLog) : List (String × (ℕ ×ₗ ℕ)) := log.flatMap handedOut

@[simp] theorem handed_append (log : OutboxLog) (entry : OutboxCall × Except JsError OutboxResult) :
    handed (log ++ [entry]) = handed log ++ handedOut entry := by
  simp [handed]

/-- INTERNAL: only a claim hands attempts out, those of rows that it moves forward, and each
of them once. -/
theorem Committed.handedOut (h : Committed rows c r rows') :
    (Analysis.handedOut (c, .ok r)).Nodup ∧
      ∀ attempt ∈ Analysis.handedOut (c, .ok r), ∃ row row', rows.get attempt.1 = some row ∧
        claimRound (postgresRow row) < attempt.2 ∧ rows'.get attempt.1 = some row' ∧
        attempt.2 = claimRound (postgresRow row') := by
  cases h with
  | enqueued | duplicate | completed | failed | absent | replayed =>
    exact ⟨List.nodup_nil, fun _ hmem => absurd hmem List.not_mem_nil⟩
  | @claimed workerId now limit staleAfterMs old _ distinct within ready after =>
    simp only [Analysis.handedOut, List.map_map]
    constructor
    · refine List.Nodup.of_map Prod.fst ?_
      simpa [Function.comp_def, postgresRow, sqliteRow, setClaimed] using distinct
    · intro attempt hmem
      obtain ⟨row, hrow, rfl⟩ := List.mem_map.mp hmem
      have hid : row.id ∈ old.map OutboxRow.id := List.mem_map_of_mem hrow
      refine ⟨row, setClaimed workerId now row, (ready row hrow).1,
        claimRound_setClaimed workerId now row, ?_, rfl⟩
      show rows'.get row.id = _
      rw [after, if_pos hid, (ready row hrow).1]
      rfl

/-- **No attempt is handed out twice in a history**, and no row is behind an attempt of its
that was handed out.
SOURCE: apps/api/src/reliability/outbox.js:490-504 -/
theorem History.handed (h : History log rows) :
    (Analysis.handed log).Nodup ∧ ∀ attempt ∈ Analysis.handed log,
      ∃ row, rows.get attempt.1 = some row ∧ attempt.2 ≤ claimRound (postgresRow row) := by
  induction h with
  | nil => exact ⟨List.nodup_nil, fun _ hmem => absurd hmem List.not_mem_nil⟩
  | @snoc log rows rows' c r before last ih =>
    obtain ⟨hnodup, hbehind⟩ := ih
    obtain ⟨hnew, hmoved⟩ := last.handedOut
    rw [handed_append]
    refine ⟨List.nodup_append.mpr ⟨hnodup, hnew, ?_⟩, fun attempt hmem => ?_⟩
    · rintro attempt hold _ hmem rfl
      obtain ⟨row, hrow, hle⟩ := hbehind attempt hold
      obtain ⟨row', -, hrow', hlt, -⟩ := hmoved attempt hmem
      obtain rfl := Option.some.inj (hrow.symm.trans hrow')
      exact absurd hle (not_le.mpr hlt)
    · rcases List.mem_append.mp hmem with hold | hmem
      · obtain ⟨row, hrow, hle⟩ := hbehind attempt hold
        obtain ⟨row', hrow', hle'⟩ := last.forward attempt.1 row hrow
        exact ⟨row', hrow', hle.trans hle'⟩
      · obtain ⟨-, row', -, -, hrow', heq⟩ := hmoved attempt hmem
        exact ⟨row', hrow', heq.le⟩

end Xygo.Analysis
