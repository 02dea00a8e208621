import Xygo.Analysis.PostgresOutboxRuns
import Xygo.Analysis.SqliteRefinement

/-!
# What holds of the Postgres outbox across its sessions

Any number of sessions enqueue, claim, complete, fail and replay, in any order of their
statements, with statements refused and connections lost. The table and the answers are those
of a serial history; no attempt of a job is handed to two claims; a processed job stays as it
is and a dead one until it is replayed; and a session waits only for a `COMMIT` that can run.
-/

set_option autoImplicit false

namespace Xygo.Analysis

open Xygo.Computation Xygo.Model

variable {ι : Type} [DecidableEq ι] {u v : PostgresSessions ι} {ls ks : List (SessionStep ι)}

/-! ## Serial histories -/

/-- **The sessions are serial.** The table is that of a history of calls that commit one after
the other, in which every job keeps its invariant, and the answers of the calls that returned
are answers of that history, in its order.
SOURCE: apps/api/src/reliability/outbox.js:442-560;
infrastructure/migrations/postgres/0005_durable_outbox.sql:1-23 -/
theorem postgres_sessions_serial (run : postgresSessions.run .initial ls = some u) :
    ∃ log, History log u.store.rows ∧ (u.answers.filter returned).Sublist log ∧
      TableInvariant log u.store.rows := by
  obtain ⟨log, h⟩ := sessionsInvariant_run run
  exact ⟨log, h.history, h.answered, h.history.invariant⟩

/-- Two sessions that claim at once: the second one skips the row that the first one has
locked, and is done before it. -/
def overlappingClaims : List (SessionStep Bool) :=
  [.call false (.enqueue (eventOf "job-1") none 0), .exec false [],
    .call true (.enqueue (eventOf "job-2") none 0), .exec true [],
    .call false (.claim "worker-a" 0 1 60000), .exec false [], .exec false ["job-1"],
    .call true (.claim "worker-b" 0 2 60000), .exec true [], .exec true ["job-2"], .exec true [],
    .exec false []]

theorem postgres_sessions_serial_overlappingClaims :
    ∃ u, postgresSessions.run .initial overlappingClaims = some u ∧
      ∃ log, History log u.store.rows ∧ (u.answers.filter returned).Sublist log ∧
        TableInvariant log u.store.rows := by
  obtain ⟨u, hu⟩ : ∃ u, postgresSessions.run .initial overlappingClaims = some u := ⟨_, rfl⟩
  exact ⟨u, hu, postgres_sessions_serial hu⟩

/-! ## Claims -/

omit [DecidableEq ι] in
/-- INTERNAL: only calls that returned hand attempts out. -/
theorem handed_returned (log : OutboxLog) : handed (log.filter returned) = handed log := by
  induction log with
  | nil => rfl
  | cons entry log ih =>
    obtain ⟨c, result⟩ := entry
    unfold handed at ih ⊢
    cases result with
    | error e =>
      have hnone : handedOut (c, .error e) = [] := rfl
      rw [List.filter_cons_of_neg (by simp [returned, Except.isOk, Except.toBool]), ih,
        List.flatMap_cons, hnone, List.nil_append]
    | ok r =>
      rw [List.filter_cons_of_pos (by rfl), List.flatMap_cons, List.flatMap_cons, ih]

/-- **No attempt is handed out twice.** Over all sessions, no two claims return the same job in
the same round and with the same attempt number, and no claim returns a job twice.
SOURCE: apps/api/src/reliability/outbox.js:485-511 -/
theorem attempts_handed_once (run : postgresSessions.run .initial ls = some u) :
    (handed u.answers).Nodup := by
  obtain ⟨log, h⟩ := sessionsInvariant_run run
  have hsub : (handed (u.answers.filter returned)).Sublist (handed log) :=
    h.answered.flatMap handedOut
  rw [handed_returned] at hsub
  exact h.history.handed.1.sublist hsub

theorem attempts_handed_once_overlappingClaims :
    ∃ u, postgresSessions.run .initial overlappingClaims = some u ∧ (handed u.answers).Nodup := by
  obtain ⟨u, hu⟩ : ∃ u, postgresSessions.run .initial overlappingClaims = some u := ⟨_, rfl⟩
  exact ⟨u, hu, attempts_handed_once hu⟩

/-! ## Settled jobs -/

/-- What may become of a row: a processed one stays, a dead one stays until its next round. -/
def SettledKept (row row' : OutboxRow) : Prop :=
  (row.status = .processed → row' = row) ∧
    (row.status = .dead → row' = row ∨ row.replayCount < row'.replayCount)

/-- INTERNAL: a row that a worker holds is not settled. -/
theorem settledKept_of_claimedBy {workerId : String} {row : OutboxRow}
    (held : claimedBy workerId row = true) (row' : OutboxRow) : SettledKept row row' := by
  have hstatus : row.status = .processing := by
    simp only [claimedBy, Bool.and_eq_true, decide_eq_true_eq] at held
    exact held.1
  constructor <;> simp [hstatus]

/-- INTERNAL: a committed call keeps settled rows.
SOURCE: apps/api/src/reliability/outbox.js:469-560 -/
theorem Committed.settledKept {rows rows' : OutboxTable} {c : OutboxCall} {r : OutboxResult}
    (h : Committed rows c r rows') {id : String} {row : OutboxRow}
    (found : rows.get id = some row) :
    ∃ row', rows'.get id = some row' ∧ SettledKept row row' := by
  have unchanged : SettledKept row row := ⟨fun _ => rfl, fun _ => Or.inl rfl⟩
  have written {id' : String} {old new : OutboxRow} (hold : rows.get id' = some old)
      (kept : SettledKept old new) :
      ∃ row', (rows.set id' new).get id = some row' ∧ SettledKept row row' := by
    rw [OrderedMap.get_set]
    split
    · rename_i heq
      obtain rfl : row = old := by simpa [← heq, found] using hold
      exact ⟨new, rfl, kept⟩
    · exact ⟨row, found, unchanged⟩
  cases h with
  | enqueued built freeKey freeId =>
    refine ⟨row, ?_, unchanged⟩
    rw [OrderedMap.get_set, if_neg (fun heq => by simp [← heq, found] at freeId)]
    exact found
  | duplicate | absent => exact ⟨row, found, unchanged⟩
  | @claimed workerId now limit staleAfterMs old _ distinct within ready after =>
    rw [after, found]
    split
    · rename_i hmem
      obtain ⟨row', hrow', hid⟩ := List.mem_map.mp hmem
      obtain ⟨hget, hready⟩ := ready row' hrow'
      obtain rfl : row' = row := by simpa [hid, found, eq_comm] using hget
      have unsettled : ¬ (row'.status = .processed ∨ row'.status = .dead) := fun hs => by
        have hnot : isReady now (now - staleAfterMs) (postgresRow row') = false :=
          not_ready_of_settled hs
        simp [hready] at hnot
      exact ⟨_, rfl, fun hs => absurd (Or.inl hs) unsettled, fun hs => absurd (Or.inr hs) unsettled⟩
    · exact ⟨row, rfl, unchanged⟩
  | completed hold held => exact written hold (settledKept_of_claimedBy held _)
  | failed hold held before due => exact written hold (settledKept_of_claimedBy held _)
  | replayed accepted hold dead =>
    have hstatus := dead
    simp only [deadOf, Bool.and_eq_true, decide_eq_true_eq] at hstatus
    refine written hold ⟨fun hs => ?_, fun _ => Or.inr (Nat.lt_succ_self _)⟩
    rw [hstatus.2] at hs
    cases hs

/-- INTERNAL: along a run, from any state of it.
SOURCE: apps/api/src/reliability/outbox.js:442-560 -/
theorem settledKept_run {log : OutboxLog} (h : SessionsInvariant log u)
    (run : postgresSessions.run u ks = some v) {id : String} {row : OutboxRow}
    (found : u.store.rows.get id = some row) :
    ∃ row', v.store.rows.get id = some row' ∧ row.replayCount ≤ row'.replayCount ∧
      SettledKept row row' := by
  induction ks generalizing u log row with
  | nil =>
    obtain rfl : u = v := by simpa using run
    exact ⟨row, found, le_refl _, fun _ => rfl, fun _ => Or.inl rfl⟩
  | cons l ks ih =>
    obtain ⟨w, hstep, hrest⟩ := Option.bind_eq_some_iff.mp run
    obtain ⟨hserial, log', hw⟩ := h.step hstep
    obtain ⟨next, hnext, hle, hkept⟩ : ∃ next, w.store.rows.get id = some next ∧
        row.replayCount ≤ next.replayCount ∧ SettledKept row next := by
      rcases hserial with heq | ⟨c, r, hcommitted⟩
      · rw [← heq] at found
        exact ⟨row, found, le_refl _, fun _ => rfl, fun _ => Or.inl rfl⟩
      · obtain ⟨next, hnext, hkept⟩ := hcommitted.settledKept found
        obtain ⟨next', hnext', hround⟩ := hcommitted.forward id row found
        obtain rfl : next = next' := Option.some.inj (hnext.symm.trans hnext')
        refine ⟨next, hnext, ?_, hkept⟩
        rcases Prod.Lex.toLex_le_toLex.mp hround with hlt | ⟨heq, -⟩
        · exact hlt.le
        · exact heq.le
    obtain ⟨row', hrow', hle', hkept'⟩ := ih hw hrest hnext
    refine ⟨row', hrow', hle.trans hle', fun hs => ?_, fun hs => ?_⟩
    · obtain rfl := hkept.1 hs
      exact hkept'.1 hs
    · rcases hkept.2 hs with rfl | hlt
      · exact hkept'.2 hs
      · exact Or.inr (hlt.trans_le hle')

/-- **Settled jobs stay.** In every run and from any point of it, a processed job is never
changed again, and a dead one only once it has been replayed.
SOURCE: apps/api/src/reliability/outbox.js:442-560 -/
theorem settled_jobs_stay (before : postgresSessions.run .initial ls = some u)
    (after : postgresSessions.run u ks = some v) {id : String} {row : OutboxRow}
    (found : u.store.rows.get id = some row) :
    ∃ row', v.store.rows.get id = some row' ∧ (row.status = .processed → row' = row) ∧
      (row.status = .dead → row' = row ∨ row.replayCount < row'.replayCount) := by
  obtain ⟨log, h⟩ := sessionsInvariant_run before
  obtain ⟨row', hrow', -, hprocessed, hdead⟩ := settledKept_run h after found
  exact ⟨row', hrow', hprocessed, hdead⟩

/-- A job that one session enqueues and claims. -/
def onlyAttempt : List (SessionStep Bool) :=
  [.call false (.enqueue (eventOf "job-1") none 0), .exec false [],
    .call false (.claim "worker-a" 0 1 60000), .exec false [], .exec false ["job-1"], .exec false []]

/-- The job is completed; a claim and a replay come after it. -/
def completedJob : List (SessionStep Bool) :=
  onlyAttempt ++ [.call false (.complete "job-1" "worker-a" 5), .exec false []]

/-- A claim that is too late for the job, and a replay that is refused. -/
def lateCalls : List (SessionStep Bool) :=
  [.call true (.claim "worker-b" 90000 1 60000), .exec true [], .exec true [], .exec true [],
    .call false (.replay "job-1" (some "tenant-1") "again" 9), .exec false []]

theorem settled_jobs_stay_completedJob :
    ∃ u v row, postgresSessions.run .initial completedJob = some u ∧
      postgresSessions.run u lateCalls = some v ∧ u.store.rows.get "job-1" = some row ∧
      ∃ row', v.store.rows.get "job-1" = some row' ∧ (row.status = .processed → row' = row) ∧
        (row.status = .dead → row' = row ∨ row.replayCount < row'.replayCount) := by
  obtain ⟨u, v, row, hu, hv, hrow⟩ : ∃ u v row,
      postgresSessions.run .initial completedJob = some u ∧
        postgresSessions.run u lateCalls = some v ∧ u.store.rows.get "job-1" = some row :=
    ⟨_, _, _, rfl, rfl, rfl⟩
  exact ⟨u, v, row, hu, hv, hrow, settled_jobs_stay hu hv hrow⟩

/-- INTERNAL: a failure that answers a dead job of its first round comes after as many
attempts as it allows.
SOURCE: apps/api/src/reliability/outbox.js:529-537 -/
theorem History.dead {log : OutboxLog} {rows : OutboxTable} (h : History log rows) {id : String}
    {workerId : String} {error : JsError} {now : Int} {options : FailOptions} {job : OutboxJob}
    (answered : (.fail id workerId error now options, .ok (.job job)) ∈ log)
    (dead : job.status = .dead) (first : job.replayCount = 0) :
    options.maxAttempts ≤ job.attempts := by
  induction h with
  | nil => cases answered
  | snoc before last ih =>
    rcases List.mem_append.mp answered with hold | hlast
    · exact ih hold
    · obtain ⟨rfl, rfl⟩ : _ = _ ∧ _ = _ := by simpa using hlast
      cases last with
      | @failed _ _ _ _ next _ record row found held older due =>
        have hexhausted : exhausted record options = true := by
          by_contra hnot
          simp [postgresRow, sqliteRow, setFailed, hnot] at dead
        have hle : options.maxAttempts ≤ record.attempts := by
          simpa [exhausted] using hexhausted
        have hfirst : row.replayCount = 0 := first
        have hattempts : record.attempts ≤ row.attempts := by
          rcases Prod.Lex.toLex_le_toLex.mp older with hlt | ⟨-, hattempts⟩
          · have hlt' : record.replayCount < row.replayCount := hlt
            omega
          · exact hattempts
        show options.maxAttempts ≤ ((row.attempts : Nat) : Int)
        omega

/-- **A job dies of its attempts.** A failure that returns a dead job which was never replayed
comes after at least as many claims of the job as it allows, whichever session claimed it and
however the sessions interleave.
SOURCE: apps/api/src/reliability/outbox.js:485-539 -/
theorem dead_after_attempts (run : postgresSessions.run .initial ls = some u) {id : String}
    {workerId : String} {error : JsError} {now : Int} {options : FailOptions} {job : OutboxJob}
    (answered : (.fail id workerId error now options, .ok (.job job)) ∈ u.answers)
    (dead : job.status = .dead) (first : job.replayCount = 0) :
    options.maxAttempts ≤ job.attempts := by
  obtain ⟨log, h⟩ := sessionsInvariant_run run
  exact h.history.dead (h.answered.subset (List.mem_filter.mpr ⟨answered, rfl⟩)) dead first

/-- The job fails on the only attempt it is allowed. -/
def failedJob : List (SessionStep Bool) :=
  onlyAttempt ++ [.call false (.fail "job-1" "worker-a" (newError "refused") 5 { maxAttempts := 1 }),
    .exec false [], .exec false []]

theorem dead_after_attempts_failedJob :
    ∃ (u : PostgresSessions Bool) (job : OutboxJob),
      postgresSessions.run .initial failedJob = some u ∧ job.status = .dead ∧
        (1 : Int) ≤ job.attempts := by
  obtain ⟨u, job, hu, hanswers, hdead, hfirst⟩ : ∃ (u : PostgresSessions Bool) (job : OutboxJob),
      postgresSessions.run .initial failedJob = some u ∧
        u.answers[2]? = some (.fail "job-1" "worker-a" (newError "refused") 5 { maxAttempts := 1 },
          .ok (.job job)) ∧ job.status = .dead ∧ job.replayCount = 0 :=
    ⟨_, _, rfl, rfl, rfl, rfl⟩
  exact ⟨u, job, hu, hdead, dead_after_attempts hu (List.mem_of_getElem? hanswers) hdead hfirst⟩

/-! ## Waiting -/

/-- INTERNAL: an update waits only for a row that another session holds.
SOURCE: apps/api/src/reliability/outbox.js:514-519, 532-537, 553-559 -/
theorem held_of_updateRow_none {s : PostgresRows ι} {i : ι} {id : String}
    {condition : OutboxRow → Bool} {change : OutboxRow → OutboxRow}
    (h : updateRow s i id condition change = none) :
    ∃ j version, j ≠ i ∧ s.Holds j id version := by
  unfold updateRow at h
  cases hget : s.rows.get id with
  | none => simp [hget] at h
  | some row =>
    rw [hget] at h
    dsimp only at h
    split at h
    · have hwrite : s.write i id (change row) = none := by simpa using h
      unfold LockedRows.write LockedRows.free at hwrite
      cases hlock : s.locks.get id with
      | none => simp [hlock] at hwrite
      | some held =>
        obtain ⟨j, version⟩ := held
        refine ⟨j, version, fun heq => ?_, hlock⟩
        simp [hlock, heq] at hwrite
    · cases h

/-- INTERNAL: once the holder of its row has committed, an update can run.
SOURCE: apps/api/src/reliability/outbox.js:514-519, 532-537, 553-559 -/
theorem updateRow_after_commit {s : PostgresRows ι} {i j : ι} {id : String} {version : OutboxRow}
    (held : s.Holds j id version) (condition : OutboxRow → Bool)
    (change : OutboxRow → OutboxRow) :
    (updateRow (s.commit j) i id condition change).isSome = true := by
  cases hnone : updateRow (s.commit j) i id condition change with
  | some result => rfl
  | none =>
    obtain ⟨k, other, -, hk⟩ := held_of_updateRow_none hnone
    have hlock : s.locks.get id = some (j, version) := held
    have hfree : (s.commit j).locks.get id = none := by
      show (s.rollback j).locks.get id = none
      simp [hlock, Option.filter_some]
    rw [LockedRows.Holds, hfree] at hk
    cases hk

omit [DecidableEq ι] in
/-- INTERNAL: a session that holds a row is to commit.
SOURCE: apps/api/src/reliability/outbox.js:490-504 -/
theorem SessionsInvariant.committing {log : OutboxLog} (h : SessionsInvariant log u) {j : ι}
    {id : String} {version : OutboxRow} (held : u.store.Holds j id version) :
    ∃ c claimed, u.running j = some (c, .commit claimed) := by
  have hstage := h.stages j
  cases hrunning : u.running j with
  | none =>
    rw [hrunning] at hstage
    exact absurd held (hstage id version)
  | some doing =>
    obtain ⟨c, statement⟩ := doing
    rw [hrunning] at hstage
    cases (hstage : Stage u.store j c statement) with
    | commit => exact ⟨_, _, rfl⟩
    | insert idle | selectKey idle | begin idle | claim idle | updateComplete idle
    | selectFail idle | updateFail idle | updateReplay idle => exact absurd held (idle id version)

/-- INTERNAL: the update that a statement is, if it is one. -/
theorem runPostgres_cases (s : PostgresRows ι) (i : ι) (statement : PostgresStatement) :
    (runPostgres s i [] statement).isSome = true ∨
      (∃ workerId claimedAt staleBefore limit,
        statement = .claim workerId claimedAt staleBefore limit) ∨
      ∃ id condition change, ∀ t ids, (runPostgres t i ids statement).isSome =
        (updateRow t i id condition change).isSome := by
  cases statement with
  | insert job event =>
    left
    simp only [runPostgres]
    split
    · rfl
    · split <;> rfl
  | selectKey job event =>
    left
    simp only [runPostgres]
    split
    · split <;> rfl
    · rfl
  | begin | selectFail | commit => exact Or.inl rfl
  | claim workerId claimedAt staleBefore limit => exact Or.inr (Or.inl ⟨_, _, _, _, rfl⟩)
  | updateComplete id workerId completedAt =>
    exact Or.inr (Or.inr ⟨id, _, _, fun t ids => Option.isSome_map⟩)
  | updateFail id workerId record nextAttemptAt error failedAt options =>
    exact Or.inr (Or.inr ⟨id, _, _, fun t ids => Option.isSome_map⟩)
  | updateReplay id tenantId replayReason replayedAt =>
    exact Or.inr (Or.inr ⟨id, _, _, fun t ids => Option.isSome_map⟩)

/-- **No session waits for ever.** A session that can run its next statement neither now, nor as
a claim of no rows, waits for the `COMMIT` of another session's claim. That `COMMIT` can run,
and the waiting statement can run after it.
SOURCE: apps/api/src/reliability/outbox.js:485-559 -/
theorem waits_only_for_commits (run : postgresSessions.run .initial ls = some u) {i : ι}
    {c : OutboxCall} {statement : PostgresStatement} (doing : u.running i = some (c, statement))
    (served : ∀ workerId claimedAt staleBefore limit,
      statement = .claim workerId claimedAt staleBefore limit →
        0 ≤ limit ∧ isValidTime staleBefore = true)
    (waits : postgresSessions.step u (.exec i []) = none) :
    ∃ j v, j ≠ i ∧ postgresSessions.step u (.exec j []) = some v ∧
      (postgresSessions.step v (.exec i [])).isSome = true := by
  obtain ⟨log, h⟩ := sessionsInvariant_run run
  have hnone : runPostgres u.store i [] statement = none := by
    simpa [postgresSessions, doing] using waits
  rcases runPostgres_cases u.store i statement with
    hruns | ⟨workerId, claimedAt, staleBefore, limit, rfl⟩ | ⟨id, condition, change, hupdate⟩
  · simp [hnone] at hruns
  · obtain ⟨hlimit, hvalid⟩ := served _ _ _ _ rfl
    simp [runPostgres, isSelection, hvalid, hlimit] at hnone
  · have hwaits : updateRow u.store i id condition change = none := by
      have := hupdate u.store []
      rw [hnone] at this
      simpa using this.symm
    obtain ⟨j, version, hne, hheld⟩ := held_of_updateRow_none hwaits
    obtain ⟨cj, claimed, hj⟩ := h.committing hheld
    refine ⟨j, u.resume j cj (u.store.commit j) (.inr (.ok (.jobs (claimed.map postgresRow)))),
      hne, ?_, ?_⟩
    · simp [postgresSessions, hj, runPostgres]
    · have hdoing : (u.resume j cj (u.store.commit j)
          (.inr (.ok (.jobs (claimed.map postgresRow))))).running i = some (c, statement) := by
        simp [PostgresSessions.resume, Ne.symm hne, doing]
      simp only [postgresSessions, hdoing, Option.isSome_map]
      exact (hupdate _ []).trans (updateRow_after_commit hheld condition change)

/-- A worker completes a job whose stale claim another session is about to take over. -/
def staleClaim : List (SessionStep Bool) :=
  onlyAttempt ++ [.call true (.claim "worker-b" 60000 1 60000), .exec true [], .exec true ["job-1"],
    .call false (.complete "job-1" "worker-a" 60001)]

theorem waits_only_for_commits_staleClaim :
    ∃ u, postgresSessions.run .initial staleClaim = some u ∧
      ∃ j v, j ≠ false ∧ postgresSessions.step u (.exec j []) = some v ∧
        (postgresSessions.step v (.exec false [])).isSome = true := by
  obtain ⟨u, c, hu, hdoing, hwaits⟩ : ∃ u c, postgresSessions.run .initial staleClaim = some u ∧
      u.running false = some (c, .updateComplete "job-1" "worker-a" 60001) ∧
      postgresSessions.step u (.exec false []) = none := ⟨_, _, rfl, rfl, rfl⟩
  exact ⟨u, hu, waits_only_for_commits hu hdoing (by simp) hwaits⟩

end Xygo.Analysis
