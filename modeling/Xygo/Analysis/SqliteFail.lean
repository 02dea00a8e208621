import Xygo.Model.SqliteConnections

/-!
# A failure recorded over SQLite

`fail` reads the row, decides, updates and reads the row back, and never looks at the number
of rows that the update changed. Whether it recorded the failure therefore depends on what
the other connections commit between its read and its update: only a claim that takes the
job over can come in between (`fail_records`), and after one the update changes nothing and
`fail` returns the other worker's claim (`fail_returns_unrecorded`).
-/

set_option autoImplicit false

namespace Xygo.Analysis

open Xygo.Computation Xygo.Model

/-- What can be said about a connection that is to run a statement: the committed table is
`table` and the connection sees `view`.
SOURCE: apps/api/src/reliability/outbox.js:340-351, 367-379 -/
def StatementAssertion (workerId : String) (p : SqliteStatement) (table view : OutboxTable) :
    Prop :=
  match p with
  | .selectReady .. => view = table
  | .updateClaim _ ids todo => todo ⊆ ids ∧ ∀ id, id ∉ ids → view.get id = table.get id
  | .commit ids => ∀ id, id ∉ ids → view.get id = table.get id
  | .updateFail id .. => ∃ row, view.get id = some row ∧ claimedBy workerId row = true
  | .selectFailed _ changes => changes = 1
  | _ => True

/-- A `fail` that returned had changed its row. -/
def Recorded (a : SqliteAnswer) : Prop := ∀ id changes, a.failed = some (id, changes) → changes = 1

/-- A claim is committed only while no other connection stands between the read and the
update of a `fail` on a job it takes. -/
def NoTakeover : SqliteStatement → SqliteStatement → Prop
  | .commit ids, .updateFail id .. => id ∉ ids
  | _, _ => True

variable {workerId : String} {table : OutboxTable} {id : String}

/-- INTERNAL: the rows other than the one under `id` after an `UPDATE`. -/
theorem updateById_get_ne (condition : OutboxRow → Bool) (change : OutboxRow → OutboxRow)
    {id' : String} (hne : id' ≠ id) :
    (updateById id condition change table).1.get id' = table.get id' := by
  unfold updateById
  split
  · split
    · simp [hne]
    · rfl
  · rfl

/-- INTERNAL: a row that does not meet the condition of an `UPDATE` stays as it is. -/
theorem updateById_get_of_not {condition : OutboxRow → Bool} {change : OutboxRow → OutboxRow}
    {id' : String} {row : OutboxRow} (hget : table.get id' = some row)
    (hnot : condition row = false) :
    (updateById id condition change table).1.get id' = some row := by
  by_cases hid : id' = id
  · subst hid
    simp [updateById, hget, hnot]
  · rw [updateById_get_ne condition change hid, hget]

/-- INTERNAL: a row that meets the condition of an `UPDATE` is the one row changed. -/
theorem updateById_of_meets {condition : OutboxRow → Bool} {change : OutboxRow → OutboxRow}
    {row : OutboxRow} (hget : table.get id = some row) (hmeets : condition row = true) :
    updateById id condition change table = (table.set id (change row), 1) := by
  simp [updateById, hget, hmeets]

/-- INTERNAL: a row claimed by one worker is not claimed by another. -/
theorem claimedBy_other {w w' : String} (hne : w ≠ w') {row : OutboxRow}
    (h : claimedBy w row = true) : claimedBy w' row = false := by
  simp only [claimedBy, Bool.and_eq_true, decide_eq_true_eq] at h
  simp [claimedBy, h.2, hne]

/-- INTERNAL: the row that `fail` goes on with is claimed by its worker.
SOURCE: apps/api/src/reliability/outbox.js:368-371 -/
theorem heldRow_spec {record : OutboxJob} (h : heldRow table id workerId = .ok record) :
    ∃ row, table.get id = some row ∧ claimedBy workerId row = true ∧ record = sqliteRow row := by
  unfold heldRow selectById at h
  split at h
  · rename_i row hget
    split at h
    · rename_i hclaimed
      exact ⟨row, hget, hclaimed, (Except.ok.inj h).symm⟩
    · cases h
  · cases h

/-- INTERNAL: an update that another worker commits leaves a claimed row as it is.
SOURCE: apps/api/src/reliability/outbox.js:318-400 -/
theorem write_keeps_claim {w w' : String} (hne : w ≠ w') {p : SqliteStatement}
    (hwrite : statementAccess p = .write) {row : OutboxRow} (hget : table.get id = some row)
    (hclaimed : claimedBy w row = true) : (runStatement w' table p).1.get id = some row := by
  have hother : claimedBy w' row = false := claimedBy_other hne hclaimed
  cases p with
  | insert job event =>
    show (insertOrIgnore job event table).get id = some row
    unfold insertOrIgnore
    split
    · exact hget
    · rename_i hfree
      have hid : id ≠ job.id := by
        rintro rfl
        simp [OrderedMap.has_eq_isSome, hget] at hfree
      rw [OrderedMap.get_set, if_neg hid, hget]
  | updateComplete id' completedAt => exact updateById_get_of_not hget hother
  | updateFail id' dead nextAttemptAt error failedAt => exact updateById_get_of_not hget hother
  | updateReplay id' tenantId replayReason replayedAt =>
    refine updateById_get_of_not hget ?_
    simp only [claimedBy, Bool.and_eq_true, decide_eq_true_eq] at hclaimed
    simp [deadOf, hclaimed.1]
  | begin | updateClaim | commit | selectKey | selectNewId | selectReady | selectClaimed
  | selectCompleted | selectFail | selectFailed | selectReplayed => simp [statementAccess] at hwrite

/-- INTERNAL: the claim goes on under its assertion.
SOURCE: apps/api/src/reliability/outbox.js:350-351 -/
theorem claimRest_assertion {claimedAt : Int} {ids todo : List String} {view : OutboxTable}
    (hsub : todo ⊆ ids) (hsame : ∀ id, id ∉ ids → view.get id = table.get id) :
    StatementAssertion workerId (claimRest claimedAt ids todo) table view := by
  cases todo with
  | nil => exact hsame
  | cons id todo => exact ⟨hsub, hsame⟩

/-- INTERNAL: the reads after a claim are followed by reads or by the answer.
SOURCE: apps/api/src/reliability/outbox.js:352 -/
theorem rereadRest_after (jobs : List OutboxJob) (ids : List String) (view : OutboxTable) :
    After (StatementAssertion workerId · table view) Recorded (rereadRest jobs ids) := by
  cases ids with
  | nil =>
    intro id changes h
    cases h
  | cons id ids => trivial

/-- INTERNAL: a throw records nothing and reports nothing. -/
theorem recorded_throw (e : JsError) : Recorded (.throw e) := fun _ _ h => by cases h

/-- INTERNAL: so does an answer of a call other than `fail`. -/
theorem recorded_return (r : OutboxResult) : Recorded (.return r) := fun _ _ h => by cases h

/-- INTERNAL: a fallible computation goes on under the assertion of its statement. -/
theorem proceed_after {next : Except JsError SqliteStatement} {view : OutboxTable}
    (h : ∀ p, next = .ok p → StatementAssertion workerId p table view) :
    After (StatementAssertion workerId · table view) Recorded (proceed next) := by
  cases next with
  | ok p => exact h p rfl
  | error e => exact recorded_throw e

/-- INTERNAL: nothing is known of the first statement of a call.
SOURCE: apps/api/src/reliability/outbox.js:318-400 -/
theorem firstStatement_assertion {c : WorkerCall} {p : SqliteStatement} {view : OutboxTable}
    (h : firstStatement c = .ok p) : StatementAssertion workerId p table view := by
  cases c with
  | enqueue event key now =>
    obtain ⟨job, -, h⟩ := bind_eq_ok.mp h
    obtain rfl := Except.ok.inj h
    trivial
  | claim now limit staleAfterMs =>
    obtain ⟨claimedAt, -, h⟩ := bind_eq_ok.mp h
    obtain ⟨staleBefore, -, h⟩ := bind_eq_ok.mp h
    obtain rfl := Except.ok.inj h
    trivial
  | complete id now =>
    obtain ⟨completedAt, -, h⟩ := bind_eq_ok.mp h
    obtain rfl := Except.ok.inj h
    trivial
  | fail id error now options =>
    obtain rfl := Except.ok.inj h
    trivial
  | replay id tenantId reason now =>
    obtain ⟨replayReason, -, h⟩ := bind_eq_ok.mp h
    obtain ⟨replayedAt, -, h⟩ := bind_eq_ok.mp h
    obtain rfl := Except.ok.inj h
    trivial

/-- INTERNAL: `fail` goes on to its update when the row it read is claimed by its worker.
SOURCE: apps/api/src/reliability/outbox.js:368-378 -/
theorem decideFail_assertion {error : JsError} {now : Int} {options : FailOptions}
    {p : SqliteStatement} {view : OutboxTable}
    (h : decideFail workerId view id error now options = .ok p) :
    StatementAssertion workerId p table view := by
  obtain ⟨record, hheld, h⟩ := bind_eq_ok.mp h
  obtain ⟨failedAt, -, h⟩ := bind_eq_ok.mp h
  obtain ⟨nextAttemptAt, -, h⟩ := bind_eq_ok.mp h
  obtain rfl := Except.ok.inj h
  obtain ⟨row, hget, hclaimed, -⟩ := heldRow_spec hheld
  exact ⟨row, hget, hclaimed⟩

/-- INTERNAL: a statement that only reads goes on under the assertion of the next one.
SOURCE: apps/api/src/reliability/outbox.js:318-400 -/
theorem read_after {p : SqliteStatement} {view : OutboxTable} (hacc : statementAccess p = .read)
    (h : StatementAssertion workerId p table view) :
    After (StatementAssertion workerId · table view) Recorded (runStatement workerId view p).2 := by
  cases p with
  | selectKey job event =>
    simp only [runStatement]
    split
    · split
      · exact recorded_return _
      · exact recorded_throw _
    · trivial
  | selectNewId job =>
    simp only [runStatement]
    split
    · exact recorded_throw _
    · exact recorded_throw _
  | selectReady claimedAt staleBefore limit =>
    obtain rfl : view = table := h
    exact claimRest_assertion (List.Subset.refl _) fun _ _ => rfl
  | selectClaimed ids jobs =>
    cases ids with
    | nil => exact recorded_return _
    | cons id ids => exact rereadRest_after _ ids view
  | selectCompleted id => exact recorded_return _
  | selectFail id error now options => exact proceed_after fun p hp => decideFail_assertion hp
  | selectFailed id changes =>
    intro id' changes' heq
    obtain ⟨rfl, rfl⟩ : id = id' ∧ changes = changes' := by simpa using heq
    exact h
  | selectReplayed id => exact recorded_return _
  | insert | updateComplete | updateFail | updateReplay | begin | updateClaim | commit =>
    simp [statementAccess] at hacc

/-- INTERNAL: so does a statement that commits by itself. The update of `fail` changes the
row its worker has claimed.
SOURCE: apps/api/src/reliability/outbox.js:318-400 -/
theorem write_after {p : SqliteStatement} {view : OutboxTable} (hacc : statementAccess p = .write)
    (h : StatementAssertion workerId p table table) :
    After (StatementAssertion workerId · view view) Recorded (runStatement workerId table p).2 := by
  cases p with
  | insert job event => trivial
  | updateComplete id completedAt =>
    simp only [runStatement]
    split
    · exact recorded_throw _
    · trivial
  | updateFail id dead nextAttemptAt error failedAt =>
    obtain ⟨row, hget, hclaimed⟩ := h
    show (updateFail id workerId dead nextAttemptAt error failedAt table).2 = 1
    rw [updateFail, updateById_of_meets hget hclaimed]
  | updateReplay id tenantId replayReason replayedAt =>
    simp only [runStatement]
    split
    · trivial
    · exact recorded_return _
  | selectKey | selectNewId | selectReady | selectClaimed | selectCompleted | selectFail
  | selectFailed | selectReplayed | begin | updateClaim | commit => simp [statementAccess] at hacc

/-- INTERNAL: **the statements of the source satisfy the assertions**, for workers with
different ids.
SOURCE: apps/api/src/reliability/outbox.js:318-400 -/
theorem sqlite_asserted {ι : Type} {workerIds : ι → String}
    (distinct : Function.Injective workerIds) :
    Asserted (fun i => sqliteClient (workerIds i))
      (fun i => StatementAssertion (workerIds i)) (fun _ => Recorded) NoTakeover where
  start i c d v := proceed_after fun p hp => firstStatement_assertion hp
  thrown i p := recorded_throw _
  read i p d v hacc h := read_after hacc h
  write i p d hacc h := write_after hacc h
  begin i p d hacc h := by
    cases p with
    | begin claimedAt staleBefore limit => exact rfl
    | insert | updateComplete | updateFail | updateReplay | selectKey | selectNewId | selectReady
    | selectClaimed | selectCompleted | selectFail | selectFailed | selectReplayed | updateClaim
    | commit => simp [sqliteClient, statementAccess] at hacc
  draft i p d v hacc h := by
    cases p with
    | updateClaim claimedAt ids todo =>
      obtain ⟨hsub, hsame⟩ := h
      cases todo with
      | nil => exact hsame
      | cons id todo =>
        refine claimRest_assertion (fun id' hid' => hsub (List.mem_cons_of_mem id hid')) ?_
        intro id' hid'
        have hne : id' ≠ id := fun heq => hid' (heq ▸ hsub List.mem_cons_self)
        exact (updateById_get_ne _ _ hne).trans (hsame id' hid')
    | insert | updateComplete | updateFail | updateReplay | selectKey | selectNewId | selectReady
    | selectClaimed | selectCompleted | selectFail | selectFailed | selectReplayed | begin
    | commit => simp [sqliteClient, statementAccess] at hacc
  commit i p d v hacc h := by
    cases p with
    | commit ids => exact rereadRest_after [] ids v
    | insert | updateComplete | updateFail | updateReplay | selectKey | selectNewId | selectReady
    | selectClaimed | selectCompleted | selectFail | selectFailed | selectReplayed | begin
    | updateClaim => simp [sqliteClient, statementAccess] at hacc
  afterWrite i p d hacc h j q hj hq := by
    cases q with
    | selectReady => rfl
    | updateClaim claimedAt ids todo => exact ⟨hq.1, fun _ _ => rfl⟩
    | commit ids => exact fun _ _ => rfl
    | updateFail id dead nextAttemptAt error failedAt =>
      obtain ⟨row, hget, hclaimed⟩ := hq
      exact ⟨row, write_keeps_claim (distinct.ne hj) hacc hget hclaimed, hclaimed⟩
    | selectFailed id changes => exact hq
    | insert | updateComplete | updateReplay | selectKey | selectNewId | selectClaimed
    | selectCompleted | selectFail | selectReplayed | begin => trivial
  afterCommit i p d v hacc h j q hj allowed hq := by
    cases q with
    | selectReady => rfl
    | updateClaim claimedAt ids todo => exact ⟨hq.1, fun _ _ => rfl⟩
    | commit ids => exact fun _ _ => rfl
    | updateFail id dead nextAttemptAt error failedAt =>
      cases p with
      | commit ids =>
        obtain ⟨row, hget, hclaimed⟩ := hq
        exact ⟨row, (h id allowed).trans hget, hclaimed⟩
      | insert | updateComplete | updateFail | updateReplay | selectKey | selectNewId | selectReady
      | selectClaimed | selectCompleted | selectFail | selectFailed | selectReplayed | begin
      | updateClaim => simp [sqliteClient, statementAccess] at hacc
    | selectFailed id changes => exact hq
    | insert | updateComplete | updateReplay | selectKey | selectNewId | selectClaimed
    | selectCompleted | selectFail | selectReplayed | begin => trivial

/-- INTERNAL: the update of `fail` writes the failure into a row of its worker's claim, if it
changes a row, and leaves every other worker's claim as it is.
SOURCE: apps/api/src/reliability/outbox.js:375-378 -/
theorem updateFail_spec (workerId : String) (table : OutboxTable) (id : String) (dead : Bool)
    (nextAttemptAt : Int) (error : JsError) (failedAt : Int) :
    ((updateFail id workerId dead nextAttemptAt error failedAt table).2 = 1 →
      ∃ row, table.get id = some row ∧ claimedBy workerId row = true ∧
        (updateFail id workerId dead nextAttemptAt error failedAt table).1.get id =
          some (setFailed dead nextAttemptAt error failedAt row)) ∧
    ∀ id' row, table.get id' = some row → claimedBy workerId row = false →
      (updateFail id workerId dead nextAttemptAt error failedAt table).1.get id' = some row := by
  constructor
  · intro hchanged
    cases hget : table.get id with
    | none => simp [updateFail, updateById, hget] at hchanged
    | some row =>
      cases hclaimed : claimedBy workerId row with
      | false => simp [updateFail, updateById, hget, hclaimed] at hchanged
      | true =>
        refine ⟨row, rfl, hclaimed, ?_⟩
        rw [updateFail, updateById_of_meets hget hclaimed]
        simp [setFailed]
  · intro id' row hget hnot
    exact updateById_get_of_not hget hnot

/-- **When `fail` tells the truth.** Processes with different worker ids run their statements
in any order. If every claim is committed while no other process stands between the read and
the update of a `fail` on a job it takes, then every `fail` that returned had recorded the
failure, and the update of a `fail` writes the failure into its own worker's claim and leaves
every other row as it is.
SOURCE: apps/api/src/reliability/outbox.js:367-380 -/
theorem fail_records {ι : Type} [DecidableEq ι] {workerIds : ι → String}
    (distinct : Function.Injective workerIds) (table : OutboxTable)
    (ls : List (ConnectionStep ι WorkerCall))
    (t : Connected ι OutboxTable SqliteStatement SqliteAnswer)
    (undisturbed : (sqliteConnections workerIds).Meets
      (CommitsAllowed (fun i => sqliteClient (workerIds i)) NoTakeover) (.initial table) ls)
    (run : (sqliteConnections workerIds).run (.initial table) ls = some t) :
    (∀ i a, (i, a) ∈ t.answers → Recorded a) ∧
      ∀ i id dead nextAttemptAt error failedAt u,
        t.running i = some (.updateFail id dead nextAttemptAt error failedAt) →
        (sqliteConnections workerIds).step t (.exec i) = some u →
        (∃ row, t.committed.get id = some row ∧ claimedBy (workerIds i) row = true ∧
          u.committed.get id = some (setFailed dead nextAttemptAt error failedAt row)) ∧
        ∀ id' row, t.committed.get id' = some row → claimedBy (workerIds i) row = false →
          u.committed.get id' = some row := by
  have holds := assertion_rule (sqlite_asserted distinct) undisturbed run
  refine ⟨holds.answered, fun i id dead nextAttemptAt error failedAt u hp step => ?_⟩
  cases hdraft : t.draft with
  | some owned =>
    simp [sqliteConnections, connections, hp, Connected.exec, sqliteClient, statementAccess,
      hdraft] at step
  | none =>
    obtain ⟨row, hget, hclaimed⟩ := holds.running i _ hp
    rw [view_of_draft_none hdraft] at hget
    have hspec := updateFail_spec (workerIds i) t.committed id dead nextAttemptAt error failedAt
    have hchanged : (updateFail id (workerIds i) dead nextAttemptAt error failedAt t.committed).2 =
        1 := by rw [updateFail, updateById_of_meets hget hclaimed]
    have hu : u.committed =
        (updateFail id (workerIds i) dead nextAttemptAt error failedAt t.committed).1 := by
      simp only [sqliteConnections, connections, hp, Connected.exec, sqliteClient, statementAccess,
        hdraft, runStatement, Connected.resume, Option.some.injEq] at step
      rw [← step]
    rw [hu]
    exact ⟨hspec.1 hchanged, hspec.2⟩

/-- The two worker ids of the runs below. -/
def workerAB : Bool → String
  | true => "worker-a"
  | false => "worker-b"

/-- INTERNAL: the two worker ids differ. -/
theorem workerAB_injective : Function.Injective workerAB := by
  intro a b h
  cases a <;> cases b <;> simp_all [workerAB]

/-- The event of the runs below. -/
def reportEvent : OutboxEvent where
  id := "event-1"
  eventType := "report.requested"
  aggregateType := "report"
  aggregateId := "report-1"

/-- A job is enqueued and claimed by `worker-a`, which then calls `fail`. -/
def failRun : List (ConnectionStep Bool WorkerCall) :=
  [.call true (.enqueue reportEvent none 0), .exec true, .exec true,
    .call true (.claim 0 1 60000), .exec true, .exec true, .exec true, .exec true, .exec true,
    .call true (.fail "event-1" (newError "provider unavailable") 60000 {}), .exec true]

/-- `worker-b` takes the stale job over, and then `worker-a` runs the rest of its `fail`. -/
def takeoverRun : List (ConnectionStep Bool WorkerCall) :=
  failRun ++ [.call false (.claim 60000 1 60000), .exec false, .exec false, .exec false,
    .exec false, .exec false, .exec true, .exec true]

/-- The guard of `fail_records` for two connections, as a test. -/
def quietCommit (s : Connected Bool OutboxTable SqliteStatement SqliteAnswer) :
    ConnectionStep Bool WorkerCall → Bool
  | .exec i =>
    match s.running i, s.running (!i) with
    | some (.commit ids), some (.updateFail id ..) => id ∉ ids
    | _, _ => true
  | _ => true

/-- INTERNAL: the test decides the guard. -/
theorem commitsAllowed_of_quietCommit
    (s : Connected Bool OutboxTable SqliteStatement SqliteAnswer)
    (l : ConnectionStep Bool WorkerCall) (h : quietCommit s l = true) :
    CommitsAllowed (fun i => sqliteClient (workerAB i)) NoTakeover s l := by
  cases l with
  | call | throws => trivial
  | exec i =>
    intro p hp hacc j q hj hq
    obtain rfl : j = !i := by cases i <;> cases j <;> simp_all
    cases p with
    | commit ids =>
      cases q with
      | updateFail id => simpa [quietCommit, hp, hq, NoTakeover] using h
      | _ => trivial
    | _ => trivial

/-- A `fail` without a takeover records the failure. -/
theorem fail_records_failRun :
    ∃ t, (sqliteConnections workerAB).run (.initial .empty) (failRun ++ [.exec true, .exec true]) =
        some t ∧ (t.answers.filterMap (·.2.failed) = [("event-1", 1)]) ∧
      ∀ i a, (i, a) ∈ t.answers → Recorded a := by
  have hrun : ((sqliteConnections workerAB).run (.initial .empty)
      (failRun ++ [.exec true, .exec true])).map (fun t => t.answers.filterMap (·.2.failed)) =
      some [("event-1", 1)] := by decide
  obtain ⟨t, ht, hfailed⟩ := Option.map_eq_some_iff.mp hrun
  have hquiet := (sqliteConnections workerAB).meets_of_check commitsAllowed_of_quietCommit
    (.initial .empty) (failRun ++ [.exec true, .exec true]) (by decide)
  exact ⟨t, ht, hfailed, (fail_records workerAB_injective .empty _ t hquiet ht).1⟩

/-- After a takeover, `fail` returns normally though its update changed no row, and what it
returns is the other worker's claim.
SOURCE: apps/api/src/reliability/outbox.js:375-379 -/
theorem fail_returns_unrecorded :
    ¬ ∀ (workerIds : Bool → String) (table : OutboxTable)
        (ls : List (ConnectionStep Bool WorkerCall))
        (t : Connected Bool OutboxTable SqliteStatement SqliteAnswer),
      Function.Injective workerIds →
      (sqliteConnections workerIds).run (.initial table) ls = some t →
      ∀ i a, (i, a) ∈ t.answers → Recorded a := by
  intro h
  have hrun : ((sqliteConnections workerAB).run (.initial .empty) takeoverRun).map
      (fun t => (t.answers.filterMap (·.2.failed), (t.committed.get "event-1").map (·.lockedBy))) =
      some ([("event-1", 0)], some (some "worker-b")) := by decide
  obtain ⟨t, ht, hend⟩ := Option.map_eq_some_iff.mp hrun
  have hfailed : ("event-1", 0) ∈ t.answers.filterMap (·.2.failed) := by
    rw [(Prod.mk.inj hend).1]
    simp
  obtain ⟨⟨i, a⟩, hmem, ha⟩ := List.mem_filterMap.mp hfailed
  exact absurd (h workerAB .empty takeoverRun t workerAB_injective ht i a hmem "event-1" 0 ha)
    (by decide)

end Xygo.Analysis
