import Xygo.Analysis.PostgresOutboxHistory

/-!
# Concurrent sessions of the Postgres outbox

A `Stage` is what is known of a session between two statements: only an open claim holds rows,
and they are as they were when it selected them. So every statement either leaves the table
alone or is one `Committed` call, and a run of any number of sessions is a serial history of
calls (`sessions_serial`), whatever is refused or lost on the way.
-/

set_option autoImplicit false

namespace Xygo.Analysis

open Xygo.Computation Xygo.Model

variable {c : OutboxCall} {log log' : OutboxLog}

/-! ## What is known between two statements -/

section Sessions

variable {ι : Type} {s t : PostgresRows ι} {i j : ι}

/-- A session holds no row. -/
def Idle (s : PostgresRows ι) (i : ι) : Prop := ∀ id row, ¬ s.Holds i id row

/-- What is known of a session that answers a call and is to run a statement. -/
inductive Stage (s : PostgresRows ι) (i : ι) : OutboxCall → PostgresStatement → Prop
  | insert {event : OutboxEvent} {key : Option String} {now : Int} {job : OutboxJob}
      (idle : Idle s i) (built : newJob event key now = .ok job) :
      Stage s i (.enqueue event key now) (.insert job event)
  | selectKey {event : OutboxEvent} {key : Option String} {now : Int} {job : OutboxJob}
      (idle : Idle s i) (built : newJob event key now = .ok job) :
      Stage s i (.enqueue event key now) (.selectKey job event)
  | begin {workerId : String} {now limit staleAfterMs : Int} (idle : Idle s i) :
      Stage s i (.claim workerId now limit staleAfterMs)
        (.begin workerId now (now - staleAfterMs) limit)
  | claim {workerId : String} {now limit staleAfterMs : Int} (idle : Idle s i) :
      Stage s i (.claim workerId now limit staleAfterMs)
        (.claim workerId now (now - staleAfterMs) limit)
  /-- The rows of an open claim are as they were when it selected them. -/
  | commit {workerId : String} {now limit staleAfterMs : Int} {old : List OutboxRow}
      (distinct : (old.map OutboxRow.id).Nodup) (within : (old.length : Int) ≤ limit)
      (ready : ∀ row ∈ old, s.rows.get row.id = some row ∧
        isReady now (now - staleAfterMs) (postgresRow row) = true)
      (holds : ∀ id row, s.Holds i id row ↔
        ∃ row' ∈ old, row'.id = id ∧ row = setClaimed workerId now row') :
      Stage s i (.claim workerId now limit staleAfterMs)
        (.commit (old.map (setClaimed workerId now)))
  | updateComplete {id workerId : String} {now : Int} (idle : Idle s i) :
      Stage s i (.complete id workerId now) (.updateComplete id workerId now)
  | selectFail {id workerId : String} {error : JsError} {now : Int} {options : FailOptions}
      (idle : Idle s i) :
      Stage s i (.fail id workerId error now options) (.selectFail id workerId error now options)
  /-- The row is not in an earlier round than the record that was read of it. -/
  | updateFail {id workerId : String} {error : JsError} {now next : Int} {options : FailOptions}
      {record : OutboxJob} {row : OutboxRow} (idle : Idle s i)
      (due : retryAt record now options = .ok next) (found : s.rows.get id = some row)
      (before : claimRound record ≤ claimRound (postgresRow row)) :
      Stage s i (.fail id workerId error now options)
        (.updateFail id workerId record next error now options)
  | updateReplay {id : String} {tenantId : Option String} {reason replayReason : String}
      {now : Int} (idle : Idle s i) (accepted : normalizedReplayReason reason = .ok replayReason) :
      Stage s i (.replay id tenantId reason now) (.updateReplay id tenantId replayReason now)

/-- What is known of a session: with no call it holds nothing. -/
def SessionStage (s : PostgresRows ι) (i : ι) : Option (OutboxCall × PostgresStatement) → Prop
  | none => Idle s i
  | some (c, statement) => Stage s i c statement

/-- INTERNAL: a session that holds nothing goes on holding nothing. -/
theorem Idle.same (h : Idle s i) (same : LockedRows.SameFor i s t) : Idle t i :=
  fun id row hrow => h id row ((same.held id row).mp hrow)

/-- INTERNAL: what the other sessions do does not change what is known of a session.
SOURCE: apps/api/src/reliability/outbox.js:469-560 -/
theorem Stage.stable {c : OutboxCall} {statement : PostgresStatement} (h : Stage s i c statement)
    (same : LockedRows.SameFor i s t) (forward : Forward s.rows t.rows) :
    Stage t i c statement := by
  cases h with
  | insert idle built => exact .insert (idle.same same) built
  | selectKey idle built => exact .selectKey (idle.same same) built
  | begin idle => exact .begin (idle.same same)
  | claim idle => exact .claim (idle.same same)
  | commit distinct within ready holds =>
    refine .commit distinct within (fun row hrow => ?_) fun id row =>
      (same.held id row).trans (holds id row)
    obtain ⟨hget, hready⟩ := ready row hrow
    have hheld := (holds row.id _).mpr ⟨row, hrow, rfl, rfl⟩
    exact ⟨(same.rows row.id _ hheld).trans hget, hready⟩
  | updateComplete idle => exact .updateComplete (idle.same same)
  | selectFail idle => exact .selectFail (idle.same same)
  | updateFail idle due found before =>
    obtain ⟨row', hrow', hle⟩ := forward _ _ found
    exact .updateFail (idle.same same) due hrow' (before.trans hle)
  | updateReplay idle accepted => exact .updateReplay (idle.same same) accepted

/-- INTERNAL: the same for a session with or without a call. -/
theorem SessionStage.stable {running : Option (OutboxCall × PostgresStatement)}
    (h : SessionStage s i running) (same : LockedRows.SameFor i s t)
    (forward : Forward s.rows t.rows) : SessionStage t i running := by
  cases running with
  | none => exact Idle.same h same
  | some doing => exact Stage.stable h same forward

/-- INTERNAL: a session holds only rows that are there. -/
theorem SessionStage.present {running : Option (OutboxCall × PostgresStatement)}
    (h : SessionStage s i running) {id : String} {row : OutboxRow} (held : s.Holds i id row) :
    (s.rows.get id).isSome := by
  cases running with
  | none => exact absurd held (h id row)
  | some doing =>
    obtain ⟨c, statement⟩ := doing
    cases (h : Stage s i c statement) with
    | commit distinct within ready holds =>
      obtain ⟨row', hmem, rfl, -⟩ := (holds id row).mp held
      simp [(ready row' hmem).1]
    | insert idle | selectKey idle | begin idle | claim idle | updateComplete idle
    | selectFail idle | updateFail idle | updateReplay idle => exact absurd held (idle id row)

/-- INTERNAL: the rows a claim selects.
SOURCE: apps/api/src/reliability/outbox.js:493-499 -/
theorem isSelection_rows {claimedAt staleBefore limit : Int} {ids : List String}
    (keyed : ∀ id row, s.rows.get id = some row → row.id = id)
    (h : isSelection s claimedAt staleBefore limit ids = true) :
    ∃ old : List OutboxRow, ids.filterMap s.rows.get = old ∧ old.map OutboxRow.id = ids ∧
      ids.Nodup ∧ (ids.length : Int) ≤ limit ∧
      ∀ row ∈ old, s.rows.get row.id = some row ∧ s.locks.get row.id = none ∧
        isReady claimedAt staleBefore (postgresRow row) = true := by
  simp only [isSelection, Bool.and_eq_true, decide_eq_true_eq, List.all_eq_true] at h
  obtain ⟨⟨-, hnodup, hlimit⟩, hall⟩ := h
  have hrow (id : String) (hid : id ∈ ids) : ∃ row, s.rows.get id = some row ∧ row.id = id ∧
      s.locks.get id = none ∧ isReady claimedAt staleBefore (postgresRow row) = true := by
    have hsel := hall id hid
    simp only [selectable, Bool.and_eq_true, Bool.not_eq_true'] at hsel
    obtain ⟨hfree, hready⟩ := hsel
    cases hget : s.rows.get id with
    | none => simp [hget] at hready
    | some row =>
      rw [hget] at hready
      exact ⟨row, rfl, keyed id row hget, OrderedMap.get_eq_none.mpr hfree, hready⟩
  refine ⟨_, rfl, ?_, hnodup, hlimit, fun row hmem => ?_⟩
  · clear hlimit hnodup hall
    induction ids with
    | nil => rfl
    | cons id ids ih =>
      obtain ⟨row, hget, hid, -⟩ := hrow id List.mem_cons_self
      rw [List.filterMap_cons_some hget, List.map_cons, hid,
        ih fun id' h' => hrow id' (List.mem_cons_of_mem _ h')]
  · obtain ⟨id, hid, hget⟩ := List.mem_filterMap.mp hmem
    obtain ⟨row', hget', rfl, hfree, hready⟩ := hrow id hid
    obtain rfl : row' = row := Option.some.inj (hget'.symm.trans hget)
    exact ⟨hget, hfree, hready⟩

variable [DecidableEq ι]

/-- What a statement leads to: the table unchanged and the next statement, a committed call
with its answer, or the table unchanged and an error. -/
def Led (s : PostgresRows ι) (i : ι) (c : OutboxCall) (t : PostgresRows ι) : PostgresNext → Prop
  | .inl statement => t.rows = s.rows ∧ Stage t i c statement
  | .inr (.ok result) => Committed s.rows c result t.rows ∧ Idle t i
  | .inr (.error _) => t.rows = s.rows ∧ Idle t i

/-- INTERNAL: what a conditional update leads to, for its own session and for the others.
SOURCE: apps/api/src/reliability/outbox.js:514-519, 532-537, 553-559 -/
theorem updateRow_cases {id : String} {condition : OutboxRow → Bool}
    {change : OutboxRow → OutboxRow} {row : Option OutboxRow}
    (h : updateRow s i id condition change = some (t, row)) :
    (t = s ∧ row = none) ∨
      ∃ old, s.rows.get id = some old ∧ condition old = true ∧ row = some (change old) ∧
        s.write i id (change old) = some t := by
  unfold updateRow at h
  cases hget : s.rows.get id with
  | none =>
    rw [hget] at h
    obtain ⟨rfl, rfl⟩ : s = t ∧ none = row := by simpa using h
    exact Or.inl ⟨rfl, rfl⟩
  | some old =>
    rw [hget] at h
    dsimp only at h
    split at h
    · rename_i hcondition
      obtain ⟨t', hwrite, heq⟩ := Option.map_eq_some_iff.mp h
      obtain ⟨rfl, rfl⟩ : t' = t ∧ some (change old) = row := by simpa using heq
      exact Or.inr ⟨old, rfl, hcondition, rfl, hwrite⟩
    · obtain ⟨rfl, rfl⟩ : s = t ∧ none = row := by simpa using h
      exact Or.inl ⟨rfl, rfl⟩

/-- INTERNAL: a conditional update of a session that holds nothing, whatever it answers.
SOURCE: apps/api/src/reliability/outbox.js:514-519, 532-537, 553-559 -/
theorem led_update {id : String} {condition : OutboxRow → Bool} {change : OutboxRow → OutboxRow}
    {row : Option OutboxRow} (next : Option OutboxRow → PostgresNext)
    (h : updateRow s i id condition change = some (t, row)) (idle : Idle s i)
    (changed : ∀ old, s.rows.get id = some old → condition old = true →
      ∃ r, next (some (change old)) = .inr (.ok r) ∧
        Committed s.rows c r (s.rows.set id (change old)))
    (unchanged : Led s i c s (next none)) :
    Led s i c t (next row) ∧ ∀ j, j ≠ i → LockedRows.SameFor j s t := by
  obtain ⟨rfl, rfl⟩ | ⟨old, hget, hcondition, rfl, hwrite⟩ := updateRow_cases h
  · exact ⟨unchanged, fun j _ => LockedRows.SameFor.refl j _⟩
  · obtain ⟨r, hnext, hcommitted⟩ := changed old hget hcondition
    refine ⟨?_, fun j hne => LockedRows.sameFor_write hne hwrite⟩
    obtain ⟨-, rfl⟩ := LockedRows.write_eq_some hwrite
    rw [hnext]
    exact ⟨hcommitted, idle⟩

/-- INTERNAL: the commit of a claim is one committed call.
SOURCE: apps/api/src/reliability/outbox.js:503-504 -/
theorem committed_commit {workerId : String} {now limit staleAfterMs : Int} {old : List OutboxRow}
    (distinct : (old.map OutboxRow.id).Nodup) (within : (old.length : Int) ≤ limit)
    (ready : ∀ row ∈ old, s.rows.get row.id = some row ∧
      isReady now (now - staleAfterMs) (postgresRow row) = true)
    (holds : ∀ id row, s.Holds i id row ↔
      ∃ row' ∈ old, row'.id = id ∧ row = setClaimed workerId now row') :
    Committed s.rows (.claim workerId now limit staleAfterMs)
      (.jobs ((old.map (setClaimed workerId now)).map postgresRow)) (s.commit i).rows := by
  refine .claimed distinct within ready fun id => ?_
  split
  · rename_i hmem
    obtain ⟨row, hrow, rfl⟩ := List.mem_map.mp hmem
    rw [LockedRows.get_commit_of_holds ((holds row.id _).mpr ⟨row, hrow, rfl, rfl⟩),
      (ready row hrow).1]
    rfl
  · rename_i hmem
    refine LockedRows.get_commit_of_not_holds fun row hheld => hmem ?_
    obtain ⟨row', hrow', rfl, -⟩ := (holds id row).mp hheld
    exact List.mem_map_of_mem hrow'

/-- **What a statement leads to**, for its own session and for the others.
SOURCE: apps/api/src/reliability/outbox.js:469-560 -/
theorem led_runPostgres {ids : List String} {statement : PostgresStatement} {next : PostgresNext}
    (stage : Stage s i c statement) (keyed : ∀ id row, s.rows.get id = some row → row.id = id)
    (present : ∀ j id row, s.Holds j id row → (s.rows.get id).isSome)
    (h : runPostgres s i ids statement = some (t, next)) :
    Led s i c t next ∧ ∀ j, j ≠ i → LockedRows.SameFor j s t := by
  cases stage with
  | @insert event key now job idle built =>
    simp only [runPostgres] at h
    split at h
    · obtain ⟨rfl, rfl⟩ : s = t ∧ _ = next := by simpa using h
      exact ⟨⟨rfl, .selectKey idle built⟩, fun j _ => LockedRows.SameFor.refl j _⟩
    · rename_i hkey
      split at h
      · obtain ⟨rfl, rfl⟩ : s = t ∧ _ = next := by simpa using h
        exact ⟨⟨rfl, idle⟩, fun j _ => LockedRows.SameFor.refl j _⟩
      · rename_i hid
        obtain ⟨rfl, rfl⟩ : _ = t ∧ _ = next := by simpa using h
        have hfree : s.rows.get job.id = none := OrderedMap.get_eq_none.mpr (by simpa using hid)
        exact ⟨⟨.enqueued built (by simpa using hkey) hfree, idle⟩,
          fun j _ => LockedRows.sameFor_insert hfree (present j)⟩
  | @selectKey event key now job idle built =>
    simp only [runPostgres] at h
    cases hfound : selectByKey s.rows job.idempotencyKey with
    | none =>
      rw [hfound] at h
      obtain ⟨rfl, rfl⟩ : s = t ∧ _ = next := by simpa using h
      exact ⟨⟨rfl, idle⟩, fun j _ => LockedRows.SameFor.refl j _⟩
    | some existing =>
      rw [hfound] at h
      dsimp only at h
      split at h
      · rename_i hsame
        obtain ⟨rfl, rfl⟩ : s = t ∧ _ = next := by simpa using h
        exact ⟨⟨.duplicate built hfound hsame, idle⟩, fun j _ => LockedRows.SameFor.refl j _⟩
      · obtain ⟨rfl, rfl⟩ : s = t ∧ _ = next := by simpa using h
        exact ⟨⟨rfl, idle⟩, fun j _ => LockedRows.SameFor.refl j _⟩
  | begin idle =>
    simp only [runPostgres] at h
    obtain ⟨rfl, rfl⟩ : s = t ∧ _ = next := by simpa using h
    exact ⟨⟨rfl, .claim idle⟩, fun j _ => LockedRows.SameFor.refl j _⟩
  | @claim workerId now limit staleAfterMs idle =>
    simp only [runPostgres] at h
    split at h
    · rename_i hselection
      obtain ⟨rfl, rfl⟩ : _ = t ∧ _ = next := by simpa using h
      obtain ⟨old, hold, hids, hnodup, hlimit, hready⟩ := isSelection_rows keyed hselection
      have hclaimed : claimedRows s.rows workerId now ids = old.map (setClaimed workerId now) := by
        rw [claimedRows, hold]
      have hkeys : ((old.map (setClaimed workerId now)).map
          fun row => (row.id, row)).map Prod.fst = ids := by
        rw [← hids]
        simp [Function.comp_def, setClaimed]
      rw [hclaimed]
      have hdistinct := hkeys.symm ▸ hnodup
      refine ⟨⟨rfl, .commit (hids.symm ▸ hnodup) ?_ (fun row hrow =>
        ⟨(hready row hrow).1, (hready row hrow).2.2⟩) fun id row => ?_⟩, fun j hne =>
          LockedRows.sameFor_lock hne hdistinct fun version hversion => ?_⟩
      · rw [← hids] at hlimit
        simpa using hlimit
      · rw [LockedRows.holds_lock hdistinct idle]
        simp only [List.mem_map, Prod.mk.injEq]
        constructor
        · rintro ⟨_, ⟨row', hrow', rfl⟩, rfl, rfl⟩
          exact ⟨row', hrow', rfl, rfl⟩
        · rintro ⟨row', hrow', rfl, rfl⟩
          exact ⟨_, ⟨row', hrow', rfl⟩, rfl, rfl⟩
      · obtain ⟨row, hrow, rfl⟩ := List.mem_map.mp hversion
        obtain ⟨row', hrow', rfl⟩ := List.mem_map.mp hrow
        exact (hready row' hrow').2.1
    · cases h
  | commit distinct within ready holds =>
    simp only [runPostgres] at h
    obtain ⟨rfl, rfl⟩ := Prod.mk.inj (Option.some.inj h)
    exact ⟨⟨committed_commit distinct within ready holds, fun _ _ => LockedRows.not_holds_commit⟩,
      fun j hne => LockedRows.sameFor_commit hne s⟩
  | updateComplete idle =>
    simp only [runPostgres] at h
    obtain ⟨⟨t', row⟩, hupdate, heq⟩ := Option.map_eq_some_iff.mp h
    obtain ⟨rfl, rfl⟩ : t' = t ∧ _ = next := by simpa using heq
    exact led_update _ hupdate idle (fun old hget hheld => ⟨_, rfl, .completed hget hheld⟩)
      ⟨rfl, idle⟩
  | @selectFail id workerId error now options idle =>
    simp only [runPostgres] at h
    obtain ⟨rfl, rfl⟩ : s = t ∧ _ = next := by simpa using h
    refine ⟨?_, fun j _ => LockedRows.SameFor.refl j _⟩
    cases hdecide : decidePostgresFail s.rows id workerId error now options with
    | error e => exact ⟨rfl, idle⟩
    | ok statement =>
      unfold decidePostgresFail at hdecide
      obtain ⟨record, hheld, hdecide⟩ := bind_eq_ok.mp hdecide
      obtain ⟨failedAt, hnow, hdecide⟩ := bind_eq_ok.mp hdecide
      obtain ⟨next, hdue, hdecide⟩ := bind_eq_ok.mp hdecide
      obtain rfl := Except.ok.inj hdecide
      obtain rfl : now = failedAt := by
        obtain ⟨-, hok⟩ | ⟨e, he⟩ := nowDate_cases now
        · exact Except.ok.inj (hok.symm.trans hnow)
        · simp [he] at hnow
      unfold heldRow selectById at hheld
      cases hget : s.rows.get id with
      | none => simp [hget] at hheld
      | some row =>
        rw [hget] at hheld
        dsimp only at hheld
        split at hheld
        · obtain rfl := Except.ok.inj hheld
          exact ⟨rfl, .updateFail idle hdue hget (le_refl _)⟩
        · cases hheld
  | updateFail idle due found before =>
    simp only [runPostgres] at h
    obtain ⟨⟨t', row⟩, hupdate, heq⟩ := Option.map_eq_some_iff.mp h
    obtain ⟨rfl, rfl⟩ : t' = t ∧ _ = next := by simpa using heq
    refine led_update _ hupdate idle (fun old hget hheld => ⟨_, rfl, ?_⟩) ⟨rfl, idle⟩
    obtain rfl := Option.some.inj (found.symm.trans hget)
    exact .failed hget hheld before due
  | updateReplay idle accepted =>
    simp only [runPostgres] at h
    obtain ⟨⟨t', row⟩, hupdate, heq⟩ := Option.map_eq_some_iff.mp h
    obtain ⟨rfl, rfl⟩ : t' = t ∧ _ = next := by simpa using heq
    exact led_update (fun row => .inr (.ok (.replayed (row.map postgresRow)))) hupdate idle
      (fun old hget hdead => ⟨_, rfl, .replayed accepted hget hdead⟩) ⟨.absent, idle⟩

/-! ## Runs -/

omit [DecidableEq ι] in
/-- Whether a call returned. -/
def returned (entry : OutboxCall × Except JsError OutboxResult) : Bool := entry.2.isOk

omit [DecidableEq ι] in
/-- What holds between two steps: the table is the one of a serial history, the answers of
the calls that returned are among the answers of the history, in its order, and every session
is in a known stage. -/
structure SessionsInvariant (log : OutboxLog) (u : PostgresSessions ι) : Prop where
  history : History log u.store.rows
  answered : (u.answers.filter returned).Sublist log
  stages : ∀ i, SessionStage u.store i (u.running i)

variable {u v : PostgresSessions ι}

omit [DecidableEq ι] in
/-- INTERNAL: no session is doing anything to an empty table. -/
theorem sessionsInvariant_initial : SessionsInvariant [] (.initial : PostgresSessions ι) where
  history := .nil
  answered := List.Sublist.refl _
  stages _ _ _ := LockedRows.not_holds_empty

omit [DecidableEq ι] in
/-- INTERNAL: a move of one session, seen by the others as a frame. -/
theorem SessionsInvariant.move (h : SessionsInvariant log u) (history : History log' v.store.rows)
    (forward : Forward u.store.rows v.store.rows)
    (answered : (v.answers.filter returned).Sublist log')
    (own : SessionStage v.store i (v.running i))
    (others : ∀ j, j ≠ i →
      v.running j = u.running j ∧ LockedRows.SameFor j u.store v.store) :
    SessionsInvariant log' v where
  history := history
  answered := answered
  stages j := by
    by_cases hj : j = i
    · rw [hj]
      exact own
    · obtain ⟨hrunning, hsame⟩ := others j hj
      rw [hrunning]
      exact (h.stages j).stable hsame forward

omit [DecidableEq ι] in
/-- A step leaves the table alone, or is one committed call. -/
def Serial (rows rows' : OutboxTable) : Prop := rows' = rows ∨ ∃ c r, Committed rows c r rows'

omit [DecidableEq ι] in
/-- INTERNAL: the history after a statement.
SOURCE: apps/api/src/reliability/outbox.js:469-560 -/
theorem Led.serial {next : PostgresNext} (led : Led s i c t next) : Serial s.rows t.rows := by
  cases next with
  | inl statement => exact Or.inl led.1
  | inr result =>
    cases result with
    | error e => exact Or.inl led.1
    | ok r => exact Or.inr ⟨c, r, led.1⟩

omit [DecidableEq ι] in
/-- INTERNAL: a serial step extends a history and takes no row back. -/
theorem Serial.history {rows rows' : OutboxTable} (step : Serial rows rows')
    (h : History log rows) :
    Forward rows rows' ∧ ∃ log', log.Sublist log' ∧ History log' rows' := by
  rcases step with rfl | ⟨c, r, hcommitted⟩
  · exact ⟨Forward.refl _, log, List.Sublist.refl _, h⟩
  · exact ⟨hcommitted.forward, _, List.sublist_append_left _ _, h.snoc hcommitted⟩

/-- INTERNAL: a session goes on after a statement, or answers its call. -/
theorem SessionsInvariant.resume (h : SessionsInvariant log u) {next : PostgresNext}
    (led : Led u.store i c t next) (same : ∀ j, j ≠ i → LockedRows.SameFor j u.store t) :
    ∃ log', SessionsInvariant log' (u.resume i c t next) := by
  have others (v : PostgresSessions ι) (hstore : v.store = t)
      (hrunning : ∀ j, j ≠ i → v.running j = u.running j) (j : ι) (hj : j ≠ i) :
      v.running j = u.running j ∧ LockedRows.SameFor j u.store v.store :=
    ⟨hrunning j hj, hstore ▸ same j hj⟩
  cases next with
  | inl statement =>
    obtain ⟨hrows, hstage⟩ := led
    refine ⟨log, h.move (i := i) ?_ ?_ h.answered ?_ (others _ rfl fun j hj => ?_)⟩
    · exact (congrArg (History log) hrows).mpr h.history
    · show Forward u.store.rows t.rows
      rw [hrows]
      exact Forward.refl _
    · simpa [PostgresSessions.resume, SessionStage] using hstage
    · simp [PostgresSessions.resume, hj]
  | inr result =>
    have own (hidle : Idle t i) : SessionStage (u.resume i c t (.inr result)).store i
        ((u.resume i c t (.inr result)).running i) := by
      simpa [PostgresSessions.resume, SessionStage] using hidle
    have running (j : ι) (hj : j ≠ i) :
        (u.resume i c t (.inr result)).running j = u.running j := by
      simp [PostgresSessions.resume, hj]
    cases result with
    | error e =>
      obtain ⟨hrows, hidle⟩ := led
      refine ⟨log, h.move ?_ ?_ ?_ (own hidle) (others _ rfl running)⟩
      · exact (congrArg (History log) hrows).mpr h.history
      · show Forward u.store.rows t.rows
        rw [hrows]
        exact Forward.refl _
      · simpa [PostgresSessions.resume, List.filter_append, returned, Except.isOk, Except.toBool]
          using h.answered
    | ok r =>
      obtain ⟨hcommitted, hidle⟩ := led
      refine ⟨log ++ [(c, .ok r)], h.move (h.history.snoc hcommitted) hcommitted.forward ?_
        (own hidle) (others _ rfl running)⟩
      have hlast : (u.resume i c t (.inr (.ok r))).answers.filter returned =
          u.answers.filter returned ++ [(c, .ok r)] := by
        simp [PostgresSessions.resume, List.filter_append, returned, Except.isOk, Except.toBool]
      rw [hlast]
      exact h.answered.append (List.Sublist.refl _)

/-- INTERNAL: a call ends with an error, after a statement that may have taken effect. -/
theorem SessionsInvariant.abort (h : SessionsInvariant log u) (serial : Serial u.store.rows t.rows)
    (same : ∀ j, j ≠ i → LockedRows.SameFor j u.store t) :
    ∃ log', SessionsInvariant log' (u.abort i c t) := by
  obtain ⟨hforward, log', hlog, hhistory⟩ := serial.history h.history
  refine ⟨log', h.move (i := i) hhistory hforward ?_ ?_ fun j hj => ⟨?_, ?_⟩⟩
  · simpa [PostgresSessions.abort, PostgresSessions.resume, List.filter_append, returned,
      Except.isOk, Except.toBool] using h.answered.trans hlog
  · have hidle : Idle (t.rollback i) i := fun _ _ => LockedRows.not_holds_rollback
    simpa [PostgresSessions.abort, PostgresSessions.resume, SessionStage] using hidle
  · simp [PostgresSessions.abort, PostgresSessions.resume, hj]
  · exact (same j hj).trans (LockedRows.sameFor_rollback hj t)

omit [DecidableEq ι] in
/-- INTERNAL: what a call does before its first statement.
SOURCE: apps/api/src/reliability/outbox.js:469-470, 485-489, 512-513, 522-526, 550-552 -/
theorem led_first (idle : Idle s i) (c : OutboxCall) :
    Led s i c s (nextStatement c.firstPostgres) := by
  cases hfirst : c.firstPostgres with
  | error e => exact ⟨rfl, idle⟩
  | ok statement =>
    refine ⟨rfl, ?_⟩
    have nowOf {now time : Int} (h : nowDate now = .ok time) : now = time := by
      obtain ⟨-, hok⟩ | ⟨e, he⟩ := nowDate_cases now
      · exact Except.ok.inj (hok.symm.trans h)
      · simp [he] at h
    cases c with
    | enqueue event key now =>
      obtain ⟨job, hjob, hfirst⟩ := bind_eq_ok.mp hfirst
      obtain rfl := Except.ok.inj hfirst
      exact .insert idle hjob
    | claim workerId now limit staleAfterMs =>
      obtain ⟨time, htime, hfirst⟩ := bind_eq_ok.mp hfirst
      obtain rfl := Except.ok.inj hfirst
      obtain rfl := nowOf htime
      exact .begin idle
    | complete id workerId now =>
      obtain ⟨time, htime, hfirst⟩ := bind_eq_ok.mp hfirst
      obtain rfl := Except.ok.inj hfirst
      obtain rfl := nowOf htime
      exact .updateComplete idle
    | fail id workerId error now options =>
      obtain rfl := Except.ok.inj hfirst
      exact .selectFail idle
    | replay id tenantId reason now =>
      obtain ⟨replayReason, hreason, hfirst⟩ := bind_eq_ok.mp hfirst
      obtain ⟨time, htime, hfirst⟩ := bind_eq_ok.mp hfirst
      obtain rfl := Except.ok.inj hfirst
      obtain rfl := nowOf htime
      exact .updateReplay idle hreason

/-- INTERNAL: a statement of a session whose stage is known.
SOURCE: apps/api/src/reliability/outbox.js:469-560 -/
theorem SessionsInvariant.led (h : SessionsInvariant log u) {statement : PostgresStatement}
    {ids : List String} {next : PostgresNext} (doing : u.running i = some (c, statement))
    (ran : runPostgres u.store i ids statement = some (t, next)) :
    Led u.store i c t next ∧ ∀ j, j ≠ i → LockedRows.SameFor j u.store t := by
  have hstage : SessionStage u.store i (some (c, statement)) := doing ▸ h.stages i
  exact led_runPostgres hstage (fun id row hrow => (h.history.invariant.jobs id row hrow).keyed)
    (fun j id row held => (h.stages j).present held) ran

/-- **One step.** The invariant is kept, and the table is left alone or changed by one call.
SOURCE: apps/api/src/reliability/outbox.js:442-560 -/
theorem SessionsInvariant.step (h : SessionsInvariant log u) {l : SessionStep ι}
    (step : postgresSessions.step u l = some v) :
    Serial u.store.rows v.store.rows ∧ ∃ log', SessionsInvariant log' v := by
  have store (i : ι) (c : OutboxCall) (t : PostgresRows ι) (next : PostgresNext) :
      (u.resume i c t next).store = t := by cases next <;> rfl
  cases l with
  | call i c =>
    simp only [postgresSessions] at step
    split at step
    · rename_i hidle
      obtain rfl := Option.some.inj step
      have hstage : SessionStage u.store i none := hidle ▸ h.stages i
      have hled := led_first hstage c
      exact ⟨by rw [store]; exact hled.serial, h.resume hled fun j _ => .refl j _⟩
    · cases step
  | exec i ids =>
    simp only [postgresSessions] at step
    split at step
    · cases step
    · rename_i doing
      obtain ⟨⟨t, next⟩, hran, rfl⟩ := Option.map_eq_some_iff.mp step
      obtain ⟨hled, hsame⟩ := h.led doing hran
      exact ⟨by rw [store]; exact hled.serial, h.resume hled hsame⟩
  | throws i =>
    simp only [postgresSessions] at step
    split at step
    · cases step
    · obtain rfl := Option.some.inj step
      exact ⟨Or.inl rfl, h.abort (Or.inl rfl) fun j _ => .refl j _⟩
  | lost i ids =>
    simp only [postgresSessions] at step
    split at step
    · cases step
    · rename_i doing
      obtain ⟨⟨t, next⟩, hran, rfl⟩ := Option.map_eq_some_iff.mp step
      obtain ⟨hled, hsame⟩ := h.led doing hran
      exact ⟨hled.serial, h.abort hled.serial hsame⟩

/-- INTERNAL: the invariant of every run. -/
theorem sessionsInvariant_run {ls : List (SessionStep ι)}
    (run : postgresSessions.run .initial ls = some u) : ∃ log, SessionsInvariant log u :=
  postgresSessions.invariant (I := fun u => ∃ log, SessionsInvariant log u)
    (fun _ _ _ h step => h.elim fun _ h => (h.step step).2) ⟨[], sessionsInvariant_initial⟩ run

end Sessions

end Xygo.Analysis
