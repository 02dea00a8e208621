import Xygo.Model.PostgresMigrations

/-!
# What migration runs leave behind

A run works between its lock and its unlock, so one run at a time reads and writes the schema. What
it has read of the versions stays true while it holds the lock, and it commits each script that is
missing, with its row, in the order of the list. The invariant of the run that holds the lock is
`Progress`; those that do not hold it have not begun, or are over.
-/

set_option autoImplicit false

namespace Xygo.Analysis

open Xygo.Computation Xygo.Model

variable {s t : MigrationState} {i : ℕ} {session : MigrationSession} {versions : List String}

theorem postgresMigrations_nodup : postgresMigrations.Nodup := by decide

/-- Whether a run is between its lock and its end. -/
def isActive : MigrationPhase → Bool
  | .connected | .returned _ | .failed _ => false
  | _ => true

/-- Whether a run has met an error. -/
def isStopped : MigrationPhase → Bool
  | .failing _ | .unlocking (.error _) | .failed _ => true
  | _ => false

theorem not_active_of_over {phase : MigrationPhase} (h : phase.isOver = true) :
    isActive phase = false := by
  cases phase with
  | returned applied => rfl
  | failed error => rfl
  | _ => cases h

/-- The migrations that are not among the rows. -/
def missing (rows : List String) : List String := postgresMigrations.filter (· ∉ rows)

/-- A run in its loop: `done` of the list is behind it, and the versions are those it read and then
those it committed. -/
structure Progress (versions : List String) (session : MigrationSession)
    (applied rest rows done : List String) : Prop where
  initial : session.initial = some rows
  listed : ∀ v ∈ rows, v ∈ postgresMigrations
  split : postgresMigrations = done ++ rest
  committed : session.committed = done.filter (· ∉ rows)
  rows_committed : versions = rows ++ session.committed
  applied_iff : ∀ v, v ∈ applied ↔ v ∈ versions

/-- A run that has committed what was missing. -/
structure Finished (session : MigrationSession) (rows : List String) : Prop where
  initial : session.initial = some rows
  listed : ∀ v ∈ rows, v ∈ postgresMigrations
  committed : session.committed = missing rows

/-- What the phase of a run says of the run and of the versions. -/
def PhaseInv (versions : List String) (session : MigrationSession) : Prop :=
  match session.phase with
  | .connected | .locked | .scanning => session.initial = none ∧ session.committed = []
  | .looping applied rest => ∃ rows done, Progress versions session applied rest rows done
  | .begun applied version rest =>
    (∃ rows done, Progress versions session applied (version :: rest) rows done) ∧
      version ∉ applied ∧ session.transaction = some {}
  | .executed applied version rest =>
    (∃ rows done, Progress versions session applied (version :: rest) rows done) ∧
      version ∉ applied ∧ session.transaction = some { scripts := [version] }
  | .inserted applied version rest =>
    (∃ rows done, Progress versions session applied (version :: rest) rows done) ∧
      version ∉ applied ∧ session.transaction = some { scripts := [version], rows := [version] }
  | .closing => ∃ rows, Finished session rows
  | .unlocking (.ok applied) | .returned applied =>
    (∃ rows, Finished session rows) ∧ applied = postgresMigrations ∧
      versions.Perm postgresMigrations
  | .failing _ | .unlocking (.error _) | .failed _ => True

/-- What holds of a run: it is active only under its lock; it has committed the first of the
migrations it found missing, and none if it found an unexpected version. -/
structure SessionInv (lock : Option ℕ) (versions : List String) (i : ℕ)
    (session : MigrationSession) : Prop where
  holder : isActive session.phase = true → lock = some i
  phase : PhaseInv versions session
  unread : session.initial = none → session.committed = []
  order : ∀ rows, session.initial = some rows → session.committed <+: missing rows
  unexpected : ∀ rows, session.initial = some rows → (∃ v ∈ rows, v ∉ postgresMigrations) →
    session.committed = [] ∧ isStopped session.phase = true

/-- What holds of the database and of every run. -/
structure RunnersInv (s : MigrationState) : Prop where
  nodup : (s.versions.getD []).Nodup
  executed : s.executed = s.versions.getD []
  sessions : ∀ i session, s.sessions[i]? = some session →
    SessionInv s.lock (s.versions.getD []) i session

/-! ## One run goes on -/

/-- INTERNAL: a step of one run keeps the invariant if it does so of that run and of the others. -/
theorem RunnersInv.update {lock : Option ℕ} {versions : Option (List String)}
    {executed : List String} {next : MigrationSession} (h : RunnersInv s)
    (hnodup : (versions.getD []).Nodup) (hexecuted : executed = versions.getD [])
    (hown : SessionInv lock (versions.getD []) i next)
    (hothers : ∀ j other, j ≠ i → s.sessions[j]? = some other →
      SessionInv s.lock (s.versions.getD []) j other →
      SessionInv lock (versions.getD []) j other) :
    RunnersInv { executed, versions, lock, sessions := s.sessions.set i next } := by
  refine ⟨hnodup, hexecuted, fun j other hother => ?_⟩
  rw [List.getElem?_set] at hother
  split at hother
  · rename_i heq
    subst heq
    split at hother
    · obtain rfl := Option.some.inj hother
      exact hown
    · cases hother
  · rename_i hne
    exact hothers j other (Ne.symm hne) hother (h.sessions j other hother)

/-- INTERNAL: a step that changes neither the lock nor the versions. -/
theorem RunnersInv.put {next : MigrationSession} (h : RunnersInv s)
    (hown : SessionInv s.lock (s.versions.getD []) i next) : RunnersInv (s.put i next) :=
  h.update h.nodup h.executed hown fun _ _ _ _ hother => hother

/-- INTERNAL: while a run is not active, the lock may change. -/
theorem SessionInv.relock {lock lock' : Option ℕ} (h : SessionInv lock versions i session)
    (hidle : isActive session.phase = false) :
    SessionInv lock' versions i session := by
  refine ⟨fun hactive => ?_, h.phase, h.unread, h.order, h.unexpected⟩
  rw [hidle] at hactive
  cases hactive

/-- INTERNAL: a run without the lock is not active. -/
theorem SessionInv.idle {lock : Option ℕ} (h : SessionInv lock versions i session)
    (hlock : lock ≠ some i) : isActive session.phase = false := by
  cases hactive : isActive session.phase with
  | false => rfl
  | true => exact absurd (h.holder hactive) hlock

/-- INTERNAL: a run that stops keeps what it has committed. -/
theorem SessionInv.stop {lock : Option ℕ} {next : MigrationSession}
    (h : SessionInv lock versions i session) (hinitial : next.initial = session.initial)
    (hcommitted : next.committed = session.committed)
    (hstopped : isStopped next.phase = true) {lock' : Option ℕ}
    (hholder : isActive next.phase = true → lock' = some i) :
    SessionInv lock' versions i next := by
  refine ⟨hholder, ?_, ?_, ?_, ?_⟩
  · unfold PhaseInv
    unfold isStopped at hstopped
    split at hstopped <;> rename_i hphase
    · rw [hphase]
      trivial
    · rw [hphase]
      trivial
    · rw [hphase]
      trivial
    · cases hstopped
  · rw [hinitial, hcommitted]
    exact h.unread
  · rw [hinitial, hcommitted]
    exact h.order
  · intro rows hrows hunexpected
    rw [hinitial] at hrows
    rw [hcommitted]
    exact ⟨(h.unexpected rows hrows hunexpected).1, hstopped⟩

/-! ## The loop -/

/-- INTERNAL: a migration that is next in the list.
SOURCE: apps/api/src/repositories/postgres-migrations.js:116-117 -/
theorem nextMigration_some {applied rest rest' : List String} {version : String}
    (h : nextMigration applied rest = some (version, rest')) :
    ∃ skipped, rest = skipped ++ version :: rest' ∧ (∀ v ∈ skipped, v ∈ applied) ∧
      version ∉ applied := by
  unfold nextMigration at h
  split at h
  · cases h
  · rename_i next others hdrop
    obtain ⟨rfl, rfl⟩ := Prod.mk.inj (Option.some.inj h)
    refine ⟨rest.takeWhile (· ∈ applied), ?_, ?_, ?_⟩
    · rw [← hdrop, List.takeWhile_append_dropWhile]
    · intro v hv
      simpa using List.mem_takeWhile_imp hv
    · have hhead := List.head?_dropWhile_not (fun v => decide (v ∈ applied)) rest
      simpa [hdrop] using hhead

/-- INTERNAL: no migration is left.
SOURCE: apps/api/src/repositories/postgres-migrations.js:116-117 -/
theorem nextMigration_none {applied rest : List String} (h : nextMigration applied rest = none) :
    ∀ v ∈ rest, v ∈ applied := by
  unfold nextMigration at h
  split at h
  · rename_i hdrop
    intro v hv
    simpa using List.dropWhile_eq_nil_iff.mp hdrop v hv
  · cases h

/-- INTERNAL: migrations that are applied already are passed over. -/
theorem Progress.skip {applied skipped rest rows done : List String}
    (h : Progress versions session applied (skipped ++ rest) rows done)
    (hskipped : ∀ v ∈ skipped, v ∈ applied) :
    Progress versions session applied rest rows (done ++ skipped) := by
  refine ⟨h.initial, h.listed, by rw [h.split, List.append_assoc], ?_, h.rows_committed, h.applied_iff⟩
  have hnone : skipped.filter (· ∉ rows) = [] := by
    apply List.filter_eq_nil_iff.mpr
    intro v hv
    have hversion : v ∈ rows ++ session.committed := by
      rw [← h.rows_committed]
      exact (h.applied_iff v).mp (hskipped v hv)
    obtain hrow | hcommitted := List.mem_append.mp hversion
    · simpa using hrow
    · -- A migration of the list is behind the run or ahead of it, not both.
      rw [h.committed] at hcommitted
      have hnodup := postgresMigrations_nodup
      rw [h.split] at hnodup
      exact absurd rfl ((List.nodup_append.mp hnodup).2.2 v (List.mem_of_mem_filter hcommitted) v
        (List.mem_append_left rest hv))
  rw [List.filter_append, hnone, List.append_nil, h.committed]

/-- INTERNAL: a migration that is committed with its row. -/
theorem Progress.commit {applied rest rows done : List String} {version : String}
    (h : Progress versions session applied (version :: rest) rows done)
    (hpending : version ∉ applied) {next : MigrationSession}
    (hinitial : next.initial = session.initial)
    (hcommitted : next.committed = session.committed ++ [version]) :
    Progress (versions ++ [version]) next (applied ++ [version]) rest rows (done ++ [version]) := by
  have hrow : version ∉ rows := by
    intro hrow
    apply hpending
    rw [h.applied_iff, h.rows_committed]
    exact List.mem_append_left _ hrow
  refine ⟨hinitial.trans h.initial, h.listed, ?_, ?_, ?_, ?_⟩
  · rw [h.split]
    simp
  · rw [hcommitted, h.committed, List.filter_append]
    simp [hrow]
  · rw [hcommitted, h.rows_committed, List.append_assoc]
  · intro v
    simp [h.applied_iff v]

/-- INTERNAL: what a run has committed is the beginning of what it found missing. -/
theorem Progress.order {applied rest rows done : List String}
    (h : Progress versions session applied rest rows done) : session.committed <+: missing rows := by
  refine ⟨rest.filter (· ∉ rows), ?_⟩
  unfold missing
  rw [h.committed, ← List.filter_append, ← h.split]

/-- INTERNAL: what the invariant asks of a run in its loop. -/
theorem Progress.sessionInv {lock : Option ℕ} {applied rest rows done : List String}
    (h : Progress versions session applied rest rows done) (hlock : lock = some i)
    (hphase : PhaseInv versions session) : SessionInv lock versions i session := by
  refine ⟨fun _ => hlock, hphase, ?_, ?_, ?_⟩
  · intro hnone
    rw [h.initial] at hnone
    cases hnone
  · intro rows' hrows
    obtain rfl := Option.some.inj (h.initial.symm.trans hrows)
    exact h.order
  · rintro rows' hrows ⟨v, hv, hunexpected⟩
    obtain rfl := Option.some.inj (h.initial.symm.trans hrows)
    exact absurd (h.listed v hv) hunexpected

/-- INTERNAL: what the invariant asks of a run that has committed what was missing. -/
theorem Finished.sessionInv {lock : Option ℕ} {rows : List String} (h : Finished session rows)
    (hlock : lock = some i) (hphase : PhaseInv versions session) :
    SessionInv lock versions i session := by
  refine ⟨fun _ => hlock, hphase, ?_, ?_, ?_⟩
  · intro hnone
    rw [h.initial] at hnone
    cases hnone
  · intro rows' hrows
    obtain rfl := Option.some.inj (h.initial.symm.trans hrows)
    rw [h.committed]
  · rintro rows' hrows ⟨v, hv, hunexpected⟩
    obtain rfl := Option.some.inj (h.initial.symm.trans hrows)
    exact absurd (h.listed v hv) hunexpected

/-- INTERNAL: a loop that has come to its end has committed what was missing. -/
theorem Progress.finished {applied rest rows done : List String}
    (h : Progress versions session applied rest rows done)
    (hrest : ∀ v ∈ rest, v ∈ applied) : Finished session rows := by
  have hskip : Progress versions session applied [] rows (done ++ rest) :=
    Progress.skip (by rwa [List.append_nil]) hrest
  refine ⟨h.initial, h.listed, ?_⟩
  have hall : postgresMigrations = done ++ rest := by simpa using hskip.split
  rw [hskip.committed, ← hall]
  rfl

/-! ## The versions that are read -/

/-- INTERNAL: the versions that are read are the rows.
SOURCE: apps/api/src/repositories/postgres-migrations.js:49-54 -/
theorem readAppliedVersions_perm (versions : Option (List String)) :
    (readAppliedVersions versions).Perm (versions.getD []) :=
  List.perm_insertionSort _ _

/-- INTERNAL: a status that is current has every migration and no other version.
SOURCE: apps/api/src/repositories/postgres-migrations.js:56-69 -/
theorem current_iff {applied : List String} :
    (migrationStatus applied).current = true ↔ ∀ v, v ∈ applied ↔ v ∈ postgresMigrations := by
  simp only [migrationStatus, Bool.and_eq_true, List.isEmpty_iff, List.filter_eq_nil_iff,
    decide_not, Bool.not_eq_true', decide_eq_false_iff_not, not_not]
  constructor
  · rintro ⟨hpending, hunexpected⟩ v
    exact ⟨hunexpected v, hpending v⟩
  · intro h
    exact ⟨fun v => (h v).mpr, fun v => (h v).mp⟩

/-- INTERNAL: the versions that are read when the status is current are the migrations, in order.
SOURCE: apps/api/src/repositories/postgres-migrations.js:131-133 -/
theorem readAppliedVersions_current {versions : Option (List String)}
    (hnodup : (versions.getD []).Nodup)
    (hcurrent : (migrationStatus (readAppliedVersions versions)).current = true) :
    readAppliedVersions versions = postgresMigrations ∧
      (versions.getD []).Perm postgresMigrations := by
  have hperm := readAppliedVersions_perm versions
  have hsame : (readAppliedVersions versions).Perm postgresMigrations :=
    (List.perm_ext_iff_of_nodup (hperm.nodup_iff.mpr hnodup) postgresMigrations_nodup).mpr
      (current_iff.mp hcurrent)
  refine ⟨?_, hperm.symm.trans hsame⟩
  apply hsame.eq_of_pairwise
  · intro v w _ _ hvw hwv
    exact le_antisymm hvw hwv
  · exact List.pairwise_insertionSort _ _
  · decide

/-! ## What each step preserves -/

/-- INTERNAL: where the lock can be taken, no run is active.
SOURCE: apps/api/src/repositories/postgres-migrations.js:109, 137-143 -/
theorem idle_of_available (h : RunnersInv s) (havailable : s.lockAvailable = true) {j : ℕ}
    {other : MigrationSession} (hother : s.sessions[j]? = some other) :
    isActive other.phase = false := by
  have hinv := h.sessions j other hother
  by_contra hactive
  have hlock := hinv.holder (by simpa using hactive)
  unfold MigrationState.lockAvailable at havailable
  rw [hlock] at havailable
  simp only [hother, Option.any_some, Bool.and_eq_true] at havailable
  exact hactive (not_active_of_over havailable.1)

/-- INTERNAL: a run that takes the lock.
SOURCE: apps/api/src/repositories/postgres-migrations.js:109 -/
theorem runnersInv_lock (h : RunnersInv s) (hsession : s.sessions[i]? = some session)
    (hphase : session.phase = .connected) (havailable : s.lockAvailable = true) :
    RunnersInv { s.put i { session with phase := .locked } with lock := some i } := by
  have hinv := h.sessions i session hsession
  have hfresh : session.initial = none ∧ session.committed = [] := by
    have := hinv.phase
    rwa [PhaseInv, hphase] at this
  refine h.update h.nodup h.executed ?_ ?_
  · refine ⟨fun _ => rfl, hfresh, fun _ => hfresh.2, ?_, ?_⟩
    · intro rows hrows
      rw [hfresh.1] at hrows
      cases hrows
    · intro rows hrows
      rw [hfresh.1] at hrows
      cases hrows
  · intro j other _ hother hold
    exact hold.relock (idle_of_available h havailable hother)

/-- INTERNAL: a run that has read the versions for the first time.
SOURCE: apps/api/src/repositories/postgres-migrations.js:112-116 -/
theorem runnersInv_scan (h : RunnersInv s) (hsession : s.sessions[i]? = some session)
    (hactive : isActive session.phase = true)
    (hfresh : session.initial = none ∧ session.committed = []) {applied : List String}
    (happlied : applied.Perm (s.versions.getD [])) :
    RunnersInv (s.put i { session with
      phase := .afterScan applied
      initial := some (s.versions.getD []) }) := by
  have hlock := (h.sessions i session hsession).holder hactive
  refine h.put ?_
  unfold MigrationPhase.afterScan
  dsimp only
  split
  · rename_i hlisted
    have hprogress : Progress (s.versions.getD [])
        { session with
          phase := .looping applied postgresMigrations
          initial := some (s.versions.getD []) }
        applied postgresMigrations (s.versions.getD []) [] := by
      refine ⟨rfl, ?_, rfl, hfresh.2, ?_, fun v => happlied.mem_iff⟩
      · intro v hv
        simp only [migrationStatus, List.isEmpty_iff, List.filter_eq_nil_iff] at hlisted
        simpa using hlisted v (happlied.mem_iff.mpr hv)
      · show _ = _ ++ session.committed
        rw [hfresh.2, List.append_nil]
    exact hprogress.sessionInv hlock ⟨_, _, hprogress⟩
  · refine ⟨fun _ => hlock, trivial, fun _ => hfresh.2, ?_, ?_⟩
    · intro rows _
      show session.committed <+: _
      rw [hfresh.2]
      exact List.nil_prefix
    · intro rows _ _
      exact ⟨hfresh.2, rfl⟩

/-- INTERNAL: a run that commits a migration. No other run is active, and none has returned.
SOURCE: apps/api/src/repositories/postgres-migrations.js:123-124 -/
theorem runnersInv_commit (h : RunnersInv s) (hsession : s.sessions[i]? = some session)
    {applied rest : List String} {version : String}
    (hphase : session.phase = .inserted applied version rest) :
    RunnersInv { s.put i { session with
        phase := .looping (applied ++ [version]) rest
        transaction := none
        committed := session.committed ++ [version] } with
      executed := s.executed ++ [version]
      versions := some (s.versions.getD [] ++ [version]) } := by
  have hinv := h.sessions i session hsession
  have hlock : s.lock = some i := hinv.holder (by rw [hphase]; rfl)
  obtain ⟨⟨rows, done, hprogress⟩, hpending, -⟩ : (∃ rows done, Progress (s.versions.getD [])
      session applied (version :: rest) rows done) ∧ version ∉ applied ∧
        session.transaction = some { scripts := [version], rows := [version] } := by
    have := hinv.phase
    rwa [PhaseInv, hphase] at this
  have hfresh : version ∉ s.versions.getD [] := by
    rwa [hprogress.applied_iff] at hpending
  have hlisted : version ∈ postgresMigrations := by
    rw [hprogress.split]
    simp
  refine h.update ?_ ?_ ?_ ?_
  · show (s.versions.getD [] ++ [version]).Nodup
    rw [← List.concat_eq_append]
    exact h.nodup.concat hfresh
  · rw [h.executed]
    rfl
  · have hnext : Progress (s.versions.getD [] ++ [version])
        { session with
          phase := .looping (applied ++ [version]) rest
          transaction := none
          committed := session.committed ++ [version] }
        (applied ++ [version]) rest rows (done ++ [version]) :=
      hprogress.commit hpending rfl rfl
    exact hnext.sessionInv hlock ⟨_, _, hnext⟩
  · intro j other hne _ hold
    have hidle : isActive other.phase = false := by
      apply hold.idle
      rw [hlock]
      exact fun heq => hne (Option.some.inj heq).symm
    refine ⟨fun hactive => ?_, ?_, hold.unread, hold.order, hold.unexpected⟩
    · rw [hidle] at hactive
      cases hactive
    · have hother := hold.phase
      unfold PhaseInv at hother ⊢
      cases hended : other.phase with
      | connected =>
        rw [hended] at hother
        exact hother
      | returned returnedVersions =>
        rw [hended] at hother
        exact absurd (hother.2.2.mem_iff.mpr hlisted) hfresh
      | failed error => trivial
      | _ =>
        rw [hended] at hidle
        cases hidle

/-- INTERNAL: a run whose loop is over and that reads the versions again.
SOURCE: apps/api/src/repositories/postgres-migrations.js:131-133 -/
theorem runnersInv_close (h : RunnersInv s) (hsession : s.sessions[i]? = some session)
    (hactive : isActive session.phase = true) {rows : List String}
    (hfinished : Finished session rows) {applied : List String}
    (happlied : (migrationStatus applied).current = true → applied = postgresMigrations ∧
      (s.versions.getD []).Perm postgresMigrations) :
    RunnersInv (s.put i { session with phase := .afterClose applied }) := by
  have hinv := h.sessions i session hsession
  have hlock := hinv.holder hactive
  refine h.put ?_
  unfold MigrationPhase.afterClose
  dsimp only
  split
  · rename_i hcurrent
    obtain ⟨hall, hperm⟩ := happlied hcurrent
    have hdone : Finished { session with phase := .unlocking (.ok applied) } rows :=
      ⟨hfinished.initial, hfinished.listed, hfinished.committed⟩
    exact hdone.sessionInv hlock ⟨⟨rows, hdone⟩, hall, hperm⟩
  · exact hinv.stop (by rfl) (by rfl) (by rfl) fun _ => hlock

/-- INTERNAL: a run that gives the lock back.
SOURCE: apps/api/src/repositories/postgres-migrations.js:137-143 -/
theorem runnersInv_unlock (h : RunnersInv s) (hsession : s.sessions[i]? = some session)
    {result : Except JsError (List String)} (hphase : session.phase = .unlocking result) :
    RunnersInv { s.put i { session with phase := .ofResult result } with lock := none } := by
  have hinv := h.sessions i session hsession
  have hlock : s.lock = some i := hinv.holder (by rw [hphase]; rfl)
  refine h.update h.nodup h.executed ?_ ?_
  · cases result with
    | error error =>
      apply hinv.stop (by rfl) (by rfl) (by rfl)
      intro hactive
      cases hactive
    | ok applied =>
      obtain ⟨⟨rows, hfinished⟩, hall, hperm⟩ : (∃ rows, Finished session rows) ∧
          applied = postgresMigrations ∧ (s.versions.getD []).Perm postgresMigrations := by
        have := hinv.phase
        rwa [PhaseInv, hphase] at this
      have hdone : Finished { session with phase := .returned applied } rows :=
        ⟨hfinished.initial, hfinished.listed, hfinished.committed⟩
      have hheld : SessionInv (some i) (s.versions.getD []) i
          { session with phase := .returned applied } :=
        hdone.sessionInv rfl ⟨⟨rows, hdone⟩, hall, hperm⟩
      exact hheld.relock rfl
  · intro j other hne _ hold
    apply hold.relock
    apply hold.idle
    rw [hlock]
    exact fun heq => hne (Option.some.inj heq).symm

/-- INTERNAL: a run in its loop whose query is answered.
SOURCE: apps/api/src/repositories/postgres-migrations.js:116-131 -/
theorem runnersInv_looping (h : RunnersInv s) (hsession : s.sessions[i]? = some session)
    {applied rest : List String} (hphase : session.phase = .looping applied rest)
    (hstep : queryAnswered s i session = some t) : RunnersInv t := by
  have hinv := h.sessions i session hsession
  have hactive : isActive session.phase = true := by rw [hphase]; rfl
  obtain ⟨rows, done, hprogress⟩ : ∃ rows done, Progress (s.versions.getD []) session applied rest
      rows done := by
    have := hinv.phase
    rwa [PhaseInv, hphase] at this
  simp only [queryAnswered, hphase] at hstep
  split at hstep
  · rename_i version others hnext
    obtain rfl := Option.some.inj hstep
    obtain ⟨skipped, rfl, hskipped, hpending⟩ := nextMigration_some hnext
    obtain ⟨hinitial, hlisted, hsplit, hcommitted, hrows, happlied⟩ := hprogress.skip hskipped
    have hbegun : Progress (s.versions.getD [])
        { session with phase := .begun applied version others, transaction := some {} }
        applied (version :: others) rows (done ++ skipped) :=
      ⟨hinitial, hlisted, hsplit, hcommitted, hrows, happlied⟩
    exact h.put (hbegun.sessionInv (hinv.holder hactive) ⟨⟨_, _, hbegun⟩, hpending, rfl⟩)
  · rename_i hnext
    have hfinished := hprogress.finished (nextMigration_none hnext)
    split at hstep
    · obtain rfl := Option.some.inj hstep
      have hclosing : Finished { session with phase := .closing } rows :=
        ⟨hfinished.initial, hfinished.listed, hfinished.committed⟩
      exact h.put (hclosing.sessionInv (hinv.holder hactive) ⟨rows, hclosing⟩)
    · obtain rfl := Option.some.inj hstep
      apply runnersInv_close h hsession hactive hfinished
      intro hcurrent
      cases hcurrent

/-- INTERNAL: a run in the transaction of a migration whose query is answered.
SOURCE: apps/api/src/repositories/postgres-migrations.js:119-124 -/
theorem runnersInv_transaction (h : RunnersInv s) (hsession : s.sessions[i]? = some session)
    {applied rest : List String} {version : String}
    (hphase : session.phase = .begun applied version rest ∨
      session.phase = .executed applied version rest ∨
      session.phase = .inserted applied version rest)
    (hstep : queryAnswered s i session = some t) : RunnersInv t := by
  have hinv := h.sessions i session hsession
  have hinvPhase := hinv.phase
  have hlock : s.lock = some i := by
    apply hinv.holder
    obtain hphase | hphase | hphase := hphase <;> rw [hphase] <;> rfl
  obtain hphase | hphase | hphase := hphase
  · rw [PhaseInv, hphase] at hinvPhase
    obtain ⟨⟨rows, done, hprogress⟩, hpending, htransaction⟩ := hinvPhase
    simp only [queryAnswered, hphase, htransaction, Option.map_some] at hstep
    obtain rfl := Option.some.inj hstep
    obtain ⟨hinitial, hlisted, hsplit, hcommitted, hrows, happlied⟩ := hprogress
    have hexecuted : Progress (s.versions.getD [])
        { session with
          phase := .executed applied version rest
          transaction := some { scripts := [version] } }
        applied (version :: rest) rows done :=
      ⟨hinitial, hlisted, hsplit, hcommitted, hrows, happlied⟩
    exact h.put (hexecuted.sessionInv hlock ⟨⟨_, _, hexecuted⟩, hpending, rfl⟩)
  · rw [PhaseInv, hphase] at hinvPhase
    obtain ⟨⟨rows, done, hprogress⟩, hpending, htransaction⟩ := hinvPhase
    simp only [queryAnswered, hphase, htransaction, Option.bind_eq_bind, Option.bind_some] at hstep
    split at hstep
    · obtain rfl := Option.some.inj hstep
      obtain ⟨hinitial, hlisted, hsplit, hcommitted, hrows, happlied⟩ := hprogress
      have hinserted : Progress (s.versions.getD [])
          { session with
            phase := .inserted applied version rest
            transaction := some { scripts := [version], rows := [version] } }
          applied (version :: rest) rows done :=
        ⟨hinitial, hlisted, hsplit, hcommitted, hrows, happlied⟩
      exact h.put (hinserted.sessionInv hlock ⟨⟨_, _, hinserted⟩, hpending, rfl⟩)
    · cases hstep
  · rw [PhaseInv, hphase] at hinvPhase
    simp only [queryAnswered, hphase, hinvPhase.2.2, Option.bind_eq_bind, Option.bind_some] at hstep
    obtain rfl := Option.some.inj hstep
    exact runnersInv_commit h hsession hphase

/-- INTERNAL: **what an answered query preserves.** The cases are the phases of the run.
SOURCE: apps/api/src/repositories/postgres-migrations.js:107-145 -/
theorem runnersInv_answer (h : RunnersInv s) (hsession : s.sessions[i]? = some session)
    (hstep : queryAnswered s i session = some t) : RunnersInv t := by
  have hinv := h.sessions i session hsession
  have hinvPhase := hinv.phase
  cases hphase : session.phase with
  | connected =>
    simp only [queryAnswered, hphase] at hstep
    split at hstep
    · rename_i havailable
      obtain rfl := Option.some.inj hstep
      exact runnersInv_lock h hsession hphase havailable
    · cases hstep
  | locked =>
    have hactive : isActive session.phase = true := by rw [hphase]; rfl
    rw [PhaseInv, hphase] at hinvPhase
    simp only [queryAnswered, hphase] at hstep
    split at hstep
    · obtain rfl := Option.some.inj hstep
      exact h.put ⟨fun _ => hinv.holder hactive, hinvPhase, hinv.unread, hinv.order, fun rows hrows _ =>
        by rw [hinvPhase.1] at hrows; cases hrows⟩
    · rename_i hnone
      obtain rfl := Option.some.inj hstep
      have hversions : s.versions = none := by simpa using hnone
      have hempty : ([] : List String).Perm (s.versions.getD []) := by
        rw [hversions]
        exact List.Perm.refl _
      have hscan := runnersInv_scan h hsession hactive hinvPhase hempty
      rwa [hversions] at hscan
  | scanning =>
    have hactive : isActive session.phase = true := by rw [hphase]; rfl
    rw [PhaseInv, hphase] at hinvPhase
    simp only [queryAnswered, hphase] at hstep
    obtain rfl := Option.some.inj hstep
    exact runnersInv_scan h hsession hactive hinvPhase (readAppliedVersions_perm _)
  | looping applied rest => exact runnersInv_looping h hsession hphase hstep
  | begun applied version rest =>
    exact runnersInv_transaction h hsession (Or.inl hphase) hstep
  | executed applied version rest =>
    exact runnersInv_transaction h hsession (Or.inr (Or.inl hphase)) hstep
  | inserted applied version rest =>
    exact runnersInv_transaction h hsession (Or.inr (Or.inr hphase)) hstep
  | failing error =>
    have hlock := hinv.holder (by rw [hphase]; rfl)
    simp only [queryAnswered, hphase] at hstep
    obtain rfl := Option.some.inj hstep
    exact h.put (hinv.stop (by rfl) (by rfl) (by rfl) fun _ => hlock)
  | closing =>
    have hactive : isActive session.phase = true := by rw [hphase]; rfl
    rw [PhaseInv, hphase] at hinvPhase
    obtain ⟨rows, hfinished⟩ := hinvPhase
    simp only [queryAnswered, hphase] at hstep
    obtain rfl := Option.some.inj hstep
    exact runnersInv_close h hsession hactive hfinished (readAppliedVersions_current h.nodup)
  | unlocking result =>
    simp only [queryAnswered, hphase] at hstep
    split at hstep
    · cases hstep
    · obtain rfl := Option.some.inj hstep
      exact runnersInv_unlock h hsession hphase
  | returned applied =>
    simp only [queryAnswered, hphase] at hstep
    cases hstep
  | failed error =>
    simp only [queryAnswered, hphase] at hstep
    cases hstep

/-- INTERNAL: a run whose query is refused stops.
SOURCE: apps/api/src/repositories/postgres-migrations.js:125-127, 134-143 -/
theorem queryRefused_stops {error : JsError} {next : MigrationSession}
    (h : queryRefused error session = some next) :
    next.initial = session.initial ∧ next.committed = session.committed ∧
      isStopped next.phase = true ∧
      (isActive next.phase = true → isActive session.phase = true) := by
  cases hphase : session.phase with
  | connected =>
    simp only [queryRefused, hphase] at h
    obtain rfl := Option.some.inj h
    refine ⟨rfl, rfl, rfl, fun hactive => ?_⟩
    cases hactive
  | unlocking result =>
    cases result with
    | ok applied =>
      simp only [queryRefused, hphase] at h
      obtain rfl := Option.some.inj h
      exact ⟨rfl, rfl, rfl, fun _ => rfl⟩
    | error migrationError =>
      simp only [queryRefused, hphase] at h
      obtain rfl := Option.some.inj h
      exact ⟨rfl, rfl, rfl, fun _ => rfl⟩
  | returned applied =>
    simp only [queryRefused, hphase] at h
    cases h
  | failed failure =>
    simp only [queryRefused, hphase] at h
    cases h
  | _ =>
    simp only [queryRefused, hphase] at h
    obtain rfl := Option.some.inj h
    exact ⟨rfl, rfl, rfl, fun _ => rfl⟩

/-- INTERNAL: a session that is lost leaves its run stopped, unless the run was over.
SOURCE: apps/api/src/repositories/postgres-migrations.js:125-127, 134-143 -/
theorem sessionLost_cases (session : MigrationSession) :
    (session.phase.isOver = true ∧ (sessionLost session).phase = session.phase) ∨
      isStopped (sessionLost session).phase = true := by
  unfold sessionLost
  cases hover : session.phase.isOver with
  | true => exact Or.inl ⟨rfl, rfl⟩
  | false => exact Or.inr rfl

/-- INTERNAL: a session that is lost gives back the lock it held. -/
theorem runnersInv_disconnect (h : RunnersInv s) (hsession : s.sessions[i]? = some session) :
    RunnersInv { s.put i (sessionLost session) with
      lock := if s.lock = some i then none else s.lock } := by
  have hinv := h.sessions i session hsession
  have hover : (sessionLost session).phase.isOver = true := by
    unfold sessionLost
    dsimp only
    split
    · assumption
    · rfl
  refine h.update h.nodup h.executed ?_ ?_
  · have hkept : SessionInv s.lock (s.versions.getD []) i (sessionLost session) := by
      obtain ⟨hended, hsame⟩ | hstopped := sessionLost_cases session
      · refine ⟨fun hactive => ?_, ?_, hinv.unread, hinv.order, ?_⟩
        · rw [not_active_of_over hover] at hactive
          cases hactive
        · have hphase := hinv.phase
          unfold PhaseInv at hphase ⊢
          rw [hsame]
          cases hcase : session.phase with
          | returned applied =>
            rw [hcase] at hphase
            obtain ⟨⟨rows, hfinished⟩, hrest⟩ := hphase
            exact ⟨⟨rows, hfinished.initial, hfinished.listed, hfinished.committed⟩, hrest⟩
          | failed error => trivial
          | _ =>
            rw [hcase] at hended
            cases hended
        · rw [hsame]
          exact hinv.unexpected
      · apply hinv.stop (by rfl) (by rfl) hstopped
        intro hactive
        rw [not_active_of_over hover] at hactive
        cases hactive
    exact hkept.relock (not_active_of_over hover)
  · intro j other hne _ hold
    split
    · rename_i hlock
      apply hold.relock
      apply hold.idle
      rw [hlock]
      exact fun heq => hne (Option.some.inj heq).symm
    · exact hold

/-- INTERNAL: **what one step preserves.** -/
theorem runnersInv_step (h : RunnersInv s) {step : MigrationStep}
    (hstep : migrationRunners.step s step = some t) : RunnersInv t := by
  cases step with
  | connect =>
    obtain rfl := Option.some.inj hstep
    refine ⟨h.nodup, h.executed, fun i session hsession => ?_⟩
    rw [List.getElem?_append] at hsession
    split at hsession
    · exact h.sessions i session hsession
    · obtain rfl : session = {} := by simpa using List.mem_of_getElem? hsession
      refine ⟨fun hactive => ?_, ⟨rfl, rfl⟩, fun _ => rfl, fun rows hrows => ?_, fun rows hrows => ?_⟩
      · cases hactive
      · cases hrows
      · cases hrows
  | answer i =>
    obtain ⟨session, hsession, hanswer⟩ := Option.bind_eq_some_iff.mp hstep
    exact runnersInv_answer h hsession hanswer
  | refuse i error =>
    obtain ⟨session, hsession, hrefuse⟩ := Option.bind_eq_some_iff.mp hstep
    obtain ⟨next, hnext, hput⟩ := Option.bind_eq_some_iff.mp hrefuse
    obtain rfl := Option.some.inj hput
    obtain ⟨hinitial, hcommitted, hstopped, hactive⟩ := queryRefused_stops hnext
    have hinv := h.sessions i session hsession
    exact h.put (hinv.stop hinitial hcommitted hstopped fun hnow => hinv.holder (hactive hnow))
  | disconnect i =>
    obtain ⟨session, hsession, hput⟩ := Option.bind_eq_some_iff.mp hstep
    obtain rfl := Option.some.inj hput
    exact runnersInv_disconnect h hsession

/-- INTERNAL: the invariant holds before any run, whatever is applied. -/
theorem runnersInv_initial {versions : Option (List String)} (hkey : (versions.getD []).Nodup) :
    RunnersInv (MigrationState.initial versions) := by
  refine ⟨hkey, rfl, fun i session hsession => ?_⟩
  cases hsession

/-! ## A run that has stopped -/

/-- The run of a session has stopped with what it had committed. -/
def StoppedWith (i : ℕ) (committed : List String) (s : MigrationState) : Prop :=
  ∃ session, s.sessions[i]? = some session ∧ isStopped session.phase = true ∧
    session.committed = committed

/-- INTERNAL: a run that has stopped commits nothing more. -/
theorem queryAnswered_stopped (hstopped : isStopped session.phase = true)
    (hsession : s.sessions[i]? = some session) (hstep : queryAnswered s i session = some t) :
    StoppedWith i session.committed t := by
  have hbound : i < s.sessions.length := (List.getElem?_eq_some_iff.mp hsession).1
  cases hphase : session.phase with
  | failing error =>
    simp only [queryAnswered, hphase] at hstep
    obtain rfl := Option.some.inj hstep
    exact ⟨_, List.getElem?_set_self hbound, rfl, rfl⟩
  | unlocking result =>
    cases result with
    | ok applied =>
      rw [hphase] at hstopped
      cases hstopped
    | error error =>
      simp only [queryAnswered, hphase] at hstep
      split at hstep
      · cases hstep
      · obtain rfl := Option.some.inj hstep
        exact ⟨_, List.getElem?_set_self hbound, rfl, rfl⟩
  | failed error =>
    simp only [queryAnswered, hphase] at hstep
    cases hstep
  | _ =>
    rw [hphase] at hstopped
    cases hstopped

/-- INTERNAL: a step of one run leaves the others where they are.
SOURCE: apps/api/src/repositories/postgres-migrations.js:107-145 -/
theorem queryAnswered_others {j : ℕ} (hne : j ≠ i) (hstep : queryAnswered s i session = some t) :
    t.sessions[j]? = s.sessions[j]? := by
  have hset : ∀ next : MigrationSession, (s.sessions.set i next)[j]? = s.sessions[j]? :=
    fun next => List.getElem?_set_ne hne.symm
  unfold queryAnswered at hstep
  split at hstep
  · split at hstep
    · obtain rfl := Option.some.inj hstep
      exact hset _
    · cases hstep
  · split at hstep <;> obtain rfl := Option.some.inj hstep <;> exact hset _
  · obtain rfl := Option.some.inj hstep
    exact hset _
  · split at hstep
    · obtain rfl := Option.some.inj hstep
      exact hset _
    · split at hstep <;> obtain rfl := Option.some.inj hstep <;> exact hset _
  · obtain rfl := Option.some.inj hstep
    exact hset _
  · obtain ⟨transaction, -, hstep⟩ := Option.bind_eq_some_iff.mp hstep
    split at hstep
    · obtain rfl := Option.some.inj hstep
      exact hset _
    · cases hstep
  · obtain ⟨transaction, -, hstep⟩ := Option.bind_eq_some_iff.mp hstep
    obtain rfl := Option.some.inj hstep
    exact hset _
  · obtain rfl := Option.some.inj hstep
    exact hset _
  · obtain rfl := Option.some.inj hstep
    exact hset _
  · split at hstep
    · cases hstep
    · obtain rfl := Option.some.inj hstep
      exact hset _
  · cases hstep
  · cases hstep

/-- INTERNAL: **what one step does to a run that has stopped**: it stays stopped, with what it had
committed. -/
theorem stoppedWith_step {committed : List String} (h : StoppedWith i committed s)
    {step : MigrationStep} (hstep : migrationRunners.step s step = some t) :
    StoppedWith i committed t := by
  obtain ⟨session, hsession, hstopped, rfl⟩ := h
  have hbound : i < s.sessions.length := (List.getElem?_eq_some_iff.mp hsession).1
  have hsame : t.sessions[i]? = s.sessions[i]? → StoppedWith i session.committed t := fun heq =>
    ⟨session, heq.trans hsession, hstopped, rfl⟩
  cases step with
  | connect =>
    obtain rfl := Option.some.inj hstep
    exact hsame (List.getElem?_append_left hbound)
  | answer j =>
    obtain ⟨other, hother, hanswer⟩ := Option.bind_eq_some_iff.mp hstep
    by_cases hij : i = j
    · subst hij
      obtain rfl := Option.some.inj (hsession.symm.trans hother)
      exact queryAnswered_stopped hstopped hsession hanswer
    · exact hsame (queryAnswered_others hij hanswer)
  | refuse j error =>
    obtain ⟨other, hother, hrefuse⟩ := Option.bind_eq_some_iff.mp hstep
    obtain ⟨next, hnext, hput⟩ := Option.bind_eq_some_iff.mp hrefuse
    obtain rfl := Option.some.inj hput
    by_cases hij : i = j
    · subst hij
      obtain rfl := Option.some.inj (hsession.symm.trans hother)
      obtain ⟨-, hcommitted, hstops, -⟩ := queryRefused_stops hnext
      exact ⟨next, List.getElem?_set_self hbound, hstops, hcommitted⟩
    · exact hsame (List.getElem?_set_ne (Ne.symm hij))
  | disconnect j =>
    obtain ⟨other, hother, hput⟩ := Option.bind_eq_some_iff.mp hstep
    obtain rfl := Option.some.inj hput
    by_cases hij : i = j
    · subst hij
      obtain rfl := Option.some.inj (hsession.symm.trans hother)
      refine ⟨sessionLost session, List.getElem?_set_self hbound, ?_, rfl⟩
      obtain ⟨-, hphase⟩ | hlost := sessionLost_cases session
      · rw [hphase]
        exact hstopped
      · exact hlost
    · exact hsame (List.getElem?_set_ne (Ne.symm hij))

/-! ## Any number of runs -/

/-- What a run may have done in a state: it has committed the first of the migrations it found
missing, in the order of the list; none if it found a version that is not listed, in which case it
does not return; if it returned, all that were missing, and every migration is applied. -/
structure RunContract (s : MigrationState) (session : MigrationSession) : Prop where
  unread : session.initial = none → session.committed = []
  order : ∀ rows, session.initial = some rows → session.committed <+: missing rows
  unexpected : ∀ rows, session.initial = some rows → (∃ v ∈ rows, v ∉ postgresMigrations) →
    session.committed = [] ∧ ∀ applied, session.phase ≠ .returned applied
  returned : ∀ applied, session.phase = .returned applied → applied = postgresMigrations ∧
    (s.versions.getD []).Perm postgresMigrations ∧
    (∃ status, assertPostgresMigrationsCurrent s.versions = .ok status) ∧
    ∃ rows, session.initial = some rows ∧ session.committed = missing rows

/-- INTERNAL: where every migration is applied and no other version is, the schema is current.
SOURCE: apps/api/src/repositories/postgres-migrations.js:87-91 -/
theorem assertCurrent_of_perm {versions : Option (List String)}
    (h : (versions.getD []).Perm postgresMigrations) :
    ∃ status, assertPostgresMigrationsCurrent versions = .ok status := by
  have hcurrent : (migrationStatus (readAppliedVersions versions)).current = true :=
    current_iff.mpr fun v => ((readAppliedVersions_perm versions).trans h).mem_iff
  refine ⟨migrationStatus (readAppliedVersions versions), ?_⟩
  simp only [assertPostgresMigrationsCurrent, hcurrent, if_true]

/-- INTERNAL: the invariant of a run says what it may have done. -/
theorem RunnersInv.contract (h : RunnersInv s) (hsession : s.sessions[i]? = some session) :
    RunContract s session := by
  have hinv := h.sessions i session hsession
  refine ⟨hinv.unread, hinv.order, ?_, ?_⟩
  · intro rows hrows hunexpected
    obtain ⟨hcommitted, hstopped⟩ := hinv.unexpected rows hrows hunexpected
    refine ⟨hcommitted, fun applied hreturned => ?_⟩
    rw [hreturned] at hstopped
    cases hstopped
  · intro applied hreturned
    have hphase := hinv.phase
    rw [PhaseInv, hreturned] at hphase
    obtain ⟨⟨rows, hfinished⟩, hall, hperm⟩ := hphase
    exact ⟨hall, hperm, assertCurrent_of_perm hperm, rows, hfinished.initial, hfinished.committed⟩

/-- **The contract of the migration runners.** Whatever was applied before, and however any number
of runs interleave, fail and crash: each script is committed at most once and together with its row;
each run commits the first of the migrations it found missing, in the order of the list, and none
after its first error; a run that finds a version that is not listed commits nothing and does not
return; and where a run has returned, the applied versions are the listed ones.
SOURCE: apps/api/src/repositories/postgres-migrations.js:107-145 -/
theorem migrations_contract (versions : Option (List String)) (hkey : (versions.getD []).Nodup)
    {steps : List MigrationStep} {s : MigrationState}
    (hrun : migrationRunners.run (MigrationState.initial versions) steps = some s) :
    s.executed.Nodup ∧ s.executed = s.versions.getD [] ∧
      ∀ i session, s.sessions[i]? = some session → RunContract s session ∧
        (isStopped session.phase = true → ∀ later t, migrationRunners.run s later = some t →
          StoppedWith i session.committed t) := by
  have hinv : RunnersInv s := migrationRunners.invariant
    (fun _ _ _ h hstep => runnersInv_step h hstep) (runnersInv_initial hkey) hrun
  refine ⟨?_, hinv.executed, fun i session hsession => ⟨hinv.contract hsession, ?_⟩⟩
  · rw [hinv.executed]
    exact hinv.nodup
  · intro hstopped later t hlater
    exact migrationRunners.invariant (fun _ _ _ h hstep => stoppedWith_step h hstep)
      ⟨session, hsession, hstopped, rfl⟩ hlater

/-- Two runs on an empty database: the second one takes the lock first, commits a migration and is
refused the script of the next; the first one then applies the rest. -/
def handedOver : List MigrationStep :=
  [.connect, .connect] ++ List.replicate 7 (.answer 1) ++
    [.refuse 1 (newError "permission denied"), .answer 1, .answer 1] ++
    List.replicate 34 (.answer 0)

/-- The run that failed has committed the first migration and commits nothing more; the one that
returned has committed the others. -/
theorem migrations_contract_handedOver :
    ∃ s first second, migrationRunners.run (MigrationState.initial none) handedOver = some s ∧
      s.executed = postgresMigrations ∧ s.executed.Nodup ∧
      s.sessions = [first, second] ∧ RunContract s first ∧
      (∀ later t, migrationRunners.run s later = some t → StoppedWith 1 second.committed t) ∧
      first.committed = postgresMigrations.tail ∧ second.committed = ["0001_init"] := by
  have hstate : (migrationRunners.run (MigrationState.initial none) handedOver).map (fun s =>
      (s.executed, s.sessions.map MigrationSession.committed,
        s.sessions.map fun session => isStopped session.phase)) =
      some (postgresMigrations, [postgresMigrations.tail, ["0001_init"]], [false, true]) := by
    decide +kernel
  obtain ⟨s, hrun, hs⟩ := Option.map_eq_some_iff.mp hstate
  obtain ⟨hexecuted, hcommitted, hstopped⟩ : s.executed = postgresMigrations ∧
      s.sessions.map MigrationSession.committed = [postgresMigrations.tail, ["0001_init"]] ∧
      s.sessions.map (fun session => isStopped session.phase) = [false, true] := by
    simpa only [Prod.mk.injEq] using hs
  obtain ⟨first, second, hsessions⟩ : ∃ first second, s.sessions = [first, second] := by
    have hlength := congrArg List.length hcommitted
    rw [List.length_map] at hlength
    exact List.length_eq_two.mp hlength
  rw [hsessions] at hcommitted hstopped
  obtain ⟨hnodup, -, hcontract⟩ := migrations_contract none List.nodup_nil hrun
  have hfirst : s.sessions[0]? = some first := by rw [hsessions]; rfl
  have hsecond : s.sessions[1]? = some second := by rw [hsessions]; rfl
  simp only [List.map_cons, List.map_nil, List.cons.injEq, and_true] at hcommitted hstopped
  exact ⟨s, first, second, hrun, hexecuted, hnodup, hsessions, (hcontract 0 first hfirst).1,
    (hcontract 1 second hsecond).2 hstopped.2, hcommitted.1, hcommitted.2⟩

end Xygo.Analysis
