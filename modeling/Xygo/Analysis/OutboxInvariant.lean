import Xygo.Analysis.OutboxSpec

/-!
# The invariant of the memory outbox

The log of a run lists every call beside its answer, so that "the number of claims since
the last replay" is a function of what the callers saw. `OutboxInvariant` relates the log
to the store, `LawfulStep` says what one more call may do to the jobs that are there, and
`memoryOutbox_lawful` proves both along every run from the empty store.
-/

set_option autoImplicit false

namespace Xygo.Analysis

open Xygo.Computation Xygo.Model

/-- The calls of a run beside their answers. -/
abbrev OutboxLog := List (OutboxCall × Except JsError OutboxResult)

/-- One answer counted for the claims of `id`: a claim that returned the job counts, and a
replay of the job starts the count again. -/
def countClaim (id : String) (n : Nat) : OutboxCall × Except JsError OutboxResult → Nat
  | (_, .ok (.jobs records)) => if id ∈ records.map OutboxJob.id then n + 1 else n
  | (_, .ok (.replayed (some record))) => if record.id = id then 0 else n
  | _ => n

/-- The claims of `id` since its enqueue or its last replay. -/
def claimsSince (id : String) (log : OutboxLog) : Nat := log.foldl (countClaim id) 0

/-- Whether an answer is a successful replay of `id`. -/
def isReplayOf (id : String) : OutboxCall × Except JsError OutboxResult → Bool
  | (_, .ok (.replayed (some record))) => record.id = id
  | _ => false

/-- The successful replays of `id`. -/
def replaysOf (id : String) (log : OutboxLog) : Nat := log.countP (isReplayOf id)

@[simp] theorem claimsSince_append (id : String) (log : OutboxLog)
    (entry : OutboxCall × Except JsError OutboxResult) :
    claimsSince id (log ++ [entry]) = countClaim id (claimsSince id log) entry := by
  simp [claimsSince]

@[simp] theorem replaysOf_append (id : String) (log : OutboxLog)
    (entry : OutboxCall × Except JsError OutboxResult) :
    replaysOf id (log ++ [entry]) = replaysOf id log + if isReplayOf id entry then 1 else 0 := by
  simp [replaysOf, List.countP_cons]

/-- What the store keeps about the job under `id`.
SOURCE: apps/api/src/reliability/outbox.js:163-282;
infrastructure/migrations/postgres/0005_durable_outbox.sql:1-23 -/
structure JobInvariant (log : OutboxLog) (id : String) (job : OutboxJob) : Prop where
  keyed : job.id = id
  locked : job.status = .processing ↔ job.lockedAt.isSome ∧ job.lockedBy.isSome
  unlocked : job.status ≠ .processing → job.lockedAt = none ∧ job.lockedBy = none
  done : job.status = .processed → job.completedAt.isSome
  attempts : job.attempts = claimsSince id log
  replays : job.replayCount = replaysOf id log

/-- The invariant of the store. `bound` is the one-to-one correspondence of idempotency
keys and job ids.
SOURCE: apps/api/src/reliability/outbox.js:163-282 -/
structure OutboxInvariant (log : OutboxLog) (s : OutboxStore) : Prop where
  jobs : ∀ id job, s.items.get id = some job → JobInvariant log id job
  bound : ∀ key id, s.idempotencyKeys.get key = some id ↔
    ∃ job, s.items.get id = some job ∧ job.idempotencyKey = key
  unseen : ∀ id, s.items.get id = none → claimsSince id log = 0 ∧ replaysOf id log = 0

/-- What one call may do to the jobs of the store: `s` before the call, `r` its answer and
`t` the store it leaves.
SOURCE: apps/api/src/reliability/outbox.js:163-282 -/
structure LawfulStep (s : OutboxStore) (c : OutboxCall) (r : Except JsError OutboxResult)
    (t : OutboxStore) : Prop where
  kept : ∀ id job, s.items.get id = some job →
    ∃ job', t.items.get id = some job' ∧ job'.idempotencyKey = job.idempotencyKey ∧
      job'.tenantId = job.tenantId ∧ job'.event = job.event
  absorbing : ∀ id job, s.items.get id = some job → job.status = .processed →
    t.items.get id = some job
  deadLeft : ∀ id job, s.items.get id = some job → job.status = .dead →
    t.items.get id = some job ∨
      ∃ reason now record, c = .replay id job.tenantId reason now ∧
        r = .ok (.replayed (some record)) ∧ record.id = id
  completer : ∀ id workerId now, c = .complete id workerId now → r.isOk = true →
    ∃ job, s.items.get id = some job ∧ job.status = .processing ∧ job.lockedBy = some workerId
  failer : ∀ id workerId error now options, c = .fail id workerId error now options →
    r.isOk = true →
    ∃ job, s.items.get id = some job ∧ job.status = .processing ∧ job.lockedBy = some workerId
  throws : ∀ e, r = .error e → t = s

variable {log : OutboxLog} {s t : OutboxStore}

/-- INTERNAL: a lookup after a record is written back.
SOURCE: apps/api/src/reliability/outbox.js:208-216 -/
@[simp] theorem get_put (s : OutboxStore) (id id' : String) (record : OutboxJob) :
    (s.put id record).items.get id' = if id' = id then some record else s.items.get id' := by
  simp [OutboxStore.put]

/-- INTERNAL: the empty store has the invariant under the empty log.
SOURCE: apps/api/src/reliability/outbox.js:163-166 -/
theorem outboxInvariant_empty : OutboxInvariant [] OutboxStore.empty where
  jobs id job h := by simp [OutboxStore.empty] at h
  bound key id := by simp [OutboxStore.empty]
  unseen id _ := ⟨rfl, rfl⟩

/-- INTERNAL: an answer that neither claims nor replays `id` keeps its invariant. -/
theorem JobInvariant.append {id : String} {job : OutboxJob} (h : JobInvariant log id job)
    {entry : OutboxCall × Except JsError OutboxResult}
    (claims : countClaim id (claimsSince id log) entry = claimsSince id log)
    (replays : isReplayOf id entry = false) : JobInvariant (log ++ [entry]) id job where
  keyed := h.keyed
  locked := h.locked
  unlocked := h.unlocked
  done := h.done
  attempts := by rw [claimsSince_append, claims, h.attempts]
  replays := by rw [replaysOf_append, replays]; simpa using h.replays

/-- INTERNAL: an answer that neither claims nor replays a job the store does not have. -/
theorem unseen_append {id : String} (h : claimsSince id log = 0 ∧ replaysOf id log = 0)
    {entry : OutboxCall × Except JsError OutboxResult}
    (claims : countClaim id (claimsSince id log) entry = claimsSince id log)
    (replays : isReplayOf id entry = false) :
    claimsSince id (log ++ [entry]) = 0 ∧ replaysOf id (log ++ [entry]) = 0 := by
  rw [claimsSince_append, replaysOf_append, claims, replays]
  simpa using h

/-- INTERNAL: an answer that neither claims nor replays any job keeps the invariant of a
store that does not change. -/
theorem OutboxInvariant.append (h : OutboxInvariant log s)
    {entry : OutboxCall × Except JsError OutboxResult}
    (claims : ∀ id, countClaim id (claimsSince id log) entry = claimsSince id log)
    (replays : ∀ id, isReplayOf id entry = false) : OutboxInvariant (log ++ [entry]) s where
  jobs id job hget := (h.jobs id job hget).append (claims id) (replays id)
  bound := h.bound
  unseen id hget :=
    unseen_append (h.unseen id hget) (claims id) (replays id)

/-- INTERNAL: writing back one job that keeps its key. The answer may count only for that
job, and the new record must have the invariant under the longer log. -/
theorem OutboxInvariant.put (h : OutboxInvariant log s) {id : String} {record record' : OutboxJob}
    (found : s.items.get id = some record)
    (sameKey : record'.idempotencyKey = record.idempotencyKey)
    {entry : OutboxCall × Except JsError OutboxResult}
    (now : JobInvariant (log ++ [entry]) id record')
    (claims : ∀ id', id' ≠ id → countClaim id' (claimsSince id' log) entry = claimsSince id' log)
    (replays : ∀ id', id' ≠ id → isReplayOf id' entry = false) :
    OutboxInvariant (log ++ [entry]) (s.put id record') where
  jobs id' job hget := by
    rw [get_put] at hget
    split at hget
    · rename_i heq
      subst heq
      obtain rfl : record' = job := Option.some.inj hget
      exact now
    · rename_i hne
      exact (h.jobs id' job hget).append (claims id' hne) (replays id' hne)
  bound key id' := by
    have hold : s.idempotencyKeys.get key = some id' ↔
        ∃ job, s.items.get id' = some job ∧ job.idempotencyKey = key := h.bound key id'
    show s.idempotencyKeys.get key = some id' ↔ _
    rw [hold]
    by_cases heq : id' = id
    · subst heq
      simp [found, sameKey]
    · simp [heq]
  unseen id' hget := by
    rw [get_put] at hget
    split at hget
    · cases hget
    · rename_i hne
      exact unseen_append (h.unseen id' hget) (claims id' hne) (replays id' hne)

/-- INTERNAL: a new job under a free id and a free key.
SOURCE: apps/api/src/reliability/outbox.js:169-181 -/
theorem OutboxInvariant.enqueued (h : OutboxInvariant log s) {job : OutboxJob} {c : OutboxCall}
    (freeKey : s.idempotencyKeys.get job.idempotencyKey = none)
    (freeId : s.items.get job.id = none) (pending : job.status = .pending)
    (fresh : job.attempts = 0 ∧ job.replayCount = 0 ∧ job.lockedAt = none ∧ job.lockedBy = none) :
    OutboxInvariant (log ++ [(c, .ok (.job job))])
      ⟨s.items.set job.id job, s.idempotencyKeys.set job.idempotencyKey job.id⟩ where
  jobs id job' hget := by
    rw [OrderedMap.get_set] at hget
    split at hget
    · rename_i heq
      subst heq
      obtain rfl : job = job' := Option.some.inj hget
      obtain ⟨hc, hr⟩ := h.unseen _ freeId
      exact {
        keyed := rfl
        locked := by simp [pending, fresh]
        unlocked := fun _ => ⟨fresh.2.2.1, fresh.2.2.2⟩
        done := by simp [pending]
        attempts := by simp [countClaim, hc, fresh.1]
        replays := by simp [isReplayOf, hr, fresh.2.1] }
    · exact (h.jobs id job' hget).append rfl rfl
  bound key id := by
    have hold := h.bound key id
    simp only [OrderedMap.get_set]
    by_cases hkey : key = job.idempotencyKey
    · subst hkey
      by_cases hid : id = job.id
      · subst hid; simp
      · have hnone : ¬ ∃ old, s.items.get id = some old ∧
            old.idempotencyKey = job.idempotencyKey := by
          rw [← hold, freeKey]
          simp
        simp only [hid, if_true, if_false, hnone, iff_false]
        exact fun heq => hid (Option.some.inj heq).symm
    · by_cases hid : id = job.id
      · subst hid
        rw [if_neg hkey, if_pos rfl, hold, freeId]
        simpa using fun heq => hkey heq.symm
      · simp [hkey, hid, hold]
  unseen id hget := by
    rw [OrderedMap.get_set] at hget
    split at hget
    · cases hget
    · exact unseen_append (h.unseen id hget) rfl rfl

/-- INTERNAL: `newJob` builds a pending job that nobody has claimed.
SOURCE: apps/api/src/reliability/outbox.js:87-111 -/
theorem newJob_fresh {event : OutboxEvent} {key : Option String} {now : Int} {job : OutboxJob}
    (h : newJob event key now = .ok job) :
    job.status = .pending ∧ job.attempts = 0 ∧ job.replayCount = 0 ∧ job.lockedAt = none ∧
      job.lockedBy = none := by
  unfold newJob at h
  obtain ⟨id, -, h⟩ := bind_eq_ok.mp h
  obtain ⟨-, -, h⟩ := bind_eq_ok.mp h
  obtain ⟨-, -, h⟩ := bind_eq_ok.mp h
  obtain ⟨-, -, h⟩ := bind_eq_ok.mp h
  obtain ⟨timestamp, -, h⟩ := bind_eq_ok.mp h
  obtain ⟨idempotencyKey, -, h⟩ := bind_eq_ok.mp h
  obtain rfl := Except.ok.inj h
  exact ⟨rfl, rfl, rfl, rfl, rfl⟩

/-- INTERNAL: a job whose id a claim selected was ready.
SOURCE: apps/api/src/reliability/outbox.js:182-192 -/
theorem selected_ready (h : OutboxInvariant log s) {now limit staleAfterMs : Int} {id : String}
    (sel : id ∈ (sliceTo (ready s now staleAfterMs) limit).map OutboxJob.id) :
    ∃ job, s.items.get id = some job ∧ isReady now (now - staleAfterMs) job = true := by
  obtain ⟨job, hjob, rfl⟩ := List.mem_map.mp sel
  have hready : job ∈ ready s now staleAfterMs := mem_of_mem_sliceTo hjob
  obtain ⟨hvalue, hok⟩ := List.mem_filter.mp hready
  obtain ⟨key, hget⟩ := OrderedMap.mem_values_iff_get.mp hvalue
  obtain rfl : job.id = key := (h.jobs key job hget).keyed
  exact ⟨job, hget, hok⟩

/-- INTERNAL: a ready job is neither processed nor dead.
SOURCE: apps/api/src/reliability/outbox.js:185-188 -/
theorem not_ready_of_settled {current staleBefore : Int} {job : OutboxJob}
    (h : job.status = .processed ∨ job.status = .dead) :
    isReady current staleBefore job = false := by
  rcases h with h | h <;> simp [isReady, h]

/-- INTERNAL: the job under an id after a claim.
SOURCE: apps/api/src/reliability/outbox.js:192-201 -/
theorem get_claimed (h : OutboxInvariant log s) (workerId : String)
    (now limit staleAfterMs : Int) (id : String) :
    (s.items.mapValues fun record =>
        if record.id ∈ (sliceTo (ready s now staleAfterMs) limit).map OutboxJob.id then
          claimed workerId now record else record).get id =
      if id ∈ (sliceTo (ready s now staleAfterMs) limit).map OutboxJob.id then
        (s.items.get id).map (claimed workerId now) else s.items.get id := by
  rw [OrderedMap.get_mapValues]
  cases hget : s.items.get id with
  | none => simp
  | some job =>
    obtain rfl : job.id = id := (h.jobs id job hget).keyed
    simp only [Option.map_some]
    split <;> rfl

/-- INTERNAL: a claim keeps the invariant.
SOURCE: apps/api/src/reliability/outbox.js:190-202 -/
theorem OutboxInvariant.claimed (h : OutboxInvariant log s) (c : OutboxCall) (workerId : String)
    (now limit staleAfterMs : Int) :
    OutboxInvariant
      (log ++ [(c, .ok (.jobs
        ((sliceTo (ready s now staleAfterMs) limit).map (Model.claimed workerId now))))])
      { s with items := s.items.mapValues fun record =>
          if record.id ∈ (sliceTo (ready s now staleAfterMs) limit).map OutboxJob.id then
            Model.claimed workerId now record else record } := by
  have hids : ((sliceTo (ready s now staleAfterMs) limit).map (Model.claimed workerId now)).map
      OutboxJob.id = (sliceTo (ready s now staleAfterMs) limit).map OutboxJob.id := by
    simp [Model.claimed]
  generalize hsel : (sliceTo (ready s now staleAfterMs) limit).map OutboxJob.id = selected at hids ⊢
  have hget (id : String) := get_claimed h workerId now limit staleAfterMs id
  rw [hsel] at hget
  refine ⟨fun id job hjob => ?_, fun key id => ?_, fun id hnone => ?_⟩
  · simp only [hget] at hjob
    split at hjob
    · rename_i hmem
      obtain ⟨old, hold, rfl⟩ := Option.map_eq_some_iff.mp hjob
      have inv := h.jobs id old hold
      obtain ⟨ready, hready, hisReady⟩ := selected_ready h (hsel ▸ hmem)
      obtain rfl : ready = old := Option.some.inj (hready.symm.trans hold)
      exact {
        keyed := inv.keyed
        locked := by simp [Model.claimed]
        unlocked := by simp [Model.claimed]
        done := by simp [Model.claimed]
        attempts := by simp [Model.claimed, countClaim, hids, hmem, inv.attempts]
        replays := by simpa [Model.claimed, isReplayOf] using inv.replays }
    · rename_i hmem
      exact (h.jobs id job hjob).append (by simp [countClaim, hids, hmem]) rfl
  · show s.idempotencyKeys.get key = some id ↔ _
    rw [h.bound key id]
    simp only [hget]
    split
    · cases s.items.get id <;> simp [Model.claimed]
    · rfl
  · have hfree : s.items.get id = none := by
      rw [hget] at hnone
      split at hnone
      · simpa using hnone
      · exact hnone
    have hmem : id ∉ selected := fun hmem => by
      obtain ⟨job, hjob, -⟩ := selected_ready h (hsel ▸ hmem)
      simp [hfree] at hjob
    exact unseen_append (h.unseen id hfree) (by simp [countClaim, hids, hmem]) rfl

/-- INTERNAL: every outcome keeps the invariant.
SOURCE: apps/api/src/reliability/outbox.js:163-282 -/
theorem OutboxInvariant.step (h : OutboxInvariant log s) {c : OutboxCall}
    {r : Except JsError OutboxResult} (out : Outcome s c r t) :
    OutboxInvariant (log ++ [(c, r)]) t := by
  cases out with
  | refused c e => exact h.append (fun _ => rfl) (fun _ => rfl)
  | @enqueued _ _ _ job built freeKey freeId =>
    obtain ⟨hstatus, hfresh⟩ := newJob_fresh built
    exact h.enqueued freeKey (OrderedMap.get_eq_none.mpr freeId) hstatus hfresh
  | duplicate built boundKey found same => exact h.append (fun _ => rfl) (fun _ => rfl)
  | claimed valid => exact h.claimed _ _ _ _ _
  | @completed id workerId now record found processing holder valid =>
    have inv := h.jobs id record found
    refine h.put found (by rfl) ?_ (fun _ _ => by rfl) (fun _ _ => by rfl)
    exact {
      keyed := inv.keyed
      locked := by simp [Model.completed]
      unlocked := by simp [Model.completed]
      done := by simp [Model.completed]
      attempts := by simpa [countClaim, Model.completed] using inv.attempts
      replays := by simpa [isReplayOf, Model.completed] using inv.replays }
  | @failed id workerId error now next options record found processing holder valid due =>
    have inv := h.jobs id record found
    have hstatus : (Model.failed error now next options record).status ≠ .processing ∧
        (Model.failed error now next options record).status ≠ .processed := by
      simp only [Model.failed]
      split <;> simp
    refine h.put found (by rfl) ?_ (fun _ _ => by rfl) (fun _ _ => by rfl)
    exact {
      keyed := inv.keyed
      locked := iff_of_false hstatus.1 (by simp [Model.failed])
      unlocked := fun _ => ⟨rfl, rfl⟩
      done := fun hs => absurd hs hstatus.2
      attempts := by simpa [countClaim, Model.failed] using inv.attempts
      replays := by simpa [isReplayOf, Model.failed] using inv.replays }
  | absent => exact h.append (fun _ => rfl) (fun _ => rfl)
  | @replayed id tenantId reason replayReason now record accepted found own dead valid =>
    have inv := h.jobs id record found
    have hkey : (Model.replayed replayReason now record).id = id := inv.keyed
    refine h.put found (by rfl) ?_ (fun id' hne => ?_) (fun id' hne => ?_)
    · exact {
        keyed := inv.keyed
        locked := by simp [Model.replayed]
        unlocked := by simp [Model.replayed]
        done := by simp [Model.replayed]
        attempts := by simp [countClaim, inv.keyed, Model.replayed]
        replays := by simp [isReplayOf, inv.keyed, Model.replayed, inv.replays] }
    · simp [countClaim, hkey, Ne.symm hne]
    · simp [isReplayOf, hkey, Ne.symm hne]

/-- INTERNAL: what a job keeps when its record is written back. -/
theorem kept_put {id : String} {record record' : OutboxJob} (found : s.items.get id = some record)
    (same : record'.idempotencyKey = record.idempotencyKey ∧ record'.tenantId = record.tenantId ∧
      record'.event = record.event) :
    ∀ id' job, s.items.get id' = some job →
      ∃ job', (s.put id record').items.get id' = some job' ∧
        job'.idempotencyKey = job.idempotencyKey ∧ job'.tenantId = job.tenantId ∧
        job'.event = job.event := by
  intro id' job hget
  rw [get_put]
  by_cases heq : id' = id
  · subst heq
    obtain rfl : record = job := Option.some.inj (found.symm.trans hget)
    exact ⟨record', by simp, same⟩
  · exact ⟨job, by simp [heq, hget], rfl, rfl, rfl⟩

/-- INTERNAL: a job with another status than the record written back is unchanged. -/
theorem get_put_of_status_ne {id id' : String} {record record' job : OutboxJob}
    (found : s.items.get id = some record) (hget : s.items.get id' = some job)
    (hne : job.status ≠ record.status) : (s.put id record').items.get id' = some job := by
  rw [get_put]
  split
  · rename_i heq
    subst heq
    obtain rfl : record = job := Option.some.inj (found.symm.trans hget)
    exact absurd rfl hne
  · exact hget

/-- INTERNAL: every outcome is a lawful step.
SOURCE: apps/api/src/reliability/outbox.js:163-282 -/
theorem OutboxInvariant.lawful (h : OutboxInvariant log s) {c : OutboxCall}
    {r : Except JsError OutboxResult} (out : Outcome s c r t) : LawfulStep s c r t := by
  cases out with
  | refused c e =>
    exact {
      kept := fun id job hget => ⟨job, hget, rfl, rfl, rfl⟩
      absorbing := fun id job hget _ => hget
      deadLeft := fun id job hget _ => Or.inl hget
      completer := fun _ _ _ _ hok => by simp [Except.isOk, Except.toBool] at hok
      failer := fun _ _ _ _ _ _ hok => by simp [Except.isOk, Except.toBool] at hok
      throws := fun _ _ => rfl }
  | @enqueued _ _ _ new built freeKey freeId =>
    have hkeep (id : String) (job : OutboxJob) (hget : s.items.get id = some job) :
        (s.items.set new.id new).get id = some job := by
      have hne : id ≠ new.id := by
        rintro rfl
        rw [OrderedMap.get_eq_none.mpr freeId] at hget
        cases hget
      simp [hne, hget]
    exact {
      kept := fun id job hget => ⟨job, hkeep id job hget, rfl, rfl, rfl⟩
      absorbing := fun id job hget _ => hkeep id job hget
      deadLeft := fun id job hget _ => Or.inl (hkeep id job hget)
      completer := by simp
      failer := by simp
      throws := by simp }
  | duplicate built boundKey found same =>
    exact {
      kept := fun id job hget => ⟨job, hget, rfl, rfl, rfl⟩
      absorbing := fun id job hget _ => hget
      deadLeft := fun id job hget _ => Or.inl hget
      completer := by simp
      failer := by simp
      throws := by simp }
  | @claimed workerId now limit staleAfterMs valid =>
    have hget := get_claimed h workerId now limit staleAfterMs
    have hsettled (id : String) (job : OutboxJob) (hjob : s.items.get id = some job)
        (hs : job.status = .processed ∨ job.status = .dead) :
        id ∉ (sliceTo (ready s now staleAfterMs) limit).map OutboxJob.id := by
      intro hmem
      obtain ⟨job', hjob', hready⟩ := selected_ready h hmem
      obtain rfl : job = job' := Option.some.inj (hjob.symm.trans hjob')
      simp [not_ready_of_settled hs] at hready
    exact {
      kept := fun id job hjob => by
        dsimp only
        rw [hget, hjob]
        split
        · exact ⟨Model.claimed workerId now job, rfl, rfl, rfl, rfl⟩
        · exact ⟨job, rfl, rfl, rfl, rfl⟩
      absorbing := fun id job hjob hs => by
        dsimp only
        rw [hget, if_neg (hsettled id job hjob (Or.inl hs)), hjob]
      deadLeft := fun id job hjob hs => Or.inl (by
        dsimp only
        rw [hget, if_neg (hsettled id job hjob (Or.inr hs)), hjob])
      completer := by simp
      failer := by simp
      throws := by simp }
  | @completed id workerId now record found processing holder valid =>
    exact {
      kept := kept_put found ⟨rfl, rfl, rfl⟩
      absorbing := fun id' job hget hs =>
        get_put_of_status_ne found hget (by simp [hs, processing])
      deadLeft := fun id' job hget hs =>
        Or.inl (get_put_of_status_ne found hget (by simp [hs, processing]))
      completer := by
        rintro _ _ _ ⟨⟩ _
        exact ⟨record, found, processing, holder⟩
      failer := by simp
      throws := by simp }
  | @failed id workerId error now next options record found processing holder valid due =>
    exact {
      kept := kept_put found ⟨rfl, rfl, rfl⟩
      absorbing := fun id' job hget hs =>
        get_put_of_status_ne found hget (by simp [hs, processing])
      deadLeft := fun id' job hget hs =>
        Or.inl (get_put_of_status_ne found hget (by simp [hs, processing]))
      completer := by simp
      failer := by
        rintro _ _ _ _ _ ⟨⟩ _
        exact ⟨record, found, processing, holder⟩
      throws := by simp }
  | absent =>
    exact {
      kept := fun id job hget => ⟨job, hget, rfl, rfl, rfl⟩
      absorbing := fun id job hget _ => hget
      deadLeft := fun id job hget _ => Or.inl hget
      completer := by simp
      failer := by simp
      throws := by simp }
  | @replayed id tenantId reason replayReason now record accepted found own dead valid =>
    exact {
      kept := kept_put found ⟨rfl, rfl, rfl⟩
      absorbing := fun id' job hget hs => get_put_of_status_ne found hget (by simp [hs, dead])
      deadLeft := fun id' job hget hs => by
        by_cases heq : id' = id
        · subst heq
          obtain rfl : record = job := Option.some.inj (found.symm.trans hget)
          exact Or.inr ⟨reason, now, _, by rw [own], rfl, (h.jobs id' record found).keyed⟩
        · exact Or.inl (by rw [get_put, if_neg heq, hget])
      completer := by simp
      failer := by simp
      throws := by simp }

/-- **The invariant of the memory outbox.** After every run of calls from the empty store,
by any workers at any times, the invariant relates the log to the store, and whatever call
comes next is a lawful step.
SOURCE: apps/api/src/reliability/outbox.js:163-282 -/
theorem memoryOutbox_lawful (calls : List OutboxCall) :
    OutboxInvariant (memoryOutbox.run .empty calls).1 (memoryOutbox.run .empty calls).2 ∧
      ∀ c, LawfulStep (memoryOutbox.run .empty calls).2 c
        (memoryOutbox.call c (memoryOutbox.run .empty calls).2).1
        (memoryOutbox.call c (memoryOutbox.run .empty calls).2).2 := by
  have hinv : OutboxInvariant (memoryOutbox.run .empty calls).1
      (memoryOutbox.run .empty calls).2 := by
    refine memoryOutbox.history outboxInvariant_empty (fun log s c h => ?_) calls
    exact h.step (outcome_call s c)
  exact ⟨hinv, fun c => hinv.lawful (outcome_call _ c)⟩

end Xygo.Analysis
