import Xygo.Analysis.OutboxInvariant
import Xygo.Model.Workers

/-!
# How often a job is claimed

`claim` counts an attempt and `fail` compares the count with `maxAttempts`; a claim that
takes over a stale job compares nothing. So a job stays within `maxAttempts` claims exactly
on the runs where no claim takes over a job whose attempts are spent (`claimsWithin_iff`).
-/

set_option autoImplicit false

namespace Xygo.Analysis

open Xygo.Computation Xygo.Model

/-- No job was claimed more than `maxAttempts` times since its enqueue or last replay.
SOURCE: docs/operations/durable-worker-outbox-runbook.md:36 -/
def ClaimsWithin (maxAttempts : Nat) (s : WorkersState) : Prop :=
  ∀ id, claimsSince id s.calls ≤ maxAttempts

/-- A claim does not take over a stale job whose attempts are spent. A claim at an invalid
time throws before it selects anything.
SOURCE: apps/api/src/reliability/outbox.js:190-192 -/
def LeavesSpent (maxAttempts : Nat) (s : WorkersState) : WorkersStep → Prop
  | .processOnce _ now settings => isValidTime now = true →
      ∀ job ∈ sliceTo (ready s.store now settings.staleAfterMs) settings.concurrency,
        job.status = .processing → job.attempts < maxAttempts
  | _ => True

/-- The jobs of a store are within the budget: a job that waits for a claim has one left. -/
def StoreWithin (maxAttempts : Nat) (s : OutboxStore) : Prop :=
  ∀ id job, s.items.get id = some job →
    job.attempts ≤ maxAttempts ∧
      (job.status = .pending ∨ job.status = .failed → job.attempts < maxAttempts)

/-- The invariant of the workers: the calls made so far explain the store, and the jobs
of the store and the copies in the hands of the workers are within the budget. -/
structure WithinBudget (maxAttempts : Nat) (s : WorkersState) : Prop where
  outbox : OutboxInvariant s.calls s.store
  store : StoreWithin maxAttempts s.store
  copies : ∀ task ∈ s.tasks, task.job.attempts ≤ maxAttempts

/-- What a call must respect to keep the budget: a claim takes no spent stale job, and a
failure asks for no more attempts than the budget. -/
def CallWithin (maxAttempts : Nat) (s : OutboxStore) : OutboxCall → Prop
  | .claim _ now limit staleAfterMs => isValidTime now = true →
      ∀ job ∈ sliceTo (ready s now staleAfterMs) limit,
        job.status = .processing → job.attempts < maxAttempts
  | .fail _ _ _ _ options => options.maxAttempts ≤ maxAttempts
  | _ => True

variable {maxAttempts : Nat} {log : OutboxLog} {s t : OutboxStore} {w v : WorkersState}

/-- INTERNAL: writing back one job within the budget. -/
theorem StoreWithin.put (h : StoreWithin maxAttempts s) {id : String} {record : OutboxJob}
    (new : record.attempts ≤ maxAttempts ∧
      (record.status = .pending ∨ record.status = .failed → record.attempts < maxAttempts)) :
    StoreWithin maxAttempts (s.put id record) := by
  intro id' job hget
  rw [get_put] at hget
  split at hget
  · obtain rfl := Option.some.inj hget
    exact new
  · exact h id' job hget

/-- INTERNAL: a job that a claim selects has an attempt left.
SOURCE: apps/api/src/reliability/outbox.js:182-192 -/
theorem selected_has_attempt (h : StoreWithin maxAttempts s) {now limit staleAfterMs : Int}
    (spare : ∀ job ∈ sliceTo (ready s now staleAfterMs) limit,
      job.status = .processing → job.attempts < maxAttempts)
    {job : OutboxJob} (sel : job ∈ sliceTo (ready s now staleAfterMs) limit) :
    job.attempts < maxAttempts := by
  obtain ⟨hvalue, hready⟩ := List.mem_filter.mp (mem_of_mem_sliceTo sel)
  obtain ⟨key, hget⟩ := OrderedMap.mem_values_iff_get.mp hvalue
  by_cases hproc : job.status = .processing
  · exact spare job sel hproc
  · have hdue : job.status = .pending ∨ job.status = .failed := by
      cases hstatus : job.status <;> simp [isReady, hstatus] at hready hproc ⊢
    exact (h key job hget).2 hdue

/-- INTERNAL: a claim within the budget keeps the jobs within it, and so are the copies it
returns.
SOURCE: apps/api/src/reliability/outbox.js:190-202 -/
theorem StoreWithin.claimed (inv : OutboxInvariant log s) (h : StoreWithin maxAttempts s)
    (workerId : String) {now limit staleAfterMs : Int}
    (spare : ∀ job ∈ sliceTo (ready s now staleAfterMs) limit,
      job.status = .processing → job.attempts < maxAttempts) :
    StoreWithin maxAttempts
      { s with items := s.items.mapValues fun record =>
          if record.id ∈ (sliceTo (ready s now staleAfterMs) limit).map OutboxJob.id then
            Model.claimed workerId now record else record } := by
  intro id job hget
  dsimp only at hget
  rw [get_claimed inv] at hget
  split at hget
  · rename_i hmem
    obtain ⟨old, hold, rfl⟩ := Option.map_eq_some_iff.mp hget
    obtain ⟨sel, hsel, hid⟩ := List.mem_map.mp hmem
    have hlt : sel.attempts < maxAttempts := selected_has_attempt h spare hsel
    obtain ⟨key, hkey⟩ :=
      OrderedMap.mem_values_iff_get.mp (List.mem_filter.mp (mem_of_mem_sliceTo hsel)).1
    obtain rfl : key = id := by rw [← (inv.jobs key sel hkey).keyed, hid]
    obtain rfl : sel = old := Option.some.inj (hkey.symm.trans hold)
    exact ⟨hlt, by simp [Model.claimed]⟩
  · exact h id job hget

/-- INTERNAL: a call within the budget keeps the jobs of the store within it.
SOURCE: apps/api/src/reliability/outbox.js:163-282 -/
theorem StoreWithin.call (hM : 1 ≤ maxAttempts) (inv : OutboxInvariant log s)
    (h : StoreWithin maxAttempts s) {c : OutboxCall} {r : Except JsError OutboxResult}
    (within : CallWithin maxAttempts s c) (out : Outcome s c r t) : StoreWithin maxAttempts t := by
  cases out with
  | refused | duplicate | absent => exact h
  | @enqueued _ _ _ new built freeKey freeId =>
    obtain ⟨-, hattempts, -⟩ := newJob_fresh built
    intro id job hget
    rw [OrderedMap.get_set] at hget
    split at hget
    · obtain rfl := Option.some.inj hget
      exact ⟨by omega, fun _ => by omega⟩
    · exact h id job hget
  | claimed valid => exact StoreWithin.claimed inv h _ (within valid)
  | @completed id workerId now record found processing holder valid =>
    exact h.put ⟨(h id record found).1, by simp [Model.completed]⟩
  | @failed id workerId error now next options record found processing holder valid due =>
    refine h.put ⟨(h id record found).1, fun hstatus => ?_⟩
    have hmax : options.maxAttempts ≤ maxAttempts := within
    have hleft : ¬ exhausted record options = true := by
      intro hspent
      simp [Model.failed, hspent] at hstatus
    have hlt : record.attempts < options.maxAttempts := by
      simpa [exhausted] using hleft
    show record.attempts < maxAttempts
    omega
  | replayed accepted found own dead valid =>
    exact h.put ⟨Nat.zero_le _, fun _ => hM⟩

/-- INTERNAL: calling the store keeps the relation of the calls to the store.
SOURCE: apps/api/src/reliability/outbox.js:163-282 -/
theorem perform_outbox (inv : OutboxInvariant w.calls w.store) (c : OutboxCall) :
    OutboxInvariant (w.perform c).2.calls (w.perform c).2.store :=
  inv.step (outcome_call w.store c)

/-- INTERNAL: calling the store within the budget keeps the budget.
SOURCE: apps/api/src/reliability/outbox.js:653-671 -/
theorem WithinBudget.perform (hM : 1 ≤ maxAttempts) (h : WithinBudget maxAttempts w)
    {c : OutboxCall} (within : CallWithin maxAttempts w.store c) :
    WithinBudget maxAttempts (w.perform c).2 where
  outbox := perform_outbox h.outbox c
  store := h.store.call hM h.outbox within (outcome_call w.store c)
  copies := h.copies

/-- INTERNAL: the tasks after an index leaves the list are among those before. -/
theorem WithinBudget.eraseIdx (h : WithinBudget maxAttempts w) (index : Nat) :
    WithinBudget maxAttempts { w with tasks := w.tasks.eraseIdx index } where
  outbox := h.outbox
  store := h.store
  copies task hmem := h.copies task (List.mem_of_mem_eraseIdx hmem)

/-- INTERNAL: a task that changes its phase keeps its copy. -/
theorem WithinBudget.setPhase (h : WithinBudget maxAttempts w) {index : Nat} {task : Task}
    (copy : task.job.attempts ≤ maxAttempts) (phase : TaskPhase) :
    WithinBudget maxAttempts
      { w with tasks := w.tasks.set index { task with phase := phase } } where
  outbox := h.outbox
  store := h.store
  copies other hmem := by
    obtain hold | rfl := List.mem_or_eq_of_mem_set hmem
    · exact h.copies other hold
    · exact copy

/-- INTERNAL: how a claim answers: it throws at an invalid time, or returns the selected
jobs as they are after the claim.
SOURCE: apps/api/src/reliability/outbox.js:190-202 -/
theorem claim_answer (s : OutboxStore) (workerId : String) (now limit staleAfterMs : Int) :
    (isValidTime now = false ∧
        ∃ e, (memoryOutbox.call (.claim workerId now limit staleAfterMs) s).1 = .error e) ∨
      (isValidTime now = true ∧
        (memoryOutbox.call (.claim workerId now limit staleAfterMs) s).1 =
          .ok (.jobs ((sliceTo (ready s now staleAfterMs) limit).map (claimed workerId now)))) := by
  cases hvalid : isValidTime now with
  | false =>
    have hnow : nowIso now = .error (newError "Outbox time is invalid.") := by
      simp [nowIso, nowDate, hvalid, bind, Except.bind]
    exact Or.inl ⟨rfl, _, by simp [memoryOutbox, OutboxCall.operation, claim, hnow]; rfl⟩
  | true =>
    have hnow : nowIso now = .ok now := by
      simp [nowIso, nowDate, toISOString, hvalid, bind, Except.bind]
    exact Or.inr ⟨rfl, by simp [memoryOutbox, OutboxCall.operation, claim, hnow]⟩

/-- INTERNAL: the claim of a `processOutboxOnce` keeps the budget.
SOURCE: apps/api/src/reliability/outbox.js:653 -/
theorem WithinBudget.claimTasks (hM : 1 ≤ maxAttempts) (h : WithinBudget maxAttempts w)
    {workerId : String} {now : Int} {settings : WorkerSettings}
    (spare : LeavesSpent maxAttempts w (.processOnce workerId now settings)) :
    WithinBudget maxAttempts (Model.claimTasks w workerId now settings) := by
  have hnext : WithinBudget maxAttempts
      (w.perform (.claim workerId now settings.concurrency settings.staleAfterMs)).2 :=
    h.perform hM spare
  obtain ⟨-, e, he⟩ | ⟨hvalid, hjobs⟩ :=
    claim_answer w.store workerId now settings.concurrency settings.staleAfterMs
  · simpa [Model.claimTasks, WorkersState.perform, he] using hnext
  · simp only [Model.claimTasks, WorkersState.perform, hjobs] at hnext ⊢
    refine { outbox := hnext.outbox, store := hnext.store, copies := fun task hmem => ?_ }
    rcases List.mem_append.mp hmem with hold | hnew
    · exact h.copies task hold
    · simp only [List.map_map, List.mem_map] at hnew
      obtain ⟨job, hsel, rfl⟩ := hnew
      exact selected_has_attempt h.store (spare hvalid) hsel

/-- INTERNAL: completing a job keeps the budget.
SOURCE: apps/api/src/reliability/outbox.js:656-660 -/
theorem WithinBudget.completeTask (hM : 1 ≤ maxAttempts) (h : WithinBudget maxAttempts w)
    {index : Nat} {task : Task} (found : w.tasks[index]? = some task) :
    WithinBudget maxAttempts (Model.completeTask w index task) := by
  have hnext : WithinBudget maxAttempts
      (w.perform (.complete task.job.id task.workerId task.now)).2 := h.perform hM trivial
  unfold Model.completeTask
  rcases hperform : w.perform (.complete task.job.id task.workerId task.now) with ⟨_ | _, v⟩
  · rw [hperform] at hnext
    exact hnext.setPhase (h.copies task (List.mem_of_getElem? found)) _
  · rw [hperform] at hnext
    exact hnext.eraseIdx index

/-- INTERNAL: failing a job keeps the budget. The maximum that the call names is the
budget or the attempts of the copy.
SOURCE: apps/api/src/reliability/outbox.js:660-673 -/
theorem WithinBudget.failTask (hM : 1 ≤ maxAttempts) (h : WithinBudget maxAttempts w)
    {index : Nat} {task : Task} (found : w.tasks[index]? = some task) (error : JsError) :
    WithinBudget maxAttempts (Model.failTask maxAttempts w index task error) := by
  have hcopy : task.job.attempts ≤ maxAttempts := h.copies task (List.mem_of_getElem? found)
  have hcall : CallWithin maxAttempts w.store (.fail task.job.id task.workerId error task.now
      (task.failOptions maxAttempts error)) := by
    show (task.failOptions maxAttempts error).maxAttempts ≤ maxAttempts
    unfold Task.failOptions
    dsimp only
    split <;> omega
  exact (h.perform hM hcall).eraseIdx index

/-- The ways a step of the workers can end. -/
inductive Moved (maxAttempts : Nat) (w : WorkersState) : WorkersStep → WorkersState → Prop
  | enqueued (event : OutboxEvent) (key : Option String) (now : Int) :
      Moved maxAttempts w (.enqueue event key now) (w.perform (.enqueue event key now)).2
  | replayed (id : String) (tenantId : Option String) (reason : String) (now : Int) :
      Moved maxAttempts w (.replay id tenantId reason now)
        (w.perform (.replay id tenantId reason now)).2
  | claimed (workerId : String) (now : Int) (settings : WorkerSettings) :
      Moved maxAttempts w (.processOnce workerId now settings)
        (Model.claimTasks w workerId now settings)
  | returned {index : Nat} {task : Task} (found : w.tasks[index]? = some task) :
      Moved maxAttempts w (.handlerReturns index) (Model.completeTask w index task)
  | threw {index : Nat} {task : Task} (found : w.tasks[index]? = some task) (error : JsError) :
      Moved maxAttempts w (.handlerThrows index error)
        { w with tasks := w.tasks.set index { task with phase := .failing error } }
  | failed {index : Nat} {task : Task} (found : w.tasks[index]? = some task) (error : JsError) :
      Moved maxAttempts w (.fail index) (Model.failTask maxAttempts w index task error)
  | crashed (index : Nat) :
      Moved maxAttempts w (.crash index) { w with tasks := w.tasks.eraseIdx index }

/-- INTERNAL: every step of the workers ends in one of the listed ways.
SOURCE: apps/api/src/reliability/outbox.js:641-676 -/
theorem moved_of_step {l : WorkersStep} (step : (workers maxAttempts).step w l = some v) :
    Moved maxAttempts w l v := by
  cases l with
  | enqueue event key now => exact Option.some.inj step ▸ .enqueued event key now
  | replay id tenantId reason now =>
    exact Option.some.inj step ▸ .replayed id tenantId reason now
  | processOnce workerId now settings =>
    exact Option.some.inj step ▸ .claimed workerId now settings
  | handlerReturns index =>
    simp only [workers] at step
    split at step
    · rename_i task found
      split at step
      · exact Option.some.inj step ▸ .returned found
      · cases step
    · cases step
  | handlerThrows index error =>
    simp only [workers] at step
    split at step
    · rename_i task found
      split at step
      · exact Option.some.inj step ▸ .threw found error
      · cases step
    · cases step
  | fail index =>
    simp only [workers] at step
    split at step
    · rename_i task found
      split at step
      · cases step
      · rename_i error _
        exact Option.some.inj step ▸ .failed found error
    · cases step
  | crash index =>
    simp only [workers] at step
    split at step
    · exact Option.some.inj step ▸ .crashed index
    · cases step

/-- INTERNAL: **the step lemma.** A step that leaves the spent stale jobs alone keeps the
budget.
SOURCE: apps/api/src/reliability/outbox.js:641-676 -/
theorem WithinBudget.step (hM : 1 ≤ maxAttempts) (h : WithinBudget maxAttempts w)
    {l : WorkersStep} (spare : LeavesSpent maxAttempts w l) (move : Moved maxAttempts w l v) :
    WithinBudget maxAttempts v := by
  cases move with
  | enqueued => exact h.perform hM trivial
  | replayed => exact h.perform hM trivial
  | claimed => exact h.claimTasks hM spare
  | returned found => exact h.completeTask hM found
  | threw found error => exact h.setPhase (h.copies _ (List.mem_of_getElem? found)) _
  | failed found error => exact h.failTask hM found error
  | crashed index => exact h.eraseIdx index

/-- INTERNAL: a claim makes one call of the store, whatever it answers.
SOURCE: apps/api/src/reliability/outbox.js:653 -/
theorem claimTasks_calls (w : WorkersState) (workerId : String) (now : Int)
    (settings : WorkerSettings) :
    ∃ tasks, Model.claimTasks w workerId now settings =
      { (w.perform (.claim workerId now settings.concurrency settings.staleAfterMs)).2 with
        tasks := tasks } := by
  unfold Model.claimTasks
  split
  · rename_i jobs t heq
    exact ⟨_, by rw [heq]⟩
  · rename_i r t _ heq
    exact ⟨t.tasks, by rw [heq]⟩

/-- INTERNAL: every step keeps the relation of the calls to the store.
SOURCE: apps/api/src/reliability/outbox.js:641-676 -/
theorem outbox_of_moved (h : OutboxInvariant w.calls w.store) {l : WorkersStep}
    (move : Moved maxAttempts w l v) : OutboxInvariant v.calls v.store := by
  cases move with
  | enqueued => exact perform_outbox h _
  | replayed => exact perform_outbox h _
  | claimed workerId now settings =>
    obtain ⟨tasks, heq⟩ := claimTasks_calls w workerId now settings
    rw [heq]
    exact perform_outbox h _
  | @returned index task found =>
    have hnext := perform_outbox h (.complete task.job.id task.workerId task.now)
    unfold Model.completeTask
    rcases hperform : w.perform (.complete task.job.id task.workerId task.now) with ⟨_ | _, t⟩
    · simpa [hperform] using hnext
    · simpa [hperform] using hnext
  | threw => exact h
  | failed found error => exact perform_outbox h _
  | crashed => exact h

/-- INTERNAL: jobs within the budget were claimed within the budget.
SOURCE: apps/api/src/reliability/outbox.js:195 -/
theorem WithinBudget.claimsWithin (h : WithinBudget maxAttempts w) :
    ClaimsWithin maxAttempts w := by
  intro id
  cases hget : w.store.items.get id with
  | none => simp [(h.outbox.unseen id hget).1]
  | some job =>
    rw [← (h.outbox.jobs id job hget).attempts]
    exact (h.store id job hget).1

/-- INTERNAL: before anything is enqueued. -/
theorem withinBudget_initial : WithinBudget maxAttempts .initial where
  outbox := outboxInvariant_empty
  store id job hget := by simp [WorkersState.initial, OutboxStore.empty] at hget
  copies task hmem := by simp [WorkersState.initial] at hmem

/-- INTERNAL: a claim that takes over a spent stale job goes over the budget.
SOURCE: apps/api/src/reliability/outbox.js:185-199 -/
theorem leavesSpent_of_claimsWithin (h : OutboxInvariant w.calls w.store) {workerId : String}
    {now : Int} {settings : WorkerSettings}
    (after : ClaimsWithin maxAttempts (Model.claimTasks w workerId now settings)) :
    LeavesSpent maxAttempts w (.processOnce workerId now settings) := by
  intro hvalid job hsel hproc
  obtain ⟨hvalue, -⟩ := List.mem_filter.mp (mem_of_mem_sliceTo hsel)
  obtain ⟨key, hget⟩ := OrderedMap.mem_values_iff_get.mp hvalue
  have hinv := h.jobs key job hget
  obtain ⟨tasks, heq⟩ := claimTasks_calls w workerId now settings
  have hcount := after job.id
  rw [heq] at hcount
  obtain ⟨hinvalid, -⟩ | ⟨-, hjobs⟩ :=
    claim_answer w.store workerId now settings.concurrency settings.staleAfterMs
  · simp [hinvalid] at hvalid
  · have hmem : job.id ∈ ((sliceTo (ready w.store now settings.staleAfterMs)
        settings.concurrency).map (claimed workerId now)).map OutboxJob.id := by
      simp only [List.map_map, List.mem_map]
      exact ⟨job, hsel, rfl⟩
    simp only [WorkersState.perform, hjobs, claimsSince_append, countClaim, hmem, if_true] at hcount
    rw [hinv.attempts, ← hinv.keyed]
    omega

/-- **When a job stays within its claims.** In a run of workers with a fixed `maxAttempts`,
no job is ever claimed more than `maxAttempts` times since its enqueue or last replay, iff no
claim of the run takes over a stale job whose attempts are spent.
SOURCE: apps/api/src/reliability/outbox.js:182-237, 641-676 -/
theorem claimsWithin_iff (maxAttempts : Nat) (hM : 1 ≤ maxAttempts) (ls : List WorkersStep) :
    (∀ before after s, ls = before ++ after →
        (workers maxAttempts).run .initial before = some s → ClaimsWithin maxAttempts s) ↔
      (workers maxAttempts).Meets (LeavesSpent maxAttempts) .initial ls := by
  rw [Machine.meets_iff_each]
  constructor
  · intro h before l after w heq hrun
    have hinv : OutboxInvariant w.calls w.store :=
      (workers maxAttempts).invariant (fun s l t hs hl => outbox_of_moved hs (moved_of_step hl))
        outboxInvariant_empty hrun
    cases l with
    | processOnce workerId now settings =>
      refine leavesSpent_of_claimsWithin hinv ?_
      refine h (before ++ [.processOnce workerId now settings]) after _ (by simp [heq]) ?_
      rw [Machine.run_append, hrun]
      rfl
    | enqueue | replay | handlerReturns | handlerThrows | fail | crash => trivial
  · intro h before after s heq hrun
    have hmeets : (workers maxAttempts).Meets (LeavesSpent maxAttempts) .initial before := by
      rw [Machine.meets_iff_each]
      intro pre l post t hpre hprerun
      exact h pre l (post ++ after) t (by simp [heq, hpre]) hprerun
    have hbudget : WithinBudget maxAttempts s :=
      (workers maxAttempts).invariant_of_meets
        (fun s l t hs hg hl => hs.step hM hg (moved_of_step hl)) withinBudget_initial hmeets hrun
    exact hbudget.claimsWithin

/-- A job is enqueued, its worker crashes, and a minute later another worker takes the claim
over. -/
def crashedRun : List WorkersStep :=
  [.enqueue { id := "event-1", eventType := "report.requested", aggregateType := "report",
              aggregateId := "report-1", tenantId := some "tenant-1" } none 0,
    .processOnce "worker-a" 0 {},
    .crash 0,
    .processOnce "worker-b" 60000 {}]

/-- With two attempts the takeover is within the budget. -/
theorem claimsWithin_iff_crashedRun :
    (∀ before after s, crashedRun = before ++ after →
        (workers 2).run .initial before = some s → ClaimsWithin 2 s) ↔
      (workers 2).Meets (LeavesSpent 2) .initial crashedRun :=
  claimsWithin_iff 2 (by decide) crashedRun

/-- With one attempt the takeover is a second claim of the same job.
SOURCE: apps/api/src/reliability/outbox.js:187, 195 -/
theorem claimsWithin_exceeded :
    ¬ ∀ (maxAttempts : Nat) (ls : List WorkersStep) (s : WorkersState), 1 ≤ maxAttempts →
      (workers maxAttempts).run .initial ls = some s → ClaimsWithin maxAttempts s := by
  intro h
  have hrun : ∃ s, (workers 1).run .initial crashedRun = some s ∧
      1 < claimsSince "event-1" s.calls := ⟨_, rfl, by decide⟩
  obtain ⟨s, hs, hlt⟩ := hrun
  exact absurd (h 1 crashedRun s (Nat.le_refl 1) hs "event-1") (by omega)

end Xygo.Analysis
