import Xygo.Model.Permits

/-!
# What a submitted permit package has

The checklist is tested on the way to `ready_for_submission` and the submission refs on the way to
`simulated_submitted`. An internal review that asks for a revision leads round both tests, and
nothing is tested on the way to `simulated_resubmitted` (`permit_bypass`). Where a package is only
resubmitted when it is complete, every package that is submitted, approved or closed is complete,
and the counter has counted the submissions (`permit_lifecycle`).
-/

set_option autoImplicit false

namespace Xygo.Analysis

open Xygo.Computation Xygo.Model

variable {P : Platform} {p : StagedPermit} {request : PermitTransition}

/-- The package has submission refs, and no form of its checklist is missing. -/
def PermitComplete (p : StagedPermit) : Prop :=
  p.submissionPackageRefs ≠ [] ∧ includesFalse p.requiredFormsChecklist = false

/-- The states that say a package was submitted. -/
def PermitFiled (p : StagedPermit) : Prop :=
  p.status = .simulatedSubmitted ∨ p.status = .simulatedResubmitted ∨
    p.status = .simulatedApproved ∨ p.status = .closed

/-- A count added to a number exactly, without rounding. -/
def exactSum : Double → ℕ → Double
  | .finite value, count => .finite (value + count)
  | other, _ => other

theorem exactSum_zero (d : Double) : exactSum d 0 = d := by
  cases d <;> simp [exactSum]

theorem exactSum_add (d : Double) (m n : ℕ) : exactSum (exactSum d m) n = exactSum d (m + n) := by
  cases d <;> simp [exactSum, add_assoc]

/-- The submissions among the answers of a run. -/
def submissions (log : List (PermitTransition × Except JsError PermitMoved)) : ℕ :=
  log.countP fun entry =>
    match entry.2 with
    | .ok moved => moved.permitPackage.status.isSubmission
    | .error _ => false

/-- INTERNAL: what a transition that is let through says.
SOURCE: packages/permits/src/index.js:64-85 -/
theorem permitTarget_ok {target : SyntheticSession × PermitStatus}
    (h : permitTarget request p = .ok target) :
    permitStatus? request.nextStatus = some target.2 ∧
      target.2 ∈ allowedPermitTransitions p.status ∧
      permitGuard p target.2 request.reviewComments = .ok () := by
  unfold permitTarget at h
  obtain ⟨session, -, h⟩ := bind_eq_ok.mp h
  obtain ⟨-, -, h⟩ := bind_eq_ok.mp h
  split at h
  · cases h
  · rename_i next hnext
    dsimp only at h
    split at h
    · cases h
    · rename_i hallowed
      obtain ⟨⟨⟩, hguard, h⟩ := bind_eq_ok.mp h
      obtain rfl := Except.ok.inj h
      exact ⟨hnext, not_not.mp hallowed, hguard⟩

/-- INTERNAL: a call throws and leaves the package, or moves it along an edge of the lifecycle.
SOURCE: packages/permits/src/index.js:63-119 -/
theorem permits_call (P : Platform) (request : PermitTransition) (p : StagedPermit) :
    (∃ error, (permits P).call request p = (.error error, p)) ∨
      ∃ moved next, (permits P).call request p = (.ok moved, moved.permitPackage) ∧
        moved.permitPackage = movedPermit p next request.reviewComments ∧
        permitStatus? request.nextStatus = some next ∧
        next ∈ allowedPermitTransitions p.status ∧
        permitGuard p next request.reviewComments = .ok () := by
  simp only [permits]
  cases hcall : transitionPermitPackage P request p with
  | error error => exact Or.inl ⟨error, rfl⟩
  | ok moved =>
    right
    unfold transitionPermitPackage at hcall
    obtain ⟨target, htarget, hcall⟩ := bind_eq_ok.mp hcall
    obtain ⟨auditEvent, -, hcall⟩ := bind_eq_ok.mp hcall
    obtain ⟨outboxEvent, -, hcall⟩ := bind_eq_ok.mp hcall
    obtain rfl := Except.ok.inj hcall
    exact ⟨_, target.2, rfl, rfl, permitTarget_ok htarget⟩

/-- INTERNAL: the guard on the way to `ready_for_submission`. -/
theorem checklist_of_guard {comments : List Json}
    (h : permitGuard p .readyForSubmission comments = .ok ()) :
    includesFalse p.requiredFormsChecklist = false := by
  unfold permitGuard at h
  split at h
  · cases h
  · rename_i hnot
    simpa using hnot

/-- INTERNAL: the guard on the way to `simulated_submitted`. -/
theorem refs_of_guard {comments : List Json}
    (h : permitGuard p .simulatedSubmitted comments = .ok ()) : p.submissionPackageRefs ≠ [] := by
  unfold permitGuard at h
  rw [if_neg (by simp)] at h
  split at h
  · cases h
  · rename_i hnot
    simpa using hnot

/-- What the state of a package says about its checklist and its refs. -/
structure PermitInv (p : StagedPermit) : Prop where
  ready : p.status = .readyForSubmission → includesFalse p.requiredFormsChecklist = false
  filed : PermitFiled p → PermitComplete p
  commented : p.status = .reviewerCommentsReceived → PermitComplete p

/-- A request that resubmits no incomplete package, and that counts a submission only from an
integer below 2^53. -/
def SubmitsComplete (p : StagedPermit) (request : PermitTransition) : Prop :=
  (permitStatus? request.nextStatus = some .simulatedResubmitted → PermitComplete p) ∧
    ∀ next, permitStatus? request.nextStatus = some next → next.isSubmission = true →
      ∃ n : ℤ, p.submissionCycles = .finite n ∧ n.natAbs < 2 ^ 53

/-- INTERNAL: **what one transition preserves.** The edges are those of the lifecycle; the refs and
the checklist stay as they are. -/
theorem permitInv_moved (h : PermitInv p) {next : PermitStatus}
    (hallowed : next ∈ allowedPermitTransitions p.status)
    (hguard : permitGuard p next request.reviewComments = .ok ())
    (hresubmits : next = .simulatedResubmitted → PermitComplete p) :
    PermitInv (movedPermit p next request.reviewComments) := by
  have hsubmitted : p.status = .simulatedSubmitted ∨ p.status = .simulatedResubmitted →
      PermitComplete p := fun hstatus => h.filed (by tauto)
  have hedge : next = .simulatedApproved ∨ next = .reviewerCommentsReceived ∨ next = .closed →
      PermitComplete p := by
    intro hnext
    cases hstatus : p.status with
    | simulatedSubmitted => exact hsubmitted (Or.inl hstatus)
    | simulatedResubmitted => exact hsubmitted (Or.inr hstatus)
    | simulatedApproved => exact h.filed (by unfold PermitFiled; tauto)
    | reviewerCommentsReceived => exact h.commented hstatus
    | _ =>
      rw [hstatus] at hallowed
      rcases hnext with rfl | rfl | rfl <;> simp [allowedPermitTransitions] at hallowed
  refine ⟨?_, ?_, ?_⟩
  · intro hnext
    obtain rfl : next = .readyForSubmission := hnext
    exact checklist_of_guard hguard
  · intro hfiled
    obtain hnext | hnext | hnext | hnext := hfiled
    · obtain rfl : next = .simulatedSubmitted := hnext
      refine ⟨refs_of_guard hguard, h.ready ?_⟩
      cases hstatus : p.status with
      | readyForSubmission => rfl
      | _ =>
        rw [hstatus] at hallowed
        simp [allowedPermitTransitions] at hallowed
    · exact hresubmits hnext
    · exact hedge (Or.inl hnext)
    · exact hedge (Or.inr (Or.inr hnext))
  · intro hnext
    exact hedge (Or.inr (Or.inl hnext))

/-- INTERNAL: the counter of a package that moves. -/
theorem cycles_moved {next : PermitStatus} {comments : List Json}
    (hcount : next.isSubmission = true →
      ∃ n : ℤ, p.submissionCycles = .finite n ∧ n.natAbs < 2 ^ 53) :
    (movedPermit p next comments).submissionCycles =
      exactSum p.submissionCycles (if next.isSubmission then 1 else 0) := by
  show (if next.isSubmission then p.submissionCycles.add (.finite 1) else p.submissionCycles) = _
  split
  · rename_i hsubmission
    obtain ⟨n, hn, hbound⟩ := hcount hsubmission
    rw [hn, Double.add_one hbound]
    simp [exactSum]
  · exact (exactSum_zero _).symm

/-- INTERNAL: **what a run preserves.** The induction is on the requests. -/
theorem permitInv_run (h : PermitInv p) {requests : List PermitTransition}
    (hg : (permits P).Meets SubmitsComplete p requests) :
    PermitInv ((permits P).run p requests).2 ∧
      ((permits P).run p requests).2.submissionCycles =
        exactSum p.submissionCycles (submissions ((permits P).run p requests).1) := by
  induction requests generalizing p with
  | nil => exact ⟨h, (exactSum_zero _).symm⟩
  | cons request requests ih =>
    obtain ⟨⟨hresubmits, hcount⟩, hrest⟩ := hg
    rw [Object.run_cons]
    obtain ⟨error, hcall⟩ | ⟨moved, next, hcall, hmoved, hnext, hallowed, hguard⟩ :=
      permits_call P request p
    · rw [hcall] at hrest ⊢
      obtain ⟨hinv, hcycles⟩ := ih h hrest
      refine ⟨hinv, ?_⟩
      rw [hcycles]
      simp [submissions]
    · rw [hcall] at hrest ⊢
      have hinv : PermitInv moved.permitPackage := by
        rw [hmoved]
        exact permitInv_moved h hallowed hguard fun heq => hresubmits (by rw [hnext, heq])
      have hone : moved.permitPackage.submissionCycles =
          exactSum p.submissionCycles (if next.isSubmission then 1 else 0) := by
        rw [hmoved]
        exact cycles_moved (hcount next hnext)
      have hstatus : moved.permitPackage.status = next := by rw [hmoved]; rfl
      obtain ⟨hend, hcycles⟩ := ih hinv hrest
      refine ⟨hend, ?_⟩
      rw [hcycles, hone, exactSum_add]
      simp only [submissions, List.countP_cons, hstatus]
      rw [Nat.add_comm]

/-- INTERNAL: the state of a package that was created in `package_preparation`. -/
theorem status_of_created {input : PermitInput} (hcreated : createPermitPackage input = .ok p)
    (hstatus : input.status = PermitStatus.packagePreparation.text) :
    p.status = .packagePreparation := by
  unfold createPermitPackage at hcreated
  iterate 5 obtain ⟨-, -, hcreated⟩ := bind_eq_ok.mp hcreated
  rw [hstatus, show permitStatus? PermitStatus.packagePreparation.text = some .packagePreparation by
    decide +kernel] at hcreated
  obtain rfl := Except.ok.inj hcreated
  rfl

/-- **The lifecycle of a permit package.** From a package created in `package_preparation`, after
any transitions of which none resubmits an incomplete package, a package that is submitted,
resubmitted, approved or closed has submission refs and no missing form, and its counter is the one
it was created with plus the number of submissions.
SOURCE: packages/permits/src/index.js:17-28, 63-119 -/
theorem permit_lifecycle {input : PermitInput} (hcreated : createPermitPackage input = .ok p)
    (hstatus : input.status = PermitStatus.packagePreparation.text)
    {requests : List PermitTransition} (hg : (permits P).Meets SubmitsComplete p requests) :
    (PermitFiled ((permits P).run p requests).2 →
        PermitComplete ((permits P).run p requests).2) ∧
      ((permits P).run p requests).2.submissionCycles =
        exactSum p.submissionCycles (submissions ((permits P).run p requests).1) := by
  have hprepared := status_of_created hcreated hstatus
  have hstart : PermitInv p := by
    refine ⟨?_, ?_, ?_⟩
    · intro hready
      cases hprepared.symm.trans hready
    · unfold PermitFiled
      rw [hprepared]
      rintro (h | h | h | h) <;> cases h
    · intro hcommented
      cases hprepared.symm.trans hcommented
  obtain ⟨hinv, hcycles⟩ := permitInv_run hstart hg
  exact ⟨hinv.filed, hcycles⟩

/-- A complete package with a counter that has room for the requests is resubmitted only when it
is complete. -/
theorem meets_of_complete (hcomplete : PermitComplete p) {n : ℤ}
    (hcycles : p.submissionCycles = .finite n) {requests : List PermitTransition}
    (hroom : n.natAbs + requests.length < 2 ^ 53) :
    (permits P).Meets SubmitsComplete p requests := by
  induction requests generalizing p n with
  | nil => trivial
  | cons request requests ih =>
    rw [List.length_cons] at hroom
    refine ⟨⟨fun _ => hcomplete, fun _ _ _ => ⟨n, hcycles, by omega⟩⟩, ?_⟩
    obtain ⟨error, hcall⟩ | ⟨moved, next, hcall, hmoved, -⟩ := permits_call P request p
    · rw [hcall]
      exact ih hcomplete hcycles (by omega)
    · rw [hcall, hmoved]
      have hnext : (movedPermit p next request.reviewComments).submissionCycles =
          exactSum p.submissionCycles (if next.isSubmission then 1 else 0) :=
        cycles_moved fun _ => ⟨n, hcycles, by omega⟩
      rw [hcycles] at hnext
      cases hsubmission : next.isSubmission with
      | false =>
        rw [hsubmission] at hnext
        exact ih (n := n) hcomplete (by simpa [exactSum] using hnext) (by omega)
      | true =>
        rw [hsubmission] at hnext
        exact ih (n := n + 1) hcomplete (by simpa [exactSum] using hnext) (by omega)

/-! ### Two packages -/

/-- A package of a tenant, as it is created. -/
def newPermit (refs checklist : List Json) : PermitInput where
  id := "permit-a"
  tenantId := "tenant-a"
  projectId := "project-a"
  jurisdictionProfile := "sample-jurisdiction"
  status := "package_preparation"
  submissionPackageRefs := some refs
  requiredFormsChecklist := some checklist

/-- Requests of a user of the tenant for these states, one after the other. -/
def permitRequests (states : List PermitStatus) : List PermitTransition :=
  states.map fun status => {
    session := some { tenantId := "tenant-a", userId := "user-a", allowedProjectIds := ["project-a"] }
    nextStatus := status.text
    reviewComments := [.string "Add the drainage plan."]
    auditDraw := ⟨"e", "c", "r", "t"⟩
    outboxDraw := ⟨"o", 0⟩ }

/-- A platform whose digests are all the same. -/
def plainPlatform : Platform := ⟨fun _ => "", fun _ _ => "", id⟩

/-- **An internal review that asks for a revision leads round both tests**: the package is
resubmitted and approved without refs and with a missing form. -/
theorem permit_bypass :
    ¬ ∀ (P : Platform) (input : PermitInput) (p : StagedPermit) (requests : List PermitTransition),
      createPermitPackage input = .ok p →
      input.status = PermitStatus.packagePreparation.text →
      PermitFiled ((permits P).run p requests).2 →
      PermitComplete ((permits P).run p requests).2 := by
  intro hall
  have hrun : (createPermitPackage (newPermit [] [.bool false])).toOption.map (fun p =>
      let last := ((permits plainPlatform).run p (permitRequests [.internalCompletenessReview,
        .revisionRequired, .revisionInProgress, .simulatedResubmitted, .simulatedApproved])).2
      (decide (last.status = .simulatedApproved), last.submissionPackageRefs.isEmpty)) =
        some (true, true) := by
    decide +kernel
  cases hcreated : createPermitPackage (newPermit [] [.bool false]) with
  | error e =>
    rw [hcreated] at hrun
    cases hrun
  | ok p =>
    rw [hcreated] at hrun
    obtain ⟨happroved, hempty⟩ := Prod.mk.inj (Option.some.inj hrun)
    have hcomplete := hall plainPlatform _ p _ hcreated rfl
      (Or.inr (Or.inr (Or.inl (of_decide_eq_true happroved))))
    exact hcomplete.1 (List.isEmpty_iff.mp hempty)

/-- A complete package that is revised after an internal review, resubmitted, approved and
closed. -/
theorem permit_lifecycle_revised :
    let requests := permitRequests [.internalCompletenessReview, .revisionRequired,
      .revisionInProgress, .simulatedResubmitted, .simulatedApproved, .closed]
    ∃ p, createPermitPackage (newPermit [.string "drawing:sheet-a"] [.bool true]) = .ok p ∧
      (PermitFiled ((permits plainPlatform).run p requests).2 →
        PermitComplete ((permits plainPlatform).run p requests).2) := by
  intro requests
  have hstatus : (newPermit [.string "drawing:sheet-a"] [.bool true]).status =
      PermitStatus.packagePreparation.text := rfl
  refine ⟨_, rfl, (permit_lifecycle (P := plainPlatform) rfl hstatus ?_).1⟩
  exact meets_of_complete (n := 0) ⟨by simp [newPermit], by rfl⟩ rfl (by decide)

end Xygo.Analysis
