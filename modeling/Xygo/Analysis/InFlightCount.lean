import Xygo.Analysis.RequestAnswers
import Xygo.Model.InFlight

/-!
# The count of the requests in flight

The counter of the server is the number of requests whose response has not finished. A request is
open until its response has finished or its connection is closed, so the counter also counts the
requests that were abandoned: whose connection closed first. It is the number of open requests in
every state of a run exactly when no connection of the run closes before its response has finished.
-/

set_option autoImplicit false

namespace Xygo.Analysis

open Xygo.Computation
open Xygo.Model

/-- A request that waits for its response on a connection. -/
def isOpen (r : ServedRequest) : Bool := !r.finished && !r.closed

/-- A request whose connection closed before its response had finished. -/
def isAbandoned (r : ServedRequest) : Bool := !r.finished && r.closed

/-- The number of open requests. -/
def openCount (s : ServerLoad) : Nat := s.requests.countP isOpen

/-- The number of abandoned requests. -/
def abandonedCount (s : ServerLoad) : Nat := s.requests.countP isAbandoned

/-- The counter counts the open requests and the abandoned ones. -/
def Counted (s : ServerLoad) : Prop := s.inFlight = openCount s + abandonedCount s

/-- The counter counts the open requests, and is zero when there is none. -/
structure ExactCount (s : ServerLoad) : Prop where
  count : s.inFlight = openCount s
  idle : openCount s = 0 → s.inFlight = 0

/-- A connection closes only where its response has finished. -/
def ClosesFinished (s : ServerLoad) (event : LoadEvent) : Prop :=
  match event with
  | .closed index =>
    ∀ r, s.crashed = false → s.requests[index]? = some r → r.closed = false → r.finished = true
  | _ => True

/-- What one changed element changes of a count. -/
theorem countP_set_of_getElem? {α : Type} {p : α → Bool} {elements : List α} {i : Nat} {a : α}
    (h : elements[i]? = some a) (b : α) :
    (elements.set i b).countP p + (if p a then 1 else 0) =
      elements.countP p + (if p b then 1 else 0) := by
  obtain ⟨hi, rfl⟩ := List.getElem?_eq_some_iff.mp h
  have hle : (if p elements[i] then 1 else 0) ≤ elements.countP p := by
    split
    · exact List.countP_pos_iff.mpr ⟨_, List.getElem_mem hi, by assumption⟩
    · omega
  rw [List.countP_set hi]
  omega

theorem exactCount_iff {s : ServerLoad} (h : Counted s) : ExactCount s ↔ abandonedCount s = 0 := by
  unfold Counted at h
  constructor
  · intro hexact
    have := hexact.count
    omega
  · intro hnone
    exact ⟨by omega, fun hidle => by omega⟩

section steps

variable {S : ApiServer} {s t : ServerLoad}

/-- The steps of a server, one for each event. -/
theorem serverLoad_step {event : LoadEvent} (h : (serverLoad S).step s event = some t) :
    s.crashed = false ∧ serverLoadStep S s event = some t := by
  unfold serverLoad at h
  dsimp only at h
  split at h
  · cases h
  · rename_i hcrashed
    exact ⟨by simpa using hcrashed, h⟩

/-- What a step changes of the counts. -/
def StepCounts (s t : ServerLoad) : LoadEvent → Prop
  | .started _ _ => openCount t = openCount s + 1 ∧ abandonedCount t = abandonedCount s ∧
      t.inFlight = s.inFlight + 1
  | .stepped _ _ => openCount t = openCount s ∧ abandonedCount t = abandonedCount s ∧
      t.inFlight = s.inFlight
  | .finished index => ∃ r, s.requests[index]? = some r ∧ r.finished = false ∧
      openCount t + (if r.closed then 0 else 1) = openCount s ∧
      abandonedCount t + (if r.closed then 1 else 0) = abandonedCount s ∧
      t.inFlight = s.inFlight - 1
  | .closed index => ∃ r, s.requests[index]? = some r ∧ r.closed = false ∧
      openCount t + (if r.finished then 0 else 1) = openCount s ∧
      abandonedCount t = abandonedCount s + (if r.finished then 0 else 1) ∧
      t.inFlight = s.inFlight

theorem stepCounts_of_step {event : LoadEvent} (h : serverLoadStep S s event = some t) :
    StepCounts s t event := by
  cases event with
  | started moment request =>
    cases h
    simp [StepCounts, openCount, abandonedCount, isOpen, isAbandoned]
  | stepped index event =>
    obtain ⟨r, hr, h⟩ := Option.bind_eq_some_iff.mp h
    obtain ⟨exchange, -, h⟩ := Option.bind_eq_some_iff.mp h
    cases h
    have hopen := countP_set_of_getElem? (p := isOpen) hr { r with exchange := exchange }
    have habandoned := countP_set_of_getElem? (p := isAbandoned) hr { r with exchange := exchange }
    simp only [isOpen, isAbandoned] at hopen habandoned
    refine ⟨?_, ?_, rfl⟩
    · exact Nat.add_right_cancel hopen
    · exact Nat.add_right_cancel habandoned
  | finished index =>
    obtain ⟨r, hr, h⟩ := Option.bind_eq_some_iff.mp h
    split at h
    · rename_i hended
      cases h
      have hfinished : r.finished = false := by simpa using (Bool.and_eq_true_iff.mp hended).2
      have hopen := countP_set_of_getElem? (p := isOpen) hr { r with finished := true }
      have habandoned := countP_set_of_getElem? (p := isAbandoned) hr { r with finished := true }
      refine ⟨r, hr, hfinished, ?_, ?_, rfl⟩
      · cases hclosed : r.closed <;> simp_all [isOpen, openCount]
      · cases hclosed : r.closed <;> simp_all [isAbandoned, abandonedCount]
    · cases h
  | closed index =>
    obtain ⟨r, hr, h⟩ := Option.bind_eq_some_iff.mp h
    split at h
    · cases h
    · rename_i hclosed
      cases h
      have hclosed' : r.closed = false := by simpa using hclosed
      have hopen := countP_set_of_getElem? (p := isOpen) hr { r with closed := true }
      have habandoned := countP_set_of_getElem? (p := isAbandoned) hr { r with closed := true }
      refine ⟨r, hr, hclosed', ?_, ?_, rfl⟩
      · cases hfinished : r.finished <;> simp_all [isOpen, openCount]
      · cases hfinished : r.finished <;> simp_all [isAbandoned, abandonedCount]

/-- Every step keeps what the counter counts. -/
theorem counted_step {event : LoadEvent} (hs : Counted s)
    (h : (serverLoad S).step s event = some t) : Counted t := by
  have hcounts := stepCounts_of_step (serverLoad_step h).2
  unfold Counted at hs ⊢
  cases event with
  | started moment request =>
    obtain ⟨hopen, habandoned, hcounter⟩ := hcounts
    omega
  | stepped index event =>
    obtain ⟨hopen, habandoned, hcounter⟩ := hcounts
    omega
  | finished index =>
    obtain ⟨r, -, -, hopen, habandoned, hcounter⟩ := hcounts
    cases hclosed : r.closed with
    | true =>
      rw [hclosed, if_pos rfl] at hopen habandoned
      omega
    | false =>
      rw [hclosed, if_neg Bool.false_ne_true] at hopen habandoned
      omega
  | closed index =>
    obtain ⟨r, -, -, hopen, habandoned, hcounter⟩ := hcounts
    cases hfinished : r.finished with
    | true =>
      rw [hfinished, if_pos rfl] at hopen habandoned
      omega
    | false =>
      rw [hfinished, if_neg Bool.false_ne_true] at hopen habandoned
      omega

/-- A step from an exact count keeps it exactly when it closes no connection whose response has not
finished. -/
theorem exactCount_step {event : LoadEvent} (hs : Counted s) (hexact : ExactCount s)
    (h : (serverLoad S).step s event = some t) : ExactCount t ↔ ClosesFinished s event := by
  obtain ⟨hcrashed, hstep⟩ := serverLoad_step h
  have hcounts := stepCounts_of_step hstep
  rw [exactCount_iff (counted_step hs h)]
  have hnone := (exactCount_iff hs).mp hexact
  cases event with
  | started moment request =>
    obtain ⟨-, habandoned, -⟩ := hcounts
    exact iff_of_true (habandoned.trans hnone) trivial
  | stepped index event =>
    obtain ⟨-, habandoned, -⟩ := hcounts
    exact iff_of_true (habandoned.trans hnone) trivial
  | finished index =>
    obtain ⟨r, -, -, -, habandoned, -⟩ := hcounts
    refine iff_of_true ?_ trivial
    split at habandoned <;> omega
  | closed index =>
    obtain ⟨r, hr, hclosed, -, habandoned, -⟩ := hcounts
    rw [habandoned, hnone]
    constructor
    · intro hzero own _ hown _
      obtain rfl := Option.some.inj (hr.symm.trans hown)
      by_contra hfinished
      rw [if_neg hfinished] at hzero
      omega
    · intro hguard
      rw [if_pos (hguard r hcrashed hr hclosed)]

/-- A connection that cannot close now asks for nothing. -/
theorem closesFinished_of_none {event : LoadEvent} (h : (serverLoad S).step s event = none) :
    ClosesFinished s event := by
  cases event with
  | closed index =>
    intro r hcrashed hr hclosed
    simp [serverLoad, serverLoadStep, hcrashed, hr, hclosed] at h
  | started moment request => trivial
  | stepped index event => trivial
  | finished index => trivial

/-- In every run the counter counts the open requests and the abandoned ones. -/
theorem counted_run {events : List LoadEvent} (h : (serverLoad S).run {} events = some s) :
    Counted s :=
  (serverLoad S).invariant (fun _ _ _ hs hstep => counted_step hs hstep)
    (by simp [Counted, openCount, abandonedCount]) h

/-- A response that was not ended when everything awaited had come, as that of an event stream. -/
structure Unended (index : Nat) (exchange : Exchange) (s : ServerLoad) : Prop where
  served : ∃ r, s.requests[index]? = some r ∧ r.exchange = exchange ∧ r.finished = false
  settled : exchange.phase.settled = true
  ended : exchange.response.ended = false

/-- Such a response never finishes. -/
theorem unended_step {index : Nat} {exchange : Exchange} {event : LoadEvent}
    (hs : Unended index exchange s) (h : (serverLoad S).step s event = some t) :
    Unended index exchange t := by
  obtain ⟨⟨r, hr, hexchange, hfinished⟩, hsettled, hended⟩ := hs
  obtain ⟨-, hstep⟩ := serverLoad_step h
  refine ⟨?_, hsettled, hended⟩
  have hindex : index < s.requests.length := (List.getElem?_eq_some_iff.mp hr).1
  -- A change at another index leaves the request, one at its own leaves the exchange unfinished.
  have hother : ∀ (j : Nat) (b : ServedRequest), (j = index → b.exchange = exchange ∧
      b.finished = false) → ∃ r, (s.requests.set j b)[index]? = some r ∧ r.exchange = exchange ∧
        r.finished = false := by
    intro j b hb
    by_cases hj : j = index
    · subst hj
      exact ⟨b, by simp [hindex], hb rfl⟩
    · exact ⟨r, by rw [List.getElem?_set_ne hj]; exact hr, hexchange, hfinished⟩
  cases event with
  | started moment request =>
    cases hstep
    exact ⟨r, by rw [List.getElem?_append_left hindex]; exact hr, hexchange, hfinished⟩
  | stepped j event =>
    obtain ⟨own, hown, hstep⟩ := Option.bind_eq_some_iff.mp hstep
    obtain ⟨next, hnext, hstep⟩ := Option.bind_eq_some_iff.mp hstep
    cases hstep
    refine hother j _ fun hj => ?_
    subst hj
    obtain rfl := Option.some.inj (hr.symm.trans hown)
    rw [hexchange, step_of_settled hsettled] at hnext
    cases hnext
  | finished j =>
    obtain ⟨own, hown, hstep⟩ := Option.bind_eq_some_iff.mp hstep
    split at hstep
    · rename_i hfinishes
      cases hstep
      refine hother j _ fun hj => ?_
      subst hj
      obtain rfl := Option.some.inj (hr.symm.trans hown)
      rw [hexchange, hended] at hfinishes
      cases hfinishes
    · cases hstep
  | closed j =>
    obtain ⟨own, hown, hstep⟩ := Option.bind_eq_some_iff.mp hstep
    split at hstep
    · cases hstep
    · cases hstep
      refine hother j _ fun hj => ?_
      subst hj
      obtain rfl := Option.some.inj (hr.symm.trans hown)
      exact ⟨hexchange, hfinished⟩

/-- A closed event stream is an abandoned request for good. -/
theorem unended_run {index : Nat} {exchange : Exchange} {events : List LoadEvent}
    (hs : Unended index exchange s) (h : (serverLoad S).run s events = some t) :
    Unended index exchange t :=
  (serverLoad S).invariant (fun _ _ _ hs hstep => unended_step hs hstep) hs h

end steps

/-- **The counter is the number of open requests, in every state of a run, exactly when no connection
of the run closes before its response has finished.** -/
theorem in_flight_exact_iff (S : ApiServer) (events : List LoadEvent) :
    (∀ before after s, events = before ++ after → (serverLoad S).run {} before = some s →
      ExactCount s) ↔ (serverLoad S).Meets ClosesFinished {} events := by
  have hall : ∀ event ∈ events, (fun _ : LoadEvent => True) event := fun _ _ => trivial
  refine (serverLoad S).throughout_iff_meets (fun s event t hs _ h => counted_step hs h)
    (fun s event t hs hexact _ h => exactCount_step hs hexact h)
    (fun s event h => closesFinished_of_none h) ?_ ?_ hall
  · simp [Counted, openCount, abandonedCount]
  · exact ⟨by simp [openCount], fun _ => rfl⟩

/-- A request for the event stream of a tenant. -/
def streamRequest : DeliveredRequest where
  method := "GET"
  url := some "/v1/tenants/t/events/stream"

/-- A client that asks for an event stream and goes away. -/
def abandonedStream : List LoadEvent := [.started quietMoment streamRequest, .closed 0]

/-- **A client that goes away stays counted.** -/
theorem abandoned_request_counted : ∃ s,
    (serverLoad stagedServer).run {} abandonedStream = some s ∧ openCount s = 0 ∧
      s.inFlight = 1 ∧ ¬ ExactCount s := by
  refine ⟨_, rfl, rfl, rfl, fun h => ?_⟩
  have hzero := h.idle rfl
  cases hzero

end Xygo.Analysis
