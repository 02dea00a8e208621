import Xygo.Analysis.SessionRaces

/-!
# Whether a login transaction is consumed once

A callback reads its transaction when it begins and drops it when it goes on. Two callbacks that
have both read it both go on to the token exchange (`callback_twice`). `callback_once` says that a
consumed transaction is gone for good, so that in the runs in which a callback only goes on with a
transaction that is still stored every other callback is refused.
-/

set_option autoImplicit false

namespace Xygo.Analysis

open Xygo.Computation Xygo.Model Xygo.Computation.Effect

section

variable (M : SessionManager)

/-- The texts `randomBytes` gives do not repeat. -/
def NeverRepeats : Prop := ∀ j k a b, M.random j a = M.random k b → j = k

/-- A text that was drawn. -/
def Drawn (id : String) (s : WebState) : Prop := ∃ k < s.draws, ∃ size, M.random k size = id

/-- Transactions are stored under texts that were drawn. -/
def TransactionsDrawn (s : WebState) : Prop :=
  ∀ id transaction, s.rows.get id = some (.loginTransaction transaction) → Drawn M id s

/-- A transaction that was drawn and is gone. -/
def Consumed (id : String) (s : WebState) : Prop := Drawn M id s ∧ NoTransaction id s

/-- A step with which a callback goes on to the token exchange with a transaction. -/
def Consumes (s : WebFlights) (l : FlightStep) (id : String) : Prop :=
  ∃ n response current transaction query, l = .resume n response current ∧
    s.flights n = some (.callback id transaction query) ∧ query.answers transaction = true

/-- A step of a callback with the cookie of a transaction: it begins, or it goes on. -/
def CallbackOf (s : WebFlights) (l : FlightStep) (id : String) : Prop :=
  (∃ n query cookies clock, l = .begin n (.callback query cookies) clock ∧ s.flights n = none ∧
    M.verifySigned (cookieValue cookies authCookie) = .ok (some id)) ∨
  ∃ n response current transaction query, l = .resume n response current ∧
    s.flights n = some (.callback id transaction query)

/-- **A transaction is consumed once along a run**: after a callback went on to the token exchange
with it, every other callback with its cookie is answered with 400, and so goes on to none. -/
def ConsumedOnce (start : WebFlights) (ls : List FlightStep) : Prop :=
  ∀ before first middle next after s u id, ls = before ++ first :: (middle ++ next :: after) →
    M.machine.run start before = some s → M.machine.run start (before ++ first :: middle) = some u →
    Consumes s first id → CallbackOf M u next id →
    ∃ v, M.advance u next = some (v, some (.ok SessionManager.refusedCallback))

/-- A callback that goes on to the token exchange does so with a transaction that is stored. -/
def TransactionStored (s : WebFlights) (l : FlightStep) : Prop :=
  ∀ id, Consumes s l id → ∃ transaction, s.web.rows.get id = some (.loginTransaction transaction)

end

section

variable {M : SessionManager} {I : WebState → Prop}

/-- INTERNAL: an invariant that logins keep, and that does not look at user sessions, is kept by
what calls in flight do.
SOURCE: apps/web/src/auth-session.js:91-174 -/
theorem keeps_resume (hI : Fading I)
    (hlogin : ∀ (s : WebState) transaction, I s →
      I { rows := s.rows.set (M.random s.draws 24) (.loginTransaction transaction)
          draws := s.draws + 4 })
    (hsession : ∀ (s : WebState) own session, I s →
      I { s with rows := s.rows.set own (.userSession session) })
    (flight : Flight) (response : TokenResponse) (current : Int) {s : WebState} (hs : I s) :
    I (exec (M.resume flight response current) s).2 := by
  unfold SessionManager.resume
  cases flight with
  | login returnTo =>
    obtain ⟨answer, transaction, hexec, -⟩ := exec_startTransaction (M := M) returnTo current s
    simp only [store_map, hexec]
    exact hlogin s transaction hs
  | callback id transaction query =>
    dsimp only
    split
    · exact hI.filter s _ hs
    · exact hs
  | exchanging id transaction =>
    rw [store_map]
    have hopened := opened M s transaction response current
    generalize exec (M.openSession transaction response current) s = outcome at hopened ⊢
    cases hopened with
    | throws hdrawn => exact hI.drawn s _ hdrawn hs
    | signsIn _ _ _ _ =>
      exact hI.drawn { s with rows := _ } _ (Nat.le_succ s.draws) (hsession s _ _ hs)
  | session id session =>
    rw [store_map, exec_touchSession]
    exact hsession s _ _ hs
  | renew id session =>
    rw [store_map]
    have hrenewed := renewed M s id session response current
    generalize exec (M.renewSession id session response current) s = outcome at hrenewed ⊢
    cases hrenewed with
    | throws => exact hs
    | renews _ _ => exact hsession s _ _ hs

/-- INTERNAL: such an invariant is kept by every step. -/
theorem keeps_step (hI : Fading I)
    (hlogin : ∀ (s : WebState) transaction, I s →
      I { rows := s.rows.set (M.random s.draws 24) (.loginTransaction transaction)
          draws := s.draws + 4 })
    (hsession : ∀ (s : WebState) own session, I s →
      I { s with rows := s.rows.set own (.userSession session) })
    {s t : WebFlights} {l : FlightStep} (hs : I s.web) (h : M.machine.step s l = some t) :
    I t.web := by
  obtain ⟨n, c, clock, -, hweb⟩ | ⟨n, response, current, flight, -, -, hweb⟩ := step_web h
  · rw [hweb]
    exact (hI.begin c clock).store hs
  · rw [hweb]
    exact keeps_resume hI hlogin hsession flight response current hs

/-- INTERNAL: what was drawn stays drawn. -/
theorem Drawn.mono {id : String} {s t : WebState} (h : Drawn M id s) (hle : s.draws ≤ t.draws) :
    Drawn M id t := by
  obtain ⟨k, hk, hsize⟩ := h
  exact ⟨k, by omega, hsize⟩

theorem fading_transactionsDrawn : Fading (TransactionsDrawn M) where
  filter s test hs id transaction hget := by
    rw [OrderedMap.get_filter] at hget
    exact hs id transaction (Option.filter_eq_some_iff.mp hget).1
  drawn s draws hle hs id transaction hget := (hs id transaction hget).mono hle

/-- INTERNAL: transactions are stored under texts that were drawn, whatever happens. -/
theorem transactionsDrawn_step {s t : WebFlights} {l : FlightStep}
    (hs : TransactionsDrawn M s.web) (h : M.machine.step s l = some t) :
    TransactionsDrawn M t.web := by
  apply keeps_step fading_transactionsDrawn _ _ hs h
  · intro s transaction hs id other hget
    rw [OrderedMap.get_set] at hget
    split at hget
    · rename_i hid
      exact ⟨s.draws, by simp, 24, hid.symm⟩
    · exact (hs id other hget).mono (by simp)
  · intro s own session hs id other hget
    rw [OrderedMap.get_set] at hget
    split at hget
    · cases hget
    · exact hs id other hget

theorem fading_consumed (id : String) : Fading (Consumed M id) where
  filter _ test hs := ⟨hs.1, fun transaction => get_filter_ne test (hs.2 transaction)⟩
  drawn _ _ hle hs := ⟨hs.1.mono hle, hs.2⟩

/-- **A consumed transaction stays consumed**, whatever happens: a login stores its transaction
under a text that was not drawn before. -/
theorem consumed_step (hfresh : NeverRepeats M) {id : String} {s t : WebFlights} {l : FlightStep}
    (hs : Consumed M id s.web) (h : M.machine.step s l = some t) : Consumed M id t.web := by
  apply keeps_step (fading_consumed id) _ _ hs h
  · rintro s transaction ⟨⟨k, hk, size, hdrawn⟩, hgone⟩
    refine ⟨⟨k, by dsimp only; omega, size, hdrawn⟩, ?_⟩
    intro other hget
    rw [OrderedMap.get_set] at hget
    split at hget
    · rename_i hid
      have hsame := hfresh k s.draws size 24 (hdrawn.trans hid)
      omega
    · exact hgone other hget
  · intro s own session hs
    refine ⟨hs.1, ?_⟩
    intro other hget
    rw [OrderedMap.get_set] at hget
    split at hget
    · cases hget
    · exact hs.2 other hget

/-- INTERNAL: a callback that goes on to the token exchange consumes its transaction.
SOURCE: apps/web/src/auth-session.js:122 -/
theorem consumed_of_consumes {id : String} {s t : WebFlights} {l : FlightStep}
    (hs : TransactionsDrawn M s.web) (hstored : TransactionStored s l) (hl : Consumes s l id)
    (h : M.machine.step s l = some t) : Consumed M id t.web := by
  obtain ⟨transaction, hget⟩ := hstored id hl
  have hdrawn := hs id transaction hget
  obtain ⟨n, response, current, own, query, rfl, hflight, hanswers⟩ := hl
  obtain ⟨n', c, clock, hl, -⟩ | ⟨n', response', current', flight, hl, hflight', hweb⟩ := step_web h
  · cases hl
  · cases hl
    obtain rfl := Option.some.inj (hflight.symm.trans hflight')
    rw [hweb]
    unfold SessionManager.resume
    simp only [hanswers]
    refine ⟨hdrawn, ?_⟩
    intro other hget'
    have hnone : (s.web.rows.erase id).get id = some (.loginTransaction other) := hget'
    simp at hnone

/-- INTERNAL: a callback with the cookie of a transaction that is gone is refused.
SOURCE: apps/web/src/auth-session.js:115-121 -/
theorem refused_of_gone {id : String} {s : WebFlights} {l : FlightStep}
    (hgone : NoTransaction id s.web) (hstored : TransactionStored s l) (hl : CallbackOf M s l id) :
    ∃ v, M.advance s l = some (v, some (.ok SessionManager.refusedCallback)) := by
  obtain ⟨n, query, cookies, clock, rfl, hflight, hcookie⟩ |
    ⟨n, response, current, transaction, query, rfl, hflight⟩ := hl
  · obtain ⟨web, hread⟩ := readTransaction_none hcookie hgone clock
    have hbegin : exec (M.begin (.callback query cookies) clock) s.web =
        (.ok (.inl SessionManager.refusedCallback), web) := by
      simp only [SessionManager.begin, exec_bind, hread]
      rfl
    exact ⟨_, by simp only [SessionManager.advance, hflight, hbegin]; rfl⟩
  · have hrefused : query.answers transaction = false := by
      rw [← Bool.not_eq_true]
      intro hanswers
      obtain ⟨other, hget⟩ :=
        hstored id ⟨n, response, current, transaction, query, rfl, hflight, hanswers⟩
      exact hgone other hget
    have hresume : exec (M.resume (.callback id transaction query) response current) s.web =
        (.ok (.inl SessionManager.refusedCallback), s.web) := by
      simp only [SessionManager.resume, hrefused]
      rfl
    exact ⟨_, by simp only [SessionManager.advance, hflight, hresume]; rfl⟩

/-- **Each login transaction is consumed once, in every run in which a callback goes on to the
token exchange only with a transaction that is still stored.**
SOURCE: apps/web/src/auth-session.js:114-151; docs/operations/authenticated-web-login-runbook.md:61-62 -/
theorem callback_once (hfresh : NeverRepeats M) {start : WebFlights} {ls : List FlightStep}
    (hstart : start.web.rows = .empty) (hguard : M.machine.Meets TransactionStored start ls) :
    ConsumedOnce M start ls := by
  rintro before first middle next after s u id rfl hs hu hconsumes hnext
  have heach := M.machine.meets_iff_each.mp hguard
  have hfirst : TransactionStored s first := heach before first _ s rfl hs
  have hlast : TransactionStored u next := by
    apply heach (before ++ first :: middle) next after u _ hu
    simp
  have hdrawn : TransactionsDrawn M s.web := by
    apply M.machine.invariant (fun s l t hs hstep => transactionsDrawn_step hs hstep) _ hs
    intro id transaction hget
    rw [hstart] at hget
    cases hget
  rw [M.machine.run_append, hs] at hu
  have hu : M.machine.run s (first :: middle) = some u := hu
  obtain ⟨t, hstep, hrest⟩ := Option.bind_eq_some_iff.mp hu
  have hconsumed : Consumed M id u.web :=
    M.machine.invariant (I := fun s => Consumed M id s.web)
      (fun s l t hs hstep => consumed_step hfresh hs hstep)
      (consumed_of_consumes hdrawn hfirst hconsumes hstep) hrest
  exact refused_of_gone hconsumed.2 hlast hnext

end

/-- A login, and two callbacks of it that begin before either goes on. -/
def twoCallbacks : List FlightStep := [
  .begin 0 (.login "/control-room") (standing 1000), .resume 0 granted 1000,
  .begin 1 (.callback firstQuery transactionCookie) (standing 2000),
  .begin 2 (.callback firstQuery transactionCookie) (standing 2000), .resume 1 granted 2000]

theorem countingSessions_fresh : NeverRepeats countingSessions := by
  intro j k a b h
  have hlength := congrArg (fun text : String => text.toList.length) h
  simpa [countingSessions] using hlength

/-- Whether the transaction of a callback that goes on is stored. -/
def transactionStored (s : WebFlights) : FlightStep → Bool
  | .begin _ _ _ => true
  | .resume n _ _ =>
    match s.flights n with
    | some (.callback id _ _) =>
      match s.web.rows.get id with
      | some (.loginTransaction _) => true
      | _ => false
    | _ => true

theorem transactionStored_sound (s : WebFlights) (l : FlightStep)
    (h : transactionStored s l = true) : TransactionStored s l := by
  rintro id ⟨n, response, current, transaction, query, rfl, hflight, -⟩
  unfold transactionStored at h
  simp only [hflight] at h
  split at h
  · exact ⟨_, by assumption⟩
  · cases h

/-- A callback that is sent again after its session was opened is refused. -/
theorem callback_once_replayed :
    ∃ u v, countingSessions.machine.run { web := {} } signIn = some u ∧
      countingSessions.advance u (.begin 1 (.callback firstQuery transactionCookie)
        (standing 3000)) = some (v, some (.ok SessionManager.refusedCallback)) := by
  have hrun : ((countingSessions.machine.run { web := {} } (signIn.take 3)).bind fun s =>
      (countingSessions.machine.run { web := {} } signIn).bind fun u =>
        if (u.flights 1).isNone then
          match s.flights 0 with
          | some (.callback id transaction query) => some (id, query.answers transaction)
          | _ => none
        else none) = some ("i", true) := by
    decide +kernel
  obtain ⟨s, hs, hrun⟩ := Option.bind_eq_some_iff.mp hrun
  obtain ⟨u, hu, hrun⟩ := Option.bind_eq_some_iff.mp hrun
  split at hrun
  · rename_i hnone
    split at hrun
    · rename_i id transaction query hflight
      obtain ⟨rfl, hanswers⟩ := Prod.mk.inj (Option.some.inj hrun)
      have hguard : countingSessions.machine.Meets TransactionStored { web := {} }
          (signIn ++ [.begin 1 (.callback firstQuery transactionCookie) (standing 3000)]) :=
        countingSessions.machine.meets_of_check transactionStored_sound _ _ (by decide +kernel)
      have hrefused := callback_once countingSessions_fresh rfl hguard (signIn.take 3)
        (.resume 0 granted 2000) [.resume 0 granted 2000]
        (.begin 1 (.callback firstQuery transactionCookie) (standing 3000)) [] s u "i" rfl hs hu
        ⟨0, granted, 2000, transaction, query, rfl, hflight, hanswers⟩
        (Or.inl ⟨1, firstQuery, transactionCookie, standing 3000, rfl,
          Option.isNone_iff_eq_none.mp hnone, by decide +kernel⟩)
      obtain ⟨v, hv⟩ := hrefused
      exact ⟨u, v, hu, hv⟩
    · cases hrun
  · cases hrun

/-- What two callbacks in flight have read: the ids of their transactions, whether the first one's
query answers its transaction, and whether the second one goes on. -/
def bothRead (first second : Option Flight) (goes : Bool) : Option (String × String × Bool × Bool) :=
  match first, second with
  | some (.callback id transaction query), some (.callback other _ _) =>
    some (id, other, query.answers transaction, goes)
  | _, _ => none

/-- **Two callbacks of one login that overlap both go on to the token exchange**: both have read
the transaction before either drops it.
SOURCE: apps/web/src/auth-session.js:116-122 -/
theorem callback_twice :
    ¬ ∀ (M : SessionManager) (start : WebFlights) (ls : List FlightStep), NeverRepeats M →
      start.web.rows = .empty → ConsumedOnce M start ls := by
  intro hall
  have hrun : ((countingSessions.machine.run { web := {} } (twoCallbacks.take 4)).bind fun s =>
      (countingSessions.machine.run { web := {} } twoCallbacks).bind fun u =>
        (countingSessions.advance u (.resume 2 granted 2000)).bind fun v =>
          bothRead (s.flights 1) (u.flights 2) v.2.isNone) = some ("i", "i", true, true) := by
    decide +kernel
  obtain ⟨s, hs, hrun⟩ := Option.bind_eq_some_iff.mp hrun
  obtain ⟨u, hu, hrun⟩ := Option.bind_eq_some_iff.mp hrun
  obtain ⟨⟨v, answer⟩, hv, hrun⟩ := Option.bind_eq_some_iff.mp hrun
  unfold bothRead at hrun
  split at hrun
  · rename_i id transaction query other own again hfirst hsecond
    simp only [Option.some.injEq, Prod.mk.injEq] at hrun
    obtain ⟨rfl, rfl, hanswers, hgoes⟩ := hrun
    obtain ⟨w, hw⟩ := hall countingSessions { web := {} }
      (twoCallbacks ++ [.resume 2 granted 2000]) countingSessions_fresh rfl (twoCallbacks.take 4)
      (.resume 1 granted 2000) [] (.resume 2 granted 2000) [] s u "i" rfl hs hu
      ⟨1, granted, 2000, transaction, query, rfl, hfirst, hanswers⟩
      (Or.inr ⟨2, granted, 2000, own, again, rfl, hsecond⟩)
    obtain ⟨rfl, rfl⟩ := Prod.mk.inj (Option.some.inj (hv.symm.trans hw))
    cases hgoes
  · cases hrun

end Xygo.Analysis
