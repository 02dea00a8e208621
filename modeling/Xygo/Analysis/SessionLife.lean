import Xygo.Analysis.CallbackOnce
import Xygo.Computation.TwoRuns

/-!
# The life of a session whose calls do not overlap

`fate` says what one call makes of the record of any id: it is left, dropped, stored under a text
the call drew, or stored again with a later idle expiry. The bounds on the expiries of a session
and the separation of the two kinds of record follow for whole runs.
-/

set_option autoImplicit false

namespace Xygo.Analysis

open Xygo.Computation Xygo.Model Xygo.Computation.Effect

section

variable (M : SessionManager)

/-- The readings of a call are between two times. -/
structure Within (clock : Readings) (start finish : Int) : Prop where
  sweepIdle : ∀ id, start ≤ (clock.sweep id).1 ∧ (clock.sweep id).1 ≤ finish
  sweepAbsolute : ∀ id, start ≤ (clock.sweep id).2 ∧ (clock.sweep id).2 ≤ finish
  idle : start ≤ clock.idle ∧ clock.idle ≤ finish
  absolute : start ≤ clock.absolute ∧ clock.absolute ≤ finish
  current : start ≤ clock.current ∧ clock.current ≤ finish

/-- A call on a clock that does not go back, on dates a day from the last one at most. -/
structure Steady (c : TimedCall) : Prop where
  readings : Within c.clock c.start c.finish
  starts : isValidTime c.start = true
  finishes : isValidTime (c.finish + 86400000) = true

/-- Calls that do not overlap, on a clock that does not go back. -/
def InOrder (calls : List TimedCall) : Prop :=
  calls.Pairwise (fun c d => c.finish ≤ d.start) ∧ ∀ c ∈ calls, Steady c

/-- A call that asks who is signed in, with the handle of an id. -/
def Presents (c : TimedCall) (id : String) : Prop :=
  ∃ cookies, Asks c.call cookies ∧
    M.verifySigned (cookieValue cookies M.cookieName) = .ok (some id)

/-- A session or renew call, with the handle of an id. -/
def Refreshes (c : TimedCall) (id : String) : Prop :=
  ∃ cookies, (c.call = .session cookies ∨ c.call = .renew cookies) ∧
    M.verifySigned (cookieValue cookies M.cookieName) = .ok (some id)

/-- An answer that treats the caller as signed in. -/
def Accepts (answer : Except JsError AuthAnswer) : Prop :=
  ∃ a, answer = .ok a ∧ a.isAuthenticated = true

/-- A session whose access token has an expiry that is a date. -/
def Dated (session : UserSession) : Prop := ∃ t, isoOfTime session.accessTokenExpiresAt = .ok t

/-- What a call makes of the record of an id. -/
inductive Fate (c : TimedCall) (s u : WebState) (answer : Except JsError AuthAnswer)
    (id : String) : Prop
  | same (stored : u.rows.get id = s.rows.get id)
  | gone (stored : u.rows.get id = none)
  | began {k : Nat} {transaction : LoginTransaction} (fresh : s.draws ≤ k) (drawn : k < u.draws)
      (named : M.random k 24 = id)
      (stored : u.rows.get id = some (.loginTransaction transaction))
  | opened {k : Nat} {session : UserSession} (fresh : s.draws ≤ k) (drawn : k < u.draws)
      (named : M.random k 32 = id) (stored : u.rows.get id = some (.userSession session))
      (created : session.createdAt = c.clock.current)
      (idle : session.idleExpiresAt = c.clock.current + M.idleTtlMs)
      (absolute : session.absoluteExpiresAt = c.clock.current + M.absoluteTtlMs)
      (dated : Dated session)
  | refreshed {before session : UserSession} (refreshes : Refreshes M c id)
      (found : s.rows.get id = some (.userSession before))
      (stored : u.rows.get id = some (.userSession session))
      (created : session.createdAt = before.createdAt)
      (absolute : session.absoluteExpiresAt = before.absoluteExpiresAt)
      (idle : session.idleExpiresAt =
        min (c.clock.current + M.idleTtlMs) before.absoluteExpiresAt)
      (accepted : Dated before → Dated session ∧ Accepts answer)

end

section

variable {M : SessionManager}

/-- INTERNAL: the expiry of an access token is a date, on a clock a day from the last one.
SOURCE: apps/web/src/auth-session.js:49-58 -/
theorem tokenExpiry_dated {payload : Json} {current : Int} {expiry : Rat}
    (h : M.tokenExpiry payload current = .ok expiry) (hstart : -maxTime ≤ current)
    (hfinish : current + 86400000 ≤ maxTime) : ∃ t, isoOfTime expiry = .ok t := by
  unfold SessionManager.tokenExpiry at h
  split at h
  · rename_i expiresIn _
    dsimp only at h
    split at h
    · cases h
    · rename_i hrange
      obtain ⟨tokenType, -, h⟩ := bind_eq_ok.mp h
      split at h
      · cases h
      · obtain rfl := Except.ok.inj h
        rw [not_or, not_lt, not_lt] at hrange
        have hlow : (1 : Rat) ≤ max 1 (expiresIn - M.tokenClockToleranceSec) := le_max_left _ _
        have hhigh : max 1 (expiresIn - (M.tokenClockToleranceSec : Rat)) ≤ 86400 := by
          apply max_le (by norm_num)
          have htolerance : (0 : Rat) ≤ M.tokenClockToleranceSec := Nat.cast_nonneg _
          linarith [hrange.2]
        have hstart' : -(maxTime : Rat) ≤ current := by exact_mod_cast hstart
        have hfinish' : (current : Rat) + 86400000 ≤ maxTime := by exact_mod_cast hfinish
        refine ⟨_, if_pos ⟨?_, ?_⟩⟩
        · linarith
        · linarith
  · cases h

/-- INTERNAL: the same for the readings of a call. -/
theorem Steady.dated {c : TimedCall} (hc : Steady c) {payload : Json} {expiry : Rat}
    (h : M.tokenExpiry payload c.clock.current = .ok expiry) : ∃ t, isoOfTime expiry = .ok t := by
  have hstarts := hc.starts
  have hfinishes := hc.finishes
  have hcurrent := hc.readings.current
  simp only [isValidTime, Bool.and_eq_true, decide_eq_true_eq] at hstarts hfinishes
  apply tokenExpiry_dated h
  · omega
  · omega

/-! ### What one call does -/

/-- What reading a record leaves: the store, without the record if it was over. -/
def Dropped (s : WebState) (clock : Readings) (u : WebState) : Prop :=
  u = s ∨ ∃ id record, s.rows.get id = some record ∧
    SessionStore.isOver record clock.idle clock.absolute = true ∧
    u = { s with rows := s.rows.erase id }

/-- INTERNAL: the three ends of `readSession`.
SOURCE: apps/web/src/auth-session.js:70-74 -/
theorem readSession_cases (M : SessionManager) (cookies : Option String) (clock : Readings)
    (s : WebState) :
    (∃ error, exec (M.readSession cookies clock) s = (.error error, s)) ∨
      (∃ u, exec (M.readSession cookies clock) s = (.ok none, u) ∧ Dropped s clock u) ∨
      ∃ id session, M.verifySigned (cookieValue cookies M.cookieName) = .ok (some id) ∧
        s.rows.get id = some (.userSession session) ∧
        SessionStore.isOver (.userSession session) clock.idle clock.absolute = false ∧
        exec (M.readSession cookies clock) s = (.ok (some (id, session)), s) := by
  rw [exec_readSession]
  have hlooked := looked M s cookies M.cookieName clock
  generalize exec (M.lookup cookies M.cookieName clock) s = outcome at hlooked ⊢
  cases hlooked with
  | throws _ => exact Or.inl ⟨_, rfl⟩
  | unsigned _ => exact Or.inr (Or.inl ⟨s, rfl, Or.inl rfl⟩)
  | absent _ _ => exact Or.inr (Or.inl ⟨s, rfl, Or.inl rfl⟩)
  | expired _ stored isOver =>
    exact Or.inr (Or.inl ⟨_, rfl, Or.inr ⟨_, _, stored, isOver, rfl⟩⟩)
  | @found id record verified stored isOver =>
    cases record with
    | loginTransaction transaction => exact Or.inr (Or.inl ⟨s, rfl, Or.inl rfl⟩)
    | userSession session => exact Or.inr (Or.inr ⟨id, session, verified, stored, isOver, rfl⟩)

/-- INTERNAL: the three ends of the reading of a transaction.
SOURCE: apps/web/src/auth-session.js:115-117 -/
theorem readTransaction_cases (M : SessionManager) (cookies : Option String) (clock : Readings)
    (s : WebState) :
    (∃ error, exec (M.readTransaction cookies clock) s = (.error error, s)) ∨
      (∃ u, exec (M.readTransaction cookies clock) s = (.ok none, u) ∧ Dropped s clock u) ∨
      ∃ id transaction,
        exec (M.readTransaction cookies clock) s = (.ok (some (id, transaction)), s) := by
  rw [exec_readTransaction]
  have hlooked := looked M s cookies authCookie clock
  generalize exec (M.lookup cookies authCookie clock) s = outcome at hlooked ⊢
  cases hlooked with
  | throws _ => exact Or.inl ⟨_, rfl⟩
  | unsigned _ => exact Or.inr (Or.inl ⟨s, rfl, Or.inl rfl⟩)
  | absent _ _ => exact Or.inr (Or.inl ⟨s, rfl, Or.inl rfl⟩)
  | expired _ stored isOver =>
    exact Or.inr (Or.inl ⟨_, rfl, Or.inr ⟨_, _, stored, isOver, rfl⟩⟩)
  | @found id record verified stored isOver =>
    cases record with
    | loginTransaction transaction => exact Or.inr (Or.inr ⟨id, transaction, rfl⟩)
    | userSession session => exact Or.inr (Or.inl ⟨s, rfl, Or.inl rfl⟩)

variable {c : TimedCall} {s u : WebState} {answer : Except JsError AuthAnswer} {id : String}

theorem fate_dropped (h : Dropped s c.clock u) : Fate M c s u answer id := by
  obtain rfl | ⟨other, record, -, -, rfl⟩ := h
  · exact .same rfl
  · by_cases hid : id = other
    · exact .gone (by simp [hid])
    · exact .same (by simp [hid])

/-- INTERNAL: what a session call makes of a record.
SOURCE: apps/web/src/auth-session.js:152-159 -/
theorem fate_session {cookies : Option String} (hc : c.call = .session cookies) (s : WebState)
    (id : String) :
    Fate M c s (exec (M.session cookies c.clock) s).2 (exec (M.session cookies c.clock) s).1 id := by
  unfold SessionManager.session
  rw [exec_bind]
  obtain ⟨error, hread⟩ | ⟨u, hread, hdropped⟩ | ⟨own, session, hverified, hstored, -, hread⟩ :=
    readSession_cases M cookies c.clock s
  · rw [hread]
    exact .same rfl
  · rw [hread]
    exact fate_dropped hdropped
  · rw [hread]
    dsimp only
    rw [exec_touchSession]
    by_cases hid : id = own
    · subst hid
      refine .refreshed ⟨cookies, Or.inl hc, hverified⟩ hstored
        ((OrderedMap.get_set _ _ _ _).trans (if_pos rfl)) rfl rfl rfl ?_
      rintro ⟨t, ht⟩
      exact ⟨⟨t, ht⟩, _, by rw [ht]; rfl, rfl⟩
    · exact .same (by simp [hid])

/-- INTERNAL: what a renewal makes of a record.
SOURCE: apps/web/src/auth-session.js:160-175 -/
theorem fate_renew (hsteady : Steady c) {cookies : Option String} (hc : c.call = .renew cookies)
    (s : WebState) (id : String) :
    Fate M c s (exec (M.renew cookies c.response c.clock) s).2
      (exec (M.renew cookies c.response c.clock) s).1 id := by
  unfold SessionManager.renew
  rw [exec_bind]
  obtain ⟨error, hread⟩ | ⟨u, hread, hdropped⟩ | ⟨own, session, hverified, hstored, -, hread⟩ :=
    readSession_cases M cookies c.clock s
  · rw [hread]
    exact .same rfl
  · rw [hread]
    exact fate_dropped hdropped
  · rw [hread]
    dsimp only
    split
    · have hrenewed := renewed M s own session c.response c.clock.current
      generalize exec (M.renewSession own session c.response c.clock.current) s = outcome at hrenewed ⊢
      cases hrenewed with
      | throws => exact .same rfl
      | renews _ hexpires =>
        by_cases hid : id = own
        · subst hid
          obtain ⟨t, ht⟩ := hsteady.dated hexpires
          refine .refreshed ⟨cookies, Or.inr hc, hverified⟩ hstored
            ((OrderedMap.get_set _ _ _ _).trans (if_pos rfl)) rfl rfl rfl ?_
          intro _
          exact ⟨⟨t, ht⟩, _, by dsimp only; rw [ht]; rfl, rfl⟩
        · exact .same (by simp [hid])
    · exact .same rfl

/-- INTERNAL: what a login makes of a record.
SOURCE: apps/web/src/auth-session.js:89-113 -/
theorem fate_login (returnTo : String) (s : WebState) (id : String) :
    Fate M c s (exec (M.beginLogin returnTo c.clock) s).2
      (exec (M.beginLogin returnTo c.clock) s).1 id := by
  unfold SessionManager.beginLogin
  rw [exec_bind]
  have hsweep : ∃ n test, exec (SessionStore.cleanup c.clock) s =
      (.ok n, { s with rows := s.rows.filter test }) := ⟨_, _, rfl⟩
  obtain ⟨n, test, hsweep⟩ := hsweep
  rw [hsweep]
  dsimp only
  obtain ⟨answer, transaction, hexec, -⟩ := exec_startTransaction (M := M) returnTo c.clock.current
    { s with rows := s.rows.filter test }
  rw [hexec]
  dsimp only
  by_cases hid : id = M.random s.draws 24
  · exact .began le_rfl (by simp) hid.symm
      ((OrderedMap.get_set _ _ _ _).trans (if_pos hid))
  · rcases hstored : s.rows.get id with _ | record
    · exact .gone (by simp [hid, hstored])
    · by_cases htest : test id record = true
      · exact .same (by simp [hid, hstored, htest])
      · exact .gone (by simp [hid, hstored, htest])

/-- INTERNAL: what a callback makes of a record.
SOURCE: apps/web/src/auth-session.js:114-151 -/
theorem fate_callback (hsteady : Steady c) (query : CallbackQuery) (cookies : Option String)
    (s : WebState) (id : String) :
    Fate M c s (exec (M.completeCallback query cookies c.response c.clock) s).2
      (exec (M.completeCallback query cookies c.response c.clock) s).1 id := by
  unfold SessionManager.completeCallback
  rw [exec_bind]
  obtain ⟨error, hread⟩ | ⟨u, hread, hdropped⟩ | ⟨own, transaction, hread⟩ :=
    readTransaction_cases M cookies c.clock s
  · rw [hread]
    exact .same rfl
  · rw [hread]
    exact fate_dropped hdropped
  · rw [hread]
    dsimp only
    split
    · rw [exec_bind]
      have hdelete : exec (SessionStore.delete own) s =
        (.ok (), { s with rows := s.rows.erase own }) := rfl
      rw [hdelete]
      dsimp only
      have hopened := opened M { s with rows := s.rows.erase own } transaction c.response
        c.clock.current
      generalize exec (M.openSession transaction c.response c.clock.current)
        { s with rows := s.rows.erase own } = outcome at hopened ⊢
      cases hopened with
      | throws _ =>
        by_cases hid : id = own
        · exact .gone (by simp [hid])
        · exact .same (by simp [hid])
      | signsIn created idle absolute expires =>
        obtain ⟨payload, expires⟩ := expires
        by_cases hid : id = M.random s.draws 32
        · exact .opened le_rfl (by simp) hid.symm
            ((OrderedMap.get_set _ _ _ _).trans (if_pos hid)) created idle absolute
            (hsteady.dated expires)
        · by_cases hown : id = own
          · exact .gone (by rw [OrderedMap.get_set, if_neg hid]; simp [hown])
          · exact .same (by rw [OrderedMap.get_set, if_neg hid]; simp [hown])
    · exact .same rfl

/-- **What one call makes of the record of an id.**
SOURCE: apps/web/src/auth-session.js:89-194 -/
theorem fate (hsteady : Steady c) (s : WebState) (id : String) :
    Fate M c s (M.object.call c s).2 (M.object.call c s).1 id := by
  rcases hc : c.call with returnTo | ⟨query, cookies⟩ | cookies | cookies | cookies | cookies | _
  all_goals
    simp only [SessionManager.object, SessionManager.call, hc]
  · exact fate_login returnTo s id
  · exact fate_callback hsteady query cookies s id
  · exact fate_session hc s id
  · exact fate_renew hsteady hc s id
  · unfold SessionManager.accessToken
    rw [exec_bind]
    obtain ⟨error, hread⟩ | ⟨u, hread, hdropped⟩ | ⟨own, session, -, -, -, hread⟩ :=
      readSession_cases M cookies c.clock s
    · rw [hread]
      exact .same rfl
    · rw [hread]
      exact fate_dropped hdropped
    · rw [hread]
      exact .same rfl
  · unfold SessionManager.logout
    simp only [exec_bind, exec_lift]
    rcases M.verifySigned (cookieValue cookies M.cookieName) with error | found
    · exact .same rfl
    · cases found with
      | none =>
        simp only [SessionStore.deleteFound, exec_pure]
        rcases M.redirectTo M.endSessionEndpoint _ with error | target <;> exact .same rfl
      | some own =>
        have hdelete : exec (SessionStore.delete own) s =
          (.ok (), { s with rows := s.rows.erase own }) := rfl
        simp only [SessionStore.deleteFound, hdelete]
        by_cases hid : id = own
        · rcases M.redirectTo M.endSessionEndpoint _ with error | target <;>
            exact .gone (by simp [hid])
        · rcases M.redirectTo M.endSessionEndpoint _ with error | target <;>
            exact .same (by simp [hid])
  · rw [store_map]
    show Fate M c s { s with rows := s.rows.filter _ } _ id
    rcases hstored : s.rows.get id with _ | record
    · exact .gone (by simp [hstored])
    · by_cases hover : SessionStore.isOver record (c.clock.sweep id).1 (c.clock.sweep id).2 = true
      · exact .gone (by simp [hstored, hover])
      · exact .same (by simp [hstored, hover])

/-- **A call that no other call overlaps is its steps, one after the other.**
SOURCE: apps/web/src/auth-session.js:89-194 -/
theorem call_steps (M : SessionManager) (c : AuthCall) (response : TokenResponse)
    (clock : Readings) (s : WebState) :
    exec (Sum.inl <$> M.call c response clock) s =
      exec (M.begin c clock >>= M.follow response clock.current 2) s := by
  rw [exec_map, exec_bind]
  cases c with
  | login returnTo =>
    have hsweep : ∃ n u, exec (SessionStore.cleanup clock) s = (.ok n, u) := ⟨_, _, rfl⟩
    obtain ⟨n, u, hsweep⟩ := hsweep
    simp only [SessionManager.call, SessionManager.beginLogin, SessionManager.begin, exec_bind,
      hsweep, exec_pure, SessionManager.follow, SessionManager.resume, exec_map]
    rcases exec (M.startTransaction returnTo clock.current) u with ⟨_ | answer, v⟩ <;> rfl
  | callback query cookies =>
    simp only [SessionManager.call, SessionManager.completeCallback, SessionManager.begin,
      exec_bind]
    rcases exec (M.readTransaction cookies clock) s with ⟨_ | _ | ⟨id, transaction⟩, u⟩
    · rfl
    · rfl
    · simp only [exec_pure, SessionManager.follow, SessionManager.resume, exec_bind]
      by_cases hanswers : query.answers transaction = true
      · have hdelete : exec (SessionStore.delete id) u =
          (.ok (), { u with rows := u.rows.erase id }) := rfl
        simp only [hanswers, if_true, exec_bind, hdelete, exec_pure, SessionManager.follow,
          SessionManager.resume, exec_map]
        rcases exec (M.openSession transaction response clock.current) _ with ⟨_ | answer, v⟩ <;>
          rfl
      · simp only [hanswers]
        rfl
  | session cookies =>
    simp only [SessionManager.call, SessionManager.session, SessionManager.begin, exec_bind]
    rcases exec (M.readSession cookies clock) s with ⟨_ | _ | ⟨id, session⟩, u⟩
    · rfl
    · rfl
    · simp only [exec_pure, SessionManager.follow, SessionManager.resume, exec_bind, exec_map]
      rcases exec (M.touchSession id session clock.current) u with ⟨_ | answer, v⟩ <;> rfl
  | renew cookies =>
    simp only [SessionManager.call, SessionManager.renew, SessionManager.begin, exec_bind]
    rcases exec (M.readSession cookies clock) s with ⟨_ | _ | ⟨id, session⟩, u⟩
    · rfl
    · rfl
    · by_cases htoken : session.refreshToken.truthy = true
      · simp only [htoken, if_true, exec_pure, SessionManager.follow, SessionManager.resume,
          exec_bind, exec_map]
        rcases exec (M.renewSession id session response clock.current) u with ⟨_ | answer, v⟩ <;>
          rfl
      · simp only [htoken]
        rfl
  | accessToken cookies =>
    simp only [SessionManager.call, SessionManager.begin, exec_map]
    rcases exec (M.accessToken cookies clock) s with ⟨_ | answer, u⟩ <;> rfl
  | logout cookies =>
    simp only [SessionManager.call, SessionManager.begin, exec_map]
    rcases exec (M.logout cookies) s with ⟨_ | answer, u⟩ <;> rfl
  | cleanup => rfl

/-- INTERNAL: an invariant that calls keep part by part is kept by whole calls. -/
theorem keeps_call {I : WebState → Prop} (hI : Fading I)
    (hlogin : ∀ (s : WebState) transaction, I s →
      I { rows := s.rows.set (M.random s.draws 24) (.loginTransaction transaction)
          draws := s.draws + 4 })
    (hsession : ∀ (s : WebState) own session, I s →
      I { s with rows := s.rows.set own (.userSession session) })
    (c : TimedCall) {s : WebState} (hs : I s) : I (M.object.call c s).2 := by
  have hfollow : ∀ n reached, Keeps I (M.follow c.response c.clock.current n reached) := by
    intro n
    induction n with
    | zero => exact fun reached => Triple.pure fun s hs => hs
    | succ n ih =>
      intro reached
      cases reached with
      | inl answer => exact Triple.pure fun s hs => hs
      | inr flight =>
        apply Triple.bind (R := fun _ => I) _ ih
        refine Triple.of_exec fun s hs => ?_
        have hkept := keeps_resume hI hlogin hsession flight c.response c.clock.current hs
        rcases hrun : exec (M.resume flight c.response c.clock.current) s with ⟨_ | next, u⟩ <;>
          rw [hrun] at hkept <;> exact hkept
  have hsteps : Keeps I (M.begin c.call c.clock >>= M.follow c.response c.clock.current 2) :=
    Triple.bind (hI.begin c.call c.clock) fun reached => hfollow 2 reached
  have hstore := hsteps.store hs
  rw [← call_steps, store_map] at hstore
  exact hstore

/-- INTERNAL: calls only draw on. -/
theorem draws_le (c : TimedCall) (s : WebState) : s.draws ≤ (M.object.call c s).2.draws := by
  apply keeps_call (I := fun u => s.draws ≤ u.draws) _ _ _ c le_rfl
  · exact ⟨fun _ _ h => h, fun _ _ hle h => h.trans hle⟩
  · exact fun u _ h => h.trans (Nat.le_add_right _ _)
  · exact fun _ _ _ h => h

end

/-! ### What a run keeps -/

section

variable (M : SessionManager)

/-- What holds of the records at a time no call is running. -/
structure Lively (time : Int) (s : WebState) : Prop where
  drawn : ∀ id record, s.rows.get id = some record → Drawn M id s
  absolute : ∀ id session, s.rows.get id = some (.userSession session) →
    session.absoluteExpiresAt = session.createdAt + M.absoluteTtlMs
  idle : ∀ id session, s.rows.get id = some (.userSession session) →
    session.idleExpiresAt ≤ time + M.idleTtlMs
  dated : ∀ id session, s.rows.get id = some (.userSession session) → Dated session

/-- The id is that of a session, and holds nothing else. -/
def OfSession (id : String) (session : UserSession) (s : WebState) : Prop :=
  Drawn M id s ∧ ∀ record, s.rows.get id = some record → ∃ own, record = .userSession own ∧
    own.createdAt = session.createdAt ∧ own.absoluteExpiresAt = session.absoluteExpiresAt

/-- The id is that of a login transaction, or of one that is gone. -/
def OfTransaction (id : String) (s : WebState) : Prop := Drawn M id s ∧ NoSession id s

/-- The idle expiry of a session has not moved. -/
def Untouched (id : String) (session : UserSession) (s : WebState) : Prop :=
  Drawn M id s ∧ ∀ own, s.rows.get id = some (.userSession own) →
    own.idleExpiresAt = session.idleExpiresAt

end

section

variable {M : SessionManager} {s : WebState} {c : TimedCall} {id : String}

/-- INTERNAL: a text drawn before is not drawn again. -/
theorem not_drawn_again (hfresh : NeverRepeats M) (hdrawn : Drawn M id s) {k size : Nat}
    (hk : s.draws ≤ k) (hnamed : M.random k size = id) : False := by
  obtain ⟨j, hj, own, hown⟩ := hdrawn
  have hsame := hfresh j k own size (hown.trans hnamed.symm)
  omega

theorem Drawn.call (h : Drawn M id s) (c : TimedCall) : Drawn M id (M.object.call c s).2 :=
  h.mono (draws_le c s)

/-- INTERNAL: every call leaves the records sound. -/
theorem lively_call {time : Int} (hs : Lively M time s) (htime : time ≤ c.start)
    (hsteady : Steady c) : Lively M c.finish (M.object.call c s).2 := by
  have hcurrent := hsteady.readings.current
  constructor
  · intro id record hget
    cases fate (M := M) hsteady s id with
    | same stored => exact (hs.drawn id record (stored.symm.trans hget)).call c
    | gone stored => cases stored.symm.trans hget
    | began _ drawn named _ => exact ⟨_, drawn, 24, named⟩
    | opened _ drawn named _ _ _ _ _ => exact ⟨_, drawn, 32, named⟩
    | refreshed _ found _ _ _ _ _ => exact (hs.drawn id _ found).call c
  · intro id session hget
    cases fate (M := M) hsteady s id with
    | same stored => exact hs.absolute id session (stored.symm.trans hget)
    | gone stored => cases stored.symm.trans hget
    | began _ _ _ stored => cases stored.symm.trans hget
    | opened _ _ _ stored created _ absolute _ =>
      cases stored.symm.trans hget
      rw [absolute, created]
    | refreshed _ found stored created absolute _ _ =>
      cases stored.symm.trans hget
      rw [absolute, created]
      exact hs.absolute id _ found
  · intro id session hget
    cases fate (M := M) hsteady s id with
    | same stored =>
      have hidle := hs.idle id session (stored.symm.trans hget)
      omega
    | gone stored => cases stored.symm.trans hget
    | began _ _ _ stored => cases stored.symm.trans hget
    | opened _ _ _ stored _ idle _ _ =>
      cases stored.symm.trans hget
      rw [idle]
      omega
    | refreshed _ _ stored _ _ idle _ =>
      cases stored.symm.trans hget
      rw [idle]
      have hmin := min_le_left (c.clock.current + (M.idleTtlMs : Int))
      have hle := hmin ‹UserSession›.absoluteExpiresAt
      omega
  · intro id session hget
    cases fate (M := M) hsteady s id with
    | same stored => exact hs.dated id session (stored.symm.trans hget)
    | gone stored => cases stored.symm.trans hget
    | began _ _ _ stored => cases stored.symm.trans hget
    | opened _ _ _ stored _ _ _ dated =>
      cases stored.symm.trans hget
      exact dated
    | refreshed _ found stored _ _ _ accepted =>
      cases stored.symm.trans hget
      exact (accepted (hs.dated id _ found)).1

/-- INTERNAL: a session keeps its times, and its id is never used for another record. -/
theorem ofSession_call (hfresh : NeverRepeats M) {session : UserSession}
    (hs : OfSession M id session s) (hsteady : Steady c) :
    OfSession M id session (M.object.call c s).2 := by
  refine ⟨hs.1.call c, ?_⟩
  intro record hget
  cases fate (M := M) hsteady s id with
  | same stored => exact hs.2 record (stored.symm.trans hget)
  | gone stored => cases stored.symm.trans hget
  | began fresh _ named _ => exact (not_drawn_again hfresh hs.1 fresh named).elim
  | opened fresh _ named _ _ _ _ _ => exact (not_drawn_again hfresh hs.1 fresh named).elim
  | refreshed _ found stored created absolute _ _ =>
    cases stored.symm.trans hget
    obtain ⟨own, hown, hcreated, habsolute⟩ := hs.2 _ found
    cases hown
    exact ⟨_, rfl, created.trans hcreated, absolute.trans habsolute⟩

/-- INTERNAL: the id of a login transaction never holds a session. -/
theorem ofTransaction_call (hfresh : NeverRepeats M) (hs : OfTransaction M id s)
    (hsteady : Steady c) : OfTransaction M id (M.object.call c s).2 := by
  refine ⟨hs.1.call c, ?_⟩
  intro session hget
  cases fate (M := M) hsteady s id with
  | same stored => exact hs.2 session (stored.symm.trans hget)
  | gone stored => cases stored.symm.trans hget
  | began fresh _ named _ => exact not_drawn_again hfresh hs.1 fresh named
  | opened fresh _ named _ _ _ _ _ => exact not_drawn_again hfresh hs.1 fresh named
  | refreshed _ found _ _ _ _ _ => exact hs.2 _ found

/-- INTERNAL: only an accepted session or renew call moves the idle expiry. -/
theorem untouched_call (hfresh : NeverRepeats M) {time : Int} {session : UserSession}
    (hlively : Lively M time s) (hs : Untouched M id session s) (hsteady : Steady c)
    (hidle : ¬ (Refreshes M c id ∧ Accepts (M.object.call c s).1)) :
    Untouched M id session (M.object.call c s).2 := by
  refine ⟨hs.1.call c, ?_⟩
  intro own hget
  cases fate (M := M) hsteady s id with
  | same stored => exact hs.2 own (stored.symm.trans hget)
  | gone stored => cases stored.symm.trans hget
  | began _ _ _ stored => cases stored.symm.trans hget
  | opened fresh _ named _ _ _ _ _ => exact (not_drawn_again hfresh hs.1 fresh named).elim
  | refreshed refreshes found _ _ _ _ accepted =>
    exact absurd ⟨refreshes, (accepted (hlively.dated id _ found)).2⟩ hidle

/-- INTERNAL: **the run rule of the session manager**: what calls on sound records keep, if they
meet a guard, a run in order keeps whose calls meet it. -/
theorem run_inOrder {I : WebState → Prop} {G : WebState → TimedCall → Prop}
    (keep : ∀ time s c, Lively M time s → I s → Steady c → G s c → I (M.object.call c s).2)
    {calls : List TimedCall} {start finish : Int} (hs : Lively M start s) (hI : I s)
    (horder : InOrder calls) (hstart : ∀ c ∈ calls, start ≤ c.start)
    (hfinish : ∀ c ∈ calls, c.finish ≤ finish) (hle : start ≤ finish)
    (hguard : M.object.Meets G s calls) :
    Lively M finish (M.object.run s calls).2 ∧ I (M.object.run s calls).2 := by
  induction calls generalizing s start with
  | nil =>
    refine ⟨⟨hs.drawn, hs.absolute, ?_, hs.dated⟩, hI⟩
    intro id session hget
    have hidle := hs.idle id session hget
    omega
  | cons c calls ih =>
    obtain ⟨hpairs, hsteady⟩ := horder
    obtain ⟨hlater, hpairs⟩ := List.pairwise_cons.mp hpairs
    have hc := hsteady c List.mem_cons_self
    apply ih (lively_call hs (hstart c List.mem_cons_self) hc)
      (keep start s c hs hI hc hguard.1)
    · exact ⟨hpairs, fun d hd => hsteady d (List.mem_cons_of_mem _ hd)⟩
    · exact hlater
    · exact fun d hd => hfinish d (List.mem_cons_of_mem _ hd)
    · exact hfinish c List.mem_cons_self
    · exact hguard.2

end

end Xygo.Analysis
