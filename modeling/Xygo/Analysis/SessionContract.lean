import Xygo.Analysis.SessionLife

/-!
# What the session manager promises

The answers of calls that do not overlap: who is signed in and for how long, what a renewal that
fails leaves, and that a cleanup is not seen. `sessions_kept` puts the promises together.
-/

set_option autoImplicit false

namespace Xygo.Analysis

open Xygo.Computation Xygo.Model Xygo.Computation.Effect

section

variable {M : SessionManager} {c : TimedCall} {s : WebState} {id : String}

/-! ### Who is answered -/

/-- INTERNAL: a session call that is accepted.
SOURCE: apps/web/src/auth-session.js:152-159 -/
theorem accepted_session {cookies : Option String} {clock : Readings}
    (h : Accepts (exec (M.session cookies clock) s).1) :
    ∃ id session, M.verifySigned (cookieValue cookies M.cookieName) = .ok (some id) ∧
      s.rows.get id = some (.userSession session) ∧
      SessionStore.isOver (.userSession session) clock.idle clock.absolute = false ∧
      ∃ own, (exec (M.session cookies clock) s).2.rows.get id = some (.userSession own) ∧
        own.idleExpiresAt ≤ own.absoluteExpiresAt := by
  unfold SessionManager.session at h ⊢
  rw [exec_bind] at h ⊢
  obtain ⟨error, hread⟩ | ⟨u, hread, -⟩ | ⟨id, session, hverified, hstored, hover, hread⟩ :=
    readSession_cases M cookies clock s
  · rw [hread] at h
    obtain ⟨a, ha, -⟩ := h
    cases ha
  · rw [hread] at h
    obtain ⟨a, ha, haccepted⟩ := h
    cases ha
    cases haccepted
  · refine ⟨id, session, hverified, hstored, hover, ?_⟩
    rw [hread]
    dsimp only
    rw [exec_touchSession]
    exact ⟨_, (OrderedMap.get_set _ _ _ _).trans (if_pos rfl), min_le_right _ _⟩

/-- INTERNAL: a renewal that is accepted.
SOURCE: apps/web/src/auth-session.js:160-175 -/
theorem accepted_renew {cookies : Option String} {response : TokenResponse} {clock : Readings}
    (h : Accepts (exec (M.renew cookies response clock) s).1) :
    ∃ id session, M.verifySigned (cookieValue cookies M.cookieName) = .ok (some id) ∧
      s.rows.get id = some (.userSession session) ∧
      SessionStore.isOver (.userSession session) clock.idle clock.absolute = false ∧
      ∃ own, (exec (M.renew cookies response clock) s).2.rows.get id = some (.userSession own) ∧
        own.idleExpiresAt ≤ own.absoluteExpiresAt := by
  unfold SessionManager.renew at h ⊢
  rw [exec_bind] at h ⊢
  obtain ⟨error, hread⟩ | ⟨u, hread, -⟩ | ⟨id, session, hverified, hstored, hover, hread⟩ :=
    readSession_cases M cookies clock s
  · rw [hread] at h
    obtain ⟨a, ha, -⟩ := h
    cases ha
  · rw [hread] at h
    obtain ⟨a, ha, haccepted⟩ := h
    cases ha
    cases haccepted
  · refine ⟨id, session, hverified, hstored, hover, ?_⟩
    rw [hread] at h ⊢
    dsimp only at h ⊢
    split at h
    · rename_i htoken
      rw [if_pos htoken]
      have hrenewed := renewed M s id session response clock.current
      generalize exec (M.renewSession id session response clock.current) s = outcome
        at hrenewed h ⊢
      cases hrenewed with
      | throws =>
        obtain ⟨a, ha, -⟩ := h
        cases ha
      | renews _ _ =>
        exact ⟨_, (OrderedMap.get_set _ _ _ _).trans (if_pos rfl), min_le_right _ _⟩
    · obtain ⟨a, ha, haccepted⟩ := h
      cases ha
      cases haccepted

/-- INTERNAL: a call that is accepted has read a session that is not over.
SOURCE: apps/web/src/auth-session.js:152-190 -/
theorem accepted_found (h : Accepts (M.object.call c s).1) :
    ∃ cookies id session, Asks c.call cookies ∧
      M.verifySigned (cookieValue cookies M.cookieName) = .ok (some id) ∧
      s.rows.get id = some (.userSession session) ∧
      SessionStore.isOver (.userSession session) c.clock.idle c.clock.absolute = false := by
  rcases hc : c.call with returnTo | ⟨query, cookies⟩ | cookies | cookies | cookies | cookies | _
  all_goals
    simp only [SessionManager.object, SessionManager.call, hc] at h
  · -- A login answers a redirection.
    obtain ⟨a, ha, haccepted⟩ := h
    unfold SessionManager.beginLogin at ha
    rw [exec_bind] at ha
    obtain ⟨answer, transaction, hexec, hanswer⟩ := exec_startTransaction (M := M) returnTo
      c.clock.current (exec (SessionStore.cleanup c.clock) s).2
    have ha : (exec (M.startTransaction returnTo c.clock.current)
      (exec (SessionStore.cleanup c.clock) s).2).1 = .ok a := ha
    rw [hexec] at ha
    cases haccepted.symm.trans (hanswer a ha)
  · obtain ⟨a, ha, haccepted⟩ := h
    unfold SessionManager.completeCallback at ha
    rw [exec_bind] at ha
    obtain ⟨error, hread⟩ | ⟨u, hread, -⟩ | ⟨own, transaction, hread⟩ :=
      readTransaction_cases M cookies c.clock s <;> rw [hread] at ha
    · cases ha
    · cases ha
      cases haccepted
    · dsimp only at ha
      split at ha
      · rw [exec_bind] at ha
        have hopened := opened M (exec (SessionStore.delete own) s).2 transaction c.response
          c.clock.current
        have ha : (exec (M.openSession transaction c.response c.clock.current)
          (exec (SessionStore.delete own) s).2).1 = .ok a := ha
        generalize exec (M.openSession transaction c.response c.clock.current)
          (exec (SessionStore.delete own) s).2 = outcome at hopened ha
        cases hopened with
        | throws _ => cases ha
        | signsIn _ _ _ _ =>
          cases ha
          cases haccepted
      · cases ha
        cases haccepted
  · obtain ⟨id, session, hverified, hstored, hover, -⟩ := accepted_session h
    exact ⟨cookies, id, session, Or.inl rfl, hverified, hstored, hover⟩
  · obtain ⟨id, session, hverified, hstored, hover, -⟩ := accepted_renew h
    exact ⟨cookies, id, session, Or.inr (Or.inl rfl), hverified, hstored, hover⟩
  · obtain ⟨a, ha, haccepted⟩ := h
    unfold SessionManager.accessToken at ha
    rw [exec_bind] at ha
    obtain ⟨error, hread⟩ | ⟨u, hread, -⟩ | ⟨id, session, hverified, hstored, hover, hread⟩ :=
      readSession_cases M cookies c.clock s <;> rw [hread] at ha
    · cases ha
    · cases ha
      cases haccepted
    · exact ⟨cookies, id, session, Or.inr (Or.inr rfl), hverified, hstored, hover⟩
  · obtain ⟨a, ha, haccepted⟩ := h
    unfold SessionManager.logout at ha
    simp only [exec_bind, exec_lift] at ha
    rcases hverified : M.verifySigned (cookieValue cookies M.cookieName) with error | found
    · rw [hverified] at ha
      cases ha
    · rw [hverified] at ha
      have hdelete : ∃ u, exec (SessionStore.deleteFound found) s = (.ok (), u) := by
        cases found with
        | none => exact ⟨_, rfl⟩
        | some own => exact ⟨_, rfl⟩
      obtain ⟨u, hdelete⟩ := hdelete
      simp only [hdelete] at ha
      rcases htarget : M.redirectTo M.endSessionEndpoint
        [("client_id", M.clientId), ("post_logout_redirect_uri", M.postLogoutRedirectUri)] with
        error | target
      · rw [htarget] at ha
        cases ha
      · rw [htarget] at ha
        cases ha
        cases haccepted
  · obtain ⟨a, ha, haccepted⟩ := h
    cases ha
    cases haccepted

/-- INTERNAL: the session an accepted call presents.
SOURCE: apps/web/src/auth-session.js:70-74 -/
theorem accepted_presents (h : Accepts (M.object.call c s).1) (hpresents : Presents M c id) :
    ∃ session, s.rows.get id = some (.userSession session) ∧
      c.clock.idle < session.idleExpiresAt ∧ c.clock.absolute < session.absoluteExpiresAt := by
  obtain ⟨cookies, own, session, hasks, hverified, hstored, hover⟩ := accepted_found h
  obtain ⟨cookies', hasks', hverified'⟩ := hpresents
  have hsame : cookies' = cookies := by
    rcases hasks with hasks | hasks | hasks <;> rcases hasks' with hasks' | hasks' | hasks' <;>
      cases hasks.symm.trans hasks' <;> rfl
  subst hsame
  obtain rfl : own = id := Option.some.inj (Except.ok.inj (hverified.symm.trans hverified'))
  refine ⟨session, hstored, ?_⟩
  rw [SessionStore.isOver, Bool.or_eq_false_iff, decide_eq_false_iff_not, decide_eq_false_iff_not,
    not_le, not_le] at hover
  exact hover

/-- INTERNAL: a renewal that is not accepted leaves the records, but for one that was over.
SOURCE: apps/web/src/auth-session.js:160-175 -/
theorem renew_failed (hsteady : Steady c) {cookies : Option String} (hc : c.call = .renew cookies)
    (h : ¬ Accepts (M.object.call c s).1) :
    Dropped s c.clock (M.object.call c s).2 ∧
      ∀ error, (M.object.call c s).1 = .error error → (M.object.call c s).2 = s := by
  simp only [SessionManager.object, SessionManager.call, hc] at h ⊢
  unfold SessionManager.renew at h ⊢
  rw [exec_bind] at h ⊢
  obtain ⟨error, hread⟩ | ⟨u, hread, hdropped⟩ | ⟨own, session, -, -, -, hread⟩ :=
    readSession_cases M cookies c.clock s <;> rw [hread] at h ⊢
  · exact ⟨Or.inl rfl, fun _ _ => rfl⟩
  · exact ⟨hdropped, fun _ herror => by cases herror⟩
  · dsimp only at h ⊢
    split at h
    · rename_i htoken
      rw [if_pos htoken]
      have hrenewed := renewed M s own session c.response c.clock.current
      generalize exec (M.renewSession own session c.response c.clock.current) s = outcome
        at hrenewed h ⊢
      cases hrenewed with
      | throws => exact ⟨Or.inl rfl, fun _ _ => rfl⟩
      | renews _ hexpires =>
        obtain ⟨t, ht⟩ := hsteady.dated hexpires
        exact absurd ⟨_, by dsimp only; rw [ht]; rfl, rfl⟩ h
    · rename_i htoken
      rw [if_neg htoken]
      exact ⟨Or.inl rfl, fun _ _ => rfl⟩

/-- INTERNAL: a callback with the handle of a session is answered with 400.
SOURCE: apps/web/src/auth-session.js:115-121 -/
theorem callback_refused {query : CallbackQuery} {cookies : Option String}
    (hc : c.call = .callback query cookies)
    (hverified : M.verifySigned (cookieValue cookies authCookie) = .ok (some id))
    (hs : NoTransaction id s) :
    (M.object.call c s).1 = .ok SessionManager.refusedCallback := by
  obtain ⟨u, hread⟩ := readTransaction_none hverified hs c.clock
  simp only [SessionManager.object, SessionManager.call, hc]
  unfold SessionManager.completeCallback
  rw [exec_bind, hread]
  rfl

end

/-! ### A cleanup is not seen -/

/-- The second store is the first one without records that were over at a time. -/
def Swept (time : Int) (s t : WebState) : Prop :=
  t.draws = s.draws ∧ ∀ id, t.rows.get id = s.rows.get id ∨
    t.rows.get id = none ∧ ∃ record, s.rows.get id = some record ∧
      (record.idleExpiresAt ≤ time ∨ record.absoluteExpiresAt ≤ time)

section

variable {M : SessionManager} {time : Int} {clock : Readings}

/-- INTERNAL: what a cleanup drops was over when it was done.
SOURCE: apps/web/src/session-store.js:37-46 -/
theorem swept_cleanup (s : WebState)
    (hidle : ∀ id, (clock.sweep id).1 ≤ time) (habsolute : ∀ id, (clock.sweep id).2 ≤ time) :
    Swept time s (exec (SessionStore.cleanup clock) s).2 := by
  refine ⟨rfl, fun id => ?_⟩
  show (s.rows.filter _).get id = _ ∨ (s.rows.filter _).get id = none ∧ _
  rw [OrderedMap.get_filter]
  rcases hstored : s.rows.get id with _ | record
  · exact Or.inl rfl
  · by_cases hover : SessionStore.isOver record (clock.sweep id).1 (clock.sweep id).2 = true
    · refine Or.inr ⟨by simp [hover], record, rfl, ?_⟩
      rw [SessionStore.isOver, Bool.or_eq_true, decide_eq_true_iff, decide_eq_true_iff] at hover
      exact hover.imp (fun h => h.trans (hidle id)) fun h => h.trans (habsolute id)
    · exact Or.inl (by simp [hover])

/-- INTERNAL: both stores may drop the same records. -/
theorem Swept.filter {s t : WebState} (h : Swept time s t)
    (test : String → SessionRecord → Bool) :
    Swept time { s with rows := s.rows.filter test } { t with rows := t.rows.filter test } := by
  refine ⟨h.1, fun id => ?_⟩
  simp only [OrderedMap.get_filter]
  obtain hsame | ⟨hnone, record, hstored, hover⟩ := h.2 id
  · exact Or.inl (by rw [hsame])
  · rw [hnone, hstored]
    by_cases htest : test id record = true
    · exact Or.inr ⟨rfl, record, by simp [htest], hover⟩
    · exact Or.inl (by simp [Option.filter, htest])

/-- INTERNAL: both stores may store the same record. -/
theorem Swept.set {s t : WebState} (h : Swept time s t) (own : String) (record : SessionRecord) :
    Swept time { s with rows := s.rows.set own record }
      { t with rows := t.rows.set own record } := by
  refine ⟨h.1, fun id => ?_⟩
  simp only [OrderedMap.get_set]
  split
  · exact Or.inl rfl
  · exact h.2 id

/-- INTERNAL: a record that was over at a time is not found at a later reading.
SOURCE: apps/web/src/session-store.js:28-35 -/
theorem agrees_get (id : String) (hidle : time ≤ clock.idle) (habsolute : time ≤ clock.absolute) :
    Agrees (Swept time) (SessionStore.get id clock) := by
  refine Agrees.of_exec fun s t hswept => ?_
  rw [exec_storeGet, exec_storeGet]
  obtain hsame | ⟨hnone, record, hstored, hover⟩ := hswept.2 id
  · rw [hsame]
    cases s.rows.get id with
    | none => exact ⟨rfl, hswept⟩
    | some record =>
      dsimp only
      split
      · exact ⟨rfl, hswept.filter _⟩
      · exact ⟨rfl, hswept⟩
  · have hlater : SessionStore.isOver record clock.idle clock.absolute = true := by
      rw [SessionStore.isOver, Bool.or_eq_true, decide_eq_true_iff, decide_eq_true_iff]
      exact hover.imp (fun h => h.trans hidle) fun h => h.trans habsolute
    simp only [hnone, hstored, hlater, if_true]
    refine ⟨trivial, hswept.1, fun other => ?_⟩
    by_cases hother : other = id
    · subst hother
      exact Or.inl (by rw [hnone]; simp)
    · simp only [OrderedMap.get_erase, if_neg hother]
      exact hswept.2 other

theorem agrees_set (id : String) (record : SessionRecord) :
    Agrees (Swept time) (SessionStore.set id record) :=
  Agrees.update fun _ _ h => h.set id record

theorem agrees_delete (id : String) : Agrees (Swept time) (SessionStore.delete id) :=
  Agrees.update fun _ _ h => h.filter _

theorem agrees_draw (size : Nat) : Agrees (Swept time) (M.draw size) := by
  refine Agrees.of_exec ?_
  rintro s t ⟨hdraws, hrows⟩
  refine ⟨?_, congrArg (· + 1) hdraws, hrows⟩
  show Except.ok (M.random s.draws size) = Except.ok (M.random t.draws size)
  rw [hdraws]

/-- INTERNAL: the parts of a call that read. -/
theorem agrees_lookup (cookies : Option String) (name : String) (hidle : time ≤ clock.idle)
    (habsolute : time ≤ clock.absolute) : Agrees (Swept time) (M.lookup cookies name clock) := by
  unfold SessionManager.lookup
  apply Agrees.bind (Agrees.lift _)
  intro id
  cases id with
  | none => exact Agrees.pure none
  | some id =>
    exact Agrees.bind (agrees_get id hidle habsolute) fun record => Agrees.pure _

theorem agrees_readSession (cookies : Option String) (hidle : time ≤ clock.idle)
    (habsolute : time ≤ clock.absolute) : Agrees (Swept time) (M.readSession cookies clock) := by
  unfold SessionManager.readSession
  apply Agrees.bind (agrees_lookup cookies _ hidle habsolute)
  intro found
  split <;> exact Agrees.pure _

theorem agrees_readTransaction (cookies : Option String) (hidle : time ≤ clock.idle)
    (habsolute : time ≤ clock.absolute) :
    Agrees (Swept time) (M.readTransaction cookies clock) := by
  unfold SessionManager.readTransaction
  apply Agrees.bind (agrees_lookup cookies _ hidle habsolute)
  intro found
  split <;> exact Agrees.pure _

/-- INTERNAL: the parts of a call that write.
SOURCE: apps/web/src/auth-session.js:91-113 -/
theorem agrees_startTransaction (returnTo : String) (current : Int) :
    Agrees (Swept time) (M.startTransaction returnTo current) := by
  unfold SessionManager.startTransaction
  apply Agrees.bind (agrees_draw 24)
  intro id
  apply Agrees.bind (agrees_draw 32)
  intro state
  apply Agrees.bind (agrees_draw 32)
  intro nonce
  apply Agrees.bind (agrees_draw 48)
  intro verifier
  apply Agrees.bind (agrees_set _ _)
  intro _
  exact Agrees.bind (Agrees.lift _) fun target => Agrees.pure _

theorem agrees_openSession (transaction : LoginTransaction) (response : TokenResponse)
    (current : Int) : Agrees (Swept time) (M.openSession transaction response current) := by
  unfold SessionManager.openSession
  apply Agrees.bind (Agrees.lift _)
  intro payload
  apply Agrees.bind (Agrees.lift _)
  intro _
  apply Agrees.bind (agrees_draw 32)
  intro id
  apply Agrees.bind (Agrees.lift _)
  intro given
  apply Agrees.bind (Agrees.lift _)
  intro accessToken
  apply Agrees.bind (Agrees.lift _)
  intro expiry
  exact Agrees.bind (agrees_set _ _) fun _ => Agrees.pure _

theorem agrees_touchSession (id : String) (session : UserSession) (current : Int) :
    Agrees (Swept time) (M.touchSession id session current) := by
  unfold SessionManager.touchSession
  apply Agrees.bind (agrees_set _ _)
  intro _
  exact Agrees.bind (Agrees.lift _) fun expiresAt => Agrees.pure _

theorem agrees_renewSession (id : String) (session : UserSession) (response : TokenResponse)
    (current : Int) : Agrees (Swept time) (M.renewSession id session response current) := by
  unfold SessionManager.renewSession
  apply Agrees.bind (Agrees.lift _)
  intro payload
  apply Agrees.bind (Agrees.lift _)
  intro given
  apply Agrees.bind (Agrees.lift _)
  intro accessToken
  apply Agrees.bind (Agrees.lift _)
  intro expiry
  apply Agrees.bind (agrees_set _ _)
  intro _
  exact Agrees.bind (Agrees.lift _) fun expiresAt => Agrees.pure _

/-- INTERNAL: a call that starts later does not see what was swept, but for a cleanup, which
counts it.
SOURCE: apps/web/src/auth-session.js:89-194 -/
theorem agrees_call (c : AuthCall) (response : TokenResponse) (hc : c ≠ .cleanup)
    (hidle : time ≤ clock.idle) (habsolute : time ≤ clock.absolute) :
    Agrees (Swept time) (M.call c response clock) := by
  unfold SessionManager.call
  cases c with
  | login returnTo =>
    -- The count of the sweep is not used.
    refine Agrees.of_exec fun s t hswept => ?_
    have hsweep : ∀ u : WebState, exec (M.beginLogin returnTo clock) u =
        exec (M.startTransaction returnTo clock.current)
          (exec (SessionStore.cleanup clock) u).2 := fun u => rfl
    have hswept : Swept time (exec (SessionStore.cleanup clock) s).2
      (exec (SessionStore.cleanup clock) t).2 := hswept.filter _
    dsimp only
    rw [hsweep, hsweep]
    have hagrees : Agrees (Swept time) (M.startTransaction returnTo clock.current) :=
      agrees_startTransaction returnTo clock.current
    exact ⟨hagrees.answer hswept, hagrees.store hswept⟩
  | callback query cookies =>
    unfold SessionManager.completeCallback
    apply Agrees.bind (agrees_readTransaction cookies hidle habsolute)
    intro found
    split
    · exact Agrees.pure _
    · apply Agrees.ite
      · intro _
        exact Agrees.bind (agrees_delete _) fun _ => agrees_openSession _ _ _
      · exact fun _ => Agrees.pure _
  | session cookies =>
    unfold SessionManager.session
    apply Agrees.bind (agrees_readSession cookies hidle habsolute)
    intro found
    split
    · exact Agrees.pure _
    · exact agrees_touchSession _ _ _
  | renew cookies =>
    unfold SessionManager.renew
    apply Agrees.bind (agrees_readSession cookies hidle habsolute)
    intro found
    split
    · exact Agrees.pure _
    · apply Agrees.ite
      · exact fun _ => agrees_renewSession _ _ _ _
      · exact fun _ => Agrees.pure _
  | accessToken cookies =>
    unfold SessionManager.accessToken
    exact Agrees.bind (agrees_readSession cookies hidle habsolute) fun found => Agrees.pure _
  | logout cookies =>
    unfold SessionManager.logout
    apply Agrees.bind (Agrees.lift _)
    intro id
    apply Agrees.bind
    · cases id with
      | none => exact Agrees.pure ()
      | some id => exact agrees_delete id
    · intro _
      exact Agrees.bind (Agrees.lift _) fun target => Agrees.pure _
  | cleanup => exact absurd rfl hc

end

/-! ### Whole runs -/

/-- The answers of a run to the calls that are answered to a client. -/
def responses (log : List (TimedCall × Except JsError AuthAnswer)) :
    List (TimedCall × Except JsError AuthAnswer) :=
  log.filter fun entry =>
    match entry.1.call with
    | .cleanup => false
    | _ => true

section

variable (M : SessionManager)

/-- The store after calls that do not overlap, from an empty one. -/
def storeAfter (calls : List TimedCall) : WebState := (M.object.run {} calls).2

/-- What is answered to a call after others. -/
def answerAfter (calls : List TimedCall) (c : TimedCall) : Except JsError AuthAnswer :=
  (M.object.call c (storeAfter M calls)).1

/-- The user session stored under an id after calls. -/
def SessionAfter (calls : List TimedCall) (id : String) (session : UserSession) : Prop :=
  (storeAfter M calls).rows.get id = some (.userSession session)

/-- **What the session manager promises of calls that do not overlap.** -/
structure SessionsKept (calls : List TimedCall) : Prop where
  /-- The absolute expiry of a session never changes. -/
  absolute : ∀ before middle after id session record, calls = before ++ (middle ++ after) →
    SessionAfter M before id session →
    (storeAfter M (before ++ middle)).rows.get id = some record →
    ∃ own, record = .userSession own ∧ own.createdAt = session.createdAt ∧
      own.absoluteExpiresAt = session.absoluteExpiresAt
  /-- A session or renew call that is accepted sets an idle expiry that is not after it. -/
  idle : ∀ before c after id, calls = before ++ c :: after → Refreshes M c id →
    Accepts (answerAfter M before c) →
    ∃ session, SessionAfter M (before ++ [c]) id session ∧
      session.idleExpiresAt ≤ session.absoluteExpiresAt
  /-- Nothing is accepted from the absolute expiry on. -/
  expired : ∀ before middle c after id session, calls = before ++ (middle ++ c :: after) →
    SessionAfter M before id session → Presents M c id →
    session.createdAt + M.absoluteTtlMs ≤ c.start → ¬ Accepts (answerAfter M (before ++ middle) c)
  /-- Nothing is accepted after an idle gap, in which no session or renew call was accepted. -/
  idleGap : ∀ before middle c after id session time, calls = before ++ (middle ++ c :: after) →
    SessionAfter M before id session → Presents M c id →
    (∀ entry ∈ (M.object.run (storeAfter M before) middle).1,
      ¬ (Refreshes M entry.1 id ∧ Accepts entry.2)) →
    (∀ d ∈ before, d.finish ≤ time) → time + M.idleTtlMs ≤ c.start →
    ¬ Accepts (answerAfter M (before ++ middle) c)
  /-- The handle of a login transaction is no handle of a session. -/
  transaction : ∀ before middle c after id transaction, calls = before ++ (middle ++ c :: after) →
    (storeAfter M before).rows.get id = some (.loginTransaction transaction) → Presents M c id →
    ¬ Accepts (answerAfter M (before ++ middle) c)
  /-- The handle of a session is no handle of a login transaction. -/
  session : ∀ before middle c after id session query cookies,
    calls = before ++ (middle ++ c :: after) → SessionAfter M before id session →
    c.call = .callback query cookies →
    M.verifySigned (cookieValue cookies authCookie) = .ok (some id) →
    answerAfter M (before ++ middle) c = .ok SessionManager.refusedCallback
  /-- A renewal that fails leaves the store as it is, without the record it asked for if that was
  over. -/
  renewal : ∀ before c after cookies, calls = before ++ c :: after → c.call = .renew cookies →
    ¬ Accepts (answerAfter M before c) →
    Dropped (storeAfter M before) c.clock (storeAfter M (before ++ [c])) ∧
      ∀ error, answerAfter M before c = .error error →
        storeAfter M (before ++ [c]) = storeAfter M before
  /-- The answers after a cleanup are those without it. -/
  cleanup : ∀ before c after, calls = before ++ c :: after → c.call = .cleanup →
    responses (M.object.run (storeAfter M (before ++ [c])) after).1 =
      responses (M.object.run (storeAfter M before) after).1

end

section

variable {M : SessionManager}

theorem storeAfter_append (before middle : List TimedCall) :
    storeAfter M (before ++ middle) = (M.object.run (storeAfter M before) middle).2 := by
  unfold storeAfter
  rw [M.object.run_append]

/-- INTERNAL: the times of the parts of a run. -/
theorem InOrder.append {before after : List TimedCall} (h : InOrder (before ++ after)) :
    InOrder before ∧ InOrder after ∧ ∀ c ∈ before, ∀ d ∈ after, c.finish ≤ d.start := by
  obtain ⟨hpairs, hsteady⟩ := h
  obtain ⟨hbefore, hafter, hbetween⟩ := List.pairwise_append.mp hpairs
  exact ⟨⟨hbefore, fun c hc => hsteady c (List.mem_append_left _ hc)⟩,
    ⟨hafter, fun c hc => hsteady c (List.mem_append_right _ hc)⟩, hbetween⟩

/-- INTERNAL: a time after all of the calls. -/
theorem exists_finish (calls : List TimedCall) : ∃ finish, ∀ d ∈ calls, d.finish ≤ finish := by
  induction calls with
  | nil => exact ⟨0, fun d hd => by cases hd⟩
  | cons c calls ih =>
    obtain ⟨finish, hfinish⟩ := ih
    refine ⟨max c.finish finish, ?_⟩
    intro d hd
    obtain rfl | hd := List.mem_cons.mp hd
    · exact le_max_left _ _
    · exact (hfinish d hd).trans (le_max_right _ _)

/-- INTERNAL: the records are sound when the last call is done. -/
theorem after_lively {before : List TimedCall} (horder : InOrder before) {time : Int}
    (htime : ∀ c ∈ before, c.finish ≤ time) : Lively M time (storeAfter M before) := by
  have hempty : ∀ start, Lively M start {} := by
    intro start
    constructor <;> intro id record hget <;> cases hget
  cases before with
  | nil => exact hempty time
  | cons c cs =>
    have hstart : ∀ d ∈ c :: cs, c.start ≤ d.start := by
      intro d hd
      obtain rfl | hd := List.mem_cons.mp hd
      · exact le_rfl
      · have hlater := (List.pairwise_cons.mp horder.1).1 d hd
        have hc := (horder.2 c List.mem_cons_self).readings.current
        omega
    have hc := (horder.2 c List.mem_cons_self).readings.current
    have hfinish := htime c List.mem_cons_self
    exact (run_inOrder (I := fun _ => True) (G := fun _ _ => True) (fun _ _ _ _ _ _ _ => trivial)
      (hempty c.start) trivial horder hstart htime (by omega) (M.object.meets_true _ _)).1

/-- INTERNAL: what calls keep is kept from one point of a run to a later one. -/
theorem keeps_between {I : WebState → Prop} {G : WebState → TimedCall → Prop}
    (keep : ∀ time s c, Lively M time s → I s → Steady c → G s c → I (M.object.call c s).2)
    {before middle : List TimedCall} (horder : InOrder (before ++ middle))
    (hI : I (storeAfter M before)) (hguard : M.object.Meets G (storeAfter M before) middle) :
    I (storeAfter M (before ++ middle)) := by
  obtain ⟨hbefore, hmiddle, hbetween⟩ := horder.append
  rw [storeAfter_append]
  cases middle with
  | nil => exact hI
  | cons c cs =>
    have hlively : Lively M c.start (storeAfter M before) :=
      after_lively hbefore fun d hd => hbetween d hd c List.mem_cons_self
    have hstart : ∀ d ∈ c :: cs, c.start ≤ d.start := by
      intro d hd
      obtain rfl | hd := List.mem_cons.mp hd
      · exact le_rfl
      · have hlater := (List.pairwise_cons.mp hmiddle.1).1 d hd
        have hc := (hmiddle.2 c List.mem_cons_self).readings.current
        omega
    obtain ⟨finish, hfinish⟩ := exists_finish (c :: cs)
    have hc := (hmiddle.2 c List.mem_cons_self).readings.current
    have hlast := hfinish c List.mem_cons_self
    exact (run_inOrder keep hlively hI hmiddle hstart hfinish (by omega) hguard).2

/-- INTERNAL: a run that starts later does not see what was swept. -/
theorem responses_swept {time : Int} {calls : List TimedCall} {s t : WebState}
    (hswept : Swept time s t) (hsteady : ∀ c ∈ calls, Steady c)
    (hlater : ∀ c ∈ calls, time ≤ c.start) :
    responses (M.object.run t calls).1 = responses (M.object.run s calls).1 := by
  induction calls generalizing s t with
  | nil => rfl
  | cons c calls ih =>
    have hreadings := (hsteady c List.mem_cons_self).readings
    have htime := hlater c List.mem_cons_self
    have hrest := fun u v (h : Swept time u v) => ih h
      (fun d hd => hsteady d (List.mem_cons_of_mem _ hd))
      fun d hd => hlater d (List.mem_cons_of_mem _ hd)
    rw [M.object.run_cons, M.object.run_cons]
    by_cases hc : c.call = .cleanup
    · have hswept' : Swept time (M.object.call c s).2 (M.object.call c t).2 := by
        simp only [SessionManager.object, SessionManager.call, hc, store_map]
        exact hswept.filter _
      simp only [responses, List.filter_cons, hc]
      exact hrest _ _ hswept'
    · have hagrees : Agrees (Swept time) (M.call c.call c.response c.clock) :=
        agrees_call c.call c.response hc (htime.trans hreadings.idle.1)
          (htime.trans hreadings.absolute.1)
      have hanswer : (M.object.call c s).1 = (M.object.call c t).1 := hagrees.answer hswept
      rw [hanswer]
      have hlog : responses (M.object.run (M.object.call c t).2 calls).1 =
          responses (M.object.run (M.object.call c s).2 calls).1 :=
        hrest _ _ (hagrees.store hswept)
      unfold responses at hlog ⊢
      rw [List.filter_cons, List.filter_cons, hlog]

/-- INTERNAL: a record after calls has an id that was drawn. -/
theorem after_drawn {before : List TimedCall} (horder : InOrder before) {id : String}
    {record : SessionRecord} (hget : (storeAfter M before).rows.get id = some record) :
    Drawn M id (storeAfter M before) := by
  obtain ⟨finish, hfinish⟩ := exists_finish before
  exact (after_lively horder hfinish).drawn id record hget

/-- INTERNAL: the id of a session stays its id. -/
theorem session_between (hfresh : NeverRepeats M) {before middle : List TimedCall}
    (horder : InOrder (before ++ middle)) {id : String} {session : UserSession}
    (hstored : SessionAfter M before id session) :
    OfSession M id session (storeAfter M (before ++ middle)) := by
  apply keeps_between (I := OfSession M id session) (G := fun _ _ => True) _ horder
  · refine ⟨after_drawn horder.append.1 hstored, ?_⟩
    intro record hget
    cases hstored.symm.trans hget
    exact ⟨session, rfl, rfl, rfl⟩
  · exact M.object.meets_true _ _
  · exact fun _ _ _ _ hs hsteady _ => ofSession_call hfresh hs hsteady

/-- **Calls that do not overlap keep what the session manager promises**, if the random texts do
not repeat.
SOURCE: apps/web/src/auth-session.js:49-195, apps/web/src/session-store.js:24-48 -/
theorem sessions_kept {calls : List TimedCall} (hfresh : NeverRepeats M)
    (horder : InOrder calls) : SessionsKept M calls := by
  constructor
  · rintro before middle after id session record rfl hstored hget
    rw [← List.append_assoc] at horder
    exact (session_between hfresh horder.append.1 hstored).2 record hget
  · rintro before c after id rfl ⟨cookies, hcall, hverified⟩ haccepts
    have hafter : storeAfter M (before ++ [c]) = (M.object.call c (storeAfter M before)).2 :=
      storeAfter_append before [c]
    unfold SessionAfter
    rw [hafter]
    unfold answerAfter at haccepts
    rcases hcall with hcall | hcall
    · simp only [SessionManager.object, SessionManager.call, hcall] at haccepts ⊢
      obtain ⟨own, _, hown, -, -, session, hset, hidle⟩ := accepted_session haccepts
      obtain rfl : own = id := Option.some.inj (Except.ok.inj (hown.symm.trans hverified))
      exact ⟨session, hset, hidle⟩
    · simp only [SessionManager.object, SessionManager.call, hcall] at haccepts ⊢
      obtain ⟨own, _, hown, -, -, session, hset, hidle⟩ := accepted_renew haccepts
      obtain rfl : own = id := Option.some.inj (Except.ok.inj (hown.symm.trans hverified))
      exact ⟨session, hset, hidle⟩
  · rintro before middle c after id session rfl hstored hpresents hover haccepts
    rw [← List.append_assoc] at horder
    obtain ⟨own, hget, -, hearly⟩ := accepted_presents haccepts hpresents
    obtain ⟨_, hsame, -, habsolute⟩ :=
      (session_between hfresh horder.append.1 hstored).2 _ hget
    cases hsame
    obtain ⟨finish, hfinish⟩ := exists_finish before
    have hlimit := (after_lively horder.append.1.append.1 hfinish).absolute id session hstored
    have hlater := ((horder.append.2.1).2 c List.mem_cons_self).readings.absolute
    omega
  · rintro before middle c after id session time rfl hstored hpresents hquiet hbefore hgap haccepts
    rw [← List.append_assoc] at horder
    obtain ⟨own, hget, hearly, -⟩ := accepted_presents haccepts hpresents
    have huntouched : Untouched M id session (storeAfter M (before ++ middle)) := by
      apply keeps_between (I := Untouched M id session)
        (G := fun s d => ¬ (Refreshes M d id ∧ Accepts (M.object.call d s).1)) _
        horder.append.1
      · refine ⟨after_drawn horder.append.1.append.1 hstored, ?_⟩
        intro other hother
        cases hstored.symm.trans hother
        rfl
      · exact M.object.meets_of_log (R := fun d answer => ¬ (Refreshes M d id ∧ Accepts answer))
          hquiet
      · exact fun _ _ _ hlively hs hsteady hguard =>
          untouched_call hfresh hlively hs hsteady hguard
    have hsame := huntouched.2 own hget
    have hlimit := (after_lively horder.append.1.append.1 hbefore).idle id session hstored
    have hlater := ((horder.append.2.1).2 c List.mem_cons_self).readings.idle
    omega
  · rintro before middle c after id transaction rfl hstored hpresents haccepts
    rw [← List.append_assoc] at horder
    obtain ⟨own, hget, -, -⟩ := accepted_presents haccepts hpresents
    have hnone : OfTransaction M id (storeAfter M (before ++ middle)) := by
      apply keeps_between (I := OfTransaction M id) (G := fun _ _ => True) _ horder.append.1
      · refine ⟨after_drawn horder.append.1.append.1 hstored, ?_⟩
        intro session hsession
        cases hstored.symm.trans hsession
      · exact M.object.meets_true _ _
      · exact fun _ _ _ _ hs hsteady _ => ofTransaction_call hfresh hs hsteady
    exact hnone.2 own hget
  · rintro before middle c after id session query cookies rfl hstored hcall hverified
    rw [← List.append_assoc] at horder
    apply callback_refused hcall hverified
    intro transaction hget
    obtain ⟨own, hown, -⟩ := (session_between hfresh horder.append.1 hstored).2 _ hget
    cases hown
  · rintro before c after cookies rfl hcall hfails
    have hafter : storeAfter M (before ++ [c]) = (M.object.call c (storeAfter M before)).2 :=
      storeAfter_append before [c]
    rw [hafter]
    exact renew_failed (horder.append.2.1.2 c List.mem_cons_self) hcall hfails
  · rintro before c after rfl hcall
    have hafter : storeAfter M (before ++ [c]) = (M.object.call c (storeAfter M before)).2 :=
      storeAfter_append before [c]
    rw [hafter]
    obtain ⟨-, ⟨hpairs, hsteady⟩, -⟩ := horder.append
    obtain ⟨hlater, -⟩ := List.pairwise_cons.mp hpairs
    have hc := hsteady c List.mem_cons_self
    have hswept : Swept c.finish (storeAfter M before)
        (M.object.call c (storeAfter M before)).2 := by
      simp only [SessionManager.object, SessionManager.call, hcall, store_map]
      exact swept_cleanup _ (fun id => (hc.readings.sweepIdle id).2)
        fun id => (hc.readings.sweepAbsolute id).2
    exact responses_swept hswept (fun d hd => hsteady d (List.mem_cons_of_mem _ hd)) hlater

end

/-- A call of a clock that stands. -/
def standingCall (call : AuthCall) (now : Int) : TimedCall :=
  ⟨call, now, now, standing now, granted⟩

/-- A login, its callback, and a day of calls with the cookie of its session. -/
def oneDay : List TimedCall := [
  standingCall (.login "/control-room") 1000,
  standingCall (.callback firstQuery transactionCookie) 2000,
  standingCall (.session sessionCookie) 3000,
  standingCall (.renew sessionCookie) 4000,
  standingCall .cleanup 5000,
  standingCall (.session sessionCookie) 28802000]

/-- The session of the day is renewed, and over at its absolute expiry. -/
theorem sessions_kept_oneDay :
    SessionsKept countingSessions oneDay ∧
      ((countingSessions.object.run {} oneDay).1.map fun entry =>
        entry.2.toOption.map AuthAnswer.isAuthenticated) =
        [some false, some false, some true, some true, some false, some false] := by
  refine ⟨sessions_kept countingSessions_fresh ⟨by decide, ?_⟩, by decide +kernel⟩
  have hsteady : ∀ call (now : Int), isValidTime now = true →
      isValidTime (now + 86400000) = true → Steady (standingCall call now) :=
    fun _ _ hstarts hfinishes => ⟨⟨fun _ => ⟨le_rfl, le_rfl⟩, fun _ => ⟨le_rfl, le_rfl⟩,
      ⟨le_rfl, le_rfl⟩, ⟨le_rfl, le_rfl⟩, ⟨le_rfl, le_rfl⟩⟩, hstarts, hfinishes⟩
  unfold oneDay
  simp only [List.forall_mem_cons]
  refine ⟨?_, ?_, ?_, ?_, ?_, ?_, by simp⟩ <;>
    exact hsteady _ _ (by decide +kernel) (by decide +kernel)

end Xygo.Analysis
