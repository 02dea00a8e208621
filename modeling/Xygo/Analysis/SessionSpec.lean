import Xygo.Computation.Triple
import Xygo.Model.WebFlights

/-!
# What the parts of a session call do

One lemma for each function of the session manager: what it reads, what it answers and the store
it leaves. The proofs about whole runs cite these and do not unfold the functions.
-/

set_option autoImplicit false

namespace Xygo.Analysis

open Xygo.Computation Xygo.Model Xygo.Computation.Effect

/-- No user session is stored under an id. -/
def NoSession (id : String) (s : WebState) : Prop :=
  ∀ session, s.rows.get id ≠ some (.userSession session)

/-- No login transaction is stored under an id. -/
def NoTransaction (id : String) (s : WebState) : Prop :=
  ∀ transaction, s.rows.get id ≠ some (.loginTransaction transaction)

section

variable {M : SessionManager} {s : WebState}

/-- INTERNAL: `get` on a store.
SOURCE: apps/web/src/session-store.js:28-35 -/
theorem exec_storeGet (id : String) (clock : Readings) (s : WebState) :
    exec (SessionStore.get id clock) s =
      match s.rows.get id with
      | none => (.ok none, s)
      | some record =>
        if SessionStore.isOver record clock.idle clock.absolute then
          (.ok none, { s with rows := s.rows.erase id })
        else (.ok (some record), s) := by
  unfold SessionStore.get
  rw [exec_bind]
  show exec (match s.rows.get id with | none => _ | some record => _) s = _
  cases s.rows.get id with
  | none => rfl
  | some record =>
    dsimp only
    split <;> rfl

/-- What reading the record of a cookie comes to: the signature throws, no handle is read, no
record is stored under it, its record is over and dropped, or its record is found. -/
inductive Looked (M : SessionManager) (s : WebState) (cookies : Option String) (name : String)
    (clock : Readings) : Except JsError (Option (String × SessionRecord)) × WebState → Prop
  | throws {error : JsError} (verified : M.verifySigned (cookieValue cookies name) = .error error) :
      Looked M s cookies name clock (.error error, s)
  | unsigned (verified : M.verifySigned (cookieValue cookies name) = .ok none) :
      Looked M s cookies name clock (.ok none, s)
  | absent {id : String} (verified : M.verifySigned (cookieValue cookies name) = .ok (some id))
      (stored : s.rows.get id = none) : Looked M s cookies name clock (.ok none, s)
  | expired {id : String} {record : SessionRecord}
      (verified : M.verifySigned (cookieValue cookies name) = .ok (some id))
      (stored : s.rows.get id = some record)
      (isOver : SessionStore.isOver record clock.idle clock.absolute = true) :
      Looked M s cookies name clock (.ok none, { s with rows := s.rows.erase id })
  | found {id : String} {record : SessionRecord}
      (verified : M.verifySigned (cookieValue cookies name) = .ok (some id))
      (stored : s.rows.get id = some record)
      (isOver : SessionStore.isOver record clock.idle clock.absolute = false) :
      Looked M s cookies name clock (.ok (some (id, record)), s)

/-- INTERNAL: reading the record of a cookie.
SOURCE: apps/web/src/auth-session.js:71-72, 115-116 -/
theorem looked (M : SessionManager) (s : WebState) (cookies : Option String) (name : String)
    (clock : Readings) :
    Looked M s cookies name clock (exec (M.lookup cookies name clock) s) := by
  unfold SessionManager.lookup
  simp only [exec_bind, exec_lift]
  rcases hverified : M.verifySigned (cookieValue cookies name) with error | id
  · exact .throws hverified
  · cases id with
    | none => exact .unsigned hverified
    | some id =>
      dsimp only
      rw [exec_bind, exec_storeGet]
      rcases hstored : s.rows.get id with _ | record
      · exact .absent hverified hstored
      · by_cases hover : SessionStore.isOver record clock.idle clock.absolute = true
        · simp only [hover, if_true]
          exact .expired hverified hstored hover
        · simp only [hover]
          exact .found hverified hstored (Bool.eq_false_iff.mpr hover)

/-- INTERNAL: what `readSession` makes of the record that was read.
SOURCE: apps/web/src/auth-session.js:73 -/
theorem exec_readSession (cookies : Option String) (clock : Readings) (s : WebState) :
    exec (M.readSession cookies clock) s =
      match exec (M.lookup cookies M.cookieName clock) s with
      | (.ok (some (id, .userSession session)), u) => (.ok (some (id, session)), u)
      | (.ok _, u) => (.ok none, u)
      | (.error error, u) => (.error error, u) := by
  unfold SessionManager.readSession
  rw [exec_bind]
  rcases exec (M.lookup cookies M.cookieName clock) s with ⟨_ | _ | ⟨id, _ | _⟩, u⟩ <;> rfl

/-- INTERNAL: what a callback makes of the record that was read.
SOURCE: apps/web/src/auth-session.js:117 -/
theorem exec_readTransaction (cookies : Option String) (clock : Readings) (s : WebState) :
    exec (M.readTransaction cookies clock) s =
      match exec (M.lookup cookies authCookie clock) s with
      | (.ok (some (id, .loginTransaction transaction)), u) => (.ok (some (id, transaction)), u)
      | (.ok _, u) => (.ok none, u)
      | (.error error, u) => (.error error, u) := by
  unfold SessionManager.readTransaction
  rw [exec_bind]
  rcases exec (M.lookup cookies authCookie clock) s with ⟨_ | _ | ⟨id, _ | _⟩, u⟩ <;> rfl

/-- INTERNAL: a cookie of a session that is not stored reads nothing.
SOURCE: apps/web/src/auth-session.js:70-74 -/
theorem readSession_none {id : String} {s : WebState} {cookies : Option String}
    (hcookie : M.verifySigned (cookieValue cookies M.cookieName) = .ok (some id))
    (hs : NoSession id s) (clock : Readings) :
    ∃ t, exec (M.readSession cookies clock) s = (.ok none, t) := by
  rw [exec_readSession]
  have hlooked := looked M s cookies M.cookieName clock
  generalize exec (M.lookup cookies M.cookieName clock) s = outcome at hlooked ⊢
  cases hlooked with
  | throws verified => cases hcookie.symm.trans verified
  | unsigned verified => cases hcookie.symm.trans verified
  | absent _ _ => exact ⟨s, rfl⟩
  | expired _ _ _ => exact ⟨_, rfl⟩
  | @found own record verified stored _ =>
    obtain rfl : id = own := Option.some.inj (Except.ok.inj (hcookie.symm.trans verified))
    cases record with
    | loginTransaction transaction => exact ⟨s, rfl⟩
    | userSession session => exact absurd stored (hs session)

/-- INTERNAL: a cookie of a transaction that is not stored reads nothing.
SOURCE: apps/web/src/auth-session.js:115-117 -/
theorem readTransaction_none {id : String} {s : WebState} {cookies : Option String}
    (hcookie : M.verifySigned (cookieValue cookies authCookie) = .ok (some id))
    (hs : NoTransaction id s) (clock : Readings) :
    ∃ t, exec (M.readTransaction cookies clock) s = (.ok none, t) := by
  rw [exec_readTransaction]
  have hlooked := looked M s cookies authCookie clock
  generalize exec (M.lookup cookies authCookie clock) s = outcome at hlooked ⊢
  cases hlooked with
  | throws verified => cases hcookie.symm.trans verified
  | unsigned verified => cases hcookie.symm.trans verified
  | absent _ _ => exact ⟨s, rfl⟩
  | expired _ _ _ => exact ⟨_, rfl⟩
  | @found own record verified stored _ =>
    obtain rfl : id = own := Option.some.inj (Except.ok.inj (hcookie.symm.trans verified))
    cases record with
    | loginTransaction transaction => exact absurd stored (hs transaction)
    | userSession session => exact ⟨s, rfl⟩

/-- INTERNAL: a login stores a transaction under the first text it draws.
SOURCE: apps/web/src/auth-session.js:91-113 -/
theorem exec_startTransaction (returnTo : String) (current : Int) (s : WebState) :
    ∃ answer transaction, exec (M.startTransaction returnTo current) s =
      (answer, { rows := s.rows.set (M.random s.draws 24) (.loginTransaction transaction)
                 draws := s.draws + 4 }) ∧
      (∀ a, answer = .ok a → a.isAuthenticated = false) := by
  unfold SessionManager.startTransaction
  simp only [exec_bind, exec_lift, SessionManager.draw, SessionStore.set, exec_get, exec_set,
    exec_modify, exec_pure]
  rcases M.redirectTo M.authorizationEndpoint _ with error | target
  · exact ⟨_, _, rfl, fun a h => nomatch h⟩
  · refine ⟨_, _, rfl, fun a ha => ?_⟩
    obtain rfl := Except.ok.inj ha
    rfl

/-- What the end of a callback comes to: it throws and stores nothing, or it stores a session
under the text it draws. -/
inductive Opened (M : SessionManager) (s : WebState) (current : Int) :
    Except JsError AuthAnswer × WebState → Prop
  | throws {error : JsError} {draws : Nat} (drawn : s.draws ≤ draws) :
      Opened M s current (.error error, { s with draws := draws })
  | signsIn {location : String} {cookies : List String} {session : UserSession}
      (created : session.createdAt = current)
      (idle : session.idleExpiresAt = current + M.idleTtlMs)
      (absolute : session.absoluteExpiresAt = current + M.absoluteTtlMs)
      (expires : ∃ payload, M.tokenExpiry payload current = .ok session.accessTokenExpiresAt) :
      Opened M s current (.ok (.signedIn location cookies),
        { rows := s.rows.set (M.random s.draws 32) (.userSession session), draws := s.draws + 1 })

/-- INTERNAL: the end of a callback.
SOURCE: apps/web/src/auth-session.js:123-150 -/
theorem opened (M : SessionManager) (s : WebState) (transaction : LoginTransaction)
    (response : TokenResponse) (current : Int) :
    Opened M s current (exec (M.openSession transaction response current) s) := by
  unfold SessionManager.openSession
  simp only [exec_bind, exec_lift, SessionManager.draw, SessionStore.set, exec_get, exec_set,
    exec_modify, exec_pure]
  rcases hexchange : exchange response with error | payload
  · simp only [hexchange]
    exact .throws le_rfl
  rcases hchecked : M.checkRefreshToken payload with error | _
  · simp only [hexchange, hchecked]
    exact .throws le_rfl
  rcases hgiven : payloadMember payload "access_token" with error | given
  · simp only [hexchange, hchecked, hgiven]
    exact .throws (Nat.le_succ _)
  rcases hrequired : required given "OIDC access token" with error | accessToken
  · simp only [hexchange, hchecked, hgiven, hrequired]
    exact .throws (Nat.le_succ _)
  rcases hexpires : M.tokenExpiry payload current with error | expiry
  · simp only [hexchange, hchecked, hgiven, hrequired, hexpires]
    exact .throws (Nat.le_succ _)
  · simp only [hexchange, hchecked, hgiven, hrequired, hexpires]
    exact .signsIn rfl rfl rfl ⟨payload, hexpires⟩

/-- INTERNAL: a session call stores its session with a later idle expiry.
SOURCE: apps/web/src/auth-session.js:155-158 -/
theorem exec_touchSession (id : String) (session : UserSession) (current : Int) (s : WebState) :
    exec (M.touchSession id session current) s =
      (AuthAnswer.authenticated session.accessToken <$> isoOfTime session.accessTokenExpiresAt,
        { s with rows := s.rows.set id (.userSession
          { session with
            idleExpiresAt := min (current + M.idleTtlMs) session.absoluteExpiresAt }) }) := by
  unfold SessionManager.touchSession
  simp only [exec_bind, exec_lift, SessionStore.set, exec_modify, exec_pure]
  rcases isoOfTime session.accessTokenExpiresAt with error | expiresAt <;> rfl

/-- What the end of a renewal comes to: it throws before it writes, or it stores the session with
new tokens. -/
inductive Renewed (M : SessionManager) (s : WebState) (id : String) (session : UserSession)
    (response : TokenResponse) (current : Int) : Except JsError AuthAnswer × WebState → Prop
  | throws {error : JsError} : Renewed M s id session response current (.error error, s)
  | renews {payload : Json} {accessToken : String} {refreshToken : Json} {expiry : Rat}
      (exchanged : exchange response = .ok payload)
      (expires : M.tokenExpiry payload current = .ok expiry) :
      Renewed M s id session response current
        (AuthAnswer.authenticated accessToken <$> isoOfTime expiry,
          { s with rows := s.rows.set id (.userSession
            { session with
              accessToken := accessToken
              refreshToken := refreshToken
              accessTokenExpiresAt := expiry
              idleExpiresAt := min (current + M.idleTtlMs) session.absoluteExpiresAt }) })

/-- INTERNAL: the end of a renewal.
SOURCE: apps/web/src/auth-session.js:163-174 -/
theorem renewed (M : SessionManager) (s : WebState) (id : String) (session : UserSession)
    (response : TokenResponse) (current : Int) :
    Renewed M s id session response current
      (exec (M.renewSession id session response current) s) := by
  unfold SessionManager.renewSession
  simp only [exec_bind, exec_lift, SessionStore.set, exec_modify, exec_pure]
  rcases hexchange : exchange response with error | payload
  · simp only [hexchange]
    exact .throws
  rcases hgiven : payloadMember payload "access_token" with error | given
  · simp only [hexchange, hgiven]
    exact .throws
  rcases hrequired : required given "OIDC access token" with error | accessToken
  · simp only [hexchange, hgiven, hrequired]
    exact .throws
  rcases hexpires : M.tokenExpiry payload current with error | expiry
  · simp only [hexchange, hgiven, hrequired, hexpires]
    exact .throws
  simp only [hexchange, hgiven, hrequired, hexpires]
  have hrenews := @Renewed.renews M s id session response current payload accessToken
    (payload.orElse "refresh_token" session.refreshToken) expiry hexchange hexpires
  rcases hiso : isoOfTime expiry with error | expiresAt <;> rw [hiso] at hrenews <;> exact hrenews

/-- INTERNAL: the store a part of a call leaves. -/
theorem landed_web (s : WebFlights) (n : Nat) (ended : List String)
    (outcome : Except JsError (AuthAnswer ⊕ Flight) × WebState) :
    (SessionManager.landed s n ended outcome).1.web = outcome.2 := by
  obtain ⟨error | answer | flight, web⟩ := outcome <;> rfl

/-- INTERNAL: a step runs one part of one call on the store. -/
theorem step_web {s t : WebFlights} {l : FlightStep} (h : M.machine.step s l = some t) :
    (∃ n c clock, l = .begin n c clock ∧ t.web = (exec (M.begin c clock) s.web).2) ∨
      ∃ n response current flight, l = .resume n response current ∧
        s.flights n = some flight ∧ t.web = (exec (M.resume flight response current) s.web).2 := by
  obtain ⟨⟨t, answer⟩, hadvance, rfl⟩ := Option.map_eq_some_iff.mp h
  cases l with
  | begin n c clock =>
    simp only [SessionManager.advance] at hadvance
    split at hadvance
    · obtain rfl := congrArg Prod.fst (Option.some.inj hadvance)
      exact Or.inl ⟨n, c, clock, rfl, landed_web _ _ _ _⟩
    · cases hadvance
  | resume n response current =>
    simp only [SessionManager.advance] at hadvance
    split at hadvance
    · cases hadvance
    · rename_i flight hflight
      obtain rfl := congrArg Prod.fst (Option.some.inj hadvance)
      exact Or.inr ⟨n, response, current, flight, rfl, hflight, landed_web _ _ _ _⟩

end

end Xygo.Analysis
