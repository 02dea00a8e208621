import Xygo.Analysis.SessionSpec

/-!
# Calls of the session manager that overlap

The store is read when a call begins and written when it goes on. A session that is logged out in
between comes back with the write (`logged_out_renewed`), and a login transaction that two
callbacks have read is consumed by both (`callback_twice`). `logged_out` and `callback_once` say
what holds along the runs in which no call writes back what was logged out, or goes on with a
transaction that is gone.
-/

set_option autoImplicit false

namespace Xygo.Analysis

open Xygo.Computation Xygo.Model Xygo.Computation.Effect

section

variable {M : SessionManager} {I : WebState → Prop}

/-- An invariant that survives the removal of records and a draw. -/
structure Fading (I : WebState → Prop) : Prop where
  filter : ∀ (s : WebState) test, I s → I { s with rows := s.rows.filter test }
  drawn : ∀ (s : WebState) (draws : Nat), s.draws ≤ draws → I s → I { s with draws := draws }

/-! ### What stands between two awaits -/

theorem Fading.delete (hI : Fading I) (id : String) : Keeps I (SessionStore.delete id) :=
  Triple.update fun s hs => hI.filter s _ hs

theorem Fading.get (hI : Fading I) (id : String) (clock : Readings) :
    Keeps I (SessionStore.get id clock) := by
  unfold SessionStore.get
  apply Triple.bind (R := fun _ => I) (Triple.get fun s hs => hs)
  intro s
  cases s.rows.get id with
  | none => exact Triple.pure fun s hs => hs
  | some record =>
    apply Triple.ite
    · intro _
      exact Triple.bind (hI.delete id) fun _ => Triple.pure fun s hs => hs
    · intro _
      exact Triple.pure fun s hs => hs

theorem Fading.cleanup (hI : Fading I) (clock : Readings) : Keeps I (SessionStore.cleanup clock) :=
  Triple.of_exec fun s hs => hI.filter s _ hs

/-- INTERNAL: reading the record of a cookie only removes records.
SOURCE: apps/web/src/auth-session.js:71-72, 115-116 -/
theorem Fading.lookup (hI : Fading I) (cookies : Option String) (name : String)
    (clock : Readings) : Keeps I (M.lookup cookies name clock) := by
  unfold SessionManager.lookup
  apply Triple.bind_lift
  · exact fun _ s _ hs => hs
  · intro id _
    cases id with
    | none => exact Triple.pure fun s hs => hs
    | some id => exact Triple.bind (hI.get id clock) fun _ => Triple.pure fun s hs => hs

theorem Fading.readSession (hI : Fading I) (cookies : Option String) (clock : Readings) :
    Keeps I (M.readSession cookies clock) := by
  unfold SessionManager.readSession
  apply Triple.bind (hI.lookup cookies _ clock)
  intro found
  split <;> exact Triple.pure fun s hs => hs

theorem Fading.readTransaction (hI : Fading I) (cookies : Option String) (clock : Readings) :
    Keeps I (M.readTransaction cookies clock) := by
  unfold SessionManager.readTransaction
  apply Triple.bind (hI.lookup cookies _ clock)
  intro found
  split <;> exact Triple.pure fun s hs => hs

theorem Fading.logout (hI : Fading I) (cookies : Option String) : Keeps I (M.logout cookies) := by
  unfold SessionManager.logout
  apply Triple.bind_lift
  · exact fun _ s _ hs => hs
  · intro id _
    apply Triple.bind (R := fun _ => I)
    · cases id with
      | none => exact Triple.pure fun s hs => hs
      | some id => exact hI.delete id
    · intro _
      apply Triple.bind_lift
      · exact fun _ s _ hs => hs
      · exact fun _ _ => Triple.pure fun s hs => hs

/-- INTERNAL: a call that begins only removes records.
SOURCE: apps/web/src/auth-session.js:89-190 -/
theorem Fading.begin (hI : Fading I) (c : AuthCall) (clock : Readings) :
    Keeps I (M.begin c clock) := by
  unfold SessionManager.begin
  cases c with
  | login returnTo => exact Triple.bind (hI.cleanup clock) fun _ => Triple.pure fun s hs => hs
  | callback query cookies =>
    apply Triple.bind (hI.readTransaction cookies clock)
    intro found
    split <;> exact Triple.pure fun s hs => hs
  | session cookies =>
    apply Triple.bind (hI.readSession cookies clock)
    intro found
    split <;> exact Triple.pure fun s hs => hs
  | renew cookies =>
    apply Triple.bind (hI.readSession cookies clock)
    intro found
    split
    · exact Triple.pure fun s hs => hs
    · apply Triple.ite <;> exact fun _ => Triple.pure fun s hs => hs
  | accessToken cookies =>
    apply Triple.map
    exact Triple.bind (hI.readSession cookies clock) fun _ => Triple.pure fun s hs => hs
  | logout cookies => exact Triple.map (hI.logout cookies)
  | cleanup => exact Triple.map (hI.cleanup clock)

end

/-! ### Sessions that were logged out -/

section

variable {M : SessionManager} {id : String}

/-- INTERNAL: what a map does not hold it does not hold after records were removed. -/
theorem get_filter_ne {rows : OrderedMap String SessionRecord} {record : SessionRecord}
    (test : String → SessionRecord → Bool) (h : rows.get id ≠ some record) :
    (rows.filter test).get id ≠ some record := by
  rw [OrderedMap.get_filter]
  intro hfilter
  exact h (Option.filter_eq_some_iff.mp hfilter).1

theorem fading_noSession (id : String) : Fading (NoSession id) where
  filter _ test hs session := get_filter_ne test (hs session)
  drawn _ _ _ hs := hs

/-- INTERNAL: a write of another record under any id, or of a session under another id, brings no
session back. -/
theorem noSession_set {s : WebState} {other : String} {record : SessionRecord}
    (hs : NoSession id s) (hrecord : (∀ session, record ≠ .userSession session) ∨ other ≠ id) :
    NoSession id { s with rows := s.rows.set other record } := by
  intro session hget
  rw [OrderedMap.get_set] at hget
  split at hget
  · rename_i hsame
    obtain hrecord | hne := hrecord
    · exact hrecord session (Option.some.inj hget)
    · exact hne hsame.symm
  · exact hs session hget

end

section

variable (M : SessionManager)

/-- A call that goes on does not bring back what was logged out: neither a session call nor a
renewal the token endpoint answered writes the record of a session that was logged out, and no
callback draws the id of one. -/
def KeepsLoggedOut (s : WebFlights) : FlightStep → Prop
  | .begin _ _ _ => True
  | .resume n response _ =>
    match s.flights n with
    | some (.session id _) => id ∉ s.loggedOut
    | some (.renew id _) => ∀ payload, exchange response = .ok payload → id ∉ s.loggedOut
    | some (.exchanging _ _) => M.random s.web.draws 32 ∉ s.loggedOut
    | _ => True

/-- What was logged out is gone. -/
def LoggedOutGone (s : WebFlights) : Prop := ∀ id ∈ s.loggedOut, NoSession id s.web

end

section

variable {M : SessionManager}

/-- INTERNAL: a part of a call in flight keeps what was logged out gone.
SOURCE: apps/web/src/auth-session.js:91-174 -/
theorem noSession_resume {s : WebFlights} {n : Nat} {flight : Flight} {response : TokenResponse}
    {current : Int} (hflight : s.flights n = some flight)
    (hguard : KeepsLoggedOut M s (.resume n response current)) {id : String}
    (hid : id ∈ s.loggedOut) (hs : NoSession id s.web) :
    NoSession id (exec (M.resume flight response current) s.web).2 := by
  have hne : ∀ other, other ∉ s.loggedOut → other ≠ id := fun other hother h => hother (h ▸ hid)
  simp only [KeepsLoggedOut, hflight] at hguard
  unfold SessionManager.resume
  cases flight with
  | login returnTo =>
    obtain ⟨answer, transaction, hexec, -⟩ := exec_startTransaction (M := M) returnTo current s.web
    simp only [store_map, hexec]
    exact noSession_set (s := { s.web with draws := _ }) hs (Or.inl fun session h => by cases h)
  | callback transactionId transaction query =>
    dsimp only
    split
    · exact (fading_noSession id).filter s.web _ hs
    · exact hs
  | exchanging transactionId transaction =>
    rw [store_map]
    have hopened := opened M s.web transaction response current
    generalize exec (M.openSession transaction response current) s.web = outcome at hopened ⊢
    cases hopened with
    | throws _ => exact hs
    | signsIn _ _ _ _ =>
      exact noSession_set (s := { s.web with draws := _ }) hs (Or.inr (hne _ hguard))
  | session other session =>
    rw [store_map, exec_touchSession]
    exact noSession_set hs (Or.inr (hne _ hguard))
  | renew other session =>
    rw [store_map]
    have hrenewed := renewed M s.web other session response current
    generalize exec (M.renewSession other session response current) s.web = outcome at hrenewed ⊢
    cases hrenewed with
    | throws => exact hs
    | renews hexchange _ => exact noSession_set hs (Or.inr (hne _ (hguard _ hexchange)))

/-- INTERNAL: a logout drops its session, and what it answers does not matter.
SOURCE: apps/web/src/auth-session.js:176-183 -/
theorem noSession_logout {id : String} {cookies : Option String}
    (hcookie : M.verifySigned (cookieValue cookies M.cookieName) = .ok (some id)) :
    Triple (fun _ => True) (M.logout cookies) (fun _ => NoSession id) fun _ => NoSession id := by
  unfold SessionManager.logout
  apply Triple.bind_lift
  · intro error s herror
    rw [hcookie] at herror
    cases herror
  intro found hfound
  obtain rfl : some id = found := Except.ok.inj (hcookie.symm.trans hfound)
  apply Triple.bind (R := fun _ => NoSession id)
  · refine Triple.update ?_
    intro s _ session hget
    simp at hget
  · intro _
    apply Triple.bind_lift
    · exact fun _ s _ hs => hs
    · exact fun _ _ => Triple.pure fun s hs => hs

/-- INTERNAL: the sessions that are logged out after a part of a call. -/
theorem mem_landed_loggedOut {s : WebFlights} {n : Nat} {ended : List String}
    {outcome : Except JsError (AuthAnswer ⊕ Flight) × WebState} {id : String}
    (h : id ∈ (SessionManager.landed s n ended outcome).1.loggedOut) :
    id ∈ s.loggedOut ∨ id ∈ ended := by
  obtain ⟨error | answer | flight, web⟩ := outcome
  · exact List.mem_append.mp h
  · exact List.mem_append.mp h
  · exact Or.inl h

/-- INTERNAL: the session a logout call logs out. -/
theorem mem_logsOut {c : AuthCall} {id : String} (h : id ∈ M.logsOut c) :
    ∃ cookies, c = .logout cookies ∧
      M.verifySigned (cookieValue cookies M.cookieName) = .ok (some id) := by
  cases c with
  | logout cookies =>
    refine ⟨cookies, rfl, ?_⟩
    unfold SessionManager.logsOut at h
    dsimp only at h
    split at h
    · rename_i own hown
      rw [List.mem_singleton.mp h]
      exact hown
    · cases h
  | login _ | callback _ _ | session _ | renew _ | accessToken _ | cleanup => cases h

/-- **Every step that meets the guard keeps what was logged out gone.** -/
theorem loggedOutGone_step {s t : WebFlights} {l : FlightStep} (hs : LoggedOutGone s)
    (hguard : KeepsLoggedOut M s l) (h : M.machine.step s l = some t) : LoggedOutGone t := by
  obtain ⟨⟨t, answer⟩, hadvance, rfl⟩ := Option.map_eq_some_iff.mp h
  intro id hid
  cases l with
  | begin n c clock =>
    simp only [SessionManager.advance] at hadvance
    split at hadvance
    · obtain rfl := congrArg Prod.fst (Option.some.inj hadvance)
      rw [landed_web]
      obtain hold | hnew := mem_landed_loggedOut hid
      · exact ((fading_noSession id).begin c clock).store (hs id hold)
      · obtain ⟨cookies, rfl, hcookie⟩ := mem_logsOut hnew
        have hgone : Triple (fun _ => True) (M.begin (.logout cookies) clock)
          (fun _ => NoSession id) fun _ => NoSession id := Triple.map (noSession_logout hcookie)
        exact hgone.store trivial
    · cases hadvance
  | resume n response current =>
    simp only [SessionManager.advance] at hadvance
    split at hadvance
    · cases hadvance
    · rename_i flight hflight
      obtain rfl := congrArg Prod.fst (Option.some.inj hadvance)
      rw [landed_web]
      obtain hold | hnew := mem_landed_loggedOut hid
      · exact noSession_resume hflight hguard hold (hs id hold)
      · cases hnew

/-- A call that asks who is signed in, with a cookie. -/
def Asks (c : AuthCall) (cookies : Option String) : Prop :=
  c = .session cookies ∨ c = .renew cookies ∨ c = .accessToken cookies

/-- INTERNAL: a call with the cookie of a session that is not stored is answered at once.
SOURCE: apps/web/src/auth-session.js:152-190 -/
theorem begin_refused {id : String} {s : WebState} {c : AuthCall} {cookies : Option String}
    (hc : Asks c cookies)
    (hcookie : M.verifySigned (cookieValue cookies M.cookieName) = .ok (some id))
    (hs : NoSession id s) (clock : Readings) :
    ∃ a t, exec (M.begin c clock) s = (.ok (.inl a), t) ∧ a.isAuthenticated = false := by
  obtain ⟨t, hread⟩ := readSession_none hcookie hs clock
  obtain rfl | rfl | rfl := hc
  · exact ⟨.unauthenticated none, t, by simp only [SessionManager.begin, exec_bind, hread]; rfl, rfl⟩
  · exact ⟨SessionManager.notRenewable, t, by simp only [SessionManager.begin, exec_bind, hread]; rfl, rfl⟩
  · refine ⟨.token none, t, ?_, rfl⟩
    simp only [SessionManager.begin, SessionManager.accessToken, exec_map, exec_bind, hread]
    rfl

end

section

variable (M : SessionManager)

/-- What a call that begins in a state is answered: at once, or when it goes on after steps of
other calls. -/
inductive CallAnswered (s : WebFlights) (m : Nat) (c : AuthCall) (clock : Readings) :
    AuthAnswer → Prop
  | atOnce {t : WebFlights} {a : AuthAnswer}
      (answered : M.advance s (.begin m c clock) = some (t, some (.ok a))) :
      CallAnswered s m c clock a
  | later {t u v : WebFlights} {others : List FlightStep} {response : TokenResponse}
      {current : Int} {a : AuthAnswer}
      (begun : M.advance s (.begin m c clock) = some (t, none))
      (run : M.machine.run t others = some u)
      (apart : ∀ r k, FlightStep.resume m r k ∉ others)
      (answered : M.advance u (.resume m response current) = some (v, some (.ok a))) :
      CallAnswered s m c clock a

/-- **What a logout promises along a run**: a call that begins after it with a cookie of the
session is not answered as authenticated. -/
def LogoutEnds (start : WebFlights) (ls : List FlightStep) : Prop :=
  ∀ before after n out clock id t, ls = before ++ .begin n (.logout out) clock :: after →
    M.machine.run start ls = some t →
    M.verifySigned (cookieValue out M.cookieName) = .ok (some id) →
    ∀ cookies c m clock' a, Asks c cookies →
      M.verifySigned (cookieValue cookies M.cookieName) = .ok (some id) →
      CallAnswered M t m c clock' a → a.isAuthenticated = false

end

section

variable {M : SessionManager}

/-- INTERNAL: a step forgets no logout. -/
theorem loggedOut_step {s t : WebFlights} {l : FlightStep} (h : M.machine.step s l = some t)
    {id : String} (hid : id ∈ s.loggedOut) : id ∈ t.loggedOut := by
  obtain ⟨⟨t, answer⟩, hadvance, rfl⟩ := Option.map_eq_some_iff.mp h
  have hlanded : ∀ n ended outcome, id ∈ (SessionManager.landed s n ended outcome).1.loggedOut := by
    intro n ended outcome
    obtain ⟨error | answer | flight, web⟩ := outcome
    · exact List.mem_append_left _ hid
    · exact List.mem_append_left _ hid
    · exact hid
  cases l with
  | begin n c clock =>
    simp only [SessionManager.advance] at hadvance
    split at hadvance
    · obtain rfl := congrArg Prod.fst (Option.some.inj hadvance)
      exact hlanded _ _ _
    · cases hadvance
  | resume n response current =>
    simp only [SessionManager.advance] at hadvance
    split at hadvance
    · cases hadvance
    · obtain rfl := congrArg Prod.fst (Option.some.inj hadvance)
      exact hlanded _ _ _

/-- INTERNAL: a logout call that begins is over, and its session is logged out.
SOURCE: apps/web/src/auth-session.js:176-183 -/
theorem loggedOut_logout {s t : WebFlights} {n : Nat} {out : Option String} {clock : Readings}
    {id : String} (hcookie : M.verifySigned (cookieValue out M.cookieName) = .ok (some id))
    (h : M.machine.step s (.begin n (.logout out) clock) = some t) : id ∈ t.loggedOut := by
  obtain ⟨⟨t, answer⟩, hadvance, rfl⟩ := Option.map_eq_some_iff.mp h
  have hended : M.logsOut (.logout out) = [id] := by simp [SessionManager.logsOut, hcookie]
  simp only [SessionManager.advance, hended] at hadvance
  split at hadvance
  · obtain rfl := congrArg Prod.fst (Option.some.inj hadvance)
    rcases hrun : exec (M.begin (.logout out) clock) s.web with ⟨error | answer | flight, web⟩
    · exact List.mem_append_right _ (List.mem_singleton_self id)
    · exact List.mem_append_right _ (List.mem_singleton_self id)
    · simp only [SessionManager.begin, exec_map] at hrun
      split at hrun <;> cases hrun
  · cases hadvance

/-- **A logout ends its session for every call that begins later, in every run in which no call
brings back what was logged out.**
SOURCE: apps/web/src/auth-session.js:152-190 -/
theorem logged_out {start : WebFlights} {ls : List FlightStep} (hstart : start.loggedOut = [])
    (hguard : M.machine.Meets (KeepsLoggedOut M) start ls) : LogoutEnds M start ls := by
  rintro before after n out clock id t rfl hrun hout cookies c m clock' a hc hcookie hanswered
  have hgone : LoggedOutGone t := by
    apply M.machine.invariant_of_meets (fun s l t hs hl hstep => loggedOutGone_step hs hl hstep)
      _ hguard hrun
    intro id hid
    rw [hstart] at hid
    cases hid
  have hid : id ∈ t.loggedOut := by
    rw [M.machine.run_append] at hrun
    obtain ⟨s, -, hrun⟩ := Option.bind_eq_some_iff.mp hrun
    obtain ⟨u, hstep, hrun⟩ := Option.bind_eq_some_iff.mp hrun
    exact M.machine.invariant (fun s l t hs hstep => loggedOut_step hstep hs)
      (loggedOut_logout hout hstep) hrun
  obtain ⟨a', web, hbegin, hrefused⟩ := begin_refused hc hcookie (hgone id hid) clock'
  have hended : ∀ u answer, M.advance t (.begin m c clock') = some (u, answer) →
      answer = some (.ok a') := by
    intro u answer hadvance
    simp only [SessionManager.advance, hbegin] at hadvance
    split at hadvance
    · exact (congrArg Prod.snd (Option.some.inj hadvance)).symm
    · cases hadvance
  cases hanswered with
  | atOnce answered =>
    obtain rfl := Except.ok.inj (Option.some.inj (hended _ _ answered))
    exact hrefused
  | later begun _ _ _ => cases hended _ _ begun

end

/-- A manager that counts its draws and signs every text alike. -/
def countingSessions : SessionManager where
  platform := ⟨fun _ => "", fun _ _ => "", id⟩
  sign _ _ := "signed"
  challenge verifier := verifier
  random n _ := String.ofList (List.replicate (n + 1) 'i')
  number _ := some 3600
  validUrl _ := true
  clientId := "web"
  redirectUri := "http://127.0.0.1:4173/auth/callback"
  postLogoutRedirectUri := "http://127.0.0.1:4173/"
  authorizationEndpoint := "https://idp.test/authorize"
  endSessionEndpoint := "https://idp.test/logout"
  audience := "xygo"
  scopes := ["openid"]
  secret := "secret"
  cookieName := "__Host-xygo-session"
  idleTtlMs := 1800000
  absoluteTtlMs := 28800000
  transactionTtlMs := 300000
  tokenClockToleranceSec := 30
  requireRefreshToken := true

/-- A clock that stands. -/
def standing (now : Int) : Readings := ⟨fun _ => (now, now), now, now, now⟩

/-- A token response with an access and a refresh token. -/
def granted : TokenResponse := .answered 200 (.object [("access_token", .string "access"),
  ("refresh_token", .string "refresh"), ("token_type", .string "bearer")])

/-- The cookie of the first login, and that of the session its callback opens. -/
def transactionCookie : Option String := some "__Host-xygo-auth=i.signed"

def sessionCookie : Option String := some "__Host-xygo-session=iiiii.signed"

/-- The query of the callback of the first login. -/
def firstQuery : CallbackQuery := ⟨some "ii", some "code", none⟩

/-- A login and its callback. -/
def signIn : List FlightStep := [
  .begin 0 (.login "/control-room") (standing 1000), .resume 0 granted 1000,
  .begin 0 (.callback firstQuery transactionCookie) (standing 2000), .resume 0 granted 2000,
  .resume 0 granted 2000]

/-- A session call, and then a logout. -/
def signedOutSteps : List FlightStep := signIn ++ [
  .begin 1 (.session sessionCookie) (standing 3000), .resume 1 granted 3000,
  .begin 2 (.logout sessionCookie) (standing 4000)]

/-- A renewal that is still at the token endpoint when a logout runs. -/
def renewedSteps : List FlightStep := signIn ++ [
  .begin 1 (.renew sessionCookie) (standing 3000),
  .begin 2 (.logout sessionCookie) (standing 4000), .resume 1 granted 5000]

/-- A decision of `KeepsLoggedOut`; a renewal counts as answered. -/
def keepsLoggedOut (s : WebFlights) : FlightStep → Bool
  | .begin _ _ _ => true
  | .resume n _ _ =>
    match s.flights n with
    | some (.session id _) | some (.renew id _) => id ∉ s.loggedOut
    | some (.exchanging _ _) => countingSessions.random s.web.draws 32 ∉ s.loggedOut
    | _ => true

theorem keepsLoggedOut_sound (s : WebFlights) (l : FlightStep) (h : keepsLoggedOut s l = true) :
    KeepsLoggedOut countingSessions s l := by
  cases l with
  | begin n c clock => trivial
  | resume n response current =>
    unfold keepsLoggedOut at h
    unfold KeepsLoggedOut
    dsimp only at h ⊢
    rcases hflight : s.flights n with _ | flight
    · trivial
    · rw [hflight] at h
      cases flight with
      | login _ | callback _ _ _ => trivial
      | exchanging _ _ | session _ _ => exact of_decide_eq_true h
      | renew id session => exact fun _ _ => of_decide_eq_true h

/-- After a session call and a logout the session is over. -/
theorem logged_out_signedOut :
    ∃ t, countingSessions.machine.run { web := {} } signedOutSteps = some t ∧
      ∀ m clock a, CallAnswered countingSessions t m (.session sessionCookie) clock a →
        a.isAuthenticated = false := by
  have hsome : (countingSessions.machine.run { web := {} } signedOutSteps).isSome = true := by
    decide +kernel
  obtain ⟨t, ht⟩ := Option.isSome_iff_exists.mp hsome
  refine ⟨t, ht, ?_⟩
  have hguard : countingSessions.machine.Meets (KeepsLoggedOut countingSessions) { web := {} }
      signedOutSteps :=
    countingSessions.machine.meets_of_check keepsLoggedOut_sound _ _ (by decide +kernel)
  have hcookie : countingSessions.verifySigned
      (cookieValue sessionCookie countingSessions.cookieName) = .ok (some "iiiii") := by
    decide +kernel
  intro m clock a hanswered
  exact logged_out rfl hguard (signedOutSteps.take 7) [] 2 sessionCookie (standing 4000) "iiiii" t rfl
    ht hcookie sessionCookie (.session sessionCookie) m clock a (Or.inl rfl) hcookie hanswered

/-- **A renewal that ends after a logout signs the user in again**: it writes back the record it
read before, and a session call that begins later is answered with the access token.
SOURCE: apps/web/src/auth-session.js:160-183 -/
theorem logged_out_renewed :
    ¬ ∀ (M : SessionManager) (start : WebFlights) (ls : List FlightStep),
      start.loggedOut = [] → LogoutEnds M start ls := by
  intro hall
  have hrun : ((countingSessions.machine.run { web := {} } renewedSteps).bind fun t =>
      (countingSessions.advance t (.begin 3 (.session sessionCookie) (standing 6000))).bind fun p =>
        (countingSessions.advance p.1 (.resume 3 granted 6000)).bind fun q =>
          if p.2.isNone then q.2.bind fun answer => answer.toOption.map AuthAnswer.isAuthenticated
          else none) = some true := by
    decide +kernel
  obtain ⟨t, ht, hrun⟩ := Option.bind_eq_some_iff.mp hrun
  obtain ⟨⟨u, begun⟩, hbegun, hrun⟩ := Option.bind_eq_some_iff.mp hrun
  obtain ⟨⟨v, answer⟩, hanswered, hrun⟩ := Option.bind_eq_some_iff.mp hrun
  cases begun with
  | some _ => cases hrun
  | none =>
    obtain ⟨answer, rfl, hanswer⟩ := Option.bind_eq_some_iff.mp hrun
    cases answer with
    | error _ => cases hanswer
    | ok a =>
      have hcookie : countingSessions.verifySigned
          (cookieValue sessionCookie countingSessions.cookieName) = .ok (some "iiiii") := by
        decide +kernel
      have hnone : countingSessions.machine.run u [] = some u := rfl
      have hrefused := hall countingSessions { web := {} } renewedSteps rfl
        (renewedSteps.take 6) [.resume 1 granted 5000] 2 sessionCookie (standing 4000) "iiiii" t rfl ht
        hcookie sessionCookie (.session sessionCookie) 3 (standing 6000) a (Or.inl rfl) hcookie
        (.later hbegun hnone (fun _ _ h => by cases h) hanswered)
      cases hrefused.symm.trans (Option.some.inj hanswer)

end Xygo.Analysis
