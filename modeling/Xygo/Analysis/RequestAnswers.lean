import Xygo.Model.RequestListener

/-!
# Whether a request is answered

The listener parses the target of a request with a constructor that may throw, and nothing around
it catches that. `listener_returns_iff` says that this is the only way it fails: it returns exactly
on an `OPTIONS` request and on a target the constructor takes. From there on every handler sends
what it has to send (`Delivers`), but for one: an event stream sends its head before it has built
its first event, so a repository whose lists throw leaves the response without a byte.
-/

set_option autoImplicit false

namespace Xygo.Analysis

open Xygo.Computation Xygo.Model

/-! ### What sends a response -/

/-- Header fields that can all be sent. -/
def validFields (fields : HeaderFields) : Bool := fields.all fun field => validHeaderValue field.2

theorem validFields_iff {fields : HeaderFields} :
    validFields fields = true ↔ ∀ field ∈ fields, validHeaderValue field.2 = true := by
  unfold validFields
  exact List.all_eq_true

/-- A value found in valid fields is valid. -/
theorem valid_of_lookup {fields : HeaderFields} {name value : String}
    (hfields : validFields fields = true) (h : fields.lookup name = some value) :
    validHeaderValue value = true := by
  induction fields with
  | nil => cases h
  | cons field fields ih =>
    rw [validFields_iff] at hfields
    rw [List.lookup_cons] at h
    split at h
    · obtain rfl := Option.some.inj h
      exact hfields field List.mem_cons_self
    · refine ih (validFields_iff.mpr ?_) h
      intro other hother
      exact hfields other (List.mem_cons_of_mem _ hother)

/-- Valid fields spread over valid ones are valid. -/
theorem validFields_spread {base extra : HeaderFields} (hbase : validFields base = true)
    (hextra : validFields extra = true) : validFields (spreadHeaders base extra) = true := by
  rw [validFields_iff]
  intro field hfield
  unfold spreadHeaders at hfield
  obtain hmem | hmem := List.mem_append.mp hfield
  · obtain ⟨own, hown, rfl⟩ := List.mem_map.mp hmem
    show validHeaderValue ((extra.lookup own.1).getD own.2) = true
    cases hlookup : extra.lookup own.1 with
    | none => exact validFields_iff.mp hbase own hown
    | some value => exact valid_of_lookup hextra hlookup
  · exact validFields_iff.mp hextra field (List.mem_of_mem_filter hmem)

/-- The headers of every answer. -/
theorem validFields_base {extra : HeaderFields} (h : validFields extra = true) :
    validFields (baseResponseHeaders extra) = true :=
  validFields_spread (by decide +kernel) h

/-- A head is taken when it is the first one and there is nothing wrong with it. -/
theorem exec_writeHead {res : ServerResponse} {status : ℕ} {fields : HeaderFields}
    (hres : res.head = none) (hstatus : 100 ≤ status ∧ status ≤ 999)
    (hfields : validFields fields = true) :
    Effect.exec (writeHead status fields) res =
      (.ok (), { res with head := some (status, spreadHeaders res.headers fields) }) := by
  have hrange : ¬ (status < 100 ∨ 999 < status) := by omega
  have hvalid : (fields.all fun field => validHeaderValue field.2) = true := hfields
  unfold writeHead ServerResponse.headersSent
  simp [hres, hrange, hvalid]

/-- A first head is taken, or it is refused and nothing is done. -/
theorem exec_writeHead_cases {res : ServerResponse} (hres : res.head = none) (status : ℕ)
    (fields : HeaderFields) :
    Effect.exec (writeHead status fields) res =
        (.ok (), { res with head := some (status, spreadHeaders res.headers fields) }) ∨
      ∃ error, Effect.exec (writeHead status fields) res = (.error error, res) := by
  by_cases hstatus : 100 ≤ status ∧ status ≤ 999
  · by_cases hfields : validFields fields = true
    · exact Or.inl (exec_writeHead hres hstatus hfields)
    · have hrange : ¬ (status < 100 ∨ 999 < status) := by omega
      have hvalid : (fields.all fun field => validHeaderValue field.2) = false := by
        simpa [validFields] using hfields
      right
      unfold writeHead ServerResponse.headersSent
      simp [hres, hrange, hvalid]
  · have hrange : status < 100 ∨ 999 < status := by omega
    right
    unfold writeHead ServerResponse.headersSent
    simp [hres, hrange]

/-- `m` answers every response that has no head yet. -/
def Delivers (m : ResponseM Unit) : Prop :=
  ∀ res, res.head = none → ∃ next, Effect.exec m res = (.ok (), next) ∧ next.answered = true

/-- `m` answers a response that has no head yet, or it throws and leaves it without one. -/
def DeliversOrThrows (m : ResponseM Unit) : Prop :=
  ∀ res, res.head = none →
    (∃ next, Effect.exec m res = (.ok (), next) ∧ next.answered = true) ∨
      ∃ error next, Effect.exec m res = (.error error, next) ∧ next.head = none

theorem Delivers.orThrows {m : ResponseM Unit} (h : Delivers m) : DeliversOrThrows m :=
  fun res hres => Or.inl (h res hres)

/-- A head that is taken and an end are an answer; a refused head leaves the response. -/
theorem deliversOrThrows_end (status : ℕ) (fields : HeaderFields) (body : Option ResponseBody) :
    DeliversOrThrows (do writeHead status fields; endWith body) := by
  intro res hres
  obtain hhead | ⟨error, hhead⟩ := exec_writeHead_cases hres status fields
  · left
    refine ⟨{ res with
      head := some (status, spreadHeaders res.headers fields)
      written := res.written ++ body.toList
      ended := true }, ?_, ?_⟩
    · rw [Effect.exec_bind, hhead]
      rfl
    · simp [ServerResponse.answered]
  · right
    refine ⟨error, res, ?_, hres⟩
    rw [Effect.exec_bind, hhead]

/-- A valid head is taken. -/
theorem delivers_end {status : ℕ} {fields : HeaderFields} (body : Option ResponseBody)
    (hstatus : 100 ≤ status ∧ status ≤ 999) (hfields : validFields fields = true) :
    Delivers (do writeHead status fields; endWith body) := by
  intro res hres
  obtain hdelivered | ⟨error, next, hexec, _⟩ := deliversOrThrows_end status fields body res hres
  · exact hdelivered
  · rw [Effect.exec_bind, exec_writeHead hres hstatus hfields] at hexec
    cases hexec

/-- Without a head, `sendJson` writes one and ends the response. -/
theorem exec_sendJson {res : ServerResponse} (hres : res.head = none) (status : ℕ) (body : Json)
    (extra : HeaderFields) :
    Effect.exec (sendJson status body extra) res = Effect.exec (do
      writeHead status
        (baseResponseHeaders (spreadHeaders [("content-type", "application/json")] extra))
      endWith (some (.json body))) res := by
  unfold sendJson ServerResponse.headersSent
  simp [hres]

theorem delivers_sendJson {status : ℕ} {body : Json} {extra : HeaderFields}
    (hstatus : 100 ≤ status ∧ status ≤ 999) (hextra : validFields extra = true) :
    Delivers (sendJson status body extra) := by
  intro res hres
  rw [exec_sendJson hres]
  refine delivers_end _ hstatus (validFields_base ?_) res hres
  exact validFields_spread (by decide +kernel) hextra

theorem deliversOrThrows_sendJson (status : ℕ) (body : Json) (extra : HeaderFields) :
    DeliversOrThrows (sendJson status body extra) := by
  intro res hres
  rw [exec_sendJson hres]
  exact deliversOrThrows_end _ _ _ res hres

/-- The answer to a failure is always sent. -/
theorem delivers_sendFailure (message : String) (failure : RequestFailure) :
    Delivers (sendFailure message failure) := by
  cases failure with
  | authError code text => exact delivers_sendJson (by omega) rfl
  | other error => exact delivers_sendJson (by omega) rfl

/-- A response that has its head is left alone by the answer to a failure. -/
theorem exec_sendFailure_of_head {res : ServerResponse} (hres : res.head.isSome = true)
    (message : String) (failure : RequestFailure) :
    Effect.exec (sendFailure message failure) res = (.ok (), res) := by
  cases failure <;>
    simp [sendFailure, authErrorResponse, sendJson, ServerResponse.headersSent, hres]

/-- The `catch` of a chain answers what its `then` did not. -/
theorem delivers_caught {message : String} {m : ResponseM Unit} (h : DeliversOrThrows m) :
    Delivers (caught message m) := by
  intro res hres
  unfold caught
  rw [Effect.exec_tryCatch]
  obtain ⟨next, hexec, hanswered⟩ | ⟨error, next, hexec, hnext⟩ := h res hres
  · rw [hexec]
    exact ⟨next, rfl, hanswered⟩
  · rw [hexec]
    exact delivers_sendFailure message (.other error) next hnext

/-- A result of the routes is sent, or it is refused as a whole. -/
theorem deliversOrThrows_sendResult (result : ApiResult) : DeliversOrThrows (sendResult result) := by
  unfold sendResult
  split
  · rename_i bytes hbody
    intro res hres
    have hexec : Effect.exec (do
        let current ← get
        if current.headersSent then return ()
        writeHead result.status result.headers
        endWith (some (.buffer bytes)) : ResponseM Unit) res =
          Effect.exec (do
            writeHead result.status result.headers
            endWith (some (.buffer bytes))) res := by
      simp [ServerResponse.headersSent, hres]
    rw [hexec]
    exact deliversOrThrows_end _ _ _ res hres
  · exact deliversOrThrows_sendJson _ _ _
  · exact deliversOrThrows_sendJson _ _ _

theorem delivers_answerReadiness (outcome : Except JsError (List (String × Json))) :
    Delivers (answerReadiness outcome) := by
  cases outcome with
  | ok readiness => exact delivers_sendJson (by omega) rfl
  | error error => exact delivers_sendJson (by omega) rfl

theorem delivers_answerMetrics (S : ApiServer) : Delivers (answerMetrics S) :=
  delivers_end _ (by omega) (validFields_base (by decide +kernel))

/-! ### The head of a stream -/

/-- A response nothing was done to. -/
structure Unwritten (res : ServerResponse) : Prop where
  head : res.head = none
  written : res.written = []
  ended : res.ended = false

/-- The header fields of a stream. -/
def streamFields : HeaderFields :=
  baseResponseHeaders [("content-type", "text/event-stream"), ("cache-control", "no-cache"),
    ("connection", "keep-alive")]

/-- A response with the head of a stream. -/
def withStreamHead (res : ServerResponse) : ServerResponse :=
  { res with head := some (200, spreadHeaders res.headers streamFields) }

theorem exec_streamHead {res : ServerResponse} (hres : res.head = none) :
    Effect.exec (writeHead 200 streamFields) res = (.ok (), withStreamHead res) :=
  exec_writeHead hres (by omega) (validFields_base (by decide +kernel))

/-- The stream of a tenant's own principal: its head, and the first event. -/
theorem exec_openStream {view : RepositoryView} {tenantId : String} {principal : RequestPrincipal}
    {res : ServerResponse} (hres : res.head = none)
    (howner : ofTenant? principal tenantId = true) :
    Effect.exec (openStream view tenantId principal) res = Effect.exec (do
      let snapshot ← liftM (buildTenantEventSnapshot tenantId view.lists)
      writeBody (.text (formatSseEvent "snapshot" snapshot.toJson))) (withStreamHead res) := by
  unfold openStream
  rw [howner]
  show Effect.exec (do
    writeHead 200 streamFields
    let snapshot ← liftM (buildTenantEventSnapshot tenantId view.lists)
    writeBody (.text (formatSseEvent "snapshot" snapshot.toJson))) res = _
  rw [Effect.exec_bind, exec_streamHead hres]

/-- A stream whose first event can be built is answered; so is one of another tenant. -/
theorem delivers_openStream {view : RepositoryView} {tenantId : String}
    {principal : RequestPrincipal}
    (h : ofTenant? principal tenantId = true →
      ∃ snapshot, buildTenantEventSnapshot tenantId view.lists = .ok snapshot) :
    Delivers (openStream view tenantId principal) := by
  intro res hres
  cases howner : ofTenant? principal tenantId with
  | false =>
    unfold openStream
    rw [howner]
    exact delivers_sendJson (by omega) rfl res hres
  | true =>
    obtain ⟨snapshot, hsnapshot⟩ := h howner
    refine ⟨{ withStreamHead res with
      written := res.written ++ [.text (formatSseEvent "snapshot" snapshot.toJson)] }, ?_, ?_⟩
    · rw [exec_openStream hres howner, hsnapshot]
      rfl
    · simp [ServerResponse.answered, withStreamHead]

/-- The head of a stream alone is kept back. -/
theorem answered_withStreamHead {res : ServerResponse} (hres : Unwritten res) :
    (withStreamHead res).answered = false := by
  simp [ServerResponse.answered, withStreamHead, hres.written, hres.ended]

/-- After a stream whose first event cannot be built nothing else is sent. -/
theorem openStream_stalls {view : RepositoryView} {tenantId message : String}
    {principal : RequestPrincipal} {error : JsError} {res : ServerResponse} (hres : Unwritten res)
    (howner : ofTenant? principal tenantId = true)
    (hsnapshot : buildTenantEventSnapshot tenantId view.lists = .error error) :
    Effect.exec (caught message (openStream view tenantId principal)) res =
      (.ok (), withStreamHead res) := by
  unfold caught
  rw [Effect.exec_tryCatch, exec_openStream hres.head howner, hsnapshot]
  exact exec_sendFailure_of_head rfl message (.other error)

/-! ### The listener -/

theorem exec_respond {α : Type} (m : ResponseM α) (exchange : Exchange) :
    Effect.exec (respond m) exchange = ((Effect.exec m exchange.response).1,
      { exchange with response := (Effect.exec m exchange.response).2 }) := rfl

theorem exec_await (phase : ExchangePhase) (exchange : Exchange) :
    Effect.exec (await phase) exchange = (.ok (), { exchange with phase := phase }) := rfl

/-- An exchange that waits for something has not answered yet. -/
structure Waiting (exchange : Exchange) : Prop where
  phase : exchange.phase.settled = false
  response : Unwritten exchange.response

/-- An exchange that is answered. -/
structure Answered (exchange : Exchange) : Prop where
  phase : exchange.phase = .finished
  response : exchange.response.answered = true

/-- What every exchange is that went well: one that waits, one that is answered, or one whose
client went away. -/
def OnCourse (exchange : Exchange) : Prop :=
  Waiting exchange ∨ Answered exchange ∨ exchange.phase = .gone

/-- An operation on the response, and then a wait. -/
theorem exec_respond_await {m : ResponseM Unit} {exchange : Exchange} {res : ServerResponse}
    (h : Effect.exec m exchange.response = (.ok (), res)) (phase : ExchangePhase) :
    Effect.exec (do respond m; await phase) exchange =
      (.ok (), { exchange with response := res, phase := phase }) := by
  rw [Effect.exec_bind, exec_respond, h]
  rfl

section

variable (S : ApiServer) (moment : ServerMoment) (request : DeliveredRequest)

/-- The requests the listener gets past its URL with. -/
def Accepted : Prop :=
  request.method = "OPTIONS" ∨ (S.newUrl request.target "http://127.0.0.1").isSome = true

/-- What the listener leaves in the exchange when it returns. -/
def Returns (m : ListenerM Unit) (exchange : Exchange) : Prop :=
  ∃ next, Effect.exec m exchange = (.ok (), next) ∧ OnCourse next

variable {S moment request}

theorem returns_respond {m : ResponseM Unit} (hm : Delivers m) {exchange : Exchange}
    (hphase : exchange.phase = .finished) (hres : exchange.response.head = none) :
    Returns (respond m) exchange := by
  obtain ⟨res, hexec, hanswered⟩ := hm exchange.response hres
  refine ⟨{ exchange with response := res }, ?_, Or.inr (Or.inl ⟨hphase, hanswered⟩)⟩
  rw [exec_respond, hexec]

theorem returns_await {phase : ExchangePhase} {exchange : Exchange} (hphase : phase.settled = false)
    (hres : Unwritten exchange.response) : Returns (await phase) exchange :=
  ⟨_, exec_await phase exchange, Or.inl ⟨hphase, hres⟩⟩

/-- The texts of a refusal are header values. -/
theorem delivers_refuseRate (limiter : RateLimiter) (decision : RateDecision) :
    Delivers (refuseRate limiter decision) := by
  refine delivers_sendJson (by omega) (validFields_iff.mpr ?_)
  intro field hfield
  simp only [List.mem_cons, List.not_mem_nil, or_false] at hfield
  rcases hfield with rfl | rfl | rfl
  · exact (limiter.numberText decision.retryAfterSec).property
  · exact (limiter.numberText decision.limit).property
  · exact (limiter.numberText decision.remaining).property

/-- The limiter lets a request pass, or the request is answered. -/
theorem rateLimited_cases (request : DeliveredRequest) (now : ℤ) {exchange : Exchange}
    (hphase : exchange.phase = .finished) (hres : Unwritten exchange.response) :
    ∃ refused next, Effect.exec (rateLimited request now) exchange = (.ok refused, next) ∧
      next.phase = .finished ∧
      (refused = true ∧ next.response.answered = true ∨
        refused = false ∧ Unwritten next.response) := by
  unfold rateLimited
  rcases hcheck : exchange.limiter.check request.rateLimitKey now with ⟨decision, limiter⟩
  cases hallowed : decision.allowed with
  | true =>
    refine ⟨false, { exchange with limiter := limiter }, ?_, hphase, Or.inr ⟨rfl, hres⟩⟩
    simp [hcheck, hallowed]
  | false =>
    obtain ⟨res, hexec, hanswered⟩ := delivers_refuseRate limiter decision _ hres.head
    refine ⟨true, { exchange with limiter := limiter, response := res }, ?_, hphase,
      Or.inl ⟨rfl, hanswered⟩⟩
    simp [hcheck, hallowed, exec_respond, hexec]

/-- Past its URL the listener returns. -/
theorem returns_dispatch (moment : ServerMoment) (request : DeliveredRequest) (path : String)
    {exchange : Exchange} (hphase : exchange.phase = .finished)
    (hres : Unwritten exchange.response) : Returns (dispatch moment request path) exchange := by
  unfold dispatch
  split
  · exact returns_respond (delivers_sendJson (by omega) rfl) hphase hres.head
  split
  · exact returns_await rfl hres
  split
  · exact returns_await rfl hres
  split
  · exact returns_respond (delivers_sendJson (by omega) rfl) hphase hres.head
  obtain ⟨refused, next, hexec, hnext, ⟨rfl, hanswered⟩ | ⟨rfl, hunwritten⟩⟩ :=
    rateLimited_cases request moment.now hphase hres
  · refine ⟨next, ?_, Or.inr (Or.inl ⟨hnext, hanswered⟩)⟩
    rw [Effect.exec_bind, hexec]
    rfl
  · cases hstream : streamTenant request.method path with
    | none =>
      have hawait : Returns (await .body) next := returns_await rfl hunwritten
      obtain ⟨last, hlast, hcourse⟩ := hawait
      refine ⟨last, ?_, hcourse⟩
      rw [Effect.exec_bind, hexec]
      exact hlast
    | some tenantId =>
      have hawait : Returns (await (.streamPrincipal tenantId)) next :=
        returns_await rfl hunwritten
      obtain ⟨last, hlast, hcourse⟩ := hawait
      refine ⟨last, ?_, hcourse⟩
      rw [Effect.exec_bind, hexec]
      exact hlast

/-- The identifier of a request can be sent back. -/
theorem exec_setHeader (value : FieldValue) (exchange : Exchange) :
    Effect.exec (respond (setHeader "x-request-id" value.val)) exchange =
      (.ok (), { exchange with response := { exchange.response with
        headers := spreadHeaders exchange.response.headers [("x-request-id", value.val)] } }) := by
  have hvalid := value.property
  rw [exec_respond]
  unfold setHeader
  simp [hvalid]

/-- Two operations on the response, in order. -/
theorem exec_respond_bind (m n : ResponseM Unit) (exchange : Exchange) :
    Effect.exec (do respond m; respond n) exchange =
      Effect.exec (respond (do m; n)) exchange := by
  rw [Effect.exec_bind, exec_respond, exec_respond, Effect.exec_bind]
  rcases Effect.exec m exchange.response with ⟨_ | _, res⟩ <;> rfl

/-- The answer to `OPTIONS`. -/
theorem returns_options {exchange : Exchange} (hphase : exchange.phase = .finished)
    (hres : exchange.response.head = none) :
    Returns (do respond (writeHead 204 corsHeaders); respond (endWith none)) exchange := by
  have hdelivers : Delivers (do writeHead 204 corsHeaders; endWith none) :=
    delivers_end none (by omega) (by decide +kernel)
  unfold Returns
  rw [exec_respond_bind]
  exact returns_respond hdelivers hphase hres

/-- The exchange the listener begins with, once it has named the request. -/
def named (moment : ServerMoment) (request : DeliveredRequest) : Exchange where
  limiter := moment.limiter
  response :=
    { headers := spreadHeaders [] [("x-request-id",
        ((request.fields "x-request-id").getD moment.randomUUID).val)] }

/-- **The listener returns** exactly on the requests whose target it need not parse, and on those
whose target the constructor takes. -/
theorem requestListener_cases (S : ApiServer) (moment : ServerMoment) (request : DeliveredRequest) :
    (Accepted S request →
      Returns (requestListener S moment request) { limiter := moment.limiter }) ∧
    (¬ Accepted S request → Effect.exec (requestListener S moment request)
      { limiter := moment.limiter } =
        (.error { message := "Invalid URL", code := some "ERR_INVALID_URL" },
          named moment request)) := by
  have hunwritten : Unwritten (named moment request).response := ⟨rfl, rfl, rfl⟩
  unfold requestListener Returns
  rw [Effect.exec_bind, exec_setHeader]
  dsimp only
  by_cases hoptions : request.method = "OPTIONS"
  · rw [if_pos hoptions]
    exact ⟨fun _ => returns_options rfl rfl, fun h => absurd (Or.inl hoptions) h⟩
  · rw [if_neg hoptions]
    cases hurl : S.newUrl request.target "http://127.0.0.1" with
    | none =>
      constructor
      · rintro (h | h)
        · exact absurd h hoptions
        · rw [hurl] at h
          cases h
      · intro _
        rfl
    | some url =>
      constructor
      · intro _
        exact returns_dispatch moment request url.pathname rfl hunwritten
      · intro h
        refine absurd (Or.inr ?_) h
        rw [hurl]
        rfl

/-- The exchange an accepted request leaves. -/
theorem listened_onCourse {S : ApiServer} {moment : ServerMoment} {request : DeliveredRequest}
    (h : Accepted S request) : OnCourse (listened S moment request) := by
  obtain ⟨next, hexec, hcourse⟩ := (requestListener_cases S moment request).1 h
  unfold listened
  rw [hexec]
  exact hcourse

/-- The exchange a rejected target leaves. -/
theorem listened_threw {S : ApiServer} {moment : ServerMoment} {request : DeliveredRequest}
    (h : ¬ Accepted S request) :
    (∃ error, (listened S moment request).phase = .threw error) ∧
      (listened S moment request).response.answered = false := by
  have hexec := (requestListener_cases S moment request).2 h
  unfold listened
  rw [hexec]
  exact ⟨⟨_, rfl⟩, rfl⟩

/-! ### The handlers -/

/-- The first event of a stream, where one is opened, can be built. -/
def SnapshotBuilt (S : ApiServer) (request : DeliveredRequest) (exchange : Exchange)
    (event : ExchangeEvent) : Prop :=
  ∀ tenantId view principal, exchange.phase = .streamPrincipal tenantId →
    event = .principalSettled view → settledPrincipal S request view true = .ok principal →
    ofTenant? principal tenantId = true →
    ∃ snapshot, buildTenantEventSnapshot tenantId view.lists = .ok snapshot

theorem returns_finish {m : ResponseM Unit} (hm : Delivers m) {exchange : Exchange}
    (hres : Unwritten exchange.response) :
    Returns (do respond m; await .finished) exchange := by
  obtain ⟨res, hexec, hanswered⟩ := hm exchange.response hres.head
  exact ⟨_, exec_respond_await hexec .finished, Or.inr (Or.inl ⟨rfl, hanswered⟩)⟩

theorem returns_receiveData (S : ApiServer) (request : DeliveredRequest) (chunk : List UInt8)
    {exchange : Exchange} (hphase : exchange.phase = .body) (hres : Unwritten exchange.response) :
    Returns (receiveData S request chunk) exchange := by
  unfold receiveData Returns
  rw [Effect.exec_bind, Effect.exec_get]
  dsimp only
  rw [Effect.exec_bind, Effect.exec_set]
  dsimp only
  generalize (if isFileContent S request then S.maxFileBytes else S.maxBodyBytes) = limit
  split
  · exact returns_finish (delivers_sendJson (by omega) rfl) hres
  · exact ⟨_, rfl, Or.inl ⟨by rw [hphase]; rfl, hres⟩⟩

theorem returns_receiveEnd (S : ApiServer) (request : DeliveredRequest) {exchange : Exchange}
    (hres : Unwritten exchange.response) : Returns (receiveEnd S request) exchange := by
  unfold receiveEnd Returns
  rw [Effect.exec_bind, Effect.exec_get]
  dsimp only
  split
  · unfold receiveWebhook
    split
    · exact returns_finish (delivers_sendJson (by omega) rfl) hres
    · exact returns_await rfl hres
  · exact returns_await rfl hres

theorem delivers_webhookAnswer (outcome : Except JsError (ℕ × Json)) :
    Delivers (answerWebhook outcome) := by
  cases outcome with
  | ok answer =>
    intro res hres
    unfold answerWebhook
    rw [Effect.exec_tryCatch]
    obtain ⟨next, hexec, hanswered⟩ | ⟨error, next, hexec, hnext⟩ :=
      deliversOrThrows_sendJson answer.1 answer.2 [] res hres
    · rw [hexec]
      exact ⟨next, rfl, hanswered⟩
    · rw [hexec]
      exact delivers_sendJson (by omega) rfl next hnext
  | error error => exact delivers_sendJson (by omega) rfl

/-- The event a step is made on has a handler, and the step is its run. -/
theorem step_handler {S : ApiServer} {request : DeliveredRequest} {exchange next : Exchange}
    {event : ExchangeEvent}
    (h : (requestExchange S request).step exchange event = some next) :
    ∃ handler, handleEvent S request exchange.phase event = some handler ∧
      (Returns handler exchange → OnCourse next) := by
  obtain ⟨handler, hhandler, hstep⟩ := Option.bind_eq_some_iff.mp h
  refine ⟨handler, hhandler, ?_⟩
  rintro ⟨last, hexec, hcourse⟩
  rw [hexec] at hstep
  obtain rfl := Option.some.inj hstep
  exact hcourse

/-- What every handler but that of a stream does. -/
theorem returns_handler {S : ApiServer} {request : DeliveredRequest} {exchange : Exchange}
    {event : ExchangeEvent} {handler : ListenerM Unit} (hres : Unwritten exchange.response)
    (hbuilt : SnapshotBuilt S request exchange event)
    (h : handleEvent S request exchange.phase event = some handler) :
    Returns handler exchange := by
  unfold handleEvent at h
  split at h
  · obtain rfl := Option.some.inj h
    exact returns_finish (delivers_answerReadiness _) hres
  · obtain rfl := Option.some.inj h
    exact returns_finish (delivers_answerMetrics S) hres
  · rename_i tenantId view hphase
    obtain rfl := Option.some.inj h
    refine returns_finish ?_ hres
    cases hresolved : settledPrincipal S request view true with
    | error failure => exact delivers_sendFailure _ failure
    | ok principal =>
      apply delivers_caught
      apply Delivers.orThrows
      apply delivers_openStream
      exact hbuilt tenantId view principal hphase rfl hresolved
  · rename_i chunk hphase
    obtain rfl := Option.some.inj h
    exact returns_receiveData S request chunk hphase hres
  · obtain rfl := Option.some.inj h
    exact returns_receiveEnd S request hres
  · obtain rfl := Option.some.inj h
    exact returns_finish (delivers_sendJson (by omega) rfl) hres
  · obtain rfl := Option.some.inj h
    exact ⟨_, rfl, Or.inr (Or.inr rfl)⟩
  · obtain rfl := Option.some.inj h
    exact returns_finish (delivers_webhookAnswer _) hres
  · rename_i body view hphase
    obtain rfl := Option.some.inj h
    cases settledPrincipal S request view false with
    | error failure => exact returns_finish (delivers_sendFailure _ failure) hres
    | ok principal => exact returns_await rfl hres
  · obtain rfl := Option.some.inj h
    exact returns_finish (delivers_caught (deliversOrThrows_sendResult _)) hres
  · cases h

/-! ### Runs -/

/-- An exchange that awaits nothing handles nothing. -/
theorem handleEvent_of_settled {S : ApiServer} {request : DeliveredRequest} {phase : ExchangePhase}
    (h : phase.settled = true) (event : ExchangeEvent) :
    handleEvent S request phase event = none := by
  cases phase <;> first | (cases event <;> rfl) | cases h

theorem step_of_settled {S : ApiServer} {request : DeliveredRequest} {exchange : Exchange}
    (h : exchange.phase.settled = true) (event : ExchangeEvent) :
    (requestExchange S request).step exchange event = none := by
  show (handleEvent S request exchange.phase event).bind _ = none
  rw [handleEvent_of_settled h]
  rfl

/-- The step of a waiting exchange keeps it on course where its snapshot can be built. -/
theorem step_onCourse {S : ApiServer} {request : DeliveredRequest} {exchange next : Exchange}
    {event : ExchangeEvent} (h : OnCourse exchange) (hbuilt : SnapshotBuilt S request exchange event)
    (hstep : (requestExchange S request).step exchange event = some next) : OnCourse next := by
  obtain hwaiting | hanswered | hgone := h
  · obtain ⟨handler, hhandler, hnext⟩ := step_handler hstep
    exact hnext (returns_handler hwaiting.response hbuilt hhandler)
  · rw [step_of_settled (by rw [hanswered.phase]; rfl)] at hstep
    cases hstep
  · rw [step_of_settled (by rw [hgone]; rfl)] at hstep
    cases hstep

/-- The step of a stream whose snapshot cannot be built ends the exchange without an answer. -/
theorem step_stalls {S : ApiServer} {request : DeliveredRequest} {exchange next : Exchange}
    {event : ExchangeEvent} (hres : Unwritten exchange.response)
    (hbuilt : ¬ SnapshotBuilt S request exchange event)
    (hstep : (requestExchange S request).step exchange event = some next) :
    next.phase = .finished ∧ next.response.answered = false := by
  unfold SnapshotBuilt at hbuilt
  push Not at hbuilt
  obtain ⟨tenantId, view, principal, hphase, rfl, hresolved, howner, hsnapshot⟩ := hbuilt
  cases hbuild : buildTenantEventSnapshot tenantId view.lists with
  | ok snapshot => exact absurd hbuild (hsnapshot snapshot)
  | error error =>
    have hexec : Effect.exec (answerStream view tenantId (.ok principal)) exchange.response =
        (.ok (), withStreamHead exchange.response) := openStream_stalls hres howner hbuild
    obtain ⟨handler, hhandler, hrun⟩ := Option.bind_eq_some_iff.mp hstep
    rw [hphase] at hhandler
    obtain rfl := Option.some.inj hhandler
    rw [hresolved, exec_respond_await hexec] at hrun
    obtain rfl := Option.some.inj hrun
    exact ⟨rfl, answered_withStreamHead hres⟩

/-- A run that ends with an answer went past no stream whose snapshot could not be built. -/
theorem built_of_answered {S : ApiServer} {request : DeliveredRequest} {start last : Exchange}
    {events : List ExchangeEvent} (hstart : OnCourse start)
    (hrun : (requestExchange S request).run start events = some last)
    (hlast : last.phase = .finished → last.response.answered = true) :
    (requestExchange S request).Meets (SnapshotBuilt S request) start events := by
  induction events generalizing start with
  | nil => trivial
  | cons event events ih =>
    obtain ⟨next, hstep, hrest⟩ := Option.bind_eq_some_iff.mp hrun
    by_cases hbuilt : SnapshotBuilt S request start event
    · refine ⟨hbuilt, fun other hother => ?_⟩
      obtain rfl := Option.some.inj (hstep.symm.trans hother)
      exact ih (step_onCourse hstart hbuilt hstep) hrest
    · exfalso
      obtain hwaiting | hanswered | hgone := hstart
      · obtain ⟨hphase, hunanswered⟩ := step_stalls hwaiting.response hbuilt hstep
        cases events with
        | nil =>
          obtain rfl := Option.some.inj hrest
          rw [hlast hphase] at hunanswered
          cases hunanswered
        | cons event' events =>
          rw [Machine.run_cons, step_of_settled (by rw [hphase]; rfl)] at hrest
          cases hrest
      · rw [step_of_settled (by rw [hanswered.phase]; rfl)] at hstep
        cases hstep
      · rw [step_of_settled (by rw [hgone]; rfl)] at hstep
        cases hstep

/-- A step on an event that is handled. -/
theorem step_of_exec {S : ApiServer} {request : DeliveredRequest} {exchange next : Exchange}
    {event : ExchangeEvent} {handler : ListenerM Unit}
    (hhandler : handleEvent S request exchange.phase event = some handler)
    (hexec : Effect.exec handler exchange = (.ok (), next)) :
    (requestExchange S request).step exchange event = some next := by
  show (handleEvent S request exchange.phase event).bind _ = some next
  rw [hhandler, Option.bind_some, hexec]

/-- An exchange that comes to rest. -/
def ComesToRest (S : ApiServer) (request : DeliveredRequest) (exchange : Exchange) : Prop :=
  ∃ events last, (requestExchange S request).run exchange events = some last ∧
    last.phase.settled = true

theorem settles_of_step {S : ApiServer} {request : DeliveredRequest} {exchange next : Exchange}
    {event : ExchangeEvent} (hstep : (requestExchange S request).step exchange event = some next)
    (h : ComesToRest S request next) : ComesToRest S request exchange := by
  obtain ⟨events, last, hrun, hlast⟩ := h
  refine ⟨event :: events, last, ?_, hlast⟩
  rw [Machine.run_cons, hstep]
  exact hrun

/-- A handler that answers settles the exchange. -/
theorem settles_of_answer {S : ApiServer} {request : DeliveredRequest} {exchange : Exchange}
    {event : ExchangeEvent} {m : ResponseM Unit} (hm : Delivers m)
    (hres : Unwritten exchange.response)
    (hhandler : handleEvent S request exchange.phase event =
      some (do respond m; await .finished)) : ComesToRest S request exchange := by
  obtain ⟨res, hexec, -⟩ := hm exchange.response hres.head
  exact settles_of_step (step_of_exec hhandler (exec_respond_await hexec .finished)) ⟨[], _, rfl, rfl⟩

/-- The error of a promise that is rejected. -/
def rejection : JsError := newError "rejected"

/-- What a promise sees of a repository without lists, whose key set cannot be read. -/
def emptyView : RepositoryView where
  identities := none
  jwks := .error (.other rejection)
  now := 0
  lists := {
    listProjectsByTenant := fun _ => .ok (.array [])
    listIssuesByTenant := fun _ => .ok (.array [])
    listRfisByTenant := fun _ => .ok (.array [])
    listPermitPackagesByTenant := fun _ => .ok (.array [])
    listReviewSessionsByTenant := fun _ => .ok (.array [])
    listAiReviewRunsByTenant := fun _ => .ok (.array [])
    listAiFindingsByTenant := fun _ => .ok (.array []) }

/-- Routes that fail. -/
def failingRoutes : Routes := fun _ _ _ _ _ => .error (.other rejection)

theorem delivers_answerStream_empty (tenantId : String)
    (outcome : Except RequestFailure RequestPrincipal) :
    Delivers (answerStream emptyView tenantId outcome) := by
  cases outcome with
  | error failure => exact delivers_sendFailure _ failure
  | ok principal =>
    apply delivers_caught
    apply Delivers.orThrows
    exact delivers_openStream fun _ => ⟨_, rfl⟩

/-- An exchange that waits comes to rest, whatever it waits for. -/
theorem waiting_settles {S : ApiServer} {request : DeliveredRequest} {exchange : Exchange}
    (hwaiting : Waiting exchange) : ComesToRest S request exchange := by
  have hres := hwaiting.response
  have hphase := hwaiting.phase
  have hapi : ∀ body principal (next : Exchange), next.phase = .api body principal →
      Unwritten next.response → ComesToRest S request next := by
    intro body principal next hnext hnextRes
    have hhandler : handleEvent S request next.phase (.routed failingRoutes) = some (do
        respond (caught failedMessage (answerApi S request failingRoutes body principal))
        await .finished) := by
      rw [hnext]
      rfl
    exact settles_of_answer (delivers_caught (deliversOrThrows_sendResult _)) hnextRes hhandler
  cases hawaited : exchange.phase with
  | readiness =>
    have hhandler : handleEvent S request exchange.phase (.readinessSettled (.error rejection)) =
        some (do respond (answerReadiness (.error rejection)); await .finished) := by
      rw [hawaited]
      rfl
    exact settles_of_answer (delivers_answerReadiness (.error rejection)) hres hhandler
  | metrics =>
    have hhandler : handleEvent S request exchange.phase (.readinessSettled (.error rejection)) =
        some (do respond (answerMetrics S); await .finished) := by
      rw [hawaited]
      rfl
    exact settles_of_answer (delivers_answerMetrics S) hres hhandler
  | streamPrincipal tenantId =>
    have hhandler : handleEvent S request exchange.phase (.principalSettled emptyView) = some (do
        respond (answerStream emptyView tenantId (settledPrincipal S request emptyView true))
        await .finished) := by
      rw [hawaited]
      rfl
    exact settles_of_answer (delivers_answerStream_empty tenantId _) hres hhandler
  | body =>
    have hdelivers : Delivers
        (sendJson 408 (errorBody "request_timeout" "Request timed out.") []) :=
      delivers_sendJson (by omega) rfl
    have hhandler : handleEvent S request exchange.phase .timeout = some (do
        respond (sendJson 408 (errorBody "request_timeout" "Request timed out.") [])
        await .finished) := by
      rw [hawaited]
      rfl
    exact settles_of_answer hdelivers hres hhandler
  | webhook =>
    have hhandler : handleEvent S request exchange.phase (.webhookSettled (.error rejection)) =
        some (do respond (answerWebhook (.error rejection)); await .finished) := by
      rw [hawaited]
      rfl
    exact settles_of_answer (delivers_webhookAnswer (.error rejection)) hres hhandler
  | principal body =>
    cases hresolved : settledPrincipal S request emptyView false with
    | error failure =>
      have hhandler : handleEvent S request exchange.phase (.principalSettled emptyView) =
          some (do respond (sendFailure failedMessage failure); await .finished) := by
        rw [hawaited]
        show some (enterApi body (settledPrincipal S request emptyView false)) = _
        rw [hresolved]
        rfl
      exact settles_of_answer (delivers_sendFailure failedMessage failure) hres hhandler
    | ok principal =>
      have hhandler : handleEvent S request exchange.phase (.principalSettled emptyView) =
          some (await (.api body principal)) := by
        rw [hawaited]
        show some (enterApi body (settledPrincipal S request emptyView false)) = _
        rw [hresolved]
        rfl
      have hstep := step_of_exec hhandler (exec_await (.api body principal) exchange)
      exact settles_of_step hstep (hapi body principal _ rfl hres)
  | api body principal => exact hapi body principal exchange hawaited hres
  | finished =>
    rw [hawaited] at hphase
    cases hphase
  | gone =>
    rw [hawaited] at hphase
    cases hphase
  | threw error =>
    rw [hawaited] at hphase
    cases hphase

/-- Nothing happens after a listener that threw. -/
theorem run_of_settled {S : ApiServer} {request : DeliveredRequest} {start last : Exchange}
    {events : List ExchangeEvent} (hstart : start.phase.settled = true)
    (hrun : (requestExchange S request).run start events = some last) : last = start := by
  cases events with
  | nil => exact (Option.some.inj hrun).symm
  | cons event events =>
    rw [Machine.run_cons, step_of_settled hstart] at hrun
    cases hrun

/-- Where nothing is awaited, an exchange on course is answered or its client has gone. -/
theorem answered_of_onCourse {exchange : Exchange} (h : OnCourse exchange)
    (hsettled : exchange.phase.settled = true) (hgone : exchange.phase ≠ .gone) :
    exchange.response.answered = true := by
  obtain hwaiting | hanswered | hleft := h
  · rw [hwaiting.phase] at hsettled
    cases hsettled
  · exact hanswered.response
  · exact absurd hleft hgone

/-- An exchange that waits has been on course all along. -/
theorem waiting_of_run {S : ApiServer} {request : DeliveredRequest} {start last : Exchange}
    {events : List ExchangeEvent} (hstart : OnCourse start)
    (hrun : (requestExchange S request).run start events = some last)
    (hlast : last.phase.settled = false) : Waiting last := by
  have hmeets := built_of_answered hstart hrun (by
    intro hphase
    rw [hphase] at hlast
    cases hlast)
  have hcourse : OnCourse last := Machine.invariant_of_meets _
    (fun s event t hs hbuilt hstep => step_onCourse hs hbuilt hstep) hstart hmeets hrun
  obtain hwaiting | hanswered | hgone := hcourse
  · exact hwaiting
  · rw [hanswered.phase] at hlast
    cases hlast
  · rw [hgone] at hlast
    cases hlast

/-- **A request is answered** where its target can be parsed. The listener returns exactly then; and
a request for which nothing is awaited any more, and whose client has not gone away, has got a
response exactly when its target could be parsed and the first event of every stream it opened could
be built. While something is awaited, the request can still come to rest. -/
theorem request_answered (S : ApiServer) (moment : ServerMoment) (request : DeliveredRequest) :
    ((∃ exchange, Effect.exec (requestListener S moment request) { limiter := moment.limiter } =
        (.ok (), exchange)) ↔ Accepted S request) ∧
    ∀ events last,
      (requestExchange S request).run (listened S moment request) events = some last →
      (last.phase.settled = true → last.phase ≠ .gone →
        (last.response.answered = true ↔ Accepted S request ∧
          (requestExchange S request).Meets (SnapshotBuilt S request) (listened S moment request)
            events)) ∧
      (last.phase.settled = false → ComesToRest S request last) := by
  obtain ⟨hreturns, hthrows⟩ := requestListener_cases S moment request
  by_cases haccepted : Accepted S request
  · have hstart : OnCourse (listened S moment request) := listened_onCourse haccepted
    obtain ⟨exchange, hexec, -⟩ := hreturns haccepted
    refine ⟨⟨fun _ => haccepted, fun _ => ⟨exchange, hexec⟩⟩, ?_⟩
    intro events last hrun
    refine ⟨fun hsettled hgone => ⟨fun hanswered => ⟨haccepted, ?_⟩, ?_⟩, ?_⟩
    · exact built_of_answered hstart hrun fun _ => hanswered
    · rintro ⟨-, hmeets⟩
      have hcourse : OnCourse last := Machine.invariant_of_meets _
        (fun s event t hs hbuilt hstep => step_onCourse hs hbuilt hstep) hstart hmeets hrun
      exact answered_of_onCourse hcourse hsettled hgone
    · intro hwaits
      exact waiting_settles (waiting_of_run hstart hrun hwaits)
  · have hthrew : (∃ error, (listened S moment request).phase = .threw error) ∧
        (listened S moment request).response.answered = false := listened_threw haccepted
    obtain ⟨⟨error, hphase⟩, hunanswered⟩ := hthrew
    have hsettled : (listened S moment request).phase.settled = true := by
      rw [hphase]
      rfl
    refine ⟨⟨?_, fun h => absurd h haccepted⟩, ?_⟩
    · rintro ⟨exchange, hexec⟩
      rw [hthrows haccepted] at hexec
      cases hexec
    · intro events last hrun
      obtain rfl := run_of_settled hsettled hrun
      refine ⟨fun _ _ => ⟨?_, fun h => absurd h.1 haccepted⟩, ?_⟩
      · intro hanswered
        rw [hunanswered] at hanswered
        cases hanswered
      · intro hwaits
        rw [hsettled] at hwaits
        cases hwaits

end

/-! ### A target without an authority -/

/-- A constructor that rejects the reference `//` and takes a path as it is. -/
def authorityUrl : UrlConstructor := fun input _ =>
  if input = "//" then none else some { pathname := input, searchParams := fun _ => none }

/-- A server of the staged mode. -/
def stagedServer : ApiServer where
  platform := { sha256 := id, hmacSha256 := fun _ value => value, toLowerCase := id }
  crypto := { decode := fun _ => none, importable := fun _ => false, verify := fun _ _ _ _ => none }
  newUrl := authorityUrl
  decodeUtf8 _ := ""
  authConfig :=
    { mode := .staged, stagedModeEnabled := true, productionMode := false, oidc := none }
  maxBodyBytes := .finite 1048576
  maxFileBytes := .finite 26214400
  emailTransport := none
  renderMetrics := ""

/-- A server that is not draining, at time zero. -/
def quietMoment : ServerMoment where
  shuttingDown := false
  limiter :=
    { windowMs := .finite 60000, max := .finite 300, numberText := fun _ => ⟨"0", by decide⟩ }
  now := 0
  randomUUID := ⟨"0", by decide⟩

/-- A request for the health of the server that is answered at once. -/
theorem request_answered_health :
    (listened stagedServer quietMoment { method := "GET", url := some "/health" }).response.answered
      = true := by
  obtain ⟨-, hruns⟩ :=
    request_answered stagedServer quietMoment { method := "GET", url := some "/health" }
  have haccepted : Accepted stagedServer { method := "GET", url := some "/health" } := Or.inr rfl
  obtain ⟨hsettled, -⟩ := hruns [] _ rfl
  have hphase : (listened stagedServer quietMoment
      { method := "GET", url := some "/health" }).phase = .finished := by rfl
  refine (hsettled ?_ ?_).mpr ⟨haccepted, trivial⟩
  · rw [hphase]
    rfl
  · rw [hphase]
    exact fun h => ExchangePhase.noConfusion h

/-- `GET //` makes the listener throw. -/
theorem empty_authority_throws :
    ¬ ∀ request : DeliveredRequest, ∃ exchange, Effect.exec
      (requestListener stagedServer quietMoment request) { limiter := quietMoment.limiter } =
        (.ok (), exchange) := by
  intro h
  obtain ⟨exchange, hexec⟩ := h { method := "GET", url := some "//" }
  have hrejected : ¬ Accepted stagedServer { method := "GET", url := some "//" } := by
    rintro (hoptions | hurl)
    · exact absurd hoptions (by decide)
    · cases hurl
  rw [(requestListener_cases stagedServer quietMoment _).2 hrejected] at hexec
  cases hexec

end Xygo.Analysis
