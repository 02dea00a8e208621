import Xygo.Analysis.RateWindows
import Xygo.Model.RequestListener

/-!
# The limit of one caller

The limiter counts by the key the listener makes of a request, and the first thing it looks at is
the header of the staged tenant, which a caller is free to set. Requests of one caller inside one
window pass key by key, up to the limit of each (`count_passedKeys`); so more than the limit pass
exactly where there are more requests than that and their keys differ (`caller_limited_iff`).
-/

set_option autoImplicit false

namespace Xygo.Analysis

open Xygo.Computation Xygo.Model FixedWindow

/-- A request, and the time the limiter reads for it. -/
structure LimitedRequest where
  request : DeliveredRequest
  now : ℚ

namespace LimitedRequest

/-- The call of the limiter. In OIDC mode it is the same as in staged mode.
SOURCE: apps/api/src/server.js:228 -/
def call (r : LimitedRequest) : Call String := .check r.request.rateLimitKey r.now

/-- The key of a caller whose request has no header of a staged tenant. -/
def callerKey (authorization remoteAddress : Option String) : String :=
  (authorization.or remoteAddress).getD "anonymous"

/-- Whether a request comes from a caller. -/
structure ComesFrom (r : LimitedRequest) (authorization remoteAddress : Option String) : Prop where
  authorization : r.request.headers "authorization" = authorization
  remoteAddress : r.request.remoteAddress = remoteAddress

end LimitedRequest

open LimitedRequest

/-- What the limiter decides on some requests, after some calls.
SOURCE: apps/api/src/server.js:228-237 -/
def requestDecisions (options : FixedWindow.Options) (before : List (Call String))
    (requests : List LimitedRequest) : List (String × ℚ × Answer) :=
  let limiter := createRateLimiter options
  (limiter.run (limiter.run .empty before).2 (requests.map call)).1.filterMap decisionOf

/-- The keys of the requests that pass. -/
def passedKeys (options : FixedWindow.Options) (before : List (Call String))
    (requests : List LimitedRequest) : List String :=
  ((requestDecisions options before requests).filter fun entry => entry.2.2.allowed).map Prod.fst

/-- How many of the requests pass. -/
def passed (options : FixedWindow.Options) (before : List (Call String))
    (requests : List LimitedRequest) : ℕ :=
  (passedKeys options before requests).length

/-- The requests fall into one window, which none of their keys has opened before. -/
structure InNewWindow (options : FixedWindow.Options) (before : List (Call String))
    (requests : List LimitedRequest) (start : ℚ) : Prop where
  inside : ∀ r ∈ requests, start ≤ r.now ∧ r.now < start + options.windowMs
  unopened : ∀ r ∈ requests, ∀ entry ∈ decisionsOn options r.request.rateLimitKey before,
    entry.2.resetAt ≤ start

section

variable {options : FixedWindow.Options} {before : List (Call String)}
  {requests : List LimitedRequest}

/-- INTERNAL: the key of a request of a caller.
SOURCE: apps/api/src/server.js:46-48 -/
theorem rateLimitKey_of_comesFrom {r : LimitedRequest} {authorization remoteAddress : Option String}
    (h : r.ComesFrom authorization remoteAddress) :
    r.request.rateLimitKey = (r.request.headers "x-staged-tenant-id").getD
      (callerKey authorization remoteAddress) := by
  unfold DeliveredRequest.rateLimitKey callerKey
  rw [h.authorization, h.remoteAddress]
  cases r.request.headers "x-staged-tenant-id" <;> rfl

/-! ## The requests of one key -/

/-- INTERNAL: inside the window of a bucket, as many calls pass as it has room for. -/
theorem countP_allowed_live {b : Bucket} {times : List ℚ} (h : ∀ t ∈ times, t < b.resetAt) :
    (ownDecisions options (some b) times).countP (fun entry => entry.2.allowed) =
      min times.length (⌊options.max⌋₊ - b.count) := by
  induction times generalizing b with
  | nil => simp [ownDecisions]
  | cons now times ih =>
    obtain ⟨_, heq, -, hcount, hnext⟩ | ⟨hover, -⟩ := checkBucket_next options (some b) now
    · cases heq
      have hrest : ∀ t ∈ times, t < (checkBucket options (some b) now).2.resetAt := by
        intro t ht
        rw [hnext]
        exact h t (List.mem_cons_of_mem _ ht)
      have htail := ih hrest
      have hallowed := checkBucket_allowed options (some b) now
      rw [ownDecisions, List.countP_cons, htail, List.length_cons]
      simp only [hallowed]
      split <;> omega
    · exact absurd (h now List.mem_cons_self) (not_lt.mpr (hover b rfl))

/-- INTERNAL: in a window a key has not opened, the limit of its calls pass. -/
theorem countP_allowed_unopened {bucket : Option Bucket} {times : List ℚ} {start : ℚ}
    (hunopened : ∀ b, bucket = some b → b.resetAt ≤ start)
    (hinside : ∀ t ∈ times, start ≤ t ∧ t < start + options.windowMs) :
    (ownDecisions options bucket times).countP (fun entry => entry.2.allowed) =
      min times.length ⌊options.max⌋₊ := by
  cases times with
  | nil => simp [ownDecisions]
  | cons now times =>
    have hstart := (hinside now List.mem_cons_self).1
    obtain ⟨b, hb, hlive, -⟩ | ⟨-, hcount, hnext⟩ := checkBucket_next options bucket now
    · exact absurd hlive (not_lt.mpr ((hunopened b hb).trans hstart))
    · have hrest : ∀ t ∈ times, t < (checkBucket options bucket now).2.resetAt := by
        intro t ht
        rw [hnext]
        linarith [(hinside t (List.mem_cons_of_mem _ ht)).2]
      have htail := @countP_allowed_live options _ _ hrest
      have hallowed := checkBucket_allowed options bucket now
      rw [ownDecisions, List.countP_cons, htail, List.length_cons]
      simp only [hallowed]
      split <;> omega

/-- INTERNAL: the bucket after some calls is over where the last of their decisions is. -/
theorem resetAt_bucketAfter {bucket : Option Bucket} {times : List ℚ} {start : ℚ}
    (hbucket : ∀ b, bucket = some b → b.resetAt ≤ start)
    (h : ∀ entry ∈ ownDecisions options bucket times, entry.2.resetAt ≤ start) :
    ∀ b, bucketAfter options bucket times = some b → b.resetAt ≤ start := by
  induction times generalizing bucket with
  | nil => exact hbucket
  | cons now times ih =>
    refine ih ?_ fun entry hentry => h entry (List.mem_cons_of_mem _ hentry)
    intro b hb
    cases hb
    exact h _ List.mem_cons_self

/-! ## The requests of all keys -/

/-- INTERNAL: the decisions on the requests of a key are those of its bucket. -/
theorem requestDecisions_key (options : FixedWindow.Options)
    (horder : TimesInOrder (before ++ requests.map call)) (key : String) :
    ((requestDecisions options before requests).filter fun entry => entry.1 = key).map Prod.snd =
      ownDecisions options (bucketAfter options none (timesOf key before))
        (timesOf key (requests.map call)) := by
  have hbefore : TimesInOrder before := (List.pairwise_append.mp horder).1
  have hsplit : decisions options (before ++ requests.map call) =
      decisions options before ++ requestDecisions options before requests := by
    unfold decisions requestDecisions
    rw [Object.run_append, List.filterMap_append]
  have htimes : timesOf key (before ++ requests.map call) =
      timesOf key before ++ timesOf key (requests.map call) := by
    unfold timesOf
    rw [List.filter_append, List.map_append]
  have hall := decisionsOn_eq options key horder
  unfold decisionsOn at hall
  rw [hsplit, List.filter_append, List.map_append, htimes, ownDecisions_append] at hall
  have hfirst := decisionsOn_eq options key hbefore
  unfold decisionsOn at hfirst
  rw [hfirst] at hall
  exact List.append_cancel_left hall

/-- INTERNAL: the keys that pass, counted by their decisions. -/
theorem count_passed (entries : List (String × ℚ × Answer)) (key : String) :
    ((entries.filter fun entry => entry.2.2.allowed).map Prod.fst).count key =
      ((entries.filter fun entry => entry.1 = key).map Prod.snd).countP
        fun entry => entry.2.allowed := by
  rw [List.count, List.countP_map, List.countP_map, List.countP_filter, List.countP_filter]
  apply List.countP_congr
  intro entry _
  simp [and_comm]

/-- INTERNAL: the calls of a key are those of the requests that have it. -/
theorem length_timesOf (key : String) (requests : List LimitedRequest) :
    (timesOf key (requests.map call)).length =
      (requests.map fun r => r.request.rateLimitKey).count key := by
  unfold timesOf
  rw [List.length_map, ← List.countP_eq_length_filter, List.countP_map, List.count,
    List.countP_map]
  apply List.countP_congr
  intro r _
  simp [call, isCheckOf]

/-- INTERNAL: a key without a request has no call. -/
theorem timesOf_eq_nil {key : String} (h : ¬ ∃ r ∈ requests, r.request.rateLimitKey = key) :
    timesOf key (requests.map call) = [] := by
  rw [← List.length_eq_zero_iff, length_timesOf, List.count_eq_zero]
  intro hmem
  obtain ⟨r, hr, heq⟩ := List.mem_map.mp hmem
  exact h ⟨r, hr, heq⟩

/-- INTERNAL: a key that passes is one of a request. -/
theorem mem_passedKeys (horder : TimesInOrder (before ++ requests.map call)) {key : String}
    (h : key ∈ passedKeys options before requests) :
    ∃ r ∈ requests, r.request.rateLimitKey = key := by
  by_contra hnone
  have hpositive := List.count_pos_iff.mpr h
  rw [passedKeys, count_passed, requestDecisions_key options horder, timesOf_eq_nil hnone]
    at hpositive
  simp [ownDecisions] at hpositive

/-- INTERNAL: of the requests of a key, as many pass as the limit lets. -/
theorem count_passedKeys (horder : TimesInOrder (before ++ requests.map call)) {start : ℚ}
    (hwindow : InNewWindow options before requests start) (key : String) :
    (passedKeys options before requests).count key =
      min ((requests.map fun r => r.request.rateLimitKey).count key) ⌊options.max⌋₊ := by
  rw [passedKeys, count_passed, requestDecisions_key options horder, ← length_timesOf]
  by_cases hkey : ∃ r ∈ requests, r.request.rateLimitKey = key
  · obtain ⟨r, hr, rfl⟩ := hkey
    have hunopened := hwindow.unopened r hr
    rw [decisionsOn_eq options _ (List.pairwise_append.mp horder).1] at hunopened
    refine countP_allowed_unopened
      (resetAt_bucketAfter (fun b hb => by cases hb) hunopened) ?_
    intro t ht
    unfold timesOf at ht
    obtain ⟨c, hc, rfl⟩ := List.mem_map.mp ht
    obtain ⟨s, hs, rfl⟩ := List.mem_map.mp (List.mem_filter.mp hc).1
    exact hwindow.inside s hs
  · rw [timesOf_eq_nil hkey]
    simp [ownDecisions]

/-- INTERNAL: where each key has a share of at most `limit`, the shares are more than `limit`
together exactly where the keys are more and differ. -/
theorem length_le_limit_iff {keys shares : List String} {limit : ℕ}
    (h : ∀ key, shares.count key = min (keys.count key) limit) :
    shares.length ≤ limit ↔
      keys.length ≤ limit ∨ limit = 0 ∨ ∀ a ∈ keys, ∀ b ∈ keys, a = b := by
  constructor
  · intro hle
    by_contra hnot
    push Not at hnot
    obtain ⟨hmany, hlimit, a, ha, b, hb, hab⟩ := hnot
    by_cases hfull : ∃ key, limit ≤ keys.count key
    · obtain ⟨full, hfull⟩ := hfull
      -- A full share leaves no room for the share of any other key, and one of `a`, `b` is other.
      obtain ⟨other, hother, hne⟩ : ∃ other ∈ keys, other ≠ full := by
        by_cases haf : a = full
        · exact ⟨b, hb, fun hbf => hab (haf.trans hbf.symm)⟩
        · exact ⟨a, ha, haf⟩
      have hpositive : 0 < keys.count other := List.count_pos_iff.mpr hother
      have htwo : shares.count full + shares.count other ≤ shares.length := by
        have hsplit := List.length_eq_countP_add_countP (fun key => key == full) (l := shares)
        have hrest : shares.count other ≤ shares.countP fun key => !(key == full) := by
          apply List.countP_mono_left
          intro key _ hkey
          simp only [beq_iff_eq] at hkey
          simp [hkey, hne]
        simp only [List.count] at hrest ⊢
        simp only [Bool.not_eq_true, Bool.decide_eq_false] at hsplit
        omega
      rw [h full, h other] at htwo
      omega
    · push Not at hfull
      have hperm : shares.Perm keys := by
        rw [List.perm_iff_count]
        intro key
        rw [h key]
        have := hfull key
        omega
      rw [hperm.length_eq] at hle
      omega
  · rintro (hfew | rfl | hsame)
    · refine le_trans ?_ hfew
      have hsub : shares.Subperm keys := by
        rw [List.subperm_iff_count]
        intro key
        rw [h key]
        exact min_le_left _ _
      exact hsub.length_le
    · have hnone : shares = [] := by
        rw [List.eq_nil_iff_forall_not_mem]
        intro key hkey
        have hpos := List.count_pos_iff.mpr hkey
        rw [h key] at hpos
        omega
      rw [hnone]
      exact le_refl 0
    · cases shares with
      | nil => exact Nat.zero_le _
      | cons key rest =>
        have hall : ∀ other ∈ key :: rest, other = key := by
          have hin : ∀ other ∈ key :: rest, other ∈ keys := by
            intro other hother
            have hpos := List.count_pos_iff.mpr hother
            rw [h other] at hpos
            exact List.count_pos_iff.mp (by omega)
          intro other hother
          exact hsame other (hin other hother) key (hin key List.mem_cons_self)
        have hcount : (key :: rest).count key = (key :: rest).length := by
          rw [List.count_eq_length]
          intro other hother
          exact (hall other hother).symm
        rw [← hcount, h key]
        exact min_le_right _ _

/-! ## The limit -/

/-- INTERNAL: a number of calls is within a limit exactly where it is within the limit's floor. -/
theorem natCast_le_max_zero {n : ℕ} {q : ℚ} : (n : ℚ) ≤ max 0 q ↔ n ≤ ⌊q⌋₊ := by
  by_cases h : 0 ≤ q
  · rw [max_eq_right h, Nat.le_floor_iff h]
  · have hneg : q ≤ 0 := (not_le.mp h).le
    rw [max_eq_left hneg, Nat.floor_of_nonpos hneg, Nat.cast_nonpos, Nat.le_zero]

/-- INTERNAL: from the first call of a window on, which may have been opened before, at most the
limit pass. -/
theorem countP_allowed_first {bucket : Option Bucket} {now : ℚ} {times : List ℚ}
    (h : ∀ t ∈ times, t < (checkBucket options bucket now).1.resetAt) :
    (ownDecisions options bucket (now :: times)).countP (fun entry => entry.2.allowed) ≤
      ⌊options.max⌋₊ := by
  have htail := @countP_allowed_live options (checkBucket options bucket now).2 times h
  have hallowed := checkBucket_allowed options bucket now
  have hpositive : 0 < (checkBucket options bucket now).2.count := Nat.succ_pos _
  rw [ownDecisions, List.countP_cons, htail]
  simp only [hallowed]
  split <;> omega

/-- INTERNAL: requests of one key inside one window, which may have been opened before: at most the
limit pass. -/
theorem passed_le_of_one_key (horder : TimesInOrder (before ++ requests.map call)) {key : String}
    (hkey : ∀ r ∈ requests, r.request.rateLimitKey = key) {resetAt : ℚ}
    (hwindow : ∀ r ∈ requests, r.now < resetAt)
    (hfirst : ∀ entry, (requestDecisions options before requests).head? = some entry →
      entry.2.2.resetAt = resetAt) :
    passed options before requests ≤ ⌊options.max⌋₊ := by
  have hpassed : passed options before requests =
      (ownDecisions options (bucketAfter options none (timesOf key before))
        (timesOf key (requests.map call))).countP fun entry => entry.2.allowed := by
    rw [← requestDecisions_key options horder, ← count_passed]
    show (passedKeys options before requests).length =
      (passedKeys options before requests).count key
    rw [List.count_eq_length.mpr]
    intro k hk
    obtain ⟨r, hr, rfl⟩ := mem_passedKeys horder hk
    exact (hkey r hr).symm
  cases requests with
  | nil => exact Nat.zero_le _
  | cons r requests =>
    have hhead : r.request.rateLimitKey = key := hkey r List.mem_cons_self
    have htimes : timesOf key ((r :: requests).map call) =
        r.now :: timesOf key (requests.map call) := by
      simp [timesOf, call, isCheckOf, hhead, Call.now]
    rw [hpassed, htimes]
    refine countP_allowed_first ?_
    intro t ht
    obtain ⟨c, hc, rfl⟩ := List.mem_map.mp ht
    obtain ⟨s, hs, rfl⟩ := List.mem_map.mp (List.mem_filter.mp hc).1
    have hbefore := List.pairwise_append.mp horder
    have hlive := live_get_run options hbefore.1 key fun d hd =>
      hbefore.2.2 d hd (call r) List.mem_cons_self
    have hreset : (checkBucket options (bucketAfter options none (timesOf key before))
        r.now).1.resetAt = resetAt := by
      have hsame := @checkBucket_congr options _ _ r.now hlive
      rw [← hsame, ← hfirst _ rfl, hhead]
      rfl
    rw [hreset]
    exact hwindow s (List.mem_cons_of_mem _ hs)

/-- **The limit of a caller.** Requests of one caller, by its `Authorization` and its address, come
in order after any calls of the limiter.

In a window none of their keys has opened before, at most `max` of them pass exactly where they are
no more than that, or `max` is less than one, or they have one key: their headers of a staged tenant
agree, where one without has the caller's own key. Requests of one key are limited inside a window
opened before as well.
SOURCE: apps/api/src/server.js:46-48, 228-237 -/
theorem caller_limited (options : FixedWindow.Options) (before : List (Call String))
    (requests : List LimitedRequest) (authorization remoteAddress : Option String)
    (horder : TimesInOrder (before ++ requests.map call))
    (hcaller : ∀ r ∈ requests, r.ComesFrom authorization remoteAddress) :
    (∀ start, InNewWindow options before requests start →
      ((passed options before requests : ℚ) ≤ max 0 options.max ↔
        (requests.length : ℚ) ≤ max 0 options.max ∨ options.max < 1 ∨
          ∀ r ∈ requests, ∀ s ∈ requests,
            (r.request.headers "x-staged-tenant-id").getD (callerKey authorization remoteAddress) =
              (s.request.headers "x-staged-tenant-id").getD
                (callerKey authorization remoteAddress))) ∧
      ∀ key resetAt, (∀ r ∈ requests, r.request.rateLimitKey = key ∧ r.now < resetAt) →
        (∀ entry, (requestDecisions options before requests).head? = some entry →
          entry.2.2.resetAt = resetAt) →
        (passed options before requests : ℚ) ≤ max 0 options.max := by
  constructor
  · intro start hwindow
    rw [natCast_le_max_zero, natCast_le_max_zero, passed,
      length_le_limit_iff fun key => count_passedKeys horder hwindow key, List.length_map]
    apply or_congr Iff.rfl
    apply or_congr Nat.floor_eq_zero
    simp only [List.forall_mem_map]
    constructor
    · intro h r hr s hs
      rw [← rateLimitKey_of_comesFrom (hcaller r hr), ← rateLimitKey_of_comesFrom (hcaller s hs)]
      exact h r hr s hs
    · intro h r hr s hs
      rw [rateLimitKey_of_comesFrom (hcaller r hr), rateLimitKey_of_comesFrom (hcaller s hs)]
      exact h r hr s hs
  · intro key resetAt hrequests hfirst
    rw [natCast_le_max_zero]
    exact passed_le_of_one_key horder (fun r hr => (hrequests r hr).1)
      (fun r hr => (hrequests r hr).2) hfirst

end

/-- A request with some headers, from one address. -/
def requestWith (fields : List (String × FieldValue)) (now : ℚ) : LimitedRequest where
  request := { method := "GET", url := some "/v1/tenants/tenant-a/projects"
               fields := fun name => fields.lookup name, remoteAddress := some "10.0.0.7" }
  now := now

/-- Two requests under one token, the second with a header of a staged tenant. -/
def headerRequests : List LimitedRequest :=
  [requestWith [("authorization", ⟨"Bearer t", by decide⟩)] 0,
    requestWith [("authorization", ⟨"Bearer t", by decide⟩),
      ("x-staged-tenant-id", ⟨"x", by decide⟩)] 1]

/-- Both pass a limiter that lets one request of a key pass in a minute. -/
theorem staged_header_passes :
    TimesInOrder (headerRequests.map call) ∧
      (∀ r ∈ headerRequests, r.ComesFrom (some "Bearer t") (some "10.0.0.7")) ∧
      InNewWindow { windowMs := 60000, max := 1 } [] headerRequests 0 ∧
      passed { windowMs := 60000, max := 1 } [] headerRequests = 2 := by
  refine ⟨?_, ?_, ⟨?_, ?_⟩, by decide +kernel⟩
  · simp [TimesInOrder, headerRequests, requestWith, call, Call.now]
  · intro r hr
    simp only [headerRequests, List.mem_cons, List.not_mem_nil, or_false] at hr
    obtain rfl | rfl := hr
    · exact ⟨by decide, rfl⟩
    · exact ⟨by decide, rfl⟩
  · intro r hr
    simp only [headerRequests, List.mem_cons, List.not_mem_nil, or_false] at hr
    obtain rfl | rfl := hr <;> norm_num [requestWith]
  · intro r _ entry hentry
    cases hentry

/-- The three requests of a caller who sets no header of a staged tenant. -/
def plainRequests : List LimitedRequest :=
  [requestWith [("authorization", ⟨"Bearer t", by decide⟩)] 0,
    requestWith [("authorization", ⟨"Bearer t", by decide⟩)] 1,
    requestWith [("authorization", ⟨"Bearer t", by decide⟩)] 2]

/-- One of them passes. -/
theorem caller_limited_plain :
    (passed { windowMs := 60000, max := 1 } [] plainRequests : ℚ) ≤ max 0 1 := by
  have hcaller : ∀ r ∈ plainRequests, r.ComesFrom (some "Bearer t") (some "10.0.0.7") := by
    intro r hr
    simp only [plainRequests, List.mem_cons, List.not_mem_nil, or_false] at hr
    obtain rfl | rfl | rfl := hr <;> exact ⟨by decide, rfl⟩
  have horder : TimesInOrder ([] ++ plainRequests.map call) := by
    simp [TimesInOrder, plainRequests, requestWith, call, Call.now]
  refine ((caller_limited { windowMs := 60000, max := 1 } [] plainRequests (some "Bearer t")
    (some "10.0.0.7") horder hcaller).1 0 ⟨?_, ?_⟩).mpr (Or.inr (Or.inr ?_))
  · intro r hr
    simp only [plainRequests, List.mem_cons, List.not_mem_nil, or_false] at hr
    obtain rfl | rfl | rfl := hr <;> norm_num [requestWith]
  · intro r _ entry hentry
    cases hentry
  · intro r hr s hs
    simp only [plainRequests, List.mem_cons, List.not_mem_nil, or_false] at hr hs
    obtain rfl | rfl | rfl := hr <;> obtain rfl | rfl | rfl := hs <;> rfl

end Xygo.Analysis
