import Xygo.Model.RateLimit

/-!
# What a fixed window promises

The answers of a run are those of one bucket for each key, without sweeps: a sweep deletes only
buckets whose window is over, and such a bucket counts for nothing at any later time
(`live_get_run`). So the answers on a key are the answers of its own calls (`decisionsOn_eq`), and
the bounds are proved for one bucket, by induction on the times of its calls.
-/

set_option autoImplicit false

namespace Xygo.Analysis

open Xygo.Computation Xygo.Model FixedWindow

section

variable {κ : Type}

/-- The times of the calls do not decrease. -/
def TimesInOrder (calls : List (Call κ)) : Prop := calls.Pairwise fun a b => a.now ≤ b.now

theorem TimesInOrder.append {calls : List (Call κ)} {c : Call κ} (h : TimesInOrder (calls ++ [c])) :
    TimesInOrder calls ∧ ∀ d ∈ calls, d.now ≤ c.now := by
  obtain ⟨hcalls, -, hlast⟩ := List.pairwise_append.mp h
  exact ⟨hcalls, fun d hd => hlast d hd c (List.mem_singleton_self c)⟩

/-- Whether a call is a check. -/
def isCheck : Call κ → Bool
  | .check _ _ => true
  | .sweep _ => false

variable [DecidableEq κ] {options : FixedWindow.Options}

/-- Whether a call is a check of a key. -/
def isCheckOf (key : κ) : Call κ → Bool
  | .check other _ => decide (other = key)
  | .sweep _ => false

/-- The times of the checks of a key. -/
def timesOf (key : κ) (calls : List (Call κ)) : List ℚ :=
  (calls.filter (isCheckOf key)).map Call.now

/-- The answer to a check after some calls. -/
def decisionAfter (options : FixedWindow.Options) (calls : List (Call κ)) (key : κ) (now : ℚ) :
    Answer :=
  (check options key now ((createRateLimiter options).run .empty calls).2).1

/-- The decision an entry of a log holds. -/
def decisionOf : Call κ × Option Answer → Option (κ × ℚ × Answer)
  | (.check key now, some answer) => some (key, now, answer)
  | _ => none

/-- The decisions of a run: the checks, with their times and answers. -/
def decisions (options : FixedWindow.Options) (calls : List (Call κ)) : List (κ × ℚ × Answer) :=
  ((createRateLimiter options).run .empty calls).1.filterMap decisionOf

/-- The decisions of a run on a key. -/
def decisionsOn (options : FixedWindow.Options) (key : κ) (calls : List (Call κ)) :
    List (ℚ × Answer) :=
  ((decisions options calls).filter fun entry => entry.1 = key).map Prod.snd

/-- A decision that lets the caller through in the window that is over at a time. -/
def passedWindow (resetAt : ℚ) (entry : ℚ × Answer) : Bool :=
  entry.2.allowed && decide (entry.2.resetAt = resetAt) && decide (entry.1 < resetAt)

/-- A decision that lets the caller through in a half-open interval. -/
def passedWithin (start length : ℚ) (entry : ℚ × Answer) : Bool :=
  entry.2.allowed && decide (start ≤ entry.1) && decide (entry.1 < start + length)

/-! ## One bucket -/

/-- The decisions of one bucket at some times. -/
def ownDecisions (options : FixedWindow.Options) : Option Bucket → List ℚ → List (ℚ × Answer)
  | _, [] => []
  | bucket, now :: times =>
    (now, (checkBucket options bucket now).1) ::
      ownDecisions options (some (checkBucket options bucket now).2) times

/-- The bucket after some calls. -/
def bucketAfter (options : FixedWindow.Options) (bucket : Option Bucket) (times : List ℚ) :
    Option Bucket :=
  times.foldl (fun bucket now => some (checkBucket options bucket now).2) bucket

theorem ownDecisions_append (bucket : Option Bucket) (times later : List ℚ) :
    ownDecisions options bucket (times ++ later) =
      ownDecisions options bucket times ++
        ownDecisions options (bucketAfter options bucket times) later := by
  induction times generalizing bucket with
  | nil => rfl
  | cons now times ih =>
    rw [List.cons_append, ownDecisions, ownDecisions, ih, List.cons_append]
    rfl

theorem time_mem_of_mem {bucket : Option Bucket} {times : List ℚ} {entry : ℚ × Answer}
    (h : entry ∈ ownDecisions options bucket times) : entry.1 ∈ times := by
  induction times generalizing bucket with
  | nil => exact nomatch h
  | cons now times ih =>
    obtain rfl | h := List.mem_cons.mp h
    · exact List.mem_cons_self
    · exact List.mem_cons_of_mem _ (ih h)

theorem bucketAfter_append (bucket : Option Bucket) (times : List ℚ) (now : ℚ) :
    bucketAfter options bucket (times ++ [now]) =
      some (checkBucket options (bucketAfter options bucket times) now).2 := by
  simp [bucketAfter]

/-- INTERNAL: only what is left of a bucket counts. -/
theorem checkBucket_congr {bucket other : Option Bucket} {now : ℚ}
    (h : live now bucket = live now other) :
    checkBucket options bucket now = checkBucket options other now := by
  unfold checkBucket bucketAt
  rw [h]

/-- INTERNAL: a call goes on with the bucket of its key, or it opens a window.
SOURCE: apps/api/src/http/rate-limit.js:8-16 -/
theorem checkBucket_next (options : FixedWindow.Options) (bucket : Option Bucket) (now : ℚ) :
    (∃ b, bucket = some b ∧ now < b.resetAt ∧
        (checkBucket options bucket now).2.count = b.count + 1 ∧
        (checkBucket options bucket now).2.resetAt = b.resetAt) ∨
      (∀ b, bucket = some b → b.resetAt ≤ now) ∧
        (checkBucket options bucket now).2.count = 1 ∧
        (checkBucket options bucket now).2.resetAt = now + options.windowMs := by
  cases bucket with
  | none =>
    refine Or.inr ⟨?_, rfl, rfl⟩
    intro b hb
    cases hb
  | some b =>
    by_cases hlive : now < b.resetAt
    · refine Or.inl ⟨b, rfl, hlive, ?_⟩
      simp [checkBucket, bucketAt, hlive]
    · refine Or.inr ⟨?_, ?_⟩
      · intro _ hb
        cases hb
        exact not_lt.mp hlive
      · simp [checkBucket, bucketAt, hlive]

/-- INTERNAL: a call is let through as long as its bucket has room.
SOURCE: apps/api/src/http/rate-limit.js:15-16 -/
theorem checkBucket_allowed (options : FixedWindow.Options) (bucket : Option Bucket) (now : ℚ) :
    (checkBucket options bucket now).1.allowed = true ↔
      (checkBucket options bucket now).2.count ≤ ⌊options.max⌋₊ := by
  rw [Nat.le_floor_iff' (by simp [checkBucket])]
  simp [checkBucket]

theorem checkBucket_resetAt (options : FixedWindow.Options) (bucket : Option Bucket) (now : ℚ) :
    (checkBucket options bucket now).1.resetAt = (checkBucket options bucket now).2.resetAt := rfl

/-! ### Bounds -/

/-- INTERNAL: no decision of a window is made once the window is over. -/
theorem countP_window_eq_zero {resetAt : ℚ} {bucket : Option Bucket} {times : List ℚ}
    (h : ∀ t ∈ times, resetAt ≤ t) :
    (ownDecisions options bucket times).countP (passedWindow resetAt) = 0 := by
  induction times generalizing bucket with
  | nil => rfl
  | cons now times ih =>
    have hnow : ¬ now < resetAt := not_lt.mpr (h now List.mem_cons_self)
    rw [ownDecisions, List.countP_cons, ih fun t ht => h t (List.mem_cons_of_mem _ ht)]
    simp [passedWindow, hnow]

/-- The calls a bucket has already counted in a window. -/
def usedIn (resetAt : ℚ) : Option Bucket → ℕ
  | none => 0
  | some bucket => if bucket.resetAt = resetAt then bucket.count else 0

/-- INTERNAL: the calls let through in a window, with those counted before, are at most `max`. The
induction is on the times; a call of another window, or of one that is over, adds nothing. -/
theorem countP_window_le {resetAt : ℚ} {bucket : Option Bucket} {times : List ℚ}
    (h : times.Pairwise (· ≤ ·)) :
    (ownDecisions options bucket times).countP (passedWindow resetAt) ≤
      ⌊options.max⌋₊ - usedIn resetAt bucket := by
  induction times generalizing bucket with
  | nil => exact Nat.zero_le _
  | cons now times ih =>
    obtain ⟨hlater, hrest⟩ := List.pairwise_cons.mp h
    have htail := @ih (some (checkBucket options bucket now).2) hrest
    have hallowed := checkBucket_allowed options bucket now
    have hreset := checkBucket_resetAt options bucket now
    rw [ownDecisions, List.countP_cons]
    obtain ⟨b, rfl, hlive, hcount, hnext⟩ | ⟨hover, hcount, hnext⟩ :=
      checkBucket_next options bucket now
    · by_cases hsame : b.resetAt = resetAt
      · simp only [usedIn, hnext, hsame, if_true] at htail ⊢
        simp only [passedWindow, Bool.and_eq_true, decide_eq_true_eq, hallowed]
        split <;> omega
      · simp only [usedIn, hnext, hsame, if_false] at htail ⊢
        simp only [passedWindow, hreset, hnext, hsame]
        simpa using htail
    · by_cases hold : resetAt ≤ now
      · rw [countP_window_eq_zero fun t ht => hold.trans (hlater t ht)]
        simp [passedWindow, not_lt.mpr hold]
      · have hunused : usedIn resetAt bucket = 0 := by
          cases bucket with
          | none => rfl
          | some b =>
            have hne : b.resetAt ≠ resetAt := fun heq => hold (heq ▸ hover b rfl)
            simp [usedIn, hne]
        rw [hunused]
        by_cases hsame : now + options.windowMs = resetAt
        · simp only [usedIn, hnext, hsame, if_true] at htail
          simp only [passedWindow, Bool.and_eq_true, decide_eq_true_eq, hallowed]
          split <;> omega
        · simp only [usedIn, hnext, hsame, if_false] at htail
          simp only [passedWindow, hreset, hnext, hsame]
          simpa using htail

/-- INTERNAL: no decision of an interval is made behind it. -/
theorem countP_within_eq_zero {start length : ℚ} {bucket : Option Bucket} {times : List ℚ}
    (h : ∀ t ∈ times, start + length ≤ t) :
    (ownDecisions options bucket times).countP (passedWithin start length) = 0 := by
  induction times generalizing bucket with
  | nil => rfl
  | cons now times ih =>
    have hnow : ¬ now < start + length := not_lt.mpr (h now List.mem_cons_self)
    rw [ownDecisions, List.countP_cons, ih fun t ht => h t (List.mem_cons_of_mem _ ht)]
    simp [passedWithin, hnow]

/-- INTERNAL: a window that lasts to the end of an interval leaves the interval at most the room of
its bucket. -/
theorem countP_within_le_room {start : ℚ} {b : Bucket} {times : List ℚ}
    (h : times.Pairwise (· ≤ ·)) (hend : start + options.windowMs ≤ b.resetAt) :
    (ownDecisions options (some b) times).countP (passedWithin start options.windowMs) ≤
      ⌊options.max⌋₊ - b.count := by
  induction times generalizing b with
  | nil => exact Nat.zero_le _
  | cons now times ih =>
    obtain ⟨hlater, hrest⟩ := List.pairwise_cons.mp h
    obtain ⟨_, heq, hlive, hcount, hnext⟩ | ⟨hover, -⟩ := checkBucket_next options (some b) now
    · cases heq
      have htail := @ih (checkBucket options (some b) now).2 hrest (by rw [hnext]; exact hend)
      have hallowed := checkBucket_allowed options (some b) now
      rw [ownDecisions, List.countP_cons]
      simp only [passedWithin, Bool.and_eq_true, decide_eq_true_eq, hallowed]
      split <;> omega
    · have hpast : ∀ t ∈ now :: times, start + options.windowMs ≤ t := by
        intro t ht
        have hb := hend.trans (hover b rfl)
        obtain rfl | ht := List.mem_cons.mp ht
        · exact hb
        · exact hb.trans (hlater t ht)
      rw [countP_within_eq_zero hpast]
      exact Nat.zero_le _

/-- INTERNAL: a call that opens a window, and what the window leaves of an interval. -/
theorem countP_within_opening_le {start now : ℚ} {bucket : Option Bucket} {times : List ℚ}
    (h : (now :: times).Pairwise (· ≤ ·)) (hstart : start ≤ now)
    (hcount : (checkBucket options bucket now).2.count = 1)
    (hnext : (checkBucket options bucket now).2.resetAt = now + options.windowMs) :
    (ownDecisions options bucket (now :: times)).countP (passedWithin start options.windowMs) ≤
      ⌊options.max⌋₊ := by
  have hend : start + options.windowMs ≤ (checkBucket options bucket now).2.resetAt := by
    rw [hnext]
    linarith
  have htail := countP_within_le_room (List.pairwise_cons.mp h).2 hend
  have hallowed := checkBucket_allowed options bucket now
  rw [ownDecisions, List.countP_cons]
  simp only [passedWithin, Bool.and_eq_true, decide_eq_true_eq, hallowed]
  split <;> omega

/-- INTERNAL: a window that is over inside an interval is followed by one that lasts to its end. -/
theorem countP_within_le_two {start : ℚ} {b : Bucket} {times : List ℚ}
    (h : times.Pairwise (· ≤ ·)) (hinside : start < b.resetAt) :
    (ownDecisions options (some b) times).countP (passedWithin start options.windowMs) ≤
      (⌊options.max⌋₊ - b.count) + ⌊options.max⌋₊ := by
  induction times generalizing b with
  | nil => exact Nat.zero_le _
  | cons now times ih =>
    obtain ⟨_, heq, hlive, hcount, hnext⟩ | ⟨hover, hcount, hnext⟩ :=
      checkBucket_next options (some b) now
    · cases heq
      have htail := @ih (checkBucket options (some b) now).2 (List.pairwise_cons.mp h).2
        (by rw [hnext]; exact hinside)
      have hallowed := checkBucket_allowed options (some b) now
      rw [ownDecisions, List.countP_cons]
      simp only [passedWithin, Bool.and_eq_true, decide_eq_true_eq, hallowed]
      split <;> omega
    · have hstart : start ≤ now := (hinside.trans_le (hover b rfl)).le
      have hopening := countP_within_opening_le h hstart hcount hnext
      omega

/-- INTERNAL: an interval of the length of a window meets at most two of them. -/
theorem countP_within_le {start : ℚ} {bucket : Option Bucket} {times : List ℚ}
    (h : times.Pairwise (· ≤ ·)) :
    (ownDecisions options bucket times).countP (passedWithin start options.windowMs) ≤
      2 * ⌊options.max⌋₊ := by
  induction times generalizing bucket with
  | nil => exact Nat.zero_le _
  | cons now times ih =>
    by_cases hstart : start ≤ now
    · obtain ⟨b, rfl, hlive, -⟩ | ⟨-, hcount, hnext⟩ := checkBucket_next options bucket now
      · have htwo := @countP_within_le_two options start b _ h (hstart.trans_lt hlive)
        omega
      · have hopening := countP_within_opening_le h hstart hcount hnext
        omega
    · rw [ownDecisions, List.countP_cons]
      have htail := @ih (some (checkBucket options bucket now).2) (List.pairwise_cons.mp h).2
      simpa [passedWithin, hstart] using htail

/-- INTERNAL: the window of a decision was opened by a call, or it is the one of the bucket. -/
theorem opened_of_mem {bucket : Option Bucket} {times : List ℚ} (h : times.Pairwise (· ≤ ·))
    {entry : ℚ × Answer} (hentry : entry ∈ ownDecisions options bucket times) :
    (∃ opened ∈ times, opened ≤ entry.1 ∧ entry.2.resetAt = opened + options.windowMs ∧
        (entry.1 = opened ∨ entry.1 < entry.2.resetAt)) ∨
      ∃ b, bucket = some b ∧ entry.2.resetAt = b.resetAt ∧ entry.1 < b.resetAt := by
  induction times generalizing bucket with
  | nil => exact nomatch hentry
  | cons now times ih =>
    obtain ⟨hlater, hrest⟩ := List.pairwise_cons.mp h
    have hnext := checkBucket_next options bucket now
    obtain rfl | hmem := List.mem_cons.mp hentry
    · obtain ⟨b, hb, hlive, -, hbucket⟩ | ⟨-, -, hbucket⟩ := hnext
      · exact Or.inr ⟨b, hb, hbucket, hlive⟩
      · exact Or.inl ⟨now, List.mem_cons_self, le_refl _, hbucket, Or.inl rfl⟩
    · obtain ⟨opened, hopened, hfound⟩ | ⟨b, hb, hreset, hbefore⟩ := ih hrest hmem
      · exact Or.inl ⟨opened, List.mem_cons_of_mem _ hopened, hfound⟩
      · obtain rfl := Option.some.inj hb
        obtain ⟨b, hb, hlive, -, hbucket⟩ | ⟨-, -, hbucket⟩ := hnext
        · rw [hbucket] at hreset hbefore
          exact Or.inr ⟨b, hb, hreset, hbefore⟩
        · have hafter : now ≤ entry.1 := hlater _ (time_mem_of_mem hmem)
          refine Or.inl ⟨now, List.mem_cons_self, hafter, hreset.trans hbucket, Or.inr ?_⟩
          rw [hreset]
          exact hbefore

/-! ## The buckets of a limiter -/

theorem timesOf_append (key : κ) (calls : List (Call κ)) (c : Call κ) :
    timesOf key (calls ++ [c]) =
      timesOf key calls ++ (if isCheckOf key c then [c.now] else []) := by
  unfold timesOf
  rw [List.filter_append, List.map_append]
  cases hc : isCheckOf key c <;> simp [hc]

theorem live_live {now later : ℚ} (h : now ≤ later) (bucket : Option Bucket) :
    live later (live now bucket) = live later bucket := by
  cases bucket with
  | none => rfl
  | some b =>
    by_cases hlive : now < b.resetAt
    · simp [hlive]
    · have hlater : ¬ later < b.resetAt := fun hlt => hlive (h.trans_lt hlt)
      simp [hlive, hlater]

/-- INTERNAL: a sweep leaves what counts at any later time.
SOURCE: apps/api/src/http/rate-limit.js:24-30 -/
theorem live_get_sweep (buckets : Buckets κ) (key : κ) {now later : ℚ} (h : now ≤ later) :
    live later ((sweep now buckets).get key) = live later (buckets.get key) := by
  rw [sweep, OrderedMap.get_filter]
  cases buckets.get key with
  | none => rfl
  | some b =>
    by_cases hover : b.resetAt ≤ now
    · have hlater : ¬ later < b.resetAt := not_lt.mpr (hover.trans h)
      simp [Option.filter, hover, hlater]
    · simp [Option.filter, hover]

/-- INTERNAL: what counts of a key's bucket, after a run of calls in order, is what counts of a
bucket that saw the key's own calls alone. By induction on the calls; a call of another key leaves
the bucket, and a sweep leaves what counts of it. -/
theorem live_get_run (options : FixedWindow.Options) {calls : List (Call κ)}
    (h : TimesInOrder calls) (key : κ) {now : ℚ} (hnow : ∀ c ∈ calls, c.now ≤ now) :
    live now (((createRateLimiter options).run .empty calls).2.get key) =
      live now (bucketAfter options none (timesOf key calls)) := by
  induction calls using List.reverseRecOn generalizing now with
  | nil => rfl
  | append_singleton calls c ih =>
    obtain ⟨hcalls, hbefore⟩ := h.append
    have hc : c.now ≤ now := hnow c (by simp)
    have hrest : ∀ d ∈ calls, d.now ≤ now := fun d hd => (hbefore d hd).trans hc
    rw [Object.run_append, timesOf_append]
    cases c with
    | check other t =>
      show live now ((OrderedMap.set _ other _).get key) = _
      rw [OrderedMap.get_set]
      by_cases hkey : key = other
      · subst hkey
        have hsame := @checkBucket_congr options _ _ _ (ih hcalls hbefore)
        simp only [isCheckOf, decide_true, if_true, bucketAfter_append]
        exact congrArg (fun result => live now (some result.2)) hsame
      · have hne : ¬ other = key := fun heq => hkey heq.symm
        simp only [isCheckOf, hkey, hne, decide_false, if_false, Bool.false_eq_true,
          List.append_nil]
        exact ih hcalls hrest
    | sweep t =>
      have ht : t ≤ now := hc
      show live now ((sweep t _).get key) = _
      rw [live_get_sweep _ _ ht, ih hcalls hrest]
      simp [isCheckOf]

/-- INTERNAL: a check is answered as if its key's own calls were the only ones. -/
theorem decisionAfter_eq {calls : List (Call κ)} {key : κ} {now : ℚ}
    (h : TimesInOrder (calls ++ [.check key now])) :
    decisionAfter options calls key now =
      (checkBucket options (bucketAfter options none (timesOf key calls)) now).1 := by
  obtain ⟨hcalls, hbefore⟩ := h.append
  exact congrArg Prod.fst (checkBucket_congr (live_get_run options hcalls key hbefore))

/-! ## The decisions of a run -/

/-- INTERNAL: a check adds its decision, and a sweep adds none. -/
theorem decisions_append (calls : List (Call κ)) (c : Call κ) :
    decisions options (calls ++ [c]) = decisions options calls ++
      match c with
      | .check key now => [(key, now, decisionAfter options calls key now)]
      | .sweep _ => [] := by
  unfold decisions
  rw [Object.run_append, List.filterMap_append]
  cases c <;> rfl

/-- INTERNAL: the decisions on a key are those of one bucket at the times of its own calls. -/
theorem decisionsOn_eq (options : FixedWindow.Options) (key : κ) {calls : List (Call κ)}
    (h : TimesInOrder calls) :
    decisionsOn options key calls = ownDecisions options none (timesOf key calls) := by
  induction calls using List.reverseRecOn with
  | nil => rfl
  | append_singleton calls c ih =>
    have hcalls := ih h.append.1
    unfold decisionsOn at hcalls ⊢
    rw [decisions_append, List.filter_append, List.map_append, hcalls, timesOf_append]
    cases c with
    | check other now =>
      by_cases hkey : other = key
      · subst hkey
        simp [isCheckOf, ownDecisions_append, ownDecisions, decisionAfter_eq h, Call.now]
      · simp [isCheckOf, hkey]
    | sweep now => simp [isCheckOf]

/-- INTERNAL: the times of the calls of a key do not decrease. -/
theorem TimesInOrder.timesOf {calls : List (Call κ)} (h : TimesInOrder calls) (key : κ) :
    (timesOf key calls).Pairwise (· ≤ ·) :=
  List.pairwise_map.mpr (h.sublist List.filter_sublist)

/-- INTERNAL: a run is answered as the run without its sweeps. -/
theorem decisions_filter (options : FixedWindow.Options) {calls : List (Call κ)}
    (h : TimesInOrder calls) :
    decisions options (calls.filter isCheck) = decisions options calls := by
  induction calls using List.reverseRecOn with
  | nil => rfl
  | append_singleton calls c ih =>
    have hcalls := ih h.append.1
    rw [List.filter_append]
    cases c with
    | check key now =>
      have hfiltered : TimesInOrder (calls.filter isCheck ++ [.check key now]) := by
        have hsub := h.sublist (List.filter_sublist (p := isCheck))
        rw [List.filter_append] at hsub
        exact hsub
      have htimes : Analysis.timesOf key (calls.filter isCheck) = Analysis.timesOf key calls := by
        unfold Analysis.timesOf
        rw [List.filter_filter]
        congr 2
        funext c
        cases c <;> simp [isCheck, isCheckOf]
      show decisions options (calls.filter isCheck ++ [.check key now]) = _
      rw [decisions_append, decisions_append, hcalls]
      dsimp only
      rw [decisionAfter_eq hfiltered, decisionAfter_eq h, htimes]
    | sweep now =>
      have hnone : ([.sweep now] : List (Call κ)).filter isCheck = [] := rfl
      rw [hnone, List.append_nil, decisions_append, hcalls, List.append_nil]

/-! ## Waiting -/

/-- INTERNAL: calls inside a window leave its end where it is. -/
theorem bucketAfter_inside {b : Bucket} {times : List ℚ} (h : ∀ t ∈ times, t < b.resetAt) :
    ∃ after, bucketAfter options (some b) times = some after ∧ after.resetAt = b.resetAt := by
  induction times generalizing b with
  | nil => exact ⟨b, rfl, rfl⟩
  | cons now times ih =>
    have hnow := h now List.mem_cons_self
    obtain ⟨_, heq, -, -, hnext⟩ | ⟨hover, -⟩ := checkBucket_next options (some b) now
    · cases heq
      have hrest : ∀ t ∈ times, t < (checkBucket options (some b) now).2.resetAt := by
        intro t ht
        rw [hnext]
        exact h t (List.mem_cons_of_mem _ ht)
      obtain ⟨after, hafter, hreset⟩ := ih hrest
      exact ⟨after, hafter, hreset.trans hnext⟩
    · exact absurd hnow (not_lt.mpr (hover b rfl))

/-- INTERNAL: the wait that a decision asks for ends no earlier than its window.
SOURCE: apps/api/src/http/rate-limit.js:18 -/
theorem resetAt_le_of_waited {bucket : Option Bucket} {now later : ℚ}
    (h : now + 1000 * (checkBucket options bucket now).1.retryAfterSec ≤ later) :
    (checkBucket options bucket now).2.resetAt ≤ later := by
  have hceil : ((checkBucket options bucket now).2.resetAt - now) / 1000 ≤
      (checkBucket options bucket now).1.retryAfterSec := Int.le_ceil _
  linarith [(div_le_iff₀ (by norm_num : (0 : ℚ) < 1000)).mp hceil]

/-- INTERNAL: the next call of a key after the wait opens a window. -/
theorem allowed_of_waited {before between : List (Call κ)} {key : κ} {now later : ℚ}
    (h : TimesInOrder (before ++ .check key now :: between ++ [.check key later]))
    (hmax : 1 ≤ options.max)
    (hinside : ∀ t ∈ timesOf key between, t < (decisionAfter options before key now).resetAt)
    (hwaited : now + 1000 * (decisionAfter options before key now).retryAfterSec ≤ later) :
    (decisionAfter options (before ++ .check key now :: between) key later).allowed = true := by
  have hfirst : TimesInOrder (before ++ [.check key now]) := by
    refine List.Pairwise.sublist ?_ h
    simp
  rw [decisionAfter_eq hfirst] at hinside hwaited
  rw [decisionAfter_eq h, checkBucket_allowed]
  have htimes : timesOf key (before ++ .check key now :: between) =
      timesOf key before ++ now :: timesOf key between := by
    simp [timesOf, isCheckOf, Call.now]
  obtain ⟨after, hafter, hreset⟩ := @bucketAfter_inside options
    (checkBucket options (bucketAfter options none (timesOf key before)) now).2 _ hinside
  have hbucket : bucketAfter options none (timesOf key before ++ now :: timesOf key between) =
      some after := by
    rw [bucketAfter, List.foldl_append]
    exact hafter
  have hover : after.resetAt ≤ later := hreset ▸ resetAt_le_of_waited hwaited
  rw [htimes, hbucket]
  obtain ⟨_, heq, hlive, -⟩ | ⟨-, hcount, -⟩ := checkBucket_next options (some after) later
  · cases heq
    exact absurd hlive (not_lt.mpr hover)
  · rw [hcount]
    exact Nat.le_floor (by exact_mod_cast hmax)

/-! ## The promises -/

/-- What a fixed window promises about a run of calls.

`opened`: the window of a decision was opened by a call of its key, and it lasts `windowMs`.
`perWindow`, `perInterval`: how many calls of a key pass.
`ownCalls`: the decisions on a key are those of a run of its own calls.
`retry`: a denied key whose next call in a new window comes `retryAfterSec` later passes; calls of
the key before its window is over do no harm.
`sweeps`: a run with other sweeps is answered alike. -/
structure KeepsWindows (options : FixedWindow.Options) (calls : List (Call κ)) : Prop where
  opened : ∀ key, ∀ entry ∈ decisionsOn options key calls, ∃ opened ∈ timesOf key calls,
    opened ≤ entry.1 ∧ entry.2.resetAt = opened + options.windowMs ∧
      (entry.1 = opened ∨ entry.1 < entry.2.resetAt)
  perWindow : ∀ key resetAt,
    ((decisionsOn options key calls).countP (passedWindow resetAt) : ℚ) ≤ max 0 options.max
  perInterval : ∀ key start,
    ((decisionsOn options key calls).countP (passedWithin start options.windowMs) : ℚ) ≤
      2 * max 0 options.max
  ownCalls : ∀ key, decisionsOn options key (calls.filter (isCheckOf key)) =
    decisionsOn options key calls
  retry : ∀ before key now between later after,
    calls = before ++ .check key now :: between ++ .check key later :: after →
    1 ≤ options.max → (decisionAfter options before key now).allowed = false →
    (∀ t ∈ timesOf key between, t < (decisionAfter options before key now).resetAt) →
    now + 1000 * (decisionAfter options before key now).retryAfterSec ≤ later →
    (decisionAfter options (before ++ .check key now :: between) key later).allowed = true
  sweeps : ∀ other : List (Call κ), TimesInOrder other →
    other.filter isCheck = calls.filter isCheck → decisions options other = decisions options calls

/-- INTERNAL: the most calls that pass, as a number. -/
theorem floor_le_max_zero (q : ℚ) : (⌊q⌋₊ : ℚ) ≤ max 0 q := by
  by_cases h : 0 ≤ q
  · exact (Nat.floor_le h).trans (le_max_right 0 q)
  · rw [Nat.floor_of_nonpos (not_le.mp h).le]
    exact le_max_left 0 q

/-- **Fixed-window limits.** Every run of checks and sweeps whose times do not decrease keeps what
a fixed window promises, with any window length and any limit.
SOURCE: apps/api/src/http/rate-limit.js:4-33 -/
theorem fixed_windows_kept (options : FixedWindow.Options) (calls : List (Call κ))
    (h : TimesInOrder calls) : KeepsWindows options calls where
  opened key entry hentry := by
    rw [decisionsOn_eq options key h] at hentry
    obtain hopened | ⟨b, hb, -⟩ := opened_of_mem (h.timesOf key) hentry
    · exact hopened
    · cases hb
  perWindow key resetAt := by
    rw [decisionsOn_eq options key h]
    have hcount : (ownDecisions options none (timesOf key calls)).countP
        (passedWindow resetAt) ≤ ⌊options.max⌋₊ := countP_window_le (h.timesOf key)
    exact le_trans (by exact_mod_cast hcount) (floor_le_max_zero options.max)
  perInterval key start := by
    rw [decisionsOn_eq options key h]
    have hcount : (ownDecisions options none (timesOf key calls)).countP
        (passedWithin start options.windowMs) ≤ 2 * ⌊options.max⌋₊ :=
      countP_within_le (h.timesOf key)
    calc ((ownDecisions options none (timesOf key calls)).countP
            (passedWithin start options.windowMs) : ℚ) ≤ 2 * ⌊options.max⌋₊ := by
          exact_mod_cast hcount
      _ ≤ 2 * max 0 options.max := by
          linarith [floor_le_max_zero options.max]
  ownCalls key := by
    have hown : TimesInOrder (calls.filter (isCheckOf key)) := h.sublist List.filter_sublist
    rw [decisionsOn_eq options key hown, decisionsOn_eq options key h]
    simp [timesOf]
  retry before key now between later after hcalls hmax _ hinside hwaited := by
    refine allowed_of_waited ?_ hmax hinside hwaited
    refine List.Pairwise.sublist ?_ h
    rw [hcalls]
    simp
  sweeps other hother hsame := by
    rw [← decisions_filter options hother, hsame, decisions_filter options h]

end

/-- Three calls of one key, a sweep, and a call in the next window. -/
def callsAcross : List (Call String) :=
  [.check "k" 0, .check "k" 500, .check "k" 600, .sweep 900, .check "k" 1000]

theorem inOrder_callsAcross : TimesInOrder callsAcross := by
  simp [TimesInOrder, callsAcross, Call.now]
  norm_num

/-- With two calls a second, the calls keep what the limiter promises. -/
theorem fixed_windows_kept_across :
    KeepsWindows { windowMs := 1000, max := 2 } callsAcross :=
  fixed_windows_kept { windowMs := 1000, max := 2 } callsAcross inOrder_callsAcross

end Xygo.Analysis
