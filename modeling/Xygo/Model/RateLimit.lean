import Mathlib
import Xygo.Computation.Machine
import Xygo.Computation.OrderedMap

/-!
# The fixed-window rate limiter

`createRateLimiter` of `apps/api/src/http/rate-limit.js`, with its map of buckets and its sweep,
as an object that is called with the time. Numbers are exact here; the listener's own model of the
limiter has the doubles of the source, and the two agree where every number is an integer of at
most 53 bits.
-/

set_option autoImplicit false

namespace Xygo.Model.FixedWindow

open Xygo.Computation

/-- What a limiter is made with.
SOURCE: apps/api/src/http/rate-limit.js:4 -/
structure Options where
  windowMs : ℚ := 60000
  max : ℚ := 120

/-- A bucket: the calls of its window, and the time the window is over. -/
structure Bucket where
  count : ℕ
  resetAt : ℚ
  deriving DecidableEq

/-- What `check` answers. -/
structure Answer where
  allowed : Bool
  remaining : ℚ
  limit : ℚ
  retryAfterSec : ℤ
  resetAt : ℚ
  deriving DecidableEq

/-- The buckets of a limiter, by key. -/
abbrev Buckets (κ : Type) : Type := OrderedMap κ Bucket

/-- What is left of a bucket at a time: nothing once its window is over. -/
def live (now : ℚ) (bucket : Option Bucket) : Option Bucket :=
  bucket.filter fun b => now < b.resetAt

@[simp] theorem live_none (now : ℚ) : live now none = none := rfl

@[simp] theorem live_some (now : ℚ) (b : Bucket) :
    live now (some b) = if now < b.resetAt then some b else none := by
  by_cases h : now < b.resetAt <;> simp [live, Option.filter, h]

/-- The bucket a call counts in: a new one where there is none, or where its window is over.
SOURCE: apps/api/src/http/rate-limit.js:8-13 -/
def bucketAt (options : Options) (bucket : Option Bucket) (now : ℚ) : Bucket :=
  (live now bucket).getD { count := 0, resetAt := now + options.windowMs }

/-- The answer to a call and the bucket it leaves, from the bucket of its key.
SOURCE: apps/api/src/http/rate-limit.js:8-20 -/
def checkBucket (options : Options) (bucket : Option Bucket) (now : ℚ) : Answer × Bucket :=
  let current := bucketAt options bucket now
  let count := current.count + 1
  ({ allowed := (count : ℚ) ≤ options.max
     remaining := max 0 (options.max - count)
     limit := options.max
     retryAfterSec := ⌈(current.resetAt - now) / 1000⌉
     resetAt := current.resetAt },
    { current with count := count })

section

variable {κ : Type} [DecidableEq κ]

/-- `check`
SOURCE: apps/api/src/http/rate-limit.js:7-21 -/
def check (options : Options) (key : κ) (now : ℚ) (buckets : Buckets κ) : Answer × Buckets κ :=
  let result := checkBucket options (buckets.get key) now
  (result.1, buckets.set key result.2)

/-- `sweep`
SOURCE: apps/api/src/http/rate-limit.js:24-30 -/
def sweep (now : ℚ) (buckets : Buckets κ) : Buckets κ :=
  buckets.filter fun _ bucket => !decide (bucket.resetAt ≤ now)

/-- A call of a limiter, with the time it reads. -/
inductive Call (κ : Type)
  | check (key : κ) (now : ℚ)
  | sweep (now : ℚ)

/-- The time of a call. -/
def Call.now : Call κ → ℚ
  | .check _ now | .sweep now => now

/-- `createRateLimiter`: a sweep answers nothing.
SOURCE: apps/api/src/http/rate-limit.js:4-33 -/
def createRateLimiter (options : Options) : Object (Buckets κ) (Call κ) (Option Answer) where
  call
    | .check key now, buckets =>
      let result := check options key now buckets
      (some result.1, result.2)
    | .sweep now, buckets => (none, sweep now buckets)

end

end Xygo.Model.FixedWindow
