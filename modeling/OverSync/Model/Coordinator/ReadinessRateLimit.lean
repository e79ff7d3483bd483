import Mathlib.Data.Int.Notation
import Mathlib.Data.Nat.Notation
import Mathlib.Data.Rat.Init
import Mathlib.Logic.Function.Basic

/-! # The rate limiter of the coordinator

`createReadinessRateLimiter`, which `createApp` puts in front of every route. -/

namespace OverSync.Coordinator

open Function

structure ReadinessRateLimitOptions where
  limit : Option ℚ
  windowMs : Option ℚ
  message : Option String
  errorCode : Option String

/-- The limiter that the options configure. -/
structure RateLimiter where
  limit : ℕ
  windowMs : ℤ
  message : String
  errorCode : String
  deriving DecidableEq, Repr

def createReadinessRateLimiter (options : ReadinessRateLimitOptions) : RateLimiter where
  limit := (max 1 (options.limit.getD 30).floor).toNat
  windowMs := max 1000 (options.windowMs.getD 60000).floor
  message := options.message.getD "Too many health or readiness requests"
  errorCode := options.errorCode.getD "rate_limited"

/-- A request that reaches the limiter, whatever its path. -/
structure RateRequest where
  path : String
  ip : Option String
  remoteAddress : Option String
  timestamp : ℤ
  deriving DecidableEq, Repr

/-- `req.ip || req.socket.remoteAddress || "unknown"` -/
def RateRequest.key (request : RateRequest) : String :=
  (([request.ip, request.remoteAddress].filterMap id).find? (· ≠ "")).getD "unknown"

structure RateBucket where
  startedAt : ℤ
  count : ℕ
  deriving DecidableEq, Repr

abbrev RateBuckets := String → Option RateBucket

structure RateHeaders where
  limit : ℕ
  remaining : ℕ
  reset : ℤ
  deriving DecidableEq, Repr

inductive RateAnswer where
  /-- The request goes on to its route. -/
  | next
  /-- Status 429. -/
  | tooMany (error message : String) (retryAfterSeconds : ℤ)
  deriving DecidableEq, Repr

structure RateReply where
  headers : RateHeaders
  answer : RateAnswer
  deriving DecidableEq, Repr

/-- `Math.ceil(ms / 1000)` -/
def ceilSeconds (ms : ℤ) : ℤ := -(-ms / 1000)

namespace RateLimiter

variable (limiter : RateLimiter)

/-- The bucket of a request, which it has been counted in. -/
def bucket (current : Option RateBucket) (timestamp : ℤ) : RateBucket :=
  let bucket : RateBucket :=
    match current with
    | none => ⟨timestamp, 0⟩
    | some current =>
      if timestamp - current.startedAt ≥ limiter.windowMs then ⟨timestamp, 0⟩ else current
  { bucket with count := bucket.count + 1 }

def reply (bucket : RateBucket) (timestamp : ℤ) : RateReply where
  headers :=
    { limit := limiter.limit
      remaining := limiter.limit - bucket.count
      reset := ceilSeconds (bucket.startedAt + limiter.windowMs) }
  answer :=
    if bucket.count > limiter.limit then
      .tooMany limiter.errorCode limiter.message
        (max 1 (ceilSeconds (bucket.startedAt + limiter.windowMs - timestamp)))
    else .next

/-- The middleware. -/
def handle (buckets : RateBuckets) (request : RateRequest) : RateBuckets × RateReply :=
  let bucket := limiter.bucket (buckets request.key) request.timestamp
  (update buckets request.key (some bucket), limiter.reply bucket request.timestamp)

/-- The buckets after a run of requests, and the requests with their replies. -/
def serve (requests : List RateRequest) : RateBuckets × List (RateRequest × RateReply) :=
  requests.foldl (fun served request =>
    let handled := limiter.handle served.1 request
    (handled.1, served.2 ++ [(request, handled.2)])) (fun _ => none, [])

end RateLimiter

end OverSync.Coordinator
