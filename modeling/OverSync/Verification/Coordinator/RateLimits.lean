import OverSync.Library.FixedWindow
import OverSync.Model.Coordinator.ReadinessRateLimit

/-! # What the rate limiter lets through

To each client the limiter is a fixed-window counter of its own requests, whatever the others
ask for in between. -/

namespace OverSync.Coordinator

open Function Library.FixedWindow

variable {limiter : RateLimiter} {requests front later : List RateRequest}
  {request : RateRequest} {client : String} {timestamp r : ℤ} {error message : String}

/-! ## One client -/

def RateBucket.window (bucket : RateBucket) : Window := ⟨bucket.startedAt, bucket.count⟩

/-- When a client asked. -/
def timesOf (requests : List RateRequest) (client : String) : List ℤ :=
  (requests.filter fun request => request.key = client).map RateRequest.timestamp

/-- When a client was let through. -/
def RateLimiter.passed (limiter : RateLimiter) (requests : List RateRequest) (client : String) :
    List ℤ :=
  ((limiter.serve requests).2.filter fun served =>
    served.1.key = client ∧ served.2.answer = .next).map fun served => served.1.timestamp

/-- The answer to one more request. -/
def RateLimiter.answer (limiter : RateLimiter) (past : List RateRequest) (request : RateRequest) :
    RateAnswer :=
  (limiter.handle (limiter.serve past).1 request).2.answer

theorem serve_append_singleton : limiter.serve (requests ++ [request]) =
    ((limiter.handle (limiter.serve requests).1 request).1,
      (limiter.serve requests).2 ++
        [(request, (limiter.handle (limiter.serve requests).1 request).2)]) := by
  simp [RateLimiter.serve, List.foldl_append]

theorem bucket_window (limiter : RateLimiter) (timestamp : ℤ) (current : Option RateBucket) :
    (limiter.bucket current timestamp).window =
      hit limiter.windowMs timestamp (current.map RateBucket.window) := by
  cases current with
  | none => rfl
  | some current =>
      simp only [RateLimiter.bucket, Option.map_some, hit, RateBucket.window, ge_iff_le]
      split <;> rfl

/-- A request is let through as long as its window is not full. -/
theorem reply_next_iff {bucket : RateBucket} :
    (limiter.reply bucket timestamp).answer = .next ↔ bucket.count ≤ limiter.limit := by
  unfold RateLimiter.reply
  by_cases hfull : bucket.count > limiter.limit
  · simp [hfull]
  · simp [hfull, Nat.not_lt.mp hfull]

theorem answer_next_iff : limiter.answer requests request = .next ↔
    (hit limiter.windowMs request.timestamp
      (((limiter.serve requests).1 request.key).map RateBucket.window)).count ≤ limiter.limit := by
  rw [RateLimiter.answer, RateLimiter.handle, reply_next_iff, ← bucket_window]
  rfl

theorem timesOf_snoc : timesOf (requests ++ [request]) client =
    timesOf requests client ++ if request.key = client then [request.timestamp] else [] := by
  by_cases hkey : request.key = client <;> simp [timesOf, hkey]

theorem passed_snoc : limiter.passed (requests ++ [request]) client =
    limiter.passed requests client ++
      if request.key = client ∧ limiter.answer requests request = .next then [request.timestamp]
      else [] := by
  rw [RateLimiter.passed, serve_append_singleton, List.filter_append, List.map_append,
    RateLimiter.passed]
  congr 1
  rw [RateLimiter.answer]
  split_ifs with hpassed <;> simp [hpassed]

/-- The limiter serves each client as a counter of its own. -/
theorem serve_client (limiter : RateLimiter) (requests : List RateRequest) (client : String) :
    ((limiter.serve requests).1 client).map RateBucket.window =
        current limiter.limit limiter.windowMs (timesOf requests client) ∧
      limiter.passed requests client =
        admitted limiter.limit limiter.windowMs (timesOf requests client) := by
  induction requests using List.reverseRecOn with
  | nil => exact ⟨rfl, rfl⟩
  | append_singleton requests request ih =>
      obtain ⟨hwindow, hpassed⟩ := ih
      rw [timesOf_snoc, passed_snoc, serve_append_singleton, hpassed]
      by_cases hkey : request.key = client
      · subst hkey
        simp only [if_true, true_and, current_snoc, admitted_snoc, answer_next_iff, hwindow]
        refine ⟨?_, ?_⟩
        · simp [RateLimiter.handle, bucket_window, hwindow]
        · split_ifs <;> simp
      · simp only [hkey, if_false, false_and, List.append_nil, and_true]
        simp only [RateLimiter.handle, update_of_ne (Ne.symm hkey), hwindow]

/-! ## How much gets through -/

theorem createReadinessRateLimiter_pos (options : ReadinessRateLimitOptions) :
    0 < (createReadinessRateLimiter options).limit ∧
      0 < (createReadinessRateLimiter options).windowMs := by
  simp only [createReadinessRateLimiter]
  omega

theorem timesOf_sorted (h : (requests.map RateRequest.timestamp).Pairwise (· ≤ ·))
    (client : String) : (timesOf requests client).Pairwise (· ≤ ·) :=
  h.sublist (List.filter_sublist.map _)

/-- In no interval of the length of a window does a client get more than twice the limit
through, to whatever routes; and a client is turned away only after `limit` of its own requests
got through less than a window ago. -/
theorem passed_bounds (options : ReadinessRateLimitOptions)
    (hclock : (requests.map RateRequest.timestamp).Pairwise (· ≤ ·))
    (hlimiter : limiter = createReadinessRateLimiter options) :
    (∀ client t, (limiter.passed requests client).countP
        (fun s => t ≤ s ∧ s < t + limiter.windowMs) ≤ 2 * limiter.limit) ∧
      ∀ front request later, requests = front ++ request :: later →
        limiter.answer front request ≠ .next →
        limiter.limit ≤ (limiter.passed front request.key).countP
          (fun s => request.timestamp - limiter.windowMs < s ∧ s ≤ request.timestamp) := by
  obtain ⟨hlimit, hwidth⟩ := createReadinessRateLimiter_pos options
  rw [← hlimiter] at hlimit hwidth
  refine ⟨fun client t => ?_, fun front request later hrequests hrejected => ?_⟩
  · rw [(serve_client limiter requests client).2]
    exact admittedWithin_le hwidth (timesOf_sorted hclock client) t
  · obtain ⟨hwindow, hpassed⟩ := serve_client limiter front request.key
    rw [Ne, answer_next_iff, hwindow, Nat.not_le] at hrejected
    have hsorted : (timesOf (front ++ [request]) request.key).Pairwise (· ≤ ·) := by
      refine timesOf_sorted (hclock.sublist ?_) request.key
      rw [hrequests]
      exact ((List.singleton_sublist.mpr List.mem_cons_self).append_left front).map _
    rw [timesOf_snoc, if_pos rfl] at hsorted
    have hleast := limit_le_of_rejected hwidth hsorted hlimit hrejected
    rw [hpassed]
    refine hleast.trans (List.countP_mono_left fun s _ hs => ?_)
    simp only [decide_eq_true_eq] at hs ⊢
    omega

/-- One request in 60 s. -/
def onceAMinute : ReadinessRateLimitOptions := ⟨some 1, none, none, none⟩

def probe (timestamp : ℤ) : RateRequest := ⟨"/health", some "10.0.0.1", none, timestamp⟩

/-- Two requests get through within a second, on both sides of the end of a window. -/
theorem probes_passed : ∃ limiter, limiter = createReadinessRateLimiter onceAMinute ∧
    limiter.passed [probe 0, probe 59500, probe 60000] "10.0.0.1" = [0, 60000] ∧
    (limiter.passed [probe 0, probe 59500, probe 60000] "10.0.0.1").countP
      (fun s => 59000 ≤ s ∧ s < 59000 + limiter.windowMs) ≤ 2 * limiter.limit :=
  ⟨_, rfl, by decide, (passed_bounds onceAMinute (by decide) rfl).1 "10.0.0.1" 59000⟩

/-! ## When to come back -/

theorem ceilSeconds_spec (ms : ℤ) :
    ms ≤ 1000 * ceilSeconds ms ∧ 1000 * (ceilSeconds ms - 1) < ms := by
  unfold ceilSeconds
  omega

/-- The window of a client that began at `startedAt` has no room left. -/
def RateLimiter.Full (limiter : RateLimiter) (past : List RateRequest) (client : String)
    (startedAt : ℤ) : Prop :=
  ∃ bucket, (limiter.serve past).1 client = some bucket ∧ bucket.startedAt = startedAt ∧
    limiter.limit < bucket.count

theorem RateLimiter.Full.answer {startedAt : ℤ} (h : limiter.Full front client startedAt)
    (hlimit : 0 < limiter.limit) (hkey : request.key = client) :
    limiter.answer front request = .next ↔ limiter.windowMs ≤ request.timestamp - startedAt := by
  obtain ⟨bucket, hbucket, rfl, hcount⟩ := h
  rw [answer_next_iff, hkey, hbucket, Option.map_some, hit, RateBucket.window]
  split_ifs with hover
  · simp only [hover, iff_true]
    omega
  · simp only [hover, iff_false]
    omega

/-- A window stays full until its time is over. -/
theorem RateLimiter.Full.snoc {startedAt : ℤ} (h : limiter.Full front client startedAt)
    (hearly : request.key = client → request.timestamp < startedAt + limiter.windowMs) :
    limiter.Full (front ++ [request]) client startedAt := by
  obtain ⟨bucket, hbucket, rfl, hcount⟩ := h
  unfold RateLimiter.Full
  rw [serve_append_singleton]
  by_cases hkey : request.key = client
  · have hopen : ¬request.timestamp - bucket.startedAt ≥ limiter.windowMs := by
      have hearly := hearly hkey
      omega
    refine ⟨⟨bucket.startedAt, bucket.count + 1⟩, ?_, rfl, by simp only; omega⟩
    simp [RateLimiter.handle, RateLimiter.bucket, hkey, hbucket, hopen]
  · exact ⟨bucket, by simp [RateLimiter.handle, update_of_ne (Ne.symm hkey), hbucket], rfl, hcount⟩

theorem RateLimiter.Full.append {startedAt : ℤ} (h : limiter.Full front client startedAt)
    (later : List RateRequest)
    (hearly : ∀ q ∈ later, q.key = client → q.timestamp < startedAt + limiter.windowMs) :
    limiter.Full (front ++ later) client startedAt := by
  induction later using List.reverseRecOn with
  | nil => simpa using h
  | append_singleton later q ih =>
      rw [← List.append_assoc]
      refine RateLimiter.Full.snoc (ih fun q' hq' => hearly q' (List.mem_append_left _ hq')) ?_
      exact hearly q (List.mem_append_right _ (List.mem_singleton_self q))

/-- A client that is turned away has a full window, which ends within the last of the seconds it
is told to wait. -/
theorem full_of_tooMany (hlimit : 0 < limiter.limit)
    (hrejected : limiter.answer front request = .tooMany error message r) :
    ∃ startedAt, limiter.Full (front ++ [request]) request.key startedAt ∧
      startedAt + limiter.windowMs ≤ request.timestamp + 1000 * r ∧
      request.timestamp + 1000 * (r - 1) < startedAt + limiter.windowMs := by
  unfold RateLimiter.answer RateLimiter.handle RateLimiter.reply at hrejected
  obtain ⟨bucket, hbucket⟩ : ∃ bucket, bucket =
      limiter.bucket ((limiter.serve front).1 request.key) request.timestamp := ⟨_, rfl⟩
  simp only [← hbucket] at hrejected
  split at hrejected
  · next hfull =>
      obtain ⟨-, -, hr⟩ := RateAnswer.tooMany.inj hrejected
      have hwindow := bucket_window limiter request.timestamp ((limiter.serve front).1 request.key)
      rw [← hbucket] at hwindow
      -- a window that has just opened holds one request
      have hopen : request.timestamp < bucket.startedAt + limiter.windowMs := by
        cases hcurrent : (limiter.serve front).1 request.key with
        | none =>
            rw [hcurrent] at hwindow
            obtain ⟨-, hcount⟩ := Window.mk.inj hwindow
            omega
        | some current =>
            rw [hcurrent, Option.map_some, hit, RateBucket.window] at hwindow
            split_ifs at hwindow with hover
            · obtain ⟨-, hcount⟩ := Window.mk.inj hwindow
              omega
            · obtain ⟨hstarted, -⟩ := Window.mk.inj hwindow
              omega
      have hceil := ceilSeconds_spec (bucket.startedAt + limiter.windowMs - request.timestamp)
      refine ⟨bucket.startedAt, ⟨bucket, ?_, rfl, hfull⟩, by omega, by omega⟩
      rw [serve_append_singleton]
      simp [RateLimiter.handle, hbucket]
  · cases hrejected

/-- `Retry-After` is exact to the second: until the last of these seconds the client is turned
away, and after it the client gets through, whatever others ask for. -/
theorem retryAfter_exact (options : ReadinessRateLimitOptions)
    (hlimiter : limiter = createReadinessRateLimiter options)
    (hrejected : limiter.answer front request = .tooMany error message r)
    (hearly : ∀ q ∈ later, q.key = request.key →
      q.timestamp < request.timestamp + 1000 * (r - 1)) :
    (∀ before q after, later = before ++ q :: after → q.key = request.key →
      limiter.answer (front ++ request :: before) q ≠ .next) ∧
    ∀ q, q.key = request.key → request.timestamp + 1000 * r ≤ q.timestamp →
      limiter.answer (front ++ request :: later) q = .next := by
  have hlimit : 0 < limiter.limit := hlimiter ▸ (createReadinessRateLimiter_pos options).1
  obtain ⟨startedAt, hfull, hlast, hfirst⟩ := full_of_tooMany hlimit hrejected
  have hlater (past : List RateRequest) (hpast : ∀ q ∈ past, q ∈ later) :
      limiter.Full (front ++ request :: past) request.key startedAt := by
    have happend := hfull.append past fun q hq hkey => by
      have hq := hearly q (hpast q hq) hkey
      omega
    rwa [List.append_assoc, List.singleton_append] at happend
  refine ⟨fun before q after hsplit hkey => ?_, fun q hkey hwaited => ?_⟩
  · have hmem : q ∈ later := hsplit ▸ List.mem_append_right _ List.mem_cons_self
    have hq := hearly q hmem hkey
    rw [Ne, (hlater before fun q' hq' => hsplit ▸ List.mem_append_left _ hq').answer hlimit hkey]
    omega
  · rw [(hlater later fun q' hq' => hq').answer hlimit hkey]
    omega

/-- Turned away at 30 s, and again at 45 s, the client gets through at 60 s. -/
theorem probe_after_wait : ∃ limiter, limiter = createReadinessRateLimiter onceAMinute ∧
    limiter.answer [probe 0] (probe 30000) =
      .tooMany "rate_limited" "Too many health or readiness requests" 30 ∧
    limiter.answer [probe 0, probe 30000, probe 45000] (probe 60000) = .next := by
  have hrejected : (createReadinessRateLimiter onceAMinute).answer [probe 0] (probe 30000) =
      .tooMany "rate_limited" "Too many health or readiness requests" 30 := by decide
  have hearly : ∀ q ∈ [probe 45000], q.key = (probe 30000).key →
      q.timestamp < (probe 30000).timestamp + 1000 * (30 - 1) := by decide
  have hnext := (retryAfter_exact onceAMinute rfl hrejected hearly).2 (probe 60000) rfl (by decide)
  exact ⟨_, rfl, hrejected, hnext⟩

end OverSync.Coordinator
