/-
# `CommerceOrchestrator.Adapters.Circuit` — the circuit breaker of a provider client

One breaker stands before each provider and is shared by every call to it.  A call asks
it for permission, sends its request, and reports how that went; after enough failures
in a row the breaker turns calls away for a while and then lets a single probe through.

A report says success or failure and nothing else, so the breaker cannot tell the answer
of its probe from one to a call it let through long before.
-/
import CommerceOrchestrator.Adapters.PaymentHttp

namespace Orchestrator

open Effect Prog

/-! ## Errors of an adapter -/

/-- What is asked of a `reqwest::Error`. -/
structure TransportError where
  isConnect : Bool
  isTimeout : Bool
  isRequest : Bool
deriving DecidableEq, Repr

/-- Durations and instants are in nanoseconds. -/
inductive AdapterError
  | http (error : TransportError)
  | timeout (duration : Nat)
  | status (status : Nat) (body : String)
  | json (message : String)
  | circuitOpen (provider : String)
  | config (message : String)
deriving DecidableEq, Repr

/-! ## The breaker -/

structure CircuitBreakerConfig where
  enabled : Bool := true
  /-- Failures in a row before the circuit opens. -/
  failureThreshold : Nat := 5
  openDuration : Nat := 30 * 10 ^ 9
  /-- How long a probe may stay out before another one is admitted. -/
  probeTimeout : Nat := 60 * 10 ^ 9
deriving DecidableEq, Repr

inductive Internal
  | closed (consecutiveFailures : Nat)
  | opened (until_ : Nat)
  | halfOpen (until_ : Nat)
deriving DecidableEq, Repr

def Internal.isClosed : Internal → Bool
  | .closed _ => true
  | _ => false

def Internal.isOpened : Internal → Bool
  | .opened _ => true
  | _ => false

structure CircuitBreaker where
  provider : String
  config : CircuitBreakerConfig
  state : Internal
deriving DecidableEq, Repr

namespace CircuitBreaker

def new (provider : String) (config : CircuitBreakerConfig) : CircuitBreaker :=
  ⟨provider, config, .closed 0⟩

/-- Ask permission to call the provider. -/
def acquire (now : Nat) (breaker : CircuitBreaker) : Except AdapterError Unit × CircuitBreaker :=
  if breaker.config.enabled = false then (.ok (), breaker)
  else
    match breaker.state with
    | .closed _ => (.ok (), breaker)
    | .halfOpen until_ | .opened until_ =>
        if until_ ≤ now then
          (.ok (), { breaker with state := .halfOpen (now + breaker.config.probeTimeout) })
        else (.error (.circuitOpen breaker.provider), breaker)

/-- Record a healthy response. -/
def onSuccess (breaker : CircuitBreaker) : CircuitBreaker :=
  if breaker.config.enabled = false then breaker
  else { breaker with state := .closed 0 }

/-- `saturating_add` of a `u32`. -/
def countFailure (consecutiveFailures : Nat) : Nat := min (consecutiveFailures + 1) (2 ^ 32 - 1)

/-- Record a failure that suggests the provider is unhealthy. -/
def onFailure (now : Nat) (breaker : CircuitBreaker) : CircuitBreaker :=
  if breaker.config.enabled = false then breaker
  else
    match breaker.state with
    | .halfOpen _ | .opened _ =>
        { breaker with state := .opened (now + breaker.config.openDuration) }
    | .closed consecutiveFailures =>
        if breaker.config.failureThreshold ≤ countFailure consecutiveFailures then
          { breaker with state := .opened (now + breaker.config.openDuration) }
        else { breaker with state := .closed (countFailure consecutiveFailures) }

end CircuitBreaker

def transportFailureCounts (error : TransportError) : Bool :=
  error.isConnect || error.isTimeout || error.isRequest

def statusCountsAsFailure (status : Nat) : Bool :=
  status = 408 || status = 429 || (500 ≤ status && status ≤ 599)

/-! ## The client -/

/-- The status, the seconds of a `Retry-After` header in that form, and the body. -/
structure Response where
  status : Nat
  retryAfter : Option Nat
  body : String
deriving DecidableEq, Repr

def Response.isSuccess (response : Response) : Bool :=
  200 ≤ response.status && response.status ≤ 299

/-- `retry_backoff_ms` is a `u64`.  All calls with `circuitBreaker` share one. -/
structure ClientConfig where
  timeout : Nat := 30 * 10 ^ 9
  maxRetries : Nat := 3
  retryBackoffMs : Nat := 100
  circuitBreaker : Bool := false
deriving DecidableEq, Repr

def statusIsRetryable (status : Nat) : Bool :=
  status ∈ [408, 425, 429, 500, 502, 503, 504]

namespace RetryPolicy

def allowsStatusRetry (policy : RetryPolicy) (status : Nat) : Bool :=
  policy = .idempotent && statusIsRetryable status

def allowsTransportRetry (policy : RetryPolicy) (error : TransportError) : Bool :=
  match policy with
  | .idempotent => true
  | .nonIdempotent => error.isConnect

end RetryPolicy

def maxRetryAfter : Nat := 30 * 10 ^ 9

def Response.retryAfterDelay (response : Response) : Option Nat :=
  response.retryAfter.map fun seconds => min (seconds * 10 ^ 9) maxRetryAfter

/-- Half of the exponential step, and a part of the other half taken from the clock. -/
def backoffDelay (config : ClientConfig) (attempt subsecNanos : Nat) : Nat :=
  let cap := 2 ^ 64 - 1
  let base := min (config.retryBackoffMs * min (2 ^ attempt) cap) cap
  let half := base / 2
  let jitter := if half = 0 then 0 else subsecNanos % (half + 1)
  (half + jitter) * 10 ^ 6

/-- What a call does with the breaker, the network and the clock. -/
inductive CircuitOp (R : Type)
  | acquire
  | onSuccess
  | onFailure
  | applyAuth (request : R)
  | send (request : R)
  | subsecNanos
  | sleep (delay : Nat)

abbrev CircuitOp.Ans {R : Type} : CircuitOp R → Type
  | .acquire => Except AdapterError Unit
  | .onSuccess | .onFailure | .sleep _ => Unit
  | .applyAuth _ => Except AdapterError R
  | .send _ => Except TransportError Response
  | .subsecNanos => Nat

abbrev ClientRun (R : Type) := Prog (CircuitOp.Ans (R := R))

variable {R : Type}

/-- `o.await`. -/
def CircuitOp.await (o : CircuitOp R) : ClientRun R o.Ans := perform o

/-- One turn of the retry loop: the call is over, or the attempt failed. -/
inductive RetryTurn
  | ended (result : Except AdapterError Response)
  | failed (lastErr : AdapterError) (retryable : Bool) (retryAfter : Option Nat)

namespace ClientConfig

/-- Report to the breaker, if there is one. -/
def report (config : ClientConfig) (healthy : Bool) : ClientRun R Unit :=
  if config.circuitBreaker then
    if healthy then CircuitOp.onSuccess.await else CircuitOp.onFailure.await
  else .ret ()

def admission (config : ClientConfig) : ClientRun R (Except AdapterError Unit) :=
  if config.circuitBreaker then CircuitOp.acquire.await else .ret (.ok ())

/-- What is left of a turn once the provider answered, or did not. -/
def settle (config : ClientConfig) (policy : RetryPolicy) :
    Except TransportError Response → ClientRun R RetryTurn
  | .ok response => do
      config.report (response.isSuccess || !statusCountsAsFailure response.status)
      if response.isSuccess then return .ended (.ok response)
      else
        let retryable := policy.allowsStatusRetry response.status
        return .failed (.status response.status response.body) retryable
          (if retryable then response.retryAfterDelay else none)
  | .error e => do
      -- an error that does not count is not reported at all
      if transportFailureCounts e then config.report false
      return .failed (if e.isTimeout then .timeout config.timeout else .http e)
        (policy.allowsTransportRetry e) none

/-- A turn that has permission. -/
def exchange (config : ClientConfig) (policy : RetryPolicy) (request : R) :
    ClientRun R RetryTurn := do
  match ← (CircuitOp.applyAuth request).await with
  | .error e =>
      config.report false
      return .ended (.error e)
  | .ok request => config.settle policy (← (CircuitOp.send request).await)

def attempt (config : ClientConfig) (policy : RetryPolicy) (request : R) :
    ClientRun R RetryTurn := do
  match ← config.admission with
  | .error e => return .ended (.error e)
  | .ok () => config.exchange policy request

/-- The loop, with `left` retries to go. -/
def attempts (config : ClientConfig) (policy : RetryPolicy) (request : R) :
    (left : Nat) → ClientRun R (Except AdapterError Response)
  | 0 => do
      match ← config.attempt policy request with
      | .ended result => return result
      | .failed lastErr _ _ => return .error lastErr
  | left + 1 => do
      match ← config.attempt policy request with
      | .ended result => return result
      | .failed lastErr false _ => return .error lastErr
      | .failed _ true (some delay) =>
          (CircuitOp.sleep delay).await
          config.attempts policy request left
      | .failed _ true none =>
          let nanos : Nat ← CircuitOp.subsecNanos.await
          (CircuitOp.sleep (backoffDelay config (config.maxRetries - (left + 1)) nanos)).await
          config.attempts policy request left

/-- The request carries its correlation id, idempotency key and extra headers already;
they are the same at every attempt. -/
def executeWithRetry (config : ClientConfig) (policy : RetryPolicy) (request : R) :
    ClientRun R (Except AdapterError Response) :=
  config.attempts policy request config.maxRetries

end ClientConfig

/-! ## Permission and report -/

/-- Whether the caller has a permission it has not reported on; only then it reports. -/
def reportMonitor : Monitor (CircuitOp.Ans (R := R)) Bool where
  allow o admitted :=
    match o with
    | .onSuccess | .onFailure => admitted = true
    | _ => True
  next o admitted x :=
    match o, x with
    | .acquire, x => x.isOk
    | .onSuccess, _ | .onFailure, _ => false
    | _, _ => admitted

namespace ClientConfig

variable {config : ClientConfig} {policy : RetryPolicy} {admitted : Bool}
  {post : Except AdapterError Response → Bool → Prop}

theorem report_follows {healthy : Bool} (h : config.circuitBreaker → admitted = true) :
    (config.report (R := R) healthy).Follows reportMonitor (fun _ _ => True) admitted := by
  unfold report
  cases hbreaker : config.circuitBreaker with
  | false => trivial
  | true => cases healthy <;> exact ⟨h hbreaker, fun _ _ => trivial⟩

theorem settle_follows (h : config.circuitBreaker → admitted = true)
    (answer : Except TransportError Response) :
    (config.settle (R := R) policy answer).Follows reportMonitor (fun _ _ => True) admitted := by
  cases answer with
  | ok response =>
      refine follows_bind.mpr ((report_follows h).mono fun _ _ _ => ?_)
      split <;> trivial
  | error e =>
      rw [settle]
      split
      · exact follows_bind.mpr ((report_follows h).mono fun _ _ _ => trivial)
      · trivial

theorem exchange_follows {request : R} (h : config.circuitBreaker → admitted = true) :
    (config.exchange policy request).Follows reportMonitor (fun _ _ => True) admitted := by
  refine ⟨trivial, fun x _ => ?_⟩
  cases x with
  | error e =>
      have hreport : (config.report (R := R) false).Follows reportMonitor _ admitted :=
        report_follows h
      exact (follows_bind (p := config.report false)).mpr (hreport.mono fun _ _ _ => trivial)
  | ok request => exact ⟨trivial, fun answer _ => settle_follows h answer⟩

theorem attempt_follows {request : R} :
    (config.attempt policy request).Follows reportMonitor (fun _ _ => True) admitted := by
  unfold attempt admission
  cases hbreaker : config.circuitBreaker with
  | false => exact exchange_follows fun hb => absurd (hb.symm.trans hbreaker) (by decide)
  | true =>
      refine ⟨trivial, fun x _ => ?_⟩
      cases x with
      | error e => trivial
      | ok u => exact exchange_follows fun _ => rfl

/-- **A call reports at most once on each permission it got.** -/
theorem executeWithRetry_follows {request : R} :
    (config.executeWithRetry policy request).Follows reportMonitor (fun _ _ => True) admitted := by
  unfold executeWithRetry
  generalize config.maxRetries = left
  induction left generalizing admitted with
  | zero =>
      refine follows_bind.mpr (attempt_follows.mono fun a _ _ => ?_)
      cases a <;> trivial
  | succ left ih =>
      refine follows_bind.mpr (attempt_follows.mono fun a admitted' _ => ?_)
      cases a with
      | ended result => trivial
      | failed lastErr retryable retryAfter =>
          cases retryable with
          | false => trivial
          | true =>
              cases retryAfter with
              | some delay => exact ⟨trivial, fun _ _ => ih⟩
              | none => exact ⟨trivial, fun _ _ => ⟨trivial, fun _ _ => ih⟩⟩

end ClientConfig

end Orchestrator
