/-
# `CommerceOrchestrator.Adapters.Attempts` — the attempts of one provider call

A call sends its request again only where that cannot apply it twice.  Without an
idempotency key that is after a failure to connect, so the provider has received at most
the last attempt.  Every attempt has the breaker's permission, and tells it how it went
unless the transport fails in a way that the breaker does not count.
-/
import CommerceOrchestrator.Adapters.CircuitRuns

namespace Orchestrator

open Effect Prog

/-! ## Credentials -/

/-- How the client authenticates; the token of an OAuth2 grant comes from outside. -/
inductive OutboundAuth
  | none
  | bearer (token : String)
  | apiKey (header value : String)
  | oauth2
deriving DecidableEq, Repr

section Credentials

variable {T : Type}

/-- One more header, behind the others. -/
def HttpPost.header (post : HttpPost T) (name value : String) : HttpPost T :=
  { post with headers := post.headers ++ [(name, value)] }

def HttpPost.bearerAuth (post : HttpPost T) (token : String) : HttpPost T :=
  post.header "Authorization" ("Bearer " ++ token)

/-- Attach credentials; `accessToken` is what the token source answers, if it is asked. -/
def OutboundAuth.apply (auth : OutboundAuth) (accessToken : Except AdapterError String)
    (post : HttpPost T) : Except AdapterError (HttpPost T) :=
  match auth with
  | .none => .ok post
  | .bearer token => .ok (post.bearerAuth token)
  | .apiKey header value => .ok (post.header header value)
  | .oauth2 => accessToken.map post.bearerAuth

/-- A header behind the idempotency key does not come before it. -/
theorem HttpPost.header_idempotencyKey {post : HttpPost T} {key : String} (name value : String)
    (h : post.idempotencyKey = some key) : (post.header name value).idempotencyKey = some key := by
  unfold HttpPost.idempotencyKey HttpPost.header at *
  rw [List.lookup_append, h]
  rfl

theorem OutboundAuth.apply_idempotencyKey {auth : OutboundAuth}
    {accessToken : Except AdapterError String} {post request : HttpPost T} {key : String}
    (h : post.idempotencyKey = some key) (happly : auth.apply accessToken post = .ok request) :
    request.idempotencyKey = some key := by
  cases auth with
  | none => exact Except.ok.inj happly ▸ h
  | bearer token => exact Except.ok.inj happly ▸ post.header_idempotencyKey _ _ h
  | apiKey header value => exact Except.ok.inj happly ▸ post.header_idempotencyKey _ _ h
  | oauth2 =>
      cases accessToken with
      | error e => cases happly
      | ok token => exact Except.ok.inj happly ▸ post.header_idempotencyKey _ _ h

/-- Without a key a POST is not repeated freely. -/
theorem postJson_policy {ambient : Option String} {url : String} {body : T}
    {options : RequestOptions} (h : options.idempotencyKey = none) :
    (postJson ambient url body options).policy = .nonIdempotent := by
  unfold postJson
  rw [h]
  rfl

end Credentials

/-! ## The path of one attempt -/

variable {R : Type}

/-- What a call does and what it is answered. -/
abbrev CallEvent (R : Type) := Event (CircuitOp.Ans (R := R))

/-- Whether another attempt may follow an answer. -/
def RetryPolicy.allowsRetry (policy : RetryPolicy) : Except TransportError Response → Bool
  | .ok response => !response.isSuccess && policy.allowsStatusRetry response.status
  | .error e => policy.allowsTransportRetry e

def RetryTurn.retryable : RetryTurn → Bool
  | .ended _ => false
  | .failed _ retryable _ => retryable

namespace ClientConfig

variable (config : ClientConfig) (policy : RetryPolicy)

/-- The permission, if there is a breaker. -/
def admitted : List (CallEvent R) :=
  if config.circuitBreaker then [⟨.acquire, .ok ()⟩] else []

def reported (healthy : Bool) : List (CallEvent R) :=
  if config.circuitBreaker then
    if healthy then [⟨.onSuccess, ()⟩] else [⟨.onFailure, ()⟩]
  else []

/-- What the breaker is told about an answer. -/
def settlement : Except TransportError Response → List (CallEvent R)
  | .ok response => config.reported (response.isSuccess || !statusCountsAsFailure response.status)
  | .error e => if transportFailureCounts e then config.reported false else []

/-- The path of one attempt, and whether another may follow. -/
inductive AttemptPath (request : R) : List (CallEvent R) → Bool → Prop
  | refused (e : AdapterError) (h : config.circuitBreaker = true) :
      AttemptPath request [⟨.acquire, .error e⟩] false
  | unauthorized (e : AdapterError) :
      AttemptPath request
        (config.admitted ++ ⟨.applyAuth request, .error e⟩ :: config.reported false) false
  | sent (signed : R) (answer : Except TransportError Response) :
      AttemptPath request
        (config.admitted ++ ⟨.applyAuth request, .ok signed⟩ :: ⟨.send signed, answer⟩ ::
          config.settlement answer) (policy.allowsRetry answer)

variable {config policy} {tr : List (CallEvent R)}

theorem report_trace {healthy : Bool} {u : Unit} (h : (config.report healthy).Trace tr u) :
    tr = config.reported healthy := by
  unfold report at h
  unfold reported
  split at h
  · next hbreaker =>
      rw [if_pos hbreaker]
      cases healthy with
      | false => exact trace_perform.mp h
      | true => exact trace_perform.mp h
  · next hbreaker =>
      rw [if_neg hbreaker]
      exact h.1

theorem settle_trace {answer : Except TransportError Response} {turn : RetryTurn}
    (h : (config.settle policy answer).Trace tr turn) :
    tr = config.settlement answer ∧ turn.retryable = policy.allowsRetry answer := by
  cases answer with
  | ok response =>
      obtain ⟨u, t₁, t₂, rfl, h₁, h₂⟩ := trace_bind.mp h
      split at h₂
      · next hsuccess =>
          obtain ⟨rfl, rfl⟩ := h₂
          exact ⟨by rw [List.append_nil, report_trace h₁, settlement],
            by rw [RetryPolicy.allowsRetry, hsuccess]; rfl⟩
      · next hsuccess =>
          obtain ⟨rfl, rfl⟩ := h₂
          exact ⟨by rw [List.append_nil, report_trace h₁, settlement],
            by rw [RetryPolicy.allowsRetry, Bool.eq_false_iff.mpr hsuccess]; rfl⟩
  | error e =>
      rw [settle] at h
      rw [settlement]
      split at h
      · next hcounts =>
          obtain ⟨u, t₁, t₂, rfl, h₁, rfl, rfl⟩ := trace_bind.mp h
          rw [if_pos hcounts, List.append_nil]
          exact ⟨report_trace h₁, rfl⟩
      · next hcounts =>
          obtain ⟨rfl, rfl⟩ := h
          rw [if_neg hcounts]
          exact ⟨rfl, rfl⟩

theorem admission_trace {answer : Except AdapterError Unit}
    (h : (config.admission).Trace tr answer) :
    (answer = .ok () ∧ tr = config.admitted) ∨
      ∃ e, answer = .error e ∧ config.circuitBreaker = true ∧ tr = [⟨.acquire, .error e⟩] := by
  unfold admission at h
  unfold admitted
  split at h
  · next hbreaker =>
      rw [if_pos hbreaker]
      obtain rfl := trace_perform.mp h
      cases answer with
      | ok u => exact Or.inl ⟨rfl, rfl⟩
      | error e => exact Or.inr ⟨e, rfl, hbreaker, rfl⟩
  · next hbreaker =>
      rw [if_neg hbreaker]
      exact Or.inl ⟨h.2, h.1⟩

theorem attempt_path {request : R} {turn : RetryTurn}
    (h : (config.attempt policy request).Trace tr turn) :
    config.AttemptPath policy request tr turn.retryable := by
  obtain ⟨answer, t₁, t₂, rfl, h₁, h₂⟩ := trace_bind.mp h
  rcases admission_trace h₁ with ⟨rfl, rfl⟩ | ⟨e, rfl, hbreaker, rfl⟩
  · obtain ⟨x, t₃, rfl, h₃⟩ := h₂
    cases x with
    | error e =>
        have hfailed : (config.report false >>= fun _ => .ret (.ended (.error e))).Trace t₃ turn :=
          h₃
        obtain ⟨u, t₄, t₅, rfl, h₄, rfl, rfl⟩ := trace_bind.mp hfailed
        rw [List.append_nil, report_trace h₄]
        exact .unauthorized e
    | ok signed =>
        obtain ⟨y, t₄, rfl, h₄⟩ := h₃
        obtain ⟨rfl, hretryable⟩ := settle_trace h₄
        rw [hretryable]
        exact .sent signed y
  · obtain ⟨rfl, rfl⟩ := h₂
    exact .refused e hbreaker

/-! ## The path of a call -/

/-- Waiting for the next attempt. -/
inductive Pause : List (CallEvent R) → Prop
  | told (delay : Nat) : Pause [⟨.sleep delay, ()⟩]
  | backoff (nanos delay : Nat) : Pause [⟨.subsecNanos, nanos⟩, ⟨.sleep delay, ()⟩]

/-- The path of a call with `left` retries to go. -/
inductive CallPath (config : ClientConfig) (policy : RetryPolicy) (request : R) :
    Nat → List (CallEvent R) → Prop
  | last {left : Nat} {tr : List (CallEvent R)} {again : Bool}
      (h : config.AttemptPath policy request tr again) : CallPath config policy request left tr
  | again {left : Nat} {tr pause rest : List (CallEvent R)}
      (h : config.AttemptPath policy request tr true) (hpause : Pause pause)
      (hrest : CallPath config policy request left rest) :
      CallPath config policy request (left + 1) (tr ++ pause ++ rest)

theorem attempts_path {request : R} {left : Nat} {result : Except AdapterError Response}
    (h : (config.attempts policy request left).Trace tr result) :
    CallPath config policy request left tr := by
  induction left generalizing tr with
  | zero =>
      obtain ⟨turn, t₁, t₂, rfl, h₁, h₂⟩ := trace_bind.mp h
      cases turn with
      | ended result' | failed lastErr retryable retryAfter =>
          obtain ⟨rfl, -⟩ := h₂
          rw [List.append_nil]
          exact .last (attempt_path h₁)
  | succ left ih =>
      obtain ⟨turn, t₁, t₂, rfl, h₁, h₂⟩ := trace_bind.mp h
      have hpath := attempt_path h₁
      cases turn with
      | ended result' =>
          obtain ⟨rfl, -⟩ := h₂
          rw [List.append_nil]
          exact .last hpath
      | failed lastErr retryable retryAfter =>
          cases retryable with
          | false =>
              obtain ⟨rfl, -⟩ := h₂
              rw [List.append_nil]
              exact .last hpath
          | true =>
              cases retryAfter with
              | some delay =>
                  obtain ⟨u, rest, rfl, hrest⟩ := h₂
                  exact List.append_assoc t₁ [_] rest ▸ CallPath.again hpath (.told delay) (ih hrest)
              | none =>
                  obtain ⟨nanos, t₃, rfl, u, rest, rfl, hrest⟩ := h₂
                  exact List.append_assoc t₁ [_, _] rest ▸
                    CallPath.again hpath (.backoff nanos _) (ih hrest)

theorem executeWithRetry_path {request : R} {result : Except AdapterError Response}
    (h : (config.executeWithRetry policy request).Trace tr result) :
    CallPath config policy request config.maxRetries tr :=
  attempts_path h

end ClientConfig

/-! ## What is sent -/

def sendOf : CallEvent R → Option (R × Except TransportError Response)
  | ⟨.send request, answer⟩ => some (request, answer)
  | _ => none

/-- The requests sent on a path, with their answers. -/
def sends (tr : List (CallEvent R)) : List (R × Except TransportError Response) :=
  tr.filterMap sendOf

/-- Unless the connection failed the provider may have received the request. -/
def mayBeReceived : Except TransportError Response → Bool
  | .ok _ => true
  | .error e => !e.isConnect

/-- Before each request, and since the one before it, the breaker gave permission. -/
def Permitted (tr : List (CallEvent R)) : Prop :=
  ∀ before request answer after, tr = before ++ ⟨.send request, answer⟩ :: after →
    ∃ earlier since, before = earlier ++ ⟨.acquire, .ok ()⟩ :: since ∧ sends since = []

/-- What is in a list up to its last element is not in `p`: at most one element is. -/
theorem length_filter_le_one {α : Type} {p : α → Bool} {l : List α}
    (h : ∀ a ∈ l.dropLast, p a = false) : (l.filter p).length ≤ 1 := by
  rcases List.eq_nil_or_concat l with rfl | ⟨front, a, rfl⟩
  · exact Nat.zero_le 1
  · rw [List.concat_eq_append, List.dropLast_concat] at h
    have hfront : front.filter p = [] :=
      List.filter_eq_nil_iff.mpr fun b hb => Bool.eq_false_iff.mp (h b hb)
    rw [List.concat_eq_append, List.filter_append, hfront, List.nil_append]
    exact (List.length_filter_le p [a]).trans (le_refl 1)

section Sends

variable {tr tr' : List (CallEvent R)} {config : ClientConfig} {policy : RetryPolicy} {request : R}

theorem sends_append : sends (tr ++ tr') = sends tr ++ sends tr' := List.filterMap_append

theorem notMem_sends (h : sends tr = []) (signed : R) (answer : Except TransportError Response) :
    (⟨.send signed, answer⟩ : CallEvent R) ∉ tr := by
  intro hm
  have hsend : (signed, answer) ∈ sends tr := List.mem_filterMap.mpr ⟨_, hm, rfl⟩
  rw [h] at hsend
  cases hsend

theorem permitted_of_sends (h : sends tr = []) : Permitted tr := by
  rintro before signed answer after rfl
  exact absurd (by simp) (notMem_sends h signed answer)

theorem Permitted.append (h : Permitted tr) (h' : Permitted tr') : Permitted (tr ++ tr') := by
  intro before signed answer after heq
  rcases List.append_eq_append_iff.mp heq with ⟨mid, rfl, hmid⟩ | ⟨mid, rfl, hmid⟩
  · obtain ⟨earlier, since, rfl, hsince⟩ := h' mid signed answer after hmid
    exact ⟨tr ++ earlier, since, by simp, hsince⟩
  · cases mid with
    | nil =>
        obtain ⟨earlier, since, hnil, -⟩ := h' [] signed answer after hmid.symm
        simp at hnil
    | cons e mid =>
        obtain ⟨rfl, rfl⟩ := List.cons.inj hmid
        exact h before signed answer mid rfl

namespace ClientConfig

theorem sends_admitted : sends (R := R) config.admitted = [] := by
  unfold admitted
  split <;> rfl

theorem sends_reported {healthy : Bool} : sends (R := R) (config.reported healthy) = [] := by
  unfold reported
  split
  · split <;> rfl
  · rfl

theorem sends_settlement (answer : Except TransportError Response) :
    sends (R := R) (config.settlement answer) = [] := by
  cases answer with
  | ok response => exact sends_reported
  | error e =>
      rw [settlement]
      split
      · exact sends_reported
      · rfl

theorem sends_unauthorized (e : AdapterError) :
    sends (config.admitted ++ ⟨.applyAuth request, .error e⟩ :: config.reported false) = [] := by
  rw [sends_append, sends_admitted]
  exact sends_reported

theorem sends_sent (signed : R) (answer : Except TransportError Response) :
    sends (config.admitted ++ ⟨.applyAuth request, .ok signed⟩ :: ⟨.send signed, answer⟩ ::
      config.settlement answer) = [(signed, answer)] := by
  rw [sends_append, sends_admitted]
  exact congrArg ((signed, answer) :: ·) (sends_settlement answer)

theorem Pause.sends {pause : List (CallEvent R)} (h : Pause pause) : sends pause = [] := by
  cases h <;> rfl

/-- An attempt sends nothing, or one request after the permission. -/
theorem AttemptPath.sends {again : Bool} (h : config.AttemptPath policy request tr again) :
    (sends tr = [] ∧ again = false) ∨ ∃ signed answer, sends tr = [(signed, answer)] ∧
      (⟨.applyAuth request, .ok signed⟩ : CallEvent R) ∈ tr ∧
      again = policy.allowsRetry answer := by
  cases h with
  | refused e hbreaker => exact Or.inl ⟨rfl, rfl⟩
  | unauthorized e => exact Or.inl ⟨sends_unauthorized e, rfl⟩
  | sent signed answer => exact Or.inr ⟨signed, answer, sends_sent signed answer, by simp, rfl⟩

theorem AttemptPath.permitted {again : Bool} (h : config.AttemptPath policy request tr again)
    (hbreaker : config.circuitBreaker = true) : Permitted tr := by
  cases h with
  | refused e hbreaker => exact permitted_of_sends rfl
  | unauthorized e => exact permitted_of_sends (sends_unauthorized e)
  | sent signed answer =>
      intro before signed' answer' after heq
      have hadmitted : config.admitted = [(⟨.acquire, .ok ()⟩ : CallEvent R)] := if_pos hbreaker
      rw [hadmitted] at heq
      have hsettled : ∀ e ∈ config.settlement (R := R) answer, ¬ (sendOf e).isSome = true := by
        intro e he hsome
        have hnone : sendOf e = none :=
          List.filterMap_eq_nil_iff.mp (sends_settlement answer) e he
        rw [hnone] at hsome
        cases hsome
      obtain ⟨rfl, -⟩ := split_unique (l := [⟨.acquire, .ok ()⟩, ⟨.applyAuth request, .ok signed⟩])
        (P := fun e => (sendOf e).isSome = true)
        (by simp [sendOf]) hsettled rfl heq
      exact ⟨[], [⟨.applyAuth request, .ok signed⟩], rfl, rfl⟩

/-- At most one more than the retries to go. -/
theorem CallPath.length_sends {left : Nat} (h : CallPath config policy request left tr) :
    (Orchestrator.sends tr).length ≤ left + 1 := by
  induction h with
  | last h =>
      rcases h.sends with ⟨hsends, -⟩ | ⟨signed, answer, hsends, -⟩
      · rw [hsends]
        exact Nat.zero_le _
      · rw [hsends]
        exact Nat.succ_le_succ (Nat.zero_le _)
  | again h hpause hrest ih =>
      rcases h.sends with ⟨-, hfalse⟩ | ⟨signed, answer, hsends, -⟩
      · cases hfalse
      · rw [sends_append, sends_append, hsends, hpause.sends, List.append_nil,
          List.singleton_append, List.length_cons]
        exact Nat.succ_le_succ ih

theorem CallPath.permitted {left : Nat} (h : CallPath config policy request left tr)
    (hbreaker : config.circuitBreaker = true) : Permitted tr := by
  induction h with
  | last h => exact h.permitted hbreaker
  | again h hpause hrest ih =>
      exact ((h.permitted hbreaker).append (permitted_of_sends hpause.sends)).append ih

/-- Each request sent is the call's, with credentials. -/
theorem CallPath.signed {left : Nat} (h : CallPath config policy request left tr) :
    ∀ s ∈ Orchestrator.sends tr, (⟨.applyAuth request, .ok s.1⟩ : CallEvent R) ∈ tr := by
  have hattempt : ∀ {tr : List (CallEvent R)} {again : Bool},
      config.AttemptPath policy request tr again →
        ∀ s ∈ Orchestrator.sends tr, (⟨.applyAuth request, .ok s.1⟩ : CallEvent R) ∈ tr := by
    intro tr again h s hs
    rcases h.sends with ⟨hsends, -⟩ | ⟨signed, answer, hsends, hsigned, -⟩
    · rw [hsends] at hs
      cases hs
    · rw [hsends, List.mem_singleton] at hs
      exact hs ▸ hsigned
  induction h with
  | last h => exact hattempt h
  | again h hpause hrest ih =>
      intro s hs
      rw [sends_append, sends_append, hpause.sends, List.append_nil] at hs
      rcases List.mem_append.mp hs with hs | hs
      · exact List.mem_append_left _ (List.mem_append_left _ (hattempt h s hs))
      · exact List.mem_append_right _ (ih s hs)

/-- Without leave to repeat, only a request that did not reach the provider is repeated. -/
theorem CallPath.unreceived {left : Nat}
    (h : CallPath config .nonIdempotent request left tr) :
    ∀ s ∈ (Orchestrator.sends tr).dropLast, mayBeReceived s.2 = false := by
  induction h with
  | last h =>
      rcases h.sends with ⟨hsends, -⟩ | ⟨signed, answer, hsends, -⟩
      · rw [hsends]
        exact fun s hs => absurd hs List.not_mem_nil
      · rw [hsends]
        exact fun s hs => absurd hs List.not_mem_nil
  | again h hpause hrest ih =>
      rcases h.sends with ⟨-, hfalse⟩ | ⟨signed, answer, hsends, -, hagain⟩
      · cases hfalse
      · have hunreceived : mayBeReceived answer = false := by
          cases answer with
          | ok response =>
              simp [RetryPolicy.allowsRetry, RetryPolicy.allowsStatusRetry] at hagain
          | error e =>
              have hconnect : e.isConnect = true := hagain.symm
              rw [mayBeReceived, hconnect]
              rfl
        rw [sends_append, sends_append, hsends, hpause.sends, List.append_nil,
          List.singleton_append]
        intro s hs
        cases hlater : Orchestrator.sends _ with
        | nil =>
            rw [hlater] at hs
            cases hs
        | cons s' later =>
            rw [hlater, List.dropLast_cons_cons, ← hlater] at hs
            rcases List.mem_cons.mp hs with rfl | hs
            · exact hunreceived
            · exact ih s hs

end ClientConfig

end Sends

/-- **A POST without a key reaches the provider at most once**: another attempt follows only a
failure to connect.  Every attempt has a permission of its own, there is at most one more than
the retries, and those of a call with a key carry that key. -/
theorem received_at_most_once (config : ClientConfig) :
    (∀ {R : Type} (policy : RetryPolicy) (request : R) (tr : List (CallEvent R))
      (result : Except AdapterError Response),
      (config.executeWithRetry policy request).Trace tr result →
        (sends tr).length ≤ config.maxRetries + 1 ∧
        (config.circuitBreaker = true → Permitted tr) ∧
        (policy = .nonIdempotent → (∀ s ∈ (sends tr).dropLast, mayBeReceived s.2 = false) ∧
          ((sends tr).filter fun s => mayBeReceived s.2).length ≤ 1)) ∧
    ∀ {T : Type} (auth : OutboundAuth) (ambient : Option String) (url : String) (body : T)
      (options : RequestOptions) (tr : List (CallEvent (HttpPost T)))
      (result : Except AdapterError Response),
      (config.executeWithRetry (postJson ambient url body options).policy
        (postJson ambient url body options)).Trace tr result →
      (∀ request answer, (⟨.applyAuth request, answer⟩ : CallEvent (HttpPost T)) ∈ tr →
        ∃ accessToken, answer = auth.apply accessToken request) →
        (options.idempotencyKey = none →
          (postJson ambient url body options).policy = .nonIdempotent) ∧
        ∀ key, options.idempotencyKey = some key →
          ∀ s ∈ sends tr, s.1.idempotencyKey = some key := by
  constructor
  · intro R policy request tr result h
    have hpath := ClientConfig.executeWithRetry_path h
    refine ⟨hpath.length_sends, hpath.permitted, ?_⟩
    rintro rfl
    exact ⟨hpath.unreceived, length_filter_le_one hpath.unreceived⟩
  · intro T auth ambient url body options tr result h hauth
    refine ⟨postJson_policy, ?_⟩
    intro key hkey s hs
    have hsigned := (ClientConfig.executeWithRetry_path h).signed s hs
    obtain ⟨accessToken, happly⟩ := hauth _ _ hsigned
    exact OutboundAuth.apply_idempotencyKey (postJson_idempotencyKey ambient url body hkey)
      happly.symm

/-! ## What the breaker is told -/

namespace CircuitOp

def isAcquire : CircuitOp R → Bool
  | .acquire => true
  | _ => false

/-- `on_success` or `on_failure`. -/
def isReport : CircuitOp R → Bool
  | .onSuccess | .onFailure => true
  | _ => false

end CircuitOp

/-- Each permission is followed by one report before the next is asked for, or the call ends. -/
def SettlesEach (tr : List (CallEvent R)) : Prop :=
  ∀ before after, tr = before ++ ⟨.acquire, .ok ()⟩ :: after →
    (after.takeWhile fun e => !e.1.isAcquire).countP (·.1.isReport) = 1

section Settles

variable {tr rest : List (CallEvent R)} {config : ClientConfig} {policy : RetryPolicy} {request : R}

/-- Nothing, or a path that begins by asking for permission. -/
def Asks (rest : List (CallEvent R)) : Prop := ∀ e ∈ rest.head?, e.1.isAcquire = true

/-- One permission at a time. -/
theorem settles_cons {answer : Except AdapterError Unit} {tail : List (CallEvent R)}
    (htail : ∀ e ∈ tail, e.1.isAcquire = false) (hrest : Asks rest) :
    SettlesEach (⟨.acquire, answer⟩ :: tail ++ rest) ↔
      (answer = .ok () → tail.countP (·.1.isReport) = 1) ∧ SettlesEach rest := by
  have hwhile : (tail ++ rest).takeWhile (fun e => !e.1.isAcquire) = tail := by
    rw [List.takeWhile_append_of_pos fun e he => by rw [htail e he]; rfl]
    cases rest with
    | nil => exact List.append_nil tail
    | cons e rest =>
        rw [List.takeWhile_cons_of_neg (by simp [hrest e rfl]), List.append_nil]
  constructor
  · intro h
    constructor
    · rintro rfl
      have hone := h [] (tail ++ rest) rfl
      rwa [hwhile] at hone
    · rintro before after rfl
      exact h (⟨.acquire, answer⟩ :: tail ++ before) after (by simp)
  · rintro ⟨hone, hsettles⟩ before after heq
    cases before with
    | nil =>
        have hacquire := (List.cons.inj heq).1
        have hafter : tail ++ rest = after := (List.cons.inj heq).2
        rw [← hafter, hwhile]
        exact hone (by cases hacquire; rfl)
    | cons e before =>
        obtain ⟨-, heq⟩ := List.cons.inj heq
        obtain ⟨before', rfl, rfl⟩ := split_after (P := fun e => e.1.isAcquire = true)
          (fun e he => by simp [htail e he]) rfl heq
        exact hsettles before' after rfl

/-- Whether the breaker is told about an answer. -/
def isReported : Except TransportError Response → Bool
  | .ok _ => true
  | .error e => transportFailureCounts e

namespace ClientConfig

theorem reported_eq (hbreaker : config.circuitBreaker = true) (healthy : Bool) :
    ∃ o : CircuitOp R, ∃ x, config.reported healthy = [⟨o, x⟩] ∧ o.isReport = true ∧
      o.isAcquire = false := by
  unfold reported
  rw [if_pos hbreaker]
  cases healthy with
  | true => exact ⟨.onSuccess, (), rfl, rfl, rfl⟩
  | false => exact ⟨.onFailure, (), rfl, rfl, rfl⟩

theorem settlement_eq (hbreaker : config.circuitBreaker = true)
    (answer : Except TransportError Response) :
    (∀ e ∈ config.settlement (R := R) answer, e.1.isAcquire = false) ∧
      (config.settlement (R := R) answer).countP (·.1.isReport) = if isReported answer then 1 else 0
    := by
  have hone : ∀ healthy, (∀ e ∈ config.reported (R := R) healthy, e.1.isAcquire = false) ∧
      (config.reported (R := R) healthy).countP (·.1.isReport) = 1 := by
    intro healthy
    obtain ⟨o, x, heq, hreport, hacquire⟩ := reported_eq (R := R) hbreaker healthy
    rw [heq]
    exact ⟨fun e he => List.mem_singleton.mp he ▸ hacquire, by simp [hreport]⟩
  cases answer with
  | ok response => exact hone _
  | error e =>
      rw [settlement, isReported]
      split
      · exact hone _
      · exact ⟨fun e he => absurd he List.not_mem_nil, rfl⟩

/-- An attempt asks for permission once, and its answer decides whether it is settled. -/
theorem AttemptPath.asks {again : Bool} (h : config.AttemptPath policy request tr again)
    (hbreaker : config.circuitBreaker = true) :
    ∃ answer tail, tr = ⟨.acquire, answer⟩ :: tail ∧ (∀ e ∈ tail, e.1.isAcquire = false) ∧
      ((answer = .ok () → tail.countP (·.1.isReport) = 1) ↔
        ∀ s ∈ Orchestrator.sends tr, isReported s.2 = true) := by
  have hadmitted : config.admitted = [(⟨.acquire, .ok ()⟩ : CallEvent R)] := if_pos hbreaker
  cases h with
  | refused e hbreaker =>
      exact ⟨.error e, [], rfl, fun e he => absurd he List.not_mem_nil,
        fun _ s hs => absurd hs List.not_mem_nil, fun _ h => nomatch h⟩
  | unauthorized e =>
      obtain ⟨o, x, heq, hreport, hacquire⟩ := reported_eq (R := R) hbreaker false
      rw [sends_unauthorized, hadmitted, heq]
      refine ⟨.ok (), [⟨.applyAuth request, .error e⟩, ⟨o, x⟩], rfl, ?_,
        fun _ s hs => absurd hs List.not_mem_nil, fun _ _ => ?_⟩
      · intro e he
        rcases List.mem_cons.mp he with rfl | he
        · rfl
        · exact List.mem_singleton.mp he ▸ hacquire
      · rw [List.countP_cons_of_neg (by simp [CircuitOp.isReport])]
        simp [hreport]
  | sent signed answer =>
      obtain ⟨hacquires, hcount⟩ := settlement_eq (R := R) hbreaker answer
      rw [sends_sent, hadmitted]
      refine ⟨.ok (), _, rfl, ?_, ?_⟩
      · intro e he
        rcases List.mem_cons.mp he with rfl | he
        · rfl
        · rcases List.mem_cons.mp he with rfl | he
          · rfl
          · exact hacquires e he
      · have hcount' : (⟨.applyAuth request, .ok signed⟩ :: ⟨.send signed, answer⟩ ::
            config.settlement answer : List (CallEvent R)).countP (·.1.isReport) =
              if isReported answer then 1 else 0 := by
          rw [List.countP_cons_of_neg (by simp [CircuitOp.isReport]),
            List.countP_cons_of_neg (by simp [CircuitOp.isReport]), hcount]
        simp [hcount']

theorem CallPath.asks {left : Nat} (h : CallPath config policy request left tr)
    (hbreaker : config.circuitBreaker = true) : Asks tr := by
  cases h with
  | last h =>
      obtain ⟨answer, tail, rfl, -⟩ := h.asks hbreaker
      rintro e ⟨⟩
      rfl
  | again h hpause hrest =>
      obtain ⟨answer, tail, rfl, -⟩ := h.asks hbreaker
      rintro e ⟨⟩
      rfl

theorem Pause.idle {pause : List (CallEvent R)} (h : Pause pause) :
    (∀ e ∈ pause, e.1.isAcquire = false) ∧ pause.countP (·.1.isReport) = 0 := by
  cases h with
  | told delay => exact ⟨by simp [CircuitOp.isAcquire], rfl⟩
  | backoff nanos delay => exact ⟨by simp [CircuitOp.isAcquire], rfl⟩

/-- A call settles every permission if and only if every answer is one the breaker is told about. -/
theorem CallPath.settles_iff {left : Nat} (h : CallPath config policy request left tr)
    (hbreaker : config.circuitBreaker = true) :
    SettlesEach tr ↔ ∀ s ∈ Orchestrator.sends tr, isReported s.2 = true := by
  induction h with
  | @last left tr again h =>
      obtain ⟨answer, tail, rfl, htail, hone⟩ := h.asks hbreaker
      have hcons : SettlesEach (⟨.acquire, answer⟩ :: tail ++ []) ↔
          (answer = .ok () → tail.countP (·.1.isReport) = 1) ∧ SettlesEach (R := R) [] :=
        settles_cons htail fun e he => nomatch he
      rw [List.append_nil] at hcons
      rw [hcons, ← hone]
      refine and_iff_left_of_imp fun _ => ?_
      intro before after heq
      simp at heq
  | @again left tr pause rest h hpause hrest ih =>
      obtain ⟨answer, tail, rfl, htail, hone⟩ := h.asks hbreaker
      have hidle := List.forall_mem_append.mpr ⟨htail, hpause.idle.1⟩
      have hsends : Orchestrator.sends (⟨.acquire, answer⟩ :: (tail ++ pause)) =
          Orchestrator.sends (⟨.acquire, answer⟩ :: tail) := by
        rw [← List.cons_append, sends_append, hpause.sends, List.append_nil]
      rw [List.cons_append, settles_cons hidle (hrest.asks hbreaker), List.countP_append,
        hpause.idle.2, Nat.add_zero, hone, ih, sends_append, hsends, List.forall_mem_append]

end ClientConfig

end Settles

/-- **Every permission is settled by one report** if and only if no attempt ends in an error of
the transport that the breaker does not count. -/
theorem admissions_settled_iff {config : ClientConfig} {policy : RetryPolicy} {request : R}
    {tr : List (CallEvent R)} {result : Except AdapterError Response}
    (h : (config.executeWithRetry policy request).Trace tr result)
    (hbreaker : config.circuitBreaker = true) :
    SettlesEach tr ↔ ∀ signed e, (signed, .error e) ∈ sends tr → transportFailureCounts e = true := by
  rw [(ClientConfig.executeWithRetry_path h).settles_iff hbreaker]
  constructor
  · exact fun hall signed e hs => hall _ hs
  · rintro hcounted ⟨signed, answer⟩ hs
    cases answer with
    | ok response => rfl
    | error e => exact hcounted signed e hs

namespace Sample

def guarded : ClientConfig := { circuitBreaker := true }

def priceQuery : HttpPost String := postJson none "https://psp/prices" "[]" {}

def keyedOptions : RequestOptions := RequestOptions.withIdempotencyKey {} "k1"

/-- The first request does not reach the provider, and the second is answered. -/
def flaky : Handler (CircuitOp.Ans (R := HttpPost String)) Nat := fun o tick =>
  match o with
  | .acquire => (.ok (), tick)
  | .onSuccess | .onFailure | .sleep _ => ((), tick)
  | .applyAuth request => (.ok request, tick)
  | .send _ =>
      (if tick = 0 then .error ⟨true, false, true⟩ else .ok ⟨503, none, "down"⟩, tick + 1)
  | .subsecNanos => (0, tick)

def flakyPath : List (CallEvent (HttpPost String)) :=
  (guarded.executeWithRetry .nonIdempotent priceQuery).events flaky 0

def keyedPath : List (CallEvent (HttpPost String)) :=
  (guarded.executeWithRetry .idempotent
    (postJson none "https://psp/prices" "[]" keyedOptions)).events flaky 0

/-- The provider is down at first, and redirects in a circle from the seventh operation on. -/
def circlingEnv : CircuitEnv Unit where
  clock := id
  subsecNanos _ := 0
  applyAuth _ request := .ok request
  send tick _ := if tick < 6 then .ok ⟨503, none, ""⟩ else .error ⟨false, false, false⟩

/-- One call fails, four are turned away, the sixth is the probe, and the seventh asks. -/
def afterProbe : List Nat := [0, 0, 0, 0, 1, 2, 3, 4, 5, 5, 5, 6]

end Sample

open Sample in
theorem received_at_most_once_flaky :
    (sends flakyPath).length ≤ 3 + 1 ∧ Permitted flakyPath ∧
      ((sends flakyPath).filter fun s => mayBeReceived s.2).length ≤ 1 ∧
      ∀ s ∈ sends keyedPath, s.1.idempotencyKey = some "k1" := by
  obtain ⟨hsends, hkeyed⟩ := received_at_most_once guarded
  obtain ⟨hlength, hpermitted, honce⟩ := hsends .nonIdempotent priceQuery flakyPath _
    (events_trace _ _)
  refine ⟨hlength, hpermitted rfl, (honce rfl).2, ?_⟩
  refine (hkeyed .none none "https://psp/prices" "[]" keyedOptions keyedPath _
    (events_trace _ _) ?_).2 "k1" rfl
  intro request answer h
  obtain ⟨tick, hanswer⟩ := mem_events h
  exact ⟨.ok "", hanswer⟩

open Sample in
theorem admissions_settled_flaky :
    SettlesEach flakyPath ↔
      ∀ signed e, (signed, .error e) ∈ sends flakyPath → transportFailureCounts e = true :=
  admissions_settled_iff (events_trace (guarded.executeWithRetry .nonIdempotent priceQuery) 0) rfl

open Sample in
/-- A probe that is sent in circles is never settled, and the next call is turned away. -/
theorem probe_unsettled :
    (∃ tr result, (oneTry.executeWithRetry .idempotent ()).Trace tr result ∧ ¬ SettlesEach tr) ∧
      (Pool.run circlingEnv.handle afterProbe (oneTryPool 7)).world.breaker.state = .halfOpen 68 ∧
      (Pool.run circlingEnv.handle afterProbe (oneTryPool 7)).world.history.getLast? =
        some ⟨6, 11, .acquire false, .halfOpen 68, .halfOpen 68⟩ := by
  refine ⟨⟨[⟨.acquire, .ok ()⟩, ⟨.applyAuth (), .ok ()⟩,
    ⟨.send (), .error ⟨false, false, false⟩⟩], _, ⟨_, _, rfl, _, _, rfl, _, _, rfl, rfl, rfl⟩, ?_⟩,
    by decide +kernel⟩
  intro h
  exact absurd (h [] _ rfl) (by decide)

end Orchestrator
