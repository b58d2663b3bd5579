/-
# `CommerceOrchestrator.Adapters.PaymentHttp` — the payment provider behind HTTP

`PaymentHttpAdapter` turns each call of the payment provider into one POST whose
`Idempotency-Key` header is the caller's key as it came.  The runner scopes that key by
tenant and merchant for itself, and one checkout sends it twice, with the
authorization and with the capture.  A provider that answers a repeated key with
its first answer therefore mixes calls up, unless no checkout gets to its capture
and equal keys mean equal calls: `payAtOnce_noCollision_iff`.
-/
import CommerceOrchestrator.Runtime.Lifecycle
import Mathlib.Data.List.DropRight

namespace Orchestrator

open Effect Prog

/-! ## Requests on the wire -/

/-- Per-request metadata. -/
structure RequestOptions where
  correlationId : Option String := none
  idempotencyKey : Option String := none
  extraHeaders : List (String × String) := []

def RequestOptions.withIdempotencyKey (options : RequestOptions) (key : String) : RequestOptions :=
  { options with idempotencyKey := some key }

def RequestOptions.withHeaders (options : RequestOptions) (headers : List (String × String)) :
    RequestOptions :=
  { options with extraHeaders := headers }

/-- Whether a failed attempt may be repeated. -/
inductive RetryPolicy
  | idempotent
  | nonIdempotent
deriving DecidableEq, Repr

/-- A POST; its body is the JSON of a `T`. -/
structure HttpPost (T : Type) where
  url : String
  headers : List (String × String)
  body : T
  policy : RetryPolicy

/-- `post_json`; `ambient` is the correlation id of the task that calls it. -/
def postJson {T : Type} (ambient : Option String) (url : String) (body : T)
    (options : RequestOptions) : HttpPost T where
  url
  headers :=
    ((options.correlationId.or ambient).map fun id => ("X-Correlation-ID", id)).toList ++
      (options.idempotencyKey.map fun key => ("Idempotency-Key", key)).toList ++
      options.extraHeaders
  body
  policy := if options.idempotencyKey.isSome then .idempotent else .nonIdempotent

/-- The value of the `Idempotency-Key` header. -/
def HttpPost.idempotencyKey {T : Type} (post : HttpPost T) : Option String :=
  post.headers.lookup "Idempotency-Key"

/-- The key in the options is the value of the header. -/
theorem postJson_idempotencyKey {T : Type} (ambient : Option String) (url : String) (body : T)
    {options : RequestOptions} {key : String} (h : options.idempotencyKey = some key) :
    (postJson ambient url body options).idempotencyKey = some key := by
  unfold HttpPost.idempotencyKey postJson
  rw [h]
  cases options.correlationId.or ambient <;> rfl

/-! ## The adapter -/

structure PaymentHttpAdapter where
  baseUrl : String

/-- What is sent: a checkout request or a lifecycle request. -/
inductive PaymentBody
  | checkout (request : CheckoutRequest)
  | lifecycle (request : PaymentLifecycleRequest)
deriving DecidableEq

namespace PaymentHttpAdapter

variable (adapter : PaymentHttpAdapter) (ambient : Option String)

/-- The configured URL without the slashes at its end. -/
def base : String := String.ofList (adapter.baseUrl.toList.rdropWhile (· = '/'))

def authorizeUrl : String := adapter.base ++ "/authorize"

def captureUrl : String := adapter.base ++ "/capture"

def voidUrl : String := adapter.base ++ "/void"

def refundUrl : String := adapter.base ++ "/refund"

def mppHeaders (request : CheckoutRequest) : List (String × String) :=
  if request.paymentIntent.paymentMethodType ≠ some .mpp then []
  else
    [("X-Payment-Method", "mpp")] ++
      (request.paymentIntent.mppMethod.map fun method => ("X-Mpp-Method", method)).toList ++
      (request.paymentIntent.mppIntent.map fun intent => ("X-Mpp-Intent", intent)).toList

def authorize (request : CheckoutRequest) : HttpPost PaymentBody :=
  postJson ambient adapter.authorizeUrl (.checkout request)
    ((RequestOptions.withIdempotencyKey {} request.idempotencyKey).withHeaders
      (mppHeaders request))

/-- What `capture`, `void` and `refund` do, each at its own URL. -/
def operation (url : String) (request : PaymentLifecycleRequest) : HttpPost PaymentBody :=
  postJson ambient url (.lifecycle request)
    (RequestOptions.withIdempotencyKey {} request.idempotencyKey)

def capture (request : PaymentLifecycleRequest) : HttpPost PaymentBody :=
  operation ambient adapter.captureUrl request

def void (request : PaymentLifecycleRequest) : HttpPost PaymentBody :=
  operation ambient adapter.voidUrl request

def refund (request : PaymentLifecycleRequest) : HttpPost PaymentBody :=
  operation ambient adapter.refundUrl request

/-- The POST of each provider call. -/
def post : ProviderCall → HttpPost PaymentBody
  | .authorize request => adapter.authorize ambient request
  | .lifecycle .capture request => adapter.capture ambient request
  | .lifecycle .void request => adapter.void ambient request
  | .lifecycle .refund request => adapter.refund ambient request

end PaymentHttpAdapter

/-- The key the caller put into the request. -/
def ProviderCall.idempotencyKey : ProviderCall → String
  | .authorize request => request.idempotencyKey
  | .lifecycle _ request => request.idempotencyKey

/-- **The header is the caller's key**, whoever the caller is and whatever is asked. -/
theorem PaymentHttpAdapter.post_idempotencyKey (adapter : PaymentHttpAdapter)
    (ambient : Option String) (c : ProviderCall) :
    (adapter.post ambient c).idempotencyKey = some c.idempotencyKey := by
  cases c with
  | authorize request => exact postJson_idempotencyKey _ _ _ rfl
  | lifecycle action request => cases action <;> exact postJson_idempotencyKey _ _ _ rfl

/-- Apart from the header no two calls look alike: URL and body give the call away. -/
theorem PaymentHttpAdapter.post_inj {adapter : PaymentHttpAdapter} {ambient ambient' : Option String}
    {c c' : ProviderCall} (hurl : (adapter.post ambient c).url = (adapter.post ambient' c').url)
    (hbody : (adapter.post ambient c).body = (adapter.post ambient' c').body) : c = c' := by
  cases c with
  | authorize request =>
      cases c' with
      | authorize request' => exact congrArg _ (PaymentBody.checkout.inj hbody)
      | lifecycle action' request' => cases action' <;> cases hbody
  | lifecycle action request =>
      cases c' with
      | authorize request' => cases action <;> cases hbody
      | lifecycle action' request' =>
          have hrequest : request = request' := by
            cases action <;> cases action' <;> exact PaymentBody.lifecycle.inj hbody
          have haction : action = action' := by
            cases action <;> cases action' <;>
              first | rfl | exact absurd ((String.append_right_inj _).mp hurl) (by decide)
          rw [hrequest, haction]

/-- So every payment call is repeated as one the provider recognises. -/
theorem PaymentHttpAdapter.post_policy (adapter : PaymentHttpAdapter) (ambient : Option String)
    (c : ProviderCall) : (adapter.post ambient c).policy = .idempotent := by
  cases c with
  | authorize request => rfl
  | lifecycle action request => cases action <;> rfl

/-! ## Collisions -/

/-- The provider call an entry records, with the thread that made it. -/
def providerEntry : PayEntry → Option (Nat × ProviderCall)
  | .did t ⟨o, _⟩ => o.asks.map (t, ·)
  | .returned .. => none

/-- Calls that carry the same header value are the same call. -/
def NoCollision (adapter : PaymentHttpAdapter) (log : List PayEntry) : Prop :=
  ∀ p ∈ log.filterMap providerEntry, ∀ p' ∈ log.filterMap providerEntry, ∀ ambient ambient',
    (adapter.post ambient p.2).idempotencyKey = (adapter.post ambient' p'.2).idempotencyKey →
    p.2 = p'.2

theorem noCollision_iff {adapter : PaymentHttpAdapter} {log : List PayEntry} :
    NoCollision adapter log ↔
      ∀ p ∈ log.filterMap providerEntry, ∀ p' ∈ log.filterMap providerEntry,
        p.2.idempotencyKey = p'.2.idempotencyKey → p.2 = p'.2 := by
  simp only [NoCollision, PaymentHttpAdapter.post_idempotencyKey, Option.some.injEq]
  exact ⟨fun h p hp p' hp' => h p hp p' hp' none none, fun h p hp p' hp' _ _ => h p hp p' hp'⟩

/-- What a call asks of the provider first. -/
def PayCall.first : PayCall → Option ProviderCall
  | .session (.cart ..) => none
  | .session (.checkout request) => some (.authorize request)
  | .lifecycle action request => some (.lifecycle action request)

/-- The idempotency key of a call that can ask the provider for something. -/
def PayCall.idempotencyKey (call : PayCall) : Option String :=
  call.first.map (·.idempotencyKey)

/-- Thread `t` may perform `o`: this is not the capture of a checkout, and whoever has gone
to the provider under the key of its call runs the same call. -/
structure GoesAlone (calls : List PayCall) (t : Nat) (o : PayOp) (log : List PayEntry) :
    Prop where
  authorizes : ∀ request, threadPayCall calls t = .session (.checkout request) →
    ∀ r, o ≠ .run (.capture r)
  alike : ∀ p ∈ log.filterMap providerEntry,
    (threadPayCall calls p.1).idempotencyKey = (threadPayCall calls t).idempotencyKey →
    threadPayCall calls p.1 = threadPayCall calls t

theorem PayCall.first_inj {call call' : PayCall} {c : ProviderCall} (h : call.first = some c)
    (h' : call'.first = some c) : call = call' := by
  unfold PayCall.first at h h'
  split at h <;> split at h' <;> cases h <;> cases h' <;> rfl

/-- A call asks under one key. -/
theorem PayProgress.MayAsk.key {q : PayProgress} {c : ProviderCall} (h : q.MayAsk c) :
    q.call.idempotencyKey = some c.idempotencyKey := by
  cases h <;> rfl

/-- What a call asks is what it asks first, or the capture of a checkout that has asked before. -/
theorem PayProgress.MayAsk.cases_first {q : PayProgress} {c : ProviderCall} (h : q.MayAsk c) :
    (q.asked = false ∧ q.call.first = some c) ∨
      q.asked = true ∧ ∃ request cart committed, q.call = .session (.checkout request) ∧
        c = .lifecycle .capture (captureRequest request cart committed) := by
  cases h with
  | lifecycle action request => exact Or.inl ⟨rfl, rfl⟩
  | authorize request => exact Or.inl ⟨rfl, rfl⟩
  | capture request cart committed => exact Or.inr ⟨rfl, request, cart, committed, rfl, rfl⟩

/-- Where a pool of calls stands with the provider: whoever has gone there went under the
key of its call, and asked first what its call asks first. -/
structure Provided (calls : List PayCall) (φ : Nat → PayProgress) (log : List PayEntry) :
    Prop where
  call : ∀ t, (φ t).call = threadPayCall calls t
  keyed : ∀ p ∈ log.filterMap providerEntry, (φ p.1).asked = true ∧
    (threadPayCall calls p.1).idempotencyKey = some p.2.idempotencyKey
  first : ∀ t, (φ t).asked = true → ∃ c, (threadPayCall calls t).first = some c ∧
    (t, c) ∈ log.filterMap providerEntry

/-- The calls that have gone to the provider each asked one thing, under a key no other
call uses. -/
structure Alone (calls : List PayCall) (log : List PayEntry) : Prop where
  one : ∀ p ∈ log.filterMap providerEntry, (threadPayCall calls p.1).first = some p.2
  alike : ∀ p ∈ log.filterMap providerEntry, ∀ p' ∈ log.filterMap providerEntry,
    (threadPayCall calls p.1).idempotencyKey = (threadPayCall calls p'.1).idempotencyKey →
    threadPayCall calls p.1 = threadPayCall calls p'.1

section Run

variable {adapter : PaymentHttpAdapter} {calls : List PayCall} {φ : Nat → PayProgress}
  {log : List PayEntry} {t : Nat} {o : PayOp} {x : o.Ans}

theorem filterMap_did :
    (log ++ [Entry.did t ⟨o, x⟩]).filterMap providerEntry =
      log.filterMap providerEntry ++ (o.asks.map (t, ·)).toList := by
  rw [List.filterMap_append]
  cases h : o.asks <;> simp [providerEntry, h]

theorem mem_did {p : Nat × ProviderCall} :
    p ∈ (log ++ [Entry.did t ⟨o, x⟩]).filterMap providerEntry ↔
      p ∈ log.filterMap providerEntry ∨ p.1 = t ∧ o.asks = some p.2 := by
  rw [filterMap_did, List.mem_append, Option.mem_toList, Option.map_eq_some_iff]
  refine or_congr_right ⟨?_, fun ⟨ht, hc⟩ => ⟨p.2, hc, by rw [← ht]⟩⟩
  rintro ⟨c, hc, rfl⟩
  exact ⟨rfl, hc⟩

theorem filterMap_returned {out : PayOutcome} {l : List PayEntry} :
    (l ++ [Entry.returned t out]).filterMap providerEntry = l.filterMap providerEntry := by
  rw [List.filterMap_append]
  exact List.append_nil _

theorem Provided.did (h : Provided calls φ log) (ho : payMonitor.allow o (φ t)) :
    Provided calls (Function.update φ t (payMonitor.next o (φ t) x))
      (log ++ [.did t ⟨o, x⟩]) := by
  have hself : Function.update φ t (payMonitor.next o (φ t) x) t = payMonitor.next o (φ t) x :=
    Function.update_self _ _ _
  constructor
  · intro t'
    by_cases ht : t' = t
    · subst ht
      rw [hself]
      exact h.call t'
    · rw [Function.update_of_ne ht]
      exact h.call t'
  · intro p hp
    rcases mem_did.mp hp with hp | ⟨ht, hc⟩
    · obtain ⟨ha, hkey⟩ := h.keyed p hp
      refine ⟨?_, hkey⟩
      by_cases ht : p.1 = t
      · rw [ht, hself]
        exact Bool.or_eq_true_iff.mpr (Or.inl (ht ▸ ha))
      · rwa [Function.update_of_ne ht]
    · subst ht
      refine ⟨?_, ?_⟩
      · rw [hself]
        exact Bool.or_eq_true_iff.mpr (Or.inr (by rw [hc]; rfl))
      · rw [← h.call p.1]
        exact (ho.1 p.2 hc).key
  · intro t' ha
    have hold : (φ t').asked = true → ∃ c, (threadPayCall calls t').first = some c ∧
        (t', c) ∈ (log ++ [Entry.did t ⟨o, x⟩]).filterMap providerEntry := by
      intro ha
      obtain ⟨c, hc, hm⟩ := h.first t' ha
      exact ⟨c, hc, mem_did.mpr (Or.inl hm)⟩
    by_cases ht : t' = t
    · subst ht
      rw [hself] at ha
      rcases Bool.or_eq_true_iff.mp ha with ha | ha
      · exact hold ha
      · obtain ⟨c, hc⟩ := Option.isSome_iff_exists.mp ha
        rcases (ho.1 c hc).cases_first with ⟨-, hfirst⟩ | ⟨ha, -⟩
        · exact ⟨c, h.call t' ▸ hfirst, mem_did.mpr (Or.inr ⟨rfl, hc⟩)⟩
        · exact hold ha
    · rw [Function.update_of_ne ht] at ha
      exact hold ha

theorem Provided.returns {out : PayOutcome} (h : Provided calls φ log) :
    Provided calls φ (log ++ [.returned t out]) where
  call := h.call
  keyed := filterMap_returned.symm ▸ h.keyed
  first := filterMap_returned.symm ▸ h.first

theorem Alone.did (h : Alone calls log) (hp : Provided calls φ log)
    (ho : payMonitor.allow o (φ t)) (hgo : o.asks.isSome → GoesAlone calls t o log) :
    Alone calls (log ++ [.did t ⟨o, x⟩]) := by
  have hnew : ∀ c, o.asks = some c → (threadPayCall calls t).first = some c := by
    intro c hc
    rcases (ho.1 c hc).cases_first with ⟨-, hfirst⟩ | ⟨-, request, cart, committed, hcall, rfl⟩
    · exact hp.call t ▸ hfirst
    · -- the only thing asked second is a capture, which the condition rules out
      have hcall' := (hp.call t).symm.trans hcall
      have hne := (hgo (by rw [hc]; rfl)).authorizes request hcall'
      have hop : o = .run (.capture (captureRequest request cart committed)) := by
        cases o with
        | run o =>
            cases o <;> first | cases hc; rfl | cases hc
        | provider action r =>
            exact absurd (hcall.symm.trans (ho.2 action r rfl)) (by simp)
      exact absurd hop (hne _)
  have halike : ∀ c, o.asks = some c → ∀ p ∈ log.filterMap providerEntry,
      (threadPayCall calls p.1).idempotencyKey = (threadPayCall calls t).idempotencyKey →
      threadPayCall calls p.1 = threadPayCall calls t :=
    fun c hc => (hgo (by rw [hc]; rfl)).alike
  constructor
  · intro p hp
    rcases mem_did.mp hp with hp | ⟨ht, hc⟩
    · exact h.one p hp
    · exact ht ▸ hnew p.2 hc
  · intro p hp p' hp' hkey
    rcases mem_did.mp hp with hp | ⟨ht, hc⟩ <;> rcases mem_did.mp hp' with hp' | ⟨ht', hc'⟩
    · exact h.alike p hp p' hp' hkey
    · rw [ht'] at hkey ⊢
      exact halike p'.2 hc' p hp hkey
    · rw [ht] at hkey ⊢
      exact (halike p.2 hc p' hp' hkey.symm).symm
    · rw [ht, ht']

theorem Alone.returns {out : PayOutcome} (h : Alone calls log) :
    Alone calls (log ++ [.returned t out]) where
  one := filterMap_returned.symm ▸ h.one
  alike := filterMap_returned.symm ▸ h.alike

/-- Calls that each asked one thing under a key of their own do not collide. -/
theorem Alone.noCollision (h : Alone calls log) (hp : Provided calls φ log) :
    NoCollision adapter log := by
  refine noCollision_iff.mpr fun p hm p' hm' hkey => ?_
  have hkeys : (threadPayCall calls p.1).idempotencyKey =
      (threadPayCall calls p'.1).idempotencyKey := by
    rw [(hp.keyed p hm).2, (hp.keyed p' hm').2, hkey]
  have hcalls := h.alike p hm p' hm' hkeys
  exact Option.some.inj ((h.one p hm).symm.trans ((congrArg PayCall.first hcalls).trans
    (h.one p' hm')))

/-- Where an operation causes no collision, its thread goes alone. -/
theorem Provided.goesAlone (h : Provided calls φ log) (ho : payMonitor.allow o (φ t))
    (hno : NoCollision adapter (log ++ [.did t ⟨o, x⟩])) (hasks : o.asks.isSome) :
    GoesAlone calls t o log := by
  obtain ⟨c, hc⟩ := Option.isSome_iff_exists.mp hasks
  have hnew : (t, c) ∈ (log ++ [Entry.did t ⟨o, x⟩]).filterMap providerEntry :=
    mem_did.mpr (Or.inr ⟨rfl, hc⟩)
  have hkey : (threadPayCall calls t).idempotencyKey = some c.idempotencyKey :=
    h.call t ▸ (ho.1 c hc).key
  -- whoever went to the provider under this key asked `c` first
  have hsame : ∀ t' c', (threadPayCall calls t').first = some c' →
      (t', c') ∈ log.filterMap providerEntry →
      (threadPayCall calls t').idempotencyKey = (threadPayCall calls t).idempotencyKey →
      c' = c := by
    intro t' c' hfirst hm hkeys
    refine noCollision_iff.mp hno _ (mem_did.mpr (Or.inl hm)) _ hnew ?_
    rw [PayCall.idempotencyKey, hfirst, hkey] at hkeys
    exact Option.some.inj hkeys
  have hfirst : (threadPayCall calls t).first = some c := by
    rcases (ho.1 c hc).cases_first with ⟨-, hfirst⟩ | ⟨ha, -⟩
    · exact h.call t ▸ hfirst
    · obtain ⟨c', hc', hm⟩ := h.first t ha
      exact hsame t c' hc' hm rfl ▸ hc'
  constructor
  · rintro request hcall r rfl
    rw [hcall] at hfirst
    cases hc
    cases hfirst
  · intro p hp hkeys
    obtain ⟨c', hc', hm⟩ := h.first p.1 (h.keyed p hp).1
    exact PayCall.first_inj hc' (hsame p.1 c' hc' hm hkeys ▸ hfirst)

theorem Provided.start : Provided calls (fun t => ⟨threadPayCall calls t, false⟩) [] where
  call _ := rfl
  keyed := by simp
  first _ h := by cases h

/-- **Collisions.**  In a run of calls at once no two different calls of the provider carry
the same header value exactly if every call that goes there goes alone. -/
theorem payAtOnce_noCollision_iff (adapter : PaymentHttpAdapter) (env : PayEnv) (runner : Runner)
    (calls : List PayCall) (ts : List Nat) (w : World) :
    NoCollision adapter (payAtOnce env runner calls ts w).log ↔
      Pool.StepsMeetAt (fun t o _ log => o.asks.isSome → GoesAlone calls t o log)
        env.handle.shared ts (Pool.start w (calls.map (·.prog runner))) := by
  constructor
  · intro h
    refine Pool.stepsMeetAt_of_run (D := NoCollision adapter)
      (I := fun _ φ log => Provided calls φ log)
      (fun w φ log t o x w' h ho _ => ?_) (fun w φ log t o x w' h ho _ hno => h.goesAlone ho hno)
      ?_ ts Provided.start payAtOnce_start h
    · have hdid := h.did (x := x) ho
      refine ⟨trivial, hdid, fun out _ => ?_⟩
      rw [List.append_cons]
      exact hdid.returns
    · intro l l' hl hno p hp p' hp'
      exact hno p ((hl.filterMap _).subset hp) p' ((hl.filterMap _).subset hp')
  · intro h
    obtain ⟨φ, ⟨hp, ha⟩, -⟩ := Pool.run_invariant_at (h := env.handle.shared)
      (I := fun _ φ log => Provided calls φ log ∧ Alone calls log)
      (by
        intro w φ log t o x w' ⟨hp, ha⟩ ho hgo _
        have hdid := hp.did (x := x) ho
        have hdone := ha.did (x := x) hp ho hgo
        refine ⟨trivial, ⟨hdid, hdone⟩, fun out _ => ?_⟩
        rw [List.append_cons]
        exact ⟨hdid.returns, hdone.returns⟩)
      ts ⟨Provided.start, ⟨by simp [Pool.start], by simp [Pool.start]⟩⟩ payAtOnce_start h
    exact ha.noCollision hp

end Run

/-- One checkout collides with itself: its authorization and its capture carry one key. -/
theorem capture_collides :
    ¬ ∀ (adapter : PaymentHttpAdapter) (env : PayEnv) (runner : Runner) (calls : List PayCall)
        (ts : List Nat) (w : World),
      NoCollision adapter (payAtOnce env runner calls ts w).log := by
  intro h
  have hno := h ⟨"http://payments"⟩ PayEnv.agreeable Sample.runner
    [.session (.checkout (Sample.request "k"))] (List.replicate 30 0) Sample.world
  have hauth : (0, .authorize (Sample.request "k")) ∈
      (payAtOnce PayEnv.agreeable Sample.runner [.session (.checkout (Sample.request "k"))]
        (List.replicate 30 0) Sample.world).log.filterMap providerEntry := by
    decide +kernel
  have hcap : (0, .lifecycle .capture ⟨"t", "m", "txn_9", 100, "k"⟩) ∈
      (payAtOnce PayEnv.agreeable Sample.runner [.session (.checkout (Sample.request "k"))]
        (List.replicate 30 0) Sample.world).log.filterMap providerEntry := by
    decide +kernel
  cases noCollision_iff.mp hno _ hauth _ hcap rfl

end Orchestrator
