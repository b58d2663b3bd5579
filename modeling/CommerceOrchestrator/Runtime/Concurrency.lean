/-
# `CommerceOrchestrator.Runtime.Concurrency` — checkouts at once

Any number of checkouts under one idempotency key, interleaved operation by
operation.  A store that keeps to its specification tells at most one checkout at
a time to go on, and that one gives the key back only before it pays.
`checkoutMonitor` says what one checkout does with its key and with the payment
provider; `Standing` says how the key, the checkouts and the payments asked for
so far hang together, and every step of the specification keeps it.
-/
import CommerceOrchestrator.Runtime.Idempotency
import CommerceOrchestrator.Runtime.Paths

namespace Orchestrator

open Effect Prog

variable {env : Env} {runner : Runner} {request : CheckoutRequest} {w : World}
  {tr : List (Event Op.Ans)} {r : Except RunnerError TransactionResult} {key : IdempotencyKey}

/-! ## One checkout -/

/-- What one call may ask of the payment provider: at most one authorization,
and at most one capture once that was granted. -/
inductive Payments : List (Event Op.Ans) → Prop
  | none : Payments []
  | asked (request : CheckoutRequest) (x : Except PaymentError AuthResult) :
      Payments [⟨.authorize request, x⟩]
  | captured (request : CheckoutRequest) (auth : AuthResult) (pay : PaymentLifecycleRequest)
      (x : Except PaymentError PaymentOperationResult) : auth.authorized = true →
      Payments [⟨.authorize request, .ok auth⟩, ⟨.capture pay, x⟩]

/-- How far a checkout has come with its key. -/
inductive Phase
  /-- The key has not been claimed yet. -/
  | waiting
  /-- The key is this call's, which has asked the payment provider for `payments`. -/
  | owner (payments : List (Event Op.Ans))
  /-- The key is completed with `result`, by this call or before it. -/
  | settled (result : TransactionResult)
  /-- The call is not the owner, or no longer. -/
  | over

/-- A phase in which a call neither owns the key nor knows its outcome. -/
def Phase.Idle : Phase → Prop
  | .waiting | .over => True
  | .owner _ | .settled _ => False

/-- A checkout claims its key once; as the owner it may give it back before it has
paid or complete it, and pay as `Payments` says. -/
def checkoutMonitor (key : IdempotencyKey) : Monitor Op.Ans Phase where
  allow o q :=
    match q with
    | .waiting => (o.keys → o = .claim key) ∧ ¬ o.pays
    | .owner ps =>
        (o.keys → (o = .release key ∧ ps = []) ∨ ∃ result, o = .complete key result) ∧
          (o.pays → ∀ x, Payments (ps ++ [⟨o, x⟩]))
    | .settled _ | .over => ¬ o.keys ∧ ¬ o.pays
  next o q x :=
    match o, x, q with
    | .claim _, .ok none, _ => .owner []
    | .claim _, .ok (some (.completed result)), _ => .settled result
    | .claim _, _, _ => .over
    | .release _, _, _ => .over
    | .complete _ result, .ok _, _ => .settled result
    | .complete _ _, .error _, _ => .over
    | .authorize request, x, .owner ps => .owner (ps ++ [⟨.authorize request, x⟩])
    | .capture pay, x, .owner ps => .owner (ps ++ [⟨.capture pay, x⟩])
    | _, _, q => q

/-- The phase a checkout may end in, given what it returns. -/
def Ends (r : Except RunnerError TransactionResult) (q : Phase) : Prop :=
  ∀ result, r = .ok result → q = .settled result

theorem checkoutMonitor_next_idle {o : Op} {q : Phase} {x : o.Ans} (hk : o.keys = false)
    (hp : o.pays = false) : (checkoutMonitor key).next o q x = q := by
  cases o <;> first | rfl | exact absurd hk Bool.noConfusion | exact absurd hp Bool.noConfusion

theorem checkoutMonitor_next_pays {o : Op} {ps : List (Event Op.Ans)} {x : o.Ans}
    (hp : o.pays) : (checkoutMonitor key).next o (.owner ps) x = .owner (ps ++ [⟨o, x⟩]) := by
  cases o <;> first | rfl | exact absurd hp Bool.false_ne_true

/-- Operations on no key and not to the payment provider are allowed anywhere. -/
theorem checkoutMonitor_idle {q : Phase} {P : Phase → Prop}
    (hidle : ∀ e ∈ tr, e.1.keys = false ∧ e.1.pays = false) (h : P q) :
    (checkoutMonitor key).Accepts P tr q := by
  refine Monitor.Accepts.idle (fun e he => ?_) h
  obtain ⟨hk, hp⟩ := hidle e he
  refine ⟨?_, checkoutMonitor_next_idle hk hp⟩
  cases q <;> simp [checkoutMonitor, hk, hp]

theorem Op.settles_quiet {o : Op} (h : o.settles) : o.keys = false ∧ o.pays = false := by
  cases o <;> first | exact ⟨rfl, rfl⟩ | exact absurd h Bool.false_ne_true

theorem Op.reserves_quiet {o : Op} (h : o.reserves) : o.keys = false ∧ o.pays = false := by
  cases o <;> first | exact ⟨rfl, rfl⟩ | exact absurd h Bool.false_ne_true

section Accepted

variable {cart : CartProjection} {ps : List (Event Op.Ans)}

theorem ConcludePath.accepted {result : TransactionResult}
    (h : ConcludePath request result tr r) :
    (checkoutMonitor (.ofRequest request)).Accepts (Ends r) tr (.owner ps) := by
  cases h <;> simp [checkoutMonitor, Op.keys, Op.pays, Ends]

theorem BookPath.accepted {committed : CommitRecord} {paid : PaymentOperationResult}
    (h : BookPath request cart committed paid tr r) :
    (checkoutMonitor (.ofRequest request)).Accepts (Ends r) tr (.owner ps) := by
  cases h <;> simp [checkoutMonitor, Op.keys, Op.pays, Ends, Booking.draws]

theorem PayPath.accepted (h : PayPath runner request cart tr r) :
    (checkoutMonitor (.ofRequest request)).Accepts (Ends r) tr (.owner []) := by
  cases h with
  | rejected errors txn corr _ hc =>
      simpa [checkoutMonitor, Op.keys, Op.pays] using hc.accepted
  | unauthorized e _ => simp [checkoutMonitor, Op.keys, Op.pays, Ends, Payments.asked]
  | declined auth txn corr _ _ hc =>
      simpa [checkoutMonitor, Op.keys, Op.pays, Payments.asked] using hc.accepted
  | uncommitted auth e _ _ => simp [checkoutMonitor, Op.keys, Op.pays, Ends, Payments.asked]
  | uncaptured auth committed e _ hauth =>
      simp [checkoutMonitor, Op.keys, Op.pays, Ends, Payments.asked, Payments.captured, hauth]
  | captured auth committed capture _ hauth hb =>
      simpa [checkoutMonitor, Op.keys, Op.pays, Payments.asked, Payments.captured, hauth]
        using hb.accepted

theorem OwnerPath.accepted (h : OwnerPath runner request tr r) :
    (checkoutMonitor (.ofRequest request)).Accepts (Ends r) tr (.owner []) := by
  cases h with
  | unsettled e x e' hs =>
      refine Monitor.accepts_append.mpr ?_
      refine checkoutMonitor_idle (fun e he => Op.settles_quiet (hs.settles e he)) ?_
      simp [checkoutMonitor, Op.keys, Op.pays, Ends]
  | unreserved cart e hs hr =>
      refine Monitor.accepts_append.mpr ?_
      refine checkoutMonitor_idle (fun e he => Op.settles_quiet (hs.settles e he)) ?_
      refine checkoutMonitor_idle (fun e he => Op.reserves_quiet (hr.reserves e he)) ?_
      intro result hok
      cases hok
  | paid cart hs hr hp =>
      refine Monitor.accepts_append.mpr ?_
      refine checkoutMonitor_idle (fun e he => Op.settles_quiet (hs.settles e he)) ?_
      refine Monitor.accepts_append.mpr ?_
      refine checkoutMonitor_idle (fun e he => Op.reserves_quiet (hr.reserves e he)) ?_
      exact hp.accepted

theorem CheckoutPath.accepted (h : CheckoutPath runner request tr r) :
    (checkoutMonitor (.ofRequest request)).Accepts (Ends r) tr .waiting := by
  cases h with
  | invalid _ => simp [Ends]
  | unclaimed e _ => simp [checkoutMonitor, Op.keys, Op.pays, Ends]
  | inFlight _ => simp [checkoutMonitor, Op.keys, Op.pays, Ends]
  | replayed result _ => simp [checkoutMonitor, Op.keys, Op.pays, Ends]
  | owned _ ho => simpa [checkoutMonitor, Op.keys, Op.pays] using ho.accepted

end Accepted

/-- A checkout follows the monitor of its key. -/
theorem executeCheckout_follows :
    (executeCheckout runner request).run.Follows (checkoutMonitor (.ofRequest request)) Ends
      .waiting :=
  Follows.of_trace fun _ _ h => (executeCheckout_trace h).accepted

/-! ## The key, the checkouts and the payments -/

/-- An operation and the checkout that performed it. -/
abbrev Payment := Nat × Event Op.Ans

/-- An operation, if it is one of the payment provider. -/
def payment (t : Nat) (e : Event Op.Ans) : Option Payment := if e.1.pays then some (t, e) else none

/-- How the phases of all checkouts, the payments in the log and the state of the
key hang together.  At most one checkout is an owner, only while the key is in
flight; all payments so far are one checkout's. -/
inductive Standing (φ : Nat → Phase) (paid : List Payment) :
    Option IdempotencyState → Prop
  | free : (∀ t, (φ t).Idle) → paid = [] → Standing φ paid none
  | held (t : Nat) (ps : List (Event Op.Ans)) :
      φ t = .owner ps → (∀ t', t' ≠ t → (φ t').Idle) → Payments ps → paid = ps.map (t, ·) →
      Standing φ paid (some .inFlight)
  | stuck (t : Nat) (ps : List (Event Op.Ans)) :
      (∀ t', (φ t').Idle) → Payments ps → paid = ps.map (t, ·) →
      Standing φ paid (some .inFlight)
  | done (t : Nat) (ps : List (Event Op.Ans)) (result : TransactionResult) :
      (∀ t', (φ t').Idle ∨ φ t' = .settled result) → Payments ps → paid = ps.map (t, ·) →
      Standing φ paid (some (.completed result))

section Standing

variable {φ : Nat → Phase} {paid : List Payment} {state : Option IdempotencyState}
  {t : Nat} {ps : List (Event Op.Ans)} {q : Phase}

/-- Every payment so far is one checkout's. -/
theorem Standing.payments (h : Standing φ paid state) :
    ∃ t ps, Payments ps ∧ paid = ps.map (t, ·) := by
  cases h with
  | free _ hpaid => exact ⟨0, [], .none, hpaid⟩
  | held t ps _ _ hps hpaid => exact ⟨t, ps, hps, hpaid⟩
  | stuck t ps _ hps hpaid => exact ⟨t, ps, hps, hpaid⟩
  | done t ps _ _ hps hpaid => exact ⟨t, ps, hps, hpaid⟩

/-- What an owner can rely on. -/
theorem Standing.of_owner (h : Standing φ paid state) (ht : φ t = .owner ps) :
    state = some .inFlight ∧ (∀ t', t' ≠ t → (φ t').Idle) ∧ Payments ps ∧
      paid = ps.map (t, ·) := by
  cases h with
  | free hidle _ =>
      have hno := hidle t
      rw [ht] at hno
      exact hno.elim
  | held t' ps' ht' hidle hps hpaid =>
      have heq : t = t' := by
        by_contra hne
        have hno := hidle t hne
        rw [ht] at hno
        exact hno
      subst heq
      cases ht.symm.trans ht'
      exact ⟨rfl, hidle, hps, hpaid⟩
  | stuck _ _ hidle _ _ =>
      have hno := hidle t
      rw [ht] at hno
      exact hno.elim
  | done _ _ _ hidle _ _ =>
      rcases hidle t with hno | hno
      · rw [ht] at hno
        exact hno.elim
      · cases ht.symm.trans hno

/-- A checkout that knows the outcome knows the stored one. -/
theorem Standing.of_settled {result : TransactionResult} (h : Standing φ paid state)
    (ht : φ t = .settled result) : state = some (.completed result) := by
  cases h with
  | free hidle _ =>
      have hno := hidle t
      rw [ht] at hno
      exact hno.elim
  | held t' ps' ht' hidle _ _ =>
      by_cases heq : t = t'
      · subst heq
        cases ht.symm.trans ht'
      · have hno := hidle t heq
        rw [ht] at hno
        exact hno.elim
  | stuck _ _ hidle _ _ =>
      have hno := hidle t
      rw [ht] at hno
      exact hno.elim
  | done _ _ result' hidle _ _ =>
      rcases hidle t with hno | hno
      · rw [ht] at hno
        exact hno.elim
      · cases ht.symm.trans hno
        rfl

theorem idle_update {φ : Nat → Phase} (h : ∀ t', t' ≠ t → (φ t').Idle) (hq : q.Idle) (t' : Nat) :
    (Function.update φ t q t').Idle := by
  by_cases ht : t' = t
  · subst ht
    rwa [Function.update_self]
  · rw [Function.update_of_ne ht]
    exact h t' ht

/-- A checkout that does not own the key and stops. -/
theorem Standing.over (h : Standing φ paid state) (ht : (φ t).Idle) :
    Standing (Function.update φ t .over) paid state := by
  cases h with
  | free hidle hpaid => exact .free (idle_update (fun t' _ => hidle t') trivial) hpaid
  | held t₀ ps ht₀ hidle hps hpaid =>
      have hne : t₀ ≠ t := by
        rintro rfl
        rw [ht₀] at ht
        exact ht
      refine .held t₀ ps ?_ (fun t' ht' => ?_) hps hpaid
      · rwa [Function.update_of_ne hne]
      · by_cases htt : t' = t
        · rw [htt, Function.update_self]
          exact trivial
        · rw [Function.update_of_ne htt]
          exact hidle t' ht'
  | stuck t₀ ps hidle hps hpaid =>
      exact .stuck t₀ ps (idle_update (fun t' _ => hidle t') trivial) hps hpaid
  | done t₀ ps result hidle hps hpaid =>
      refine .done t₀ ps result (fun t' => ?_) hps hpaid
      by_cases htt : t' = t
      · rw [htt, Function.update_self]
        exact Or.inl trivial
      · rw [Function.update_of_ne htt]
        exact hidle t'

/-- A claim of the free key makes its caller the owner. -/
theorem Standing.grant (h : Standing φ paid none) :
    Standing (Function.update φ t (.owner [])) paid (some .inFlight) := by
  cases h with
  | free hidle hpaid =>
      refine .held t [] (Function.update_self ..) (fun t' ht' => ?_) .none hpaid
      rw [Function.update_of_ne ht']
      exact hidle t'

/-- A claim of the free key that nobody is told about leaves it in flight for good. -/
theorem Standing.leak (h : Standing φ paid none) : Standing φ paid (some .inFlight) := by
  cases h with
  | free hidle hpaid => exact .stuck 0 [] hidle .none hpaid

/-- A claim of the completed key replays the result. -/
theorem Standing.replay {result : TransactionResult}
    (h : Standing φ paid (some (.completed result))) :
    Standing (Function.update φ t (.settled result)) paid (some (.completed result)) := by
  cases h with
  | done t₀ ps _ hidle hps hpaid =>
      refine .done t₀ ps result (fun t' => ?_) hps hpaid
      by_cases htt : t' = t
      · rw [htt, Function.update_self]
        exact Or.inr rfl
      · rw [Function.update_of_ne htt]
        exact hidle t'

/-- The owner stops without having completed the key. -/
theorem Standing.abandon (h : Standing φ paid state) (ht : φ t = .owner ps) :
    Standing (Function.update φ t .over) paid state := by
  obtain ⟨rfl, hidle, hps, hpaid⟩ := h.of_owner ht
  exact .stuck t ps (idle_update hidle trivial) hps hpaid

/-- The owner completes the key, and may be told so. -/
theorem Standing.complete {result : TransactionResult} (h : Standing φ paid state)
    (ht : φ t = .owner ps) (hq : q.Idle ∨ q = .settled result) :
    Standing (Function.update φ t q) paid (some (.completed result)) := by
  obtain ⟨rfl, hidle, hps, hpaid⟩ := h.of_owner ht
  refine .done t ps result (fun t' => ?_) hps hpaid
  by_cases htt : t' = t
  · rwa [htt, Function.update_self]
  · rw [Function.update_of_ne htt]
    exact Or.inl (hidle t' htt)

/-- The owner gives the key back before it has paid. -/
theorem Standing.release (h : Standing φ paid state) (ht : φ t = .owner []) :
    Standing (Function.update φ t .over) paid none := by
  obtain ⟨rfl, hidle, -, hpaid⟩ := h.of_owner ht
  exact .free (idle_update hidle trivial) hpaid

/-- The owner asks the payment provider. -/
theorem Standing.pay {e : Event Op.Ans} (h : Standing φ paid state) (ht : φ t = .owner ps)
    (hps : Payments (ps ++ [e])) :
    Standing (Function.update φ t (.owner (ps ++ [e]))) (paid ++ [(t, e)]) state := by
  obtain ⟨rfl, hidle, -, rfl⟩ := h.of_owner ht
  refine .held t _ (Function.update_self ..) (fun t' ht' => ?_) hps (by simp)
  rw [Function.update_of_ne ht']
  exact hidle t' ht'

theorem checkoutMonitor_allow_claim (ho : (checkoutMonitor key).allow (.claim key) q) :
    q = .waiting := by
  cases q with
  | waiting => rfl
  | owner ps =>
      rcases ho.1 rfl with ⟨h, -⟩ | ⟨_, h⟩
      · cases h
      · cases h
  | settled result => exact absurd rfl ho.1
  | _ => exact absurd rfl ho.1

theorem checkoutMonitor_allow_complete {result : TransactionResult}
    (ho : (checkoutMonitor key).allow (.complete key result) q) : ∃ ps, q = .owner ps := by
  cases q with
  | waiting => cases ho.1 rfl
  | owner ps => exact ⟨ps, rfl⟩
  | settled result => exact absurd rfl ho.1
  | _ => exact absurd rfl ho.1

theorem checkoutMonitor_allow_release (ho : (checkoutMonitor key).allow (.release key) q) :
    q = .owner [] := by
  cases q with
  | waiting => cases ho.1 rfl
  | owner ps =>
      rcases ho.1 rfl with ⟨-, rfl⟩ | ⟨_, h⟩
      · rfl
      · cases h
  | settled result => exact absurd rfl ho.1
  | _ => exact absurd rfl ho.1

/-- Only an owner may pay. -/
theorem checkoutMonitor_allow_pays {o : Op} (ho : (checkoutMonitor key).allow o q)
    (hp : o.pays) : ∃ ps, q = .owner ps ∧ ∀ x, Payments (ps ++ [⟨o, x⟩]) := by
  cases q with
  | waiting => exact absurd hp ho.2
  | owner ps => exact ⟨ps, rfl, ho.2 hp⟩
  | settled result => exact absurd hp ho.2
  | _ => exact absurd hp ho.2

/-- A checkout works on one key. -/
theorem checkoutMonitor_onKey {o : Op} (ho : (checkoutMonitor key).allow o q)
    (hk : o.keys = true) : o.onKey = some key := by
  cases q with
  | waiting =>
      obtain rfl := ho.1 hk
      rfl
  | owner ps =>
      rcases ho.1 hk with ⟨rfl, -⟩ | ⟨result, rfl⟩
      · rfl
      · rfl
  | settled result => exact absurd hk ho.1
  | _ => exact absurd hk ho.1

/-- Only the payment provider is paid. -/
theorem Standing.unpaid {e : Event Op.Ans} (h : Standing φ paid state) (hp : e.1.pays = false) :
    Standing φ (paid ++ (payment t e).toList) state := by
  simpa [payment, hp] using h

/-- **The step.**  Every operation the monitor allows keeps the standing, whatever
store carries it out, as long as a replayed result is the stored one. -/
theorem Standing.step {e : Event Op.Ans} {state' : Option IdempotencyState}
    (h : Standing φ paid state) (ho : (checkoutMonitor key).allow e.1 (φ t))
    (hs : KeyStep key e state state')
    (hexact : ∀ result, e = ⟨.claim key, .ok (some (.completed result))⟩ →
      state = some (.completed result)) :
    Standing (Function.update φ t ((checkoutMonitor key).next e.1 (φ t) e.2))
      (paid ++ (payment t e).toList) state' := by
  cases hs with
  | elsewhere _ hne =>
      obtain ⟨o, x⟩ := e
      have hk : o.keys = false := by
        by_contra hk
        exact hne (checkoutMonitor_onKey ho (by simpa using hk))
      cases hp : o.pays with
      | false =>
          rw [checkoutMonitor_next_idle hk hp, Function.update_eq_self]
          simpa [payment, hp] using h
      | true =>
          obtain ⟨ps, ht, hps⟩ := checkoutMonitor_allow_pays ho hp
          rw [ht, checkoutMonitor_next_pays hp]
          simpa [payment, hp] using h.pay ht (hps x)
  | granted => exact h.grant.unpaid rfl
  | refused =>
      have ht := checkoutMonitor_allow_claim ho
      exact (h.over (by rw [ht]; trivial)).unpaid rfl
  | replayed result result' =>
      cases hexact result rfl
      exact h.replay.unpaid rfl
  | unanswered e =>
      have ht := checkoutMonitor_allow_claim ho
      exact (h.over (by rw [ht]; trivial)).unpaid rfl
  | unacknowledged e =>
      have ht := checkoutMonitor_allow_claim ho
      exact (h.leak.over (by rw [ht]; trivial)).unpaid rfl
  | @completed result x _ hx =>
      obtain ⟨ps, ht⟩ := checkoutMonitor_allow_complete ho
      refine (h.complete ht ?_).unpaid rfl
      cases x with
      | ok u => exact Or.inr rfl
      | error e => exact Or.inl trivial
  | @uncompleted result x _ hx =>
      obtain ⟨ps, ht⟩ := checkoutMonitor_allow_complete ho
      cases x with
      | ok u => cases hx
      | error e => exact (h.abandon ht).unpaid rfl
  | released hx =>
      have ht := checkoutMonitor_allow_release ho
      exact (h.release ht).unpaid rfl
  | unreleased hx =>
      have ht := checkoutMonitor_allow_release ho
      exact (h.abandon ht).unpaid rfl

/-- A completed key stays as it is: only an owner could change it. -/
theorem Standing.completed_stays {e : Event Op.Ans} {state' : Option IdempotencyState}
    {result : TransactionResult} (h : Standing φ paid (some (.completed result)))
    (ho : (checkoutMonitor key).allow e.1 (φ t))
    (hs : KeyStep key e (some (.completed result)) state') : state' = some (.completed result) := by
  cases hs with
  | completed result' hx =>
      obtain ⟨ps, ht⟩ := checkoutMonitor_allow_complete ho
      cases (h.of_owner ht).1
  | _ => rfl

end Standing

/-! ## A pool of checkouts -/

/-- What the log of a pool of checkouts is made of. -/
abbrev CheckoutEntry := Entry Op.Ans (Except RunnerError TransactionResult)

/-- The operations of the payment provider, in order. -/
def payments (log : List CheckoutEntry) : List Payment :=
  log.filterMap fun
    | .did t e => payment t e
    | .returned .. => none

/-- What holds throughout a pool: the standing of the key, and every result
returned so far is the one stored. -/
structure PoolInv (key : IdempotencyKey) (w : World) (φ : Nat → Phase)
    (log : List CheckoutEntry) : Prop where
  standing : Standing φ (payments log) (w.idempotency.lookup key)
  returned : ∀ t result, .returned t (.ok result) ∈ log →
    w.idempotency.lookup key = some (.completed result)

@[simp] theorem payments_did {log : List CheckoutEntry} {t : Nat} {e : Event Op.Ans} :
    payments (log ++ [.did t e]) = payments log ++ (payment t e).toList := by
  rw [payments, List.filterMap_append]
  cases h : payment t e <;> simp [payments, h]

@[simp] theorem payments_returned {log : List CheckoutEntry} {t : Nat}
    {r : Except RunnerError TransactionResult} :
    payments (log ++ [.returned t r]) = payments log := by
  rw [payments, List.filterMap_append]
  exact List.append_nil _

/-- Wherever a key stands, checkouts that have not started are fit to start. -/
theorem Standing.init (state : Option IdempotencyState) :
    Standing (fun _ => .waiting) [] state := by
  cases state with
  | none => exact .free (fun _ => trivial) rfl
  | some state =>
      cases state with
      | inFlight => exact .stuck 0 [] (fun _ => trivial) .none rfl
      | completed result => exact .done 0 [] result (fun _ => .inl trivial) .none rfl

theorem PoolInv.init (key : IdempotencyKey) (w : World) :
    PoolInv key w (fun _ => .waiting) [] :=
  ⟨.init _, fun _ _ hm => absurd hm List.not_mem_nil⟩

theorem PoolInv.did {φ : Nat → Phase} {log : List CheckoutEntry} {t : Nat} {o : Op}
    (h : PoolInv key w φ log) (ho : (checkoutMonitor key).allow o (φ t)) :
    PoolInv key (env.handle o w).2
      (Function.update φ t ((checkoutMonitor key).next o (φ t) (env.handle o w).1))
      (log ++ [.did t ⟨o, (env.handle o w).1⟩]) := by
  have hs := env.handle_keyStep key o w
  constructor
  · rw [payments_did]
    refine h.standing.step ho hs fun result he => ?_
    obtain ⟨rfl, hx⟩ := Sigma.mk.inj_iff.mp he
    exact Env.handle_claim_ok (eq_of_heq hx)
  · intro t' result hm
    have hm : .returned t' (.ok result) ∈ log := by simpa using hm
    have hkey := h.returned t' result hm
    have hstanding := h.standing
    rw [hkey] at hs hstanding
    exact hstanding.completed_stays ho hs

theorem PoolInv.returns {φ : Nat → Phase} {log : List CheckoutEntry} {t : Nat}
    {r : Except RunnerError TransactionResult} (h : PoolInv key w φ log) (hr : Ends r (φ t)) :
    PoolInv key w φ (log ++ [.returned t r]) := by
  constructor
  · rw [payments_returned]
    exact h.standing
  · intro t' result hm
    rcases List.mem_append.mp hm with hm | hm
    · exact h.returned t' result hm
    · obtain ⟨rfl, rfl⟩ : t = t' ∧ r = .ok result := by simpa [eq_comm] using hm
      exact h.standing.of_settled (hr result rfl)

/-- The invariant holds at the end of every schedule of checkouts under one key. -/
theorem checkouts_invariant {requests : List CheckoutRequest}
    (hkey : ∀ request ∈ requests, IdempotencyKey.ofRequest request = key) (ts : List Nat) :
    ∃ φ, PoolInv key
      (Pool.run env.handle.shared ts
        (Pool.start w (requests.map fun request => (executeCheckout runner request).run))).world φ
      (Pool.run env.handle.shared ts
        (Pool.start w (requests.map fun request => (executeCheckout runner request).run))).log := by
  have hstart : Pool.AllFollow (checkoutMonitor key) (fun _ => Ends) (fun _ => .waiting)
      (Pool.start w (requests.map fun request => (executeCheckout runner request).run)) := by
    intro t p hp
    obtain ⟨request, hreq, rfl⟩ := List.mem_map.mp (List.mem_of_getElem? hp)
    rw [← hkey request hreq]
    exact executeCheckout_follows
  refine (Pool.run_invariant (C := fun _ _ _ => True) (I := PoolInv key) ?_ ts
    (PoolInv.init key w) hstart Pool.stepsMeet_true).imp fun _ h => h.1
  intro w φ log t o x w' h ho _ hx
  obtain ⟨rfl, rfl⟩ := Handler.shared_eq_some.mp hx
  refine ⟨trivial, h.did ho, fun r hr => ?_⟩
  rw [List.append_cons]
  refine (h.did ho).returns (t := t) ?_
  rwa [Function.update_self]

/-! ## One payment, one result -/

def authorizes : Payment → Bool
  | (_, ⟨.authorize .., _⟩) => true
  | _ => false

def captures : Payment → Bool
  | (_, ⟨.capture .., _⟩) => true
  | _ => false

/-- What checkouts that pay at most once ask of the payment provider: one
authorization, one capture, the capture only after a granted authorization of the
same call. -/
structure PaysOnce (paid : List Payment) : Prop where
  authorize : paid.countP authorizes ≤ 1
  capture : paid.countP captures ≤ 1
  granted : ∀ pre post t pay x, paid = pre ++ (t, ⟨.capture pay, x⟩) :: post →
    ∃ request auth, (t, ⟨.authorize request, .ok auth⟩) ∈ pre ∧ auth.authorized = true

theorem PaysOnce.of_payments {t : Nat} {ps : List (Event Op.Ans)} (hps : Payments ps) :
    PaysOnce (ps.map (t, ·)) := by
  constructor
  · cases hps <;> simp [authorizes, List.countP_cons]
  · cases hps <;> simp [captures, List.countP_cons]
  · intro pre post t' pay x hpaid
    cases hps with
    | none => simp at hpaid
    | asked request y => rcases pre with _ | ⟨e, pre⟩ <;> simp at hpaid
    | captured request auth pay' y hok =>
        rcases pre with _ | ⟨e, pre⟩
        · simp at hpaid
        · obtain ⟨rfl, hpaid⟩ := List.cons.inj hpaid
          rcases pre with _ | ⟨e, pre⟩
          · obtain ⟨⟨rfl, -⟩, -⟩ : (t = t' ∧ _) ∧ _ := by simpa using hpaid
            exact ⟨request, auth, List.mem_cons_self, hok⟩
          · simp at hpaid

theorem Standing.paysOnce {φ : Nat → Phase} {paid : List Payment}
    {state : Option IdempotencyState} (h : Standing φ paid state) : PaysOnce paid := by
  obtain ⟨t, ps, hps, rfl⟩ := h.payments
  exact .of_payments hps

/-- **At once or not, a key pays once.**  Whatever the providers answer and
however the operations of any number of checkouts under one key interleave: the
payment provider is asked for at most one authorization and at most one capture,
the capture only after the same call's authorization was granted, and every
checkout that succeeds returns the same result. -/
theorem checkouts_pay_once (env : Env) (runner : Runner) (w : World)
    (requests : List CheckoutRequest)
    (hkey : ∀ request ∈ requests, IdempotencyKey.ofRequest request = key) (ts : List Nat) :
    let log := (Pool.run env.handle.shared ts (Pool.start w
      (requests.map fun request => (executeCheckout runner request).run))).log
    PaysOnce (payments log) ∧ ∀ t t' result result', .returned t (.ok result) ∈ log →
      .returned t' (.ok result') ∈ log → result = result' := by
  obtain ⟨φ, hinv⟩ := checkouts_invariant (w := w) hkey ts
  refine ⟨hinv.standing.paysOnce, ?_⟩
  intro t t' result result' h h'
  have hsame := (hinv.returned t result h).symm.trans (hinv.returned t' result' h')
  cases hsame
  rfl

/-- Two checkouts of the sample cart, turn by turn. -/
theorem checkouts_pay_once_pair :
    PaysOnce (payments (Pool.run Env.agreeable.handle.shared ((List.range 60).map (· % 2))
      (Pool.start Sample.world ([Sample.request "k", Sample.request "k"].map fun request =>
        (executeCheckout Sample.runner request).run))).log) := by
  have hkey : ∀ request ∈ [Sample.request "k", Sample.request "k"],
      IdempotencyKey.ofRequest request = ⟨"t", "m", "k"⟩ := by decide
  exact (checkouts_pay_once Env.agreeable Sample.runner Sample.world _ hkey _).1

end Orchestrator
