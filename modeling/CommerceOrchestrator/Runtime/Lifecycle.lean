/-
# `CommerceOrchestrator.Runtime.Lifecycle` — capture, void and refund on request

The three payment operations a caller can ask for by transaction.  They share one
body: ask the provider, and if it did what it was asked record the new state of
the transaction.  The request carries an idempotency key as a checkout does, but
nothing here claims it, so a duplicate has no second effect exactly if there is
no duplicate.

Calls of every kind run at once: cart commands and checkouts as in
`Runtime.Interleaving`, with their operations among those of `PayOp`.
-/
import CommerceOrchestrator.Runtime.Charging
import CommerceOrchestrator.Runtime.Interleaving

namespace Orchestrator

open Effect Prog

/-! ## Operations -/

inductive PaymentAction
  | capture
  | void
  | refund
deriving DecidableEq, Repr

/-- The state of a transaction after the operation. -/
def PaymentAction.state : PaymentAction → PaymentState
  | .capture => .captured
  | .void => .voided
  | .refund => .refunded

/-- An operation of the runner's other procedures, or a lifecycle method of the
payment provider. -/
inductive PayOp
  | run (o : Op)
  | provider (action : PaymentAction) (request : PaymentLifecycleRequest)
deriving DecidableEq

abbrev PayOp.Ans : PayOp → Type
  | .run o => o.Ans
  | .provider .. => Except PaymentError PaymentOperationResult

abbrev PayRun := ExceptT RunnerError (Prog PayOp.Ans)

/-- What the program does not decide, the two further methods of the payment provider
included. -/
structure PayEnv extends Env where
  void : (n : Nat) → PaymentLifecycleRequest → Except PaymentError PaymentOperationResult
  refund : (n : Nat) → PaymentLifecycleRequest → Except PaymentError PaymentOperationResult

def PayEnv.lifecycle (env : PayEnv) :
    PaymentAction → Nat → PaymentLifecycleRequest → Except PaymentError PaymentOperationResult
  | .capture => env.capture
  | .void => env.void
  | .refund => env.refund

def PayEnv.handle (env : PayEnv) : Handler PayOp.Ans World
  | .run o, w => env.toEnv.handle o w
  | .provider action request, w => (env.lifecycle action w.clock request, w.tick)

/-- As `Env.agreeable`. -/
def PayEnv.agreeable : PayEnv :=
  { Env.agreeable with
    void := fun _ _ => .ok ⟨true, "void"⟩
    refund := fun _ _ => .ok ⟨true, "refund"⟩ }

/-! ## Procedures -/

/-- Ask the provider, and record the state of the transaction if it complied. -/
def lifecycle (action : PaymentAction) (request : PaymentLifecycleRequest) :
    PayRun PaymentOperationResult := do
  let r ← ExceptT.mk
    (Except.mapError RunnerError.payment <$> perform (PayOp.provider action request))
  if r.success then
    let _ ← ExceptT.lift
      (perform (PayOp.run (.putPaymentState request.transactionId action.state)))
  return r

def capturePayment (request : PaymentLifecycleRequest) : PayRun PaymentOperationResult :=
  lifecycle .capture request

def voidPayment (request : PaymentLifecycleRequest) : PayRun PaymentOperationResult :=
  lifecycle .void request

def refundPayment (request : PaymentLifecycleRequest) : PayRun PaymentOperationResult :=
  lifecycle .refund request

/-- The method of the runner for each operation. -/
def PaymentAction.method : PaymentAction → PaymentLifecycleRequest → PayRun PaymentOperationResult
  | .capture => capturePayment
  | .void => voidPayment
  | .refund => refundPayment

theorem PaymentAction.method_eq (action : PaymentAction) : action.method = lifecycle action := by
  cases action <;> rfl

/-! ## Calls -/

/-- A cart command or a checkout, or a lifecycle request. -/
inductive PayCall
  | session (call : Call)
  | lifecycle (action : PaymentAction) (request : PaymentLifecycleRequest)
deriving DecidableEq

inductive PayOutcome
  | session (out : Outcome)
  | lifecycle (action : PaymentAction) (request : PaymentLifecycleRequest)
      (r : Except RunnerError PaymentOperationResult)

def PayCall.prog (runner : Runner) : PayCall → Prog PayOp.Ans PayOutcome
  | .session call =>
      (call.prog runner).lower (fun o => perform (PayOp.run o)) >>= fun out => .ret (.session out)
  | .lifecycle action request =>
      (action.method request).run >>= fun r => .ret (.lifecycle action request r)

/-- Calls at once: their operations in the order of the schedule `ts`. -/
def payAtOnce (env : PayEnv) (runner : Runner) (calls : List PayCall) (ts : List Nat)
    (w : World) : Pool PayOp.Ans World PayOutcome :=
  Pool.run env.handle.shared ts (Pool.start w (calls.map (·.prog runner)))

abbrev PayEntry := Entry PayOp.Ans PayOutcome

/-! ## What each call asks of the payment provider -/

/-- A call of the payment provider. -/
inductive ProviderCall
  | authorize (request : CheckoutRequest)
  | lifecycle (action : PaymentAction) (request : PaymentLifecycleRequest)
deriving DecidableEq

/-- The provider call an operation makes, if it makes one. -/
def PayOp.asks : PayOp → Option ProviderCall
  | .run (.authorize request) => some (.authorize request)
  | .run (.capture request) => some (.lifecycle .capture request)
  | .run _ => none
  | .provider action request => some (.lifecycle action request)

theorem PayOp.asks_of_not_pays {o : Op} (h : ¬ o.pays) : (PayOp.run o).asks = none := by
  cases o <;> first | rfl | exact absurd rfl h

/-- The call a thread runs, and whether it has asked the provider before. -/
structure PayProgress where
  call : PayCall
  asked : Bool

/-- What a call may ask next. -/
inductive PayProgress.MayAsk : PayProgress → ProviderCall → Prop
  | lifecycle (action : PaymentAction) (request : PaymentLifecycleRequest) :
      MayAsk ⟨.lifecycle action request, false⟩ (.lifecycle action request)
  | authorize (request : CheckoutRequest) :
      MayAsk ⟨.session (.checkout request), false⟩ (.authorize request)
  | capture (request : CheckoutRequest) (cart : CartProjection) (committed : CommitRecord) :
      MayAsk ⟨.session (.checkout request), true⟩
        (.lifecycle .capture (captureRequest request cart committed))

/-- A lifecycle call asks once; a checkout asks for an authorization and then for a
capture; a cart command does not ask. -/
def payMonitor : Monitor PayOp.Ans PayProgress where
  allow o q :=
    (∀ c, o.asks = some c → q.MayAsk c) ∧
      ∀ action request, o = .provider action request → q.call = .lifecycle action request
  next o q _ := { q with asked := q.asked || o.asks.isSome }

/-- The same for the runner's own operations. -/
def chargeMonitor : Monitor Op.Ans PayProgress where
  allow o q := ∀ c, (PayOp.run o).asks = some c → q.MayAsk c
  next o q _ := { q with asked := q.asked || (PayOp.run o).asks.isSome }

theorem chargeMonitor_idle {o : Op} {q : PayProgress} {x : o.Ans} (h : ¬ o.pays) :
    chargeMonitor.allow o q ∧ chargeMonitor.next o q x = q := by
  have ho := PayOp.asks_of_not_pays h
  exact ⟨fun c hc => (nomatch ho.symm.trans hc), by simp [chargeMonitor, ho]⟩

theorem PaymentShape.accepted {runner : Runner} {request : CheckoutRequest}
    {tr : List (Event Op.Ans)} (h : PaymentShape runner request tr) :
    chargeMonitor.Accepts (fun _ => True) tr ⟨.session (.checkout request), false⟩ := by
  have idle {tr : List (Event Op.Ans)} {q : PayProgress} {P : PayProgress → Prop}
      (htr : ∀ e ∈ tr, ¬ e.1.pays) (hP : P q) : chargeMonitor.Accepts P tr q :=
    Monitor.Accepts.idle (fun e he => chargeMonitor_idle (htr e he)) hP
  cases h with
  | unpaid hno => exact idle hno trivial
  | authorized cart x _ hg hr =>
      refine Monitor.accepts_append.mpr (idle hg ?_)
      refine ⟨?_, fun _ => idle hr trivial⟩
      rintro _ ⟨⟩
      exact .authorize request
  | captured cart auth committed y _ _ hg hr =>
      refine Monitor.accepts_append.mpr (idle hg ?_)
      refine ⟨?_, fun _ => ⟨fun c hc => (nomatch hc), fun _ => ⟨?_, fun _ => idle hr trivial⟩⟩⟩
      · rintro _ ⟨⟩
        exact .authorize request
      · rintro _ ⟨⟩
        exact .capture request cart committed

theorem Call.prog_charges (runner : Runner) (call : Call) :
    (call.prog runner).Follows chargeMonitor (fun _ _ => True) ⟨.session call, false⟩ := by
  refine Follows.of_trace fun tr out h => ?_
  have hpath := Call.prog_trace h
  cases call with
  | checkout request =>
      obtain ⟨r, t₁, t₂, rfl, ht, rfl, rfl⟩ := trace_bind.mp h
      rw [List.append_nil]
      exact (executeCheckout_trace ht).payments.accepted
  | cart command cartId =>
      obtain ⟨r, t₁, t₂, rfl, ht, rfl, rfl⟩ := trace_bind.mp h
      rw [List.append_nil]
      refine Monitor.Accepts.idle (fun e he => chargeMonitor_idle fun hp => ?_) trivial
      have hc := dispatchCartCommand_carts ht e he
      obtain ⟨o, x⟩ := e
      cases o <;> first | exact Bool.false_ne_true hp | exact Bool.false_ne_true hc

theorem lifecycle_follows (action : PaymentAction) (request : PaymentLifecycleRequest) :
    (lifecycle action request).run.Follows payMonitor
      (fun _ q => q.call = .lifecycle action request) ⟨.lifecycle action request, false⟩ := by
  refine ⟨⟨?_, ?_⟩, fun x _ => ?_⟩
  · rintro _ ⟨⟩
    exact .lifecycle action request
  · rintro _ _ ⟨⟩
    rfl
  · cases x with
    | error e => exact rfl
    | ok r =>
        show Follows _ _ (ExceptT.run (if r.success then _ else _)) _
        split
        · exact ⟨⟨fun c hc => (nomatch hc), fun _ _ hc => (nomatch hc)⟩, fun _ _ => rfl⟩
        · exact rfl

/-- What a call returns is about the request it was given. -/
def PayOutcome.Answers (out : PayOutcome) (q : PayProgress) : Prop :=
  ∀ action request r, out = .lifecycle action request r → q.call = .lifecycle action request

/-- **Every call follows the monitor.** -/
theorem PayCall.prog_follows (runner : Runner) (call : PayCall) :
    (call.prog runner).Follows payMonitor PayOutcome.Answers ⟨call, false⟩ := by
  cases call with
  | lifecycle action request =>
      refine follows_bind.mpr ?_
      rw [PaymentAction.method_eq]
      refine (lifecycle_follows action request).mono fun r q hq => ?_
      rintro _ _ _ ⟨⟩
      exact hq
  | session call =>
      refine follows_bind.mpr ?_
      refine (Follows.lower id (fun o q ho => ?_) (Call.prog_charges runner call)).mono
        fun out q _ _ _ _ he => (nomatch he)
      exact ⟨⟨ho, fun _ _ he => (nomatch he)⟩, fun x _ => ⟨trivial, rfl⟩⟩

/-! ## A pool of calls -/

/-- The call a thread runs. -/
def threadPayCall (calls : List PayCall) (t : Nat) : PayCall :=
  calls.getD t (.session (.cart (.getCart ⟨⟨⟨0⟩⟩⟩) none))

section Threads

variable {runner : Runner} {calls : List PayCall} {t : Nat}

theorem threadPayCall_of_call {call : PayCall} (h : calls[t]? = some call) :
    threadPayCall calls t = call := by
  rw [threadPayCall, List.getD_eq_getElem?_getD, h]
  rfl

theorem threadPayCall_lifecycle {action : PaymentAction} {request : PaymentLifecycleRequest}
    (h : threadPayCall calls t = .lifecycle action request) :
    calls[t]? = some (.lifecycle action request) := by
  rw [threadPayCall, List.getD_eq_getElem?_getD] at h
  cases hc : calls[t]? with
  | none =>
      rw [hc] at h
      cases h
  | some call =>
      rw [hc] at h
      exact congrArg some h

theorem payAtOnce_start {w : World} :
    Pool.AllFollow payMonitor (fun _ => PayOutcome.Answers)
      (fun t => ⟨threadPayCall calls t, false⟩) (Pool.start w (calls.map (·.prog runner))) := by
  intro t p hp
  rw [Pool.start, List.getElem?_map] at hp
  obtain ⟨call, hcall, rfl⟩ := Option.map_eq_some_iff.mp hp
  have hfollows := call.prog_follows runner
  rwa [← threadPayCall_of_call hcall] at hfollows ⊢

end Threads

/-! ## Duplicates -/

/-- What makes two lifecycle requests the same: everything but the amount. -/
structure RequestIdentity where
  action : PaymentAction
  tenantId : String
  merchantId : String
  transactionId : String
  idempotencyKey : String
deriving DecidableEq, Repr

def PaymentLifecycleRequest.identity (request : PaymentLifecycleRequest) (action : PaymentAction) :
    RequestIdentity :=
  ⟨action, request.tenantId, request.merchantId, request.transactionId, request.idempotencyKey⟩

/-- The lifecycle operation an entry records, with the thread that asked for it. -/
def lifecycleEntry : PayEntry → Option (Nat × RequestIdentity)
  | .did t ⟨.provider action request, _⟩ => some (t, request.identity action)
  | _ => none

/-- Requests for one thing have one effect: the provider is asked for it once, and all
of them return the same. -/
structure OneEffect (log : List PayEntry) : Prop where
  once : (log.filterMap lifecycleEntry).Pairwise fun p p' => p.2 ≠ p'.2
  original : ∀ t t' action action' request request' r r', t ≠ t' →
    .returned t (.lifecycle action request r) ∈ log →
    .returned t' (.lifecycle action' request' r') ∈ log →
    request.identity action = request'.identity action' → r = r'

/-- The lifecycle requests among the calls that are run are pairwise different. -/
def NoDuplicate (calls : List PayCall) (ts : List Nat) : Prop :=
  ∀ t ∈ ts, ∀ t' ∈ ts, t ≠ t' → ∀ action action' request request',
    calls[t]? = some (.lifecycle action request) →
    calls[t']? = some (.lifecycle action' request') →
    request.identity action ≠ request'.identity action'

/-- Where a pool of calls stands: every lifecycle operation was asked for by the thread
that was given the request, and by each thread once. -/
structure AskedOnce (calls : List PayCall) (φ : Nat → PayProgress) (log : List PayEntry) : Prop where
  call : ∀ t, (φ t).call = threadPayCall calls t
  given : ∀ p ∈ log.filterMap lifecycleEntry, (φ p.1).asked = true ∧
    ∃ action request, calls[p.1]? = some (.lifecycle action request) ∧
      p.2 = request.identity action
  apart : (log.filterMap lifecycleEntry).Pairwise fun p p' => p.1 ≠ p'.1
  returned : ∀ t action request r, .returned t (.lifecycle action request r) ∈ log →
    calls[t]? = some (.lifecycle action request)

section Run

variable {env : PayEnv} {runner : Runner} {calls : List PayCall} {ts : List Nat} {w : World}
  {φ : Nat → PayProgress} {log : List PayEntry} {t : Nat}

theorem AskedOnce.did {o : PayOp} {x : o.Ans} (h : AskedOnce calls φ log) (ho : payMonitor.allow o (φ t)) :
    AskedOnce calls (Function.update φ t (payMonitor.next o (φ t) x)) (log ++ [.did t ⟨o, x⟩]) := by
  have hcall : ∀ t', (Function.update φ t (payMonitor.next o (φ t) x) t').call = (φ t').call :=
    Pool.update_keeps PayProgress.call rfl
  have hasked : ∀ t', (φ t').asked = true →
      (Function.update φ t (payMonitor.next o (φ t) x) t').asked = true := by
    intro t' ha
    by_cases ht : t' = t
    · subst ht
      rw [Function.update_self]
      exact Bool.or_eq_true_iff.mpr (Or.inl ha)
    · rwa [Function.update_of_ne ht]
  constructor
  · exact fun t' => (hcall t').trans (h.call t')
  · intro p hp
    rw [List.filterMap_append] at hp
    rcases List.mem_append.mp hp with hp | hp
    · obtain ⟨ha, hgiven⟩ := h.given p hp
      exact ⟨hasked p.1 ha, hgiven⟩
    · cases o with
      | run o => cases hp
      | provider action request =>
          obtain rfl := List.mem_singleton.mp hp
          refine ⟨?_, action, request, ?_, rfl⟩
          · rw [Function.update_self]
            exact Bool.or_true _
          · exact threadPayCall_lifecycle ((h.call t).symm.trans (ho.2 action request rfl))
  · rw [List.filterMap_append]
    refine List.pairwise_append.mpr ⟨h.apart, ?_, fun p hp p' hp' => ?_⟩
    · cases o with
      | run o => exact List.Pairwise.nil
      | provider action request => exact List.pairwise_singleton _ _
    · cases o with
      | run o => cases hp'
      | provider action request =>
          obtain rfl := List.mem_singleton.mp hp'
          -- who has asked may not ask again
          rintro rfl
          have hold : (φ p.1).asked = true := (h.given p hp).1
          have hnew : (φ p.1).asked = false := by
            have hmay := ho.1 _ rfl
            have hc := ho.2 action request rfl
            generalize φ p.1 = q at hmay hc
            cases hmay with
            | lifecycle => rfl
            | capture => cases hc
          exact Bool.false_ne_true (hnew.symm.trans hold)
  · intro t' action request r hm
    exact h.returned t' action request r (by simpa using hm)

theorem AskedOnce.returns {out : PayOutcome} (h : AskedOnce calls φ log) (hout : out.Answers (φ t)) :
    AskedOnce calls φ (log ++ [.returned t out]) := by
  have hlog : (log ++ [Entry.returned t out]).filterMap lifecycleEntry =
      log.filterMap lifecycleEntry := by
    rw [List.filterMap_append]
    exact List.append_nil _
  constructor
  · exact h.call
  · rw [hlog]
    exact h.given
  · rw [hlog]
    exact h.apart
  · intro t' action request r hm
    rcases List.mem_append.mp hm with hm | hm
    · exact h.returned t' action request r hm
    · obtain ⟨rfl, rfl⟩ := Entry.returned.inj (List.mem_singleton.mp hm)
      exact threadPayCall_lifecycle ((h.call t').symm.trans (hout action request r rfl))

/-- **Where every run of calls at once stands.** -/
theorem payAtOnce_asked (env : PayEnv) (runner : Runner) (calls : List PayCall) (ts : List Nat)
    (w : World) : ∃ φ, AskedOnce calls φ (payAtOnce env runner calls ts w).log := by
  obtain ⟨φ, h, -⟩ := Pool.run_invariant (h := env.handle.shared) (C := fun _ _ _ => True)
    (I := fun _ φ log => AskedOnce calls φ log)
    (by
      intro w φ log t o x w' h ho _ _
      have hdid := h.did (x := x) ho
      refine ⟨trivial, hdid, fun out hout => ?_⟩
      rw [List.append_cons]
      refine hdid.returns ?_
      rwa [Function.update_self])
    ts
    { call := fun _ => rfl
      given := by simp [Pool.start]
      apart := by simp [Pool.start]
      returned := by simp [Pool.start] }
    payAtOnce_start Pool.stepsMeet_true
  exact ⟨φ, h⟩

theorem thread_of_mem_payAtOnce {e : PayEntry} (h : e ∈ (payAtOnce env runner calls ts w).log) :
    e.thread ∈ ts :=
  (Pool.thread_of_mem_run h).resolve_left List.not_mem_nil

theorem thread_of_lifecycle {p : Nat × RequestIdentity}
    (h : p ∈ (payAtOnce env runner calls ts w).log.filterMap lifecycleEntry) : p.1 ∈ ts := by
  obtain ⟨e, he, hp⟩ := List.mem_filterMap.mp h
  have hthread : e.thread = p.1 := by
    unfold lifecycleEntry at hp
    split at hp <;> cases hp
    rfl
  exact hthread ▸ thread_of_mem_payAtOnce he

/-- A lifecycle request that is run reaches the provider. -/
theorem lifecycle_reaches {action : PaymentAction} {request : PaymentLifecycleRequest}
    (ht : t ∈ ts) (hc : calls[t]? = some (.lifecycle action request)) :
    (t, request.identity action) ∈
      (payAtOnce env runner calls ts w).log.filterMap lifecycleEntry := by
  have hp : (Pool.start w (calls.map (·.prog runner))).threads[t]? =
      some ((PayCall.lifecycle action request).prog runner) := by
    rw [Pool.start, List.getElem?_map, hc]
    rfl
  rw [PayCall.prog, PaymentAction.method_eq] at hp
  obtain ⟨x, hx⟩ := Pool.did_of_mem (h := env.handle) (o := .provider action request) ht hp
  exact List.mem_filterMap.mpr ⟨_, hx, rfl⟩

/-- **Duplicates.**  In a run of calls at once, requests for one thing have one effect
exactly if no two of the lifecycle requests that are run are for one thing. -/
theorem payAtOnce_oneEffect_iff (env : PayEnv) (runner : Runner) (calls : List PayCall)
    (ts : List Nat) (w : World) :
    OneEffect (payAtOnce env runner calls ts w).log ↔ NoDuplicate calls ts := by
  obtain ⟨φ, hasked⟩ := payAtOnce_asked env runner calls ts w
  constructor
  · intro h t ht t' ht' hne action action' request request' hc hc' hid
    have : Std.Symm fun p p' : Nat × RequestIdentity => p.2 ≠ p'.2 := ⟨fun _ _ hp => hp.symm⟩
    refine h.once.forall (lifecycle_reaches ht hc) (lifecycle_reaches ht' hc') ?_ hid
    exact fun he => hne (congrArg Prod.fst he)
  · intro h
    constructor
    · refine hasked.apart.imp_of_mem fun {p p'} hp hp' hne => ?_
      obtain ⟨-, action, request, hc, hid⟩ := hasked.given p hp
      obtain ⟨-, action', request', hc', hid'⟩ := hasked.given p' hp'
      rw [hid, hid']
      exact h p.1 (thread_of_lifecycle hp) p'.1 (thread_of_lifecycle hp') hne action action'
        request request' hc hc'
    · intro t t' action action' request request' r r' hne hm hm' hid
      exact absurd hid (h t (thread_of_mem_payAtOnce hm) t' (thread_of_mem_payAtOnce hm') hne
        action action' request request' (hasked.returned t action request r hm)
        (hasked.returned t' action' request' r' hm'))

end Run

/-- A refund in full of the transaction `txn_9`. -/
def Sample.refund : PaymentLifecycleRequest := ⟨"t", "m", "txn_9", 100, "k"⟩

/-- The refund sent twice is carried out twice. -/
theorem refund_repeats :
    ¬ ∀ (env : PayEnv) (runner : Runner) (calls : List PayCall) (ts : List Nat) (w : World),
      OneEffect (payAtOnce env runner calls ts w).log := by
  intro h
  have honce := (h PayEnv.agreeable Sample.runner
    [.lifecycle .refund Sample.refund, .lifecycle .refund Sample.refund] [0, 0, 1, 1]
    World.empty).once
  revert honce
  decide

end Orchestrator
