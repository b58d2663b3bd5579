/-
# `CommerceOrchestrator.Api.TenantWrites` — writes on behalf of a tenant

Payments, webhook registrations and incoming events are keyed by ids that say nothing of a
tenant.  The REST routes for payments compare the tenant of the body with the caller's, the
MCP tools compare nothing, and neither looks whose transaction it is; the other two routes
do not look at the caller.  `requests_unchanged_iff` says what a sequence of requests must
be for them to leave other tenants' things alone.
-/
import CommerceOrchestrator.Api.Orders
import CommerceOrchestrator.Runtime.Lifecycle

namespace Orchestrator

open Effect Prog

/-! ## Operations -/

inductive WriteOp
  | pay (o : PayOp)
  | unregister (id : String)
  | acceptOnce (messageId : String)
deriving DecidableEq

abbrev WriteOp.Ans : WriteOp → Type
  | .pay o => o.Ans
  | .unregister _ | .acceptOnce _ => Except StoreError Bool

structure WriteEnv extends PayEnv where
  unregisterFault : (n : Nat) → String → Option StoreError
  acceptFault : (n : Nat) → String → Option StoreError

structure WriteWorld where
  runner : World
  webhooks : InMemoryWebhookStore
  inbox : InboxDedupe

def WriteEnv.handle (env : WriteEnv) : Handler WriteOp.Ans WriteWorld
  | .pay o, w => ((env.toPayEnv.handle o w.runner).1,
      { w with runner := (env.toPayEnv.handle o w.runner).2 })
  | .unregister id, w =>
      let after := { w with runner := w.runner.tick, webhooks := (w.webhooks.unregister id).2 }
      match env.unregisterFault w.runner.clock id with
      | none => (.ok (w.webhooks.unregister id).1, after)
      | some e => (.error e, if e.tookEffect then after else { w with runner := w.runner.tick })
  | .acceptOnce messageId, w =>
      let after := { w with runner := w.runner.tick, inbox := (w.inbox.acceptOnce messageId).2 }
      match env.acceptFault w.runner.clock messageId with
      | none => (.ok (w.inbox.acceptOnce messageId).1, after)
      | some e => (.error e, if e.tookEffect then after else { w with runner := w.runner.tick })

/-! ## Requests -/

/-- A method of the facade. -/
def facadePayment (action : PaymentAction) (request : PaymentLifecycleRequest) :
    Prog WriteOp.Ans (Except FacadeError PaymentOperationResult) :=
  Except.mapError .runner <$> (action.method request).run.lower fun o => perform (WriteOp.pay o)

section Routes

variable (tenantId : String)

/-- What the three payment routes share. -/
def paymentRoute (action : PaymentAction) (req : PaymentLifecycleRequest) :
    Prog WriteOp.Ans (Except ApiError PaymentOperationResult) :=
  if tenantId ≠ req.tenantId then .ret (.error (.forbidden "tenant mismatch"))
  else Except.mapError .orchestrator <$> facadePayment action req

def capturePaymentRoute (req : PaymentLifecycleRequest) :
    Prog WriteOp.Ans (Except ApiError PaymentOperationResult) :=
  paymentRoute tenantId .capture req

def voidPaymentRoute (req : PaymentLifecycleRequest) :
    Prog WriteOp.Ans (Except ApiError PaymentOperationResult) :=
  paymentRoute tenantId .void req

def refundPaymentRoute (req : PaymentLifecycleRequest) :
    Prog WriteOp.Ans (Except ApiError PaymentOperationResult) :=
  paymentRoute tenantId .refund req

def PaymentAction.route : PaymentAction → PaymentLifecycleRequest →
    Prog WriteOp.Ans (Except ApiError PaymentOperationResult)
  | .capture => capturePaymentRoute tenantId
  | .void => voidPaymentRoute tenantId
  | .refund => refundPaymentRoute tenantId

end Routes

/-- Of a JSON object, the fields that are strings and those that are integers. -/
structure ToolArguments where
  strings : Arguments
  integers : Table String Int
deriving DecidableEq

def getI64 (args : Table String Int) (key : String) : Except String Int :=
  match args.lookup key with
  | some value => .ok value
  | none => .error ("missing required field: " ++ key)

def ToolArguments.payment (args : ToolArguments) : Except String PaymentLifecycleRequest := do
  let tenantId ← getStr args.strings "tenant_id"
  let merchantId ← getStr args.strings "merchant_id"
  let transactionId ← getStr args.strings "transaction_id"
  let amountMinor ← getI64 args.integers "amount_minor"
  let idempotencyKey ← getStr args.strings "idempotency_key"
  return { tenantId, merchantId, transactionId, amountMinor, idempotencyKey }

inductive ToolError
  | arguments (message : String)
  | facade (e : FacadeError)
deriving DecidableEq, Repr

/-- The tools `capture_payment`, `void_payment` and `refund_payment`. -/
def dispatchPayment (action : PaymentAction) (args : ToolArguments) :
    Prog WriteOp.Ans (Except ToolError PaymentOperationResult) :=
  match args.payment with
  | .error message => .ret (.error (.arguments message))
  | .ok request => Except.mapError .facade <$> facadePayment action request

def unregisterWebhook (id : String) : Prog WriteOp.Ans (Except ApiError Bool) :=
  Except.mapError (fun e => .orchestrator (.runner (.store e))) <$> perform (WriteOp.unregister id)

def acceptIncomingEvent (messageId : String) : Prog WriteOp.Ans (Except ApiError Bool) :=
  Except.mapError (fun e => .orchestrator (.runner (.store e))) <$>
    perform (WriteOp.acceptOnce messageId)

inductive WriteRequest
  | payment (action : PaymentAction) (req : PaymentLifecycleRequest)
  | toolPayment (action : PaymentAction) (args : ToolArguments)
  | unregisterWebhook (id : String)
  | acceptIncomingEvent (messageId : String)
deriving DecidableEq

inductive WriteResponse
  | payment (r : Except ApiError PaymentOperationResult)
  | toolPayment (r : Except ToolError PaymentOperationResult)
  | removed (r : Except ApiError Bool)
  | accepted (r : Except ApiError Bool)

/-- A request of a caller who authenticated as `tenantId`. -/
def WriteRequest.prog (tenantId : String) : WriteRequest → Prog WriteOp.Ans WriteResponse
  | .payment action req => .payment <$> action.route tenantId req
  | .toolPayment action args => .toolPayment <$> dispatchPayment action args
  | .unregisterWebhook id => .removed <$> Orchestrator.unregisterWebhook id
  | .acceptIncomingEvent messageId => .accepted <$> Orchestrator.acceptIncomingEvent messageId

/-- What a request leaves behind. -/
def WriteRequest.after (env : WriteEnv) (tenantId : String) (w : WriteWorld)
    (request : WriteRequest) : WriteWorld :=
  ((request.prog tenantId).run env.handle w).2

/-- What a sequence of requests leaves behind. -/
def requests (env : WriteEnv) (tenantId : String) (w : WriteWorld) (l : List WriteRequest) :
    WriteWorld :=
  l.foldl (WriteRequest.after env tenantId) w

/-! ## What a request does -/

section Effects

variable {env : WriteEnv} {t : String} {w : WriteWorld} {request : WriteRequest}

/-- What a request asks of the runner's payment methods. -/
def WriteRequest.asked (t : String) :
    WriteRequest → Option (PaymentAction × PaymentLifecycleRequest)
  | .payment action req => if t ≠ req.tenantId then none else some (action, req)
  | .toolPayment action args => args.payment.toOption.map fun request => (action, request)
  | _ => none

/-- The provider complies, and the new state of the transaction is put down. -/
structure Settled (env : WriteEnv) (w : World) (action : PaymentAction)
    (request : PaymentLifecycleRequest) : Prop where
  complied : ∃ r, env.lifecycle action w.clock request = .ok r ∧ r.success
  put : tookHold (env.toEnv.handle (.putPaymentState request.transactionId action.state) w.tick).1

/-- The request puts a transaction into a state. -/
def WriteRequest.Settles (env : WriteEnv) (t : String) (w : WriteWorld) (request : WriteRequest)
    (transactionId : String) (state : PaymentState) : Prop :=
  ∃ action req, request.asked t = some (action, req) ∧ Settled env w.runner action req ∧
    req.transactionId = transactionId ∧ action.state = state

/-- The request removes a webhook registration. -/
def WriteRequest.Removes (env : WriteEnv) (w : WriteWorld) (request : WriteRequest) (id : String) :
    Prop :=
  request = .unregisterWebhook id ∧ tookHold (env.handle (.unregister id) w).1

/-- The request takes note of a message id. -/
def WriteRequest.Notes (env : WriteEnv) (w : WriteWorld) (request : WriteRequest)
    (messageId : String) : Prop :=
  request = .acceptIncomingEvent messageId ∧ tookHold (env.handle (.acceptOnce messageId) w).1

/-- A payment leaves everything but the state of its transaction. -/
structure PaymentEffect (env : WriteEnv) (action : PaymentAction) (req : PaymentLifecycleRequest)
    (w w' : WriteWorld) : Prop where
  orders : w'.runner.orders = w.runner.orders
  webhooks : w'.webhooks = w.webhooks
  inbox : w'.inbox = w.inbox
  settled : Settled env w.runner action req → w'.runner.paymentStates =
    w.runner.paymentStates.put req.transactionId action.state
  unsettled : ¬ Settled env w.runner action req →
    w'.runner.paymentStates = w.runner.paymentStates

/-- What a payment method does once the provider has answered. -/
def lifecycleRest (action : PaymentAction) (req : PaymentLifecycleRequest) :
    Except PaymentError PaymentOperationResult →
      Prog PayOp.Ans (Except RunnerError PaymentOperationResult)
  | .error e => .ret (.error (.payment e))
  | .ok r =>
      if r.success then
        .op (.run (.putPaymentState req.transactionId action.state)) fun _ => .ret (.ok r)
      else .ret (.ok r)

theorem lifecycle_run (action : PaymentAction) (req : PaymentLifecycleRequest) :
    (lifecycle action req).run = .op (.provider action req) (lifecycleRest action req) := by
  refine congrArg (Prog.op (PayOp.provider action req)) (funext fun x => ?_)
  cases x with
  | error e => rfl
  | ok r =>
      show ExceptT.run (if r.success then _ else _) = if r.success then _ else _
      by_cases hs : r.success
      · rw [if_pos hs, if_pos hs]
        rfl
      · rw [if_neg hs, if_neg hs]
        rfl

theorem facadePayment_effect (action : PaymentAction) (req : PaymentLifecycleRequest) :
    PaymentEffect env action req w ((facadePayment action req).run env.handle w).2 := by
  rw [facadePayment, run_map, action.method_eq, lifecycle_run]
  show PaymentEffect env action req w
    (Prog.run env.handle (Prog.lower (fun o => perform (WriteOp.pay o))
      (lifecycleRest action req (env.lifecycle action w.runner.clock req)))
      { w with runner := w.runner.tick }).2
  have hidle : ¬ Settled env w.runner action req →
      PaymentEffect env action req w { w with runner := w.runner.tick } :=
    fun hno => ⟨rfl, rfl, rfl, fun h => absurd h hno, fun _ => rfl⟩
  cases hx : env.lifecycle action w.runner.clock req with
  | error e =>
      refine hidle ?_
      rintro ⟨⟨r, hr, -⟩, -⟩
      cases hx.symm.trans hr
  | ok r =>
      by_cases hs : r.success
      · rw [lifecycleRest, if_pos hs]
        show PaymentEffect env action req w
          { w with runner := (env.toEnv.handle
            (.putPaymentState req.transactionId action.state) w.runner.tick).2 }
        have hput : (env.toEnv.handle (.putPaymentState req.transactionId action.state)
            w.runner.tick).2.paymentStates =
            if tookHold (env.toEnv.handle (.putPaymentState req.transactionId action.state)
              w.runner.tick).1 then w.runner.paymentStates.put req.transactionId action.state
            else w.runner.paymentStates :=
          Env.handle_putPaymentState_paymentStates
        refine ⟨Env.handle_orders rfl, rfl, rfl, fun h => ?_, fun h => ?_⟩
        · exact hput.trans (if_pos h.put)
        · exact hput.trans (if_neg fun htook => h ⟨⟨r, hx, hs⟩, htook⟩)
      · rw [lifecycleRest, if_neg hs]
        refine hidle ?_
        rintro ⟨⟨r', hr, hs'⟩, -⟩
        cases hx.symm.trans hr
        exact hs hs'

/-- A request that asks for a payment does what the payment does. -/
theorem after_of_asked (env : WriteEnv) (w : WriteWorld) {action : PaymentAction}
    {req : PaymentLifecycleRequest} (h : request.asked t = some (action, req)) :
    PaymentEffect env action req w (request.after env t w) := by
  cases request with
  | payment action' req' =>
      rw [WriteRequest.asked] at h
      by_cases ht : t ≠ req'.tenantId
      · rw [if_pos ht] at h
        cases h
      · rw [if_neg ht] at h
        cases h
        have hroute : action.route t req = paymentRoute t action req := by cases action <;> rfl
        rw [WriteRequest.after, WriteRequest.prog, run_map, hroute, paymentRoute, if_neg ht, run_map]
        exact facadePayment_effect action req
  | toolPayment action' args =>
      rw [WriteRequest.asked] at h
      cases hargs : args.payment with
      | error message =>
          rw [hargs] at h
          cases h
      | ok req' =>
          rw [hargs] at h
          cases h
          rw [WriteRequest.after, WriteRequest.prog, run_map, dispatchPayment, hargs]
          show PaymentEffect env action req w ((_ <$> facadePayment action req).run env.handle w).2
          rw [run_map]
          exact facadePayment_effect action req
  | unregisterWebhook | acceptIncomingEvent => cases h

/-- The requests for payments. -/
def WriteRequest.IsPayment (request : WriteRequest) : Prop :=
  ∀ id messageId, request ≠ .unregisterWebhook id ∧ request ≠ .acceptIncomingEvent messageId

/-- A request for a payment that is refused does nothing. -/
theorem after_of_not_asked (hpay : request.IsPayment) (h : request.asked t = none) :
    request.after env t w = w := by
  cases request with
  | payment action req =>
      rw [WriteRequest.asked] at h
      by_cases ht : t ≠ req.tenantId
      · have hroute : action.route t req = paymentRoute t action req := by cases action <;> rfl
        rw [WriteRequest.after, WriteRequest.prog, run_map, hroute, paymentRoute, if_pos ht]
        rfl
      · rw [if_neg ht] at h
        cases h
  | toolPayment action args =>
      rw [WriteRequest.asked] at h
      cases hargs : args.payment with
      | error message =>
          rw [WriteRequest.after, WriteRequest.prog, run_map, dispatchPayment, hargs]
          rfl
      | ok req =>
          rw [hargs] at h
          cases h
  | unregisterWebhook id => exact absurd rfl (hpay id "").1
  | acceptIncomingEvent messageId => exact absurd rfl (hpay "" messageId).2

theorem handle_unregister (id : String) :
    (env.handle (.unregister id) w).2 =
      { w with
        runner := w.runner.tick
        webhooks := if tookHold (env.handle (.unregister id) w).1 then w.webhooks.erase id
          else w.webhooks } := by
  rw [WriteEnv.handle]
  cases env.unregisterFault w.runner.clock id with
  | none => rfl
  | some e =>
      obtain ⟨message, took⟩ := e
      cases took <;> rfl

theorem handle_acceptOnce (messageId : String) :
    (env.handle (.acceptOnce messageId) w).2 =
      { w with
        runner := w.runner.tick
        inbox := if tookHold (env.handle (.acceptOnce messageId) w).1 then
          insert messageId w.inbox else w.inbox } := by
  rw [WriteEnv.handle]
  cases env.acceptFault w.runner.clock messageId with
  | none => rfl
  | some e =>
      obtain ⟨message, took⟩ := e
      cases took <;> rfl

/-- What a request does, and that it does nothing else. -/
structure WriteEffect (env : WriteEnv) (t : String) (request : WriteRequest) (w w' : WriteWorld) :
    Prop where
  orders : w'.runner.orders = w.runner.orders
  settled : ∀ transactionId state, request.Settles env t w transactionId state →
    w'.runner.paymentStates.lookup transactionId = some state
  unsettled : ∀ transactionId, (∀ state, ¬ request.Settles env t w transactionId state) →
    w'.runner.paymentStates.lookup transactionId = w.runner.paymentStates.lookup transactionId
  removed : ∀ id, request.Removes env w id → w'.webhooks.lookup id = none
  kept : ∀ id, ¬ request.Removes env w id → w'.webhooks.lookup id = w.webhooks.lookup id
  noted : ∀ messageId, request.Notes env w messageId → messageId ∈ w'.inbox
  unnoted : ∀ messageId, ¬ request.Notes env w messageId →
    (messageId ∈ w'.inbox ↔ messageId ∈ w.inbox)

theorem not_settles (hasked : request.asked t = none) {transactionId : String}
    {state : PaymentState} : ¬ request.Settles env t w transactionId state := by
  rintro ⟨action, req, hasked', -⟩
  cases hasked.symm.trans hasked'

/-- What a request for a payment does. -/
theorem WriteEffect.of_payment {w' : WriteWorld} (hpay : request.IsPayment)
    (horders : w'.runner.orders = w.runner.orders)
    (hsettled : ∀ transactionId state, request.Settles env t w transactionId state →
      w'.runner.paymentStates.lookup transactionId = some state)
    (hunsettled : ∀ transactionId, (∀ state, ¬ request.Settles env t w transactionId state) →
      w'.runner.paymentStates.lookup transactionId = w.runner.paymentStates.lookup transactionId)
    (hwebhooks : w'.webhooks = w.webhooks) (hinbox : w'.inbox = w.inbox) :
    WriteEffect env t request w w' := by
  refine ⟨horders, hsettled, hunsettled, ?_, ?_, ?_, ?_⟩
  · exact fun id hr => absurd hr.1 (hpay id "").1
  · exact fun id _ => by rw [hwebhooks]
  · exact fun messageId hn => absurd hn.1 (hpay "" messageId).2
  · exact fun messageId _ => by rw [hinbox]

theorem payment_after_effect (hpay : request.IsPayment) :
    WriteEffect env t request w (request.after env t w) := by
  cases hasked : request.asked t with
  | none =>
      rw [after_of_not_asked hpay hasked]
      exact .of_payment hpay rfl (fun _ _ hs => absurd hs (not_settles hasked)) (fun _ _ => rfl)
        rfl rfl
  | some p =>
      obtain ⟨action, req⟩ := p
      have heffect := after_of_asked env w hasked
      have hsettles : ∀ transactionId state, request.Settles env t w transactionId state ↔
          Settled env w.runner action req ∧ req.transactionId = transactionId ∧
            action.state = state := by
        intro transactionId state
        refine ⟨?_, fun hs => ⟨action, req, hasked, hs⟩⟩
        rintro ⟨action', req', hasked', hs⟩
        cases hasked.symm.trans hasked'
        exact hs
      refine .of_payment hpay heffect.orders (fun transactionId state hs => ?_)
        (fun transactionId hs => ?_) heffect.webhooks heffect.inbox
      · obtain ⟨hset, rfl, rfl⟩ := (hsettles _ _).mp hs
        rw [heffect.settled hset]
        exact AList.lookup_insert _
      · by_cases hset : Settled env w.runner action req
        · rw [heffect.settled hset]
          refine AList.lookup_insert_ne fun hid => ?_
          exact hs action.state ((hsettles _ _).mpr ⟨hset, hid.symm, rfl⟩)
        · rw [heffect.unsettled hset]

theorem unregister_after_effect (id : String) :
    WriteEffect env t (.unregisterWebhook id) w ((WriteRequest.unregisterWebhook id).after env t w) := by
  have hafter : (WriteRequest.unregisterWebhook id).after env t w =
      (env.handle (.unregister id) w).2 := rfl
  rw [hafter, handle_unregister]
  refine ⟨rfl, fun _ _ hs => absurd hs (not_settles rfl), fun _ _ => rfl, ?_, ?_, ?_,
    fun _ _ => Iff.rfl⟩
  · rintro id' ⟨⟨⟩, htook⟩
    rw [if_pos htook]
    exact AList.lookup_erase _ _
  · intro id' hkept
    by_cases htook : tookHold (env.handle (.unregister id) w).1
    · rw [if_pos htook]
      refine AList.lookup_erase_ne fun hid => hkept ?_
      subst hid
      exact ⟨rfl, htook⟩
    · rw [if_neg htook]
  · rintro messageId ⟨⟨⟩, -⟩

theorem accept_after_effect (messageId : String) :
    WriteEffect env t (.acceptIncomingEvent messageId) w
      ((WriteRequest.acceptIncomingEvent messageId).after env t w) := by
  have hafter : (WriteRequest.acceptIncomingEvent messageId).after env t w =
      (env.handle (.acceptOnce messageId) w).2 := rfl
  rw [hafter, handle_acceptOnce]
  refine ⟨rfl, fun _ _ hs => absurd hs (not_settles rfl), fun _ _ => rfl, ?_, fun _ _ => rfl,
    ?_, ?_⟩
  · rintro id ⟨⟨⟩, -⟩
  · rintro messageId' ⟨⟨⟩, htook⟩
    rw [if_pos htook]
    exact Finset.mem_insert_self _ _
  · intro messageId' hun
    by_cases htook : tookHold (env.handle (.acceptOnce messageId) w).1
    · rw [if_pos htook, Finset.mem_insert, or_iff_right]
      rintro rfl
      exact hun ⟨rfl, htook⟩
    · rw [if_neg htook]

/-- **One request.** -/
theorem WriteRequest.after_effect (env : WriteEnv) (t : String) (request : WriteRequest)
    (w : WriteWorld) : WriteEffect env t request w (request.after env t w) := by
  cases request with
  | payment action req => exact payment_after_effect fun _ _ => ⟨nofun, nofun⟩
  | toolPayment action args => exact payment_after_effect fun _ _ => ⟨nofun, nofun⟩
  | unregisterWebhook id => exact unregister_after_effect id
  | acceptIncomingEvent messageId => exact accept_after_effect messageId

/-! ## Other tenants -/

/-- What is another tenant's is as it was: the payment states of the transactions its orders
are of, its webhook registrations, and the answers to its incoming events.  `events` says
whose event a message id names. -/
structure Unchanged (events : String → String → Prop) (t : String) (w w' : WriteWorld) : Prop where
  payments : ∀ id order, w.runner.orders.lookup id = some order → order.tenantId ≠ t →
    w'.runner.paymentStates.lookup order.transactionId =
      w.runner.paymentStates.lookup order.transactionId
  webhooks : ∀ id registration, registration.tenantId ≠ t →
    (w'.webhooks.lookup id = some registration ↔ w.webhooks.lookup id = some registration)
  events : ∀ u messageId, u ≠ t → events u messageId →
    (w'.inbox.acceptOnce messageId).1 = (w.inbox.acceptOnce messageId).1

/-- What a request does, it does to what is its tenant's or in that state already. -/
structure WriteRequest.Own (env : WriteEnv) (events : String → String → Prop) (t : String)
    (w : WriteWorld) (request : WriteRequest) : Prop where
  payments : ∀ transactionId state, request.Settles env t w transactionId state →
    ∀ id order, w.runner.orders.lookup id = some order → order.transactionId = transactionId →
      order.tenantId = t ∨ w.runner.paymentStates.lookup transactionId = some state
  webhooks : ∀ id, request.Removes env w id →
    ∀ registration, w.webhooks.lookup id = some registration → registration.tenantId = t
  events : ∀ messageId, request.Notes env w messageId →
    ∀ u, events u messageId → u = t ∨ messageId ∈ w.inbox

/-- Every request of a sequence is such. -/
def AllOwn (env : WriteEnv) (events : String → String → Prop) (t : String) :
    WriteWorld → List WriteRequest → Prop
  | _, [] => True
  | w, request :: rest =>
      request.Own env events t w ∧ AllOwn env events t (request.after env t w) rest

variable {events : String → String → Prop} {w' w'' : WriteWorld}

theorem Unchanged.refl : Unchanged events t w w :=
  ⟨fun _ _ _ _ => rfl, fun _ _ _ => Iff.rfl, fun _ _ _ _ => rfl⟩

theorem Unchanged.trans (h : Unchanged events t w w') (horders : w'.runner.orders = w.runner.orders)
    (h' : Unchanged events t w' w'') : Unchanged events t w w'' where
  payments id order ho ht :=
    (h'.payments id order (horders ▸ ho) ht).trans (h.payments id order ho ht)
  webhooks id registration ht := (h'.webhooks id registration ht).trans (h.webhooks id registration ht)
  events u messageId hu hm := (h'.events u messageId hu hm).trans (h.events u messageId hu hm)

theorem Unchanged.symm (h : Unchanged events t w w')
    (horders : w'.runner.orders = w.runner.orders) : Unchanged events t w' w where
  payments id order ho ht := (h.payments id order (horders ▸ ho) ht).symm
  webhooks id registration ht := (h.webhooks id registration ht).symm
  events u messageId hu hm := (h.events u messageId hu hm).symm

theorem acceptOnce_fst_iff {inbox inbox' : InboxDedupe} {messageId : String} :
    (inbox'.acceptOnce messageId).1 = (inbox.acceptOnce messageId).1 ↔
      (messageId ∈ inbox' ↔ messageId ∈ inbox) := by
  show decide (messageId ∉ inbox') = decide (messageId ∉ inbox) ↔ _
  rw [decide_eq_decide, not_iff_not]

/-- **One request** leaves other tenants' things alone exactly if it is its tenant's own. -/
theorem WriteEffect.unchanged_iff (h : WriteEffect env t request w w') :
    Unchanged events t w w' ↔ request.Own env events t w := by
  constructor
  · intro hun
    refine ⟨fun transactionId state hs id order ho hid => ?_, fun id hr registration hreg => ?_,
      fun messageId hn u hu => ?_⟩
    · subst hid
      refine or_iff_not_imp_left.mpr fun ht => ?_
      rw [← hun.payments id order ho ht]
      exact h.settled _ _ hs
    · by_contra ht
      have hlookup := (hun.webhooks id registration ht).mpr hreg
      rw [h.removed id hr] at hlookup
      cases hlookup
    · refine or_iff_not_imp_left.mpr fun ht => ?_
      exact (acceptOnce_fst_iff.mp (hun.events u messageId ht hu)).mp (h.noted messageId hn)
  · intro hown
    refine ⟨fun id order ho ht => ?_, fun id registration ht => ?_, fun u messageId hu hm => ?_⟩
    · by_cases hs : ∃ state, request.Settles env t w order.transactionId state
      · obtain ⟨state, hs⟩ := hs
        rw [h.settled _ _ hs]
        exact ((hown.payments _ _ hs id order ho rfl).resolve_left ht).symm
      · exact h.unsettled _ fun state hs' => hs ⟨state, hs'⟩
    · by_cases hr : request.Removes env w id
      · rw [h.removed id hr]
        exact ⟨fun hnone => (nomatch hnone), fun hreg => absurd (hown.webhooks id hr _ hreg) ht⟩
      · rw [h.kept id hr]
    · rw [acceptOnce_fst_iff]
      by_cases hn : request.Notes env w messageId
      · exact ⟨fun _ => (hown.events messageId hn u hm).resolve_left hu,
          fun _ => h.noted messageId hn⟩
      · exact h.unnoted messageId hn

/-- **Sequences.**  After every request of a sequence other tenants' things are as they were
before the first exactly if every request is its tenant's own when it comes. -/
theorem requests_unchanged_iff (env : WriteEnv) (events : String → String → Prop) (t : String)
    (w : WriteWorld) (l : List WriteRequest) :
    (∀ l', l' <+: l → Unchanged events t w (requests env t w l')) ↔ AllOwn env events t w l := by
  induction l generalizing w with
  | nil =>
      refine ⟨fun _ => trivial, fun _ l' hl' => ?_⟩
      rw [List.prefix_nil.mp hl']
      exact .refl
  | cons request rest ih =>
      have heffect := request.after_effect env t w
      rw [AllOwn, ← heffect.unchanged_iff, ← ih]
      constructor
      · intro h
        have hone : Unchanged events t w (request.after env t w) :=
          h [request] (List.cons_prefix_cons.mpr ⟨rfl, List.nil_prefix⟩)
        refine ⟨hone, fun l' hl' => ?_⟩
        have hboth := h (request :: l') (List.cons_prefix_cons.mpr ⟨rfl, hl'⟩)
        exact (hone.symm heffect.orders).trans heffect.orders.symm hboth
      · rintro ⟨hone, hrest⟩ l' hl'
        cases l' with
        | nil => exact .refl
        | cons request' l' =>
            obtain ⟨rfl, htail⟩ := List.cons_prefix_cons.mp hl'
            exact hone.trans heffect.orders (hrest l' htail)

end Effects

namespace Sample

/-- The captured transaction `txn_9` is of an order of the tenant `b`. -/
def soldWorld : WriteWorld where
  runner := { World.empty with
    orders := InMemoryOrderStore.put ∅ { bareOrder "ord_11" "b" with transactionId := "txn_9" }
    paymentStates := InMemoryPaymentStateStore.put ∅ "txn_9" .captured }
  webhooks := ∅
  inbox := ∅

def writeEnv : WriteEnv where
  toPayEnv := .agreeable
  unregisterFault _ _ := none
  acceptFault _ _ := none

/-- The tenant `a` refunds it, in its own name. -/
def foreignRefund : WriteRequest := .payment .refund ⟨"a", "m", "txn_9", 100, "k"⟩

end Sample

/-- The refund of a transaction of another tenant, over REST. -/
theorem foreign_refund_lands :
    ¬ ∀ (env : WriteEnv) (events : String → String → Prop) (t : String) (w : WriteWorld)
        (l : List WriteRequest), Unchanged events t w (requests env t w l) := by
  intro h
  have hun := h Sample.writeEnv (fun _ _ => False) "a" Sample.soldWorld [Sample.foreignRefund]
  have hstate := hun.payments "ord_11" { bareOrder "ord_11" "b" with transactionId := "txn_9" }
    rfl (by decide)
  exact absurd hstate (by decide)

end Orchestrator
