/-
# `CommerceOrchestrator.Runtime.Accounting` — what is on record once money moved

After a successful capture the runner still has to put the order, fetch the
receipt, finalize the stock, announce the order, settle the key and record the
payment state.  `executeCheckout_accounts_iff` says when all of it is on record
at the end, whatever fails: exactly when nothing does.

The statement is about reachable worlds.  What is used of them is that ids drawn
from now on are on no record yet (`FreshIds`).
-/
import Mathlib
import CommerceOrchestrator.Runtime.Booking

namespace Orchestrator

open Effect Prog

variable {env : Env} {runner : Runner} {request : CheckoutRequest} {w w' v : World}
  {tr : List (Event Op.Ans)} {r : Except RunnerError TransactionResult}

/-! ## Drawn ids -/

/-- `id` is the tag followed by a UUID drawn before now. -/
def Drawn (tag : String) (w : World) (id : String) : Prop :=
  ∃ n < w.clock, id = tag ++ (⟨n⟩ : Uuid).render

theorem Drawn.mono {tag id : String} (h : Drawn tag w id) (hle : w.clock ≤ w'.clock) :
    Drawn tag w' id := by
  obtain ⟨n, hn, rfl⟩ := h
  exact ⟨n, Nat.lt_of_lt_of_le hn hle, rfl⟩

/-- A UUID still to be drawn gives an id not drawn yet. -/
theorem not_drawn {tag : String} {n : Nat} (h : w.clock ≤ n) :
    ¬ Drawn tag w (tag ++ (⟨n⟩ : Uuid).render) := by
  rintro ⟨m, hm, heq⟩
  have hnm : n = m := Nat.repr_injective ((String.append_right_inj tag).mp heq)
  omega

/-- Payment states and messages carry ids drawn before now. -/
structure FreshIds (w : World) : Prop where
  payments : ∀ id state, w.paymentStates.lookup id = some state → Drawn "txn_" w id
  messages : ∀ message ∈ w.outbox, Drawn "ord_" w message.payload

theorem FreshIds.handle {o : Op} (h : FreshIds v) (hle : w.clock ≤ v.clock)
    (hpay : ∀ id state, o = .putPaymentState id state → Drawn "txn_" w id)
    (hmsg : ∀ message, o = .enqueue message → Drawn "ord_" w message.payload) :
    FreshIds (env.handle o v).2 := by
  have hv : v.clock ≤ (env.handle o v).2.clock := by
    rw [Env.handle_clock]
    exact Nat.le_succ _
  constructor
  · intro id state hl
    cases hput : o.putsPaymentState with
    | false =>
        rw [Env.handle_paymentStates hput] at hl
        exact (h.payments id state hl).mono hv
    | true =>
        cases o with
        | putPaymentState id' state' =>
            rw [Env.handle_putPaymentState_paymentStates] at hl
            split at hl
            · rw [InMemoryPaymentStateStore.put, Table.lookup_insert_ite] at hl
              split at hl
              · next hid => exact hid ▸ (hpay id' state' rfl).mono (hle.trans hv)
              · exact (h.payments id state hl).mono hv
            · exact (h.payments id state hl).mono hv
        | _ => exact absurd hput Bool.false_ne_true
  · intro message hm
    cases henq : o.enqueues with
    | false =>
        rw [Env.handle_outbox henq] at hm
        exact (h.messages message hm).mono hv
    | true =>
        cases o with
        | enqueue message' =>
            rw [Env.handle_enqueue_outbox] at hm
            split at hm
            · rcases List.mem_append.mp hm with hm | hm
              · exact (h.messages message hm).mono hv
              · cases List.mem_singleton.mp hm
                exact (hmsg message rfl).mono (hle.trans hv)
            · exact (h.messages message hm).mono hv
        | _ => exact absurd henq Bool.false_ne_true

/-- Ids stay fresh along a path that records only ids drawn before it. -/
theorem FreshIds.replays (h : FreshIds w) (hr : Replays env.handle w tr w')
    (hpay : ∀ id state x, ⟨.putPaymentState id state, x⟩ ∈ tr → Drawn "txn_" w id)
    (hmsg : ∀ message x, ⟨.enqueue message, x⟩ ∈ tr → Drawn "ord_" w message.payload) :
    FreshIds w' := by
  have hall := hr.preserves (I := fun v => FreshIds v ∧ w.clock ≤ v.clock) ⟨h, le_rfl⟩ ?_
  · exact hall.1
  rintro ⟨o, x⟩ he v ⟨hv, hle⟩ _
  refine ⟨hv.handle hle ?_ ?_, ?_⟩
  · rintro id state rfl
    exact hpay id state x he
  · rintro message rfl
    exact hmsg message x he
  · rw [Env.handle_clock]
    exact Nat.le_succ_of_le hle

/-- An operation that records nothing under an id. -/
theorem FreshIds.step {o : Op} (h : FreshIds w) (hpay : o.putsPaymentState = false)
    (henq : o.enqueues = false) : FreshIds (env.handle o w).2 := by
  refine h.handle le_rfl (fun id state ho => ?_) (fun message ho => ?_)
  · exact absurd hpay (by simp [ho, Op.putsPaymentState])
  · exact absurd henq (by simp [ho, Op.enqueues])

theorem Drawn.step {tag id : String} {o : Op} (h : Drawn tag w id) :
    Drawn tag (env.handle o w).2 id := by
  refine h.mono ?_
  rw [Env.handle_clock]
  exact Nat.le_succ _

/-- A path that records nothing under an id. -/
theorem FreshIds.idle (h : FreshIds w) (hr : Replays env.handle w tr w')
    (hidle : ∀ e ∈ tr, e.1.putsPaymentState = false ∧ e.1.enqueues = false) : FreshIds w' := by
  refine h.replays hr (fun id state x hm => ?_) (fun message x hm => ?_)
  · exact absurd (hidle _ hm).1 (by simp [Op.putsPaymentState])
  · exact absurd (hidle _ hm).2 (by simp [Op.enqueues])

theorem Op.settles_idle {o : Op} (h : o.settles) :
    o.putsPaymentState = false ∧ o.enqueues = false := by
  cases o <;> first | exact ⟨rfl, rfl⟩ | exact absurd h Bool.false_ne_true

theorem Op.reserves_idle {o : Op} (h : o.reserves) :
    o.putsPaymentState = false ∧ o.enqueues = false := by
  cases o <;> first | exact ⟨rfl, rfl⟩ | exact absurd h Bool.false_ne_true

theorem Op.carts_idle {o : Op} (h : o.carts) :
    o.putsPaymentState = false ∧ o.enqueues = false := by
  cases o <;> first | exact ⟨rfl, rfl⟩ | exact absurd h Bool.false_ne_true

/-- A fresh UUID is drawn now. -/
theorem drawn_newUuid {tag : String} {u : Uuid} (h : (env.handle .newUuid w).1 = u) :
    Drawn tag (env.handle .newUuid w).2 (tag ++ u.render) :=
  ⟨w.clock, Nat.lt_succ_self _, h ▸ rfl⟩

section Paths

variable {cart : CartProjection} {committed : CommitRecord} {paid : PaymentOperationResult}

/-- A commit names its transaction by a fresh UUID. -/
theorem commit_transactionId {cartId : CartId} {ref : Option String}
    (h : (env.handle (.commit cartId ref) w).1 = .ok committed) :
    committed.transactionId = "txn_" ++ (⟨w.clock⟩ : Uuid).render :=
  congrArg CommitRecord.transactionId (World.attempt_ok h)

/-- After the draws a booking records the payment under the transaction's id and the
message under the order's. -/
theorem BookPath.after_draws (h : BookPath request cart committed paid tr r) :
    ∃ (b : Booking request cart committed paid) (rest : List (Event Op.Ans)),
      tr = b.draws ++ rest ∧
      (∀ id state x, ⟨.putPaymentState id state, x⟩ ∈ rest → id = committed.transactionId) ∧
      ∀ message x, ⟨.enqueue message, x⟩ ∈ rest →
        message.payload = "ord_" ++ b.order.render := by
  cases h with
  | unordered b e => exact ⟨b, _, rfl, by simp, by simp⟩
  | unreceipted b e => exact ⟨b, _, rfl, by simp, by simp⟩
  | unfinalized b receipt e => exact ⟨b, _, rfl, by simp, by simp⟩
  | unannounced b receipt msg e =>
      exact ⟨b, _, rfl, by simp, by simp +contextual [Booking.message, orderMessage,
        Booking.record, orderRecord]⟩
  | incomplete b receipt msg e =>
      exact ⟨b, _, rfl, by simp, by simp +contextual [Booking.message, orderMessage,
        Booking.record, orderRecord]⟩
  | booked b receipt msg x =>
      exact ⟨b, _, rfl, by simp +contextual [Booking.result, Booking.unreceipted, paidResult],
        by simp +contextual [Booking.message, orderMessage, Booking.record, orderRecord]⟩

theorem BookPath.fresh (h : BookPath request cart committed paid tr r)
    (hr : Replays env.handle w tr w') (hw : FreshIds w)
    (htxn : Drawn "txn_" w committed.transactionId) : FreshIds w' := by
  obtain ⟨b, rest, rfl, hpay, hmsg⟩ := h.after_draws
  obtain ⟨v, hd, hr⟩ := replays_append.mp hr
  have hv : FreshIds v := hw.idle hd (by simp [Booking.draws, Op.putsPaymentState, Op.enqueues])
  have hle : w.clock ≤ v.clock := by
    rw [Replays.clock_eq hd]
    exact Nat.le_add_right _ _
  refine hv.replays hr (fun id state x hm => ?_) (fun message x hm => ?_)
  · exact hpay id state x hm ▸ htxn.mono hle
  · rw [hmsg message x hm]
    refine (drawn_newUuid hd.1).mono ?_
    rw [Replays.clock_eq hd.2]
    exact Nat.le_add_right _ _

theorem ConcludePath.fresh {result : TransactionResult} (h : ConcludePath request result tr r)
    (hr : Replays env.handle w tr w') (hw : FreshIds w)
    (htxn : Drawn "txn_" w result.transactionId) : FreshIds w' := by
  refine hw.replays hr (fun id state x hm => ?_) (fun message x hm => ?_)
  · cases h with
    | concluded y =>
        obtain ⟨⟨rfl, -⟩, -⟩ : (id = _ ∧ _) ∧ _ := by simpa using hm
        exact htxn
    | _ => simp at hm
  · cases h <;> simp at hm

theorem PayPath.fresh (h : PayPath runner request cart tr r) (hr : Replays env.handle w tr w')
    (hw : FreshIds w) : FreshIds w' := by
  cases h with
  | rejected errors txn corr _ hc =>
      obtain ⟨htxn, -, hr⟩ := hr
      exact hc.fresh hr ((hw.step rfl rfl).step rfl rfl) (drawn_newUuid htxn).step
  | unauthorized e _ => exact hw.idle hr (by simp [Op.putsPaymentState, Op.enqueues])
  | declined auth txn corr _ _ hc =>
      obtain ⟨-, htxn, -, hr⟩ := hr
      exact hc.fresh hr (((hw.step rfl rfl).step rfl rfl).step rfl rfl) (drawn_newUuid htxn).step
  | uncommitted auth e _ _ => exact hw.idle hr (by simp [Op.putsPaymentState, Op.enqueues])
  | uncaptured auth committed e _ _ => exact hw.idle hr (by simp [Op.putsPaymentState, Op.enqueues])
  | captured auth committed capture _ _ hb =>
      obtain ⟨-, hcommit, -, hr⟩ := hr
      refine hb.fresh hr (((hw.step rfl rfl).step rfl rfl).step rfl rfl) (Drawn.step ?_)
      refine ⟨w.clock + 1, ?_, ?_⟩
      · rw [Env.handle_clock, Env.handle_clock]
        exact Nat.lt_succ_self _
      · rw [commit_transactionId hcommit, Env.handle_clock]

theorem OwnerPath.fresh (h : OwnerPath runner request tr r) (hr : Replays env.handle w tr w')
    (hw : FreshIds w) : FreshIds w' := by
  cases h with
  | unsettled e x e' hs =>
      obtain ⟨v, hr₁, -, rfl⟩ := replays_append.mp hr
      exact (hw.idle hr₁ fun e he => Op.settles_idle (hs.settles e he)).step rfl rfl
  | unreserved cart e hs hres =>
      obtain ⟨v, hr₁, hr₂⟩ := replays_append.mp hr
      exact (hw.idle hr₁ fun e he => Op.settles_idle (hs.settles e he)).idle hr₂
        fun e he => Op.reserves_idle (hres.reserves e he)
  | paid cart hs hres hp =>
      obtain ⟨v, hr₁, hr⟩ := replays_append.mp hr
      obtain ⟨v', hr₂, hr₃⟩ := replays_append.mp hr
      exact hp.fresh hr₃ ((hw.idle hr₁ fun e he => Op.settles_idle (hs.settles e he)).idle hr₂
        fun e he => Op.reserves_idle (hres.reserves e he))

theorem CheckoutPath.fresh (h : CheckoutPath runner request tr r)
    (hr : Replays env.handle w tr w') (hw : FreshIds w) : FreshIds w' := by
  cases h with
  | owned _ ho => exact ho.fresh hr.2 (hw.step rfl rfl)
  | _ => exact hw.idle hr (by simp [Op.putsPaymentState, Op.enqueues])

/-- **Ids drawn from now on are new**, in every reachable world. -/
theorem Reachable.freshIds (h : Reachable env runner w) : FreshIds w := by
  obtain ⟨calls, rfl⟩ := h
  refine session_preserves (fun w tr out w' hw hp hr => ?_) ?_
  · cases hp with
    | cart ht => exact hw.idle hr fun e he => Op.carts_idle (dispatchCartCommand_carts ht e he)
    | checkout hp => exact hp.fresh hr hw
  · constructor
    · intro id state hl
      cases hl
    · intro message hm
      cases hm

end Paths

/-! ## A settled key -/

/-- A claim that the store carries out answers what is stored. -/
theorem Env.handle_claim_fst {key : IdempotencyKey}
    (h : env.fault w.clock (.claim key) = none) :
    (env.handle (.claim key) w).1 = .ok (w.idempotency.lookup key) := by
  rw [← InMemoryIdempotencyStore.claim_fst]
  show (w.attempt (env.fault w.clock (.claim key)) _).1 = _
  rw [h]
  rfl

/-- Once a key is completed, no checkout changes it. -/
theorem CheckoutPath.completed_stays {key : IdempotencyKey} {result : TransactionResult}
    (h : CheckoutPath runner request tr r) (hr : Replays env.handle w tr w')
    (hkey : w.idempotency.lookup key = some (.completed result)) :
    w'.idempotency.lookup key = some (.completed result) := by
  by_cases hk : key = .ofRequest request
  · subst hk
    cases h with
    | invalid _ => exact hr ▸ hkey
    | unclaimed e _ =>
        obtain ⟨-, rfl⟩ := hr
        rw [Env.handle_claim_lookup, hkey]
        simp
    | inFlight _ => cases hkey.symm.trans (Env.handle_claim_ok hr.1)
    | replayed result' _ =>
        obtain ⟨-, rfl⟩ := hr
        rw [Env.handle_claim_lookup, hkey]
        simp
    | owned _ _ => cases hkey.symm.trans (Env.handle_claim_ok hr.1)
  · refine hr.preserves (I := fun v => v.idempotency.lookup key = some (.completed result)) hkey ?_
    intro e he v hv _
    rw [Env.handle_lookup_of_onKey_ne fun ho => hk (h.onlyKey e he key ho)]
    exact hv

theorem session_completed_stays {calls : List Call} {key : IdempotencyKey}
    {result : TransactionResult} (hkey : w.idempotency.lookup key = some (.completed result)) :
    (session env runner calls w).2.idempotency.lookup key = some (.completed result) := by
  refine session_preserves (I := fun v => v.idempotency.lookup key = some (.completed result))
    (fun w tr out w' hw hp hr => ?_) hkey
  cases hp with
  | cart ht =>
      have hcarts := dispatchCartCommand_carts ht
      rw [Replays.idempotency_eq hr fun e he => Op.carts_not_keys (hcarts e he)]
      exact hw
  | checkout hp => exact hp.completed_stays hr hw

/-- A checkout on a completed key returns the stored result. -/
theorem executeCheckout_replays {result : TransactionResult}
    (hvalid : validateCheckoutRequest request = [])
    (hclaim : env.fault w.clock (.claim (.ofRequest request)) = none)
    (hkey : keyState request w = some (.completed result)) :
    ((executeCheckout runner request).run.run env.handle w).1 = .ok result := by
  have hpath := executeCheckout_trace
    (events_trace (h := env.handle) (executeCheckout runner request).run w)
  have hr := events_replays (h := env.handle) (executeCheckout runner request).run w
  generalize (executeCheckout runner request).run.events env.handle w = tr at hpath hr
  generalize ((executeCheckout runner request).run.run env.handle w).1 = r at hpath
  have hans := Env.handle_claim_fst hclaim
  rw [show w.idempotency.lookup (.ofRequest request) = _ from hkey] at hans
  cases hpath with
  | invalid hv => exact absurd hvalid hv
  | unclaimed e _ => cases hans.symm.trans hr.1
  | inFlight _ => cases hans.symm.trans hr.1
  | replayed result' _ =>
      cases hans.symm.trans hr.1
      rfl
  | owned _ _ => cases hans.symm.trans hr.1

/-! ## Everything on record -/

/-- What should be on record once `pay` was captured: its payment state, one order
with one message announcing it, and an outcome that every later call with the
key returns (a call whose own claim the store does not carry out apart). -/
structure Accounted (env : Env) (runner : Runner) (request : CheckoutRequest)
    (pay : PaymentLifecycleRequest) (w : World) : Prop where
  payment : w.paymentStates.lookup pay.transactionId = some .captured
  order : ∃ order : OrderRecord, w.orders.lookup order.orderId = some order ∧
    order.transactionId = pay.transactionId ∧
    (w.outbox.filter fun m => m.topic = "order.created" ∧ m.payload = order.orderId).length = 1
  replay : ∃ result : TransactionResult, result.transactionId = pay.transactionId ∧
    ∀ (calls : List Call) (later : CheckoutRequest), validateCheckoutRequest later = [] →
      IdempotencyKey.ofRequest later = .ofRequest request →
      env.fault (session env runner calls w).2.clock (.claim (.ofRequest request)) = none →
      ((executeCheckout runner later).run.run env.handle (session env runner calls w).2).1 =
        .ok result

/-- The answers of a booking in which nothing fails; the payment state may be
reported as failed if it was recorded. -/
def Op.accounted : (o : Op) → o.Ans → Bool
  | .putOrder _, x => x.isOk
  | .generate .., x => x.isOk
  | .finalizeCart _, x => x.isOk
  | .enqueue _, x => x.isOk
  | .complete .., x => x.isOk
  | .putPaymentState .., x => tookHold x
  | _, _ => true

/-- Nothing failed after the capture. -/
def NothingFails (tr : List (Event Op.Ans)) : Prop := ∀ e ∈ tr, e.1.accounted e.2

instance : Decidable (NothingFails tr) :=
  inferInstanceAs (Decidable (∀ e ∈ tr, e.1.accounted e.2))

theorem nothingFails_cons {e : Event Op.Ans} :
    NothingFails (e :: tr) ↔ e.1.accounted e.2 ∧ NothingFails tr :=
  List.forall_mem_cons

theorem nothingFails_append {tr₁ tr₂ : List (Event Op.Ans)} :
    NothingFails (tr₁ ++ tr₂) ↔ NothingFails tr₁ ∧ NothingFails tr₂ :=
  List.forall_mem_append

theorem Op.settles_accounted {o : Op} {x : o.Ans} (h : o.settles) : o.accounted x := by
  cases o <;> first | rfl | exact absurd h Bool.false_ne_true

theorem Op.reserves_accounted {o : Op} {x : o.Ans} (h : o.reserves) : o.accounted x := by
  cases o <;> first | rfl | exact absurd h Bool.false_ne_true

section Book

variable {cart : CartProjection} {committed : CommitRecord} {paid : PaymentOperationResult}

/-- A booking in which nothing fails goes through. -/
theorem BookPath.booked_of_accounted (h : BookPath request cart committed paid tr r)
    (hall : NothingFails tr) :
    ∃ (b : Booking request cart committed paid) (receipt : ReceiptPayload) (msg : Uuid)
      (x : Except StoreError Unit), tookHold x ∧
      tr = b.draws ++ [⟨.putOrder b.record, .ok ()⟩, ⟨.newUuid, b.correlationId⟩,
        ⟨.generate cart b.unreceipted, .ok receipt⟩,
        ⟨.finalizeCart request.cartId, .ok ()⟩, ⟨.newUuid, msg⟩,
        ⟨.enqueue (b.message msg), .ok ()⟩,
        ⟨.complete (.ofRequest request) (b.result receipt), .ok ()⟩,
        ⟨.putPaymentState (b.result receipt).transactionId (b.result receipt).paymentState, x⟩] ∧
      r = .ok (b.result receipt) := by
  cases h with
  | unordered b e => cases hall ⟨.putOrder b.record, .error e⟩ (by simp)
  | unreceipted b e => cases hall ⟨.generate cart b.unreceipted, .error e⟩ (by simp)
  | unfinalized b receipt e => cases hall ⟨.finalizeCart request.cartId, .error e⟩ (by simp)
  | unannounced b receipt msg e => cases hall ⟨.enqueue (b.message msg), .error e⟩ (by simp)
  | incomplete b receipt msg e =>
      cases hall ⟨.complete (.ofRequest request) (b.result receipt), .error e⟩ (by simp)
  | booked b receipt msg x =>
      refine ⟨b, receipt, msg, x, ?_, rfl, rfl⟩
      exact hall ⟨.putPaymentState (b.result receipt).transactionId
        (b.result receipt).paymentState, x⟩ (by simp)

/-- A booking in which something fails records no payment state. -/
theorem BookPath.unrecorded (h : BookPath request cart committed paid tr r)
    (hfail : ¬ NothingFails tr) {id : String} {state : PaymentState} {x : Except StoreError Unit}
    (hm : ⟨.putPaymentState id state, x⟩ ∈ tr) : tookHold x = false := by
  cases h with
  | booked b receipt msg y =>
      obtain ⟨-, hx⟩ : _ ∧ x = y := by simpa [Booking.draws] using hm
      rw [hx]
      simpa [NothingFails, Op.accounted, Booking.draws, Except.isOk, Except.toBool] using hfail
  | _ => simp [Booking.draws] at hm

/-- The world after a booking in which nothing fails. -/
theorem BookPath.accounts (h : BookPath request cart committed paid tr r)
    (hr : Replays env.handle w tr w') (hw : FreshIds w) (hall : NothingFails tr)
    (hsucc : paid.success = true) :
    w'.paymentStates.lookup committed.transactionId = some .captured ∧
      (∃ order : OrderRecord, w'.orders.lookup order.orderId = some order ∧
        order.transactionId = committed.transactionId ∧
        (w'.outbox.filter fun m =>
          m.topic = "order.created" ∧ m.payload = order.orderId).length = 1) ∧
      ∃ result : TransactionResult, result.transactionId = committed.transactionId ∧
        keyState request w' = some (.completed result) := by
  obtain ⟨b, receipt, msg, x, hx, rfl, rfl⟩ := h.booked_of_accounted hall
  obtain ⟨v, hd, hr⟩ := replays_append.mp hr
  have hout : v.outbox = w.outbox :=
    Replays.frame World.outbox hd fun e he v => Env.handle_outbox (by
      revert e
      simp [Booking.draws, Op.enqueues])
  -- the order's id is drawn first, so no message carries it yet
  have hnew : ∀ m ∈ v.outbox, m.payload ≠ b.record.orderId := by
    intro m hm heq
    have hdrawn : Drawn "ord_" w m.payload := hw.messages m (hout ▸ hm)
    have horder : b.order = ⟨w.clock⟩ := hd.1.symm
    rw [heq, show b.record.orderId = "ord_" ++ b.order.render from rfl, horder] at hdrawn
    exact not_drawn le_rfl hdrawn
  obtain ⟨hput, -, hgen, hfin, -, henq, hcomp, hpay, rfl⟩ := hr
  refine ⟨?_, ⟨b.record, ?_, rfl, ?_⟩, b.result receipt, rfl, ?_⟩
  · rw [Env.handle_putPaymentState_paymentStates, hpay, if_pos hx, InMemoryPaymentStateStore.put,
      Table.lookup_insert_ite]
    show (if committed.transactionId = committed.transactionId then
      some (if paid.success = true then PaymentState.captured else .failed) else _) = _
    rw [if_pos rfl, if_pos hsucc]
  · rw [Env.handle_orders rfl, Env.handle_orders rfl, Env.handle_orders rfl, Env.handle_orders rfl,
      Env.handle_orders rfl, Env.handle_orders rfl, Env.handle_orders rfl,
      Env.handle_putOrder_orders, hput, tookHold_ok, if_pos rfl]
    exact AList.lookup_insert _
  · rw [Env.handle_outbox rfl, Env.handle_outbox rfl, Env.handle_enqueue_outbox, henq, tookHold_ok,
      if_pos rfl, Env.handle_outbox rfl, Env.handle_outbox rfl, Env.handle_outbox rfl,
      Env.handle_outbox rfl, Env.handle_outbox rfl, Outbox.enqueue, List.filter_append,
      List.filter_eq_nil_iff.mpr fun m hm => by simp [hnew m hm], List.nil_append,
      List.filter_singleton]
    simp [Booking.message, orderMessage]
  · rw [keyState, Env.handle_idempotency rfl, Env.handle_complete_lookup, hcomp,
      if_pos ⟨tookHold_ok _, rfl⟩]

/-- A booking in which something fails leaves the payment states alone. -/
theorem BookPath.paymentStates_of_fail (h : BookPath request cart committed paid tr r)
    (hr : Replays env.handle w tr w') (hfail : ¬ NothingFails tr) :
    w'.paymentStates = w.paymentStates := by
  refine hr.preserves (I := fun v => v.paymentStates = w.paymentStates) rfl ?_
  rintro ⟨o, x⟩ he v hv hans
  cases hput : o.putsPaymentState with
  | false => rw [Env.handle_paymentStates hput, hv]
  | true =>
      cases o with
      | putPaymentState id state =>
          have hx : tookHold x = false := h.unrecorded hfail he
          rw [Env.handle_putPaymentState_paymentStates, hans, hx]
          exact hv
      | _ => exact absurd hput Bool.false_ne_true

/-- A captured path up to the answer of the capture: the transaction is not on
record yet, and whatever fails on the path fails after. -/
theorem CapturedPath.split {pay : PaymentLifecycleRequest}
    (h : CapturedPath runner request paid pay tr r) (hr : Replays env.handle w tr w')
    (hw : FreshIds w) :
    ∃ (cart : CartProjection) (committed : CommitRecord) (tr₃ : List (Event Op.Ans)) (v : World),
      pay.transactionId = committed.transactionId ∧ BookPath request cart committed paid tr₃ r ∧
      (NothingFails tr ↔ NothingFails tr₃) ∧ FreshIds v ∧
      v.paymentStates.lookup committed.transactionId = none ∧ Replays env.handle v tr₃ w' := by
  cases h with
  | @mk cart auth committed tr₁ tr₂ tr₃ _ hs hres hb =>
      obtain ⟨-, hr⟩ := hr
      obtain ⟨v₁, hr₁, hr⟩ := replays_append.mp hr
      obtain ⟨v₂, hr₂, -, hcommit, -, hr₃⟩ := replays_append.mp hr
      have hv : FreshIds v₂ :=
        ((hw.step rfl rfl).idle hr₁ fun e he => Op.settles_idle (hs.settles e he)).idle hr₂
          fun e he => Op.reserves_idle (hres.reserves e he)
      refine ⟨cart, committed, tr₃, _, rfl, hb, ?_, ((hv.step rfl rfl).step rfl rfl).step rfl rfl,
        ?_, hr₃⟩
      · have h₁ : NothingFails tr₁ := fun e he => Op.settles_accounted (hs.settles e he)
        have h₂ : NothingFails tr₂ := fun e he => Op.reserves_accounted (hres.reserves e he)
        rw [nothingFails_cons, nothingFails_append, nothingFails_append, nothingFails_cons,
          nothingFails_cons, nothingFails_cons]
        exact ⟨fun h => h.2.2.2.2.2.2, fun h => ⟨rfl, h₁, h₂, rfl, rfl, rfl, h⟩⟩
      · -- the transaction is named after an id drawn at the commit
        have hv₃ : FreshIds (env.handle (.authorize request) v₂).2 := hv.step rfl rfl
        rw [Env.handle_paymentStates rfl, Env.handle_paymentStates rfl,
          Option.eq_none_iff_forall_ne_some]
        intro state hl
        have hdrawn := hv₃.payments _ _ hl
        rw [commit_transactionId hcommit] at hdrawn
        exact not_drawn le_rfl hdrawn

/-- The only answered capture of a captured path is its own. -/
theorem CheckoutPath.captured_of_mem {pay : PaymentLifecycleRequest}
    (h : CheckoutPath runner request tr r) (hcap : ⟨.capture pay, .ok paid⟩ ∈ tr) :
    CapturedPath runner request paid pay tr r := by
  rcases h.captured_or with ⟨pay', paid', h⟩ | h | ⟨result, rfl, -⟩
  · obtain ⟨_, _, _, _, _, honly, _⟩ := h.mem_iff
    obtain ⟨rfl, hpaid⟩ := (honly _ _).mp hcap
    cases hpaid
    exact h
  · exact absurd hcap (h.no_capture pay paid)
  · simp at hcap

/-- What a booking in which nothing fails leaves on record stays there: calls with
the key return its result. -/
theorem BookPath.accounted {pay : PaymentLifecycleRequest}
    (h : BookPath request cart committed paid tr r) (hr : Replays env.handle w tr w')
    (hw : FreshIds w) (hall : NothingFails tr) (hsucc : paid.success = true)
    (hpay : pay.transactionId = committed.transactionId) :
    Accounted env runner request pay w' := by
  obtain ⟨hpayment, horder, result, htxn, hkey⟩ := h.accounts hr hw hall hsucc
  rw [← hpay] at hpayment horder htxn
  refine ⟨hpayment, horder, result, htxn, ?_⟩
  intro calls later hvalid hlater hclaim
  refine executeCheckout_replays hvalid ?_ ?_
  · rw [hlater]
    exact hclaim
  · rw [keyState, hlater]
    exact session_completed_stays hkey

end Book

/-- **Money is accounted for** when a call ends that captured it, exactly when
nothing failed after the capture. -/
theorem executeCheckout_accounts_iff {pay : PaymentLifecycleRequest}
    {paid : PaymentOperationResult} (hw : Reachable env runner w)
    (hcap : ⟨.capture pay, .ok paid⟩ ∈ (executeCheckout runner request).run.events env.handle w)
    (hsucc : paid.success = true) :
    Accounted env runner request pay ((executeCheckout runner request).run.run env.handle w).2 ↔
      NothingFails ((executeCheckout runner request).run.events env.handle w) := by
  have hpath := executeCheckout_trace
    (events_trace (h := env.handle) (executeCheckout runner request).run w)
  have hr := events_replays (h := env.handle) (executeCheckout runner request).run w
  obtain ⟨cart, committed, tr₃, v, hpay, hb, hiff, hv, hnone, hr₃⟩ :=
    (hpath.captured_of_mem hcap).split hr hw.freshIds
  rw [hiff]
  constructor
  · intro hacc
    by_contra hfail
    have hrec := hacc.payment
    rw [hb.paymentStates_of_fail hr₃ hfail, hpay, hnone] at hrec
    cases hrec
  · intro hall
    exact hb.accounted hr₃ hv hall hsucc hpay

/-- What is captured when the sample cart is checked out there. -/
def Sample.payment : PaymentLifecycleRequest := ⟨"t", "m", "txn_31", 100, "k"⟩

/-- Providers and stores agree: the money is accounted for. -/
theorem executeCheckout_accounts_sample :
    Accounted Env.agreeable Sample.runner (Sample.request "k") Sample.payment
      ((executeCheckout Sample.runner (Sample.request "k")).run.run Env.agreeable.handle
        Sample.shopped).2 := by
  have hcap : ⟨.capture Sample.payment, .ok ⟨true, "capture"⟩⟩ ∈
      (executeCheckout Sample.runner (Sample.request "k")).run.events Env.agreeable.handle
        Sample.shopped := List.get_mem _ ⟨9, by decide⟩
  exact (executeCheckout_accounts_iff ⟨Sample.shopping, rfl⟩ hcap rfl).mpr (by decide)

/-- The receipt provider is down. -/
def Env.receiptless : Env :=
  { Env.agreeable with generate := fun _ _ _ => .error (.failed "down") }

/-- The buyer paid; no receipt can be made; nothing is accounted for. -/
theorem receiptless_checkout_unaccounted :
    ¬ ∀ (env : Env) (runner : Runner) (request : CheckoutRequest) (w : World)
      (pay : PaymentLifecycleRequest) (paid : PaymentOperationResult),
      Reachable env runner w →
      ⟨.capture pay, .ok paid⟩ ∈ (executeCheckout runner request).run.events env.handle w →
      paid.success = true →
      Accounted env runner request pay
        ((executeCheckout runner request).run.run env.handle w).2 := by
  intro h
  have hacc := h Env.receiptless Sample.runner (Sample.request "k") Sample.shopped Sample.payment
    ⟨true, "capture"⟩ ⟨Sample.shopping, rfl⟩ (List.get_mem _ ⟨9, by decide⟩) rfl
  have hnone : ((executeCheckout Sample.runner (Sample.request "k")).run.run
      Env.receiptless.handle Sample.shopped).2.paymentStates.lookup
        Sample.payment.transactionId = none := by decide
  cases hnone.symm.trans hacc.payment

end Orchestrator
