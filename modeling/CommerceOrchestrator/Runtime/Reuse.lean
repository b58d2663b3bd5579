/-
# `CommerceOrchestrator.Runtime.Reuse` — what a key that was used before answers

A key is a tenant, a merchant and a string; the store keeps the outcome under it
and nothing of the request.  So a completed outcome answers the request of the
call that was told to go on, and any other call with the key only as far as the
two requests agree.

`Bought` says that a result is what a call's own request asked for: its order is
stored, for its cart and in its tenant's name, and the total is its amount.
Every stored and every returned outcome of a run of calls at once is bought by some call
with its key (`Sold`), and no order is ever overwritten, since each is filed under
an id that only one call has drawn (`Filing`).
-/
import CommerceOrchestrator.Runtime.Accounting
import CommerceOrchestrator.Runtime.Fulfillment
import CommerceOrchestrator.Runtime.Idempotency

namespace Orchestrator

open Effect Prog

/-- `result` is an answer to `request`: its order is on record for the request's cart
and in its tenant's name, and the total is the amount offered. -/
structure AnswersTo (w : World) (request : CheckoutRequest) (result : TransactionResult)
    (order : OrderRecord) : Prop where
  stored : w.orders.get order.orderId = some order
  named : result.orderId = some order.orderId
  tenant : order.tenantId = request.tenantId
  cart : order.checkoutId = request.cartId
  amount : result.totalsBreakdown.totalMinor = request.paymentIntent.amountMinor

variable {env : Env} {runner : Runner} {request : CheckoutRequest} {w w' : World}
  {tr : List (Event Op.Ans)} {r : Except RunnerError TransactionResult} {key : IdempotencyKey}

/-! ## One call -/

/-- How far a call has come towards an outcome. -/
inductive Sale
  /-- No key has been claimed yet. -/
  | unclaimed
  /-- Told to go on; these ids have been drawn since. -/
  | owner (drawn : List Uuid)
  /-- The owner has stored its order. -/
  | ordered (order : OrderRecord)
  /-- The owner has completed the key. -/
  | settled (result : TransactionResult)
  /-- Told the outcome by the store. -/
  | replayed (result : TransactionResult)
  | stopped

/-- The ids a call may still file an order under. -/
def Sale.drawn : Sale → List Uuid
  | .owner us => us
  | _ => []

/-- A call and how far it has come. -/
structure Seller where
  call : Call
  sale : Sale

/-- `order` may be stored by an owner of the key that has drawn these ids. -/
structure Files (request : CheckoutRequest) (drawn : List Uuid) (order : OrderRecord) : Prop where
  id : ∃ u ∈ drawn, order.orderId = "ord_" ++ u.render
  tenant : order.tenantId = request.tenantId
  cart : order.checkoutId = request.cartId

/-- What an owner may complete its key with: `completed` only once it has an order. -/
inductive SettlesOn (request : CheckoutRequest) (result : TransactionResult) : Sale → Prop
  | unsold (drawn : List Uuid) : result.status ≠ .completed → SettlesOn request result (.owner drawn)
  | sold (order : OrderRecord) : result.orderId = some order.orderId →
      result.totalsBreakdown.totalMinor = request.paymentIntent.amountMinor →
      SettlesOn request result (.ordered order)

/-- A checkout claims one key, its own; as the owner it stores one order of its own
and then completes the key with it. -/
def saleMonitor : Monitor Op.Ans Seller where
  allow o q :=
    match o with
    | .claim key =>
        ∃ request, q.call = .checkout request ∧ key = .ofRequest request ∧ q.sale = .unclaimed
    | .putOrder order =>
        ∃ request us, q.call = .checkout request ∧ q.sale = .owner us ∧ Files request us order
    | .complete key result =>
        ∃ request, q.call = .checkout request ∧ key = .ofRequest request ∧
          SettlesOn request result q.sale
    | _ => True
  next o q x :=
    { q with
      sale :=
        match o, x, q.sale with
        | .claim _, .ok none, _ => .owner []
        | .claim _, .ok (some (.completed result)), _ => .replayed result
        | .claim _, _, _ => .stopped
        | .newUuid, u, .owner us => .owner (u :: us)
        | .putOrder order, .ok (), _ => .ordered order
        | .putOrder _, .error _, _ => .stopped
        | .complete _ result, .ok (), _ => .settled result
        | .complete _ _, .error _, _ => .stopped
        | _, _, s => s }

/-- The state a call ends in, given what it returns. -/
def EndsSale (out : Outcome) (q : Seller) : Prop :=
  ∀ request result, out = .checkout request (.ok result) →
    q = ⟨.checkout request, .settled result⟩ ∨ q = ⟨.checkout request, .replayed result⟩

/-- The operations on keys, orders and ids. -/
def Op.sells : Op → Bool
  | .claim .. | .putOrder .. | .complete .. | .newUuid => true
  | _ => false

theorem saleMonitor_idle {o : Op} {q : Seller} {x : o.Ans} (h : o.sells = false) :
    saleMonitor.allow o q ∧ saleMonitor.next o q x = q := by
  cases o <;> first | exact ⟨trivial, rfl⟩ | exact absurd h Bool.noConfusion

theorem Op.settles_not_sells {o : Op} (h : o.settles) : o.sells = false := by
  cases o <;> first | rfl | exact absurd h Bool.false_ne_true

theorem Op.reserves_not_sells {o : Op} (h : o.reserves) : o.sells = false := by
  cases o <;> first | rfl | exact absurd h Bool.false_ne_true

section Accepted

variable {cart : CartProjection}

theorem ConcludePath.sold {result : TransactionResult} {us : List Uuid}
    (h : ConcludePath request result tr r) (hres : result.status ≠ .completed) :
    saleMonitor.Accepts (EndsSale (.checkout request r)) tr ⟨.checkout request, .owner us⟩ := by
  have hs : SettlesOn request result (.owner us) := .unsold us hres
  cases h <;> simp [saleMonitor, EndsSale, hs]

theorem BookPath.sold {committed : CommitRecord} {paid : PaymentOperationResult} {us : List Uuid}
    (hamt : request.paymentIntent.amountMinor = cart.totalMinor)
    (h : BookPath request cart committed paid tr r) :
    saleMonitor.Accepts (EndsSale (.checkout request r)) tr ⟨.checkout request, .owner us⟩ := by
  have hfiles (b : Booking request cart committed paid) :
      Files request (b.event :: b.order :: us) b.record := ⟨⟨b.order, by simp, rfl⟩, rfl, rfl⟩
  have hs (b : Booking request cart committed paid) (receipt : ReceiptPayload) :
      SettlesOn request (b.result receipt) (.ordered b.record) := .sold b.record rfl hamt.symm
  cases h <;> simp [saleMonitor, EndsSale, Booking.draws, hfiles, hs]

theorem PayPath.sold (hamt : request.paymentIntent.amountMinor = cart.totalMinor)
    (h : PayPath runner request cart tr r) :
    saleMonitor.Accepts (EndsSale (.checkout request r)) tr ⟨.checkout request, .owner []⟩ := by
  cases h with
  | rejected errors txn corr _ hc =>
      exact ⟨trivial, fun _ => ⟨trivial, fun _ => hc.sold (by simp [rejectedResult, unpaidResult])⟩⟩
  | unauthorized e _ => simp [saleMonitor, EndsSale]
  | declined auth txn corr _ _ hc =>
      exact ⟨trivial, fun _ => ⟨trivial, fun _ => ⟨trivial, fun _ =>
        hc.sold (by simp [authFailedResult, unpaidResult])⟩⟩⟩
  | uncommitted auth e _ _ => simp [saleMonitor, EndsSale]
  | uncaptured auth committed e _ _ => simp [saleMonitor, EndsSale]
  | captured auth committed paid _ _ hb =>
      exact ⟨trivial, fun _ => ⟨trivial, fun _ => ⟨trivial, fun _ => hb.sold hamt⟩⟩⟩

theorem OwnerPath.sold (h : OwnerPath runner request tr r) :
    saleMonitor.Accepts (EndsSale (.checkout request r)) tr ⟨.checkout request, .owner []⟩ := by
  have idle {tr : List (Event Op.Ans)} {q : Seller} {P : Seller → Prop}
      (htr : ∀ e ∈ tr, e.1.sells = false) (hP : P q) : saleMonitor.Accepts P tr q :=
    Monitor.Accepts.idle (fun e he => saleMonitor_idle (htr e he)) hP
  cases h with
  | unsettled e x e' hs =>
      refine Monitor.accepts_append.mpr ?_
      refine idle (fun e he => Op.settles_not_sells (hs.settles e he)) ?_
      simp [saleMonitor, EndsSale]
  | unreserved cart e hs hr =>
      refine Monitor.accepts_append.mpr ?_
      refine idle (fun e he => Op.settles_not_sells (hs.settles e he)) ?_
      refine idle (fun e he => Op.reserves_not_sells (hr.reserves e he)) ?_
      simp [EndsSale]
  | paid cart hs hr hp =>
      refine Monitor.accepts_append.mpr ?_
      refine idle (fun e he => Op.settles_not_sells (hs.settles e he)) ?_
      refine Monitor.accepts_append.mpr ?_
      refine idle (fun e he => Op.reserves_not_sells (hr.reserves e he)) ?_
      exact hp.sold hs.settled_amount.1

theorem CheckoutPath.sold (h : CheckoutPath runner request tr r) :
    saleMonitor.Accepts (EndsSale (.checkout request r)) tr ⟨.checkout request, .unclaimed⟩ := by
  cases h with
  | invalid _ => simp [EndsSale]
  | unclaimed e _ => simp [saleMonitor, EndsSale]
  | inFlight _ => simp [saleMonitor, EndsSale]
  | replayed result _ => simp [saleMonitor, EndsSale]
  | owned _ ho => exact ⟨⟨request, rfl, rfl, rfl⟩, fun _ => ho.sold⟩

end Accepted

/-- A cart command claims nothing. -/
theorem saleMonitor_carts {o : Op} {call : Call} {x : o.Ans} (h : o.carts) :
    saleMonitor.allow o ⟨call, .unclaimed⟩ ∧
      saleMonitor.next o ⟨call, .unclaimed⟩ x = ⟨call, .unclaimed⟩ := by
  cases o <;> first | exact ⟨trivial, rfl⟩ | exact absurd h Bool.false_ne_true

theorem Call.prog_sells (runner : Runner) (call : Call) :
    (call.prog runner).Follows saleMonitor EndsSale ⟨call, .unclaimed⟩ := by
  refine Follows.of_trace fun tr out h => ?_
  cases call with
  | checkout request =>
      obtain ⟨r, t₁, t₂, rfl, ht, rfl, rfl⟩ := trace_bind.mp h
      rw [List.append_nil]
      exact (executeCheckout_trace ht).sold
  | cart command cartId =>
      obtain ⟨r, t₁, t₂, rfl, ht, rfl, rfl⟩ := trace_bind.mp h
      rw [List.append_nil]
      refine Monitor.Accepts.idle (fun e he => ?_) ?_
      · exact saleMonitor_carts (dispatchCartCommand_carts ht e he)
      · rintro request result ⟨⟩

/-! ## What one operation changes -/

/-- One step of a call: what it did, and how far it has come then. -/
inductive SaleStep : Seller → Event Op.Ans → Seller → Prop
  | kept (q : Seller) (e : Event Op.Ans) : (∀ key, e.1 ≠ .claim key) → e.1.putsOrder = false →
      SaleStep q e q
  | granted (request : CheckoutRequest) :
      SaleStep ⟨.checkout request, .unclaimed⟩ ⟨.claim (.ofRequest request), .ok none⟩
        ⟨.checkout request, .owner []⟩
  | told (request : CheckoutRequest) (result : TransactionResult) :
      SaleStep ⟨.checkout request, .unclaimed⟩
        ⟨.claim (.ofRequest request), .ok (some (.completed result))⟩
        ⟨.checkout request, .replayed result⟩
  | drew (call : Call) (us : List Uuid) (u : Uuid) :
      SaleStep ⟨call, .owner us⟩ ⟨.newUuid, u⟩ ⟨call, .owner (u :: us)⟩
  | ordered (request : CheckoutRequest) (us : List Uuid) (order : OrderRecord) :
      Files request us order →
      SaleStep ⟨.checkout request, .owner us⟩ ⟨.putOrder order, .ok ()⟩
        ⟨.checkout request, .ordered order⟩
  | settled (request : CheckoutRequest) (result : TransactionResult) (s : Sale) :
      SettlesOn request result s →
      SaleStep ⟨.checkout request, s⟩ ⟨.complete (.ofRequest request) result, .ok ()⟩
        ⟨.checkout request, .settled result⟩
  | stopped (call : Call) (s : Sale) (e : Event Op.Ans) :
      (∀ result, s ≠ .settled result ∧ s ≠ .replayed result) → SaleStep ⟨call, s⟩ e ⟨call, .stopped⟩

theorem saleMonitor_step {o : Op} {q : Seller} (x : o.Ans) (ho : saleMonitor.allow o q) :
    SaleStep q ⟨o, x⟩ (saleMonitor.next o q x) := by
  obtain ⟨call, s⟩ := q
  cases o with
  | claim key =>
      obtain ⟨request, rfl, rfl, rfl⟩ := ho
      rcases x with e | _ | _ | result
      · exact .stopped _ _ _ (by simp)
      · exact .granted request
      · exact .stopped _ _ _ (by simp)
      · exact .told request result
  | putOrder order =>
      obtain ⟨request, us, rfl, rfl, hfiles⟩ := ho
      rcases x with e | _
      · exact .stopped _ _ _ (by simp)
      · exact .ordered request us order hfiles
  | complete key result =>
      obtain ⟨request, rfl, rfl, hs⟩ := ho
      rcases x with e | _
      · refine .stopped _ _ _ fun result' => ?_
        cases hs <;> simp
      · exact .settled request result s hs
  | newUuid =>
      cases s with
      | owner us => exact .drew call us x
      | _ => exact .kept _ _ (by simp) rfl
  | _ => exact .kept _ _ (by simp) rfl

/-- Once a call knows its outcome it knows it for good. -/
theorem SaleStep.known {q q' : Seller} {e : Event Op.Ans} {result : TransactionResult}
    (h : SaleStep q e q') (hq : q.sale = .settled result ∨ q.sale = .replayed result) : q' = q := by
  cases h with
  | kept q e _ _ => rfl
  | stopped call s e hs => exact absurd hq (not_or.mpr (hs result))
  | settled request result' s hs => cases hs <;> rcases hq with hq | hq <;> cases hq
  | _ => rcases hq with hq | hq <;> cases hq

/-! ## No order is overwritten -/

/-- Ids a call has drawn and may still use are no other call's, and no order is filed
under them; orders are filed under ids drawn before now. -/
structure Filing (w : World) (φ : Nat → Seller) : Prop where
  drawn : ∀ t, ∀ u ∈ (φ t).sale.drawn, u.val < w.clock
  unused : ∀ t, ∀ u ∈ (φ t).sale.drawn, w.orders.get ("ord_" ++ u.render) = none
  apart : ∀ t t' u, u ∈ (φ t).sale.drawn → u ∈ (φ t').sale.drawn → t = t'
  filed : ∀ id order, w.orders.get id = some order → Drawn "ord_" w id

section Filing

variable {φ : Nat → Seller} {o : Op} {t : Nat}

theorem InMemoryOrderStore.get_put {store : InMemoryOrderStore} {record : OrderRecord}
    {id : String} :
    (store.put record).get id = if id = record.orderId then some record else store.get id :=
  Table.lookup_insert_ite _ _ _ _

theorem orderId_injective {u v : Uuid} (h : "ord_" ++ u.render = "ord_" ++ v.render) : u = v := by
  have hval : u.val = v.val := Nat.repr_injective ((String.append_right_inj "ord_").mp h)
  cases u
  cases v
  exact congrArg Uuid.mk hval

/-- What is on record stays on record. -/
theorem Filing.kept (h : Filing w φ) (ho : saleMonitor.allow o (φ t)) {id : String}
    {order : OrderRecord} (hid : w.orders.get id = some order) :
    (env.handle o w).2.orders.get id = some order := by
  cases hput : o.putsOrder with
  | false => rwa [Env.handle_orders hput]
  | true =>
      cases o with
      | putOrder record =>
          rw [Env.handle_putOrder_orders]
          split
          · obtain ⟨request, us, -, hsale, ⟨⟨u, hu, hrec⟩, -, -⟩⟩ := ho
            have hnone := h.unused t u (by rw [hsale]; exact hu)
            rw [InMemoryOrderStore.get_put, if_neg, hid]
            rintro rfl
            rw [hrec, hnone] at hid
            cases hid
          · exact hid
      | _ => exact absurd hput Bool.false_ne_true

/-- An id that one call is about to use is unused after the operation of another. -/
theorem Filing.unused_after (h : Filing w φ) (ho : saleMonitor.allow o (φ t)) {t' : Nat} {u : Uuid}
    (hu : u ∈ (φ t').sale.drawn) (hne : t' ≠ t ∨ o.putsOrder = false) :
    (env.handle o w).2.orders.get ("ord_" ++ u.render) = none := by
  cases hput : o.putsOrder with
  | false =>
      rw [Env.handle_orders hput]
      exact h.unused t' u hu
  | true =>
      cases o with
      | putOrder record =>
          have hne := hne.resolve_right (by simp [hput])
          rw [Env.handle_putOrder_orders]
          split
          · obtain ⟨request, us, -, hsale, ⟨⟨v, hv, hrec⟩, -, -⟩⟩ := ho
            rw [InMemoryOrderStore.get_put, hrec, if_neg, h.unused t' u hu]
            intro heq
            obtain rfl := orderId_injective heq
            exact hne (h.apart t' t u hu (by rw [hsale]; exact hv))
          · exact h.unused t' u hu
      | _ => exact absurd hput Bool.false_ne_true

/-- An id drawn now is on no record. -/
theorem Filing.fresh (h : Filing w φ) : w.orders.get ("ord_" ++ (⟨w.clock⟩ : Uuid).render) = none := by
  rw [Option.eq_none_iff_forall_ne_some]
  intro order hget
  exact not_drawn le_rfl (h.filed _ order hget)

/-- The ids a call may use after a step: the ones before, or the one just drawn. -/
theorem SaleStep.drawn {q q' : Seller} {e : Event Op.Ans} (h : SaleStep q e q') {u : Uuid}
    (hu : u ∈ q'.sale.drawn) :
    (u ∈ q.sale.drawn ∧ e.1.putsOrder = false) ∨ e = ⟨.newUuid, u⟩ := by
  cases h with
  | kept q e _ hput => exact Or.inl ⟨hu, hput⟩
  | drew call us v =>
      rcases List.mem_cons.mp hu with rfl | hu
      · exact Or.inr rfl
      · exact Or.inl ⟨hu, rfl⟩
  | _ => exact absurd hu List.not_mem_nil

/-- The same for every call, after an operation of `t`. -/
theorem drawn_after (ho : saleMonitor.allow o (φ t)) {t' : Nat} {u : Uuid}
    (hu : u ∈ (Function.update φ t (saleMonitor.next o (φ t) (env.handle o w).1) t').sale.drawn) :
    (u ∈ (φ t').sale.drawn ∧ (t' ≠ t ∨ o.putsOrder = false)) ∨
      (t' = t ∧ o = .newUuid ∧ u = ⟨w.clock⟩) := by
  by_cases ht : t' = t
  · subst ht
    rw [Function.update_self] at hu
    rcases (saleMonitor_step _ ho).drawn hu with ⟨hm, hput⟩ | he
    · exact Or.inl ⟨hm, Or.inr hput⟩
    · obtain ⟨rfl, hx⟩ := Sigma.mk.inj_iff.mp he
      exact Or.inr ⟨rfl, rfl, (eq_of_heq hx).symm⟩
  · rw [Function.update_of_ne ht] at hu
    exact Or.inl ⟨hu, Or.inl ht⟩

theorem Filing.did (h : Filing w φ) (ho : saleMonitor.allow o (φ t)) :
    Filing (env.handle o w).2
      (Function.update φ t (saleMonitor.next o (φ t) (env.handle o w).1)) := by
  constructor
  · intro t' u hu
    rw [Env.handle_clock]
    rcases drawn_after ho hu with ⟨hm, -⟩ | ⟨-, -, rfl⟩
    · exact Nat.lt_succ_of_lt (h.drawn t' u hm)
    · exact Nat.lt_succ_self _
  · intro t' u hu
    rcases drawn_after ho hu with ⟨hm, hne⟩ | ⟨-, rfl, rfl⟩
    · exact h.unused_after ho hm hne
    · exact h.fresh
  · intro t₁ t₂ u h₁ h₂
    rcases drawn_after ho h₁ with ⟨hm₁, -⟩ | ⟨rfl, -, rfl⟩
    · rcases drawn_after ho h₂ with ⟨hm₂, -⟩ | ⟨rfl, -, rfl⟩
      · exact h.apart t₁ t₂ u hm₁ hm₂
      · have hlt : w.clock < w.clock := h.drawn t₁ ⟨w.clock⟩ hm₁
        exact absurd hlt (Nat.lt_irrefl _)
    · rcases drawn_after ho h₂ with ⟨hm₂, -⟩ | ⟨rfl, -, -⟩
      · have hlt : w.clock < w.clock := h.drawn t₂ ⟨w.clock⟩ hm₂
        exact absurd hlt (Nat.lt_irrefl _)
      · rfl
  · intro id order hget
    cases hput : o.putsOrder with
    | false =>
        rw [Env.handle_orders hput] at hget
        exact (h.filed id order hget).step
    | true =>
        cases o with
        | putOrder record =>
            rw [Env.handle_putOrder_orders] at hget
            split at hget
            · rw [InMemoryOrderStore.get_put] at hget
              split at hget
              · next hid =>
                  obtain ⟨request, us, -, hsale, ⟨⟨u, hu, hrec⟩, -, -⟩⟩ := ho
                  have hlt := h.drawn t u (by rw [hsale]; exact hu)
                  refine Drawn.step ⟨u.val, hlt, ?_⟩
                  rw [hid, hrec]
              · exact (h.filed id order hget).step
            · exact (h.filed id order hget).step
        | _ => exact absurd hput Bool.false_ne_true

end Filing

/-! ## Whose outcome a key holds -/

/-- The call `t` asked for `request`, was told to go on, and got `result` for it. -/
structure Bought (calls : List Call) (w : World) (log : List CallEntry) (t : Nat)
    (request : CheckoutRequest) (result : TransactionResult) : Prop where
  call : threadCall calls t = .checkout request
  granted : .did t ⟨.claim (.ofRequest request), .ok none⟩ ∈ log
  answers : ∃ order, AnswersTo w request result order

/-- `result` was bought with `key`. -/
def BoughtWith (calls : List Call) (w : World) (log : List CallEntry) (key : IdempotencyKey)
    (result : TransactionResult) : Prop :=
  ∃ t request, IdempotencyKey.ofRequest request = key ∧ Bought calls w log t request result

/-- What a call has to show for how far it has come. -/
inductive Warrants (calls : List Call) (w : World) (log : List CallEntry) (t : Nat) : Seller → Prop
  | unclaimed (call : Call) : (∀ key, .did t ⟨.claim key, .ok none⟩ ∉ log) →
      Warrants calls w log t ⟨call, .unclaimed⟩
  | owner (request : CheckoutRequest) (us : List Uuid) :
      .did t ⟨.claim (.ofRequest request), .ok none⟩ ∈ log →
      Warrants calls w log t ⟨.checkout request, .owner us⟩
  | ordered (request : CheckoutRequest) (order : OrderRecord) :
      .did t ⟨.claim (.ofRequest request), .ok none⟩ ∈ log →
      w.orders.get order.orderId = some order → order.tenantId = request.tenantId →
      order.checkoutId = request.cartId →
      Warrants calls w log t ⟨.checkout request, .ordered order⟩
  | settled (request : CheckoutRequest) (result : TransactionResult) :
      (result.status = .completed → Bought calls w log t request result) →
      Warrants calls w log t ⟨.checkout request, .settled result⟩
  | replayed (request : CheckoutRequest) (result : TransactionResult) :
      (∀ key, .did t ⟨.claim key, .ok none⟩ ∉ log) →
      (result.status = .completed → BoughtWith calls w log (.ofRequest request) result) →
      Warrants calls w log t ⟨.checkout request, .replayed result⟩
  | stopped (call : Call) : Warrants calls w log t ⟨call, .stopped⟩

/-- What holds throughout a run: completed outcomes, stored or known to a call, are
bought with their key, by the call itself if it was told to go on. -/
structure Sold (calls : List Call) (w : World) (φ : Nat → Seller) (log : List CallEntry) :
    Prop where
  runs : ∀ t, (φ t).call = threadCall calls t
  filing : Filing w φ
  shows : ∀ t, Warrants calls w log t (φ t)
  completed : ∀ key result, w.idempotency.lookup key = some (.completed result) →
    result.status = .completed → BoughtWith calls w log key result
  returned : ∀ t request result, .returned t (.checkout request (.ok result)) ∈ log →
    φ t = ⟨.checkout request, .settled result⟩ ∨ φ t = ⟨.checkout request, .replayed result⟩

section Sold

variable {calls : List Call} {φ : Nat → Seller} {log log' : List CallEntry} {t : Nat} {o : Op}
  {q q' : Seller} {e : Event Op.Ans} {result : TransactionResult}

theorem Bought.mono (h : Bought calls w log t request result)
    (hkept : ∀ id order, w.orders.get id = some order → w'.orders.get id = some order)
    (hlog : log ⊆ log') : Bought calls w' log' t request result := by
  obtain ⟨order, hanswers⟩ := h.answers
  exact ⟨h.call, hlog h.granted, order, { hanswers with stored := hkept _ _ hanswers.stored }⟩

theorem BoughtWith.mono (h : BoughtWith calls w log key result)
    (hkept : ∀ id order, w.orders.get id = some order → w'.orders.get id = some order)
    (hlog : log ⊆ log') : BoughtWith calls w' log' key result := by
  obtain ⟨t, request, hkey, hbought⟩ := h
  exact ⟨t, request, hkey, hbought.mono hkept hlog⟩

/-- A key that is completed was so before, or is now. -/
theorem KeyStep.completed_cases {s : Option IdempotencyState}
    (h : KeyStep key e s (some (.completed result))) :
    s = some (.completed result) ∨ ∃ x, e = ⟨.complete key result, x⟩ := by
  cases h with
  | completed _ _ => exact Or.inr ⟨_, rfl⟩
  | _ => exact Or.inl rfl

/-- An owner that completes its key as completed has bought the result. -/
theorem Warrants.bought {s : Sale} (h : Warrants calls w log t ⟨.checkout request, s⟩)
    (hcall : threadCall calls t = .checkout request) (hs : SettlesOn request result s)
    (hcompleted : result.status = .completed) : Bought calls w log t request result := by
  cases hs with
  | unsold us hno => exact absurd hcompleted hno
  | sold order hnamed hamt =>
      cases h with
      | ordered _ _ hgranted hstored htenant hcart =>
          exact ⟨hcall, hgranted, order, hstored, hnamed, htenant, hcart, hamt⟩

/-- What a call has to show stays what it is where only other calls are granted a key. -/
theorem Warrants.mono (h : Warrants calls w log t q)
    (hkept : ∀ id order, w.orders.get id = some order → w'.orders.get id = some order)
    (hlog : log ⊆ log')
    (hnew : ∀ key, .did t ⟨.claim key, .ok none⟩ ∈ log' → .did t ⟨.claim key, .ok none⟩ ∈ log) :
    Warrants calls w' log' t q := by
  cases h with
  | unclaimed call hno => exact .unclaimed call fun key hm => hno key (hnew key hm)
  | owner request us hgranted => exact .owner request us (hlog hgranted)
  | ordered request order hgranted hstored htenant hcart =>
      exact .ordered request order (hlog hgranted) (hkept _ _ hstored) htenant hcart
  | settled request result hb => exact .settled request result fun hc => (hb hc).mono hkept hlog
  | replayed request result hno hb =>
      exact .replayed request result (fun key hm => hno key (hnew key hm))
        fun hc => (hb hc).mono hkept hlog
  | stopped call => exact .stopped call

/-- The next step of a call: what it has to show then it has. -/
theorem Warrants.next (h : Warrants calls w log t q) (hstep : SaleStep q e q')
    (hcall : q.call = threadCall calls t)
    (hkept : ∀ id order, w.orders.get id = some order → w'.orders.get id = some order)
    (hput : ∀ order, e = ⟨.putOrder order, .ok ()⟩ → w'.orders.get order.orderId = some order)
    (htold : ∀ key result, e = ⟨.claim key, .ok (some (.completed result))⟩ →
      result.status = .completed → BoughtWith calls w log key result) :
    Warrants calls w' (log ++ [.did t e]) t q' := by
  have hlog : log ⊆ log ++ [.did t e] := List.subset_append_left _ _
  have hnew (hne : ∀ key, e ≠ ⟨.claim key, .ok none⟩) (key : IdempotencyKey)
      (hm : .did t ⟨.claim key, .ok none⟩ ∈ log ++ [.did t e]) :
      .did t ⟨.claim key, .ok none⟩ ∈ log := by
    rcases List.mem_append.mp hm with hm | hm
    · exact hm
    · exact absurd (Entry.did.inj (List.mem_singleton.mp hm)).2.symm (hne key)
  cases hstep with
  | kept q e hclaim _ =>
      refine h.mono hkept hlog (hnew fun key he => ?_)
      exact hclaim key (congrArg Sigma.fst he)
  | granted request =>
      exact .owner request [] (List.mem_append_right _ (List.mem_singleton_self _))
  | told request result =>
      cases h with
      | unclaimed _ hno =>
          refine .replayed request result (fun key hm => ?_) fun hc => ?_
          · exact hno key (hnew (by simp) key hm)
          · exact (htold _ result rfl hc).mono hkept hlog
  | drew call us u =>
      cases h with
      | owner request us hgranted => exact .owner request (u :: us) (hlog hgranted)
  | ordered request us order hfiles =>
      cases h with
      | owner _ _ hgranted =>
          exact .ordered request order (hlog hgranted) (hput order rfl) hfiles.tenant hfiles.cart
  | settled request result s hs =>
      exact .settled request result fun hc => (h.bought hcall.symm hs hc).mono hkept hlog
  | stopped call s e _ => exact .stopped call

/-- One allowed operation of one thread. -/
theorem Sold.did (h : Sold calls w φ log) (ho : saleMonitor.allow o (φ t)) :
    Sold calls (env.handle o w).2
      (Function.update φ t (saleMonitor.next o (φ t) (env.handle o w).1))
      (log ++ [.did t ⟨o, (env.handle o w).1⟩]) := by
  have hstep := saleMonitor_step (env.handle o w).1 ho
  have hkept (id : String) (order : OrderRecord) (hid : w.orders.get id = some order) :
      (env.handle o w).2.orders.get id = some order := h.filing.kept ho hid
  have hlog : log ⊆ log ++ [.did t ⟨o, (env.handle o w).1⟩] := List.subset_append_left _ _
  have hself := Function.update_self t (saleMonitor.next o (φ t) (env.handle o w).1) φ
  have hother : ∀ t', t' ≠ t →
      Function.update φ t (saleMonitor.next o (φ t) (env.handle o w).1) t' = φ t' :=
    fun t' ht => Function.update_of_ne ht _ _
  constructor
  · intro t'
    by_cases ht : t' = t
    · subst ht
      rw [hself]
      exact h.runs t'
    · rw [hother t' ht]
      exact h.runs t'
  · exact h.filing.did ho
  · intro t'
    by_cases ht : t' = t
    · subst ht
      rw [hself]
      refine (h.shows t').next hstep (h.runs t') hkept (fun order he => ?_)
        fun key result he hcompleted => ?_
      · obtain ⟨rfl, hx⟩ := Sigma.mk.inj_iff.mp he
        rw [Env.handle_putOrder_orders, eq_of_heq hx, tookHold_ok, if_pos rfl,
          InMemoryOrderStore.get_put, if_pos rfl]
      · obtain ⟨rfl, hx⟩ := Sigma.mk.inj_iff.mp he
        exact h.completed key result (Env.handle_claim_ok (eq_of_heq hx)) hcompleted
    · rw [hother t' ht]
      refine (h.shows t').mono hkept hlog fun key hm => ?_
      rcases List.mem_append.mp hm with hm | hm
      · exact hm
      · exact absurd (Entry.did.inj (List.mem_singleton.mp hm)).1 ht
  · intro key result hkey hcompleted
    have hs := env.handle_keyStep key o w
    rw [hkey] at hs
    rcases hs.completed_cases with hkey | ⟨x, he⟩
    · exact (h.completed key result hkey hcompleted).mono hkept hlog
    · obtain ⟨rfl, -⟩ := Sigma.mk.inj_iff.mp he
      obtain ⟨request, hcall, rfl, hsettles⟩ := ho
      have hshows := h.shows t
      rw [show φ t = ⟨.checkout request, (φ t).sale⟩ from congrArg (Seller.mk · _) hcall] at hshows
      have hbought := hshows.bought ((h.runs t).symm.trans hcall) hsettles hcompleted
      exact ⟨t, request, rfl, hbought.mono hkept hlog⟩
  · intro t' request result hm
    have hknown := h.returned t' request result (by simpa using hm)
    by_cases ht : t' = t
    · subst ht
      rw [hself, hstep.known (hknown.imp (congrArg Seller.sale) (congrArg Seller.sale))]
      exact hknown
    · rw [hother t' ht]
      exact hknown

theorem Sold.returns {out : Outcome} (h : Sold calls w φ log) (hout : EndsSale out (φ t)) :
    Sold calls w φ (log ++ [.returned t out]) where
  runs := h.runs
  filing := h.filing
  shows t' := (h.shows t').mono (fun _ _ => id) (List.subset_append_left _ _)
    fun key hm => by simpa using hm
  completed key result hkey hcompleted :=
    (h.completed key result hkey hcompleted).mono (fun _ _ => id) (List.subset_append_left _ _)
  returned := by
    intro t' request result hm
    rcases List.mem_append.mp hm with hm | hm
    · exact h.returned t' request result hm
    · obtain ⟨rfl, rfl⟩ := Entry.returned.inj (List.mem_singleton.mp hm)
      exact hout request result rfl

theorem Sold.start : Sold calls World.empty (fun t => ⟨threadCall calls t, .unclaimed⟩) [] where
  runs _ := rfl
  filing :=
    { drawn := by simp [Sale.drawn]
      unused := by simp [Sale.drawn]
      apart := by simp [Sale.drawn]
      filed := fun _ _ hget => by cases hget }
  shows _ := .unclaimed _ fun _ => List.not_mem_nil
  completed _ _ h := by cases h
  returned _ _ _ h := absurd h List.not_mem_nil

/-- The invariant holds at the end of every schedule. -/
theorem atOnce_sold (env : Env) (runner : Runner) (calls : List Call) (ts : List Nat) :
    ∃ φ, Sold calls (atOnce env runner calls ts World.empty).world φ
      (atOnce env runner calls ts World.empty).log := by
  have hstart : Pool.AllFollow saleMonitor (fun _ => EndsSale)
      (fun t => ⟨threadCall calls t, .unclaimed⟩)
      (Pool.start World.empty (calls.map (·.prog runner))) := by
    intro t p hp
    rw [threadCall_prog hp]
    exact Call.prog_sells runner _
  refine (Pool.run_invariant (C := fun _ _ _ => True) (I := Sold calls) ?_ ts Sold.start hstart
    Pool.stepsMeet_true).imp fun _ h => h.1
  intro w φ log t o x w' h ho _ hx
  obtain ⟨rfl, rfl⟩ := Handler.shared_eq_some.mp hx
  refine ⟨trivial, h.did ho, fun out hout => ?_⟩
  rw [List.append_cons]
  refine (h.did ho).returns ?_
  rwa [Function.update_self]

end Sold

/-! ## What a call is answered -/

theorem threadCall_checkout {calls : List Call} {t : Nat}
    (h : threadCall calls t = .checkout request) : calls[t]? = some (.checkout request) := by
  rw [threadCall, List.getD_eq_getElem?_getD] at h
  cases hcall : calls[t]? with
  | none =>
      rw [hcall] at h
      cases h
  | some call =>
      rw [hcall] at h
      exact congrArg some h

/-- **A key answers for the call that was told to go on.**  However calls interleave and
whatever is answered: a checkout that returns a completed outcome returns what some
checkout with its key was told to go on for.  The order is on record for that one's
cart and amount, in the tenant's name they share; if the call was told to go on itself,
it is that one. -/
theorem completed_answers_owner (env : Env) (runner : Runner) (calls : List Call) (ts : List Nat)
    (t : Nat) (request : CheckoutRequest) (result : TransactionResult)
    (hret : .returned t (.checkout request (.ok result)) ∈
      (atOnce env runner calls ts World.empty).log)
    (hcompleted : result.status = .completed) :
    let run := atOnce env runner calls ts World.empty
    ∃ t' owner order,
      calls[t']? = some (.checkout owner) ∧
      IdempotencyKey.ofRequest owner = .ofRequest request ∧
      .did t' ⟨.claim (.ofRequest owner), .ok none⟩ ∈ run.log ∧
      AnswersTo run.world owner result order ∧ order.tenantId = request.tenantId ∧
      ((∃ key, .did t ⟨.claim key, .ok none⟩ ∈ run.log) → t' = t ∧ owner = request) := by
  intro run
  obtain ⟨φ, h⟩ : ∃ φ, Sold calls run.world φ run.log := atOnce_sold env runner calls ts
  have hshows := h.shows t
  rcases h.returned t request result hret with hφ | hφ
  · rw [hφ] at hshows
    cases hshows with
    | settled _ _ hbought =>
        have hbought := hbought hcompleted
        obtain ⟨order, hanswers⟩ := hbought.answers
        exact ⟨t, request, order, threadCall_checkout hbought.call, rfl, hbought.granted, hanswers,
          hanswers.tenant, fun _ => ⟨rfl, rfl⟩⟩
  · rw [hφ] at hshows
    cases hshows with
    | replayed _ _ hno hbought =>
        obtain ⟨t', owner, hkey, hbought⟩ := hbought hcompleted
        obtain ⟨order, hanswers⟩ := hbought.answers
        refine ⟨t', owner, order, threadCall_checkout hbought.call, hkey, hbought.granted, hanswers,
          hanswers.tenant.trans (congrArg IdempotencyKey.tenantId hkey), ?_⟩
        rintro ⟨key, hgranted⟩
        exact absurd hgranted (hno key)

namespace Sample

/-- Another cart, another amount, the same key. -/
def another : CheckoutRequest :=
  { Sample.request "k" with
    cartId := ⟨⟨7⟩⟩
    paymentIntent := { amountMinor := 5, tokenOrReference := "tok" } }

/-- The sample cart is filled and checked out, and then the key is used again. -/
def reused : List Call := shopping ++ [.checkout (Sample.request "k"), .checkout another]

/-- These calls one after the other. -/
def reuse : Pool Op.Ans World Outcome :=
  atOnce Env.agreeable Sample.runner reused (inTurn reused) World.empty

end Sample

/-- The request and the outcome of a checkout that has succeeded. -/
def soldTo (t : Nat) (log : List CallEntry) : Option (CheckoutRequest × TransactionResult) :=
  log.findSome? fun
    | .returned t' (.checkout request (.ok result)) =>
        if t' = t then some (request, result) else none
    | _ => none

theorem mem_of_soldTo {t : Nat} {log : List CallEntry} {result : TransactionResult}
    (h : soldTo t log = some (request, result)) :
    .returned t (.checkout request (.ok result)) ∈ log := by
  obtain ⟨e, he, hes⟩ := List.exists_of_findSome?_eq_some h
  split at hes
  · split at hes
    · next ht =>
        cases hes
        exact ht ▸ he
    · cases hes
  · cases hes

theorem completed_answers_owner_sample :
    ∃ (t : Nat) (owner : CheckoutRequest) (result : TransactionResult) (order : OrderRecord),
      Sample.reused[t]? = some (.checkout owner) ∧
      AnswersTo Sample.reuse.world owner result order := by
  have hsold : ∃ p ∈ soldTo 3 Sample.reuse.log, p.2.status = .completed := by decide +kernel
  obtain ⟨⟨request, result⟩, hp, hcompleted⟩ := hsold
  obtain ⟨t, owner, order, hcall, -, -, hanswers, -, -⟩ :=
    completed_answers_owner Env.agreeable Sample.runner Sample.reused _ 3 request result
      (mem_of_soldTo hp) hcompleted
  exact ⟨t, owner, result, order, hcall, hanswers⟩

/-- A key that is used again for another cart and another amount returns the old outcome. -/
theorem reused_key_answers_another :
    ¬ ∀ (env : Env) (runner : Runner) (calls : List Call) (ts : List Nat) (t : Nat)
        (request : CheckoutRequest) (result : TransactionResult),
      .returned t (.checkout request (.ok result)) ∈ (atOnce env runner calls ts World.empty).log →
      result.status = .completed →
      ∃ order, AnswersTo (atOnce env runner calls ts World.empty).world request result order := by
  intro h
  have hsold : ∃ p ∈ soldTo 3 Sample.reuse.log, p.1 = Sample.another ∧ p.2.status = .completed ∧
      p.2.totalsBreakdown.totalMinor = 100 := by
    decide +kernel
  obtain ⟨⟨request, result⟩, hp, rfl, hcompleted, htotal⟩ := hsold
  obtain ⟨order, hanswers⟩ := h Env.agreeable Sample.runner Sample.reused _ 3 _ result
    (mem_of_soldTo hp) hcompleted
  cases htotal.symm.trans hanswers.amount

end Orchestrator
