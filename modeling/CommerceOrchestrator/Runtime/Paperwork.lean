/-
# `CommerceOrchestrator.Runtime.Paperwork` — what a checkout writes, and under which ids

A checkout writes an order, a message and an outcome, in this order and each only
after the one before it has been acknowledged, all under ids it has drawn itself.
`paperMonitor` says so, and every call follows it (`Call.prog_files`).
-/
import CommerceOrchestrator.Runtime.Accounting
import CommerceOrchestrator.Runtime.Fulfillment

namespace Orchestrator

open Effect Prog

/-! ## What a call writes -/

structure Paperwork where
  call : Call
  /-- The UUIDs drawn so far. -/
  ids : List Uuid
  /-- The transactions committed so far. -/
  txns : List String
  /-- The order that was put, and whether that was acknowledged. -/
  order : Option (OrderRecord × Bool)

/-- The transaction ids a call can use. -/
def Paperwork.transactions (q : Paperwork) : List String :=
  q.txns ++ q.ids.map fun u => "txn_" ++ u.render

/-- The call has drawn these ids itself. -/
structure Paperwork.Owns (q : Paperwork) (txn : String) (orderId : Option String) : Prop where
  transaction : txn ∈ q.transactions
  order : ∀ id, orderId = some id → ∃ u ∈ q.ids, id = "ord_" ++ u.render

/-- The transaction and the order an operation writes about. -/
def Op.writes : Op → Option (String × Option String)
  | .putOrder order => some (order.transactionId, some order.orderId)
  | .complete _ result => some (result.transactionId, result.orderId)
  | _ => none

/-- The outcome is about this order, for the tenant of the key. -/
structure AgreesWith (key : IdempotencyKey) (result : TransactionResult) (order : OrderRecord) :
    Prop where
  transaction : order.transactionId = result.transactionId
  totals : order.totals = result.totalsBreakdown
  tenant : order.tenantId = key.tenantId

/-- The message names this order, for its tenant. -/
structure Announces (m : OutboxMessage) (order : OrderRecord) : Prop where
  payload : m.payload = order.orderId
  tenant : m.tenantId = some order.tenantId

/-- A checkout with this key can settle on the outcome: its ids are the checkout's own, and if
there is an order, it has been put and acknowledged and is the one the outcome is about. -/
structure Paperwork.Settles (q : Paperwork) (key : IdempotencyKey) (result : TransactionResult) :
    Prop where
  request : ∃ request, q.call = .checkout request ∧ key = .ofRequest request
  owns : q.Owns result.transactionId result.orderId
  order : ∀ id, result.orderId = some id →
    ∃ order, q.order = some (order, true) ∧ order.orderId = id ∧ AgreesWith key result order

/-- The order the message names has been put and acknowledged. -/
def Paperwork.Backs (q : Paperwork) (m : OutboxMessage) : Prop :=
  ∃ order, q.order = some (order, true) ∧ Announces m order

/-- A checkout puts one order, under ids it has drawn, and announces and settles on it only
once that is acknowledged. -/
def paperMonitor : Monitor Op.Ans Paperwork where
  allow o q :=
    match o with
    | .putOrder order => q.order = none ∧ q.Owns order.transactionId (some order.orderId)
    | .enqueue m => q.Backs m
    | .complete key result => q.Settles key result
    | _ => True
  next o q x :=
    match o, x with
    | .newUuid, u => { q with ids := u :: q.ids }
    | .commit _ _, .ok committed => { q with txns := committed.transactionId :: q.txns }
    | .putOrder order, saved => { q with order := some (order, saved.isOk) }
    | _, _ => q

/-- The operations that touch the paperwork. -/
def Op.files : Op → Bool
  | .putOrder .. | .enqueue .. | .complete .. | .newUuid | .commit .. => true
  | _ => false

theorem paperMonitor_idle {o : Op} {q : Paperwork} {x : o.Ans} (h : o.files = false) :
    paperMonitor.allow o q ∧ paperMonitor.next o q x = q := by
  cases o <;> first | exact ⟨trivial, rfl⟩ | exact absurd h Bool.noConfusion

theorem Op.settles_not_files {o : Op} (h : o.settles) : o.files = false := by
  cases o <;> first | rfl | exact absurd h Bool.false_ne_true

theorem Op.reserves_not_files {o : Op} (h : o.reserves) : o.files = false := by
  cases o <;> first | rfl | exact absurd h Bool.false_ne_true

/-- A cart command files nothing. -/
theorem paperMonitor_carts {o : Op} {q : Paperwork} (h : o.carts) : paperMonitor.allow o q := by
  cases o <;> first | exact trivial | exact absurd h Bool.false_ne_true

/-! ## Paperwork grows -/

/-- Paperwork only grows, and an order is put once. -/
structure Paperwork.Grows (q q' : Paperwork) : Prop where
  call : q'.call = q.call
  ids : q.ids ⊆ q'.ids
  txns : q.txns ⊆ q'.txns
  order : ∀ put, q.order = some put → q'.order = some put

theorem Paperwork.Grows.refl (q : Paperwork) : q.Grows q :=
  ⟨rfl, List.Subset.refl _, List.Subset.refl _, fun _ h => h⟩

variable {q q' : Paperwork}

theorem Paperwork.Grows.transactions (h : q.Grows q') : q.transactions ⊆ q'.transactions := by
  intro txn htxn
  rcases List.mem_append.mp htxn with htxn | htxn
  · exact List.mem_append_left _ (h.txns htxn)
  · exact List.mem_append_right _ (List.map_subset _ h.ids htxn)

theorem Paperwork.Owns.grown {txn : String} {orderId : Option String} (howns : q.Owns txn orderId)
    (h : q.Grows q') : q'.Owns txn orderId where
  transaction := h.transactions howns.transaction
  order id hid := by
    obtain ⟨u, hu, hname⟩ := howns.order id hid
    exact ⟨u, h.ids hu, hname⟩

/-! ## Checkouts follow it -/

section Accepted

variable {runner : Runner} {request : CheckoutRequest} {cart : CartProjection}
  {tr : List (Event Op.Ans)} {r : Except RunnerError TransactionResult} {q : Paperwork}

theorem ConcludePath.files {result : TransactionResult} (h : ConcludePath request result tr r)
    (hcall : q.call = .checkout request) (howns : q.Owns result.transactionId result.orderId)
    (hnone : result.orderId = none) : paperMonitor.Accepts (fun _ => True) tr q := by
  have hallow : paperMonitor.allow (.complete (.ofRequest request) result) q :=
    ⟨⟨request, hcall, rfl⟩, howns, fun id hid => absurd (hnone.symm.trans hid) nofun⟩
  cases h with
  | unreleased e => exact ⟨trivial, fun _ => trivial⟩
  | incomplete e => exact ⟨trivial, fun _ => ⟨hallow, fun _ => trivial⟩⟩
  | concluded x => exact ⟨trivial, fun _ => ⟨hallow, fun _ => ⟨trivial, fun _ => trivial⟩⟩⟩

theorem BookPath.files {committed : CommitRecord} {paid : PaymentOperationResult}
    (h : BookPath request cart committed paid tr r) (hcall : q.call = .checkout request)
    (hnone : q.order = none) (hcommitted : committed.transactionId ∈ q.txns) :
    paperMonitor.Accepts (fun _ => True) tr q := by
  -- the ids of a booking belong to the call once the order's has been drawn
  have howns (b : Booking request cart committed paid) :
      { q with ids := b.event :: b.order :: q.ids }.Owns committed.transactionId
        (some b.record.orderId) := by
    refine ⟨List.mem_append_left _ hcommitted, ?_⟩
    rintro id ⟨⟩
    exact ⟨b.order, by simp, rfl⟩
  have hput (b : Booking request cart committed paid) :
      paperMonitor.allow (.putOrder b.record) { q with ids := b.event :: b.order :: q.ids } :=
    ⟨hnone, howns b⟩
  have hannounce (b : Booking request cart committed paid) (msg : Uuid) :
      paperMonitor.allow (.enqueue (b.message msg))
        { q with
          ids := msg :: b.correlationId :: b.event :: b.order :: q.ids
          order := some (b.record, true) } :=
    ⟨b.record, rfl, rfl, rfl⟩
  have hsettle (b : Booking request cart committed paid) (receipt : ReceiptPayload) (msg : Uuid) :
      paperMonitor.allow (.complete (.ofRequest request) (b.result receipt))
        { q with
          ids := msg :: b.correlationId :: b.event :: b.order :: q.ids
          order := some (b.record, true) } := by
    refine ⟨⟨request, hcall, rfl⟩, (howns b).grown ⟨rfl, ?_, List.Subset.refl _, ?_⟩, ?_⟩
    · exact fun u hu => List.mem_cons_of_mem _ (List.mem_cons_of_mem _ hu)
    · exact fun put hput => absurd (hnone.symm.trans hput) nofun
    · rintro id ⟨⟩
      exact ⟨b.record, rfl, rfl, rfl, rfl, rfl⟩
  cases h with
  | unordered b e =>
      exact ⟨trivial, fun _ => ⟨trivial, fun _ => ⟨trivial, fun _ => ⟨trivial, fun _ =>
        ⟨hput b, fun _ => trivial⟩⟩⟩⟩⟩
  | unreceipted b e =>
      exact ⟨trivial, fun _ => ⟨trivial, fun _ => ⟨trivial, fun _ => ⟨trivial, fun _ =>
        ⟨hput b, fun _ => ⟨trivial, fun _ => ⟨trivial, fun _ => trivial⟩⟩⟩⟩⟩⟩⟩
  | unfinalized b receipt e =>
      exact ⟨trivial, fun _ => ⟨trivial, fun _ => ⟨trivial, fun _ => ⟨trivial, fun _ =>
        ⟨hput b, fun _ => ⟨trivial, fun _ => ⟨trivial, fun _ => ⟨trivial, fun _ => trivial⟩⟩⟩⟩⟩⟩⟩⟩
  | unannounced b receipt msg e =>
      exact ⟨trivial, fun _ => ⟨trivial, fun _ => ⟨trivial, fun _ => ⟨trivial, fun _ =>
        ⟨hput b, fun _ => ⟨trivial, fun _ => ⟨trivial, fun _ => ⟨trivial, fun _ => ⟨trivial, fun _ =>
          ⟨hannounce b msg, fun _ => trivial⟩⟩⟩⟩⟩⟩⟩⟩⟩⟩
  | incomplete b receipt msg e =>
      exact ⟨trivial, fun _ => ⟨trivial, fun _ => ⟨trivial, fun _ => ⟨trivial, fun _ =>
        ⟨hput b, fun _ => ⟨trivial, fun _ => ⟨trivial, fun _ => ⟨trivial, fun _ => ⟨trivial, fun _ =>
          ⟨hannounce b msg, fun _ => ⟨hsettle b receipt msg, fun _ => trivial⟩⟩⟩⟩⟩⟩⟩⟩⟩⟩⟩
  | booked b receipt msg x =>
      exact ⟨trivial, fun _ => ⟨trivial, fun _ => ⟨trivial, fun _ => ⟨trivial, fun _ =>
        ⟨hput b, fun _ => ⟨trivial, fun _ => ⟨trivial, fun _ => ⟨trivial, fun _ => ⟨trivial, fun _ =>
          ⟨hannounce b msg, fun _ => ⟨hsettle b receipt msg, fun _ =>
            ⟨trivial, fun _ => trivial⟩⟩⟩⟩⟩⟩⟩⟩⟩⟩⟩⟩

theorem PayPath.files (h : PayPath runner request cart tr r) :
    paperMonitor.Accepts (fun _ => True) tr ⟨.checkout request, [], [], none⟩ := by
  have hunpaid (txn corr : Uuid) : (⟨.checkout request, [corr, txn], [], none⟩ : Paperwork).Owns
      ("txn_" ++ txn.render) none :=
    ⟨by simp [Paperwork.transactions], fun id hid => by cases hid⟩
  cases h with
  | rejected errors txn corr _ hc =>
      exact ⟨trivial, fun _ => ⟨trivial, fun _ => hc.files rfl (hunpaid txn corr) rfl⟩⟩
  | unauthorized e _ => exact ⟨trivial, fun _ => trivial⟩
  | declined auth txn corr _ _ hc =>
      exact ⟨trivial, fun _ => ⟨trivial, fun _ => ⟨trivial, fun _ =>
        hc.files rfl (hunpaid txn corr) rfl⟩⟩⟩
  | uncommitted auth e _ _ => exact ⟨trivial, fun _ => ⟨trivial, fun _ => trivial⟩⟩
  | uncaptured auth committed e _ _ =>
      exact ⟨trivial, fun _ => ⟨trivial, fun _ => ⟨trivial, fun _ => trivial⟩⟩⟩
  | captured auth committed paid _ _ hb =>
      exact ⟨trivial, fun _ => ⟨trivial, fun _ => ⟨trivial, fun _ =>
        hb.files rfl rfl List.mem_cons_self⟩⟩⟩

theorem OwnerPath.files (h : OwnerPath runner request tr r) :
    paperMonitor.Accepts (fun _ => True) tr ⟨.checkout request, [], [], none⟩ := by
  have idle {tr : List (Event Op.Ans)} {q : Paperwork} {P : Paperwork → Prop}
      (htr : ∀ e ∈ tr, e.1.files = false) (hP : P q) : paperMonitor.Accepts P tr q :=
    Monitor.Accepts.idle (fun e he => paperMonitor_idle (htr e he)) hP
  cases h with
  | unsettled e x e' hs =>
      refine Monitor.accepts_append.mpr ?_
      refine idle (fun e he => Op.settles_not_files (hs.settles e he)) ?_
      exact ⟨trivial, fun _ => trivial⟩
  | unreserved cart e hs hr =>
      refine Monitor.accepts_append.mpr ?_
      refine idle (fun e he => Op.settles_not_files (hs.settles e he)) ?_
      exact idle (fun e he => Op.reserves_not_files (hr.reserves e he)) trivial
  | paid cart hs hr hp =>
      refine Monitor.accepts_append.mpr ?_
      refine idle (fun e he => Op.settles_not_files (hs.settles e he)) ?_
      refine Monitor.accepts_append.mpr ?_
      exact idle (fun e he => Op.reserves_not_files (hr.reserves e he)) hp.files

theorem CheckoutPath.files (h : CheckoutPath runner request tr r) :
    paperMonitor.Accepts (fun _ => True) tr ⟨.checkout request, [], [], none⟩ := by
  cases h with
  | invalid _ => trivial
  | unclaimed e _ => exact ⟨trivial, fun _ => trivial⟩
  | inFlight _ => exact ⟨trivial, fun _ => trivial⟩
  | replayed result _ => exact ⟨trivial, fun _ => trivial⟩
  | owned _ ho => exact ⟨trivial, fun _ => ho.files⟩

end Accepted

theorem Call.prog_files (runner : Runner) (call : Call) :
    (call.prog runner).Follows paperMonitor (fun _ _ => True) ⟨call, [], [], none⟩ := by
  refine Follows.of_trace fun tr out h => ?_
  cases call with
  | checkout request =>
      obtain ⟨r, t₁, t₂, rfl, ht, rfl, rfl⟩ := trace_bind.mp h
      rw [List.append_nil]
      exact (executeCheckout_trace ht).files
  | cart command cartId =>
      obtain ⟨r, t₁, t₂, rfl, ht, rfl, rfl⟩ := trace_bind.mp h
      rw [List.append_nil]
      exact Monitor.Accepts.free fun e he q =>
        paperMonitor_carts (dispatchCartCommand_carts ht e he)

/-! ## What one operation changes -/

section Step

variable {o : Op} {w : World} {env : Env}

theorem paperMonitor_grows (x : o.Ans) (ho : paperMonitor.allow o q) :
    q.Grows (paperMonitor.next o q x) := by
  cases hfiles : o.files with
  | false =>
      rw [(paperMonitor_idle hfiles).2]
      exact .refl q
  | true =>
      cases o with
      | newUuid => exact ⟨rfl, List.subset_cons_self _ _, List.Subset.refl _, fun _ h => h⟩
      | commit cartId ref =>
          cases x with
          | error e => exact .refl q
          | ok committed =>
              exact ⟨rfl, List.Subset.refl _, List.subset_cons_self _ _, fun _ h => h⟩
      | putOrder order =>
          refine ⟨rfl, List.Subset.refl _, List.Subset.refl _, fun put hput => ?_⟩
          rw [ho.1] at hput
          cases hput
      | enqueue m => exact .refl q
      | complete key result => exact .refl q
      | _ => exact absurd hfiles Bool.false_ne_true

/-- What an allowed operation writes is under the call's own ids. -/
theorem paperMonitor_writes {txn : String} {orderId : Option String}
    (ho : paperMonitor.allow o q) (hwrites : o.writes = some (txn, orderId)) :
    q.Owns txn orderId := by
  cases o with
  | putOrder order =>
      cases hwrites
      exact ho.2
  | complete key result =>
      cases hwrites
      exact Paperwork.Settles.owns ho
  | _ => cases hwrites

theorem Paperwork.Settles.grown {key : IdempotencyKey} {result : TransactionResult}
    (hsettles : q.Settles key result) (h : q.Grows q') : q'.Settles key result where
  request := by
    rw [h.call]
    exact hsettles.request
  owns := hsettles.owns.grown h
  order id hid := by
    obtain ⟨order, hput, hagrees⟩ := hsettles.order id hid
    exact ⟨order, h.order _ hput, hagrees⟩

theorem Paperwork.Backs.grown {m : OutboxMessage} (hbacks : q.Backs m) (h : q.Grows q') :
    q'.Backs m := by
  obtain ⟨order, hput, hannounces⟩ := hbacks
  exact ⟨order, h.order _ hput, hannounces⟩

/-- The only id an operation can add is the one drawn now. -/
theorem paperMonitor_ids {u : Uuid}
    (hu : u ∈ (paperMonitor.next o q (env.handle o w).1).ids) : u ∈ q.ids ∨ u = ⟨w.clock⟩ := by
  cases hfiles : o.files with
  | false =>
      rw [(paperMonitor_idle hfiles).2] at hu
      exact Or.inl hu
  | true =>
      cases o with
      | newUuid => exact (List.mem_cons.mp hu).symm
      | commit cartId ref =>
          cases hx : (env.handle (.commit cartId ref) w).1 with
          | error e =>
              rw [hx] at hu
              exact Or.inl hu
          | ok committed =>
              rw [hx] at hu
              exact Or.inl hu
      | putOrder _ | enqueue _ | complete _ _ => exact Or.inl hu
      | _ => exact absurd hfiles Bool.false_ne_true

/-- The only transaction an operation can add is named by the id drawn now. -/
theorem paperMonitor_transactions {txn : String}
    (htxn : txn ∈ (paperMonitor.next o q (env.handle o w).1).transactions) :
    txn ∈ q.transactions ∨ txn = "txn_" ++ (⟨w.clock⟩ : Uuid).render := by
  cases hfiles : o.files with
  | false =>
      rw [(paperMonitor_idle hfiles).2] at htxn
      exact Or.inl htxn
  | true =>
      cases o with
      | newUuid =>
          rcases List.mem_append.mp htxn with htxn | htxn
          · exact Or.inl (List.mem_append_left _ htxn)
          · rcases List.mem_cons.mp htxn with rfl | htxn
            · exact Or.inr rfl
            · exact Or.inl (List.mem_append_right _ htxn)
      | commit cartId ref =>
          cases hx : (env.handle (.commit cartId ref) w).1 with
          | error e =>
              rw [hx] at htxn
              exact Or.inl htxn
          | ok committed =>
              rw [hx] at htxn
              rcases List.mem_cons.mp htxn with rfl | htxn
              · exact Or.inr (commit_transactionId hx)
              · exact Or.inl htxn
      | putOrder _ | enqueue _ | complete _ _ => exact Or.inl htxn
      | _ => exact absurd hfiles Bool.false_ne_true

end Step

end Orchestrator
