/-
# `CommerceOrchestrator.Runtime.Paths` — every path through a checkout

The inversion of `executeCheckout`: one inductive relation per stretch of the
procedure, one constructor per exit, carrying the events up to that exit and
the tests that were passed.  What later modules say about checkouts they say by
cases on these relations; none of them unfolds the procedure again.

    DiscountPath, RepricePath, SettlePath   load, re-price, geo, snapshot, amount
    ReservePath                             one reservation per line
    ConcludePath                            stock back, key settled, payment state
    BookPath                                everything after capture has answered
    PayPath                                 policy, authorize, commit, capture
    OwnerPath, CheckoutPath                 the whole call, from the claim on
-/
import CommerceOrchestrator.Runtime.Checkout
import CommerceOrchestrator.Runtime.Frames

namespace Orchestrator

open Effect Prog

variable {α β ε : Type} {tr : List (Event Op.Ans)}

/-! ## Paths through the runner's combinators -/

theorem trace_ask {o : Op} {x : o.Ans} : (ask o).Trace tr x ↔ tr = [⟨o, x⟩] := trace_perform

theorem trace_call_bind {o : Op} {k : o.Ans → Run β} {r : Except RunnerError β} :
    (call o >>= k).run.Trace tr r ↔
      ∃ x tr', tr = ⟨o, x⟩ :: tr' ∧ (k x).run.Trace tr' r := Iff.rfl

theorem trace_tryWith {f : ε → RunnerError} {p : Eff (Except ε α)} {r : Except RunnerError α} :
    (tryWith f p).run.Trace tr r ↔ ∃ x, p.Trace tr x ∧ r = Except.mapError f x := by
  simp only [tryWith, ExceptT.run_mk, map_eq_pure_bind, trace_bind]
  constructor
  · rintro ⟨x, t₁, t₂, rfl, h, rfl, rfl⟩
    exact ⟨x, by simpa using h, rfl⟩
  · rintro ⟨x, h, rfl⟩
    exact ⟨x, tr, [], by simp, h, rfl, rfl⟩

/-- `p.await.map_err(f)?` in front of `k`. -/
theorem trace_tryWith_bind {f : ε → RunnerError} {p : Eff (Except ε α)} {k : α → Run β}
    {r : Except RunnerError β} :
    (tryWith f p >>= k).run.Trace tr r ↔
      (∃ e, p.Trace tr (.error e) ∧ r = .error (f e)) ∨
      (∃ a t₁ t₂, tr = t₁ ++ t₂ ∧ p.Trace t₁ (.ok a) ∧ (k a).run.Trace t₂ r) := by
  rw [trace_bind_except]
  simp only [trace_tryWith]
  constructor
  · rintro (⟨e, ⟨x | x, h, hx⟩, rfl⟩ | ⟨a, t₁, t₂, rfl, ⟨x | x, h, hx⟩, hk⟩)
    · cases hx
      exact Or.inl ⟨x, h, rfl⟩
    · cases hx
    · cases hx
    · cases hx
      exact Or.inr ⟨_, t₁, t₂, rfl, h, hk⟩
  · rintro (⟨e, h, rfl⟩ | ⟨a, t₁, t₂, rfl, h, hk⟩)
    · exact Or.inl ⟨_, ⟨_, h, rfl⟩, rfl⟩
    · exact Or.inr ⟨a, t₁, t₂, rfl, ⟨_, h, rfl⟩, hk⟩

theorem trace_tryCatch {p : Run α} {f : RunnerError → Run α} {r : Except RunnerError α} :
    (tryCatch p f).run.Trace tr r ↔
      (∃ a, p.run.Trace tr (.ok a) ∧ r = .ok a) ∨
      (∃ e t₁ t₂, tr = t₁ ++ t₂ ∧ p.run.Trace t₁ (.error e) ∧ (f e).run.Trace t₂ r) := by
  rw [ExceptT.run_tryCatch, trace_bind]
  constructor
  · rintro ⟨e | a, t₁, t₂, rfl, h, hk⟩
    · exact Or.inr ⟨e, t₁, t₂, rfl, h, hk⟩
    · obtain ⟨rfl, rfl⟩ := hk
      exact Or.inl ⟨a, by simpa using h, rfl⟩
  · rintro (⟨a, h, rfl⟩ | ⟨e, t₁, t₂, rfl, h, hk⟩)
    · exact ⟨.ok a, tr, [], by simp, h, rfl, rfl⟩
    · exact ⟨.error e, t₁, t₂, rfl, h, hk⟩

theorem trace_failIf_bind {bad : Prop} [Decidable bad] {e : RunnerError} {k : Unit → Run α}
    {r : Except RunnerError α} :
    (failIf bad e >>= k).run.Trace tr r ↔
      (bad ∧ tr = [] ∧ r = .error e) ∨ (¬ bad ∧ (k ()).run.Trace tr r) := by
  by_cases hbad : bad
  · simp only [failIf, hbad, true_and, not_true_eq_false, false_and, or_false]
    exact Iff.rfl
  · simp only [failIf, hbad, false_and, not_false_eq_true, true_and, false_or]
    exact Iff.rfl

@[simp] theorem okOr_some (a : α) (e : RunnerError) : okOr (some a) e = pure a := rfl

@[simp] theorem okOr_none (e : RunnerError) : okOr (none : Option α) e = throw e := rfl

/-! ## Settling -/

/-- Paths of `applyDiscounts`. -/
inductive DiscountPath (cart : CartProjection) :
    List (Event Op.Ans) → Except RunnerError CartProjection → Prop
  | none : cart.adjustmentCodes = [] → DiscountPath cart [] (.ok cart.withoutDiscounts)
  | failed (e : PricingError) : cart.adjustmentCodes ≠ [] →
      DiscountPath cart [⟨.resolveDiscounts cart cart.adjustmentCodes, .error e⟩]
        (.error (.pricing e))
  | applied (ds : List AppliedDiscount) : cart.adjustmentCodes ≠ [] →
      DiscountPath cart [⟨.resolveDiscounts cart cart.adjustmentCodes, .ok ds⟩]
        (.ok (cart.withDiscounts ds))

/-- Paths of `repriceForCheckout`. -/
inductive RepricePath (cart : CartProjection) :
    List (Event Op.Ans) → Except RunnerError CartProjection → Prop
  | unpriced (e : PricingError) :
      RepricePath cart [⟨.resolvePrices cart, .error e⟩] (.error (.pricing e))
  | untaxed (ps : List LinePrice) (e : TaxError) :
      RepricePath cart
        [⟨.resolvePrices cart, .ok ps⟩, ⟨.resolveTax (cart.withPrices ps), .error e⟩]
        (.error (.tax e))
  | discounted (ps : List LinePrice) (tax : TaxResult) {tr : List (Event Op.Ans)}
      {r : Except RunnerError CartProjection} :
      DiscountPath ((cart.withPrices ps).withTax tax) tr r →
      RepricePath cart
        (⟨.resolvePrices cart, .ok ps⟩ :: ⟨.resolveTax (cart.withPrices ps), .ok tax⟩ :: tr) r

/-- The stored cart may be checked out by this request, before any provider is asked. -/
structure Admits (request : CheckoutRequest) (cart : CartProjection) : Prop where
  tenant : ∀ owner, cart.tenantId = some owner → owner = request.tenantId
  version : cart.version = request.cartVersion

/-- The geo question a checkout asks about the re-priced cart. -/
abbrev geoOp (cart : CartProjection) : Op := .checkGeo cart (geoCheckRequest cart)

/-- Paths of `settleCartForCheckout`. -/
inductive SettlePath (request : CheckoutRequest) :
    List (Event Op.Ans) → Except RunnerError CartProjection → Prop
  | missing :
      SettlePath request [⟨.getCartSnapshot request.cartId, none⟩] (.error .cartNotFound)
  | refused (cart : CartProjection) (e : RunnerError) : ¬ Admits request cart →
      SettlePath request [⟨.getCartSnapshot request.cartId, some cart⟩] (.error e)
  | unpriced (cart : CartProjection) {tr : List (Event Op.Ans)} (e : RunnerError) :
      Admits request cart → RepricePath cart tr (.error e) →
      SettlePath request (⟨.getCartSnapshot request.cartId, some cart⟩ :: tr) (.error e)
  | ungeo (cart repriced : CartProjection) {tr : List (Event Op.Ans)} (e : GeoError) :
      Admits request cart → RepricePath cart tr (.ok repriced) →
      SettlePath request
        (⟨.getCartSnapshot request.cartId, some cart⟩ :: tr ++ [⟨geoOp repriced, .error e⟩])
        (.error (.geo e))
  | unsaved (cart repriced : CartProjection) {tr : List (Event Op.Ans)} (g : GeoCheckResult)
      (e : StoreError) :
      Admits request cart → RepricePath cart tr (.ok repriced) →
      SettlePath request
        (⟨.getCartSnapshot request.cartId, some cart⟩ :: tr ++
          [⟨geoOp repriced, .ok g⟩,
            ⟨.putCartSnapshot { repriced with geoOk := g.allowed }, .error e⟩])
        (.error (.store e))
  | blocked (cart repriced : CartProjection) {tr : List (Event Op.Ans)} (g : GeoCheckResult)
      (e : RunnerError) :
      Admits request cart → RepricePath cart tr (.ok repriced) →
      ¬ (g.allowed = true ∧ request.paymentIntent.amountMinor = repriced.totalMinor) →
      SettlePath request
        (⟨.getCartSnapshot request.cartId, some cart⟩ :: tr ++
          [⟨geoOp repriced, .ok g⟩,
            ⟨.putCartSnapshot { repriced with geoOk := g.allowed }, .ok ()⟩])
        (.error e)
  | settled (cart repriced : CartProjection) {tr : List (Event Op.Ans)} (g : GeoCheckResult) :
      Admits request cart → RepricePath cart tr (.ok repriced) →
      g.allowed = true → request.paymentIntent.amountMinor = repriced.totalMinor →
      SettlePath request
        (⟨.getCartSnapshot request.cartId, some cart⟩ :: tr ++
          [⟨geoOp repriced, .ok g⟩,
            ⟨.putCartSnapshot { repriced with geoOk := g.allowed }, .ok ()⟩])
        (.ok { repriced with geoOk := g.allowed })

/-- Paths of `reserveLines`. -/
inductive ReservePath (cartId : CartId) :
    List CartLineProjection → List (Event Op.Ans) → Except RunnerError Unit → Prop
  | done : ReservePath cartId [] [] (.ok ())
  | failed (line : CartLineProjection) (lines : List CartLineProjection) (e : StoreError) :
      ReservePath cartId (line :: lines)
        [⟨.reserve cartId line.itemId line.quantity reservationTtl, .error e⟩] (.error (.store e))
  | next (line : CartLineProjection) {lines : List CartLineProjection}
      {tr : List (Event Op.Ans)} {r : Except RunnerError Unit} : ReservePath cartId lines tr r →
      ReservePath cartId (line :: lines)
        (⟨.reserve cartId line.itemId line.quantity reservationTtl, .ok ()⟩ :: tr) r

/-! ## Outcomes -/

/-- Paths of `concludeUnpaid`. -/
inductive ConcludePath (request : CheckoutRequest) (result : TransactionResult) :
    List (Event Op.Ans) → Except RunnerError TransactionResult → Prop
  | unreleased (e : StoreError) :
      ConcludePath request result [⟨.releaseCart request.cartId, .error e⟩] (.error (.store e))
  | incomplete (e : StoreError) :
      ConcludePath request result
        [⟨.releaseCart request.cartId, .ok ()⟩,
          ⟨.complete (.ofRequest request) result, .error e⟩]
        (.error (.store e))
  | concluded (x : Except StoreError Unit) :
      ConcludePath request result
        [⟨.releaseCart request.cartId, .ok ()⟩,
          ⟨.complete (.ofRequest request) result, .ok ()⟩,
          ⟨.putPaymentState result.transactionId result.paymentState, x⟩]
        (.ok result)

/-- The values `bookOrder` draws and the order and result it builds from them. -/
structure Booking (request : CheckoutRequest) (cart : CartProjection) (committed : CommitRecord)
    (capture : PaymentOperationResult) where
  order : Uuid
  event : Uuid
  occurredAt : Int
  createdAt : Int
  correlationId : Uuid

namespace Booking

variable {request : CheckoutRequest} {cart : CartProjection} {committed : CommitRecord}
  {capture : PaymentOperationResult}

def record (b : Booking request cart committed capture) : OrderRecord :=
  orderRecord request cart committed b.order b.event b.occurredAt b.createdAt

/-- The result before the receipt is filled in. -/
def unreceipted (b : Booking request cart committed capture) : TransactionResult :=
  paidResult cart committed capture .completed b.record.orderId b.correlationId

def result (b : Booking request cart committed capture) (receipt : ReceiptPayload) :
    TransactionResult :=
  { b.unreceipted with receiptPayload := some receipt.content }

def message (b : Booking request cart committed capture) (msg : Uuid) : OutboxMessage :=
  orderMessage request msg b.record.orderId b.correlationId

/-- The draws up to the order. -/
def draws (b : Booking request cart committed capture) : List (Event Op.Ans) :=
  [⟨.newUuid, b.order⟩, ⟨.newUuid, b.event⟩, ⟨.utcNow, b.occurredAt⟩, ⟨.utcNow, b.createdAt⟩]

end Booking

/-- Paths of `bookOrder`. -/
inductive BookPath (request : CheckoutRequest) (cart : CartProjection) (committed : CommitRecord)
    (capture : PaymentOperationResult) :
    List (Event Op.Ans) → Except RunnerError TransactionResult → Prop
  | unordered (b : Booking request cart committed capture) (e : StoreError) :
      BookPath request cart committed capture (b.draws ++ [⟨.putOrder b.record, .error e⟩])
        (.error (.store e))
  | unreceipted (b : Booking request cart committed capture) (e : ReceiptError) :
      BookPath request cart committed capture
        (b.draws ++ [⟨.putOrder b.record, .ok ()⟩, ⟨.newUuid, b.correlationId⟩,
          ⟨.generate cart b.unreceipted, .error e⟩])
        (.error (.receipt e))
  | unfinalized (b : Booking request cart committed capture) (receipt : ReceiptPayload)
      (e : StoreError) :
      BookPath request cart committed capture
        (b.draws ++ [⟨.putOrder b.record, .ok ()⟩, ⟨.newUuid, b.correlationId⟩,
          ⟨.generate cart b.unreceipted, .ok receipt⟩,
          ⟨.finalizeCart request.cartId, .error e⟩])
        (.error (.store e))
  | unannounced (b : Booking request cart committed capture) (receipt : ReceiptPayload)
      (msg : Uuid) (e : StoreError) :
      BookPath request cart committed capture
        (b.draws ++ [⟨.putOrder b.record, .ok ()⟩, ⟨.newUuid, b.correlationId⟩,
          ⟨.generate cart b.unreceipted, .ok receipt⟩,
          ⟨.finalizeCart request.cartId, .ok ()⟩, ⟨.newUuid, msg⟩,
          ⟨.enqueue (b.message msg), .error e⟩])
        (.error (.store e))
  | incomplete (b : Booking request cart committed capture) (receipt : ReceiptPayload)
      (msg : Uuid) (e : StoreError) :
      BookPath request cart committed capture
        (b.draws ++ [⟨.putOrder b.record, .ok ()⟩, ⟨.newUuid, b.correlationId⟩,
          ⟨.generate cart b.unreceipted, .ok receipt⟩,
          ⟨.finalizeCart request.cartId, .ok ()⟩, ⟨.newUuid, msg⟩,
          ⟨.enqueue (b.message msg), .ok ()⟩,
          ⟨.complete (.ofRequest request) (b.result receipt), .error e⟩])
        (.error (.store e))
  | booked (b : Booking request cart committed capture) (receipt : ReceiptPayload)
      (msg : Uuid) (x : Except StoreError Unit) :
      BookPath request cart committed capture
        (b.draws ++ [⟨.putOrder b.record, .ok ()⟩, ⟨.newUuid, b.correlationId⟩,
          ⟨.generate cart b.unreceipted, .ok receipt⟩,
          ⟨.finalizeCart request.cartId, .ok ()⟩, ⟨.newUuid, msg⟩,
          ⟨.enqueue (b.message msg), .ok ()⟩,
          ⟨.complete (.ofRequest request) (b.result receipt), .ok ()⟩,
          ⟨.putPaymentState (b.result receipt).transactionId (b.result receipt).paymentState, x⟩])
        (.ok (b.result receipt))

/-- The result of a checkout the policy turned down. -/
def rejectedResult (cart : CartProjection) (txn correlationId : Uuid) (errors : List String) :
    TransactionResult :=
  unpaidResult cart txn correlationId .rejected none (some (";".intercalate errors))

/-- The result of a checkout whose payment was not authorized. -/
def authFailedResult (cart : CartProjection) (txn correlationId : Uuid) (auth : AuthResult) :
    TransactionResult :=
  unpaidResult cart txn correlationId .authFailed (some auth.reference) none

/-- Paths of `payAndBook`. -/
inductive PayPath (runner : Runner) (request : CheckoutRequest) (cart : CartProjection) :
    List (Event Op.Ans) → Except RunnerError TransactionResult → Prop
  | rejected (errors : List String) (txn corr : Uuid) {tr : List (Event Op.Ans)}
      {r : Except RunnerError TransactionResult} :
      runner.policy.checkCheckout request cart.totalMinor = .rejected errors →
      ConcludePath request (rejectedResult cart txn corr errors) tr r →
      PayPath runner request cart (⟨.newUuid, txn⟩ :: ⟨.newUuid, corr⟩ :: tr) r
  | unauthorized (e : PaymentError) :
      runner.policy.checkCheckout request cart.totalMinor = .allowed →
      PayPath runner request cart [⟨.authorize request, .error e⟩] (.error (.payment e))
  | declined (auth : AuthResult) (txn corr : Uuid) {tr : List (Event Op.Ans)}
      {r : Except RunnerError TransactionResult} :
      runner.policy.checkCheckout request cart.totalMinor = .allowed →
      auth.authorized = false →
      ConcludePath request (authFailedResult cart txn corr auth) tr r →
      PayPath runner request cart
        (⟨.authorize request, .ok auth⟩ :: ⟨.newUuid, txn⟩ :: ⟨.newUuid, corr⟩ :: tr) r
  | uncommitted (auth : AuthResult) (e : StoreError) :
      runner.policy.checkCheckout request cart.totalMinor = .allowed →
      auth.authorized = true →
      PayPath runner request cart
        [⟨.authorize request, .ok auth⟩,
          ⟨.commit request.cartId (some auth.reference), .error e⟩]
        (.error (.store e))
  | uncaptured (auth : AuthResult) (committed : CommitRecord) (e : PaymentError) :
      runner.policy.checkCheckout request cart.totalMinor = .allowed →
      auth.authorized = true →
      PayPath runner request cart
        [⟨.authorize request, .ok auth⟩,
          ⟨.commit request.cartId (some auth.reference), .ok committed⟩,
          ⟨.capture (captureRequest request cart committed), .error e⟩]
        (.error (.payment e))
  | captured (auth : AuthResult) (committed : CommitRecord) (capture : PaymentOperationResult)
      {tr : List (Event Op.Ans)} {r : Except RunnerError TransactionResult} :
      runner.policy.checkCheckout request cart.totalMinor = .allowed →
      auth.authorized = true →
      BookPath request cart committed capture tr r →
      PayPath runner request cart
        (⟨.authorize request, .ok auth⟩ ::
          ⟨.commit request.cartId (some auth.reference), .ok committed⟩ ::
          ⟨.capture (captureRequest request cart committed), .ok capture⟩ :: tr) r

/-! ## The whole call -/

/-- Paths of `checkOut`. -/
inductive OwnerPath (runner : Runner) (request : CheckoutRequest) :
    List (Event Op.Ans) → Except RunnerError TransactionResult → Prop
  | unsettled {tr : List (Event Op.Ans)} (e : RunnerError) (x : Except StoreError Unit)
      (e' : RunnerError) : SettlePath request tr (.error e) →
      OwnerPath runner request (tr ++ [⟨.release (.ofRequest request), x⟩]) (.error e')
  | unreserved (cart : CartProjection) {tr₁ tr₂ : List (Event Op.Ans)} (e : RunnerError) :
      SettlePath request tr₁ (.ok cart) →
      ReservePath request.cartId cart.lines tr₂ (.error e) →
      OwnerPath runner request (tr₁ ++ tr₂) (.error e)
  | paid (cart : CartProjection) {tr₁ tr₂ tr₃ : List (Event Op.Ans)}
      {r : Except RunnerError TransactionResult} :
      SettlePath request tr₁ (.ok cart) →
      ReservePath request.cartId cart.lines tr₂ (.ok ()) →
      PayPath runner request cart tr₃ r →
      OwnerPath runner request (tr₁ ++ (tr₂ ++ tr₃)) r

/-- Paths of `executeCheckout`. -/
inductive CheckoutPath (runner : Runner) (request : CheckoutRequest) :
    List (Event Op.Ans) → Except RunnerError TransactionResult → Prop
  | invalid : validateCheckoutRequest request ≠ [] →
      CheckoutPath runner request [] (.error (.validation (validateCheckoutRequest request)))
  | unclaimed (e : StoreError) : validateCheckoutRequest request = [] →
      CheckoutPath runner request [⟨.claim (.ofRequest request), .error e⟩] (.error (.store e))
  | inFlight : validateCheckoutRequest request = [] →
      CheckoutPath runner request [⟨.claim (.ofRequest request), .ok (some .inFlight)⟩]
        (.error .alreadyInFlight)
  | replayed (result : TransactionResult) : validateCheckoutRequest request = [] →
      CheckoutPath runner request
        [⟨.claim (.ofRequest request), .ok (some (.completed result))⟩] (.ok result)
  | owned {tr : List (Event Op.Ans)} {r : Except RunnerError TransactionResult} :
      validateCheckoutRequest request = [] → OwnerPath runner request tr r →
      CheckoutPath runner request (⟨.claim (.ofRequest request), .ok none⟩ :: tr) r

/-! ## Inversion -/

theorem trace_pure {a : α} {r : Except RunnerError α} :
    (pure a : Run α).run.Trace tr r ↔ tr = [] ∧ r = .ok a := Iff.rfl

theorem trace_throw {e : RunnerError} {r : Except RunnerError α} :
    (throw e : Run α).run.Trace tr r ↔ tr = [] ∧ r = .error e := Iff.rfl

theorem applyDiscounts_trace {cart : CartProjection} {r : Except RunnerError CartProjection}
    (h : (applyDiscounts cart).run.Trace tr r) : DiscountPath cart tr r := by
  unfold applyDiscounts at h
  by_cases hcodes : cart.adjustmentCodes = []
  · rw [if_pos hcodes] at h
    obtain ⟨rfl, rfl⟩ := h
    exact .none hcodes
  · rw [if_neg hcodes] at h
    rw [trace_tryWith_bind] at h
    rcases h with ⟨e, he, rfl⟩ | ⟨ds, t₁, t₂, rfl, he, h⟩
    · obtain rfl := trace_ask.mp he
      exact .failed e hcodes
    · obtain rfl := trace_ask.mp he
      obtain ⟨rfl, rfl⟩ := h
      exact .applied ds hcodes

theorem repriceForCheckout_trace {cart : CartProjection} {r : Except RunnerError CartProjection}
    (h : (repriceForCheckout cart).run.Trace tr r) : RepricePath cart tr r := by
  unfold repriceForCheckout at h
  rw [trace_tryWith_bind] at h
  rcases h with ⟨e, he, rfl⟩ | ⟨ps, t₁, t₂, rfl, he, h⟩
  · obtain rfl := trace_ask.mp he
    exact .unpriced e
  · obtain rfl := trace_ask.mp he
    rw [trace_tryWith_bind] at h
    rcases h with ⟨e, he, rfl⟩ | ⟨tax, t₁, t₂, rfl, he, h⟩
    · obtain rfl := trace_ask.mp he
      exact .untaxed ps e
    · obtain rfl := trace_ask.mp he
      exact .discounted ps tax (applyDiscounts_trace h)

theorem loadCart_trace {cartId : CartId} {r : Except RunnerError CartProjection}
    (h : (loadCart cartId).run.Trace tr r) :
    (tr = [⟨.getCartSnapshot cartId, none⟩] ∧ r = .error .cartNotFound) ∨
      ∃ cart, tr = [⟨.getCartSnapshot cartId, some cart⟩] ∧ r = .ok cart := by
  unfold loadCart at h
  rw [trace_call_bind] at h
  obtain ⟨x, tr', rfl, h⟩ := h
  cases x with
  | none =>
      obtain ⟨rfl, rfl⟩ := h
      exact Or.inl ⟨rfl, rfl⟩
  | some cart =>
      obtain ⟨rfl, rfl⟩ := h
      exact Or.inr ⟨cart, rfl, rfl⟩

theorem checkGeo_trace {cart : CartProjection} {r : Except RunnerError Bool}
    (h : (checkGeo cart).run.Trace tr r) :
    (∃ e, tr = [⟨geoOp cart, .error e⟩] ∧ r = .error (.geo e)) ∨
      ∃ g : GeoCheckResult, tr = [⟨geoOp cart, .ok g⟩] ∧ r = .ok g.allowed := by
  unfold checkGeo at h
  rw [trace_tryWith_bind] at h
  rcases h with ⟨e, he, rfl⟩ | ⟨g, t₁, t₂, rfl, he, h⟩
  · exact Or.inl ⟨e, trace_ask.mp he, rfl⟩
  · obtain rfl := trace_ask.mp he
    obtain ⟨rfl, rfl⟩ := h
    exact Or.inr ⟨g, rfl, rfl⟩

theorem settleCartForCheckout_trace {request : CheckoutRequest}
    {r : Except RunnerError CartProjection}
    (h : (settleCartForCheckout request).run.Trace tr r) : SettlePath request tr r := by
  unfold settleCartForCheckout at h
  rw [trace_bind_except] at h
  rcases h with ⟨e, hl, rfl⟩ | ⟨cart, t₁, t₂, rfl, hl, h⟩
  · rcases loadCart_trace hl with ⟨rfl, hr⟩ | ⟨cart, rfl, hr⟩
    · cases hr
      exact .missing
    · cases hr
  rcases loadCart_trace hl with ⟨rfl, hr⟩ | ⟨_, rfl, hr⟩
  · cases hr
  cases hr
  -- the two gates, before any provider is asked
  rw [trace_failIf_bind] at h
  rcases h with ⟨⟨owner, ho, hne⟩, rfl, rfl⟩ | ⟨hten, h⟩
  · exact .refused cart _ fun had => hne (had.tenant owner ho)
  rw [trace_failIf_bind] at h
  rcases h with ⟨hver, rfl, rfl⟩ | ⟨hver, h⟩
  · exact .refused cart _ fun had => hver had.version
  have had : Admits request cart := by
    refine ⟨fun owner ho => ?_, not_not.mp hver⟩
    by_contra hne
    exact hten ⟨owner, ho, hne⟩
  -- the price, the verdict on it and the snapshot
  rw [trace_bind_except] at h
  rcases h with ⟨e, hp, rfl⟩ | ⟨repriced, t₁, t₂, rfl, hp, h⟩
  · exact .unpriced cart e had (repriceForCheckout_trace hp)
  have hp := repriceForCheckout_trace hp
  rw [trace_bind_except] at h
  rcases h with ⟨e, hg, rfl⟩ | ⟨geoOk, t₂, t₃, rfl, hg, h⟩
  · rcases checkGeo_trace hg with ⟨e, rfl, hr⟩ | ⟨g, rfl, hr⟩
    · cases hr
      exact .ungeo cart repriced e had hp
    · cases hr
  rcases checkGeo_trace hg with ⟨e, rfl, hr⟩ | ⟨g, rfl, hr⟩
  · cases hr
  cases hr
  rw [trace_tryWith_bind] at h
  rcases h with ⟨e, he, rfl⟩ | ⟨u, t₃, t₄, rfl, he, h⟩
  · obtain rfl := trace_ask.mp he
    exact .unsaved cart repriced g e had hp
  obtain rfl := trace_ask.mp he
  -- the two gates behind it
  rw [trace_failIf_bind] at h
  rcases h with ⟨hgeo, rfl, rfl⟩ | ⟨hgeo, h⟩
  · exact .blocked cart repriced g _ had hp fun hc => hgeo hc.1
  rw [trace_failIf_bind] at h
  rcases h with ⟨hamt, rfl, rfl⟩ | ⟨hamt, h⟩
  · exact .blocked cart repriced g _ had hp fun hc => hamt hc.2
  obtain ⟨rfl, rfl⟩ := h
  exact .settled cart repriced g had hp (not_not.mp hgeo) (not_not.mp hamt)

theorem reserveLines_trace {cartId : CartId} {lines : List CartLineProjection}
    {r : Except RunnerError Unit} (h : (reserveLines cartId lines).run.Trace tr r) :
    ReservePath cartId lines tr r := by
  induction lines generalizing tr with
  | nil =>
      obtain ⟨rfl, rfl⟩ := h
      exact .done
  | cons line lines ih =>
      rw [reserveLines, trace_tryWith_bind] at h
      rcases h with ⟨e, he, rfl⟩ | ⟨u, t₁, t₂, rfl, he, h⟩
      · obtain rfl := trace_ask.mp he
        exact .failed line lines e
      · obtain rfl := trace_ask.mp he
        exact .next line (ih h)

theorem concludeUnpaid_trace {request : CheckoutRequest} {result : TransactionResult}
    {r : Except RunnerError TransactionResult}
    (h : (concludeUnpaid request result).run.Trace tr r) : ConcludePath request result tr r := by
  unfold concludeUnpaid at h
  rw [trace_tryWith_bind] at h
  rcases h with ⟨e, he, rfl⟩ | ⟨u, t₁, t₂, rfl, he, h⟩
  · obtain rfl := trace_ask.mp he
    exact .unreleased e
  obtain rfl := trace_ask.mp he
  rw [trace_tryWith_bind] at h
  rcases h with ⟨e, he, rfl⟩ | ⟨u, t₁, t₂, rfl, he, h⟩
  · obtain rfl := trace_ask.mp he
    exact .incomplete e
  obtain rfl := trace_ask.mp he
  rw [trace_call_bind] at h
  obtain ⟨x, t, rfl, rfl, rfl⟩ := h
  exact .concluded x

theorem bookOrder_trace {request : CheckoutRequest} {cart : CartProjection}
    {committed : CommitRecord} {capture : PaymentOperationResult}
    {r : Except RunnerError TransactionResult}
    (h : (bookOrder request cart committed capture .paymentAuthorized).run.Trace tr r) :
    BookPath request cart committed capture tr r := by
  simp only [bookOrder, advance, nextCheckoutState, terminalStatus, okOr_some, pure_bind] at h
  rw [trace_call_bind] at h
  obtain ⟨order, t, rfl, h⟩ := h
  rw [trace_call_bind] at h
  obtain ⟨event, t, rfl, h⟩ := h
  rw [trace_call_bind] at h
  obtain ⟨occurredAt, t, rfl, h⟩ := h
  rw [trace_call_bind] at h
  obtain ⟨createdAt, t, rfl, h⟩ := h
  let b (corr : Uuid) : Booking request cart committed capture :=
    ⟨order, event, occurredAt, createdAt, corr⟩
  rw [trace_tryWith_bind] at h
  rcases h with ⟨e, he, rfl⟩ | ⟨u, t₁, t₂, rfl, he, h⟩
  · obtain rfl := trace_ask.mp he
    exact .unordered (b ⟨0⟩) e
  obtain rfl := trace_ask.mp he
  rw [trace_call_bind] at h
  obtain ⟨corr, t, rfl, h⟩ := h
  rw [trace_tryWith_bind] at h
  rcases h with ⟨e, he, rfl⟩ | ⟨receipt, t₁, t₂, rfl, he, h⟩
  · obtain rfl := trace_ask.mp he
    exact .unreceipted (b corr) e
  obtain rfl := trace_ask.mp he
  rw [trace_tryWith_bind] at h
  rcases h with ⟨e, he, rfl⟩ | ⟨u, t₁, t₂, rfl, he, h⟩
  · obtain rfl := trace_ask.mp he
    exact .unfinalized (b corr) receipt e
  obtain rfl := trace_ask.mp he
  rw [trace_call_bind] at h
  obtain ⟨msg, t, rfl, h⟩ := h
  rw [trace_tryWith_bind] at h
  rcases h with ⟨e, he, rfl⟩ | ⟨u, t₁, t₂, rfl, he, h⟩
  · obtain rfl := trace_ask.mp he
    exact .unannounced (b corr) receipt msg e
  obtain rfl := trace_ask.mp he
  rw [trace_tryWith_bind] at h
  rcases h with ⟨e, he, rfl⟩ | ⟨u, t₁, t₂, rfl, he, h⟩
  · obtain rfl := trace_ask.mp he
    exact .incomplete (b corr) receipt msg e
  obtain rfl := trace_ask.mp he
  rw [trace_call_bind] at h
  obtain ⟨x, t, rfl, rfl, rfl⟩ := h
  exact .booked (b corr) receipt msg x

theorem payAndBook_trace {runner : Runner} {request : CheckoutRequest} {cart : CartProjection}
    {r : Except RunnerError TransactionResult}
    (h : (payAndBook runner request cart).run.Trace tr r) : PayPath runner request cart tr r := by
  simp only [payAndBook, advance, nextCheckoutState, okOr_some, pure_bind] at h
  cases hpol : runner.policy.checkCheckout request cart.totalMinor with
  | rejected errors =>
      rw [hpol] at h
      rw [trace_call_bind] at h
      obtain ⟨txn, t, rfl, h⟩ := h
      rw [trace_call_bind] at h
      obtain ⟨corr, t, rfl, h⟩ := h
      exact .rejected errors txn corr hpol (concludeUnpaid_trace h)
  | allowed =>
      rw [hpol] at h
      dsimp only at h
      rw [trace_tryWith_bind] at h
      rcases h with ⟨e, he, rfl⟩ | ⟨auth, t₁, t₂, rfl, he, h⟩
      · obtain rfl := trace_ask.mp he
        exact .unauthorized e hpol
      obtain rfl := trace_ask.mp he
      cases hauth : auth.authorized with
      | false =>
          rw [hauth] at h
          simp only [Bool.not_false, ↓reduceIte] at h
          rw [trace_call_bind] at h
          obtain ⟨txn, t, rfl, h⟩ := h
          rw [trace_call_bind] at h
          obtain ⟨corr, t, rfl, h⟩ := h
          exact .declined auth txn corr hpol hauth (concludeUnpaid_trace h)
      | true =>
          rw [hauth] at h
          simp only [Bool.not_true, Bool.false_eq_true, ↓reduceIte] at h
          rw [trace_tryWith_bind] at h
          rcases h with ⟨e, he, rfl⟩ | ⟨committed, t₁, t₂, rfl, he, h⟩
          · obtain rfl := trace_ask.mp he
            exact .uncommitted auth e hpol hauth
          obtain rfl := trace_ask.mp he
          rw [trace_tryWith_bind] at h
          rcases h with ⟨e, he, rfl⟩ | ⟨capture, t₁, t₂, rfl, he, h⟩
          · obtain rfl := trace_ask.mp he
            exact .uncaptured auth committed e hpol hauth
          obtain rfl := trace_ask.mp he
          exact .captured auth committed capture hpol hauth (bookOrder_trace h)

theorem settleOrRelease_trace {request : CheckoutRequest} {r : Except RunnerError CartProjection}
    (h : (settleOrRelease request).run.Trace tr r) :
    (∃ cart, SettlePath request tr (.ok cart) ∧ r = .ok cart) ∨
      ∃ e t x e', tr = t ++ [⟨.release (.ofRequest request), x⟩] ∧
        SettlePath request t (.error e) ∧ r = .error e' := by
  unfold settleOrRelease at h
  rw [trace_tryCatch] at h
  rcases h with ⟨cart, hs, rfl⟩ | ⟨e, t₁, t₂, rfl, hs, h⟩
  · exact Or.inl ⟨cart, settleCartForCheckout_trace hs, rfl⟩
  · refine Or.inr ⟨e, t₁, ?_⟩
    rw [trace_tryWith_bind] at h
    rcases h with ⟨e', he, rfl⟩ | ⟨u, t₂, t₃, rfl, he, h⟩
    · obtain rfl := trace_ask.mp he
      exact ⟨_, _, rfl, settleCartForCheckout_trace hs, rfl⟩
    · obtain rfl := trace_ask.mp he
      obtain ⟨rfl, rfl⟩ := h
      exact ⟨_, _, rfl, settleCartForCheckout_trace hs, rfl⟩

theorem checkOut_trace {runner : Runner} {request : CheckoutRequest}
    {r : Except RunnerError TransactionResult} (h : (checkOut runner request).run.Trace tr r) :
    OwnerPath runner request tr r := by
  unfold checkOut at h
  rw [trace_bind_except] at h
  rcases h with ⟨e, hs, rfl⟩ | ⟨cart, t₁, t₂, rfl, hs, h⟩
  · rcases settleOrRelease_trace hs with ⟨cart, _, hr⟩ | ⟨e', t, x, e'', rfl, hs, hr⟩
    · cases hr
    · exact .unsettled e' x _ hs
  rcases settleOrRelease_trace hs with ⟨cart, hs, hr⟩ | ⟨e', t, x, e'', _, _, hr⟩
  · cases hr
    rw [trace_bind_except] at h
    rcases h with ⟨e, hres, rfl⟩ | ⟨u, t₃, t₄, rfl, hres, h⟩
    · exact .unreserved cart e hs (reserveLines_trace hres)
    · exact .paid cart hs (reserveLines_trace hres) (payAndBook_trace h)
  · cases hr

/-- **The inversion.**  Every complete path through a checkout is one of `CheckoutPath`. -/
theorem executeCheckout_trace {runner : Runner} {request : CheckoutRequest}
    {r : Except RunnerError TransactionResult}
    (h : (executeCheckout runner request).run.Trace tr r) :
    CheckoutPath runner request tr r := by
  unfold executeCheckout at h
  rw [trace_failIf_bind] at h
  rcases h with ⟨hv, rfl, rfl⟩ | ⟨hv, h⟩
  · exact .invalid hv
  have hv := not_not.mp hv
  rw [trace_tryWith_bind] at h
  rcases h with ⟨e, he, rfl⟩ | ⟨state, t₁, t₂, rfl, he, h⟩
  · obtain rfl := trace_ask.mp he
    exact .unclaimed e hv
  obtain rfl := trace_ask.mp he
  match state, h with
  | some .inFlight, h =>
      obtain ⟨rfl, rfl⟩ := h
      exact .inFlight hv
  | some (.completed result), h =>
      obtain ⟨rfl, rfl⟩ := h
      exact .replayed result hv
  | none, h => exact .owned hv (checkOut_trace h)

/-! ## What the stretches perform -/

/-- The operations of re-pricing a cart. -/
def Op.reprices : Op → Bool
  | .resolvePrices .. | .resolveDiscounts .. | .resolveTax .. => true
  | _ => false

/-- The operations of settling a cart. -/
def Op.settles : Op → Bool
  | .getCartSnapshot .. | .putCartSnapshot .. | .resolvePrices .. | .resolveDiscounts ..
  | .resolveTax .. | .checkGeo .. => true
  | _ => false

/-- The operations of reserving. -/
def Op.reserves : Op → Bool
  | .reserve .. => true
  | _ => false

/-- The operations of paying: the two that reach the payment provider. -/
def Op.pays : Op → Bool
  | .authorize .. | .capture .. => true
  | _ => false

theorem Op.reprices_settles {o : Op} (h : o.reprices) : o.settles := by
  cases o <;> first | rfl | exact absurd h Bool.false_ne_true

theorem Op.reserves_not_pays {o : Op} (h : o.reserves) : ¬ o.pays := by
  cases o <;> first | exact Bool.false_ne_true | exact absurd h Bool.false_ne_true

theorem Op.settles_not_pays {o : Op} (h : o.settles) : ¬ o.pays := by
  cases o <;> first | exact Bool.false_ne_true | exact absurd h Bool.false_ne_true

theorem DiscountPath.reprices {cart : CartProjection} {r : Except RunnerError CartProjection}
    (h : DiscountPath cart tr r) : ∀ e ∈ tr, e.1.reprices := by
  cases h <;> exact List.all_eq_true.mp rfl

theorem RepricePath.reprices {cart : CartProjection} {r : Except RunnerError CartProjection}
    (h : RepricePath cart tr r) : ∀ e ∈ tr, e.1.reprices := by
  cases h with
  | unpriced e => simp [Op.reprices]
  | untaxed ps e => simp [Op.reprices]
  | discounted ps tax hd => simpa [Op.reprices] using hd.reprices

theorem RepricePath.settles {cart : CartProjection} {r : Except RunnerError CartProjection}
    (h : RepricePath cart tr r) : ∀ e ∈ tr, e.1.settles :=
  fun e he => Op.reprices_settles (h.reprices e he)

theorem SettlePath.settles {request : CheckoutRequest} {r : Except RunnerError CartProjection}
    (h : SettlePath request tr r) : ∀ e ∈ tr, e.1.settles := by
  cases h with
  | missing => simp [Op.settles]
  | refused cart e _ => simp [Op.settles]
  | unpriced cart e _ hp => simpa [Op.settles] using hp.settles
  | ungeo cart repriced e _ hp =>
      simpa [Op.settles, or_imp, forall_and] using hp.settles
  | unsaved cart repriced g e _ hp =>
      simpa [Op.settles, or_imp, forall_and] using hp.settles
  | blocked cart repriced g e _ hp _ =>
      simpa [Op.settles, or_imp, forall_and] using hp.settles
  | settled cart repriced g _ hp _ _ =>
      simpa [Op.settles, or_imp, forall_and] using hp.settles

/-- A settled cart is the one snapshot its settling stores. -/
theorem SettlePath.snapshot {request : CheckoutRequest} {cart s : CartProjection}
    (h : SettlePath request tr (.ok cart)) {x : Except StoreError Unit} :
    ⟨.putCartSnapshot s, x⟩ ∈ tr ↔ s = cart ∧ x = .ok () := by
  cases h with
  | settled stored repriced g _ hp _ _ =>
      simp [notMem_of_ops hp.reprices (o := .putCartSnapshot s) rfl x]

theorem ReservePath.reserves {cartId : CartId} {lines : List CartLineProjection}
    {r : Except RunnerError Unit} (h : ReservePath cartId lines tr r) :
    ∀ e ∈ tr, e.1.reserves := by
  induction h with
  | done => simp
  | failed line lines e => simp [Op.reserves]
  | next line _ ih => simpa [Op.reserves] using ih

/-- A reservation run that succeeds reserves every line, in order. -/
theorem ReservePath.ok_eq {cartId : CartId} {lines : List CartLineProjection}
    (h : ReservePath cartId lines tr (.ok ())) :
    tr = lines.map fun line =>
      ⟨.reserve cartId line.itemId line.quantity reservationTtl, .ok ()⟩ := by
  generalize hr : (Except.ok () : Except RunnerError Unit) = r at h
  induction h with
  | done => rfl
  | failed line lines e => cases hr
  | next line _ ih => rw [ih hr, List.map_cons]

/-- The operations of paying and booking. -/
def Op.finishes : Op → Bool
  | .authorize .. | .capture .. | .commit .. | .putOrder .. | .generate .. | .finalizeCart ..
  | .releaseCart .. | .enqueue .. | .complete .. | .putPaymentState .. | .newUuid | .utcNow => true
  | _ => false

theorem ConcludePath.finishes {request : CheckoutRequest} {result : TransactionResult}
    {r : Except RunnerError TransactionResult} (h : ConcludePath request result tr r) :
    ∀ e ∈ tr, e.1.finishes := by
  cases h <;> exact List.all_eq_true.mp rfl

theorem BookPath.finishes {request : CheckoutRequest} {cart : CartProjection}
    {committed : CommitRecord} {capture : PaymentOperationResult}
    {r : Except RunnerError TransactionResult} (h : BookPath request cart committed capture tr r) :
    ∀ e ∈ tr, e.1.finishes := by
  cases h <;> exact List.all_eq_true.mp rfl

theorem PayPath.finishes {runner : Runner} {request : CheckoutRequest} {cart : CartProjection}
    {r : Except RunnerError TransactionResult} (h : PayPath runner request cart tr r) :
    ∀ e ∈ tr, e.1.finishes := by
  cases h with
  | rejected errors txn corr _ hc => simpa [Op.finishes] using hc.finishes
  | unauthorized e _ => simp [Op.finishes]
  | declined auth txn corr _ _ hc => simpa [Op.finishes] using hc.finishes
  | uncommitted auth e _ _ => simp [Op.finishes]
  | uncaptured auth committed e _ _ => simp [Op.finishes]
  | captured auth committed capture _ _ hb => simpa [Op.finishes] using hb.finishes

def Op.claims : Op → Bool
  | .claim .. => true
  | _ => false

theorem Op.settles_not_claims {o : Op} (h : o.settles) : o.claims = false := by
  cases o <;> first | rfl | exact absurd h Bool.false_ne_true

theorem Op.reserves_not_claims {o : Op} (h : o.reserves) : o.claims = false := by
  cases o <;> first | rfl | exact absurd h Bool.false_ne_true

theorem Op.finishes_not_claims {o : Op} (h : o.finishes) : o.claims = false := by
  cases o <;> first | rfl | exact absurd h Bool.false_ne_true

/-- The claim a call makes first is the only one it makes. -/
theorem OwnerPath.not_claims {runner : Runner} {request : CheckoutRequest}
    {r : Except RunnerError TransactionResult} (h : OwnerPath runner request tr r) :
    ∀ e ∈ tr, e.1.claims = false := by
  cases h with
  | unsettled e x e' hs =>
      exact List.forall_mem_append.mpr
        ⟨fun e he => Op.settles_not_claims (hs.settles e he), by simp [Op.claims]⟩
  | unreserved cart e hs hr =>
      exact List.forall_mem_append.mpr
        ⟨fun e he => Op.settles_not_claims (hs.settles e he),
          fun e he => Op.reserves_not_claims (hr.reserves e he)⟩
  | paid cart hs hr hp =>
      exact List.forall_mem_append.mpr
        ⟨fun e he => Op.settles_not_claims (hs.settles e he),
          List.forall_mem_append.mpr
            ⟨fun e he => Op.reserves_not_claims (hr.reserves e he),
              fun e he => Op.finishes_not_claims (hp.finishes e he)⟩⟩

/-! ## One key -/

theorem Op.settles_onKey {o : Op} (h : o.settles) : o.onKey = none := by
  cases o <;> first | rfl | exact absurd h Bool.false_ne_true

theorem Op.reserves_onKey {o : Op} (h : o.reserves) : o.onKey = none := by
  cases o <;> first | rfl | exact absurd h Bool.false_ne_true

section OnKey

variable {runner : Runner} {request : CheckoutRequest} {cart : CartProjection}
  {r : Except RunnerError TransactionResult}

/-- The operation is on no key but the request's. -/
def OnlyKey (request : CheckoutRequest) (e : Event Op.Ans) : Prop :=
  ∀ key ∈ e.1.onKey, key = .ofRequest request

theorem onlyKey_of_none {e : Event Op.Ans} (h : e.1.onKey = none) : OnlyKey request e := by
  intro key hk
  rw [h] at hk
  cases hk

theorem ConcludePath.onlyKey {result : TransactionResult} (h : ConcludePath request result tr r) :
    ∀ e ∈ tr, OnlyKey request e := by
  cases h <;> simp [OnlyKey, Op.onKey]

theorem BookPath.onlyKey {committed : CommitRecord} {paid : PaymentOperationResult}
    (h : BookPath request cart committed paid tr r) : ∀ e ∈ tr, OnlyKey request e := by
  cases h <;> simp [OnlyKey, Op.onKey, Booking.draws]

theorem PayPath.onlyKey (h : PayPath runner request cart tr r) : ∀ e ∈ tr, OnlyKey request e := by
  cases h with
  | rejected errors txn corr _ hc =>
      exact List.forall_mem_cons.mpr ⟨onlyKey_of_none rfl,
        List.forall_mem_cons.mpr ⟨onlyKey_of_none rfl, hc.onlyKey⟩⟩
  | unauthorized e _ => simp [OnlyKey, Op.onKey]
  | declined auth txn corr _ _ hc =>
      exact List.forall_mem_cons.mpr ⟨onlyKey_of_none rfl, List.forall_mem_cons.mpr
        ⟨onlyKey_of_none rfl, List.forall_mem_cons.mpr ⟨onlyKey_of_none rfl, hc.onlyKey⟩⟩⟩
  | uncommitted auth e _ _ => simp [OnlyKey, Op.onKey]
  | uncaptured auth committed e _ _ => simp [OnlyKey, Op.onKey]
  | captured auth committed capture _ _ hb =>
      exact List.forall_mem_cons.mpr ⟨onlyKey_of_none rfl, List.forall_mem_cons.mpr
        ⟨onlyKey_of_none rfl, List.forall_mem_cons.mpr ⟨onlyKey_of_none rfl, hb.onlyKey⟩⟩⟩

theorem OwnerPath.onlyKey (h : OwnerPath runner request tr r) : ∀ e ∈ tr, OnlyKey request e := by
  cases h with
  | unsettled e x e' hs =>
      exact List.forall_mem_append.mpr
        ⟨fun e he => onlyKey_of_none (Op.settles_onKey (hs.settles e he)),
          by simp [OnlyKey, Op.onKey]⟩
  | unreserved cart e hs hr =>
      exact List.forall_mem_append.mpr
        ⟨fun e he => onlyKey_of_none (Op.settles_onKey (hs.settles e he)),
          fun e he => onlyKey_of_none (Op.reserves_onKey (hr.reserves e he))⟩
  | paid cart hs hr hp =>
      exact List.forall_mem_append.mpr
        ⟨fun e he => onlyKey_of_none (Op.settles_onKey (hs.settles e he)),
          List.forall_mem_append.mpr
            ⟨fun e he => onlyKey_of_none (Op.reserves_onKey (hr.reserves e he)), hp.onlyKey⟩⟩

/-- A checkout works on one key, its own. -/
theorem CheckoutPath.onlyKey (h : CheckoutPath runner request tr r) :
    ∀ e ∈ tr, OnlyKey request e := by
  cases h with
  | invalid _ => simp
  | unclaimed e _ => simp [OnlyKey, Op.onKey]
  | inFlight _ => simp [OnlyKey, Op.onKey]
  | replayed result _ => simp [OnlyKey, Op.onKey]
  | owned _ ho => exact List.forall_mem_cons.mpr ⟨by simp [OnlyKey, Op.onKey], ho.onlyKey⟩

end OnKey

end Orchestrator
