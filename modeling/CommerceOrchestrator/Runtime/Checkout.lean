/-
# `CommerceOrchestrator.Runtime.Checkout` — the runner's checkout

`executeCheckout` claims the idempotency key, settles the cart, reserves its
lines, walks the checkout state machine past the policy and the payment
provider, and books the order.  The source is one procedure; here each stretch
between two decisions is a definition of its own, in the source's order.
-/
import CommerceOrchestrator.Runtime.Cart

namespace Orchestrator

open Effect

/-! ## Settling the cart -/

/-- Refresh line prices, tax and discounts on a cart that is already at checkout. -/
def repriceForCheckout (cart : CartProjection) : Run CartProjection := do
  let pricedLines ← tryWith .pricing (ask (.resolvePrices cart))
  let tax ← tryWith .tax (ask (.resolveTax (cart.withPrices pricedLines)))
  applyDiscounts ((cart.withPrices pricedLines).withTax tax)

/-- Load the cart, re-price it, and refuse to go on unless the payment intent is
for exactly what the cart now costs. -/
def settleCartForCheckout (request : CheckoutRequest) : Run CartProjection := do
  let cart ← loadCart request.cartId
  failIf (∃ owner ∈ cart.tenantId, owner ≠ request.tenantId) .cartTenantMismatch
  failIf (cart.version ≠ request.cartVersion)
    (.cartVersionConflict request.cartVersion cart.version)
  let repriced ← repriceForCheckout cart
  let geoOk ← checkGeo repriced
  tryWith .store (ask (.putCartSnapshot { repriced with geoOk }))
  failIf (¬ geoOk) .geoBlocked
  failIf (request.paymentIntent.amountMinor ≠ repriced.totalMinor)
    (.amountMismatch repriced.totalMinor request.paymentIntent.amountMinor)
  return { repriced with geoOk }

def IdempotencyKey.ofRequest (request : CheckoutRequest) : IdempotencyKey :=
  ⟨request.tenantId, request.merchantId, request.idempotencyKey⟩

/-- Settle the cart; if that fails nothing was charged, and the key is given back. -/
def settleOrRelease (request : CheckoutRequest) : Run CartProjection :=
  tryCatch (settleCartForCheckout request) fun e => do
    tryWith .store (ask (.release (.ofRequest request)))
    throw e

/-- Seconds a reservation is held. -/
def reservationTtl : Nat := 300

def reserveLines (cartId : CartId) : List CartLineProjection → Run Unit
  | [] => return
  | line :: lines => do
      tryWith .store (ask (.reserve cartId line.itemId line.quantity reservationTtl))
      reserveLines cartId lines

/-! ## Booking the outcome -/

/-- The result of a checkout in which no money moved. -/
def unpaidResult (cart : CartProjection) (txn correlationId : Uuid) (status : TransactionStatus)
    (paymentReference auditTrailId : Option String) : TransactionResult where
  transactionId := "txn_" ++ txn.render
  status
  totalsBreakdown := cart.totals
  paymentReference
  receiptPayload := none
  correlationId
  auditTrailId
  paymentState := .failed
  orderId := none

/-- Release the stock, settle the key on `result`, record the payment state. -/
def concludeUnpaid (request : CheckoutRequest) (result : TransactionResult) :
    Run TransactionResult := do
  tryWith .store (ask (.releaseCart request.cartId))
  tryWith .store (ask (.complete (.ofRequest request) result))
  let _ ← call (.putPaymentState result.transactionId result.paymentState)
  return result

def orderRecord (request : CheckoutRequest) (cart : CartProjection) (committed : CommitRecord)
    (order event : Uuid) (occurredAt createdAt : Int) : OrderRecord where
  orderId := "ord_" ++ order.render
  tenantId := request.tenantId
  transactionId := committed.transactionId
  checkoutId := request.cartId
  status := .created
  currency := request.currency
  permalinkUrl := "/orders/" ++ ("ord_" ++ order.render)
  lineItems := cart.lines
  totals := cart.totals
  events :=
    [{ id := "evt_" ++ event.render, eventType := "created"
       description := "Order created from committed checkout", occurredAt }]
  adjustments := []
  createdAt

/-- The result of a checkout whose capture answered; the receipt is still to come. -/
def paidResult (cart : CartProjection) (committed : CommitRecord)
    (capture : PaymentOperationResult) (status : TransactionStatus) (orderId : String)
    (correlationId : Uuid) : TransactionResult where
  transactionId := committed.transactionId
  status
  totalsBreakdown := cart.totals
  paymentReference := committed.paymentReference
  receiptPayload := none
  correlationId
  auditTrailId := none
  paymentState := if capture.success then .captured else .failed
  orderId := some orderId

def orderMessage (request : CheckoutRequest) (msg : Uuid) (orderId : String)
    (correlationId : Uuid) : OutboxMessage where
  id := "msg_" ++ msg.render
  topic := "order.created"
  payload := orderId
  correlationId := correlationId.render
  attempts := 0
  tenantId := some request.tenantId

/-- Take the checkout machine one step. -/
def advance (state : CheckoutState) (event : CheckoutEvent) : Run CheckoutState :=
  okOr (nextCheckoutState state event) .invalidStateTransition

/-- What happens once capture has answered: order, receipt, stock, message, key,
payment state. -/
def bookOrder (request : CheckoutRequest) (cart : CartProjection) (committed : CommitRecord)
    (capture : PaymentOperationResult) (state : CheckoutState) : Run TransactionResult := do
  let state ← advance state .committed
  let order ← call .newUuid
  let event ← call .newUuid
  let occurredAt ← call .utcNow
  let createdAt ← call .utcNow
  let record := orderRecord request cart committed order event occurredAt createdAt
  tryWith .store (ask (.putOrder record))
  let state ← advance state .receiptGenerated
  let state ← advance state .complete
  let status ← okOr (terminalStatus state) .invalidStateTransition
  let correlationId ← call .newUuid
  let result := paidResult cart committed capture status record.orderId correlationId
  let receipt ← tryWith .receipt (ask (.generate cart result))
  let result := { result with receiptPayload := some receipt.content }
  tryWith .store (ask (.finalizeCart request.cartId))
  let msg ← call .newUuid
  tryWith .store (ask (.enqueue (orderMessage request msg record.orderId correlationId)))
  tryWith .store (ask (.complete (.ofRequest request) result))
  let _ ← call (.putPaymentState result.transactionId result.paymentState)
  return result

def captureRequest (request : CheckoutRequest) (cart : CartProjection)
    (committed : CommitRecord) : PaymentLifecycleRequest where
  tenantId := request.tenantId
  merchantId := request.merchantId
  transactionId := committed.transactionId
  amountMinor := cart.totalMinor
  idempotencyKey := request.idempotencyKey

/-- Policy, authorization, commit and capture of a settled, reserved cart. -/
def payAndBook (runner : Runner) (request : CheckoutRequest) (cart : CartProjection) :
    Run TransactionResult := do
  let state ← advance .received .validatePassed
  let state ← advance state .priceResolved
  let state ← advance state .taxResolved
  let state ← advance state .geoValidated
  match runner.policy.checkCheckout request cart.totalMinor with
  | .rejected errors =>
      let txn ← call .newUuid
      let correlationId ← call .newUuid
      concludeUnpaid request
        (unpaidResult cart txn correlationId .rejected none (some (";".intercalate errors)))
  | .allowed =>
      let auth ← tryWith .payment (ask (.authorize request))
      if !auth.authorized then
        let txn ← call .newUuid
        let correlationId ← call .newUuid
        concludeUnpaid request
          (unpaidResult cart txn correlationId .authFailed (some auth.reference) none)
      else
        let state ← advance state .paymentAuthorized
        let committed ← tryWith .store (ask (.commit request.cartId (some auth.reference)))
        let capture ← tryWith .payment (ask (.capture (captureRequest request cart committed)))
        bookOrder request cart committed capture state

/-- What the call that owns the key does. -/
def checkOut (runner : Runner) (request : CheckoutRequest) : Run TransactionResult := do
  let cart ← settleOrRelease request
  reserveLines request.cartId cart.lines
  payAndBook runner request cart

def executeCheckout (runner : Runner) (request : CheckoutRequest) : Run TransactionResult := do
  failIf (validateCheckoutRequest request ≠ []) (.validation (validateCheckoutRequest request))
  match ← tryWith .store (ask (.claim (.ofRequest request))) with
  | some .inFlight => throw .alreadyInFlight
  | some (.completed result) => return result
  | none => checkOut runner request

/-! ## A cart to check out -/

namespace Sample

def runner : Runner := ⟨{}, false⟩

/-- A cart of one line. -/
def cart : CartProjection where
  cartId := ⟨⟨0⟩⟩
  version := 2
  currency := "USD"
  merchantId := "m"
  tenantId := some "t"
  lines := [⟨"li_0", "sku", "Item", 1, 100, 100⟩]
  subtotalMinor := 100
  taxMinor := 0
  totalMinor := 100
  geoOk := true
  status := .draft
  fulfillment := none
  fulfillmentMinor := 0
  adjustmentCodes := []
  discounts := []
  discountMinor := 0

/-- Nothing but the cart is stored. -/
def world : World :=
  { World.empty with
    events := (World.empty.events.putCartSnapshot cart).setCartState cart.cartId .geoChecked
    clock := 1 }

def request (idempotencyKey : String) : CheckoutRequest where
  tenantId := "t"
  merchantId := "m"
  cartId := cart.cartId
  cartVersion := 2
  currency := "USD"
  customer := none
  location := none
  paymentIntent := { amountMinor := 100, tokenOrReference := "tok" }
  idempotencyKey

end Sample

end Orchestrator
