/-
# `CommerceOrchestrator.Core.Contract` — the data the orchestrator exchanges

Carts, checkout requests, transactions and orders, with the fulfillment and
discount types they embed.  Field names are the source's.

Amounts (`i64`) are integers and quantities and versions are naturals; the one
place where the source itself saturates is `totalDiscountMinor`.  A UUID is a
number: the only thing the program does with one is to draw a fresh one, to
compare it and to print it.
-/
import Mathlib.Algebra.Ring.Int.Defs
import Mathlib.Algebra.Ring.Nat

namespace Orchestrator

/-! ## Identifiers -/

structure Uuid where
  val : Nat
deriving DecidableEq, Repr, Inhabited

/-- The printed form. -/
def Uuid.render (u : Uuid) : String := u.val.repr

structure CartId where
  uuid : Uuid
deriving DecidableEq, Repr

/-! ## Fulfillment -/

inductive FulfillmentMethodType
  | shipping
  | pickup
deriving DecidableEq, Repr

structure PostalAddress where
  extendedAddress : Option String := none
  streetAddress : Option String := none
  addressLocality : Option String := none
  addressRegion : Option String := none
  addressCountry : Option String := none
  postalCode : Option String := none
  firstName : Option String := none
  lastName : Option String := none
  phoneNumber : Option String := none
deriving DecidableEq, Repr

inductive FulfillmentDestination
  | shipping (id : String) (address : PostalAddress)
  | retail (id : String) (name : String) (address : Option PostalAddress)
deriving DecidableEq, Repr

def FulfillmentDestination.id : FulfillmentDestination → String
  | .shipping id _ | .retail id _ _ => id

/-- The address a destination carries, if any. -/
def FulfillmentDestination.address : FulfillmentDestination → Option PostalAddress
  | .shipping _ address => some address
  | .retail _ _ address => address

structure FulfillmentOption where
  id : String
  title : String
  description : Option String
  carrier : Option String
  earliestFulfillmentTime : Option String
  latestFulfillmentTime : Option String
  amountMinor : Int
deriving DecidableEq, Repr

structure FulfillmentGroup where
  id : String
  lineItemIds : List String
  options : List FulfillmentOption
  selectedOptionId : Option String
deriving DecidableEq, Repr

structure FulfillmentMethod where
  id : String
  methodType : FulfillmentMethodType
  lineItemIds : List String
  destinations : List FulfillmentDestination
  selectedDestinationId : Option String
  groups : List FulfillmentGroup
deriving DecidableEq, Repr

structure FulfillmentState where
  methods : List FulfillmentMethod
deriving DecidableEq, Repr

/-- The built-in rate table, used when no rating provider is configured. -/
def defaultOptionsForMethod : FulfillmentMethodType → List FulfillmentOption
  | .shipping =>
      [{ id := "standard", title := "Standard Shipping",
         description := some "Arrives in 5-8 business days", carrier := none,
         earliestFulfillmentTime := none, latestFulfillmentTime := none, amountMinor := 500 },
       { id := "express", title := "Express Shipping",
         description := some "Arrives in 2-3 business days", carrier := none,
         earliestFulfillmentTime := none, latestFulfillmentTime := none, amountMinor := 1000 }]
  | .pickup =>
      [{ id := "in_store", title := "In-Store Pickup",
         description := some "Ready for pickup today", carrier := none,
         earliestFulfillmentTime := none, latestFulfillmentTime := none, amountMinor := 0 }]

/-! ## Discounts -/

structure AppliedDiscount where
  code : String
  description : Option String
  amountMinor : Int
  lineId : Option String
deriving DecidableEq, Repr

/-- `i64::saturating_add`. -/
def saturatingAdd (a b : Int) : Int := max (-2 ^ 63) (min (a + b) (2 ^ 63 - 1))

/-- Total of a set of discounts, clamped to what is owed. -/
def totalDiscountMinor (discounts : List AppliedDiscount) (owed : Int) : Int :=
  let raw := (discounts.map fun d => max d.amountMinor 0).foldl saturatingAdd 0
  min raw (max owed 0)

/-! ## Cart commands -/

structure CreateCartPayload where
  merchantId : String
  currency : String
  tenantId : Option String
deriving DecidableEq, Repr

structure AddItemPayload where
  itemId : String
  quantity : Nat
deriving DecidableEq, Repr

structure UpdateItemQtyPayload where
  lineId : String
  quantity : Nat
deriving DecidableEq, Repr

structure RemoveItemPayload where
  lineId : String
deriving DecidableEq, Repr

structure ApplyAdjustmentPayload where
  code : String
deriving DecidableEq, Repr

structure GetCartPayload where
  cartId : CartId
deriving DecidableEq, Repr

structure StartCheckoutPayload where
  cartId : CartId
  cartVersion : Nat
deriving DecidableEq, Repr

structure CancelCartPayload where
  cartId : CartId
deriving DecidableEq, Repr

structure SetFulfillmentSelectionPayload where
  methodType : FulfillmentMethodType
  /-- The lines this selection covers; empty means all current lines. -/
  lineItemIds : List String
  destination : FulfillmentDestination
  selectedOptionId : Option String
deriving DecidableEq, Repr

inductive CartCommand
  | createCart (payload : CreateCartPayload)
  | addItem (payload : AddItemPayload)
  | updateItemQty (payload : UpdateItemQtyPayload)
  | removeItem (payload : RemoveItemPayload)
  | applyAdjustment (payload : ApplyAdjustmentPayload)
  | getCart (payload : GetCartPayload)
  | startCheckout (payload : StartCheckoutPayload)
  | cancelCart (payload : CancelCartPayload)
  | setFulfillmentSelection (payload : SetFulfillmentSelectionPayload)
deriving DecidableEq, Repr

/-- Attach the caller's authenticated tenant to a cart creation. -/
def CartCommand.withTenant (tenantId : String) : CartCommand → CartCommand
  | .createCart payload => .createCart { payload with tenantId := some tenantId }
  | cmd => cmd

/-! ## Carts -/

structure LocationHint where
  countryCode : Option String
  region : Option String
  postalCode : Option String
  intent : Option String
deriving DecidableEq, Repr

structure CartLineProjection where
  lineId : String
  itemId : String
  title : String
  quantity : Nat
  unitPriceMinor : Int
  totalMinor : Int
deriving DecidableEq, Repr

inductive CartStatus
  | draft
  | checkoutReady
  | cancelled
deriving DecidableEq, Repr

structure CartProjection where
  cartId : CartId
  version : Nat
  currency : String
  merchantId : String
  tenantId : Option String
  lines : List CartLineProjection
  subtotalMinor : Int
  taxMinor : Int
  totalMinor : Int
  geoOk : Bool
  status : CartStatus
  fulfillment : Option FulfillmentState
  fulfillmentMinor : Int
  adjustmentCodes : List String
  discounts : List AppliedDiscount
  discountMinor : Int
deriving DecidableEq, Repr

/-- The destination of a method: the selected one, else the first. -/
def FulfillmentMethod.destination (method : FulfillmentMethod) : Option FulfillmentDestination :=
  (method.destinations.find? fun d => some d.id == method.selectedDestinationId).or
    method.destinations.head?

/-- What geo policy can judge of an address: `none` if it names no country, region
or postal code. -/
def PostalAddress.locationHint (address : PostalAddress) : Option LocationHint :=
  if address.addressCountry.isNone && address.addressRegion.isNone && address.postalCode.isNone then
    none
  else
    some { countryCode := address.addressCountry, region := address.addressRegion,
           postalCode := address.postalCode, intent := none }

/-- Where this cart is being fulfilled, if it has a selected destination. -/
def CartProjection.locationHint (cart : CartProjection) : Option LocationHint := do
  let state ← cart.fulfillment
  state.methods.findSome? fun method => do
    let destination ← method.destination
    let address ← destination.address
    address.locationHint

/-! ## Checkout -/

structure CustomerHint where
  email : Option String
  fullName : Option String
deriving DecidableEq, Repr

inductive PaymentMethodType
  | ap2
  | mpp
deriving DecidableEq, Repr

structure PaymentIntent where
  amountMinor : Int
  tokenOrReference : String
  ap2ConsentProof : Option String := none
  paymentHandlerId : Option String := none
  paymentMethodType : Option PaymentMethodType := none
  mppMethod : Option String := none
  mppIntent : Option String := none
deriving DecidableEq, Repr

structure CheckoutRequest where
  tenantId : String
  merchantId : String
  cartId : CartId
  cartVersion : Nat
  currency : String
  customer : Option CustomerHint
  location : Option LocationHint
  paymentIntent : PaymentIntent
  idempotencyKey : String
deriving DecidableEq, Repr

structure TotalsBreakdown where
  subtotalMinor : Int
  taxMinor : Int
  discountMinor : Int
  fulfillmentMinor : Int
  totalMinor : Int
deriving DecidableEq, Repr

inductive TransactionStatus
  | completed
  | rejected
  | authFailed
  | commitFailed
  | timedOut
deriving DecidableEq, Repr

inductive PaymentState
  | authorized
  | captured
  | voided
  | refundPending
  | refunded
  | reconciled
  | failed
deriving DecidableEq, Repr

structure TransactionResult where
  transactionId : String
  status : TransactionStatus
  totalsBreakdown : TotalsBreakdown
  paymentReference : Option String
  receiptPayload : Option String
  correlationId : Uuid
  auditTrailId : Option String
  paymentState : PaymentState
  orderId : Option String
deriving DecidableEq, Repr

structure PaymentLifecycleRequest where
  tenantId : String
  merchantId : String
  transactionId : String
  amountMinor : Int
  idempotencyKey : String
deriving DecidableEq, Repr

/-! ## Orders -/

inductive OrderStatus
  | created
  | fulfillmentPending
  | fulfilled
  | cancelled
deriving DecidableEq, Repr

structure OrderEvent where
  id : String
  eventType : String
  description : String
  occurredAt : Int
deriving DecidableEq, Repr

structure OrderAdjustment where
  id : String
  adjustmentType : String
  amountMinor : Int
  status : String
deriving DecidableEq, Repr

structure OrderRecord where
  orderId : String
  tenantId : String
  transactionId : String
  checkoutId : CartId
  status : OrderStatus
  currency : String
  permalinkUrl : String
  lineItems : List CartLineProjection
  totals : TotalsBreakdown
  events : List OrderEvent
  adjustments : List OrderAdjustment
  createdAt : Int
deriving DecidableEq, Repr

/-- The breakdown of what a cart costs, as transactions and orders carry it. -/
def CartProjection.totals (cart : CartProjection) : TotalsBreakdown where
  subtotalMinor := cart.subtotalMinor
  taxMinor := cart.taxMinor
  discountMinor := cart.discountMinor
  fulfillmentMinor := cart.fulfillmentMinor
  totalMinor := cart.totalMinor

end Orchestrator
