/-
# `CommerceOrchestrator.Runtime.Effects` — the operations of the runner and their world

Everything the runner does to the outside is one operation `Op`: a method of a
store trait, a call to a provider, a fresh UUID, a look at the clock.  Each has
the answer type of the method it stands for.

`Env` is everything the program does not decide: what each provider answers,
which store operations fail, what time it is.  It is indexed by the number of
operations performed so far, so one `Env` covers a provider that changes its
mind, and quantifying over `Env` covers every behaviour.  The stores are the
in-memory ones, with failures added.
-/
import CommerceOrchestrator.Core.Validation
import CommerceOrchestrator.Runtime.Stores
import CommerceOrchestrator.Effect.Prog

namespace Orchestrator

open Effect

/-! ## Providers -/

inductive CatalogError
  | notFound (itemId : String)
deriving DecidableEq, Repr, Inhabited

structure CatalogItem where
  id : String
  title : String
  priceMinor : Int
deriving DecidableEq, Repr

inductive PricingError
  | failed (message : String)
deriving DecidableEq, Repr, Inhabited

structure LinePrice where
  lineId : String
  unitPriceMinor : Int
  totalMinor : Int
deriving DecidableEq, Repr

inductive TaxError
  | failed (message : String)
deriving DecidableEq, Repr, Inhabited

structure TaxResult where
  totalTaxMinor : Int
deriving DecidableEq, Repr

inductive GeoError
  | failed (message : String)
deriving DecidableEq, Repr, Inhabited

structure GeoCheckResult where
  allowed : Bool
deriving DecidableEq, Repr

inductive PaymentError
  | authFailed (message : String)
  | unsupported (message : String)
deriving DecidableEq, Repr, Inhabited

structure AuthResult where
  authorized : Bool
  reference : String
deriving DecidableEq, Repr

structure PaymentOperationResult where
  success : Bool
  reference : String
deriving DecidableEq, Repr

inductive ReceiptError
  | failed (message : String)
deriving DecidableEq, Repr, Inhabited

structure ReceiptPayload where
  content : String
deriving DecidableEq, Repr

inductive FulfillmentError
  | failed (message : String)
deriving DecidableEq, Repr, Inhabited

/-- The error's display text. -/
def FulfillmentError.render : FulfillmentError → String
  | .failed message => "fulfillment rating failed: " ++ message

structure FulfillmentQuoteRequest where
  methodType : FulfillmentMethodType
  destination : FulfillmentDestination
  lineItemIds : List String
deriving DecidableEq, Repr

/-! ## Operations -/

inductive Op
  -- cart events, snapshots and state
  | appendCartEvent (cartId : CartId) (event : CartStreamEvent)
  | putCartSnapshot (snapshot : CartProjection)
  | getCartSnapshot (cartId : CartId)
  | getCartState (cartId : CartId)
  | setCartState (cartId : CartId) (state : CartState)
  -- idempotency
  | claim (key : IdempotencyKey)
  | complete (key : IdempotencyKey) (result : TransactionResult)
  | release (key : IdempotencyKey)
  -- commit, reservations, outbox, orders, payment state
  | commit (cartId : CartId) (paymentReference : Option String)
  | reserve (cartId : CartId) (sku : String) (quantity ttl : Nat)
  | finalizeCart (cartId : CartId)
  | releaseCart (cartId : CartId)
  | enqueue (message : OutboxMessage)
  | putOrder (record : OrderRecord)
  | putPaymentState (transactionId : String) (state : PaymentState)
  -- providers
  | getItem (itemId : String)
  | resolvePrices (cart : CartProjection)
  | resolveDiscounts (cart : CartProjection) (codes : List String)
  | resolveTax (cart : CartProjection)
  | checkGeo (cart : CartProjection) (request : CheckoutRequest)
  | quoteOptions (cart : CartProjection) (request : FulfillmentQuoteRequest)
  | authorize (request : CheckoutRequest)
  | capture (request : PaymentLifecycleRequest)
  | generate (cart : CartProjection) (result : TransactionResult)
  -- ambient
  | newUuid
  | utcNow
deriving DecidableEq

/-- What each operation answers.  A read that fails reads as absent, as it does in
the database backend; the runner ignores the outcome of `putPaymentState`. -/
abbrev Op.Ans : Op → Type
  | .appendCartEvent .. | .putCartSnapshot .. | .setCartState .. => Except StoreError Unit
  | .getCartSnapshot .. => Option CartProjection
  | .getCartState .. => Option CartState
  | .claim .. => Except StoreError (Option IdempotencyState)
  | .complete .. | .release .. => Except StoreError Unit
  | .commit .. => Except StoreError CommitRecord
  | .reserve .. | .finalizeCart .. | .releaseCart .. => Except StoreError Unit
  | .enqueue .. | .putOrder .. | .putPaymentState .. => Except StoreError Unit
  | .getItem .. => Except CatalogError CatalogItem
  | .resolvePrices .. => Except PricingError (List LinePrice)
  | .resolveDiscounts .. => Except PricingError (List AppliedDiscount)
  | .resolveTax .. => Except TaxError TaxResult
  | .checkGeo .. => Except GeoError GeoCheckResult
  | .quoteOptions .. => Except FulfillmentError (List FulfillmentOption)
  | .authorize .. => Except PaymentError AuthResult
  | .capture .. => Except PaymentError PaymentOperationResult
  | .generate .. => Except ReceiptError ReceiptPayload
  | .newUuid => Uuid
  | .utcNow => Int

/-- Procedures of the runner. -/
abbrev Eff := Prog Op.Ans

/-! ## World and environment -/

/-- The stores, and the number of operations performed so far.  A fresh UUID is
that number: no two draws agree. -/
structure World where
  events : InMemoryEventStore
  idempotency : InMemoryIdempotencyStore
  commits : InMemoryCommitStore
  reservations : InMemoryReservationStore
  outbox : Outbox
  orders : InMemoryOrderStore
  paymentStates : InMemoryPaymentStateStore
  clock : Nat

/-- Nothing stored, nothing done. -/
def World.empty : World where
  events := ⟨∅, ∅, ∅⟩
  idempotency := ∅
  commits := ∅
  reservations := ∅
  outbox := []
  orders := ∅
  paymentStates := ∅
  clock := 0

def World.tick (w : World) : World := { w with clock := w.clock + 1 }

instance (o : Op) : Nonempty o.Ans := by
  cases o <;> exact ⟨default⟩

/-- What the program does not decide; `n` counts the operations before this one. -/
structure Env where
  fault : (n : Nat) → Op → Option StoreError
  instant : (n : Nat) → Nat
  utcNow : (n : Nat) → Int
  getItem : (n : Nat) → String → Except CatalogError CatalogItem
  resolvePrices : (n : Nat) → CartProjection → Except PricingError (List LinePrice)
  resolveDiscounts : (n : Nat) → CartProjection → List String →
    Except PricingError (List AppliedDiscount)
  resolveTax : (n : Nat) → CartProjection → Except TaxError TaxResult
  checkGeo : (n : Nat) → CartProjection → CheckoutRequest → Except GeoError GeoCheckResult
  quoteOptions : (n : Nat) → CartProjection → FulfillmentQuoteRequest →
    Except FulfillmentError (List FulfillmentOption)
  authorize : (n : Nat) → CheckoutRequest → Except PaymentError AuthResult
  capture : (n : Nat) → PaymentLifecycleRequest → Except PaymentError PaymentOperationResult
  generate : (n : Nat) → CartProjection → TransactionResult → Except ReceiptError ReceiptPayload

/-- A store operation that may fail, with or without taking effect. -/
def World.attempt {α : Type} (w : World) (fault : Option StoreError) (f : World → α × World) :
    Except StoreError α × World :=
  match fault with
  | none => (.ok (f w).1, (f w).2.tick)
  | some e => (.error e, (if e.tookEffect then (f w).2 else w).tick)

/-- A store read; one that fails reads as absent. -/
def World.read {α : Type} (w : World) (fault : Option StoreError) (f : World → Option α) :
    Option α × World :=
  (if fault.isSome then none else f w, w.tick)

/-- The in-memory stores and the providers of `env`. -/
def Env.handle (env : Env) : Handler Op.Ans World := fun o w =>
  let fault := env.fault w.clock o
  match o with
  | .appendCartEvent cartId event =>
      w.attempt fault fun w => ((), { w with events := w.events.appendCartEvent cartId event })
  | .putCartSnapshot snapshot =>
      w.attempt fault fun w => ((), { w with events := w.events.putCartSnapshot snapshot })
  | .getCartSnapshot cartId => w.read fault fun w => w.events.getCartSnapshot cartId
  | .getCartState cartId => w.read fault fun w => w.events.getCartState cartId
  | .setCartState cartId state =>
      w.attempt fault fun w => ((), { w with events := w.events.setCartState cartId state })
  | .claim key =>
      w.attempt fault fun w =>
        ((w.idempotency.claim key).1, { w with idempotency := (w.idempotency.claim key).2 })
  | .complete key result =>
      w.attempt fault fun w => ((), { w with idempotency := w.idempotency.complete key result })
  | .release key =>
      w.attempt fault fun w => ((), { w with idempotency := w.idempotency.release key })
  | .commit cartId paymentReference =>
      w.attempt fault fun w =>
        ((w.commits.commit ⟨w.clock⟩ cartId paymentReference).1,
          { w with commits := (w.commits.commit ⟨w.clock⟩ cartId paymentReference).2 })
  | .reserve cartId sku quantity ttl =>
      w.attempt fault fun w =>
        ((), { w with
          reservations := w.reservations.reserve (env.instant w.clock) cartId sku quantity ttl })
  | .finalizeCart cartId =>
      w.attempt fault fun w => ((), { w with reservations := w.reservations.finalizeCart cartId })
  | .releaseCart cartId =>
      w.attempt fault fun w => ((), { w with reservations := w.reservations.releaseCart cartId })
  | .enqueue message =>
      w.attempt fault fun w => ((), { w with outbox := w.outbox.enqueue message })
  | .putOrder record =>
      w.attempt fault fun w => ((), { w with orders := w.orders.put record })
  | .putPaymentState transactionId state =>
      w.attempt fault fun w =>
        ((), { w with paymentStates := w.paymentStates.put transactionId state })
  | .getItem itemId => (env.getItem w.clock itemId, w.tick)
  | .resolvePrices cart => (env.resolvePrices w.clock cart, w.tick)
  | .resolveDiscounts cart codes => (env.resolveDiscounts w.clock cart codes, w.tick)
  | .resolveTax cart => (env.resolveTax w.clock cart, w.tick)
  | .checkGeo cart request => (env.checkGeo w.clock cart request, w.tick)
  | .quoteOptions cart request => (env.quoteOptions w.clock cart request, w.tick)
  | .authorize request => (env.authorize w.clock request, w.tick)
  | .capture request => (env.capture w.clock request, w.tick)
  | .generate cart result => (env.generate w.clock cart result, w.tick)
  | .newUuid => (⟨w.clock⟩, w.tick)
  | .utcNow => (env.utcNow w.clock, w.tick)

/-- Providers that agree to everything and leave every price as it is; no failures. -/
def Env.agreeable : Env where
  fault _ _ := none
  instant n := n
  utcNow n := n
  getItem _ itemId := .ok ⟨itemId, itemId, 100⟩
  resolvePrices _ _ := .ok []
  resolveDiscounts _ _ _ := .ok []
  resolveTax _ _ := .ok ⟨0⟩
  checkGeo _ _ _ := .ok ⟨true⟩
  quoteOptions _ _ _ := .ok []
  authorize _ _ := .ok ⟨true, "auth"⟩
  capture _ _ := .ok ⟨true, "capture"⟩
  generate _ _ _ := .ok ⟨"receipt"⟩

/-! ## Errors of the runner -/

inductive RunnerError
  | missingCartId
  | cartNotFound
  | lineNotFound
  | fulfillmentOptionNotFound
  | fulfillmentQuote (message : String)
  | validation (errors : List String)
  | alreadyInFlight
  | invalidStateTransition
  | cartVersionConflict (expected current : Nat)
  | cartTenantMismatch
  | geoBlocked
  | amountMismatch (expectedMinor providedMinor : Int)
  | unsupportedCommand
  | store (e : StoreError)
  | catalog (e : CatalogError)
  | pricing (e : PricingError)
  | tax (e : TaxError)
  | geo (e : GeoError)
  | payment (e : PaymentError)
  | receipt (e : ReceiptError)
deriving DecidableEq, Repr

/-- Fallible procedures of the runner. -/
abbrev Run := ExceptT RunnerError Eff

/-- Perform one operation, whatever it answers. -/
def ask (o : Op) : Eff o.Ans := Prog.perform o

/-- An operation that cannot fail. -/
def call (o : Op) : Run o.Ans := ExceptT.lift (ask o)

/-- `p.await.map_err(f)?`. -/
def tryWith {ε α : Type} (f : ε → RunnerError) (p : Eff (Except ε α)) : Run α :=
  ExceptT.mk (Except.mapError f <$> p)

/-- `x.ok_or(e)?`. -/
def okOr {α : Type} (x : Option α) (e : RunnerError) : Run α :=
  match x with
  | some a => pure a
  | none => throw e

/-- `if bad { return Err(e) }`. -/
def failIf (bad : Prop) [Decidable bad] (e : RunnerError) : Run Unit :=
  if bad then throw e else pure ()

end Orchestrator
