/-
# `CommerceOrchestrator.Runtime.Stores` — what the runner stores, in memory

The records the runner keeps and the in-memory backend of each store trait.
A hash map is a `Table`, a mutex-guarded method is one function: the lock is
held for the whole body, so the operations are atomic and the only question an
interleaving can ask is in which order they happen.
-/
import CommerceOrchestrator.Core.StateMachine
import CommerceOrchestrator.Effect.Table
import Mathlib.Data.Finset.Insert

namespace Orchestrator

open Effect

/-- A persistence failure.  The runner only passes it on; `tookEffect` records
whether the operation had already changed the store when it failed (a save that
fails after the in-memory map was updated, a lost acknowledgement). -/
structure StoreError where
  message : String
  tookEffect : Bool
deriving DecidableEq, Repr, Inhabited

/-! ## Idempotency -/

structure IdempotencyKey where
  tenantId : String
  merchantId : String
  key : String
deriving DecidableEq, Repr

inductive IdempotencyState
  | inFlight
  | completed (result : TransactionResult)
deriving DecidableEq, Repr

abbrev InMemoryIdempotencyStore := Table IdempotencyKey IdempotencyState

namespace InMemoryIdempotencyStore

/-- `none` tells the caller to proceed: the key was free and is now in flight. -/
def claim (store : InMemoryIdempotencyStore) (key : IdempotencyKey) :
    Option IdempotencyState × InMemoryIdempotencyStore :=
  match store.lookup key with
  | some state => (some state, store)
  | none => (none, store.insert key .inFlight)

def complete (store : InMemoryIdempotencyStore) (key : IdempotencyKey)
    (result : TransactionResult) : InMemoryIdempotencyStore :=
  store.insert key (.completed result)

/-- Drops an in-flight claim; a completed one is left untouched. -/
def release (store : InMemoryIdempotencyStore) (key : IdempotencyKey) :
    InMemoryIdempotencyStore :=
  if store.lookup key = some .inFlight then store.erase key else store

variable (store : InMemoryIdempotencyStore) (key key' : IdempotencyKey)

theorem claim_fst : (store.claim key).1 = store.lookup key := by
  unfold claim
  split <;> simp_all

theorem lookup_claim_self :
    (store.claim key).2.lookup key = some ((store.lookup key).getD .inFlight) := by
  unfold claim
  split <;> simp_all

theorem lookup_claim_ne (h : key' ≠ key) :
    (store.claim key).2.lookup key' = store.lookup key' := by
  unfold claim
  split <;> simp [AList.lookup_insert_ne h]

theorem lookup_complete_self (result : TransactionResult) :
    (store.complete key result).lookup key = some (.completed result) :=
  AList.lookup_insert _

theorem lookup_complete_ne (result : TransactionResult) (h : key' ≠ key) :
    (store.complete key result).lookup key' = store.lookup key' :=
  AList.lookup_insert_ne h

theorem lookup_release_self :
    (store.release key).lookup key =
      if store.lookup key = some .inFlight then none else store.lookup key := by
  unfold release
  split <;> simp

theorem lookup_release_ne (h : key' ≠ key) :
    (store.release key).lookup key' = store.lookup key' := by
  unfold release
  split
  · exact AList.lookup_erase_ne h
  · rfl

end InMemoryIdempotencyStore

/-! ## Commit boundary -/

structure CommitRecord where
  transactionId : String
  cartId : CartId
  paymentReference : Option String
deriving DecidableEq, Repr

abbrev InMemoryCommitStore := Table CartId CommitRecord

/-- Records the commit under the cart, over any earlier one; `txn` is the fresh
UUID the transaction is named after. -/
def InMemoryCommitStore.commit (store : InMemoryCommitStore) (txn : Uuid) (cartId : CartId)
    (paymentReference : Option String) : CommitRecord × InMemoryCommitStore :=
  let record : CommitRecord :=
    { transactionId := "txn_" ++ txn.render, cartId, paymentReference }
  (record, store.insert cartId record)

/-! ## Inventory reservations -/

inductive ReservationState
  | reserved
  | expired
  | released
  | finalized
deriving DecidableEq, Repr

structure ReservationRecord where
  cartId : CartId
  sku : String
  quantity : Nat
  state : ReservationState
  leaseUntil : Nat
deriving DecidableEq, Repr

abbrev InMemoryReservationStore := Table (CartId × String) ReservationRecord

namespace InMemoryReservationStore

def reserve (store : InMemoryReservationStore) (now : Nat) (cartId : CartId) (sku : String)
    (quantity ttl : Nat) : InMemoryReservationStore :=
  store.insert (cartId, sku)
    { cartId, sku, quantity, state := .reserved, leaseUntil := now + ttl }

/-- Put every record of a cart into one state. -/
def setCart (store : InMemoryReservationStore) (cartId : CartId) (state : ReservationState) :
    InMemoryReservationStore :=
  store.mapValues fun _ record => if record.cartId = cartId then { record with state } else record

def finalizeCart (store : InMemoryReservationStore) (cartId : CartId) : InMemoryReservationStore :=
  store.setCart cartId .finalized

def releaseCart (store : InMemoryReservationStore) (cartId : CartId) : InMemoryReservationStore :=
  store.setCart cartId .released

theorem lookup_reserve (store : InMemoryReservationStore) (now : Nat) (cartId : CartId)
    (sku : String) (quantity ttl : Nat) (k : CartId × String) :
    (store.reserve now cartId sku quantity ttl).lookup k =
      if k = (cartId, sku) then some ⟨cartId, sku, quantity, .reserved, now + ttl⟩
      else store.lookup k :=
  Table.lookup_insert_ite _ _ _ _

theorem lookup_setCart (store : InMemoryReservationStore) (cartId : CartId)
    (state : ReservationState) (k : CartId × String) :
    (store.setCart cartId state).lookup k =
      (store.lookup k).map fun record =>
        if record.cartId = cartId then { record with state } else record :=
  Table.lookup_mapValues _ _ _

end InMemoryReservationStore

/-! ## Outbox -/

structure OutboxMessage where
  id : String
  topic : String
  payload : String
  correlationId : String
  attempts : Nat
  tenantId : Option String
deriving DecidableEq, Repr

/-- The queue, oldest message first. -/
abbrev Outbox := List OutboxMessage

def Outbox.enqueue (queue : Outbox) (message : OutboxMessage) : Outbox := queue ++ [message]

def Outbox.dequeue (queue : Outbox) : Option OutboxMessage × Outbox := (queue.head?, queue.tail)

/-- Messages that were given up on, under their ids. -/
abbrev DeadLetter := Table String OutboxMessage

namespace DeadLetter

def put (store : DeadLetter) (message : OutboxMessage) : DeadLetter :=
  store.insert message.id message

def list (store : DeadLetter) : List OutboxMessage := store.entries.map (·.2)

def take (store : DeadLetter) (messageId : String) : Option OutboxMessage × DeadLetter :=
  (store.lookup messageId, store.erase messageId)

end DeadLetter

/-! ## Inbox and mandates -/

/-- The ids of the messages accepted so far. -/
abbrev InboxDedupe := Finset String

def InboxDedupe.acceptOnce (seen : InboxDedupe) (messageId : String) : Bool × InboxDedupe :=
  (decide (messageId ∉ seen), insert messageId seen)

/-- Mandates seen, with the second each expires in. -/
abbrev InMemoryMandateDedupeStore := Table String Int

def InMemoryMandateDedupeStore.recordMandate (store : InMemoryMandateDedupeStore) (now : Int)
    (mandateId : String) (expiresAt : Int) : Bool × InMemoryMandateDedupeStore :=
  let live := store.keep fun _ expiry => now < expiry
  if mandateId ∈ live then (false, live) else (true, live.insert mandateId expiresAt)

/-! ## Webhook registrations -/

structure WebhookRegistration where
  id : String
  tenantId : String
  url : String
  secret : String
  eventFilter : Option (List String)
  active : Bool
deriving DecidableEq, Repr

abbrev InMemoryWebhookStore := Table String WebhookRegistration

namespace InMemoryWebhookStore

def register (store : InMemoryWebhookStore) (registration : WebhookRegistration) :
    InMemoryWebhookStore :=
  store.insert registration.id registration

def unregister (store : InMemoryWebhookStore) (id : String) : Bool × InMemoryWebhookStore :=
  ((store.lookup id).isSome, store.erase id)

def listByTenant (store : InMemoryWebhookStore) (tenantId : String) : List WebhookRegistration :=
  (store.entries.map (·.2)).filter (·.tenantId = tenantId)

def listActiveForTopic (store : InMemoryWebhookStore) (tenantId topic : String) :
    List WebhookRegistration :=
  (store.entries.map (·.2)).filter fun r =>
    r.active && r.tenantId = tenantId && r.eventFilter.all fun topics => topics.contains topic

end InMemoryWebhookStore

/-! ## Orders and payment state -/

abbrev InMemoryOrderStore := Table String OrderRecord

namespace InMemoryOrderStore

def put (store : InMemoryOrderStore) (record : OrderRecord) : InMemoryOrderStore :=
  store.insert record.orderId record

def get (store : InMemoryOrderStore) (orderId : String) : Option OrderRecord :=
  store.lookup orderId

/-- The orders of a tenant, newest first. -/
def listByTenant (store : InMemoryOrderStore) (tenantId : String) : List OrderRecord :=
  ((store.entries.map (·.2)).filter (·.tenantId = tenantId)).mergeSort
    fun a b => b.createdAt ≤ a.createdAt

/-- Change an order that exists, and return it. -/
def amend (store : InMemoryOrderStore) (orderId : String) (f : OrderRecord → OrderRecord) :
    Option OrderRecord × InMemoryOrderStore :=
  match store.lookup orderId with
  | some record => (some (f record), store.insert orderId (f record))
  | none => (none, store)

def appendEvent (store : InMemoryOrderStore) (orderId : String) (event : OrderEvent) :
    Option OrderRecord × InMemoryOrderStore :=
  store.amend orderId fun record => { record with events := record.events ++ [event] }

def addAdjustment (store : InMemoryOrderStore) (orderId : String) (adjustment : OrderAdjustment) :
    Option OrderRecord × InMemoryOrderStore :=
  store.amend orderId fun record =>
    { record with adjustments := record.adjustments ++ [adjustment] }

def updateStatus (store : InMemoryOrderStore) (orderId : String) (status : OrderStatus) :
    Option OrderRecord × InMemoryOrderStore :=
  store.amend orderId fun record => { record with status }

end InMemoryOrderStore

abbrev InMemoryPaymentStateStore := Table String PaymentState

def InMemoryPaymentStateStore.put (store : InMemoryPaymentStateStore) (transactionId : String)
    (state : PaymentState) : InMemoryPaymentStateStore :=
  store.insert transactionId state

def InMemoryPaymentStateStore.get (store : InMemoryPaymentStateStore) (transactionId : String) :
    Option PaymentState :=
  store.lookup transactionId

/-! ## Carts -/

inductive CartStreamEvent
  | created (merchantId : String) (currency : String)
  | itemAdded (lineId : String) (itemId : String) (quantity : Nat)
  | itemQtyUpdated (lineId : String) (quantity : Nat)
  | itemRemoved (lineId : String)
  | adjustmentApplied (code : String)
  | fulfillmentSelected (methodType : FulfillmentMethodType) (selectedOptionId : Option String)
      (amountMinor : Int)
  | repriced
  | retaxed (taxMinor : Int)
  | geoChecked (allowed : Bool)
  | checkoutReady
  | cancelled
deriving DecidableEq, Repr

structure InMemoryEventStore where
  cartEvents : Table CartId (List CartStreamEvent)
  cartSnapshots : Table CartId CartProjection
  cartStates : Table CartId CartState

namespace InMemoryEventStore

def appendCartEvent (store : InMemoryEventStore) (cartId : CartId) (event : CartStreamEvent) :
    InMemoryEventStore :=
  { store with
    cartEvents :=
      store.cartEvents.insert cartId ((store.cartEvents.lookup cartId).getD [] ++ [event]) }

def putCartSnapshot (store : InMemoryEventStore) (snapshot : CartProjection) :
    InMemoryEventStore :=
  { store with cartSnapshots := store.cartSnapshots.insert snapshot.cartId snapshot }

def getCartSnapshot (store : InMemoryEventStore) (cartId : CartId) : Option CartProjection :=
  store.cartSnapshots.lookup cartId

def getCartState (store : InMemoryEventStore) (cartId : CartId) : Option CartState :=
  store.cartStates.lookup cartId

def setCartState (store : InMemoryEventStore) (cartId : CartId) (state : CartState) :
    InMemoryEventStore :=
  { store with cartStates := store.cartStates.insert cartId state }

end InMemoryEventStore

end Orchestrator
