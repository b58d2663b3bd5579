/-
# `CommerceOrchestrator.Persistence.FileBacked` — stores kept in JSON files

Thirteen values, each in memory behind a lock and in a file of its own.  A method works on
one of them: what it does while it holds the lock is a `Critical`, which also says whether
the method goes on to save.  Maps are keyed by strings here, carts by their printed
id and idempotency keys by their parts joined with `|`.
-/
import Mathlib
import CommerceOrchestrator.Runtime.Stores
import CommerceOrchestrator.Effect.WriteThrough

namespace Orchestrator

open Effect

/-! ## Keys -/

def cartIdKey (cartId : CartId) : String := cartId.uuid.render

theorem cartIdKey_inj {c c' : CartId} (h : cartIdKey c = cartIdKey c') : c = c' := by
  obtain ⟨⟨n⟩⟩ := c
  obtain ⟨⟨n'⟩⟩ := c'
  have hn : n = n' := Nat.repr_injective h
  rw [hn]

def FileBacked.idempotencyKeyStr (key : IdempotencyKey) : String :=
  key.tenantId ++ "|" ++ key.merchantId ++ "|" ++ key.key

/-- No part of the key contains the separator. -/
def IdempotencyKey.BarFree (key : IdempotencyKey) : Prop :=
  '|' ∉ key.tenantId.toList ∧ '|' ∉ key.merchantId.toList ∧ '|' ∉ key.key.toList

instance {key : IdempotencyKey} : Decidable key.BarFree := inferInstanceAs (Decidable (_ ∧ _))

section Keys

variable {key key' : IdempotencyKey}

theorem toList_idempotencyKeyStr :
    (FileBacked.idempotencyKeyStr key).toList =
      key.tenantId.toList ++ '|' :: (key.merchantId.toList ++ '|' :: key.key.toList) := by
  simp [FileBacked.idempotencyKeyStr]

/-- The part of a list before a separator, if the separator is not in it. -/
theorem append_cons_inj {x : Char} {a a' b b' : List Char} (ha : x ∉ a) (ha' : x ∉ a')
    (h : a ++ x :: b = a' ++ x :: b') : a = a' ∧ b = b' := by
  induction a generalizing a' with
  | nil =>
      cases a' with
      | nil => exact ⟨rfl, (List.cons.inj h).2⟩
      | cons y a' =>
          obtain ⟨rfl, -⟩ := List.cons.inj h
          exact absurd List.mem_cons_self ha'
  | cons y a ih =>
      cases a' with
      | nil =>
          obtain ⟨rfl, -⟩ := List.cons.inj h
          exact absurd List.mem_cons_self ha
      | cons y' a' =>
          obtain ⟨rfl, htail⟩ := List.cons.inj h
          obtain ⟨rfl, rfl⟩ := ih (fun hm => ha (List.mem_cons_of_mem _ hm))
            (fun hm => ha' (List.mem_cons_of_mem _ hm)) htail
          exact ⟨rfl, rfl⟩

/-- A key without bars has two in its string; so has every key of that string. -/
theorem IdempotencyKey.BarFree.of_str (h : key.BarFree)
    (heq : FileBacked.idempotencyKeyStr key' = FileBacked.idempotencyKeyStr key) : key'.BarFree := by
  have hcount := congrArg (fun s => s.toList.count '|') heq
  simp only [toList_idempotencyKeyStr, List.count_append, List.count_cons_self] at hcount
  rw [List.count_eq_zero.mpr h.1, List.count_eq_zero.mpr h.2.1,
    List.count_eq_zero.mpr h.2.2] at hcount
  refine ⟨List.count_eq_zero.mp ?_, List.count_eq_zero.mp ?_, List.count_eq_zero.mp ?_⟩ <;> omega

/-- **A key without bars is known by its string.** -/
theorem IdempotencyKey.BarFree.str_inj (h : key.BarFree)
    (heq : FileBacked.idempotencyKeyStr key' = FileBacked.idempotencyKeyStr key) : key' = key := by
  have h' := h.of_str heq
  have hlist := congrArg String.toList heq
  rw [toList_idempotencyKeyStr, toList_idempotencyKeyStr] at hlist
  obtain ⟨htenant, hlist⟩ := append_cons_inj h'.1 h.1 hlist
  obtain ⟨hmerchant, hkey⟩ := append_cons_inj h'.2.1 h.2.1 hlist
  cases key
  cases key'
  rw [IdempotencyKey.mk.injEq]
  exact ⟨String.toList_inj.mp htenant, String.toList_inj.mp hmerchant, String.toList_inj.mp hkey⟩

end Keys

/-! ## Files -/

structure ReservationDto where
  cartId : CartId
  sku : String
  quantity : Nat
  state : ReservationState
  leaseUntilSecs : Int
deriving DecidableEq, Repr

inductive StoreFile
  | cartEvents
  | cartSnapshots
  | cartStates
  | idempotency
  | commits
  | reservations
  | outbox
  | inbox
  | deadLetter
  | orders
  | paymentState
  | mandates
  | webhooks
deriving DecidableEq, Repr

/-- The path of a file below the base directory. -/
def StoreFile.path : StoreFile → String
  | .cartEvents => "events/cart_events.json"
  | .cartSnapshots => "events/cart_snapshots.json"
  | .cartStates => "events/cart_states.json"
  | .idempotency => "idempotency.json"
  | .commits => "commits.json"
  | .reservations => "reservations.json"
  | .outbox => "outbox.json"
  | .inbox => "inbox.json"
  | .deadLetter => "dead_letter.json"
  | .orders => "orders.json"
  | .paymentState => "payment_state.json"
  | .mandates => "mandates.json"
  | .webhooks => "webhooks.json"

/-- What a file holds. -/
abbrev StoreFile.Value : StoreFile → Type
  | .cartEvents => Table String (List CartStreamEvent)
  | .cartSnapshots => Table String CartProjection
  | .cartStates => Table String CartState
  | .idempotency => Table String IdempotencyState
  | .commits => Table String CommitRecord
  | .reservations => Table String ReservationDto
  | .outbox => List OutboxMessage
  | .inbox => Finset String
  | .deadLetter => Table String OutboxMessage
  | .orders => Table String OrderRecord
  | .paymentState => Table String PaymentState
  | .mandates => Table String Int
  | .webhooks => Table String WebhookRegistration

/-- `Default::default()`: nothing. -/
def StoreFile.default : (f : StoreFile) → f.Value
  | .cartEvents | .cartSnapshots | .cartStates | .idempotency | .commits | .reservations
  | .deadLetter | .orders | .paymentState | .mandates | .webhooks => (∅ : Table String _)
  | .outbox => []
  | .inbox => ∅

/-! ## Methods -/

namespace FileBackedEventStore

def appendCartEvent (cartId : CartId) (event : CartStreamEvent)
    (events : Table String (List CartStreamEvent)) :
    Critical Unit (Table String (List CartStreamEvent)) :=
  let key := cartIdKey cartId
  .saving () (events.insert key ((events.lookup key).getD [] ++ [event]))

def putCartSnapshot (snapshot : CartProjection) (snapshots : Table String CartProjection) :
    Critical Unit (Table String CartProjection) :=
  .saving () (snapshots.insert (cartIdKey snapshot.cartId) snapshot)

def getCartSnapshot (cartId : CartId) (snapshots : Table String CartProjection) :
    Critical (Option CartProjection) (Table String CartProjection) :=
  .keeping (snapshots.lookup (cartIdKey cartId)) snapshots

def getCartState (cartId : CartId) (states : Table String CartState) :
    Critical (Option CartState) (Table String CartState) :=
  .keeping (states.lookup (cartIdKey cartId)) states

def setCartState (cartId : CartId) (state : CartState) (states : Table String CartState) :
    Critical Unit (Table String CartState) :=
  .saving () (states.insert (cartIdKey cartId) state)

end FileBackedEventStore

namespace FileBackedIdempotencyStore

def claim (key : IdempotencyKey) (inner : Table String IdempotencyState) :
    Critical (Option IdempotencyState) (Table String IdempotencyState) :=
  let k := FileBacked.idempotencyKeyStr key
  match inner.lookup k with
  | some s => .keeping (some s) inner
  | none => .saving none (inner.insert k .inFlight)

def complete (key : IdempotencyKey) (result : TransactionResult)
    (inner : Table String IdempotencyState) : Critical Unit (Table String IdempotencyState) :=
  .saving () (inner.insert (FileBacked.idempotencyKeyStr key) (.completed result))

def release (key : IdempotencyKey) (inner : Table String IdempotencyState) :
    Critical Unit (Table String IdempotencyState) :=
  let k := FileBacked.idempotencyKeyStr key
  if inner.lookup k ≠ some .inFlight then .keeping () inner else .saving () (inner.erase k)

end FileBackedIdempotencyStore

namespace FileBackedOutboxStore

def enqueue (message : OutboxMessage) (queue : List OutboxMessage) :
    Critical Unit (List OutboxMessage) :=
  .saving () (queue ++ [message])

def dequeue (queue : List OutboxMessage) : Critical (Option OutboxMessage) (List OutboxMessage) :=
  match queue with
  | [] => .keeping none []
  | message :: queue => .saving (some message) queue

def len (queue : List OutboxMessage) : Critical Nat (List OutboxMessage) :=
  .keeping queue.length queue

/-- The default of the trait. -/
def claim : List OutboxMessage → Critical (Option OutboxMessage) (List OutboxMessage) := dequeue

/-- The default of the trait. -/
def ack (_messageId : String) (queue : List OutboxMessage) : Critical Unit (List OutboxMessage) :=
  .keeping () queue

/-- The default of the trait. -/
def release (message : OutboxMessage) : List OutboxMessage → Critical Unit (List OutboxMessage) :=
  enqueue message

end FileBackedOutboxStore

def FileBackedInboxStore.acceptOnce (messageId : String) (seen : Finset String) :
    Critical Bool (Finset String) :=
  if messageId ∉ seen then .saving true (insert messageId seen) else .keeping false seen

namespace FileBackedDeadLetterStore

def put (message : OutboxMessage) (records : Table String OutboxMessage) :
    Critical Unit (Table String OutboxMessage) :=
  .saving () (records.insert message.id message)

def len (records : Table String OutboxMessage) : Critical Nat (Table String OutboxMessage) :=
  .keeping records.entries.length records

def list (records : Table String OutboxMessage) :
    Critical (List OutboxMessage) (Table String OutboxMessage) :=
  .keeping (records.entries.map (·.2)) records

def take (messageId : String) (records : Table String OutboxMessage) :
    Critical (Option OutboxMessage) (Table String OutboxMessage) :=
  match records.lookup messageId with
  | some message => .saving (some message) (records.erase messageId)
  | none => .keeping none records

end FileBackedDeadLetterStore

namespace FileBackedOrderStore

def put (record : OrderRecord) (records : Table String OrderRecord) :
    Critical Unit (Table String OrderRecord) :=
  .saving () (records.insert record.orderId record)

def get (orderId : String) (records : Table String OrderRecord) :
    Critical (Option OrderRecord) (Table String OrderRecord) :=
  .keeping (records.lookup orderId) records

def listByTenant (tenantId : String) (records : Table String OrderRecord) :
    Critical (List OrderRecord) (Table String OrderRecord) :=
  .keeping (((records.entries.map (·.2)).filter (·.tenantId = tenantId)).mergeSort
    fun a b => b.createdAt ≤ a.createdAt) records

/-- What the three changes of an order share. -/
def amend (orderId : String) (f : OrderRecord → OrderRecord) (records : Table String OrderRecord) :
    Critical (Option OrderRecord) (Table String OrderRecord) :=
  match records.lookup orderId with
  | some record => .saving (some (f record)) (records.insert orderId (f record))
  | none => .keeping none records

def appendEvent (orderId : String) (event : OrderEvent) :
    Table String OrderRecord → Critical (Option OrderRecord) (Table String OrderRecord) :=
  amend orderId fun record => { record with events := record.events ++ [event] }

def addAdjustment (orderId : String) (adjustment : OrderAdjustment) :
    Table String OrderRecord → Critical (Option OrderRecord) (Table String OrderRecord) :=
  amend orderId fun record => { record with adjustments := record.adjustments ++ [adjustment] }

def updateStatus (orderId : String) (status : OrderStatus) :
    Table String OrderRecord → Critical (Option OrderRecord) (Table String OrderRecord) :=
  amend orderId fun record => { record with status }

end FileBackedOrderStore

namespace FileBackedPaymentStateStore

def put (transactionId : String) (state : PaymentState) (inner : Table String PaymentState) :
    Critical Unit (Table String PaymentState) :=
  .saving () (inner.insert transactionId state)

def get (transactionId : String) (inner : Table String PaymentState) :
    Critical (Option PaymentState) (Table String PaymentState) :=
  .keeping (inner.lookup transactionId) inner

end FileBackedPaymentStateStore

/-- A mandate that is known is refused without saving, also when expired ones were dropped. -/
def FileBackedMandateDedupeStore.recordMandate (mandateId : String) (expiresAt now : Int)
    (seen : Table String Int) : Critical Bool (Table String Int) :=
  let live := seen.keep fun _ expiry => now < expiry
  if mandateId ∈ live then ⟨false, live, false⟩
  else .saving true (live.insert mandateId expiresAt)

namespace FileBackedWebhookStore

def register (registration : WebhookRegistration) (records : Table String WebhookRegistration) :
    Critical Unit (Table String WebhookRegistration) :=
  .saving () (records.insert registration.id registration)

def unregister (id : String) (records : Table String WebhookRegistration) :
    Critical Bool (Table String WebhookRegistration) :=
  if (records.lookup id).isSome then .saving true (records.erase id) else .keeping false records

def listByTenant (tenantId : String) (records : Table String WebhookRegistration) :
    Critical (List WebhookRegistration) (Table String WebhookRegistration) :=
  .keeping ((records.entries.map (·.2)).filter (·.tenantId = tenantId)) records

def get (id : String) (records : Table String WebhookRegistration) :
    Critical (Option WebhookRegistration) (Table String WebhookRegistration) :=
  .keeping (records.lookup id) records

def listActiveForTopic (tenantId topic : String) (records : Table String WebhookRegistration) :
    Critical (List WebhookRegistration) (Table String WebhookRegistration) :=
  .keeping ((records.entries.map (·.2)).filter fun r =>
    r.active && r.tenantId = tenantId && r.eventFilter.all fun topics => topics.contains topic)
    records

end FileBackedWebhookStore

end Orchestrator
