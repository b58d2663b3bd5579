/-
# `CommerceOrchestrator.Persistence.Restarts` — the file-backed stores against the in-memory ones

The file-backed stores are a `Service`, the in-memory ones a `Reference`, and the first
refines the second call by call, so by `Refinement.served` it does so over any number of
restarts.  In memory a string-keyed map stands for the map of the reference through the
strings of the keys.

One call does not save everything it changes: `recordMandate` drops the expired mandates
also where it then refuses.  So a store that was started again may hold mandates the
in-memory one has dropped, and these matter if the clock has been set back behind
their expiry.
-/
import CommerceOrchestrator.Persistence.FileBacked

namespace Orchestrator

open Effect

/-! ## The calls -/

inductive StoreCall
  | appendCartEvent (cartId : CartId) (event : CartStreamEvent)
  | putCartSnapshot (snapshot : CartProjection)
  | getCartSnapshot (cartId : CartId)
  | getCartState (cartId : CartId)
  | setCartState (cartId : CartId) (state : CartState)
  | claim (key : IdempotencyKey)
  | complete (key : IdempotencyKey) (result : TransactionResult)
  | release (key : IdempotencyKey)
  | enqueue (message : OutboxMessage)
  | dequeue
  | outboxLen
  | outboxClaim
  | outboxAck (messageId : String)
  | outboxRelease (message : OutboxMessage)
  | acceptOnce (messageId : String)
  | putDeadLetter (message : OutboxMessage)
  | deadLetterLen
  | listDeadLetter
  | takeDeadLetter (messageId : String)
  | putOrder (record : OrderRecord)
  | getOrder (orderId : String)
  | listOrders (tenantId : String)
  | appendOrderEvent (orderId : String) (event : OrderEvent)
  | addAdjustment (orderId : String) (adjustment : OrderAdjustment)
  | updateStatus (orderId : String) (status : OrderStatus)
  | putPaymentState (transactionId : String) (state : PaymentState)
  | getPaymentState (transactionId : String)
  | recordMandate (mandateId : String) (expiresAt : Int)
  | registerWebhook (registration : WebhookRegistration)
  | unregisterWebhook (id : String)
  | listWebhooks (tenantId : String)
  | getWebhook (id : String)
  | listActiveForTopic (tenantId topic : String)

namespace StoreCall

/-- What a call answers if nothing fails. -/
abbrev Ans : StoreCall → Type
  | .appendCartEvent .. | .putCartSnapshot .. | .setCartState .. => Unit
  | .getCartSnapshot _ => Option CartProjection
  | .getCartState _ => Option CartState
  | .claim _ => Option IdempotencyState
  | .complete .. | .release _ => Unit
  | .enqueue _ | .outboxAck _ | .outboxRelease _ | .putDeadLetter _ => Unit
  | .dequeue | .outboxClaim | .takeDeadLetter _ => Option OutboxMessage
  | .outboxLen | .deadLetterLen => Nat
  | .acceptOnce _ => Bool
  | .listDeadLetter => List OutboxMessage
  | .putOrder _ => Unit
  | .getOrder _ | .appendOrderEvent .. | .addAdjustment .. | .updateStatus .. => Option OrderRecord
  | .listOrders _ => List OrderRecord
  | .putPaymentState .. => Unit
  | .getPaymentState _ => Option PaymentState
  | .recordMandate .. => Bool
  | .registerWebhook _ => Unit
  | .unregisterWebhook _ => Bool
  | .listWebhooks _ | .listActiveForTopic .. => List WebhookRegistration
  | .getWebhook _ => Option WebhookRegistration

/-- The value a call works on. -/
abbrev file : StoreCall → StoreFile
  | .appendCartEvent .. => .cartEvents
  | .putCartSnapshot .. | .getCartSnapshot _ => .cartSnapshots
  | .getCartState _ | .setCartState .. => .cartStates
  | .claim _ | .complete .. | .release _ => .idempotency
  | .enqueue _ | .dequeue | .outboxLen | .outboxClaim | .outboxAck _ | .outboxRelease _ => .outbox
  | .acceptOnce _ => .inbox
  | .putDeadLetter _ | .deadLetterLen | .listDeadLetter | .takeDeadLetter _ => .deadLetter
  | .putOrder _ | .getOrder _ | .listOrders _ | .appendOrderEvent .. | .addAdjustment ..
  | .updateStatus .. => .orders
  | .putPaymentState .. | .getPaymentState _ => .paymentState
  | .recordMandate .. => .mandates
  | .registerWebhook _ | .unregisterWebhook _ | .listWebhooks _ | .getWebhook _
  | .listActiveForTopic .. => .webhooks

/-- The calls that take the read lock, or none. -/
def reads : StoreCall → Bool
  | .getCartSnapshot _ | .getCartState _ | .outboxLen | .outboxAck _ | .deadLetterLen
  | .listDeadLetter | .getOrder _ | .listOrders _ | .getPaymentState _ | .listWebhooks _
  | .getWebhook _ | .listActiveForTopic .. => true
  | _ => false

/-- The file-backed method of each call; `now` is the clock, in seconds. -/
def enter : (c : StoreCall) → (now : Int) → c.file.Value → Critical c.Ans c.file.Value
  | .appendCartEvent cartId event, _ => FileBackedEventStore.appendCartEvent cartId event
  | .putCartSnapshot snapshot, _ => FileBackedEventStore.putCartSnapshot snapshot
  | .getCartSnapshot cartId, _ => FileBackedEventStore.getCartSnapshot cartId
  | .getCartState cartId, _ => FileBackedEventStore.getCartState cartId
  | .setCartState cartId state, _ => FileBackedEventStore.setCartState cartId state
  | .claim key, _ => FileBackedIdempotencyStore.claim key
  | .complete key result, _ => FileBackedIdempotencyStore.complete key result
  | .release key, _ => FileBackedIdempotencyStore.release key
  | .enqueue message, _ => FileBackedOutboxStore.enqueue message
  | .dequeue, _ => FileBackedOutboxStore.dequeue
  | .outboxLen, _ => FileBackedOutboxStore.len
  | .outboxClaim, _ => FileBackedOutboxStore.claim
  | .outboxAck messageId, _ => FileBackedOutboxStore.ack messageId
  | .outboxRelease message, _ => FileBackedOutboxStore.release message
  | .acceptOnce messageId, _ => FileBackedInboxStore.acceptOnce messageId
  | .putDeadLetter message, _ => FileBackedDeadLetterStore.put message
  | .deadLetterLen, _ => FileBackedDeadLetterStore.len
  | .listDeadLetter, _ => FileBackedDeadLetterStore.list
  | .takeDeadLetter messageId, _ => FileBackedDeadLetterStore.take messageId
  | .putOrder record, _ => FileBackedOrderStore.put record
  | .getOrder orderId, _ => FileBackedOrderStore.get orderId
  | .listOrders tenantId, _ => FileBackedOrderStore.listByTenant tenantId
  | .appendOrderEvent orderId event, _ => FileBackedOrderStore.appendEvent orderId event
  | .addAdjustment orderId adjustment, _ => FileBackedOrderStore.addAdjustment orderId adjustment
  | .updateStatus orderId status, _ => FileBackedOrderStore.updateStatus orderId status
  | .putPaymentState transactionId state, _ => FileBackedPaymentStateStore.put transactionId state
  | .getPaymentState transactionId, _ => FileBackedPaymentStateStore.get transactionId
  | .recordMandate mandateId expiresAt, now =>
      FileBackedMandateDedupeStore.recordMandate mandateId expiresAt now
  | .registerWebhook registration, _ => FileBackedWebhookStore.register registration
  | .unregisterWebhook id, _ => FileBackedWebhookStore.unregister id
  | .listWebhooks tenantId, _ => FileBackedWebhookStore.listByTenant tenantId
  | .getWebhook id, _ => FileBackedWebhookStore.get id
  | .listActiveForTopic tenantId topic, _ =>
      FileBackedWebhookStore.listActiveForTopic tenantId topic

end StoreCall

/-- The file-backed stores. -/
def fileBacked : Service where
  Cell := StoreFile
  Value := StoreFile.Value
  initial := StoreFile.default
  Input := Int
  Call := StoreCall
  Ans := StoreCall.Ans
  cell := StoreCall.file
  enter := StoreCall.enter
  reads := StoreCall.reads
  enter_reads c n v h := by
    cases c <;> first | exact ⟨rfl, rfl⟩ | cases h

/-! ## The in-memory stores -/

/-- The in-memory value for each file. -/
abbrev StoreFile.Memory : StoreFile → Type
  | .cartEvents => Table CartId (List CartStreamEvent)
  | .cartSnapshots => Table CartId CartProjection
  | .cartStates => Table CartId CartState
  | .idempotency => InMemoryIdempotencyStore
  | .outbox => Outbox
  | .inbox => InboxDedupe
  | .deadLetter => DeadLetter
  | .orders => InMemoryOrderStore
  | .paymentState => InMemoryPaymentStateStore
  | .mandates => InMemoryMandateDedupeStore
  | .webhooks => InMemoryWebhookStore
  | .commits | .reservations => Unit

def StoreFile.emptyMemory : (f : StoreFile) → f.Memory
  | .cartEvents => (∅ : Table CartId _)
  | .cartSnapshots => (∅ : Table CartId _)
  | .cartStates => (∅ : Table CartId _)
  | .idempotency => (∅ : Table IdempotencyKey _)
  | .deadLetter | .orders | .paymentState | .mandates | .webhooks => (∅ : Table String _)
  | .outbox => []
  | .inbox => ∅
  | .commits | .reservations => ()

namespace StoreCall

/-- The in-memory method of each call. -/
def step : (c : StoreCall) → (now : Int) → c.file.Memory → c.Ans × c.file.Memory
  | .appendCartEvent cartId event, _, s =>
      ((), (InMemoryEventStore.appendCartEvent ⟨s, ∅, ∅⟩ cartId event).cartEvents)
  | .putCartSnapshot snapshot, _, s =>
      ((), (InMemoryEventStore.putCartSnapshot ⟨∅, s, ∅⟩ snapshot).cartSnapshots)
  | .getCartSnapshot cartId, _, s => (InMemoryEventStore.getCartSnapshot ⟨∅, s, ∅⟩ cartId, s)
  | .getCartState cartId, _, s => (InMemoryEventStore.getCartState ⟨∅, ∅, s⟩ cartId, s)
  | .setCartState cartId state, _, s =>
      ((), (InMemoryEventStore.setCartState ⟨∅, ∅, s⟩ cartId state).cartStates)
  | .claim key, _, s => InMemoryIdempotencyStore.claim s key
  | .complete key result, _, s => ((), InMemoryIdempotencyStore.complete s key result)
  | .release key, _, s => ((), InMemoryIdempotencyStore.release s key)
  | .enqueue message, _, s => ((), Outbox.enqueue s message)
  | .dequeue, _, s => Outbox.dequeue s
  | .outboxLen, _, s => (List.length s, s)
  | .outboxClaim, _, s => Outbox.dequeue s
  | .outboxAck _, _, s => ((), s)
  | .outboxRelease message, _, s => ((), Outbox.enqueue s message)
  | .acceptOnce messageId, _, s => InboxDedupe.acceptOnce s messageId
  | .putDeadLetter message, _, s => ((), DeadLetter.put s message)
  | .deadLetterLen, _, s => (s.entries.length, s)
  | .listDeadLetter, _, s => (DeadLetter.list s, s)
  | .takeDeadLetter messageId, _, s => DeadLetter.take s messageId
  | .putOrder record, _, s => ((), InMemoryOrderStore.put s record)
  | .getOrder orderId, _, s => (InMemoryOrderStore.get s orderId, s)
  | .listOrders tenantId, _, s => (InMemoryOrderStore.listByTenant s tenantId, s)
  | .appendOrderEvent orderId event, _, s => InMemoryOrderStore.appendEvent s orderId event
  | .addAdjustment orderId adjustment, _, s =>
      InMemoryOrderStore.addAdjustment s orderId adjustment
  | .updateStatus orderId status, _, s => InMemoryOrderStore.updateStatus s orderId status
  | .putPaymentState transactionId state, _, s =>
      ((), InMemoryPaymentStateStore.put s transactionId state)
  | .getPaymentState transactionId, _, s => (InMemoryPaymentStateStore.get s transactionId, s)
  | .recordMandate mandateId expiresAt, now, s =>
      InMemoryMandateDedupeStore.recordMandate s now mandateId expiresAt
  | .registerWebhook registration, _, s => ((), InMemoryWebhookStore.register s registration)
  | .unregisterWebhook id, _, s => InMemoryWebhookStore.unregister s id
  | .listWebhooks tenantId, _, s => (InMemoryWebhookStore.listByTenant s tenantId, s)
  | .getWebhook id, _, s => (AList.lookup id s, s)
  | .listActiveForTopic tenantId topic, _, s =>
      (InMemoryWebhookStore.listActiveForTopic s tenantId topic, s)

/-- Listings are compared as sets. -/
def Same : (c : StoreCall) → c.Ans → c.Ans → Prop
  | .listDeadLetter, a, b => a.Perm b
  | .listOrders _, a, b => a.Perm b
  | .listWebhooks _, a, b => a.Perm b
  | .listActiveForTopic .., a, b => a.Perm b
  | _, a, b => a = b

theorem Same.of_eq {c : StoreCall} {a b : c.Ans} (h : a = b) : c.Same a b := by
  subst h
  cases c <;> first | exact List.Perm.refl _ | rfl

/-- The parts of the idempotency key of a call have no bars. -/
def BarFree : StoreCall → Prop
  | .claim key => key.BarFree
  | .complete key _ => key.BarFree
  | .release key => key.BarFree
  | _ => True

/-- Of a mandate that is presented, the in-memory store knows what the file-backed one
remembers as not yet expired. -/
def KnownMandate : (c : StoreCall) → (now : Int) → c.file.Value → c.file.Memory → Prop
  | .recordMandate mandateId _, now, v, s =>
      ∀ expiry, v.lookup mandateId = some expiry → now < expiry → s.lookup mandateId = some expiry
  | _, _, _, _ => True

/-- What a call needs. -/
def Meets (c : StoreCall) (now : Int) (v : c.file.Value) (s : c.file.Memory) : Prop :=
  c.BarFree ∧ c.KnownMandate now v s

end StoreCall

/-- The in-memory stores. -/
def inMemory : Reference fileBacked where
  State := StoreFile.Memory
  initial := StoreFile.emptyMemory
  Ans := StoreCall.Ans
  step := StoreCall.step

/-! ## One stands for the other -/

/-- A map keyed by strings, and one keyed by what the strings encode. -/
def KeyedBy {K V : Type} [DecidableEq K] (enc : K → String) (p : K → Prop) (v : Table String V)
    (s : Table K V) : Prop :=
  ∀ k, p k → v.lookup (enc k) = s.lookup k

namespace KeyedBy

variable {K V : Type} [DecidableEq K] {enc : K → String} {p : K → Prop} {v : Table String V}
  {s : Table K V} {k : K}

theorem empty : KeyedBy enc p (∅ : Table String V) (∅ : Table K V) := fun _ _ => rfl

theorem insert (h : KeyedBy enc p v s) (hinj : ∀ k', p k' → enc k' = enc k → k' = k) (x : V) :
    KeyedBy enc p (v.insert (enc k) x) (s.insert k x) := by
  intro k' hk'
  rw [Table.lookup_insert_ite, Table.lookup_insert_ite, h k' hk']
  by_cases heq : enc k' = enc k
  · rw [if_pos heq, if_pos (hinj k' hk' heq)]
  · rw [if_neg heq, if_neg fun hk => heq (congrArg enc hk)]

theorem erase (h : KeyedBy enc p v s) (hinj : ∀ k', p k' → enc k' = enc k → k' = k) :
    KeyedBy enc p (v.erase (enc k)) (s.erase k) := by
  intro k' hk'
  rw [Table.lookup_erase_ite, Table.lookup_erase_ite, h k' hk']
  by_cases heq : enc k' = enc k
  · rw [if_pos heq, if_pos (hinj k' hk' heq)]
  · rw [if_neg heq, if_neg fun hk => heq (congrArg enc hk)]

end KeyedBy

/-- Memory of the file-backed stores against the in-memory ones. -/
def StoreFile.Rep : (f : StoreFile) → f.Value → f.Memory → Prop
  | .cartEvents, v, s => KeyedBy cartIdKey (fun _ => True) v s
  | .cartSnapshots, v, s => KeyedBy cartIdKey (fun _ => True) v s
  | .cartStates, v, s => KeyedBy cartIdKey (fun _ => True) v s
  | .idempotency, v, s => KeyedBy FileBacked.idempotencyKeyStr IdempotencyKey.BarFree v s
  | .mandates, v, s => ∀ id expiry, s.lookup id = some expiry → v.lookup id = some expiry
  | .commits, _, _ => True
  | .reservations, _, _ => True
  | .outbox, v, s => v = s
  | .inbox, v, s => v = s
  | .deadLetter, v, s => v = s
  | .orders, v, s => v = s
  | .paymentState, v, s => v = s
  | .webhooks, v, s => v = s

theorem StoreFile.rep_initial (f : StoreFile) : f.Rep f.default f.emptyMemory := by
  cases f with
  | cartEvents | cartSnapshots | cartStates | idempotency => exact KeyedBy.empty
  | mandates => exact fun id expiry h => h
  | commits | reservations => exact trivial
  | outbox | inbox | deadLetter | orders | paymentState | webhooks => rfl

namespace StoreCall

/-- A call does in the file-backed stores what it does in memory, and a call that does not
save leaves nothing to be saved. -/
structure Simulates (c : StoreCall) (now : Int) (v : c.file.Value) (s : c.file.Memory) : Prop where
  same : c.Same (c.enter now v).answer (c.step now s).1
  rep : c.file.Rep (c.enter now v).value (c.step now s).2
  lag : (c.enter now v).saves = false → ∀ f, c.file.Rep f s → c.file.Rep f (c.step now s).2

section

variable {c : StoreCall} {now : Int} {v : c.file.Value} {s : c.file.Memory}

/-- Calls that only read. -/
theorem Simulates.reading (hsame : c.Same (c.enter now v).answer (c.step now s).1)
    (hvalue : (c.enter now v).value = v) (hstate : (c.step now s).2 = s) (hrep : c.file.Rep v s) :
    c.Simulates now v s := by
  refine ⟨hsame, ?_, fun _ f hf => ?_⟩
  · rw [hvalue, hstate]
    exact hrep
  · rw [hstate]
    exact hf

/-- Calls that save whatever they find. -/
theorem Simulates.saving (hsame : c.Same (c.enter now v).answer (c.step now s).1)
    (hrep : c.file.Rep (c.enter now v).value (c.step now s).2)
    (hsaves : (c.enter now v).saves = true) : c.Simulates now v s := by
  refine ⟨hsame, hrep, fun h => ?_⟩
  rw [hsaves] at h
  cases h

end

section

variable {now : Int}

theorem claim_simulates {key : IdempotencyKey} {v : Table String IdempotencyState}
    {s : InMemoryIdempotencyStore} (hkey : key.BarFree) (hrep : StoreFile.idempotency.Rep v s) :
    (claim key).Simulates now v s := by
  have hlookup : v.lookup (FileBacked.idempotencyKeyStr key) = s.lookup key := hrep key hkey
  cases hs : s.lookup key with
  | some state =>
      have henter : (claim key).enter now v = .keeping (some state) v := by
        show FileBackedIdempotencyStore.claim key v = _
        simp only [FileBackedIdempotencyStore.claim, hlookup, hs]
      have hstep : (claim key).step now s = (some state, s) := by
        show InMemoryIdempotencyStore.claim s key = _
        simp only [InMemoryIdempotencyStore.claim, hs]
      refine .reading (.of_eq ?_) ?_ ?_ hrep
      · rw [henter, hstep]
        rfl
      · rw [henter]
        rfl
      · rw [hstep]
  | none =>
      have henter : (claim key).enter now v =
          .saving none (v.insert (FileBacked.idempotencyKeyStr key) .inFlight) := by
        show FileBackedIdempotencyStore.claim key v = _
        simp only [FileBackedIdempotencyStore.claim, hlookup, hs]
      have hstep : (claim key).step now s = (none, s.insert key .inFlight) := by
        show InMemoryIdempotencyStore.claim s key = _
        simp only [InMemoryIdempotencyStore.claim, hs]
      refine .saving (.of_eq ?_) ?_ ?_
      · rw [henter, hstep]
        rfl
      · rw [henter, hstep]
        exact KeyedBy.insert hrep (fun _ _ h => hkey.str_inj h) _
      · rw [henter]
        rfl

theorem release_simulates {key : IdempotencyKey} {v : Table String IdempotencyState}
    {s : InMemoryIdempotencyStore} (hkey : key.BarFree) (hrep : StoreFile.idempotency.Rep v s) :
    (release key).Simulates now v s := by
  have hlookup : v.lookup (FileBacked.idempotencyKeyStr key) = s.lookup key := hrep key hkey
  by_cases hs : s.lookup key = some .inFlight
  · have henter : (release key).enter now v =
        .saving () (v.erase (FileBacked.idempotencyKeyStr key)) :=
      if_neg (not_not.mpr (hlookup.trans hs))
    have hstep : (release key).step now s = ((), s.erase key) :=
      congrArg (Prod.mk ()) (if_pos hs)
    refine .saving (.of_eq rfl) ?_ ?_
    · rw [henter, hstep]
      exact KeyedBy.erase hrep fun _ _ h => hkey.str_inj h
    · rw [henter]
      rfl
  · have henter : (release key).enter now v = .keeping () v :=
      if_pos fun h => hs (hlookup.symm.trans h)
    have hstep : (release key).step now s = ((), s) := congrArg (Prod.mk ()) (if_neg hs)
    refine .reading (.of_eq rfl) ?_ ?_ hrep
    · rw [henter]
      rfl
    · rw [hstep]

theorem acceptOnce_simulates {messageId : String} {seen : InboxDedupe} :
    (acceptOnce messageId).Simulates now seen seen := by
  by_cases hseen : messageId ∈ seen
  · have henter : (acceptOnce messageId).enter now seen = .keeping false seen :=
      if_neg (not_not.mpr hseen)
    refine .reading (.of_eq ?_) ?_ (Finset.insert_eq_of_mem hseen) rfl
    · rw [henter]
      exact (decide_eq_false (not_not.mpr hseen)).symm
    · rw [henter]
      rfl
  · have henter : (acceptOnce messageId).enter now seen =
        .saving true (insert messageId seen) := if_pos hseen
    refine .saving (.of_eq ?_) ?_ ?_
    · rw [henter]
      exact (decide_eq_true hseen).symm
    · rw [henter]
      rfl
    · rw [henter]
      rfl

theorem takeDeadLetter_simulates {messageId : String} {records : DeadLetter} :
    (takeDeadLetter messageId).Simulates now records records := by
  cases hrecord : records.lookup messageId with
  | some message =>
      have henter : (takeDeadLetter messageId).enter now records =
          .saving (some message) (records.erase messageId) := by
        show FileBackedDeadLetterStore.take messageId records = _
        simp only [FileBackedDeadLetterStore.take, hrecord]
      refine .saving (.of_eq ?_) ?_ ?_
      · rw [henter]
        exact hrecord.symm
      · rw [henter]
        rfl
      · rw [henter]
        rfl
  | none =>
      have henter : (takeDeadLetter messageId).enter now records = .keeping none records := by
        show FileBackedDeadLetterStore.take messageId records = _
        simp only [FileBackedDeadLetterStore.take, hrecord]
      refine .reading (.of_eq ?_) ?_ (Table.erase_of_lookup hrecord) rfl
      · rw [henter]
        exact hrecord.symm
      · rw [henter]
        rfl

theorem unregisterWebhook_simulates {id : String} {records : InMemoryWebhookStore} :
    (unregisterWebhook id).Simulates now records records := by
  cases hrecord : records.lookup id with
  | some registration =>
      have hsome : (records.lookup id).isSome = true := by rw [hrecord]; rfl
      have henter : (unregisterWebhook id).enter now records = .saving true (records.erase id) :=
        if_pos hsome
      refine .saving (.of_eq ?_) ?_ ?_
      · rw [henter]
        exact hsome.symm
      · rw [henter]
        rfl
      · rw [henter]
        rfl
  | none =>
      have hnone : (records.lookup id).isSome = false := by rw [hrecord]; rfl
      have henter : (unregisterWebhook id).enter now records = .keeping false records :=
        if_neg (by rw [hnone]; exact Bool.false_ne_true)
      refine .reading (.of_eq ?_) ?_ (Table.erase_of_lookup hrecord) rfl
      · rw [henter]
        exact hnone.symm
      · rw [henter]
        rfl

/-- The three changes of an order. -/
theorem amend_agrees (orderId : String) (f : OrderRecord → OrderRecord)
    (records : InMemoryOrderStore) :
    (FileBackedOrderStore.amend orderId f records).answer =
        (InMemoryOrderStore.amend records orderId f).1 ∧
      (FileBackedOrderStore.amend orderId f records).value =
        (InMemoryOrderStore.amend records orderId f).2 ∧
      ((FileBackedOrderStore.amend orderId f records).saves = false →
        (InMemoryOrderStore.amend records orderId f).2 = records) := by
  rw [FileBackedOrderStore.amend, InMemoryOrderStore.amend]
  cases records.lookup orderId with
  | some record => exact ⟨rfl, rfl, fun h => Bool.noConfusion h⟩
  | none => exact ⟨rfl, rfl, fun _ => rfl⟩

theorem Simulates.amend {c : StoreCall} {v : c.file.Value} {s : c.file.Memory}
    (h : (c.enter now v).answer = (c.step now s).1 ∧
      c.file.Rep (c.enter now v).value (c.step now s).2 ∧
      ((c.enter now v).saves = false → (c.step now s).2 = s)) : c.Simulates now v s := by
  obtain ⟨hanswer, hvalue, hstate⟩ := h
  refine ⟨.of_eq hanswer, hvalue, fun hsaves f hf => ?_⟩
  rw [hstate hsaves]
  exact hf

end

section Mandates

variable {now : Int} {mandateId : String} {expiresAt : Int} {v s : Table String Int}

/-- The mandates that have not expired. -/
def live (now : Int) (t : Table String Int) : Table String Int :=
  t.keep fun _ expiry => now < expiry

theorem lookup_live {t : Table String Int} {id : String} {expiry : Int} :
    (live now t).lookup id = some expiry ↔ t.lookup id = some expiry ∧ now < expiry := by
  rw [live, Table.lookup_keep, Option.filter_eq_some_iff, decide_eq_true_iff]

/-- What the in-memory store has, the file-backed one has, also once both have dropped what
has expired. -/
theorem live_mono (hrep : StoreFile.mandates.Rep v s) :
    StoreFile.mandates.Rep (live now v) (live now s) := by
  intro id expiry h
  obtain ⟨hs, hlive⟩ := lookup_live.mp h
  exact lookup_live.mpr ⟨hrep id expiry hs, hlive⟩

theorem mem_live (hknown : (recordMandate mandateId expiresAt).KnownMandate now v s)
    (hrep : StoreFile.mandates.Rep v s) : mandateId ∈ live now v ↔ mandateId ∈ live now s := by
  rw [← AList.lookup_isSome, ← AList.lookup_isSome, Option.isSome_iff_exists,
    Option.isSome_iff_exists]
  refine exists_congr fun expiry => ⟨fun h => ?_, live_mono hrep _ _⟩
  obtain ⟨hv, hlive⟩ := lookup_live.mp h
  exact lookup_live.mpr ⟨hknown expiry hv hlive, hlive⟩

theorem rep_insert (hrep : StoreFile.mandates.Rep v s) :
    StoreFile.mandates.Rep (v.insert mandateId expiresAt) (s.insert mandateId expiresAt) := by
  intro id expiry h
  rw [Table.lookup_insert_ite] at h ⊢
  by_cases hid : id = mandateId
  · rwa [if_pos hid] at h ⊢
  · rw [if_neg hid] at h ⊢
    exact hrep id expiry h

/-- A mandate that is refused leaves the in-memory store with fewer. -/
theorem recordMandate_simulates (hknown : (recordMandate mandateId expiresAt).KnownMandate now v s)
    (hrep : StoreFile.mandates.Rep v s) :
    (recordMandate mandateId expiresAt).Simulates now v s := by
  by_cases hv : mandateId ∈ live now v
  · have hs := (mem_live hknown hrep).mp hv
    have henter : (recordMandate mandateId expiresAt).enter now v = ⟨false, live now v, false⟩ :=
      if_pos hv
    have hstep : (recordMandate mandateId expiresAt).step now s = (false, live now s) := if_pos hs
    refine ⟨.of_eq ?_, ?_, fun _ f hf => ?_⟩
    · rw [henter, hstep]
    · rw [henter, hstep]
      exact live_mono hrep
    · rw [hstep]
      exact fun id expiry h => hf id expiry (lookup_live.mp h).1
  · have hs : mandateId ∉ live now s := fun h => hv ((mem_live hknown hrep).mpr h)
    have henter : (recordMandate mandateId expiresAt).enter now v =
        .saving true ((live now v).insert mandateId expiresAt) := if_neg hv
    have hstep : (recordMandate mandateId expiresAt).step now s =
        (true, (live now s).insert mandateId expiresAt) := if_neg hs
    refine .saving (.of_eq ?_) ?_ ?_
    · rw [henter, hstep]
      rfl
    · rw [henter, hstep]
      exact rep_insert (live_mono hrep)
    · rw [henter]
      rfl

end Mandates

/-- **Call by call** the file-backed stores are the in-memory ones. -/
theorem simulates {c : StoreCall} {now : Int} {v : c.file.Value} {s : c.file.Memory}
    (hmeets : c.Meets now v s) (hrep : c.file.Rep v s) : c.Simulates now v s := by
  obtain ⟨hkey, hmandate⟩ := hmeets
  have hcart : ∀ {cartId} k, True → cartIdKey k = cartIdKey cartId → k = cartId :=
    fun _ _ h => cartIdKey_inj h
  cases c with
  | appendCartEvent cartId event =>
      have hevents : v.lookup (cartIdKey cartId) = s.lookup cartId := hrep cartId trivial
      refine .saving rfl ?_ rfl
      show KeyedBy _ _ (v.insert _ ((v.lookup (cartIdKey cartId)).getD [] ++ [event])) _
      rw [hevents]
      exact KeyedBy.insert hrep hcart _
  | putCartSnapshot snapshot => exact .saving rfl (KeyedBy.insert hrep hcart _) rfl
  | setCartState cartId state => exact .saving rfl (KeyedBy.insert hrep hcart _) rfl
  | getCartSnapshot cartId | getCartState cartId =>
      exact .reading (hrep cartId trivial) rfl rfl hrep
  | claim key => exact claim_simulates hkey hrep
  | complete key result =>
      exact .saving rfl (KeyedBy.insert hrep (fun _ _ h => hkey.str_inj h) _) rfl
  | release key => exact release_simulates hkey hrep
  | dequeue | outboxClaim =>
      obtain rfl := hrep
      cases v with
      | nil => exact .reading rfl rfl rfl rfl
      | cons message queue => exact .saving rfl rfl rfl
  | acceptOnce messageId =>
      obtain rfl := hrep
      exact acceptOnce_simulates
  | takeDeadLetter messageId =>
      obtain rfl := hrep
      exact takeDeadLetter_simulates
  | unregisterWebhook id =>
      obtain rfl := hrep
      exact unregisterWebhook_simulates
  | appendOrderEvent orderId | addAdjustment orderId | updateStatus orderId =>
      obtain rfl := hrep
      exact .amend (amend_agrees orderId _ v)
  | recordMandate mandateId expiresAt => exact recordMandate_simulates hmandate hrep
  | enqueue | outboxRelease | putDeadLetter | putOrder | putPaymentState | registerWebhook =>
      obtain rfl := hrep
      exact .saving rfl rfl rfl
  | outboxLen | outboxAck | deadLetterLen | getOrder | getPaymentState | getWebhook =>
      obtain rfl := hrep
      exact .reading rfl rfl rfl rfl
  | listDeadLetter | listOrders | listWebhooks | listActiveForTopic =>
      obtain rfl := hrep
      exact .reading (.refl _) rfl rfl rfl

end StoreCall

/-- The file-backed stores refine the in-memory ones. -/
def restarts : Refinement fileBacked inMemory where
  Rep := StoreFile.Rep
  Same := StoreCall.Same
  Meets := StoreCall.Meets
  initial := StoreFile.rep_initial
  step _ _ _ _ hmeets hrep :=
    ⟨(StoreCall.simulates hmeets hrep).same, (StoreCall.simulates hmeets hrep).rep⟩
  lag _ _ _ _ f hmeets hrep hsaves := (StoreCall.simulates hmeets hrep).lag hsaves f

/-! ## Restarts -/

section Restarts

variable {input : Nat → Int} {ls : List fileBacked.Life} {life : fileBacked.Life}

end Restarts

namespace Sample

/-- One mandate. -/
def mandateLife : fileBacked.Life where
  calls := [.recordMandate "m1" 100]
  schedule := [0, 0, 0, 0, 0]

/-- The clock stands at 50. -/
def steady : Nat → Int := fun _ => 50

/-- Two mandates; the second is presented twice. -/
def expiryLife : fileBacked.Life where
  calls := [.recordMandate "m1" 100, .recordMandate "m2" 1000, .recordMandate "m2" 1000]
  schedule := [0, 0, 0, 0, 0, 1, 1, 1, 1, 1, 2]

/-- The clock shows 50 twice, then 150, and then it is set back to 90. -/
def setBack : Nat → Int
  | 0 | 1 => 50
  | 2 => 150
  | _ => 90

end Sample

end Orchestrator
