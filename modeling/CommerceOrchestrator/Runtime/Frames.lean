/-
# `CommerceOrchestrator.Runtime.Frames` — what one operation does to the world

The answer of a store operation says whether it took hold, and that fixes the
world after it (`World.attempt_snd`).  So every store changes only under its
own operations, and under those as the in-memory backend says.
-/
import CommerceOrchestrator.Runtime.Effects

namespace Orchestrator

open Effect

variable {env : Env} {w : World}

/-- The operation changed the store: it was answered, or failed after taking effect. -/
def tookHold {α : Type} : Except StoreError α → Bool
  | .ok _ => true
  | .error e => e.tookEffect

@[simp] theorem tookHold_ok {α : Type} (a : α) :
    tookHold (.ok a : Except StoreError α) = true := rfl

@[simp] theorem tookHold_error {α : Type} (e : StoreError) :
    tookHold (.error e : Except StoreError α) = e.tookEffect := rfl

/-- The world after a store operation, given its answer. -/
theorem World.attempt_snd {α : Type} (w : World) (fault : Option StoreError) (f : World → α × World) :
    (w.attempt fault f).2 = (if tookHold (w.attempt fault f).1 then (f w).2 else w).tick := by
  cases fault <;> rfl

/-- A store operation that is answered answers what the store says. -/
theorem World.attempt_ok {α : Type} {fault : Option StoreError} {f : World → α × World} {a : α}
    (h : (w.attempt fault f).1 = .ok a) : a = (f w).1 := by
  cases fault with
  | none => exact (Except.ok.inj h).symm
  | some e => cases h

@[simp] theorem World.read_snd {α : Type} (w : World) (fault : Option StoreError)
    (f : World → Option α) : (w.read fault f).2 = w.tick := rfl

/-- A store read that finds something finds what is stored. -/
theorem World.read_some {α : Type} {fault : Option StoreError} {f : World → Option α} {a : α}
    (h : (w.read fault f).1 = some a) : f w = some a := by
  cases fault with
  | none => exact h
  | some e => cases h

section Tick
variable (w : World)

@[simp] theorem World.tick_events : w.tick.events = w.events := rfl
@[simp] theorem World.tick_idempotency : w.tick.idempotency = w.idempotency := rfl
@[simp] theorem World.tick_reservations : w.tick.reservations = w.reservations := rfl
@[simp] theorem World.tick_outbox : w.tick.outbox = w.outbox := rfl
@[simp] theorem World.tick_orders : w.tick.orders = w.orders := rfl
@[simp] theorem World.tick_paymentStates : w.tick.paymentStates = w.paymentStates := rfl
@[simp] theorem World.tick_clock : w.tick.clock = w.clock + 1 := rfl

end Tick

/-- What a failed-or-not store operation leaves alone when its body does. -/
theorem World.attempt_frame {α β : Type} (proj : World → β) (htick : ∀ w, proj w.tick = proj w)
    {fault : Option StoreError} {f : World → α × World} (hf : proj (f w).2 = proj w) :
    proj (w.attempt fault f).2 = proj w := by
  rw [World.attempt_snd, htick]
  split
  · exact hf
  · rfl

/-! ## Frames -/

/-- The operations on idempotency keys. -/
def Op.keys : Op → Bool
  | .claim .. | .complete .. | .release .. => true
  | _ => false

/-- The operations that change a reservation. -/
def Op.stocks : Op → Bool
  | .reserve .. | .finalizeCart .. | .releaseCart .. => true
  | _ => false

/-- The operations that write to a cart: its log, snapshot or state. -/
def Op.writesCart : Op → Bool
  | .appendCartEvent .. | .putCartSnapshot .. | .setCartState .. => true
  | _ => false

def Op.enqueues : Op → Bool
  | .enqueue .. => true
  | _ => false

def Op.putsOrder : Op → Bool
  | .putOrder .. => true
  | _ => false

def Op.putsPaymentState : Op → Bool
  | .putPaymentState .. => true
  | _ => false

theorem Env.handle_idempotency {o : Op} (h : o.keys = false) :
    (env.handle o w).2.idempotency = w.idempotency := by
  cases o with
  | claim | complete | release => cases h
  | _ => first | rfl | exact World.attempt_frame World.idempotency World.tick_idempotency rfl

theorem Env.handle_reservations {o : Op} (h : o.stocks = false) :
    (env.handle o w).2.reservations = w.reservations := by
  cases o with
  | reserve | finalizeCart | releaseCart => cases h
  | _ => first | rfl | exact World.attempt_frame World.reservations World.tick_reservations rfl

theorem Env.handle_events {o : Op} (h : o.writesCart = false) :
    (env.handle o w).2.events = w.events := by
  cases o with
  | appendCartEvent | putCartSnapshot | setCartState => cases h
  | _ => first | rfl | exact World.attempt_frame World.events World.tick_events rfl

theorem Env.handle_outbox {o : Op} (h : o.enqueues = false) :
    (env.handle o w).2.outbox = w.outbox := by
  cases o with
  | enqueue => cases h
  | _ => first | rfl | exact World.attempt_frame World.outbox World.tick_outbox rfl

theorem Env.handle_orders {o : Op} (h : o.putsOrder = false) :
    (env.handle o w).2.orders = w.orders := by
  cases o with
  | putOrder => cases h
  | _ => first | rfl | exact World.attempt_frame World.orders World.tick_orders rfl

theorem Env.handle_paymentStates {o : Op} (h : o.putsPaymentState = false) :
    (env.handle o w).2.paymentStates = w.paymentStates := by
  cases o with
  | putPaymentState => cases h
  | _ => first | rfl | exact World.attempt_frame World.paymentStates World.tick_paymentStates rfl

/-- Every operation takes one tick. -/
theorem Env.handle_clock {o : Op} : (env.handle o w).2.clock = w.clock + 1 := by
  cases o <;> first
    | rfl
    | (refine (congrArg World.clock (World.attempt_snd _ _ _)).trans ?_
       split <;> rfl)

theorem Replays.clock_eq {tr : List (Event Op.Ans)} {w' : World}
    (hr : Replays env.handle w tr w') : w'.clock = w.clock + tr.length := by
  induction tr generalizing w with
  | nil => exact congrArg World.clock hr
  | cons e tr ih =>
      rw [ih hr.2, Env.handle_clock, List.length_cons]
      omega

theorem Replays.clock_le {tr : List (Event Op.Ans)} {w' : World}
    (hr : Replays env.handle w tr w') : w.clock ≤ w'.clock := by
  rw [Replays.clock_eq hr]
  exact Nat.le_add_right _ _

/-! ## Effects -/

/-- The state of a key after an operation on it, given the answer. -/
theorem Env.handle_claim_lookup {key key' : IdempotencyKey} :
    (env.handle (.claim key) w).2.idempotency.lookup key' =
      if tookHold (env.handle (.claim key) w).1 ∧ key' = key then
        some ((w.idempotency.lookup key).getD .inFlight)
      else w.idempotency.lookup key' := by
  refine (congrArg (·.idempotency.lookup key') (World.attempt_snd _ _ _)).trans ?_
  by_cases hk : key' = key
  · subst hk
    split <;> simp_all [InMemoryIdempotencyStore.lookup_claim_self, Env.handle]
  · split <;> simp [hk, InMemoryIdempotencyStore.lookup_claim_ne]

/-- A claim that is answered answers the state the key was in. -/
theorem Env.handle_claim_ok {key : IdempotencyKey} {state : Option IdempotencyState}
    (h : (env.handle (.claim key) w).1 = .ok state) : w.idempotency.lookup key = state := by
  rw [← InMemoryIdempotencyStore.claim_fst]
  exact (World.attempt_ok h).symm

theorem Env.handle_complete_lookup {key key' : IdempotencyKey} {result : TransactionResult} :
    (env.handle (.complete key result) w).2.idempotency.lookup key' =
      if tookHold (env.handle (.complete key result) w).1 ∧ key' = key then
        some (.completed result)
      else w.idempotency.lookup key' := by
  refine (congrArg (·.idempotency.lookup key') (World.attempt_snd _ _ _)).trans ?_
  by_cases hk : key' = key
  · subst hk
    split <;> simp_all [InMemoryIdempotencyStore.lookup_complete_self, Env.handle]
  · split <;> simp [hk, InMemoryIdempotencyStore.lookup_complete_ne]

theorem Env.handle_release_lookup {key key' : IdempotencyKey} :
    (env.handle (.release key) w).2.idempotency.lookup key' =
      if tookHold (env.handle (.release key) w).1 ∧ key' = key ∧
          w.idempotency.lookup key = some .inFlight then none
      else w.idempotency.lookup key' := by
  refine (congrArg (·.idempotency.lookup key') (World.attempt_snd _ _ _)).trans ?_
  by_cases hk : key' = key
  · subst hk
    split <;> simp_all [InMemoryIdempotencyStore.lookup_release_self, Env.handle]
  · split <;> simp [hk, InMemoryIdempotencyStore.lookup_release_ne]

theorem Env.handle_reserve_reservations {cartId : CartId} {sku : String} {quantity ttl : Nat} :
    (env.handle (.reserve cartId sku quantity ttl) w).2.reservations =
      if tookHold (env.handle (.reserve cartId sku quantity ttl) w).1 then
        w.reservations.reserve (env.instant w.clock) cartId sku quantity ttl
      else w.reservations := by
  refine (congrArg (·.reservations) (World.attempt_snd _ _ _)).trans ?_
  split <;> simp_all [Env.handle]

/-- The key an operation is about. -/
def Op.onKey : Op → Option IdempotencyKey
  | .claim key | .complete key _ | .release key => some key
  | _ => none

/-- A key changes only under its own operations. -/
theorem Env.handle_lookup_of_onKey_ne {o : Op} {key : IdempotencyKey} (h : o.onKey ≠ some key) :
    (env.handle o w).2.idempotency.lookup key = w.idempotency.lookup key := by
  cases hk : o.keys with
  | false => rw [Env.handle_idempotency hk]
  | true =>
      cases o with
      | claim key' =>
          rw [Env.handle_claim_lookup, if_neg fun hc => h (congrArg some hc.2.symm)]
      | complete key' result =>
          rw [Env.handle_complete_lookup, if_neg fun hc => h (congrArg some hc.2.symm)]
      | release key' =>
          rw [Env.handle_release_lookup, if_neg fun hc => h (congrArg some hc.2.1.symm)]
      | _ => exact absurd hk Bool.false_ne_true

theorem Env.handle_releaseCart_reservations {cartId : CartId} :
    (env.handle (.releaseCart cartId) w).2.reservations =
      if tookHold (env.handle (.releaseCart cartId) w).1 then w.reservations.releaseCart cartId
      else w.reservations := by
  refine (congrArg (·.reservations) (World.attempt_snd _ _ _)).trans ?_
  split <;> simp_all [Env.handle]

theorem Env.handle_enqueue_outbox {message : OutboxMessage} :
    (env.handle (.enqueue message) w).2.outbox =
      if tookHold (env.handle (.enqueue message) w).1 then w.outbox.enqueue message
      else w.outbox := by
  refine (congrArg (·.outbox) (World.attempt_snd _ _ _)).trans ?_
  split <;> simp_all [Env.handle]

theorem Env.handle_putOrder_orders {record : OrderRecord} :
    (env.handle (.putOrder record) w).2.orders =
      if tookHold (env.handle (.putOrder record) w).1 then w.orders.put record
      else w.orders := by
  refine (congrArg (·.orders) (World.attempt_snd _ _ _)).trans ?_
  split <;> simp_all [Env.handle]

theorem Env.handle_putPaymentState_paymentStates {transactionId : String} {state : PaymentState} :
    (env.handle (.putPaymentState transactionId state) w).2.paymentStates =
      if tookHold (env.handle (.putPaymentState transactionId state) w).1 then
        w.paymentStates.put transactionId state
      else w.paymentStates := by
  refine (congrArg (·.paymentStates) (World.attempt_snd _ _ _)).trans ?_
  split <;> simp_all [Env.handle]

/-! ## The record of a cart -/

/-- All that the event store holds under a cart: its log, snapshot and state. -/
def InMemoryEventStore.record (store : InMemoryEventStore) (cartId : CartId) :
    Option (List CartStreamEvent) × Option CartProjection × Option CartState :=
  (store.cartEvents.lookup cartId, store.getCartSnapshot cartId, store.getCartState cartId)

section Record

variable (store : InMemoryEventStore) {c c' : CartId}

theorem InMemoryEventStore.record_appendCartEvent (event : CartStreamEvent) :
    (store.appendCartEvent c event).record c =
      (some ((store.record c).1.getD [] ++ [event]), (store.record c).2) := by
  simp [record, appendCartEvent, getCartSnapshot, getCartState]

theorem InMemoryEventStore.record_appendCartEvent_ne (event : CartStreamEvent) (h : c ≠ c') :
    (store.appendCartEvent c' event).record c = store.record c := by
  simp [record, appendCartEvent, getCartSnapshot, getCartState, AList.lookup_insert_ne h]

theorem InMemoryEventStore.record_putCartSnapshot (s : CartProjection) :
    (store.putCartSnapshot s).record s.cartId =
      ((store.record s.cartId).1, some s, (store.record s.cartId).2.2) := by
  simp [record, putCartSnapshot, getCartSnapshot, getCartState]

theorem InMemoryEventStore.record_putCartSnapshot_ne {s : CartProjection} (h : c ≠ s.cartId) :
    (store.putCartSnapshot s).record c = store.record c := by
  simp [record, putCartSnapshot, getCartSnapshot, getCartState, AList.lookup_insert_ne h]

theorem InMemoryEventStore.record_setCartState (state : CartState) :
    (store.setCartState c state).record c =
      ((store.record c).1, (store.record c).2.1, some state) := by
  simp [record, setCartState, getCartSnapshot, getCartState]

theorem InMemoryEventStore.record_setCartState_ne (state : CartState) (h : c ≠ c') :
    (store.setCartState c' state).record c = store.record c := by
  simp [record, setCartState, getCartSnapshot, getCartState, AList.lookup_insert_ne h]

end Record

/-- The cart an operation writes to; a snapshot goes under the id it carries. -/
def Op.writesTo : Op → Option CartId
  | .appendCartEvent cartId _ | .setCartState cartId _ => some cartId
  | .putCartSnapshot snapshot => some snapshot.cartId
  | _ => none

/-- A cart's record changes only under operations that write to it. -/
theorem Env.handle_record {o : Op} {c : CartId} (h : o.writesTo ≠ some c) :
    (env.handle o w).2.events.record c = w.events.record c := by
  have htick : ∀ w : World, w.tick.events.record c = w.events.record c := fun _ => rfl
  cases hw : o.writesCart with
  | false => rw [Env.handle_events hw]
  | true =>
      cases o with
      | appendCartEvent cartId event =>
          have hne : c ≠ cartId := fun he => h (congrArg some he.symm)
          exact World.attempt_frame (·.events.record c) htick
            (InMemoryEventStore.record_appendCartEvent_ne _ _ hne)
      | putCartSnapshot snapshot =>
          have hne : c ≠ snapshot.cartId := fun he => h (congrArg some he.symm)
          exact World.attempt_frame (·.events.record c) htick
            (InMemoryEventStore.record_putCartSnapshot_ne _ hne)
      | setCartState cartId state =>
          have hne : c ≠ cartId := fun he => h (congrArg some he.symm)
          exact World.attempt_frame (·.events.record c) htick
            (InMemoryEventStore.record_setCartState_ne _ _ hne)
      | _ => exact absurd hw Bool.false_ne_true

/-- A log changes only when an event is appended to it. -/
theorem Env.handle_log {o : Op} {c : CartId} (h : ∀ c event, o ≠ .appendCartEvent c event) :
    ((env.handle o w).2.events.record c).1 = (w.events.record c).1 := by
  have htick : ∀ w : World, (w.tick.events.record c).1 = (w.events.record c).1 := fun _ => rfl
  cases o with
  | appendCartEvent c' event => exact absurd rfl (h c' event)
  | _ => first | rfl | exact World.attempt_frame (fun w => (w.events.record c).1) htick rfl

/-- What an operation makes of a cart's record depends on the record and the clock. -/
theorem Env.handle_record_congr {o : Op} {v : World} {c : CartId} (hclock : v.clock = w.clock)
    (hrec : v.events.record c = w.events.record c) :
    (env.handle o v).2.events.record c = (env.handle o w).2.events.record c := by
  have hattempt {f : World → Unit × World} (hf : (f v).2.events.record c = (f w).2.events.record c) :
      (v.attempt (env.fault v.clock o) f).2.events.record c =
        (w.attempt (env.fault w.clock o) f).2.events.record c := by
    rw [hclock]
    cases env.fault w.clock o with
    | none => exact hf
    | some e =>
        cases htook : e.tookEffect with
        | true => simpa [World.attempt, htook] using hf
        | false => simpa [World.attempt, htook] using hrec
  by_cases ho : o.writesTo = some c
  · cases o with
    | appendCartEvent c' event =>
        cases ho
        refine hattempt ?_
        rw [InMemoryEventStore.record_appendCartEvent, InMemoryEventStore.record_appendCartEvent,
          hrec]
    | putCartSnapshot s =>
        cases ho
        refine hattempt ?_
        rw [InMemoryEventStore.record_putCartSnapshot, InMemoryEventStore.record_putCartSnapshot,
          hrec]
    | setCartState c' state =>
        cases ho
        refine hattempt ?_
        rw [InMemoryEventStore.record_setCartState, InMemoryEventStore.record_setCartState, hrec]
    | _ => cases ho
  · rw [Env.handle_record ho, Env.handle_record ho, hrec]

theorem Env.handle_putCartSnapshot_snapshot {s : CartProjection} {c : CartId} :
    (env.handle (.putCartSnapshot s) w).2.events.getCartSnapshot c =
      if tookHold (env.handle (.putCartSnapshot s) w).1 ∧ c = s.cartId then some s
      else w.events.getCartSnapshot c := by
  refine (congrArg (·.events.getCartSnapshot c) (World.attempt_snd _ _ _)).trans ?_
  by_cases hc : c = s.cartId
  · subst hc
    split <;> simp_all [Env.handle, InMemoryEventStore.putCartSnapshot,
      InMemoryEventStore.getCartSnapshot]
  · split <;> simp [hc, InMemoryEventStore.putCartSnapshot, InMemoryEventStore.getCartSnapshot,
      AList.lookup_insert_ne hc]

theorem Env.handle_setCartState_state {state : CartState} {c c' : CartId} :
    (env.handle (.setCartState c state) w).2.events.getCartState c' =
      if tookHold (env.handle (.setCartState c state) w).1 ∧ c' = c then some state
      else w.events.getCartState c' := by
  refine (congrArg (·.events.getCartState c') (World.attempt_snd _ _ _)).trans ?_
  by_cases hc : c' = c
  · subst hc
    split <;> simp_all [Env.handle, InMemoryEventStore.setCartState,
      InMemoryEventStore.getCartState]
  · split <;> simp [hc, InMemoryEventStore.setCartState, InMemoryEventStore.getCartState,
      AList.lookup_insert_ne hc]

/-- Snapshots change only when one is put. -/
theorem Env.handle_snapshot {o : Op} {c : CartId} (h : ∀ s, o ≠ .putCartSnapshot s) :
    (env.handle o w).2.events.getCartSnapshot c = w.events.getCartSnapshot c := by
  have htick : ∀ w : World, w.tick.events.getCartSnapshot c = w.events.getCartSnapshot c :=
    fun _ => rfl
  cases o with
  | putCartSnapshot s => exact absurd rfl (h s)
  | _ => first | rfl | exact World.attempt_frame (·.events.getCartSnapshot c) htick rfl

/-- States change only when one is set. -/
theorem Env.handle_state {o : Op} {c : CartId} (h : ∀ c state, o ≠ .setCartState c state) :
    (env.handle o w).2.events.getCartState c = w.events.getCartState c := by
  have htick : ∀ w : World, w.tick.events.getCartState c = w.events.getCartState c :=
    fun _ => rfl
  cases o with
  | setCartState c' state => exact absurd rfl (h c' state)
  | _ => first | rfl | exact World.attempt_frame (·.events.getCartState c) htick rfl

end Orchestrator
