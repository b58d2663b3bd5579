/-
# `CommerceOrchestrator.Persistence.SaveFailures` — what a save that fails leaves behind

A file-backed method changes the value in memory, lets go of the lock and then saves.  If
the save fails the method says so, but the change stays.  `file_call_atomic_iff` lists what has
to be true of a call and the value for the change to be none.
-/
import CommerceOrchestrator.Persistence.Restarts

namespace Effect.Critical

variable {A V : Type} {same : V → V → Prop} {a : A} {v v' : V}

/-- If it saves, a section leaves what it found. -/
def Restores (r : Critical A V) (same : V → V → Prop) (v : V) : Prop :=
  r.saves = true → same r.value v

theorem restores_saving : (saving a v').Restores same v ↔ same v' v :=
  ⟨fun h => h rfl, fun h _ => h⟩

theorem restores_keeping : (keeping a v').Restores same v := fun h => Bool.noConfusion h

end Effect.Critical

namespace Orchestrator

open Effect Critical

/-! ## The remaining methods -/

/-- `transaction` is the fresh id of the transaction. -/
def FileBackedCommitStore.commit (cartId : CartId) (paymentReference : Option String)
    (transaction : Uuid) (inner : Table String CommitRecord) :
    Critical CommitRecord (Table String CommitRecord) :=
  let record : CommitRecord := ⟨"txn_" ++ transaction.render, cartId, paymentReference⟩
  .saving record (inner.insert (cartIdKey cartId) record)

namespace FileBackedReservationStore

def key (cartId : CartId) (sku : String) : String := cartId.uuid.render ++ "|" ++ sku

/-- The key is one of the cart's. -/
def ofCart (cartId : CartId) (k : String) : Bool :=
  (cartId.uuid.render ++ "|").toList.isPrefixOf k.toList

def reserve (cartId : CartId) (sku : String) (quantity : Nat) (ttlSecs now : Int)
    (inner : Table String ReservationDto) : Critical Unit (Table String ReservationDto) :=
  .saving () (inner.insert (key cartId sku) ⟨cartId, sku, quantity, .reserved, now + ttlSecs⟩)

/-- What finalizing and releasing share. -/
def setCart (cartId : CartId) (state : ReservationState) (inner : Table String ReservationDto) :
    Critical Unit (Table String ReservationDto) :=
  .saving () (inner.mapValues fun k dto => if ofCart cartId k then { dto with state } else dto)

def finalizeCart (cartId : CartId) :
    Table String ReservationDto → Critical Unit (Table String ReservationDto) :=
  setCart cartId .finalized

def releaseCart (cartId : CartId) :
    Table String ReservationDto → Critical Unit (Table String ReservationDto) :=
  setCart cartId .released

/-- A reservation whose lease is over. -/
def expired (now : Int) (dto : ReservationDto) : Bool :=
  dto.state = .reserved && dto.leaseUntilSecs ≤ now

def sweepExpired (now : Int) (inner : Table String ReservationDto) :
    Critical Nat (Table String ReservationDto) :=
  .saving (inner.entries.countP fun e => expired now e.2)
    (inner.mapValues fun _ dto => if expired now dto then { dto with state := .expired } else dto)

end FileBackedReservationStore

/-! ## Calls that may fail -/

/-- The methods of the file-backed stores, those of commits and reservations with them. -/
inductive FileCall
  | store (c : StoreCall)
  | commit (cartId : CartId) (paymentReference : Option String) (transaction : Uuid)
  | reserve (cartId : CartId) (sku : String) (quantity : Nat) (ttlSecs : Int)
  | finalizeCart (cartId : CartId)
  | releaseCart (cartId : CartId)
  | sweepExpired

namespace FileCall

abbrev Ans : FileCall → Type
  | .store c => c.Ans
  | .commit .. => CommitRecord
  | .reserve .. | .finalizeCart _ | .releaseCart _ => Unit
  | .sweepExpired => Nat

abbrev file : FileCall → StoreFile
  | .store c => c.file
  | .commit .. => .commits
  | .reserve .. | .finalizeCart _ | .releaseCart _ | .sweepExpired => .reservations

def enter : (c : FileCall) → (now : Int) → c.file.Value → Critical c.Ans c.file.Value
  | .store c, now => c.enter now
  | .commit cartId paymentReference transaction, _ =>
      FileBackedCommitStore.commit cartId paymentReference transaction
  | .reserve cartId sku quantity ttlSecs, now =>
      FileBackedReservationStore.reserve cartId sku quantity ttlSecs now
  | .finalizeCart cartId, _ => FileBackedReservationStore.finalizeCart cartId
  | .releaseCart cartId, _ => FileBackedReservationStore.releaseCart cartId
  | .sweepExpired, now => FileBackedReservationStore.sweepExpired now

/-- A payment state that cannot be saved is only complained about. -/
def reportsFailure : FileCall → Bool
  | .store (.putPaymentState ..) => false
  | _ => true

/-- A call, of which the save may fail with a message: what it returns, and the value that later
calls find. -/
def run (c : FileCall) (saveFails : Option String) (now : Int) (v : c.file.Value) :
    Except StoreError c.Ans × c.file.Value :=
  let r := c.enter now v
  match saveFails with
  | some message =>
      (if r.saves && c.reportsFailure then .error ⟨message, true⟩ else .ok r.answer, r.value)
  | none => (.ok r.answer, r.value)

end FileCall

/-- Two tables are the same map. -/
abbrev SameMap {V : Type} (t t' : Table String V) : Prop := ∀ k, t.lookup k = t'.lookup k

/-- The values are the same map, queue or set. -/
def StoreFile.SameState : (f : StoreFile) → f.Value → f.Value → Prop
  | .cartEvents | .cartSnapshots | .cartStates | .idempotency | .commits | .reservations
  | .deadLetter | .orders | .paymentState | .mandates | .webhooks =>
      SameMap
  | .outbox | .inbox => fun v v' => v = v'

/-- An error leaves the state as it was. -/
def FileCall.Atomic (c : FileCall) (now : Int) (v : c.file.Value) : Prop :=
  ∀ message e, (c.run (some message) now v).1 = .error e →
    c.file.SameState (c.run (some message) now v).2 v

/-- The call does not save, or changes nothing. -/
def StoreCall.Unmoved (now : Int) : (c : StoreCall) → c.file.Value → Prop
  -- what grows is not what it was
  | .appendCartEvent .., _ | .enqueue _, _ | .outboxRelease _, _ => False
  -- a record is replaced by itself
  | .putCartSnapshot snapshot, v => AList.lookup (cartIdKey snapshot.cartId) v = some snapshot
  | .setCartState cartId state, v => AList.lookup (cartIdKey cartId) v = some state
  | .complete key result, v =>
      AList.lookup (FileBacked.idempotencyKeyStr key) v = some (.completed result)
  | .putDeadLetter message, v => AList.lookup message.id v = some message
  | .putOrder record, v => AList.lookup record.orderId v = some record
  | .registerWebhook registration, v => AList.lookup registration.id v = some registration
  -- there is nothing to do
  | .claim key, v => (AList.lookup (FileBacked.idempotencyKeyStr key) v).isSome
  | .release key, v => AList.lookup (FileBacked.idempotencyKeyStr key) v ≠ some .inFlight
  | .dequeue, v | .outboxClaim, v => v = []
  | .acceptOnce messageId, v => messageId ∈ v
  | .takeDeadLetter messageId, v => AList.lookup messageId v = none
  | .appendOrderEvent orderId _, v | .addAdjustment orderId _, v => AList.lookup orderId v = none
  | .updateStatus orderId status, v => ∀ record, AList.lookup orderId v = some record →
      record.status = status
  | .unregisterWebhook id, v => AList.lookup id v = none
  | .recordMandate mandateId expiresAt, v =>
      (∃ expiry, AList.lookup mandateId v = some expiry ∧ now < expiry) ∨
        AList.lookup mandateId v = some expiresAt ∧
          ∀ id expiry, AList.lookup id v = some expiry → id ≠ mandateId → now < expiry
  -- nothing is reported, or nothing is saved
  | .putPaymentState .., _ | .outboxLen, _ | .outboxAck _, _ | .deadLetterLen, _
  | .listDeadLetter, _ | .getCartSnapshot _, _ | .getCartState _, _ | .getOrder _, _
  | .listOrders _, _ | .getPaymentState _, _ | .listWebhooks _, _ | .getWebhook _, _
  | .listActiveForTopic .., _ => True

def FileCall.Unmoved (now : Int) : (c : FileCall) → c.file.Value → Prop
  | .store c, v => c.Unmoved now v
  | .commit cartId paymentReference transaction, v => AList.lookup (cartIdKey cartId) v =
      some ⟨"txn_" ++ transaction.render, cartId, paymentReference⟩
  | .reserve cartId sku quantity ttlSecs, v =>
      AList.lookup (FileBackedReservationStore.key cartId sku) v =
        some ⟨cartId, sku, quantity, .reserved, now + ttlSecs⟩
  | .finalizeCart cartId, v => ∀ k dto, AList.lookup k v = some dto →
      FileBackedReservationStore.ofCart cartId k → dto.state = .finalized
  | .releaseCart cartId, v => ∀ k dto, AList.lookup k v = some dto →
      FileBackedReservationStore.ofCart cartId k → dto.state = .released
  | .sweepExpired, v => ∀ k dto, AList.lookup k v = some dto →
      FileBackedReservationStore.expired now dto = false

/-! ## What a call puts back -/

/-- A call that reports its failures is atomic if it leaves what it found. -/
theorem FileCall.atomic_iff {c : FileCall} {now : Int} {v : c.file.Value}
    (hreports : c.reportsFailure = true) :
    c.Atomic now v ↔ (c.enter now v).Restores c.file.SameState v := by
  unfold Atomic run Restores
  simp only [hreports, Bool.and_true]
  constructor
  · exact fun h hsaves => h "" ⟨"", true⟩ (if_pos hsaves)
  · intro h message e he
    split at he
    · next hsaves => exact h hsaves
    · cases he

/-! ### Changes to a map -/

section Tables

variable {A V : Type} {a : A} {t : Table String V} {k : String} {x : V}

theorem restores_insert : (Critical.saving a (t.insert k x)).Restores SameMap t ↔
    t.lookup k = some x := by
  refine restores_saving.trans ⟨fun h => ?_, fun h k' => ?_⟩
  · rw [← h k, AList.lookup_insert]
  · rw [Table.lookup_insert_ite]
    split
    · next hk => rw [hk, h]
    · rfl

theorem restores_erase : (Critical.saving a (t.erase k)).Restores SameMap t ↔
    t.lookup k = none := by
  refine restores_saving.trans ⟨fun h => ?_, fun h k' => ?_⟩
  · rw [← h k, AList.lookup_erase]
  · rw [Table.lookup_erase_ite]
    split
    · next hk => rw [hk, h]
    · rfl

theorem restores_mapValues {f : String → V → V} :
    (Critical.saving a (t.mapValues f)).Restores SameMap t ↔
      ∀ k x, t.lookup k = some x → f k x = x := by
  refine restores_saving.trans (forall_congr' fun k => ?_)
  rw [Table.lookup_mapValues]
  cases t.lookup k with
  | none => simp
  | some x => simp

end Tables

/-! ### The methods that decide -/

section Methods

theorem appendCartEvent_restores (cartId : CartId) (event : CartStreamEvent)
    (events : Table String (List CartStreamEvent)) :
    ¬ (FileBackedEventStore.appendCartEvent cartId event events).Restores SameMap events := by
  intro h
  have hgrown := restores_insert.mp h
  cases hold : events.lookup (cartIdKey cartId) with
  | none => simp [hold] at hgrown
  | some old => simp [hold] at hgrown

theorem claim_restores (key : IdempotencyKey) (inner : Table String IdempotencyState) :
    (FileBackedIdempotencyStore.claim key inner).Restores SameMap inner ↔
      (inner.lookup (FileBacked.idempotencyKeyStr key)).isSome := by
  unfold FileBackedIdempotencyStore.claim
  dsimp only
  cases hlook : inner.lookup (FileBacked.idempotencyKeyStr key) with
  | some state => exact iff_of_true restores_keeping rfl
  | none =>
      refine iff_of_false (fun h => ?_) Bool.false_ne_true
      have hsame := restores_insert.mp h
      rw [hlook] at hsame
      cases hsame

theorem release_restores (key : IdempotencyKey) (inner : Table String IdempotencyState) :
    (FileBackedIdempotencyStore.release key inner).Restores SameMap inner ↔
      inner.lookup (FileBacked.idempotencyKeyStr key) ≠ some .inFlight := by
  unfold FileBackedIdempotencyStore.release
  dsimp only
  split
  · next hfree => exact iff_of_true restores_keeping hfree
  · next hflight =>
      refine iff_of_false (fun h => ?_) hflight
      rw [restores_erase.mp h] at hflight
      exact hflight (Option.some_ne_none _).symm

theorem dequeue_restores (queue : List OutboxMessage) :
    (FileBackedOutboxStore.dequeue queue).Restores Eq queue ↔ queue = [] := by
  cases queue with
  | nil => exact iff_of_true restores_keeping rfl
  | cons message rest =>
      refine iff_of_false (fun h => ?_) (List.cons_ne_nil _ _)
      exact List.cons_ne_self message rest (restores_saving.mp h).symm

theorem enqueue_restores (message : OutboxMessage) (queue : List OutboxMessage) :
    ¬ (FileBackedOutboxStore.enqueue message queue).Restores Eq queue := fun h =>
  List.cons_ne_nil _ _ (List.append_right_eq_self.mp (restores_saving.mp h))

theorem acceptOnce_restores (messageId : String) (seen : Finset String) :
    (FileBackedInboxStore.acceptOnce messageId seen).Restores Eq seen ↔ messageId ∈ seen := by
  unfold FileBackedInboxStore.acceptOnce
  split
  · next hnew => exact restores_saving.trans Finset.insert_eq_self
  · next hseen => exact iff_of_true restores_keeping (not_not.mp hseen)

theorem take_restores (messageId : String) (records : Table String OutboxMessage) :
    (FileBackedDeadLetterStore.take messageId records).Restores SameMap records ↔
      records.lookup messageId = none := by
  unfold FileBackedDeadLetterStore.take
  cases hlook : records.lookup messageId with
  | none => exact iff_of_true restores_keeping rfl
  | some message => exact restores_erase.trans (by rw [hlook])

/-- The three changes of an order. -/
theorem amend_restores {orderId : String} {f : OrderRecord → OrderRecord}
    {records : Table String OrderRecord} :
    (FileBackedOrderStore.amend orderId f records).Restores SameMap records ↔
      ∀ record, records.lookup orderId = some record → f record = record := by
  unfold FileBackedOrderStore.amend
  cases hlook : records.lookup orderId with
  | none => exact iff_of_true restores_keeping fun _ h => by cases h
  | some record =>
      refine restores_insert.trans ?_
      rw [hlook, Option.some.injEq]
      exact ⟨fun h _ hr => Option.some.inj hr ▸ h.symm, fun h => (h record rfl).symm⟩

/-- An order that grows is not what it was, so there must be none. -/
theorem amend_restores_of_ne {orderId : String} {f : OrderRecord → OrderRecord}
    {records : Table String OrderRecord} (hne : ∀ record, f record ≠ record) :
    (FileBackedOrderStore.amend orderId f records).Restores SameMap records ↔
      records.lookup orderId = none := by
  refine amend_restores.trans ?_
  cases records.lookup orderId with
  | none => simp
  | some record => simp [hne]

theorem unregister_restores (id : String) (records : Table String WebhookRegistration) :
    (FileBackedWebhookStore.unregister id records).Restores SameMap records ↔
      records.lookup id = none := by
  unfold FileBackedWebhookStore.unregister
  split
  · next hsome => exact restores_erase
  · next hnone => exact iff_of_true restores_keeping (Option.not_isSome_iff_eq_none.mp hnone)

theorem mem_live {t : Table String Int} {now : Int} {id : String} :
    (id ∈ t.keep fun _ expiry => now < expiry) ↔
      ∃ expiry, t.lookup id = some expiry ∧ now < expiry := by
  rw [← AList.lookup_isSome, Table.lookup_keep]
  cases t.lookup id with
  | none => simp
  | some expiry => by_cases h : now < expiry <;> simp [h]

/-- A mandate that is not known is recorded, and the expired ones are dropped. -/
theorem recordMandate_restores (mandateId : String) (expiresAt now : Int)
    (seen : Table String Int) :
    (FileBackedMandateDedupeStore.recordMandate mandateId expiresAt now seen).Restores SameMap
      seen ↔
      (∃ expiry, seen.lookup mandateId = some expiry ∧ now < expiry) ∨
        seen.lookup mandateId = some expiresAt ∧
          ∀ id expiry, seen.lookup id = some expiry → id ≠ mandateId → now < expiry := by
  unfold FileBackedMandateDedupeStore.recordMandate
  dsimp only
  split
  · next hlive => exact iff_of_true (fun h => Bool.noConfusion h) (Or.inl (mem_live.mp hlive))
  · next hnew =>
      rw [or_iff_right fun h => hnew (mem_live.mpr h)]
      refine restores_saving.trans ⟨fun h => ⟨?_, fun id expiry hid hne => ?_⟩, fun h k => ?_⟩
      · rw [← h mandateId, AList.lookup_insert]
      · have hkept := (h id).trans hid
        rw [AList.lookup_insert_ne hne, Table.lookup_keep, hid, Option.filter_eq_some_iff] at hkept
        exact of_decide_eq_true hkept.2
      · rw [Table.lookup_insert_ite]
        split
        · next hk => rw [hk, h.1]
        · next hk =>
            rw [Table.lookup_keep]
            cases hlook : seen.lookup k with
            | none => rfl
            | some expiry =>
                exact Option.filter_eq_some_iff.mpr ⟨rfl, decide_eq_true (h.2 k expiry hlook hk)⟩

theorem setCart_fixes {cartId : CartId} {state : ReservationState} {k : String}
    {dto : ReservationDto} :
    (if FileBackedReservationStore.ofCart cartId k then { dto with state } else dto) = dto ↔
      (FileBackedReservationStore.ofCart cartId k → dto.state = state) := by
  split
  · next hof =>
      refine ⟨fun h _ => (congrArg ReservationDto.state h).symm, fun h => ?_⟩
      rw [← h hof]
  · next hother => exact iff_of_true rfl fun hof => absurd hof hother

theorem sweep_fixes {now : Int} {dto : ReservationDto} :
    (if FileBackedReservationStore.expired now dto then { dto with state := .expired } else dto) =
      dto ↔ FileBackedReservationStore.expired now dto = false := by
  cases hdue : FileBackedReservationStore.expired now dto with
  | false => exact iff_of_true (if_neg Bool.false_ne_true) rfl
  | true =>
      refine iff_of_false (fun h => ?_) Bool.noConfusion
      have hreserved : dto.state = .reserved :=
        of_decide_eq_true (Bool.and_eq_true_iff.mp hdue).1
      have hexpired := congrArg ReservationDto.state h
      rw [if_pos rfl, hreserved] at hexpired
      cases hexpired

end Methods

/-! ## Every method -/

theorem store_call_atomic_iff (c : StoreCall) (now : Int) (v : c.file.Value) :
    (FileCall.store c).Atomic now v ↔ c.Unmoved now v := by
  cases c with
  | appendCartEvent cartId event =>
      exact (FileCall.atomic_iff rfl).trans
        (iff_of_false (appendCartEvent_restores cartId event v) id)
  | putCartSnapshot snapshot => exact (FileCall.atomic_iff rfl).trans restores_insert
  | setCartState cartId state => exact (FileCall.atomic_iff rfl).trans restores_insert
  | claim key => exact (FileCall.atomic_iff rfl).trans (claim_restores key v)
  | complete key result => exact (FileCall.atomic_iff rfl).trans restores_insert
  | release key => exact (FileCall.atomic_iff rfl).trans (release_restores key v)
  | enqueue message | outboxRelease message =>
      exact (FileCall.atomic_iff rfl).trans (iff_of_false (enqueue_restores message v) id)
  | dequeue | outboxClaim => exact (FileCall.atomic_iff rfl).trans (dequeue_restores v)
  | acceptOnce messageId => exact (FileCall.atomic_iff rfl).trans (acceptOnce_restores messageId v)
  | putDeadLetter message => exact (FileCall.atomic_iff rfl).trans restores_insert
  | takeDeadLetter messageId => exact (FileCall.atomic_iff rfl).trans (take_restores messageId v)
  | putOrder record => exact (FileCall.atomic_iff rfl).trans restores_insert
  | appendOrderEvent orderId event =>
      refine (FileCall.atomic_iff rfl).trans (amend_restores_of_ne fun record h => ?_)
      exact List.cons_ne_nil _ _ (List.append_right_eq_self.mp (congrArg OrderRecord.events h))
  | addAdjustment orderId adjustment =>
      refine (FileCall.atomic_iff rfl).trans (amend_restores_of_ne fun record h => ?_)
      exact List.cons_ne_nil _ _
        (List.append_right_eq_self.mp (congrArg OrderRecord.adjustments h))
  | updateStatus orderId status =>
      refine (FileCall.atomic_iff rfl).trans (amend_restores.trans ?_)
      refine forall₂_congr fun record _ => ⟨fun h => ?_, fun h => ?_⟩
      · exact (congrArg OrderRecord.status h).symm
      · subst h
        rfl
  | putPaymentState transactionId state =>
      refine iff_of_true (fun message e he => ?_) trivial
      cases he
  | recordMandate mandateId expiresAt =>
      exact (FileCall.atomic_iff rfl).trans (recordMandate_restores mandateId expiresAt now v)
  | registerWebhook registration => exact (FileCall.atomic_iff rfl).trans restores_insert
  | unregisterWebhook id => exact (FileCall.atomic_iff rfl).trans (unregister_restores id v)
  | getCartSnapshot _ | getCartState _ | outboxLen | outboxAck _ | deadLetterLen | listDeadLetter
  | getOrder _ | listOrders _ | getPaymentState _ | listWebhooks _ | getWebhook _
  | listActiveForTopic _ _ =>
      exact iff_of_true ((FileCall.atomic_iff rfl).mpr restores_keeping) trivial

/-- A failing save leaves no change behind if and only if the call makes none. -/
theorem file_call_atomic_iff (c : FileCall) (now : Int) (v : c.file.Value) :
    c.Atomic now v ↔ c.Unmoved now v := by
  cases c with
  | store c => exact store_call_atomic_iff c now v
  | commit cartId paymentReference transaction =>
      exact (FileCall.atomic_iff rfl).trans restores_insert
  | reserve cartId sku quantity ttlSecs => exact (FileCall.atomic_iff rfl).trans restores_insert
  | finalizeCart cartId =>
      refine (FileCall.atomic_iff rfl).trans (restores_mapValues.trans ?_)
      exact forall₃_congr fun k dto _ => setCart_fixes
  | releaseCart cartId =>
      refine (FileCall.atomic_iff rfl).trans (restores_mapValues.trans ?_)
      exact forall₃_congr fun k dto _ => setCart_fixes
  | sweepExpired =>
      refine (FileCall.atomic_iff rfl).trans (restores_mapValues.trans ?_)
      exact forall₃_congr fun k dto _ => sweep_fixes

/-- On empty stores a claim that fails leaves the key in flight, and an `accept_once` that fails
makes the next delivery a duplicate.  A `dequeue` that fails drops the message. -/
theorem failed_save_is_kept :
    let full := some "No space left on device (os error 28)"
    let key : IdempotencyKey := ⟨"t", "m", "k"⟩
    let claimed := (FileCall.store (.claim key)).run full 0 ∅
    let accepted := (FileCall.store (.acceptOnce "m1")).run full 0 ∅
    let dequeued := (FileCall.store .dequeue).run full 0 [⟨"m1", "topic", "{}", "c", 0, none⟩]
    (claimed.1.isOk = false ∧
        (FileCall.store (.claim key)).run none 0 claimed.2 = (.ok (some .inFlight), claimed.2)) ∧
      (accepted.1.isOk = false ∧
        (FileCall.store (.acceptOnce "m1")).run none 0 accepted.2 = (.ok false, accepted.2)) ∧
      dequeued.1.isOk = false ∧ dequeued.2 = [] := by
  refine ⟨⟨rfl, rfl⟩, ⟨rfl, ?_⟩, rfl, rfl⟩
  decide

end Orchestrator
