/-
# `CommerceOrchestrator.Persistence.PostgresRows` — read, change, write back

The database backend keeps the events of a cart in one row and an order in
another.  An update selects the row, changes the value and upserts the whole of
it, in two statements without a transaction.  In memory the same update happens
under a lock, as `RowCall.atomically` has it.
-/
import CommerceOrchestrator.Effect.Pool
import CommerceOrchestrator.Runtime.Stores

namespace Orchestrator

open Effect Prog

/-! ## Rows and statements -/

/-- The rows of both tables.  An order is stored under its own id. -/
@[ext] structure Rows where
  events : InMemoryEventStore
  orders : InMemoryOrderStore
  filed : ∀ orderId record, orders.lookup orderId = some record → record.orderId = orderId

namespace Rows

def upsertEvents (rows : Rows) (cartId : CartId) (events : List CartStreamEvent) : Rows :=
  { rows with
    events := { rows.events with cartEvents := rows.events.cartEvents.insert cartId events } }

def upsertOrder (rows : Rows) (record : OrderRecord) : Rows where
  events := rows.events
  orders := rows.orders.put record
  filed orderId record' h := by
    rw [InMemoryOrderStore.put, Table.lookup_insert_ite] at h
    split at h
    · next hid =>
        cases h
        exact hid.symm
    · exact rows.filed orderId record' h

end Rows

inductive RowOp
  -- SELECT events FROM cart_events WHERE cart_id
  | selectEvents (cartId : CartId)
  -- INSERT INTO cart_events ON CONFLICT DO UPDATE
  | upsertEvents (cartId : CartId) (events : List CartStreamEvent)
  -- SELECT record FROM orders WHERE order_id
  | selectOrder (orderId : String)
  -- INSERT INTO orders ON CONFLICT DO UPDATE
  | upsertOrder (record : OrderRecord)

abbrev RowOp.Ans : RowOp → Type
  | .selectEvents _ => Except StoreError (Option (List CartStreamEvent))
  | .selectOrder _ => Except StoreError (Option OrderRecord)
  | .upsertEvents _ _ | .upsertOrder _ => Except StoreError Unit

def PostgresEventStore.appendCartEvent (cartId : CartId) (event : CartStreamEvent) :
    Prog RowOp.Ans (Except StoreError Unit) := do
  let existing : Except StoreError (Option (List CartStreamEvent)) ←
    perform (RowOp.selectEvents cartId)
  match existing with
  | .error e => return .error e
  | .ok events => perform (RowOp.upsertEvents cartId (events.getD [] ++ [event]))

namespace PostgresOrderStore

/-- A failing read is an order that is not there. -/
def get (orderId : String) : Prog RowOp.Ans (Option OrderRecord) := do
  let row : Except StoreError (Option OrderRecord) ← perform (RowOp.selectOrder orderId)
  match row with
  | .error _ => return none
  | .ok row => return row

def put (record : OrderRecord) : Prog RowOp.Ans (Except StoreError Unit) :=
  perform (RowOp.upsertOrder record)

/-- What the three updates have in common. -/
def amend (orderId : String) (f : OrderRecord → OrderRecord) :
    Prog RowOp.Ans (Except StoreError (Option OrderRecord)) := do
  let found ← get orderId
  match found with
  | none => return .ok none
  | some record =>
      let saved ← put (f record)
      return saved.map fun _ => some (f record)

def appendEvent (orderId : String) (event : OrderEvent) :
    Prog RowOp.Ans (Except StoreError (Option OrderRecord)) :=
  amend orderId fun record => { record with events := record.events ++ [event] }

def addAdjustment (orderId : String) (adjustment : OrderAdjustment) :
    Prog RowOp.Ans (Except StoreError (Option OrderRecord)) :=
  amend orderId fun record => { record with adjustments := record.adjustments ++ [adjustment] }

def updateStatus (orderId : String) (status : OrderStatus) :
    Prog RowOp.Ans (Except StoreError (Option OrderRecord)) :=
  amend orderId fun record => { record with status }

end PostgresOrderStore

/-! ## Calls -/

/-- The updates of an order. -/
inductive OrderEdit
  | appendEvent (event : OrderEvent)
  | addAdjustment (adjustment : OrderAdjustment)
  | updateStatus (status : OrderStatus)
deriving DecidableEq

namespace OrderEdit

/-- What an update makes of a record. -/
def apply : OrderEdit → OrderRecord → OrderRecord
  | .appendEvent event, record => { record with events := record.events ++ [event] }
  | .addAdjustment adjustment, record =>
      { record with adjustments := record.adjustments ++ [adjustment] }
  | .updateStatus status, record => { record with status }

def atomically (edit : OrderEdit) (orderId : String) (store : InMemoryOrderStore) :
    Option OrderRecord × InMemoryOrderStore :=
  match edit with
  | .appendEvent event => store.appendEvent orderId event
  | .addAdjustment adjustment => store.addAdjustment orderId adjustment
  | .updateStatus status => store.updateStatus orderId status

def prog (edit : OrderEdit) (orderId : String) :
    Prog RowOp.Ans (Except StoreError (Option OrderRecord)) :=
  match edit with
  | .appendEvent event => PostgresOrderStore.appendEvent orderId event
  | .addAdjustment adjustment => PostgresOrderStore.addAdjustment orderId adjustment
  | .updateStatus status => PostgresOrderStore.updateStatus orderId status

theorem atomically_eq (edit : OrderEdit) (orderId : String) (store : InMemoryOrderStore) :
    edit.atomically orderId store = store.amend orderId edit.apply := by
  cases edit <;> rfl

theorem prog_eq (edit : OrderEdit) (orderId : String) :
    edit.prog orderId = PostgresOrderStore.amend orderId edit.apply := by
  cases edit <;> rfl

@[simp] theorem orderId_apply (edit : OrderEdit) (record : OrderRecord) :
    (edit.apply record).orderId = record.orderId := by
  cases edit <;> rfl

/-- The update can be seen in the record. -/
def ShownIn (record : OrderRecord) : OrderEdit → Prop
  | .appendEvent event => event ∈ record.events
  | .addAdjustment adjustment => adjustment ∈ record.adjustments
  | .updateStatus _ => True

theorem shownIn_apply (edit : OrderEdit) (record : OrderRecord) :
    edit.ShownIn (edit.apply record) := by
  cases edit <;> simp [ShownIn, apply]

theorem ShownIn.apply {edit : OrderEdit} {record : OrderRecord} (h : edit.ShownIn record)
    (edit' : OrderEdit) : edit.ShownIn (edit'.apply record) := by
  cases edit <;> cases edit' <;> simp_all [ShownIn, OrderEdit.apply]

end OrderEdit

inductive RowCall
  | appendCartEvent (cartId : CartId) (event : CartStreamEvent)
  | amend (orderId : String) (edit : OrderEdit)
deriving DecidableEq

inductive RowReply
  | appended (result : Except StoreError Unit)
  | amended (result : Except StoreError (Option OrderRecord))

def RowReply.isOk : RowReply → Bool
  | .appended result => result.isOk
  | .amended result => result.isOk

namespace RowCall

def prog : RowCall → Prog RowOp.Ans RowReply
  | .appendCartEvent cartId event => do
      let result ← PostgresEventStore.appendCartEvent cartId event
      return .appended result
  | .amend orderId edit => do
      let result ← edit.prog orderId
      return .amended result

/-- The same call on the stores in memory. -/
def atomically (rows : Rows) : RowCall → Rows
  | .appendCartEvent cartId event =>
      { rows with events := rows.events.appendCartEvent cartId event }
  | .amend orderId edit =>
      { events := rows.events
        orders := (edit.atomically orderId rows.orders).2
        filed := by
          intro id record h
          rw [OrderEdit.atomically_eq, InMemoryOrderStore.amend] at h
          split at h
          · next found hfound =>
              rw [Table.lookup_insert_ite] at h
              split at h
              · next hid =>
                  cases h
                  rw [OrderEdit.orderId_apply, hid]
                  exact rows.filed orderId found hfound
              · exact rows.filed id record h
          · exact rows.filed id record h }

/-- The call gives the order a status. -/
def SetsStatus (orderId : String) : RowCall → Prop
  | .amend id (.updateStatus _) => id = orderId
  | _ => False

instance {orderId : String} : DecidablePred (SetsStatus orderId) := fun call => by
  unfold SetsStatus
  split <;> infer_instance

end RowCall

/-! ## The database -/

structure RowDb where
  rows : Rows
  /-- The number of statements executed so far. -/
  clock : Nat

/-- The statements that fail. -/
structure RowEnv where
  fault : Nat → Option StoreError

namespace RowEnv

variable (env : RowEnv) (w : RowDb)

def select {α : Type} (row : α) : Except StoreError α × RowDb :=
  let w' := { w with clock := w.clock + 1 }
  match env.fault w.clock with
  | none => (.ok row, w')
  | some e => (.error e, w')

def upsert (rows : Rows) : Except StoreError Unit × RowDb :=
  match env.fault w.clock with
  | none => (.ok (), ⟨rows, w.clock + 1⟩)
  | some e => (.error e, ⟨if e.tookEffect then rows else w.rows, w.clock + 1⟩)

/-- An upsert executed now changes its row. -/
def takesEffect : Bool :=
  match env.fault w.clock with
  | none => true
  | some e => e.tookEffect

def handle : Handler RowOp.Ans RowDb := fun o w =>
  match o with
  | .selectEvents cartId => env.select w (w.rows.events.cartEvents.lookup cartId)
  | .upsertEvents cartId events => env.upsert w (w.rows.upsertEvents cartId events)
  | .selectOrder orderId => env.select w (w.rows.orders.get orderId)
  | .upsertOrder record => env.upsert w (w.rows.upsertOrder record)

end RowEnv

abbrev RowPool := Pool RowOp.Ans RowDb RowReply

abbrev RowEntry := Entry RowOp.Ans RowReply

/-- Calls on the rows `before`, their statements interleaved as `ts` says. -/
def RowEnv.run (env : RowEnv) (before : Rows) (calls : List RowCall) (ts : List Nat) : RowPool :=
  Pool.run env.handle.shared ts (Pool.start ⟨before, 0⟩ (calls.map (·.prog)))

/-! ## Where a call stands -/

inductive Stage
  | fresh
  | readEvents (events : List CartStreamEvent)
  | readOrder (record : OrderRecord)
  | done (reply : RowReply)

structure Rewriting where
  call : RowCall
  stage : Stage

/-- A call selects the row it names, and upserts what it makes of it. -/
def rowMonitor : Monitor RowOp.Ans Rewriting where
  allow o q :=
    match o, q.stage with
    | .selectEvents c, .fresh => ∃ event, q.call = .appendCartEvent c event
    | .upsertEvents c events, .readEvents before =>
        ∃ event, q.call = .appendCartEvent c event ∧ events = before ++ [event]
    | .selectOrder id, .fresh => ∃ edit, q.call = .amend id edit
    | .upsertOrder record, .readOrder before =>
        ∃ edit, q.call = .amend before.orderId edit ∧ record = edit.apply before
    | _, _ => False
  rely o _ x :=
    match o, x with
    | .selectOrder id, .ok (some record) => record.orderId = id
    | _, _ => True
  next o q x :=
    { q with
      stage :=
        match o, x with
        | .selectEvents _, .ok row => .readEvents (row.getD [])
        | .selectEvents _, .error e => .done (.appended (.error e))
        | .upsertEvents _ _, result => .done (.appended result)
        | .selectOrder _, .ok (some record) => .readOrder record
        | .selectOrder _, _ => .done (.amended (.ok none))
        | .upsertOrder record, saved => .done (.amended (saved.map fun _ => some record)) }

/-- **Every call follows the monitor.** -/
theorem RowCall.prog_follows (call : RowCall) :
    call.prog.Follows rowMonitor (fun reply q => q.stage = .done reply) ⟨call, .fresh⟩ := by
  cases call with
  | appendCartEvent cartId event =>
      refine ⟨⟨event, rfl⟩, fun existing _ => ?_⟩
      cases existing with
      | error e => exact rfl
      | ok events => exact ⟨⟨event, rfl, rfl⟩, fun result _ => rfl⟩
  | amend orderId edit =>
      rw [prog, OrderEdit.prog_eq]
      refine ⟨⟨edit, rfl⟩, fun row hrow => ?_⟩
      cases row with
      | error e => exact rfl
      | ok found =>
          cases found with
          | none => exact rfl
          | some record =>
              obtain rfl : record.orderId = orderId := hrow
              exact ⟨⟨edit, rfl, rfl⟩, fun saved _ => rfl⟩

end Orchestrator
