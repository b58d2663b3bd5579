/-
# `CommerceOrchestrator.Persistence.PostgresOutbox` — the outbox in a database table

The database backend of the outbox and dead-letter stores, statement by
statement.  A claim leases a row, an acknowledgement deletes it by message id,
and a release is an update by message id with an insert for the case that the
row is gone.  The procedures are those of `Runtime.Outbox`; `onPostgres` says
which statements each of their operations is.

Statements are atomic, and a claim passes over the rows other statements have
locked.  A worker that crashes, or whose statement fails, is one that is not
scheduled again, and time between two statements passes as `now` says.
-/
import CommerceOrchestrator.Effect.Pool
import CommerceOrchestrator.Runtime.Outbox

namespace Orchestrator

open Effect Prog

/-! ## The table -/

structure OutboxRow where
  message : OutboxMessage
  lockedUntil : Option Nat
deriving DecidableEq, Repr

/-- `locked_until IS NULL OR locked_until < now()`. -/
def OutboxRow.claimable (now : Nat) (row : OutboxRow) : Bool :=
  match row.lockedUntil with
  | none => true
  | some lockedUntil => lockedUntil < now

/-- The rows of the outbox, in the order of `seq`. -/
abbrev OutboxTable := List OutboxRow

namespace OutboxTable

/-- Lease the first row that passes, and return its message. -/
def lease (lockedUntil : Nat) (passes : OutboxRow → Bool) :
    OutboxTable → Option OutboxMessage × OutboxTable
  | [] => (none, [])
  | row :: rows =>
      if passes row then (some row.message, { row with lockedUntil := some lockedUntil } :: rows)
      else
        let rest := lease lockedUntil passes rows
        (rest.1, row :: rest.2)

/-- Store the message in the row of its id and end the lease. -/
def update (message : OutboxMessage) (rows : OutboxTable) : OutboxTable :=
  rows.map fun row => if row.message.id = message.id then ⟨message, none⟩ else row

/-- The number of rows with this message id. -/
def affected (messageId : String) (rows : OutboxTable) : Nat :=
  rows.countP fun row => row.message.id = messageId

def delete (messageId : String) (rows : OutboxTable) : OutboxTable :=
  rows.filter fun row => row.message.id ≠ messageId

/-- A row in conflict keeps its place. -/
def upsert (message : OutboxMessage) (rows : OutboxTable) : OutboxTable :=
  if affected message.id rows = 0 then rows ++ [⟨message, none⟩] else update message rows

def messages (rows : OutboxTable) : List OutboxMessage := rows.map (·.message)

section Messages

variable {rows : OutboxTable} {m m' : OutboxMessage} {id : String}

theorem messages_lease {lockedUntil : Nat} {passes : OutboxRow → Bool} :
    messages (rows.lease lockedUntil passes).2 = rows.messages := by
  induction rows with
  | nil => rfl
  | cons row rows ih =>
      unfold lease
      split
      · rfl
      · exact congrArg (row.message :: ·) ih

theorem mem_of_lease {lockedUntil : Nat} {passes : OutboxRow → Bool}
    (h : (rows.lease lockedUntil passes).1 = some m) : m ∈ rows.messages := by
  induction rows with
  | nil => cases h
  | cons row rows ih =>
      unfold lease at h
      split at h
      · cases h
        exact List.mem_cons_self
      · exact List.mem_cons_of_mem _ (ih h)

theorem affected_eq_zero : rows.affected id = 0 ↔ ∀ m ∈ rows.messages, m.id ≠ id := by
  simp [affected, messages, List.countP_eq_zero]

theorem mem_update :
    m' ∈ (rows.update m).messages ↔
      (m' = m ∧ ∃ m₀ ∈ rows.messages, m₀.id = m.id) ∨ (m' ∈ rows.messages ∧ m'.id ≠ m.id) := by
  induction rows with
  | nil => simp [update, messages]
  | cons row rows ih =>
      simp only [update, messages, List.map_cons, List.mem_cons] at ih ⊢
      rw [ih]
      by_cases hrow : row.message.id = m.id
      · simp only [if_pos hrow]
        grind
      · simp only [if_neg hrow]
        grind

theorem mem_delete :
    m ∈ (rows.delete id).messages ↔ m ∈ rows.messages ∧ m.id ≠ id := by
  simp only [delete, messages, List.mem_map, List.mem_filter, decide_eq_true_eq]
  constructor
  · rintro ⟨row, ⟨hrow, hid⟩, rfl⟩
    exact ⟨⟨row, hrow, rfl⟩, hid⟩
  · rintro ⟨⟨row, hrow, rfl⟩, hid⟩
    exact ⟨row, ⟨hrow, hid⟩, rfl⟩

theorem mem_upsert :
    m' ∈ (rows.upsert m).messages ↔ m' = m ∨ (m' ∈ rows.messages ∧ m'.id ≠ m.id) := by
  unfold upsert
  split
  · next hnone =>
      have hnone := affected_eq_zero.mp hnone
      simp only [messages, List.map_append, List.mem_append, List.map_singleton,
        List.mem_singleton]
      constructor
      · rintro (hm' | rfl)
        · exact Or.inr ⟨hm', hnone m' hm'⟩
        · exact Or.inl rfl
      · rintro (rfl | ⟨hm', -⟩)
        · exact Or.inr rfl
        · exact Or.inl hm'
  · next hsome =>
      rw [mem_update]
      have hsome : ∃ m₀ ∈ rows.messages, m₀.id = m.id := by
        by_contra hnone
        exact hsome (affected_eq_zero.mpr fun m₀ hm₀ hid => hnone ⟨m₀, hm₀, hid⟩)
      simp only [hsome, and_true]

end Messages

end OutboxTable

/-! ## Statements -/

/-- The statements of the two stores, and one delivery. -/
inductive OutboxStatement
  -- UPDATE outbox SET locked_until WHERE seq is the first claimable RETURNING message
  | lease
  | deliver (message : OutboxMessage)
  -- DELETE FROM outbox WHERE message_id
  | delete (messageId : String)
  -- UPDATE outbox SET message, locked_until = NULL WHERE message_id
  | update (message : OutboxMessage)
  -- INSERT INTO outbox ON CONFLICT DO UPDATE
  | upsert (message : OutboxMessage)
  -- INSERT INTO dead_letter ON CONFLICT DO UPDATE
  | upsertDeadLetter (message : OutboxMessage)
  -- DELETE FROM dead_letter WHERE message_id RETURNING message
  | deleteDeadLetter (messageId : String)
deriving DecidableEq

/-- An update returns the number of rows it affected. -/
abbrev OutboxStatement.Ans : OutboxStatement → Type
  | .lease | .deleteDeadLetter _ => Option OutboxMessage
  | .deliver _ => Except String Unit
  | .delete _ | .upsert _ | .upsertDeadLetter _ => Unit
  | .update _ => Nat

/-- How an operation is carried out on the database. -/
def OutboxOp.onPostgres : (o : OutboxOp) → Prog OutboxStatement.Ans o.Ans
  | .claim => do
      let row : Option OutboxMessage ← perform OutboxStatement.lease
      return .ok row
  | .deliver message => perform (OutboxStatement.deliver message)
  | .ack messageId => do
      perform (OutboxStatement.delete messageId)
      return .ok ()
  | .release message => do
      let rowsAffected : Nat ← perform (OutboxStatement.update message)
      if rowsAffected = 0 then
        perform (OutboxStatement.upsert message)
      return .ok ()
  | .enqueue message => do
      perform (OutboxStatement.upsert message)
      return .ok ()
  | .putDeadLetter message => do
      perform (OutboxStatement.upsertDeadLetter message)
      return .ok ()
  | .takeDeadLetter messageId => do
      let row : Option OutboxMessage ← perform (OutboxStatement.deleteDeadLetter messageId)
      return .ok row

/-! ## The database -/

structure OutboxDb where
  outbox : OutboxTable
  deadLetter : Table String OutboxMessage
  /-- The number of statements executed so far. -/
  clock : Nat

def OutboxDb.empty : OutboxDb := ⟨[], ∅, 0⟩

/-- What the outside decides, at each statement. -/
structure OutboxEnv where
  /-- `now()`, in seconds. -/
  now : Nat → Nat
  /-- Another statement holds the row's lock. -/
  locked : Nat → OutboxRow → Bool
  deliver : Deliverer

def outboxLease : Nat := 60

def OutboxEnv.handle (env : OutboxEnv) : Handler OutboxStatement.Ans OutboxDb := fun s w =>
  let w' := { w with clock := w.clock + 1 }
  match s with
  | .lease =>
      let now := env.now w.clock
      let leased := w.outbox.lease (now + outboxLease) fun row =>
        row.claimable now && !env.locked w.clock row
      (leased.1, { w' with outbox := leased.2 })
  | .deliver message => (env.deliver w.clock message, w')
  | .delete messageId => ((), { w' with outbox := w.outbox.delete messageId })
  | .update message =>
      (w.outbox.affected message.id, { w' with outbox := w.outbox.update message })
  | .upsert message => ((), { w' with outbox := w.outbox.upsert message })
  | .upsertDeadLetter message =>
      ((), { w' with deadLetter := w.deadLetter.insert message.id message })
  | .deleteDeadLetter messageId =>
      (w.deadLetter.lookup messageId, { w' with deadLetter := w.deadLetter.erase messageId })

abbrev PgOutboxPool := Pool OutboxStatement.Ans OutboxDb OutboxReport

abbrev PgOutboxEntry := Entry OutboxStatement.Ans OutboxReport

/-- Calls before any of them has started, on empty tables. -/
def OutboxEnv.pool (calls : List OutboxCall) : PgOutboxPool :=
  Pool.start OutboxDb.empty (calls.map fun call => call.prog.lower OutboxOp.onPostgres)

/-- Calls on empty tables, their statements interleaved as `ts` says. -/
def OutboxEnv.run (env : OutboxEnv) (calls : List OutboxCall) (ts : List Nat) : PgOutboxPool :=
  Pool.run env.handle.shared ts (pool calls)

/-! ## Who holds what -/

/-- Where a call stands, down to its statements. -/
inductive Leasing
  | holds (q : Holding)
  -- a release found no row
  | gone (message : OutboxMessage)

/-- `outboxMonitor`, statement by statement. -/
def leaseMonitor : Monitor OutboxStatement.Ans Leasing where
  allow s p :=
    match s, p with
    | .lease, .holds q => outboxMonitor.allow .claim q
    | .deliver m, .holds q => outboxMonitor.allow (.deliver m) q
    | .delete id, .holds q => outboxMonitor.allow (.ack id) q
    | .update m, .holds q => outboxMonitor.allow (.release m) q
    | .upsert m, .holds q => outboxMonitor.allow (.enqueue m) q
    | .upsertDeadLetter m, .holds q => outboxMonitor.allow (.putDeadLetter m) q
    | .deleteDeadLetter id, .holds q => outboxMonitor.allow (.takeDeadLetter id) q
    | .upsert m, .gone m' => m = m'
    | _, .gone _ => False
  next s p x :=
    match s, p, x with
    | .lease, .holds q, x => .holds (outboxMonitor.next .claim q (.ok x))
    | .deliver m, .holds q, x => .holds (outboxMonitor.next (.deliver m) q x)
    | .upsertDeadLetter m, .holds q, x => .holds (outboxMonitor.next (.putDeadLetter m) q (.ok x))
    | .deleteDeadLetter id, .holds q, x =>
        .holds (outboxMonitor.next (.takeDeadLetter id) q (.ok x))
    | .update m, _, 0 => .gone m
    | _, _, _ => .holds .done

section Allowed

variable {p : Leasing} {m : OutboxMessage} {id : String}

theorem allow_lease (ho : leaseMonitor.allow .lease p) : ∃ k, p = .holds (.ready (.process k)) := by
  cases p with
  | holds q =>
      obtain ⟨k, rfl⟩ := ho
      exact ⟨k, rfl⟩
  | gone m => cases ho

theorem allow_deliver (ho : leaseMonitor.allow (.deliver m) p) :
    ∃ k, p = .holds (.claimed k m) := by
  cases p with
  | holds q =>
      obtain ⟨k, rfl⟩ := ho
      exact ⟨k, rfl⟩
  | gone m' => cases ho

theorem allow_delete (ho : leaseMonitor.allow (.delete id) p) :
    ∃ m, (p = .holds (.parked m) ∨ p = .holds (.delivered m)) ∧ id = m.id := by
  cases p with
  | holds q =>
      obtain ⟨m, rfl | rfl, hid⟩ := ho
      · exact ⟨m, Or.inl rfl, hid⟩
      · exact ⟨m, Or.inr rfl, hid⟩
  | gone m => cases ho

theorem allow_update (ho : leaseMonitor.allow (.update m) p) :
    ∃ k, p = .holds (.failed k m) ∧ m.attempts ≤ k := by
  cases p with
  | holds q =>
      obtain ⟨k, rfl, hle⟩ := ho
      exact ⟨k, rfl, hle⟩
  | gone m' => cases ho

theorem allow_upsert (ho : leaseMonitor.allow (.upsert m) p) :
    p = .holds (.ready (.enqueue m)) ∨ (∃ m', p = .holds (.taken m') ∧ m = m'.reset) ∨
      p = .gone m := by
  cases p with
  | holds q =>
      rcases ho with rfl | ⟨m', rfl, hreset⟩
      · exact Or.inl rfl
      · exact Or.inr (Or.inl ⟨m', rfl, hreset⟩)
  | gone m' =>
      obtain rfl : m = m' := ho
      exact Or.inr (Or.inr rfl)

theorem allow_upsertDeadLetter (ho : leaseMonitor.allow (.upsertDeadLetter m) p) :
    ∃ k, p = .holds (.failed k m) := by
  cases p with
  | holds q =>
      obtain ⟨k, rfl, -⟩ := ho
      exact ⟨k, rfl⟩
  | gone m' => cases ho

theorem allow_deleteDeadLetter (ho : leaseMonitor.allow (.deleteDeadLetter id) p) :
    p = .holds (.ready (.replay id)) := by
  cases p with
  | holds q =>
      obtain rfl : q = .ready (.replay id) := ho
      rfl
  | gone m => cases ho

end Allowed

theorem onPostgres_follows (o : OutboxOp) (q : Holding) (ho : outboxMonitor.allow o q) :
    o.onPostgres.Follows leaseMonitor
      (fun x p => outboxMonitor.rely o q x ∧ p = .holds (outboxMonitor.next o q x))
      (.holds q) := by
  cases o with
  | claim => exact ⟨ho, fun x _ => ⟨trivial, rfl⟩⟩
  | deliver m => exact ⟨ho, fun x _ => ⟨trivial, rfl⟩⟩
  | ack id => exact ⟨ho, fun x _ => ⟨trivial, rfl⟩⟩
  | enqueue m => exact ⟨ho, fun x _ => ⟨trivial, rfl⟩⟩
  | putDeadLetter m => exact ⟨ho, fun x _ => ⟨trivial, rfl⟩⟩
  | takeDeadLetter id => exact ⟨ho, fun x _ => ⟨trivial, rfl⟩⟩
  | release m =>
      refine ⟨ho, fun rowsAffected _ => ?_⟩
      cases rowsAffected with
      | zero => exact ⟨rfl, fun x _ => ⟨trivial, rfl⟩⟩
      | succ n => exact ⟨trivial, rfl⟩

/-- **Every call follows the monitor**, statement by statement. -/
theorem pool_follows (calls : List OutboxCall) :
    Pool.AllFollow leaseMonitor (fun _ _ p => p = .holds .done)
      (fun t => .holds (readyAt calls t)) (OutboxEnv.pool calls) := by
  intro t p hp
  have hp : (calls.map fun call => call.prog.lower OutboxOp.onPostgres)[t]? = some p := hp
  rw [List.getElem?_map] at hp
  obtain ⟨call, hcall, rfl⟩ := Option.map_eq_some_iff.mp hp
  show Follows leaseMonitor _ _ (.holds (readyAt calls t))
  rw [readyAt_of_call hcall]
  refine (Follows.lower Leasing.holds onPostgres_follows call.prog_follows).mono ?_
  rintro a p ⟨q, rfl, rfl⟩
  rfl

end Orchestrator
