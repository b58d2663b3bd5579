/-
# `CommerceOrchestrator.Runtime.Outbox` — what the outbox worker and the operator do

The procedures that move outbox messages: a worker claims one, tries to deliver
it and gives it back or dead-letters it; an operator replays a dead letter.
They are written against the methods of the store traits, so the same text runs
on every backend.  `outboxMonitor` says which message a caller holds at each
point and what it may do with it.
-/
import CommerceOrchestrator.Effect.Monitor
import CommerceOrchestrator.Runtime.Stores

namespace Orchestrator

open Effect Prog

/-! ## Operations -/

/-- Methods of the outbox and dead-letter stores, and one delivery. -/
inductive OutboxOp
  | claim
  | deliver (message : OutboxMessage)
  | ack (messageId : String)
  | release (message : OutboxMessage)
  | enqueue (message : OutboxMessage)
  | putDeadLetter (message : OutboxMessage)
  | takeDeadLetter (messageId : String)
deriving DecidableEq

/-- A delivery fails with the text of an `OutboxDeliveryError`. -/
abbrev OutboxOp.Ans : OutboxOp → Type
  | .claim => Except StoreError (Option OutboxMessage)
  | .deliver _ => Except String Unit
  | .ack _ | .release _ | .enqueue _ | .putDeadLetter _ => Except StoreError Unit
  | .takeDeadLetter _ => Except StoreError (Option OutboxMessage)

abbrev OutboxRun := ExceptT StoreError (Prog OutboxOp.Ans)

/-- `o.await`. -/
def OutboxOp.await (o : OutboxOp) : Prog OutboxOp.Ans o.Ans := perform o

/-- Whether a delivery succeeds, given the number of operations before it. -/
abbrev Deliverer := Nat → OutboxMessage → Except String Unit

/-! ## Procedures -/

inductive OutboxOutcome
  | idle
  | delivered
  | retrying (attempts : Nat)
  | deadLettered
deriving DecidableEq, Repr

/-- `attempts` is a `u32`. -/
def OutboxMessage.retried (message : OutboxMessage) : OutboxMessage :=
  { message with attempts := (message.attempts + 1) % 2 ^ 32 }

def OutboxMessage.reset (message : OutboxMessage) : OutboxMessage :=
  { message with attempts := 0 }

/-- Claim a message, deliver it, and acknowledge it, give it back or dead-letter it.
Without a deliverer every delivery fails. -/
def processOutboxOnceReporting (maxAttempts : Nat) : OutboxRun OutboxOutcome := do
  match ← ExceptT.mk (OutboxOp.claim).await with
  | none => return .idle
  | some message =>
      match ← ExceptT.lift (OutboxOp.deliver message).await with
      | .error _ =>
          if maxAttempts < message.retried.attempts then
            ExceptT.mk (OutboxOp.putDeadLetter message.retried).await
            ExceptT.mk (OutboxOp.ack message.retried.id).await
            return .deadLettered
          else
            ExceptT.mk (OutboxOp.release message.retried).await
            return .retrying message.retried.attempts
      | .ok _ =>
          ExceptT.mk (OutboxOp.ack message.id).await
          return .delivered

/-- Put a dead letter back in the outbox, its attempts forgotten. -/
def replayFromDeadLetter (messageId : String) : OutboxRun Bool := do
  match ← ExceptT.mk (OutboxOp.takeDeadLetter messageId).await with
  | some message =>
      ExceptT.mk (OutboxOp.enqueue message.reset).await
      return true
  | none => return false

/-! ## Calls -/

/-- The three ways into the outbox. -/
inductive OutboxCall
  | enqueue (message : OutboxMessage)
  | process (maxAttempts : Nat)
  | replay (messageId : String)
deriving DecidableEq

/-- What a call returned. -/
inductive OutboxReport
  | enqueued (r : Except StoreError Unit)
  | processed (r : Except StoreError OutboxOutcome)
  | replayed (r : Except StoreError Bool)

def OutboxCall.prog : OutboxCall → Prog OutboxOp.Ans OutboxReport
  | .enqueue message => (OutboxOp.enqueue message).await >>= fun r => .ret (.enqueued r)
  | .process maxAttempts =>
      (processOutboxOnceReporting maxAttempts).run >>= fun r => .ret (.processed r)
  | .replay messageId => (replayFromDeadLetter messageId).run >>= fun r => .ret (.replayed r)

/-! ## Who holds what -/

/-- Where a call stands, and the message in its hands. -/
inductive Holding
  | ready (call : OutboxCall)
  | claimed (maxAttempts : Nat) (message : OutboxMessage)
  | failed (maxAttempts : Nat) (message : OutboxMessage)
  | parked (message : OutboxMessage)
  | delivered (message : OutboxMessage)
  | taken (message : OutboxMessage)
  | done

/-- The message of which a caller holds the only copy, if the store gave its own away. -/
def Holding.message : Holding → Option OutboxMessage
  | .claimed _ message | .failed _ message | .taken message => some message
  | _ => none

/-- A call claims, delivers what it claimed, and then disposes of it once. -/
def outboxMonitor : Monitor OutboxOp.Ans Holding where
  allow o q :=
    match o with
    | .claim => ∃ maxAttempts, q = .ready (.process maxAttempts)
    | .deliver m => ∃ maxAttempts, q = .claimed maxAttempts m
    | .ack id => ∃ m, (q = .parked m ∨ q = .delivered m) ∧ id = m.id
    | .release m => ∃ maxAttempts, q = .failed maxAttempts m ∧ m.attempts ≤ maxAttempts
    | .putDeadLetter m => ∃ maxAttempts, q = .failed maxAttempts m ∧ maxAttempts < m.attempts
    | .enqueue m => q = .ready (.enqueue m) ∨ ∃ m', q = .taken m' ∧ m = m'.reset
    | .takeDeadLetter id => q = .ready (.replay id)
  next o q x :=
    match o, q, x with
    | .claim, .ready (.process maxAttempts), .ok (some m) => .claimed maxAttempts m
    | .deliver m, .claimed maxAttempts _, .error _ => .failed maxAttempts m.retried
    | .deliver m, _, .ok _ => .delivered m
    | .putDeadLetter m, _, .ok _ => .parked m
    | .takeDeadLetter _, _, .ok (some m) => .taken m
    | _, _, _ => .done

theorem processOutboxOnceReporting_follows (maxAttempts : Nat) :
    (processOutboxOnceReporting maxAttempts).run.Follows outboxMonitor (fun _ q => q = .done)
      (.ready (.process maxAttempts)) := by
  refine ⟨⟨maxAttempts, rfl⟩, fun claimed _ => ?_⟩
  cases claimed with
  | error e => exact rfl
  | ok claimed =>
      cases claimed with
      | none => exact rfl
      | some message =>
          refine ⟨⟨maxAttempts, rfl⟩, fun delivery _ => ?_⟩
          cases delivery with
          | ok _ => exact ⟨⟨message, Or.inr rfl, rfl⟩, fun x _ => by cases x <;> exact rfl⟩
          | error e =>
              show Follows _ _
                (ExceptT.run (if maxAttempts < message.retried.attempts then _ else _)) _
              split
              · next hmax =>
                  refine ⟨⟨maxAttempts, rfl, hmax⟩, fun x _ => ?_⟩
                  cases x with
                  | error e => exact rfl
                  | ok _ => exact ⟨⟨_, Or.inl rfl, rfl⟩, fun x _ => by cases x <;> exact rfl⟩
              · next hmax =>
                  refine ⟨⟨maxAttempts, rfl, Nat.le_of_not_lt hmax⟩, fun x _ => ?_⟩
                  cases x <;> exact rfl

theorem replayFromDeadLetter_follows (messageId : String) :
    (replayFromDeadLetter messageId).run.Follows outboxMonitor (fun _ q => q = .done)
      (.ready (.replay messageId)) := by
  refine ⟨rfl, fun taken _ => ?_⟩
  cases taken with
  | error e => exact rfl
  | ok taken =>
      cases taken with
      | none => exact rfl
      | some message =>
          exact ⟨Or.inr ⟨message, rfl, rfl⟩, fun x _ => by cases x <;> exact rfl⟩

/-- **Every call follows the monitor**, and holds nothing when it returns. -/
theorem OutboxCall.prog_follows (call : OutboxCall) :
    call.prog.Follows outboxMonitor (fun _ q => q = .done) (.ready call) := by
  cases call with
  | enqueue message => exact ⟨Or.inl rfl, fun x _ => by cases x <;> exact rfl⟩
  | process maxAttempts => exact follows_bind.mpr (processOutboxOnceReporting_follows maxAttempts)
  | replay messageId => exact follows_bind.mpr (replayFromDeadLetter_follows messageId)

/-! ## Calls at the start -/

/-- The message a call enqueues. -/
def OutboxCall.enqueued : OutboxCall → Option OutboxMessage
  | .enqueue message => some message
  | _ => none

/-- Messages are enqueued unattempted, with ids of their own. -/
structure NewMessages (calls : List OutboxCall) : Prop where
  fresh : ∀ m, .enqueue m ∈ calls → m.attempts = 0
  distinct : calls.Pairwise fun c c' => ∀ m ∈ c.enqueued, ∀ m' ∈ c'.enqueued, m.id ≠ m'.id

theorem NewMessages.apart {calls : List OutboxCall} (h : NewMessages calls) {t t' : Nat}
    {m m' : OutboxMessage} (hm : calls[t]? = some (.enqueue m))
    (hm' : calls[t']? = some (.enqueue m')) (hne : t ≠ t') : m.id ≠ m'.id := by
  obtain ⟨ht, hct⟩ := List.getElem?_eq_some_iff.mp hm
  obtain ⟨ht', hct'⟩ := List.getElem?_eq_some_iff.mp hm'
  have hpair := List.pairwise_iff_getElem.mp h.distinct
  rcases Nat.lt_or_gt_of_ne hne with hlt | hlt
  · exact hpair t t' ht ht' hlt m (hct ▸ rfl) m' (hct' ▸ rfl)
  · exact (hpair t' t ht' ht hlt m' (hct' ▸ rfl) m (hct ▸ rfl)).symm

/-- Before its first operation a call is ready; a thread that does not exist is done. -/
def readyAt (calls : List OutboxCall) (t : Nat) : Holding :=
  match calls[t]? with
  | some call => .ready call
  | none => .done

section Start

variable {calls : List OutboxCall} {t : Nat}

theorem readyAt_ready {call : OutboxCall} (h : readyAt calls t = .ready call) :
    calls[t]? = some call := by
  unfold readyAt at h
  split at h
  · next hc =>
      cases h
      exact hc
  · cases h

theorem readyAt_of_call {call : OutboxCall} (h : calls[t]? = some call) :
    readyAt calls t = .ready call := by
  simp only [readyAt, h]

/-- At the start a caller is ready or done. -/
theorem readyAt_cases : (∃ call, readyAt calls t = .ready call) ∨ readyAt calls t = .done := by
  unfold readyAt
  split
  · exact Or.inl ⟨_, rfl⟩
  · exact Or.inr rfl

end Start

/-- What is enqueued for the order system. -/
def Sample.notice : OutboxMessage := ⟨"msg_1", "order.created", "{}", "corr_1", 0, none⟩

end Orchestrator
