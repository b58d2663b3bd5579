/-
# `CommerceOrchestrator.Persistence.Draining` — the outbox runs dry

Nobody enqueues any more and the worker goes on.  A message whose delivery fails goes to the
back of the queue it came from, so the queue need not get shorter; what gets smaller is the
number of turns its messages have left between them.  With either of the queues that live in a
process, the one in memory and the file-backed one, the worker is idle after at most that many
calls, every message having been delivered or dead-lettered once (`outbox_drains_iff`).

The count of attempts is a `u32`, so where the largest of these is what a message may have,
no message ever has more.
-/
import CommerceOrchestrator.Persistence.FileOutbox
import CommerceOrchestrator.Runtime.Conservation
import CommerceOrchestrator.Runtime.OutboxProcessor

namespace Orchestrator

open Effect Prog

/-! ## Queues -/

/-- An outbox that pops its messages and takes them back at the end, and never fails.  The
calls are numbered, and what a delivery comes to may depend on the call. -/
structure QueueBackend (W : Type) where
  handle : Nat → Handler OutboxOp.Ans W
  queue : W → Outbox
  deadLetter : W → DeadLetter
  claim_answer : ∀ k w, (handle k .claim w).1 = .ok (queue w).head?
  claim_queue : ∀ k w, queue (handle k .claim w).2 = (queue w).tail
  deliver_queue : ∀ k m w, queue (handle k (.deliver m) w).2 = queue w
  ack_answer : ∀ k id w, (handle k (.ack id) w).1 = .ok ()
  ack_queue : ∀ k id w, queue (handle k (.ack id) w).2 = queue w
  release_answer : ∀ k m w, (handle k (.release m) w).1 = .ok ()
  release_queue : ∀ k m w, queue (handle k (.release m) w).2 = queue w ++ [m]
  park_answer : ∀ k m w, (handle k (.putDeadLetter m) w).1 = .ok ()
  park_queue : ∀ k m w, queue (handle k (.putDeadLetter m) w).2 = queue w
  park_letters : ∀ k m w,
    deadLetter (handle k (.putDeadLetter m) w).2 = (deadLetter w).put m
  keeps_letters : ∀ k o w, (∀ m, o ≠ .putDeadLetter m) → (∀ id, o ≠ .takeDeadLetter id) →
    deadLetter (handle k o w).2 = deadLetter w

/-- The stores in memory. -/
def memoryBackend (deliverer : Deliverer) : QueueBackend OutboxWorld where
  handle _ := memoryHandle deliverer
  queue := OutboxWorld.outbox
  deadLetter := OutboxWorld.deadLetter
  claim_answer _ _ := rfl
  claim_queue _ _ := rfl
  deliver_queue _ _ _ := rfl
  ack_answer _ _ _ := rfl
  ack_queue _ _ _ := rfl
  release_answer _ _ _ := rfl
  release_queue _ _ _ := rfl
  park_answer _ _ _ := rfl
  park_queue _ _ _ := rfl
  park_letters _ _ _ := rfl
  keeps_letters k o w hput htake := by
    cases o with
    | putDeadLetter m => exact absurd rfl (hput m)
    | takeDeadLetter id => exact absurd rfl (htake id)
    | claim | deliver m | ack id | release m | enqueue m => rfl

/-! ### The file-backed queue -/

section File

variable {json : SerdeJson} {env : DurableEnv} {w : DurableWorld} {c : StoreCall}

/-- What a file-backed method answers and what it makes of memory, whether it saves or not. -/
theorem durable_enters (json : SerdeJson) (env : DurableEnv) (w : DurableWorld) (c : StoreCall) :
    ((c.durable json).run env.handle w).1 = (entered env w c).answer ∧
      ((c.durable json).run env.handle w).2.mem =
        Function.update w.mem c.file (entered env w c).value := by
  cases hs : (entered env w c).saves with
  | true =>
      rw [(durable_saving json hs).1]
      exact ⟨rfl, rfl⟩
  | false =>
      have hrun : (c.durable json).run env.handle w =
          ((entered env w c).answer, w.remember c.file (entered env w c).value) := by
        show (if (entered env w c).saves then saving json c (entered env w c).answer
          else .ret (entered env w c).answer).run env.handle
            (w.remember c.file (entered env w c).value) = _
        rw [hs]
        rfl
      rw [hrun]
      exact ⟨rfl, rfl⟩

/-- One operation on the file-backed stores. -/
def fileHandle (json : SerdeJson) (env : DurableEnv) : Handler OutboxOp.Ans DurableWorld :=
  fun o w => (o.durable json).run env.handle w

/-- The worker on the file-backed stores performs its operations one by one. -/
theorem processFileOutbox_run (maxAttempts : Nat) :
    (processFileOutbox json maxAttempts).run env.handle w =
      (processOutboxOnceReporting maxAttempts).run.run (fileHandle json env) w := by
  unfold processFileOutbox
  generalize (processOutboxOnceReporting maxAttempts).run = p
  induction p generalizing w with
  | ret a => rfl
  | op o k ih =>
      show (o.durable json >>= fun x => (k x).lower (OutboxOp.durable json)).run env.handle w = _
      rw [run_bind, ih]
      rfl

/-- An operation that is one file-backed method answers as it does and changes its file. -/
theorem method_run {α : Type} {c : StoreCall} {f : c.Ans → α} {r : α × DurableWorld}
    (hr : r = (f <$> c.durable json).run env.handle w) :
    r.1 = f (entered env w c).answer ∧ r.2.mem c.file = (entered env w c).value ∧
      ∀ file, file ≠ c.file → r.2.mem file = w.mem file := by
  obtain ⟨hanswer, hmem⟩ := durable_enters json env w c
  rw [hr, run_map, hanswer]
  dsimp only
  rw [hmem]
  exact ⟨rfl, Function.update_self _ _ _, fun file hfile => Function.update_of_ne hfile _ _⟩

theorem claim_value (queue : Outbox) :
    (FileBackedOutboxStore.claim queue).answer = queue.head? ∧
      (FileBackedOutboxStore.claim queue).value = queue.tail := by
  cases queue with
  | nil => exact ⟨rfl, rfl⟩
  | cons message queue => exact ⟨rfl, rfl⟩

/-- The file-backed stores; each call has its own deliveries. -/
def fileBackend (json : SerdeJson) (env : Nat → DurableEnv) : QueueBackend DurableWorld where
  handle k := fileHandle json (env k)
  queue w := w.mem .outbox
  deadLetter w := w.mem .deadLetter
  claim_answer _ _ :=
    (method_run (c := .outboxClaim) rfl).1.trans (congrArg Except.ok (claim_value _).1)
  claim_queue _ _ :=
    (method_run (c := .outboxClaim) (f := Except.ok) rfl).2.1.trans (claim_value _).2
  deliver_queue _ _ _ := rfl
  ack_answer _ id _ := (method_run (c := .outboxAck id) rfl).1
  ack_queue _ id _ := (method_run (c := .outboxAck id) (f := Except.ok) rfl).2.1
  release_answer _ m _ := (method_run (c := .outboxRelease m) rfl).1
  release_queue _ m _ := (method_run (c := .outboxRelease m) (f := Except.ok) rfl).2.1
  park_answer _ m _ := (method_run (c := .putDeadLetter m) rfl).1
  park_queue _ m _ :=
    (method_run (c := .putDeadLetter m) (f := Except.ok) rfl).2.2 _ StoreFile.noConfusion
  park_letters _ m _ := (method_run (c := .putDeadLetter m) (f := Except.ok) rfl).2.1
  keeps_letters k o w hput htake := by
    have hother {c : StoreCall} (hc : c.file = .outbox) :
        ((Except.ok (ε := StoreError) <$> c.durable json).run (env k).handle w).2.mem .deadLetter =
          w.mem .deadLetter :=
      (method_run rfl).2.2 _ fun hfile => by
        rw [hc] at hfile
        cases hfile
    cases o with
    | claim => exact hother (c := .outboxClaim) rfl
    | deliver m => rfl
    | ack id => exact hother (c := .outboxAck id) rfl
    | release m => exact hother (c := .outboxRelease m) rfl
    | enqueue m => exact hother (c := .enqueue m) rfl
    | putDeadLetter m => exact absurd rfl (hput m)
    | takeDeadLetter id => exact absurd rfl (htake id)

end File

/-! ## One call -/

/-- The turns a message has left: it is delivered once at least, and until it has had more
failures than allowed. -/
def turnsLeft (maxAttempts : Nat) (message : OutboxMessage) : Nat :=
  max 1 (maxAttempts + 1 - message.attempts)

def budget (maxAttempts : Nat) (queue : Outbox) : Nat := (queue.map (turnsLeft maxAttempts)).sum

/-- `WorkerCall maxAttempts queue outcome done queue'`: a call that finds `queue` comes to
`outcome`, has settled the messages `done` and leaves `queue'`. -/
inductive WorkerCall (maxAttempts : Nat) :
    Outbox → OutboxOutcome → List OutboxMessage → Outbox → Prop
  | idle : WorkerCall maxAttempts [] .idle [] []
  | delivered (message : OutboxMessage) (rest : Outbox) :
      WorkerCall maxAttempts (message :: rest) .delivered [message] rest
  | deadLettered (message : OutboxMessage) (rest : Outbox)
      (h : maxAttempts < message.retried.attempts) :
      WorkerCall maxAttempts (message :: rest) .deadLettered [message.retried] rest
  | retrying (message : OutboxMessage) (rest : Outbox)
      (h : message.retried.attempts ≤ maxAttempts) :
      WorkerCall maxAttempts (message :: rest) (.retrying message.retried.attempts) []
        (rest ++ [message.retried])

/-- The messages that were delivered or dead-lettered. -/
def settledMessages (log : List (Event OutboxOp.Ans)) : List OutboxMessage :=
  log.filterMap fun e =>
    match e with
    | ⟨.deliver m, .ok _⟩ => some m
    | ⟨.putDeadLetter m, .ok _⟩ => some m
    | _ => none

/-- The messages that were dead-lettered. -/
def parkedMessages (log : List (Event OutboxOp.Ans)) : List OutboxMessage :=
  log.filterMap fun e =>
    match e with
    | ⟨.putDeadLetter m, .ok _⟩ => some m
    | _ => none

theorem settledMessages_append (log log' : List (Event OutboxOp.Ans)) :
    settledMessages (log ++ log') = settledMessages log ++ settledMessages log' :=
  List.filterMap_append

theorem parkedMessages_append (log log' : List (Event OutboxOp.Ans)) :
    parkedMessages (log ++ log') = parkedMessages log ++ parkedMessages log' :=
  List.filterMap_append

namespace QueueBackend

variable {W : Type} (B : QueueBackend W) (maxAttempts : Nat)

/-- Call number `k` of the worker. -/
def call (k : Nat) (w : W) : Except StoreError OutboxOutcome × W :=
  (processOutboxOnceReporting maxAttempts).run.run (B.handle k) w

/-- What it does. -/
def callEvents (k : Nat) (w : W) : List (Event OutboxOp.Ans) :=
  (processOutboxOnceReporting maxAttempts).run.events (B.handle k) w

variable {B maxAttempts}

/-- **One call is one turn**, and what it dead-letters is a dead letter. -/
theorem call_turn (maxAttempts k : Nat) (w : W) : ∃ outcome,
    (B.call maxAttempts k w).1 = .ok outcome ∧
      WorkerCall maxAttempts (B.queue w) outcome (settledMessages (B.callEvents maxAttempts k w))
        (B.queue (B.call maxAttempts k w).2) ∧
      B.deadLetter (B.call maxAttempts k w).2 =
        (parkedMessages (B.callEvents maxAttempts k w)).foldl DeadLetter.put (B.deadLetter w) := by
  have hanswer := B.claim_answer k w
  have hqueue := B.claim_queue k w
  have hletters := B.keeps_letters k .claim w (fun _ => OutboxOp.noConfusion)
    fun _ => OutboxOp.noConfusion
  unfold call callEvents
  rw [process_run]
  simp only [Prog.run, Prog.events, hanswer]
  generalize (B.handle k .claim w).2 = w₁ at hqueue hletters
  cases hq : B.queue w with
  | nil =>
      rw [hq] at hqueue
      refine ⟨.idle, rfl, ?_, hletters⟩
      show WorkerCall maxAttempts [] .idle [] (B.queue w₁)
      rw [hqueue]
      exact .idle
  | cons message rest =>
      rw [hq] at hqueue
      have hdeliver : B.queue (B.handle k (.deliver message) w₁).2 = rest :=
        (B.deliver_queue k message w₁).trans hqueue
      have hletters₂ := (B.keeps_letters k (.deliver message) w₁ (fun _ => OutboxOp.noConfusion)
        fun _ => OutboxOp.noConfusion).trans hletters
      simp only [List.head?_cons, afterClaim, Prog.run, Prog.events]
      generalize (B.handle k (.deliver message) w₁).2 = w₂ at hdeliver hletters₂
      generalize (B.handle k (.deliver message) w₁).1 = delivery
      cases delivery with
      | ok _ =>
          simp only [afterDelivery, Prog.run, Prog.events, B.ack_answer, finish]
          refine ⟨.delivered, rfl, ?_, ?_⟩
          · show WorkerCall maxAttempts (message :: rest) .delivered [message]
              (B.queue (B.handle k (.ack message.id) w₂).2)
            rw [B.ack_queue, hdeliver]
            exact .delivered message rest
          · exact (B.keeps_letters k (.ack message.id) w₂ (fun _ => OutboxOp.noConfusion)
              fun _ => OutboxOp.noConfusion).trans hletters₂
      | error e =>
          by_cases hspent : maxAttempts < message.retried.attempts
          · simp only [afterDelivery, if_pos hspent, Prog.run, Prog.events, B.park_answer, afterPark,
              B.ack_answer, finish]
            refine ⟨.deadLettered, rfl, ?_, ?_⟩
            · show WorkerCall maxAttempts (message :: rest) .deadLettered [message.retried]
                (B.queue (B.handle k (.ack message.retried.id) _).2)
              rw [B.ack_queue, B.park_queue, hdeliver]
              exact .deadLettered message rest hspent
            · rw [B.keeps_letters k (.ack message.retried.id) _ (fun _ => OutboxOp.noConfusion)
                fun _ => OutboxOp.noConfusion, B.park_letters, hletters₂]
              rfl
          · simp only [afterDelivery, if_neg hspent, Prog.run, Prog.events, B.release_answer,
              finish]
            refine ⟨.retrying message.retried.attempts, rfl, ?_, ?_⟩
            · show WorkerCall maxAttempts (message :: rest) _ []
                (B.queue (B.handle k (.release message.retried) w₂).2)
              rw [B.release_queue, hdeliver]
              exact .retrying message rest (Nat.not_lt.mp hspent)
            · exact (B.keeps_letters k (.release message.retried) w₂
                (fun _ => OutboxOp.noConfusion) fun _ => OutboxOp.noConfusion).trans hletters₂

/-! ## Calls one after the other -/

variable (B maxAttempts)

/-- The world after `n` calls, from call number `k` on. -/
def worldAfter : (n k : Nat) → W → W
  | 0, _, w => w
  | n + 1, k, w => worldAfter n (k + 1) (B.call maxAttempts k w).2

/-- What `n` calls did. -/
def logAfter : (n k : Nat) → W → List (Event OutboxOp.Ans)
  | 0, _, _ => []
  | n + 1, k, w =>
      B.callEvents maxAttempts k w ++ logAfter n (k + 1) (B.call maxAttempts k w).2

/-- What the call after `n` calls comes to. -/
def outcomeAfter : (n k : Nat) → W → Except StoreError OutboxOutcome
  | 0, k, w => (B.call maxAttempts k w).1
  | n + 1, k, w => outcomeAfter n (k + 1) (B.call maxAttempts k w).2

/-- `process_batch`: up to `left` messages.  How many were handled, and where that ends. -/
def processBatch : (left k : Nat) → W → Nat × Nat × W
  | 0, k, w => (0, k, w)
  | left + 1, k, w =>
      if (B.queue w).length = 0 then (0, k, w)
      else
        let w' := (B.call maxAttempts k w).2
        match (B.call maxAttempts k w).1 with
        | .ok .idle | .error _ => (0, k + 1, w')
        | .ok _ =>
            let rest := processBatch left (k + 1) w'
            (rest.1 + 1, rest.2)

/-- `drain` without its deadline, as long as the fuel lasts. -/
def drain (batchSize : Nat) : (fuel k : Nat) → W → Option Nat
  | 0, _, _ => none
  | fuel + 1, k, w =>
      let batch := B.processBatch maxAttempts batchSize k w
      if batch.1 = 0 then some 0 else (drain batchSize fuel batch.2.1 batch.2.2).map (batch.1 + ·)

/-- From call number `k` on: after at most as many calls as its messages have turns the queue is
empty and the next call idle, and by then each message has been delivered or dead-lettered,
once. -/
def RunsDry (k : Nat) (w : W) : Prop :=
  ∃ n ≤ budget maxAttempts (B.queue w),
    (∀ i < n, ∃ outcome, B.outcomeAfter maxAttempts i k w = .ok outcome ∧ outcome ≠ .idle) ∧
    B.outcomeAfter maxAttempts n k w = .ok .idle ∧
    B.queue (B.worldAfter maxAttempts n k w) = [] ∧
    ((settledMessages (B.logAfter maxAttempts n k w)).map OutboxMessage.reset).Perm
      ((B.queue w).map OutboxMessage.reset) ∧
    B.deadLetter (B.worldAfter maxAttempts n k w) =
      (parkedMessages (B.logAfter maxAttempts n k w)).foldl DeadLetter.put (B.deadLetter w)

/-- The worker runs the queue dry, and the drain loop ends. -/
structure Drains (w : W) : Prop where
  idle : B.RunsDry maxAttempts 0 w
  ends : ∀ batchSize, ∃ fuel handled, B.drain maxAttempts batchSize fuel 0 w = some handled

end QueueBackend

/-! ## The bound -/

/-- Counters that can be raised. -/
def Countable (queue : Outbox) : Prop := ∀ m ∈ queue, m.attempts < 2 ^ 32 - 1

section WorkerCall

variable {maxAttempts : Nat} {queue queue' : Outbox} {outcome : OutboxOutcome}
  {settled : List OutboxMessage}

theorem retried_attempts {message : OutboxMessage} (h : message.attempts < 2 ^ 32 - 1) :
    message.retried.attempts = message.attempts + 1 :=
  Nat.mod_eq_of_lt (show message.attempts + 1 < 2 ^ 32 by omega)

theorem one_le_turnsLeft (maxAttempts : Nat) (message : OutboxMessage) : 1 ≤ turnsLeft maxAttempts message :=
  le_max_left _ _

/-- A failure that leaves a message in the queue costs it a turn. -/
theorem turnsLeft_retried {message : OutboxMessage} (hm : message.attempts < 2 ^ 32 - 1)
    (h : message.retried.attempts ≤ maxAttempts) :
    turnsLeft maxAttempts message.retried + 1 = turnsLeft maxAttempts message := by
  rw [retried_attempts hm] at h
  unfold turnsLeft
  rw [retried_attempts hm]
  omega

theorem budget_cons (message : OutboxMessage) (rest : Outbox) :
    budget maxAttempts (message :: rest) =
      turnsLeft maxAttempts message + budget maxAttempts rest := by
  rw [budget, List.map_cons, List.sum_cons]
  rfl

theorem budget_concat (message : OutboxMessage) (rest : Outbox) :
    budget maxAttempts (rest ++ [message]) =
      budget maxAttempts rest + turnsLeft maxAttempts message := by
  rw [budget, List.map_append, List.sum_append, List.map_singleton, List.sum_singleton]
  rfl

theorem WorkerCall.queue_eq (h : WorkerCall maxAttempts queue .idle settled queue') :
    queue = [] ∧ settled = [] ∧ queue' = [] := by
  cases h with
  | idle => exact ⟨rfl, rfl, rfl⟩

theorem WorkerCall.idle_of_nil (h : WorkerCall maxAttempts [] outcome settled queue') : outcome = .idle := by
  cases h with
  | idle => rfl

/-- **A turn costs a turn.** -/
theorem WorkerCall.budget_lt (h : WorkerCall maxAttempts queue outcome settled queue')
    (hq : Countable queue) (ho : outcome ≠ .idle) :
    budget maxAttempts queue' + 1 ≤ budget maxAttempts queue := by
  cases h with
  | idle => exact absurd rfl ho
  | delivered message rest =>
      have := one_le_turnsLeft maxAttempts message
      rw [budget_cons]
      omega
  | deadLettered message rest _ =>
      have := one_le_turnsLeft maxAttempts message
      rw [budget_cons]
      omega
  | retrying message rest hleft =>
      have := turnsLeft_retried (hq message List.mem_cons_self) hleft
      rw [budget_cons, budget_concat]
      omega

theorem WorkerCall.countable (h : WorkerCall maxAttempts queue outcome settled queue')
    (hmax : maxAttempts < 2 ^ 32 - 1) (hq : Countable queue) : Countable queue' := by
  cases h with
  | idle => exact hq
  | delivered message rest => exact fun m hm => hq m (List.mem_cons_of_mem _ hm)
  | deadLettered message rest _ => exact fun m hm => hq m (List.mem_cons_of_mem _ hm)
  | retrying message rest hleft =>
      intro m hm
      rcases List.mem_append.mp hm with hm | hm
      · exact hq m (List.mem_cons_of_mem _ hm)
      · rw [List.mem_singleton.mp hm]
        exact hleft.trans_lt hmax

/-- What a turn settles and what it leaves is what it found. -/
theorem WorkerCall.perm (h : WorkerCall maxAttempts queue outcome settled queue') :
    ((settled ++ queue').map OutboxMessage.reset).Perm (queue.map OutboxMessage.reset) := by
  cases h with
  | idle => exact .refl _
  | delivered message rest => exact .refl _
  | deadLettered message rest _ => exact .refl _
  | retrying message rest _ =>
      rw [List.nil_append, List.map_append]
      exact List.perm_append_comm

end WorkerCall

namespace QueueBackend

variable {W : Type} {B : QueueBackend W} {maxAttempts : Nat}

/-- **The queue runs dry.**  By induction on the turns its messages have left. -/
theorem runsDry_of_countable (hmax : maxAttempts < 2 ^ 32 - 1) {k : Nat} {w : W}
    (hq : Countable (B.queue w)) : B.RunsDry maxAttempts k w := by
  induction hb : budget maxAttempts (B.queue w) using Nat.strong_induction_on generalizing k w with
  | _ b ih =>
      subst hb
      obtain ⟨outcome, hcall, hturn, hletters⟩ := B.call_turn maxAttempts k w
      by_cases ho : outcome = .idle
      · subst ho
        obtain ⟨hempty, -, -⟩ := hturn.queue_eq
        refine ⟨0, Nat.zero_le _, fun i hi => absurd hi i.not_lt_zero, hcall, hempty, ?_, rfl⟩
        rw [hempty]
        exact .refl _
      · have hlt := hturn.budget_lt hq ho
        obtain ⟨n, hn, hbusy, hidle, hempty, hperm, hparked⟩ :=
          ih _ (Nat.lt_of_succ_le hlt) (k := k + 1) (hturn.countable hmax hq) rfl
        refine ⟨n + 1, (Nat.succ_le_succ hn).trans hlt, fun i hi => ?_, hidle, hempty, ?_, ?_⟩
        · cases i with
          | zero => exact ⟨outcome, hcall, ho⟩
          | succ i => exact hbusy i (Nat.lt_of_succ_lt_succ hi)
        · have hrest := hperm.append_left
            ((settledMessages (B.callEvents maxAttempts k w)).map OutboxMessage.reset)
          rw [logAfter, settledMessages_append, List.map_append]
          refine hrest.trans ?_
          rw [← List.map_append]
          exact hturn.perm
        · rw [logAfter, parkedMessages_append, List.foldl_append, ← hletters]
          exact hparked

theorem processBatch_spec (hmax : maxAttempts < 2 ^ 32 - 1) (left : Nat) {k : Nat} {w : W}
    (hq : Countable (B.queue w)) :
    let r := B.processBatch maxAttempts left k w
    Countable (B.queue r.2.2) ∧
      r.1 + budget maxAttempts (B.queue r.2.2) ≤ budget maxAttempts (B.queue w) := by
  induction left generalizing k w with
  | zero => exact ⟨hq, (Nat.zero_add _).le⟩
  | succ left ih =>
      rw [processBatch]
      by_cases hempty : (B.queue w).length = 0
      · rw [if_pos hempty]
        exact ⟨hq, (Nat.zero_add _).le⟩
      · rw [if_neg hempty]
        obtain ⟨outcome, hcall, hturn, -⟩ := B.call_turn maxAttempts k w
        obtain ⟨hq', hle⟩ := ih (k := k + 1) (hturn.countable hmax hq)
        have hcost := hturn.budget_lt hq
        simp only [hcall]
        cases outcome with
        | idle => exact absurd (congrArg List.length hturn.queue_eq.1) hempty
        | delivered | retrying attempts | deadLettered =>
            have := hcost OutboxOutcome.noConfusion
            exact ⟨hq', by dsimp only; omega⟩

/-- Without a deadline the drain loop takes at most one round more than there are turns. -/
theorem drain_ends (hmax : maxAttempts < 2 ^ 32 - 1) (batchSize : Nat) {fuel k : Nat} {w : W}
    (hq : Countable (B.queue w)) (hfuel : budget maxAttempts (B.queue w) < fuel) :
    ∃ handled, B.drain maxAttempts batchSize fuel k w = some handled := by
  induction fuel generalizing k w with
  | zero => exact absurd hfuel (Nat.not_lt_zero _)
  | succ fuel ih =>
      obtain ⟨hq', hle⟩ := processBatch_spec (k := k) hmax batchSize hq
      rw [drain]
      by_cases hzero : (B.processBatch maxAttempts batchSize k w).1 = 0
      · exact ⟨0, if_pos hzero⟩
      · obtain ⟨handled, hrest⟩ := ih (k := (B.processBatch maxAttempts batchSize k w).2.1) hq'
          (by omega)
        refine ⟨_, (if_neg hzero).trans (congrArg _ hrest)⟩

theorem drains_of_empty {w : W} (hq : B.queue w = []) : B.Drains maxAttempts w := by
  obtain ⟨outcome, hcall, hturn, -⟩ := B.call_turn maxAttempts 0 w
  rw [hq] at hturn
  obtain rfl := hturn.idle_of_nil
  refine ⟨⟨0, Nat.zero_le _, fun i hi => absurd hi i.not_lt_zero, hcall, hq, ?_, rfl⟩,
    fun batchSize => ⟨1, 0, if_pos ?_⟩⟩
  · rw [hq]
    exact .refl _
  · cases batchSize with
    | zero => rfl
    | succ left =>
        rw [processBatch, hq]
        rfl

theorem drains_of_countable (hmax : maxAttempts < 2 ^ 32 - 1) {w : W}
    (hq : Countable (B.queue w)) : B.Drains maxAttempts w where
  idle := runsDry_of_countable hmax hq
  ends batchSize := ⟨_, drain_ends hmax batchSize hq (Nat.lt_succ_self _)⟩

end QueueBackend

/-! ## The largest count -/

/-- With the service down a call gives back what it claims, as no count exceeds the largest. -/
theorem call_down (k : Nat) {w : OutboxWorld} {message : OutboxMessage} {rest : Outbox}
    (hw : w.outbox = message :: rest) :
    (memoryBackend deliveryDown).call u32Max k w =
      (.ok (.retrying message.retried.attempts),
        ⟨rest ++ [message.retried], w.deadLetter, w.clock + 3⟩) := by
  obtain ⟨outbox, deadLetter, clock⟩ := w
  obtain rfl : outbox = message :: rest := hw
  have hmax : ¬ u32Max < message.retried.attempts := by
    have hlt : message.retried.attempts < 2 ^ 32 := Nat.mod_lt _ (by decide)
    unfold u32Max
    omega
  unfold QueueBackend.call
  rw [process_run]
  show Prog.run _ (if u32Max < message.retried.attempts then _ else _) _ = _
  rw [if_neg hmax]
  rfl

/-- So no call is ever idle. -/
theorem never_idle (n k : Nat) {w : OutboxWorld} (hw : w.outbox ≠ []) :
    (memoryBackend deliveryDown).outcomeAfter u32Max n k w ≠ .ok .idle := by
  induction n generalizing k w with
  | zero =>
      obtain ⟨message, rest, hqueue⟩ := List.exists_cons_of_ne_nil hw
      show ((memoryBackend deliveryDown).call u32Max k w).1 ≠ _
      rw [call_down k hqueue]
      exact fun h => OutboxOutcome.noConfusion (Except.ok.inj h)
  | succ n ih =>
      obtain ⟨message, rest, hqueue⟩ := List.exists_cons_of_ne_nil hw
      show (memoryBackend deliveryDown).outcomeAfter u32Max n (k + 1)
        ((memoryBackend deliveryDown).call u32Max k w).2 ≠ _
      rw [call_down k hqueue]
      exact ih (k + 1) (List.append_ne_nil_of_right_ne_nil _ (List.cons_ne_nil _ _))

/-- **The outbox runs dry unless its counter is too small.**  With the queue in memory and with
the file-backed one, for every sequence of deliveries, the worker runs a queue dry within the
turns its messages have, if and only if the number of attempts allowed can be exceeded or there
is no message. -/
theorem outbox_drains_iff {maxAttempts : Nat} (hu32 : maxAttempts < 2 ^ 32) {queue : Outbox}
    (hqueue : ∀ m ∈ queue, m.attempts < 2 ^ 32 - 1) :
    ((∀ deliverer w, w.outbox = queue → (memoryBackend deliverer).Drains maxAttempts w) ∧
      ∀ json env w, w.mem .outbox = queue → (fileBackend json env).Drains maxAttempts w) ↔
    maxAttempts < 2 ^ 32 - 1 ∨ queue = [] := by
  constructor
  · rintro ⟨hmemory, -⟩
    by_contra hnot
    obtain ⟨hmax, hne⟩ := not_or.mp hnot
    obtain rfl : maxAttempts = u32Max := by
      unfold u32Max
      omega
    obtain ⟨n, -, -, hidle, -⟩ := (hmemory deliveryDown ⟨queue, ∅, 0⟩ rfl).idle
    exact never_idle n 0 hne hidle
  · rintro (hmax | rfl)
    · constructor
      · rintro deliverer w rfl
        exact QueueBackend.drains_of_countable hmax hqueue
      · rintro json env w rfl
        exact QueueBackend.drains_of_countable hmax hqueue
    · exact ⟨fun deliverer w hw => QueueBackend.drains_of_empty hw,
        fun json env w hw => QueueBackend.drains_of_empty hw⟩

namespace Sample

/-- A fresh message, one that has been tried before, and one past its budget. -/
def backlog : Outbox :=
  [notice, { notice with id := "msg_2", attempts := 3 }, { notice with id := "msg_3", attempts := 9 }]

/-- A message with one attempt left below the largest count. -/
def worn : OutboxMessage := { notice with attempts := 2 ^ 32 - 2 }

end Sample

open Sample in
theorem outbox_drains_iff_backlog :
    5 < 2 ^ 32 ∧ (∀ m ∈ backlog, m.attempts < 2 ^ 32 - 1) ∧
    (memoryBackend restart).Drains 5 ⟨backlog, ∅, 0⟩ := by
  have hbacklog : ∀ m ∈ backlog, m.attempts < 2 ^ 32 - 1 := by decide
  exact ⟨by decide, hbacklog,
    ((outbox_drains_iff (by decide) hbacklog).mpr (Or.inl (by decide))).1 restart _ rfl⟩

open Sample in
/-- Two calls should do; but no number of failures exceeds the largest count. -/
theorem worn_never_settled :
    budget u32Max [worn] = 2 ∧ worn.attempts < 2 ^ 32 - 1 ∧
      ¬ (memoryBackend deliveryDown).Drains u32Max ⟨[worn], ∅, 0⟩ := by
  refine ⟨by decide, by decide, fun h => ?_⟩
  obtain ⟨n, -, -, hidle, -⟩ := h.idle
  exact never_idle n 0 (List.cons_ne_nil _ _) hidle

end Orchestrator
