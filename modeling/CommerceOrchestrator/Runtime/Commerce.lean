/-
# `CommerceOrchestrator.Runtime.Commerce` — carts, checkouts and outbox workers together

The calls of `Interleaving` and the workers of `Outbox` over one world: a checkout
enqueues its message in the queue the workers empty, and what they give up on
goes to the dead letters, from where an operator replays it.  Every operation of
every store may fail, before or after its effect.
-/
import CommerceOrchestrator.Effect.Sum
import CommerceOrchestrator.Runtime.Interleaving
import CommerceOrchestrator.Runtime.Outbox

namespace Orchestrator

open Effect Prog

/-! ## World and environment -/

structure CommerceWorld where
  base : World
  deadLetter : DeadLetter

/-- Nothing stored, nothing done. -/
def CommerceWorld.empty : CommerceWorld := ⟨World.empty, ∅⟩

structure CommerceEnv where
  env : Env
  outboxFault : (n : Nat) → OutboxOp → Option StoreError
  deliver : Deliverer

abbrev CommerceAns := SumAns Op.Ans OutboxOp.Ans

namespace CommerceWorld

variable (w : CommerceWorld)

def tick : CommerceWorld := { w with base := w.base.tick }

def withOutbox (outbox : Outbox) : CommerceWorld := { w with base := { w.base with outbox } }

/-- A method of a message store, which may fail before or after its effect. -/
def attempt {α : Type} (fault : Option StoreError) (answered : α × CommerceWorld) :
    Except StoreError α × CommerceWorld :=
  match fault with
  | none => (.ok answered.1, answered.2.tick)
  | some e => (.error e, (if e.tookEffect then answered.2 else w).tick)

/-- The message is in the queue or among the dead letters. -/
def Keeps (m : OutboxMessage) : Prop :=
  m ∈ w.base.outbox ∨ ∃ id, w.deadLetter.lookup id = some m

end CommerceWorld

namespace CommerceEnv

variable (env : CommerceEnv)

def handleOutbox : Handler OutboxOp.Ans CommerceWorld := fun o w =>
  let fault := env.outboxFault w.base.clock o
  match o with
  | .claim => w.attempt fault (w.base.outbox.dequeue.1, w.withOutbox w.base.outbox.dequeue.2)
  | .deliver message => (env.deliver w.base.clock message, w.tick)
  | .ack _ => w.attempt fault ((), w)
  | .release message => w.attempt fault ((), w.withOutbox (w.base.outbox.enqueue message))
  | .enqueue message => w.attempt fault ((), w.withOutbox (w.base.outbox.enqueue message))
  | .putDeadLetter message =>
      w.attempt fault ((), { w with deadLetter := w.deadLetter.put message })
  | .takeDeadLetter messageId =>
      w.attempt fault ((w.deadLetter.take messageId).1,
        { w with deadLetter := (w.deadLetter.take messageId).2 })

def handle : Handler CommerceAns CommerceWorld := fun o w =>
  match o with
  | .inl o => ((env.env.handle o w.base).1, { w with base := (env.env.handle o w.base).2 })
  | .inr o => env.handleOutbox o w

end CommerceEnv

/-! ## Calls -/

/-- What can be going on: a call of the runner, one pass over the outbox, one replay. -/
inductive CommerceCall
  | runner (call : Call)
  | process (maxAttempts : Nat)
  | replay (messageId : String)

inductive CommerceReport
  | runner (out : Outcome)
  | outbox (report : OutboxReport)

def CommerceCall.prog (runner : Runner) : CommerceCall → Prog CommerceAns CommerceReport
  | .runner call => CommerceReport.runner <$> (call.prog runner).inl
  | .process maxAttempts => CommerceReport.outbox <$> (OutboxCall.process maxAttempts).prog.inr
  | .replay messageId => CommerceReport.outbox <$> (OutboxCall.replay messageId).prog.inr

abbrev CommercePool := Pool CommerceAns CommerceWorld CommerceReport

abbrev CommerceEntry := Entry CommerceAns CommerceReport

/-- Calls on empty stores, their operations in the order of the schedule `ts`. -/
def CommerceEnv.run (env : CommerceEnv) (runner : Runner) (calls : List CommerceCall)
    (ts : List Nat) : CommercePool :=
  Pool.run env.handle.shared ts (Pool.start CommerceWorld.empty (calls.map (·.prog runner)))

/-! ## What a message operation does -/

section Messages

variable {env : CommerceEnv} {w : CommerceWorld} {o : OutboxOp} {m : OutboxMessage}

theorem attempt_world {α : Type} {fault : Option StoreError} {answered : α × CommerceWorld} :
    (w.attempt fault answered).2 = answered.2.tick ∨ (w.attempt fault answered).2 = w.tick := by
  unfold CommerceWorld.attempt
  cases fault with
  | none => exact Or.inl rfl
  | some e =>
      cases htook : e.tookEffect with
      | true => exact Or.inl (by simp [htook])
      | false => exact Or.inr (by simp [htook])

theorem attempt_ok {α : Type} {fault : Option StoreError} {answered : α × CommerceWorld} {a : α}
    (h : (w.attempt fault answered).1 = .ok a) : answered.1 = a := by
  unfold CommerceWorld.attempt at h
  cases fault with
  | none => exact Except.ok.inj h
  | some e => cases h

/-- The world after a message operation: its effect has happened or has not. -/
theorem handleOutbox_world {P : CommerceWorld → Prop} (hw : P w.tick)
    (hclaim : o = .claim → P (w.withOutbox w.base.outbox.tail).tick)
    (henqueue : ∀ m, o = .release m ∨ o = .enqueue m →
      P (w.withOutbox (w.base.outbox.enqueue m)).tick)
    (hput : ∀ m, o = .putDeadLetter m →
      P { w with deadLetter := w.deadLetter.put m }.tick)
    (htake : ∀ id, o = .takeDeadLetter id →
      P { w with deadLetter := w.deadLetter.erase id }.tick) :
    P (env.handleOutbox o w).2 := by
  have hattempt : ∀ {α : Type} {fault : Option StoreError} {answered : α × CommerceWorld},
      P answered.2.tick → P (w.attempt fault answered).2 := by
    intro α fault answered hdone
    have hworld : (w.attempt fault answered).2 = answered.2.tick ∨
        (w.attempt fault answered).2 = w.tick := attempt_world
    rcases hworld with h | h
    · rw [h]
      exact hdone
    · rw [h]
      exact hw
  cases o with
  | claim => exact hattempt (hclaim rfl)
  | deliver m => exact hw
  | ack id => exact hattempt hw
  | release m => exact hattempt (henqueue m (Or.inl rfl))
  | enqueue m => exact hattempt (henqueue m (Or.inr rfl))
  | putDeadLetter m => exact hattempt (hput m rfl)
  | takeDeadLetter id => exact hattempt (htake id rfl)

/-- A message that is kept after an operation was kept before, or is the operation's own. -/
theorem keeps_handleOutbox (h : (env.handleOutbox o w).2.Keeps m) :
    w.Keeps m ∨ o = .release m ∨ o = .enqueue m ∨ o = .putDeadLetter m := by
  refine handleOutbox_world (o := o) (w := w)
    (P := fun v => v.Keeps m → w.Keeps m ∨ o = .release m ∨ o = .enqueue m ∨ o = .putDeadLetter m)
    Or.inl ?_ ?_ ?_ ?_ h
  · rintro - (hqueue | hdead)
    · exact Or.inl (Or.inl (List.mem_of_mem_tail hqueue))
    · exact Or.inl (Or.inr hdead)
  · rintro m' ho (hqueue | hdead)
    · rcases List.mem_append.mp hqueue with hold | hnew
      · exact Or.inl (Or.inl hold)
      · obtain rfl := List.mem_singleton.mp hnew
        exact Or.inr (ho.imp_right Or.inl)
    · exact Or.inl (Or.inr hdead)
  · rintro m' ho (hqueue | ⟨id, hdead⟩)
    · exact Or.inl (Or.inl hqueue)
    · have hdead : (w.deadLetter.insert m'.id m').lookup id = some m := hdead
      rw [Table.lookup_insert_ite] at hdead
      split at hdead
      · cases hdead
        exact Or.inr (Or.inr (Or.inr ho))
      · exact Or.inl (Or.inr ⟨id, hdead⟩)
  · rintro id ho (hqueue | ⟨id', hdead⟩)
    · exact Or.inl (Or.inl hqueue)
    · have hdead : (w.deadLetter.erase id).lookup id' = some m := hdead
      rw [Table.lookup_erase_ite] at hdead
      split at hdead
      · cases hdead
      · exact Or.inl (Or.inr ⟨id', hdead⟩)

/-- The operation hands the message out. -/
def HandsOut (m : OutboxMessage) : Event OutboxOp.Ans → Prop
  | ⟨.claim, .ok (some m')⟩ => m' = m
  | ⟨.takeDeadLetter _, .ok (some m')⟩ => m' = m
  | _ => False

/-- Only a message that is kept is handed out. -/
theorem HandsOut.kept (h : HandsOut m ⟨o, (env.handleOutbox o w).1⟩) : w.Keeps m := by
  cases o with
  | claim =>
      cases hx : (env.handleOutbox .claim w).1 with
      | error e =>
          rw [hx] at h
          cases h
      | ok found =>
          rw [hx] at h
          cases found with
          | none => cases h
          | some m' =>
              obtain rfl : m' = m := h
              exact Or.inl (List.mem_of_head? (attempt_ok hx))
  | takeDeadLetter id =>
      cases hx : (env.handleOutbox (.takeDeadLetter id) w).1 with
      | error e =>
          rw [hx] at h
          cases h
      | ok found =>
          rw [hx] at h
          cases found with
          | none => cases h
          | some m' =>
              obtain rfl : m' = m := h
              exact Or.inr ⟨id, attempt_ok hx⟩
  | _ => cases h

/-- Message operations leave the rest of the world as it is. -/
theorem handleOutbox_frame {β : Type} (f : World → β)
    (hf : ∀ w outbox, f ({ w with outbox } : World) = f w) (htick : ∀ w, f w.tick = f w) :
    f (env.handleOutbox o w).2.base = f w.base := by
  refine handleOutbox_world (o := o) (w := w) (P := fun v => f v.base = f w.base)
    (htick _) (fun _ => ?_) (fun m _ => ?_) (fun _ _ => htick _) (fun _ _ => htick _)
  · exact (htick _).trans (hf _ _)
  · exact (htick _).trans (hf _ _)

theorem handleOutbox_clock : (env.handleOutbox o w).2.base.clock = w.base.clock + 1 :=
  handleOutbox_world (P := fun v => v.base.clock = w.base.clock + 1) rfl (fun _ => rfl)
    (fun _ _ => rfl) (fun _ _ => rfl) (fun _ _ => rfl)

end Messages

end Orchestrator
