/-
# `CommerceOrchestrator.Persistence.ReplayFaults` — a dead letter replayed while stores fail

`replay_from_dead_letter` takes a message out of one store and puts it into another.  A
`FaultyStores` says of each operation whether it fails, and a failure whether the operation
took effect all the same.  In memory nothing fails, a file-backed method takes effect before its
save fails, and a statement of the database may be refused or its answer lost.
`replay_keeps_iff` says, of each, which failures lose no message.
-/
import CommerceOrchestrator.Persistence.Draining
import CommerceOrchestrator.Persistence.PostgresOutbox
import CommerceOrchestrator.Persistence.SaveFailures

namespace Orchestrator

open Effect Prog

/-! ## What is kept -/

/-- The message is in the queue, whatever its attempts. -/
def InOutbox (queue : Outbox) (message : OutboxMessage) : Prop :=
  ∃ queued ∈ queue, queued.reset = message.reset

/-- The outbox and dead-letter stores, and what fails. -/
structure FaultyStores (W : Type) where
  handle : Handler OutboxOp.Ans W
  queue : W → Outbox
  deadLetter : W → DeadLetter
  fault : OutboxOp → Option StoreError
  /-- A take that does not fail answers what it finds. -/
  take_answer : ∀ id w m, (deadLetter w).lookup id = some m →
    (handle (.takeDeadLetter id) w).1 = (fault (.takeDeadLetter id)).elim (.ok (some m)) .error
  take_letters : ∀ id w m, (deadLetter w).lookup id = some m →
    (deadLetter (handle (.takeDeadLetter id) w).2).lookup id =
      if (fault (.takeDeadLetter id)).elim true StoreError.tookEffect then none else some m
  take_queue : ∀ id w, queue (handle (.takeDeadLetter id) w).2 = queue w
  enqueue_answer : ∀ m w, (handle (.enqueue m) w).1 = (fault (.enqueue m)).elim (.ok ()) .error
  enqueue_letters : ∀ m w, deadLetter (handle (.enqueue m) w).2 = deadLetter w
  enqueue_mem : ∀ m w, (fault (.enqueue m)).elim true StoreError.tookEffect = true →
    m ∈ queue (handle (.enqueue m) w).2
  enqueue_refused : ∀ m w, (fault (.enqueue m)).elim true StoreError.tookEffect = false →
    queue (handle (.enqueue m) w).2 = queue w

namespace FaultyStores

variable {W : Type} (S : FaultyStores W)

def replay (messageId : String) (w : W) : Except StoreError Bool × W :=
  (replayFromDeadLetter messageId).run.run S.handle w

/-- The message is a dead letter of the id, or in the outbox. -/
def Kept (messageId : String) (message : OutboxMessage) (w : W) : Prop :=
  (S.deadLetter w).lookup messageId = some message ∨ InOutbox (S.queue w) message

/-- If the replay fails, a dead letter of the id is a dead letter still, or in the outbox. -/
def KeepsOnError (messageId : String) (w : W) : Prop :=
  ∀ e, (S.replay messageId w).1 = .error e →
    ∀ message, (S.deadLetter w).lookup messageId = some message →
      S.Kept messageId message (S.replay messageId w).2

/-- The failures of a replay of the message that lose nothing: a take that fails does nothing,
and where it does not fail an enqueue that does takes effect. -/
def Harmless (messageId : String) (message : OutboxMessage) : Prop :=
  (∀ e, S.fault (.takeDeadLetter messageId) = some e → e.tookEffect = false) ∧
    (S.fault (.takeDeadLetter messageId) = none →
      ∀ e, S.fault (.enqueue message.reset) = some e → e.tookEffect = true)

variable {S} {messageId : String} {w : W} {message : OutboxMessage}

/-- What is left of a replay that has taken. -/
def afterTake : Except StoreError (Option OutboxMessage) →
    Prog OutboxOp.Ans (Except StoreError Bool)
  | .ok (some message) => .op (.enqueue message.reset) fun r => .ret (r.map fun _ => true)
  | .ok none => .ret (.ok false)
  | .error e => .ret (.error e)

theorem replay_prog (messageId : String) :
    (replayFromDeadLetter messageId).run = .op (.takeDeadLetter messageId) afterTake := by
  refine congrArg (Prog.op _) (funext fun taken => ?_)
  cases taken with
  | error e => rfl
  | ok taken =>
      cases taken with
      | none => rfl
      | some message =>
          refine congrArg (Prog.op _) (funext fun enqueued => ?_)
          cases enqueued with
          | error e => rfl
          | ok _ => rfl

theorem replay_of_take_error {e : StoreError}
    (hanswer : (S.handle (.takeDeadLetter messageId) w).1 = .error e) :
    S.replay messageId w = (.error e, (S.handle (.takeDeadLetter messageId) w).2) := by
  unfold replay
  rw [replay_prog]
  simp only [Prog.run, hanswer, afterTake]

theorem replay_of_take_ok
    (hanswer : (S.handle (.takeDeadLetter messageId) w).1 = .ok (some message)) :
    S.replay messageId w =
      ((S.handle (.enqueue message.reset) (S.handle (.takeDeadLetter messageId) w).2).1.map
          fun _ => true,
        (S.handle (.enqueue message.reset) (S.handle (.takeDeadLetter messageId) w).2).2) := by
  unfold replay
  rw [replay_prog]
  simp only [Prog.run, hanswer, afterTake]

/-- A take that fails keeps the message if it does nothing. -/
theorem kept_of_take_error {e : StoreError} (htake : S.fault (.takeDeadLetter messageId) = some e)
    (hletter : (S.deadLetter w).lookup messageId = some message) :
    S.Kept messageId message (S.replay messageId w).2 ↔
      InOutbox (S.queue w) message ∨ e.tookEffect = false := by
  have hanswer := S.take_answer messageId w message hletter
  have hletters := S.take_letters messageId w message hletter
  rw [htake, Option.elim_some] at hanswer hletters
  unfold Kept
  rw [replay_of_take_error hanswer, hletters, S.take_queue, or_comm]
  refine or_congr_right ?_
  cases e.tookEffect with
  | true => exact iff_of_false (Option.some_ne_none _).symm Bool.noConfusion
  | false => exact iff_of_true rfl rfl

/-- A take that does not fail leaves it to the enqueue. -/
theorem kept_of_take_ok {e : StoreError} (htake : S.fault (.takeDeadLetter messageId) = none)
    (henqueue : S.fault (.enqueue message.reset) = some e)
    (hletter : (S.deadLetter w).lookup messageId = some message) :
    S.Kept messageId message (S.replay messageId w).2 ↔
      InOutbox (S.queue w) message ∨ e.tookEffect = true := by
  have hanswer := S.take_answer messageId w message hletter
  have hletters := S.take_letters messageId w message hletter
  have hmem := S.enqueue_mem message.reset (S.handle (.takeDeadLetter messageId) w).2
  have hrefused := S.enqueue_refused message.reset (S.handle (.takeDeadLetter messageId) w).2
  rw [htake, Option.elim_none] at hanswer hletters
  rw [henqueue, Option.elim_some] at hmem hrefused
  unfold Kept
  rw [replay_of_take_ok hanswer, S.enqueue_letters, hletters, if_pos rfl]
  rw [or_iff_right (Option.some_ne_none _).symm]
  cases heffect : e.tookEffect with
  | true => exact iff_of_true ⟨_, hmem heffect, rfl⟩ (Or.inr rfl)
  | false =>
      rw [hrefused heffect, S.take_queue]
      exact (or_iff_left Bool.noConfusion).symm

/-- The replay of a dead letter fails as the take does, or else as the enqueue. -/
theorem replay_error {e : StoreError}
    (hletter : (S.deadLetter w).lookup messageId = some message) :
    (S.replay messageId w).1 = .error e ↔
      S.fault (.takeDeadLetter messageId) = some e ∨
        S.fault (.takeDeadLetter messageId) = none ∧ S.fault (.enqueue message.reset) = some e := by
  have hanswer := S.take_answer messageId w message hletter
  cases htake : S.fault (.takeDeadLetter messageId) with
  | some e' =>
      rw [htake, Option.elim_some] at hanswer
      rw [replay_of_take_error hanswer]
      simp
  | none =>
      rw [htake, Option.elim_none] at hanswer
      rw [replay_of_take_ok hanswer, S.enqueue_answer]
      cases S.fault (.enqueue message.reset) with
      | some e' => simp [Except.map]
      | none => simp [Except.map]

/-- **A replay keeps its message on error** if and only if the failures are harmless, or there is
a copy in the outbox. -/
theorem keepsOnError_iff (messageId : String) (w : W) :
    S.KeepsOnError messageId w ↔
      ∀ message, (S.deadLetter w).lookup messageId = some message →
        InOutbox (S.queue w) message ∨ S.Harmless messageId message := by
  constructor
  · intro h message hletter
    refine or_iff_not_imp_left.mpr fun hqueue => ⟨fun e htake => ?_, fun htake e henqueue => ?_⟩
    · have hkept := h e ((replay_error hletter).mpr (Or.inl htake)) message hletter
      exact ((kept_of_take_error htake hletter).mp hkept).resolve_left hqueue
    · have hkept := h e ((replay_error hletter).mpr (Or.inr ⟨htake, henqueue⟩)) message hletter
      exact ((kept_of_take_ok htake henqueue hletter).mp hkept).resolve_left hqueue
  · intro h e he message hletter
    have hharmless := h message hletter
    rcases (replay_error hletter).mp he with htake | ⟨htake, henqueue⟩
    · exact (kept_of_take_error htake hletter).mpr (hharmless.imp_right fun hh => hh.1 e htake)
    · refine (kept_of_take_ok htake henqueue hletter).mpr (hharmless.imp_right fun hh => ?_)
      exact hh.2 htake e henqueue

end FaultyStores

/-! ## The stores in memory -/

def memoryStores (deliverer : Deliverer) : FaultyStores OutboxWorld where
  handle := memoryHandle deliverer
  queue := OutboxWorld.outbox
  deadLetter := OutboxWorld.deadLetter
  fault _ := none
  take_answer _ _ _ hletter := congrArg Except.ok hletter
  take_letters _ _ _ _ := AList.lookup_erase _ _
  take_queue _ _ := rfl
  enqueue_answer _ _ := rfl
  enqueue_letters _ _ := rfl
  enqueue_mem _ _ _ := List.mem_append_right _ List.mem_cons_self
  enqueue_refused _ _ h := Bool.noConfusion h

/-! ## The file-backed stores -/

/-- What the file-backed stores have in memory. -/
abbrev FileMemory := (f : StoreFile) → f.Value

/-- A method of the file-backed stores; `saveFails` says which files cannot be saved. -/
def FileMemory.call (saveFails : StoreFile → Option String) (now : Int) (c : StoreCall)
    (mem : FileMemory) : Except StoreError c.Ans × FileMemory :=
  let r := (FileCall.store c).run (saveFails c.file) now (mem c.file)
  (r.1, Function.update mem c.file r.2)

def FileMemory.handle (saveFails : StoreFile → Option String) (now : Int)
    (deliver : OutboxMessage → Except String Unit) : Handler OutboxOp.Ans FileMemory
  | .claim, mem => mem.call saveFails now .outboxClaim
  | .deliver message, mem => (deliver message, mem)
  | .ack messageId, mem => mem.call saveFails now (.outboxAck messageId)
  | .release message, mem => mem.call saveFails now (.outboxRelease message)
  | .enqueue message, mem => mem.call saveFails now (.enqueue message)
  | .putDeadLetter message, mem => mem.call saveFails now (.putDeadLetter message)
  | .takeDeadLetter messageId, mem => mem.call saveFails now (.takeDeadLetter messageId)

/-- The file an operation saves. -/
def OutboxOp.file : OutboxOp → StoreFile
  | .putDeadLetter _ | .takeDeadLetter _ => .deadLetter
  | _ => .outbox

section Saves

variable {saveFails : StoreFile → Option String} {now : Int} {mem : FileMemory} {c : StoreCall}
  {a : c.Ans} {v : c.file.Value}

/-- A save that fails is a failure of an operation that took effect. -/
def saveFault (failure : Option String) : Option StoreError :=
  failure.map fun message => ⟨message, true⟩

theorem FileCall.run_saving {failure : Option String} {v' : c.file.Value}
    (henter : c.enter now v = .saving a v') (hreports : (FileCall.store c).reportsFailure = true) :
    (FileCall.store c).run failure now v = ((saveFault failure).elim (.ok a) .error, v') := by
  unfold run
  rw [hreports]
  change (FileCall.store c).enter now v = .saving a v' at henter
  rw [henter]
  cases failure with
  | none => rfl
  | some message => rfl

/-- A call that saves answers what its save does, and its value is the new one in any case. -/
theorem FileMemory.call_saving (henter : c.enter now (mem c.file) = .saving a v)
    (hreports : (FileCall.store c).reportsFailure = true) :
    (mem.call saveFails now c).1 = (saveFault (saveFails c.file)).elim (.ok a) .error ∧
      (mem.call saveFails now c).2 c.file = v := by
  unfold call
  rw [FileCall.run_saving henter hreports]
  exact ⟨rfl, Function.update_self _ _ _⟩

theorem FileMemory.call_other {f : StoreFile} (hf : f ≠ c.file) :
    (mem.call saveFails now c).2 f = mem f :=
  Function.update_of_ne hf _ _

end Saves

theorem take_saving {records : Table String OutboxMessage} {messageId : String}
    {message : OutboxMessage} (hletter : records.lookup messageId = some message) :
    FileBackedDeadLetterStore.take messageId records =
      .saving (some message) (records.erase messageId) := by
  unfold FileBackedDeadLetterStore.take
  rw [hletter]

theorem saveFault_elim (failure : Option String) :
    (saveFault failure).elim true StoreError.tookEffect = true := by
  cases failure with
  | none => rfl
  | some message => rfl

def fileStores (saveFails : StoreFile → Option String) (now : Int)
    (deliver : OutboxMessage → Except String Unit) : FaultyStores FileMemory where
  handle := FileMemory.handle saveFails now deliver
  queue mem := mem .outbox
  deadLetter mem := mem .deadLetter
  fault o := saveFault (saveFails o.file)
  take_answer id _ _ hletter :=
    (FileMemory.call_saving (c := .takeDeadLetter id) (take_saving hletter) rfl).1
  take_letters id mem m hletter := by
    have hvalue : (mem.call saveFails now (.takeDeadLetter id)).2 .deadLetter =
        AList.erase id (mem .deadLetter) :=
      (FileMemory.call_saving (c := .takeDeadLetter id) (take_saving hletter) rfl).2
    show AList.lookup id ((mem.call saveFails now (.takeDeadLetter id)).2 .deadLetter) = _
    rw [hvalue, AList.lookup_erase]
    exact (if_pos (saveFault_elim _)).symm
  take_queue id _ := FileMemory.call_other (c := .takeDeadLetter id) StoreFile.noConfusion
  enqueue_answer m _ := (FileMemory.call_saving (c := .enqueue m) rfl rfl).1
  enqueue_letters m _ := FileMemory.call_other (c := .enqueue m) StoreFile.noConfusion
  enqueue_mem m mem _ := by
    have hvalue : (mem.call saveFails now (.enqueue m)).2 .outbox = mem .outbox ++ [m] :=
      (FileMemory.call_saving (c := .enqueue m) rfl rfl).2
    show m ∈ (mem.call saveFails now (.enqueue m)).2 .outbox
    rw [hvalue]
    exact List.mem_append_right _ List.mem_cons_self
  enqueue_refused m _ h := absurd ((saveFault_elim _).symm.trans h) Bool.noConfusion

/-- Only a take whose save fails does harm: an enqueue has taken effect. -/
theorem file_harmless {saveFails : StoreFile → Option String} {now : Int}
    {deliver : OutboxMessage → Except String Unit} {messageId : String} {message : OutboxMessage} :
    (fileStores saveFails now deliver).Harmless messageId message ↔
      saveFails .deadLetter = none := by
  constructor
  · intro h
    cases hfails : saveFails .deadLetter with
    | none => rfl
    | some text =>
        have hfault : (fileStores saveFails now deliver).fault (.takeDeadLetter messageId) =
            some ⟨text, true⟩ := congrArg saveFault hfails
        exact Bool.noConfusion (h.1 _ hfault)
  · intro h
    have hfault : (fileStores saveFails now deliver).fault (.takeDeadLetter messageId) = none :=
      congrArg saveFault h
    refine ⟨fun e he => ?_, fun _ e he => ?_⟩
    · rw [hfault] at he
      cases he
    · obtain ⟨text, -, rfl⟩ := Option.map_eq_some_iff.mp he
      rfl

/-! ## The database -/

/-- What a statement that may fail answers. -/
abbrev OutboxStatement.Reply : OutboxStatement → Type
  | .lease | .deleteDeadLetter _ => Except StoreError (Option OutboxMessage)
  | .deliver _ => Except String Unit
  | .delete _ | .upsert _ | .upsertDeadLetter _ => Except StoreError Unit
  | .update _ => Except StoreError Nat

/-- `onPostgres`, where a method ends with the statement that fails. -/
def OutboxOp.tryPostgres : (o : OutboxOp) → Prog OutboxStatement.Reply o.Ans
  | .claim => perform OutboxStatement.lease
  | .deliver message => perform (OutboxStatement.deliver message)
  | .ack messageId => perform (OutboxStatement.delete messageId)
  | .release message => ExceptT.run (m := Prog OutboxStatement.Reply) do
      let rowsAffected : Nat ← ExceptT.mk (perform (OutboxStatement.update message))
      if rowsAffected = 0 then
        ExceptT.mk (perform (OutboxStatement.upsert message))
  | .enqueue message => perform (OutboxStatement.upsert message)
  | .putDeadLetter message => perform (OutboxStatement.upsertDeadLetter message)
  | .takeDeadLetter messageId => perform (OutboxStatement.deleteDeadLetter messageId)

/-- A statement that is to answer `r`, and may fail.  It is refused, or carried out and its
answer lost or, with a row that cannot be decoded, of no use. -/
def tryStatement {α : Type} (fault : Option StoreError) (w : OutboxDb) (r : α × OutboxDb) :
    Except StoreError α × OutboxDb :=
  match fault with
  | none => (.ok r.1, r.2)
  | some e => (.error e, if e.tookEffect then r.2 else w)

def OutboxEnv.tryHandle (env : OutboxEnv) (fault : OutboxStatement → Option StoreError) :
    Handler OutboxStatement.Reply OutboxDb
  | .lease, w => tryStatement (fault .lease) w (env.handle .lease w)
  | .deliver message, w => env.handle (.deliver message) w
  | .delete id, w => tryStatement (fault (.delete id)) w (env.handle (.delete id) w)
  | .update m, w => tryStatement (fault (.update m)) w (env.handle (.update m) w)
  | .upsert m, w => tryStatement (fault (.upsert m)) w (env.handle (.upsert m) w)
  | .upsertDeadLetter m, w =>
      tryStatement (fault (.upsertDeadLetter m)) w (env.handle (.upsertDeadLetter m) w)
  | .deleteDeadLetter id, w =>
      tryStatement (fault (.deleteDeadLetter id)) w (env.handle (.deleteDeadLetter id) w)

section Attempts

variable {α : Type} {fault : Option StoreError} {w : OutboxDb} {r : α × OutboxDb}

theorem tryStatement_answer : (tryStatement fault w r).1 = fault.elim (.ok r.1) .error := by
  cases fault with
  | none => rfl
  | some e => rfl

theorem tryStatement_world :
    (tryStatement fault w r).2 = if fault.elim true StoreError.tookEffect then r.2 else w := by
  cases fault with
  | none => rfl
  | some e => rfl

end Attempts

def postgresStores (env : OutboxEnv) (fault : OutboxStatement → Option StoreError) :
    FaultyStores OutboxDb where
  handle o w := o.tryPostgres.run (env.tryHandle fault) w
  queue w := w.outbox.messages
  deadLetter := OutboxDb.deadLetter
  fault
    | .takeDeadLetter id => fault (.deleteDeadLetter id)
    | .enqueue m => fault (.upsert m)
    | _ => none
  take_answer id w m hletter := by
    show (tryStatement (fault (.deleteDeadLetter id)) w (env.handle (.deleteDeadLetter id) w)).1 = _
    rw [tryStatement_answer]
    show (fault (.deleteDeadLetter id)).elim (Except.ok (w.deadLetter.lookup id)) Except.error = _
    rw [hletter]
  take_letters id w m hletter := by
    show (tryStatement (fault (.deleteDeadLetter id)) w
      (env.handle (.deleteDeadLetter id) w)).2.deadLetter.lookup id = _
    rw [tryStatement_world, apply_ite OutboxDb.deadLetter, apply_ite (AList.lookup id), hletter]
    show (if _ then (w.deadLetter.erase id).lookup id else _) = _
    rw [AList.lookup_erase]
  take_queue id w := by
    show (tryStatement (fault (.deleteDeadLetter id)) w
      (env.handle (.deleteDeadLetter id) w)).2.outbox.messages = _
    rw [tryStatement_world, apply_ite OutboxDb.outbox]
    exact congrArg OutboxTable.messages (ite_self _)
  enqueue_answer m w := tryStatement_answer
  enqueue_letters m w := by
    show (tryStatement (fault (.upsert m)) w (env.handle (.upsert m) w)).2.deadLetter = _
    rw [tryStatement_world, apply_ite OutboxDb.deadLetter]
    exact ite_self _
  enqueue_mem m w h := by
    show m ∈ (tryStatement (fault (.upsert m)) w (env.handle (.upsert m) w)).2.outbox.messages
    rw [tryStatement_world, if_pos h]
    exact OutboxTable.mem_upsert.mpr (Or.inl rfl)
  enqueue_refused m w h := by
    show (tryStatement (fault (.upsert m)) w (env.handle (.upsert m) w)).2.outbox.messages = _
    rw [tryStatement_world, if_neg (ne_true_of_eq_false h)]

/-! ## All three -/

/-- **A replay that fails** loses nothing in memory.  In files it loses the message if the dead
letters cannot be saved, and in the database if the deletion is carried out but its answer is
lost, or if the insertion that follows is refused. -/
theorem replay_keeps_iff (messageId : String) :
    (∀ deliverer w, (memoryStores deliverer).KeepsOnError messageId w) ∧
    (∀ saveFails now deliver mem,
      (fileStores saveFails now deliver).KeepsOnError messageId mem ↔
        ∀ message, AList.lookup messageId (mem .deadLetter) = some message →
          InOutbox (mem .outbox) message ∨ saveFails .deadLetter = none) ∧
    ∀ env fault w,
      (postgresStores env fault).KeepsOnError messageId w ↔
        ∀ message, w.deadLetter.lookup messageId = some message →
          InOutbox w.outbox.messages message ∨
            (∀ e, fault (.deleteDeadLetter messageId) = some e → e.tookEffect = false) ∧
              (fault (.deleteDeadLetter messageId) = none →
                ∀ e, fault (.upsert message.reset) = some e → e.tookEffect = true) := by
  refine ⟨fun deliverer w => ?_, fun saveFails now deliver mem => ?_, fun env fault w => ?_⟩
  · refine (FaultyStores.keepsOnError_iff messageId w).mpr fun message _ => Or.inr ?_
    exact ⟨fun e h => absurd h (Option.some_ne_none e).symm,
      fun _ e h => absurd h (Option.some_ne_none e).symm⟩
  · refine (FaultyStores.keepsOnError_iff messageId mem).trans ?_
    refine forall₂_congr fun message _ => or_congr_right file_harmless
  · exact FaultyStores.keepsOnError_iff messageId w

/-- The dead letters cannot be saved, and the only dead letter is lost. -/
theorem replay_loses_message :
    let full : StoreFile → Option String := fun _ => some "No space left on device (os error 28)"
    let message : OutboxMessage := ⟨"m1", "order.created", "{}", "c1", 6, none⟩
    let mem : FileMemory := Function.update StoreFile.default .deadLetter
      (AList.insert "m1" message ∅)
    ¬ (fileStores full 0 fun _ => .ok ()).KeepsOnError "m1" mem := by
  intro full message mem h
  have hkept := h ⟨"No space left on device (os error 28)", true⟩ rfl message rfl
  rcases hkept with hletter | ⟨queued, hqueued, -⟩
  · exact absurd hletter (by decide)
  · exact absurd hqueued (List.not_mem_nil)

end Orchestrator
