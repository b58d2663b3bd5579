/-
# `CommerceOrchestrator.Persistence.FileOutbox` — the worker on the file-backed outbox

The procedure of `Runtime.Outbox`, with each store method carried out as the file-backed
stores do: under the lock, then a save.  The file-backed outbox has the trait's own `claim`,
which removes the message and saves; from then until the message has been put back or
dead-lettered it is in memory only.  `claim_survives_iff` says which crashes it survives.
-/
import CommerceOrchestrator.Persistence.Crashes
import CommerceOrchestrator.Persistence.Restarts
import CommerceOrchestrator.Runtime.Outbox

namespace Orchestrator

open Effect Prog

/-! ## Operations -/

inductive DurableOp
  | enter (c : StoreCall)
  | serialize (f : StoreFile)
  | create (f : StoreFile)
  | write (f : StoreFile) (b : UInt8)
  | sync (f : StoreFile)
  | deliver (message : OutboxMessage)

/-- Entering answers what the call answers, and whether to save. -/
abbrev DurableOp.Ans : DurableOp → Type
  | .enter c => c.Ans × Bool
  | .serialize f => f.Value
  | .create _ | .write .. | .sync _ => Unit
  | .deliver _ => Except String Unit

def DurableOp.files : FileOps StoreFile DurableOp where
  create := .create
  write := .write
  sync := .sync

structure DurableWorld where
  mem : (f : StoreFile) → f.Value
  disk : Disk StoreFile

/-- What the program does not decide. -/
structure DurableEnv where
  now : Int
  deliver : OutboxMessage → Except String Unit

def DurableEnv.handle (env : DurableEnv) : Handler DurableOp.Ans DurableWorld
  | .enter c, w =>
      let r := c.enter env.now (w.mem c.file)
      ((r.answer, r.saves), { w with mem := Function.update w.mem c.file r.value })
  | .serialize f, w => (w.mem f, w)
  | .create f, w => ((), { w with disk := (FileOp.handle (.create f) w.disk).2 })
  | .write f b, w => ((), { w with disk := (FileOp.handle (.write f b) w.disk).2 })
  | .sync f, w => ((), { w with disk := (FileOp.handle (.sync f) w.disk).2 })
  | .deliver message, w => (env.deliver message, w)

/-- The stores as they are opened. -/
def DurableWorld.opened (json : SerdeJson) (disk : Disk StoreFile) : DurableWorld :=
  ⟨openStore json disk, disk⟩

/-! ## Procedures -/

/-- What is left of a call that saves, after it has been entered. -/
def saving (json : SerdeJson) (c : StoreCall) (a : c.Ans) : Prog DurableOp.Ans c.Ans :=
  .op (.serialize c.file) fun v =>
    DurableOp.files.save c.file (json.encode c.file v) >>= fun _ => .ret a

/-- A call of a file-backed store. -/
def StoreCall.durable (json : SerdeJson) (c : StoreCall) : Prog DurableOp.Ans c.Ans :=
  .op (.enter c) fun x => if x.2 then saving json c x.1 else .ret x.1

/-- The methods of the outbox and dead-letter stores. -/
def OutboxOp.durable (json : SerdeJson) : (o : OutboxOp) → Prog DurableOp.Ans o.Ans
  | .claim => Except.ok <$> StoreCall.outboxClaim.durable json
  | .deliver message => perform (DurableOp.deliver message)
  | .ack messageId => Except.ok <$> (StoreCall.outboxAck messageId).durable json
  | .release message => Except.ok <$> (StoreCall.outboxRelease message).durable json
  | .enqueue message => Except.ok <$> (StoreCall.enqueue message).durable json
  | .putDeadLetter message => Except.ok <$> (StoreCall.putDeadLetter message).durable json
  | .takeDeadLetter messageId => Except.ok <$> (StoreCall.takeDeadLetter messageId).durable json

/-- `process_outbox_once_reporting` on the file-backed stores. -/
def processFileOutbox (json : SerdeJson) (maxAttempts : Nat) :
    Prog DurableOp.Ans (Except StoreError OutboxOutcome) :=
  (processOutboxOnceReporting maxAttempts).run.lower (OutboxOp.durable json)

/-! ## Crashes of one call -/

section Call

variable {env : DurableEnv} {json : SerdeJson} {c : StoreCall} {w : DurableWorld} {n : Nat}

/-- What a call does under the lock. -/
abbrev entered (env : DurableEnv) (w : DurableWorld) (c : StoreCall) : Critical c.Ans c.file.Value :=
  c.enter env.now (w.mem c.file)

/-- Memory after a call. -/
def DurableWorld.remember (w : DurableWorld) (f : StoreFile) (v : f.Value) : DurableWorld :=
  { w with mem := Function.update w.mem f v }

/-- A file as it is for a text. -/
def DurableWorld.withFile (w : DurableWorld) (f : StoreFile) (x : Option Text) : DurableWorld :=
  { w with disk := Function.update w.disk f x }

theorem durable_carries (env : DurableEnv) (w : DurableWorld) (f : StoreFile) :
    DurableOp.files.Carries env.handle f (w.withFile f) where
  create x := congrArg (DurableWorld.mk w.mem) ((FileOp.carries w.disk f).create x)
  write text b := congrArg (DurableWorld.mk w.mem) ((FileOp.carries w.disk f).write text b)
  sync x := congrArg (DurableWorld.mk w.mem) ((FileOp.carries w.disk f).sync x)

theorem withFile_self (f : StoreFile) : w.withFile f (w.disk f) = w :=
  congrArg (DurableWorld.mk w.mem) (Function.update_eq_self f w.disk)

/-- The text a call saves. -/
abbrev savedText (json : SerdeJson) (env : DurableEnv) (w : DurableWorld) (c : StoreCall) : Text :=
  json.encode c.file (entered env w c).value

theorem saving_run (a : c.Ans) :
    (saving json c a).run env.handle w =
      (a, w.withFile c.file (some (json.encode c.file (w.mem c.file)))) := by
  have hsave := (durable_carries env w c.file).save_run (json.encode c.file (w.mem c.file))
    (w.disk c.file)
  rw [withFile_self] at hsave
  show (DurableOp.files.save c.file (json.encode c.file (w.mem c.file)) >>= fun _ => .ret a).run
    env.handle w = _
  rw [run_bind]
  exact congrArg (Prod.mk a) hsave

theorem length_saving (a : c.Ans) :
    ((saving json c a).events env.handle w).length =
      (json.encode c.file (w.mem c.file)).length + 3 := by
  show ((DurableOp.files.save c.file (json.encode c.file (w.mem c.file)) >>= fun _ => .ret a).events
    env.handle w).length + 1 = _
  rw [events_bind, List.length_append, FileOps.length_save]
  rfl

theorem saving_crashed (a : c.Ans) :
    ((saving json c a).crashed env.handle n w).disk =
      if n ≤ 1 then w.disk
      else Function.update w.disk c.file
        (some ((json.encode c.file (w.mem c.file)).take (n - 2))) := by
  cases n with
  | zero => rfl
  | succ n =>
      show ((DurableOp.files.save c.file (json.encode c.file (w.mem c.file)) >>= fun _ =>
        .ret a).crashed env.handle n w).disk = _
      have hsave := (durable_carries env w c.file).save_crashed (n := n)
        (json.encode c.file (w.mem c.file)) (w.disk c.file)
      have hrun := (durable_carries env w c.file).save_run
        (json.encode c.file (w.mem c.file)) (w.disk c.file)
      rw [withFile_self] at hsave hrun
      rw [crashed_bind, FileOps.length_save]
      by_cases hn : n ≤ (json.encode c.file (w.mem c.file)).length + 2
      · rw [if_pos hn, hsave]
        by_cases hzero : n = 0
        · rw [if_pos hzero, if_pos (by omega)]
        · rw [if_neg hzero, if_neg (by omega)]
          rfl
      · rw [if_neg hn, hrun, crashed_ret, if_neg (by omega), List.take_of_length_le (by omega)]
        rfl

theorem durable_saving (json : SerdeJson) (hs : (entered env w c).saves = true) :
    (c.durable json).run env.handle w =
        ((entered env w c).answer, (w.remember c.file (entered env w c).value).withFile c.file
          (some (savedText json env w c))) ∧
      ((c.durable json).events env.handle w).length = (savedText json env w c).length + 4 ∧
      ∀ n, ((c.durable json).crashed env.handle n w).disk =
        if n ≤ 2 then w.disk
        else Function.update w.disk c.file (some ((savedText json env w c).take (n - 3))) := by
  have hmem : (w.remember c.file (entered env w c).value).mem c.file = (entered env w c).value :=
    Function.update_self _ _ _
  have hrest : (if (entered env w c).saves then saving json c (entered env w c).answer
      else .ret (entered env w c).answer) = saving json c (entered env w c).answer := if_pos hs
  refine ⟨?_, ?_, fun n => ?_⟩
  · show (if (entered env w c).saves then saving json c (entered env w c).answer
      else .ret (entered env w c).answer).run env.handle
        (w.remember c.file (entered env w c).value) = _
    rw [hrest, saving_run, hmem]
  · show ((if (entered env w c).saves then saving json c (entered env w c).answer
      else .ret (entered env w c).answer).events env.handle
        (w.remember c.file (entered env w c).value)).length + 1 = _
    rw [hrest, length_saving, hmem]
  · cases n with
    | zero => rfl
    | succ n =>
        show ((if (entered env w c).saves then saving json c (entered env w c).answer
          else .ret (entered env w c).answer).crashed env.handle n
            (w.remember c.file (entered env w c).value)).disk = _
        rw [hrest, saving_crashed, hmem]
        simp only [Nat.reduceLeDiff, Nat.reduceSubDiff]
        rfl

/-- An acknowledgement writes nothing. -/
theorem ack_crashed {messageId : String} :
    (((StoreCall.outboxAck messageId).durable json).crashed env.handle n w).disk = w.disk := by
  cases n with
  | zero => rfl
  | succ n =>
      show ((Prog.ret () : Prog DurableOp.Ans Unit).crashed env.handle n
        (w.remember .outbox (w.mem .outbox))).disk = w.disk
      rw [crashed_ret]
      rfl

end Call

/-! ## Crashes of the worker -/

/-- Pass an error on, or return. -/
def finish (outcome : OutboxOutcome) :
    Except StoreError Unit → Prog OutboxOp.Ans (Except StoreError OutboxOutcome)
  | .error e => .ret (.error e)
  | .ok _ => .ret (.ok outcome)

/-- What the worker does after the dead-letter store has answered. -/
def afterPark (messageId : String) :
    Except StoreError Unit → Prog OutboxOp.Ans (Except StoreError OutboxOutcome)
  | .error e => .ret (.error e)
  | .ok _ => .op (.ack messageId) (finish .deadLettered)

/-- What the worker does after the delivery. -/
def afterDelivery (maxAttempts : Nat) (message : OutboxMessage) :
    Except String Unit → Prog OutboxOp.Ans (Except StoreError OutboxOutcome)
  | .error _ =>
      if maxAttempts < message.retried.attempts then
        .op (.putDeadLetter message.retried) (afterPark message.retried.id)
      else .op (.release message.retried) (finish (.retrying message.retried.attempts))
  | .ok _ => .op (.ack message.id) (finish .delivered)

/-- What the worker does after the claim. -/
def afterClaim (maxAttempts : Nat) : Except StoreError (Option OutboxMessage) →
    Prog OutboxOp.Ans (Except StoreError OutboxOutcome)
  | .error e => .ret (.error e)
  | .ok none => .ret (.ok .idle)
  | .ok (some message) => .op (.deliver message) (afterDelivery maxAttempts message)

theorem process_run (maxAttempts : Nat) :
    (processOutboxOnceReporting maxAttempts).run = .op .claim (afterClaim maxAttempts) := by
  refine congrArg (Prog.op OutboxOp.claim) (funext fun x => ?_)
  rcases x with e | _ | message
  · rfl
  · rfl
  · refine congrArg (Prog.op (OutboxOp.deliver message)) (funext fun x => ?_)
    rcases x with e | _
    · show ExceptT.run (if maxAttempts < message.retried.attempts then _ else _) = ite _ _ _
      by_cases hp : maxAttempts < message.retried.attempts
      · rw [if_pos hp, if_pos hp]
        refine congrArg (Prog.op (OutboxOp.putDeadLetter message.retried)) (funext fun x => ?_)
        rcases x with e | _
        · rfl
        · refine congrArg (Prog.op (OutboxOp.ack message.retried.id)) (funext fun x => ?_)
          rcases x with e | _ <;> rfl
      · rw [if_neg hp, if_neg hp]
        refine congrArg (Prog.op (OutboxOp.release message.retried)) (funext fun x => ?_)
        rcases x with e | _ <;> rfl
    · refine congrArg (Prog.op (OutboxOp.ack message.id)) (funext fun x => ?_)
      rcases x with e | _ <;> rfl

section Worker

variable {env : DurableEnv} {json : SerdeJson} {disk : Disk StoreFile} {w : DurableWorld}
  {maxAttempts n : Nat} {message : OutboxMessage} {rest : List OutboxMessage} {e : String}

theorem finish_crashed {outcome : OutboxOutcome} (x : Except StoreError Unit) :
    (((finish outcome x).lower (OutboxOp.durable json)).crashed env.handle n w).disk = w.disk := by
  rcases x with e | _
  · exact congrArg DurableWorld.disk crashed_ret
  · exact congrArg DurableWorld.disk crashed_ret

theorem afterPark_crashed {messageId : String} (x : Except StoreError Unit) :
    (((afterPark messageId x).lower (OutboxOp.durable json)).crashed env.handle n w).disk =
      w.disk := by
  rcases x with e | _
  · exact congrArg DurableWorld.disk crashed_ret
  · refine (crashed_bind_frame DurableWorld.disk fun x n w => finish_crashed x).trans ?_
    rw [OutboxOp.durable, crashed_map]
    exact ack_crashed

/-- A failed delivery, for the last time. -/
theorem afterDelivery_crashed_park (hp : maxAttempts < message.retried.attempts) :
    (((afterDelivery maxAttempts message (.error e)).lower (OutboxOp.durable json)).crashed
        env.handle n w).disk =
      (((StoreCall.putDeadLetter message.retried).durable json).crashed env.handle n w).disk := by
  rw [afterDelivery, if_pos hp]
  refine (crashed_bind_frame DurableWorld.disk fun x n w => afterPark_crashed x).trans ?_
  rw [OutboxOp.durable, crashed_map]

theorem afterDelivery_crashed_release (hp : ¬ maxAttempts < message.retried.attempts) :
    (((afterDelivery maxAttempts message (.error e)).lower (OutboxOp.durable json)).crashed
        env.handle n w).disk =
      (((StoreCall.outboxRelease message.retried).durable json).crashed env.handle n w).disk := by
  rw [afterDelivery, if_neg hp]
  refine (crashed_bind_frame DurableWorld.disk fun x n w => finish_crashed x).trans ?_
  rw [OutboxOp.durable, crashed_map]

/-- Once the claim has been saved, the message is in memory only. -/
def claimed (json : SerdeJson) (disk : Disk StoreFile) (rest : List OutboxMessage) : DurableWorld :=
  ((DurableWorld.opened json disk).remember .outbox rest).withFile .outbox
    (some (json.encode .outbox rest))

/-- The claim of a message saves the rest of the queue. -/
theorem claim_durable (env : DurableEnv) (hqueue : openStore json disk .outbox = message :: rest) :
    (StoreCall.outboxClaim.durable json).run env.handle (.opened json disk) =
        (some message, claimed json disk rest) ∧
      ((StoreCall.outboxClaim.durable json).events env.handle (.opened json disk)).length =
        (json.encode .outbox rest).length + 4 ∧
      ∀ n, ((StoreCall.outboxClaim.durable json).crashed env.handle n (.opened json disk)).disk =
        if n ≤ 2 then disk
        else Function.update disk .outbox (some ((json.encode .outbox rest).take (n - 3))) := by
  have hentered : entered env (.opened json disk) .outboxClaim = .saving (some message) rest := by
    show FileBackedOutboxStore.claim (openStore json disk .outbox) = _
    rw [hqueue]
    rfl
  have hsaves : (entered env (.opened json disk) .outboxClaim).saves = true := by
    rw [hentered]
    rfl
  have hdurable := durable_saving json hsaves
  simp only [savedText, hentered] at hdurable
  exact hdurable

/-- What a crash of the worker leaves on disk. -/
theorem process_crashed (hqueue : openStore json disk .outbox = message :: rest) :
    ((processFileOutbox json maxAttempts).crashed env.handle n (.opened json disk)).disk =
      if n ≤ (json.encode .outbox rest).length + 4 then
        if n ≤ 2 then disk
        else Function.update disk .outbox (some ((json.encode .outbox rest).take (n - 3)))
      else (((afterDelivery maxAttempts message (env.deliver message)).lower
        (OutboxOp.durable json)).crashed env.handle
          (n - ((json.encode .outbox rest).length + 5)) (claimed json disk rest)).disk := by
  obtain ⟨hrun, hlength, hcrashed⟩ := claim_durable env hqueue
  rw [processFileOutbox, process_run]
  show (((Except.ok <$> StoreCall.outboxClaim.durable json) >>= fun x =>
    (afterClaim maxAttempts x).lower (OutboxOp.durable json)).crashed env.handle n _).disk = _
  rw [crashed_bind, length_events_map, hlength, crashed_map, run_map, hrun]
  by_cases hn : n ≤ (json.encode .outbox rest).length + 4
  · rw [if_pos hn, if_pos hn]
    exact hcrashed n
  · rw [if_neg hn, if_neg hn]
    have hk : n - ((json.encode .outbox rest).length + 4) =
        n - ((json.encode .outbox rest).length + 5) + 1 := by omega
    rw [hk]
    rfl

/-- The call that disposes of the message after a failed delivery. -/
theorem afterDelivery_crashed (he : env.deliver message = .error e) :
    (((afterDelivery maxAttempts message (env.deliver message)).lower
        (OutboxOp.durable json)).crashed env.handle n (claimed json disk rest)).disk =
      if n ≤ 2 then Function.update disk .outbox (some (json.encode .outbox rest))
      else if maxAttempts < message.retried.attempts then
        Function.update (Function.update disk .outbox (some (json.encode .outbox rest))) .deadLetter
          (some ((json.encode .deadLetter ((openStore json disk .deadLetter).insert message.id
            message.retried)).take (n - 3)))
      else Function.update disk .outbox
        (some ((json.encode .outbox (rest ++ [message.retried])).take (n - 3))) := by
  have hmem : (claimed json disk rest).mem .outbox = rest := by
    show Function.update (openStore json disk) .outbox rest .outbox = rest
    rw [Function.update_self]
  have hletters : (claimed json disk rest).mem .deadLetter = openStore json disk .deadLetter := by
    show Function.update (openStore json disk) .outbox rest .deadLetter = _
    rw [Function.update_of_ne (by decide)]
  rw [he]
  by_cases hp : maxAttempts < message.retried.attempts
  · have hentered : entered env (claimed json disk rest) (.putDeadLetter message.retried) =
        .saving () ((openStore json disk .deadLetter).insert message.id message.retried) := by
      show FileBackedDeadLetterStore.put message.retried _ = _
      rw [hletters]
      rfl
    have hsaves : (entered env (claimed json disk rest)
        (.putDeadLetter message.retried)).saves = true := by
      rw [hentered]
      rfl
    have hcrashed := (durable_saving json hsaves).2.2 n
    simp only [savedText, hentered] at hcrashed
    rw [afterDelivery_crashed_park hp, if_pos hp]
    exact hcrashed
  · have hentered : entered env (claimed json disk rest) (.outboxRelease message.retried) =
        .saving () (rest ++ [message.retried]) := by
      show FileBackedOutboxStore.release message.retried _ = _
      rw [hmem]
      rfl
    have hsaves : (entered env (claimed json disk rest)
        (.outboxRelease message.retried)).saves = true := by
      rw [hentered]
      rfl
    have hcrashed := (durable_saving json hsaves).2.2 n
    simp only [savedText, hentered] at hcrashed
    rw [afterDelivery_crashed_release hp, if_neg hp, hcrashed]
    by_cases hn : n ≤ 2
    · rw [if_pos hn, if_pos hn]
      rfl
    · rw [if_neg hn, if_neg hn]
      exact Function.update_idem _ _ _

/-! ### What is found -/

/-- A message with this id is in the outbox or the dead-letter store, as they are opened. -/
def FoundAgain (json : SerdeJson) (disk : Disk StoreFile) (messageId : String) : Prop :=
  (∃ m ∈ openStore json disk .outbox, m.id = messageId) ∨
    ((openStore json disk .deadLetter).lookup messageId).isSome

/-- The text that puts the message back, or among the dead letters. -/
def returnText (json : SerdeJson) (maxAttempts : Nat) (message : OutboxMessage)
    (rest : List OutboxMessage) (letters : DeadLetter) : Text :=
  if maxAttempts < message.retried.attempts then
    json.encode .deadLetter (letters.insert message.id message.retried)
  else json.encode .outbox (rest ++ [message.retried])

/-- What the worker writes is read back. -/
structure WorkerJson (json : SerdeJson) (maxAttempts : Nat) (message : OutboxMessage)
    (rest : List OutboxMessage) (letters : DeadLetter) : Prop where
  claim : json.Faithful .outbox rest
  release : ¬ maxAttempts < message.retried.attempts →
    json.Faithful .outbox (rest ++ [message.retried])
  park : maxAttempts < message.retried.attempts →
    json.Faithful .deadLetter (letters.insert message.id message.retried)

/-- After `n` steps the message is still in the outbox file (two steps precede the truncation
of the first save), or is back in a file; or a file that is not being written has another
message of its id. -/
def SurvivesAt (json : SerdeJson) (maxAttempts : Nat) (message : OutboxMessage)
    (rest : List OutboxMessage) (letters : DeadLetter) (n : Nat) : Prop :=
  n ≤ 2 ∨
    (json.encode .outbox rest).length + 8 +
      (returnText json maxAttempts message rest letters).length ≤ n ∨
    ((letters.lookup message.id).isSome ∧
      (maxAttempts < message.retried.attempts → n < (json.encode .outbox rest).length + 8)) ∨
    ((∃ m ∈ rest, m.id = message.id) ∧ (json.encode .outbox rest).length + 3 ≤ n ∧
      (¬ maxAttempts < message.retried.attempts → n < (json.encode .outbox rest).length + 8))

theorem foundAgain_iff {messageId : String} {queue : List OutboxMessage} {letters : DeadLetter}
    (hq : openStore json disk .outbox = queue) (hl : openStore json disk .deadLetter = letters) :
    FoundAgain json disk messageId ↔
      (∃ m ∈ queue, m.id = messageId) ∨ (letters.lookup messageId).isSome := by
  rw [FoundAgain, hq, hl]

/-- While the outbox file is written, and when it is whole, the dead letters are as they were. -/
theorem foundAgain_outbox (disk : Disk StoreFile) {queue : List OutboxMessage}
    (h : json.Faithful .outbox queue) (k : Nat) (messageId : String) :
    FoundAgain json (Function.update disk .outbox (some ((json.encode .outbox queue).take k)))
        messageId ↔
      ((json.encode .outbox queue).length ≤ k ∧ ∃ m ∈ queue, m.id = messageId) ∨
        ((openStore json disk .deadLetter).lookup messageId).isSome := by
  have hopen := openStore_take disk h k
  have hletters : openStore json
      (Function.update disk .outbox (some ((json.encode .outbox queue).take k))) .deadLetter =
      openStore json disk .deadLetter :=
    openStore_congr (Function.update_of_ne (by decide) _ _)
  rw [foundAgain_iff hopen hletters]
  by_cases hk : (json.encode .outbox queue).length ≤ k
  · rw [if_pos hk, and_iff_right hk]
  · rw [if_neg hk]
    refine or_congr (iff_of_false ?_ fun h => hk h.1) Iff.rfl
    rintro ⟨m, hm, -⟩
    exact absurd hm List.not_mem_nil

/-- The same for the dead-letter file. -/
theorem foundAgain_deadLetter {letters : DeadLetter} {queue : List OutboxMessage}
    (h : json.Faithful .deadLetter letters) (hq : openStore json disk .outbox = queue) (k : Nat)
    {messageId : String} :
    FoundAgain json
        (Function.update disk .deadLetter (some ((json.encode .deadLetter letters).take k)))
        messageId ↔
      (∃ m ∈ queue, m.id = messageId) ∨
        (json.encode .deadLetter letters).length ≤ k ∧ (letters.lookup messageId).isSome := by
  have hopen := openStore_take disk h k
  have hqueue : openStore json
      (Function.update disk .deadLetter (some ((json.encode .deadLetter letters).take k))) .outbox =
      queue := (openStore_congr (Function.update_of_ne (by decide) _ _)).trans hq
  rw [foundAgain_iff hqueue hopen]
  by_cases hk : (json.encode .deadLetter letters).length ≤ k
  · rw [if_pos hk, and_iff_right hk]
  · rw [if_neg hk]
    exact or_congr Iff.rfl (iff_of_false Bool.false_ne_true fun h => hk h.1)

/-! ### Phase by phase -/

/-- In the save of the claim, or right after it. -/
theorem claiming_survives (hjson : json.Faithful .outbox rest) (hlate : ¬ n ≤ 2)
    (hn : n ≤ (json.encode .outbox rest).length + 4) :
    FoundAgain json
        (Function.update disk .outbox (some ((json.encode .outbox rest).take (n - 3))))
        message.id ↔
      SurvivesAt json maxAttempts message rest (openStore json disk .deadLetter) n := by
  rw [foundAgain_outbox disk hjson, SurvivesAt, or_iff_right hlate]
  constructor
  · rintro (⟨hwhole, htwin⟩ | hletter)
    · exact Or.inr (Or.inr ⟨htwin, by omega, fun _ => by omega⟩)
    · exact Or.inr (Or.inl ⟨hletter, fun _ => by omega⟩)
  · rintro (hback | ⟨hletter, -⟩ | ⟨htwin, hwhole, -⟩)
    · omega
    · exact Or.inr hletter
    · exact Or.inl ⟨by omega, htwin⟩

/-- Between the two saves. -/
theorem claimed_survives (hjson : json.Faithful .outbox rest)
    (hlow : (json.encode .outbox rest).length + 5 ≤ n)
    (hhigh : n ≤ (json.encode .outbox rest).length + 7) :
    FoundAgain json (Function.update disk .outbox (some (json.encode .outbox rest))) message.id ↔
      SurvivesAt json maxAttempts message rest (openStore json disk .deadLetter) n := by
  have hlate : ¬ n ≤ 2 := by omega
  have hfound := foundAgain_outbox disk hjson (json.encode .outbox rest).length message.id
  rw [List.take_length] at hfound
  rw [hfound, SurvivesAt, or_iff_right hlate]
  constructor
  · rintro (⟨-, htwin⟩ | hletter)
    · exact Or.inr (Or.inr ⟨htwin, by omega, fun _ => by omega⟩)
    · exact Or.inr (Or.inl ⟨hletter, fun _ => by omega⟩)
  · rintro (hback | ⟨hletter, -⟩ | ⟨htwin, -, -⟩)
    · omega
    · exact Or.inr hletter
    · exact Or.inl ⟨le_rfl, htwin⟩

/-- While the message is dead-lettered. -/
theorem parking_survives (hclaim : json.Faithful .outbox rest)
    (hp : maxAttempts < message.retried.attempts)
    (hjson : json.Faithful .deadLetter
      ((openStore json disk .deadLetter).insert message.id message.retried))
    (hn : (json.encode .outbox rest).length + 8 ≤ n) :
    FoundAgain json
        (Function.update (Function.update disk .outbox (some (json.encode .outbox rest))) .deadLetter
          (some ((json.encode .deadLetter ((openStore json disk .deadLetter).insert message.id
            message.retried)).take (n - ((json.encode .outbox rest).length + 5) - 3))))
        message.id ↔
      SurvivesAt json maxAttempts message rest (openStore json disk .deadLetter) n := by
  have hlate : ¬ n ≤ 2 := by omega
  have hrest : openStore json (Function.update disk .outbox (some (json.encode .outbox rest)))
      .outbox = rest :=
    openStore_of_decode (Function.update_self _ _ _) hclaim.roundTrip
  have hparked : (((openStore json disk .deadLetter).insert message.id message.retried).lookup
      message.id).isSome := by
    rw [AList.lookup_insert]
    rfl
  rw [foundAgain_deadLetter hjson hrest, SurvivesAt, or_iff_right hlate, returnText, if_pos hp]
  constructor
  · rintro (htwin | ⟨hwhole, -⟩)
    · exact Or.inr (Or.inr ⟨htwin, by omega, fun hno => absurd hp hno⟩)
    · exact Or.inl (by omega)
  · rintro (hback | ⟨-, hletter⟩ | ⟨htwin, -, -⟩)
    · exact Or.inr ⟨by omega, hparked⟩
    · have := hletter hp
      omega
    · exact Or.inl htwin

/-- While the message is put back. -/
theorem returning_survives (hp : ¬ maxAttempts < message.retried.attempts)
    (hjson : json.Faithful .outbox (rest ++ [message.retried]))
    (hn : (json.encode .outbox rest).length + 8 ≤ n) :
    FoundAgain json
        (Function.update disk .outbox (some ((json.encode .outbox (rest ++ [message.retried])).take
          (n - ((json.encode .outbox rest).length + 5) - 3))))
        message.id ↔
      SurvivesAt json maxAttempts message rest (openStore json disk .deadLetter) n := by
  have hlate : ¬ n ≤ 2 := by omega
  have hback : ∃ m ∈ rest ++ [message.retried], m.id = message.id :=
    ⟨message.retried, List.mem_append_right _ (List.mem_singleton_self _), rfl⟩
  rw [foundAgain_outbox disk hjson, SurvivesAt, or_iff_right hlate, returnText, if_neg hp]
  constructor
  · rintro (⟨hwhole, -⟩ | hletter)
    · exact Or.inl (by omega)
    · exact Or.inr (Or.inl ⟨hletter, fun hyes => absurd hyes hp⟩)
  · rintro (hwhole | ⟨hletter, -⟩ | ⟨-, -, htwin⟩)
    · exact Or.inl ⟨by omega, hback⟩
    · exact Or.inr hletter
    · have := htwin hp
      omega

/-- **The worker on the file-backed outbox.**  Whatever is in the queue: after a crash before the
message has been delivered it is found again, in the outbox or among the dead letters, exactly
if the crash did not come between the truncation of the file in the claim's save and the last
byte of the save that puts the message back, or if another message of its id is found. -/
theorem claim_survives_iff (json : SerdeJson) (env : DurableEnv) (disk : Disk StoreFile)
    (maxAttempts n : Nat) (message : OutboxMessage) (rest : List OutboxMessage)
    (hqueue : openStore json disk .outbox = message :: rest)
    (hjson : WorkerJson json maxAttempts message rest (openStore json disk .deadLetter))
    (hundelivered : (json.encode .outbox rest).length + 5 ≤ n →
      ∃ e, env.deliver message = .error e) :
    FoundAgain json
        ((processFileOutbox json maxAttempts).crashed env.handle n (.opened json disk)).disk
        message.id ↔
      SurvivesAt json maxAttempts message rest (openStore json disk .deadLetter) n := by
  rw [process_crashed hqueue]
  by_cases hearly : n ≤ 2
  · -- the file is as it was
    rw [if_pos (by omega), if_pos hearly]
    refine iff_of_true (Or.inl ⟨message, ?_, rfl⟩) (Or.inl hearly)
    rw [hqueue]
    exact List.mem_cons_self
  by_cases hclaim : n ≤ (json.encode .outbox rest).length + 4
  · rw [if_pos hclaim, if_neg hearly]
    exact claiming_survives hjson.claim hearly hclaim
  obtain ⟨e, he⟩ := hundelivered (by omega)
  rw [if_neg hclaim, afterDelivery_crashed he]
  by_cases hentered : n - ((json.encode .outbox rest).length + 5) ≤ 2
  · rw [if_pos hentered]
    exact claimed_survives hjson.claim (by omega) (by omega)
  rw [if_neg hentered]
  by_cases hp : maxAttempts < message.retried.attempts
  · rw [if_pos hp]
    exact parking_survives hjson.claim hp (hjson.park hp) (by omega)
  · rw [if_neg hp]
    exact returning_survives hp (hjson.release hp) (by omega)

end Worker

namespace Sample

/-- A notice. -/
def pending : OutboxMessage := ⟨"m1", "order.created", "", "c1", 0, some "t"⟩

def bytes (s : String) : Text := s.toList.map fun c => UInt8.ofNat c.toNat

/-- How an outbox with the notice and nothing else is written; `digit` is its attempts. -/
def pendingText (digit : UInt8) : Text :=
  91 :: 10 :: (bytes ("  \x7b\n    \"id\": \"m1\",\n    \"topic\": \"order.created\",\n" ++
    "    \"payload\": \"\",\n    \"correlation_id\": \"c1\",\n    \"attempts\": ") ++
    digit :: bytes ",\n    \"tenant_id\": \"t\"\n  \x7d\n]")

/-- What is written and read of the notice before and after a failed delivery, and of the
empty outbox. -/
def outboxJson : SerdeJson where
  encode
    | .outbox, queue =>
        if queue = [pending] then pendingText 48
        else if queue = [pending.retried] then pendingText 49 else [91, 93]
    | _, _ => []
  decode
    | .outbox, data =>
        if data = pendingText 48 then .ok [pending]
        else if data = pendingText 49 then .ok [pending.retried]
        else if data = [91, 93] then .ok [] else .error "EOF while parsing"
    | _, _ => .error "EOF while parsing"

def outboxDisk : Disk StoreFile := Function.update (fun _ => none) .outbox (some (pendingText 48))

/-- A consumer that does not answer. -/
def unreachable : DurableEnv := ⟨0, fun _ => .error "unreachable"⟩

end Sample

section

open Sample

theorem outboxJson_encode (queue : List OutboxMessage) : outboxJson.encode .outbox queue =
    if queue = [pending] then pendingText 48
    else if queue = [pending.retried] then pendingText 49 else [91, 93] := rfl

theorem outboxJson_decode (data : Text) : outboxJson.decode .outbox data =
    if data = pendingText 48 then .ok [pending]
    else if data = pendingText 49 then .ok [pending.retried]
    else if data = [91, 93] then .ok [] else .error "EOF while parsing" := rfl

theorem pendingText_length (digit digit' : UInt8) :
    (pendingText digit).length = (pendingText digit').length := by
  simp only [pendingText, List.length_cons, List.length_append]

theorem pendingText_inj {digit digit' : UInt8} (h : pendingText digit = pendingText digit') :
    digit = digit' := by
  have htail := (List.cons.inj (List.cons.inj h).2).2
  exact (List.cons.inj (List.append_cancel_left htail)).1

theorem outboxJson_retried : outboxJson.Faithful .outbox [pending.retried] := by
  have hencode : outboxJson.encode .outbox [pending.retried] = pendingText 49 := by
    rw [outboxJson_encode, if_neg (by decide), if_pos rfl]
  have hother : pendingText 49 ≠ pendingText 48 := fun h => absurd (pendingText_inj h) (by decide)
  have hbracket : ¬ [91, 93] <+: pendingText 49 := by
    rintro ⟨text, h⟩
    exact absurd (List.cons.inj (List.cons.inj h).2).1 (by decide)
  constructor
  · rw [hencode, outboxJson_decode, if_neg hother, if_pos rfl]
  · rw [hencode]
    intro n hn
    have hshort : ∀ digit, (pendingText 49).take n ≠ pendingText digit := by
      intro digit h
      have hlen := congrArg List.length h
      rw [List.length_take, pendingText_length digit 49] at hlen
      omega
    refine ⟨"EOF while parsing", ?_⟩
    rw [outboxJson_decode, if_neg (hshort _), if_neg (hshort _), if_neg]
    intro h
    have htake := List.take_prefix n (pendingText 49)
    rw [h] at htake
    exact hbracket htake

theorem outboxJson_worker (letters : DeadLetter) :
    WorkerJson outboxJson 5 pending [] letters where
  claim := ⟨rfl, fun n hn => ⟨"EOF while parsing", by revert n; decide⟩⟩
  release _ := outboxJson_retried
  park h := absurd h (by decide)

theorem outboxDisk_opened : openStore outboxJson outboxDisk .outbox = [pending] :=
  openStore_of_decode (Function.update_self _ _ _) (by rw [outboxJson_decode, if_pos rfl])

/-- The worker is stopped when the notice has been put back. -/
theorem claim_survives_iff_sample :
    FoundAgain outboxJson
      ((processFileOutbox outboxJson 5).crashed unreachable.handle
        ((outboxJson.encode .outbox []).length + 8 + (returnText outboxJson 5 pending []
          (openStore outboxJson outboxDisk .deadLetter)).length)
        (.opened outboxJson outboxDisk)).disk pending.id :=
  (claim_survives_iff outboxJson unreachable outboxDisk 5 _ pending [] outboxDisk_opened
    (outboxJson_worker _) fun _ => ⟨"unreachable", rfl⟩).mpr (Or.inr (Or.inl le_rfl))

/-- The worker is stopped when the claim has been saved, before anything was delivered. -/
theorem claimed_notice_lost :
    ¬ FoundAgain outboxJson
      ((processFileOutbox outboxJson 5).crashed unreachable.handle 6
        (.opened outboxJson outboxDisk)).disk pending.id := by
  have hletters : (openStore outboxJson outboxDisk .deadLetter).lookup pending.id = none := rfl
  rw [process_crashed outboxDisk_opened, if_pos (by decide), if_neg (by decide),
    foundAgain_outbox outboxDisk (outboxJson_worker ∅).claim, hletters]
  rintro (⟨-, m, hm, -⟩ | h)
  · cases hm
  · cases h

end

end Orchestrator
