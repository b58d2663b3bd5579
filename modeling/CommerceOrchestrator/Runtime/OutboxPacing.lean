/-
# `CommerceOrchestrator.Runtime.OutboxPacing` — no message is given up in a hurry

The loop pauses after each failed delivery, longer from one failure to the next.  It is the only
worker of its process, so while it pauses nobody delivers, and a message has been through all its
pauses before it becomes a dead letter, however the loop interleaves with those who enqueue
messages and replay dead letters (`deadLetters_rested`).
-/
import CommerceOrchestrator.Effect.Prefixes
import CommerceOrchestrator.Runtime.Conservation
import CommerceOrchestrator.Runtime.OutboxLoop

namespace Orchestrator

open Effect Prog

/-! ## The process -/

/-- The stores of the process, and the number of looks and pauses so far. -/
structure LoopWorld where
  stores : OutboxWorld
  looks : Nat

/-- What the loop meets: the endpoint, the flag and the clock. -/
structure LoopEnv where
  deliverer : Deliverer
  shutdown : Nat → Bool
  now : Nat → Nat

namespace LoopEnv

variable (env : LoopEnv)

def look (w : LoopWorld) : (o : LoopOp) → o.Ans
  | .outboxLen => w.stores.outbox.length
  | .shutdown => env.shutdown w.looks
  | .now => env.now w.looks
  | .sleep _ | .pause _ => ()

/-- The loop over the stores in memory. -/
def handle : Handler ProcessorAns LoopWorld
  | .inl o, w =>
      ((memoryHandle env.deliverer o w.stores).1,
        { w with stores := (memoryHandle env.deliverer o w.stores).2 })
  | .inr o, w => (env.look w o, { w with looks := w.looks + 1 })

end LoopEnv

abbrev LoopEntry := Entry ProcessorAns Unit

abbrev LoopPool := Pool ProcessorAns LoopWorld Unit

/-- The loop is thread 0, and each of `calls` is a thread of its own. -/
def loopStart (config : OutboxProcessorConfig) (fuel : Nat) (calls : List OutboxCall) : LoopPool :=
  Pool.start ⟨.empty, 0⟩
    (((fun _ => ()) <$> config.run fuel) :: calls.map fun call => (fun _ => ()) <$> call.prog.inl)

/-- Messages are enqueued and dead letters replayed, and nobody else works the outbox. -/
structure Feeds (calls : List OutboxCall) : Prop extends NewMessages calls where
  idle : ∀ k, .process k ∉ calls

/-! ## Pauses -/

/-- The pauses after `n` failures, in order. -/
def OutboxProcessorConfig.pauses (config : OutboxProcessorConfig) (n : Nat) : List Duration :=
  (List.range n).map fun k => config.pause (k + 1)

/-- How long the loop slept each time. -/
def sleeps (log : List LoopEntry) : List Duration :=
  log.filterMap fun e =>
    match e with
    | .did _ ⟨.inr (.sleep d), _⟩ => some d
    | _ => none

/-- Since each time it was enqueued, the message has been through the pauses of `n` failures. -/
def RestedSince (config : OutboxProcessorConfig) (log : List LoopEntry) (id : String) (n : Nat) :
    Prop :=
  ∀ before t m rest, log = before ++ .did t ⟨.inl (.enqueue m), .ok ()⟩ :: rest → m.id = id →
    List.Sublist (config.pauses n) (sleeps rest)

/-- What is dead-lettered has been through all its pauses. -/
def RestedLetter (config : OutboxProcessorConfig) (before : List LoopEntry) (e : LoopEntry) : Prop :=
  ∀ t m, e = .did t ⟨.inl (.putDeadLetter m), .ok ()⟩ →
    RestedSince config before m.id config.maxAttempts

section Pauses

variable {config : OutboxProcessorConfig} {log : List LoopEntry} {e : LoopEntry} {id : String}
  {n k : Nat}

theorem pauses_succ : config.pauses (n + 1) = config.pauses n ++ [config.pause (n + 1)] := by
  simp [OutboxProcessorConfig.pauses, List.range_succ]

theorem pauses_sublist (h : n ≤ k) : List.Sublist (config.pauses n) (config.pauses k) := by
  induction h with
  | refl => exact List.Sublist.refl _
  | step _ ih =>
      rw [pauses_succ]
      exact ih.trans (List.sublist_append_left _ _)

theorem sleeps_append (log log' : List LoopEntry) : sleeps (log ++ log') = sleeps log ++ sleeps log' :=
  List.filterMap_append

/-- The entry enqueues a message with the id. -/
def Feed (id : String) (e : LoopEntry) : Prop :=
  ∃ t m, e = .did t ⟨.inl (.enqueue m), .ok ()⟩ ∧ m.id = id

theorem RestedSince.zero : RestedSince config log id 0 :=
  fun _ _ _ _ _ _ => List.nil_sublist _

theorem RestedSince.mono (h : RestedSince config log id k) (hn : n ≤ k) :
    RestedSince config log id n :=
  fun before t m rest hlog hid => (pauses_sublist hn).trans (h before t m rest hlog hid)

theorem RestedSince.append (h : RestedSince config log id n) (he : ¬ Feed id e) :
    RestedSince config (log ++ [e]) id n := by
  intro before t m rest hlog hid
  rcases split_concat hlog with ⟨-, rfl, -⟩ | ⟨rest', rfl, hsplit⟩
  · exact absurd ⟨t, m, rfl, hid⟩ he
  · rw [sleeps_append]
    exact (h before t m rest' hsplit hid).trans (List.sublist_append_left _ _)

/-- One pause more. -/
theorem RestedSince.sleep {t : Nat} (h : RestedSince config log id n) :
    RestedSince config (log ++ [.did t ⟨.inr (.sleep (config.pause (n + 1))), ()⟩]) id (n + 1) := by
  intro before t' m rest hlog hid
  rcases split_concat hlog with ⟨-, heq, -⟩ | ⟨rest', rfl, hsplit⟩
  · cases heq
  · rw [sleeps_append, pauses_succ]
    exact (h before t' m rest' hsplit hid).append (List.Sublist.refl _)

end Pauses

/-! ## Where everyone stands -/

/-- Where a thread stands with the outbox, and the failures for which it still has to pause. -/
structure Pacing where
  holding : Holding
  owed : Option Nat := none

/-- After a call on the outbox the loop is ready for another one. -/
def renewed (maxAttempts : Nat) : OutboxOp → Holding → Holding
  | .enqueue _, q | .takeDeadLetter _, q => q
  | _, .done => .ready (.process maxAttempts)
  | _, q => q

def owedAfter : (o : OutboxOp) → o.Ans → Option Nat
  | .release m, .ok _ => some m.attempts
  | _, _ => none

/-- The rules of the outbox, with a pause after each message that is given back. -/
def pacingRules (config : OutboxProcessorConfig) : Monitor ProcessorAns Pacing where
  allow
    | .inl o, q => q.owed = none ∧ outboxMonitor.allow o q.holding ∧
        ∀ m, o = .putDeadLetter m → config.maxAttempts < m.attempts ∧ m.attempts < 2 ^ 32
    | .inr (.sleep d), q => ∃ a, q.owed = some a ∧ d = config.pause a
    | .inr _, _ => True
  next
    | .inl o, q, x => ⟨renewed config.maxAttempts o (outboxMonitor.next o q.holding x), owedAfter o x⟩
    | .inr (.sleep _), q, _ => ⟨q.holding, none⟩
    | .inr _, q, _ => q

section Rules

variable {config : OutboxProcessorConfig}

/-- The loop between two calls on the outbox. -/
def between (config : OutboxProcessorConfig) (owed : Option Nat) : Pacing :=
  ⟨.ready (.process config.maxAttempts), owed⟩

/-- The failures for which the loop has to pause after a call. -/
def OutboxOutcome.owed : Except StoreError OutboxOutcome → Option Nat
  | .ok (.retrying attempts) => some attempts
  | _ => none

theorem processOnce_paces :
    ((processOutboxOnceReporting config.maxAttempts).run.inl : ProcessorRun _).Follows
      (pacingRules config) (fun r q => q = between config (OutboxOutcome.owed r))
      (between config none) := by
  refine ⟨⟨rfl, ⟨_, rfl⟩, fun _ h => nomatch h⟩, fun claimed _ => ?_⟩
  cases claimed with
  | error e => exact rfl
  | ok claimed =>
      cases claimed with
      | none => exact rfl
      | some message =>
          refine ⟨⟨rfl, ⟨_, rfl⟩, fun _ h => nomatch h⟩, fun delivery _ => ?_⟩
          cases delivery with
          | ok _ =>
              refine ⟨⟨rfl, ⟨message, Or.inr rfl, rfl⟩, fun _ h => nomatch h⟩, fun x _ => ?_⟩
              cases x <;> exact rfl
          | error e =>
              show Follows _ _ (Prog.inl
                (ExceptT.run (if config.maxAttempts < message.retried.attempts then _ else _))) _
              split
              · next hmax =>
                  have hfits : message.retried.attempts < 2 ^ 32 := Nat.mod_lt _ (by decide)
                  refine ⟨⟨rfl, ⟨_, rfl, hmax⟩, ?_⟩, fun x _ => ?_⟩
                  · rintro m ⟨⟩
                    exact ⟨hmax, hfits⟩
                  cases x with
                  | error e => exact rfl
                  | ok _ =>
                      refine ⟨⟨rfl, ⟨_, Or.inl rfl, rfl⟩, fun _ h => nomatch h⟩, fun x _ => ?_⟩
                      cases x <;> exact rfl
              · next hmax =>
                  refine ⟨⟨rfl, ⟨_, rfl, Nat.le_of_not_lt hmax⟩, fun _ h => nomatch h⟩, fun x _ => ?_⟩
                  cases x <;> exact rfl

theorem processBatch_paces {left : Nat} :
    (config.processBatch left).Follows (pacingRules config) (fun _ q => q = between config none)
      (between config none) := by
  induction left with
  | zero => exact rfl
  | succ left ih =>
      refine ⟨trivial, fun (pending : Nat) _ => ?_⟩
      show Follows _ _ (if pending = 0 then _ else _) _
      split
      · exact rfl
      · refine follows_bind.mpr (processOnce_paces.mono fun outcome q hq => ?_)
        cases hq
        cases outcome with
        | error e => exact rfl
        | ok outcome =>
            cases outcome with
            | idle => exact rfl
            | delivered | deadLettered => exact follows_map.mpr (ih.mono fun _ _ h => h)
            | retrying attempts =>
                exact ⟨⟨attempts, rfl, rfl⟩, fun _ _ => follows_map.mpr (ih.mono fun _ _ h => h)⟩

theorem drainUntil_paces {deadline fuel : Nat} :
    (config.drainUntil deadline fuel).Follows (pacingRules config)
      (fun _ q => q = between config none) (between config none) := by
  induction fuel with
  | zero => exact rfl
  | succ fuel ih =>
      refine ⟨trivial, fun (now : Nat) _ => ?_⟩
      show Follows _ _ (if now < deadline then _ else _) _
      split
      · refine follows_bind.mpr (processBatch_paces.mono fun processed q hq => ?_)
        cases hq
        split
        · exact rfl
        · exact follows_map.mpr (ih.mono fun _ _ h => h)
      · exact rfl

/-- **The loop keeps to the rules.** -/
theorem run_paces {fuel : Nat} :
    (config.run fuel).Follows (pacingRules config) (fun _ q => q = between config none)
      (between config none) := by
  induction fuel with
  | zero => exact rfl
  | succ fuel ih =>
      refine ⟨trivial, fun (up : Bool) _ => ?_⟩
      cases up with
      | true => exact ⟨trivial, fun (now : Nat) _ => drainUntil_paces⟩
      | false =>
          show Follows _ _ (config.processBatch config.batchSize >>= _) _
          refine follows_bind.mpr (processBatch_paces.mono fun handled q hq => ?_)
          cases hq
          split
          · exact ih
          · exact ⟨trivial, fun _ _ => ih⟩

end Rules

/-! ## What every step keeps -/

/-- What was done to the stores. -/
def outboxLog (log : List LoopEntry) : List OutboxEntry :=
  log.filterMap fun e =>
    match e with
    | .did t ⟨.inl o, x⟩ => some (.did t ⟨o, x⟩)
    | _ => none

/-- Where the loop can stand. -/
def Holding.Works (maxAttempts : Nat) : Holding → Prop
  | .ready (.process k) | .claimed k _ | .failed k _ => k = maxAttempts
  | .parked _ | .delivered _ => True
  | _ => False

/-- Where those can stand who enqueue and replay. -/
def Holding.Feeds : Holding → Prop
  | .ready (.enqueue _) | .ready (.replay _) | .taken _ | .done => True
  | _ => False

/-- Where all threads stand with the outbox. -/
def holdings (φ : Nat → Pacing) : Nat → Holding := fun t => (φ t).holding

/-- A message in the queue has been through the pauses of its failures, up to the one the loop
still owes; one in the hands of the loop has been through all of them. -/
structure Unhurried (config : OutboxProcessorConfig) (w : LoopWorld) (φ : Nat → Pacing)
    (log : List LoopEntry) : Prop where
  sound : Sound config.maxAttempts w.stores (holdings φ) (outboxLog log)
  worker : (φ 0).holding.Works config.maxAttempts
  others : ∀ t, t ≠ 0 → (φ t).holding.Feeds ∧ (φ t).owed = none
  queued : ∀ m ∈ w.stores.outbox, RestedSince config log m.id m.attempts ∨
    (φ 0).owed = some m.attempts ∧ RestedSince config log m.id (m.attempts - 1)
  claimed : ∀ k m, (φ 0).holding = .claimed k m → RestedSince config log m.id m.attempts
  failed : ∀ k m, (φ 0).holding = .failed k m → RestedSince config log m.id (m.attempts - 1)
  letters : EachAfter (RestedLetter config) log

section Steps

variable {config : OutboxProcessorConfig} {w : LoopWorld} {φ : Nat → Pacing}
  {log : List LoopEntry} {t : Nat} {o : OutboxOp} {m : OutboxMessage}
  {H : Nat → Holding} {maxAttempts : Nat} {stores stores' : OutboxWorld} {l : List OutboxEntry}
  {deliverer : Deliverer} {x : o.Ans}

theorem holdings_update (q : Pacing) :
    holdings (Function.update φ t q) = Function.update (holdings φ) t q.holding := by
  funext t'
  by_cases ht : t' = t
  · rw [ht, holdings, Function.update_self, Function.update_self]
  · rw [holdings, Function.update_of_ne ht, Function.update_of_ne ht, holdings]

theorem outboxLog_did {x : o.Ans} :
    outboxLog (log ++ [.did t ⟨.inl o, x⟩]) = outboxLog log ++ [.did t ⟨o, x⟩] :=
  List.filterMap_append

theorem returned_outboxLog {r : OutboxReport} : .returned t r ∉ outboxLog log := by
  intro hr
  obtain ⟨e, -, he⟩ := List.mem_filterMap.mp hr
  split at he
  · cases he
  · cases he

/-- Nobody notices that a caller is ready for another call. -/
theorem Sound.renews (h : Sound maxAttempts stores (Function.update H t .done) l)
    (hl : ∀ r, .returned t r ∉ l) :
    Sound maxAttempts stores (Function.update H t (.ready (.process maxAttempts))) l := by
  obtain ⟨loc, hloc⟩ := h.located
  have hmessage (t' : Nat) : (Function.update H t (.ready (.process maxAttempts)) t').message =
      (Function.update H t .done t').message := by
    by_cases ht : t' = t
    · rw [ht, Function.update_self, Function.update_self]
      rfl
    · rw [Function.update_of_ne ht, Function.update_of_ne ht]
  have hready {t' : Nat} {m : OutboxMessage}
      (ht : Function.update H t (.ready (.process maxAttempts)) t' = .ready (.enqueue m)) :
      Function.update H t .done t' = .ready (.enqueue m) := by
    obtain ⟨hne, ht⟩ := update_ready (by rintro m ⟨⟩) ht
    rwa [Function.update_of_ne hne]
  refine ⟨⟨loc, ?_⟩, ?_, h.settled, fun t' r hr => ?_⟩
  · refine ⟨?_, hloc.enqueued, ?_, hloc.once, hloc.filed, ?_, ?_⟩
    · intro p id
      rw [← hloc.occupies p id]
      cases p with
      | held t' =>
          show (Function.update H t _ t').message.map _ = _ ↔ _
          rw [hmessage]
          exact Iff.rfl
      | queued | deadLettered | delivered => exact Iff.rfl
    · intro t'
      rw [hmessage]
      exact hloc.hand t'
    · exact fun t' m ht => hloc.fresh t' m (hready ht)
    · exact fun t₁ t₂ m₁ m₂ h₁ h₂ => hloc.apart t₁ t₂ m₁ m₂ (hready h₁) (hready h₂)
  · refine ⟨h.counted.queued, h.counted.dead, ?_, h.counted.bounded⟩
    refine (Function.forall_update_iff H fun _ => Tallied maxAttempts l).mpr ⟨rfl, ?_⟩
    intro t' ht
    have htally : Tallied maxAttempts l (Function.update H t .done t') := h.counted.tallied t'
    rwa [Function.update_of_ne ht] at htally
  · have hdone := h.returned t' r hr
    have hne : t' ≠ t := fun heq => hl r (heq ▸ hr)
    rw [Function.update_of_ne hne] at hdone ⊢
    exact hdone

/-- What is enqueued is not in the queue, nor in anyone's hands but the caller's. -/
theorem Sound.apart (h : Sound maxAttempts stores H l) (ho : outboxMonitor.allow (.enqueue m) (H t)) :
    (∀ x ∈ stores.outbox, x.id ≠ m.id) ∧
      ∀ t' x, t' ≠ t → (H t').message = some x → x.id ≠ m.id := by
  obtain ⟨loc, hl⟩ := h.located
  have horigin : loc m.id = none ∨ loc m.id = some (.held t) := by
    rcases ho with ht | ⟨m', ht, rfl⟩
    · exact Or.inl (hl.fresh t m ht)
    · refine Or.inr (hl.held_loc (m := m') ?_)
      rw [ht]
      rfl
  constructor
  · intro x hx hid
    have hqueued := (hl.occupies .queued x.id).mp ⟨x, hx, rfl⟩
    rw [hid] at hqueued
    rcases horigin with hm | hm
    · cases hqueued.symm.trans hm
    · cases hqueued.symm.trans hm
  · intro t' x hne hx hid
    have hheld := hl.held_loc hx
    rw [hid] at hheld
    rcases horigin with hm | hm
    · cases hheld.symm.trans hm
    · cases hheld.symm.trans hm
      exact hne rfl

/-- The stores after an operation, seen from where everyone stands then. -/
theorem Sound.after (hmax : maxAttempts + 1 < 2 ^ 32)
    (h : Sound maxAttempts stores (holdings φ) (outboxLog log))
    (ho : outboxMonitor.allow o (φ t).holding) (hx : memoryHandle deliverer o stores = (x, stores'))
    (owed : Option Nat) :
    Sound maxAttempts stores'
      (holdings (Function.update φ t
        ⟨renewed maxAttempts o (outboxMonitor.next o (φ t).holding x), owed⟩))
      (outboxLog (log ++ [.did t ⟨.inl o, x⟩])) := by
  have hstep := h.step (t := t) deliverer hmax ho
  rw [hx] at hstep
  rw [holdings_update, outboxLog_did]
  have hnone : ∀ r, .returned t r ∉ outboxLog log ++ [.did t ⟨o, x⟩] := by
    intro r hr
    rcases List.mem_append.mp hr with hr | hr
    · exact returned_outboxLog hr
    · cases List.mem_singleton.mp hr
  replace hstep : Sound maxAttempts stores'
    (Function.update (holdings φ) t (outboxMonitor.next o (φ t).holding x))
    (outboxLog log ++ [.did t ⟨o, x⟩]) := hstep
  generalize outboxMonitor.next o (φ t).holding x = q at hstep
  show Sound maxAttempts _ (Function.update (holdings φ) t (renewed maxAttempts o q)) _
  unfold renewed
  split
  · exact hstep
  · exact hstep
  · exact hstep.renews hnone
  · exact hstep

/-- The loop is not on its way through a call of the others. -/
theorem not_worker_enqueue (hworks : (φ 0).holding.Works maxAttempts) :
    ¬ outboxMonitor.allow (.enqueue m) (φ 0).holding := by
  rintro (hq | ⟨m', hq, -⟩)
  · rw [hq] at hworks
    exact hworks
  · rw [hq] at hworks
    exact hworks

/-- An operation that feeds nothing keeps what was rested. -/
theorem RestedSince.did {id : String} {n : Nat} {x : o.Ans} (h : RestedSince config log id n)
    (ho : ∀ m, o ≠ .enqueue m) : RestedSince config (log ++ [.did t ⟨.inl o, x⟩]) id n := by
  refine h.append ?_
  rintro ⟨t', m, heq, -⟩
  cases heq
  exact ho m rfl

/-- A step of the loop, from what it leaves of the loop. -/
theorem Unhurried.of_worker {q q' : Pacing} {e : LoopEntry} (h : Unhurried config w φ log)
    (hq : q' = q) (hsound : Sound config.maxAttempts stores' (holdings (Function.update φ 0 q'))
      (outboxLog (log ++ [e])))
    (hworks : q.holding.Works config.maxAttempts)
    (hqueued : ∀ m ∈ stores'.outbox, RestedSince config (log ++ [e]) m.id m.attempts ∨
      q.owed = some m.attempts ∧ RestedSince config (log ++ [e]) m.id (m.attempts - 1))
    (hclaimed : ∀ k m, q.holding = .claimed k m → RestedSince config (log ++ [e]) m.id m.attempts)
    (hfailed : ∀ k m, q.holding = .failed k m →
      RestedSince config (log ++ [e]) m.id (m.attempts - 1))
    (hletter : RestedLetter config log e) :
    Unhurried config { w with stores := stores' } (Function.update φ 0 q') (log ++ [e]) := by
  subst hq
  refine ⟨hsound, ?_, ?_, ?_, ?_, ?_, EachAfter.concat_iff.mpr ⟨h.letters, hletter⟩⟩
  · rwa [Function.update_self]
  · intro t ht
    rw [Function.update_of_ne ht]
    exact h.others t ht
  · rwa [Function.update_self]
  · rwa [Function.update_self]
  · rwa [Function.update_self]

/-- Only a dead letter has to have rested. -/
theorem RestedLetter.of_ne {e : Event ProcessorAns} (h : ∀ m, e.1 ≠ .inl (.putDeadLetter m)) :
    RestedLetter config log (.did t e) := by
  rintro t' m heq
  cases heq
  exact absurd rfl (h m)

/-- **One operation of the loop on the stores.** -/
theorem Unhurried.worker_step (hmax : config.maxAttempts + 1 < 2 ^ 32)
    (h : Unhurried config w φ log) (ho : (pacingRules config).allow (.inl o) (φ 0))
    (hx : memoryHandle deliverer o w.stores = (x, stores')) :
    Unhurried config { w with stores := stores' }
      (Function.update φ 0 ((pacingRules config).next (.inl o) (φ 0) x))
      (log ++ [.did 0 ⟨.inl o, x⟩]) := by
  obtain ⟨howed, hallow, hletter⟩ := ho
  have hsound := h.sound.after hmax hallow hx (owedAfter o x)
  have hfeed : ∀ m, o ≠ .enqueue m := by
    rintro m rfl
    exact not_worker_enqueue h.worker hallow
  have hqueued : ∀ m ∈ w.stores.outbox, RestedSince config log m.id m.attempts := by
    intro m hm
    rcases h.queued m hm with hm | ⟨hm, -⟩
    · exact hm
    · cases howed.symm.trans hm
  have hworks := h.worker
  cases o with
  | claim =>
      obtain ⟨k, hk⟩ := hallow
      rw [hk] at hworks
      cases hx
      cases hhead : w.stores.outbox.head? with
      | none =>
          have hq : (pacingRules config).next (.inl .claim) (φ 0) (.ok none) =
              between config none := by
            show Pacing.mk (renewed _ .claim (outboxMonitor.next .claim (φ 0).holding _)) none = _
            rw [hk]
            rfl
          rw [hhead] at hsound
          refine h.of_worker hq hsound rfl (fun m hm => Or.inl ?_) nofun nofun
            (RestedLetter.of_ne nofun)
          exact (hqueued m (List.mem_of_mem_tail hm)).did hfeed
      | some m =>
          have hq : (pacingRules config).next (.inl .claim) (φ 0) (.ok (some m)) =
              ⟨.claimed k m, none⟩ := by
            show Pacing.mk (renewed _ .claim (outboxMonitor.next .claim (φ 0).holding _)) none = _
            rw [hk]
            rfl
          rw [hhead] at hsound
          refine h.of_worker hq hsound hworks (fun m hm => Or.inl ?_) ?_ nofun
            (RestedLetter.of_ne nofun)
          · exact (hqueued m (List.mem_of_mem_tail hm)).did hfeed
          · rintro k' m' ⟨⟩
            exact (hqueued m (List.mem_of_mem_head? hhead)).did hfeed
  | deliver m =>
      obtain ⟨k, hk⟩ := hallow
      have hclaimed := h.claimed k m hk
      rw [hk] at hworks
      cases hx
      cases hanswer : deliverer w.stores.clock m with
      | ok _ =>
          have hq : (pacingRules config).next (.inl (.deliver m)) (φ 0) (.ok ()) =
              ⟨.delivered m, none⟩ := by
            show Pacing.mk (renewed _ (.deliver m) (outboxMonitor.next (.deliver m) _ _)) none = _
            rw [hk]
            rfl
          rw [hanswer] at hsound
          refine h.of_worker hq hsound trivial (fun m hm => Or.inl ?_) nofun nofun
            (RestedLetter.of_ne nofun)
          exact (hqueued m hm).did hfeed
      | error e =>
          have hq : (pacingRules config).next (.inl (.deliver m)) (φ 0) (.error e) =
              ⟨.failed k m.retried, none⟩ := by
            show Pacing.mk (renewed _ (.deliver m) (outboxMonitor.next (.deliver m) _ _)) none = _
            rw [hk]
            rfl
          rw [hanswer] at hsound
          refine h.of_worker hq hsound hworks (fun m hm => Or.inl ?_) nofun ?_
            (RestedLetter.of_ne nofun)
          · exact (hqueued m hm).did hfeed
          · rintro k' m' ⟨⟩
            have hle : m.retried.attempts - 1 ≤ m.attempts := by
              have : m.retried.attempts ≤ m.attempts + 1 := Nat.mod_le _ _
              omega
            exact (hclaimed.mono hle).did hfeed
  | ack id =>
      have hq : (pacingRules config).next (.inl (.ack id)) (φ 0) (.ok ()) = between config none := rfl
      cases hx
      refine h.of_worker hq hsound rfl (fun m hm => Or.inl ?_) nofun nofun
        (RestedLetter.of_ne nofun)
      exact (hqueued m hm).did hfeed
  | release m =>
      obtain ⟨k, hk, -⟩ := hallow
      have hfailed := h.failed k m hk
      have hq : (pacingRules config).next (.inl (.release m)) (φ 0) (.ok ()) =
          between config (some m.attempts) := rfl
      cases hx
      refine h.of_worker hq hsound rfl (fun m' hm' => ?_) nofun nofun
        (RestedLetter.of_ne nofun)
      rcases List.mem_append.mp hm' with hm' | hm'
      · exact Or.inl ((hqueued m' hm').did hfeed)
      · cases List.mem_singleton.mp hm'
        exact Or.inr ⟨rfl, hfailed.did hfeed⟩
  | enqueue m => exact absurd rfl (hfeed m)
  | putDeadLetter m =>
      obtain ⟨k, hk, -⟩ := hallow
      have hfailed := h.failed k m hk
      have hspent : config.maxAttempts ≤ m.attempts - 1 := Nat.le_sub_one_of_lt (hletter m rfl).1
      have hq : (pacingRules config).next (.inl (.putDeadLetter m)) (φ 0) (.ok ()) =
          ⟨.parked m, none⟩ := rfl
      cases hx
      refine h.of_worker hq hsound trivial (fun m' hm' => Or.inl ?_) nofun nofun ?_
      · exact (hqueued m' hm').did hfeed
      · rintro t m' ⟨⟩
        exact hfailed.mono hspent
  | takeDeadLetter id =>
      rw [hallow] at hworks
      exact hworks.elim

/-- **One operation of those who enqueue and replay.** -/
theorem Unhurried.feeder_step (hmax : config.maxAttempts + 1 < 2 ^ 32) (ht : t ≠ 0)
    (h : Unhurried config w φ log) (ho : (pacingRules config).allow (.inl o) (φ t))
    (hx : memoryHandle deliverer o w.stores = (x, stores')) :
    Unhurried config { w with stores := stores' }
      (Function.update φ t ((pacingRules config).next (.inl o) (φ t) x))
      (log ++ [.did t ⟨.inl o, x⟩]) := by
  obtain ⟨howed, hallow, -⟩ := ho
  have hsound := h.sound.after hmax hallow hx (owedAfter o x)
  have hfeeds := (h.others t ht).1
  have hloop {q : Pacing} : Function.update φ t q 0 = φ 0 := Function.update_of_ne ht.symm _ _
  have hothers {q : Pacing} (hq : q.holding.Feeds ∧ q.owed = none) (t' : Nat) (ht' : t' ≠ 0) :
      (Function.update φ t q t').holding.Feeds ∧ (Function.update φ t q t').owed = none :=
    (Function.forall_update_iff φ fun t' q => t' ≠ 0 → q.holding.Feeds ∧ q.owed = none).mpr
      ⟨fun _ => hq, fun t' _ => h.others t'⟩ t' ht'
  cases o with
  | enqueue m =>
      obtain ⟨hqueue, hhands⟩ := h.sound.apart hallow
      -- a message that was there is another one
      have hkeep {id : String} {n : Nat} {y : OutboxOp.Ans (.enqueue m)} (hid : id ≠ m.id)
          (hrested : RestedSince config log id n) :
          RestedSince config (log ++ [.did t ⟨.inl (.enqueue m), y⟩]) id n := by
        refine hrested.append ?_
        rintro ⟨t', m', heq, hm'⟩
        cases heq
        exact hid hm'.symm
      have hhand {q : Holding} {m' : OutboxMessage} (hq : (φ 0).holding = q)
          (hm' : q.message = some m') : m'.id ≠ m.id :=
        hhands 0 m' ht.symm (hq ▸ hm' : (φ 0).holding.message = some m')
      have hattempts : m.attempts = 0 := by
        have htally : Tallied config.maxAttempts (outboxLog log) (φ t).holding :=
          h.sound.counted.tallied t
        rcases hallow with hq | ⟨m', -, rfl⟩
        · rw [hq] at htally
          exact htally
        · rfl
      cases hx
      refine ⟨hsound, ?_, ?_, ?_, ?_, ?_, EachAfter.concat_iff.mpr
        ⟨h.letters, RestedLetter.of_ne nofun⟩⟩
      · rw [hloop]
        exact h.worker
      · exact hothers ⟨trivial, rfl⟩
      · rw [hloop]
        intro m' hm'
        rcases List.mem_append.mp hm' with hm' | hm'
        · have hne := hqueue m' hm'
          exact (h.queued m' hm').imp (hkeep hne) fun hm => ⟨hm.1, hkeep hne hm.2⟩
        · cases List.mem_singleton.mp hm'
          rw [hattempts]
          exact Or.inl .zero
      · rw [hloop]
        exact fun k m' hm' => hkeep (hhand hm' rfl) (h.claimed k m' hm')
      · rw [hloop]
        exact fun k m' hm' => hkeep (hhand hm' rfl) (h.failed k m' hm')
  | takeDeadLetter id =>
      have hkeep {j : String} {n : Nat} (hrested : RestedSince config log j n) :
          RestedSince config (log ++ [.did t ⟨.inl (.takeDeadLetter id), x⟩]) j n :=
        hrested.did nofun
      have hq : ((pacingRules config).next (.inl (.takeDeadLetter id)) (φ t) x).holding.Feeds := by
        cases x with
        | error e => exact trivial
        | ok taken => cases taken <;> exact trivial
      cases hx
      refine ⟨hsound, ?_, hothers ⟨hq, rfl⟩, ?_, ?_, ?_, EachAfter.concat_iff.mpr
        ⟨h.letters, RestedLetter.of_ne nofun⟩⟩
      · rw [hloop]
        exact h.worker
      · rw [hloop]
        exact fun m hm => (h.queued m hm).imp hkeep fun hm => ⟨hm.1, hkeep hm.2⟩
      · rw [hloop]
        exact fun k m hm => hkeep (h.claimed k m hm)
      · rw [hloop]
        exact fun k m hm => hkeep (h.failed k m hm)
  | claim =>
      obtain ⟨k, hk⟩ := hallow
      rw [hk] at hfeeds
      exact hfeeds.elim
  | deliver m =>
      obtain ⟨k, hk⟩ := hallow
      rw [hk] at hfeeds
      exact hfeeds.elim
  | ack id =>
      obtain ⟨m, hk | hk, -⟩ := hallow
      · rw [hk] at hfeeds
        exact hfeeds.elim
      · rw [hk] at hfeeds
        exact hfeeds.elim
  | release m | putDeadLetter m =>
      obtain ⟨k, hk, -⟩ := hallow
      rw [hk] at hfeeds
      exact hfeeds.elim

/-- The thread sleeps off what it owes. -/
theorem Unhurried.sleep_step {d : Duration} {n : Nat} (h : Unhurried config w φ log)
    (ho : (pacingRules config).allow (.inr (.sleep d)) (φ t)) :
    Unhurried config { w with looks := n } (Function.update φ t ⟨(φ t).holding, none⟩)
      (log ++ [.did t ⟨.inr (.sleep d), ()⟩]) := by
  obtain ⟨a, howed, rfl⟩ := ho
  obtain rfl : t = 0 := by
    by_contra ht
    cases howed.symm.trans (h.others t ht).2
  have hkeep {id : String} {k : Nat} (hrested : RestedSince config log id k) :
      RestedSince config (log ++ [.did 0 ⟨.inr (.sleep (config.pause a)), ()⟩]) id k := by
    refine hrested.append ?_
    rintro ⟨t', m, heq, -⟩
    cases heq
  have hsame : holdings (Function.update φ 0 ⟨(φ 0).holding, none⟩) = holdings φ := by
    rw [holdings_update]
    exact Function.update_eq_self 0 _
  have hlog : outboxLog (log ++ [.did 0 ⟨.inr (.sleep (config.pause a)), ()⟩]) = outboxLog log :=
    List.filterMap_append.trans (List.append_nil _)
  refine ⟨?_, ?_, ?_, ?_, ?_, ?_, EachAfter.concat_iff.mpr ⟨h.letters, RestedLetter.of_ne nofun⟩⟩
  · rw [hsame, hlog]
    exact h.sound
  · rw [Function.update_self]
    exact h.worker
  · intro t ht
    rw [Function.update_of_ne ht]
    exact h.others t ht
  · intro m hm
    refine Or.inl ?_
    rcases h.queued m hm with hrested | ⟨hattempts, hrested⟩
    · exact hkeep hrested
    · obtain rfl : a = m.attempts := Option.some.inj (howed.symm.trans hattempts)
      cases ha : m.attempts with
      | zero => exact .zero
      | succ k =>
          rw [ha] at hrested
          exact hrested.sleep
  · rw [Function.update_self]
    exact fun k m hm => hkeep (h.claimed k m hm)
  · rw [Function.update_self]
    exact fun k m hm => hkeep (h.failed k m hm)

/-- A look, or the end of a procedure, is nothing the messages notice. -/
theorem Unhurried.notes {e : LoopEntry} {n : Nat} (h : Unhurried config w φ log)
    (hlog : outboxLog [e] = []) (hfeed : ∀ id, ¬ Feed id e) (hletter : RestedLetter config log e) :
    Unhurried config { w with looks := n } φ (log ++ [e]) := by
  have hsame : outboxLog (log ++ [e]) = outboxLog log := by
    rw [outboxLog, List.filterMap_append]
    exact (congrArg _ hlog).trans (List.append_nil _)
  refine ⟨?_, h.worker, h.others, ?_, ?_, ?_, EachAfter.concat_iff.mpr ⟨h.letters, hletter⟩⟩
  · rw [hsame]
    exact h.sound
  · intro m hm
    exact (h.queued m hm).imp (·.append (hfeed _)) fun hm => ⟨hm.1, hm.2.append (hfeed _)⟩
  · exact fun k m hm => (h.claimed k m hm).append (hfeed _)
  · exact fun k m hm => (h.failed k m hm).append (hfeed _)

end Steps

/-! ## Runs -/

/-- The process, interleaved as `ts` says. -/
def loopRun (env : LoopEnv) (config : OutboxProcessorConfig) (fuel : Nat) (calls : List OutboxCall)
    (ts : List Nat) : LoopPool :=
  Pool.run env.handle.shared ts (loopStart config fuel calls)

section Runs

variable {config : OutboxProcessorConfig} {env : LoopEnv} {fuel : Nat} {calls : List OutboxCall}

/-- Before anything happens. -/
def pacingAt (config : OutboxProcessorConfig) (calls : List OutboxCall) (t : Nat) : Pacing :=
  ⟨readyAt (.process config.maxAttempts :: calls) t, none⟩

theorem feeder_paces {call : OutboxCall} (h : ∀ k, call ≠ .process k) :
    (call.prog.inl : ProcessorRun _).Follows (pacingRules config) (fun _ _ => True)
      ⟨.ready call, none⟩ := by
  cases call with
  | enqueue m => exact ⟨⟨rfl, Or.inl rfl, nofun⟩, fun _ _ => trivial⟩
  | process k => exact absurd rfl (h k)
  | replay id =>
      refine ⟨⟨rfl, rfl, nofun⟩, fun taken _ => ?_⟩
      cases taken with
      | error e => exact trivial
      | ok taken =>
          cases taken with
          | none => exact trivial
          | some m =>
              refine ⟨⟨rfl, Or.inr ⟨m, rfl, rfl⟩, nofun⟩, fun x _ => ?_⟩
              cases x <;> exact trivial

theorem loopStart_follow (h : Feeds calls) :
    Pool.AllFollow (pacingRules config) (fun _ _ _ => True) (pacingAt config calls)
      (loopStart config fuel calls) := by
  intro t p hp
  cases t with
  | zero =>
      cases hp
      exact follows_map.mpr (run_paces.mono fun _ _ _ => trivial)
  | succ t =>
      have hp : (calls.map fun call => (fun _ => ()) <$> (call.prog.inl : ProcessorRun _))[t]? =
          some p := hp
      rw [List.getElem?_map] at hp
      obtain ⟨call, hcall, rfl⟩ := Option.map_eq_some_iff.mp hp
      have hready : pacingAt config calls (t + 1) = ⟨.ready call, none⟩ := by
        show Pacing.mk (readyAt calls t) none = _
        rw [readyAt_of_call hcall]
      rw [hready]
      refine follows_map.mpr (feeder_paces fun k hk => ?_)
      exact h.idle k (hk ▸ List.mem_of_getElem? hcall)

theorem Unhurried.start (h : Feeds calls) :
    Unhurried config ⟨.empty, 0⟩ (pacingAt config calls) [] := by
  have hregular : Regular config.maxAttempts (.process config.maxAttempts :: calls) := by
    refine ⟨⟨?_, ?_⟩, ?_⟩
    · intro m hm
      rcases List.mem_cons.mp hm with hm | hm
      · cases hm
      · exact h.fresh m hm
    · exact List.pairwise_cons.mpr ⟨fun _ _ m hm => (nomatch hm), h.distinct⟩
    · intro k hk
      rcases List.mem_cons.mp hk with hk | hk
      · cases hk
        rfl
      · exact absurd hk (h.idle k)
  refine ⟨Sound.start hregular, rfl, ?_, fun m hm => (nomatch hm), fun k m hm => (nomatch hm),
    fun k m hm => (nomatch hm), EachAfter.nil⟩
  intro t ht
  refine ⟨?_, rfl⟩
  obtain ⟨t, rfl⟩ := Nat.exists_eq_succ_of_ne_zero ht
  show (readyAt calls t).Feeds
  rcases @readyAt_cases calls t with ⟨call, hq⟩ | hq
  · have hmem := List.mem_of_getElem? (readyAt_ready hq)
    rw [hq]
    cases call with
    | enqueue m | replay id => exact trivial
    | process k => exact absurd hmem (h.idle k)
  · rw [hq]
    trivial

variable (env fuel) in
/-- **The run**, as long as the counter can tell the failures apart. -/
theorem unhurried_run (hmax : config.maxAttempts + 1 < 2 ^ 32) (h : Feeds calls) (ts : List Nat) :
    ∃ φ, Unhurried config (loopRun env config fuel calls ts).world φ
      (loopRun env config fuel calls ts).log := by
  refine (Pool.run_invariant (C := fun _ _ _ => True) (I := Unhurried config) ?_ ts
    (Unhurried.start h) (loopStart_follow h) Pool.stepsMeet_true).imp fun _ hφ => hφ.1
  intro w φ l t o x w' hi ho _ hx
  obtain ⟨rfl, rfl⟩ := Handler.shared_eq_some.mp hx
  have hdid : Unhurried config (env.handle o w).2
      (Function.update φ t ((pacingRules config).next o (φ t) (env.handle o w).1))
      (l ++ [.did t ⟨o, (env.handle o w).1⟩]) := by
    have hlook {o : LoopOp} (hq : (pacingRules config).next (.inr o) (φ t)
        (env.handle (.inr o) w).1 = φ t) :
        Unhurried config (env.handle (.inr o) w).2
          (Function.update φ t ((pacingRules config).next (.inr o) (φ t) (env.handle (.inr o) w).1))
          (l ++ [.did t ⟨.inr o, (env.handle (.inr o) w).1⟩]) := by
      rw [hq, Function.update_eq_self]
      refine hi.notes rfl ?_ (RestedLetter.of_ne nofun)
      rintro id ⟨t', m, heq, -⟩
      cases heq
    cases o with
    | inl o =>
        by_cases ht : t = 0
        · subst ht
          exact hi.worker_step hmax ho rfl
        · exact hi.feeder_step hmax ht ho rfl
    | inr o =>
        cases o with
        | sleep d => exact hi.sleep_step ho
        | outboxLen | shutdown | now | pause d => exact hlook rfl
  refine ⟨trivial, hdid, fun a _ => ?_⟩
  rw [List.append_cons]
  refine hdid.notes rfl ?_ ?_
  · rintro id ⟨t', m, heq, -⟩
    cases heq
  · rintro t' m heq
    cases heq

/-- A counter that cannot exceed the limit gives nothing up. -/
theorem no_letters (hmax : ¬ config.maxAttempts + 1 < 2 ^ 32) (h : Feeds calls) (ts : List Nat) :
    EachAfter (RestedLetter config) (loopRun env config fuel calls ts).log := by
  refine (Pool.run_invariant (C := fun _ _ _ => True)
    (I := fun _ _ l => EachAfter (RestedLetter config) l) ?_ ts EachAfter.nil
    (loopStart_follow h) Pool.stepsMeet_true).elim fun _ hφ => hφ.1
  intro w φ l t o x w' hi ho _ hx
  have hdid : EachAfter (RestedLetter config) (l ++ [.did t ⟨o, x⟩]) := by
    refine EachAfter.concat_iff.mpr ⟨hi, ?_⟩
    rintro t' m heq
    cases heq
    obtain ⟨hspent, hfits⟩ := ho.2.2 m rfl
    omega
  refine ⟨trivial, hdid, fun a _ => ?_⟩
  rw [List.append_cons]
  refine EachAfter.concat_iff.mpr ⟨hdid, ?_⟩
  rintro t' m heq
  cases heq

/-- **Nothing is given up in a hurry.**  A message that is dead-lettered has been through the
pauses of all its attempts since it was enqueued, and since it was last replayed. -/
theorem deadLetters_rested (config : OutboxProcessorConfig) (env : LoopEnv) (fuel : Nat)
    (h : Feeds calls) (ts : List Nat) :
    EachAfter (RestedLetter config) (loopRun env config fuel calls ts).log := by
  by_cases hmax : config.maxAttempts + 1 < 2 ^ 32
  · obtain ⟨φ, hunhurried⟩ := unhurried_run env fuel hmax h ts
    exact hunhurried.letters
  · exact no_letters hmax h ts

end Runs

/-- One failure is allowed, and the endpoint is down. -/
def Sample.impatient : OutboxProcessorConfig := { maxAttempts := 1 }

def Sample.down : LoopEnv := ⟨deliveryDown, fun _ => false, fun _ => 0⟩

theorem deadLetters_rested_down :
    Feeds [.enqueue Sample.notice] ∧
      EachAfter (RestedLetter Sample.impatient)
        (loopRun Sample.down Sample.impatient 1 [.enqueue Sample.notice]
          (1 :: List.replicate 10 0)).log ∧
      .did 0 ⟨.inl (.putDeadLetter Sample.notice.retried.retried), .ok ()⟩ ∈
        (loopRun Sample.down Sample.impatient 1 [.enqueue Sample.notice]
          (1 :: List.replicate 10 0)).log := by
  have hfeeds : Feeds [.enqueue Sample.notice] := by
    refine ⟨⟨?_, List.pairwise_singleton _ _⟩, ?_⟩
    · intro m hm
      cases List.mem_singleton.mp hm
      rfl
    · intro k hk
      cases List.mem_singleton.mp hk
  exact ⟨hfeeds, deadLetters_rested Sample.impatient Sample.down 1 hfeeds _,
    List.mem_of_getElem? (i := 11) rfl⟩

end Orchestrator
