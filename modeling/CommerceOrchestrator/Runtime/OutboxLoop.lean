/-
# `CommerceOrchestrator.Runtime.OutboxLoop` — the loop that drains the outbox

The background processor works off the outbox in batches until it is asked to stop, and then
drains what is left until a deadline.  The loop need not end, so it is given fuel, and returns
nothing if that runs out first: what holds for every fuel holds of every beginning of a run.

`LoopWatch` is what one has seen of the loop so far, and `loopRules` what it may do next: how many
messages it may claim before it looks at the flag or the clock again, when it has to pause,
and when it may stop.  It keeps to the rules whatever the stores, the endpoint and the clock
answer (`outboxLoop_keeps_rules`).
-/
import CommerceOrchestrator.Effect.Sum
import CommerceOrchestrator.Runtime.Outbox
import CommerceOrchestrator.Runtime.OutboxProcessor

namespace Orchestrator

open Effect Prog

/-! ## The procedures -/

/-- What the loop does beside its calls on the outbox.  `pause` ends after the interval, or as
soon as the flag changes; times are in nanoseconds. -/
inductive LoopOp
  | outboxLen
  | shutdown
  | now
  | sleep (d : Duration)
  | pause (interval : Duration)
deriving DecidableEq

abbrev LoopOp.Ans : LoopOp → Type
  | .outboxLen | .now => Nat
  | .shutdown => Bool
  | .sleep _ | .pause _ => Unit

abbrev ProcessorAns := SumAns OutboxOp.Ans LoopOp.Ans

abbrev ProcessorRun := Prog ProcessorAns

/-- `o.await`. -/
def LoopOp.await (o : LoopOp) : ProcessorRun o.Ans :=
  perform (Sum.inr o : OutboxOp ⊕ LoopOp)

namespace OutboxProcessorConfig

/-- Up to `left` messages, with a pause after each failed delivery: how many were handled. -/
def processBatch (config : OutboxProcessorConfig) : Nat → ProcessorRun Nat
  | 0 => return 0
  | left + 1 => do
      if (← LoopOp.outboxLen.await) = 0 then
        return 0
      match ← (processOutboxOnceReporting config.maxAttempts).run.inl with
      | .ok .idle | .error _ => return 0
      | .ok .delivered | .ok .deadLettered => return (← config.processBatch left) + 1
      | .ok (.retrying attempts) =>
          (LoopOp.sleep (config.pause attempts)).await
          return (← config.processBatch left) + 1

/-- The batches of `drain`. -/
def drainUntil (config : OutboxProcessorConfig) (deadline : Nat) : Nat → ProcessorRun (Option Nat)
  | 0 => return none
  | fuel + 1 => do
      if (← LoopOp.now.await) < deadline then
        let processed ← config.processBatch config.batchSize
        if processed = 0 then
          return some 0
        return (← config.drainUntil deadline fuel).map (processed + ·)
      else
        return some 0

/-- Drain until the outbox is empty or the timeout expires: how many messages were handled. -/
def drain (config : OutboxProcessorConfig) (fuel : Nat) : ProcessorRun (Option Nat) := do
  config.drainUntil ((← LoopOp.now.await) + config.drainTimeout.val) fuel

/-- Run until the flag is up, then drain what remains. -/
def run (config : OutboxProcessorConfig) : Nat → ProcessorRun (Option Nat)
  | 0 => return none
  | fuel + 1 => do
      if ← LoopOp.shutdown.await then
        config.drain fuel
      else
        let handled ← config.processBatch config.batchSize
        if 0 < handled then
          config.run fuel
        else
          (LoopOp.pause config.interval).await
          config.run fuel

end OutboxProcessorConfig

/-! ## The rules -/

/-- How far the loop is: it looks at the flag, works off the outbox, was asked to stop, and
then has a deadline to drain by, which is ahead or has passed. -/
inductive LoopPhase
  | starting
  | serving
  | asked
  | bound (deadline : Nat)
  | draining (deadline : Nat)
  | over (deadline : Nat)
deriving DecidableEq, Repr

/-- What was seen of the loop; `claims`, `handled`, `stuck` and `rested` count from when it
last looked at the flag or the clock. -/
structure LoopWatch where
  phase : LoopPhase := .starting
  claims : Nat := 0
  /-- A message was delivered, dead-lettered or given back. -/
  handled : Bool := false
  /-- The outbox was found empty, or a store failed. -/
  stuck : Bool := false
  rested : Bool := false
  /-- The pause a failed delivery asks for. -/
  owed : Option Duration := none

/-- The phases in which messages are claimed. -/
def LoopPhase.Works : LoopPhase → Prop
  | .serving | .draining _ => True
  | _ => False

namespace LoopWatch

variable (config : OutboxProcessorConfig)

/-- After one more call on the outbox. -/
def noteCall (s : LoopWatch) : (o : OutboxOp) → o.Ans → LoopWatch
  | .claim, .ok (some _) => { s with claims := s.claims + 1 }
  | .claim, _ => { s with claims := s.claims + 1, stuck := true }
  | .ack _, .ok _ => { s with handled := true }
  | .release message, .ok _ =>
      { s with handled := true, owed := some (config.pause message.attempts) }
  | .ack _, .error _ | .release _, .error _ | .putDeadLetter _, .error _ =>
      { s with stuck := true }
  | _, _ => s

/-- After one more look at the clock: the first one after the flag fixes the deadline. -/
def noteClock (s : LoopWatch) (now : Nat) : LoopWatch :=
  match s.phase with
  | .asked => { phase := .bound (now + config.drainTimeout.val) }
  | .bound deadline | .draining deadline | .over deadline =>
      { phase := if now < deadline then .draining deadline else .over deadline }
  | .starting | .serving => s

/-- After one more look, or a pause. -/
def noteLook (s : LoopWatch) : (o : LoopOp) → o.Ans → LoopWatch
  | .outboxLen, n => { s with stuck := s.stuck || decide (n = (0 : Nat)) }
  | .shutdown, true => { phase := .asked }
  | .shutdown, false => { phase := .serving }
  | .now, now => s.noteClock config now
  | .sleep _, _ => { s with owed := none }
  | .pause _, _ => { s with rested := true }

def note (s : LoopWatch) : (o : OutboxOp ⊕ LoopOp) → ProcessorAns o → LoopWatch
  | .inl o, x => s.noteCall config o x
  | .inr o, x => s.noteLook config o x

/-- What the loop may do next. -/
def Allows (s : LoopWatch) : OutboxOp ⊕ LoopOp → Prop
  /- a batch at most, while there is work, and not after the deadline -/
  | .inl .claim => s.phase.Works ∧ s.claims < config.batchSize ∧ s.stuck = false ∧ s.owed = none
  | .inl _ | .inr .outboxLen => s.phase.Works ∧ s.owed = none
  /- the pause after a failed delivery, and nothing in its place -/
  | .inr (.sleep d) => s.owed = some d
  /- no look at the flag after another unless something was done or it rested in between -/
  | .inr .shutdown =>
      s.owed = none ∧
        (s.phase = .starting ∨ s.phase = .serving ∧ (s.handled = true ∨ s.rested = true))
  | .inr (.pause d) =>
      s.owed = none ∧ s.phase = .serving ∧ d = config.interval ∧ s.handled = false
  | .inr .now =>
      s.owed = none ∧ (s.phase = .asked ∨ (∃ deadline, s.phase = .bound deadline) ∨
        ∃ deadline, s.phase = .draining deadline ∧ s.handled = true)

/-- The loop stops when its deadline has passed, or when it finds nothing to do. -/
def Ends (s : LoopWatch) : Prop :=
  s.owed = none ∧ ((∃ deadline, s.phase = .over deadline) ∨
    (∃ deadline, s.phase = .draining deadline) ∧ s.handled = false ∧
      (s.stuck = true ∨ config.batchSize = 0))

end LoopWatch

/-- The rules of the loop. -/
def loopRules (config : OutboxProcessorConfig) : Monitor ProcessorAns LoopWatch where
  allow o s := s.Allows config o
  next o s x := s.note config o x

/-! ## A batch -/

section Batch

variable {config : OutboxProcessorConfig} {left n : Nat} {s s' : LoopWatch}

/-- The loop may claim `left` messages more. -/
structure LoopWatch.Claims (config : OutboxProcessorConfig) (left : Nat) (s : LoopWatch) : Prop where
  works : s.phase.Works
  claims : s.claims + left ≤ config.batchSize
  stuck : s.stuck = false
  owed : s.owed = none

/-- A batch that handled `n` messages out of `left`. -/
structure LoopWatch.Batched (s : LoopWatch) (left n : Nat) (s' : LoopWatch) : Prop where
  phase : s'.phase = s.phase
  owed : s'.owed = none
  handled : s'.handled = (s.handled || decide (0 < n))
  stuck : n < left → s'.stuck = true

/-- What one call on the outbox leaves for the rest of the batch. -/
def LoopWatch.Called (config : OutboxProcessorConfig) (s : LoopWatch) :
    Except StoreError OutboxOutcome → LoopWatch → Prop
  | .ok .idle, s' | .error _, s' =>
      s'.phase = s.phase ∧ s'.owed = none ∧ s'.handled = s.handled ∧ s'.stuck = true
  | .ok .delivered, s' | .ok .deadLettered, s' =>
      s' = { s with claims := s.claims + 1, handled := true }
  | .ok (.retrying attempts), s' =>
      s' = { s with claims := s.claims + 1, handled := true, owed := some (config.pause attempts) }

theorem processOnce_called (h : s.Claims config (left + 1)) :
    ((processOutboxOnceReporting config.maxAttempts).run.inl : ProcessorRun _).Follows
      (loopRules config) (s.Called config) s := by
  have hclaims : s.claims < config.batchSize := by
    have := h.claims
    omega
  refine ⟨⟨h.works, hclaims, h.stuck, h.owed⟩, fun claimed _ => ?_⟩
  cases claimed with
  | error e => exact ⟨rfl, h.owed, rfl, rfl⟩
  | ok claimed =>
      cases claimed with
      | none => exact ⟨rfl, h.owed, rfl, rfl⟩
      | some message =>
          refine ⟨⟨h.works, h.owed⟩, fun delivery _ => ?_⟩
          cases delivery with
          | ok _ =>
              refine ⟨⟨h.works, h.owed⟩, fun x _ => ?_⟩
              cases x with
              | error e => exact ⟨rfl, h.owed, rfl, rfl⟩
              | ok _ => exact rfl
          | error e =>
              show Follows _ _ (Prog.inl
                (ExceptT.run (if config.maxAttempts < message.retried.attempts then _ else _))) _
              split
              · refine ⟨⟨h.works, h.owed⟩, fun x _ => ?_⟩
                cases x with
                | error e => exact ⟨rfl, h.owed, rfl, rfl⟩
                | ok _ =>
                    refine ⟨⟨h.works, h.owed⟩, fun x _ => ?_⟩
                    cases x with
                    | error e => exact ⟨rfl, h.owed, rfl, rfl⟩
                    | ok _ => exact rfl
              · refine ⟨⟨h.works, h.owed⟩, fun x _ => ?_⟩
                cases x with
                | error e => exact ⟨rfl, h.owed, rfl, rfl⟩
                | ok _ => exact rfl

variable (config) in
/-- A look at an outbox that is not empty. -/
theorem LoopWatch.note_pending (h : s.stuck = false) {pending : Nat} (hpending : pending ≠ 0) :
    s.noteLook config .outboxLen pending = s := by
  obtain ⟨phase, claims, handled, stuck, rested, owed⟩ := s
  obtain rfl : stuck = false := h
  simp [noteLook, hpending]

/-- One more message handled, and then `n` out of `left`. -/
theorem LoopWatch.Batched.step {t : LoopWatch} (ht : t.phase = s.phase) (hhandled : t.handled = true)
    (h : t.Batched left n s') : s.Batched (left + 1) (n + 1) s' where
  phase := h.phase.trans ht
  owed := h.owed
  handled := by simp [h.handled, hhandled]
  stuck hlt := h.stuck (Nat.lt_of_succ_lt_succ hlt)

/-- **A batch keeps to the rules**, and says how many messages it handled. -/
theorem processBatch_batched (h : s.Claims config left) :
    (config.processBatch left).Follows (loopRules config) (s.Batched left) s := by
  induction left generalizing s with
  | zero => exact ⟨rfl, h.owed, by simp, fun hlt => absurd hlt (Nat.lt_irrefl 0)⟩
  | succ left ih =>
      refine ⟨⟨h.works, h.owed⟩, fun (pending : Nat) _ => ?_⟩
      by_cases hpending : pending = 0
      · show Follows _ _ (if pending = 0 then _ else _) _
        rw [if_pos hpending]
        refine ⟨rfl, h.owed, by simp [loopRules, LoopWatch.note, LoopWatch.noteLook], fun _ => ?_⟩
        simp [loopRules, LoopWatch.note, LoopWatch.noteLook, hpending]
      · have hseen : (loopRules config).next (.inr .outboxLen) s pending = s :=
          LoopWatch.note_pending config h.stuck hpending
        rw [hseen]
        show Follows _ _ (if pending = 0 then _ else _) _
        rw [if_neg hpending]
        refine follows_bind.mpr ((processOnce_called h).mono fun outcome t hcalled => ?_)
        have hleft : s.claims + 1 + left ≤ config.batchSize := by
          have := h.claims
          omega
        have hrest {t : LoopWatch} (ht : t.phase = s.phase) (hclaims : t.claims = s.claims + 1)
            (hstuck : t.stuck = false) (howed : t.owed = none) (hhandled : t.handled = true) :
            ((fun n => n + 1) <$> config.processBatch left).Follows (loopRules config)
              (s.Batched (left + 1)) t := by
          refine follows_map.mpr ((ih ⟨ht ▸ h.works, hclaims ▸ hleft, hstuck, howed⟩).mono ?_)
          exact fun n s' hbatched => hbatched.step ht hhandled
        cases outcome with
        | error e =>
            obtain ⟨hphase, howed, hhandled, hstuck⟩ := hcalled
            exact ⟨hphase, howed, by simp [hhandled], fun _ => hstuck⟩
        | ok outcome =>
            cases outcome with
            | idle =>
                obtain ⟨hphase, howed, hhandled, hstuck⟩ := hcalled
                exact ⟨hphase, howed, by simp [hhandled], fun _ => hstuck⟩
            | delivered | deadLettered =>
                obtain rfl : t = _ := hcalled
                exact hrest rfl rfl h.stuck h.owed rfl
            | retrying attempts =>
                obtain rfl : t = _ := hcalled
                exact ⟨rfl, fun _ _ => hrest rfl rfl h.stuck rfl rfl⟩

end Batch

/-! ## The loop -/

section Loop

variable {config : OutboxProcessorConfig} {deadline : Nat} {s : LoopWatch}

/-- The result of a batch as the loop reads it. -/
theorem LoopWatch.Batched.ends
    (h : ({ phase := .draining deadline } : LoopWatch).Batched config.batchSize 0 s) :
    s.Ends config := by
  refine ⟨h.owed, Or.inr ⟨⟨deadline, h.phase⟩, h.handled, ?_⟩⟩
  rcases Nat.eq_zero_or_pos config.batchSize with hzero | hpos
  · exact Or.inr hzero
  · exact Or.inl (h.stuck hpos)

/-- The loop may look at the clock. -/
def LoopWatch.Watches (s : LoopWatch) (deadline : Nat) : Prop :=
  s.owed = none ∧ (s.phase = .bound deadline ∨ s.phase = .draining deadline ∧ s.handled = true)

theorem drainUntil_follows {fuel : Nat} (h : s.Watches deadline) :
    (config.drainUntil deadline fuel).Follows (loopRules config)
      (fun r s => ∀ n, r = some n → s.Ends config) s := by
  induction fuel generalizing s with
  | zero => exact fun n hn => nomatch hn
  | succ fuel ih =>
      obtain ⟨howed, hphase⟩ := h
      refine ⟨⟨howed, ?_⟩, fun (now : Nat) _ => ?_⟩
      · rcases hphase with hphase | hphase
        · exact Or.inr (Or.inl ⟨deadline, hphase⟩)
        · exact Or.inr (Or.inr ⟨deadline, hphase⟩)
      have hclock : (loopRules config).next (.inr .now) s now =
          { phase := if now < deadline then .draining deadline else .over deadline } := by
        show s.noteClock config now = _
        rcases hphase with hphase | ⟨hphase, -⟩
        · simp only [LoopWatch.noteClock, hphase]
        · simp only [LoopWatch.noteClock, hphase]
      rw [hclock]
      show Follows _ _ (if now < deadline then _ else _) _
      by_cases hnow : now < deadline
      · rw [if_pos hnow, if_pos hnow]
        have hclaims : LoopWatch.Claims config config.batchSize { phase := .draining deadline } :=
          ⟨trivial, Nat.le_of_eq (Nat.zero_add _), rfl, rfl⟩
        refine follows_bind.mpr ((processBatch_batched hclaims).mono fun processed s' hbatched => ?_)
        by_cases hprocessed : processed = 0
        · rw [if_pos hprocessed]
          exact fun n _ => (hprocessed ▸ hbatched).ends
        · rw [if_neg hprocessed]
          have hhandled : s'.handled = true := by
            rw [hbatched.handled]
            exact decide_eq_true (Nat.pos_of_ne_zero hprocessed)
          refine follows_map.mpr ((ih ⟨hbatched.owed, Or.inr ⟨hbatched.phase, hhandled⟩⟩).mono ?_)
          intro r s'' hends n hn
          obtain ⟨drained, hdrained, -⟩ := Option.map_eq_some_iff.mp hn
          exact hends drained hdrained
      · rw [if_neg hnow, if_neg hnow]
        exact fun n _ => ⟨rfl, Or.inl ⟨deadline, rfl⟩⟩

/-- The loop may look at the flag. -/
def LoopWatch.Turns (s : LoopWatch) : Prop :=
  s.owed = none ∧
    (s.phase = .starting ∨ s.phase = .serving ∧ (s.handled = true ∨ s.rested = true))

theorem run_follows {fuel : Nat} (h : s.Turns) :
    (config.run fuel).Follows (loopRules config)
      (fun r s => ∀ n, r = some n → s.Ends config) s := by
  induction fuel generalizing s with
  | zero => exact fun n hn => nomatch hn
  | succ fuel ih =>
      refine ⟨h, fun (up : Bool) _ => ?_⟩
      cases up with
      | true =>
          refine ⟨⟨rfl, Or.inl rfl⟩, fun (now : Nat) _ => ?_⟩
          exact drainUntil_follows ⟨rfl, Or.inl rfl⟩
      | false =>
          have hclaims : LoopWatch.Claims config config.batchSize { phase := .serving } :=
            ⟨trivial, Nat.le_of_eq (Nat.zero_add _), rfl, rfl⟩
          show Follows _ _ (config.processBatch config.batchSize >>= _) _
          refine follows_bind.mpr ((processBatch_batched hclaims).mono fun handled s' hbatched => ?_)
          have hhandled : s'.handled = decide (0 < handled) := hbatched.handled
          by_cases hpos : 0 < handled
          · rw [if_pos hpos]
            refine ih ⟨hbatched.owed, Or.inr ⟨hbatched.phase, Or.inl ?_⟩⟩
            rw [hhandled]
            exact decide_eq_true hpos
          · rw [if_neg hpos]
            refine ⟨⟨hbatched.owed, hbatched.phase, rfl, ?_⟩, fun _ _ => ?_⟩
            · rw [hhandled]
              exact decide_eq_false hpos
            · exact ih ⟨hbatched.owed, Or.inr ⟨hbatched.phase, Or.inr rfl⟩⟩

/-- **The loop keeps to its rules** on every path, however long, and where it stops it may. -/
theorem outboxLoop_keeps_rules {fuel : Nat} {tr : List (Event ProcessorAns)} {r : Option Nat}
    (h : (config.run fuel).Trace tr r) :
    (loopRules config).Accepts (fun s => ∀ n, r = some n → s.Ends config) tr {} :=
  (run_follows (s := {}) ⟨rfl, Or.inl rfl⟩).trace h

end Loop

/-- A delivery fails, the loop pauses, and is asked to stop before it comes back to the message;
the deadline passes as it is fixed. -/
def Sample.cutShort : List (Event ProcessorAns) :=
  [⟨.inr .shutdown, false⟩, ⟨.inr .outboxLen, (1 : Nat)⟩, ⟨.inl .claim, .ok (some Sample.notice)⟩,
    ⟨.inl (.deliver Sample.notice), .error "timeout"⟩,
    ⟨.inl (.release Sample.notice.retried), .ok ()⟩, ⟨.inr (.sleep (.fromMillis 500)), ()⟩,
    ⟨.inr .outboxLen, (0 : Nat)⟩, ⟨.inr .shutdown, true⟩, ⟨.inr .now, (0 : Nat)⟩,
    ⟨.inr .now, (10 ^ 10 : Nat)⟩]

theorem outboxLoop_keeps_rules_cut_short :
    (OutboxProcessorConfig.run {} 3).Trace Sample.cutShort (some 0) ∧
      (loopRules {}).Accepts (fun s => ∀ n, some 0 = some n → s.Ends {}) Sample.cutShort {} := by
  have htrace : (OutboxProcessorConfig.run {} 3).Trace Sample.cutShort (some 0) := by
    refine ⟨false, _, rfl, (1 : Nat), _, rfl, .ok (some Sample.notice), _, rfl, .error "timeout", _,
      rfl, .ok (), _, rfl, (), _, rfl, (0 : Nat), _, rfl, true, _, rfl, (0 : Nat), _, rfl,
      (10 ^ 10 : Nat), _, rfl, rfl, rfl⟩
  exact ⟨htrace, outboxLoop_keeps_rules htrace⟩

end Orchestrator
