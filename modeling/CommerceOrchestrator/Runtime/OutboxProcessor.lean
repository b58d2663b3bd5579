/-
# `CommerceOrchestrator.Runtime.OutboxProcessor` — the tuning of the outbox loop

How the loop that drains the outbox is configured, and how long it pauses after a failed
delivery.
-/
import CommerceOrchestrator.Effect.Checked

namespace Orchestrator

open Effect

/-! ## Durations -/

/-- `Duration::MAX`, in nanoseconds. -/
def durationMax : Nat := (2 ^ 64 - 1) * 10 ^ 9 + 999999999

/-- A `Duration`, in nanoseconds. -/
abbrev Duration := { nanos : Nat // nanos ≤ durationMax }

namespace Duration

def fromMillis (millis : UInt64) : Duration :=
  ⟨millis.toNat * 10 ^ 6, by
    have := millis.toNat_lt
    unfold durationMax
    omega⟩

def fromSecs (secs : UInt64) : Duration :=
  ⟨secs.toNat * 10 ^ 9, by
    have := secs.toNat_lt
    unfold durationMax
    omega⟩

def saturatingMul (d : Duration) (factor : Nat) : Duration :=
  ⟨min (d.val * factor) durationMax, min_le_right _ _⟩

theorem saturatingMul_mono (d : Duration) {m n : Nat} (h : m ≤ n) :
    d.saturatingMul m ≤ d.saturatingMul n :=
  min_le_min_right _ (Nat.mul_le_mul_left _ h)

theorem le_saturatingMul (d : Duration) {n : Nat} (h : 0 < n) : d ≤ d.saturatingMul n :=
  le_min (Nat.le_mul_of_pos_right _ h) d.property

end Duration

/-! ## The pause after a failure -/

/-- `attempts` of messages and `maxAttempts` are `u32`s. -/
structure OutboxProcessorConfig where
  interval : Duration := .fromMillis 500
  /-- Messages handled per wake-up before pausing again. -/
  batchSize : Nat := 32
  /-- Delivery attempts before a message is dead-lettered. -/
  maxAttempts : Nat := 5
  drainTimeout : Duration := .fromSecs 10
  /-- Pause after the first failed delivery, doubled per attempt. -/
  retryBackoff : Duration := .fromMillis 500
  maxRetryBackoff : Duration := .fromSecs 30

/-- Exponential backoff on the attempts already spent, capped; nothing if the shift is by more
bits than there are. -/
def retryDelay (config : OutboxProcessorConfig) (attempts : Nat) : Option Duration := do
  let factor ← checkedShl 32 1 (min (attempts - 1) 16)
  return min (config.retryBackoff.saturatingMul factor) config.maxRetryBackoff

section RetryDelay

variable {config : OutboxProcessorConfig} {attempts a b : Nat}

/-- The pause there is: the shift is never by more than sixteen. -/
def OutboxProcessorConfig.pause (config : OutboxProcessorConfig) (attempts : Nat) : Duration :=
  min (config.retryBackoff.saturatingMul (2 ^ min (attempts - 1) 16)) config.maxRetryBackoff

theorem retryDelay_eq : retryDelay config attempts = some (config.pause attempts) := by
  have hshift : min (attempts - 1) 16 < 32 := (min_le_right _ _).trans_lt (by decide)
  rw [retryDelay, checkedShl_one hshift]
  rfl

theorem OutboxProcessorConfig.pause_mono (h : a ≤ b) : config.pause a ≤ config.pause b := by
  have hshift : min (a - 1) 16 ≤ min (b - 1) 16 := min_le_min_right _ (Nat.sub_le_sub_right h 1)
  exact min_le_min_right _
    (config.retryBackoff.saturatingMul_mono (Nat.pow_le_pow_right two_pos hshift))

theorem OutboxProcessorConfig.pause_le : config.pause attempts ≤ config.maxRetryBackoff :=
  min_le_right _ _

theorem OutboxProcessorConfig.le_pause :
    min config.retryBackoff config.maxRetryBackoff ≤ config.pause attempts :=
  min_le_min_right _ (config.retryBackoff.le_saturatingMul (Nat.two_pow_pos _))

end RetryDelay

end Orchestrator
