/-
# `CommerceOrchestrator.Adapters.Backoff` — how long a retry waits

Two loops retry: the outbox processor, which pauses longer after every failed delivery, and
the provider clients, which add jitter.  Both pauses are computed in machine integers from
whatever the configuration says and however many attempts there were.
-/
import CommerceOrchestrator.Adapters.Circuit
import CommerceOrchestrator.Runtime.OutboxProcessor

namespace Orchestrator

open Effect

/-- The jitter of `backoff_delay`; nothing if the sum is out of range. -/
def jitterChecked (half subsecNanos : Nat) : Option Nat :=
  if half = 0 then some 0 else (checkedAdd 64 half 1).map (subsecNanos % ·)

/-- `backoff_delay` as it is computed. -/
def backoffDelayChecked (config : ClientConfig) (attempt subsecNanos : Nat) : Option Nat := do
  let cap := 2 ^ 64 - 1
  let base := min (config.retryBackoffMs * min (2 ^ attempt) cap) cap
  let half := base / 2
  let jitter ← jitterChecked half subsecNanos
  let millis ← checkedAdd 64 half jitter
  return millis * 10 ^ 6

/-- The exponential step, saturated once. -/
def ClientConfig.backoffBase (config : ClientConfig) (attempt : Nat) : Nat :=
  min (config.retryBackoffMs * 2 ^ attempt) (2 ^ 64 - 1)

section

variable {config : ClientConfig} {attempt subsecNanos : Nat}

/-- The power saturates first and then the product, which makes no difference. -/
theorem ClientConfig.backoffBase_eq :
    min (config.retryBackoffMs * min (2 ^ attempt) (2 ^ 64 - 1)) (2 ^ 64 - 1) =
      config.backoffBase attempt := by
  unfold backoffBase
  rcases Nat.le_total (2 ^ attempt) (2 ^ 64 - 1) with hfits | hbig
  · rw [min_eq_left hfits]
  · rw [min_eq_right hbig]
    rcases Nat.eq_zero_or_pos config.retryBackoffMs with hzero | hpos
    · rw [hzero, zero_mul, zero_mul]
    · rw [min_eq_right (Nat.le_mul_of_pos_left _ hpos),
        min_eq_right (hbig.trans (Nat.le_mul_of_pos_left _ hpos))]

/-- The jitter is at most the other half. -/
def ClientConfig.jitter (config : ClientConfig) (attempt subsecNanos : Nat) : Nat :=
  let half := config.backoffBase attempt / 2
  if half = 0 then 0 else subsecNanos % (half + 1)

theorem ClientConfig.jitter_le :
    config.jitter attempt subsecNanos ≤ config.backoffBase attempt / 2 := by
  unfold jitter
  dsimp only
  split
  · exact Nat.zero_le _
  · exact Nat.le_of_lt_succ (Nat.mod_lt _ (Nat.succ_pos _))

theorem backoffDelay_eq : backoffDelay config attempt subsecNanos =
    (config.backoffBase attempt / 2 + config.jitter attempt subsecNanos) * 10 ^ 6 := by
  simp only [backoffDelay, ClientConfig.backoffBase_eq]
  rfl

/-- **No sum is out of range.** -/
theorem backoffDelayChecked_eq :
    backoffDelayChecked config attempt subsecNanos =
      some (backoffDelay config attempt subsecNanos) := by
  have hbase : config.backoffBase attempt ≤ 2 ^ 64 - 1 := min_le_right _ _
  have hjitter : config.jitter attempt subsecNanos ≤ config.backoffBase attempt / 2 :=
    ClientConfig.jitter_le
  have hdrawn : jitterChecked (config.backoffBase attempt / 2) subsecNanos =
      some (config.jitter attempt subsecNanos) := by
    rw [jitterChecked, checkedAdd_eq (by omega), ClientConfig.jitter]
    split <;> rfl
  have hsum := checkedAdd_eq (w := 64)
    (show config.backoffBase attempt / 2 + config.jitter attempt subsecNanos < 2 ^ 64 by omega)
  simp only [backoffDelayChecked, ClientConfig.backoffBase_eq, hdrawn, backoffDelay_eq,
    Option.bind_eq_bind, Option.bind_some, hsum]
  rfl

/-- **Backoff is bounded and monotone.**  For every configuration, any number of attempts and
whatever the clock reads, no step of the two computations goes out of range; the processor
pauses longer the more attempts were spent, between its first pause and its ceiling, and the
client for at least half the exponential step and at most all of it. -/
theorem backoff_bounded (processor : OutboxProcessorConfig) (client : ClientConfig)
    (subsecNanos : Nat) {a b : Nat} (h : a ≤ b) :
    (∃ pause pause', retryDelay processor a = some pause ∧ retryDelay processor b = some pause' ∧
      pause ≤ pause' ∧ pause' ≤ processor.maxRetryBackoff ∧
      min processor.retryBackoff processor.maxRetryBackoff ≤ pause) ∧
    ∃ delay, backoffDelayChecked client a subsecNanos = some delay ∧
      min (client.retryBackoffMs * 2 ^ a) (2 ^ 64 - 1) / 2 * 10 ^ 6 ≤ delay ∧
      delay ≤ min (client.retryBackoffMs * 2 ^ a) (2 ^ 64 - 1) * 10 ^ 6 := by
  refine ⟨⟨_, _, retryDelay_eq, retryDelay_eq, OutboxProcessorConfig.pause_mono h,
    OutboxProcessorConfig.pause_le, OutboxProcessorConfig.le_pause⟩, _, backoffDelayChecked_eq, ?_⟩
  have hjitter : client.jitter a subsecNanos ≤ client.backoffBase a / 2 := ClientConfig.jitter_le
  rw [backoffDelay_eq]
  show client.backoffBase a / 2 * 10 ^ 6 ≤ _ ∧ _ ≤ client.backoffBase a * 10 ^ 6
  omega

/-- The default configurations, after one attempt and after four. -/
theorem backoff_bounded_default :
    (∃ pause pause', retryDelay {} 1 = some pause ∧ retryDelay {} 4 = some pause' ∧
      pause ≤ pause' ∧ pause' ≤ .fromSecs 30 ∧ min (.fromMillis 500) (.fromSecs 30) ≤ pause) ∧
    ∃ delay, backoffDelayChecked {} 1 7 = some delay ∧
      min (100 * 2 ^ 1) (2 ^ 64 - 1) / 2 * 10 ^ 6 ≤ delay ∧
      delay ≤ min (100 * 2 ^ 1) (2 ^ 64 - 1) * 10 ^ 6 :=
  backoff_bounded {} {} 7 (by decide)

end

end Orchestrator
