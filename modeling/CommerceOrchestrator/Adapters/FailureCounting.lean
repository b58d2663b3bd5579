/-
# `CommerceOrchestrator.Adapters.FailureCounting` — when a closed breaker opens

Reports alone, with no caller asking for permission in between.  A breaker that starts closed
opens at the first moment at which its last reports, as many as the threshold says, are all
failures.  Until then its counter is the number of failures since the last success.
-/
import CommerceOrchestrator.Adapters.Circuit
import Mathlib.Data.List.Infix
import Mathlib.Order.Bounds.Defs

namespace Orchestrator

/-- A report to the breaker; a failure is stamped with the clock. -/
inductive Settlement
  | onSuccess
  | onFailure (now : Nat)
deriving DecidableEq, Repr

def Settlement.failed : Settlement → Bool
  | .onSuccess => false
  | .onFailure _ => true

/-- What an observer sees of a breaker. -/
inductive CircuitState
  | closed
  | opened
  | halfOpen
deriving DecidableEq, Repr

namespace CircuitBreaker

/-- `CircuitBreaker::state`: an open window that has passed counts as half open. -/
def observed (now : Nat) (breaker : CircuitBreaker) : CircuitState :=
  match breaker.state with
  | .closed _ => .closed
  | .halfOpen _ => .halfOpen
  | .opened until_ => if until_ ≤ now then .halfOpen else .opened

def settle (breaker : CircuitBreaker) : Settlement → CircuitBreaker
  | .onSuccess => breaker.onSuccess
  | .onFailure now => breaker.onFailure now

def settleAll (breaker : CircuitBreaker) (reports : List Settlement) : CircuitBreaker :=
  reports.foldl settle breaker

variable {breaker : CircuitBreaker} {reports : List Settlement} {now n : Nat}

@[simp] theorem settleAll_nil : breaker.settleAll [] = breaker := rfl

@[simp] theorem settleAll_concat {report : Settlement} :
    breaker.settleAll (reports ++ [report]) = (breaker.settleAll reports).settle report := by
  rw [settleAll, List.foldl_concat]
  rfl

theorem observed_ne_closed : breaker.observed now ≠ .closed ↔ breaker.state.isClosed = false := by
  unfold observed
  cases breaker.state with
  | closed n => simp [Internal.isClosed]
  | halfOpen until_ => simp [Internal.isClosed]
  | opened until_ =>
      refine iff_of_true ?_ rfl
      dsimp only
      split
      · exact CircuitState.noConfusion
      · exact CircuitState.noConfusion

/-! ## Failures in a row -/

/-- The last `n` reports are all failures. -/
def LastFailed (n : Nat) (reports : List Settlement) : Prop :=
  List.replicate n true <:+ reports.map Settlement.failed

instance : Decidable (LastFailed n reports) := by
  unfold LastFailed
  infer_instance

theorem lastFailed_zero : LastFailed 0 reports := List.nil_suffix

theorem not_lastFailed_nil (hn : 0 < n) : ¬ LastFailed n [] := by
  intro h
  have hlen := h.length_le
  simp only [List.length_replicate, List.map_nil, List.length_nil] at hlen
  omega

theorem not_lastFailed_success (hn : 0 < n) : ¬ LastFailed n (reports ++ [.onSuccess]) := by
  obtain ⟨n, rfl⟩ := Nat.exists_eq_succ_of_ne_zero hn.ne'
  intro h
  rw [LastFailed, List.map_append, List.replicate_succ', List.map_cons, List.map_nil] at h
  exact absurd (List.suffix_concat_iff.mp h) (by simp [Settlement.failed])

theorem lastFailed_failure :
    LastFailed (n + 1) (reports ++ [.onFailure now]) ↔ LastFailed n reports := by
  rw [LastFailed, List.map_append, List.replicate_succ', List.map_cons, List.map_nil]
  simp [Settlement.failed, LastFailed, List.suffix_concat_iff]

/-- The failures since the last success. -/
def trailingFailures (reports : List Settlement) : Nat :=
  (reports.reverse.takeWhile Settlement.failed).length

theorem trailingFailures_nil : trailingFailures [] = 0 := rfl

theorem trailingFailures_success : trailingFailures (reports ++ [.onSuccess]) = 0 := by
  rw [trailingFailures, List.reverse_concat]
  rfl

theorem trailingFailures_failure :
    trailingFailures (reports ++ [.onFailure now]) = trailingFailures reports + 1 := by
  rw [trailingFailures, List.reverse_concat]
  rfl

theorem lastFailed_iff : LastFailed n reports ↔ n ≤ trailingFailures reports := by
  induction reports using List.reverseRecOn generalizing n with
  | nil =>
      rcases Nat.eq_zero_or_pos n with rfl | hn
      · exact iff_of_true lastFailed_zero (Nat.zero_le _)
      · exact iff_of_false (not_lastFailed_nil hn) (Nat.not_le.mpr hn)
  | append_singleton reports report ih =>
      rcases n with _ | n
      · exact iff_of_true lastFailed_zero (Nat.zero_le _)
      · cases report with
        | onSuccess =>
            rw [trailingFailures_success]
            exact iff_of_false (not_lastFailed_success n.succ_pos) (Nat.not_succ_le_zero n)
        | onFailure now =>
            rw [lastFailed_failure, trailingFailures_failure, ih]
            exact Nat.succ_le_succ_iff.symm

theorem never_of_concat {report : Settlement}
    (h : ∀ k < (reports ++ [report]).length, ¬ LastFailed n ((reports ++ [report]).take k)) :
    ∀ k ≤ reports.length, ¬ LastFailed n (reports.take k) := by
  intro k hk
  have hlast := h k (by rw [List.length_append, List.length_singleton]; omega)
  rwa [List.take_append_of_le_length hk] at hlast

theorem lt_of_never (h : ∀ k ≤ reports.length, ¬ LastFailed n (reports.take k)) :
    trailingFailures reports < n := by
  have hlast := h reports.length le_rfl
  rwa [List.take_length, lastFailed_iff, not_le] at hlast

/-! ## The counter -/

theorem onSuccess_enabled (henabled : breaker.config.enabled) :
    breaker.onSuccess = { breaker with state := .closed 0 } :=
  if_neg (by simp [henabled])

theorem onFailure_closed (henabled : breaker.config.enabled) {count : Nat}
    (hstate : breaker.state = .closed count) :
    breaker.onFailure now =
      if breaker.config.failureThreshold ≤ countFailure count then
        { breaker with state := .opened (now + breaker.config.openDuration) }
      else { breaker with state := .closed (countFailure count) } := by
  rw [CircuitBreaker.onFailure, if_neg (by simp [henabled])]
  simp only [hstate]

theorem settle_config {report : Settlement} : (breaker.settle report).config = breaker.config := by
  cases report with
  | onSuccess =>
      show breaker.onSuccess.config = _
      unfold onSuccess
      split <;> rfl
  | onFailure now =>
      show (breaker.onFailure now).config = _
      unfold onFailure
      split
      · rfl
      · split
        · rfl
        · rfl
        · split <;> rfl

theorem settleAll_config : (breaker.settleAll reports).config = breaker.config := by
  induction reports using List.reverseRecOn with
  | nil => rfl
  | append_singleton reports report ih => rw [settleAll_concat, settle_config, ih]

section Enabled

variable (henabled : breaker.config.enabled) (hpos : 0 < breaker.config.failureThreshold)
  (hmax : breaker.config.failureThreshold < 2 ^ 32)

include henabled hpos hmax

/-- **A report to a breaker that counts.**  It still counts, or it has opened at the
threshold. -/
theorem settle_counting (report : Settlement)
    (hbelow : trailingFailures reports < breaker.config.failureThreshold)
    (hstate : breaker.state = .closed (trailingFailures reports)) :
    if LastFailed breaker.config.failureThreshold (reports ++ [report]) then
      (breaker.settle report).state.isClosed = false
    else (breaker.settle report).state = .closed (trailingFailures (reports ++ [report])) := by
  cases report with
  | onSuccess =>
      rw [if_neg (not_lastFailed_success hpos), trailingFailures_success]
      show breaker.onSuccess.state = _
      rw [onSuccess_enabled henabled]
  | onFailure now =>
      -- below the threshold the `u32` counter is far from its end
      have hcount : countFailure (trailingFailures reports) = trailingFailures reports + 1 := by
        unfold countFailure
        omega
      simp only [lastFailed_iff, trailingFailures_failure]
      show if _ then (breaker.onFailure now).state.isClosed = false
        else (breaker.onFailure now).state = _
      rw [onFailure_closed henabled hstate, hcount]
      split <;> rfl

/-- While the threshold was never reached the breaker counts the failures in a row. -/
theorem settleAll_counting (hstate : breaker.state = .closed 0)
    (hnever : ∀ k ≤ reports.length,
      ¬ LastFailed breaker.config.failureThreshold (reports.take k)) :
    (breaker.settleAll reports).state = .closed (trailingFailures reports) := by
  induction reports using List.reverseRecOn with
  | nil => exact hstate
  | append_singleton reports report ih =>
      have hearlier := never_of_concat fun k hk => hnever k hk.le
      have hbelow := lt_of_never hearlier
      have hnow : ¬ LastFailed breaker.config.failureThreshold (reports ++ [report]) := by
        have := hnever _ le_rfl
        rwa [List.take_length] at this
      have hstep := @settle_counting (breaker.settleAll reports) reports
        (by rwa [settleAll_config]) (by rwa [settleAll_config]) (by rwa [settleAll_config])
        report (by rwa [settleAll_config]) (ih hearlier)
      rw [settleAll_config, if_neg hnow] at hstep
      rwa [settleAll_concat]

/-- Up to the first moment at which the last reports are all failures, the breaker is closed
exactly when they are not. -/
theorem settleAll_opened_iff (hstate : breaker.state = .closed 0)
    (hnever : ∀ k < reports.length,
      ¬ LastFailed breaker.config.failureThreshold (reports.take k)) :
    (breaker.settleAll reports).observed now ≠ .closed ↔
      LastFailed breaker.config.failureThreshold reports := by
  rw [observed_ne_closed]
  rcases List.eq_nil_or_concat' reports with rfl | ⟨reports, report, rfl⟩
  · rw [settleAll_nil, hstate]
    exact iff_of_false (by simp [Internal.isClosed]) (not_lastFailed_nil hpos)
  · have hearlier := never_of_concat hnever
    have hbelow := lt_of_never hearlier
    have hstep := @settle_counting (breaker.settleAll reports) reports
      (by rwa [settleAll_config]) (by rwa [settleAll_config]) (by rwa [settleAll_config])
      report (by rwa [settleAll_config]) (settleAll_counting henabled hpos hmax hstate hearlier)
    rw [settleAll_config, ← settleAll_concat] at hstep
    split at hstep
    · exact iff_of_true hstep ‹_›
    · refine iff_of_false ?_ ‹_›
      rw [hstep]
      exact Bool.noConfusion

end Enabled

/-! ## The first moment -/

/-- Predicates that agree as long as the second has not held have the same first moment. -/
theorem isLeast_congr {P Q : Nat → Prop} (h : ∀ k, (∀ j < k, ¬ Q j) → (P k ↔ Q k)) (k : Nat) :
    IsLeast {k | P k} k ↔ IsLeast {k | Q k} k := by
  have hbefore (k : Nat) : (∀ j < k, ¬ P j) ↔ ∀ j < k, ¬ Q j := by
    induction k with
    | zero => exact iff_of_true (fun j hj => absurd hj j.not_lt_zero) fun j hj =>
        absurd hj j.not_lt_zero
    | succ k ih =>
        simp only [Nat.lt_succ_iff_lt_or_eq, or_imp, forall_and, forall_eq, ih]
        exact and_congr_right fun hk => not_congr (h k hk)
  have hleast (P : Nat → Prop) : IsLeast {k | P k} k ↔ P k ∧ ∀ j < k, ¬ P j := by
    refine and_congr_right fun _ => ⟨fun hlow j hj hp => ?_, fun hfirst j hp => ?_⟩
    · exact absurd (hlow hp) (Nat.not_le.mpr hj)
    · exact Nat.not_lt.mp fun hj => hfirst j hj hp
  rw [hleast, hleast, hbefore]
  exact and_congr_left fun hk => h k hk

theorem settleAll_disabled (hdisabled : breaker.config.enabled = false) :
    breaker.settleAll reports = breaker := by
  induction reports with
  | nil => rfl
  | cons report reports ih =>
      have hreport : breaker.settle report = breaker := by
        cases report with
        | onSuccess => exact if_pos hdisabled
        | onFailure now => exact if_pos hdisabled
      rw [settleAll, List.foldl_cons, hreport]
      exact ih

end CircuitBreaker

open CircuitBreaker in
/-- **A breaker opens at its threshold.**  Reports to a freshly closed breaker first take it
out of `Closed` when the last of them, as many as the threshold, are all failures, whatever
the clock says; a disabled breaker they do not change. -/
theorem opens_at_threshold (breaker : CircuitBreaker) (reports : List Settlement) (now : Nat) :
    (breaker.config.enabled = true → 0 < breaker.config.failureThreshold →
      breaker.config.failureThreshold < 2 ^ 32 → breaker.state = .closed 0 → ∀ k,
        (IsLeast {k | k ≤ reports.length ∧
            (breaker.settleAll (reports.take k)).observed now ≠ .closed} k ↔
          IsLeast {k | k ≤ reports.length ∧
            LastFailed breaker.config.failureThreshold (reports.take k)} k)) ∧
    (breaker.config.enabled = false → breaker.settleAll reports = breaker) := by
  refine ⟨fun henabled hpos hmax hstate => isLeast_congr fun k hbefore => ?_, settleAll_disabled⟩
  refine and_congr_right fun hk => settleAll_opened_iff henabled hpos hmax hstate fun j hj => ?_
  have hlen : (reports.take k).length = k := List.length_take_of_le hk
  rw [hlen] at hj
  rw [List.take_take, Nat.min_eq_left hj.le]
  exact fun hlast => hbefore j hj ⟨hj.le.trans hk, hlast⟩

namespace Sample

/-- Opens at the third failure in a row. -/
def patientBreaker : CircuitBreaker := .new "psp" { failureThreshold := 3 }

def uncheckedBreaker : CircuitBreaker := .new "psp" { enabled := false }

def flakyReports : List Settlement :=
  [.onFailure 0, .onFailure 1, .onSuccess, .onFailure 2, .onFailure 3, .onFailure 4]

end Sample

open Sample CircuitBreaker in
/-- Two failures, a success, and three failures: the last of them opens the circuit. -/
theorem opens_at_threshold_flaky :
    IsLeast {k | k ≤ flakyReports.length ∧
      (patientBreaker.settleAll (flakyReports.take k)).observed 5 ≠ .closed} 6 ∧
    uncheckedBreaker.settleAll flakyReports = uncheckedBreaker := by
  refine ⟨((opens_at_threshold patientBreaker flakyReports 5).1 rfl (by decide) (by decide) rfl
    6).mpr ⟨by decide, ?_⟩, (opens_at_threshold uncheckedBreaker flakyReports 5).2 rfl⟩
  intro k hk
  have hearly : ∀ k < 6, ¬ LastFailed 3 (flakyReports.take k) := by decide
  exact Nat.not_lt.mp fun hlt => hearly k hlt hk.2

end Orchestrator
