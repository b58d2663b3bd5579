/-
# `CommerceOrchestrator.Api.MandateRetries` — a checkout that is sent again under strict mode

The gate records a mandate before the runner is asked, and for good: whatever becomes of the
checkout, the same proof does not pass a second time while it lasts.  So a request that is
sent again is neither told the result that its key has on record nor carried out, which
without the gate it would be.
-/
import CommerceOrchestrator.Api.MandateReplays

namespace Orchestrator

open Effect

section Retries

variable {env : GateEnv} {facade : OrchestratorFacade} {requests : List CheckoutRequest}
  {w : GateWorld} {φ : Nat → Vetting} {log : List GateEntry} {t : Nat} {o : GateOp}

/-- In strict mode only an accepted checkout returns a result. -/
def Backed (facade : OrchestratorFacade) (log : List GateEntry) : Prop :=
  facade.ap2Strict → ∀ t result, .returned t (.ok result) ∈ log →
    ∃ a ∈ acceptances log, a.thread = t

theorem Backed.did {e : Event GateOp.Ans} (h : Backed facade log) :
    Backed facade (log ++ [.did t e]) := by
  intro hstrict t' result hm
  rw [acceptances_did]
  obtain ⟨a, ha, hthread⟩ := h hstrict t' result (by simpa using hm)
  exact ⟨a, List.mem_append_left _ ha, hthread⟩

theorem Backed.returns {e : Event GateOp.Ans} {r : Except FacadeError TransactionResult}
    (h : Backed facade (log ++ [.did t e]))
    (hguarding : Guarding env facade requests w φ (log ++ [.did t e]))
    (hr : ∀ result, r = .ok result → facade.ap2Strict → (φ t).admitted) :
    Backed facade (log ++ [.did t e, .returned t r]) := by
  intro hstrict t' result hm
  rw [acceptances_returned]
  rw [List.append_cons] at hm
  rcases List.mem_append.mp hm with hm | hm
  · exact h hstrict t' result hm
  · obtain ⟨rfl, hret⟩ := Entry.returned.inj (List.mem_singleton.mp hm)
    exact hguarding.admitted t' (hr result hret.symm hstrict)

theorem GateEnv.run_backed (env : GateEnv) (facade : OrchestratorFacade) (base : World)
    (mandates : InMemoryMandateDedupeStore) (requests : List CheckoutRequest) (ts : List Nat)
    (hclock : Monotone env.now) :
    ∃ φ, Guarding env facade requests (env.run facade base mandates requests ts).world φ
        (env.run facade base mandates requests ts).log ∧
      Backed facade (env.run facade base mandates requests ts).log := by
  obtain ⟨φ, hrun, -⟩ := Pool.run_invariant_at (C := fun _ _ _ _ => True)
    (I := fun w φ log => Guarding env facade requests w φ log ∧ Backed facade log)
    (fun w φ log t o x w' hi ho _ hx => by
      obtain ⟨rfl, rfl⟩ := Handler.shared_eq_some.mp hx
      have hstep := hi.1.step hclock ho
      refine ⟨trivial, ⟨hstep, hi.2.did⟩, fun r hr => ⟨hstep.returns, hi.2.did.returns hstep ?_⟩⟩
      rintro result rfl hstrict
      rw [Function.update_self]
      exact hr hstrict)
    ts ⟨Guarding.start, fun _ t result hm => absurd hm List.not_mem_nil⟩
    (gate_follows facade base mandates requests) Pool.stepsMeet_true.at_log
  exact ⟨φ, hrun⟩

/-- An acceptance is one of the operations of the log. -/
theorem step_lt_of_mem {n : Nat} {a : Acceptance} (h : a ∈ acceptancesFrom n log) :
    a.step < n + steps log := by
  induction log generalizing n with
  | nil => exact absurd h List.not_mem_nil
  | cons entry log ih =>
      cases entry with
      | did t e =>
          have hsteps : steps (.did t e :: log) = steps log + 1 := by simp [steps]
          rw [hsteps]
          rcases List.mem_append.mp h with hnow | hlater
          · have hstep := (mem_acceptanceAt.mp hnow).2.2
            omega
          · have hstep := ih hlater
            omega
      | returned t r =>
          have hsteps : steps (.returned t r :: log) = steps log := by simp [steps]
          rw [hsteps]
          exact ih h

/-- Of the checkouts with one proof no two are accepted before it expires. -/
theorem Guarding.accepted_once (h : Guarding env facade requests w φ log)
    (hclock : Monotone env.now) {a b : Acceptance} (ha : a ∈ acceptances log)
    (hb : b ∈ acceptances log)
    (hsame : facade.proofOf (requestAt requests b.thread) =
      facade.proofOf (requestAt requests a.thread))
    (hlive : env.now w.clock < a.expiresAt) : b = a := by
  by_contra hne
  have hdone {c : Acceptance} (hc : c ∈ acceptances log) : env.now c.step ≤ env.now w.clock := by
    refine hclock ?_
    have hstep := step_lt_of_mem hc
    rw [h.clock]
    omega
  obtain ⟨proof, hproof, hmandate, hexpires, -⟩ := h.carried a ha
  obtain ⟨proof', hproof', hmandate', hexpires', -⟩ := h.carried b hb
  obtain rfl : proof = proof' := Option.some.inj (hproof.symm.trans (hsame.symm.trans hproof'))
  -- whichever came first, the other waited for the expiry they share
  let Waits (c d : Acceptance) : Prop := c.mandateId = d.mandateId → c.expiresAt ≤ env.now d.step
  have : Std.Symm fun c d => Waits c d ∨ Waits d c := ⟨fun _ _ => Or.symm⟩
  have heither : (acceptances log).Pairwise fun c d => Waits c d ∨ Waits d c :=
    h.spaced.imp fun hcd => Or.inl hcd
  have hspaced : b.expiresAt ≤ env.now a.step ∨ a.expiresAt ≤ env.now b.step :=
    (heither.forall hb ha hne).imp
      (fun hba => hba (hmandate'.symm.trans hmandate)) fun hab => hab (hmandate.symm.trans hmandate')
  rcases hspaced with hwaited | hwaited
  · have hlate := hdone ha
    omega
  · have hlate := hdone hb
    omega

/-- **Sent again, refused.**  In strict mode, in every run of checkouts at once, a request with
the proof of an accepted one returns no result and does not reach the runner while the proof
lasts, whatever became of the accepted one. -/
theorem resent_mandate_refused (env : GateEnv) (facade : OrchestratorFacade) (base : World)
    (mandates : InMemoryMandateDedupeStore) (requests : List CheckoutRequest) (ts : List Nat)
    (hstrict : facade.ap2Strict) (hclock : Monotone env.now) :
    let run := env.run facade base mandates requests ts
    ∀ a ∈ acceptances run.log, ∀ t, t ≠ a.thread →
      facade.proofOf (requestAt requests t) = facade.proofOf (requestAt requests a.thread) →
      env.now run.world.clock < a.expiresAt →
      (∀ result, .returned t (.ok result) ∉ run.log) ∧
        ∀ o x, .did t ⟨.runner o, x⟩ ∉ run.log := by
  intro run a ha t hother hsame hlive
  obtain ⟨φ, hguarding, hbacked⟩ := env.run_backed facade base mandates requests ts hclock
  have honly : ¬ ∃ b ∈ acceptances run.log, b.thread = t := by
    rintro ⟨b, hb, rfl⟩
    exact hother (congrArg Acceptance.thread (hguarding.accepted_once hclock ha hb hsame hlive))
  exact ⟨fun result hret => honly (hbacked hstrict t result hret),
    fun o x hdid => honly (hguarding.behind hstrict t o x hdid)⟩

end Retries

/-! ## Two requests -/

/-- What a thread of a run was answered. -/
def answersTo (t : Nat) (log : List GateEntry) : List (Except FacadeError TransactionResult) :=
  log.filterMap fun
    | .returned t' r => if t' = t then some r else none
    | .did _ _ => none

theorem mem_answersTo {t : Nat} {log : List GateEntry} {r : Except FacadeError TransactionResult} :
    r ∈ answersTo t log ↔ .returned t r ∈ log := by
  rw [answersTo, List.mem_filterMap]
  constructor
  · rintro ⟨entry, hm, hr⟩
    cases entry with
    | did t' e => cases hr
    | returned t' r' =>
        simp only [Option.ite_none_right_eq_some, Option.some.injEq] at hr
        obtain ⟨rfl, rfl⟩ := hr
        exact hm
  · intro hm
    exact ⟨_, hm, by simp⟩

namespace Sample

/-- The clock stands at 5. -/
def earlyEnv : GateEnv where
  base := Env.agreeable
  now _ := 5
  fault _ := none

theorem earlyEnv_monotone : Monotone earlyEnv.now := fun _ _ _ => le_rfl

/-- A checkout to its end, and then one with the same proof. -/
def sentTwice (first : CheckoutRequest) : GatePool :=
  earlyEnv.run (strictFacade .inMemory) world ∅ [first, proven "30"]
    (List.replicate 40 0 ++ List.replicate 40 1)

/-- The request, for a version that the cart does not have. -/
def outdated : CheckoutRequest := { proven "30" with cartVersion := 9 }

/-- What the runner alone answers to the second request. -/
def ungated (run : GatePool) : Except RunnerError TransactionResult :=
  ((executeCheckout runner (proven "30")).run.run Env.agreeable.handle run.world.base).1

def replayDetected : Except FacadeError TransactionResult :=
  .error (.ap2Verification ⟨"AP2 strict mode: mandate replay detected"⟩)

end Sample

/-- The second request was answered, and not with a result. -/
theorem resent_mandate_refused_sample :
    Sample.replayDetected ∈ answersTo 1 (Sample.sentTwice (Sample.proven "30")).log ∧
      ∀ result, .returned 1 (.ok result) ∉ (Sample.sentTwice (Sample.proven "30")).log := by
  refine ⟨by decide +kernel, ?_⟩
  have haccepted : (⟨0, 1, "m", 30⟩ : Acceptance) ∈
      acceptances (Sample.sentTwice (Sample.proven "30")).log := by
    decide +kernel
  exact (resent_mandate_refused Sample.earlyEnv (Sample.strictFacade .inMemory) Sample.world ∅
    [Sample.proven "30", Sample.proven "30"] (List.replicate 40 0 ++ List.replicate 40 1) rfl
    Sample.earlyEnv_monotone ⟨0, 1, "m", 30⟩ haccepted 1 (by decide) rfl (by decide)).1

/-- A completed checkout is sent again, and one that failed is corrected: both are refused, and
without the gate the one is told its result and the other completes. -/
theorem mandate_breaks_idempotency :
    (∃ result, .ok result ∈ answersTo 0 (Sample.sentTwice (Sample.proven "30")).log ∧
      result.status = .completed ∧
      Sample.ungated (Sample.sentTwice (Sample.proven "30")) = .ok result ∧
      answersTo 1 (Sample.sentTwice (Sample.proven "30")).log = [Sample.replayDetected]) ∧
    (answersTo 0 (Sample.sentTwice Sample.outdated).log =
        [.error (.runner (.cartVersionConflict 9 2))] ∧
      (∃ result, Sample.ungated (Sample.sentTwice Sample.outdated) = .ok result ∧
        result.status = .completed) ∧
      answersTo 1 (Sample.sentTwice Sample.outdated).log = [Sample.replayDetected]) := by
  have hcompleted : ∃ r ∈ answersTo 0 (Sample.sentTwice (Sample.proven "30")).log,
      ∃ result ∈ r.toOption, result.status = .completed ∧
        Sample.ungated (Sample.sentTwice (Sample.proven "30")) = .ok result := by
    decide +kernel
  have hcorrected : ∃ result ∈ (Sample.ungated (Sample.sentTwice Sample.outdated)).toOption,
      result.status = .completed := by
    decide +kernel
  have hok {ε : Type} {r : Except ε TransactionResult} {result : TransactionResult}
      (h : result ∈ r.toOption) : r = .ok result := by
    cases r with
    | error e => cases h
    | ok result' => exact congrArg _ (Option.some.inj h)
  obtain ⟨r, hr, result, hresult, hstatus, htold⟩ := hcompleted
  obtain ⟨result', hresult', hstatus'⟩ := hcorrected
  exact ⟨⟨result, hok hresult ▸ hr, hstatus, htold, by decide +kernel⟩, by decide +kernel,
    ⟨result', hok hresult', hstatus'⟩, by decide +kernel⟩

end Orchestrator
