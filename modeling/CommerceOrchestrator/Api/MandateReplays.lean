/-
# `CommerceOrchestrator.Api.MandateReplays` — when a mandate is accepted again

The mandate store forgets a mandate when a recording finds it expired, and nothing
else makes it forget one.  So of two acceptances of one mandate id the later comes at
or after the expiry that the earlier proof stated (`replays_wait_for_expiry`), whatever
runs beside them and whichever operations fail.  Once it has expired the id is free
for a proof that states a later expiry (`renewed_mandate_accepted`).
-/
import CommerceOrchestrator.Api.Mandates
import Mathlib

namespace Orchestrator

open Effect

/-! ## Acceptances -/

/-- A mandate that a checkout was accepted with. -/
structure Acceptance where
  thread : Nat
  /-- The number of operations performed before. -/
  step : Nat
  mandateId : String
  expiresAt : Int
deriving DecidableEq

/-- The mandate an operation accepts. -/
def acceptedBy : Event GateOp.Ans → Option (String × Int)
  | ⟨.recordMandate mandateId expiresAt, .ok true⟩ => some (mandateId, expiresAt)
  | ⟨.insertMandate mandateId expiresAt, .ok 1⟩ => some (mandateId, expiresAt)
  | _ => none

/-- The acceptance by thread `t` at step `n`, if `e` is one. -/
def acceptanceAt (t n : Nat) (e : Event GateOp.Ans) : List Acceptance :=
  ((acceptedBy e).map fun mandate => ⟨t, n, mandate.1, mandate.2⟩).toList

def acceptancesFrom : Nat → List GateEntry → List Acceptance
  | _, [] => []
  | n, .did t e :: log => acceptanceAt t n e ++ acceptancesFrom (n + 1) log
  | n, .returned _ _ :: log => acceptancesFrom n log

/-- The acceptances of a log, in order. -/
def acceptances (log : List GateEntry) : List Acceptance := acceptancesFrom 0 log

/-- The number of operations in a log. -/
def steps (log : List GateEntry) : Nat := log.countP (· matches .did _ _)

section Log

variable {log log' : List GateEntry} {t n : Nat} {e : Event GateOp.Ans}
  {r : Except FacadeError TransactionResult}

theorem acceptancesFrom_append :
    acceptancesFrom n (log ++ log') =
      acceptancesFrom n log ++ acceptancesFrom (n + steps log) log' := by
  induction log generalizing n with
  | nil => rfl
  | cons entry log ih =>
      cases entry with
      | did t e =>
          have hsteps : steps (.did t e :: log) = steps log + 1 := by simp [steps]
          rw [List.cons_append, acceptancesFrom, acceptancesFrom, ih, List.append_assoc, hsteps,
            Nat.add_assoc, Nat.add_comm 1]
      | returned t r =>
          have hsteps : steps (.returned t r :: log) = steps log := by simp [steps]
          rw [List.cons_append, acceptancesFrom, acceptancesFrom, ih, hsteps]

theorem acceptances_did :
    acceptances (log ++ [.did t e]) = acceptances log ++ acceptanceAt t (steps log) e := by
  rw [acceptances, acceptancesFrom_append, Nat.zero_add, acceptancesFrom, acceptancesFrom,
    List.append_nil]
  rfl

theorem acceptances_returned :
    acceptances (log ++ [.did t e, .returned t r]) = acceptances (log ++ [.did t e]) := by
  rw [List.append_cons, acceptances, acceptancesFrom_append]
  exact List.append_nil _

theorem steps_did : steps (log ++ [.did t e]) = steps log + 1 := by
  simp [steps]

theorem steps_returned : steps (log ++ [.did t e, .returned t r]) = steps log + 1 := by
  simp [steps]

theorem mem_acceptanceAt {a : Acceptance} :
    a ∈ acceptanceAt t n e ↔
      acceptedBy e = some (a.mandateId, a.expiresAt) ∧ a.thread = t ∧ a.step = n := by
  unfold acceptanceAt
  cases acceptedBy e with
  | none => simp
  | some mandate =>
      obtain ⟨mandateId, expiresAt⟩ := mandate
      obtain ⟨thread, step, mandateId', expiresAt'⟩ := a
      simp only [Option.map_some, Option.toList_some, List.mem_singleton, Acceptance.mk.injEq,
        Option.some.injEq, Prod.mk.injEq]
      constructor
      · rintro ⟨rfl, rfl, rfl, rfl⟩
        exact ⟨⟨rfl, rfl⟩, rfl, rfl⟩
      · rintro ⟨⟨rfl, rfl⟩, rfl, rfl⟩
        exact ⟨rfl, rfl, rfl, rfl⟩

end Log

/-! ## One operation -/

section Handle

variable {env : GateEnv} {w : GateWorld} {mandateId id : String} {expiresAt : Int}

theorem attempt_cases {α : Type} (env : GateEnv) (w : GateWorld) (answered : α × InMemoryMandateDedupeStore) :
    (env.attempt w answered = (.ok answered.1, ⟨w.base, answered.2, w.clock + 1⟩)) ∨
      ∃ e, (env.attempt w answered).1 = .error e ∧ (env.attempt w answered).2.clock = w.clock + 1 ∧
        ((env.attempt w answered).2.mandates = answered.2 ∨
          (env.attempt w answered).2.mandates = w.mandates) := by
  unfold GateEnv.attempt
  cases env.fault w.clock with
  | none => exact Or.inl rfl
  | some e =>
      refine Or.inr ⟨e, rfl, rfl, ?_⟩
      cases htook : e.tookEffect with
      | true => exact Or.inl (by simp [htook])
      | false => exact Or.inr (by simp [htook])

/-- A record survives a recording, or has expired. -/
theorem InMemoryMandateDedupeStore.lookup_recordMandate {store : InMemoryMandateDedupeStore}
    {now : Int} {expiry : Int} (h : store.lookup id = some expiry) :
    (store.recordMandate now mandateId expiresAt).2.lookup id = some expiry ∨ expiry ≤ now := by
  by_cases hlive : now < expiry
  · refine Or.inl ?_
    have hkept : (store.keep fun _ expiry => now < expiry).lookup id = some expiry := by
      rw [Table.lookup_keep, h]
      simp [Option.filter, hlive]
    unfold recordMandate
    dsimp only
    split
    · exact hkept
    · next hnew =>
        rw [Table.lookup_insert_ite, if_neg]
        · exact hkept
        · rintro rfl
          exact hnew (AList.lookup_isSome.mp (by rw [hkept]; rfl))
  · exact Or.inr (Int.not_lt.mp hlive)

/-- A mandate is recorded only where no unexpired record of it is left. -/
theorem InMemoryMandateDedupeStore.recordMandate_accepts {store : InMemoryMandateDedupeStore}
    {now : Int} (h : (store.recordMandate now mandateId expiresAt).1 = true) :
    (store.recordMandate now mandateId expiresAt).2.lookup mandateId = some expiresAt ∧
      ∀ expiry, store.lookup mandateId = some expiry → expiry ≤ now := by
  unfold recordMandate at h ⊢
  dsimp only at h ⊢
  split at h
  · cases h
  · next hnew =>
      rw [if_neg hnew]
      refine ⟨AList.lookup_insert _, fun expiry hexpiry => ?_⟩
      by_contra hlive
      refine hnew (AList.lookup_isSome.mp ?_)
      rw [Table.lookup_keep, hexpiry]
      simp [Option.filter, Int.not_le.mp hlive]

theorem GateEnv.handle_clock (env : GateEnv) (o : GateOp) (w : GateWorld) :
    (env.handle o w).2.clock = w.clock + 1 := by
  have hattempt : ∀ {α : Type} (answered : α × InMemoryMandateDedupeStore),
      (env.attempt w answered).2.clock = w.clock + 1 := by
    intro α answered
    rcases attempt_cases env w answered with h | ⟨e, -, h, -⟩
    · rw [h]
    · exact h
  cases o with
  | unixNow => rfl
  | recordMandate mandateId expiresAt => exact hattempt _
  | deleteExpired now => exact hattempt _
  | insertMandate mandateId expiresAt => exact hattempt _
  | runner o => rfl

/-- What an operation of the store may do to a record, it may do when it fails too. -/
theorem attempt_keeps {α : Type} {answered : α × InMemoryMandateDedupeStore} {expiry : Int}
    {P : Prop} (h : w.mandates.lookup id = some expiry)
    (hanswered : answered.2.lookup id = some expiry ∨ P) :
    (env.attempt w answered).2.mandates.lookup id = some expiry ∨ P := by
  rcases attempt_cases env w answered with hdone | ⟨e, -, -, hstore | hstore⟩
  · rwa [hdone]
  · rwa [hstore]
  · rw [hstore]
    exact Or.inl h

/-- A record is kept until it has expired. -/
theorem GateEnv.handle_keeps {facade : OrchestratorFacade} {o : GateOp} {q : Vetting}
    {expiry : Int} (ho : (gateMonitor facade).allow o q)
    (hreadings : ∀ now ∈ q.readings, now ≤ env.now w.clock)
    (h : w.mandates.lookup id = some expiry) :
    (env.handle o w).2.mandates.lookup id = some expiry ∨ expiry ≤ env.now w.clock := by
  cases o with
  | unixNow => exact Or.inl h
  | runner o => exact Or.inl h
  | recordMandate mandateId expiresAt =>
      exact attempt_keeps h (InMemoryMandateDedupeStore.lookup_recordMandate h)
  | deleteExpired now =>
      refine attempt_keeps h ?_
      by_cases hlive : now < expiry
      · refine Or.inl ?_
        rw [Table.lookup_keep, h]
        simp [Option.filter, hlive]
      · exact Or.inr ((Int.not_lt.mp hlive).trans (hreadings now ho))
  | insertMandate mandateId expiresAt =>
      refine attempt_keeps h (Or.inl ?_)
      split
      · exact h
      · next hnew =>
          rw [Table.lookup_insert_ite, if_neg]
          · exact h
          · rintro rfl
            exact hnew (AList.lookup_isSome.mp (by rw [h]; rfl))

/-- A mandate is accepted only where no unexpired record of it is left. -/
theorem GateEnv.handle_accepts {o : GateOp}
    (h : acceptedBy ⟨o, (env.handle o w).1⟩ = some (mandateId, expiresAt)) :
    (env.handle o w).2.mandates.lookup mandateId = some expiresAt ∧
      ∀ expiry, w.mandates.lookup mandateId = some expiry → expiry ≤ env.now w.clock := by
  cases o with
  | unixNow => cases h
  | runner o => cases h
  | deleteExpired now => cases h
  | recordMandate id expires =>
      rcases attempt_cases env w
          (w.mandates.recordMandate (env.now w.clock) id expires) with hdone | ⟨e, herror, -, -⟩
      · simp only [GateEnv.handle, hdone] at h ⊢
        cases haccepted : (w.mandates.recordMandate (env.now w.clock) id expires).1 with
        | false =>
            rw [haccepted] at h
            cases h
        | true =>
            rw [haccepted] at h
            cases h
            exact InMemoryMandateDedupeStore.recordMandate_accepts haccepted
      · simp only [GateEnv.handle, herror] at h
        cases h
  | insertMandate id expires =>
      rcases attempt_cases env w
          (if id ∈ w.mandates then (0, w.mandates) else (1, w.mandates.insert id expires))
          with hdone | ⟨e, herror, -, -⟩
      · simp only [GateEnv.handle, hdone] at h ⊢
        by_cases hold : id ∈ w.mandates
        · rw [if_pos hold] at h
          cases h
        · rw [if_neg hold] at h ⊢
          cases h
          refine ⟨AList.lookup_insert _, fun expiry hexpiry => ?_⟩
          exact absurd (AList.lookup_isSome.mp (by rw [hexpiry]; rfl)) hold
      · simp only [GateEnv.handle, herror] at h
        cases h

end Handle

/-! ## Every run -/

/-- The request a thread carries; without a thread, one without a proof. -/
def requestAt (requests : List CheckoutRequest) (t : Nat) : CheckoutRequest :=
  requests.getD t
    { tenantId := "", merchantId := "", cartId := ⟨⟨0⟩⟩, cartVersion := 0, currency := ""
      customer := none, location := none
      paymentIntent := { amountMinor := 0, tokenOrReference := "" }, idempotencyKey := "" }

/-- The request's consent proof states the mandate, and was verified before its expiry. -/
def Acceptance.Carried (env : GateEnv) (facade : OrchestratorFacade)
    (requests : List CheckoutRequest) (a : Acceptance) : Prop :=
  ∃ proof, facade.proofOf (requestAt requests a.thread) = some proof ∧
    proof.mandateId = a.mandateId ∧ proof.expiresAt = a.expiresAt ∧
    ∃ n < a.step, env.now n < a.expiresAt

/-- The store holds every mandate that was accepted and has not expired. -/
structure Guarding (env : GateEnv) (facade : OrchestratorFacade) (requests : List CheckoutRequest)
    (w : GateWorld) (φ : Nat → Vetting) (log : List GateEntry) : Prop where
  clock : w.clock = steps log
  request : ∀ t, (φ t).request = requestAt requests t
  readings : ∀ t, ∀ now ∈ (φ t).readings, ∃ n < w.clock, env.now n = now
  admitted : ∀ t, (φ t).admitted → ∃ a ∈ acceptances log, a.thread = t
  kept : ∀ a ∈ acceptances log,
    w.mandates.lookup a.mandateId = some a.expiresAt ∨ a.expiresAt ≤ env.now w.clock
  spaced : (acceptances log).Pairwise fun a b =>
    a.mandateId = b.mandateId → a.expiresAt ≤ env.now b.step
  carried : ∀ a ∈ acceptances log, a.Carried env facade requests
  behind : facade.ap2Strict → ∀ t o x, .did t ⟨.runner o, x⟩ ∈ log →
    ∃ a ∈ acceptances log, a.thread = t

section Guarding

variable {env : GateEnv} {facade : OrchestratorFacade} {requests : List CheckoutRequest}
  {w : GateWorld} {φ : Nat → Vetting} {log : List GateEntry} {t : Nat} {o : GateOp}
  {q : Vetting} {x : o.Ans}

theorem vouches_of_accepted {mandateId : String} {expiresAt : Int}
    (ho : (gateMonitor facade).allow o q) (h : acceptedBy ⟨o, x⟩ = some (mandateId, expiresAt)) :
    q.Vouches facade mandateId expiresAt := by
  unfold acceptedBy at h
  split at h
  · next he =>
      cases he
      cases h
      exact ho
  · next he =>
      cases he
      cases h
      exact ho
  · cases h

/-- Only an acceptance admits. -/
theorem next_admitted (h : ((gateMonitor facade).next o q x).admitted) :
    q.admitted ∨ ∃ mandate, acceptedBy ⟨o, x⟩ = some mandate := by
  simp only [gateMonitor] at h
  split at h
  · exact Or.inl h
  · exact Or.inr ⟨_, rfl⟩
  · exact Or.inr ⟨_, rfl⟩
  · exact Or.inl h

theorem next_request : ((gateMonitor facade).next o q x).request = q.request := by
  simp only [gateMonitor]
  split <;> rfl

/-- Only a look at the clock is a reading. -/
theorem next_readings {now : Int}
    (h : now ∈ ((gateMonitor facade).next o q (env.handle o w).1).readings) :
    now ∈ q.readings ∨ now = env.now w.clock := by
  cases o with
  | unixNow => exact (List.mem_append.mp h).imp_right List.mem_singleton.mp
  | recordMandate mandateId expiresAt =>
      cases hx : (env.handle (.recordMandate mandateId expiresAt) w).1 with
      | error e =>
          rw [hx] at h
          exact Or.inl h
      | ok accepted =>
          rw [hx] at h
          cases accepted <;> exact Or.inl h
  | insertMandate mandateId expiresAt =>
      cases hx : (env.handle (.insertMandate mandateId expiresAt) w).1 with
      | error e =>
          rw [hx] at h
          exact Or.inl h
      | ok rowsAffected =>
          rw [hx] at h
          rcases rowsAffected with _ | _ | n <;> exact Or.inl h
  | deleteExpired now => exact Or.inl h
  | runner o => exact Or.inl h

/-- **One operation.** -/
theorem Guarding.step (h : Guarding env facade requests w φ log) (hclock : Monotone env.now)
    (ho : (gateMonitor facade).allow o (φ t)) :
    Guarding env facade requests (env.handle o w).2
      (Function.update φ t ((gateMonitor facade).next o (φ t) (env.handle o w).1))
      (log ++ [.did t ⟨o, (env.handle o w).1⟩]) := by
  have htick := env.handle_clock o w
  have hlater : env.now w.clock ≤ env.now (env.handle o w).2.clock :=
    hclock (by rw [htick]; exact Nat.le_succ _)
  have hreadings : ∀ now ∈ (φ t).readings, now ≤ env.now w.clock := by
    intro now hnow
    obtain ⟨n, hn, rfl⟩ := h.readings t now hnow
    exact hclock (Nat.le_of_lt hn)
  have hnew : ∀ a ∈ acceptanceAt t (steps log) ⟨o, (env.handle o w).1⟩,
      (env.handle o w).2.mandates.lookup a.mandateId = some a.expiresAt ∧
        (∀ b ∈ acceptances log, b.mandateId = a.mandateId → b.expiresAt ≤ env.now a.step) ∧
        a.Carried env facade requests ∧ a.thread = t := by
    intro a ha
    obtain ⟨haccepted, hthread, hstep⟩ := mem_acceptanceAt.mp ha
    obtain ⟨hstored, hfree⟩ := GateEnv.handle_accepts haccepted
    refine ⟨hstored, fun b hb hid => ?_, ?_, hthread⟩
    · rw [hstep, ← h.clock]
      rcases h.kept b hb with hheld | hexpired
      · exact hfree _ (hid ▸ hheld)
      · exact hexpired
    · obtain ⟨proof, hproof, hmandate, hexpires, now, hnow, hlive⟩ :=
        vouches_of_accepted ho haccepted
      obtain ⟨n, hn, rfl⟩ := h.readings t now hnow
      refine ⟨proof, ?_, hmandate, hexpires, n, ?_, hlive⟩
      · rw [hthread, ← h.request t]
        exact hproof
      · rw [hstep, ← h.clock]
        exact hn
  refine ⟨?_, ?_, ?_, ?_, ?_, ?_, ?_, ?_⟩
  · rw [htick, h.clock, steps_did]
  · intro t'
    by_cases ht : t' = t
    · subst ht
      rw [Function.update_self, next_request]
      exact h.request t'
    · rw [Function.update_of_ne ht]
      exact h.request t'
  · intro t' now hnow
    by_cases ht : t' = t
    · subst ht
      rw [Function.update_self] at hnow
      rcases next_readings hnow with hold | rfl
      · obtain ⟨n, hn, hread⟩ := h.readings t' now hold
        exact ⟨n, by rw [htick]; exact Nat.lt_succ_of_lt hn, hread⟩
      · exact ⟨w.clock, by rw [htick]; exact Nat.lt_succ_self _, rfl⟩
    · rw [Function.update_of_ne ht] at hnow
      obtain ⟨n, hn, hread⟩ := h.readings t' now hnow
      exact ⟨n, by rw [htick]; exact Nat.lt_succ_of_lt hn, hread⟩
  · intro t' hadmitted
    rw [acceptances_did]
    by_cases ht : t' = t
    · subst ht
      rw [Function.update_self] at hadmitted
      rcases next_admitted hadmitted with hold | ⟨mandate, haccepted⟩
      · obtain ⟨a, ha, hthread⟩ := h.admitted t' hold
        exact ⟨a, List.mem_append_left _ ha, hthread⟩
      · exact ⟨⟨t', steps log, mandate.1, mandate.2⟩,
          List.mem_append_right _ (mem_acceptanceAt.mpr ⟨haccepted, rfl, rfl⟩), rfl⟩
    · rw [Function.update_of_ne ht] at hadmitted
      obtain ⟨a, ha, hthread⟩ := h.admitted t' hadmitted
      exact ⟨a, List.mem_append_left _ ha, hthread⟩
  · intro a ha
    rw [acceptances_did] at ha
    rcases List.mem_append.mp ha with hold | hnow
    · rcases h.kept a hold with hheld | hexpired
      · exact (GateEnv.handle_keeps ho hreadings hheld).imp_right fun he => he.trans hlater
      · exact Or.inr (hexpired.trans hlater)
    · exact Or.inl (hnew a hnow).1
  · rw [acceptances_did]
    refine List.pairwise_append.mpr ⟨h.spaced, ?_, fun b hb a ha => (hnew a ha).2.1 b hb⟩
    unfold acceptanceAt
    cases acceptedBy ⟨o, (env.handle o w).1⟩ with
    | none => exact List.Pairwise.nil
    | some mandate => exact List.pairwise_singleton _ _
  · intro a ha
    rw [acceptances_did] at ha
    rcases List.mem_append.mp ha with hold | hnow
    · exact h.carried a hold
    · exact (hnew a hnow).2.2.1
  · intro hstrict t' o' x' hm
    rw [acceptances_did]
    rcases List.mem_append.mp hm with hold | hnow
    · obtain ⟨a, ha, hthread⟩ := h.behind hstrict t' o' x' hold
      exact ⟨a, List.mem_append_left _ ha, hthread⟩
    · obtain ⟨rfl, hevent⟩ := Entry.did.inj (List.mem_singleton.mp hnow)
      obtain ⟨rfl, -⟩ := Sigma.mk.inj hevent
      obtain ⟨a, ha, hthread⟩ := h.admitted t' (ho hstrict)
      exact ⟨a, List.mem_append_left _ ha, hthread⟩

theorem Guarding.returns {e : Event GateOp.Ans} {r : Except FacadeError TransactionResult}
    (h : Guarding env facade requests w φ (log ++ [.did t e])) :
    Guarding env facade requests w φ (log ++ [.did t e, .returned t r]) := by
  refine ⟨?_, h.request, h.readings, ?_, ?_, ?_, ?_, ?_⟩
  · rw [h.clock, steps_did, steps_returned]
  · rw [acceptances_returned]
    exact h.admitted
  · rw [acceptances_returned]
    exact h.kept
  · rw [acceptances_returned]
    exact h.spaced
  · rw [acceptances_returned]
    exact h.carried
  · rw [acceptances_returned]
    intro hstrict t' o' x' hm
    exact h.behind hstrict t' o' x' (by simpa using hm)

theorem requestAt_of_mem {request : CheckoutRequest} (h : requests[t]? = some request) :
    requestAt requests t = request := by
  rw [requestAt, List.getD_eq_getElem?_getD, h]
  rfl

/-- The checkouts of a run, before it starts. -/
theorem gate_follows (facade : OrchestratorFacade) (base : World)
    (mandates : InMemoryMandateDedupeStore) (requests : List CheckoutRequest) :
    Pool.AllFollow (gateMonitor facade)
      (fun _ => Passing fun _ q => facade.ap2Strict → q.admitted)
      (fun t => ⟨requestAt requests t, [], false⟩)
      (Pool.start (⟨base, mandates, 0⟩ : GateWorld)
        (requests.map fun request => (facade.executeCheckout request).run)) := by
  intro t p hp
  have hp : (requests.map fun request => (facade.executeCheckout request).run)[t]? = some p := hp
  rw [List.getElem?_map] at hp
  obtain ⟨request, hrequest, rfl⟩ := Option.map_eq_some_iff.mp hp
  exact executeCheckout_follows_gate (requestAt_of_mem hrequest)

theorem Guarding.start {base : World} {mandates : InMemoryMandateDedupeStore} :
    Guarding env facade requests ⟨base, mandates, 0⟩
      (fun t => ⟨requestAt requests t, [], false⟩) [] := by
  refine ⟨rfl, fun _ => rfl, ?_, ?_, ?_, List.Pairwise.nil, ?_, ?_⟩
  · exact fun t now hnow => absurd hnow List.not_mem_nil
  · exact fun t hadmitted => absurd hadmitted Bool.false_ne_true
  · exact fun a ha => absurd ha List.not_mem_nil
  · exact fun a ha => absurd ha List.not_mem_nil
  · exact fun _ t o x hm => absurd hm List.not_mem_nil

/-- **Every schedule.** -/
theorem GateEnv.run_guards (env : GateEnv) (facade : OrchestratorFacade) (base : World)
    (mandates : InMemoryMandateDedupeStore) (requests : List CheckoutRequest) (ts : List Nat)
    (hclock : Monotone env.now) :
    ∃ φ, Guarding env facade requests (env.run facade base mandates requests ts).world φ
      (env.run facade base mandates requests ts).log := by
  obtain ⟨φ, hguarding, -⟩ := Pool.run_invariant_at (C := fun _ _ _ _ => True)
    (I := Guarding env facade requests)
    (fun w φ log t o x w' hi ho _ hx => by
      obtain ⟨rfl, rfl⟩ := Handler.shared_eq_some.mp hx
      have hstep := hi.step hclock ho
      exact ⟨trivial, hstep, fun r _ => hstep.returns⟩)
    ts Guarding.start (gate_follows facade base mandates requests) Pool.stepsMeet_true.at_log
  exact ⟨φ, hguarding⟩

end Guarding

/-- **A mandate is accepted again only once the clock has reached the expiry it was accepted
with.**  Every acceptance is of a mandate that the request's own proof states, verified
before its expiry; and in strict mode no checkout reaches the runner without one. -/
theorem replays_wait_for_expiry (env : GateEnv) (facade : OrchestratorFacade) (base : World)
    (mandates : InMemoryMandateDedupeStore) (requests : List CheckoutRequest) (ts : List Nat)
    (hclock : Monotone env.now) :
    let log := (env.run facade base mandates requests ts).log
    ((acceptances log).Pairwise fun a b =>
        a.mandateId = b.mandateId → a.expiresAt ≤ env.now b.step) ∧
      (∀ a ∈ acceptances log, a.Carried env facade requests) ∧
      (facade.ap2Strict → ∀ t o x, .did t ⟨.runner o, x⟩ ∈ log →
        ∃ a ∈ acceptances log, a.thread = t) := by
  obtain ⟨φ, h⟩ := env.run_guards facade base mandates requests ts hclock
  exact ⟨h.spaced, h.carried, h.behind⟩

namespace Sample

def proofText (expiresAt : String) : String :=
  "\x7b\"issuer\":\"i\",\"subject\":\"s\",\"mandate_id\":\"m\"," ++
    "\"payment_handler_id\":\"h\",\"issued_at\":1,\"expires_at\":" ++ expiresAt ++ ",\"signature\":\"sig\"\x7d"

def proof (expiresAt : Int) : ConsentProof where
  vct := none
  issuer := "i"
  subject := "s"
  mandateId := "m"
  paymentHandlerId := "h"
  issuedAt := 1
  expiresAt
  signature := "sig"
  openMandate := none
  maxAmountMinor := none
  currency := none

/-- Reads the two proofs below. -/
def readProof (raw : String) : Option ConsentProof :=
  if raw = proofText "10" then some (proof 10)
  else if raw = proofText "30" then some (proof 30) else none

def strictFacade (mandates : MandateBackend) : OrchestratorFacade where
  runner := runner
  ap2Strict := true
  trustedIssuers := none
  parseProof := readProof
  mandates

def proven (expiresAt : String) : CheckoutRequest :=
  { request "k" with
    paymentIntent := { amountMinor := 100, tokenOrReference := "tok"
                       ap2ConsentProof := some (proofText expiresAt)
                       paymentHandlerId := some "h" } }

/-- The clock passes the first proof's expiry after four operations. -/
def gateEnv : GateEnv where
  base := Env.agreeable
  now n := if n < 4 then 5 else 20
  fault _ := none

theorem gateEnv_monotone : Monotone gateEnv.now := by
  intro m n hmn
  simp only [gateEnv]
  split <;> split <;> omega

/-- Two checkouts with proofs that expire at 10 and at 30, one after the other. -/
def renewal (mandates : MandateBackend) : GatePool :=
  gateEnv.run (strictFacade mandates) world ∅ [proven "10", proven "30"]
    [0, 0, 0, 0, 1, 1, 1, 1]

end Sample

/-- The expiry of the first proof has passed when the second is accepted. -/
theorem replays_wait_for_expiry_sample :
    (acceptances (Sample.renewal .postgres).log).Pairwise fun a b =>
      a.mandateId = b.mandateId → a.expiresAt ≤ Sample.gateEnv.now b.step := by
  rw [Sample.renewal]
  exact (replays_wait_for_expiry Sample.gateEnv (Sample.strictFacade .postgres) Sample.world ∅
    [Sample.proven "10", Sample.proven "30"] [0, 0, 0, 0, 1, 1, 1, 1] Sample.gateEnv_monotone).1

/-- On either backend one mandate id is accepted twice, once the first proof has expired. -/
theorem renewed_mandate_accepted :
    Monotone Sample.gateEnv.now ∧
      acceptances (Sample.renewal .inMemory).log = [⟨0, 1, "m", 10⟩, ⟨1, 5, "m", 30⟩] ∧
      acceptances (Sample.renewal .postgres).log = [⟨0, 3, "m", 10⟩, ⟨1, 7, "m", 30⟩] :=
  ⟨Sample.gateEnv_monotone, by decide +kernel, by decide +kernel⟩

end Orchestrator
