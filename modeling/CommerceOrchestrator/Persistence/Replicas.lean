/-
# `CommerceOrchestrator.Persistence.Replicas` — checkouts at once, over the database

What the in-memory store promises unconditionally (`calls_exclusive`,
`checkouts_pay_once`) the database store promises as long as claims read back
their own rows: the simulation of `PostgresIdempotency` carries both over.  The
condition is real.  A claim that comes while the key is in flight reads an
in-flight row it did not insert and takes it for its own, so two callers are told
to go on, and two checkouts charge the customer (`second_claim_goes_on_too`).
-/
import CommerceOrchestrator.Persistence.PostgresIdempotency
import CommerceOrchestrator.Runtime.Concurrency

namespace Orchestrator

open Effect Prog

variable {env : PgEnv} {w : PgWorld} {key : IdempotencyKey}

/-! ## A log of statements as a log of operations -/

/-- What a log of statements says about the operations they carry out. -/
def storeLog {α : Type} (key : IdempotencyKey) (log : List (Entry PgOp.Ans α)) :
    List (Entry Op.Ans α) :=
  log.filterMap fun
    | .did t e => (performed key e).map (.did t)
    | .returned t a => some (.returned t a)

section Log

variable {α : Type} {log : List (Entry PgOp.Ans α)} {t : Nat} {e : Event PgOp.Ans} {a : α}

theorem storeLog_did_none (h : performed key e = none) :
    storeLog key (log ++ [.did t e]) = storeLog key log := by
  simp [storeLog, h]

theorem storeLog_did_some {e' : Event Op.Ans} (h : performed key e = some e') :
    storeLog key (log ++ [.did t e]) = storeLog key log ++ [.did t e'] := by
  simp [storeLog, h]

theorem storeLog_returned :
    storeLog key (log ++ [.returned t a]) = storeLog key log ++ [.returned t a] := by
  simp [storeLog]

end Log

section Agreement

variable {Q : Type} {φ : Nat → Q × Tx} {t : Nat} {o : PgOp} {q : Q × Tx}

/-- The transactions of all threads agree with the row of the key. -/
def AllAgree (key : IdempotencyKey) (w : PgWorld) (φ : Nat → Q × Tx) : Prop :=
  ∀ t, (φ t).2.Agrees t (w.rows.lookup (idempotencyKeyStr key))

theorem AllAgree.step (h : AllAgree key w φ) (hwait : o.waits t w.rows = false)
    (hq : q.2.Agrees t ((env.exec t o w).2.rows.lookup (idempotencyKeyStr key))) :
    AllAgree key (env.exec t o w).2 (Function.update φ t q) := by
  intro t'
  by_cases ht : t' = t
  · subst ht
    rwa [Function.update_self]
  · rw [Function.update_of_ne ht]
    exact Tx.Agrees.exec ht hwait (h t')

theorem AllAgree.start (q : Q) : AllAgree key w (fun _ => (q, .idle)) :=
  fun _ => trivial

theorem update_fst : (fun t' => (Function.update φ t q t').1) =
    Function.update (fun t' => (φ t').1) t q.1 := by
  funext t'
  by_cases ht : t' = t
  · subst ht
    simp
  · simp [Function.update_of_ne ht]

end Agreement

/-! ## Calls of the store -/

/-- What holds throughout a pool of calls of the store. -/
structure CallsInv (key : IdempotencyKey) (w : PgWorld) (φ : Nat → CallPhase × Tx)
    (log : List (Entry PgOp.Ans KeyAnswer)) : Prop where
  held : Held (keyHistory (storeLog key log)) (w.state key)
  agrees : AllAgree key w φ

section Calls

variable {φ : Nat → CallPhase × Tx} {log : List (Entry PgOp.Ans KeyAnswer)} {t : Nat}
  {e : Event PgOp.Ans} {q q' : CallPhase} {c : Tx} {s s' : Option IdempotencyState}
  {e' : Option (Event Op.Ans)}

/-- A statement keeps the history and the state together. -/
theorem Held.moves (h : Held (keyHistory (storeLog key log)) s)
    (hm : Moves (callMonitor key) key q c s (performed key e) q' s') :
    Held (keyHistory (storeLog key (log ++ [.did t e]))) s' := by
  generalize hp : performed key e = e' at hm
  cases hm with
  | inside _ =>
      rw [storeLog_did_none hp]
      exact h
  | leaked _ hs =>
      subst hs
      rw [storeLog_did_none hp]
      exact h.leak
  | claimed x _ ho hs _ =>
      rw [storeLog_did_none hp]
      simpa [keyEvent] using h.step hs ho.1
  | performed e' _ ho _ hs =>
      rw [storeLog_did_some hp, keyHistory_append, keyHistory_did]
      exact h.step hs ho.1

/-- So does a statement after which the call returns. -/
theorem Held.moves_returns {a : KeyAnswer} (h : Held (keyHistory (storeLog key log)) s)
    (hm : Moves (callMonitor key) key q c s (performed key e) q' s') (ha : Relays a q') :
    Held (keyHistory (storeLog key (log ++ [.did t e, .returned t a]))) s' := by
  have hdid := h.moves (t := t) hm
  rw [List.append_cons, storeLog_returned, keyHistory_append, keyHistory_returned]
  -- a call that has not performed its operation has nothing to return
  have hfresh : q' = .fresh → answerEvent a = none := by
    rintro rfl
    cases a with
    | done x => rfl
    | claimed x => cases ha x rfl
  generalize hp : performed key e = e' at hm
  cases hm with
  | inside ho =>
      rw [hfresh ho.2]
      simpa using hdid
  | leaked ho _ =>
      rw [hfresh ho.2]
      simpa using hdid
  | claimed x _ ho hs _ =>
      rw [storeLog_did_none hp]
      simpa [keyEvent] using h.returns hs ho.1 ha
  | performed e' _ ho _ hs =>
      rw [storeLog_did_some hp, keyHistory_append, keyHistory_did]
      exact h.returns hs ho.1 ha

end Calls

/-- What a pool over the database starts with. -/
def PgEnv.pool {α : Type} (w : PgWorld) (ps : List (Eff α)) : Pool PgOp.Ans PgWorld α :=
  .start w (ps.map fun p => p.lower Op.overPostgres)

theorem callMonitor_onlyOn : OnlyOn key (callMonitor key) := fun _ _ ho => Or.inr ho.1

/-- **Calls of the store have one owner at a time**, if claims read back their own rows. -/
theorem postgres_calls_exclusive {calls : List KeyCall} {ts : List Nat}
    (hread : Pool.StepsMeet ReadsBackOwn env.handle ts
      (PgEnv.pool w (calls.map (KeyCall.run key)))) :
    Exclusive (keyHistory (storeLog key
      (Pool.run env.handle ts (PgEnv.pool w (calls.map (KeyCall.run key)))).log)) := by
  have hfollow : Pool.AllFollow (transacted key (callMonitor key))
      (fun _ a q' => ∃ q, q' = (q, .idle) ∧ Relays a q) (fun _ => (.fresh, .idle))
      (PgEnv.pool w (calls.map (KeyCall.run key))) := by
    intro t p hp
    obtain ⟨p', hp', rfl⟩ := List.mem_map.mp (List.mem_of_getElem? hp)
    obtain ⟨c, -, rfl⟩ := List.mem_map.mp hp'
    exact lower_follows callMonitor_onlyOn (fun _ _ _ => trivial) c.run_follows
  refine (Pool.run_invariant (I := CallsInv key)
    (P := PgEnv.pool w (calls.map (KeyCall.run key))) ?_ ts
    ⟨.nil _, .start _⟩ hfollow hread).elim fun _ h => h.1.held.exclusive
  intro w φ log t o x w' h ho hmeets hx
  obtain ⟨hwait, rfl, rfl⟩ := PgEnv.handle_eq_some.mp hx
  obtain ⟨hagree, hmoves⟩ := PgEnv.exec_moves env hmeets ho (h.agrees t)
  refine ⟨trivial, ⟨h.held.moves hmoves, h.agrees.step hwait hagree⟩, ?_⟩
  rintro a ⟨q, hq, ha⟩
  refine ⟨h.held.moves_returns hmoves ?_, h.agrees.step hwait hagree⟩
  rw [hq]
  exact ha

/-! ## Checkouts -/

/-- What holds throughout a pool of checkouts over the database. -/
structure CheckoutsInv (key : IdempotencyKey) (w : PgWorld) (φ : Nat → Phase × Tx)
    (log : List (Entry PgOp.Ans (Except RunnerError TransactionResult))) : Prop where
  standing : Standing (fun t => (φ t).1) (payments (storeLog key log)) (w.state key)
  agrees : AllAgree key w φ
  exact : ∀ t result, (φ t).2 = .seen (.completed result) → w.state key = some (.completed result)

section Checkouts

variable {φ : Nat → Phase} {paid : List Payment} {t : Nat} {q q' : Phase} {c : Tx}
  {s s' : Option IdempotencyState} {e : Option (Event Op.Ans)}

/-- A statement keeps the standing of the key. -/
theorem Standing.moves (h : Standing φ paid s)
    (hm : Moves (checkoutMonitor key) key (φ t) c s e q' s')
    (hexact : ∀ result, c = .seen (.completed result) → s = some (.completed result)) :
    Standing (Function.update φ t q') (paid ++ (e.bind (payment t)).toList) s' := by
  cases hm with
  | inside _ => simpa using h
  | leaked _ hs =>
      subst hs
      simpa using h.leak
  | claimed x _ ho hs hc =>
      have hstep := h.step ho hs fun result he => by
        obtain ⟨-, hx⟩ := Sigma.mk.inj_iff.mp he
        exact hexact result (hc result (eq_of_heq hx))
      simpa [payment, Op.pays] using hstep
  | performed e _ ho hne hs =>
      refine h.step ho hs fun result he => ?_
      rw [he] at hne
      exact absurd rfl hne

/-- No statement changes a completed key. -/
theorem Standing.moves_completed {result : TransactionResult}
    (h : Standing φ paid (some (.completed result)))
    (hm : Moves (checkoutMonitor key) key (φ t) c (some (.completed result)) e q' s') :
    s' = some (.completed result) := by
  cases hm with
  | inside _ => rfl
  | leaked _ hs => cases hs
  | claimed x _ ho hs _ => exact h.completed_stays ho hs
  | performed e _ ho _ hs => exact h.completed_stays ho hs

end Checkouts

theorem payments_storeLog {log : List (Entry PgOp.Ans (Except RunnerError TransactionResult))}
    {t : Nat} {e : Event PgOp.Ans} :
    payments (storeLog key (log ++ [.did t e])) =
      payments (storeLog key log) ++ ((performed key e).bind (payment t)).toList := by
  cases h : performed key e with
  | none => simp [storeLog_did_none h]
  | some e' => simp [storeLog_did_some h]

theorem CheckoutsInv.did (env : PgEnv) {φ : Nat → Phase × Tx}
    {log : List (Entry PgOp.Ans (Except RunnerError TransactionResult))} {t : Nat} {o : PgOp}
    (h : CheckoutsInv key w φ log) (ho : (transacted key (checkoutMonitor key)).allow o (φ t))
    (hread : ReadsBackOwn t o w) (hwait : o.waits t w.rows = false) :
    CheckoutsInv key (env.exec t o w).2
      (Function.update φ t
        ((transacted key (checkoutMonitor key)).next o (φ t) (env.exec t o w).1))
      (log ++ [.did t ⟨o, (env.exec t o w).1⟩]) := by
  obtain ⟨hagree, hmoves⟩ := PgEnv.exec_moves env hread ho (h.agrees t)
  refine ⟨?_, h.agrees.step hwait hagree, ?_⟩
  · rw [update_fst, payments_storeLog]
    exact h.standing.moves (φ := fun t => (φ t).1) hmoves (h.exact t)
  · intro t' result hseen
    by_cases ht : t' = t
    · subst ht
      rw [Function.update_self] at hseen
      exact PgEnv.exec_seen_completed ho hseen
    · rw [Function.update_of_ne ht] at hseen
      have hs := h.exact t' result hseen
      have hstanding := h.standing
      rw [hs] at hmoves hstanding
      exact hstanding.moves_completed (φ := fun t => (φ t).1) hmoves

theorem checkoutMonitor_onlyOn : OnlyOn key (checkoutMonitor key) := by
  intro o q ho
  cases hk : o.keys with
  | true => exact Or.inr (checkoutMonitor_onKey ho hk)
  | false => cases o <;> first | exact Or.inl rfl | cases hk

/-- **A key pays once over the database**, if claims read back their own rows. -/
theorem postgres_checkouts_pay_once {runner : Runner} {requests : List CheckoutRequest}
    {ts : List Nat} (hkey : ∀ request ∈ requests, IdempotencyKey.ofRequest request = key)
    (hread : Pool.StepsMeet ReadsBackOwn env.handle ts
      (PgEnv.pool w (requests.map fun request => (executeCheckout runner request).run))) :
    PaysOnce (payments (storeLog key (Pool.run env.handle ts
      (PgEnv.pool w (requests.map fun request => (executeCheckout runner request).run))).log)) := by
  have hfollow : Pool.AllFollow (transacted key (checkoutMonitor key))
      (fun _ a q' => ∃ q, q' = (q, .idle) ∧ Ends a q) (fun _ => (.waiting, .idle))
      (PgEnv.pool w (requests.map fun request => (executeCheckout runner request).run)) := by
    intro t p hp
    obtain ⟨p', hp', rfl⟩ := List.mem_map.mp (List.mem_of_getElem? hp)
    obtain ⟨request, hreq, rfl⟩ := List.mem_map.mp hp'
    refine lower_follows checkoutMonitor_onlyOn (fun _ _ _ => trivial) ?_
    rw [← hkey request hreq]
    exact executeCheckout_follows
  refine (Pool.run_invariant (I := CheckoutsInv key)
    (P := PgEnv.pool w (requests.map fun request => (executeCheckout runner request).run)) ?_ ts
    ⟨.init _, .start _, fun _ _ h => by cases h⟩ hfollow hread).elim
    fun _ h => h.1.standing.paysOnce
  intro w φ log t o x w' h ho hmeets hx
  obtain ⟨hwait, rfl, rfl⟩ := PgEnv.handle_eq_some.mp hx
  have hdid := h.did env ho hmeets hwait
  refine ⟨trivial, hdid, fun r _ => ⟨?_, hdid.agrees, hdid.exact⟩⟩
  rw [List.append_cons, storeLog_returned, payments_returned]
  exact hdid.standing

/-! ## Both, and what the condition is for -/

/-- **One owner, one payment, over the database.**  In every run, however the calls
interleave statement by statement and whatever fails, whose claims read back no row
that was already in flight: calls of the store on one key have one owner at a time,
and checkouts under one key pay once. -/
theorem postgres_one_owner (env : PgEnv) (runner : Runner) (w : PgWorld) (key : IdempotencyKey)
    (ts : List Nat) :
    (∀ calls : List KeyCall,
      Pool.StepsMeet ReadsBackOwn env.handle ts (PgEnv.pool w (calls.map (KeyCall.run key))) →
      Exclusive (keyHistory (storeLog key
        (Pool.run env.handle ts (PgEnv.pool w (calls.map (KeyCall.run key)))).log))) ∧
    (∀ requests : List CheckoutRequest,
      (∀ request ∈ requests, IdempotencyKey.ofRequest request = key) →
      Pool.StepsMeet ReadsBackOwn env.handle ts
        (PgEnv.pool w (requests.map fun request => (executeCheckout runner request).run)) →
      PaysOnce (payments (storeLog key (Pool.run env.handle ts
        (PgEnv.pool w (requests.map fun request => (executeCheckout runner request).run))).log))) :=
  ⟨fun _ hread => postgres_calls_exclusive hread,
    fun _ hkey hread => postgres_checkouts_pay_once hkey hread⟩

/-- Statements that never fail, and providers that agree. -/
def PgEnv.agreeable : PgEnv := { Env.agreeable with statementFault := fun _ _ => none }

/-- The sample cart, and no row for any key. -/
def Sample.pgWorld : PgWorld := ⟨Sample.world, ∅⟩

/-- The key of the sample requests under the idempotency key `"k"`. -/
def Sample.storeKey : IdempotencyKey := ⟨"t", "m", "k"⟩

/-- Two claims at once, the first released while the second waits for its row; and a
checkout after another. -/
theorem postgres_one_owner_sample :
    Exclusive (keyHistory (storeLog Sample.storeKey (Pool.run PgEnv.agreeable.handle
      [0, 1, 0, 1, 0, 1, 0, 2, 1, 1, 1]
      (PgEnv.pool Sample.pgWorld ([.claim, .claim, .release].map (KeyCall.run Sample.storeKey)))).log)) ∧
    PaysOnce (payments (storeLog Sample.storeKey (Pool.run PgEnv.agreeable.handle
      (List.replicate 30 0 ++ List.replicate 10 1)
      (PgEnv.pool Sample.pgWorld ([Sample.request "k", Sample.request "k"].map fun request =>
        (executeCheckout Sample.runner request).run))).log)) := by
  have hkey : ∀ request ∈ [Sample.request "k", Sample.request "k"],
      IdempotencyKey.ofRequest request = Sample.storeKey := by decide
  have hcalls : Pool.StepsMeet ReadsBackOwn PgEnv.agreeable.handle [0, 1, 0, 1, 0, 1, 0, 2, 1, 1, 1]
      (PgEnv.pool Sample.pgWorld ([.claim, .claim, .release].map (KeyCall.run Sample.storeKey))) := by
    decide +kernel
  have hcheckouts : Pool.StepsMeet ReadsBackOwn PgEnv.agreeable.handle
      (List.replicate 30 0 ++ List.replicate 10 1)
      (PgEnv.pool Sample.pgWorld ([Sample.request "k", Sample.request "k"].map fun request =>
        (executeCheckout Sample.runner request).run)) := by decide +kernel
  exact ⟨(postgres_one_owner _ Sample.runner _ _ _).1 _ hcalls,
    (postgres_one_owner _ _ _ _ _).2 _ hkey hcheckouts⟩

/-- **The defect.**  A claim of a key that is in flight is told to go on as well, and
two checkouts under one key, turn by turn, authorize the payment twice. -/
theorem second_claim_goes_on_too :
    ¬ Exclusive (keyHistory (storeLog Sample.storeKey (Pool.run PgEnv.agreeable.handle
      [0, 0, 0, 0, 1, 1, 1, 1]
      (PgEnv.pool Sample.pgWorld ([.claim, .claim].map (KeyCall.run Sample.storeKey)))).log)) ∧
    ¬ PaysOnce (payments (storeLog Sample.storeKey (Pool.run PgEnv.agreeable.handle
      ((List.range 80).map (· % 2))
      (PgEnv.pool Sample.pgWorld ([Sample.request "k", Sample.request "k"].map fun request =>
        (executeCheckout Sample.runner request).run))).log)) := by
  constructor
  · intro h
    have hgranted := (h [] [.granted, .granted] [] rfl (by decide)).granted
    exact absurd hgranted (by decide)
  · intro h
    exact absurd h.authorize (by decide +kernel)

end Orchestrator
