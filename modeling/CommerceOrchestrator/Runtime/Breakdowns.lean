/-
# `CommerceOrchestrator.Runtime.Breakdowns` — the totals of results and orders

A checkout takes the totals of its result and of its order from the cart it re-priced, and
there they balance.  An outcome that is told again was an owner's before, so in a run of
calls at once the totals of every result returned and of every order stored balance.
-/
import CommerceOrchestrator.Runtime.Reuse
import CommerceOrchestrator.Runtime.Totals

namespace Orchestrator

open Effect Prog

/-- The total is what the other amounts come to, and a discount takes nothing on. -/
structure TotalsBreakdown.Balances (totals : TotalsBreakdown) : Prop where
  total : totals.totalMinor =
    totals.subtotalMinor + totals.taxMinor + totals.fulfillmentMinor - totals.discountMinor
  discount_nonneg : 0 ≤ totals.discountMinor

theorem Totals.balances {cart : CartProjection} (h : Totals cart) : cart.totals.Balances :=
  ⟨h.balanced.total, h.balanced.discount_nonneg⟩

/-! ## One call -/

variable {request : CheckoutRequest} {runner : Runner} {cart repriced : CartProjection}
  {tr : List (Event Op.Ans)} {r : Except RunnerError TransactionResult}

theorem DiscountPath.balances (h : DiscountPath cart tr (.ok repriced)) :
    repriced.totals.Balances := by
  cases h with
  | none hcodes => exact ⟨(sub_zero _).symm, le_refl _⟩
  | applied ds hcodes =>
      refine ⟨rfl, ?_⟩
      show 0 ≤ totalDiscountMinor ds cart.grossMinor
      have hasked := requestedMinor_nonneg ds
      rw [totalDiscountMinor_eq]
      omega

theorem RepricePath.balances (h : RepricePath cart tr (.ok repriced)) :
    repriced.totals.Balances := by
  cases h with
  | discounted ps tax hd => exact hd.balances

theorem SettlePath.balances (h : SettlePath request tr (.ok cart)) : cart.totals.Balances := by
  cases h with
  | settled stored repriced g _ hp _ _ => exact ⟨hp.balances.total, hp.balances.discount_nonneg⟩

/-- Outcomes that are told balance; so do the outcomes and orders that are stored. -/
def balanceMonitor : Monitor Op.Ans Unit where
  allow o _ :=
    match o with
    | .complete _ result => result.totalsBreakdown.Balances
    | .putOrder order => order.totals.Balances
    | _ => True
  rely o _ x :=
    match o, x with
    | .claim _, .ok (some (.completed result)) => result.totalsBreakdown.Balances
    | _, _ => True
  next _ q _ := q

/-- What a call returns balances. -/
def BalancedOutcome (out : Outcome) : Prop :=
  ∀ request result, out = .checkout request (.ok result) → result.totalsBreakdown.Balances

section Accepted

variable {P : Unit → Prop}

theorem balanceMonitor_idle {o : Op} {x : o.Ans} {q : Unit} (h : o.sells = false) :
    balanceMonitor.allow o q ∧ balanceMonitor.next o q x = q := by
  cases o <;> first | exact ⟨trivial, rfl⟩ | exact absurd h Bool.noConfusion

theorem ConcludePath.balanced {result : TransactionResult}
    (hresult : result.totalsBreakdown.Balances) (h : ConcludePath request result tr r) :
    balanceMonitor.Accepts (fun _ => BalancedOutcome (.checkout request r)) tr () := by
  cases h <;> simp [balanceMonitor, BalancedOutcome, hresult]

theorem BookPath.balanced {committed : CommitRecord} {paid : PaymentOperationResult}
    (hcart : cart.totals.Balances) (h : BookPath request cart committed paid tr r) :
    balanceMonitor.Accepts (fun _ => BalancedOutcome (.checkout request r)) tr () := by
  have horder (b : Booking request cart committed paid) : b.record.totals.Balances := hcart
  have hresult (b : Booking request cart committed paid) (receipt : ReceiptPayload) :
      (b.result receipt).totalsBreakdown.Balances := hcart
  cases h <;> simp [balanceMonitor, BalancedOutcome, Booking.draws, horder, hresult]

theorem PayPath.balanced (hcart : cart.totals.Balances) (h : PayPath runner request cart tr r) :
    balanceMonitor.Accepts (fun _ => BalancedOutcome (.checkout request r)) tr () := by
  cases h with
  | rejected errors txn corr _ hc =>
      exact ⟨trivial, fun _ => ⟨trivial, fun _ => hc.balanced hcart⟩⟩
  | unauthorized e _ => simp [balanceMonitor, BalancedOutcome]
  | declined auth txn corr _ _ hc =>
      exact ⟨trivial, fun _ => ⟨trivial, fun _ => ⟨trivial, fun _ => hc.balanced hcart⟩⟩⟩
  | uncommitted auth e _ _ => simp [balanceMonitor, BalancedOutcome]
  | uncaptured auth committed e _ _ => simp [balanceMonitor, BalancedOutcome]
  | captured auth committed paid _ _ hb =>
      exact ⟨trivial, fun _ => ⟨trivial, fun _ => ⟨trivial, fun _ => hb.balanced hcart⟩⟩⟩

theorem OwnerPath.balanced (h : OwnerPath runner request tr r) :
    balanceMonitor.Accepts (fun _ => BalancedOutcome (.checkout request r)) tr () := by
  have idle {tr : List (Event Op.Ans)} {P : Unit → Prop}
      (htr : ∀ e ∈ tr, e.1.sells = false) (hP : P ()) : balanceMonitor.Accepts P tr () :=
    Monitor.Accepts.idle (fun e he => balanceMonitor_idle (htr e he)) hP
  cases h with
  | unsettled e x e' hs =>
      refine Monitor.accepts_append.mpr (idle (fun e he => Op.settles_not_sells (hs.settles e he)) ?_)
      simp [balanceMonitor, BalancedOutcome]
  | unreserved cart e hs hr =>
      refine Monitor.accepts_append.mpr (idle (fun e he => Op.settles_not_sells (hs.settles e he)) ?_)
      refine idle (fun e he => Op.reserves_not_sells (hr.reserves e he)) ?_
      simp [BalancedOutcome]
  | paid cart hs hr hp =>
      refine Monitor.accepts_append.mpr (idle (fun e he => Op.settles_not_sells (hs.settles e he)) ?_)
      refine Monitor.accepts_append.mpr (idle (fun e he => Op.reserves_not_sells (hr.reserves e he)) ?_)
      exact hp.balanced hs.balances

theorem CheckoutPath.balanced (h : CheckoutPath runner request tr r) :
    balanceMonitor.Accepts (fun _ => BalancedOutcome (.checkout request r)) tr () := by
  cases h with
  | invalid _ => simp [BalancedOutcome]
  | unclaimed e _ => simp [balanceMonitor, BalancedOutcome]
  | inFlight _ => simp [balanceMonitor, BalancedOutcome]
  | replayed result _ =>
      refine ⟨trivial, fun hresult => ?_⟩
      rintro request' result' ⟨⟩
      exact hresult
  | owned _ ho => exact ⟨trivial, fun _ => ho.balanced⟩

end Accepted

theorem Call.prog_balances (runner : Runner) (call : Call) :
    (call.prog runner).Follows balanceMonitor (fun out _ => BalancedOutcome out) () := by
  refine Follows.of_trace fun tr out h => ?_
  cases call with
  | checkout request =>
      obtain ⟨r, t₁, t₂, rfl, ht, rfl, rfl⟩ := trace_bind.mp h
      rw [List.append_nil]
      exact (executeCheckout_trace ht).balanced
  | cart command cartId =>
      obtain ⟨r, t₁, t₂, rfl, ht, rfl, rfl⟩ := trace_bind.mp h
      rw [List.append_nil]
      refine Monitor.Accepts.idle (fun e he => ?_) ?_
      · have hcarts := dispatchCartCommand_carts ht e he
        obtain ⟨o, x⟩ := e
        cases o <;> first | exact ⟨trivial, rfl⟩ | exact absurd hcarts Bool.false_ne_true
      · rintro request result ⟨⟩

/-! ## Calls at once -/

/-- The totals of all outcomes and orders stored and of all results returned balance. -/
structure AllBalance (w : World) (log : List CallEntry) : Prop where
  completed : ∀ key result, w.idempotency.lookup key = some (.completed result) →
    result.totalsBreakdown.Balances
  ordered : ∀ id order, w.orders.get id = some order → order.totals.Balances
  returned : ∀ t request result, .returned t (.checkout request (.ok result)) ∈ log →
    result.totalsBreakdown.Balances

theorem AllBalance.did {w : World} {log : List CallEntry} {o : Op} (env : Env) (t : Nat)
    (h : AllBalance w log) (ho : balanceMonitor.allow o ()) :
    AllBalance (env.handle o w).2 (log ++ [.did t ⟨o, (env.handle o w).1⟩]) := by
  refine ⟨fun key result hkey => ?_, fun id order hid => ?_, fun t' request result hm => ?_⟩
  · have hs := env.handle_keyStep key o w
    rw [hkey] at hs
    rcases hs.completed_cases with hkey | ⟨x, he⟩
    · exact h.completed key result hkey
    · obtain ⟨rfl, -⟩ := Sigma.mk.inj_iff.mp he
      exact ho
  · cases hput : o.putsOrder with
    | false =>
        rw [Env.handle_orders hput] at hid
        exact h.ordered id order hid
    | true =>
        cases o with
        | putOrder record =>
            rw [Env.handle_putOrder_orders] at hid
            split at hid
            · rw [InMemoryOrderStore.get_put] at hid
              split at hid
              · exact Option.some.inj hid ▸ ho
              · exact h.ordered id order hid
            · exact h.ordered id order hid
        | _ => exact absurd hput Bool.false_ne_true
  · exact h.returned t' request result (by simpa using hm)

theorem atOnce_allBalance (env : Env) (runner : Runner) (calls : List Call) (ts : List Nat) :
    AllBalance (atOnce env runner calls ts World.empty).world
      (atOnce env runner calls ts World.empty).log := by
  have hstart : Pool.AllFollow balanceMonitor (fun _ out _ => BalancedOutcome out) (fun _ => ())
      (Pool.start World.empty (calls.map (·.prog runner))) := by
    intro t p hp
    rw [threadCall_prog hp]
    exact Call.prog_balances runner _
  have hnothing : AllBalance World.empty [] :=
    ⟨fun _ _ h => (by cases h), fun _ _ h => (by cases h), fun _ _ _ h => absurd h List.not_mem_nil⟩
  refine (Pool.run_invariant (C := fun _ _ _ => True) (I := fun w _ log => AllBalance w log) ?_ ts
    hnothing hstart Pool.stepsMeet_true).elim fun _ h => h.1
  intro w φ log t o x w' h ho _ hx
  obtain ⟨rfl, rfl⟩ := Handler.shared_eq_some.mp hx
  refine ⟨?_, h.did env t ho, fun out hout => ?_⟩
  · cases o with
    | claim key =>
        cases hx : (env.handle (.claim key) w).1 with
        | error e => trivial
        | ok state =>
            rcases state with _ | _ | result
            · trivial
            · trivial
            · exact h.completed key result (Env.handle_claim_ok hx)
    | _ => trivial
  · have hdid := h.did env t ho
    refine ⟨hdid.completed, hdid.ordered, fun t' request result hm => ?_⟩
    rw [List.append_cons] at hm
    rcases List.mem_append.mp hm with hm | hm
    · exact hdid.returned t' request result hm
    · obtain ⟨-, hret⟩ := Entry.returned.inj (List.mem_singleton.mp hm)
      exact hout request result hret.symm

end Orchestrator
