/-
# `CommerceOrchestrator.Runtime.Spending` — a key is spent once

A checkout that reaches a capture leaves its key in flight or completed, and
nothing frees it after that: `release` is only asked for by the call that owns
the key, before it pays.  So a key charges once (`session_charges_once`).  A
cart does not: nothing a finished checkout leaves behind is asked about by a
later one under another key (`second_key_charges_again`).
-/
import CommerceOrchestrator.Runtime.Accounting

namespace Orchestrator

open Effect Prog

variable {env : Env} {runner : Runner} {request : CheckoutRequest} {w w' : World}
  {tr : List (Event Op.Ans)} {r : Except RunnerError TransactionResult} {key : IdempotencyKey}

/-- The key is in flight or completed. -/
def Spent (key : IdempotencyKey) (w : World) : Prop := w.idempotency.lookup key ≠ none

theorem Spent.step {o : Op} (h : Spent key w) (ho : o ≠ .release key) :
    Spent key (env.handle o w).2 := by
  unfold Spent
  by_cases hk : o.onKey = some key
  · cases o with
    | claim key' =>
        rw [Env.handle_claim_lookup]
        split
        · exact Option.some_ne_none _
        · exact h
    | complete key' result =>
        rw [Env.handle_complete_lookup]
        split
        · exact Option.some_ne_none _
        · exact h
    | release key' => exact absurd (congrArg Op.release (Option.some.inj hk)) ho
    | _ => cases hk
  · rw [Env.handle_lookup_of_onKey_ne hk]
    exact h

/-- A path on which the key is not released keeps it spent. -/
theorem Spent.replays (h : Spent key w) (hr : Replays env.handle w tr w')
    (hrel : ∀ x, ⟨.release key, x⟩ ∉ tr) : Spent key w' := by
  refine hr.preserves (I := Spent key) h ?_
  rintro ⟨o, x⟩ he v hv -
  refine hv.step ?_
  rintro rfl
  exact hrel x he

/-- A claim that tells the caller to go on has spent the key. -/
theorem spent_claim (h : (env.handle (.claim key) w).1 = .ok none) :
    Spent key (env.handle (.claim key) w).2 := by
  unfold Spent
  rw [Env.handle_claim_lookup, h, if_pos ⟨tookHold_ok _, rfl⟩]
  exact Option.some_ne_none _

theorem CapturedPath.not_releases {paid : PaymentOperationResult} {pay : PaymentLifecycleRequest}
    (h : CapturedPath runner request paid pay tr r) (x : Except StoreError Unit) :
    ⟨.release key, x⟩ ∉ tr := by
  cases h with
  | mk cart auth committed hs hr hb =>
      simp [notMem_of_ops hs.settles (o := .release key) rfl,
        notMem_of_ops hr.reserves (o := .release key) rfl,
        notMem_of_ops hb.finishes (o := .release key) rfl]

/-- A checkout that captured has spent its key. -/
theorem CapturedPath.spends {paid : PaymentOperationResult} {pay : PaymentLifecycleRequest}
    (h : CapturedPath runner request paid pay tr r) (hr : Replays env.handle w tr w') :
    Spent (.ofRequest request) w' := by
  have hrel : ∀ x, ⟨.release (.ofRequest request), x⟩ ∉ tr := fun x => h.not_releases x
  cases h with
  | mk cart auth committed hs hres hb =>
      refine (spent_claim hr.1).replays hr.2 ?_
      intro x hm
      exact hrel x (List.mem_cons_of_mem _ hm)

/-- From a spent key a checkout goes no further than its claim. -/
theorem CheckoutPath.turned_away (h : CheckoutPath runner request tr r)
    (hr : Replays env.handle w tr w') (hkey : Spent (.ofRequest request) w) :
    ∀ e ∈ tr, e.1.claims := by
  cases h with
  | owned _ _ => exact absurd (Env.handle_claim_ok hr.1) hkey
  | _ => simp [Op.claims]

theorem CheckoutPath.stays_spent (h : CheckoutPath runner request tr r)
    (hr : Replays env.handle w tr w') (hkey : Spent key w) : Spent key w' := by
  refine hkey.replays hr ?_
  intro x hm
  have honly : key = .ofRequest request := h.onlyKey _ hm key rfl
  subst honly
  exact absurd (h.turned_away hr hkey _ hm) Bool.false_ne_true

/-! ## Charges -/

/-- The turn is a checkout of `cartId` under `key`: its capture succeeded, and it
stored an order for the cart. -/
def Charges (cartId : CartId) (key : IdempotencyKey) (turn : Turn Op.Ans Outcome) : Prop :=
  (∃ request r, turn.result = .checkout request r ∧ IdempotencyKey.ofRequest request = key) ∧
  (∃ pay paid, ⟨.capture pay, .ok paid⟩ ∈ turn.trace ∧ paid.success = true) ∧
  ∃ order x, ⟨.putOrder order, x⟩ ∈ turn.trace ∧ tookHold x ∧ order.checkoutId = cartId

/-- **A key charges once.**  In every session, whatever fails in it, at most one
call under a key gets a successful capture and stores an order for a given cart. -/
theorem session_charges_once (env : Env) (runner : Runner) (calls : List Call) (w : World)
    (cartId : CartId) (key : IdempotencyKey) :
    (session env runner calls w).1.Pairwise fun t t' =>
      ¬ (Charges cartId key t ∧ Charges cartId key t') := by
  refine session_once (S := Spent key) ?_ ?_ calls w
  · rintro w tr out w' hp hr ⟨⟨request, r, hout, rfl⟩, ⟨pay, paid, hcap, -⟩, -⟩
    cases hp with
    | cart ht => cases hout
    | checkout hp =>
        cases hout
        exact (hp.captured_of_mem hcap).spends hr
  · intro w tr out w' hp hr hkey
    cases hp with
    | cart ht =>
        have hcarts := dispatchCartCommand_carts ht
        refine ⟨?_, ?_⟩
        · rw [Spent, Replays.idempotency_eq hr fun e he => Op.carts_not_keys (hcarts e he)]
          exact hkey
        · rintro ⟨⟨request, r, hout, -⟩, -⟩
          cases hout
    | checkout hp =>
        refine ⟨hp.stays_spent hr hkey, ?_⟩
        rintro ⟨⟨request, r, hout, rfl⟩, ⟨pay, paid, hcap, -⟩, -⟩
        cases hout
        exact absurd (hp.turned_away hr hkey _ hcap) Bool.false_ne_true

/-- One cart, checked out under two keys, is charged twice. -/
theorem second_key_charges_again :
    ¬ ∀ (env : Env) (runner : Runner) (calls : List Call) (cartId : CartId),
      (session env runner calls World.empty).1.Pairwise fun t t' =>
        ∀ key key', ¬ (Charges cartId key t ∧ Charges cartId key' t') := by
  intro h
  have hpair := h Env.agreeable Sample.runner
    (Sample.shopping ++ [.checkout (Sample.request "k"), .checkout (Sample.request "k2")])
    Sample.cart.cartId
  refine List.pairwise_iff_get.mp hpair ⟨2, by decide⟩ ⟨3, by decide⟩ (by decide)
    (.ofRequest (Sample.request "k")) (.ofRequest (Sample.request "k2")) ⟨?_, ?_⟩
  · refine ⟨⟨Sample.request "k", _, rfl, rfl⟩, ?_, ?_⟩
    · exact ⟨_, ⟨true, "capture"⟩, List.get_mem _ ⟨9, by decide⟩, rfl⟩
    · exact ⟨_, .ok (), List.get_mem _ ⟨14, by decide⟩, rfl, rfl⟩
  · refine ⟨⟨Sample.request "k2", _, rfl, rfl⟩, ?_, ?_⟩
    · exact ⟨_, ⟨true, "capture"⟩, List.get_mem _ ⟨9, by decide⟩, rfl⟩
    · exact ⟨_, .ok (), List.get_mem _ ⟨14, by decide⟩, rfl, rfl⟩

end Orchestrator
