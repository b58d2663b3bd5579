/-
# `CommerceOrchestrator.Runtime.Session` — calls one after the other

A session is a list of cart commands and checkouts, run to their end in order
over one world.  A world is reachable when some session from nothing ends in it.
-/
import CommerceOrchestrator.Runtime.CartPaths
import CommerceOrchestrator.Runtime.Paths

namespace Orchestrator

open Effect Prog

/-- The two entry points of the runner. -/
inductive Call
  | cart (command : CartCommand) (cartId : Option CartId)
  | checkout (request : CheckoutRequest)
deriving DecidableEq, Repr

/-- What a call asked and what it returned. -/
inductive Outcome
  | cart (command : CartCommand) (cartId : Option CartId) (r : Except RunnerError CartProjection)
  | checkout (request : CheckoutRequest) (r : Except RunnerError TransactionResult)

def Call.prog (runner : Runner) : Call → Eff Outcome
  | .cart command cartId =>
      (dispatchCartCommand runner command cartId).run >>= fun r => .ret (.cart command cartId r)
  | .checkout request => (executeCheckout runner request).run >>= fun r => .ret (.checkout request r)

/-- Run a session: the finished calls, and the world at the end. -/
def session (env : Env) (runner : Runner) (calls : List Call) (w : World) :
    List (Turn Op.Ans Outcome) × World :=
  runAll env.handle (calls.map (·.prog runner)) w

/-- Some session from nothing ends in `w`. -/
def Reachable (env : Env) (runner : Runner) (w : World) : Prop :=
  ∃ calls, (session env runner calls World.empty).2 = w

/-- What a turn of a session is: the path of a cart command or of a checkout. -/
inductive CallPath (runner : Runner) : List (Event Op.Ans) → Outcome → Prop
  | cart {command : CartCommand} {cartId : Option CartId} {tr : List (Event Op.Ans)}
      {r : Except RunnerError CartProjection} :
      (dispatchCartCommand runner command cartId).run.Trace tr r →
      CallPath runner tr (.cart command cartId r)
  | checkout {request : CheckoutRequest} {tr : List (Event Op.Ans)}
      {r : Except RunnerError TransactionResult} : CheckoutPath runner request tr r →
      CallPath runner tr (.checkout request r)

variable {env : Env} {runner : Runner} {w : World}

theorem Call.prog_trace {call : Call} {tr : List (Event Op.Ans)} {out : Outcome}
    (h : (call.prog runner).Trace tr out) : CallPath runner tr out := by
  cases call with
  | cart command cartId =>
      obtain ⟨r, t₁, t₂, rfl, ht, rfl, rfl⟩ := trace_bind.mp h
      rw [List.append_nil]
      exact .cart ht
  | checkout request =>
      obtain ⟨r, t₁, t₂, rfl, ht, rfl, rfl⟩ := trace_bind.mp h
      rw [List.append_nil]
      exact .checkout (executeCheckout_trace ht)

/-- **Session induction.**  A property of worlds that every call's path preserves
holds at the end of every session. -/
theorem session_preserves {I : World → Prop}
    (hstep : ∀ w tr out w', I w → CallPath runner tr out → Replays env.handle w tr w' → I w')
    {calls : List Call} (hw : I w) : I (session env runner calls w).2 := by
  refine runAll_preserves (fun p hp w hw => ?_) hw
  obtain ⟨call, -, rfl⟩ := List.mem_map.mp hp
  exact hstep w _ _ _ hw (Call.prog_trace (events_trace _ w)) (events_replays _ w)

/-- The same for what each turn of a session looks like, in sessions whose turns
all meet `C`. -/
theorem session_turns {I : World → Prop} {C J : Turn Op.Ans Outcome → Prop}
    (hstep : ∀ w tr out w', I w → CallPath runner tr out → Replays env.handle w tr w' →
      C ⟨tr, out⟩ → I w' ∧ J ⟨tr, out⟩)
    {calls : List Call} (hw : I w) (hc : ∀ t ∈ (session env runner calls w).1, C t) :
    ∀ t ∈ (session env runner calls w).1, J t := by
  refine runAll_turns (I := I) (C := C) (fun p hp w hw hcp => ?_) hw hc
  obtain ⟨call, -, rfl⟩ := List.mem_map.mp hp
  exact hstep w _ _ _ hw (Call.prog_trace (events_trace _ w)) (events_replays _ w) hcp

/-- What at most one turn of a session does: it leaves a world in `S`, and
no call from a world in `S` does it again or leaves `S`. -/
theorem session_once {S : World → Prop} {J : Turn Op.Ans Outcome → Prop}
    (hspends : ∀ w tr out w', CallPath runner tr out → Replays env.handle w tr w' →
      J ⟨tr, out⟩ → S w')
    (hstays : ∀ w tr out w', CallPath runner tr out → Replays env.handle w tr w' →
      S w → S w' ∧ ¬ J ⟨tr, out⟩) (calls : List Call) (w : World) :
    (session env runner calls w).1.Pairwise fun t t' => ¬ (J t ∧ J t') := by
  refine runAll_once (S := S) (fun p hp w hj => ?_) (fun p hp w hw => ?_) w
  · obtain ⟨call, -, rfl⟩ := List.mem_map.mp hp
    exact hspends w _ _ _ (Call.prog_trace (events_trace _ w)) (events_replays _ w) hj
  · obtain ⟨call, -, rfl⟩ := List.mem_map.mp hp
    exact hstays w _ _ _ (Call.prog_trace (events_trace _ w)) (events_replays _ w) hw

/-- A cart is created and one item is put into it: `Sample.request` then checks it out. -/
def Sample.shopping : List Call :=
  [.cart (.createCart { merchantId := "m", currency := "USD", tenantId := some "t" }) none,
    .cart (.addItem { itemId := "sku", quantity := 1 }) (some Sample.cart.cartId)]

/-- The world in which the sample cart waits for its checkout. -/
def Sample.shopped : World := (session Env.agreeable Sample.runner Sample.shopping World.empty).2

end Orchestrator
