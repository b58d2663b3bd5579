/-
# `CommerceOrchestrator.Runtime.CartFrames` — what a call leaves alone

A snapshot is stored under the id inside it, a state and a log under the id the
operation names.  A call writes only to carts it holds: the one it names, once it
has found a snapshot there, and those it has drawn an id for (`graspMonitor`).  So
in every store a run of calls reaches, whatever is recorded is recorded under an id
drawn before (`Grounded`), and one more call leaves all carts but its own alone.

Of its own cart a checkout changes prices and nothing else (`unpriced`), and no
call changes what a cart was created with (`identity`).

A session is one such call after the other, so what holds throughout it is a matter of
each call (`throughout_iff`).
-/
import CommerceOrchestrator.Runtime.Interleaving
import CommerceOrchestrator.Runtime.Versions
import CommerceOrchestrator.Runtime.Wedging

namespace Orchestrator

open Effect Prog

variable {env : Env} {runner : Runner} {w w' : World} {c : CartId}

/-! ## The carts a call holds -/

/-- The call creates a cart. -/
def Call.creates : Call → Bool
  | .cart (.createCart _) _ => true
  | _ => false

/-- A call and the carts it may write. -/
structure Grasp where
  call : Call
  held : List CartId

/-- A call writes to carts it holds: the one it names once it has found it, and, if
it is a creation, those it has drawn an id for. -/
def graspMonitor : Monitor Op.Ans Grasp where
  allow o q := ∀ c ∈ o.writesTo, c ∈ q.held
  rely o _ x :=
    match o, x with
    | .getCartSnapshot c, some s => s.cartId = c
    | _, _ => True
  next o q x :=
    match o, x with
    | .getCartSnapshot c, some _ => if q.call.target = some c then { q with held := c :: q.held } else q
    | .newUuid, u => if q.call.creates then { q with held := ⟨u⟩ :: q.held } else q
    | _, _ => q

/-- The operations that make a call hold a cart. -/
def Op.grasps : Op → Bool
  | .getCartSnapshot .. | .newUuid => true
  | _ => false

theorem graspMonitor_idle {o : Op} (h : o.grasps = false) (q : Grasp) (x : o.Ans) :
    graspMonitor.next o q x = q := by
  cases o <;> first | rfl | cases h

theorem graspMonitor_next (o : Op) (q : Grasp) (x : o.Ans) :
    (graspMonitor.next o q x).call = q.call ∧ q.held ⊆ (graspMonitor.next o q x).held := by
  cases o with
  | getCartSnapshot c =>
      cases x with
      | none => exact ⟨rfl, List.Subset.refl _⟩
      | some s =>
          simp only [graspMonitor]
          split
          · exact ⟨rfl, List.subset_cons_self _ _⟩
          · exact ⟨rfl, List.Subset.refl _⟩
  | newUuid =>
      simp only [graspMonitor]
      split
      · exact ⟨rfl, List.subset_cons_self _ _⟩
      · exact ⟨rfl, List.Subset.refl _⟩
  | _ => exact ⟨rfl, List.Subset.refl _⟩

section Follows

variable {q : Grasp} {α β : Type} {P : β → Grasp → Prop} {id : CartId}

/-- A procedure after which the call holds what it held before. -/
abbrev Idles (p : Run α) (q : Grasp) : Prop :=
  p.run.Follows graspMonitor (onOk fun _ q' => q' = q) q

theorem grasps_bind {p : Run α} {k : α → Run β} (hp : Idles p q)
    (h : ∀ a, (k a).run.Follows graspMonitor (onOk P) q) :
    (p >>= k).run.Follows graspMonitor (onOk P) q :=
  Unseen.then hp h

/-- An operation that writes to no cart. -/
theorem nowhere {held : List CartId} : ∀ c ∈ (none : Option CartId), c ∈ held :=
  fun _ hc => absurd hc (by simp)

/-- An operation on a cart that the call holds. -/
theorem onHeld {id : CartId} {held : List CartId} (hid : id ∈ held) : ∀ c ∈ some id, c ∈ held :=
  fun _ hc => Option.some.inj hc ▸ hid

theorem idles_transition {event : CartEvent} (hid : id ∈ q.held) :
    Idles (transitionCart id event) q :=
  unseen_transitionCart ⟨nowhere, fun _ => rfl⟩ fun _ => ⟨onHeld hid, fun _ => rfl⟩

theorem idles_append {event : CartStreamEvent} (hid : id ∈ q.held) :
    Idles (tryWith .store (ask (.appendCartEvent id event))) q :=
  unseen_append ⟨onHeld hid, fun _ => rfl⟩

theorem idles_put {s : CartProjection} (hs : s.cartId ∈ q.held) :
    Idles (tryWith .store (ask (.putCartSnapshot s))) q :=
  unseen_tryWith ⟨onHeld hs, fun _ _ => rfl⟩

/-- Storing the snapshot and returning it. -/
theorem idles_save {s : CartProjection} (hs : s.cartId ∈ q.held) :
    Idles (do tryWith .store (ask (.putCartSnapshot s)); return s : Run CartProjection) q :=
  grasps_bind (idles_put hs) fun _ => rfl

theorem idles_getItem {itemId : String} : Idles (tryWith .catalog (ask (.getItem itemId))) q :=
  unseen_tryWith ⟨nowhere, fun _ _ => rfl⟩

theorem idles_prices {cart : CartProjection} :
    Idles (tryWith .pricing (ask (.resolvePrices cart))) q :=
  unseen_tryWith ⟨nowhere, fun _ _ => rfl⟩

theorem idles_tax {cart : CartProjection} : Idles (tryWith .tax (ask (.resolveTax cart))) q :=
  unseen_tryWith ⟨nowhere, fun _ _ => rfl⟩

/-- Discounts do not change which cart it is. -/
theorem applyDiscounts_grasps (cart : CartProjection) :
    (applyDiscounts cart).run.Follows graspMonitor
      (onOk fun s q' => s.cartId = cart.cartId ∧ q' = q) q := by
  refine (follows_applyDiscounts ⟨nowhere, fun _ => rfl⟩).mono fun r q' hr => ?_
  cases r with
  | ok s =>
      obtain ⟨⟨ds, discount, total, rfl⟩, rfl⟩ := hr
      exact ⟨rfl, rfl⟩
  | error e => exact trivial

theorem idles_geo {cart : CartProjection} : Idles (checkGeo cart) q :=
  unseen_checkGeo ⟨nowhere, fun _ => rfl⟩

theorem idles_mutate {cart : CartProjection} {event : CartStreamEvent} (hid : id ∈ q.held)
    (hcart : cart.cartId ∈ q.held) : Idles (mutateAndRecalculate id cart event) q := by
  unfold mutateAndRecalculate
  refine grasps_bind (idles_transition hid) fun _ => grasps_bind (idles_append hid) fun _ => ?_
  refine grasps_bind idles_prices fun prices => ?_
  refine grasps_bind (idles_transition hid) fun _ => grasps_bind (idles_append hid) fun _ => ?_
  refine grasps_bind idles_tax fun tax => ?_
  refine follows_run_then (applyDiscounts_grasps _) fun discounted q' hr => ?_
  obtain ⟨hsame, rfl⟩ := hr
  have hsame : discounted.cartId = cart.cartId := hsame
  refine grasps_bind (idles_transition hid) fun _ => grasps_bind (idles_append hid) fun _ => ?_
  refine grasps_bind idles_geo fun geoOk => ?_
  refine grasps_bind (idles_transition hid) fun _ => grasps_bind (idles_append hid) fun _ => ?_
  exact idles_save (hsame ▸ hcart)

/-- A command's postcondition says nothing: what matters is what it does. -/
abbrev Grasps (p : Run β) (q : Grasp) : Prop :=
  p.run.Follows graspMonitor (onOk fun _ _ => True) q

theorem Idles.grasps {p : Run β} (h : Idles p q) : Grasps p q := follows_onOk h

/-- Loading the cart the call names: from then on the call holds it. -/
theorem grasps_load {k : CartProjection → Run β} (htarget : q.call.target = some id)
    (h : ∀ s, s.cartId = id → Grasps (k s) ⟨q.call, id :: q.held⟩) :
    Grasps (loadCart id >>= k) q := by
  refine follows_run_bind ⟨nowhere, fun x hx => ?_⟩
  cases x with
  | none => exact trivial
  | some s =>
      have hnext : graspMonitor.next (.getCartSnapshot id) q (some s) = ⟨q.call, id :: q.held⟩ :=
        if_pos htarget
      rw [hnext]
      exact h s hx

/-- A draw, in a call that creates nothing. -/
theorem grasps_draw {k : Uuid → Run β} (hcall : q.call.creates = false) (h : ∀ u, Grasps (k u) q) :
    Grasps (call .newUuid >>= k) q := by
  refine follows_call nowhere fun u _ => ?_
  have hnext : graspMonitor.next .newUuid q u = q := if_neg (by simp [hcall])
  rw [hnext]
  exact h u

/-! ### The commands -/

theorem createCart_grasps (payload : CreateCartPayload) (cartId : Option CartId) :
    Grasps (createCart payload) ⟨.cart (.createCart payload) cartId, []⟩ := by
  unfold createCart
  refine follows_call nowhere fun u _ => ?_
  have hu : (⟨u⟩ : CartId) ∈ [(⟨u⟩ : CartId)] := List.mem_singleton_self _
  exact grasps_bind (idles_append hu) fun _ => grasps_bind (idles_put hu) fun _ =>
    follows_run_bind ⟨fun c hc => Option.some.inj hc ▸ hu, fun x _ => by cases x <;> trivial⟩

theorem addItem_grasps (payload : AddItemPayload) (cartId : Option CartId) :
    Grasps (addItem payload cartId) ⟨.cart (.addItem payload) cartId, []⟩ := by
  unfold addItem
  refine follows_okOr fun id hid => grasps_bind idles_getItem fun item => ?_
  refine grasps_load hid fun s hs => grasps_draw rfl fun u => (idles_mutate ?_ ?_).grasps
  · exact List.mem_singleton_self _
  · exact hs ▸ List.mem_singleton_self _

theorem updateItemQty_grasps (payload : UpdateItemQtyPayload) (cartId : Option CartId) :
    Grasps (updateItemQty payload cartId) ⟨.cart (.updateItemQty payload) cartId, []⟩ := by
  unfold updateItemQty
  refine follows_okOr fun id hid => grasps_load hid fun s hs => follows_failIf fun _ =>
    (idles_mutate ?_ ?_).grasps
  · exact List.mem_singleton_self _
  · exact hs ▸ List.mem_singleton_self _

theorem removeItem_grasps (payload : RemoveItemPayload) (cartId : Option CartId) :
    Grasps (removeItem payload cartId) ⟨.cart (.removeItem payload) cartId, []⟩ := by
  unfold removeItem
  refine follows_okOr fun id hid => grasps_load hid fun s hs => (idles_mutate ?_ ?_).grasps
  · exact List.mem_singleton_self _
  · exact hs ▸ List.mem_singleton_self _

theorem applyAdjustment_grasps (payload : ApplyAdjustmentPayload) (cartId : Option CartId) :
    Grasps (applyAdjustment payload cartId) ⟨.cart (.applyAdjustment payload) cartId, []⟩ := by
  unfold applyAdjustment
  refine follows_okOr fun id hid => grasps_load hid fun s hs =>
    grasps_bind (unseen_validateAdjustment fun _ => ⟨nowhere, fun _ => rfl⟩) fun _ => (idles_mutate ?_ ?_).grasps
  · exact List.mem_singleton_self _
  · exact hs ▸ List.mem_singleton_self _

theorem setFulfillmentSelection_grasps (payload : SetFulfillmentSelectionPayload)
    (cartId : Option CartId) :
    Grasps (setFulfillmentSelection runner payload cartId)
      ⟨.cart (.setFulfillmentSelection payload) cartId, []⟩ := by
  unfold setFulfillmentSelection
  refine follows_okOr fun id hid => grasps_load hid fun s hs => ?_
  refine follows_run_then follows_selectedLines fun lines _ hr => ?_
  obtain ⟨-, -, rfl⟩ := hr
  refine grasps_bind (unseen_quoteOptions fun _ => ⟨nowhere, fun _ => rfl⟩) fun options => ?_
  refine follows_failIf fun _ => grasps_draw rfl fun _ => grasps_draw rfl fun _ => ?_
  refine follows_run_then (applyDiscounts_grasps _) fun discounted q' hr => ?_
  obtain ⟨hsame, rfl⟩ := hr
  refine grasps_bind idles_geo fun geoOk => ?_
  refine grasps_bind (idles_append (List.mem_singleton_self _)) fun _ => (idles_save ?_).grasps
  have hdiscounted : discounted.cartId = id := hsame.trans hs
  exact hdiscounted ▸ List.mem_singleton_self _

theorem startCheckout_grasps (payload : StartCheckoutPayload) (cartId : Option CartId) :
    Grasps (startCheckout payload) ⟨.cart (.startCheckout payload) cartId, []⟩ := by
  unfold startCheckout
  refine grasps_load rfl fun s hs => follows_failIf fun _ => ?_
  have hheld : payload.cartId ∈ [payload.cartId] := List.mem_singleton_self _
  exact grasps_bind (idles_append hheld) fun _ => grasps_bind (idles_put (hs ▸ hheld)) fun _ =>
    grasps_bind (idles_transition hheld) fun _ => trivial

theorem cancelCart_grasps (payload : CancelCartPayload) (cartId : Option CartId) :
    Grasps (cancelCart payload) ⟨.cart (.cancelCart payload) cartId, []⟩ := by
  unfold cancelCart
  refine grasps_load rfl fun s hs => ?_
  have hheld : payload.cartId ∈ [payload.cartId] := List.mem_singleton_self _
  exact grasps_bind (idles_append hheld) fun _ => grasps_bind (idles_put (hs ▸ hheld)) fun _ =>
    grasps_bind (idles_transition hheld) fun _ => trivial

theorem dispatchCartCommand_grasps (runner : Runner) (command : CartCommand)
    (cartId : Option CartId) :
    Grasps (dispatchCartCommand runner command cartId) ⟨.cart command cartId, []⟩ := by
  refine follows_failIf fun _ => ?_
  cases command with
  | createCart payload => exact createCart_grasps payload cartId
  | addItem payload => exact addItem_grasps payload cartId
  | updateItemQty payload => exact updateItemQty_grasps payload cartId
  | removeItem payload => exact removeItem_grasps payload cartId
  | applyAdjustment payload => exact applyAdjustment_grasps payload cartId
  | setFulfillmentSelection payload => exact setFulfillmentSelection_grasps payload cartId
  | getCart payload =>
      have hload : Grasps (loadCart payload.cartId) ⟨.cart (.getCart payload) cartId, []⟩ := by
        rw [← bind_pure (loadCart payload.cartId)]
        exact grasps_load rfl fun s _ => trivial
      exact hload
  | startCheckout payload => exact startCheckout_grasps payload cartId
  | cancelCart payload => exact cancelCart_grasps payload cartId

/-! ### Checkout -/

/-- Events that write only to carts already held. -/
theorem accepts_held {tr : List (Event Op.Ans)} (h : ∀ e ∈ tr, ∀ c ∈ e.1.writesTo, c ∈ q.held) :
    graspMonitor.Accepts (fun _ => True) tr q := by
  induction tr generalizing q with
  | nil => exact trivial
  | cons e tr ih =>
      refine ⟨h e List.mem_cons_self, fun _ => ih fun e' he' c hc => ?_⟩
      exact (graspMonitor_next e.1 q e.2).2 (h e' (List.mem_cons_of_mem _ he') c hc)

theorem executeCheckout_grasps (runner : Runner) (request : CheckoutRequest) :
    (executeCheckout runner request).run.Follows graspMonitor (fun _ _ => True)
      ⟨.checkout request, []⟩ := by
  refine Follows.of_trace fun tr r ht => ?_
  cases executeCheckout_trace ht with
  | owned _ ho =>
      obtain ⟨stored, tr', rfl, hput⟩ := ho.loads
      refine ⟨nowhere, fun _ => ⟨nowhere, fun hrely => ?_⟩⟩
      refine accepts_held fun e he c hc => ?_
      obtain ⟨s, rfl, rfl⟩ := hput e he c hc
      have hid : s.cartId = request.cartId := hrely
      have hnext : graspMonitor.next (.getCartSnapshot request.cartId) ⟨.checkout request, []⟩
          (some s) = ⟨.checkout request, [request.cartId]⟩ := if_pos rfl
      rw [hid]
      show request.cartId ∈ (graspMonitor.next (.getCartSnapshot request.cartId)
        ⟨.checkout request, []⟩ (some s)).held
      rw [hnext]
      exact List.mem_singleton_self _
  | _ => exact accepts_held (by simp [Op.writesTo])

/-- **Every call writes only to carts it holds.** -/
theorem Call.prog_grasps (runner : Runner) (call : Call) :
    (call.prog runner).Follows graspMonitor (fun _ _ => True) ⟨call, []⟩ := by
  cases call with
  | cart command cartId =>
      exact follows_bind.mpr ((dispatchCartCommand_grasps runner command cartId).mono
        fun _ _ _ => trivial)
  | checkout request =>
      exact follows_bind.mpr ((executeCheckout_grasps runner request).mono fun _ _ _ => trivial)

end Follows

/-! ## Reached stores -/

/-- Nothing is recorded under the cart's id: no log, no snapshot, no state. -/
def InMemoryEventStore.Blank (store : InMemoryEventStore) (c : CartId) : Prop :=
  store.record c = (none, none, none)

theorem InMemoryEventStore.not_blank_of_snapshot {store : InMemoryEventStore} {s : CartProjection}
    (h : store.getCartSnapshot c = some s) : ¬ store.Blank c := by
  intro hblank
  cases h.symm.trans (congrArg (·.2.1) hblank)

/-- Snapshots are filed under the id they carry, and whatever is recorded is recorded
under an id drawn before. -/
structure Grounded (w : World) : Prop where
  filed : Filed w
  drawn : ∀ c, ¬ w.events.Blank c → c.uuid.val < w.clock

theorem grounded_empty : Grounded World.empty := by
  refine ⟨?_, ?_⟩
  · intro c s hs
    cases hs
  · intro c hc
    exact absurd rfl hc

theorem Grounded.handle {o : Op} (h : Grounded w)
    (hwrites : ∀ c ∈ o.writesTo, c.uuid.val < w.clock) : Grounded (env.handle o w).2 := by
  refine ⟨h.filed.handle o, fun c hc => ?_⟩
  rw [Env.handle_clock]
  refine Nat.lt_succ_of_lt ?_
  by_cases ho : o.writesTo = some c
  · exact hwrites c ho
  · refine h.drawn c fun hblank => hc ?_
    rw [InMemoryEventStore.Blank, Env.handle_record ho]
    exact hblank

/-- A cart that a call holds after an operation: it held it before, or has found it under
the name it was given, or has drawn its id. -/
theorem held_after {o : Op} {q : Grasp}
    (hc : c ∈ (graspMonitor.next o q (env.handle o w).1).held) :
    c ∈ q.held ∨ (q.call.target = some c ∧ ∃ s, w.events.getCartSnapshot c = some s) ∨
      (q.call.creates ∧ c.uuid.val = w.clock) := by
  cases o with
  | getCartSnapshot c' =>
      generalize hx : (env.handle (.getCartSnapshot c') w).1 = x at hc
      cases x with
      | none => exact Or.inl hc
      | some s =>
          have hs : w.events.getCartSnapshot c' = some s := World.read_some hx
          simp only [graspMonitor] at hc
          split at hc
          · next htarget =>
              rcases List.mem_cons.mp hc with rfl | hc
              · exact Or.inr (Or.inl ⟨htarget, s, hs⟩)
              · exact Or.inl hc
          · exact Or.inl hc
  | newUuid =>
      simp only [graspMonitor] at hc
      split at hc
      · next hcreates =>
          rcases List.mem_cons.mp hc with rfl | hc
          · exact Or.inr (Or.inr ⟨hcreates, rfl⟩)
          · exact Or.inl hc
      · exact Or.inl hc
  | _ => exact Or.inl hc

/-- A read finds a snapshot filed under its own id. -/
theorem Filed.relies {o : Op} {q : Grasp} (h : Filed w) :
    graspMonitor.rely o q (env.handle o w).1 := by
  cases o with
  | getCartSnapshot c =>
      generalize hx : (env.handle (.getCartSnapshot c) w).1 = x
      cases x with
      | none => exact trivial
      | some s => exact h c s (World.read_some hx)
  | _ => exact trivial

variable (env) in
/-- A call that holds drawn carts only, and what is recorded, after one more operation. -/
theorem Grounded.step {o : Op} {q : Grasp} (h : Grounded w)
    (hheld : ∀ c ∈ q.held, c.uuid.val < w.clock) (ho : graspMonitor.allow o q) :
    Grounded (env.handle o w).2 ∧
      ∀ c ∈ (graspMonitor.next o q (env.handle o w).1).held, c.uuid.val < w.clock + 1 := by
  refine ⟨h.handle fun c hc => hheld c (ho c hc), fun c hc => Nat.lt_succ_iff.mpr ?_⟩
  rcases held_after hc with hc | ⟨-, s, hs⟩ | ⟨-, hc⟩
  · exact Nat.le_of_lt (hheld c hc)
  · exact Nat.le_of_lt (h.drawn c (InMemoryEventStore.not_blank_of_snapshot hs))
  · exact Nat.le_of_eq hc

theorem Reached.grounded (h : Reached env runner w) : Grounded w := by
  obtain ⟨calls, ts, rfl⟩ := h
  have hfollow : Pool.AllFollow graspMonitor (fun _ _ _ => True)
      (fun t => ⟨threadCall calls t, []⟩)
      (Pool.start World.empty (calls.map (·.prog runner))) := by
    intro t p hp
    rw [threadCall_prog hp]
    exact Call.prog_grasps runner _
  obtain ⟨φ, ⟨hgrounded, -⟩, -⟩ := Pool.run_invariant (C := fun _ _ _ => True)
    (I := fun w φ _ => Grounded w ∧ ∀ t, ∀ c ∈ (φ t).held, c.uuid.val < w.clock)
    (by
      rintro w φ log t o x w' ⟨hw, hheld⟩ ho _ hx
      obtain ⟨rfl, rfl⟩ := Handler.shared_eq_some.mp hx
      obtain ⟨hw', hheld'⟩ := hw.step env (hheld t) ho
      have hnext : Grounded (env.handle o w).2 ∧ ∀ t', ∀ c ∈ (Function.update φ t
          (graspMonitor.next o (φ t) (env.handle o w).1) t').held,
          c.uuid.val < (env.handle o w).2.clock := by
        refine ⟨hw', ?_⟩
        rw [Function.forall_update_iff φ fun _ q => ∀ c ∈ q.held, c.uuid.val < _, Env.handle_clock]
        exact ⟨hheld', fun t' _ c hc => Nat.lt_succ_of_lt (hheld t' c hc)⟩
      exact ⟨hw.filed.relies, hnext, fun _ _ => hnext⟩)
    ts ⟨grounded_empty, fun _ _ hc => absurd hc List.not_mem_nil⟩ hfollow Pool.stepsMeet_true
  exact hgrounded

/-! ## One more call -/

/-- The world after a call. -/
abbrev Call.after (env : Env) (runner : Runner) (call : Call) (w : World) : World :=
  ((call.prog runner).run env.handle w).2

/-- How a command ends, as a call. -/
theorem Call.ending (hs : env.StoresAnswer) (runner : Runner) (w : World) (command : CartCommand)
    (cartId : Option CartId) :
    ∃ r, Ending env w command cartId r ((Call.cart command cartId).after env runner w).events
      (refusedOn env runner command cartId w) := by
  refine ⟨(dispatched env runner command cartId w).1, ?_⟩
  rw [Call.after, (Call.cart_turn env runner command cartId w).1]
  exact dispatched_ending hs runner w command cartId

theorem Grounded.after (h : Grounded w) (call : Call) : Grounded (call.after env runner w) := by
  obtain ⟨q, ⟨hgrounded, -⟩, -⟩ := (Call.prog_grasps runner call).run_invariant
    (h := env.handle) (w := w) (l := [])
    (I := fun v q _ => Grounded v ∧ ∀ c ∈ q.held, c.uuid.val < v.clock)
    (by
      rintro v q l o ⟨hv, hheld⟩ ho
      obtain ⟨hv', hheld'⟩ := hv.step env hheld ho
      refine ⟨hv.filed.relies, hv', ?_⟩
      rw [Env.handle_clock]
      exact hheld')
    ⟨h, fun _ hc => absurd hc List.not_mem_nil⟩
  exact hgrounded

variable (env runner) in
/-- A call leaves the record of every cart it does not name as it is, except that a
creation fills a blank one. -/
theorem Grounded.others (h : Grounded w) (call : Call) (hc : call.target ≠ some c) :
    (call.after env runner w).events.record c = w.events.record c ∨
      (call.creates ∧ w.events.Blank c) := by
  obtain ⟨q, ⟨-, -, -, -, hrecord⟩, -⟩ := (Call.prog_grasps runner call).run_invariant
    (h := env.handle) (w := w) (l := [])
    (I := fun v q _ => q.call = call ∧ Filed v ∧ w.clock ≤ v.clock ∧
      (∀ c ∈ q.held, call.target = some c ∨ (call.creates ∧ w.clock ≤ c.uuid.val)) ∧
      ∀ c, call.target ≠ some c → v.events.record c = w.events.record c ∨
        (call.creates ∧ w.clock ≤ c.uuid.val))
    (by
      rintro v q l o ⟨hcall, hfiled, hclock, hheld, hrecord⟩ ho
      refine ⟨hfiled.relies, (graspMonitor_next o q _).1.trans hcall, hfiled.handle o, ?_, ?_, ?_⟩
      · rw [Env.handle_clock]
        exact Nat.le_succ_of_le hclock
      · intro c hc
        rcases held_after hc with hc | ⟨htarget, -⟩ | ⟨hcreates, hc⟩
        · exact hheld c hc
        · exact Or.inl (hcall ▸ htarget)
        · exact Or.inr ⟨hcall ▸ hcreates, hclock.trans_eq hc.symm⟩
      · intro c hne
        by_cases hw : o.writesTo = some c
        · exact Or.inr ((hheld c (ho c hw)).resolve_left hne)
        · rw [Env.handle_record hw]
          exact hrecord c hne)
    ⟨rfl, h.filed, le_rfl, fun _ hc => absurd hc List.not_mem_nil, fun _ _ => Or.inl rfl⟩
  refine (hrecord c hc).imp id (And.imp id fun hle => ?_)
  by_contra hblank
  exact Nat.lt_irrefl _ (Nat.lt_of_lt_of_le (h.drawn c hblank) hle)

/-! ## Sessions, call by call -/

section Sessions

variable {I Inv : World → Prop} {P : Call → World → Prop}

/-- `I` holds before the first call of a session, after the last and between any two. -/
def Throughout (env : Env) (runner : Runner) (I : World → Prop) : List Call → World → Prop
  | [], w => I w
  | call :: calls, w => I w ∧ Throughout env runner I calls (call.after env runner w)

/-- `P` holds of each call of a session and the world it starts in. -/
def EachCall (env : Env) (runner : Runner) (P : Call → World → Prop) : List Call → World → Prop
  | [], _ => True
  | call :: calls, w => P call w ∧ EachCall env runner P calls (call.after env runner w)

theorem Throughout.start {calls : List Call} (h : Throughout env runner I calls w) : I w := by
  cases calls with
  | nil => exact h
  | cons call calls => exact h.1

variable (Inv) in
/-- A property of worlds that a call keeps exactly when `P` holds of it holds throughout
a session exactly when `P` holds of each call. -/
theorem throughout_iff (hinv : ∀ (call : Call) w, Inv w → Inv (call.after env runner w))
    (hstep : ∀ (call : Call) w, Inv w → I w → (I (call.after env runner w) ↔ P call w))
    (calls : List Call) : ∀ {w : World}, Inv w → I w →
      (Throughout env runner I calls w ↔ EachCall env runner P calls w) := by
  induction calls with
  | nil => exact fun _ hI => iff_of_true hI trivial
  | cons call calls ih =>
      intro w hw hI
      constructor
      · rintro ⟨-, hrest⟩
        have hafter : I (call.after env runner w) := hrest.start
        exact ⟨(hstep call w hw hI).mp hafter, (ih (hinv call w hw) hafter).mp hrest⟩
      · rintro ⟨hP, hrest⟩
        have hafter : I (call.after env runner w) := (hstep call w hw hI).mpr hP
        exact ⟨hI, (ih (hinv call w hw) hafter).mpr hrest⟩

end Sessions

/-! ## The call's own cart -/

/-- A line without its prices. -/
def CartLineProjection.unpriced (line : CartLineProjection) : CartLineProjection :=
  { line with unitPriceMinor := 0, totalMinor := 0 }

namespace CartProjection

/-- A cart without what pricing, tax, discounts and the geo check write. -/
def unpriced (cart : CartProjection) : CartProjection :=
  { cart with
    lines := cart.lines.map (·.unpriced), subtotalMinor := 0, taxMinor := 0, discounts := []
    discountMinor := 0, totalMinor := 0, geoOk := false }

/-- What a cart is created with. -/
def identity (cart : CartProjection) : CartId × Option String × String × String :=
  (cart.cartId, cart.tenantId, cart.merchantId, cart.currency)

end CartProjection

section Edits

variable {A : Answers} {cart cart' : CartProjection} {request : CheckoutRequest}

theorem Discounted.unpriced (h : Discounted A cart cart') : cart'.unpriced = cart.unpriced := by
  cases h <;> rfl

theorem Recalculated.unpriced (h : Recalculated A cart cart') : cart'.unpriced = cart.unpriced := by
  obtain ⟨ps, tax, discounted, geo, -, -, hd, -⟩ := h
  have hlines : (applyPrices cart.lines ps).map (·.unpriced) = cart.lines.map (·.unpriced) :=
    applyPrices_map _ (fun _ _ => rfl) cart.lines ps
  have hpriced : ((cart.withPrices ps).withTax tax).unpriced = cart.unpriced := by
    rw [CartProjection.unpriced, CartProjection.unpriced, ← hlines]
    rfl
  exact hd.unpriced.trans hpriced

theorem identity_of_unpriced (h : cart'.unpriced = cart.unpriced) :
    cart'.identity = cart.identity := by
  show cart'.unpriced.identity = cart.unpriced.identity
  rw [h]

/-- No edit changes what the cart was created with. -/
theorem Edited.identity {call : Call} (h : Edited A runner call cart cart') :
    cart'.identity = cart.identity := by
  cases h with
  | added payload cartId item id _ _ hr | requantified payload cartId _ hr
  | removed payload cartId hr | adjusted payload cartId hr | repriced request _ hr =>
      have hsame := identity_of_unpriced hr.unpriced
      exact hsame
  | selected payload cartId lineItemIds options group method geo _ _ hd _ =>
      have hsame := identity_of_unpriced hd.unpriced
      exact hsame
  | readied payload cartId _ | cancelled payload cartId => rfl

end Edits

variable (env runner) in
/-- What a call leaves stored under `c`, if it is not what was stored: an edit by the call. -/
theorem Grounded.edits (h : Grounded w) (call : Call) {s : CartProjection}
    (hs : w.events.getCartSnapshot c = some s) :
    ∃ s', (call.after env runner w).events.getCartSnapshot c = some s' ∧
      (s' = s ∨ Edited (Answered env w) runner call s s') := by
  obtain ⟨q, hdone, -⟩ := Call.turn env runner call w
  refine ⟨(q.after c (some s)).getD s, ?_, ?_⟩
  · rw [hdone.stored, hs, Progress.after]
    cases q.put with
    | none => rfl
    | some s' =>
        dsimp only
        split <;> rfl
  · rw [Progress.after]
    cases hput : q.put with
    | none => exact Or.inl rfl
    | some s' =>
        dsimp only
        split
        · next hsaved =>
            obtain ⟨-, rfl⟩ := hsaved
            obtain ⟨hputs, -⟩ := hdone.put s' hput
            generalize hread : q.read = read at hputs
            cases hputs with
            | created payload cartId id hid =>
                -- a drawn id is not one under which something is stored
                obtain ⟨v, hv, hdraw⟩ := hid
                have hfresh : (⟨v.clock⟩ : Uuid) = id := hdraw
                have hlt := h.drawn _ (InMemoryEventStore.not_blank_of_snapshot hs)
                rw [← hfresh] at hlt
                exact absurd hlt (Nat.not_lt.mpr hv)
            | @edited _ r _ he =>
                obtain ⟨c, -, hr, -⟩ := hdone.read r hread
                have hid : s'.cartId = c := he.cartId.trans (h.filed c r hr)
                rw [hid, hr] at hs
                obtain rfl := Option.some.inj hs
                exact Or.inr he
        · exact Or.inl rfl

/-- A checkout appends to no log. -/
theorem CheckoutPath.appendsNothing {request : CheckoutRequest} {tr : List (Event Op.Ans)}
    {r : Except RunnerError TransactionResult} (h : CheckoutPath runner request tr r) :
    ∀ e ∈ tr, ∀ c event, e.1 ≠ .appendCartEvent c event := by
  have hkind {j : Op → Bool} (hj : ∀ c event, j (.appendCartEvent c event) = false) (o : Op)
      (ho : j o) : ∀ c event, o ≠ .appendCartEvent c event := by
    rintro c event rfl
    exact Bool.false_ne_true ((hj c event).symm.trans ho)
  exact h.forall_ops (k := fun o => ∀ c event, o ≠ .appendCartEvent c event) (by simp) (by simp)
    (hkind fun _ _ => rfl) (hkind fun _ _ => rfl) (hkind fun _ _ => rfl)

variable (env runner) in
/-- A checkout, whatever its outcome, changes the prices on its cart and nothing else. -/
theorem Grounded.checkout (h : Grounded w) (request : CheckoutRequest) :
    let before := w.events.record request.cartId
    let after := ((Call.checkout request).after env runner w).events.record request.cartId
    after.1 = before.1 ∧ after.2.1.map (·.unpriced) = before.2.1.map (·.unpriced) ∧
      after.2.2 = before.2.2 := by
  intro before after
  have hpath := executeCheckout_trace
    (events_trace (h := env.handle) (executeCheckout runner request).run w)
  have hreplays := events_replays (h := env.handle) (executeCheckout runner request).run w
  have hafter : (Call.checkout request).after env runner w =
      ((executeCheckout runner request).run.run env.handle w).2 := by
    rw [Call.after, Call.checkout_turn]
  refine ⟨?_, ?_, ?_⟩
  · refine (congrArg (fun v => (v.events.record request.cartId).1) hafter).trans ?_
    exact hreplays.frame (fun v => (v.events.record request.cartId).1) fun e he v =>
      Env.handle_log (hpath.appendsNothing e he)
  · show (((Call.checkout request).after env runner w).events.getCartSnapshot
      request.cartId).map _ = (w.events.getCartSnapshot request.cartId).map _
    cases hs : w.events.getCartSnapshot request.cartId with
    | some s =>
        obtain ⟨s', hs', hsame⟩ := h.edits env runner (.checkout request) hs
        rw [hs']
        refine congrArg some ?_
        rcases hsame with rfl | hedit
        · rfl
        · cases hedit with
          | repriced _ _ hr => exact hr.unpriced
    | none =>
        obtain ⟨q, hdone, -⟩ := Call.turn env runner (.checkout request) w
        rw [hdone.stored, hs, Progress.after]
        cases hput : q.put with
        | none => rfl
        | some s' =>
            obtain ⟨hputs, -⟩ := hdone.put s' hput
            generalize hread : q.read = read at hputs
            cases hputs with
            | @edited _ r _ he =>
                obtain ⟨c, hc, hr, -⟩ := hdone.read r hread
                cases hc
                cases hs.symm.trans hr
  · refine (congrArg (fun v => (v.events.record request.cartId).2.2) hafter).trans ?_
    exact hreplays.frame (fun v => v.events.getCartState request.cartId) fun e he v =>
      Env.handle_state (hpath.setsNoState e he)

/-- **Frame.**  In every store that a run of calls reaches, whatever fails and wherever it
stops: a call leaves log, snapshot and state of every cart it does not name as they are,
except that a creation fills a blank record; a checkout leaves log and state of its own
cart alone and changes nothing of the snapshot but prices, tax, discounts, totals and the
geo verdict; and no call changes id, tenant, merchant or currency of a stored cart. -/
theorem calls_keep_frames (env : Env) (runner : Runner) (w : World) (h : Reached env runner w)
    (call : Call) :
    (∀ c, call.target ≠ some c →
      (call.after env runner w).events.record c = w.events.record c ∨
        (call.creates ∧ w.events.Blank c)) ∧
    (∀ request, call = .checkout request →
      let before := w.events.record request.cartId
      let after := (call.after env runner w).events.record request.cartId
      after.1 = before.1 ∧ after.2.1.map (·.unpriced) = before.2.1.map (·.unpriced) ∧
        after.2.2 = before.2.2) ∧
    (∀ c s, w.events.getCartSnapshot c = some s →
      ∃ s', (call.after env runner w).events.getCartSnapshot c = some s' ∧
        s'.identity = s.identity) := by
  have hw := h.grounded
  refine ⟨fun c hc => hw.others env runner call hc, ?_, fun c s hs => ?_⟩
  · rintro request rfl
    exact hw.checkout env runner request
  · obtain ⟨s', hs', hsame⟩ := hw.edits env runner call hs
    refine ⟨s', hs', ?_⟩
    rcases hsame with rfl | hedit
    · rfl
    · exact hedit.identity

/-- A checkout of the sample cart leaves its tenant as it is. -/
theorem calls_keep_frames_sample :
    let w := (atOnce Env.agreeable Sample.runner Sample.shopping
      (List.replicate 30 0 ++ List.replicate 30 1) World.empty).world
    ∃ s s', w.events.getCartSnapshot Sample.cart.cartId = some s ∧
      ((Call.checkout (Sample.request "k")).after Env.agreeable Sample.runner w).events.getCartSnapshot
        Sample.cart.cartId = some s' ∧ s'.identity = s.identity := by
  intro w
  have hstored : (w.events.getCartSnapshot Sample.cart.cartId).isSome := by decide +kernel
  obtain ⟨s, hs⟩ := Option.isSome_iff_exists.mp hstored
  obtain ⟨s', hs', hsame⟩ := (calls_keep_frames Env.agreeable Sample.runner w ⟨_, _, rfl⟩
    (.checkout (Sample.request "k"))).2.2 _ s hs
  exact ⟨s, s', hs, hs', hsame⟩

end Orchestrator
