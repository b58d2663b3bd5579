/-
# `CommerceOrchestrator.Runtime.CartPaths` — what a cart command may touch

A cart command reads and writes one cart (the one it names, or the one it
creates) and asks catalog, pricing, tax, geo and rating providers; it never
meets an idempotency key, a reservation, an order or the payment provider.  It
carries the cart id and the tenant of the snapshot it reads into every snapshot
it writes.  `cartMonitor` says this, `dispatchCartCommand_follows` proves it of
all nine commands.
-/
import CommerceOrchestrator.Effect.Monitor
import CommerceOrchestrator.Runtime.Cart

namespace Orchestrator

open Effect Prog

variable {α β ε Q : Type} {M : Monitor Op.Ans Q} {q : Q}

/-! ## Following a monitor through the runner's combinators -/

/-- A postcondition on success only. -/
def onOk {γ : Type} (P : α → Q → Prop) : Except γ α → Q → Prop
  | .ok a, q => P a q
  | .error _, _ => True

theorem follows_onOk {post : Except RunnerError α → Q → Prop} {p : Run α}
    (h : p.run.Follows M post q) : p.run.Follows M (onOk fun _ _ => True) q :=
  h.mono fun r _ _ => by cases r <;> trivial

theorem follows_pure {P : α → Q → Prop} {a : α} (h : P a q) :
    (pure a : Run α).run.Follows M (onOk P) q := h

theorem follows_throw {P : α → Q → Prop} {e : RunnerError} :
    (throw e : Run α).run.Follows M (onOk P) q := trivial

theorem follows_run_bind {P : β → Q → Prop} {p : Run α} {f : α → Run β}
    (h : p.run.Follows M (onOk fun a q' => (f a).run.Follows M (onOk P) q') q) :
    (p >>= f).run.Follows M (onOk P) q := by
  rw [ExceptT.run_bind]
  refine follows_bind.mpr (h.mono ?_)
  intro r q' hr
  cases r with
  | ok a => exact hr
  | error e => exact trivial

/-- What comes next is done only if the first part succeeds. -/
theorem follows_run_then {P : α → Q → Prop} {P' : β → Q → Prop} {p : Run α} {f : α → Run β}
    (hp : p.run.Follows M (onOk P) q)
    (hf : ∀ a q', P a q' → (f a).run.Follows M (onOk P') q') :
    (p >>= f).run.Follows M (onOk P') q := by
  refine follows_run_bind (hp.mono fun r q' hr => ?_)
  cases r with
  | ok a => exact hf a q' hr
  | error e => exact trivial

theorem follows_call {P : β → Q → Prop} {o : Op} {k : o.Ans → Run β} (ho : M.allow o q)
    (hk : ∀ x, M.rely o q x → (k x).run.Follows M (onOk P) (M.next o q x)) :
    (call o >>= k).run.Follows M (onOk P) q :=
  ⟨ho, hk⟩

theorem follows_tryWith {P : α → Q → Prop} {f : ε → RunnerError} {p : Eff (Except ε α)}
    (h : p.Follows M (onOk P) q) : (tryWith f p).run.Follows M (onOk P) q := by
  rw [tryWith, ExceptT.run_mk, map_eq_pure_bind]
  refine follows_bind.mpr (h.mono ?_)
  intro x q' hx
  cases x with
  | ok a => exact hx
  | error e => exact trivial

theorem follows_tryWith_bind {P : β → Q → Prop} {f : ε → RunnerError} {p : Eff (Except ε α)}
    {k : α → Run β} (h : p.Follows M (onOk fun a q' => (k a).run.Follows M (onOk P) q') q) :
    (tryWith f p >>= k).run.Follows M (onOk P) q :=
  follows_run_bind (follows_tryWith h)

theorem follows_failIf {P : α → Q → Prop} {bad : Prop} [Decidable bad] {e : RunnerError}
    {k : Unit → Run α} (h : ¬ bad → (k ()).run.Follows M (onOk P) q) :
    (failIf bad e >>= k).run.Follows M (onOk P) q := by
  by_cases hbad : bad
  · rw [failIf, if_pos hbad]
    exact trivial
  · rw [failIf, if_neg hbad]
    exact h hbad

theorem follows_okOr {P : β → Q → Prop} {x : Option α} {e : RunnerError} {k : α → Run β}
    (h : ∀ a, x = some a → (k a).run.Follows M (onOk P) q) :
    (okOr x e >>= k).run.Follows M (onOk P) q := by
  cases x with
  | none => exact trivial
  | some a => exact h a rfl

/-! ## Steps that a monitor takes no note of -/

/-- Nothing changes for the monitor. -/
abbrev Unseen (M : Monitor Op.Ans Q) (p : Run α) (q : Q) : Prop :=
  p.run.Follows M (onOk fun _ q' => q' = q) q

/-- A part that the monitor takes no note of, in front of the rest. -/
theorem Unseen.then {P : β → Q → Prop} {p : Run α} {f : α → Run β} (hp : Unseen M p q)
    (hf : ∀ a, (f a).run.Follows M (onOk P) q) : (p >>= f).run.Follows M (onOk P) q :=
  follows_run_then hp fun a _ hq => hq ▸ hf a

theorem unseen_tryWith {f : ε → RunnerError} {p : Eff (Except ε α)}
    (h : p.Follows M (fun _ q' => q' = q) q) : Unseen M (tryWith f p) q := by
  refine follows_tryWith (h.mono fun x _ hq => ?_)
  cases x with
  | ok a => exact hq
  | error e => exact trivial

theorem unseen_transitionCart {c : CartId} {event : CartEvent} (hget : M.Passes (.getCartState c) q)
    (hset : ∀ state, M.Passes (.setCartState c state) q) : Unseen M (transitionCart c event) q := by
  refine follows_call hget.1 fun state _ => ?_
  rw [hget.2]
  exact follows_okOr fun current _ => follows_okOr fun next _ =>
    unseen_tryWith (follows_perform (hset next))

theorem unseen_append {c : CartId} {event : CartStreamEvent}
    (h : M.Passes (.appendCartEvent c event) q) :
    Unseen M (tryWith .store (ask (.appendCartEvent c event))) q :=
  unseen_tryWith (follows_perform h)

theorem unseen_checkGeo {cart : CartProjection}
    (h : M.Passes (.checkGeo cart (geoCheckRequest cart)) q) : Unseen M (checkGeo cart) q :=
  (unseen_tryWith (follows_perform h)).then fun _ => rfl

theorem unseen_validateAdjustment {code : String} (h : ∀ itemId, M.Passes (.getItem itemId) q) :
    Unseen M (validateAdjustment code) q := by
  unfold validateAdjustment
  split
  · next itemId _ => exact (unseen_tryWith (follows_perform (h itemId))).then fun _ => rfl
  · exact follows_pure rfl

theorem unseen_quoteOptions {runner : Runner} {cart : CartProjection}
    {payload : SetFulfillmentSelectionPayload} {lines : List String}
    (h : ∀ request, M.Passes (.quoteOptions cart request) q) :
    Unseen M (quoteOptions runner cart payload lines) q := by
  unfold quoteOptions
  split
  · exact unseen_tryWith (follows_perform (h _))
  · exact follows_pure rfl

/-- The lines selected, and those asked for, are lines of the cart. -/
theorem follows_selectedLines {payload : SetFulfillmentSelectionPayload} {cart : CartProjection} :
    (selectedLines payload cart).run.Follows M
      (onOk fun lines q' => (∀ id ∈ lines, id ∈ cart.lines.map (·.lineId)) ∧
        (∀ id ∈ payload.lineItemIds, id ∈ cart.lines.map (·.lineId)) ∧ q' = q) q := by
  unfold selectedLines
  split
  · next hnone => exact follows_pure ⟨fun _ h => h, fun id hid => by simp [hnone] at hid, rfl⟩
  · split
    · next hlines =>
        have hlines : ∀ id ∈ payload.lineItemIds, id ∈ cart.lines.map (·.lineId) := by
          intro id hid
          obtain ⟨line, hline, heq⟩ := List.any_eq_true.mp (List.all_eq_true.mp hlines id hid)
          exact List.mem_map.mpr ⟨line, hline, of_decide_eq_true heq⟩
        exact follows_pure ⟨hlines, hlines, rfl⟩
    · exact follows_throw

/-- Discounts are written next to what is there. -/
theorem follows_applyDiscounts {cart : CartProjection}
    (h : M.Passes (.resolveDiscounts cart cart.adjustmentCodes) q) :
    (applyDiscounts cart).run.Follows M
      (onOk fun s q' => (∃ discounts discountMinor totalMinor,
        s = { cart with discounts, discountMinor, totalMinor }) ∧ q' = q) q := by
  unfold applyDiscounts
  split
  · exact follows_pure ⟨⟨_, _, _, rfl⟩, rfl⟩
  · exact (unseen_tryWith (follows_perform h)).then fun ds => ⟨⟨_, _, _, rfl⟩, rfl⟩

/-! ## The monitor -/

/-- The providers a cart command may ask, and the draw of a fresh UUID. -/
def Op.quotes : Op → Bool
  | .getItem .. | .resolvePrices .. | .resolveDiscounts .. | .resolveTax .. | .checkGeo ..
  | .quoteOptions .. | .newUuid => true
  | _ => false

/-- Only carts in `own` are read or written.  A snapshot read under `c` may be
relied on to carry an id and a tenant with `good c`, and one that is written
carries these for some cart in `own`. -/
def cartMonitor (own : CartId → Prop) (good : CartId → CartId → Option String → Prop) :
    Monitor Op.Ans Unit where
  allow o _ :=
    match o with
    | .appendCartEvent c _ | .setCartState c _ | .getCartSnapshot c | .getCartState c => own c
    | .putCartSnapshot s => ∃ c, own c ∧ good c s.cartId s.tenantId
    | o => o.quotes
  rely o _ x :=
    match o, x with
    | .getCartSnapshot c, some s => good c s.cartId s.tenantId
    | .newUuid, u => own ⟨u⟩
    | _, _ => True
  next _ q _ := q

section Commands

variable {own : CartId → Prop} {good : CartId → CartId → Option String → Prop}

/-- The commands' postcondition: the snapshot returned is that of a cart in `own`. -/
abbrev Returns (own : CartId → Prop) (good : CartId → CartId → Option String → Prop)
    (s : CartProjection) (_ : Unit) : Prop :=
  ∃ c, own c ∧ good c s.cartId s.tenantId

/-- A transition in front of the rest of a command. -/
theorem follows_transition {P : α → Unit → Prop} {c : CartId} {event : CartEvent}
    {k : Unit → Run α} (hc : own c) (h : (k ()).run.Follows (cartMonitor own good) (onOk P) ()) :
    (transitionCart c event >>= k).run.Follows (cartMonitor own good) (onOk P) () := by
  refine (unseen_transitionCart ⟨hc, fun _ => rfl⟩ fun _ => ⟨hc, fun _ => rfl⟩).then fun _ => ?_
  exact h

/-- A store write in front of the rest of a command. -/
theorem follows_append {P : α → Unit → Prop} {c : CartId} {event : CartStreamEvent}
    {k : Unit → Run α} (hc : own c) (h : (k ()).run.Follows (cartMonitor own good) (onOk P) ()) :
    (tryWith .store (ask (.appendCartEvent c event)) >>= k).run.Follows
      (cartMonitor own good) (onOk P) () :=
  (unseen_append ⟨hc, fun _ => rfl⟩).then fun _ => h

/-- Pricing, tax and discounts change neither the id nor the tenant. -/
def SameCart (s s' : CartProjection) : Prop := s'.cartId = s.cartId ∧ s'.tenantId = s.tenantId

theorem applyDiscounts_follows (cart : CartProjection) :
    (applyDiscounts cart).run.Follows (cartMonitor own good)
      (onOk fun s _ => SameCart cart s) () := by
  refine (follows_applyDiscounts ⟨rfl, fun _ => rfl⟩).mono fun r q hr => ?_
  cases r with
  | ok s =>
      obtain ⟨⟨ds, discount, total, rfl⟩, -⟩ := hr
      exact ⟨rfl, rfl⟩
  | error _ => exact trivial

/-- Saving the final snapshot and returning it. -/
theorem follows_save {s : CartProjection} (h : Returns own good s ()) :
    (do tryWith .store (ask (.putCartSnapshot s)); return s : Run CartProjection).run.Follows
      (cartMonitor own good) (onOk (Returns own good)) () := by
  refine follows_tryWith_bind ⟨h, fun x _ => ?_⟩
  cases x with
  | ok _ => exact h
  | error _ => exact trivial

theorem mutateAndRecalculate_follows {c : CartId} {projection : CartProjection}
    {event : CartStreamEvent} (hc : own c) (h : Returns own good projection ()) :
    (mutateAndRecalculate c projection event).run.Follows (cartMonitor own good)
      (onOk (Returns own good)) () := by
  unfold mutateAndRecalculate
  refine follows_transition hc (follows_append hc ?_)
  refine Unseen.then (unseen_tryWith ⟨rfl, fun _ _ => rfl⟩) fun prices => ?_
  refine follows_transition hc (follows_append hc ?_)
  refine Unseen.then (unseen_tryWith ⟨rfl, fun _ _ => rfl⟩) fun tax => ?_
  refine follows_run_then (applyDiscounts_follows _) fun discounted _ hr => ?_
  refine follows_transition hc (follows_append hc ?_)
  refine (unseen_checkGeo ⟨rfl, fun _ => rfl⟩).then fun geoOk => ?_
  refine follows_transition hc (follows_append hc (follows_save ?_))
  obtain ⟨c', hc', hgood⟩ := h
  refine ⟨c', hc', ?_⟩
  show good c' discounted.cartId discounted.tenantId
  rw [hr.1, hr.2]
  exact hgood

/-- Loading a cart in `own`: what is found may be relied on. -/
theorem follows_load {P : β → Unit → Prop} {c : CartId} {k : CartProjection → Run β} (hc : own c)
    (h : ∀ s, good c s.cartId s.tenantId →
      (k s).run.Follows (cartMonitor own good) (onOk P) ()) :
    (loadCart c >>= k).run.Follows (cartMonitor own good) (onOk P) () := by
  refine follows_run_bind ⟨hc, fun x hx => ?_⟩
  cases x with
  | none => exact trivial
  | some s => exact h s hx

theorem createCart_follows {payload : CreateCartPayload}
    (hgood : ∀ id, own id → good id id payload.tenantId) :
    (createCart payload).run.Follows (cartMonitor own good) (onOk (Returns own good)) () := by
  unfold createCart
  refine follows_call rfl fun uuid huuid => ?_
  have hid : own ⟨uuid⟩ := huuid
  refine follows_append hid (follows_tryWith_bind ⟨⟨_, hid, hgood _ hid⟩, fun x _ => ?_⟩)
  cases x with
  | error _ => exact trivial
  | ok _ =>
      refine follows_tryWith_bind ⟨hid, fun x _ => ?_⟩
      cases x with
      | error _ => exact trivial
      | ok _ => exact ⟨_, hid, hgood _ hid⟩

theorem addItem_follows {payload : AddItemPayload} {cartId : Option CartId}
    (hown : ∀ c, cartId = some c → own c) :
    (addItem payload cartId).run.Follows (cartMonitor own good) (onOk (Returns own good)) () := by
  unfold addItem
  refine follows_okOr fun c hc => follows_tryWith_bind ⟨rfl, fun item _ => ?_⟩
  cases item with
  | error _ => exact trivial
  | ok item =>
      refine follows_load (hown c hc) fun s hs => follows_call rfl fun uuid _ => ?_
      exact mutateAndRecalculate_follows (hown c hc) ⟨c, hown c hc, hs⟩

theorem updateItemQty_follows {payload : UpdateItemQtyPayload} {cartId : Option CartId}
    (hown : ∀ c, cartId = some c → own c) :
    (updateItemQty payload cartId).run.Follows (cartMonitor own good)
      (onOk (Returns own good)) () := by
  unfold updateItemQty
  refine follows_okOr fun c hc => follows_load (hown c hc) fun s hs => follows_failIf fun _ => ?_
  exact mutateAndRecalculate_follows (hown c hc) ⟨c, hown c hc, hs⟩

theorem removeItem_follows {payload : RemoveItemPayload} {cartId : Option CartId}
    (hown : ∀ c, cartId = some c → own c) :
    (removeItem payload cartId).run.Follows (cartMonitor own good)
      (onOk (Returns own good)) () := by
  unfold removeItem
  refine follows_okOr fun c hc => follows_load (hown c hc) fun s hs => ?_
  exact mutateAndRecalculate_follows (hown c hc) ⟨c, hown c hc, hs⟩

theorem applyAdjustment_follows {payload : ApplyAdjustmentPayload} {cartId : Option CartId}
    (hown : ∀ c, cartId = some c → own c) :
    (applyAdjustment payload cartId).run.Follows (cartMonitor own good)
      (onOk (Returns own good)) () := by
  unfold applyAdjustment
  refine follows_okOr fun c hc => follows_load (hown c hc) fun s hs => ?_
  refine (unseen_validateAdjustment fun _ => ⟨rfl, fun _ => rfl⟩).then fun _ => ?_
  exact mutateAndRecalculate_follows (hown c hc) ⟨c, hown c hc, hs⟩

theorem setFulfillmentSelection_follows {runner : Runner}
    {payload : SetFulfillmentSelectionPayload} {cartId : Option CartId}
    (hown : ∀ c, cartId = some c → own c) :
    (setFulfillmentSelection runner payload cartId).run.Follows (cartMonitor own good)
      (onOk (Returns own good)) () := by
  unfold setFulfillmentSelection
  refine follows_okOr fun c hc => follows_load (hown c hc) fun s hs => ?_
  refine follows_run_then follows_selectedLines fun lines _ _ => ?_
  refine (unseen_quoteOptions fun _ => ⟨rfl, fun _ => rfl⟩).then fun options => ?_
  refine follows_failIf fun _ => follows_call rfl fun _ _ => follows_call rfl fun _ _ => ?_
  refine follows_run_then (applyDiscounts_follows _) fun discounted _ hr => ?_
  refine (unseen_checkGeo ⟨rfl, fun _ => rfl⟩).then fun geoOk => ?_
  refine follows_append (hown c hc) (follows_save ⟨c, hown c hc, ?_⟩)
  show good c discounted.cartId discounted.tenantId
  rw [hr.1, hr.2]
  exact hs

theorem startCheckout_follows {payload : StartCheckoutPayload} (hown : own payload.cartId) :
    (startCheckout payload).run.Follows (cartMonitor own good) (onOk (Returns own good)) () := by
  unfold startCheckout
  refine follows_load hown fun s hs => follows_failIf fun _ => follows_append hown ?_
  refine follows_tryWith_bind ⟨⟨_, hown, hs⟩, fun x _ => ?_⟩
  cases x with
  | error _ => exact trivial
  | ok _ => exact follows_transition hown (follows_pure ⟨_, hown, hs⟩)

theorem cancelCart_follows {payload : CancelCartPayload} (hown : own payload.cartId) :
    (cancelCart payload).run.Follows (cartMonitor own good) (onOk (Returns own good)) () := by
  unfold cancelCart
  refine follows_load hown fun s hs => follows_append hown ?_
  refine follows_tryWith_bind ⟨⟨_, hown, hs⟩, fun x _ => ?_⟩
  cases x with
  | error _ => exact trivial
  | ok _ => exact follows_transition hown (follows_pure ⟨_, hown, hs⟩)

/-- The cart a command reads and writes: the one in its payload if there is one,
else the one it is given; a creation has none yet. -/
def CartCommand.target (command : CartCommand) (cartId : Option CartId) : Option CartId :=
  match command with
  | .createCart _ => none
  | .getCart payload => some payload.cartId
  | .startCheckout payload => some payload.cartId
  | .cancelCart payload => some payload.cartId
  | _ => cartId

/-- **Every cart command keeps to its cart.** -/
theorem dispatchCartCommand_follows {runner : Runner} {command : CartCommand}
    {cartId : Option CartId} (hown : ∀ c, command.target cartId = some c → own c)
    (hcreate : ∀ payload, command = .createCart payload →
      ∀ id, own id → good id id payload.tenantId) :
    (dispatchCartCommand runner command cartId).run.Follows (cartMonitor own good)
      (onOk (Returns own good)) () := by
  refine follows_failIf fun _ => ?_
  cases command with
  | createCart payload => exact createCart_follows (hcreate payload rfl)
  | addItem payload => exact addItem_follows hown
  | updateItemQty payload => exact updateItemQty_follows hown
  | removeItem payload => exact removeItem_follows hown
  | applyAdjustment payload => exact applyAdjustment_follows hown
  | setFulfillmentSelection payload => exact setFulfillmentSelection_follows hown
  | getCart payload =>
      refine ⟨hown _ rfl, fun x hx => ?_⟩
      cases x with
      | none => exact trivial
      | some s => exact ⟨_, hown _ rfl, hx⟩
  | startCheckout payload => exact startCheckout_follows (hown _ rfl)
  | cancelCart payload => exact cancelCart_follows (hown _ rfl)

end Commands

/-- The operations of the cart commands. -/
def Op.carts : Op → Bool
  | .appendCartEvent .. | .setCartState .. | .getCartSnapshot .. | .getCartState ..
  | .putCartSnapshot .. => true
  | o => o.quotes

/-- Whatever is stored and answered, a cart command performs cart operations only. -/
theorem dispatchCartCommand_carts {runner : Runner} {command : CartCommand}
    {cartId : Option CartId} {tr : List (Event Op.Ans)} {r : Except RunnerError CartProjection}
    (h : (dispatchCartCommand runner command cartId).run.Trace tr r) :
    ∀ e ∈ tr, e.1.carts := by
  have hf : (dispatchCartCommand runner command cartId).run.Follows
      (cartMonitor (fun _ => True) fun _ _ _ => True)
      (onOk (Returns (fun _ => True) fun _ _ _ => True)) () :=
    dispatchCartCommand_follows (fun _ _ => trivial) (fun _ _ _ _ => trivial)
  refine Monitor.Accepts.forall_allowed (k := fun o => o.carts) (fun o q x => ?_)
    (fun o q ho => ?_) (hf.trace h)
  · cases o <;> cases x <;> exact trivial
  · cases o <;> first | rfl | exact ho

end Orchestrator
