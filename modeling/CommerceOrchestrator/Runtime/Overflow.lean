/-
# `CommerceOrchestrator.Runtime.Overflow` — where cart arithmetic stays in range

Discounts saturate; every other sum and product of the runner is plain `i64` arithmetic, and
nothing bounds its operands.  `arithmetic_in_range` says which amounts have to fit: of prices
that are not negative, the price of what is ordered, the total of the lines as they are priced,
and what tax and fulfillment add to it.  Then no operation of any interleaving overflows.
-/
import CommerceOrchestrator.Runtime.Arithmetic
import CommerceOrchestrator.Runtime.Fulfillment
import CommerceOrchestrator.Runtime.Totals

namespace Orchestrator

open Effect Prog

/-! ## What has to fit -/

/-- No line is priced below zero. -/
def CartProjection.Priced (s : CartProjection) : Prop :=
  ∀ line ∈ s.lines, 0 ≤ line.unitPriceMinor ∧ 0 ≤ line.totalMinor

/-- Catalog and pricing provider give no price below zero. -/
structure Env.PricesNonNegative (env : Env) : Prop where
  item : ∀ n itemId item, env.getItem n itemId = .ok item → 0 ≤ item.priceMinor
  line : ∀ n cart ps, env.resolvePrices n cart = .ok ps →
    ∀ p ∈ ps, 0 ≤ p.unitPriceMinor ∧ 0 ≤ p.totalMinor

/-- Tax and fulfillment can be added to a subtotal. -/
def GrossFits (subtotal tax fulfillment : Int) : Prop :=
  InI64 (subtotal + tax) ∧ InI64 (subtotal + tax + fulfillment)

instance {subtotal tax fulfillment : Int} : Decidable (GrossFits subtotal tax fulfillment) :=
  inferInstanceAs (Decidable (_ ∧ _))

/-- If the selection is not refused, what it costs can be added. -/
def SelectionFits (payload : SetFulfillmentSelectionPayload) (cart : CartProjection)
    (options : List FulfillmentOption) : Prop :=
  (∀ id ∈ payload.lineItemIds, id ∈ cart.lines.map (·.lineId)) →
  (payload.selectedOptionId.isSome → (payload.selected options).isSome) →
  GrossFits cart.subtotalMinor cart.taxMinor (payload.amountMinor options)

instance {payload : SetFulfillmentSelectionPayload} {cart : CartProjection}
    {options : List FulfillmentOption} : Decidable (SelectionFits payload cart options) :=
  inferInstanceAs (Decidable (_ → _ → _))

/-- What a call multiplies or adds once it has its cart; `items` is what it got from the
catalog. -/
def CartFits (runner : Runner) (items : List CatalogItem) (cart : CartProjection) : Call → Prop
  | .cart (.addItem payload) _ =>
      ∀ item ∈ items, item.priceMinor * payload.quantity ≤ 2 ^ 63 - 1
  | .cart (.updateItemQty payload) _ =>
      ∀ line ∈ cart.lines.find? (·.lineId = payload.lineId),
        line.unitPriceMinor * payload.quantity ≤ 2 ^ 63 - 1
  | .cart (.setFulfillmentSelection payload) _ =>
      runner.fulfillment = false →
        SelectionFits payload cart (defaultOptionsForMethod payload.methodType)
  | _ => True

/-- What a call adds once it has a quote. -/
def QuoteFits (cart : CartProjection) (options : List FulfillmentOption) : Call → Prop
  | .cart (.setFulfillmentSelection payload) _ => SelectionFits payload cart options
  | _ => True

/-- The amounts that follow from an answer fit. -/
def Fits (runner : Runner) (call : Call) (items : List CatalogItem) : Event Op.Ans → Prop
  | ⟨.getCartSnapshot _, some cart⟩ => CartFits runner items cart call
  | ⟨.quoteOptions cart _, .ok options⟩ => QuoteFits cart options call
  | ⟨.resolvePrices cart, .ok ps⟩ =>
      ((applyPrices cart.lines ps).map (·.totalMinor)).sum ≤ 2 ^ 63 - 1
  | ⟨.resolveTax cart, .ok tax⟩ =>
      GrossFits (cart.lines.map (·.totalMinor)).sum tax.totalTaxMinor cart.fulfillmentMinor
  | _ => True

instance {runner : Runner} {items : List CatalogItem} {cart : CartProjection} {call : Call} :
    Decidable (CartFits runner items cart call) :=
  match call with
  | .cart (.addItem payload) _ =>
      inferInstanceAs (Decidable (∀ item ∈ items,
        item.priceMinor * payload.quantity ≤ 2 ^ 63 - 1))
  | .cart (.updateItemQty payload) _ =>
      inferInstanceAs (Decidable (∀ line ∈ cart.lines.find? (·.lineId = payload.lineId),
        line.unitPriceMinor * payload.quantity ≤ 2 ^ 63 - 1))
  | .cart (.setFulfillmentSelection _) _ => inferInstanceAs (Decidable (_ = false → _))
  | .cart (.createCart _) _ | .cart (.removeItem _) _ | .cart (.applyAdjustment _) _
  | .cart (.getCart _) _ | .cart (.startCheckout _) _ | .cart (.cancelCart _) _
  | .checkout _ => isTrue trivial

instance {cart : CartProjection} {options : List FulfillmentOption} {call : Call} :
    Decidable (QuoteFits cart options call) :=
  match call with
  | .cart (.setFulfillmentSelection payload) _ =>
      inferInstanceAs (Decidable (SelectionFits payload cart options))
  | .cart (.createCart _) _ | .cart (.addItem _) _ | .cart (.updateItemQty _) _
  | .cart (.removeItem _) _ | .cart (.applyAdjustment _) _ | .cart (.getCart _) _
  | .cart (.startCheckout _) _ | .cart (.cancelCart _) _ | .checkout _ => isTrue trivial

instance {runner : Runner} {call : Call} {items : List CatalogItem} {e : Event Op.Ans} :
    Decidable (Fits runner call items e) := by
  unfold Fits
  split <;> infer_instance

/-! ## Prices -/

theorem CartProjection.Priced.of_lines {s s' : CartProjection} (h : s.Priced)
    (hlines : s'.lines = s.lines) : s'.Priced := by
  rw [CartProjection.Priced, hlines]
  exact h

/-- A change that prices no line below zero. -/
theorem updateLine_priced {lineId : String} {f : CartLineProjection → CartLineProjection}
    {lines : List CartLineProjection}
    (hlines : ∀ line ∈ lines, 0 ≤ line.unitPriceMinor ∧ 0 ≤ line.totalMinor)
    (hf : ∀ line ∈ lines, 0 ≤ (f line).unitPriceMinor ∧ 0 ≤ (f line).totalMinor) :
    ∀ line ∈ updateLine lineId f lines, 0 ≤ line.unitPriceMinor ∧ 0 ≤ line.totalMinor := by
  induction lines with
  | nil => exact hlines
  | cons line lines ih =>
      obtain ⟨hline, hlines⟩ := List.forall_mem_cons.mp hlines
      obtain ⟨hfline, hf⟩ := List.forall_mem_cons.mp hf
      unfold updateLine
      split
      · exact List.forall_mem_cons.mpr ⟨hfline, hlines⟩
      · exact List.forall_mem_cons.mpr ⟨hline, ih hlines hf⟩

theorem applyPrices_priced {ps : List LinePrice} {lines : List CartLineProjection}
    (hps : ∀ p ∈ ps, 0 ≤ p.unitPriceMinor ∧ 0 ≤ p.totalMinor)
    (hlines : ∀ line ∈ lines, 0 ≤ line.unitPriceMinor ∧ 0 ≤ line.totalMinor) :
    ∀ line ∈ applyPrices lines ps, 0 ≤ line.unitPriceMinor ∧ 0 ≤ line.totalMinor := by
  induction ps generalizing lines with
  | nil => exact hlines
  | cons p ps ih =>
      obtain ⟨hp, hps⟩ := List.forall_mem_cons.mp hps
      exact ih hps (updateLine_priced hlines fun _ _ => hp)

/-! ## The monitor -/

/-- A call, and what it got from the catalog so far. -/
structure Tally where
  call : Call
  items : List CatalogItem

/-- Nothing read is priced below zero. -/
def PricedAnswer : Event Op.Ans → Prop
  | ⟨.getCartSnapshot _, some cart⟩ => cart.Priced
  | ⟨.getItem _, .ok item⟩ => 0 ≤ item.priceMinor
  | ⟨.resolvePrices _, .ok ps⟩ => ∀ p ∈ ps, 0 ≤ p.unitPriceMinor ∧ 0 ≤ p.totalMinor
  | _ => True

/-- Snapshots that are put price no line below zero, if what is read does not and fits. -/
def tallyMonitor (runner : Runner) : Monitor Op.Ans Tally where
  allow o _ :=
    match o with
    | .putCartSnapshot s => s.Priced
    | _ => True
  rely o q x := PricedAnswer ⟨o, x⟩ ∧ Fits runner q.call q.items ⟨o, x⟩
  next o q x :=
    match o, x with
    | .getItem _, .ok item => { q with items := q.items ++ [item] }
    | _, _ => q

theorem tallyMonitor_next_call {runner : Runner} {o : Op} {q : Tally} {x : o.Ans} :
    ((tallyMonitor runner).next o q x).call = q.call := by
  cases o with
  | getItem itemId => cases x <;> rfl
  | _ => rfl

namespace I64

section Follows

variable {α β Q : Type} {M : Monitor (WithI64 Op.Ans) Q} {q : Q}

theorem follows_bind {P : β → Q → Prop} {p : Run α} {f : α → Run β}
    (h : p.run.Follows M (onOk fun a q' => (f a).run.Follows M (onOk P) q') q) :
    (p >>= f).run.Follows M (onOk P) q := by
  rw [ExceptT.run_bind]
  refine Prog.follows_bind.mpr (h.mono ?_)
  intro r q' hr
  cases r with
  | ok a => exact hr
  | error e => exact trivial

theorem follows_tryCatch {P : α → Q → Prop} {p : Run α} {f : RunnerError → Run α}
    (hp : p.run.Follows M (onOk P) q) (hf : ∀ e q', (f e).run.Follows M (onOk P) q') :
    (tryCatch p f : Run α).run.Follows M (onOk P) q := by
  show (p.run >>= _).Follows M (onOk P) q
  refine Prog.follows_bind.mpr (hp.mono ?_)
  intro r q' hr
  cases r with
  | ok a => exact hr
  | error e => exact hf e q'

/-- What comes next is done only if the first part succeeds. -/
theorem follows_then {P : α → Q → Prop} {P' : β → Q → Prop} {p : Run α} {f : α → Run β}
    (hp : p.run.Follows M (onOk P) q)
    (hf : ∀ a q', P a q' → (f a).run.Follows M (onOk P') q') :
    (p >>= f).run.Follows M (onOk P') q := by
  refine follows_bind (hp.mono fun r q' hr => ?_)
  cases r with
  | ok a => exact hf a q' hr
  | error e => exact trivial

variable {M : Monitor Op.Ans Q}

/-- What calculates nothing, in front of the rest. -/
theorem follows_lift {P : β → Q → Prop} {p : Orchestrator.Run α} {k : α → Run β}
    (h : p.run.Follows M (onOk fun a q' => (k a).run.Follows M.withI64 (onOk P) q') q) :
    (liftM p >>= k).run.Follows M.withI64 (onOk P) q :=
  follows_bind h.withI64

theorem follows_lift_then {P : α → Q → Prop} {P' : β → Q → Prop} {p : Orchestrator.Run α}
    {k : α → Run β} (hp : p.run.Follows M (onOk P) q)
    (hk : ∀ a q', P a q' → (k a).run.Follows M.withI64 (onOk P') q') :
    (liftM p >>= k).run.Follows M.withI64 (onOk P') q := by
  refine follows_lift (hp.mono fun r q' hr => ?_)
  cases r with
  | ok a => exact hk a q' hr
  | error e => exact trivial

theorem follows_calculate {P : β → Q → Prop} {o : I64Op} {k : Int → Run β} (ho : o.InRange)
    (h : (k o.exact).run.Follows M.withI64 (onOk P) q) :
    (calculate o >>= k).run.Follows M.withI64 (onOk P) q := by
  refine ⟨ho, fun x hx => ?_⟩
  obtain rfl := hx
  exact h

theorem follows_lift_okOr {P : β → Q → Prop} {x : Option α} {e : RunnerError} {k : α → Run β}
    (h : ∀ a, x = some a → (k a).run.Follows M.withI64 (onOk P) q) :
    (liftM (okOr x e) >>= k).run.Follows M.withI64 (onOk P) q := by
  cases x with
  | none => exact trivial
  | some a => exact h a rfl

theorem follows_lift_failIf {P : α → Q → Prop} {bad : Prop} [Decidable bad] {e : RunnerError}
    {k : Unit → Run α} (h : ¬ bad → (k ()).run.Follows M.withI64 (onOk P) q) :
    (liftM (failIf bad e) >>= k).run.Follows M.withI64 (onOk P) q := by
  by_cases hbad : bad
  · rw [failIf, if_pos hbad]
    exact trivial
  · rw [failIf, if_neg hbad]
    exact h hbad

end Follows

/-! ### Sums -/

section Sums

variable {Q : Type} {M : Monitor Op.Ans Q} {q : Q}

/-- Summing what is not negative stays in range, if the sum does. -/
theorem sumFrom_follows {acc : Int} {xs : List Int} (hacc : 0 ≤ acc) (hxs : ∀ x ∈ xs, 0 ≤ x)
    (hsum : acc + xs.sum ≤ 2 ^ 63 - 1) :
    (sumFrom acc xs).run.Follows M.withI64 (onOk fun total q' => total = acc + xs.sum ∧ q' = q)
      q := by
  induction xs generalizing acc with
  | nil => exact ⟨(add_zero acc).symm, rfl⟩
  | cons x xs ih =>
      obtain ⟨hx, hxs⟩ := List.forall_mem_cons.mp hxs
      rw [List.sum_cons, ← add_assoc] at hsum ⊢
      have hrest : 0 ≤ xs.sum := List.sum_nonneg hxs
      have hadd : (I64Op.add acc x).InRange := by
        show -2 ^ 63 ≤ acc + x ∧ acc + x ≤ 2 ^ 63 - 1
        omega
      exact follows_calculate hadd (ih (add_nonneg hacc hx) hxs hsum)

theorem withPrices_follows {cart : CartProjection} {ps : List LinePrice}
    (hlines : (cart.withPrices ps).Priced)
    (hsum : ((applyPrices cart.lines ps).map (·.totalMinor)).sum ≤ 2 ^ 63 - 1) :
    (withPrices cart ps).run.Follows M.withI64
      (onOk fun s q' => s = cart.withPrices ps ∧ q' = q) q := by
  have htotals : ∀ x ∈ (applyPrices cart.lines ps).map (·.totalMinor), 0 ≤ x := by
    intro x hx
    obtain ⟨line, hline, rfl⟩ := List.mem_map.mp hx
    exact (hlines line hline).2
  refine follows_then (sumFrom_follows le_rfl htotals (by rwa [zero_add])) fun total q' hr => ?_
  obtain ⟨rfl, rfl⟩ := hr
  rw [zero_add]
  exact ⟨rfl, rfl⟩

/-- The price of a number of items. -/
theorem mul_inRange {price : Int} {quantity : Nat} (hprice : 0 ≤ price)
    (hfits : price * quantity ≤ 2 ^ 63 - 1) :
    (I64Op.mul price quantity).InRange ∧ 0 ≤ price * quantity := by
  have hnonneg : 0 ≤ price * (quantity : Int) := Int.mul_nonneg hprice (Int.natCast_nonneg _)
  refine ⟨⟨?_, hfits⟩, hnonneg⟩
  show -2 ^ 63 ≤ price * (quantity : Int)
  omega

/-- A discount is never more than what is owed, so taking it off stays in range. -/
theorem sub_discount_inRange {gross : Int} (hgross : InI64 gross)
    (discounts : List AppliedDiscount) :
    (I64Op.sub gross (totalDiscountMinor discounts gross)).InRange := by
  have hasked := requestedMinor_nonneg discounts
  obtain ⟨hlow, hhigh⟩ := hgross
  show -2 ^ 63 ≤ gross - _ ∧ gross - _ ≤ 2 ^ 63 - 1
  rw [totalDiscountMinor_eq]
  omega

end Sums

/-! ### Calls -/

section Calls

variable {runner : Runner} {q : Tally} {β : Type}

/-- What the tally takes no note of, in front of the rest. -/
theorem tally_lift {P : β → Tally → Prop} {α : Type} {p : Orchestrator.Run α} {k : α → Run β}
    (hp : Unseen (tallyMonitor runner) p q)
    (h : ∀ a, (k a).run.Follows (tallyMonitor runner).withI64 (onOk P) q) :
    (liftM p >>= k).run.Follows (tallyMonitor runner).withI64 (onOk P) q :=
  follows_lift_then hp fun a _ hq => hq ▸ h a

theorem transitionCart_tally {c : CartId} {event : CartEvent} :
    Unseen (tallyMonitor runner) (transitionCart c event) q :=
  unseen_transitionCart ⟨trivial, fun _ => rfl⟩ fun _ => ⟨trivial, fun _ => rfl⟩

theorem append_tally {c : CartId} {event : CartStreamEvent} :
    Unseen (tallyMonitor runner) (tryWith .store (ask (.appendCartEvent c event))) q :=
  unseen_append ⟨trivial, fun _ => rfl⟩

theorem put_tally {s : CartProjection} (hs : s.Priced) :
    Unseen (tallyMonitor runner) (tryWith .store (ask (.putCartSnapshot s))) q :=
  unseen_tryWith ⟨hs, fun _ _ => rfl⟩

theorem checkGeo_tally {cart : CartProjection} : Unseen (tallyMonitor runner) (checkGeo cart) q :=
  unseen_checkGeo ⟨trivial, fun _ => rfl⟩

theorem validateAdjustment_tally {code : String} :
    (validateAdjustment code).run.Follows (tallyMonitor runner) (onOk fun _ _ => True) q := by
  unfold validateAdjustment
  split
  · refine follows_tryWith_bind ⟨trivial, fun x _ => ?_⟩
    cases x <;> trivial
  · exact follows_pure trivial

/-- Loading a cart: it prices no line below zero, and what the call does with it fits. -/
theorem loadCart_tally {c : CartId} :
    (loadCart c).run.Follows (tallyMonitor runner)
      (onOk fun s q' => s.Priced ∧ CartFits runner q.items s q.call ∧ q' = q) q := by
  refine follows_call trivial fun x hx => ?_
  cases x with
  | none => exact trivial
  | some s => exact ⟨hx.1, hx.2, rfl⟩

/-- Loading a cart, in front of the rest. -/
theorem tally_load {P : β → Tally → Prop} {c : CartId} {k : CartProjection → Run β}
    (h : ∀ s, s.Priced → CartFits runner q.items s q.call →
      (k s).run.Follows (tallyMonitor runner).withI64 (onOk P) q) :
    (liftM (loadCart c) >>= k).run.Follows (tallyMonitor runner).withI64 (onOk P) q := by
  refine follows_lift_then loadCart_tally fun s q' hr => ?_
  obtain ⟨hs, hfits, rfl⟩ := hr
  exact h s hs hfits

theorem applyDiscounts_follows {cart : CartProjection}
    (hfits : GrossFits cart.subtotalMinor cart.taxMinor cart.fulfillmentMinor) :
    (applyDiscounts cart).run.Follows (tallyMonitor runner).withI64
      (onOk fun s q' => s.lines = cart.lines ∧ q' = q) q := by
  have hadds : (grossMinor cart).run.Follows (tallyMonitor runner).withI64
      (onOk fun gross q' => InI64 gross ∧ q' = q) q :=
    follows_calculate hfits.1 ⟨hfits.2, fun x hx => ⟨hx ▸ hfits.2, rfl⟩⟩
  unfold applyDiscounts
  refine follows_then hadds fun gross q' hr => ?_
  obtain ⟨hgross, rfl⟩ := hr
  dsimp only
  split
  · exact ⟨rfl, rfl⟩
  · refine tally_lift (follows_tryWith ⟨trivial, fun x _ => by cases x <;> trivial⟩) fun ds => ?_
    exact follows_calculate (sub_discount_inRange hgross ds) ⟨rfl, rfl⟩

/-- Prices and what they come to: the part that re-pricing at checkout shares. -/
theorem tally_prices {P : β → Tally → Prop} {cart : CartProjection} {k : CartProjection → Run β}
    (hcart : cart.Priced)
    (h : ∀ ps, (cart.withPrices ps).Priced →
      (k (cart.withPrices ps)).run.Follows (tallyMonitor runner).withI64 (onOk P) q) :
    (liftM (tryWith .pricing (ask (.resolvePrices cart))) >>= fun ps =>
      withPrices cart ps >>= k).run.Follows (tallyMonitor runner).withI64 (onOk P) q := by
  refine follows_lift (follows_tryWith ⟨trivial, fun x hx => ?_⟩)
  cases x with
  | error _ => exact trivial
  | ok ps =>
      have hpriced : (cart.withPrices ps).Priced := applyPrices_priced hx.1 hcart
      refine follows_then (withPrices_follows hpriced hx.2) fun s q' hr => ?_
      obtain ⟨rfl, rfl⟩ := hr
      exact h ps hpriced

/-- Asking for the tax on a priced cart: it can be added to the total. -/
theorem resolveTax_tally {cart : CartProjection} {ps : List LinePrice} :
    (tryWith .tax (ask (.resolveTax (cart.withPrices ps)))).run.Follows (tallyMonitor runner)
      (onOk fun tax q' => GrossFits ((cart.withPrices ps).withTax tax).subtotalMinor
        ((cart.withPrices ps).withTax tax).taxMinor
        ((cart.withPrices ps).withTax tax).fulfillmentMinor ∧ q' = q) q := by
  refine follows_tryWith ⟨trivial, fun x hx => ?_⟩
  cases x with
  | error _ => exact trivial
  | ok tax => exact ⟨hx.2, rfl⟩

theorem mutateAndRecalculate_follows {c : CartId} {cart : CartProjection} {event : CartStreamEvent}
    (hcart : cart.Priced) :
    (mutateAndRecalculate c cart event).run.Follows (tallyMonitor runner).withI64
      (onOk fun _ _ => True) q := by
  unfold mutateAndRecalculate
  refine tally_lift transitionCart_tally fun _ => tally_lift append_tally fun _ => ?_
  refine tally_prices hcart fun ps hpriced => ?_
  refine tally_lift transitionCart_tally fun _ => tally_lift append_tally fun _ => ?_
  refine follows_lift_then resolveTax_tally fun tax _ hr => ?_
  obtain ⟨hfits, rfl⟩ := hr
  refine follows_then (applyDiscounts_follows hfits) fun discounted _ hr => ?_
  obtain ⟨hlines, rfl⟩ := hr
  refine tally_lift transitionCart_tally fun _ => tally_lift append_tally fun _ => ?_
  refine tally_lift checkGeo_tally fun geoOk => ?_
  refine tally_lift transitionCart_tally fun _ => tally_lift append_tally fun _ => ?_
  exact tally_lift (put_tally (hpriced.of_lines hlines)) fun _ => trivial

theorem addItem_follows (payload : AddItemPayload) (cartId : Option CartId) :
    (addItem payload cartId).run.Follows (tallyMonitor runner).withI64 (onOk fun _ _ => True)
      ⟨.cart (.addItem payload) cartId, []⟩ := by
  unfold addItem
  refine follows_lift_okOr fun c _ => follows_lift (follows_tryWith ⟨trivial, fun x hx => ?_⟩)
  cases x with
  | error _ => exact trivial
  | ok item =>
      have hprice : 0 ≤ item.priceMinor := hx.1
      refine tally_load fun s hs hfits => ?_
      refine tally_lift ⟨trivial, fun _ _ => rfl⟩ fun uuid => ?_
      obtain ⟨hmul, hnonneg⟩ := mul_inRange hprice (hfits item (List.mem_singleton_self _))
      refine follows_calculate hmul (mutateAndRecalculate_follows fun line hline => ?_)
      rcases List.mem_append.mp hline with hline | hline
      · exact hs line hline
      · obtain rfl := List.mem_singleton.mp hline
        exact ⟨hprice, hnonneg⟩

theorem updateItemQty_follows (payload : UpdateItemQtyPayload) (cartId : Option CartId) :
    (updateItemQty payload cartId).run.Follows (tallyMonitor runner).withI64
      (onOk fun _ _ => True) ⟨.cart (.updateItemQty payload) cartId, []⟩ := by
  unfold updateItemQty
  refine follows_lift_okOr fun c _ => tally_load fun s hs hfits => follows_lift_okOr fun line hfind => ?_
  have hprice : 0 ≤ line.unitPriceMinor := (hs line (List.mem_of_find?_eq_some hfind)).1
  obtain ⟨hmul, hnonneg⟩ := mul_inRange hprice (hfits line hfind)
  refine follows_calculate hmul (mutateAndRecalculate_follows ?_)
  exact updateLine_priced hs fun l hl => ⟨(hs l hl).1, hnonneg⟩

theorem removeItem_follows (payload : RemoveItemPayload) (cartId : Option CartId) :
    (removeItem payload cartId).run.Follows (tallyMonitor runner).withI64 (onOk fun _ _ => True)
      q := by
  unfold removeItem
  refine follows_lift_okOr fun c _ => tally_load fun s hs _ => mutateAndRecalculate_follows ?_
  exact fun line hline => hs line (List.mem_of_mem_filter hline)

theorem applyAdjustment_follows (payload : ApplyAdjustmentPayload) (cartId : Option CartId) :
    (applyAdjustment payload cartId).run.Follows (tallyMonitor runner).withI64
      (onOk fun _ _ => True) q := by
  unfold applyAdjustment
  refine follows_lift_okOr fun c _ => tally_load fun s hs _ => ?_
  refine follows_lift_then validateAdjustment_tally fun _ q' _ => ?_
  exact mutateAndRecalculate_follows hs

/-- What is selected costs what fits. -/
theorem quoteOptions_tally {payload : SetFulfillmentSelectionPayload} {cartId : Option CartId}
    {cart : CartProjection} {lines : List String}
    (hfits : CartFits runner [] cart (.cart (.setFulfillmentSelection payload) cartId)) :
    (quoteOptions runner cart payload lines).run.Follows (tallyMonitor runner)
      (onOk fun options q' => SelectionFits payload cart options ∧
        q' = ⟨.cart (.setFulfillmentSelection payload) cartId, []⟩)
      ⟨.cart (.setFulfillmentSelection payload) cartId, []⟩ := by
  unfold quoteOptions
  split
  · refine follows_tryWith ⟨trivial, fun x hx => ?_⟩
    cases x with
    | error _ => exact trivial
    | ok options => exact ⟨hx.2, rfl⟩
  · next hnone => exact follows_pure ⟨hfits (Bool.not_eq_true _ ▸ hnone), rfl⟩

theorem setFulfillmentSelection_follows (payload : SetFulfillmentSelectionPayload)
    (cartId : Option CartId) :
    (setFulfillmentSelection runner payload cartId).run.Follows (tallyMonitor runner).withI64
      (onOk fun _ _ => True) ⟨.cart (.setFulfillmentSelection payload) cartId, []⟩ := by
  unfold setFulfillmentSelection
  refine follows_lift_okOr fun c _ => tally_load fun s hs hcart => ?_
  refine follows_lift_then follows_selectedLines fun lines _ hr => ?_
  obtain ⟨-, hlines, rfl⟩ := hr
  refine follows_lift_then (quoteOptions_tally hcart) fun options _ hr => ?_
  obtain ⟨hselection, rfl⟩ := hr
  refine follows_lift_failIf fun hfound => ?_
  have hadds := hselection hlines (selected_isSome hfound)
  refine tally_lift ⟨trivial, fun _ _ => rfl⟩ fun group => ?_
  refine tally_lift ⟨trivial, fun _ _ => rfl⟩ fun method => ?_
  refine follows_then (applyDiscounts_follows hadds) fun discounted _ hr => ?_
  obtain ⟨hkept, rfl⟩ := hr
  refine tally_lift checkGeo_tally fun geoOk => tally_lift append_tally fun _ => ?_
  exact tally_lift (put_tally (hs.of_lines hkept)) fun _ => trivial

theorem createCart_tally (payload : CreateCartPayload) :
    (createCart payload).run.Follows (tallyMonitor runner) (onOk fun _ _ => True) q := by
  unfold createCart
  refine follows_call trivial fun id _ => Unseen.then append_tally fun _ => ?_
  have hnone : (payload.cart ⟨id⟩).Priced := fun _ h => absurd h List.not_mem_nil
  refine Unseen.then (put_tally hnone) fun _ => ?_
  exact follows_tryWith_bind ⟨trivial, fun x _ => by cases x <;> trivial⟩

/-- A command that changes the status of a cart, from where it has its cart. -/
theorem setStatus_tally {s : CartProjection} {status : CartStatus} {c : CartId}
    {event : CartStreamEvent} {move : CartEvent} (hs : s.Priced) :
    (do
      tryWith .store (ask (.appendCartEvent c event))
      tryWith .store (ask (.putCartSnapshot (s.setStatus status)))
      transitionCart c move
      return s.setStatus status : Orchestrator.Run CartProjection).run.Follows
        (tallyMonitor runner) (onOk fun _ _ => True) q := by
  refine Unseen.then append_tally fun _ => ?_
  have hput : (s.setStatus status).Priced := hs
  refine Unseen.then (put_tally hput) fun _ => ?_
  exact Unseen.then transitionCart_tally fun _ => trivial

theorem startCheckout_tally (payload : StartCheckoutPayload) :
    (startCheckout payload).run.Follows (tallyMonitor runner) (onOk fun _ _ => True) q := by
  unfold startCheckout
  refine follows_run_then loadCart_tally fun s _ hr => ?_
  exact Orchestrator.follows_failIf fun _ => setStatus_tally hr.1

theorem cancelCart_tally (payload : CancelCartPayload) :
    (cancelCart payload).run.Follows (tallyMonitor runner) (onOk fun _ _ => True) q := by
  unfold cancelCart
  refine follows_run_then loadCart_tally fun s _ hr => ?_
  exact setStatus_tally hr.1

theorem dispatchCartCommand_follows (command : CartCommand) (cartId : Option CartId) :
    (dispatchCartCommand runner command cartId).run.Follows (tallyMonitor runner).withI64
      (onOk fun _ _ => True) ⟨.cart command cartId, []⟩ := by
  unfold dispatchCartCommand
  refine follows_lift_failIf fun _ => ?_
  cases command with
  | createCart payload => exact (createCart_tally payload).withI64
  | addItem payload => exact addItem_follows payload cartId
  | updateItemQty payload => exact updateItemQty_follows payload cartId
  | removeItem payload => exact removeItem_follows payload cartId
  | applyAdjustment payload => exact applyAdjustment_follows payload cartId
  | setFulfillmentSelection payload => exact setFulfillmentSelection_follows payload cartId
  | getCart payload => exact (follows_onOk loadCart_tally).withI64
  | startCheckout payload => exact (startCheckout_tally payload).withI64
  | cancelCart payload => exact (cancelCart_tally payload).withI64

theorem repriceForCheckout_follows {cart : CartProjection} (hcart : cart.Priced) :
    (repriceForCheckout cart).run.Follows (tallyMonitor runner).withI64
      (onOk fun s q' => s.Priced ∧ q' = q) q := by
  unfold repriceForCheckout
  refine tally_prices hcart fun ps hpriced => ?_
  refine follows_lift_then resolveTax_tally fun tax _ hr => ?_
  obtain ⟨hfits, rfl⟩ := hr
  refine (applyDiscounts_follows hfits).mono fun r _ hr => ?_
  cases r with
  | error _ => exact trivial
  | ok s => exact ⟨hpriced.of_lines hr.1, hr.2⟩

theorem settleCartForCheckout_follows (request : CheckoutRequest) :
    (settleCartForCheckout request).run.Follows (tallyMonitor runner).withI64
      (onOk fun _ _ => True) q := by
  unfold settleCartForCheckout
  refine tally_load fun s hs _ =>
    follows_lift_failIf fun _ => follows_lift_failIf fun _ => ?_
  refine follows_then (repriceForCheckout_follows hs) fun repriced _ hr => ?_
  obtain ⟨hpriced, rfl⟩ := hr
  refine tally_lift checkGeo_tally fun geoOk => ?_
  refine tally_lift (put_tally (hpriced.of_lines rfl)) fun _ => ?_
  exact follows_lift_failIf fun _ => follows_lift_failIf fun _ => trivial

theorem settleOrRelease_follows (request : CheckoutRequest) :
    (settleOrRelease request).run.Follows (tallyMonitor runner).withI64 (onOk fun _ _ => True)
      q := by
  refine follows_tryCatch (settleCartForCheckout_follows request) fun e q' => ?_
  exact tally_lift (follows_tryWith ⟨trivial, fun x _ => by cases x <;> trivial⟩) fun _ => trivial

/-- A path with no snapshot on it. -/
theorem tally_accepts {k : Op → Bool} {tr : List (Event Op.Ans)}
    (hput : ∀ s, k (.putCartSnapshot s) = false) (htr : ∀ e ∈ tr, k e.1) :
    (tallyMonitor runner).Accepts (fun _ => True) tr q := by
  refine Monitor.Accepts.free fun e he q => ?_
  obtain ⟨o, x⟩ := e
  cases o with
  | putCartSnapshot s => exact absurd ((hput s).symm.trans (htr _ he)) Bool.false_ne_true
  | _ => exact trivial

theorem checkOut_follows (request : CheckoutRequest) :
    (checkOut runner request).run.Follows (tallyMonitor runner).withI64 (onOk fun _ _ => True)
      q := by
  unfold checkOut
  refine follows_then (settleOrRelease_follows request) fun cart q _ => ?_
  have hreserves : (reserveLines request.cartId cart.lines).run.Follows (tallyMonitor runner)
      (fun _ _ => True) q :=
    Follows.of_trace fun _ _ ht =>
      tally_accepts (fun _ => rfl) (reserveLines_trace ht).reserves
  refine follows_lift_then (follows_onOk hreserves) fun _ q _ => ?_
  have hpays : (payAndBook runner request cart).run.Follows (tallyMonitor runner)
      (fun _ _ => True) q :=
    Follows.of_trace fun _ _ ht =>
      tally_accepts (fun _ => rfl) (payAndBook_trace ht).finishes
  exact (follows_onOk hpays).withI64

theorem executeCheckout_follows (request : CheckoutRequest) :
    (executeCheckout runner request).run.Follows (tallyMonitor runner).withI64
      (onOk fun _ _ => True) q := by
  unfold executeCheckout
  refine follows_lift_failIf fun _ => ?_
  refine tally_lift (follows_tryWith ⟨trivial, fun x _ => by cases x <;> trivial⟩) fun claimed => ?_
  rcases claimed with _ | _ | result
  · exact checkOut_follows request
  · exact trivial
  · exact trivial

/-- **Every call calculates in range**, if what it reads is priced and fits. -/
theorem prog_follows (call : Call) :
    (prog runner call).Follows (tallyMonitor runner).withI64 (fun _ _ => True) ⟨call, []⟩ := by
  cases call with
  | cart command cartId =>
      exact Prog.follows_bind.mpr ((dispatchCartCommand_follows command cartId).mono
        fun _ _ _ => trivial)
  | checkout request =>
      exact Prog.follows_bind.mpr ((executeCheckout_follows request).mono fun _ _ _ => trivial)

end Calls

/-! ## Runs -/

abbrev CallEntry := Entry (WithI64 Op.Ans) Outcome

/-- Calls at once, calculating on `i64`. -/
def atOnce (env : Env) (runner : Runner) (calls : List Call) (ts : List Nat) (w : World) :
    Pool (WithI64 Op.Ans) World Outcome :=
  Pool.run env.handle.withI64.shared ts (Pool.start w (calls.map (prog runner)))

/-- If the entry is an operation on `i64`, it does not overflow. -/
def CallEntry.InRange : CallEntry → Prop
  | .did _ ⟨.inr o, _⟩ => o.InRange
  | _ => True

instance {e : CallEntry} : Decidable e.InRange := by
  unfold CallEntry.InRange
  split <;> infer_instance

/-- The item an entry records thread `t` to have got from the catalog. -/
def CallEntry.item (t : Nat) : CallEntry → Option CatalogItem
  | .did t' ⟨.inl (.getItem _), .ok item⟩ => if t' = t then some item else none
  | _ => none

/-- What thread `t` got from the catalog. -/
def gotItems (t : Nat) (log : List CallEntry) : List CatalogItem :=
  log.filterMap (CallEntry.item t)

/-- The condition on a step: the amounts that follow from its answer fit. -/
def StepFits (env : Env) (runner : Runner) (calls : List Call) (t : Nat) :
    Op ⊕ I64Op → World → List CallEntry → Prop
  | .inl o, w, log =>
      Fits runner (threadCall calls t) (gotItems t log) ⟨o, (env.handle o w).1⟩
  | .inr _, _, _ => True

instance {env : Env} {runner : Runner} {calls : List Call} {t : Nat} {o : Op ⊕ I64Op} {w : World}
    {log : List CallEntry} : Decidable (StepFits env runner calls t o w log) := by
  unfold StepFits
  split <;> infer_instance

/-- What is stored is priced, and nothing has overflowed. -/
structure Tallied (calls : List Call) (w : World) (φ : Nat → Tally) (log : List CallEntry) :
    Prop where
  call : ∀ t, (φ t).call = threadCall calls t
  items : ∀ t, (φ t).items = gotItems t log
  stored : ∀ c s, w.events.getCartSnapshot c = some s → s.Priced
  inRange : ∀ e ∈ log, CallEntry.InRange e

section Runs

variable {env : Env} {runner : Runner} {calls : List Call} {w : World} {φ : Nat → Tally}
  {log : List CallEntry} {t : Nat}

theorem Tallied.start (hw : ∀ c s, w.events.getCartSnapshot c = some s → s.Priced) :
    Tallied calls w (fun t => ⟨threadCall calls t, []⟩) [] where
  call _ := rfl
  items _ := rfl
  stored := hw
  inRange _ h := absurd h List.not_mem_nil

theorem gotItems_append {e : CallEntry} :
    gotItems t (log ++ [e]) = gotItems t log ++ (e.item t).toList := by
  rw [gotItems, List.filterMap_append]
  cases h : e.item t <;> simp [h, gotItems]

/-- The items of all threads, after an operation of one. -/
theorem Tallied.items_did {o : Op} {x : o.Ans} (h : Tallied calls w φ log) (t' : Nat) :
    (Function.update φ t ((tallyMonitor runner).next o (φ t) x) t').items =
      gotItems t' (log ++ [.did t ⟨.inl o, x⟩]) := by
  rw [gotItems_append, ← h.items t']
  by_cases ht : t' = t
  · subst ht
    rw [Function.update_self]
    cases o with
    | getItem itemId =>
        cases x with
        | ok item => simp [CallEntry.item, tallyMonitor]
        | error e => simp [CallEntry.item, tallyMonitor]
    | _ => exact (List.append_nil _).symm
  · rw [Function.update_of_ne ht]
    cases o with
    | getItem itemId =>
        cases x with
        | ok item => simp [CallEntry.item, Ne.symm ht]
        | error e => simp [CallEntry.item]
    | _ => exact (List.append_nil _).symm

/-- What is answered is priced. -/
theorem Tallied.pricedAnswer (h : Tallied calls w φ log) (hprices : env.PricesNonNegative)
    (o : Op) : PricedAnswer ⟨o, (env.handle o w).1⟩ := by
  cases o with
  | getCartSnapshot c =>
      cases hx : (env.handle (.getCartSnapshot c) w).1 with
      | none => exact trivial
      | some s => exact h.stored c s (World.read_some hx)
  | getItem itemId =>
      cases hx : (env.handle (.getItem itemId) w).1 with
      | error e => exact trivial
      | ok item => exact hprices.item _ _ _ hx
  | resolvePrices cart =>
      cases hx : (env.handle (.resolvePrices cart) w).1 with
      | error e => exact trivial
      | ok ps => exact hprices.line _ _ _ hx
  | _ => exact trivial

/-- One operation of the runner. -/
theorem Tallied.did {o : Op} (h : Tallied calls w φ log)
    (ho : (tallyMonitor runner).allow o (φ t)) :
    Tallied calls (env.handle o w).2
      (Function.update φ t ((tallyMonitor runner).next o (φ t) (env.handle o w).1))
      (log ++ [.did t ⟨.inl o, (env.handle o w).1⟩]) where
  call t' := by
    rw [Pool.update_keeps Tally.call tallyMonitor_next_call]
    exact h.call t'
  items := h.items_did
  stored c s hs := by
    by_cases hput : ∃ s', o = .putCartSnapshot s'
    · obtain ⟨s', rfl⟩ := hput
      rw [Env.handle_putCartSnapshot_snapshot] at hs
      split at hs
      · exact Option.some.inj hs ▸ ho
      · exact h.stored c s hs
    · rw [Env.handle_snapshot fun s' he => hput ⟨s', he⟩] at hs
      exact h.stored c s hs
  inRange e he := by
    rcases List.mem_append.mp he with he | he
    · exact h.inRange e he
    · cases List.mem_singleton.mp he
      exact trivial

/-- One operation on `i64`. -/
theorem Tallied.calculated {o : I64Op} (h : Tallied calls w φ log) (ho : o.InRange) :
    Tallied calls w (Function.update φ t (φ t)) (log ++ [.did t ⟨.inr o, o.wrapped⟩]) where
  call t' := by
    rw [Function.update_eq_self]
    exact h.call t'
  items t' := by
    rw [Function.update_eq_self, gotItems_append]
    exact (h.items t').trans (List.append_nil _).symm
  stored := h.stored
  inRange e he := by
    rcases List.mem_append.mp he with he | he
    · exact h.inRange e he
    · cases List.mem_singleton.mp he
      exact ho

theorem Tallied.returned {out : Outcome} (h : Tallied calls w φ log) :
    Tallied calls w φ (log ++ [.returned t out]) where
  call := h.call
  items t' := by
    rw [gotItems_append]
    exact (h.items t').trans (List.append_nil _).symm
  stored := h.stored
  inRange e he := by
    rcases List.mem_append.mp he with he | he
    · exact h.inRange e he
    · cases List.mem_singleton.mp he
      exact trivial

/-- **The run lemma.**  As long as what is answered fits, a run calculates in range. -/
theorem atOnce_tallied {ts : List Nat} (hprices : env.PricesNonNegative)
    (hw : ∀ c s, w.events.getCartSnapshot c = some s → s.Priced)
    (hfits : Pool.StepsMeetAt (StepFits env runner calls) env.handle.withI64.shared ts
      (Pool.start w (calls.map (prog runner)))) :
    ∃ φ, Tallied calls (atOnce env runner calls ts w).world φ
      (atOnce env runner calls ts w).log := by
  have hstart : Pool.AllFollow (tallyMonitor runner).withI64 (fun _ _ _ => True)
      (fun t => ⟨threadCall calls t, []⟩) (Pool.start w (calls.map (prog runner))) := by
    intro t p hp
    have hp : (calls.map (prog runner))[t]? = some p := hp
    rw [List.getElem?_map] at hp
    obtain ⟨call, hcall, rfl⟩ := Option.map_eq_some_iff.mp hp
    have hthread : threadCall calls t = call := by
      rw [threadCall, List.getD_eq_getElem?_getD, hcall]
      rfl
    show (prog runner call).Follows (tallyMonitor runner).withI64 (fun _ _ => True)
      ⟨threadCall calls t, []⟩
    rw [hthread]
    exact prog_follows call
  obtain ⟨φ, h, -⟩ := Pool.run_invariant_at (I := Tallied calls)
    (by
      intro w φ log t o x w' h ho hc hx
      obtain ⟨rfl, rfl⟩ := Handler.shared_eq_some.mp hx
      cases o with
      | inl o =>
          have hallow : (tallyMonitor runner).allow o (φ t) := ho
          refine ⟨⟨h.pricedAnswer hprices o, ?_⟩, h.did hallow, fun out _ => ?_⟩
          · rw [h.call, h.items]
            exact hc
          · rw [List.append_cons]
            exact (h.did hallow).returned
      | inr o =>
          refine ⟨I64Op.wrapped_eq ho, h.calculated ho, fun out _ => ?_⟩
          rw [List.append_cons]
          exact (h.calculated ho).returned)
    ts (Tallied.start hw) hstart hfits
  exact ⟨φ, h⟩

end Runs

/-- **Cart arithmetic stays in range** where the amounts fit.  Whatever calls run at once and
whatever is answered, as long as no price is negative and what follows from each answer fits,
no operation on `i64` overflows. -/
theorem arithmetic_in_range (env : Env) (runner : Runner) (calls : List Call) (ts : List Nat)
    (hprices : env.PricesNonNegative)
    (hfits : Pool.StepsMeetAt (StepFits env runner calls) env.handle.withI64.shared ts
      (Pool.start World.empty (calls.map (prog runner)))) :
    ∀ e ∈ (atOnce env runner calls ts World.empty).log, CallEntry.InRange e := by
  obtain ⟨φ, h⟩ := atOnce_tallied hprices (fun c s hs => by cases hs) hfits
  exact h.inRange

/-- Every price is 100, nothing is charged for tax. -/
theorem agreeable_pricesNonNegative : Env.agreeable.PricesNonNegative where
  item n itemId item h := by
    cases h
    exact Int.natCast_nonneg 100
  line n cart ps h := by
    cases h
    exact fun _ h => absurd h List.not_mem_nil

theorem arithmetic_in_range_sample :
    ¬ ∃ e ∈ (atOnce Env.agreeable Sample.runner Sample.shipped (Sample.inTurn Sample.shipped)
      World.empty).log, ¬ CallEntry.InRange e := by
  have hfits : Pool.StepsMeetAt (StepFits Env.agreeable Sample.runner Sample.shipped)
      Env.agreeable.handle.withI64.shared (Sample.inTurn Sample.shipped)
      (Pool.start World.empty (Sample.shipped.map (prog Sample.runner))) := by
    decide +kernel
  rintro ⟨e, he, hout⟩
  exact hout (arithmetic_in_range _ _ _ _ agreeable_pricesNonNegative hfits e he)

namespace Sample

/-- A catalog in which every item costs `2 ^ 62`. -/
def dear : Env := { Env.agreeable with getItem := fun _ itemId => .ok ⟨itemId, itemId, 2 ^ 62⟩ }

/-- A cart is created and four items are put into it. -/
def fourItems : List Call :=
  [.cart (.createCart { merchantId := "m", currency := "USD", tenantId := some "t" }) none,
    .cart (.addItem { itemId := "sku", quantity := 4 }) (some Orchestrator.Sample.cart.cartId)]

theorem dear_pricesNonNegative : dear.PricesNonNegative where
  item n itemId item h := by
    cases h
    exact Int.natCast_nonneg (2 ^ 62)
  line n cart ps h := by
    cases h
    exact fun _ h => absurd h List.not_mem_nil

end Sample

/-- Four items at `2 ^ 62` come to nothing, and are put into the cart at that. -/
theorem four_items_for_nothing :
    let run := atOnce Sample.dear Orchestrator.Sample.runner Sample.fourItems
      (Orchestrator.Sample.inTurn Sample.fourItems) World.empty
    Sample.dear.PricesNonNegative ∧ (∃ e ∈ run.log, ¬ CallEntry.InRange e) ∧
    ∃ s ∈ run.world.events.getCartSnapshot Orchestrator.Sample.cart.cartId,
      s.lines.map (fun line => (line.quantity, line.unitPriceMinor, line.totalMinor)) =
        [(4, 2 ^ 62, 0)] ∧ s.totalMinor = 0 := by
  refine ⟨Sample.dear_pricesNonNegative, ?_, ?_⟩
  · decide +kernel
  · decide +kernel

end I64

end Orchestrator
