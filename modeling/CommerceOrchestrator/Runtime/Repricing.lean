/-
# `CommerceOrchestrator.Runtime.Repricing` — the total shown and the total charged

Commands re-price a cart as they go, checkout once more before it charges.  With
providers that are fixed functions of the cart the two agree on every snapshot
that its own providers would leave as it is (`Steady`).  A full recalculation
always leads to one: prices are a function of what the lines order, and applying
them twice is applying them once.  A selection does not ask the tax provider, so
it leads to one as long as the tax on the new selection is the tax on the old.
-/
import CommerceOrchestrator.Runtime.Fulfillment

namespace Orchestrator

open Effect Prog

/-! ## Fixed providers -/

/-- Providers that are functions of the cart: prices of each line's item and quantity,
tax of lines, subtotal and fulfillment, discounts of codes and gross amounts. -/
structure Providers where
  price : (itemId : String) → (quantity : Nat) → Except PricingError (Int × Int)
  tax : (lines : List CartLineProjection) → (subtotalMinor : Int) → Option FulfillmentState →
    (fulfillmentMinor : Int) → Except TaxError TaxResult
  discounts : (codes : List String) → (subtotalMinor taxMinor fulfillmentMinor : Int) →
    Except PricingError (List AppliedDiscount)

namespace Providers

variable (providers : Providers)

/-- The prices of what lines order, unit price and total for each. -/
def pricesOf (ordered : List (String × String × Nat)) : Except PricingError (List LinePrice) :=
  ordered.mapM fun (lineId, itemId, quantity) =>
    (providers.price itemId quantity).map fun price => ⟨lineId, price.1, price.2⟩

def prices (cart : CartProjection) : Except PricingError (List LinePrice) :=
  providers.pricesOf (cart.lines.map (·.ordered))

def taxOf (cart : CartProjection) : Except TaxError TaxResult :=
  providers.tax cart.lines cart.subtotalMinor cart.fulfillment cart.fulfillmentMinor

def discountsOf (cart : CartProjection) (codes : List String) :
    Except PricingError (List AppliedDiscount) :=
  providers.discounts codes cart.subtotalMinor cart.taxMinor cart.fulfillmentMinor

/-- What pricing, tax and discounts answer; everything else is open. -/
def Answers : Answers := fun e =>
  match e with
  | ⟨.resolvePrices cart, x⟩ => x = providers.prices cart
  | ⟨.resolveTax cart, x⟩ => x = providers.taxOf cart
  | ⟨.resolveDiscounts cart codes, x⟩ => x = providers.discountsOf cart codes
  | _ => True

end Providers

/-- The environment's pricing, tax and discounts are those of fixed providers. -/
structure Env.Fixed (env : Env) (providers : Providers) : Prop where
  prices : ∀ n cart, env.resolvePrices n cart = providers.prices cart
  tax : ∀ n cart, env.resolveTax n cart = providers.taxOf cart
  discounts : ∀ n cart codes, env.resolveDiscounts n cart codes = providers.discountsOf cart codes

theorem Env.Fixed.answers {env : Env} {providers : Providers} (h : env.Fixed providers) (o : Op)
    (w : World) : providers.Answers ⟨o, (env.handle o w).1⟩ := by
  cases o with
  | resolvePrices cart => exact h.prices _ cart
  | resolveTax cart => exact h.tax _ cart
  | resolveDiscounts cart codes => exact h.discounts _ cart codes
  | _ => trivial

/-! ## Prices applied twice -/

section ApplyPrices

variable {p q : LinePrice}

theorem updateLine_absorb (h : q.lineId = p.lineId) (lines : List CartLineProjection) :
    updateLine p.lineId (·.withPrice p) (updateLine q.lineId (·.withPrice q) lines) =
      updateLine p.lineId (·.withPrice p) lines := by
  induction lines with
  | nil => rfl
  | cons line lines ih =>
      rw [h] at ih ⊢
      by_cases hline : line.lineId = p.lineId
      · simp [updateLine, hline, CartLineProjection.withPrice]
      · simp [updateLine, hline, ih]

theorem updateLine_comm (h : q.lineId ≠ p.lineId) (lines : List CartLineProjection) :
    updateLine p.lineId (·.withPrice p) (updateLine q.lineId (·.withPrice q) lines) =
      updateLine q.lineId (·.withPrice q) (updateLine p.lineId (·.withPrice p) lines) := by
  induction lines with
  | nil => rfl
  | cons line lines ih =>
      by_cases hp : line.lineId = p.lineId
      · have hq : ¬ line.lineId = q.lineId := fun hq => h (hq.symm.trans hp)
        have hne : ¬ p.lineId = q.lineId := fun he => h he.symm
        simp [updateLine, hp, hne, CartLineProjection.withPrice]
      · by_cases hq : line.lineId = q.lineId
        · simp [updateLine, hq, h, CartLineProjection.withPrice]
        · simp [updateLine, hp, hq, ih]

/-- A price that the list names again is overwritten by it. -/
theorem applyPrices_updateLine {ps : List LinePrice} (h : q.lineId ∈ ps.map (·.lineId))
    (lines : List CartLineProjection) :
    applyPrices (updateLine q.lineId (·.withPrice q) lines) ps = applyPrices lines ps := by
  induction ps generalizing lines with
  | nil => exact absurd h List.not_mem_nil
  | cons p ps ih =>
      show applyPrices (updateLine p.lineId _ (updateLine q.lineId _ lines)) ps =
        applyPrices (updateLine p.lineId _ lines) ps
      by_cases hpq : q.lineId = p.lineId
      · rw [updateLine_absorb hpq]
      · rw [updateLine_comm hpq]
        refine ih ?_ _
        rcases List.mem_cons.mp h with he | hm
        · exact absurd he hpq
        · exact hm

theorem applyPrices_absorb {qs ps : List LinePrice}
    (h : ∀ q ∈ qs, q.lineId ∈ ps.map (·.lineId)) (lines : List CartLineProjection) :
    applyPrices (applyPrices lines qs) ps = applyPrices lines ps := by
  induction qs generalizing lines with
  | nil => rfl
  | cons q qs ih =>
      obtain ⟨hq, hqs⟩ := List.forall_mem_cons.mp h
      show applyPrices (applyPrices (updateLine q.lineId _ lines) qs) ps = _
      rw [ih hqs, applyPrices_updateLine hq]

theorem applyPrices_twice (lines : List CartLineProjection) (ps : List LinePrice) :
    applyPrices (applyPrices lines ps) ps = applyPrices lines ps :=
  applyPrices_absorb (fun _ hq => List.mem_map_of_mem hq) lines

end ApplyPrices

/-! ## Snapshots that re-pricing leaves as they are -/

/-- The providers would price, tax and discount the cart exactly as it stands. -/
structure Steady (providers : Providers) (s : CartProjection) : Prop where
  prices : ∃ ps, providers.prices s = .ok ps ∧ s.withPrices ps = s
  tax : providers.taxOf s = .ok ⟨s.taxMinor⟩
  discounts : (s.adjustmentCodes = [] ∧ s.withoutDiscounts = s) ∨
    (s.adjustmentCodes ≠ [] ∧
      ∃ ds, providers.discountsOf s s.adjustmentCodes = .ok ds ∧ s.withDiscounts ds = s)

/-- The condition on an edit: the tax on the cart with the new selection is the tax
it carries from before. -/
def KeepsTax (providers : Providers) : Call → CartProjection → CartProjection → Prop
  | .cart (.setFulfillmentSelection _) _, read, put =>
      providers.tax read.lines read.subtotalMinor put.fulfillment put.fulfillmentMinor =
        .ok ⟨read.taxMinor⟩
  | _, _, _ => True

instance {providers : Providers} {call : Call} {read put : CartProjection} :
    Decidable (KeepsTax providers call read put) := by
  rcases call with ⟨command, _⟩ | _
  · cases command <;> dsimp only [KeepsTax] <;> infer_instance
  · exact instDecidableTrue

section Edits

variable {providers : Providers} {runner : Runner} {cart cart' : CartProjection}

/-- Whether prices are applied shows in the lines and the subtotal. -/
theorem withPrices_of_eq {ps : List LinePrice} (h : cart.withPrices ps = cart)
    (hlines : cart'.lines = cart.lines) (hsub : cart'.subtotalMinor = cart.subtotalMinor) :
    cart'.withPrices ps = cart' := by
  have happlied : applyPrices cart'.lines ps = cart'.lines := by
    rw [hlines]
    exact congrArg (·.lines) h
  have htotal : (cart'.lines.map (·.totalMinor)).sum = cart'.subtotalMinor := by
    rw [← happlied, hlines, hsub]
    exact congrArg (·.subtotalMinor) h
  rw [CartProjection.withPrices, happlied, htotal]

/-- No provider looks at the version, the status or the geo verdict. -/
theorem Steady.retag (h : Steady providers cart) (version : Nat) (status : CartStatus)
    (geoOk : Bool) : Steady providers { cart with version, status, geoOk } := by
  have hretag {s : CartProjection} (hs : s = cart) :
      ({ s with version, status, geoOk } : CartProjection) =
        { cart with version, status, geoOk } := by
    rw [hs]
  constructor
  · obtain ⟨ps, hps, hs⟩ := h.prices
    exact ⟨ps, hps, withPrices_of_eq hs rfl rfl⟩
  · exact h.tax
  · rcases h.discounts with ⟨hcodes, hs⟩ | ⟨hcodes, ds, hds, hs⟩
    · exact Or.inl ⟨hcodes, hretag hs⟩
    · exact Or.inr ⟨hcodes, ds, hds, hretag hs⟩

/-- Discounts depend on the codes and the gross amounts alone, so a cart just
discounted is steady if its prices and its tax are. -/
theorem Discounted.steady (h : Discounted providers.Answers cart cart')
    (hprices : ∃ ps, providers.prices cart = .ok ps ∧ cart.withPrices ps = cart)
    (htax : providers.taxOf cart = .ok ⟨cart.taxMinor⟩) : Steady providers cart' := by
  obtain ⟨ps, hps, hs⟩ := hprices
  cases h with
  | none hcodes =>
      exact ⟨⟨ps, hps, withPrices_of_eq hs rfl rfl⟩, htax, Or.inl ⟨hcodes, rfl⟩⟩
  | granted ds hcodes hds =>
      exact ⟨⟨ps, hps, withPrices_of_eq hs rfl rfl⟩, htax,
        Or.inr ⟨hcodes, ds, Eq.symm hds, rfl⟩⟩

/-- Prices that were just applied are applied. -/
theorem withPrices_steady {ps : List LinePrice} (h : providers.prices cart = .ok ps) :
    providers.prices (cart.withPrices ps) = .ok ps ∧
      (cart.withPrices ps).withPrices ps = cart.withPrices ps := by
  constructor
  · rw [← h]
    exact congrArg providers.pricesOf (applyPrices_map_ordered cart.lines ps)
  · unfold CartProjection.withPrices
    simp only [applyPrices_twice]

theorem Recalculated.steady (h : Recalculated providers.Answers cart cart') :
    Steady providers cart' := by
  obtain ⟨ps, tax, discounted, geo, hps, htax, hd, -⟩ := h
  have hprices := withPrices_steady (Eq.symm hps : providers.prices cart = .ok ps)
  have hsteady : Steady providers discounted :=
    hd.steady ⟨ps, hprices.1, withPrices_of_eq hprices.2 rfl rfl⟩ (Eq.symm htax)
  exact hsteady.retag discounted.version discounted.status geo.allowed

theorem Edited.steady {call : Call} (h : Edited providers.Answers runner call cart cart')
    (hcart : Steady providers cart) (hkeeps : KeepsTax providers call cart cart') :
    Steady providers cart' := by
  cases h with
  | added payload cartId item id _ _ hr | requantified payload cartId _ hr
  | removed payload cartId hr | adjusted payload cartId hr | repriced request _ hr =>
      exact hr.steady
  | readied payload cartId _ | cancelled payload cartId => exact hcart.retag _ _ cart.geoOk
  | selected payload cartId lineItemIds options group method geo _ _ hd _ =>
      obtain ⟨ps, hps, hs⟩ := hcart.prices
      have htax : providers.taxOf (cart.setMethod (payload.method lineItemIds options group method)
          (payload.amountMinor options)) = .ok ⟨cart.taxMinor⟩ := by
        cases hd <;> exact hkeeps
      exact (hd.steady ⟨ps, hps, withPrices_of_eq hs rfl rfl⟩ htax).retag _ _ geo.allowed

/-- A new cart is steady if the tax on nothing is nothing. -/
theorem CreateCartPayload.cart_steady (payload : CreateCartPayload) (id : CartId)
    (hempty : providers.tax [] 0 none 0 = .ok ⟨0⟩) : Steady providers (payload.cart id) where
  prices := ⟨[], rfl, rfl⟩
  tax := hempty
  discounts := Or.inl ⟨rfl, rfl⟩

theorem Puts.steady {call : Call} {read : Option CartProjection} {s : CartProjection}
    (h : Puts providers.Answers runner call read s) (hempty : providers.tax [] 0 none 0 = .ok ⟨0⟩)
    (hread : ∀ r, read = some r → Steady providers r ∧ KeepsTax providers call r s) :
    Steady providers s := by
  cases h with
  | created payload cartId id _ => exact payload.cart_steady _ hempty
  | edited he => exact he.steady (hread _ rfl).1 (hread _ rfl).2

end Edits

/-! ## Checkout of a steady cart -/

section Checkout

variable {env : Env} {runner : Runner} {providers : Providers} {request : CheckoutRequest}
  {s : CartProjection} {tr : List (Event Op.Ans)} {w w' : World}

/-- Re-pricing a steady cart gives it back. -/
theorem RepricePath.steady {r : Except RunnerError CartProjection} (h : RepricePath s tr r)
    (hfixed : env.Fixed providers) (hr : Replays env.handle w tr w') (hs : Steady providers s) :
    r = .ok s := by
  obtain ⟨ps, hps, hsame⟩ := hs.prices
  cases h with
  | unpriced e =>
      have hans : env.resolvePrices w.clock s = .error e := hr.1
      rw [hfixed.prices, hps] at hans
      cases hans
  | untaxed ps' e =>
      have hans : env.resolvePrices w.clock s = .ok ps' := hr.1
      rw [hfixed.prices, hps] at hans
      obtain rfl := Except.ok.inj hans
      have hans : env.resolveTax (w.clock + 1) (s.withPrices ps) = .error e := hr.2.1
      rw [hfixed.tax, hsame, hs.tax] at hans
      cases hans
  | discounted ps' tax hd =>
      have hans : env.resolvePrices w.clock s = .ok ps' := hr.1
      rw [hfixed.prices, hps] at hans
      obtain rfl := Except.ok.inj hans
      have hans : env.resolveTax (w.clock + 1) (s.withPrices ps) = .ok tax := hr.2.1
      rw [hfixed.tax, hsame, hs.tax] at hans
      obtain rfl := Except.ok.inj hans
      have htaxed : (s.withPrices ps).withTax ⟨s.taxMinor⟩ = s := by
        rw [hsame]
        rfl
      rw [htaxed] at hd
      cases hd with
      | none hcodes =>
          rcases hs.discounts with ⟨-, hsame⟩ | ⟨hne, -⟩
          · exact congrArg Except.ok hsame
          · exact absurd hcodes hne
      | failed e hcodes =>
          rcases hs.discounts with ⟨hnone, -⟩ | ⟨-, ds, hds, -⟩
          · exact absurd hnone hcodes
          · have hans : env.resolveDiscounts (w.clock + 1 + 1) s s.adjustmentCodes = .error e :=
              hr.2.2.1
            rw [hfixed.discounts, hds] at hans
            cases hans
      | applied ds' hcodes =>
          rcases hs.discounts with ⟨hnone, -⟩ | ⟨-, ds, hds, hsame⟩
          · exact absurd hnone hcodes
          · have hans : env.resolveDiscounts (w.clock + 1 + 1) s s.adjustmentCodes = .ok ds' :=
              hr.2.2.1
            rw [hfixed.discounts, hds] at hans
            obtain rfl := Except.ok.inj hans
            exact congrArg Except.ok hsame

theorem repriceForCheckout_steady (hfixed : env.Fixed providers) (hs : Steady providers s)
    (v : World) : ((repriceForCheckout s).run.run env.handle v).1 = .ok s :=
  (repriceForCheckout_trace (events_trace _ v)).steady hfixed (events_replays _ v) hs

/-- Settling a steady cart against the total it shows does not fail on the amount. -/
theorem settleCartForCheckout_steady {e : RunnerError}
    (ht : (settleCartForCheckout request).run.Trace tr (.error e)) (hfixed : env.Fixed providers)
    (hr : Replays env.handle w tr w')
    (hstored : w.events.getCartSnapshot request.cartId = some s) (hs : Steady providers s)
    (hamount : request.paymentIntent.amountMinor = s.totalMinor) (expected provided : Int) :
    e ≠ .amountMismatch expected provided := by
  rintro rfl
  unfold settleCartForCheckout at ht
  rw [trace_bind_except] at ht
  rcases ht with ⟨e, hl, he⟩ | ⟨cart, t₁, t₂, rfl, hl, ht⟩
  · rcases loadCart_trace hl with ⟨-, hr⟩ | ⟨cart, -, hr⟩
    · cases hr
      cases he
    · cases hr
  rcases loadCart_trace hl with ⟨-, hnone⟩ | ⟨cart, rfl, hload⟩
  · cases hnone
  cases hload
  rw [List.singleton_append] at hr
  have hread : w.events.getCartSnapshot request.cartId = some cart := World.read_some hr.1
  obtain rfl : cart = s := Option.some.inj (hread.symm.trans hstored)
  rw [trace_failIf_bind] at ht
  rcases ht with ⟨-, -, he⟩ | ⟨-, ht⟩
  · cases he
  rw [trace_failIf_bind] at ht
  rcases ht with ⟨-, -, he⟩ | ⟨-, ht⟩
  · cases he
  rw [trace_bind_except] at ht
  rcases ht with ⟨e, hp, he⟩ | ⟨repriced, t₁, t₂, rfl, hp, ht⟩
  · have hsame := (repriceForCheckout_trace hp).steady hfixed hr.2 hs
    cases hsame
  obtain ⟨v, hr₁, hr₂⟩ := replays_append.mp hr.2
  have hsame := (repriceForCheckout_trace hp).steady hfixed hr₁ hs
  obtain rfl := Except.ok.inj hsame
  rw [trace_bind_except] at ht
  rcases ht with ⟨e, hg, he⟩ | ⟨geoOk, t₂, t₃, rfl, -, ht⟩
  · rcases checkGeo_trace hg with ⟨e, -, hr⟩ | ⟨g, -, hr⟩
    · cases hr
      cases he
    · cases hr
  rw [trace_tryWith_bind] at ht
  rcases ht with ⟨e, -, he⟩ | ⟨u, t₃, t₄, rfl, -, ht⟩
  · cases he
  rw [trace_failIf_bind] at ht
  rcases ht with ⟨-, -, he⟩ | ⟨-, ht⟩
  · cases he
  rw [trace_failIf_bind] at ht
  rcases ht with ⟨hne, -, -⟩ | ⟨-, ht⟩
  · exact hne hamount
  · cases ht.2

/-- No step after settling fails on the amount. -/
theorem ReservePath.not_mismatch {cartId : CartId} {lines : List CartLineProjection}
    {r : Except RunnerError Unit} (h : ReservePath cartId lines tr r) (expected provided : Int) :
    r ≠ .error (.amountMismatch expected provided) := by
  induction h with
  | done => simp
  | failed line lines e => simp
  | next line _ ih => exact ih

theorem PayPath.not_mismatch {cart : CartProjection}
    {r : Except RunnerError TransactionResult} (h : PayPath runner request cart tr r)
    (expected provided : Int) : r ≠ .error (.amountMismatch expected provided) := by
  rintro rfl
  cases h with
  | rejected errors txn corr _ hc => cases hc
  | declined auth txn corr _ _ hc => cases hc
  | captured auth committed capture _ _ hb => cases hb

/-- **A checkout that pays the total its steady cart shows is not refused for the
amount.** -/
theorem executeCheckout_steady (hfixed : env.Fixed providers) (hs : Steady providers s)
    (hstored : w.events.getCartSnapshot request.cartId = some s)
    (hamount : request.paymentIntent.amountMinor = s.totalMinor) (expected provided : Int) :
    ((executeCheckout runner request).run.run env.handle w).1 ≠
      .error (.amountMismatch expected provided) := by
  intro hmismatch
  have ht := events_trace (h := env.handle) (executeCheckout runner request).run w
  have hr := events_replays (h := env.handle) (executeCheckout runner request).run w
  rw [hmismatch] at ht
  generalize (executeCheckout runner request).run.events env.handle w = tr at ht hr
  unfold executeCheckout at ht
  rw [trace_failIf_bind] at ht
  rcases ht with ⟨-, -, he⟩ | ⟨-, ht⟩
  · cases he
  rw [trace_tryWith_bind] at ht
  rcases ht with ⟨e, -, he⟩ | ⟨state, t₁, t₂, rfl, hclaim, ht⟩
  · cases he
  obtain rfl := trace_ask.mp hclaim
  match state, ht with
  | some .inFlight, ht => cases ht.2
  | some (.completed result), ht => cases ht.2
  | none, ht =>
      have hstored' : (env.handle (.claim (.ofRequest request)) w).2.events.getCartSnapshot
          request.cartId = some s := by
        rw [Env.handle_snapshot (by simp)]
        exact hstored
      have hr : Replays env.handle (env.handle (.claim (.ofRequest request)) w).2 t₂ _ := hr.2
      unfold checkOut at ht
      rw [trace_bind_except] at ht
      rcases ht with ⟨e, hsettle, he⟩ | ⟨cart, t₃, t₄, rfl, -, ht⟩
      · obtain rfl := Except.error.inj he
        unfold settleOrRelease at hsettle
        rw [trace_tryCatch] at hsettle
        rcases hsettle with ⟨cart, -, he⟩ | ⟨e, t₃, t₄, rfl, hsettle, hrelease⟩
        · cases he
        · obtain ⟨v, hsettled, -⟩ := replays_append.mp hr
          rw [trace_tryWith_bind] at hrelease
          rcases hrelease with ⟨e', -, he⟩ | ⟨u, t₅, t₆, rfl, -, hrelease⟩
          · cases he
          · obtain ⟨-, he⟩ := hrelease
            obtain rfl := Except.error.inj he
            exact settleCartForCheckout_steady hsettle hfixed hsettled hstored' hs hamount _ _ rfl
      · rw [trace_bind_except] at ht
        rcases ht with ⟨e, hres, he⟩ | ⟨u, t₅, t₆, rfl, -, ht⟩
        · obtain rfl := Except.error.inj he
          exact (reserveLines_trace hres).not_mismatch _ _ rfl
        · exact (payAndBook_trace ht).not_mismatch _ _ rfl

end Checkout

/-- **The total shown is the total charged.**  With fixed providers, however calls
interleave: as long as an empty cart is not taxed and every selection leaves the tax
what it was, re-pricing gives back every snapshot stored or returned, and a checkout
that pays the total of the stored one is not refused for the amount. -/
theorem shown_total_is_charged (providers : Providers) (env : Env) (runner : Runner)
    (calls : List Call) (ts : List Nat) (hfixed : env.Fixed providers)
    (hempty : providers.tax [] 0 none 0 = .ok ⟨0⟩)
    (hkeeps : EditsMeet calls (KeepsTax providers) (atOnce env runner calls ts World.empty).log) :
    let run := atOnce env runner calls ts World.empty
    (∀ c s, run.world.events.getCartSnapshot c = some s →
      (∀ v, ((repriceForCheckout s).run.run env.handle v).1 = .ok s) ∧
      ∀ request : CheckoutRequest, request.cartId = c →
        request.paymentIntent.amountMinor = s.totalMinor → ∀ expected provided,
        ((executeCheckout runner request).run.run env.handle run.world).1 ≠
          .error (.amountMismatch expected provided)) ∧
    ∀ t command cartId s, .returned t (.cart command cartId (.ok s)) ∈ run.log →
      ∀ v, ((repriceForCheckout s).run.run env.handle v).1 = .ok s := by
  intro run
  have hnone : ∀ c s, World.empty.events.getCartSnapshot c = some s → Steady providers s := by
    intro c s hs
    cases hs
  have hrun : ∃ φ, Everywhere calls (Steady providers) run.world φ run.log :=
    atOnce_everywhere hfixed.answers (fun call read s hread hp => hp.steady hempty hread) hnone
      hkeeps
  obtain ⟨φ, h⟩ := hrun
  constructor
  · intro c s hs
    have hsteady := h.stored c s hs
    refine ⟨repriceForCheckout_steady hfixed hsteady, ?_⟩
    rintro request rfl hamount expected provided
    exact executeCheckout_steady hfixed hsteady hs hamount expected provided
  · intro t command cartId s hm
    exact repriceForCheckout_steady hfixed (h.returned t command cartId s hm)

/-! ## Tax on shipping -/

/-- An environment with these providers in which everything else agrees. -/
def Providers.env (providers : Providers) : Env :=
  { Env.agreeable with
    resolvePrices := fun _ cart => providers.prices cart
    resolveTax := fun _ cart => providers.taxOf cart
    resolveDiscounts := fun _ cart codes => providers.discountsOf cart codes }

theorem Providers.env_fixed (providers : Providers) : providers.env.Fixed providers :=
  ⟨fun _ _ => rfl, fun _ _ => rfl, fun _ _ _ => rfl⟩

namespace Sample

/-- Everything costs 100 apiece, and a tenth of goods and shipping is due as tax. -/
def providers : Providers where
  price _ quantity := .ok (100, 100 * quantity)
  tax _ subtotalMinor _ fulfillmentMinor := .ok ⟨(subtotalMinor + fulfillmentMinor) / 10⟩
  discounts _ _ _ _ := .ok []

/-- Picking up, which costs nothing. -/
def pickUp : Call :=
  .cart (.setFulfillmentSelection ⟨.pickup, [], .retail "store" "Store" none, some "in_store"⟩)
    (some cart.cartId)

def pickedUp : List Call := shopping ++ [pickUp]

end Sample

theorem shown_total_is_charged_sample :
    ∃ s, (atOnce Sample.providers.env Sample.runner Sample.pickedUp (Sample.inTurn Sample.pickedUp)
        World.empty).world.events.getCartSnapshot Sample.cart.cartId = some s ∧
      ∀ v, ((repriceForCheckout s).run.run Sample.providers.env.handle v).1 = .ok s := by
  have hkeeps : EditsMeet Sample.pickedUp (KeepsTax Sample.providers) (atOnce Sample.providers.env
      Sample.runner Sample.pickedUp (Sample.inTurn Sample.pickedUp) World.empty).log := by
    decide +kernel
  have hstored : ((atOnce Sample.providers.env Sample.runner Sample.pickedUp
      (Sample.inTurn Sample.pickedUp) World.empty).world.events.getCartSnapshot
        Sample.cart.cartId).isSome := by
    decide +kernel
  obtain ⟨s, hs⟩ := Option.isSome_iff_exists.mp hstored
  refine ⟨s, hs, ?_⟩
  exact ((shown_total_is_charged _ _ _ _ _ (Providers.env_fixed _) rfl hkeeps).1 _ s hs).1

/-- Shipping is taxed only at checkout, which then refuses the total last shown. -/
theorem shipping_taxed_late :
    let calls := Sample.shopping ++ [Sample.ship]
    let run := atOnce Sample.providers.env Sample.runner calls (Sample.inTurn calls) World.empty
    ∃ s ∈ run.world.events.getCartSnapshot Sample.cart.cartId, s.totalMinor = 610 ∧
      ((executeCheckout Sample.runner { Sample.request "k" with
          cartVersion := s.version
          paymentIntent := { amountMinor := s.totalMinor, tokenOrReference := "tok" } }).run.run
        Sample.providers.env.handle run.world).1 = .error (.amountMismatch 660 610) := by
  decide +kernel

end Orchestrator
