/-
# `CommerceOrchestrator.Runtime.Countries` — what the policy sees of a destination

The policy blocks countries, and the country it looks at is the one the request states.
The cart's own destinations do not come before it.  `executeCheckout_completes_iff` says
what does stand in the way of a completed checkout if every provider and every store is
obliging, and a destination in a blocked country is not among it.
-/
import CommerceOrchestrator.Runtime.Destinations

namespace Orchestrator

open Effect Prog

variable {env : Env} {runner : Runner} {w : World} {request : CheckoutRequest}
  {cart : CartProjection} {tr : List (Event Op.Ans)}

/-! ## The policy -/

namespace PolicyEngine

/-- The policy blocks this country. -/
def Blocks (policy : PolicyEngine) (country : String) : Prop :=
  policy.blockedCountryCodes.any (eqIgnoreAsciiCase · country) = true

instance (policy : PolicyEngine) (country : String) : Decidable (policy.Blocks country) :=
  inferInstanceAs (Decidable (_ = true))

/-- The policy blocks the country of some destination of the cart. -/
def BlocksCart (policy : PolicyEngine) (cart : CartProjection) : Prop :=
  ∃ address ∈ cart.addresses, ∃ country ∈ address.addressCountry, policy.Blocks country

/-- What the policy asks of a request and the total it would be charged. -/
structure Permits (policy : PolicyEngine) (request : CheckoutRequest) (totalMinor : Int) :
    Prop where
  total : ∀ max ∈ policy.maxTotalMinor, totalMinor ≤ max
  country : ∀ country ∈ request.location.bind (·.countryCode), ¬ policy.Blocks country
  reference : policy.requirePaymentReference = true →
    request.paymentIntent.tokenOrReference.isEmpty = false

end PolicyEngine

theorem complainIf_eq_nil_iff {bad : Bool} {message : String} :
    complainIf bad message = [] ↔ bad = false := by
  cases bad <;> simp [complainIf]

theorem checkCheckout_allowed_iff {policy : PolicyEngine} {total : Int} :
    policy.checkCheckout request total = .allowed ↔ policy.Permits request total := by
  have hallowed : policy.checkCheckout request total = .allowed ↔
      policy.checkoutErrors request total = [] := by
    rw [PolicyEngine.checkCheckout]
    cases policy.checkoutErrors request total <;> simp
  rw [hallowed, PolicyEngine.checkoutErrors, List.append_eq_nil_iff, List.append_eq_nil_iff,
    complainIf_eq_nil_iff]
  constructor
  · rintro ⟨⟨htotal, hcountry⟩, href⟩
    refine ⟨fun max hmax => ?_, fun country hc => ?_, fun hreq => ?_⟩
    · obtain hmax : policy.maxTotalMinor = some max := hmax
      rw [hmax] at htotal
      simpa [complainIf_eq_nil_iff] using htotal
    · obtain hc : request.location.bind (·.countryCode) = some country := hc
      rw [hc] at hcountry
      rw [PolicyEngine.Blocks, complainIf_eq_nil_iff.mp hcountry]
      exact Bool.false_ne_true
    · simpa [hreq] using href
  · rintro ⟨htotal, hcountry, href⟩
    refine ⟨⟨?_, ?_⟩, ?_⟩
    · cases hmax : policy.maxTotalMinor with
      | none => rfl
      | some max => simpa [complainIf_eq_nil_iff] using htotal max hmax
    · cases hc : request.location.bind (·.countryCode) with
      | none => rfl
      | some country =>
          exact complainIf_eq_nil_iff.mpr (Bool.eq_false_iff.mpr (hcountry country hc))
    · cases hreq : policy.requirePaymentReference with
      | false => rfl
      | true => simpa using href hreq

/-! ## An obliging world -/

/-- Agreeable, with a tax that makes up the difference to `amount`. -/
def Env.collecting (amount : Int) : Env :=
  { Env.agreeable with
    resolveTax := fun _ cart => .ok ⟨amount - cart.subtotalMinor - cart.fulfillmentMinor⟩ }

theorem reserveLines_run (amount : Int) (cartId : CartId) (lines : List CartLineProjection)
    (w : World) : ∃ w',
      (reserveLines cartId lines).run.run (Env.collecting amount).handle w = (.ok (), w') := by
  induction lines generalizing w with
  | nil => exact ⟨w, rfl⟩
  | cons line lines ih => exact ih _

theorem payAndBook_run {amount : Int} (hallowed :
      runner.policy.checkCheckout request cart.totalMinor = .allowed) (w : World) :
    ∃ result, ((payAndBook runner request cart).run.run (Env.collecting amount).handle w).1 =
      .ok result ∧ result.status = .completed := by
  unfold payAndBook
  rw [hallowed]
  exact ⟨_, rfl, rfl⟩

/-- Re-pricing makes the cart cost what is collected. -/
theorem repriceForCheckout_run (amount : Int) (cart : CartProjection) (w : World) :
    ∃ repriced w', (repriceForCheckout cart).run.run (Env.collecting amount).handle w =
        (.ok repriced, w') ∧ repriced.totalMinor = amount := by
  have hgross (cart : CartProjection) : (cart.withTax
      ⟨amount - cart.subtotalMinor - cart.fulfillmentMinor⟩).grossMinor = amount := by
    show cart.subtotalMinor + (amount - cart.subtotalMinor - cart.fulfillmentMinor) +
      cart.fulfillmentMinor = amount
    omega
  have hnone (owed : Int) : totalDiscountMinor [] owed = 0 := by
    show min 0 (max owed 0) = 0
    omega
  suffices h : ∀ v, ∃ repriced w', (applyDiscounts ((cart.withPrices []).withTax
      ⟨amount - (cart.withPrices []).subtotalMinor - (cart.withPrices []).fulfillmentMinor⟩)).run.run
        (Env.collecting amount).handle v = (.ok repriced, w') ∧ repriced.totalMinor = amount from
    h _
  intro v
  unfold applyDiscounts
  split
  · exact ⟨_, _, rfl, hgross _⟩
  · refine ⟨_, _, rfl, ?_⟩
    show CartProjection.grossMinor _ - totalDiscountMinor [] _ = amount
    rw [hnone, hgross, Int.sub_zero]

theorem settleOrRelease_run (hcart : w.events.getCartSnapshot request.cartId = some cart)
    (hadm : Admits request cart) :
    ∃ settled w', (settleOrRelease request).run.run
        (Env.collecting request.paymentIntent.amountMinor).handle w = (.ok settled, w') ∧
      settled.totalMinor = request.paymentIntent.amountMinor := by
  have howner : ¬ ∃ owner ∈ cart.tenantId, owner ≠ request.tenantId := by
    rintro ⟨owner, howner, hne⟩
    exact hne (hadm.tenant owner howner)
  have hload : (loadCart request.cartId).run.run
      (Env.collecting request.paymentIntent.amountMinor).handle w = (.ok cart, w.tick) := by
    show (okOr (w.events.getCartSnapshot request.cartId) .cartNotFound).run.run _ w.tick = _
    rw [hcart]
    rfl
  obtain ⟨repriced, w₁, hreprice, htotal⟩ :=
    repriceForCheckout_run request.paymentIntent.amountMinor cart w.tick
  have hsettle : ∃ w', (settleCartForCheckout request).run.run
      (Env.collecting request.paymentIntent.amountMinor).handle w =
        (.ok { repriced with geoOk := true }, w') := by
    unfold settleCartForCheckout
    rw [run_bind_ok hload, failIf, if_neg howner, pure_bind, failIf, if_neg (by simp [hadm.version]),
      pure_bind, run_bind_ok hreprice]
    refine ⟨(w₁.tick.attempt none fun w => ((), { w with
      events := w.events.putCartSnapshot { repriced with geoOk := true } })).2, ?_⟩
    show ((failIf (¬ true = true) .geoBlocked >>= fun _ => failIf _ _ >>= _).run.run _ _) = _
    rw [failIf, if_neg (by simp), pure_bind, failIf, if_neg (by simp [htotal]), pure_bind]
    rfl
  obtain ⟨w', hsettle⟩ := hsettle
  refine ⟨{ repriced with geoOk := true }, w', ?_, htotal⟩
  rw [settleOrRelease, ExceptT.run_tryCatch, run_bind, hsettle]
  rfl

/-- The call has what it needs from the store and the request: the key has completed, or it
is free, the cart admits the request and the policy permits it. -/
structure Passes (runner : Runner) (w : World) (request : CheckoutRequest)
    (cart : CartProjection) : Prop where
  valid : validateCheckoutRequest request = []
  key :
    (∃ result, w.idempotency.lookup (.ofRequest request) = some (.completed result) ∧
      result.status = .completed) ∨
    (w.idempotency.lookup (.ofRequest request) = none ∧ Admits request cart ∧
      runner.policy.Permits request request.paymentIntent.amountMinor)

theorem checkOut_run (hcart : w.events.getCartSnapshot request.cartId = some cart)
    (hadm : Admits request cart)
    (hallowed : runner.policy.Permits request request.paymentIntent.amountMinor) :
    ∃ result, ((checkOut runner request).run.run
        (Env.collecting request.paymentIntent.amountMinor).handle w).1 = .ok result ∧
      result.status = .completed := by
  obtain ⟨settled, w₁, hsettle, htotal⟩ := settleOrRelease_run hcart hadm
  obtain ⟨w₂, hreserve⟩ := reserveLines_run request.paymentIntent.amountMinor request.cartId
    settled.lines w₁
  rw [checkOut, run_bind_ok hsettle, run_bind_ok hreserve]
  rw [← htotal] at hallowed
  exact payAndBook_run (checkCheckout_allowed_iff.mpr hallowed) w₂

theorem executeCheckout_completes (hcart : w.events.getCartSnapshot request.cartId = some cart)
    (hpasses : Passes runner w request cart) :
    ∃ result, ((executeCheckout runner request).run.run
        (Env.collecting request.paymentIntent.amountMinor).handle w).1 = .ok result ∧
      result.status = .completed := by
  obtain ⟨hvalid, hkey⟩ := hpasses
  have hclaim : (tryWith .store (ask (.claim (.ofRequest request)))).run.run
      (Env.collecting request.paymentIntent.amountMinor).handle w =
      (.ok (w.idempotency.lookup (.ofRequest request)),
        ((Env.collecting request.paymentIntent.amountMinor).handle
          (.claim (.ofRequest request)) w).2) := by
    rw [← InMemoryIdempotencyStore.claim_fst]
    rfl
  rw [executeCheckout, failIf, if_neg (not_not.mpr hvalid), pure_bind, run_bind_ok hclaim]
  rcases hkey with ⟨result, hresult, hcompleted⟩ | ⟨hnone, hadm, hallowed⟩
  · rw [hresult]
    exact ⟨result, rfl, hcompleted⟩
  · rw [hnone]
    refine checkOut_run ?_ hadm hallowed
    rw [Env.handle_events rfl]
    exact hcart

/-- A completed checkout has passed. -/
theorem passes_of_completed {result : TransactionResult}
    (hcart : w.events.getCartSnapshot request.cartId = some cart)
    (hok : ((executeCheckout runner request).run.run env.handle w).1 = .ok result)
    (hcompleted : result.status = .completed) : Passes runner w request cart := by
  have hpath := executeCheckout_trace
    (events_trace (h := env.handle) (executeCheckout runner request).run w)
  have hreplays := events_replays (h := env.handle) (executeCheckout runner request).run w
  rw [hok] at hpath
  generalize (executeCheckout runner request).run.events env.handle w = tr at hpath hreplays
  cases hpath with
  | replayed _ hvalid =>
      obtain ⟨hclaim, -⟩ := hreplays
      exact ⟨hvalid, Or.inl ⟨result, Env.handle_claim_ok hclaim, hcompleted⟩⟩
  | owned hvalid ho =>
      cases ho with
      | @paid settled tr₁ tr₂ tr₃ _ hs hr hp =>
          obtain ⟨hclaim, hreplays⟩ := hreplays
          have hnone := Env.handle_claim_ok hclaim
          cases hs with
          | @settled stored repriced pricing g hadm hprice hgeo hamount =>
              obtain ⟨hread, -⟩ := hreplays
              have hstored := World.read_some hread
              rw [Env.handle_events rfl, hcart] at hstored
              obtain rfl := Option.some.inj hstored
              refine ⟨hvalid, Or.inr ⟨hnone, hadm, checkCheckout_allowed_iff.mp ?_⟩⟩
              rw [hamount]
              cases hp with
              | rejected errors txn corr _ hc =>
                  cases hc
                  cases hcompleted
              | declined auth txn corr hpolicy _ hc => exact hpolicy
              | captured auth committed capture hpolicy _ hb => exact hpolicy

/-- **What stands in the way.**  Some answers of the providers and the stores complete a
checkout of a stored cart exactly if the call passes. -/
theorem executeCheckout_completes_iff
    (hcart : w.events.getCartSnapshot request.cartId = some cart) :
    (∃ env result, ((executeCheckout runner request).run.run (Env.handle env) w).1 = .ok result ∧
        result.status = .completed) ↔ Passes runner w request cart := by
  constructor
  · rintro ⟨env, result, hok, hcompleted⟩
    exact passes_of_completed hcart hok hcompleted
  · intro hpasses
    obtain ⟨result, hok, hcompleted⟩ := executeCheckout_completes hcart hpasses
    exact ⟨_, result, hok, hcompleted⟩

end Orchestrator
