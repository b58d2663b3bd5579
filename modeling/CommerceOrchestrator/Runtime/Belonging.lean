/-
# `CommerceOrchestrator.Runtime.Belonging` — whose cart a checkout pays for

Tenant, merchant and currency stand twice in a checkout: on the stored cart and
in the request.  Only the tenant is compared, and only if the cart records one;
the payment provider and the order get the request's copies.  So a completed
checkout belongs to its cart exactly if the cart records a tenant and the two
copies of the other two agree.
-/
import CommerceOrchestrator.Runtime.Charging
import CommerceOrchestrator.Runtime.Session

namespace Orchestrator

open Effect Prog

/-- What a checkout with the events `tr` pays for is `cart`: the tenant, the merchant
and the currency it uses are the cart's. -/
structure Belongs (request : CheckoutRequest) (cart : CartProjection)
    (tr : List (Event Op.Ans)) : Prop where
  tenant : cart.tenantId = some request.tenantId
  merchant : cart.merchantId = request.merchantId
  ordered : ∀ order x, ⟨.putOrder order, x⟩ ∈ tr → order.currency = cart.currency
  charged : ∀ req x, ⟨.authorize req, x⟩ ∈ tr → req.currency = cart.currency

/-- The cart records a tenant, and the request names its merchant and its currency. -/
structure Names (request : CheckoutRequest) (cart : CartProjection) : Prop where
  owned : cart.tenantId ≠ none
  merchant : cart.merchantId = request.merchantId
  currency : cart.currency = request.currency

variable {request : CheckoutRequest} {cart : CartProjection} {tr : List (Event Op.Ans)}

/-- Settling loads one cart, and the request is admitted to it. -/
theorem SettlePath.loaded (h : SettlePath request tr (.ok cart)) :
    ∃ stored, Admits request stored ∧
      ∀ c s, ⟨.getCartSnapshot c, some s⟩ ∈ tr ↔ c = request.cartId ∧ s = stored := by
  cases h with
  | settled stored repriced g hadm hp _ _ =>
      refine ⟨stored, hadm, fun c s => ?_⟩
      simp [notMem_of_ops hp.reprices (o := .getCartSnapshot c) rfl (some s)]

theorem Admits.belongs_iff (hadm : Admits request cart)
    (hordered : ∃ order x, ⟨.putOrder order, x⟩ ∈ tr)
    (horders : ∀ order x, ⟨.putOrder order, x⟩ ∈ tr → order.currency = request.currency)
    (hcharges : ∀ req x, ⟨.authorize req, x⟩ ∈ tr → req = request) :
    Belongs request cart tr ↔ Names request cart := by
  constructor
  · intro h
    obtain ⟨order, x, hm⟩ := hordered
    have hcur : cart.currency = request.currency :=
      (h.ordered order x hm).symm.trans (horders order x hm)
    have howned : cart.tenantId ≠ none := by
      rw [h.tenant]
      exact Option.some_ne_none _
    exact ⟨howned, h.merchant, hcur⟩
  · intro h
    obtain ⟨owner, howner⟩ := Option.ne_none_iff_exists'.mp h.owned
    exact
      { tenant := by rw [howner, hadm.tenant owner howner]
        merchant := h.merchant
        ordered := fun order x hm => (horders order x hm).trans h.currency.symm
        charged := fun req x hm => (congrArg (·.currency) (hcharges req x hm)).trans h.currency.symm }

/-- **Whose cart.**  A checkout that was not replayed and completes has loaded one cart,
and what it pays for is that cart exactly if the cart records a tenant and the
request names its merchant and currency. -/
theorem executeCheckout_belongs_iff {W : Type} (h : Handler Op.Ans W) (w : W) (runner : Runner)
    (request : CheckoutRequest) (result : TransactionResult) (tr : List (Event Op.Ans))
    (htr : (executeCheckout runner request).run.events h w = tr)
    (hok : ((executeCheckout runner request).run.run h w).1 = .ok result)
    (hcompleted : result.status = .completed)
    (hfresh : ⟨.claim (.ofRequest request), .ok none⟩ ∈ tr) :
    ∃ cart,
      (∀ c s, ⟨.getCartSnapshot c, some s⟩ ∈ tr ↔ c = request.cartId ∧ s = cart) ∧
      (Belongs request cart tr ↔ Names request cart) := by
  have hpath := executeCheckout_trace
    (events_trace (h := h) (executeCheckout runner request).run w)
  rw [htr, hok] at hpath
  cases hpath with
  | replayed _ _ => simp at hfresh
  | owned _ h =>
      cases h with
      | paid settled hs hr hp =>
          obtain ⟨stored, hadm, hloaded⟩ := hs.loaded
          cases hp with
          | rejected errors txn corr _ hc =>
              cases hc
              cases hcompleted
          | declined auth txn corr _ _ hc =>
              cases hc
              cases hcompleted
          | captured auth committed capture _ _ hb =>
              cases hb with
              | booked b receipt msg x =>
                  have hset {o : Op} (ho : o.settles = false) (x : o.Ans) :=
                    notMem_of_ops hs.settles ho x
                  have hres {o : Op} (ho : o.reserves = false) (x : o.Ans) :=
                    notMem_of_ops hr.reserves ho x
                  refine ⟨stored, fun c s => ?_, hadm.belongs_iff ⟨b.record, .ok (), ?_⟩ ?_ ?_⟩
                  · simp [hloaded, Booking.draws, hres (o := .getCartSnapshot c) rfl (some s)]
                  · simp
                  · intro order x hm
                    simp [Booking.draws, hset (o := .putOrder order) rfl x,
                      hres (o := .putOrder order) rfl x] at hm
                    rw [hm.1]
                    rfl
                  · intro req x hm
                    simp [Booking.draws, hset (o := .authorize req) rfl x,
                      hres (o := .authorize req) rfl x] at hm
                    exact hm.1

/-- The sample checkout pays for the sample cart, in its tenant's name. -/
theorem executeCheckout_belongs_iff_sample :
    Belongs (Sample.request "k") Sample.cart
      ((executeCheckout Sample.runner (Sample.request "k")).run.events
        Env.agreeable.handle Sample.world) := by
  obtain ⟨cart, hread, hiff⟩ :=
    executeCheckout_belongs_iff Env.agreeable.handle Sample.world Sample.runner
      (Sample.request "k")
      ⟨"txn_9", .completed, ⟨100, 0, 0, 0, 100⟩, some "auth", some "receipt", ⟨16⟩, none,
        .captured, some "ord_11"⟩
      _ rfl rfl rfl List.mem_cons_self
  obtain ⟨-, rfl⟩ := (hread Sample.cart.cartId Sample.cart).mp
    (List.mem_cons_of_mem _ List.mem_cons_self)
  exact hiff.mpr ⟨by decide, rfl, rfl⟩

namespace Sample

/-- A cart is created for no tenant, in dollars, and one item is put into it. -/
def unowned : List Call :=
  [.cart (.createCart { merchantId := "m", currency := "USD", tenantId := none }) none,
    .cart (.addItem { itemId := "sku", quantity := 1 }) (some Sample.cart.cartId)]

/-- Another tenant pays for it, at another merchant, in another currency. -/
def elsewhere : CheckoutRequest :=
  { Sample.request "k" with tenantId := "stranger", merchantId := "n", currency := "JPY" }

/-- The world in which the cart without a tenant waits. -/
def unownedWorld : World := (session Env.agreeable Sample.runner Sample.unowned World.empty).2

end Sample

/-- A cart that records no tenant is paid for by a stranger, at another merchant and in
another currency. -/
theorem stranger_pays :
    ¬ ∀ (env : Env) (runner : Runner) (w : World) (cart : CartProjection)
        (request : CheckoutRequest) (result : TransactionResult),
      Reachable env runner w → w.events.getCartSnapshot request.cartId = some cart →
      ((executeCheckout runner request).run.run env.handle w).1 = .ok result →
      result.status = .completed →
      ⟨.claim (.ofRequest request), .ok none⟩ ∈
        (executeCheckout runner request).run.events env.handle w →
      Belongs request cart ((executeCheckout runner request).run.events env.handle w) := by
  intro h
  have hcart : ∃ cart, Sample.unownedWorld.events.getCartSnapshot Sample.elsewhere.cartId =
      some cart ∧ cart.tenantId = none := by
    refine ⟨_, rfl, ?_⟩
    decide +kernel
  obtain ⟨cart, hcart, hnone⟩ := hcart
  have hpaid : ∃ result,
      ((executeCheckout Sample.runner Sample.elsewhere).run.run Env.agreeable.handle
        Sample.unownedWorld).1 = .ok result ∧ result.status = .completed := by
    refine ⟨_, rfl, ?_⟩
    decide +kernel
  obtain ⟨result, hok, hcompleted⟩ := hpaid
  have hclaim : (Env.agreeable.handle (.claim (.ofRequest Sample.elsewhere))
      Sample.unownedWorld).1 = .ok none := by
    decide +kernel
  have hbelongs := h Env.agreeable Sample.runner Sample.unownedWorld cart Sample.elsewhere result
    ⟨Sample.unowned, rfl⟩ hcart hok hcompleted (hclaim ▸ List.mem_cons_self)
  rw [hbelongs.tenant] at hnone
  cases hnone

end Orchestrator
