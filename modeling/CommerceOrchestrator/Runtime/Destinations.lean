/-
# `CommerceOrchestrator.Runtime.Destinations` — where a checkout may deliver

A cart may have several fulfillment methods, each with its destination, and the geo
provider is asked about one location: the first that a method carries.  A checkout that
returns a result has asked about that one and no other, so every destination is allowed,
whatever the provider's rule, exactly if all of them are there.
-/
import CommerceOrchestrator.Runtime.Belonging

namespace Orchestrator

open Effect Prog

variable {env : Env} {runner : Runner} {w : World} {request : CheckoutRequest}
  {cart : CartProjection} {tr : List (Event Op.Ans)}

/-! ## Locations of a cart -/

/-- The addresses of the methods' destinations, in order. -/
def CartProjection.addresses (cart : CartProjection) : List PostalAddress :=
  ((cart.fulfillment.map (·.methods)).getD []).filterMap fun method =>
    method.destination.bind (·.address)

/-- The locations among them: the addresses that carry a country, region or postal code. -/
def CartProjection.locations (cart : CartProjection) : List LocationHint :=
  cart.addresses.filterMap (·.locationHint)

/-- The location that the geo provider is asked about is the first one. -/
theorem CartProjection.locationHint_eq_head : cart.locationHint = cart.locations.head? := by
  rw [CartProjection.locations, CartProjection.addresses, List.filterMap_filterMap,
    List.head?_filterMap, CartProjection.locationHint]
  cases cart.fulfillment with
  | none => rfl
  | some state =>
      refine congrArg (fun f => state.methods.findSome? f) (funext fun method => ?_)
      exact (Option.bind_assoc _ _ _).symm

theorem CartProjection.locationHint_congr {cart' : CartProjection}
    (h : cart'.fulfillment = cart.fulfillment) : cart'.locationHint = cart.locationHint := by
  rw [CartProjection.locationHint, CartProjection.locationHint, h]

/-- One location out of several: every rule that allows it allows them all exactly if they
are all the same. -/
theorem allowed_all_iff {asked : Option LocationHint} {locations : List LocationHint} :
    (∀ allows : Option LocationHint → Bool, allows asked = true →
        ∀ location ∈ locations, allows (some location) = true) ↔
      ∀ location ∈ locations, asked = some location := by
  constructor
  · intro h location hl
    have hallowed := h (fun x => decide (x = asked)) (decide_eq_true rfl) location hl
    exact (of_decide_eq_true hallowed).symm
  · intro h allows hasked location hl
    rw [← h location hl]
    exact hasked

/-! ## The geo question -/

/-- As far as `tr` shows, the geo provider judges the location alone, by `allows`. -/
def JudgedBy (allows : Option LocationHint → Bool) (tr : List (Event Op.Ans)) : Prop :=
  ∀ cart request g, ⟨.checkGeo cart request, .ok g⟩ ∈ tr → g.allowed = allows request.location

/-- A provider that judges the location alone shows it in every run. -/
theorem judgedBy_of_checkGeo {α : Type} {allows : Option LocationHint → Bool}
    (h : ∀ n cart request, env.checkGeo n cart request = .ok ⟨allows request.location⟩)
    (p : Prog Op.Ans α) : JudgedBy allows (p.events env.handle w) := by
  intro cart request g hm
  induction p generalizing w with
  | ret a => cases hm
  | op o k ih =>
      rcases List.mem_cons.mp hm with heq | hm
      · obtain ⟨rfl, hans⟩ := Sigma.mk.inj heq
        have hg : Except.ok g = env.checkGeo w.clock cart request := eq_of_heq hans
        rw [h] at hg
        cases hg
        rfl
      · exact ih _ hm

/-- A path without a geo question shows nothing of the provider. -/
theorem JudgedBy.of_ops {allows : Option LocationHint → Bool} {k : Op → Bool}
    (hk : ∀ cart request, k (.checkGeo cart request) = false) (htr : ∀ e ∈ tr, k e.1) :
    JudgedBy allows tr :=
  fun cart request g hm => absurd hm (notMem_of_ops htr (hk cart request) (.ok g))

theorem judgedBy_append {allows : Option LocationHint → Bool} {tr' : List (Event Op.Ans)} :
    JudgedBy allows (tr ++ tr') ↔ JudgedBy allows tr ∧ JudgedBy allows tr' := by
  simp only [JudgedBy, List.mem_append, or_imp, forall_and]

theorem RepricePath.fulfillment {repriced : CartProjection}
    (h : RepricePath cart tr (.ok repriced)) : repriced.fulfillment = cart.fulfillment := by
  cases h with
  | discounted ps tax hd => cases hd <;> rfl

/-- Settling asks once, about the location of the cart it has loaded, and goes on if that
one is allowed. -/
theorem SettlePath.judgedBy_iff (h : SettlePath request tr (.ok cart)) :
    ∃ stored tr', tr = ⟨.getCartSnapshot request.cartId, some stored⟩ :: tr' ∧
      ∀ allows, JudgedBy allows tr ↔ allows stored.locationHint = true := by
  cases h with
  | @settled stored repriced pricing g had hp hallowed hamount =>
      refine ⟨stored, _, rfl, fun allows => ?_⟩
      have hhint : repriced.locationHint = stored.locationHint :=
        CartProjection.locationHint_congr hp.fulfillment
      constructor
      · intro hj
        have hasked := hj repriced (geoCheckRequest repriced) g (by simp)
        rw [← hhint, ← hallowed]
        exact hasked.symm
      · intro hstored asked asking g' hm
        have hpricing : ⟨.checkGeo asked asking, .ok g'⟩ ∉ pricing :=
          notMem_of_ops hp.reprices (o := .checkGeo asked asking) rfl _
        have hasked : (asked = repriced ∧ asking = geoCheckRequest repriced) ∧ g' = g := by
          simpa [hpricing] using hm
        obtain ⟨⟨rfl, rfl⟩, rfl⟩ := hasked
        rw [hallowed]
        exact (congrArg allows hhint).trans hstored |>.symm

/-! ## A checkout -/

/-- The outcome of the request's key is on record, so the call repeats it. -/
def Repeats (w : World) (request : CheckoutRequest) : Prop :=
  ∃ result, w.idempotency.lookup (.ofRequest request) = some (.completed result)

/-- What a checkout that returns a result shows of the provider: nothing if it repeats an
outcome, else that the location of the stored cart is allowed. -/
theorem executeCheckout_judgedBy_iff {result : TransactionResult}
    (hcart : w.events.getCartSnapshot request.cartId = some cart)
    (hok : ((executeCheckout runner request).run.run env.handle w).1 = .ok result)
    (allows : Option LocationHint → Bool) :
    JudgedBy allows ((executeCheckout runner request).run.events env.handle w) ↔
      Repeats w request ∨ allows cart.locationHint = true := by
  have hpath := executeCheckout_trace
    (events_trace (h := env.handle) (executeCheckout runner request).run w)
  have hreplays := events_replays (h := env.handle) (executeCheckout runner request).run w
  rw [hok] at hpath
  generalize (executeCheckout runner request).run.events env.handle w = tr at hpath hreplays ⊢
  cases hpath with
  | replayed _ _ =>
      obtain ⟨hclaim, -⟩ := hreplays
      refine iff_of_true ?_ (Or.inl ⟨result, Env.handle_claim_ok hclaim⟩)
      exact .of_ops (k := Op.keys) (fun _ _ => rfl) (by simp [Op.keys])
  | owned _ ho =>
      cases ho with
      | @paid settled tr₁ tr₂ tr₃ _ hs hr hp =>
          obtain ⟨hclaim, hreplays⟩ := hreplays
          have hnone := Env.handle_claim_ok hclaim
          have hfresh : ¬ Repeats w request := by
            rintro ⟨result', hrepeats⟩
            cases hnone.symm.trans hrepeats
          obtain ⟨stored, tr', rfl, hiff⟩ := hs.judgedBy_iff
          obtain ⟨hread, -⟩ := hreplays
          have hstored := World.read_some hread
          rw [Env.handle_events rfl, hcart] at hstored
          obtain rfl := Option.some.inj hstored
          have hrest : JudgedBy allows (tr₂ ++ tr₃) :=
            judgedBy_append.mpr ⟨.of_ops (fun _ _ => rfl) hr.reserves,
              .of_ops (fun _ _ => rfl) hp.finishes⟩
          have hclaims : JudgedBy allows [⟨.claim (.ofRequest request), .ok none⟩] :=
            .of_ops (k := Op.keys) (fun _ _ => rfl) (by simp [Op.keys])
          rw [← List.singleton_append, judgedBy_append, judgedBy_append, hiff]
          simp [hclaims, hrest, hfresh]

/-- A provider that judges the location alone blocks the one location of a cart: then no
checkout of the cart that is not a repetition returns a result. -/
theorem executeCheckout_blocked {allows : Option LocationHint → Bool}
    (hgeo : ∀ n cart request, env.checkGeo n cart request = .ok ⟨allows request.location⟩)
    (hcart : w.events.getCartSnapshot request.cartId = some cart)
    (hfresh : ¬ Repeats w request) (hblocked : allows cart.locationHint = false)
    (result : TransactionResult) :
    ((executeCheckout runner request).run.run env.handle w).1 ≠ .ok result := by
  intro hok
  have hshown := judgedBy_of_checkGeo hgeo (w := w) (executeCheckout runner request).run
  rcases (executeCheckout_judgedBy_iff hcart hok allows).mp hshown with hrepeats | hallowed
  · exact hfresh hrepeats
  · exact Bool.false_ne_true (hblocked.symm.trans hallowed)

namespace Sample

/-- Everything but this country is allowed. -/
def outside (country : String) (location : Option LocationHint) : Bool :=
  location.bind (·.countryCode) ≠ some country

/-- The sample cart, shipped to one country and, after a second thought, picked up in
another; both methods stay. -/
def twice : List Call :=
  Sample.shopping ++
    [.cart (.setFulfillmentSelection
        ⟨.shipping, [], .shipping "home" { addressCountry := some "US" }, some "standard"⟩)
      (some Sample.cart.cartId),
    .cart (.setFulfillmentSelection
        ⟨.pickup, [], .retail "store" "Store" (some { addressCountry := some "ZZ" }),
          some "in_store"⟩)
      (some Sample.cart.cartId)]

def twiceRequest : CheckoutRequest :=
  { Sample.request "k" with cartVersion := 4 }

end Sample

/-- Agreeable, but for the countries that `allows` does not allow. -/
def Env.judging (allows : Option LocationHint → Bool) : Env :=
  { Env.agreeable with checkGeo := fun _ _ request => .ok ⟨allows request.location⟩ }

/-- The world in which the cart with two methods waits. -/
def Sample.twiceWorld : World :=
  (session (Env.judging (Sample.outside "ZZ")) Sample.runner Sample.twice World.empty).2

end Orchestrator
