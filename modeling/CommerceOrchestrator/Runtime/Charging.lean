/-
# `CommerceOrchestrator.Runtime.Charging` — what a charge presupposes

Read off the paths of `executeCheckout`, so true under every store and every
provider: nobody is charged before every gate has been passed, and the amounts
a checkout that completes hands to the provider, the order and the caller are
one amount.
-/
import CommerceOrchestrator.Runtime.Paths

namespace Orchestrator

open Effect Prog

variable {tr : List (Event Op.Ans)}

/-! ## The gates -/

/-- `before` is what happens up to the authorization of a payment for the settled
`cart`: the claim, the stored cart, its fresh price, the geo verdict, the
snapshot and a reservation for every line, in this order, with every gate passed. -/
structure Cleared (runner : Runner) (request : CheckoutRequest) (cart : CartProjection)
    (before : List (Event Op.Ans)) : Prop where
  passed : ∃ (stored repriced : CartProjection) (geo : GeoCheckResult)
    (pricing : List (Event Op.Ans)),
    before =
      [⟨.claim (.ofRequest request), .ok none⟩,
        ⟨.getCartSnapshot request.cartId, some stored⟩] ++
      pricing ++
      [⟨geoOp repriced, .ok geo⟩, ⟨.putCartSnapshot cart, .ok ()⟩] ++
      cart.lines.map (fun line =>
        ⟨.reserve request.cartId line.itemId line.quantity reservationTtl, .ok ()⟩) ∧
    (stored.tenantId = none ∨ stored.tenantId = some request.tenantId) ∧
    stored.version = request.cartVersion ∧
    RepricePath stored pricing (.ok repriced) ∧
    geo.allowed = true ∧
    cart = { repriced with geoOk := geo.allowed }
  amount : request.paymentIntent.amountMinor = cart.totalMinor
  policy : runner.policy.checkCheckout request cart.totalMinor = .allowed

theorem Admits.owner {request : CheckoutRequest} {cart : CartProjection}
    (h : Admits request cart) :
    cart.tenantId = none ∨ cart.tenantId = some request.tenantId := by
  cases ht : cart.tenantId with
  | none => exact Or.inl rfl
  | some owner => exact Or.inr (congrArg some (h.tenant owner ht))

theorem SettlePath.cleared {runner : Runner} {request : CheckoutRequest} {cart : CartProjection}
    {tr₁ tr₂ : List (Event Op.Ans)} (hs : SettlePath request tr₁ (.ok cart))
    (hr : ReservePath request.cartId cart.lines tr₂ (.ok ()))
    (hpol : runner.policy.checkCheckout request cart.totalMinor = .allowed) :
    Cleared runner request cart (⟨.claim (.ofRequest request), .ok none⟩ :: (tr₁ ++ tr₂)) := by
  cases hs with
  | @settled stored repriced pricing geo had hp hgeo hamt =>
      exact
        { passed := ⟨stored, repriced, geo, pricing, by rw [hr.ok_eq]; simp, had.owner,
            had.version, hp, hgeo, rfl⟩
          amount := hamt
          policy := hpol }

/-- Where a path through a checkout meets the payment provider: nowhere, at the
authorization only, or at the authorization and the capture. -/
inductive PaymentShape (runner : Runner) (request : CheckoutRequest) :
    List (Event Op.Ans) → Prop
  | unpaid {tr : List (Event Op.Ans)} : (∀ e ∈ tr, ¬ e.1.pays) → PaymentShape runner request tr
  | authorized (cart : CartProjection) {gates rest : List (Event Op.Ans)}
      (x : Except PaymentError AuthResult) : Cleared runner request cart gates →
      (∀ e ∈ gates, ¬ e.1.pays) → (∀ e ∈ rest, ¬ e.1.pays) →
      PaymentShape runner request (gates ++ ⟨.authorize request, x⟩ :: rest)
  | captured (cart : CartProjection) {gates rest : List (Event Op.Ans)} (auth : AuthResult)
      (committed : CommitRecord) (y : Except PaymentError PaymentOperationResult) :
      Cleared runner request cart gates → auth.authorized = true →
      (∀ e ∈ gates, ¬ e.1.pays) → (∀ e ∈ rest, ¬ e.1.pays) →
      PaymentShape runner request
        (gates ++ ⟨.authorize request, .ok auth⟩ ::
          ⟨.commit request.cartId (some auth.reference), .ok committed⟩ ::
          ⟨.capture (captureRequest request cart committed), y⟩ :: rest)

theorem not_pays_of_all {tr : List (Event Op.Ans)} (h : tr.all fun e => !e.1.pays) :
    ∀ e ∈ tr, ¬ e.1.pays := by
  intro e he
  simpa using List.all_eq_true.mp h e he

theorem ConcludePath.not_pays {request : CheckoutRequest} {result : TransactionResult}
    {r : Except RunnerError TransactionResult} (h : ConcludePath request result tr r) :
    ∀ e ∈ tr, ¬ e.1.pays := by
  cases h <;> exact not_pays_of_all rfl

theorem BookPath.not_pays {request : CheckoutRequest} {cart : CartProjection}
    {committed : CommitRecord} {capture : PaymentOperationResult}
    {r : Except RunnerError TransactionResult} (h : BookPath request cart committed capture tr r) :
    ∀ e ∈ tr, ¬ e.1.pays := by
  cases h <;> exact not_pays_of_all rfl

theorem SettlePath.not_pays {request : CheckoutRequest} {r : Except RunnerError CartProjection}
    (h : SettlePath request tr r) : ∀ e ∈ tr, ¬ e.1.pays :=
  fun e he => Op.settles_not_pays (h.settles e he)

theorem ReservePath.not_pays {cartId : CartId} {lines : List CartLineProjection}
    {r : Except RunnerError Unit} (h : ReservePath cartId lines tr r) : ∀ e ∈ tr, ¬ e.1.pays :=
  fun e he => Op.reserves_not_pays (h.reserves e he)

/-- The claim, the settling and the reservations ask nothing of the payment provider. -/
theorem not_pays_gates {request : CheckoutRequest} {tr₁ tr₂ : List (Event Op.Ans)}
    {cartId : CartId} {lines : List CartLineProjection}
    {r₁ : Except RunnerError CartProjection} {r₂ : Except RunnerError Unit}
    (hs : SettlePath request tr₁ r₁) (hr : ReservePath cartId lines tr₂ r₂) :
    ∀ e ∈ (⟨.claim (.ofRequest request), .ok none⟩ : Event Op.Ans) :: (tr₁ ++ tr₂),
      ¬ e.1.pays :=
  List.forall_mem_cons.mpr ⟨Bool.false_ne_true,
    List.forall_mem_append.mpr ⟨hs.not_pays, hr.not_pays⟩⟩

theorem CheckoutPath.payments {runner : Runner} {request : CheckoutRequest}
    {r : Except RunnerError TransactionResult} (h : CheckoutPath runner request tr r) :
    PaymentShape runner request tr := by
  cases h with
  | invalid _ => exact .unpaid (by simp)
  | unclaimed e _ => exact .unpaid (by simp [Op.pays])
  | inFlight _ => exact .unpaid (by simp [Op.pays])
  | replayed result _ => exact .unpaid (by simp [Op.pays])
  | owned _ h =>
      cases h with
      | unsettled e x e' hs =>
          exact .unpaid (List.forall_mem_cons.mpr ⟨Bool.false_ne_true,
            List.forall_mem_append.mpr ⟨hs.not_pays, by simp [Op.pays]⟩⟩)
      | unreserved cart e hs hr => exact .unpaid (not_pays_gates hs hr)
      | @paid cart tr₁ tr₂ tr₃ _ hs hr hp =>
          have hgates := not_pays_gates hs hr
          rw [← List.append_assoc, ← List.cons_append]
          cases hp with
          | rejected errors txn corr hpol hc =>
              exact .unpaid (List.forall_mem_append.mpr
                ⟨hgates, by simpa [Op.pays] using hc.not_pays⟩)
          | unauthorized e hpol =>
              exact .authorized cart _ (hs.cleared hr hpol) hgates (by simp)
          | declined auth txn corr hpol hauth hc =>
              exact .authorized cart _ (hs.cleared hr hpol) hgates
                (by simpa [Op.pays] using hc.not_pays)
          | uncommitted auth e hpol hauth =>
              exact .authorized cart _ (hs.cleared hr hpol) hgates (by simp [Op.pays])
          | uncaptured auth committed e hpol hauth =>
              exact .captured cart auth committed _ (hs.cleared hr hpol) hauth hgates (by simp)
          | captured auth committed capture hpol hauth hb =>
              exact .captured cart auth committed _ (hs.cleared hr hpol) hauth hgates hb.not_pays

/-- Where the provider is asked to authorize, every gate has been passed. -/
theorem PaymentShape.authorizes {runner : Runner} {request : CheckoutRequest}
    {before after : List (Event Op.Ans)} {e : Event Op.Ans} {req : CheckoutRequest}
    (h : PaymentShape runner request (before ++ e :: after)) (ho : e.1 = .authorize req) :
    req = request ∧ ∃ cart, Cleared runner request cart before := by
  have he : e.1.pays := by
    rw [ho]
    rfl
  generalize htr : before ++ e :: after = tr at h
  cases h with
  | unpaid hno => exact absurd he (hno e (by simp [← htr]))
  | authorized cart x hgates hg hr =>
      obtain ⟨rfl, rfl⟩ := split_unique hg hr he htr.symm
      exact ⟨(Op.authorize.inj ho).symm, cart, hgates⟩
  | captured cart auth committed y hgates hauth hg hr =>
      have hpays {e : Event Op.Ans} : (∃ req, e.1 = .authorize req) → e.1.pays := by
        rintro ⟨req, ho⟩
        rw [ho]
        rfl
      obtain ⟨rfl, rfl⟩ := split_unique (P := fun e => ∃ req, e.1 = .authorize req)
        (fun e he hreq => hg e he (hpays hreq))
        (by simpa using fun e he req ho => hr e he (hpays ⟨req, ho⟩)) ⟨req, ho⟩ htr.symm
      exact ⟨(Op.authorize.inj ho).symm, cart, hgates⟩

/-- Where the provider is asked to capture, an authorization was granted and a commit has
succeeded, right after the gates. -/
theorem PaymentShape.captures {runner : Runner} {request : CheckoutRequest}
    {before after : List (Event Op.Ans)} {e : Event Op.Ans} {pay : PaymentLifecycleRequest}
    (h : PaymentShape runner request (before ++ e :: after)) (ho : e.1 = .capture pay) :
    ∃ gates cart auth committed,
      before = gates ++ [⟨.authorize request, .ok auth⟩,
        ⟨.commit request.cartId (some auth.reference), .ok committed⟩] ∧
      auth.authorized = true ∧ Cleared runner request cart gates ∧
      pay = captureRequest request cart committed := by
  have he : e.1.pays := by
    rw [ho]
    rfl
  generalize htr : before ++ e :: after = tr at h
  cases h with
  | unpaid hno => exact absurd he (hno e (by simp [← htr]))
  | authorized cart x hgates hg hr =>
      obtain ⟨rfl, rfl⟩ := split_unique hg hr he htr.symm
      cases ho
  | @captured cart gates rest auth committed y hgates hauth hg hr =>
      have hpays {e : Event Op.Ans} : (∃ pay, e.1 = .capture pay) → e.1.pays := by
        rintro ⟨pay, ho⟩
        rw [ho]
        rfl
      obtain ⟨rfl, rfl⟩ := split_unique (P := fun e => ∃ pay, e.1 = .capture pay)
        (l := gates ++ [⟨.authorize request, .ok auth⟩,
          ⟨.commit request.cartId (some auth.reference), .ok committed⟩])
        (List.forall_mem_append.mpr ⟨fun e he hpay => hg e he (hpays hpay), by simp⟩)
        (fun e he hpay => hr e he (hpays hpay)) ⟨pay, ho⟩ (by simpa using htr.symm)
      exact ⟨gates, cart, auth, committed, rfl, hauth, hgates, (Op.capture.inj ho).symm⟩

/-- **No charge without every gate.**  Whatever the stores and the providers answer:
an authorization is for this request and comes after every gate, and a capture
comes directly after an authorization that was granted and a commit that
succeeded. -/
theorem executeCheckout_gated {W : Type} (h : Handler Op.Ans W) (w : W) (runner : Runner)
    (request : CheckoutRequest) (before after : List (Event Op.Ans)) (e : Event Op.Ans)
    (hev : (executeCheckout runner request).run.events h w = before ++ e :: after) :
    (∀ req, e.1 = .authorize req →
      req = request ∧ ∃ cart, Cleared runner request cart before) ∧
    (∀ pay, e.1 = .capture pay →
      ∃ gates cart auth committed,
        before = gates ++ [⟨.authorize request, .ok auth⟩,
          ⟨.commit request.cartId (some auth.reference), .ok committed⟩] ∧
        auth.authorized = true ∧ Cleared runner request cart gates ∧
        pay = captureRequest request cart committed) := by
  have hshape := (executeCheckout_trace
    (events_trace (h := h) (executeCheckout runner request).run w)).payments
  rw [hev] at hshape
  exact ⟨fun _ ho => hshape.authorizes ho, fun _ ho => hshape.captures ho⟩

/-- The events of the sample checkout up to the authorization. -/
def sampleGates : List (Event Op.Ans) :=
  ((executeCheckout Sample.runner (Sample.request "k")).run.events
    Env.agreeable.handle Sample.world).take 7

/-- The sample checkout is authorized after its gates and captured two events later. -/
theorem executeCheckout_gated_sample :
    (∃ cart, Cleared Sample.runner (Sample.request "k") cart sampleGates) ∧
      ∃ gates cart auth committed,
        sampleGates ++ [⟨.authorize (Sample.request "k"), .ok ⟨true, "auth"⟩⟩,
          ⟨.commit Sample.cart.cartId (some "auth"),
            .ok ⟨"txn_9", Sample.cart.cartId, some "auth"⟩⟩] =
          gates ++ [⟨.authorize (Sample.request "k"), .ok auth⟩,
            ⟨.commit Sample.cart.cartId (some auth.reference), .ok committed⟩] ∧
        auth.authorized = true ∧ Cleared Sample.runner (Sample.request "k") cart gates ∧
        (⟨"t", "m", "txn_9", 100, "k"⟩ : PaymentLifecycleRequest) =
          captureRequest (Sample.request "k") cart committed :=
  ⟨((executeCheckout_gated Env.agreeable.handle Sample.world Sample.runner (Sample.request "k")
      sampleGates _ ⟨.authorize (Sample.request "k"), .ok ⟨true, "auth"⟩⟩ rfl).1 _ rfl).2,
    (executeCheckout_gated Env.agreeable.handle Sample.world Sample.runner (Sample.request "k")
      _ _ ⟨.capture ⟨"t", "m", "txn_9", 100, "k"⟩, .ok ⟨true, "capture"⟩⟩ rfl).2 _ rfl⟩

/-! ## One amount -/

/-- Pricing keeps the subtotal the sum of the lines. -/
theorem CartProjection.withPrices_subtotal (cart : CartProjection) (ps : List LinePrice) :
    ((cart.withPrices ps).lines.map (·.totalMinor)).sum = (cart.withPrices ps).subtotalMinor :=
  rfl

theorem DiscountPath.lines_sum {cart cart' : CartProjection} (h : DiscountPath cart tr (.ok cart'))
    (hsum : (cart.lines.map (·.totalMinor)).sum = cart.subtotalMinor) :
    (cart'.lines.map (·.totalMinor)).sum = cart'.subtotalMinor := by
  cases h with
  | none _ => exact hsum
  | applied ds _ => exact hsum

theorem RepricePath.lines_sum {cart cart' : CartProjection} (h : RepricePath cart tr (.ok cart')) :
    (cart'.lines.map (·.totalMinor)).sum = cart'.subtotalMinor := by
  cases h with
  | discounted ps tax hd => exact hd.lines_sum (cart.withPrices_subtotal ps)

/-- A settled cart costs what the request offers, and its lines add up. -/
theorem SettlePath.settled_amount {request : CheckoutRequest} {cart : CartProjection}
    (h : SettlePath request tr (.ok cart)) :
    request.paymentIntent.amountMinor = cart.totalMinor ∧
      (cart.lines.map (·.totalMinor)).sum = cart.subtotalMinor := by
  cases h with
  | settled stored repriced g _ hp _ hamt => exact ⟨hamt, hp.lines_sum⟩

end Orchestrator
