/-
# `CommerceOrchestrator.Runtime.Edits` — what a call makes of the snapshot it reads

Every call reads at most one cart snapshot and puts at most one, and the one it
puts is an edit of the one it read: `Edited` has one constructor per kind of
call and says which.  What later modules say about cart contents (totals, charges,
versions, lost updates) they say by cases on `Edited`; `prog_follows` is the one
place where it is read off the procedures.

`Edited` is relative to the answers that may be given (`A`), so the same relation
serves providers that answer anything and providers that are fixed functions.
-/
import CommerceOrchestrator.Runtime.Session

namespace Orchestrator

open Effect Prog

/-! ## Edits -/

/-- Answers that may be given. -/
abbrev Answers := Event Op.Ans → Prop

section Edits

variable (A : Answers)

/-- What `applyDiscounts` may make of a cart. -/
inductive Discounted (cart : CartProjection) : CartProjection → Prop
  | none : cart.adjustmentCodes = [] → Discounted cart cart.withoutDiscounts
  | granted (ds : List AppliedDiscount) : cart.adjustmentCodes ≠ [] →
      A ⟨.resolveDiscounts cart cart.adjustmentCodes, .ok ds⟩ →
      Discounted cart (cart.withDiscounts ds)

/-- What pricing, tax, discounts and the geo check may make of a cart. -/
inductive Recalculated (cart : CartProjection) : CartProjection → Prop
  | mk (ps : List LinePrice) (tax : TaxResult) (discounted : CartProjection)
      (geo : GeoCheckResult) :
      A ⟨.resolvePrices cart, .ok ps⟩ → A ⟨.resolveTax (cart.withPrices ps), .ok tax⟩ →
      Discounted A ((cart.withPrices ps).withTax tax) discounted → A ⟨geoOp discounted, .ok geo⟩ →
      Recalculated cart { discounted with geoOk := geo.allowed }

/-- The cart a creation stores. -/
def CreateCartPayload.cart (payload : CreateCartPayload) (id : CartId) : CartProjection where
  cartId := id
  version := 1
  currency := payload.currency
  merchantId := payload.merchantId
  tenantId := payload.tenantId
  lines := []
  subtotalMinor := 0
  taxMinor := 0
  totalMinor := 0
  geoOk := true
  status := .draft
  fulfillment := none
  fulfillmentMinor := 0
  adjustmentCodes := []
  discounts := []
  discountMinor := 0

/-- The line an addition appends, before it is priced. -/
def AddItemPayload.line (payload : AddItemPayload) (item : CatalogItem) (id : Uuid) :
    CartLineProjection where
  lineId := "li_" ++ id.render
  itemId := item.id
  title := item.title
  quantity := payload.quantity
  unitPriceMinor := item.priceMinor
  totalMinor := item.priceMinor * payload.quantity

namespace CartProjection

/-- Append a line. -/
def addLine (cart : CartProjection) (line : CartLineProjection) : CartProjection :=
  { cart with lines := cart.lines ++ [line], version := cart.version + 1 }

/-- Change the quantity of the first line with this id. -/
def setQuantity (cart : CartProjection) (payload : UpdateItemQtyPayload) : CartProjection :=
  { cart with
    lines := updateLine payload.lineId (fun line =>
      { line with quantity := payload.quantity
                  totalMinor := line.unitPriceMinor * payload.quantity }) cart.lines
    version := cart.version + 1 }

def dropLine (cart : CartProjection) (lineId : String) : CartProjection :=
  { cart with lines := cart.lines.filter (·.lineId ≠ lineId), version := cart.version + 1 }

/-- Add a code, once. -/
def addCode (cart : CartProjection) (code : String) : CartProjection :=
  { cart with
    adjustmentCodes :=
      if code ∈ cart.adjustmentCodes then cart.adjustmentCodes else cart.adjustmentCodes ++ [code]
    version := cart.version + 1 }

/-- The methods of the other types, which a selection keeps. -/
def otherMethods (cart : CartProjection) (methodType : FulfillmentMethodType) :
    List FulfillmentMethod :=
  ((cart.fulfillment.map (·.methods)).getD []).filter (·.methodType ≠ methodType)

/-- Replace the method of its type and charge what it selects. -/
def setMethod (cart : CartProjection) (method : FulfillmentMethod) (amountMinor : Int) :
    CartProjection :=
  { cart with
    fulfillment := some ⟨cart.otherMethods method.methodType ++ [method]⟩
    fulfillmentMinor := amountMinor }

def setStatus (cart : CartProjection) (status : CartStatus) : CartProjection :=
  { cart with status, version := cart.version + 1 }

end CartProjection

namespace SetFulfillmentSelectionPayload

/-- The option a selection picks among those offered. -/
def selected (payload : SetFulfillmentSelectionPayload) (options : List FulfillmentOption) :
    Option FulfillmentOption :=
  payload.selectedOptionId.bind fun id => options.find? (·.id = id)

/-- What the selection costs: nothing if nothing is selected. -/
def amountMinor (payload : SetFulfillmentSelectionPayload) (options : List FulfillmentOption) :
    Int :=
  ((payload.selected options).map (·.amountMinor)).getD 0

/-- The method a selection stores, of one group. -/
def method (payload : SetFulfillmentSelectionPayload) (lineItemIds : List String)
    (options : List FulfillmentOption) (group method : Uuid) : FulfillmentMethod where
  id := "fm_" ++ method.render
  methodType := payload.methodType
  lineItemIds
  destinations := [payload.destination]
  selectedDestinationId := some payload.destination.id
  groups :=
    [{ id := "fg_" ++ group.render, lineItemIds, options
       selectedOptionId := payload.selectedOptionId }]

end SetFulfillmentSelectionPayload

/-- The options a selection is offered come from the rating provider, if one is
set, else from the built-in table. -/
def Offered (runner : Runner) (cart : CartProjection) (payload : SetFulfillmentSelectionPayload)
    (lineItemIds : List String) (options : List FulfillmentOption) : Prop :=
  if runner.fulfillment then
    A ⟨.quoteOptions cart
      { methodType := payload.methodType, destination := payload.destination, lineItemIds },
      .ok options⟩
  else options = defaultOptionsForMethod payload.methodType

/-- `Edited A runner call cart cart'`: the call may read `cart` and put `cart'`. -/
inductive Edited (runner : Runner) : Call → CartProjection → CartProjection → Prop
  | added (payload : AddItemPayload) (cartId : Option CartId) (item : CatalogItem) (id : Uuid)
      {cart cart' : CartProjection} :
      A ⟨.getItem payload.itemId, .ok item⟩ → A ⟨.newUuid, id⟩ →
      Recalculated A (cart.addLine (payload.line item id)) cart' →
      Edited runner (.cart (.addItem payload) cartId) cart cart'
  | requantified (payload : UpdateItemQtyPayload) (cartId : Option CartId)
      {cart cart' : CartProjection} : (∃ line ∈ cart.lines, line.lineId = payload.lineId) →
      Recalculated A (cart.setQuantity payload) cart' →
      Edited runner (.cart (.updateItemQty payload) cartId) cart cart'
  | removed (payload : RemoveItemPayload) (cartId : Option CartId) {cart cart' : CartProjection} :
      Recalculated A (cart.dropLine payload.lineId) cart' →
      Edited runner (.cart (.removeItem payload) cartId) cart cart'
  | adjusted (payload : ApplyAdjustmentPayload) (cartId : Option CartId)
      {cart cart' : CartProjection} : Recalculated A (cart.addCode payload.code) cart' →
      Edited runner (.cart (.applyAdjustment payload) cartId) cart cart'
  | selected (payload : SetFulfillmentSelectionPayload) (cartId : Option CartId)
      (lineItemIds : List String) (options : List FulfillmentOption) (group method : Uuid)
      (geo : GeoCheckResult) {cart discounted : CartProjection} :
      Offered A runner cart payload lineItemIds options →
      (payload.selectedOptionId.isSome → (payload.selected options).isSome) →
      Discounted A (cart.setMethod (payload.method lineItemIds options group method)
        (payload.amountMinor options)) discounted →
      A ⟨geoOp discounted, .ok geo⟩ →
      Edited runner (.cart (.setFulfillmentSelection payload) cartId) cart
        { discounted with geoOk := geo.allowed, version := discounted.version + 1 }
  | readied (payload : StartCheckoutPayload) (cartId : Option CartId) {cart : CartProjection} :
      cart.version = payload.cartVersion →
      Edited runner (.cart (.startCheckout payload) cartId) cart (cart.setStatus .checkoutReady)
  | cancelled (payload : CancelCartPayload) (cartId : Option CartId) {cart : CartProjection} :
      Edited runner (.cart (.cancelCart payload) cartId) cart (cart.setStatus .cancelled)
  | repriced (request : CheckoutRequest) {cart cart' : CartProjection} :
      Admits request cart → Recalculated A cart cart' →
      Edited runner (.checkout request) cart cart'

/-- What a call may put, given what it has read. -/
inductive Puts (runner : Runner) : Call → Option CartProjection → CartProjection → Prop
  | created (payload : CreateCartPayload) (cartId : Option CartId) (id : Uuid) :
      A ⟨.newUuid, id⟩ →
      Puts runner (.cart (.createCart payload) cartId) none (payload.cart ⟨id⟩)
  | edited {call : Call} {cart cart' : CartProjection} : Edited A runner call cart cart' →
      Puts runner call (some cart) cart'

end Edits

/-! ## Contents -/

/-- What a line orders: its id, the item and how many. -/
def CartLineProjection.ordered (line : CartLineProjection) : String × String × Nat :=
  (line.lineId, line.itemId, line.quantity)

/-- What a change of one line keeps of it is kept of the lines. -/
theorem updateLine_map {β : Type} {lineId : String} {f : CartLineProjection → CartLineProjection}
    (g : CartLineProjection → β) (hf : ∀ line, g (f line) = g line)
    (lines : List CartLineProjection) : (updateLine lineId f lines).map g = lines.map g := by
  induction lines with
  | nil => rfl
  | cons line lines ih =>
      unfold updateLine
      split
      · simp [hf]
      · simp [ih]

/-- What a price leaves alone on a line, prices leave alone on the lines. -/
theorem applyPrices_map {β : Type} (g : CartLineProjection → β)
    (hg : ∀ p line, g (line.withPrice p) = g line) (lines : List CartLineProjection)
    (ps : List LinePrice) : (applyPrices lines ps).map g = lines.map g := by
  induction ps generalizing lines with
  | nil => rfl
  | cons p ps ih =>
      show (applyPrices (updateLine p.lineId (·.withPrice p) lines) ps).map _ = _
      rw [ih]
      exact updateLine_map (f := (·.withPrice p)) g (hg p) lines

/-- Prices change what lines cost, not what they order. -/
theorem applyPrices_map_ordered (lines : List CartLineProjection) (ps : List LinePrice) :
    (applyPrices lines ps).map (·.ordered) = lines.map (·.ordered) :=
  applyPrices_map _ (fun _ _ => rfl) lines ps

/-- What a cart is for: the lines ordered, the codes applied, the fulfillment chosen. -/
def CartProjection.contents (cart : CartProjection) :
    List (String × String × Nat) × List String × Option FulfillmentState :=
  (cart.lines.map (·.ordered), cart.adjustmentCodes, cart.fulfillment)

section Contents

variable {A : Answers} {runner : Runner} {cart cart' : CartProjection}

/-- Recalculation changes neither the cart, nor its version, nor its contents. -/
theorem Recalculated.same (h : Recalculated A cart cart') :
    cart'.cartId = cart.cartId ∧ cart'.version = cart.version ∧ cart'.contents = cart.contents := by
  obtain ⟨ps, tax, discounted, geo, -, -, hd, -⟩ := h
  have hlines := applyPrices_map_ordered cart.lines ps
  have hcontents : ((cart.withPrices ps).withTax tax).contents = cart.contents := by
    rw [CartProjection.contents, CartProjection.contents, ← hlines]
    rfl
  cases hd <;> exact ⟨rfl, rfl, hcontents⟩

theorem Edited.cartId {call : Call} (h : Edited A runner call cart cart') :
    cart'.cartId = cart.cartId := by
  cases h with
  | added payload cartId item id _ _ hr | requantified payload cartId _ hr
  | removed payload cartId hr | adjusted payload cartId hr | repriced request _ hr =>
      exact hr.same.1
  | readied payload cartId _ | cancelled payload cartId => rfl
  | selected payload cartId lineItemIds options group method geo _ _ hd _ => cases hd <;> rfl

/-- A command that changes a cart takes the next version. -/
theorem Edited.version {command : CartCommand} {cartId : Option CartId}
    (h : Edited A runner (.cart command cartId) cart cart') : cart'.version = cart.version + 1 := by
  cases h with
  | added payload cartId item id _ _ hr | requantified payload cartId _ hr
  | removed payload cartId hr | adjusted payload cartId hr => exact hr.same.2.1
  | readied payload cartId _ | cancelled payload cartId => rfl
  | selected payload cartId lineItemIds options group method geo _ _ hd _ => cases hd <;> rfl

/-- A checkout re-prices the version it was asked for and leaves the contents alone. -/
theorem Edited.checkout {request : CheckoutRequest}
    (h : Edited A runner (.checkout request) cart cart') :
    cart.version = request.cartVersion ∧ cart'.version = cart.version ∧
      cart'.contents = cart.contents := by
  cases h with
  | repriced _ had hr => exact ⟨had.version, hr.same.2⟩

end Contents

/-! ## The monitor -/

/-- The cart a call names, if it names one. -/
def Call.target : Call → Option CartId
  | .cart command cartId => command.target cartId
  | .checkout request => some request.cartId

/-- What a call has read and put so far, and whether the put took hold. -/
structure Progress where
  call : Call
  read : Option CartProjection := none
  put : Option CartProjection := none
  saved : Bool := false

/-- A call reads the snapshot of the cart it names, and puts one edit of it. -/
def editMonitor (A : Answers) (runner : Runner) : Monitor Op.Ans Progress where
  allow o q :=
    match o with
    | .getCartSnapshot c => q.call.target = some c ∧ q.read = none ∧ q.put = none
    | .putCartSnapshot s => Puts A runner q.call q.read s ∧ q.put = none
    | _ => True
  rely o _ x := A ⟨o, x⟩
  next o q x :=
    match o, x with
    | .getCartSnapshot _, x => { q with read := x }
    | .putCartSnapshot s, x => { q with put := some s, saved := tookHold x }
    | _, _ => q

/-- The call an outcome answers. -/
def Outcome.call : Outcome → Call
  | .cart command cartId _ => .cart command cartId
  | .checkout request _ => .checkout request

/-- The projection a cart command returns is the one it saved, or, if it only looks,
the one it read. -/
structure Shows (out : Outcome) (q : Progress) : Prop where
  call : out.call = q.call
  shown : ∀ command cartId s, out = .cart command cartId (.ok s) →
    (q.put = some s ∧ q.saved) ∨
      (q.put = none ∧ q.read = some s ∧ ∃ payload, command = .getCart payload)

/-! ## Every call follows it -/

section Follows

variable {A : Answers} {runner : Runner} {β : Type} {q : Progress}

/-- Every operation but the two on snapshots is allowed and leaves no mark. -/
theorem editMonitor_idle {o : Op} (hget : ∀ c, o ≠ .getCartSnapshot c)
    (hput : ∀ s, o ≠ .putCartSnapshot s) (q : Progress) (x : o.Ans) :
    (editMonitor A runner).allow o q ∧ (editMonitor A runner).next o q x = q := by
  cases o with
  | getCartSnapshot c => exact absurd rfl (hget c)
  | putCartSnapshot s => exact absurd rfl (hput s)
  | _ => exact ⟨trivial, rfl⟩

/-- The commands' postcondition: the projection returned is the one saved. -/
abbrev Saved (s : CartProjection) (q : Progress) : Prop := q.put = some s ∧ q.saved

/-- A transition and the event that records it, in front of the rest of a command. -/
theorem edits_transition {P : β → Progress → Prop} {c : CartId} {event : CartEvent}
    {k : Unit → Run β} (h : (k ()).run.Follows (editMonitor A runner) (onOk P) q) :
    (transitionCart c event >>= k).run.Follows (editMonitor A runner) (onOk P) q :=
  (unseen_transitionCart ⟨trivial, fun _ => rfl⟩ fun _ => ⟨trivial, fun _ => rfl⟩).then fun _ => h

theorem edits_append {P : β → Progress → Prop} {c : CartId} {event : CartStreamEvent}
    {k : Unit → Run β} (h : (k ()).run.Follows (editMonitor A runner) (onOk P) q) :
    (tryWith .store (ask (.appendCartEvent c event)) >>= k).run.Follows
      (editMonitor A runner) (onOk P) q :=
  (unseen_append ⟨trivial, fun _ => rfl⟩).then fun _ => h

/-- Putting a snapshot, in front of the rest of a command. -/
theorem edits_put {P : β → Progress → Prop} {s : CartProjection} {k : Unit → Run β}
    (hs : Puts A runner q.call q.read s) (hq : q.put = none)
    (h : (k ()).run.Follows (editMonitor A runner) (onOk P)
      { q with put := some s, saved := true }) :
    (tryWith .store (ask (.putCartSnapshot s)) >>= k).run.Follows
      (editMonitor A runner) (onOk P) q := by
  refine follows_tryWith_bind ⟨⟨hs, hq⟩, fun x _ => ?_⟩
  cases x with
  | ok _ => exact h
  | error _ => exact trivial

/-- Loading the cart the call names, in front of the rest of a command. -/
theorem edits_load {P : β → Progress → Prop} {c : CartId} {k : CartProjection → Run β}
    {call : Call} (hc : call.target = some c)
    (h : ∀ s, A ⟨.getCartSnapshot c, some s⟩ →
      (k s).run.Follows (editMonitor A runner) (onOk P) ⟨call, some s, none, false⟩) :
    (loadCart c >>= k).run.Follows (editMonitor A runner) (onOk P) ⟨call, none, none, false⟩ := by
  refine follows_run_bind ⟨⟨hc, rfl, rfl⟩, fun x hx => ?_⟩
  cases x with
  | none => exact trivial
  | some s => exact h s hx

theorem applyDiscounts_edits (cart : CartProjection) :
    (applyDiscounts cart).run.Follows (editMonitor A runner)
      (onOk fun s q' => Discounted A cart s ∧ q' = q) q := by
  unfold applyDiscounts
  split
  · next hcodes => exact follows_pure ⟨.none hcodes, rfl⟩
  · next hcodes =>
      refine follows_tryWith_bind ⟨trivial, fun x hx => ?_⟩
      cases x with
      | ok ds => exact ⟨.granted ds hcodes hx, rfl⟩
      | error _ => exact trivial

theorem checkGeo_edits (cart : CartProjection) :
    (checkGeo cart).run.Follows (editMonitor A runner)
      (onOk fun allowed q' => (∃ g : GeoCheckResult, A ⟨geoOp cart, .ok g⟩ ∧ allowed = g.allowed) ∧
        q' = q) q := by
  refine follows_tryWith_bind ⟨trivial, fun x hx => ?_⟩
  cases x with
  | ok g => exact ⟨⟨g, hx, rfl⟩, rfl⟩
  | error _ => exact trivial

theorem mutateAndRecalculate_edits {c : CartId} {projection : CartProjection}
    {event : CartStreamEvent} (hq : q.put = none)
    (h : ∀ s, Recalculated A projection s → Puts A runner q.call q.read s) :
    (mutateAndRecalculate c projection event).run.Follows (editMonitor A runner) (onOk Saved) q := by
  unfold mutateAndRecalculate
  refine edits_transition (edits_append ?_)
  refine follows_tryWith_bind ⟨trivial, fun prices hprices => ?_⟩
  cases prices with
  | error _ => exact trivial
  | ok prices =>
      refine edits_transition (edits_append ?_)
      refine follows_tryWith_bind ⟨trivial, fun tax htax => ?_⟩
      cases tax with
      | error _ => exact trivial
      | ok tax =>
          refine follows_run_then (applyDiscounts_edits _) fun discounted _ hr => ?_
          obtain ⟨hd, rfl⟩ := hr
          refine edits_transition (edits_append ?_)
          refine follows_run_then (checkGeo_edits discounted) fun allowed _ hr => ?_
          obtain ⟨⟨g, hg, rfl⟩, rfl⟩ := hr
          refine edits_transition (edits_append (edits_put (h _ ?_) hq (follows_pure ⟨rfl, rfl⟩)))
          exact ⟨prices, tax, discounted, g, hprices, htax, hd, hg⟩

/-! ### The commands -/

theorem createCart_edits (payload : CreateCartPayload) (cartId : Option CartId) :
    (createCart payload).run.Follows (editMonitor A runner) (onOk Saved)
      ⟨.cart (.createCart payload) cartId, none, none, false⟩ := by
  unfold createCart
  refine follows_call trivial fun id hid => edits_append (edits_put (.created payload cartId id hid)
    rfl ?_)
  refine follows_tryWith_bind ⟨trivial, fun x _ => ?_⟩
  cases x with
  | ok _ => exact ⟨rfl, rfl⟩
  | error _ => exact trivial

theorem addItem_edits (payload : AddItemPayload) (cartId : Option CartId) :
    (addItem payload cartId).run.Follows (editMonitor A runner) (onOk Saved)
      ⟨.cart (.addItem payload) cartId, none, none, false⟩ := by
  unfold addItem
  refine follows_okOr fun c hc => follows_tryWith_bind ⟨trivial, fun item hitem => ?_⟩
  cases item with
  | error _ => exact trivial
  | ok item =>
      refine edits_load hc fun s _ => follows_call trivial fun id hid => ?_
      refine mutateAndRecalculate_edits rfl fun s' hs' => .edited ?_
      exact .added payload cartId item id hitem hid hs'

theorem updateItemQty_edits (payload : UpdateItemQtyPayload) (cartId : Option CartId) :
    (updateItemQty payload cartId).run.Follows (editMonitor A runner) (onOk Saved)
      ⟨.cart (.updateItemQty payload) cartId, none, none, false⟩ := by
  unfold updateItemQty
  refine follows_okOr fun c hc => edits_load hc fun s _ => follows_failIf fun hline => ?_
  have hline : ∃ line ∈ s.lines, line.lineId = payload.lineId := by
    by_contra hnone
    exact hline fun line hl he => hnone ⟨line, hl, he⟩
  refine mutateAndRecalculate_edits rfl fun s' hs' => .edited ?_
  exact .requantified payload cartId hline hs'

theorem removeItem_edits (payload : RemoveItemPayload) (cartId : Option CartId) :
    (removeItem payload cartId).run.Follows (editMonitor A runner) (onOk Saved)
      ⟨.cart (.removeItem payload) cartId, none, none, false⟩ := by
  unfold removeItem
  refine follows_okOr fun c hc => edits_load hc fun s _ => ?_
  exact mutateAndRecalculate_edits rfl fun s' hs' => .edited (.removed payload cartId hs')

theorem applyAdjustment_edits (payload : ApplyAdjustmentPayload) (cartId : Option CartId) :
    (applyAdjustment payload cartId).run.Follows (editMonitor A runner) (onOk Saved)
      ⟨.cart (.applyAdjustment payload) cartId, none, none, false⟩ := by
  unfold applyAdjustment
  refine follows_okOr fun c hc => edits_load hc fun s _ => ?_
  refine (unseen_validateAdjustment fun _ => ⟨trivial, fun _ => rfl⟩).then fun _ => ?_
  exact mutateAndRecalculate_edits rfl fun s' hs' => .edited (.adjusted payload cartId hs')

theorem quoteOptions_edits (projection : CartProjection)
    (payload : SetFulfillmentSelectionPayload) (lines : List String) :
    (quoteOptions runner projection payload lines).run.Follows (editMonitor A runner)
      (onOk fun options q' => Offered A runner projection payload lines options ∧ q' = q) q := by
  unfold quoteOptions Offered
  split
  · refine follows_tryWith ⟨trivial, fun x hx => ?_⟩
    cases x with
    | ok options => exact ⟨hx, rfl⟩
    | error _ => exact trivial
  · exact follows_pure ⟨rfl, rfl⟩

/-- An option that is asked for is among the options, or the selection is refused. -/
theorem selected_isSome {payload : SetFulfillmentSelectionPayload}
    {options : List FulfillmentOption}
    (hfound : ¬ (payload.selectedOptionId.isSome ∧ (payload.selected options).isNone))
    (hsome : payload.selectedOptionId.isSome) : (payload.selected options).isSome := by
  by_contra hnone
  exact hfound ⟨hsome, Option.isNone_iff_eq_none.mpr (Option.not_isSome_iff_eq_none.mp hnone)⟩

theorem setFulfillmentSelection_edits (payload : SetFulfillmentSelectionPayload)
    (cartId : Option CartId) :
    (setFulfillmentSelection runner payload cartId).run.Follows (editMonitor A runner)
      (onOk Saved) ⟨.cart (.setFulfillmentSelection payload) cartId, none, none, false⟩ := by
  unfold setFulfillmentSelection
  refine follows_okOr fun c hc => edits_load hc fun s _ => ?_
  refine follows_run_then follows_selectedLines fun lines _ hr => ?_
  obtain ⟨-, -, rfl⟩ := hr
  refine follows_run_then (quoteOptions_edits _ _ _) fun options _ hr => ?_
  obtain ⟨hoptions, rfl⟩ := hr
  refine follows_failIf fun hsel => follows_call trivial fun group _ =>
    follows_call trivial fun method _ => ?_
  refine follows_run_then (applyDiscounts_edits _) fun discounted _ hr => ?_
  obtain ⟨hd, rfl⟩ := hr
  refine follows_run_then (checkGeo_edits _) fun allowed _ hr => ?_
  obtain ⟨⟨g, hg, rfl⟩, rfl⟩ := hr
  refine edits_append (edits_put (.edited ?_) rfl (follows_pure ⟨rfl, rfl⟩))
  exact .selected payload cartId lines options group method g hoptions (selected_isSome hsel) hd hg

theorem startCheckout_edits (payload : StartCheckoutPayload) (cartId : Option CartId) :
    (startCheckout payload).run.Follows (editMonitor A runner) (onOk Saved)
      ⟨.cart (.startCheckout payload) cartId, none, none, false⟩ := by
  unfold startCheckout
  refine edits_load rfl fun s _ => follows_failIf fun hversion => edits_append ?_
  exact edits_put (.edited (.readied payload cartId (not_not.mp hversion))) rfl
    (edits_transition (follows_pure ⟨rfl, rfl⟩))

theorem cancelCart_edits (payload : CancelCartPayload) (cartId : Option CartId) :
    (cancelCart payload).run.Follows (editMonitor A runner) (onOk Saved)
      ⟨.cart (.cancelCart payload) cartId, none, none, false⟩ := by
  unfold cancelCart
  refine edits_load rfl fun s _ => edits_append ?_
  exact edits_put (.edited (.cancelled payload cartId)) rfl (edits_transition (follows_pure ⟨rfl, rfl⟩))

theorem dispatchCartCommand_edits (A : Answers) (runner : Runner) (command : CartCommand)
    (cartId : Option CartId) :
    (dispatchCartCommand runner command cartId).run.Follows (editMonitor A runner)
      (onOk fun s q => Saved s q ∨
        (q.put = none ∧ q.read = some s ∧ ∃ payload, command = .getCart payload))
      ⟨.cart command cartId, none, none, false⟩ := by
  have hsaves {p : Run CartProjection} {q : Progress}
      (h : p.run.Follows (editMonitor A runner) (onOk Saved) q) :
      p.run.Follows (editMonitor A runner) (onOk fun s q => Saved s q ∨
        (q.put = none ∧ q.read = some s ∧ ∃ payload, command = .getCart payload)) q := by
    refine h.mono fun r q hr => ?_
    cases r with
    | ok s => exact Or.inl hr
    | error _ => exact trivial
  refine follows_failIf fun _ => ?_
  cases command with
  | createCart payload => exact hsaves (createCart_edits payload cartId)
  | addItem payload => exact hsaves (addItem_edits payload cartId)
  | updateItemQty payload => exact hsaves (updateItemQty_edits payload cartId)
  | removeItem payload => exact hsaves (removeItem_edits payload cartId)
  | applyAdjustment payload => exact hsaves (applyAdjustment_edits payload cartId)
  | setFulfillmentSelection payload => exact hsaves (setFulfillmentSelection_edits payload cartId)
  | getCart payload =>
      refine ⟨⟨rfl, rfl, rfl⟩, fun x _ => ?_⟩
      cases x with
      | none => exact trivial
      | some s => exact Or.inr ⟨rfl, rfl, payload, rfl⟩
  | startCheckout payload => exact hsaves (startCheckout_edits payload cartId)
  | cancelCart payload => exact hsaves (cancelCart_edits payload cartId)

/-! ### Checkout -/

/-- Operations outside the two on snapshots, in front of any path. -/
theorem accepts_others {P : Progress → Prop} {k : Op → Bool} {tr tr' : List (Event Op.Ans)}
    (hget : ∀ c, k (.getCartSnapshot c) = false) (hput : ∀ s, k (.putCartSnapshot s) = false)
    (htr : ∀ e ∈ tr, k e.1) (h : (editMonitor A runner).Accepts P tr' q) :
    (editMonitor A runner).Accepts P (tr ++ tr') q := by
  refine Monitor.accepts_append.mpr (.idle (fun e he => ?_) h)
  refine editMonitor_idle (fun c hc => ?_) (fun s hs => ?_) q e.2
  · exact Bool.false_ne_true ((hget c).symm.trans (hc ▸ htr e he))
  · exact Bool.false_ne_true ((hput s).symm.trans (hs ▸ htr e he))

theorem accepts_done {P : Progress → Prop} {k : Op → Bool} {tr : List (Event Op.Ans)}
    (hget : ∀ c, k (.getCartSnapshot c) = false) (hput : ∀ s, k (.putCartSnapshot s) = false)
    (htr : ∀ e ∈ tr, k e.1) (h : P q) : (editMonitor A runner).Accepts P tr q := by
  rw [← List.append_nil tr]
  exact accepts_others hget hput htr h

/-- A successful re-pricing in front of the rest of a path. -/
theorem RepricePath.edits {cart repriced : CartProjection} {tr tr' : List (Event Op.Ans)}
    {P : Progress → Prop} (h : RepricePath cart tr (.ok repriced))
    (hrest : (∀ g : GeoCheckResult, A ⟨geoOp repriced, .ok g⟩ →
        Recalculated A cart { repriced with geoOk := g.allowed }) →
      (editMonitor A runner).Accepts P tr' q) :
    (editMonitor A runner).Accepts P (tr ++ tr') q := by
  cases h with
  | discounted ps tax hd =>
      refine ⟨trivial, fun hps => ⟨trivial, fun htax => ?_⟩⟩
      cases hd with
      | none hcodes =>
          exact hrest fun g hg => ⟨ps, tax, _, g, hps, htax, .none hcodes, hg⟩
      | applied ds hcodes =>
          refine ⟨trivial, fun hds => hrest fun g hg => ?_⟩
          exact ⟨ps, tax, _, g, hps, htax, .granted ds hcodes hds, hg⟩

/-- Settling reads the request's cart and puts its re-priced form. -/
theorem SettlePath.edits {request : CheckoutRequest} {tr : List (Event Op.Ans)}
    {P : Progress → Prop} {r : Except RunnerError CartProjection} (h : SettlePath request tr r)
    (hP : ∀ read put saved, P ⟨.checkout request, read, put, saved⟩) :
    (editMonitor A runner).Accepts P tr ⟨.checkout request, none, none, false⟩ := by
  -- the snapshot that is put, whatever became of it
  have hput {cart repriced : CartProjection} {t : List (Event Op.Ans)} {g : GeoCheckResult}
      {x : Except StoreError Unit} (had : Admits request cart)
      (hp : RepricePath cart t (.ok repriced)) :
      (editMonitor A runner).Accepts P
        (t ++ [⟨geoOp repriced, .ok g⟩,
          ⟨.putCartSnapshot { repriced with geoOk := g.allowed }, x⟩])
        ⟨.checkout request, some cart, none, false⟩ := by
    refine hp.edits fun hrecalc => ⟨trivial, fun hg => ?_⟩
    exact ⟨⟨.edited (.repriced request had (hrecalc g hg)), rfl⟩, fun _ => hP _ _ _⟩
  cases h with
  | missing => exact ⟨⟨rfl, rfl, rfl⟩, fun _ => hP _ _ _⟩
  | refused cart e _ => exact ⟨⟨rfl, rfl, rfl⟩, fun _ => hP _ _ _⟩
  | unpriced cart e had hp =>
      exact ⟨⟨rfl, rfl, rfl⟩, fun _ =>
        accepts_done (fun _ => rfl) (fun _ => rfl) hp.reprices (hP _ _ _)⟩
  | ungeo cart repriced e had hp =>
      exact ⟨⟨rfl, rfl, rfl⟩, fun _ => hp.edits fun _ => ⟨trivial, fun _ => hP _ _ _⟩⟩
  | unsaved cart repriced g e had hp | blocked cart repriced g e had hp _
  | settled cart repriced g had hp _ _ =>
      exact ⟨⟨rfl, rfl, rfl⟩, fun _ => hput had hp⟩

theorem executeCheckout_edits (A : Answers) (runner : Runner) (request : CheckoutRequest) :
    (executeCheckout runner request).run.Follows (editMonitor A runner) (fun _ _ => True)
      ⟨.checkout request, none, none, false⟩ := by
  refine Follows.of_trace fun tr r ht => ?_
  cases executeCheckout_trace ht with
  | invalid _ => exact trivial
  | unclaimed e _ => exact ⟨trivial, fun _ => trivial⟩
  | inFlight _ => exact ⟨trivial, fun _ => trivial⟩
  | replayed result _ => exact ⟨trivial, fun _ => trivial⟩
  | owned _ ho =>
      refine ⟨trivial, fun _ => ?_⟩
      cases ho with
      | unsettled e x e' hs =>
          exact Monitor.accepts_append.mpr (hs.edits fun _ _ _ => ⟨trivial, fun _ => trivial⟩)
      | unreserved cart e hs hr =>
          refine Monitor.accepts_append.mpr (hs.edits fun _ _ _ => ?_)
          exact accepts_done (fun _ => rfl) (fun _ => rfl) hr.reserves trivial
      | paid cart hs hr hp =>
          refine Monitor.accepts_append.mpr (hs.edits fun _ _ _ => ?_)
          refine accepts_others (fun _ => rfl) (fun _ => rfl) hr.reserves ?_
          exact accepts_done (fun _ => rfl) (fun _ => rfl) hp.finishes trivial

theorem editMonitor_next_call (A : Answers) (runner : Runner) (o : Op) (q : Progress) (x : o.Ans) :
    ((editMonitor A runner).next o q x).call = q.call := by
  cases o <;> rfl

/-- **Every call edits the snapshot it reads**, and returns what it saved. -/
theorem Call.prog_edits (call : Call) :
    (call.prog runner).Follows (editMonitor A runner) Shows ⟨call, none, none, false⟩ := by
  have hcall {o : Op} {q : Progress} {x : o.Ans} (hq : q.call = call) :
      ((editMonitor A runner).next o q x).call = call := by
    rw [editMonitor_next_call]
    exact hq
  cases call with
  | cart command cartId =>
      have hedits := (dispatchCartCommand_edits A runner command cartId).keeps
        (P := fun q => q.call = .cart command cartId) (fun _ _ _ => hcall) rfl
      refine follows_bind.mpr (hedits.mono fun r q hr => ⟨hr.2.symm, ?_⟩)
      intro command' cartId' s he
      cases he
      exact hr.1
  | checkout request =>
      have hedits := (executeCheckout_edits A runner request).keeps
        (P := fun q => q.call = .checkout request) (fun _ _ _ => hcall) rfl
      refine follows_bind.mpr (hedits.mono fun r q hr => ⟨hr.2.symm, ?_⟩)
      intro command' cartId' s he
      cases he

end Follows

end Orchestrator
