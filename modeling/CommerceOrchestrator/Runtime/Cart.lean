/-
# `CommerceOrchestrator.Runtime.Cart` — the runner's cart commands

`dispatchCartCommand` and what it is made of.  A command either goes through
`mutateAndRecalculate`, which walks the cart state machine while it re-prices,
or writes the snapshot itself (`setFulfillmentSelection`, `startCheckout`,
`cancelCart`).
-/
import CommerceOrchestrator.Runtime.Effects

namespace Orchestrator

open Effect

/-- The runner's configuration: its policy, and whether a fulfillment rating
provider is set (the built-in rate table is used when none is). -/
structure Runner where
  policy : PolicyEngine
  fulfillment : Bool

/-! ## Pricing a cart -/

/-- Change the first line with this id. -/
def updateLine (lineId : String) (f : CartLineProjection → CartLineProjection) :
    List CartLineProjection → List CartLineProjection
  | [] => []
  | line :: lines =>
      if line.lineId = lineId then f line :: lines else line :: updateLine lineId f lines

def CartLineProjection.withPrice (priced : LinePrice) (line : CartLineProjection) :
    CartLineProjection :=
  { line with unitPriceMinor := priced.unitPriceMinor, totalMinor := priced.totalMinor }

/-- Write the resolved prices onto the lines they name. -/
def applyPrices (lines : List CartLineProjection) (priced : List LinePrice) :
    List CartLineProjection :=
  priced.foldl (fun lines p => updateLine p.lineId (·.withPrice p) lines) lines

namespace CartProjection

/-- Take over resolved prices and total the lines. -/
def withPrices (cart : CartProjection) (priced : List LinePrice) : CartProjection :=
  { cart with
    lines := applyPrices cart.lines priced
    subtotalMinor := ((applyPrices cart.lines priced).map (·.totalMinor)).sum }

def withTax (cart : CartProjection) (tax : TaxResult) : CartProjection :=
  { cart with taxMinor := tax.totalTaxMinor }

/-- What the cart costs before discounts. -/
def grossMinor (cart : CartProjection) : Int :=
  cart.subtotalMinor + cart.taxMinor + cart.fulfillmentMinor

def withoutDiscounts (cart : CartProjection) : CartProjection :=
  { cart with discounts := [], discountMinor := 0, totalMinor := cart.grossMinor }

def withDiscounts (cart : CartProjection) (discounts : List AppliedDiscount) : CartProjection :=
  { cart with
    discountMinor := totalDiscountMinor discounts cart.grossMinor
    discounts
    totalMinor := cart.grossMinor - totalDiscountMinor discounts cart.grossMinor }

end CartProjection

/-- Re-evaluate the adjustment codes and fold the result into the total. -/
def applyDiscounts (cart : CartProjection) : Run CartProjection := do
  if cart.adjustmentCodes = [] then
    return cart.withoutDiscounts
  else
    let discounts ← tryWith .pricing (ask (.resolveDiscounts cart cart.adjustmentCodes))
    return cart.withDiscounts discounts

/-- The request a geo provider sees: the cart supplies tenant, merchant and destination. -/
def geoCheckRequest (cart : CartProjection) : CheckoutRequest where
  tenantId := cart.tenantId.getD ""
  merchantId := cart.merchantId
  cartId := cart.cartId
  cartVersion := cart.version
  currency := cart.currency
  customer := none
  location := cart.locationHint
  paymentIntent := { amountMinor := cart.totalMinor, tokenOrReference := "" }
  idempotencyKey := ""

def checkGeo (cart : CartProjection) : Run Bool := do
  let result ← tryWith .geo (ask (.checkGeo cart (geoCheckRequest cart)))
  return result.allowed

/-! ## Commands -/

def transitionCart (cartId : CartId) (event : CartEvent) : Run Unit := do
  let state ← call (.getCartState cartId)
  let current ← okOr state .cartNotFound
  let next ← okOr (nextCartState current event) .invalidStateTransition
  tryWith .store (ask (.setCartState cartId next))

def mutateAndRecalculate (cartId : CartId) (projection : CartProjection)
    (primaryEvent : CartStreamEvent) : Run CartProjection := do
  transitionCart cartId .itemChanged
  tryWith .store (ask (.appendCartEvent cartId primaryEvent))
  let pricedLines ← tryWith .pricing (ask (.resolvePrices projection))
  let priced := projection.withPrices pricedLines
  transitionCart cartId .pricingResolved
  tryWith .store (ask (.appendCartEvent cartId .repriced))
  let tax ← tryWith .tax (ask (.resolveTax priced))
  let discounted ← applyDiscounts (priced.withTax tax)
  transitionCart cartId .taxResolved
  tryWith .store (ask (.appendCartEvent cartId (.retaxed tax.totalTaxMinor)))
  let geoOk ← checkGeo discounted
  transitionCart cartId .geoValidated
  tryWith .store (ask (.appendCartEvent cartId (.geoChecked geoOk)))
  let final := { discounted with geoOk }
  tryWith .store (ask (.putCartSnapshot final))
  return final

/-- The item a code of the form `item:<item_id>:<campaign>` names. -/
def adjustmentItem (code : String) : Option String :=
  match code.toList with
  | 'i' :: 't' :: 'e' :: 'm' :: ':' :: rest =>
      let item := rest.takeWhile (· ≠ ':')
      if item = [] then none else some (String.ofList item)
  | _ => none

def validateAdjustment (code : String) : Run Unit := do
  match adjustmentItem code with
  | some itemId => let _ ← tryWith .catalog (ask (.getItem itemId))
  | none => pure ()

/-- Load the snapshot a command works on. -/
def loadCart (cartId : CartId) : Run CartProjection := do
  let snapshot ← call (.getCartSnapshot cartId)
  okOr snapshot .cartNotFound

def createCart (payload : CreateCartPayload) : Run CartProjection := do
  let id : CartId := ⟨← call .newUuid⟩
  let projection : CartProjection :=
    { cartId := id, version := 1, currency := payload.currency, merchantId := payload.merchantId
      tenantId := payload.tenantId, lines := [], subtotalMinor := 0, taxMinor := 0
      totalMinor := 0, geoOk := true, status := .draft, fulfillment := none
      fulfillmentMinor := 0, adjustmentCodes := [], discounts := [], discountMinor := 0 }
  tryWith .store
    (ask (.appendCartEvent id (.created payload.merchantId payload.currency)))
  tryWith .store (ask (.putCartSnapshot projection))
  tryWith .store (ask (.setCartState id .cartCreated))
  return projection

def addItem (payload : AddItemPayload) (cartId : Option CartId) : Run CartProjection := do
  let id ← okOr cartId .missingCartId
  let item ← tryWith .catalog (ask (.getItem payload.itemId))
  let projection ← loadCart id
  let lineId := "li_" ++ (← call .newUuid).render
  let line : CartLineProjection :=
    { lineId, itemId := item.id, title := item.title, quantity := payload.quantity
      unitPriceMinor := item.priceMinor, totalMinor := item.priceMinor * payload.quantity }
  mutateAndRecalculate id
    { projection with lines := projection.lines ++ [line], version := projection.version + 1 }
    (.itemAdded lineId payload.itemId payload.quantity)

def updateItemQty (payload : UpdateItemQtyPayload) (cartId : Option CartId) :
    Run CartProjection := do
  let id ← okOr cartId .missingCartId
  let projection ← loadCart id
  failIf (∀ line ∈ projection.lines, line.lineId ≠ payload.lineId) .lineNotFound
  let lines := updateLine payload.lineId (fun line =>
    { line with quantity := payload.quantity
                totalMinor := line.unitPriceMinor * payload.quantity }) projection.lines
  mutateAndRecalculate id { projection with lines, version := projection.version + 1 }
    (.itemQtyUpdated payload.lineId payload.quantity)

def removeItem (payload : RemoveItemPayload) (cartId : Option CartId) : Run CartProjection := do
  let id ← okOr cartId .missingCartId
  let projection ← loadCart id
  mutateAndRecalculate id
    { projection with
      lines := projection.lines.filter (·.lineId ≠ payload.lineId)
      version := projection.version + 1 }
    (.itemRemoved payload.lineId)

def applyAdjustment (payload : ApplyAdjustmentPayload) (cartId : Option CartId) :
    Run CartProjection := do
  let id ← okOr cartId .missingCartId
  let projection ← loadCart id
  validateAdjustment payload.code
  let codes := projection.adjustmentCodes
  mutateAndRecalculate id
    { projection with
      adjustmentCodes := if payload.code ∈ codes then codes else codes ++ [payload.code]
      version := projection.version + 1 }
    (.adjustmentApplied payload.code)

/-- The lines a selection covers: those it lists, all of which must exist, or all lines. -/
def selectedLines (payload : SetFulfillmentSelectionPayload) (projection : CartProjection) :
    Run (List String) :=
  if payload.lineItemIds = [] then
    return projection.lines.map (·.lineId)
  else if payload.lineItemIds.all fun id => projection.lines.any (·.lineId = id) then
    return payload.lineItemIds
  else
    throw .lineNotFound

def quoteOptions (runner : Runner) (projection : CartProjection)
    (payload : SetFulfillmentSelectionPayload) (lineItemIds : List String) :
    Run (List FulfillmentOption) :=
  if runner.fulfillment then
    tryWith (fun e => .fulfillmentQuote e.render)
      (ask (.quoteOptions projection
        { methodType := payload.methodType, destination := payload.destination, lineItemIds }))
  else
    return defaultOptionsForMethod payload.methodType

def setFulfillmentSelection (runner : Runner) (payload : SetFulfillmentSelectionPayload)
    (cartId : Option CartId) : Run CartProjection := do
  let id ← okOr cartId .missingCartId
  let projection ← loadCart id
  let lineItemIds ← selectedLines payload projection
  let options ← quoteOptions runner projection payload lineItemIds
  let selected := payload.selectedOptionId.bind fun id => options.find? (·.id = id)
  failIf (payload.selectedOptionId.isSome ∧ selected.isNone) .fulfillmentOptionNotFound
  let selectedAmount := (selected.map (·.amountMinor)).getD 0
  let group : FulfillmentGroup :=
    { id := "fg_" ++ (← call .newUuid).render, lineItemIds, options
      selectedOptionId := payload.selectedOptionId }
  let method : FulfillmentMethod :=
    { id := "fm_" ++ (← call .newUuid).render, methodType := payload.methodType, lineItemIds
      destinations := [payload.destination]
      selectedDestinationId := some payload.destination.id, groups := [group] }
  let methods := (projection.fulfillment.map (·.methods)).getD []
  let kept := methods.filter (·.methodType ≠ payload.methodType)
  let discounted ← applyDiscounts
    { projection with fulfillment := some ⟨kept ++ [method]⟩, fulfillmentMinor := selectedAmount }
  -- the destination just changed, so the verdict on this cart is stale
  let geoOk ← checkGeo discounted
  let final := { discounted with geoOk, version := discounted.version + 1 }
  tryWith .store
    (ask (.appendCartEvent id
      (.fulfillmentSelected payload.methodType payload.selectedOptionId selectedAmount)))
  tryWith .store (ask (.putCartSnapshot final))
  return final

def startCheckout (payload : StartCheckoutPayload) : Run CartProjection := do
  let projection ← loadCart payload.cartId
  failIf (projection.version ≠ payload.cartVersion)
    (.cartVersionConflict payload.cartVersion projection.version)
  let ready := { projection with status := .checkoutReady, version := projection.version + 1 }
  tryWith .store (ask (.appendCartEvent payload.cartId .checkoutReady))
  tryWith .store (ask (.putCartSnapshot ready))
  transitionCart payload.cartId .markCheckoutReady
  return ready

def cancelCart (payload : CancelCartPayload) : Run CartProjection := do
  let projection ← loadCart payload.cartId
  let cancelled := { projection with status := .cancelled, version := projection.version + 1 }
  tryWith .store (ask (.appendCartEvent payload.cartId .cancelled))
  tryWith .store (ask (.putCartSnapshot cancelled))
  transitionCart payload.cartId .cancel
  return cancelled

def dispatchCartCommand (runner : Runner) (command : CartCommand) (cartId : Option CartId) :
    Run CartProjection := do
  failIf (validateCartCommand command ≠ []) (.validation (validateCartCommand command))
  match command with
  | .createCart payload => createCart payload
  | .addItem payload => addItem payload cartId
  | .updateItemQty payload => updateItemQty payload cartId
  | .removeItem payload => removeItem payload cartId
  | .applyAdjustment payload => applyAdjustment payload cartId
  | .setFulfillmentSelection payload => setFulfillmentSelection runner payload cartId
  | .getCart payload => loadCart payload.cartId
  | .startCheckout payload => startCheckout payload
  | .cancelCart payload => cancelCart payload

end Orchestrator
