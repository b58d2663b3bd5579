/-
# `CommerceOrchestrator.Runtime.Arithmetic` — the runner on 64-bit integers

`Cart` and `Checkout` calculate exactly.  The source calculates on `i64`, so here every
procedure that adds, subtracts or multiplies amounts is given once more, under the same name,
with these as operations in the source's order; what calculates nothing is lifted as it is.
Calculating exactly gives back the procedures of `Cart` and `Checkout` (`prog_erase`).
-/
import CommerceOrchestrator.Effect.Machine
import CommerceOrchestrator.Runtime.Session

namespace Orchestrator.I64

open Effect Prog

abbrev Eff := Prog (WithI64 Op.Ans)

/-- Fallible procedures of the runner that calculate. -/
abbrev Run := ExceptT RunnerError Eff

instance : MonadLift Orchestrator.Run Run := ⟨fun p => ExceptT.mk p.run.inl⟩

/-- One operation on `i64`. -/
def calculate (o : I64Op) : Run Int := ExceptT.lift (perform (Sum.inr o) : Eff Int)

/-! ## Pricing a cart -/

/-- `iter.sum()`, from a first value on. -/
def sumFrom (acc : Int) : List Int → Run Int
  | [] => return acc
  | x :: xs => do
      let acc ← calculate (.add acc x)
      sumFrom acc xs

/-- Take over resolved prices and total the lines. -/
def withPrices (cart : CartProjection) (priced : List LinePrice) : Run CartProjection := do
  let lines := applyPrices cart.lines priced
  let subtotalMinor ← sumFrom 0 (lines.map (·.totalMinor))
  return { cart with lines, subtotalMinor }

/-- `subtotal_minor + tax_minor + fulfillment_minor`. -/
def grossMinor (cart : CartProjection) : Run Int := do
  let taxed ← calculate (.add cart.subtotalMinor cart.taxMinor)
  calculate (.add taxed cart.fulfillmentMinor)

def applyDiscounts (cart : CartProjection) : Run CartProjection := do
  let gross ← grossMinor cart
  if cart.adjustmentCodes = [] then
    return { cart with discounts := [], discountMinor := 0, totalMinor := gross }
  else
    let discounts ← tryWith .pricing (ask (.resolveDiscounts cart cart.adjustmentCodes))
    let discountMinor := totalDiscountMinor discounts gross
    let totalMinor ← calculate (.sub gross discountMinor)
    return { cart with discountMinor, discounts, totalMinor }

/-! ## Commands -/

def mutateAndRecalculate (cartId : CartId) (projection : CartProjection)
    (primaryEvent : CartStreamEvent) : Run CartProjection := do
  transitionCart cartId .itemChanged
  tryWith .store (ask (.appendCartEvent cartId primaryEvent))
  let pricedLines ← tryWith .pricing (ask (.resolvePrices projection))
  let priced ← withPrices projection pricedLines
  transitionCart cartId .pricingResolved
  tryWith .store (ask (.appendCartEvent cartId .repriced))
  let tax ← tryWith .tax (ask (.resolveTax priced))
  let discounted ← applyDiscounts (priced.withTax tax)
  transitionCart cartId .taxResolved
  tryWith .store (ask (.appendCartEvent cartId (.retaxed tax.totalTaxMinor)))
  let geoOk ← checkGeo discounted
  transitionCart cartId .geoValidated
  tryWith .store (ask (.appendCartEvent cartId (.geoChecked geoOk)))
  let final := { discounted with geoOk }
  tryWith .store (ask (.putCartSnapshot final))
  return final

def addItem (payload : AddItemPayload) (cartId : Option CartId) : Run CartProjection := do
  let id ← okOr cartId .missingCartId
  let item ← tryWith .catalog (ask (.getItem payload.itemId))
  let projection ← loadCart id
  let uuid ← call .newUuid
  let lineId := "li_" ++ uuid.render
  let totalMinor ← calculate (.mul item.priceMinor payload.quantity)
  let line : CartLineProjection :=
    { lineId, itemId := item.id, title := item.title, quantity := payload.quantity
      unitPriceMinor := item.priceMinor, totalMinor }
  mutateAndRecalculate id
    { projection with lines := projection.lines ++ [line], version := projection.version + 1 }
    (.itemAdded lineId payload.itemId payload.quantity)

def updateItemQty (payload : UpdateItemQtyPayload) (cartId : Option CartId) :
    Run CartProjection := do
  let id ← okOr cartId .missingCartId
  let projection ← loadCart id
  let line ← okOr (projection.lines.find? (·.lineId = payload.lineId)) .lineNotFound
  let totalMinor ← calculate (.mul line.unitPriceMinor payload.quantity)
  let lines := updateLine payload.lineId
    (fun line => { line with quantity := payload.quantity, totalMinor }) projection.lines
  mutateAndRecalculate id { projection with lines, version := projection.version + 1 }
    (.itemQtyUpdated payload.lineId payload.quantity)

def removeItem (payload : RemoveItemPayload) (cartId : Option CartId) : Run CartProjection := do
  let id ← okOr cartId .missingCartId
  let projection ← loadCart id
  mutateAndRecalculate id
    { projection with
      lines := projection.lines.filter (·.lineId ≠ payload.lineId)
      version := projection.version + 1 }
    (.itemRemoved payload.lineId)

def applyAdjustment (payload : ApplyAdjustmentPayload) (cartId : Option CartId) :
    Run CartProjection := do
  let id ← okOr cartId .missingCartId
  let projection ← loadCart id
  validateAdjustment payload.code
  let codes := projection.adjustmentCodes
  mutateAndRecalculate id
    { projection with
      adjustmentCodes := if payload.code ∈ codes then codes else codes ++ [payload.code]
      version := projection.version + 1 }
    (.adjustmentApplied payload.code)

def setFulfillmentSelection (runner : Runner) (payload : SetFulfillmentSelectionPayload)
    (cartId : Option CartId) : Run CartProjection := do
  let id ← okOr cartId .missingCartId
  let projection ← loadCart id
  let lineItemIds ← selectedLines payload projection
  let options ← quoteOptions runner projection payload lineItemIds
  let selected := payload.selectedOptionId.bind fun id => options.find? (·.id = id)
  failIf (payload.selectedOptionId.isSome ∧ selected.isNone) .fulfillmentOptionNotFound
  let selectedAmount := (selected.map (·.amountMinor)).getD 0
  let groupId ← call .newUuid
  let group : FulfillmentGroup :=
    { id := "fg_" ++ groupId.render, lineItemIds, options
      selectedOptionId := payload.selectedOptionId }
  let methodId ← call .newUuid
  let method : FulfillmentMethod :=
    { id := "fm_" ++ methodId.render, methodType := payload.methodType, lineItemIds
      destinations := [payload.destination]
      selectedDestinationId := some payload.destination.id, groups := [group] }
  let methods := (projection.fulfillment.map (·.methods)).getD []
  let kept := methods.filter (·.methodType ≠ payload.methodType)
  let discounted ← applyDiscounts
    { projection with fulfillment := some ⟨kept ++ [method]⟩, fulfillmentMinor := selectedAmount }
  let geoOk ← checkGeo discounted
  let final := { discounted with geoOk, version := discounted.version + 1 }
  tryWith .store
    (ask (.appendCartEvent id
      (.fulfillmentSelected payload.methodType payload.selectedOptionId selectedAmount)))
  tryWith .store (ask (.putCartSnapshot final))
  return final

def dispatchCartCommand (runner : Runner) (command : CartCommand) (cartId : Option CartId) :
    Run CartProjection := do
  failIf (validateCartCommand command ≠ []) (.validation (validateCartCommand command))
  match command with
  | .createCart payload => createCart payload
  | .addItem payload => addItem payload cartId
  | .updateItemQty payload => updateItemQty payload cartId
  | .removeItem payload => removeItem payload cartId
  | .applyAdjustment payload => applyAdjustment payload cartId
  | .setFulfillmentSelection payload => setFulfillmentSelection runner payload cartId
  | .getCart payload => loadCart payload.cartId
  | .startCheckout payload => startCheckout payload
  | .cancelCart payload => cancelCart payload

/-! ## Checkout -/

def repriceForCheckout (cart : CartProjection) : Run CartProjection := do
  let pricedLines ← tryWith .pricing (ask (.resolvePrices cart))
  let priced ← withPrices cart pricedLines
  let tax ← tryWith .tax (ask (.resolveTax priced))
  applyDiscounts (priced.withTax tax)

def settleCartForCheckout (request : CheckoutRequest) : Run CartProjection := do
  let cart ← loadCart request.cartId
  failIf (∃ owner ∈ cart.tenantId, owner ≠ request.tenantId) .cartTenantMismatch
  failIf (cart.version ≠ request.cartVersion)
    (.cartVersionConflict request.cartVersion cart.version)
  let repriced ← repriceForCheckout cart
  let geoOk ← checkGeo repriced
  tryWith .store (ask (.putCartSnapshot { repriced with geoOk }))
  failIf (¬ geoOk) .geoBlocked
  failIf (request.paymentIntent.amountMinor ≠ repriced.totalMinor)
    (.amountMismatch repriced.totalMinor request.paymentIntent.amountMinor)
  return { repriced with geoOk }

def settleOrRelease (request : CheckoutRequest) : Run CartProjection :=
  tryCatch (settleCartForCheckout request) fun e => do
    tryWith .store (ask (.release (.ofRequest request)))
    throw e

def checkOut (runner : Runner) (request : CheckoutRequest) : Run TransactionResult := do
  let cart ← settleOrRelease request
  reserveLines request.cartId cart.lines
  payAndBook runner request cart

def executeCheckout (runner : Runner) (request : CheckoutRequest) : Run TransactionResult := do
  failIf (validateCheckoutRequest request ≠ []) (.validation (validateCheckoutRequest request))
  match ← tryWith .store (ask (.claim (.ofRequest request))) with
  | some .inFlight => throw .alreadyInFlight
  | some (.completed result) => return result
  | none => checkOut runner request

def prog (runner : Runner) : Call → Eff Outcome
  | .cart command cartId =>
      (dispatchCartCommand runner command cartId).run >>= fun r => .ret (.cart command cartId r)
  | .checkout request =>
      (executeCheckout runner request).run >>= fun r => .ret (.checkout request r)

/-! ## Calculating exactly -/

section Erase

variable {α β : Type}

def Run.erase (p : Run α) : Orchestrator.Run α := ExceptT.mk p.run.erase

@[simp] theorem erase_bind (p : Run α) (f : α → Run β) :
    Run.erase (p >>= f) = Run.erase p >>= fun a => Run.erase (f a) := by
  show ExceptT.mk (p >>= f).run.erase = _
  rw [ExceptT.run_bind, Prog.erase_bind]
  refine congrArg ExceptT.mk (congrArg _ (funext fun r => ?_))
  cases r with
  | ok a => rfl
  | error e => rfl

@[simp] theorem erase_map (f : α → β) (p : Run α) :
    Run.erase (f <$> p) = f <$> Run.erase p := by
  rw [map_eq_pure_bind, map_eq_pure_bind, erase_bind]
  rfl

@[simp] theorem erase_lift (p : Orchestrator.Run α) : Run.erase (liftM p) = p :=
  Prog.erase_inl p.run

@[simp] theorem erase_pure (a : α) : Run.erase (pure a) = pure a := rfl

@[simp] theorem erase_throw (e : RunnerError) : Run.erase (throw e : Run α) = throw e := rfl

@[simp] theorem erase_tryCatch (p : Run α) (f : RunnerError → Run α) :
    Run.erase (tryCatch p f) = tryCatch (Run.erase p) fun e => Run.erase (f e) := by
  show ExceptT.mk (Prog.erase (p.run >>= _)) = ExceptT.mk (p.run.erase >>= _)
  rw [Prog.erase_bind]
  refine congrArg ExceptT.mk (congrArg _ (funext fun r => ?_))
  cases r with
  | ok a => rfl
  | error e => rfl

@[simp] theorem erase_calculate (o : I64Op) : Run.erase (calculate o) = pure o.exact := rfl

end Erase

theorem sumFrom_erase {acc : Int} {xs : List Int} :
    Run.erase (sumFrom acc xs) = pure (acc + xs.sum) := by
  induction xs generalizing acc with
  | nil => rw [sumFrom, erase_pure, List.sum_nil, add_zero]
  | cons x xs ih => simp [sumFrom, ih, I64Op.exact, add_assoc]

theorem withPrices_erase {cart : CartProjection} {priced : List LinePrice} :
    Run.erase (withPrices cart priced) = pure (cart.withPrices priced) := by
  simp [withPrices, sumFrom_erase, CartProjection.withPrices]

theorem grossMinor_erase {cart : CartProjection} :
    Run.erase (grossMinor cart) = pure cart.grossMinor := by
  simp [grossMinor, I64Op.exact, CartProjection.grossMinor]

theorem applyDiscounts_erase {cart : CartProjection} :
    Run.erase (applyDiscounts cart) = Orchestrator.applyDiscounts cart := by
  unfold applyDiscounts Orchestrator.applyDiscounts
  split
  · simp [grossMinor_erase, CartProjection.withoutDiscounts]
  · simp [grossMinor_erase, I64Op.exact, CartProjection.withDiscounts]

theorem mutateAndRecalculate_erase {c : CartId} {s : CartProjection} {event : CartStreamEvent} :
    Run.erase (mutateAndRecalculate c s event) = Orchestrator.mutateAndRecalculate c s event := by
  simp [mutateAndRecalculate, Orchestrator.mutateAndRecalculate, withPrices_erase,
    applyDiscounts_erase]

theorem addItem_erase {payload : AddItemPayload} {cartId : Option CartId} :
    Run.erase (addItem payload cartId) = Orchestrator.addItem payload cartId := by
  simp [addItem, Orchestrator.addItem, mutateAndRecalculate_erase, I64Op.exact]

/-- A change of the first line with an id depends on that line alone. -/
theorem updateLine_of_find {lineId : String} {f g : CartLineProjection → CartLineProjection}
    {line : CartLineProjection} {lines : List CartLineProjection}
    (hfind : lines.find? (·.lineId = lineId) = some line) (hfg : f line = g line) :
    updateLine lineId f lines = updateLine lineId g lines := by
  induction lines with
  | nil => cases hfind
  | cons l lines ih =>
      unfold updateLine
      by_cases hl : l.lineId = lineId
      · rw [List.find?_cons_of_pos (by simpa using hl)] at hfind
        cases hfind
        rw [if_pos hl, if_pos hl, hfg]
      · rw [List.find?_cons_of_neg (by simpa using hl)] at hfind
        rw [if_neg hl, if_neg hl, ih hfind]

theorem updateItemQty_erase {payload : UpdateItemQtyPayload} {cartId : Option CartId} :
    Run.erase (updateItemQty payload cartId) = Orchestrator.updateItemQty payload cartId := by
  unfold updateItemQty Orchestrator.updateItemQty
  simp only [erase_bind, erase_lift]
  refine congrArg _ (funext fun id => congrArg _ (funext fun s => ?_))
  cases hfind : s.lines.find? (·.lineId = payload.lineId) with
  | none =>
      have hnone : ∀ line ∈ s.lines, line.lineId ≠ payload.lineId := by
        simpa using hfind
      rw [failIf, if_pos hnone]
      rfl
  | some line =>
      have hsome : ¬ ∀ line ∈ s.lines, line.lineId ≠ payload.lineId := fun hnone =>
        hnone line (List.mem_of_find?_eq_some hfind) (by simpa using List.find?_some hfind)
      rw [failIf, if_neg hsome]
      simp only [okOr, pure_bind, erase_calculate, I64Op.exact, mutateAndRecalculate_erase]
      rw [updateLine_of_find hfind]
      rfl

theorem removeItem_erase {payload : RemoveItemPayload} {cartId : Option CartId} :
    Run.erase (removeItem payload cartId) = Orchestrator.removeItem payload cartId := by
  simp [removeItem, Orchestrator.removeItem, mutateAndRecalculate_erase]

theorem applyAdjustment_erase {payload : ApplyAdjustmentPayload} {cartId : Option CartId} :
    Run.erase (applyAdjustment payload cartId) = Orchestrator.applyAdjustment payload cartId := by
  simp [applyAdjustment, Orchestrator.applyAdjustment, mutateAndRecalculate_erase]

theorem setFulfillmentSelection_erase {runner : Runner} {payload : SetFulfillmentSelectionPayload}
    {cartId : Option CartId} :
    Run.erase (setFulfillmentSelection runner payload cartId) =
      Orchestrator.setFulfillmentSelection runner payload cartId := by
  simp [setFulfillmentSelection, Orchestrator.setFulfillmentSelection, applyDiscounts_erase]

theorem dispatchCartCommand_erase {runner : Runner} {command : CartCommand}
    {cartId : Option CartId} :
    Run.erase (dispatchCartCommand runner command cartId) =
      Orchestrator.dispatchCartCommand runner command cartId := by
  unfold dispatchCartCommand Orchestrator.dispatchCartCommand
  rw [erase_bind, erase_lift]
  refine congrArg _ (funext fun _ => ?_)
  cases command with
  | addItem payload => exact addItem_erase
  | updateItemQty payload => exact updateItemQty_erase
  | removeItem payload => exact removeItem_erase
  | applyAdjustment payload => exact applyAdjustment_erase
  | setFulfillmentSelection payload => exact setFulfillmentSelection_erase
  | _ => exact erase_lift _

theorem settleCartForCheckout_erase {request : CheckoutRequest} :
    Run.erase (settleCartForCheckout request) = Orchestrator.settleCartForCheckout request := by
  simp [settleCartForCheckout, Orchestrator.settleCartForCheckout, repriceForCheckout,
    Orchestrator.repriceForCheckout, withPrices_erase, applyDiscounts_erase]

theorem settleOrRelease_erase {request : CheckoutRequest} :
    Run.erase (settleOrRelease request) = Orchestrator.settleOrRelease request := by
  simp [settleOrRelease, Orchestrator.settleOrRelease, settleCartForCheckout_erase]

theorem executeCheckout_erase {runner : Runner} {request : CheckoutRequest} :
    Run.erase (executeCheckout runner request) = Orchestrator.executeCheckout runner request := by
  unfold executeCheckout Orchestrator.executeCheckout
  simp only [erase_bind, erase_lift]
  refine congrArg _ (funext fun _ => congrArg _ (funext fun claimed => ?_))
  rcases claimed with _ | _ | result
  · simp [checkOut, Orchestrator.checkOut, settleOrRelease_erase]
  · rfl
  · rfl

/-- **The runner calculates what `Cart` and `Checkout` say**, if it calculates exactly. -/
theorem prog_erase {runner : Runner} {call : Call} :
    (prog runner call).erase = call.prog runner := by
  cases call with
  | cart command cartId =>
      show Prog.erase (_ >>= _) = _
      rw [Prog.erase_bind]
      exact congrArg (· >>= _) (congrArg ExceptT.run dispatchCartCommand_erase)
  | checkout request =>
      show Prog.erase (_ >>= _) = _
      rw [Prog.erase_bind]
      exact congrArg (· >>= _) (congrArg ExceptT.run executeCheckout_erase)

/-- A call that overflows nowhere runs as its exact form does. -/
theorem prog_run {env : Env} {runner : Runner} {call : Call} {w : World}
    (h : AllInRange ((prog runner call).events env.handle.withI64 w)) :
    (prog runner call).run env.handle.withI64 w = (call.prog runner).run env.handle w := by
  rw [run_erase h, prog_erase]

end Orchestrator.I64
