/-
# `CommerceOrchestrator.Runtime.Fulfillment` — what fulfillment is charged for

A cart holds one method per type, each with groups that may have an option
selected, and one amount for all of them.  A selection replaces the method of
its own type and keeps the others, but writes its own option's amount over the
whole charge.  So the charge is that of what is selected as long as the methods
a selection keeps cost nothing.
-/
import CommerceOrchestrator.Runtime.Interleaving

namespace Orchestrator

open Effect

/-- What the option a group has selected costs. -/
def FulfillmentGroup.amountMinor (group : FulfillmentGroup) : Int :=
  ((group.selectedOptionId.bind fun id => group.options.find? (·.id = id)).map
    (·.amountMinor)).getD 0

def FulfillmentMethod.amountMinor (method : FulfillmentMethod) : Int :=
  (method.groups.map (·.amountMinor)).sum

/-- What the selected options of these methods cost. -/
def chargeMinor (methods : List FulfillmentMethod) : Int :=
  (methods.map (·.amountMinor)).sum

/-- What the selected options of a cart cost. -/
def CartProjection.selectedMinor (s : CartProjection) : Int :=
  chargeMinor ((s.fulfillment.map (·.methods)).getD [])

/-- The cart is charged for what is selected. -/
def Charged (s : CartProjection) : Prop := s.fulfillmentMinor = s.selectedMinor

instance {s : CartProjection} : Decidable (Charged s) := inferInstanceAs (Decidable (_ = _))

/-- The condition on an edit: the methods a selection keeps cost nothing. -/
def KeepsNoCharge : Call → CartProjection → CartProjection → Prop
  | .cart (.setFulfillmentSelection payload) _, read, _ =>
      chargeMinor (read.otherMethods payload.methodType) = 0
  | _, _, _ => True

instance {call : Call} {read put : CartProjection} : Decidable (KeepsNoCharge call read put) := by
  unfold KeepsNoCharge
  split <;> infer_instance

section Edits

variable {A : Answers} {runner : Runner} {cart cart' : CartProjection}

theorem Charged.of_eq {s s' : CartProjection} (h : Charged s)
    (hf : s'.fulfillment = s.fulfillment) (hm : s'.fulfillmentMinor = s.fulfillmentMinor) :
    Charged s' := by
  rw [Charged, CartProjection.selectedMinor, hf, hm]
  exact h

theorem Discounted.fulfillment (h : Discounted A cart cart') :
    cart'.fulfillment = cart.fulfillment ∧ cart'.fulfillmentMinor = cart.fulfillmentMinor := by
  cases h <;> exact ⟨rfl, rfl⟩

theorem Recalculated.fulfillment (h : Recalculated A cart cart') :
    cart'.fulfillment = cart.fulfillment ∧ cart'.fulfillmentMinor = cart.fulfillmentMinor := by
  obtain ⟨ps, tax, discounted, geo, -, -, hd, -⟩ := h
  exact hd.fulfillment

/-- The method a selection stores costs what the selection costs. -/
theorem SetFulfillmentSelectionPayload.method_amountMinor
    (payload : SetFulfillmentSelectionPayload) (lineItemIds : List String)
    (options : List FulfillmentOption) (group id : Uuid) :
    (payload.method lineItemIds options group id).amountMinor = payload.amountMinor options := by
  simp [FulfillmentMethod.amountMinor, method, FulfillmentGroup.amountMinor, amountMinor, selected]

/-- A selection charges for what is selected exactly when the methods it keeps
cost nothing. -/
theorem setMethod_charged_iff (method : FulfillmentMethod) :
    Charged (cart.setMethod method method.amountMinor) ↔
      chargeMinor (cart.otherMethods method.methodType) = 0 := by
  have hselected : (cart.setMethod method method.amountMinor).selectedMinor =
      chargeMinor (cart.otherMethods method.methodType) + method.amountMinor := by
    simp [CartProjection.selectedMinor, CartProjection.setMethod, chargeMinor]
  rw [Charged, hselected]
  show method.amountMinor = _ ↔ _
  omega

theorem Edited.charged {call : Call} (h : Edited A runner call cart cart') (hcart : Charged cart)
    (hkeeps : KeepsNoCharge call cart cart') : Charged cart' := by
  cases h with
  | added payload cartId item id _ _ hr | requantified payload cartId _ hr
  | removed payload cartId hr | adjusted payload cartId hr | repriced request _ hr =>
      exact hcart.of_eq hr.fulfillment.1 hr.fulfillment.2
  | readied payload cartId _ | cancelled payload cartId => exact hcart.of_eq rfl rfl
  | selected payload cartId lineItemIds options group method geo _ _ hd _ =>
      have hset := (setMethod_charged_iff (payload.method lineItemIds options group method)).mpr hkeeps
      rw [payload.method_amountMinor] at hset
      exact (hset.of_eq hd.fulfillment.1 hd.fulfillment.2).of_eq rfl rfl

theorem Puts.charged {call : Call} {read : Option CartProjection} {s : CartProjection}
    (h : Puts A runner call read s)
    (hread : ∀ r, read = some r → Charged r ∧ KeepsNoCharge call r s) : Charged s := by
  cases h with
  | created payload cartId id _ => exact rfl
  | edited he => exact he.charged (hread _ rfl).1 (hread _ rfl).2

end Edits

/-- **Fulfillment is charged as selected.**  However calls interleave and whatever is
answered, as long as every selection keeps only methods that cost nothing, every
snapshot stored, put or returned is charged for what it has selected. -/
theorem fulfillment_charged_as_selected (env : Env) (runner : Runner) (calls : List Call)
    (ts : List Nat)
    (hkeeps : EditsMeet calls KeepsNoCharge (atOnce env runner calls ts World.empty).log) :
    let run := atOnce env runner calls ts World.empty
    (∀ c s, run.world.events.getCartSnapshot c = some s → Charged s) ∧
    (∀ t s x, .did t ⟨.putCartSnapshot s, x⟩ ∈ run.log → Charged s) ∧
    (∀ t command cartId s, .returned t (.cart command cartId (.ok s)) ∈ run.log → Charged s) := by
  intro run
  have hempty : ∀ c s, World.empty.events.getCartSnapshot c = some s → Charged s := by
    intro c s hs
    cases hs
  have hrun : ∃ φ, Everywhere calls Charged run.world φ run.log :=
    atOnce_everywhere (A := fun _ => True) (fun _ _ => trivial)
      (fun call read s hread hp => Puts.charged hp hread) hempty hkeeps
  obtain ⟨φ, h⟩ := hrun
  exact ⟨h.stored, h.put, h.returned⟩

/-! ## Two methods -/

namespace Sample

def shipTo : FulfillmentDestination := .shipping "dest_1" {}

/-- Standard shipping for everything. -/
def ship : Call :=
  .cart (.setFulfillmentSelection ⟨.shipping, [], shipTo, some "standard"⟩) (some cart.cartId)

/-- A look at what picking up would cost; nothing is selected. -/
def quotePickup : Call :=
  .cart (.setFulfillmentSelection ⟨.pickup, [], .retail "store" "Store" none, none⟩)
    (some cart.cartId)

/-- Each call to its end, before the next one starts. -/
def inTurn (calls : List Call) : List Nat :=
  (List.range calls.length).flatMap (List.replicate 30)

def shipped : List Call := shopping ++ [ship]

end Sample

theorem fulfillment_charged_as_selected_sample :
    ∃ s, (atOnce Env.agreeable Sample.runner Sample.shipped (Sample.inTurn Sample.shipped)
      World.empty).world.events.getCartSnapshot Sample.cart.cartId = some s ∧ Charged s := by
  have hkeeps : EditsMeet Sample.shipped KeepsNoCharge (atOnce Env.agreeable Sample.runner
      Sample.shipped (Sample.inTurn Sample.shipped) World.empty).log := by
    decide +kernel
  have hstored : ((atOnce Env.agreeable Sample.runner Sample.shipped (Sample.inTurn Sample.shipped)
      World.empty).world.events.getCartSnapshot Sample.cart.cartId).isSome := by
    decide +kernel
  obtain ⟨s, hs⟩ := Option.isSome_iff_exists.mp hstored
  exact ⟨s, hs, (fulfillment_charged_as_selected _ _ _ _ hkeeps).1 _ s hs⟩

/-- A quote for picking up drops the charge for shipping, which stays selected. -/
theorem quote_drops_the_charge :
    let calls := Sample.shipped ++ [Sample.quotePickup]
    let run := atOnce Env.agreeable Sample.runner calls (Sample.inTurn calls) World.empty
    ∃ s ∈ run.world.events.getCartSnapshot Sample.cart.cartId,
      s.selectedMinor = 500 ∧ s.fulfillmentMinor = 0 ∧ ¬ Charged s := by
  decide +kernel

end Orchestrator
