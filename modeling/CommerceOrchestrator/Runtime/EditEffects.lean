/-
# `CommerceOrchestrator.Runtime.EditEffects` — what an edit does and what it leaves alone

After a command has edited a cart, what it was for shows in the snapshot
(`Edited.shown`): its line, its quantity, its code, its selection.  And whatever
it is not about is still there (`Edited.spared`).
-/
import CommerceOrchestrator.Runtime.Fulfillment

namespace Orchestrator

open Effect

/-- The answers an environment may give. -/
def Env.answers (env : Env) : Answers := fun e => ∃ v : World, (env.handle e.1 v).1 = e.2

/-- The methods of a cart's fulfillment. -/
def CartProjection.methods (cart : CartProjection) : List FulfillmentMethod :=
  (cart.fulfillment.map (·.methods)).getD []

section Edits

variable (A : Answers)

/-- What the call was for shows in the snapshot. -/
def Call.Shown : Call → CartProjection → Prop
  | .cart (.addItem payload) _, s =>
      ∃ line ∈ s.lines, line.quantity = payload.quantity ∧
        ∃ item : CatalogItem, A ⟨.getItem payload.itemId, .ok item⟩ ∧ line.itemId = item.id
  | .cart (.updateItemQty payload) _, s =>
      ∃ line ∈ s.lines, line.lineId = payload.lineId ∧ line.quantity = payload.quantity
  | .cart (.removeItem payload) _, s => ∀ line ∈ s.lines, line.lineId ≠ payload.lineId
  | .cart (.applyAdjustment payload) _, s => payload.code ∈ s.adjustmentCodes
  | .cart (.setFulfillmentSelection payload) _, s =>
      ∃ method ∈ s.methods, method.methodType = payload.methodType ∧
        method.destinations = [payload.destination] ∧
        method.groups.map (·.selectedOptionId) = [payload.selectedOptionId]
  | .cart (.startCheckout _) _, s => s.status = .checkoutReady
  | .cart (.cancelCart _) _, s => s.status = .cancelled
  | _, _ => True

/-- The line a call is about. -/
def Call.line : Call → Option String
  | .cart (.updateItemQty payload) _ => some payload.lineId
  | .cart (.removeItem payload) _ => some payload.lineId
  | _ => none

/-- The fulfillment method a call is about. -/
def Call.methodType : Call → Option FulfillmentMethodType
  | .cart (.setFulfillmentSelection payload) _ => some payload.methodType
  | _ => none

/-- What a call leaves alone: lines and methods it is not about, codes, and the
absence of lines other than one it adds. -/
structure Spared (call : Call) (s s' : CartProjection) : Prop where
  lines : ∀ line ∈ s.lines, call.line ≠ some line.lineId →
    line.ordered ∈ s'.lines.map (·.ordered)
  codes : ∀ code ∈ s.adjustmentCodes, code ∈ s'.adjustmentCodes
  methods : ∀ method ∈ s.methods, call.methodType ≠ some method.methodType → method ∈ s'.methods
  absent : ∀ line' ∈ s'.lines, (∃ line ∈ s.lines, line.lineId = line'.lineId) ∨
    ∃ payload cartId, call = .cart (.addItem payload) cartId ∧
      ∃ id : Uuid, A ⟨.newUuid, id⟩ ∧ line'.lineId = "li_" ++ id.render

variable {A} {runner : Runner} {call : Call} {s s' s'' : CartProjection}

theorem exists_line_of_ordered {P : String × String × Nat → Prop}
    (h : s'.lines.map (·.ordered) = s.lines.map (·.ordered))
    (hs : ∃ line ∈ s.lines, P line.ordered) : ∃ line ∈ s'.lines, P line.ordered := by
  obtain ⟨line, hl, hP⟩ := hs
  have hm : line.ordered ∈ s'.lines.map (·.ordered) := h ▸ List.mem_map_of_mem hl
  obtain ⟨line', hl', he⟩ := List.mem_map.mp hm
  exact ⟨line', hl', he ▸ hP⟩

/-- What shows is a matter of contents and status. -/
theorem Call.Shown.of_contents (h : call.Shown A s) (hcontents : s'.contents = s.contents)
    (hstatus : s'.status = s.status) : call.Shown A s' := by
  have hlines : s'.lines.map (·.ordered) = s.lines.map (·.ordered) := congrArg Prod.fst hcontents
  have hcodes : s'.adjustmentCodes = s.adjustmentCodes := congrArg (·.2.1) hcontents
  have hfulfillment : s'.fulfillment = s.fulfillment := congrArg (·.2.2) hcontents
  cases call with
  | checkout request => trivial
  | cart command cartId =>
      cases command with
      | createCart payload => trivial
      | getCart payload => trivial
      | addItem payload =>
          exact exists_line_of_ordered (P := fun x => x.2.2 = payload.quantity ∧
            ∃ item : CatalogItem, A ⟨.getItem payload.itemId, .ok item⟩ ∧ x.2.1 = item.id) hlines h
      | updateItemQty payload =>
          exact exists_line_of_ordered (P := fun x => x.1 = payload.lineId ∧
            x.2.2 = payload.quantity) hlines h
      | removeItem payload =>
          intro line hl he
          obtain ⟨line', hl', he'⟩ := exists_line_of_ordered (P := fun x => x.1 = payload.lineId)
            hlines.symm ⟨line, hl, he⟩
          exact h line' hl' he'
      | applyAdjustment payload =>
          show payload.code ∈ s'.adjustmentCodes
          rw [hcodes]
          exact h
      | setFulfillmentSelection payload =>
          show ∃ method ∈ (s'.fulfillment.map (·.methods)).getD [], _
          rw [hfulfillment]
          exact h
      | startCheckout payload => exact hstatus.trans h
      | cancelCart payload => exact hstatus.trans h

theorem Spared.of_contents (h : Spared A call s s') (hcontents : s''.contents = s'.contents) :
    Spared A call s s'' := by
  have hlines : s''.lines.map (·.ordered) = s'.lines.map (·.ordered) := congrArg Prod.fst hcontents
  have hcodes : s''.adjustmentCodes = s'.adjustmentCodes := congrArg (·.2.1) hcontents
  have hfulfillment : s''.fulfillment = s'.fulfillment := congrArg (·.2.2) hcontents
  constructor
  · rw [hlines]
    exact h.lines
  · rw [hcodes]
    exact h.codes
  · rw [CartProjection.methods, CartProjection.methods, hfulfillment]
    exact h.methods
  · intro line hl
    obtain ⟨line', hl', he⟩ := exists_line_of_ordered (P := fun x => x.1 = line.lineId)
      hlines.symm ⟨line, hl, rfl⟩
    have hid : line'.lineId = line.lineId := he
    rw [← hid]
    exact h.absent line' hl'

/-- An edit that touches neither lines, codes nor methods. -/
theorem spared_of_same (hcontents : s'.contents = s.contents) : Spared A call s s' := by
  have hsame : Spared A call s s :=
    ⟨fun line hl _ => List.mem_map_of_mem hl, fun _ h => h, fun _ h _ => h,
      fun line hl => Or.inl ⟨line, hl, rfl⟩⟩
  exact hsame.of_contents hcontents

theorem mem_updateLine_of_ne {lineId : String} {f : CartLineProjection → CartLineProjection}
    {lines : List CartLineProjection} {line : CartLineProjection} (hl : line ∈ lines)
    (hne : line.lineId ≠ lineId) : line ∈ updateLine lineId f lines := by
  induction lines with
  | nil => exact absurd hl List.not_mem_nil
  | cons first lines ih =>
      unfold updateLine
      split
      · next hfirst =>
          rcases List.mem_cons.mp hl with rfl | hl
          · exact absurd hfirst hne
          · exact List.mem_cons_of_mem _ hl
      · rcases List.mem_cons.mp hl with rfl | hl
        · exact List.mem_cons_self
        · exact List.mem_cons_of_mem _ (ih hl)

theorem exists_updateLine {lineId : String} {f : CartLineProjection → CartLineProjection}
    {lines : List CartLineProjection} (h : ∃ line ∈ lines, line.lineId = lineId) :
    ∃ line, line.lineId = lineId ∧ f line ∈ updateLine lineId f lines := by
  induction lines with
  | nil =>
      obtain ⟨line, hl, -⟩ := h
      exact absurd hl List.not_mem_nil
  | cons first lines ih =>
      unfold updateLine
      split
      · next hfirst => exact ⟨first, hfirst, List.mem_cons_self⟩
      · next hfirst =>
          obtain ⟨line, hl, he⟩ := h
          rcases List.mem_cons.mp hl with rfl | hl
          · exact absurd he hfirst
          · obtain ⟨line', he', hm⟩ := ih ⟨line, hl, he⟩
            exact ⟨line', he', List.mem_cons_of_mem _ hm⟩

theorem Recalculated.status (h : Recalculated A s s') : s'.status = s.status := by
  obtain ⟨ps, tax, discounted, geo, -, -, hd, -⟩ := h
  cases hd <;> rfl

theorem Edited.shown (h : Edited A runner call s s') : call.Shown A s' := by
  cases h with
  | added payload cartId item id hitem _ hr =>
      have hpre : (Call.cart (.addItem payload) cartId).Shown A
          (s.addLine (payload.line item id)) :=
        ⟨payload.line item id, List.mem_append_right _ (List.mem_singleton_self _), rfl, item,
          hitem, rfl⟩
      exact hpre.of_contents hr.same.2.2 hr.status
  | requantified payload cartId hline hr =>
      have hpre : (Call.cart (.updateItemQty payload) cartId).Shown A (s.setQuantity payload) := by
        obtain ⟨line, he, hm⟩ := exists_updateLine (f := fun line =>
          { line with quantity := payload.quantity
                      totalMinor := line.unitPriceMinor * payload.quantity }) hline
        exact ⟨_, hm, he, rfl⟩
      exact hpre.of_contents hr.same.2.2 hr.status
  | removed payload cartId hr =>
      have hpre : (Call.cart (.removeItem payload) cartId).Shown A (s.dropLine payload.lineId) := by
        intro line hl
        exact of_decide_eq_true (List.mem_filter.mp hl).2
      exact hpre.of_contents hr.same.2.2 hr.status
  | adjusted payload cartId hr =>
      have hpre : (Call.cart (.applyAdjustment payload) cartId).Shown A (s.addCode payload.code) := by
        show payload.code ∈ if _ then _ else _
        split
        · assumption
        · exact List.mem_append_right _ (List.mem_singleton_self _)
      exact hpre.of_contents hr.same.2.2 hr.status
  | @selected payload cartId lineItemIds options group method geo _ discounted _ _ hd _ =>
      refine ⟨payload.method lineItemIds options group method, ?_, rfl, rfl, rfl⟩
      show _ ∈ (discounted.fulfillment.map (·.methods)).getD []
      rw [hd.fulfillment.1]
      exact List.mem_append_right _ (List.mem_singleton_self _)
  | readied payload cartId _ => rfl
  | cancelled payload cartId => rfl
  | repriced request _ _ => trivial

theorem Edited.spared (h : Edited A runner call s s') : Spared A call s s' := by
  cases h with
  | added payload cartId item id _ hid hr =>
      have hpre : Spared A (.cart (.addItem payload) cartId) s
          (s.addLine (payload.line item id)) := by
        refine ⟨fun line hl _ => List.mem_map_of_mem (List.mem_append_left _ hl), fun _ h => h,
          fun _ h _ => h, fun line hl => ?_⟩
        rcases List.mem_append.mp hl with hl | hl
        · exact Or.inl ⟨line, hl, rfl⟩
        · obtain rfl := List.mem_singleton.mp hl
          exact Or.inr ⟨payload, cartId, rfl, id, hid, rfl⟩
      exact hpre.of_contents hr.same.2.2
  | requantified payload cartId _ hr =>
      have hpre : Spared A (.cart (.updateItemQty payload) cartId) s (s.setQuantity payload) := by
        refine ⟨fun line hl hne => ?_, fun _ h => h, fun _ h _ => h, fun line hl => Or.inl ?_⟩
        · have hne : line.lineId ≠ payload.lineId := fun he => hne (congrArg some he.symm)
          exact List.mem_map_of_mem (mem_updateLine_of_ne hl hne)
        · have hm : line.lineId ∈ (s.setQuantity payload).lines.map (·.lineId) :=
            List.mem_map_of_mem hl
          have hids : (s.setQuantity payload).lines.map (·.lineId) = s.lines.map (·.lineId) :=
            updateLine_map (f := fun line => { line with
              quantity := payload.quantity
              totalMinor := line.unitPriceMinor * payload.quantity }) (·.lineId) (fun _ => rfl) s.lines
          rw [hids] at hm
          exact List.mem_map.mp hm
      exact hpre.of_contents hr.same.2.2
  | removed payload cartId hr =>
      have hpre : Spared A (.cart (.removeItem payload) cartId) s (s.dropLine payload.lineId) := by
        refine ⟨fun line hl hne => ?_, fun _ h => h, fun _ h _ => h, fun line hl => Or.inl ?_⟩
        · have hne : line.lineId ≠ payload.lineId := fun he => hne (congrArg some he.symm)
          exact List.mem_map_of_mem (List.mem_filter.mpr ⟨hl, decide_eq_true hne⟩)
        · exact ⟨line, List.mem_of_mem_filter hl, rfl⟩
      exact hpre.of_contents hr.same.2.2
  | adjusted payload cartId hr =>
      have hpre : Spared A (.cart (.applyAdjustment payload) cartId) s (s.addCode payload.code) := by
        refine ⟨fun line hl _ => List.mem_map_of_mem hl, fun code hc => ?_, fun _ h _ => h,
          fun line hl => Or.inl ⟨line, hl, rfl⟩⟩
        show code ∈ if _ then _ else _
        split
        · exact hc
        · exact List.mem_append_left _ hc
      exact hpre.of_contents hr.same.2.2
  | @selected payload cartId lineItemIds options group method geo _ discounted _ _ hd _ =>
      have hpre : Spared A (.cart (.setFulfillmentSelection payload) cartId) s
          (s.setMethod (payload.method lineItemIds options group method)
            (payload.amountMinor options)) := by
        refine ⟨fun line hl _ => List.mem_map_of_mem hl, fun _ h => h, fun m hm hne => ?_,
          fun line hl => Or.inl ⟨line, hl, rfl⟩⟩
        have hne : m.methodType ≠ payload.methodType := fun he => hne (congrArg some he.symm)
        exact List.mem_append_left _ (List.mem_filter.mpr ⟨hm, decide_eq_true hne⟩)
      refine hpre.of_contents ?_
      cases hd <;> rfl
  | readied payload cartId _ => exact spared_of_same rfl
  | cancelled payload cartId => exact spared_of_same rfl
  | repriced request _ hr => exact spared_of_same hr.same.2.2

end Edits

end Orchestrator
