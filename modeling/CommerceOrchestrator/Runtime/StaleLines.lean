/-
# `CommerceOrchestrator.Runtime.StaleLines` — lines of no items, and lines that are gone

An addition is refused if it adds nothing, a change of quantity is not; and a line is removed
from the cart but not from the fulfillment that lists it.  `snapshots_current` says that
these two are all there is: where no call does either, every line of every snapshot orders
something and fulfillment lists lines of the cart.
-/
import CommerceOrchestrator.Runtime.CartStructure
import CommerceOrchestrator.Runtime.EditChecks

namespace Orchestrator

open Effect Prog

/-! ## The invariant -/

/-- The lines a method and its groups list. -/
def FulfillmentMethod.references (method : FulfillmentMethod) : List String :=
  method.lineItemIds ++ method.groups.flatMap (·.lineItemIds)

def CartProjection.references (s : CartProjection) : List String :=
  s.methods.flatMap (·.references)

/-- Every line orders something, and every line listed is there. -/
structure CartProjection.Current (s : CartProjection) : Prop where
  quantities : ∀ line ∈ s.lines, 1 ≤ line.quantity
  references : ∀ id ∈ s.references, id ∈ s.lineIds

instance CartProjection.Current.decidable {s : CartProjection} : Decidable s.Current :=
  decidable_of_iff ((∀ line ∈ s.lines, 1 ≤ line.quantity) ∧ ∀ id ∈ s.references, id ∈ s.lineIds)
    ⟨fun h => ⟨h.1, h.2⟩, fun h => ⟨h.1, h.2⟩⟩

/-- What a call has made sure of before it puts. -/
def Ensures : Call → CartProjection → CartProjection → Prop
  | .cart (.addItem payload) _, _, _ => 1 ≤ payload.quantity
  | .cart (.setFulfillmentSelection _) _, read, put =>
      ∀ id ∈ put.references, id ∈ read.references ∨ id ∈ read.lineIds
  | _, _, _ => True

/-- The condition on an edit: no quantity is set to nothing, and a line that is removed is not
listed in fulfillment. -/
def KeepsCurrent : Call → CartProjection → CartProjection → Prop
  | .cart (.updateItemQty payload) _, _, _ => 1 ≤ payload.quantity
  | .cart (.removeItem payload) _, read, _ => payload.lineId ∉ read.references
  | _, _, _ => True

instance {call : Call} {read put : CartProjection} : Decidable (KeepsCurrent call read put) :=
  match call with
  | .cart (.updateItemQty payload) _ => inferInstanceAs (Decidable (1 ≤ payload.quantity))
  | .cart (.removeItem payload) _ =>
      inferInstanceAs (Decidable (payload.lineId ∉ read.references))
  | .cart (.createCart _) _ | .cart (.addItem _) _ | .cart (.applyAdjustment _) _
  | .cart (.setFulfillmentSelection _) _ | .cart (.getCart _) _ | .cart (.startCheckout _) _
  | .cart (.cancelCart _) _ | .checkout _ => isTrue trivial

/-! ## What calls make sure of -/

section Checks

variable {runner : Runner} {q : Progress}

/-- A selection lists lines of the cart, besides what was listed. -/
theorem references_setMethod {cart s : CartProjection} {payload : SetFulfillmentSelectionPayload}
    {lines : List String} {options : List FulfillmentOption} {group method : Uuid}
    (hmethods : s.methods = cart.otherMethods payload.methodType ++
      [payload.method lines options group method])
    (hlines : ∀ id ∈ lines, id ∈ cart.lineIds) :
    ∀ id ∈ s.references, id ∈ cart.references ∨ id ∈ cart.lineIds := by
  intro id hid
  obtain ⟨m, hm, hid⟩ := List.mem_flatMap.mp hid
  rw [hmethods] at hm
  rcases List.mem_append.mp hm with hm | hm
  · exact Or.inl (List.mem_flatMap.mpr ⟨m, List.mem_of_mem_filter hm, hid⟩)
  · obtain rfl := List.mem_singleton.mp hm
    refine Or.inr (hlines id ?_)
    simpa [FulfillmentMethod.references, SetFulfillmentSelectionPayload.method] using hid

theorem setFulfillmentSelection_checks (payload : SetFulfillmentSelectionPayload)
    (cartId : Option CartId) :
    (setFulfillmentSelection runner payload cartId).run.Follows (checkMonitor Ensures)
      (onOk fun _ _ => True) ⟨.cart (.setFulfillmentSelection payload) cartId, none, none, false⟩ := by
  unfold setFulfillmentSelection
  refine follows_okOr fun c hc => follows_run_bind ⟨⟨rfl, rfl⟩, fun x _ => ?_⟩
  cases x with
  | none => exact trivial
  | some s =>
      refine follows_run_then follows_selectedLines fun lines _ hr => ?_
      obtain ⟨hlines, -, rfl⟩ := hr
      refine (unseen_quoteOptions fun _ => ⟨trivial, fun _ => rfl⟩).then fun options => ?_
      refine follows_failIf fun _ => follows_call trivial fun group _ =>
        follows_call trivial fun method _ => ?_
      refine follows_run_then (follows_applyDiscounts ⟨trivial, fun _ => rfl⟩) fun _ _ hr => ?_
      obtain ⟨⟨ds, discount, total, rfl⟩, rfl⟩ := hr
      refine (unseen_checkGeo ⟨trivial, fun _ => rfl⟩).then fun allowed => ?_
      refine (unseen_append ⟨trivial, fun _ => rfl⟩).then fun _ => ?_
      refine follows_tryWith_bind ⟨fun r hr => ?_, fun x _ => by cases x <;> trivial⟩
      obtain rfl := Option.some.inj hr
      exact references_setMethod rfl hlines

/-- An addition of nothing is refused. -/
theorem addItem_positive {payload : AddItemPayload}
    (hvalid : validateCartCommand (.addItem payload) = []) : 1 ≤ payload.quantity := by
  have hquantity := (List.append_eq_nil_iff.mp hvalid).2
  by_contra hzero
  have hzero : payload.quantity = 0 := by omega
  rw [hzero] at hquantity
  exact List.cons_ne_nil _ _ hquantity

/-- **Every call makes sure** that it adds something, and lists lines of the cart. -/
theorem Call.prog_ensures (call : Call) :
    (call.prog runner).Follows (checkMonitor Ensures) (fun _ _ => True)
      ⟨call, none, none, false⟩ := by
  by_cases hselects : ∃ payload cartId, call = .cart (.setFulfillmentSelection payload) cartId
  · obtain ⟨payload, cartId, rfl⟩ := hselects
    have hfollows : (dispatchCartCommand runner (.setFulfillmentSelection payload) cartId).run.Follows
        (checkMonitor Ensures) (onOk fun _ _ => True)
        ⟨.cart (.setFulfillmentSelection payload) cartId, none, none, false⟩ :=
      follows_failIf fun _ => setFulfillmentSelection_checks payload cartId
    exact follows_bind.mpr (hfollows.mono fun _ _ _ => trivial)
  · by_cases hadds : ∃ payload cartId, call = .cart (.addItem payload) cartId ∧ payload.quantity = 0
    · obtain ⟨payload, cartId, rfl, hzero⟩ := hadds
      have hfollows : (dispatchCartCommand runner (.addItem payload) cartId).run.Follows
          (checkMonitor Ensures) (onOk fun _ _ => True)
          ⟨.cart (.addItem payload) cartId, none, none, false⟩ := by
        refine follows_failIf fun hvalid => ?_
        have := addItem_positive (not_not.mp hvalid)
        omega
      exact follows_bind.mpr (hfollows.mono fun _ _ _ => trivial)
    · refine Call.prog_checks fun r s hedited => ?_
      cases hedited with
      | added payload cartId =>
          refine Nat.one_le_iff_ne_zero.mpr fun hzero => hadds ⟨payload, cartId, rfl, hzero⟩
      | selected payload cartId => exact absurd ⟨payload, cartId, rfl⟩ hselects
      | _ => trivial

end Checks

/-! ## Edits -/

section Edits

variable {A : Answers} {runner : Runner} {call : Call} {s s' : CartProjection}

theorem quantities_iff : (∀ line ∈ s.lines, 1 ≤ line.quantity) ↔
    ∀ ordered ∈ s.lines.map (·.ordered), 1 ≤ ordered.2.2 := by
  simp [CartLineProjection.ordered]

theorem mem_updateLine {lineId : String} {f : CartLineProjection → CartLineProjection}
    {line : CartLineProjection} {lines : List CartLineProjection}
    (h : line ∈ updateLine lineId f lines) : line ∈ lines ∨ ∃ old ∈ lines, line = f old := by
  induction lines with
  | nil => exact Or.inl h
  | cons old lines ih =>
      unfold updateLine at h
      split at h
      · rcases List.mem_cons.mp h with rfl | h
        · exact Or.inr ⟨old, List.mem_cons_self, rfl⟩
        · exact Or.inl (List.mem_cons_of_mem _ h)
      · rcases List.mem_cons.mp h with rfl | h
        · exact Or.inl List.mem_cons_self
        · rcases ih h with h | ⟨old', hold, rfl⟩
          · exact Or.inl (List.mem_cons_of_mem _ h)
          · exact Or.inr ⟨old', List.mem_cons_of_mem _ hold, rfl⟩

theorem CartProjection.Current.of_contents (h : s.Current) (hcontents : s'.contents = s.contents) :
    s'.Current := by
  have hordered : s'.lines.map (·.ordered) = s.lines.map (·.ordered) := congrArg Prod.fst hcontents
  have hfulfillment : s'.fulfillment = s.fulfillment := congrArg (·.2.2) hcontents
  refine ⟨?_, ?_⟩
  · rw [quantities_iff, hordered, ← quantities_iff]
    exact h.quantities
  · rw [lineIds_of_contents hcontents]
    rw [CartProjection.references, CartProjection.methods, hfulfillment]
    exact h.references

theorem Edited.current (h : Edited A runner call s s') (hs : s.Current)
    (hensures : Ensures call s s') (hkeeps : KeepsCurrent call s s') : s'.Current := by
  cases h with
  | added payload cartId item id _ _ hr =>
      refine CartProjection.Current.of_contents ⟨fun line hline => ?_, fun i hi => ?_⟩ hr.same.2.2
      · rcases List.mem_append.mp hline with hline | hline
        · exact hs.quantities line hline
        · obtain rfl := List.mem_singleton.mp hline
          exact hensures
      · exact ((List.sublist_append_left _ _).map _).subset (hs.references i hi)
  | requantified payload cartId _ hr =>
      refine CartProjection.Current.of_contents ⟨fun line hline => ?_, fun i hi => ?_⟩ hr.same.2.2
      · rcases mem_updateLine hline with hold | ⟨old, -, rfl⟩
        · exact hs.quantities line hold
        · exact hkeeps
      · rw [setQuantity_lineIds]
        exact hs.references i hi
  | removed payload cartId hr =>
      refine CartProjection.Current.of_contents ⟨fun line hline => ?_, fun i hi => ?_⟩ hr.same.2.2
      · exact hs.quantities line (List.mem_of_mem_filter hline)
      · obtain ⟨line, hline, rfl⟩ := List.mem_map.mp (hs.references i hi)
        refine List.mem_map.mpr ⟨line, List.mem_filter.mpr ⟨hline, ?_⟩, rfl⟩
        exact decide_eq_true fun heq => hkeeps (heq ▸ hi)
  | adjusted payload cartId hr =>
      have hcode : (s.addCode payload.code).Current := ⟨hs.quantities, hs.references⟩
      exact hcode.of_contents hr.same.2.2
  | repriced request _ hr => exact hs.of_contents hr.same.2.2
  | readied payload cartId _ => exact ⟨hs.quantities, hs.references⟩
  | cancelled payload cartId => exact ⟨hs.quantities, hs.references⟩
  | @selected payload cartId lineItemIds options group method geo _ discounted _ _ hd _ =>
      have hlines : discounted.lines = s.lines := hd.lines
      refine ⟨?_, fun id hid => ?_⟩
      · show ∀ line ∈ discounted.lines, _
        rw [hlines]
        exact hs.quantities
      · show id ∈ discounted.lineIds
        rw [lineIds_of_lines hlines]
        exact (hensures id hid).elim (hs.references id) fun hid => hid

/-- What a call puts. -/
theorem Puts.current {read : Option CartProjection} (h : Puts A runner call read s)
    (hread : ∀ r, read = some r → r.Current ∧ Ensures call r s ∧ KeepsCurrent call r s) :
    s.Current := by
  cases h with
  | created payload cartId id _ =>
      exact ⟨fun _ h => absurd h List.not_mem_nil, fun _ h => absurd h List.not_mem_nil⟩
  | edited he =>
      obtain ⟨hr, hensures, hkeeps⟩ := hread _ rfl
      exact he.current hr hensures hkeeps

end Edits

/-! ## Runs -/

/-- **No stale or empty lines.**  However calls interleave and whatever is answered, as long as
no edit sets a quantity to nothing or removes a line that fulfillment lists, every snapshot
stored, put or returned is current. -/
theorem snapshots_current (env : Env) (runner : Runner) (calls : List Call) (ts : List Nat)
    (hkeeps : EditsMeet calls KeepsCurrent (atOnce env runner calls ts World.empty).log) :
    let run := atOnce env runner calls ts World.empty
    (∀ c s, run.world.events.getCartSnapshot c = some s → s.Current) ∧
    (∀ t s x, .did t ⟨.putCartSnapshot s, x⟩ ∈ run.log → s.Current) ∧
    (∀ t command cartId s, .returned t (.cart command cartId (.ok s)) ∈ run.log →
      s.Current) := by
  intro run
  have hensures : EditsMeet calls Ensures run.log := atOnce_editsMeet Call.prog_ensures
  obtain ⟨φ, h⟩ : ∃ φ, Everywhere calls CartProjection.Current run.world φ run.log :=
    atOnce_everywhere (A := fun _ => True) (fun _ _ => trivial)
      (fun call read s hread hp => Puts.current hp hread) (fun c s hs => by cases hs)
      (hensures.and hkeeps)
  exact ⟨h.stored, h.put, h.returned⟩

theorem snapshots_current_sample :
    ∃ s, (atOnce Env.agreeable Sample.runner Sample.shipped (Sample.inTurn Sample.shipped)
      World.empty).world.events.getCartSnapshot Sample.cart.cartId = some s ∧ s.Current := by
  have hkeeps : EditsMeet Sample.shipped KeepsCurrent (atOnce Env.agreeable Sample.runner
      Sample.shipped (Sample.inTurn Sample.shipped) World.empty).log := by
    decide +kernel
  have hstored : ((atOnce Env.agreeable Sample.runner Sample.shipped (Sample.inTurn Sample.shipped)
      World.empty).world.events.getCartSnapshot Sample.cart.cartId).isSome := by
    decide +kernel
  obtain ⟨s, hs⟩ := Option.isSome_iff_exists.mp hstored
  exact ⟨s, hs, (snapshots_current _ _ _ _ hkeeps).1 _ s hs⟩

/-- A line of no items, and a line that shipping lists and the cart no longer has. -/
theorem lines_left_over :
    let emptied := Sample.shipped ++
      [.cart (.updateItemQty ⟨"li_6", 0⟩) (some Sample.cart.cartId)]
    let removed := Sample.shipped ++ [.cart (.removeItem ⟨"li_6"⟩) (some Sample.cart.cartId)]
    (∃ s ∈ (atOnce Env.agreeable Sample.runner emptied (Sample.inTurn emptied)
        World.empty).world.events.getCartSnapshot Sample.cart.cartId,
      s.lines.map (·.quantity) = [0] ∧ ¬ s.Current) ∧
    ∃ s ∈ (atOnce Env.agreeable Sample.runner removed (Sample.inTurn removed)
        World.empty).world.events.getCartSnapshot Sample.cart.cartId,
      s.lines = [] ∧ s.references = ["li_6", "li_6"] ∧ ¬ s.Current := by
  decide +kernel

end Orchestrator
