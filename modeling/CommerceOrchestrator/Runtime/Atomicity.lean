/-
# `CommerceOrchestrator.Runtime.Atomicity` — what a failed command leaves behind

With stores that answer, a command can still be turned down: by its own checks,
by the cart state machine, by a provider.  Of these only two kinds come after a
write.  `mutateAndRecalculate` has moved the state machine and written the event
log before it asks for prices, tax, discounts and the geo verdict, and
`startCheckout` and `cancelCart` put the snapshot before they ask the state
machine.  `failed_command_atomic` says that there are no others.
-/
import CommerceOrchestrator.Runtime.Endings

namespace Orchestrator

open Effect Prog

variable {env : Env} {runner : Runner} {w : World} {c : CartId}

/-! ## How commands end, as far as failures go -/

section Endings

variable {command : CartCommand} {cartId : Option CartId}
  {r : Except RunnerError CartProjection} {E : InMemoryEventStore} {rs : List CartState}

/-- How a recalculation ends: the cart's state machine does not admit a change, or the
cart is stored, or a provider refuses halfway. -/
inductive Mutation (env : Env) (w : World) (c id : CartId) :
    Except RunnerError CartProjection → InMemoryEventStore → List CartState → Prop
  | stuck (e : RunnerError) : w.events.next c .itemChanged = none →
      Mutation env w c id (.error e) w.events []
  | stored (s : CartProjection) {E : InMemoryEventStore} :
      (w.events.next c .itemChanged).isSome → s.cartId = id → Walked w.events E c .geoChecked →
      Mutation env w c id (.ok s) (E.putCartSnapshot s) []
  | refused (e : RunnerError) (st : CartState) {E : InMemoryEventStore} :
      (w.events.next c .itemChanged).isSome → Walked w.events E c st → ¬ env.Willing w.clock →
      Mutation env w c id (.error e) E [st]

theorem Recalculation.mutation {cart : CartProjection} {entry : CartStreamEvent}
    (h : Recalculation w c cart entry r E rs) (hwilling : env.Willing w.clock → rs = []) :
    Mutation env w c cart.cartId r E rs := by
  cases h with
  | stuck e hstuck => exact .stuck e hstuck
  | stored s quiets hopen hrecalc hlogged _ =>
      exact .stored s hopen hrecalc.keeps.cartId hlogged.walked
  | refused e st quiets hopen hlogged _ _ =>
      exact .refused e st hopen hlogged.walked fun h => List.cons_ne_nil _ _ (hwilling h)

/-- How a command that recalculates ends: it does not come to the recalculation, for
want of a cart, of a line or of a willing catalog, or it does. -/
inductive Attempt (env : Env) (w : World) (command : CartCommand) (cartId : Option CartId) :
    Except RunnerError CartProjection → InMemoryEventStore → List CartState → Prop
  | barred (e : RunnerError) :
      (env.Willing w.clock → ∀ c s, cartId = some c → w.events.getCartSnapshot c = some s →
        command.misses s) →
      Attempt env w command cartId (.error e) w.events []
  | made (c : CartId) (s : CartProjection) {r : Except RunnerError CartProjection}
      {E : InMemoryEventStore} {rs : List CartState} : cartId = some c →
      w.events.getCartSnapshot c = some s → Mutation env w c s.cartId r E rs →
      Attempt env w command cartId r E rs

/-- Willing providers list every item. -/
theorem Env.Willing.listed {n : Nat} (h : env.Willing n) (command : CartCommand) :
    command.Listed env n := by
  cases command with
  | addItem payload => exact h.getItem n payload.itemId (Nat.le_refl n)
  | applyAdjustment payload => exact fun itemId _ => h.getItem (n + 1) itemId (Nat.le_succ n)
  | _ => trivial

theorem Tried.attempt (h : Tried env w command cartId r E rs) (hcommand : command.recalculates)
    (hvalid : validateCartCommand command = []) (hwilling : env.Willing w.clock → rs = []) :
    Attempt env w command cartId r E rs := by
  cases h with
  | barred e hno =>
      by_cases hstuck : ∃ c s, cartId = some c ∧ w.events.getCartSnapshot c = some s ∧
          w.events.next c .itemChanged = none
      · obtain ⟨c, s, hc, hstored, hnext⟩ := hstuck
        exact .made c s hc hstored (.stuck e hnext)
      · refine .barred e fun h c s hc hstored => ?_
        by_contra hmiss
        refine hno c s ⟨hcommand, hvalid, hc, hstored, hmiss, h.listed command, ?_⟩
        by_contra hclosed
        exact hstuck ⟨c, s, hc, hstored, Option.not_isSome_iff_eq_none.mp hclosed⟩
  | made c s s₁ entry hc hstored _ _ hchange hr =>
      exact .made c s hc hstored (hchange.cartId ▸ hr.mutation hwilling)

/-- How a fulfillment selection ends. -/
inductive Selection (w : World) (cartId : Option CartId) :
    Except RunnerError CartProjection → InMemoryEventStore → Prop
  | barred (e : RunnerError) : Selection w cartId (.error e) w.events
  | stored (c : CartId) (s s' : CartProjection) (entry : CartStreamEvent) : cartId = some c →
      w.events.getCartSnapshot c = some s → s'.cartId = s.cartId →
      Selection w cartId (.ok s') ((w.events.appendCartEvent c entry).putCartSnapshot s')

theorem Chosen.selection (h : Chosen w cartId r E) : Selection w cartId r E := by
  cases h with
  | barred e => exact .barred e
  | stored c s s' entry hc hstored hkeeps _ => exact .stored c s s' entry hc hstored hkeeps.cartId

/-- How a command that declares a cart ready or cancelled ends.  It has stored the
snapshot by the time it asks the state machine. -/
inductive Declaration (w : World) (c : CartId) (fits : CartProjection → Prop) (event : CartEvent) :
    Except RunnerError CartProjection → InMemoryEventStore → Prop
  | barred (e : RunnerError) : (∀ s, w.events.getCartSnapshot c = some s → ¬ fits s) →
      Declaration w c fits event (.error e) w.events
  | stuck (e : RunnerError) (s s' : CartProjection) (entry : CartStreamEvent) :
      w.events.getCartSnapshot c = some s → fits s → s'.cartId = s.cartId →
      w.events.next c event = none →
      Declaration w c fits event (.error e)
        ((w.events.appendCartEvent c entry).putCartSnapshot s')
  | made (s s' : CartProjection) (entry : CartStreamEvent) (st : CartState) :
      w.events.getCartSnapshot c = some s → fits s → s'.cartId = s.cartId →
      w.events.next c event = some st →
      Declaration w c fits event (.ok s')
        (((w.events.appendCartEvent c entry).putCartSnapshot s').setCartState c st)

theorem Declared.declaration {fits : CartProjection → Prop} {status : CartStatus}
    {event : CartEvent} {entry : CartStreamEvent}
    (h : Declared w c fits status event entry r E) : Declaration w c fits event r E := by
  cases h with
  | barred e hno => exact .barred e hno
  | stuck e s hstored hfits hnext => exact .stuck e s _ entry hstored hfits rfl hnext
  | made s st hstored hfits hnext => exact .made s _ entry st hstored hfits rfl hnext

/-- How a cart command ends: its result, what it makes of the event store, and the
refusals on its way. -/
inductive Ended (env : Env) (w : World) : CartCommand → Option CartId →
    Except RunnerError CartProjection → InMemoryEventStore → List CartState → Prop
  | invalid (command : CartCommand) (cartId : Option CartId) (e : RunnerError) :
      validateCartCommand command ≠ [] → Ended env w command cartId (.error e) w.events []
  | created (payload : CreateCartPayload) (cartId : Option CartId) (s : CartProjection)
      (entry : CartStreamEvent) (rs : List CartState) :
      Ended env w (.createCart payload) cartId (.ok s)
        (((w.events.appendCartEvent s.cartId entry).putCartSnapshot s).setCartState s.cartId
          .cartCreated) rs
  | attempted (command : CartCommand) (cartId : Option CartId)
      {r : Except RunnerError CartProjection} {E : InMemoryEventStore} {rs : List CartState} :
      command.recalculates → validateCartCommand command = [] →
      Attempt env w command cartId r E rs → Ended env w command cartId r E rs
  | selected (payload : SetFulfillmentSelectionPayload) (cartId : Option CartId)
      (rs : List CartState) {r : Except RunnerError CartProjection} {E : InMemoryEventStore} :
      Selection w cartId r E → Ended env w (.setFulfillmentSelection payload) cartId r E rs
  | looked (payload : GetCartPayload) (cartId : Option CartId) (rs : List CartState)
      (r : Except RunnerError CartProjection) : Ended env w (.getCart payload) cartId r w.events rs
  | readied (payload : StartCheckoutPayload) (cartId : Option CartId) (rs : List CartState)
      {r : Except RunnerError CartProjection} {E : InMemoryEventStore} :
      validateCartCommand (.startCheckout payload) = [] →
      Declaration w payload.cartId (·.version = payload.cartVersion) .markCheckoutReady r E →
      Ended env w (.startCheckout payload) cartId r E rs
  | cancelled (payload : CancelCartPayload) (cartId : Option CartId) (rs : List CartState)
      {r : Except RunnerError CartProjection} {E : InMemoryEventStore} :
      Declaration w payload.cartId (fun _ => True) .cancel r E →
      Ended env w (.cancelCart payload) cartId r E rs

theorem dispatchCartCommand_ends (hs : env.StoresAnswer) (command : CartCommand)
    (cartId : Option CartId) :
    (dispatchCartCommand runner command cartId).run.Leads env.handle w [] fun r w' l' =>
      Ended env w command cartId r w'.events (refusals l') := by
  refine leads_failIf_bind (fun hbad => .invalid command cartId _ hbad) fun hgood => ?_
  have hvalid : validateCartCommand command = [] := not_not.mp hgood
  cases command with
  | createCart payload =>
      refine (createCart_creates hs payload).mono fun r w' l' h => ?_
      obtain ⟨rfl, hw⟩ := h
      rw [hw]
      exact .created payload cartId _ _ _
  | addItem payload =>
      exact (leads_willing (addItem_tries hs payload)).mono fun r w' l' h =>
        .attempted _ cartId rfl hvalid (h.1.attempt rfl hvalid h.2)
  | updateItemQty payload =>
      exact (leads_willing (updateItemQty_tries hs payload)).mono fun r w' l' h =>
        .attempted _ cartId rfl hvalid (h.1.attempt rfl hvalid h.2)
  | removeItem payload =>
      exact (leads_willing (removeItem_tries hs payload)).mono fun r w' l' h =>
        .attempted _ cartId rfl hvalid (h.1.attempt rfl hvalid h.2)
  | applyAdjustment payload =>
      exact (leads_willing (applyAdjustment_tries hs payload)).mono fun r w' l' h =>
        .attempted _ cartId rfl hvalid (h.1.attempt rfl hvalid h.2)
  | setFulfillmentSelection payload =>
      exact (setFulfillmentSelection_chooses hs payload cartId).mono fun r w' l' h =>
        .selected payload cartId _ h.selection
  | getCart payload =>
      refine (loadCart_leads hs).mono fun r w' l' hw => ?_
      rw [hw]
      exact .looked payload cartId _ r
  | startCheckout payload =>
      exact (startCheckout_declares hs payload).mono fun r w' l' h =>
        .readied payload cartId _ hvalid h.declaration
  | cancelCart payload =>
      exact (cancelCart_declares hs payload).mono fun r w' l' h =>
        .cancelled payload cartId _ h.declaration

end Endings

/-! ## Failure -/

/-- The command gets as far as a write and is turned down after it; `rs` are the
refusals it meets. -/
def CartCommand.Stumbles (command : CartCommand) (w : World) (rs : List CartState) : Prop :=
  match command with
  | .addItem _ | .updateItemQty _ | .removeItem _ | .applyAdjustment _ => rs ≠ []
  | .startCheckout payload =>
      validateCartCommand command = [] ∧
        (∃ s ∈ w.events.getCartSnapshot payload.cartId, s.version = payload.cartVersion) ∧
        w.events.next payload.cartId .markCheckoutReady = none
  | .cancelCart payload =>
      (∃ s ∈ w.events.getCartSnapshot payload.cartId, True) ∧
        w.events.next payload.cartId .cancel = none
  | _ => False

/-- A failure leaves the record of every cart as it was. -/
def Atomic (w : World) (r : Except RunnerError CartProjection) (E : InMemoryEventStore) : Prop :=
  ∀ e, r = .error e → ∀ c, E.record c = w.events.record c

theorem atomic_same {r : Except RunnerError CartProjection} : Atomic w r w.events :=
  fun _ _ _ => rfl

theorem atomic_ok {s : CartProjection} {E : InMemoryEventStore} : Atomic w (.ok s) E :=
  fun _ h => nomatch h

/-- A failure with a longer log. -/
theorem not_atomic {e : RunnerError} {E : InMemoryEventStore}
    (h : (w.events.log c).length < (E.log c).length) : ¬ Atomic w (.error e) E := by
  intro hatomic
  have hrecord := hatomic e rfl c
  rw [InMemoryEventStore.log, InMemoryEventStore.log, hrecord] at h
  exact Nat.lt_irrefl _ h

theorem Attempt.atomic_iff {command : CartCommand} {cartId : Option CartId}
    {r : Except RunnerError CartProjection} {E : InMemoryEventStore} {rs : List CartState}
    (h : Attempt env w command cartId r E rs) : Atomic w r E ↔ rs = [] := by
  cases h with
  | barred e _ => exact iff_of_true atomic_same rfl
  | made c s _ _ hm =>
      cases hm with
      | stuck e _ => exact iff_of_true atomic_same rfl
      | stored s' _ _ _ => exact iff_of_true atomic_ok rfl
      | refused e st _ hwalked _ =>
          exact iff_of_false (not_atomic hwalked.logged) (List.cons_ne_nil _ _)

theorem Declaration.atomic_iff {fits : CartProjection → Prop} {event : CartEvent}
    {r : Except RunnerError CartProjection} {E : InMemoryEventStore}
    (h : Declaration w c fits event r E) :
    Atomic w r E ↔
      ¬ ((∃ s ∈ w.events.getCartSnapshot c, fits s) ∧ w.events.next c event = none) := by
  cases h with
  | barred e hno =>
      refine iff_of_true atomic_same ?_
      rintro ⟨⟨s, hs, hfits⟩, -⟩
      exact hno s hs hfits
  | stuck e s s' entry hstored hfits hid hnext =>
      refine iff_of_false (not_atomic (c := c) ?_) (not_not.mpr ⟨⟨s, hstored, hfits⟩, hnext⟩)
      have hlog : ((w.events.appendCartEvent c entry).putCartSnapshot s').log c =
          w.events.log c ++ [entry] := InMemoryEventStore.log_appendCartEvent _
      rw [hlog, List.length_append]
      exact Nat.lt_succ_self _
  | made s s' entry st _ _ _ hnext =>
      refine iff_of_true atomic_ok ?_
      rintro ⟨-, hnone⟩
      cases hnext.symm.trans hnone

theorem Ended.atomic_iff {command : CartCommand} {cartId : Option CartId}
    {r : Except RunnerError CartProjection} {E : InMemoryEventStore} {rs : List CartState}
    (h : Ended env w command cartId r E rs) : Atomic w r E ↔ ¬ command.Stumbles w rs := by
  cases h with
  | invalid command cartId e hbad =>
      refine iff_of_true atomic_same ?_
      cases command with
      | addItem payload | updateItemQty payload | removeItem payload | applyAdjustment payload =>
          exact not_not.mpr rfl
      | startCheckout payload => exact fun h => hbad h.1
      | cancelCart payload => exact absurd rfl hbad
      | _ => exact not_false
  | created payload cartId s entry rs => exact iff_of_true atomic_ok not_false
  | attempted command cartId hcommand hvalid ha =>
      refine ha.atomic_iff.trans ?_
      cases command with
      | addItem payload | updateItemQty payload | removeItem payload | applyAdjustment payload =>
          exact not_not.symm
      | _ => cases hcommand
  | selected payload cartId rs hsel =>
      cases hsel with
      | barred e => exact iff_of_true atomic_same not_false
      | stored c s s' entry _ _ _ => exact iff_of_true atomic_ok not_false
  | looked payload cartId rs r => exact iff_of_true atomic_same not_false
  | readied payload cartId rs hvalid hd =>
      refine hd.atomic_iff.trans (not_congr ?_)
      exact ⟨fun h => ⟨hvalid, h⟩, fun h => h.2⟩
  | cancelled payload cartId rs hd => exact hd.atomic_iff

theorem dispatched_ends (hs : env.StoresAnswer) (runner : Runner) (w : World)
    (command : CartCommand) (cartId : Option CartId) :
    Ended env w command cartId (dispatched env runner command cartId w).1
      (dispatched env runner command cartId w).2.events (refusedOn env runner command cartId w) :=
  dispatchCartCommand_ends hs command cartId

/-- **A failed command changes nothing unless it stumbles.**  With stores that answer, and
whatever the providers say, a command that fails leaves snapshot, state and log of every
cart alone, except when one of the four commands that recalculate is refused by pricing,
discounts, tax or geo, or the state machine turns down a `startCheckout` or `cancelCart`
that passed its checks. -/
theorem failed_command_atomic (env : Env) (hs : env.StoresAnswer) (runner : Runner)
    (command : CartCommand) (cartId : Option CartId) (w : World) :
    Atomic w (dispatched env runner command cartId w).1
        (dispatched env runner command cartId w).2.events ↔
      ¬ command.Stumbles w (refusedOn env runner command cartId w) :=
  (dispatched_ends hs runner w command cartId).atomic_iff

/-- With stores that answer, a cart that cannot be found is not touched. -/
theorem failed_command_atomic_sample :
    Atomic World.empty
      (dispatched Env.agreeable Sample.runner (.removeItem ⟨"li"⟩) (some Sample.cart.cartId)
        World.empty).1
      (dispatched Env.agreeable Sample.runner (.removeItem ⟨"li"⟩) (some Sample.cart.cartId)
        World.empty).2.events := by
  refine (failed_command_atomic Env.agreeable (fun _ _ => rfl) Sample.runner _ _ World.empty).mpr ?_
  exact not_not.mpr rfl

/-- A pricing provider that grants no code. -/
def Env.expired : Env :=
  { Env.agreeable with resolveDiscounts := fun _ _ _ => .error (.failed "expired") }

/-- The sample session when codes have expired. -/
def Sample.expired : World := (session Env.expired Sample.runner Sample.shopping World.empty).2

/-- An expired code: the command fails, with two more entries in the log and the state
machine at `repriced`. -/
theorem rejected_code_not_atomic :
    ¬ Atomic Sample.expired
      (dispatched Env.expired Sample.runner (.applyAdjustment ⟨"SAVE10"⟩)
        (some Sample.cart.cartId) Sample.expired).1
      (dispatched Env.expired Sample.runner (.applyAdjustment ⟨"SAVE10"⟩)
        (some Sample.cart.cartId) Sample.expired).2.events := by
  intro h
  have hrecord := h (.pricing (.failed "expired")) (by decide +kernel) Sample.cart.cartId
  have hstate : (Sample.expired.events.record Sample.cart.cartId).2.2 = some .geoChecked := by
    decide +kernel
  rw [← hrecord] at hstate
  exact absurd hstate (by decide +kernel)

end Orchestrator
