/-
# `CommerceOrchestrator.Runtime.StatusAgreement` — the status of a cart, kept twice

A snapshot says whether its cart is ready or cancelled, and so does the cart's state
machine.  The two are written by different operations: an item change moves the state
machine and keeps the status, `startCheckout` and `cancelCart` write the status and
then ask the state machine.  `status_agrees_iff` says which calls part them.
-/
import CommerceOrchestrator.Runtime.CartFrames

namespace Orchestrator

open Effect Prog

variable {env : Env} {runner : Runner} {w : World} {c : CartId} {E E' : InMemoryEventStore}

/-- What the snapshot says of the cart is what its state machine says. -/
structure Agrees (E : InMemoryEventStore) (c : CartId) (s : CartProjection) : Prop where
  ready : s.status = .checkoutReady ↔ E.getCartState c = some .checkoutReady
  cancelled : s.status = .cancelled ↔ E.getCartState c = some .cancelled

/-- The two agree for every cart that is stored. -/
def StatusAgrees (E : InMemoryEventStore) : Prop :=
  ∀ c s, E.getCartSnapshot c = some s → Agrees E c s

/-- Every stored cart has a state. -/
def Stateful (E : InMemoryEventStore) : Prop :=
  ∀ c s, E.getCartSnapshot c = some s → ∃ st, E.getCartState c = some st

/-- The command parts the two: an item change of a cart at `CheckoutReady` that comes to
its recalculation, or a `startCheckout` of a cancelled cart under its version. -/
def CartCommand.Parts (env : Env) (w : World) (cartId : Option CartId) (command : CartCommand) :
    Prop :=
  match command with
  | .addItem _ | .updateItemQty _ | .removeItem _ | .applyAdjustment _ =>
      ∃ c s, Recalculates env w command cartId c s ∧
        w.events.getCartState c = some .checkoutReady
  | .startCheckout payload =>
      command.Moves env w cartId ∧ w.events.getCartState payload.cartId = some .cancelled
  | _ => False

/-- The call parts status and state. -/
def Call.Parts (env : Env) (call : Call) (w : World) : Prop :=
  match call with
  | .cart command cartId => command.Parts env w cartId
  | .checkout _ => False

/-! ## One cart is written -/

theorem OnlyAt.agrees_iff (h : OnlyAt c E E') (hE : StatusAgrees E) :
    StatusAgrees E' ↔ ∀ s, E'.getCartSnapshot c = some s → Agrees E' c s := by
  refine h.stored_iff (fun c' s hrecord hagree => ?_) hE
  have hstate : E'.getCartState c' = E.getCartState c' := congrArg (·.2.2) hrecord
  exact ⟨by rw [hstate]; exact hagree.ready, by rw [hstate]; exact hagree.cancelled⟩

theorem OnlyAt.stateful (h : OnlyAt c E E') (hE : Stateful E)
    (hc : ∀ s, E'.getCartSnapshot c = some s → ∃ st, E'.getCartState c = some st) :
    Stateful E' := by
  refine (h.stored_iff (P := fun E c _ => ∃ st, E.getCartState c = some st) ?_ hE).mpr hc
  intro c' s hrecord hst
  have hstate : E'.getCartState c' = E.getCartState c' := congrArg (·.2.2) hrecord
  rw [hstate]
  exact hst

/-! ## One command -/

section Commands

variable {command : CartCommand} {cartId : Option CartId} {r : Except RunnerError CartProjection}
  {rs : List CartState}

/-- An item change keeps the status and takes the state machine to one of its middle
states, so the two agree after it exactly when the cart was not at `CheckoutReady`. -/
theorem agrees_changed_iff {s s' : CartProjection} {st : CartState} (hagree : Agrees w.events c s)
    (hopen : (w.events.next c .itemChanged).isSome) (hstatus : s'.status = s.status)
    (hst : st ≠ .checkoutReady ∧ st ≠ .cancelled) (hstate : E.getCartState c = some st) :
    Agrees E c s' ↔ w.events.getCartState c ≠ some .checkoutReady := by
  have hready : s.status = .checkoutReady ↔ w.events.getCartState c = some .checkoutReady :=
    hagree.ready
  constructor
  · intro h hc
    have hs : s'.status = .checkoutReady := hstatus.trans (hready.mpr hc)
    have hafter := h.ready.mp hs
    rw [hstate] at hafter
    exact hst.1 (Option.some.inj hafter)
  · intro hc
    have hcancelled : w.events.getCartState c ≠ some .cancelled := by
      intro hc'
      rw [InMemoryEventStore.next_some hc'] at hopen
      cases hopen
    refine ⟨?_, ?_⟩
    · rw [hstatus, hstate, hready]
      exact iff_of_false hc fun he => hst.1 (Option.some.inj he)
    · rw [hstatus, hstate, hagree.cancelled]
      exact iff_of_false hcancelled fun he => hst.2 (Option.some.inj he)

/-- The one cart and snapshot that a command recalculates. -/
theorem Recalculates.parts_iff {s : CartProjection} (h : Recalculates env w command cartId c s) :
    command.Parts env w cartId ↔ w.events.getCartState c = some .checkoutReady := by
  have hiff : (∃ c' s', Recalculates env w command cartId c' s' ∧
      w.events.getCartState c' = some .checkoutReady) ↔
        w.events.getCartState c = some .checkoutReady := by
    constructor
    · rintro ⟨c', s', hr, hc'⟩
      obtain rfl := Option.some.inj (h.target.symm.trans hr.target)
      exact hc'
    · exact fun hc => ⟨c, s, h, hc⟩
  have hcommand := h.recalculates
  cases command with
  | addItem payload | updateItemQty payload | removeItem payload | applyAdjustment payload =>
      exact hiff
  | _ => cases hcommand

theorem CartCommand.Parts.moves (h : command.Parts env w cartId) : command.Moves env w cartId := by
  cases command with
  | addItem payload | updateItemQty payload | removeItem payload | applyAdjustment payload =>
      obtain ⟨c, s, hr, -⟩ := h
      exact ⟨c, s, hr⟩
  | startCheckout payload => exact h.1
  | _ => cases h

theorem getCartSnapshot_put {s s' : CartProjection} (hid : s.cartId = c)
    (h : (E.putCartSnapshot s).getCartSnapshot c = some s') : s = s' := by
  subst hid
  exact Option.some.inj ((AList.lookup_insert _).symm.trans h)

/-- A declaration, when the state machine takes it or is where it would lead. -/
theorem agrees_declared {s : CartProjection} {status : CartStatus} {st : CartState}
    (hstate : E.getCartState c = some st)
    (hst : status = .checkoutReady ∧ st = .checkoutReady ∨ status = .cancelled ∧ st = .cancelled) :
    Agrees E c (s.setStatus status) := by
  rcases hst with ⟨rfl, rfl⟩ | ⟨rfl, rfl⟩
  · refine ⟨?_, ?_⟩ <;> rw [hstate] <;> simp [CartProjection.setStatus]
  · refine ⟨?_, ?_⟩ <;> rw [hstate] <;> simp [CartProjection.setStatus]

theorem nextCartState_cancel_none {current : CartState}
    (h : nextCartState current .cancel = none) : current = .cancelled := by
  cases current <;> first | rfl | cases h

theorem nextCartState_markCheckoutReady_none {current : CartState}
    (h : nextCartState current .markCheckoutReady = none) :
    current = .checkoutReady ∨ current = .cancelled := by
  cases current <;> first | exact Or.inl rfl | exact Or.inr rfl | cases h

/-- Calls keep every stored cart a state. -/
theorem Ending.stateful (h : Ending env w command cartId r E rs) (hw : Grounded w)
    (hstate : Stateful w.events) : Stateful E := by
  have hdeclared {c : CartId} {fits : CartProjection → Prop} {status : CartStatus}
      {event : CartEvent} {entry : CartStreamEvent}
      (hd : Declared w c fits status event entry r E) : Stateful E := by
    refine (hd.onlyAt (hw.filed c)).stateful hstate fun s hs => ?_
    cases hd with
    | barred e _ => exact hstate c s hs
    | stuck e s₀ hstored _ _ => exact hstate c s₀ hstored
    | made s₀ st _ _ _ => exact ⟨st, AList.lookup_insert _⟩
  cases h with
  | unmoved command cartId r rs _ => exact hstate
  | created payload cartId rs =>
      exact (onlyAt_created w payload).stateful hstate fun _ _ => ⟨_, AList.lookup_insert _⟩
  | changed command cartId c s s₁ s₂ entry quiets hr hchange hrecalc hlogged _ =>
      have hid : s₂.cartId = c := (hchange.keeps_cartId hrecalc).trans (hw.filed c s hr.stored)
      have honly : OnlyAt c w.events _ := OnlyAt.put hlogged.walked.others hid
      exact honly.stateful hstate fun _ _ => ⟨_, hlogged.walked.state⟩
  | refused command cartId c s s₁ entry e st quiets hr _ hlogged _ _ =>
      have honly : OnlyAt c w.events E := hlogged.walked.others
      exact honly.stateful hstate fun _ _ => ⟨st, hlogged.walked.state⟩
  | selected payload cartId c s s' entry rs hstored hkeeps _ =>
      have honly : OnlyAt c w.events _ :=
        (onlyAt_refl.append entry).put (hkeeps.cartId.trans (hw.filed c s hstored))
      exact honly.stateful hstate fun _ _ => hstate c s hstored
  | readied payload cartId rs _ hd => exact hdeclared hd
  | cancelled payload cartId rs hd => exact hdeclared hd

/-- **One command.**  It keeps status and state machine in agreement exactly when it is
none of those that part them. -/
theorem Ending.agrees_iff (h : Ending env w command cartId r E rs) (hw : Grounded w)
    (hstate : Stateful w.events) (hagree : StatusAgrees w.events) :
    StatusAgrees E ↔ ¬ command.Parts env w cartId := by
  cases h with
  | unmoved command cartId r rs hno => exact iff_of_true hagree fun hp => hno hp.moves
  | created payload cartId rs =>
      refine iff_of_true (((onlyAt_created w payload).agrees_iff hagree).mpr fun s hs => ?_) not_false
      have hput : s = payload.cart ⟨⟨w.clock⟩⟩ :=
        Option.some.inj (hs.symm.trans (AList.lookup_insert _))
      have hset := AList.lookup_insert (a := (⟨⟨w.clock⟩⟩ : CartId)) (b := CartState.cartCreated)
        w.events.cartStates
      subst hput
      refine ⟨?_, ?_⟩ <;>
        exact iff_of_false (by simp [CreateCartPayload.cart]) fun he => by cases hset.symm.trans he
  | @changed command cartId c s s₁ s₂ entry quiets E₁ hr hchange hrecalc hlogged _ =>
      have hid : s₂.cartId = c := (hchange.keeps_cartId hrecalc).trans (hw.filed c s hr.stored)
      have honly : OnlyAt c w.events _ := OnlyAt.put hlogged.walked.others hid
      have hset : (E₁.putCartSnapshot s₂).getCartState c = some .geoChecked := hlogged.walked.state
      have hstatus : s₂.status = s.status := hrecalc.keeps.status.trans hchange.status
      rw [honly.agrees_iff hagree, hr.parts_iff]
      have hiff := agrees_changed_iff (hagree c s hr.stored) hr.admitted hstatus (by simp) hset
      subst hid
      constructor
      · exact fun h => hiff.mp (h s₂ (AList.lookup_insert _))
      · intro hc s' hs'
        obtain rfl : s₂ = s' := Option.some.inj ((AList.lookup_insert _).symm.trans hs')
        exact hiff.mpr hc
  | refused command cartId c s s₁ entry e st quiets hr _ hlogged _ hst =>
      have honly : OnlyAt c w.events E := hlogged.walked.others
      rw [honly.agrees_iff hagree, hr.parts_iff]
      have hsnapshot : E.getCartSnapshot c = some s := by
        rw [InMemoryEventStore.getCartSnapshot, hlogged.walked.snapshots]
        exact hr.stored
      have hiff := agrees_changed_iff (hagree c s hr.stored) hr.admitted rfl hst
        hlogged.walked.state
      constructor
      · exact fun h => hiff.mp (h s hsnapshot)
      · intro hc s' hs'
        obtain rfl := Option.some.inj (hsnapshot.symm.trans hs')
        exact hiff.mpr hc
  | selected payload cartId c s s' entry rs hstored hkeeps _ =>
      have hid : s'.cartId = c := hkeeps.cartId.trans (hw.filed c s hstored)
      have honly : OnlyAt c w.events _ := (onlyAt_refl.append entry).put hid
      refine iff_of_true ((honly.agrees_iff hagree).mpr fun s'' hs'' => ?_) not_false
      subst hid
      obtain rfl : s' = s'' := Option.some.inj ((AList.lookup_insert _).symm.trans hs'')
      obtain ⟨hready, hcancelled⟩ := hagree s'.cartId s hstored
      exact ⟨by rw [hkeeps.status]; exact hready, by rw [hkeeps.status]; exact hcancelled⟩
  | readied payload cartId rs hvalid hd =>
      have honly := hd.onlyAt (hw.filed payload.cartId)
      rw [honly.agrees_iff hagree]
      cases hd with
      | barred e hno =>
          refine iff_of_true (fun s hs => hagree payload.cartId s hs) ?_
          rintro ⟨⟨-, s, hs, hversion⟩, -⟩
          exact hno s hs hversion
      | stuck e s hstored hversion hstuck =>
          have hid : (s.setStatus .checkoutReady).cartId = payload.cartId :=
            hw.filed payload.cartId s hstored
          obtain ⟨st, hst⟩ := hstate payload.cartId s hstored
          rw [InMemoryEventStore.next_some hst] at hstuck
          rcases nextCartState_markCheckoutReady_none hstuck with rfl | rfl
          · refine iff_of_true (fun s' hs' => ?_) ?_
            · obtain rfl := getCartSnapshot_put hid hs'
              exact agrees_declared hst (Or.inl ⟨rfl, rfl⟩)
            · rintro ⟨-, hcancelled⟩
              cases hst.symm.trans hcancelled
          · refine iff_of_false (fun h => ?_) (not_not.mpr ⟨⟨hvalid, s, hstored, hversion⟩, hst⟩)
            have hput : ((w.events.appendCartEvent payload.cartId .checkoutReady).putCartSnapshot
                (s.setStatus .checkoutReady)).getCartSnapshot payload.cartId =
                  some (s.setStatus .checkoutReady) := hid ▸ AList.lookup_insert _
            cases hst.symm.trans ((h _ hput).ready.mp rfl)
      | made s st hstored _ hnext =>
          have hid : (s.setStatus .checkoutReady).cartId = payload.cartId :=
            hw.filed payload.cartId s hstored
          obtain ⟨current, hcurrent, hst⟩ := Option.bind_eq_some_iff.mp hnext
          obtain rfl := nextCartState_markCheckoutReady hst
          refine iff_of_true (fun s' hs' => ?_) ?_
          · obtain rfl := getCartSnapshot_put hid hs'
            exact agrees_declared (AList.lookup_insert _) (Or.inl ⟨rfl, rfl⟩)
          · rintro ⟨-, hcancelled⟩
            obtain rfl := Option.some.inj (hcurrent.symm.trans hcancelled)
            cases hst
  | cancelled payload cartId rs hd =>
      have honly := hd.onlyAt (hw.filed payload.cartId)
      refine iff_of_true ((honly.agrees_iff hagree).mpr fun s' hs' => ?_) not_false
      cases hd with
      | barred e _ => exact hagree payload.cartId s' hs'
      | stuck e s hstored _ hstuck =>
          have hid : (s.setStatus .cancelled).cartId = payload.cartId :=
            hw.filed payload.cartId s hstored
          obtain ⟨st, hst⟩ := hstate payload.cartId s hstored
          rw [InMemoryEventStore.next_some hst] at hstuck
          obtain rfl := nextCartState_cancel_none hstuck
          obtain rfl := getCartSnapshot_put hid hs'
          exact agrees_declared hst (Or.inr ⟨rfl, rfl⟩)
      | made s st hstored _ hnext =>
          have hid : (s.setStatus .cancelled).cartId = payload.cartId :=
            hw.filed payload.cartId s hstored
          obtain ⟨current, -, hst⟩ := Option.bind_eq_some_iff.mp hnext
          obtain rfl := nextCartState_cancel hst
          obtain rfl := getCartSnapshot_put hid hs'
          exact agrees_declared (AList.lookup_insert _) (Or.inr ⟨rfl, rfl⟩)

end Commands

/-! ## Sessions -/

variable (env runner) in
/-- A checkout leaves status and state of every cart as they are. -/
theorem Grounded.checkout_status (h : Grounded w) (request : CheckoutRequest) (c : CartId) :
    (((Call.checkout request).after env runner w).events.getCartSnapshot c).map (·.status) =
        (w.events.getCartSnapshot c).map (·.status) ∧
      ((Call.checkout request).after env runner w).events.getCartState c =
        w.events.getCartState c := by
  by_cases hc : c = request.cartId
  · subst hc
    have hrecord := h.checkout env runner request
    -- What the checkout computes is of no interest from here on.
    generalize (Call.checkout request).after env runner w = w' at hrecord ⊢
    obtain ⟨-, hsnapshot, hstate⟩ := hrecord
    refine ⟨?_, hstate⟩
    have hstatus := congrArg (Option.map (·.status)) hsnapshot
    simp only [Option.map_map] at hstatus
    exact hstatus
  · have hrecord := (h.others env runner (.checkout request)
      (c := c) fun he => hc (Option.some.inj he).symm).resolve_right (by simp [Call.creates])
    generalize (Call.checkout request).after env runner w = w' at hrecord ⊢
    exact ⟨congrArg (fun x => x.2.1.map (·.status)) hrecord, congrArg (·.2.2) hrecord⟩

/-- A checkout keeps status and state machine in agreement. -/
theorem Grounded.checkout_agrees (h : Grounded w) (request : CheckoutRequest)
    (hagree : StatusAgrees w.events) :
    StatusAgrees ((Call.checkout request).after env runner w).events := by
  intro c s hs
  obtain ⟨hstatus, hstate⟩ := h.checkout_status env runner request c
  rw [hs] at hstatus
  obtain ⟨s₀, hs₀, hsame⟩ := Option.map_eq_some_iff.mp hstatus.symm
  obtain ⟨hready, hcancelled⟩ := hagree c s₀ hs₀
  rw [hsame] at hready hcancelled
  exact ⟨by rw [hstate]; exact hready, by rw [hstate]; exact hcancelled⟩

theorem Grounded.checkout_stateful (h : Grounded w) (request : CheckoutRequest)
    (hstateful : Stateful w.events) :
    Stateful ((Call.checkout request).after env runner w).events := by
  intro c s hs
  obtain ⟨hstatus, hstate⟩ := h.checkout_status env runner request c
  rw [hs] at hstatus
  obtain ⟨s₀, hs₀, -⟩ := Option.map_eq_some_iff.mp hstatus.symm
  rw [hstate]
  exact hstateful c s₀ hs₀

theorem Call.stateful (hs : env.StoresAnswer) (runner : Runner) (call : Call) (hw : Grounded w)
    (hstate : Stateful w.events) : Stateful (call.after env runner w).events := by
  cases call with
  | cart command cartId =>
      obtain ⟨r, h⟩ := Call.ending hs runner w command cartId
      exact h.stateful hw hstate
  | checkout request => exact hw.checkout_stateful request hstate

/-- A call keeps status and state machine in agreement exactly when it does not part them. -/
theorem Call.agrees_iff (hs : env.StoresAnswer) (runner : Runner) (call : Call) (hw : Grounded w)
    (hstate : Stateful w.events) (hagree : StatusAgrees w.events) :
    StatusAgrees (call.after env runner w).events ↔ ¬ call.Parts env w := by
  cases call with
  | cart command cartId =>
      obtain ⟨r, h⟩ := Call.ending hs runner w command cartId
      exact h.agrees_iff hw hstate hagree
  | checkout request => exact iff_of_true (hw.checkout_agrees request hagree) not_false

/-- **Status and state machine agree exactly when no call parts them.**  With stores that
answer and whatever the providers say: throughout a session from nothing, a snapshot says
`CheckoutReady` or `Cancelled` exactly when the cart's state machine does, if and only if
no item change comes to its recalculation on a cart at `CheckoutReady`, and no
`startCheckout` of the right version is for a cancelled cart. -/
theorem status_agrees_iff (env : Env) (hs : env.StoresAnswer) (runner : Runner)
    (calls : List Call) :
    Throughout env runner (fun w => StatusAgrees w.events) calls World.empty ↔
      EachCall env runner (fun call w => ¬ call.Parts env w) calls World.empty := by
  refine throughout_iff (fun w => Grounded w ∧ Stateful w.events) ?_ ?_ calls
    ⟨grounded_empty, ?_⟩ ?_
  · exact fun call w hw => ⟨hw.1.after call, call.stateful hs runner hw.1 hw.2⟩
  · exact fun call w hw hagree => call.agrees_iff hs runner hw.1 hw.2 hagree
  · intro c s hs
    cases hs
  · intro c s hs
    cases hs

/-- The sample cart is filled while it is a draft. -/
theorem status_agrees_iff_sample :
    Throughout Env.agreeable Sample.runner (fun w => StatusAgrees w.events) Sample.shopping
      World.empty := by
  refine (status_agrees_iff Env.agreeable (fun _ _ => rfl) Sample.runner Sample.shopping).mpr ?_
  refine ⟨not_false, ?_, trivial⟩
  rintro ⟨c, s, hr, hready⟩
  obtain rfl := Option.some.inj hr.target
  exact absurd hready (by decide +kernel)

/-- The sample cart is declared ready, and then one more item is put into it. -/
def Sample.reopened : World :=
  (session Env.agreeable Sample.runner
    (Sample.shopping ++ [.cart (.startCheckout ⟨Sample.cart.cartId, 2⟩) none,
      .cart (.addItem ⟨"sku", 1⟩) (some Sample.cart.cartId)]) World.empty).2

/-- Its snapshot still says `CheckoutReady`; its state machine does not. -/
theorem reopened_status_disagrees : ¬ StatusAgrees Sample.reopened.events := by
  intro h
  have hstored : (Sample.reopened.events.getCartSnapshot Sample.cart.cartId).map (·.status) =
      some .checkoutReady := by decide +kernel
  have hstate : Sample.reopened.events.getCartState Sample.cart.cartId = some .geoChecked := by
    decide +kernel
  obtain ⟨s, hs, hready⟩ := Option.map_eq_some_iff.mp hstored
  cases hstate.symm.trans ((h _ s hs).ready.mp hready)

end Orchestrator
