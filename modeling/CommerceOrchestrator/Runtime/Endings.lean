/-
# `CommerceOrchestrator.Runtime.Endings` — how every cart command ends, in full

`Ending` says what a command wrote: which change it made of which snapshot, which entries
it added to the log and in which state it left the state machine.  It also says when a
command comes to write at all (`CartCommand.Moves`), as a condition on the store and the
catalog before the call.

    unmoved     nothing was written
    created     a blank cart under a fresh id
    changed     an item change, re-priced and stored
    refused     an item change in the log, a provider's refusal, the old snapshot
    selected    a fulfillment selection
    declared    a snapshot declared ready or cancelled, then the state machine asked
-/
import CommerceOrchestrator.Runtime.CartLeads

namespace Orchestrator

open Effect Prog

variable {α β ε : Type} {env : Env} {runner : Runner} {w w' : World}
  {l l' : List (Event Op.Ans)} {c : CartId}

/-! ## Changes -/

/-- Entries that record no change of lines or codes. -/
def CartStreamEvent.quiet : CartStreamEvent → Bool
  | .created .. | .itemAdded .. | .itemQtyUpdated .. | .itemRemoved .. | .adjustmentApplied .. => false
  | _ => true

/-- `Change env w command s s₁ entry`: the command, started in `w`, makes `s₁` of the
snapshot `s` before it is re-priced, and records it as `entry`. -/
inductive Change (env : Env) (w : World) :
    CartCommand → CartProjection → CartProjection → CartStreamEvent → Prop
  | added (payload : AddItemPayload) (s : CartProjection) (item : CatalogItem) (u : Uuid) :
      env.getItem w.clock payload.itemId = .ok item →
      Change env w (.addItem payload) s (s.addLine (payload.line item u))
        (.itemAdded ("li_" ++ u.render) payload.itemId payload.quantity)
  | requantified (payload : UpdateItemQtyPayload) (s : CartProjection) :
      Change env w (.updateItemQty payload) s (s.setQuantity payload)
        (.itemQtyUpdated payload.lineId payload.quantity)
  | removed (payload : RemoveItemPayload) (s : CartProjection) :
      Change env w (.removeItem payload) s (s.dropLine payload.lineId) (.itemRemoved payload.lineId)
  | adjusted (payload : ApplyAdjustmentPayload) (s : CartProjection) :
      Change env w (.applyAdjustment payload) s (s.addCode payload.code)
        (.adjustmentApplied payload.code)

/-- The commands that go through a recalculation. -/
def CartCommand.recalculates : CartCommand → Bool
  | .addItem _ | .updateItemQty _ | .removeItem _ | .applyAdjustment _ => true
  | _ => false

/-- The command names a line that the cart does not have. -/
def CartCommand.misses (command : CartCommand) (s : CartProjection) : Prop :=
  match command with
  | .updateItemQty payload => ∀ line ∈ s.lines, line.lineId ≠ payload.lineId
  | _ => False

/-- The catalog has the item the command is about, when it is asked: at the start for an
addition, after the cart was loaded for an adjustment. -/
def CartCommand.Listed (env : Env) (n : Nat) : CartCommand → Prop
  | .addItem payload => ∃ item, env.getItem n payload.itemId = .ok item
  | .applyAdjustment payload =>
      ∀ itemId, adjustmentItem payload.code = some itemId →
        ∃ item, env.getItem (n + 1) itemId = .ok item
  | _ => True

/-- The command comes to its recalculation: it is well formed, its cart is stored and
admits a change, and the line and the item it is about exist. -/
structure Recalculates (env : Env) (w : World) (command : CartCommand) (cartId : Option CartId)
    (c : CartId) (s : CartProjection) : Prop where
  recalculates : command.recalculates
  valid : validateCartCommand command = []
  target : cartId = some c
  stored : w.events.getCartSnapshot c = some s
  present : ¬ command.misses s
  listed : command.Listed env w.clock
  admitted : (w.events.next c .itemChanged).isSome

/-- The command comes to a write, other than that of a creation or a selection. -/
def CartCommand.Moves (env : Env) (w : World) (cartId : Option CartId) (command : CartCommand) :
    Prop :=
  match command with
  | .addItem _ | .updateItemQty _ | .removeItem _ | .applyAdjustment _ =>
      ∃ c s, Recalculates env w command cartId c s
  | .startCheckout payload =>
      validateCartCommand command = [] ∧
        ∃ s, w.events.getCartSnapshot payload.cartId = some s ∧ s.version = payload.cartVersion
  | .cancelCart payload => ∃ s, w.events.getCartSnapshot payload.cartId = some s
  | _ => False

/-! ## Walks and what they log -/

/-- The state of `c` has been set to `st` and `entries` have been added to its log;
nothing else has changed. -/
structure Logged (E E' : InMemoryEventStore) (c : CartId) (st : CartState)
    (entries : List CartStreamEvent) : Prop where
  walked : Walked E E' c st
  log : E'.log c = E.log c ++ entries

theorem logged_first {E : InMemoryEventStore} {st : CartState} {entry : CartStreamEvent} :
    Logged E ((E.setCartState c st).appendCartEvent c entry) c st [entry] :=
  ⟨walked_first, InMemoryEventStore.log_appendCartEvent _⟩

theorem Logged.next {E E₁ : InMemoryEventStore} {st st' : CartState} {entry : CartStreamEvent}
    {entries : List CartStreamEvent} (h : Logged E E₁ c st entries) :
    Logged E ((E₁.setCartState c st').appendCartEvent c entry) c st' (entries ++ [entry]) := by
  refine ⟨h.walked.next, ?_⟩
  have hset : (E₁.setCartState c st').log c = E₁.log c := rfl
  rw [InMemoryEventStore.log_appendCartEvent, hset, h.log, List.append_assoc]

section Stores

variable {post : Except RunnerError β → World → List (Event Op.Ans) → Prop}

/-- The next transition of a walk and the entry that records it. -/
theorem Logged.leads_walk (hs : env.StoresAnswer) {E : InMemoryEventStore} {st st' : CartState}
    {event : CartEvent} {entry : CartStreamEvent} {entries : List CartStreamEvent}
    {k : Unit → Run β} (hlogged : Logged E w.events c st entries)
    (hst : nextCartState st event = some st')
    (hgo : ∀ w' l', Logged E w'.events c st' (entries ++ [entry]) → Later w w' l l' →
      (k ()).run.Leads env.handle w' l' post) :
    (transitionCart c event >>= fun _ => tryWith .store (ask (.appendCartEvent c entry)) >>= k
      : Run β).run.Leads env.handle w l post := by
  have hnext : w.events.next c event = some st' :=
    (InMemoryEventStore.next_some hlogged.walked.state).trans hst
  refine Orchestrator.leads_walk hs (fun hstuck => ?_) fun st₁ w' l' hst₁ hw' hl' => ?_
  · cases hnext.symm.trans hstuck
  · obtain rfl : st₁ = st' := Option.some.inj (hst₁.symm.trans hnext)
    exact hgo w' l' (hw' ▸ hlogged.next) hl'

/-- Loading a snapshot takes one tick. -/
theorem leads_load_tick (hs : env.StoresAnswer) {k : CartProjection → Run β}
    (hnone : w.events.getCartSnapshot c = none → ∀ e,
      post (.error e) w.tick (l ++ [⟨.getCartSnapshot c, none⟩]))
    (hsome : ∀ s, w.events.getCartSnapshot c = some s →
      (k s).run.Leads env.handle w.tick (l ++ [⟨.getCartSnapshot c, some s⟩]) post) :
    (loadCart c >>= k).run.Leads env.handle w l post := by
  have hanswer : env.handle (.getCartSnapshot c) w = (w.events.getCartSnapshot c, w.tick) := by
    unfold Env.handle
    rw [hs]
    rfl
  unfold loadCart
  rw [LawfulMonad.bind_assoc]
  refine leads_call_bind ?_
  rw [hanswer]
  refine leads_okOr_bind (fun h => ?_) fun s h => ?_
  · rw [h]
    exact hnone h _
  · rw [h]
    exact hsome s h

end Stores

/-! ## Recalculation -/

/-- How a recalculation of `cart`, recorded as `entry`, ends. -/
inductive Recalculation (w : World) (c : CartId) (cart : CartProjection) (entry : CartStreamEvent) :
    Except RunnerError CartProjection → InMemoryEventStore → List CartState → Prop
  | stuck (e : RunnerError) : w.events.next c .itemChanged = none →
      Recalculation w c cart entry (.error e) w.events []
  | stored (s : CartProjection) (quiets : List CartStreamEvent) {E : InMemoryEventStore} :
      (w.events.next c .itemChanged).isSome → Recalculated (fun _ => True) cart s →
      Logged w.events E c .geoChecked (entry :: quiets) → (∀ x ∈ quiets, x.quiet) →
      Recalculation w c cart entry (.ok s) (E.putCartSnapshot s) []
  | refused (e : RunnerError) (st : CartState) (quiets : List CartStreamEvent)
      {E : InMemoryEventStore} : (w.events.next c .itemChanged).isSome →
      Logged w.events E c st (entry :: quiets) → (∀ x ∈ quiets, x.quiet) →
      st ≠ .checkoutReady ∧ st ≠ .cancelled →
      Recalculation w c cart entry (.error e) E [st]

theorem nextCartState_itemChanged {current next : CartState}
    (h : nextCartState current .itemChanged = some next) : next = .itemsMutated := by
  cases current <;> cases h <;> rfl

theorem mutateAndRecalculate_recalculates (hs : env.StoresAnswer) {cart : CartProjection}
    {entry : CartStreamEvent} (hl : refusals l = []) :
    (mutateAndRecalculate c cart entry).run.Leads env.handle w l fun r w' l' =>
      Recalculation w c cart entry r w'.events (refusals l') := by
  unfold mutateAndRecalculate
  refine leads_walk hs (fun hstuck e w' l' hw' hl' => ?_) fun st w₁ l₁ hst hw₁ hl₁ => ?_
  · rw [hw', hl'.refusals, hl]
    exact .stuck e hstuck
  obtain rfl : st = .itemsMutated := by
    obtain ⟨current, -, hnext⟩ := Option.bind_eq_some_iff.mp hst
    exact nextCartState_itemChanged hnext
  have hopen : (w.events.next c .itemChanged).isSome := Option.isSome_of_eq_some hst
  have hlogged₁ : Logged w.events w₁.events c .itemsMutated [entry] := hw₁ ▸ logged_first
  -- a refusal, wherever the walk has led
  have hrefused {v v' : World} {m m' : List (Event Op.Ans)} {st : CartState} {e : RunnerError}
      {quiets : List CartStreamEvent} (hv : Logged w.events v.events c st (entry :: quiets))
      (hm : Later w v l m) (hquiet : ∀ x ∈ quiets, x.quiet)
      (hst : st ≠ .checkoutReady ∧ st ≠ .cancelled) (hv' : v'.events = v.events)
      (hm' : refusals m' = refusals m ++ [st]) :
      Recalculation w c cart entry (.error e) v'.events (refusals m') := by
    rw [hv', hm', hm.refusals, hl]
    exact .refused e st quiets hopen hv hquiet hst
  refine leads_asked (leads_tryWith resolvePrices_asked)
    (fun e w' l' hw' hl' _ => hrefused hlogged₁ hl₁ (by simp) (by simp) hw' hl')
    fun prices w₂ l₂ _ hw₂ hl₂ => ?_
  rw [← hw₂] at hlogged₁
  refine hlogged₁.leads_walk hs rfl fun w₃ l₃ hlogged₃ hl₃ => ?_
  have hl₃ := (hl₁.trans hl₂).trans hl₃
  refine leads_asked (leads_tryWith resolveTax_asked)
    (fun e w' l' hw' hl' _ => hrefused hlogged₃ hl₃ (by simp [CartStreamEvent.quiet]) (by simp) hw' hl')
    fun tax w₄ l₄ _ hw₄ hl₄ => ?_
  rw [← hw₄] at hlogged₃
  have hl₄ := hl₃.trans hl₄
  refine leads_asked applyDiscounts_asked
    (fun e w' l' hw' hl' _ => hrefused hlogged₃ hl₄ (by simp [CartStreamEvent.quiet]) (by simp) hw' hl')
    fun s w₅ l₅ hd hw₅ hl₅ => ?_
  rw [← hw₅] at hlogged₃
  refine hlogged₃.leads_walk hs rfl fun w₆ l₆ hlogged₆ hl₆ => ?_
  have hl₆ := (hl₄.trans hl₅).trans hl₆
  refine leads_asked checkGeo_asked
    (fun e w' l' hw' hl' _ => hrefused hlogged₆ hl₆ (by simp [CartStreamEvent.quiet]) (by simp) hw' hl')
    fun geo w₇ l₇ _ hw₇ hl₇ => ?_
  rw [← hw₇] at hlogged₆
  refine hlogged₆.leads_walk hs rfl fun w₈ l₈ hlogged₈ hl₈ => ?_
  refine leads_put hs fun w₉ l₉ hw₉ hl₉ => leads_pure ?_
  rw [hw₉, (((hl₆.trans hl₇).trans hl₈).trans hl₉).refusals, hl]
  exact .stored _ _ hopen ⟨prices, tax, s, ⟨geo⟩, trivial, trivial, hd, trivial⟩ hlogged₈
    (by simp [CartStreamEvent.quiet])

/-- What happened before a recalculation does not show in how it ends. -/
theorem Recalculation.of_events {cart : CartProjection} {entry : CartStreamEvent}
    {r : Except RunnerError CartProjection} {E : InMemoryEventStore} {rs : List CartState}
    (h : Recalculation w' c cart entry r E rs) (hw : w'.events = w.events) :
    Recalculation w c cart entry r E rs := by
  cases h with
  | stuck e hstuck =>
      rw [hw] at hstuck ⊢
      exact .stuck e hstuck
  | stored s quiets hopen hrecalc hlogged hquiet =>
      rw [hw] at hopen hlogged
      exact .stored s quiets hopen hrecalc hlogged hquiet
  | refused e st quiets hopen hlogged hquiet hst =>
      rw [hw] at hopen hlogged
      exact .refused e st quiets hopen hlogged hquiet hst

/-! ## The commands that recalculate -/

/-- How a command that recalculates ends: before the recalculation, or with it. -/
inductive Tried (env : Env) (w : World) (command : CartCommand) (cartId : Option CartId) :
    Except RunnerError CartProjection → InMemoryEventStore → List CartState → Prop
  | barred (e : RunnerError) : (∀ c s, ¬ Recalculates env w command cartId c s) →
      Tried env w command cartId (.error e) w.events []
  | made (c : CartId) (s s₁ : CartProjection) (entry : CartStreamEvent)
      {r : Except RunnerError CartProjection} {E : InMemoryEventStore} {rs : List CartState} :
      cartId = some c → w.events.getCartSnapshot c = some s → ¬ command.misses s →
      command.Listed env w.clock → Change env w command s s₁ entry →
      Recalculation w c s₁ entry r E rs → Tried env w command cartId r E rs

section Commands

variable {command : CartCommand} {cartId : Option CartId}

/-- The postcondition of a command that recalculates. -/
abbrev Tries (env : Env) (w : World) (command : CartCommand) (cartId : Option CartId)
    (r : Except RunnerError CartProjection) (w' : World) (l' : List (Event Op.Ans)) : Prop :=
  Tried env w command cartId r w'.events (refusals l')

theorem tries_barred {e : RunnerError} (hl : refusals l' = []) (hw : w'.events = w.events)
    (hbar : ∀ c s, ¬ Recalculates env w command cartId c s) :
    Tries env w command cartId (.error e) w' l' := by
  show Tried env w command cartId _ w'.events (refusals l')
  rw [hl, hw]
  exact .barred e hbar

/-- A recalculation at the end of a command that has not written yet. -/
theorem tries_made (hs : env.StoresAnswer) {s s₁ : CartProjection} {entry : CartStreamEvent}
    (hc : cartId = some c) (hstored : w.events.getCartSnapshot c = some s)
    (hpresent : ¬ command.misses s) (hlisted : command.Listed env w.clock)
    (hchange : Change env w command s s₁ entry) (hw : w'.events = w.events)
    (hl : refusals l' = []) :
    (mutateAndRecalculate c s₁ entry).run.Leads env.handle w' l'
      (Tries env w command cartId) := by
  refine (mutateAndRecalculate_recalculates hs hl).mono fun r w'' l'' hr => ?_
  exact .made c s s₁ entry hc hstored hpresent hlisted hchange (hr.of_events hw)

/-- A command that names no cart, or one that is not stored, does not come to a recalculation. -/
theorem not_recalculates_of_missing
    (h : ∀ c, cartId = some c → w.events.getCartSnapshot c = none) (c : CartId)
    (s : CartProjection) : ¬ Recalculates env w command cartId c s := by
  intro hr
  cases (h c hr.target).symm.trans hr.stored

/-- The load in front of a command, when it is the first thing it does. -/
theorem tries_load (hs : env.StoresAnswer) {k : CartId → CartProjection → Run CartProjection}
    (hk : ∀ c s, cartId = some c → w.events.getCartSnapshot c = some s →
      (k c s).run.Leads env.handle w.tick [⟨.getCartSnapshot c, some s⟩]
        (Tries env w command cartId)) :
    (okOr cartId .missingCartId >>= fun c => loadCart c >>= k c).run.Leads env.handle w []
      (Tries env w command cartId) := by
  refine leads_okOr_bind (fun hnone => ?_) fun c hc => ?_
  · refine tries_barred rfl rfl (not_recalculates_of_missing fun c hc => ?_)
    cases hnone.symm.trans hc
  · refine leads_load_tick hs (fun hnone e => ?_) fun s hstored => hk c s hc hstored
    refine tries_barred rfl rfl (not_recalculates_of_missing fun c' hc' => ?_)
    obtain rfl := Option.some.inj (hc.symm.trans hc')
    exact hnone

theorem addItem_tries (hs : env.StoresAnswer) (payload : AddItemPayload) :
    (addItem payload cartId).run.Leads env.handle w []
      (Tries env w (.addItem payload) cartId) := by
  unfold addItem
  refine leads_okOr_bind (fun hnone => ?_) fun c hc => ?_
  · refine tries_barred rfl rfl (not_recalculates_of_missing fun c hc => ?_)
    cases hnone.symm.trans hc
  refine leads_tryWith_bind (leads_perform.mpr ?_)
  rw [show env.handle (.getItem payload.itemId) w = (env.getItem w.clock payload.itemId, w.tick)
    from rfl]
  cases hitem : env.getItem w.clock payload.itemId with
  | error e =>
      refine tries_barred rfl rfl fun c s hr => ?_
      obtain ⟨item, hok⟩ := hr.listed
      cases hitem.symm.trans hok
  | ok item =>
      refine leads_load_tick hs (fun hnone e => ?_) fun s hstored => ?_
      · refine tries_barred rfl rfl (not_recalculates_of_missing fun c' hc' => ?_)
        obtain rfl := Option.some.inj (hc.symm.trans hc')
        exact hnone
      · refine leads_call_bind ?_
        exact tries_made hs hc hstored id ⟨item, hitem⟩ (.added payload s item _ hitem) rfl rfl

theorem updateItemQty_tries (hs : env.StoresAnswer) (payload : UpdateItemQtyPayload) :
    (updateItemQty payload cartId).run.Leads env.handle w []
      (Tries env w (.updateItemQty payload) cartId) := by
  unfold updateItemQty
  refine tries_load hs fun c s hc hstored => ?_
  refine leads_failIf_bind (fun hmiss => ?_) fun hpresent => ?_
  · refine tries_barred rfl rfl fun c' s' hr => hr.present ?_
    obtain rfl := Option.some.inj (hc.symm.trans hr.target)
    obtain rfl := Option.some.inj (hstored.symm.trans hr.stored)
    exact hmiss
  · exact tries_made hs hc hstored hpresent trivial (.requantified payload s) rfl rfl

theorem removeItem_tries (hs : env.StoresAnswer) (payload : RemoveItemPayload) :
    (removeItem payload cartId).run.Leads env.handle w []
      (Tries env w (.removeItem payload) cartId) := by
  unfold removeItem
  refine tries_load hs fun c s hc hstored => ?_
  exact tries_made hs hc hstored id trivial (.removed payload s) rfl rfl

theorem applyAdjustment_tries (hs : env.StoresAnswer) (payload : ApplyAdjustmentPayload) :
    (applyAdjustment payload cartId).run.Leads env.handle w []
      (Tries env w (.applyAdjustment payload) cartId) := by
  unfold applyAdjustment validateAdjustment
  refine tries_load hs fun c s hc hstored => ?_
  cases hcode : adjustmentItem payload.code with
  | none =>
      refine leads_run_bind (leads_pure ?_)
      refine tries_made hs hc hstored id (fun itemId hitem => ?_) (.adjusted payload s) rfl rfl
      cases hcode.symm.trans hitem
  | some itemId =>
      refine leads_run_bind (leads_tryWith_bind (leads_perform.mpr ?_))
      rw [show env.handle (.getItem itemId) w.tick = (env.getItem (w.clock + 1) itemId, w.tick.tick)
        from rfl]
      cases hitem : env.getItem (w.clock + 1) itemId with
      | error e =>
          refine tries_barred rfl rfl fun c s hr => ?_
          obtain ⟨item, hok⟩ := hr.listed itemId hcode
          cases hitem.symm.trans hok
      | ok item =>
          refine leads_pure ?_
          refine tries_made hs hc hstored id (fun itemId' hitem' => ?_) (.adjusted payload s) rfl rfl
          obtain rfl := Option.some.inj (hcode.symm.trans hitem')
          exact ⟨item, hitem⟩

end Commands

/-! ## The other commands -/

/-- `s'` is the cart of `s`, with the same lines ordered, the same codes and status. -/
structure Keeps (s s' : CartProjection) : Prop where
  cartId : s'.cartId = s.cartId
  ordered : s'.lines.map (·.ordered) = s.lines.map (·.ordered)
  codes : s'.adjustmentCodes = s.adjustmentCodes
  status : s'.status = s.status

theorem Keeps.trans {s s₁ s₂ : CartProjection} (h : Keeps s s₁) (h' : Keeps s₁ s₂) : Keeps s s₂ :=
  ⟨h'.cartId.trans h.cartId, h'.ordered.trans h.ordered, h'.codes.trans h.codes,
    h'.status.trans h.status⟩

theorem Discounted.keeps {A : Answers} {s s' : CartProjection} (h : Discounted A s s') :
    Keeps s s' := by
  cases h <;> exact ⟨rfl, rfl, rfl, rfl⟩

theorem Recalculated.keeps {A : Answers} {s s' : CartProjection} (h : Recalculated A s s') :
    Keeps s s' := by
  obtain ⟨ps, tax, discounted, geo, -, -, hd, -⟩ := h
  have hpriced : Keeps s ((s.withPrices ps).withTax tax) :=
    ⟨rfl, applyPrices_map_ordered s.lines ps, rfl, rfl⟩
  have hall := hpriced.trans hd.keeps
  exact ⟨hall.cartId, hall.ordered, hall.codes, hall.status⟩

theorem createCart_creates (hs : env.StoresAnswer) (payload : CreateCartPayload) :
    (createCart payload).run.Leads env.handle w l fun r w' _ =>
      r = .ok (payload.cart ⟨⟨w.clock⟩⟩) ∧ w'.events =
        ((w.events.appendCartEvent ⟨⟨w.clock⟩⟩ (.created payload.merchantId payload.currency))
          |>.putCartSnapshot (payload.cart ⟨⟨w.clock⟩⟩)).setCartState ⟨⟨w.clock⟩⟩ .cartCreated := by
  unfold createCart
  refine leads_call_bind ?_
  refine leads_append hs fun w₁ l₁ hw₁ _ => ?_
  refine leads_put hs fun w₂ l₂ hw₂ _ => ?_
  refine leads_set hs fun w₃ l₃ hw₃ _ => ?_
  refine leads_pure ⟨rfl, ?_⟩
  rw [hw₃, hw₂, hw₁]
  rfl

/-- How a fulfillment selection ends. -/
inductive Chosen (w : World) (cartId : Option CartId) :
    Except RunnerError CartProjection → InMemoryEventStore → Prop
  | barred (e : RunnerError) : Chosen w cartId (.error e) w.events
  | stored (c : CartId) (s s' : CartProjection) (entry : CartStreamEvent) : cartId = some c →
      w.events.getCartSnapshot c = some s → Keeps s s' → entry.quiet →
      Chosen w cartId (.ok s') ((w.events.appendCartEvent c entry).putCartSnapshot s')

theorem chosen_barred {cartId : Option CartId} {e : RunnerError} (hw : w'.events = w.events) :
    Chosen w cartId (.error e) w'.events := by
  rw [hw]
  exact .barred e

theorem setFulfillmentSelection_chooses (hs : env.StoresAnswer)
    (payload : SetFulfillmentSelectionPayload) (cartId : Option CartId) :
    (setFulfillmentSelection runner payload cartId).run.Leads env.handle w l fun r w' _ =>
      Chosen w cartId r w'.events := by
  unfold setFulfillmentSelection
  refine leads_okOr_bind (fun _ => .barred _) fun c hc => ?_
  refine leads_load hs (fun _ e w' l' hw' _ => chosen_barred hw') fun s w₁ l₁ hstored hw₁ _ => ?_
  refine leads_run_bind (selectedLines_leads.mono fun r w₂ l₂ hw₂ => ?_)
  have hw₂ : w₂.events = w.events := hw₂ ▸ hw₁
  cases r with
  | error e => exact chosen_barred hw₂
  | ok lines =>
      refine leads_run_bind (quoteOptions_leads.mono fun r w₃ l₃ hw₃ => ?_)
      have hw₃ := hw₃.trans hw₂
      cases r with
      | error e => exact chosen_barred hw₃
      | ok options =>
          refine leads_failIf_bind (fun _ => chosen_barred hw₃) fun _ => ?_
          refine leads_call_bind (leads_call_bind ?_)
          refine leads_asked applyDiscounts_asked
            (fun e w' l' hw' _ _ => chosen_barred (hw'.trans hw₃)) fun discounted w₄ l₄ hd hw₄ _ => ?_
          have hw₄ := hw₄.trans hw₃
          refine leads_asked checkGeo_asked
            (fun e w' l' hw' _ _ => chosen_barred (hw'.trans hw₄)) fun geo w₅ l₅ _ hw₅ _ => ?_
          refine leads_append hs fun w₆ l₆ hw₆ _ => ?_
          refine leads_put hs fun w₇ l₇ hw₇ _ => ?_
          refine leads_pure ?_
          rw [hw₇, hw₆, hw₅.trans hw₄]
          have hkeeps := hd.keeps
          exact .stored c s _ _ hc hstored
            ⟨hkeeps.cartId, hkeeps.ordered, hkeeps.codes, hkeeps.status⟩ rfl

/-- How a command that declares a cart ready or cancelled ends. -/
inductive Declared (w : World) (c : CartId) (fits : CartProjection → Prop) (status : CartStatus)
    (event : CartEvent) (entry : CartStreamEvent) :
    Except RunnerError CartProjection → InMemoryEventStore → Prop
  | barred (e : RunnerError) : (∀ s, w.events.getCartSnapshot c = some s → ¬ fits s) →
      Declared w c fits status event entry (.error e) w.events
  | stuck (e : RunnerError) (s : CartProjection) : w.events.getCartSnapshot c = some s → fits s →
      w.events.next c event = none →
      Declared w c fits status event entry (.error e)
        ((w.events.appendCartEvent c entry).putCartSnapshot (s.setStatus status))
  | made (s : CartProjection) (st : CartState) : w.events.getCartSnapshot c = some s → fits s →
      w.events.next c event = some st →
      Declared w c fits status event entry (.ok (s.setStatus status))
        (((w.events.appendCartEvent c entry).putCartSnapshot (s.setStatus status)).setCartState c st)

/-- Storing first and asking the state machine after. -/
theorem declared_leads (hs : env.StoresAnswer) {fits : CartProjection → Prop} {status : CartStatus}
    {event : CartEvent} {entry : CartStreamEvent} {s : CartProjection}
    (hstored : w.events.getCartSnapshot c = some s) (hfits : fits s) (hw : w'.events = w.events) :
    (do tryWith .store (ask (.appendCartEvent c entry))
        tryWith .store (ask (.putCartSnapshot (s.setStatus status)))
        transitionCart c event
        return s.setStatus status : Run CartProjection).run.Leads env.handle w' l' fun r w'' _ =>
      Declared w c fits status event entry r w''.events := by
  refine leads_append hs fun w₁ l₁ hw₁ _ => ?_
  refine leads_put hs fun w₂ l₂ hw₂ _ => ?_
  have hw₂ : w₂.events =
      (w.events.appendCartEvent c entry).putCartSnapshot (s.setStatus status) := by
    rw [hw₂, hw₁, hw]
  have hnext : w₂.events.next c event = w.events.next c event := by
    rw [hw₂]
    rfl
  refine leads_transition hs (fun hstuck e w₃ l₃ hw₃ _ => ?_) fun st w₃ l₃ hst hw₃ _ => leads_pure ?_
  · rw [hw₃, hw₂]
    exact .stuck e s hstored hfits (hnext.symm.trans hstuck)
  · rw [hw₃, hw₂]
    exact .made s st hstored hfits (hnext.symm.trans hst)

theorem startCheckout_declares (hs : env.StoresAnswer) (payload : StartCheckoutPayload) :
    (startCheckout payload).run.Leads env.handle w l fun r w' _ =>
      Declared w payload.cartId (·.version = payload.cartVersion) .checkoutReady .markCheckoutReady
        .checkoutReady r w'.events := by
  unfold startCheckout
  refine leads_load hs (fun hnone e w' l' hw' _ => ?_) fun s w₁ l₁ hstored hw₁ _ => ?_
  · rw [hw']
    exact .barred e fun s hs => absurd (hnone.symm.trans hs) (by simp)
  refine leads_failIf_bind (fun hversion => ?_) fun hversion => ?_
  · rw [hw₁]
    refine .barred _ fun s' hs' => ?_
    obtain rfl := Option.some.inj (hstored.symm.trans hs')
    exact hversion
  · exact declared_leads hs hstored (not_not.mp hversion) hw₁

theorem cancelCart_declares (hs : env.StoresAnswer) (payload : CancelCartPayload) :
    (cancelCart payload).run.Leads env.handle w l fun r w' _ =>
      Declared w payload.cartId (fun _ => True) .cancelled .cancel .cancelled r w'.events := by
  unfold cancelCart
  refine leads_load hs (fun hnone e w' l' hw' _ => ?_) fun s w₁ l₁ hstored hw₁ _ => ?_
  · rw [hw']
    exact .barred e fun s hs => absurd (hnone.symm.trans hs) (by simp)
  · exact declared_leads hs hstored trivial hw₁

/-! ## All commands -/

/-- `Ending env w command cartId r E rs`: started in `w`, the command returns `r` and
leaves the event store `E`, after the refusals `rs`. -/
inductive Ending (env : Env) (w : World) : CartCommand → Option CartId →
    Except RunnerError CartProjection → InMemoryEventStore → List CartState → Prop
  | unmoved (command : CartCommand) (cartId : Option CartId)
      (r : Except RunnerError CartProjection) (rs : List CartState) :
      ¬ command.Moves env w cartId → Ending env w command cartId r w.events rs
  | created (payload : CreateCartPayload) (cartId : Option CartId) (rs : List CartState) :
      Ending env w (.createCart payload) cartId (.ok (payload.cart ⟨⟨w.clock⟩⟩))
        (((w.events.appendCartEvent ⟨⟨w.clock⟩⟩ (.created payload.merchantId payload.currency))
          |>.putCartSnapshot (payload.cart ⟨⟨w.clock⟩⟩)).setCartState ⟨⟨w.clock⟩⟩ .cartCreated) rs
  | changed (command : CartCommand) (cartId : Option CartId) (c : CartId) (s s₁ s₂ : CartProjection)
      (entry : CartStreamEvent) (quiets : List CartStreamEvent) {E : InMemoryEventStore} :
      Recalculates env w command cartId c s → Change env w command s s₁ entry →
      Recalculated (fun _ => True) s₁ s₂ → Logged w.events E c .geoChecked (entry :: quiets) →
      (∀ x ∈ quiets, x.quiet) →
      Ending env w command cartId (.ok s₂) (E.putCartSnapshot s₂) []
  | refused (command : CartCommand) (cartId : Option CartId) (c : CartId) (s s₁ : CartProjection)
      (entry : CartStreamEvent) (e : RunnerError) (st : CartState) (quiets : List CartStreamEvent)
      {E : InMemoryEventStore} : Recalculates env w command cartId c s →
      Change env w command s s₁ entry → Logged w.events E c st (entry :: quiets) →
      (∀ x ∈ quiets, x.quiet) → st ≠ .checkoutReady ∧ st ≠ .cancelled →
      Ending env w command cartId (.error e) E [st]
  | selected (payload : SetFulfillmentSelectionPayload) (cartId : Option CartId) (c : CartId)
      (s s' : CartProjection) (entry : CartStreamEvent) (rs : List CartState) :
      w.events.getCartSnapshot c = some s → Keeps s s' → entry.quiet →
      Ending env w (.setFulfillmentSelection payload) cartId (.ok s')
        ((w.events.appendCartEvent c entry).putCartSnapshot s') rs
  | readied (payload : StartCheckoutPayload) (cartId : Option CartId) (rs : List CartState)
      {r : Except RunnerError CartProjection} {E : InMemoryEventStore} :
      validateCartCommand (.startCheckout payload) = [] →
      Declared w payload.cartId (·.version = payload.cartVersion) .checkoutReady .markCheckoutReady
        .checkoutReady r E → Ending env w (.startCheckout payload) cartId r E rs
  | cancelled (payload : CancelCartPayload) (cartId : Option CartId) (rs : List CartState)
      {r : Except RunnerError CartProjection} {E : InMemoryEventStore} :
      Declared w payload.cartId (fun _ => True) .cancelled .cancel .cancelled r E →
      Ending env w (.cancelCart payload) cartId r E rs

theorem Tried.ending {command : CartCommand} {cartId : Option CartId}
    {r : Except RunnerError CartProjection} {E : InMemoryEventStore} {rs : List CartState}
    (h : Tried env w command cartId r E rs) (hcommand : command.recalculates)
    (hvalid : validateCartCommand command = []) : Ending env w command cartId r E rs := by
  have hunmoved (hno : ∀ c s, ¬ Recalculates env w command cartId c s) :
      ¬ command.Moves env w cartId := by
    cases command with
    | addItem payload | updateItemQty payload | removeItem payload | applyAdjustment payload =>
        rintro ⟨c, s, hr⟩
        exact hno c s hr
    | _ => cases hcommand
  cases h with
  | barred e hno => exact .unmoved command cartId _ _ (hunmoved hno)
  | made c s s₁ entry hc hstored hpresent hlisted hchange hr =>
      have hreaches (hopen : (w.events.next c .itemChanged).isSome) :
          Recalculates env w command cartId c s :=
        ⟨hcommand, hvalid, hc, hstored, hpresent, hlisted, hopen⟩
      cases hr with
      | stuck e hstuck =>
          refine .unmoved command cartId _ _ (hunmoved fun c' s' hr => ?_)
          obtain rfl := Option.some.inj (hc.symm.trans hr.target)
          have hopen := hr.admitted
          rw [hstuck] at hopen
          cases hopen
      | stored s₂ quiets hopen hrecalc hlogged hquiet =>
          exact .changed command cartId c s s₁ s₂ entry quiets (hreaches hopen) hchange hrecalc
            hlogged hquiet
      | refused e st quiets hopen hlogged hquiet hst =>
          exact .refused command cartId c s s₁ entry e st quiets (hreaches hopen) hchange hlogged
            hquiet hst

/-- A command that does not pass validation does not come to a write. -/
theorem not_moves_of_invalid {command : CartCommand} {cartId : Option CartId}
    (h : validateCartCommand command ≠ []) : ¬ command.Moves env w cartId := by
  cases command with
  | addItem payload | updateItemQty payload | removeItem payload | applyAdjustment payload =>
      rintro ⟨c, s, hr⟩
      exact h hr.valid
  | startCheckout payload => exact fun hm => h hm.1
  | cancelCart payload => exact absurd rfl h
  | _ => exact not_false

/-- **How every cart command ends**, when the stores answer. -/
theorem dispatchCartCommand_ending (hs : env.StoresAnswer) (command : CartCommand)
    (cartId : Option CartId) :
    (dispatchCartCommand runner command cartId).run.Leads env.handle w [] fun r w' l' =>
      Ending env w command cartId r w'.events (refusals l') := by
  refine leads_failIf_bind (fun hbad => .unmoved command cartId _ _ (not_moves_of_invalid hbad))
    fun hgood => ?_
  have hvalid : validateCartCommand command = [] := not_not.mp hgood
  cases command with
  | createCart payload =>
      refine (createCart_creates hs payload).mono fun r w' l' h => ?_
      obtain ⟨rfl, hw⟩ := h
      rw [hw]
      exact .created payload cartId _
  | addItem payload => exact (addItem_tries hs payload).mono fun r w' l' h => h.ending rfl hvalid
  | updateItemQty payload =>
      exact (updateItemQty_tries hs payload).mono fun r w' l' h => h.ending rfl hvalid
  | removeItem payload =>
      exact (removeItem_tries hs payload).mono fun r w' l' h => h.ending rfl hvalid
  | applyAdjustment payload =>
      exact (applyAdjustment_tries hs payload).mono fun r w' l' h => h.ending rfl hvalid
  | setFulfillmentSelection payload =>
      refine (setFulfillmentSelection_chooses hs payload cartId).mono fun r w' l' h => ?_
      generalize w'.events = E at h ⊢
      cases h with
      | barred e => exact .unmoved _ cartId _ _ not_false
      | stored c s s' entry _ hstored hkeeps hquiet =>
          exact .selected payload cartId c s s' entry _ hstored hkeeps hquiet
  | getCart payload =>
      refine (loadCart_leads hs).mono fun r w' l' hw => ?_
      rw [hw]
      exact .unmoved _ cartId r _ not_false
  | startCheckout payload =>
      exact (startCheckout_declares hs payload).mono fun r w' l' h =>
        .readied payload cartId _ hvalid h
  | cancelCart payload =>
      exact (cancelCart_declares hs payload).mono fun r w' l' h => .cancelled payload cartId _ h

theorem dispatched_ending (hs : env.StoresAnswer) (runner : Runner) (w : World)
    (command : CartCommand) (cartId : Option CartId) :
    Ending env w command cartId (dispatched env runner command cartId w).1
      (dispatched env runner command cartId w).2.events (refusedOn env runner command cartId w) :=
  dispatchCartCommand_ending hs command cartId

/-! ## One cart is written -/

section OnlyAt

variable {E E' : InMemoryEventStore}

/-- Nothing but the record of `c` differs. -/
def OnlyAt (c : CartId) (E E' : InMemoryEventStore) : Prop :=
  ∀ c', c' ≠ c → E'.record c' = E.record c'

theorem OnlyAt.append (h : OnlyAt c E E') (entry : CartStreamEvent) :
    OnlyAt c E (E'.appendCartEvent c entry) := by
  intro c' hc
  rw [InMemoryEventStore.record_appendCartEvent_ne _ _ hc, h c' hc]

theorem OnlyAt.put (h : OnlyAt c E E') {s : CartProjection} (hs : s.cartId = c) :
    OnlyAt c E (E'.putCartSnapshot s) := by
  intro c' hc
  rw [InMemoryEventStore.record_putCartSnapshot_ne _ (hs ▸ hc), h c' hc]

theorem OnlyAt.set (h : OnlyAt c E E') (st : CartState) : OnlyAt c E (E'.setCartState c st) := by
  intro c' hc
  rw [InMemoryEventStore.record_setCartState_ne _ _ hc, h c' hc]

theorem onlyAt_refl : OnlyAt c E E := fun _ _ => rfl

/-- What the records of stored carts have, they all have after one is written if that one does. -/
theorem OnlyAt.stored_iff {P : InMemoryEventStore → CartId → CartProjection → Prop}
    (hP : ∀ c s, E'.record c = E.record c → P E c s → P E' c s) (h : OnlyAt c E E')
    (hE : ∀ c s, E.getCartSnapshot c = some s → P E c s) :
    (∀ c s, E'.getCartSnapshot c = some s → P E' c s) ↔
      ∀ s, E'.getCartSnapshot c = some s → P E' c s := by
  refine ⟨fun hE' s hs => hE' c s hs, fun hc c' s hs => ?_⟩
  by_cases hne : c' = c
  · subst hne
    exact hc s hs
  · have hsnapshot : E'.getCartSnapshot c' = E.getCartSnapshot c' := congrArg (·.2.1) (h c' hne)
    exact hP c' s (h c' hne) (hE c' s (hsnapshot.symm.trans hs))

theorem onlyAt_created (w : World) (payload : CreateCartPayload) :
    OnlyAt ⟨⟨w.clock⟩⟩ w.events
      (((w.events.appendCartEvent ⟨⟨w.clock⟩⟩ (.created payload.merchantId payload.currency))
        |>.putCartSnapshot (payload.cart ⟨⟨w.clock⟩⟩)).setCartState ⟨⟨w.clock⟩⟩ .cartCreated) :=
  ((onlyAt_refl.append _).put (s := payload.cart ⟨⟨w.clock⟩⟩) rfl).set _

theorem Declared.onlyAt {fits : CartProjection → Prop} {status : CartStatus} {event : CartEvent}
    {entry : CartStreamEvent} {r : Except RunnerError CartProjection}
    (h : Declared w c fits status event entry r E)
    (hfiled : ∀ s, w.events.getCartSnapshot c = some s → s.cartId = c) :
    OnlyAt c w.events E := by
  cases h with
  | barred e _ => exact onlyAt_refl
  | stuck e s hstored _ _ =>
      exact (onlyAt_refl.append entry).put (s := s.setStatus status) (hfiled s hstored)
  | made s st hstored _ _ =>
      exact ((onlyAt_refl.append entry).put (s := s.setStatus status) (hfiled s hstored)).set st

theorem Change.cartId {command : CartCommand} {s s₁ : CartProjection} {entry : CartStreamEvent}
    (h : Change env w command s s₁ entry) : s₁.cartId = s.cartId := by
  cases h <;> rfl

/-- A re-priced change is of the same cart. -/
theorem Change.keeps_cartId {command : CartCommand} {s s₁ s₂ : CartProjection}
    {entry : CartStreamEvent} (h : Change env w command s s₁ entry) {A : Answers}
    (hr : Recalculated A s₁ s₂) : s₂.cartId = s.cartId :=
  hr.keeps.cartId.trans h.cartId

theorem Change.status {command : CartCommand} {s s₁ : CartProjection} {entry : CartStreamEvent}
    (h : Change env w command s s₁ entry) : s₁.status = s.status := by
  cases h <;> rfl

end OnlyAt

end Orchestrator
