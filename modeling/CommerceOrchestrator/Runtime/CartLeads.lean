/-
# `CommerceOrchestrator.Runtime.CartLeads` — running a cart command when the stores answer

What the steps of a cart command come to if no store operation fails: what each makes of
the event store, and which providers have refused on the way (`refusals`).  Where a
recalculation has led so far is a `Walked`.
-/
import CommerceOrchestrator.Effect.Leads
import CommerceOrchestrator.Runtime.Frames
import CommerceOrchestrator.Runtime.Edits

namespace Orchestrator

open Effect Prog

variable {α β ε : Type} {env : Env} {runner : Runner} {w w' : World}
  {l l' : List (Event Op.Ans)} {c : CartId}

/-! ## Refusals -/

/-- Every store operation is answered. -/
def Env.StoresAnswer (env : Env) : Prop := ∀ n o, env.fault n o = none

/-- From the `n`th operation on, the providers a cart command asks answer. -/
structure Env.Willing (env : Env) (n : Nat) : Prop where
  getItem : ∀ m itemId, n ≤ m → ∃ item, env.getItem m itemId = .ok item
  resolvePrices : ∀ m cart, n ≤ m → ∃ prices, env.resolvePrices m cart = .ok prices
  resolveDiscounts : ∀ m cart codes, n ≤ m → ∃ discounts, env.resolveDiscounts m cart codes = .ok discounts
  resolveTax : ∀ m cart, n ≤ m → ∃ tax, env.resolveTax m cart = .ok tax
  checkGeo : ∀ m cart request, n ≤ m → ∃ geo, env.checkGeo m cart request = .ok geo

/-- A provider asked during a recalculation refuses: the state in which that
leaves the cart state machine. -/
def refusal : Event Op.Ans → Option CartState
  | ⟨.resolvePrices _, .error _⟩ => some .itemsMutated
  | ⟨.resolveTax _, .error _⟩ => some .repriced
  | ⟨.resolveDiscounts .., .error _⟩ => some .repriced
  | ⟨.checkGeo .., .error _⟩ => some .retaxed
  | _ => none

def refusals (l : List (Event Op.Ans)) : List CartState := l.filterMap refusal

/-- Time has passed and no provider has refused. -/
structure Later (w w' : World) (l l' : List (Event Op.Ans)) : Prop where
  clock : w.clock ≤ w'.clock
  refusals : refusals l' = refusals l

theorem Later.refl : Later w w l l := ⟨Nat.le_refl _, rfl⟩

theorem Later.trans {w'' : World} {l'' : List (Event Op.Ans)} (h : Later w w' l l')
    (h' : Later w' w'' l' l'') : Later w w'' l l'' :=
  ⟨Nat.le_trans h.clock h'.clock, h'.refusals.trans h.refusals⟩

/-- One operation that is not a refusal. -/
theorem Later.op (env : Env) (w : World) (l : List (Event Op.Ans)) {o : Op}
    (h : refusal ⟨o, (env.handle o w).1⟩ = none) :
    Later w (env.handle o w).2 l (l ++ [⟨o, (env.handle o w).1⟩]) := by
  refine ⟨?_, ?_⟩
  · rw [Env.handle_clock]
    exact Nat.le_succ _
  · simp [Orchestrator.refusals, h]

/-! ## Rules for the runner's combinators -/

section Rules

variable {post : Except RunnerError β → World → List (Event Op.Ans) → Prop}

theorem leads_pure {a : β} (h : post (.ok a) w l) :
    (pure a : Run β).run.Leads env.handle w l post :=
  leads_ret.mpr h

theorem leads_throw {e : RunnerError} (h : post (.error e) w l) :
    (throw e : Run β).run.Leads env.handle w l post :=
  leads_ret.mpr h

theorem leads_tryWith_bind {f : ε → RunnerError} {p : Eff (Except ε α)} {k : α → Run β}
    (hp : p.Leads env.handle w l fun x w' l' =>
      match x with
      | .ok a => (k a).run.Leads env.handle w' l' post
      | .error e => post (.error (f e)) w' l') :
    (tryWith f p >>= k).run.Leads env.handle w l post := by
  refine leads_run_bind (leads_map.mpr (hp.mono fun x w' l' hx => ?_))
  cases x with
  | ok a => exact hx
  | error e => exact hx

theorem leads_call_bind {o : Op} {k : o.Ans → Run β}
    (hk : (k (env.handle o w).1).run.Leads env.handle (env.handle o w).2
      (l ++ [⟨o, (env.handle o w).1⟩]) post) :
    (call o >>= k).run.Leads env.handle w l post :=
  leads_run_bind (leads_map.mpr (leads_perform.mpr hk))

theorem leads_okOr_bind {x : Option α} {e : RunnerError} {k : α → Run β}
    (hnone : x = none → post (.error e) w l)
    (hsome : ∀ a, x = some a → (k a).run.Leads env.handle w l post) :
    (okOr x e >>= k).run.Leads env.handle w l post := by
  cases x with
  | none => exact leads_run_bind (leads_throw (hnone rfl))
  | some a => exact leads_run_bind (leads_pure (hsome a rfl))

theorem leads_failIf_bind {bad : Prop} [Decidable bad] {e : RunnerError} {k : Unit → Run β}
    (hbad : bad → post (.error e) w l)
    (hgood : ¬ bad → (k ()).run.Leads env.handle w l post) :
    (failIf bad e >>= k).run.Leads env.handle w l post := by
  unfold failIf
  split
  · next h => exact leads_run_bind (leads_throw (hbad h))
  · next h => exact leads_run_bind (leads_pure (hgood h))

end Rules

/-! ## Stores that answer -/

namespace InMemoryEventStore

/-- The entries in a cart's log. -/
def log (store : InMemoryEventStore) (cartId : CartId) : List CartStreamEvent :=
  (store.record cartId).1.getD []

theorem log_appendCartEvent (store : InMemoryEventStore) {cartId : CartId}
    {entry : CartStreamEvent} :
    (store.appendCartEvent cartId entry).log cartId = store.log cartId ++ [entry] := by
  rw [log, record_appendCartEvent]
  rfl

/-- Where the cart's state machine goes on `event`, if it accepts it. -/
def next (store : InMemoryEventStore) (cartId : CartId) (event : CartEvent) : Option CartState :=
  (store.getCartState cartId).bind (nextCartState · event)

theorem next_none {store : InMemoryEventStore} {cartId : CartId} {event : CartEvent}
    (h : store.getCartState cartId = none) : store.next cartId event = none := by
  rw [next, h]
  rfl

theorem next_some {store : InMemoryEventStore} {cartId : CartId} {event : CartEvent}
    {state : CartState} (h : store.getCartState cartId = some state) :
    store.next cartId event = nextCartState state event := by
  rw [next, h]
  rfl

end InMemoryEventStore

/-- The cart's state has been set to `st` and its log has grown; nothing else has changed. -/
structure Walked (E E' : InMemoryEventStore) (c : CartId) (st : CartState) : Prop where
  snapshots : E'.cartSnapshots = E.cartSnapshots
  state : E'.getCartState c = some st
  others : ∀ c', c' ≠ c → E'.record c' = E.record c'
  logged : (E.log c).length < (E'.log c).length

theorem walked_of_le {E E₁ : InMemoryEventStore} {st : CartState} {entry : CartStreamEvent}
    (hsnapshots : E₁.cartSnapshots = E.cartSnapshots)
    (hothers : ∀ c', c' ≠ c → E₁.record c' = E.record c')
    (hlog : (E.log c).length ≤ (E₁.log c).length) :
    Walked E ((E₁.setCartState c st).appendCartEvent c entry) c st := by
  refine ⟨hsnapshots, ?_, fun c' hc => ?_, ?_⟩
  · exact AList.lookup_insert _
  · rw [InMemoryEventStore.record_appendCartEvent_ne _ _ hc,
      InMemoryEventStore.record_setCartState_ne _ _ hc, hothers c' hc]
  · rw [InMemoryEventStore.log_appendCartEvent, List.length_append]
    exact Nat.lt_succ_of_le hlog

theorem walked_first {E : InMemoryEventStore} {st : CartState} {entry : CartStreamEvent} :
    Walked E ((E.setCartState c st).appendCartEvent c entry) c st :=
  walked_of_le rfl (fun _ _ => rfl) (Nat.le_refl _)

theorem Walked.next {E E₁ : InMemoryEventStore} {st st' : CartState} {entry : CartStreamEvent}
    (h : Walked E E₁ c st) : Walked E ((E₁.setCartState c st').appendCartEvent c entry) c st' :=
  walked_of_le h.snapshots h.others (Nat.le_of_lt h.logged)

section Stores

variable {post : Except RunnerError β → World → List (Event Op.Ans) → Prop}

theorem leads_append (hs : env.StoresAnswer) {entry : CartStreamEvent} {k : Unit → Run β}
    (hk : ∀ w' l', w'.events = w.events.appendCartEvent c entry → Later w w' l l' →
      (k ()).run.Leads env.handle w' l' post) :
    (tryWith .store (ask (.appendCartEvent c entry)) >>= k).run.Leads env.handle w l post := by
  have hanswer : env.handle (.appendCartEvent c entry) w =
      (.ok (), { w with events := w.events.appendCartEvent c entry }.tick) := by
    unfold Env.handle
    rw [hs]
    rfl
  have hlater := Later.op env w l (o := .appendCartEvent c entry) rfl
  refine leads_tryWith_bind (leads_perform.mpr ?_)
  rw [hanswer] at hlater ⊢
  exact hk _ _ rfl hlater

theorem leads_put (hs : env.StoresAnswer) {s : CartProjection} {k : Unit → Run β}
    (hk : ∀ w' l', w'.events = w.events.putCartSnapshot s → Later w w' l l' →
      (k ()).run.Leads env.handle w' l' post) :
    (tryWith .store (ask (.putCartSnapshot s)) >>= k).run.Leads env.handle w l post := by
  have hanswer : env.handle (.putCartSnapshot s) w =
      (.ok (), { w with events := w.events.putCartSnapshot s }.tick) := by
    unfold Env.handle
    rw [hs]
    rfl
  have hlater := Later.op env w l (o := .putCartSnapshot s) rfl
  refine leads_tryWith_bind (leads_perform.mpr ?_)
  rw [hanswer] at hlater ⊢
  exact hk _ _ rfl hlater

theorem leads_set (hs : env.StoresAnswer) {st : CartState} {k : Unit → Run β}
    (hk : ∀ w' l', w'.events = w.events.setCartState c st → Later w w' l l' →
      (k ()).run.Leads env.handle w' l' post) :
    (tryWith .store (ask (.setCartState c st)) >>= k).run.Leads env.handle w l post := by
  have hanswer : env.handle (.setCartState c st) w =
      (.ok (), { w with events := w.events.setCartState c st }.tick) := by
    unfold Env.handle
    rw [hs]
    rfl
  have hlater := Later.op env w l (o := .setCartState c st) rfl
  refine leads_tryWith_bind (leads_perform.mpr ?_)
  rw [hanswer] at hlater ⊢
  exact hk _ _ rfl hlater

theorem leads_load (hs : env.StoresAnswer) {k : CartProjection → Run β}
    (hnone : w.events.getCartSnapshot c = none → ∀ e w' l', w'.events = w.events →
      Later w w' l l' → post (.error e) w' l')
    (hsome : ∀ s w' l', w.events.getCartSnapshot c = some s → w'.events = w.events →
      Later w w' l l' → (k s).run.Leads env.handle w' l' post) :
    (loadCart c >>= k).run.Leads env.handle w l post := by
  have hanswer : env.handle (.getCartSnapshot c) w = (w.events.getCartSnapshot c, w.tick) := by
    unfold Env.handle
    rw [hs]
    rfl
  have hlater := Later.op env w l (o := .getCartSnapshot c) rfl
  unfold loadCart
  rw [LawfulMonad.bind_assoc]
  refine leads_call_bind ?_
  rw [hanswer] at hlater ⊢
  exact leads_okOr_bind (fun h => hnone h _ _ _ rfl hlater)
    fun s h => hsome s _ _ h rfl hlater

theorem leads_transition (hs : env.StoresAnswer) {event : CartEvent} {k : Unit → Run β}
    (hstuck : w.events.next c event = none → ∀ e w' l', w'.events = w.events →
      Later w w' l l' → post (.error e) w' l')
    (hgo : ∀ st w' l', w.events.next c event = some st →
      w'.events = w.events.setCartState c st → Later w w' l l' →
      (k ()).run.Leads env.handle w' l' post) :
    (transitionCart c event >>= k).run.Leads env.handle w l post := by
  have hget : env.handle (.getCartState c) w = (w.events.getCartState c, w.tick) := by
    unfold Env.handle
    rw [hs]
    rfl
  have hlater := Later.op env w l (o := .getCartState c) rfl
  unfold transitionCart
  simp only [LawfulMonad.bind_assoc]
  refine leads_call_bind ?_
  rw [hget] at hlater ⊢
  refine leads_okOr_bind (fun hnone => ?_) fun current hcurrent => ?_
  · exact hstuck (InMemoryEventStore.next_none hnone) _ _ _ rfl hlater
  · have hnext : w.events.next c event = nextCartState current event :=
      InMemoryEventStore.next_some hcurrent
    refine leads_okOr_bind (fun hnone => ?_) fun st hst => ?_
    · exact hstuck (hnext.trans hnone) _ _ _ rfl hlater
    · refine leads_set hs fun w' l' hw' hl' => ?_
      exact hgo st w' l' (hnext.trans hst) hw' (hlater.trans hl')

/-- A transition and the event that records it. -/
theorem leads_walk (hs : env.StoresAnswer) {event : CartEvent} {entry : CartStreamEvent}
    {k : Unit → Run β}
    (hstuck : w.events.next c event = none → ∀ e w' l', w'.events = w.events →
      Later w w' l l' → post (.error e) w' l')
    (hgo : ∀ st w' l', w.events.next c event = some st →
      w'.events = (w.events.setCartState c st).appendCartEvent c entry → Later w w' l l' →
      (k ()).run.Leads env.handle w' l' post) :
    (transitionCart c event >>= fun _ => tryWith .store (ask (.appendCartEvent c entry)) >>= k
      : Run β).run.Leads env.handle w l post := by
  refine leads_transition hs hstuck fun st w₁ l₁ hst hw₁ hl₁ => ?_
  refine leads_append hs fun w₂ l₂ hw₂ hl₂ => ?_
  exact hgo st w₂ l₂ hst (hw₁ ▸ hw₂) (hl₁.trans hl₂)

end Stores

/-! ## Providers -/

theorem Env.Willing.mono {m n : Nat} (h : env.Willing m) (hle : m ≤ n) : env.Willing n where
  getItem k itemId hk := h.getItem k itemId (Nat.le_trans hle hk)
  resolvePrices k cart hk := h.resolvePrices k cart (Nat.le_trans hle hk)
  resolveDiscounts k cart codes hk := h.resolveDiscounts k cart codes (Nat.le_trans hle hk)
  resolveTax k cart hk := h.resolveTax k cart (Nat.le_trans hle hk)
  checkGeo k cart request hk := h.checkGeo k cart request (Nat.le_trans hle hk)

/-- A willing provider does not refuse. -/
theorem Env.Willing.refusal_eq_none (h : env.Willing w.clock) (o : Op) :
    refusal ⟨o, (env.handle o w).1⟩ = none := by
  cases o with
  | resolvePrices cart =>
      obtain ⟨prices, hprices⟩ := h.resolvePrices w.clock cart (Nat.le_refl _)
      rw [show (env.handle (.resolvePrices cart) w).1 = .ok prices from hprices]
      rfl
  | resolveDiscounts cart codes =>
      obtain ⟨discounts, hdiscounts⟩ := h.resolveDiscounts w.clock cart codes (Nat.le_refl _)
      rw [show (env.handle (.resolveDiscounts cart codes) w).1 = .ok discounts from hdiscounts]
      rfl
  | resolveTax cart =>
      obtain ⟨tax, htax⟩ := h.resolveTax w.clock cart (Nat.le_refl _)
      rw [show (env.handle (.resolveTax cart) w).1 = .ok tax from htax]
      rfl
  | checkGeo cart request =>
      obtain ⟨geo, hgeo⟩ := h.checkGeo w.clock cart request (Nat.le_refl _)
      rw [show (env.handle (.checkGeo cart request) w).1 = .ok geo from hgeo]
      rfl
  | _ => rfl

/-- Willing providers refuse nothing to any procedure. -/
theorem Env.Willing.refusals_eq_nil {p : Eff α} (h : env.Willing w.clock) :
    refusals (p.events env.handle w) = [] := by
  induction p generalizing w with
  | ret a => rfl
  | op o k ih =>
      have hlater : env.Willing (env.handle o w).2.clock := by
        rw [Env.handle_clock]
        exact h.mono (Nat.le_succ _)
      rw [events, refusals, List.filterMap_cons_none (h.refusal_eq_none o)]
      exact ih _ hlater

/-- A provider has been asked.  If it was unwilling, `st` records it as a refusal. -/
def Asked (env : Env) (st : Option CartState) (P : α → Prop) (w : World)
    (l : List (Event Op.Ans)) : Except ε α → World → List (Event Op.Ans) → Prop
  | .ok a, w', l' => P a ∧ w'.events = w.events ∧ Later w w' l l'
  | .error _, w', l' =>
      w'.events = w.events ∧ refusals l' = refusals l ++ st.toList ∧ ¬ env.Willing w.clock

theorem leads_asked {post : Except RunnerError β → World → List (Event Op.Ans) → Prop}
    {st : Option CartState} {P : α → Prop} {p : Run α} {k : α → Run β}
    (hp : p.run.Leads env.handle w l (Asked env st P w l))
    (hno : ∀ e w' l', w'.events = w.events → refusals l' = refusals l ++ st.toList →
      ¬ env.Willing w.clock → post (.error e) w' l')
    (hyes : ∀ a w' l', P a → w'.events = w.events → Later w w' l l' →
      (k a).run.Leads env.handle w' l' post) :
    (p >>= k).run.Leads env.handle w l post := by
  refine leads_run_bind (hp.mono fun r w' l' hr => ?_)
  cases r with
  | ok a => exact hyes a w' l' hr.1 hr.2.1 hr.2.2
  | error e => exact hno e w' l' hr.1 hr.2.1 hr.2.2

theorem leads_tryWith {f : ε → RunnerError} {p : Eff (Except ε α)} {st : Option CartState}
    {P : α → Prop} (hp : p.Leads env.handle w l (Asked env st P w l)) :
    (tryWith f p).run.Leads env.handle w l (Asked env st P w l) := by
  refine leads_map.mpr (hp.mono fun x w' l' hx => ?_)
  cases x with
  | ok a => exact hx
  | error e => exact hx

theorem asked_ok {st : Option CartState} {P : α → Prop} {a : α} {o : Op} {x : o.Ans} (ha : P a)
    (hx : refusal ⟨o, x⟩ = none) :
    Asked env st P w l (.ok a : Except ε α) w.tick (l ++ [⟨o, x⟩]) := by
  refine ⟨ha, rfl, Nat.le_succ _, ?_⟩
  simp [refusals, hx]

theorem asked_error {st : CartState} {P : α → Prop} {e : ε} {o : Op} {x : o.Ans}
    (ho : (env.handle o w).1 = x) (hx : refusal ⟨o, x⟩ = some st) :
    Asked env (some st) P w l (.error e : Except ε α) w.tick (l ++ [⟨o, x⟩]) := by
  refine ⟨rfl, ?_, fun h => ?_⟩
  · simp [refusals, hx]
  · subst ho
    cases hx.symm.trans (h.refusal_eq_none o)

theorem resolvePrices_asked {cart : CartProjection} :
    (ask (.resolvePrices cart)).Leads env.handle w l
      (Asked env (some .itemsMutated) (fun _ => True) w l) := by
  refine leads_perform.mpr ?_
  rw [show env.handle (.resolvePrices cart) w = (env.resolvePrices w.clock cart, w.tick) from rfl]
  cases hx : env.resolvePrices w.clock cart with
  | ok prices => exact asked_ok trivial rfl
  | error e => exact asked_error hx rfl

theorem resolveTax_asked {cart : CartProjection} :
    (ask (.resolveTax cart)).Leads env.handle w l
      (Asked env (some .repriced) (fun _ => True) w l) := by
  refine leads_perform.mpr ?_
  rw [show env.handle (.resolveTax cart) w = (env.resolveTax w.clock cart, w.tick) from rfl]
  cases hx : env.resolveTax w.clock cart with
  | ok tax => exact asked_ok trivial rfl
  | error e => exact asked_error hx rfl

theorem resolveDiscounts_asked {cart : CartProjection} {codes : List String} :
    (ask (.resolveDiscounts cart codes)).Leads env.handle w l
      (Asked env (some .repriced) (fun _ => True) w l) := by
  refine leads_perform.mpr ?_
  rw [show env.handle (.resolveDiscounts cart codes) w =
    (env.resolveDiscounts w.clock cart codes, w.tick) from rfl]
  cases hx : env.resolveDiscounts w.clock cart codes with
  | ok discounts => exact asked_ok trivial rfl
  | error e => exact asked_error hx rfl

theorem checkGeo_asked {cart : CartProjection} :
    (checkGeo cart).run.Leads env.handle w l (Asked env (some .retaxed) (fun _ => True) w l) := by
  have hask : (ask (.checkGeo cart (geoCheckRequest cart))).Leads env.handle w l
      (Asked env (some .retaxed) (fun _ => True) w l) := by
    refine leads_perform.mpr ?_
    rw [show env.handle (.checkGeo cart (geoCheckRequest cart)) w =
      (env.checkGeo w.clock cart (geoCheckRequest cart), w.tick) from rfl]
    cases hx : env.checkGeo w.clock cart (geoCheckRequest cart) with
    | ok geo => exact asked_ok trivial rfl
    | error e => exact asked_error hx rfl
  refine leads_asked (leads_tryWith hask) (fun e w' l' hw hl hno => ⟨hw, hl, hno⟩) ?_
  exact fun geo w' l' _ hw hl => leads_pure ⟨trivial, hw, hl⟩

/-- Discounts, when the pricing provider answers. -/
theorem applyDiscounts_asked {cart : CartProjection} :
    (applyDiscounts cart).run.Leads env.handle w l
      (Asked env (some .repriced) (Discounted (fun _ => True) cart) w l) := by
  unfold applyDiscounts
  split
  · next hcodes => exact leads_pure ⟨.none hcodes, rfl, Later.refl⟩
  · next hcodes =>
      refine leads_asked (leads_tryWith resolveDiscounts_asked)
        (fun e w' l' hw hl hno => ⟨hw, hl, hno⟩) ?_
      exact fun ds w' l' _ hw hl => leads_pure ⟨.granted ds hcodes trivial, hw, hl⟩

/-- A quote changes nothing. -/
theorem quoteOptions_leads {projection : CartProjection}
    {payload : SetFulfillmentSelectionPayload} {lines : List String} :
    (quoteOptions runner projection payload lines).run.Leads env.handle w l fun _ w' _ =>
      w'.events = w.events := by
  unfold quoteOptions
  split
  · exact leads_map.mpr (leads_perform.mpr rfl)
  · exact leads_pure rfl

theorem selectedLines_leads {payload : SetFulfillmentSelectionPayload} {cart : CartProjection} :
    (selectedLines payload cart).run.Leads env.handle w l fun _ w' _ => w' = w := by
  unfold selectedLines
  split
  · exact leads_pure rfl
  · split
    · exact leads_pure rfl
    · exact leads_throw rfl

/-- Loading a cart changes nothing. -/
theorem loadCart_leads (hs : env.StoresAnswer) :
    (loadCart c).run.Leads env.handle w l fun _ w' _ => w'.events = w.events := by
  rw [← bind_pure (loadCart c)]
  exact leads_load hs (fun _ _ _ _ hw _ => hw) fun s w' l' _ hw _ => leads_pure hw

/-- Willing providers do not refuse on the way. -/
theorem leads_willing {p : Run α}
    {post : Except RunnerError α → World → List (Event Op.Ans) → Prop}
    (h : p.run.Leads env.handle w [] post) :
    p.run.Leads env.handle w [] fun r w' l' =>
      post r w' l' ∧ (env.Willing w.clock → refusals l' = []) :=
  ⟨h, fun hwilling => hwilling.refusals_eq_nil⟩

/-! ## Commands -/

/-- What a command returns, and the world it leaves. -/
abbrev dispatched (env : Env) (runner : Runner) (command : CartCommand) (cartId : Option CartId)
    (w : World) : Except RunnerError CartProjection × World :=
  (dispatchCartCommand runner command cartId).run.run env.handle w

/-- What providers refuse on the way of a command. -/
def refusedOn (env : Env) (runner : Runner) (command : CartCommand) (cartId : Option CartId)
    (w : World) : List CartState :=
  refusals ((dispatchCartCommand runner command cartId).run.events env.handle w)

end Orchestrator
