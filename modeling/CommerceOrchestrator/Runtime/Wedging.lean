/-
# `CommerceOrchestrator.Runtime.Wedging` — carts that take no more changes

A recalculation that a provider refuses leaves the cart state machine where it
has got to: at `itemsMutated`, `repriced` or `retaxed`.  The first admits another
change, the other two do not, and no recalculation starts from them again.
`commands_accepted` says that nothing else keeps a cart from being changed.
-/
import CommerceOrchestrator.Runtime.Atomicity
import CommerceOrchestrator.Runtime.Ownership

namespace Orchestrator

open Effect Prog

variable {env : Env} {runner : Runner} {w w' : World} {c : CartId}

/-! ## What a cart accepts -/

/-- The command changes `c`, is well formed, and is about a line the cart has. -/
structure Proper (w : World) (c : CartId) (command : CartCommand) (cartId : Option CartId) :
    Prop where
  recalculates : command.recalculates
  valid : validateCartCommand command = []
  target : cartId = some c
  present : ∀ s, w.events.getCartSnapshot c = some s → ¬ command.misses s

/-- Every proper command on `c` succeeds. -/
def AcceptsChanges (env : Env) (runner : Runner) (w : World) (c : CartId) : Prop :=
  ∀ command cartId, Proper w c command cartId →
    ∃ s, (dispatched env runner command cartId w).1 = .ok s

theorem Ended.attempt {command : CartCommand} {cartId : Option CartId}
    {r : Except RunnerError CartProjection} {E : InMemoryEventStore} {rs : List CartState}
    (h : Ended env w command cartId r E rs) (hcommand : command.recalculates)
    (hvalid : validateCartCommand command = []) : Attempt env w command cartId r E rs := by
  cases h with
  | invalid command cartId e hbad => exact absurd hvalid hbad
  | attempted command cartId _ _ ha => exact ha
  | created | selected | looked | readied | cancelled => cases hcommand

/-- With willing providers, a recalculation of a stored cart succeeds exactly when the
state machine admits a change. -/
theorem Attempt.ok_iff {command : CartCommand} {cartId : Option CartId} {s : CartProjection}
    {r : Except RunnerError CartProjection} {E : InMemoryEventStore} {rs : List CartState}
    (h : Attempt env w command cartId r E rs) (hwilling : env.Willing w.clock)
    (hc : cartId = some c) (hstored : w.events.getCartSnapshot c = some s)
    (hpresent : ¬ command.misses s) :
    (∃ s', r = .ok s') ↔ (w.events.next c .itemChanged).isSome := by
  cases h with
  | barred e hbar => exact absurd (hbar hwilling c s hc hstored) hpresent
  | made c' s₁ hc' _ hm =>
      obtain rfl := Option.some.inj (hc.symm.trans hc')
      cases hm with
      | stuck e hstuck =>
          rw [hstuck]
          exact iff_of_false (fun ⟨_, h⟩ => nomatch h) (fun h => nomatch h)
      | stored s' hopen _ _ => exact iff_of_true ⟨s', rfl⟩ hopen
      | refused e st _ _ hno => exact absurd hwilling hno

/-- With willing providers, a stored cart accepts changes exactly when its state
machine admits one. -/
theorem acceptsChanges_iff (runner : Runner) (hs : env.StoresAnswer)
    (hwilling : env.Willing w.clock)
    {s : CartProjection} (hstored : w.events.getCartSnapshot c = some s) :
    AcceptsChanges env runner w c ↔ (w.events.next c .itemChanged).isSome := by
  have hiff {command : CartCommand} {cartId : Option CartId} (hp : Proper w c command cartId) :
      (∃ s', (dispatched env runner command cartId w).1 = .ok s') ↔
        (w.events.next c .itemChanged).isSome :=
    ((dispatched_ends hs runner w command cartId).attempt hp.recalculates hp.valid).ok_iff
      hwilling hp.target hstored (hp.present s hstored)
  constructor
  · intro h
    have hp : Proper w c (.removeItem ⟨"li"⟩) (some c) := ⟨rfl, by decide, rfl, fun _ _ => id⟩
    exact (hiff hp).mp (h _ _ hp)
  · exact fun hopen command cartId hp => (hiff hp).mpr hopen

/-! ## How calls leave the state machine -/

/-- If a call leaves a snapshot of `c`, there was one before and the cart's state
is the same, or the state is now in `P`. -/
def Settles (P : CartState → Prop) (E E' : InMemoryEventStore) (c : CartId) : Prop :=
  ∀ s, E'.getCartSnapshot c = some s →
    (∃ s₀, E.getCartSnapshot c = some s₀ ∧ E'.getCartState c = E.getCartState c) ∨
      ∃ st, E'.getCartState c = some st ∧ P st

variable {P : CartState → Prop} {E E' : InMemoryEventStore}

theorem settles_of_same (hsnapshot : E'.getCartSnapshot c = E.getCartSnapshot c)
    (hstate : E'.getCartState c = E.getCartState c) : Settles P E E' c := by
  intro s hs
  exact Or.inl ⟨s, hsnapshot.symm.trans hs, hstate⟩

theorem settles_of_state {st : CartState} (hstate : E'.getCartState c = some st) (hst : P st) :
    Settles P E E' c :=
  fun _ _ => Or.inr ⟨st, hstate, hst⟩

/-- A snapshot put under the id of one that is stored. -/
theorem settles_of_put {c' : CartId} {s s' : CartProjection}
    (hstored : E.getCartSnapshot c' = some s) (hid : s'.cartId = c')
    (hsnapshot : ∀ c, E'.getCartSnapshot c = E.getCartSnapshot c)
    (hstate : E'.getCartState c = E.getCartState c) :
    Settles P E (E'.putCartSnapshot s') c := by
  intro s₁ hs₁
  refine Or.inl ?_
  by_cases hc : c = c'
  · exact ⟨s, hc ▸ hstored, hstate⟩
  · have hother : (E'.putCartSnapshot s').getCartSnapshot c = E'.getCartSnapshot c := by
      subst hid
      exact AList.lookup_insert_ne hc
    exact ⟨s₁, (hsnapshot c).symm.trans (hother.symm.trans hs₁), hstate⟩

theorem Walked.state_ne {c' : CartId} {st : CartState} (h : Walked E E' c' st) (hc : c ≠ c') :
    E'.getCartState c = E.getCartState c :=
  congrArg (·.2.2) (h.others c hc)

theorem setCartState_ne {c' : CartId} {st : CartState} (hc : c ≠ c') :
    (E.setCartState c' st).getCartState c = E.getCartState c :=
  AList.lookup_insert_ne hc

section Settling

variable {command : CartCommand} {cartId : Option CartId}
  {r : Except RunnerError CartProjection} {rs : List CartState}

theorem Mutation.settles {c' : CartId} {s : CartProjection}
    (h : Mutation env w c' s.cartId r E rs) (hstored : w.events.getCartSnapshot c' = some s)
    (hid : s.cartId = c') (hgeo : P .geoChecked) (hrs : c' = c → ∀ st ∈ rs, P st) :
    Settles P w.events E c := by
  cases h with
  | stuck e _ => exact settles_of_same rfl rfl
  | @stored s' E' _ hid' hwalked =>
      by_cases hc : c = c'
      · subst hc
        have hstate : (E'.putCartSnapshot s').getCartState c = some .geoChecked := hwalked.state
        exact settles_of_state hstate hgeo
      · refine settles_of_put hstored (hid'.trans hid) (fun c => ?_) (hwalked.state_ne hc)
        rw [InMemoryEventStore.getCartSnapshot, hwalked.snapshots]
        rfl
  | refused e st _ hwalked _ =>
      by_cases hc : c = c'
      · subst hc
        exact settles_of_state hwalked.state (hrs rfl st (List.mem_singleton_self st))
      · refine settles_of_same ?_ (hwalked.state_ne hc)
        rw [InMemoryEventStore.getCartSnapshot, hwalked.snapshots]
        rfl

theorem Declaration.settles {c' : CartId} {fits : CartProjection → Prop} {event : CartEvent}
    (h : Declaration w c' fits event r E)
    (hfiled : ∀ s, w.events.getCartSnapshot c' = some s → s.cartId = c')
    (hst : ∀ s st, r = .ok s → w.events.next c' event = some st → c ≠ c' ∨ P st) :
    Settles P w.events E c := by
  cases h with
  | barred e _ => exact settles_of_same rfl rfl
  | stuck e s s' entry hstored _ hid _ =>
      exact settles_of_put hstored (hid.trans (hfiled s hstored)) (fun _ => rfl) rfl
  | made s s' entry st hstored _ hid hnext =>
      by_cases hc : c = c'
      · subst hc
        rcases hst s' st rfl hnext with hne | hP
        · exact absurd rfl hne
        · exact settles_of_state (AList.lookup_insert _) hP
      · have hstate : ((w.events.appendCartEvent c' entry).setCartState c' st).getCartState c =
            w.events.getCartState c := setCartState_ne hc
        refine settles_of_put hstored (hid.trans (hfiled s hstored)) (fun _ => ?_) hstate
        rfl

theorem nextCartState_markCheckoutReady {current next : CartState}
    (h : nextCartState current .markCheckoutReady = some next) : next = .checkoutReady := by
  cases current <;> cases h <;> rfl

/-- Every cart command leaves the state machine of a stored cart in `P`, if `P` has the
states it sets and those in which a refusal leaves it, and the cart is not cancelled. -/
theorem Ended.settles (h : Ended env w command cartId r E rs)
    (hfiled : ∀ c s, w.events.getCartSnapshot c = some s → s.cartId = c)
    (hcreated : P .cartCreated) (hgeo : P .geoChecked) (hready : P .checkoutReady)
    (hrs : command.recalculates → cartId = some c → ∀ st ∈ rs, P st)
    (hkept : ∀ payload s, command = .cancelCart payload → r = .ok s → payload.cartId ≠ c) :
    Settles P w.events E c := by
  cases h with
  | invalid command cartId e _ => exact settles_of_same rfl rfl
  | created payload cartId s entry rs =>
      by_cases hc : c = s.cartId
      · subst hc
        exact settles_of_state (AList.lookup_insert _) hcreated
      · exact settles_of_same (AList.lookup_insert_ne hc) (setCartState_ne hc)
  | attempted command cartId hcommand _ ha =>
      cases ha with
      | barred e _ => exact settles_of_same rfl rfl
      | made c' s hc' hstored hm =>
          refine hm.settles hstored (hfiled c' s hstored) hgeo fun hc => hrs hcommand ?_
          rw [hc', hc]
  | selected payload cartId rs hsel =>
      cases hsel with
      | barred e => exact settles_of_same rfl rfl
      | stored c' s s' entry _ hstored hid =>
          exact settles_of_put hstored (hid.trans (hfiled c' s hstored)) (fun _ => rfl) rfl
  | looked payload cartId rs r => exact settles_of_same rfl rfl
  | readied payload cartId rs _ hd =>
      refine hd.settles (hfiled _) fun s st _ hnext => Or.inr ?_
      obtain ⟨current, -, hcurrent⟩ := Option.bind_eq_some_iff.mp hnext
      rw [nextCartState_markCheckoutReady hcurrent]
      exact hready
  | cancelled payload cartId rs hd =>
      exact hd.settles (hfiled _) fun s st hok _ => Or.inl (hkept payload s rfl hok).symm

end Settling

/-! ### Checkouts -/

section Checkouts

variable {request : CheckoutRequest} {tr : List (Event Op.Ans)}
  {r : Except RunnerError TransactionResult}

/-- What every operation of the five stretches of a checkout is, every operation of it is. -/
theorem CheckoutPath.forall_ops {k : Op → Prop} (hclaim : k (.claim (.ofRequest request)))
    (hrelease : k (.release (.ofRequest request))) (hsettles : ∀ o : Op, o.settles → k o)
    (hreserves : ∀ o : Op, o.reserves → k o) (hfinishes : ∀ o : Op, o.finishes → k o)
    (h : CheckoutPath runner request tr r) : ∀ e ∈ tr, k e.1 := by
  have hkind {j : Op → Bool} {tr : List (Event Op.Ans)} (hj : ∀ o : Op, j o → k o)
      (htr : ∀ e ∈ tr, j e.1) : ∀ e ∈ tr, k e.1 := fun e he => hj _ (htr e he)
  cases h with
  | invalid _ => simp
  | unclaimed e _ => simpa using hclaim
  | inFlight _ => simpa using hclaim
  | replayed result _ => simpa using hclaim
  | owned _ ho =>
      refine List.forall_mem_cons.mpr ⟨hclaim, ?_⟩
      cases ho with
      | unsettled e x e' hs =>
          refine List.forall_mem_append.mpr ⟨hkind hsettles hs.settles, ?_⟩
          simpa using hrelease
      | unreserved cart e hs hr =>
          exact List.forall_mem_append.mpr ⟨hkind hsettles hs.settles, hkind hreserves hr.reserves⟩
      | paid cart hs hr hp =>
          refine List.forall_mem_append.mpr ⟨hkind hsettles hs.settles, ?_⟩
          exact List.forall_mem_append.mpr
            ⟨hkind hreserves hr.reserves, hkind hfinishes hp.finishes⟩

/-- A checkout does not move the state machine. -/
theorem CheckoutPath.setsNoState (h : CheckoutPath runner request tr r) :
    ∀ e ∈ tr, ∀ c st, e.1 ≠ .setCartState c st := by
  have hkind {j : Op → Bool} (hj : ∀ c st, j (.setCartState c st) = false) (o : Op) (ho : j o) :
      ∀ c st, o ≠ .setCartState c st := by
    rintro c st rfl
    exact Bool.false_ne_true ((hj c st).symm.trans ho)
  exact h.forall_ops (k := fun o => ∀ c st, o ≠ .setCartState c st) (by simp) (by simp)
    (hkind fun _ _ => rfl) (hkind fun _ _ => rfl) (hkind fun _ _ => rfl)

/-- A checkout puts snapshots only of carts that are stored. -/
theorem CheckoutPath.puts_stored (h : CheckoutPath runner request tr r)
    (hr : Replays env.handle w tr w')
    (hfiled : ∀ c s, w.events.getCartSnapshot c = some s → s.cartId = c) :
    ∀ e ∈ tr, ∀ c ∈ e.1.writesTo, ∃ s, w.events.getCartSnapshot c = some s := by
  cases h with
  | owned _ ho =>
      obtain ⟨stored, tr', rfl, hput⟩ := ho.loads
      obtain ⟨-, hread, -⟩ := hr
      intro e he c hc
      rcases List.mem_cons.mp he with rfl | he
      · cases hc
      rcases List.mem_cons.mp he with rfl | he
      · cases hc
      obtain ⟨s, rfl, rfl⟩ := hput e he c hc
      have hs := World.read_some hread
      rw [Env.handle_snapshot (by simp)] at hs
      rw [hfiled _ s hs]
      exact ⟨s, hs⟩
  | _ => simp [Op.writesTo]

theorem CheckoutPath.stays (h : CheckoutPath runner request tr r)
    (hr : Replays env.handle w tr w')
    (hfiled : ∀ c s, w.events.getCartSnapshot c = some s → s.cartId = c) :
    Settles P w.events w'.events c := by
  have hstate : w'.events.getCartState c = w.events.getCartState c :=
    hr.frame (fun v => v.events.getCartState c) fun e he v => Env.handle_state (h.setsNoState e he)
  intro s hs
  refine Or.inl ?_
  by_cases hwrites : ∃ e ∈ tr, c ∈ e.1.writesTo
  · obtain ⟨e, he, hc⟩ := hwrites
    obtain ⟨s₀, hs₀⟩ := h.puts_stored hr hfiled e he c hc
    exact ⟨s₀, hs₀, hstate⟩
  · have hrecord : w'.events.record c = w.events.record c :=
      hr.frame (fun v => v.events.record c) fun e he v =>
        Env.handle_record fun hc => hwrites ⟨e, he, hc⟩
    exact ⟨s, (congrArg (·.2.1) hrecord).symm.trans hs, hstate⟩

end Checkouts

/-! ## Sessions -/

/-- A command that recalculates `c` is refused after pricing: by tax, discounts or geo. -/
def Stalls (c : CartId) (t : Turn Op.Ans Outcome) : Prop :=
  ∃ command r, t.result = .cart command (some c) r ∧ command.recalculates ∧
    ∃ st ∈ refusals t.trace, st ≠ .itemsMutated

/-- The call cancels `c`. -/
def Outcome.cancels (c : CartId) : Outcome → Bool
  | .cart (.cancelCart payload) _ (.ok _) => payload.cartId = c
  | _ => false

theorem Call.cart_turn (env : Env) (runner : Runner) (command : CartCommand)
    (cartId : Option CartId) (w : World) :
    ((Call.cart command cartId).prog runner).run env.handle w =
        (.cart command cartId (dispatched env runner command cartId w).1,
          (dispatched env runner command cartId w).2) ∧
      ((Call.cart command cartId).prog runner).events env.handle w =
        (dispatchCartCommand runner command cartId).run.events env.handle w := by
  refine ⟨run_bind, ?_⟩
  rw [Call.prog, events_bind]
  exact List.append_nil _

theorem Call.checkout_turn (request : CheckoutRequest) (w : World) :
    ((Call.checkout request).prog runner).run env.handle w =
        (.checkout request ((executeCheckout runner request).run.run env.handle w).1,
          ((executeCheckout runner request).run.run env.handle w).2) :=
  run_bind

/-- One call of a session, from a world whose snapshots are filed under their ids. -/
theorem Call.settles (hs : env.StoresAnswer) {C : Turn Op.Ans Outcome → Prop}
    (hcreated : P .cartCreated) (hgeo : P .geoChecked) (hready : P .checkoutReady)
    (hrs : ∀ t command r, C t → t.result = .cart command (some c) r → command.recalculates →
      ∀ st ∈ refusals t.trace, P st)
    (hkept : ∀ t, C t → t.result.cancels c = false) (call : Call) (w : World)
    (hfiled : ∀ c s, w.events.getCartSnapshot c = some s → s.cartId = c)
    (hc : C ⟨(call.prog runner).events env.handle w, ((call.prog runner).run env.handle w).1⟩) :
    Settles P w.events ((call.prog runner).run env.handle w).2.events c := by
  cases call with
  | cart command cartId =>
      obtain ⟨hrun, hevents⟩ := Call.cart_turn env runner command cartId w
      rw [hrun, hevents] at hc
      rw [hrun]
      refine (dispatched_ends hs runner w command cartId).settles hfiled hcreated hgeo hready ?_ ?_
      · rintro hcommand rfl
        exact hrs _ command _ hc rfl hcommand
      · rintro payload s rfl hok rfl
        have hno := hkept _ hc
        rw [hok] at hno
        exact absurd hno (by simp [Outcome.cancels])
  | checkout request =>
      rw [Call.checkout_turn]
      exact (executeCheckout_trace (events_trace _ w)).stays (events_replays _ w) hfiled

/-- **Session induction for the state machine.** -/
theorem session_settles (hs : env.StoresAnswer) {C : Turn Op.Ans Outcome → Prop}
    (hcreated : P .cartCreated) (hgeo : P .geoChecked) (hready : P .checkoutReady)
    (hrs : ∀ t command r, C t → t.result = .cart command (some c) r → command.recalculates →
      ∀ st ∈ refusals t.trace, P st)
    (hkept : ∀ t, C t → t.result.cancels c = false) {calls : List Call}
    (hc : ∀ t ∈ (session env runner calls World.empty).1, C t) {s : CartProjection}
    (hstored : (session env runner calls World.empty).2.events.getCartSnapshot c = some s) :
    ∃ st, (session env runner calls World.empty).2.events.getCartState c = some st ∧ P st := by
  have hinv : Keyed (session env runner calls World.empty).2.clock
        (session env runner calls World.empty).2 ∧
      ∀ s, (session env runner calls World.empty).2.events.getCartSnapshot c = some s →
        ∃ st, (session env runner calls World.empty).2.events.getCartState c = some st ∧ P st := by
    refine runAll_keeps (I := fun w => Keyed w.clock w ∧
      ∀ s, w.events.getCartSnapshot c = some s → ∃ st, w.events.getCartState c = some st ∧ P st)
      (C := C) (fun p hp w hw hcp => ?_) ⟨?_, ?_⟩ hc
    · obtain ⟨call, -, rfl⟩ := List.mem_map.mp hp
      have hfiled : ∀ c s, w.events.getCartSnapshot c = some s → s.cartId = c :=
        fun c s hs => (hw.1 c s hs).1
      have hpath := Call.prog_trace (events_trace (h := env.handle) (call.prog runner) w)
      have hreplays := events_replays (h := env.handle) (call.prog runner) w
      refine ⟨(hpath.writes hreplays hw.1).1, fun s hs₁ => ?_⟩
      have hsettles : Settles P w.events ((call.prog runner).run env.handle w).2.events c :=
        call.settles hs hcreated hgeo hready hrs hkept w hfiled hcp
      rcases hsettles s hs₁ with ⟨s₀, hs₀, hstate⟩ | h
      · rw [hstate]
        exact hw.2 s₀ hs₀
      · exact h
    · intro c s hs
      cases hs
    · intro s hs
      cases hs
  exact hinv.2 s hstored

theorem mem_refusals {l : List (Event Op.Ans)} {st : CartState} (h : st ∈ refusals l) :
    st = .itemsMutated ∨ st = .repriced ∨ st = .retaxed := by
  obtain ⟨e, -, he⟩ := List.mem_filterMap.mp h
  unfold refusal at he
  split at he <;> cases he <;> simp

/-- What a state admits, if it is not `cancelled`. -/
theorem nextCartState_itemChanged_isSome {st : CartState} (h : st ≠ .cancelled) :
    (nextCartState st .itemChanged).isSome ↔ st ≠ .repriced ∧ st ≠ .retaxed := by
  cases st <;> simp_all [nextCartState]

/-- **What wedges a cart.**  After any session with stores that answer, once the providers
answer too, a cart that was never cancelled accepts every proper change exactly when its
state machine is not at `repriced` or `retaxed`; and it is not, if no command on it was
refused by tax, discounts or geo. -/
theorem changes_accepted (env : Env) (hs : env.StoresAnswer) (runner : Runner) (calls : List Call)
    (c : CartId) (s : CartProjection)
    (hstored : (session env runner calls World.empty).2.events.getCartSnapshot c = some s)
    (hkept : ∀ t ∈ (session env runner calls World.empty).1, t.result.cancels c = false)
    (hwilling : env.Willing (session env runner calls World.empty).2.clock) :
    (AcceptsChanges env runner (session env runner calls World.empty).2 c ↔
      ∀ st, (session env runner calls World.empty).2.events.getCartState c = some st →
        st ≠ .repriced ∧ st ≠ .retaxed) ∧
    ((∀ t ∈ (session env runner calls World.empty).1, ¬ Stalls c t) →
      AcceptsChanges env runner (session env runner calls World.empty).2 c) := by
  have hiff := acceptsChanges_iff runner hs hwilling hstored
  obtain ⟨st, hst, hlive⟩ := session_settles (P := (· ≠ .cancelled))
    (C := fun t => t.result.cancels c = false) hs (by decide) (by decide) (by decide)
    (fun t command r _ _ _ st hm => by rcases mem_refusals hm with rfl | rfl | rfl <;> decide)
    (fun _ h => h) hkept hstored
  rw [InMemoryEventStore.next_some hst, nextCartState_itemChanged_isSome hlive] at hiff
  constructor
  · refine hiff.trans ⟨fun h st' hst' => ?_, fun h => h st hst⟩
    obtain rfl := Option.some.inj (hst.symm.trans hst')
    exact h
  · intro hcalm
    have hopen : ∃ st, (session env runner calls World.empty).2.events.getCartState c = some st ∧
        st ≠ .repriced ∧ st ≠ .retaxed := by
      refine session_settles (C := fun t => t.result.cancels c = false ∧ ¬ Stalls c t) hs (by decide)
        (by decide) (by decide) (fun t command r ht hresult hcommand st hm => ?_) (fun _ h => h.1)
        (fun t ht => ⟨hkept t ht, hcalm t ht⟩) hstored
      have hfirst : st = .itemsMutated := by
        by_contra hlate
        exact ht.2 ⟨command, r, hresult, hcommand, st, hm, hlate⟩
      subst hfirst
      exact ⟨by decide, by decide⟩
    obtain ⟨st', hst', hok⟩ := hopen
    obtain rfl := Option.some.inj (hst.symm.trans hst')
    exact hiff.mpr hok

/-- The sample cart after its session, with providers that always answer. -/
theorem changes_accepted_sample :
    AcceptsChanges Env.agreeable Sample.runner Sample.shopped Sample.cart.cartId := by
  have hstored : (Sample.shopped.events.getCartSnapshot Sample.cart.cartId).isSome := by
    decide +kernel
  obtain ⟨s, hs⟩ := Option.isSome_iff_exists.mp hstored
  have hstate : Sample.shopped.events.getCartState Sample.cart.cartId = some .geoChecked := by
    decide +kernel
  refine (changes_accepted Env.agreeable (fun _ _ => rfl) Sample.runner Sample.shopping
    Sample.cart.cartId s hs ?_ ?_).1.mpr ?_
  · decide +kernel
  · exact ⟨fun _ _ _ => ⟨_, rfl⟩, fun _ _ _ => ⟨_, rfl⟩, fun _ _ _ _ => ⟨_, rfl⟩,
      fun _ _ _ => ⟨_, rfl⟩, fun _ _ _ _ => ⟨_, rfl⟩⟩
  · intro st hst
    obtain rfl := Option.some.inj (hstate.symm.trans hst)
    exact ⟨by decide, by decide⟩

/-- A pricing provider that grants no code at first, and any code later. -/
def Env.lapsed : Env :=
  { Env.agreeable with
    resolveDiscounts := fun n _ _ => if n < 33 then .error (.failed "expired") else .ok [] }

/-- The sample session, then a code that has expired. -/
def Sample.lapsing : List Call :=
  Sample.shopping ++ [.cart (.applyAdjustment ⟨"SAVE10"⟩) (some Sample.cart.cartId)]

/-- The world after it. -/
def Sample.lapsed : World := (session Env.lapsed Sample.runner Sample.lapsing World.empty).2

theorem Env.lapsed_willing : Env.lapsed.Willing Sample.lapsed.clock where
  getItem _ _ _ := ⟨_, rfl⟩
  resolvePrices _ _ _ := ⟨_, rfl⟩
  resolveDiscounts m _ _ hm := by
    have hclock : Sample.lapsed.clock = 33 := by decide +kernel
    exact ⟨[], if_neg (by omega)⟩
  resolveTax _ _ _ := ⟨_, rfl⟩
  checkGeo _ _ _ _ := ⟨_, rfl⟩

/-- After one expired code a stored cart that no one cancelled takes no more items, though
every provider answers. -/
theorem rejected_code_wedges :
    (∃ s, s ∈ Sample.lapsed.events.getCartSnapshot Sample.cart.cartId) ∧
      (∀ t ∈ (session Env.lapsed Sample.runner Sample.lapsing World.empty).1,
        t.result.cancels Sample.cart.cartId = false) ∧
      Env.lapsed.Willing Sample.lapsed.clock ∧
      ¬ AcceptsChanges Env.lapsed Sample.runner Sample.lapsed Sample.cart.cartId := by
  have hstored : (Sample.lapsed.events.getCartSnapshot Sample.cart.cartId).isSome := by
    decide +kernel
  refine ⟨Option.isSome_iff_exists.mp hstored, by decide +kernel, Env.lapsed_willing, fun h => ?_⟩
  have hproper : Proper Sample.lapsed Sample.cart.cartId (.addItem ⟨"sku", 1⟩)
      (some Sample.cart.cartId) := ⟨rfl, by decide, rfl, fun _ _ => id⟩
  have hrefused : (dispatched Env.lapsed Sample.runner (.addItem ⟨"sku", 1⟩)
      (some Sample.cart.cartId) Sample.lapsed).1 = .error .invalidStateTransition := by
    decide +kernel
  obtain ⟨s, hs⟩ := h _ _ hproper
  cases hrefused.symm.trans hs

end Orchestrator
