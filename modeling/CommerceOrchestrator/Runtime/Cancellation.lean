/-
# `CommerceOrchestrator.Runtime.Cancellation` — a cancelled cart

Cancelling stores the snapshot as cancelled and takes the cart state machine to
`cancelled`, which has no way out.  Four commands ask the machine before they
write.  `startCheckout` asks after, `setFulfillmentSelection` and the checkout
do not ask at all, and no one reads the status.  `session_cancelled` says what
follows: a cart stays cancelled as long as no call of these three kinds gets as
far as the question it does not ask (`Overrides`).
-/
import CommerceOrchestrator.Runtime.Ownership

namespace Orchestrator

open Effect Prog

variable {α β : Type} {env : Env} {runner : Runner} {request : CheckoutRequest} {w w' : World}
  {tr : List (Event Op.Ans)} {c : CartId} {s : CartProjection}

/-- The cart is stored as `s`, cancelled, but for the version; its state is `cancelled`. -/
structure CancelledAs (s : CartProjection) (w : World) : Prop where
  snapshot : ∃ version,
    w.events.getCartSnapshot s.cartId = some { s with status := .cancelled, version }
  state : w.events.getCartState s.cartId = some .cancelled

/-! ## The cancelling call -/

theorem transitionCart_ok {event : CartEvent} {u : Unit}
    (h : (transitionCart c event).run.Trace tr (.ok u)) :
    ∃ current next, nextCartState current event = some next ∧
      tr = [⟨.getCartState c, some current⟩, ⟨.setCartState c next, .ok ()⟩] := by
  unfold transitionCart at h
  rw [trace_call_bind] at h
  obtain ⟨state, t, rfl, h⟩ := h
  cases state with
  | none =>
      obtain ⟨-, hno⟩ := h
      cases hno
  | some current =>
      rw [okOr_some, pure_bind] at h
      cases hnext : nextCartState current event with
      | none =>
          rw [hnext] at h
          obtain ⟨-, hno⟩ := h
          cases hno
      | some next =>
          rw [hnext, okOr_some, pure_bind, trace_tryWith] at h
          obtain ⟨x, hx, hok⟩ := h
          obtain rfl := trace_ask.mp hx
          cases x with
          | error e => cases hok
          | ok u => exact ⟨current, next, hnext, rfl⟩

/-- A cancellation that succeeds. -/
theorem cancelCart_ok {payload : CancelCartPayload}
    (h : (cancelCart payload).run.Trace tr (.ok s)) :
    ∃ stored current next, nextCartState current .cancel = some next ∧
      s = { stored with status := .cancelled, version := stored.version + 1 } ∧
      tr = [⟨.getCartSnapshot payload.cartId, some stored⟩,
        ⟨.appendCartEvent payload.cartId .cancelled, .ok ()⟩, ⟨.putCartSnapshot s, .ok ()⟩,
        ⟨.getCartState payload.cartId, some current⟩,
        ⟨.setCartState payload.cartId next, .ok ()⟩] := by
  unfold cancelCart at h
  rw [trace_bind_except] at h
  rcases h with ⟨e, -, hno⟩ | ⟨stored, t₁, t₂, rfl, hl, h⟩
  · cases hno
  rcases loadCart_trace hl with ⟨-, hno⟩ | ⟨loaded, rfl, hloaded⟩
  · cases hno
  obtain rfl := Except.ok.inj hloaded
  rw [trace_tryWith_bind] at h
  rcases h with ⟨e, -, hno⟩ | ⟨u, t₁, t₂, rfl, he, h⟩
  · cases hno
  obtain rfl := trace_ask.mp he
  rw [trace_tryWith_bind] at h
  rcases h with ⟨e, -, hno⟩ | ⟨u, t₁, t₂, rfl, he, h⟩
  · cases hno
  obtain rfl := trace_ask.mp he
  rw [trace_bind_except] at h
  rcases h with ⟨e, -, hno⟩ | ⟨u, t₁, t₂, rfl, ht, rfl, hs⟩
  · cases hno
  obtain ⟨current, next, hnext, rfl⟩ := transitionCart_ok ht
  cases hs
  exact ⟨stored, current, next, hnext, rfl, rfl⟩

/-- After a cancellation that succeeds the cart is cancelled. -/
theorem cancelCart_cancels {payload : CancelCartPayload} {cartId : Option CartId}
    (ht : (dispatchCartCommand runner (.cancelCart payload) cartId).run.Trace tr (.ok s))
    (hr : Replays env.handle w tr w') (hw : Keyed w.clock w) :
    s.cartId = payload.cartId ∧ CancelledAs s w' := by
  unfold dispatchCartCommand at ht
  rw [trace_failIf_bind] at ht
  rcases ht with ⟨-, -, hno⟩ | ⟨-, ht⟩
  · cases hno
  obtain ⟨stored, current, next, hnext, rfl, rfl⟩ := cancelCart_ok ht
  obtain ⟨hread, -, hput, -, hset, rfl⟩ := hr
  have hid : stored.cartId = payload.cartId := (hw _ _ (World.read_some hread)).1
  refine ⟨hid, ⟨⟨stored.version + 1, ?_⟩, ?_⟩⟩
  · rw [Env.handle_snapshot (by simp), Env.handle_snapshot (by simp),
      Env.handle_putCartSnapshot_snapshot, hput, if_pos ⟨tookHold_ok _, rfl⟩]
  · rw [Env.handle_setCartState_state, hset, nextCartState_cancel hnext,
      if_pos ⟨tookHold_ok _, hid⟩]

/-! ## Calls that leave it cancelled -/

/-- The lines a fulfillment selection lists are lines of the cart. -/
def CoversLines (payload : SetFulfillmentSelectionPayload) (s : CartProjection) : Prop :=
  payload.lineItemIds = [] ∨ payload.lineItemIds.all fun id => s.lines.any (·.lineId = id)

/-- The option a fulfillment selection picks, if any, is in the built-in rate table. -/
def OffersOption (payload : SetFulfillmentSelectionPayload) : Prop :=
  ∀ id ∈ payload.selectedOptionId,
    ((defaultOptionsForMethod payload.methodType).find? (·.id = id)).isSome

/-- The call passes every check the code makes before it overwrites the snapshot of
`s` or pays for it; no check is whether the cart is cancelled. -/
def Call.Overrides (runner : Runner) (w : World) (s : CartProjection) : Call → Prop
  | .cart command cartId =>
      validateCartCommand command = [] ∧ command.target cartId = some s.cartId ∧
        match command with
        | .setFulfillmentSelection payload =>
            CoversLines payload s ∧ (runner.fulfillment = false → OffersOption payload)
        | .startCheckout payload => payload.cartVersion = s.version
        | _ => False
  | .checkout request =>
      request.cartId = s.cartId ∧ validateCheckoutRequest request = [] ∧
        w.idempotency.lookup (.ofRequest request) = none ∧ Admits request s

/-- What a command does on a cancelled cart stored as `q`: the state stays, and a
snapshot that is put is `q` again, cancelled, under another version. -/
def cancelledMonitor (c : CartId) : Monitor Op.Ans CartProjection where
  allow o q :=
    match o with
    | .setCartState c' _ => c' ≠ c
    | .putCartSnapshot s => s.cartId = c → s = { q with status := .cancelled, version := s.version }
    | o => o.carts
  rely o q x :=
    match o, x with
    | .getCartSnapshot c', some s => c' = c → s = q
    | .getCartState c', some state => c' = c → state = .cancelled
    | _, _ => True
  next o q x :=
    match o, x with
    | .putCartSnapshot s, x => if s.cartId = c ∧ tookHold x then s else q
    | _, _ => q

section Follows

variable {q : CartProjection} {P : β → CartProjection → Prop}

/-- No transition of a cancelled cart succeeds, so nothing after it happens. -/
theorem follows_no_transition {event : CartEvent} {k : Unit → Run β} :
    (transitionCart c event >>= k).run.Follows (cancelledMonitor c) (onOk P) q := by
  refine follows_run_bind (follows_call rfl fun state hstate => ?_)
  refine follows_okOr fun current hcurrent => follows_okOr fun next hnext => ?_
  subst hcurrent
  obtain rfl : current = .cancelled := hstate rfl
  rw [nextCartState_cancelled] at hnext
  cases hnext

theorem follows_load_stored {k : CartProjection → Run β}
    (h : (k q).run.Follows (cancelledMonitor c) (onOk P) q) :
    (loadCart c >>= k).run.Follows (cancelledMonitor c) (onOk P) q := by
  refine follows_run_bind ⟨rfl, fun x hx => ?_⟩
  cases x with
  | none => exact trivial
  | some s =>
      obtain rfl := hx rfl
      exact h

theorem mutateAndRecalculate_cancelled {projection : CartProjection} {event : CartStreamEvent}
    {P : CartProjection → CartProjection → Prop} :
    (mutateAndRecalculate c projection event).run.Follows (cancelledMonitor c) (onOk P) q :=
  follows_no_transition

theorem startCheckout_cancelled {payload : StartCheckoutPayload}
    {P : CartProjection → CartProjection → Prop} (hc : payload.cartId = c)
    (hspare : payload.cartVersion ≠ q.version) :
    (startCheckout payload).run.Follows (cancelledMonitor c) (onOk P) q := by
  subst hc
  refine follows_load_stored (follows_failIf fun hv => ?_)
  exact absurd (not_not.mp hv).symm hspare

/-- A second cancellation stores the cart as cancelled again and then fails. -/
theorem cancelCart_cancelled {payload : CancelCartPayload}
    {P : CartProjection → CartProjection → Prop} (hc : payload.cartId = c) :
    (cancelCart payload).run.Follows (cancelledMonitor c) (onOk P) q := by
  subst hc
  refine follows_load_stored ((unseen_append ⟨rfl, fun _ => rfl⟩).then fun _ => ?_)
  refine follows_tryWith_bind ⟨fun _ => rfl, fun x _ => ?_⟩
  cases x with
  | error _ => exact trivial
  | ok _ => exact follows_no_transition

/-- A selection that does not cover the cart, or picks an option nobody offers,
stops before it writes. -/
theorem setFulfillmentSelection_cancelled {payload : SetFulfillmentSelectionPayload}
    {cartId : Option CartId} {P : CartProjection → CartProjection → Prop} (hc : cartId = some c)
    (hspare : ¬ (CoversLines payload q ∧ (runner.fulfillment = false → OffersOption payload))) :
    (setFulfillmentSelection runner payload cartId).run.Follows (cancelledMonitor c)
      (onOk P) q := by
  subst hc
  unfold setFulfillmentSelection
  rw [okOr_some, pure_bind]
  refine follows_load_stored ?_
  by_cases hcovers : CoversLines payload q
  · obtain ⟨hf, hno⟩ : runner.fulfillment = false ∧ ¬ OffersOption payload := by
      simpa [hcovers] using hspare
    have hoptions {lines : List String} :
        quoteOptions runner q payload lines = pure (defaultOptionsForMethod payload.methodType) := by
      rw [quoteOptions, if_neg (by simp [hf])]
    have hlines : ∃ lines, selectedLines payload q = pure lines := by
      by_cases h : payload.lineItemIds = []
      · exact ⟨_, if_pos h⟩
      · exact ⟨_, (if_neg h).trans (if_pos (hcovers.resolve_left h))⟩
    obtain ⟨lines, hlines⟩ := hlines
    rw [hlines, pure_bind, hoptions, pure_bind]
    refine follows_failIf fun hgo => absurd ?_ hno
    intro id hid
    have hid : payload.selectedOptionId = some id := hid
    simpa [hid, Option.isSome_iff_ne_none] using hgo
  · have hlines : selectedLines payload q = throw .lineNotFound := by
      unfold selectedLines
      rw [if_neg fun h => hcovers (Or.inl h), if_neg fun h => hcovers (Or.inr h)]
    rw [hlines]
    exact trivial

/-- **Commands on a cancelled cart.**  One that is not among those that override it
stores nothing but the cancelled cart. -/
theorem dispatchCartCommand_cancelled {command : CartCommand} {cartId : Option CartId}
    (hc : command.target cartId = some c)
    (hid : q.cartId = c) (hspare : ¬ (Call.cart command cartId).Overrides runner w q) :
    (dispatchCartCommand runner command cartId).run.Follows (cancelledMonitor c)
      (onOk fun _ _ => True) q := by
  refine follows_failIf fun hvalid => ?_
  have hvalid := not_not.mp hvalid
  subst hid
  cases command with
  | createCart payload => cases hc
  | addItem payload =>
      obtain rfl : cartId = some q.cartId := hc
      have hitem : Unseen (cancelledMonitor q.cartId)
          (tryWith .catalog (ask (.getItem payload.itemId))) q :=
        unseen_tryWith ⟨rfl, fun _ _ => rfl⟩
      refine hitem.then fun item => ?_
      refine follows_load_stored (follows_call rfl fun uuid _ => ?_)
      exact mutateAndRecalculate_cancelled
  | updateItemQty payload =>
      obtain rfl : cartId = some q.cartId := hc
      refine follows_load_stored (follows_failIf fun _ => ?_)
      exact mutateAndRecalculate_cancelled
  | removeItem payload =>
      obtain rfl : cartId = some q.cartId := hc
      exact follows_load_stored mutateAndRecalculate_cancelled
  | applyAdjustment payload =>
      obtain rfl : cartId = some q.cartId := hc
      refine follows_load_stored ?_
      refine (unseen_validateAdjustment fun _ => ⟨rfl, fun _ => rfl⟩).then fun _ => ?_
      exact mutateAndRecalculate_cancelled
  | setFulfillmentSelection payload =>
      exact setFulfillmentSelection_cancelled hc fun hgo => hspare ⟨hvalid, hc, hgo⟩
  | getCart payload =>
      refine follows_call rfl fun x _ => ?_
      cases x <;> exact trivial
  | startCheckout payload =>
      exact startCheckout_cancelled (Option.some.inj hc) fun hv => hspare ⟨hvalid, hc, hv⟩
  | cancelCart payload => exact cancelCart_cancelled (Option.some.inj hc)

end Follows

theorem CancelledAs.of_record {w : World} (h : CancelledAs s w)
    (hrec : w'.events.record s.cartId = w.events.record s.cartId) : CancelledAs s w' := by
  have hsnap : w'.events.getCartSnapshot s.cartId = w.events.getCartSnapshot s.cartId :=
    congrArg (·.2.1) hrec
  have hstate : w'.events.getCartState s.cartId = w.events.getCartState s.cartId :=
    congrArg (·.2.2) hrec
  exact ⟨hsnap ▸ h.snapshot, hstate ▸ h.state⟩

/-- The cart is stored as `q`, which is `s` cancelled. -/
structure StoredCancelled (s : CartProjection) (w : World) (q : CartProjection) : Prop where
  snapshot : w.events.getCartSnapshot s.cartId = some q
  state : w.events.getCartState s.cartId = some .cancelled
  same : q = { s with status := .cancelled, version := q.version }

theorem StoredCancelled.rely {o : Op} {q : CartProjection} (h : StoredCancelled s w q) :
    (cancelledMonitor s.cartId).rely o q (env.handle o w).1 := by
  cases o with
  | getCartSnapshot c =>
      cases hx : (env.handle (.getCartSnapshot c) w).1 with
      | none => exact trivial
      | some s' =>
          rintro rfl
          exact Option.some.inj ((World.read_some hx).symm.trans h.snapshot)
  | getCartState c =>
      cases hx : (env.handle (.getCartState c) w).1 with
      | none => exact trivial
      | some state =>
          rintro rfl
          exact Option.some.inj ((World.read_some hx).symm.trans h.state)
  | _ => exact trivial

/-- An operation the monitor allows keeps the cart cancelled. -/
theorem StoredCancelled.handle {o : Op} {q : CartProjection} (h : StoredCancelled s w q)
    (ho : (cancelledMonitor s.cartId).allow o q) :
    StoredCancelled s (env.handle o w).2
      ((cancelledMonitor s.cartId).next o q (env.handle o w).1) := by
  by_cases hput : ∃ s', o = .putCartSnapshot s'
  · obtain ⟨s', rfl⟩ := hput
    have ho : s'.cartId = s.cartId → s' = { q with status := .cancelled, version := s'.version } :=
      ho
    have hstate : (env.handle (.putCartSnapshot s') w).2.events.getCartState s.cartId =
        some .cancelled := (Env.handle_state (by simp)).trans h.state
    show StoredCancelled s _ (if s'.cartId = s.cartId ∧ _ then s' else q)
    split
    · next hid =>
        refine ⟨?_, hstate, ?_⟩
        · rw [Env.handle_putCartSnapshot_snapshot, if_pos ⟨hid.2, hid.1.symm⟩]
        · rw [ho hid.1, h.same]
    · next hno =>
        refine ⟨?_, hstate, h.same⟩
        rw [Env.handle_putCartSnapshot_snapshot, if_neg fun hc => hno ⟨hc.2.symm, hc.1⟩]
        exact h.snapshot
  · have hnext : (cancelledMonitor s.cartId).next o q (env.handle o w).1 = q := by
      cases o with
      | putCartSnapshot s' => exact absurd ⟨s', rfl⟩ hput
      | _ => rfl
    rw [hnext]
    refine ⟨(Env.handle_snapshot fun s' he => hput ⟨s', he⟩).trans h.snapshot, ?_, h.same⟩
    cases o with
    | setCartState c state =>
        have hne : c ≠ s.cartId := ho
        rw [Env.handle_setCartState_state, if_neg fun hc => hne hc.2.symm]
        exact h.state
    | _ => exact (Env.handle_state (by simp)).trans h.state

/-- A command on a cancelled cart that does not override it leaves it cancelled. -/
theorem cart_stays_cancelled {command : CartCommand} {cartId : Option CartId}
    {r : Except RunnerError CartProjection}
    (ht : (dispatchCartCommand runner command cartId).run.Trace tr r)
    (hr : Replays env.handle w tr w') (hw : CancelledAs s w)
    (hc : command.target cartId = some s.cartId)
    (hspare : ∀ q, w.events.getCartSnapshot s.cartId = some q →
      ¬ (Call.cart command cartId).Overrides runner w q) : CancelledAs s w' := by
  obtain ⟨version, hsnap⟩ := hw.snapshot
  have hstart : StoredCancelled s w { s with status := .cancelled, version } :=
    ⟨hsnap, hw.state, rfl⟩
  have hfollows : (dispatchCartCommand runner command cartId).run.Follows
      (cancelledMonitor s.cartId) (onOk fun _ _ => True)
      { s with status := .cancelled, version } :=
    dispatchCartCommand_cancelled hc rfl (hspare _ hsnap)
  obtain ⟨⟨q, hend, -⟩, -⟩ := Monitor.Accepts.replays (I := StoredCancelled s)
    (fun e _ v q hv ho hx => hx ▸ ⟨hv.rely, hv.handle ho⟩) (hfollows.trace ht) hr hstart
  exact ⟨⟨q.version, hend.same ▸ hend.snapshot⟩, hend.state⟩

/-! ## Checkouts of a cancelled cart -/

/-- A settling either stops at the snapshot it loads, or the snapshot admits the request. -/
theorem SettlePath.admits_or {r : Except RunnerError CartProjection}
    (h : SettlePath request tr r) :
    ((∃ stored, tr = [⟨.getCartSnapshot request.cartId, stored⟩]) ∧ ∃ e, r = .error e) ∨
      ∃ stored tr', tr = ⟨.getCartSnapshot request.cartId, some stored⟩ :: tr' ∧
        Admits request stored := by
  cases h with
  | missing => exact Or.inl ⟨⟨_, rfl⟩, _, rfl⟩
  | refused cart e _ => exact Or.inl ⟨⟨_, rfl⟩, _, rfl⟩
  | unpriced cart e had _ | ungeo cart _ e had _ | unsaved cart _ g e had _
  | blocked cart _ g e had _ _ | settled cart _ g had _ _ _ =>
      exact Or.inr ⟨cart, _, rfl, had⟩

/-- A checkout that does not override the stored cart neither writes it nor pays. -/
theorem CheckoutPath.spares {r : Except RunnerError TransactionResult}
    (h : CheckoutPath runner request tr r) (hr : Replays env.handle w tr w')
    (hs : w.events.getCartSnapshot request.cartId = some s) (hid : s.cartId = request.cartId)
    (hspare : ¬ (Call.checkout request).Overrides runner w s) :
    ∀ e ∈ tr, e.1.writesTo = none ∧ e.1.pays = false := by
  cases h with
  | owned hvalid ho =>
      have hkey := Env.handle_claim_ok hr.1
      have hno : ¬ Admits request s := fun had => hspare ⟨hid.symm, hvalid, hkey, had⟩
      -- what the settling loads is what is stored
      have hloads : ∀ stored t, SettlePath request t stored →
          ∀ rest, Replays env.handle (env.handle (.claim (.ofRequest request)) w).2 (t ++ rest) w' →
          (∃ stored, t = [⟨.getCartSnapshot request.cartId, stored⟩]) ∧ ∃ e, stored = .error e := by
        intro r t hset rest hrest
        rcases hset.admits_or with h | ⟨stored, t', rfl, had⟩
        · exact h
        · have hread := World.read_some hrest.1
          rw [Env.handle_snapshot (by simp)] at hread
          cases hs.symm.trans hread
          exact absurd had hno
      cases ho with
      | unsettled e x e' hset =>
          obtain ⟨⟨stored, rfl⟩, -⟩ := hloads _ _ hset _ hr.2
          simp [Op.writesTo, Op.pays]
      | unreserved cart e hset _ =>
          obtain ⟨-, e, hno⟩ := hloads _ _ hset _ hr.2
          cases hno
      | paid cart hset _ _ =>
          obtain ⟨-, e, hno⟩ := hloads _ _ hset _ hr.2
          cases hno
  | _ => simp [Op.writesTo, Op.pays]

/-! ## Sessions -/

/-- No call of the session overrides the cart stored under `c` when it starts. -/
def Spares (env : Env) (runner : Runner) (c : CartId) : List Call → World → Prop
  | [], _ => True
  | call :: calls, w =>
      (∀ q, w.events.getCartSnapshot c = some q → ¬ call.Overrides runner w q) ∧
        Spares env runner c calls ((call.prog runner).run env.handle w).2

/-- No checkout of the cart reaches the payment provider. -/
def Unpaid (c : CartId) (turn : Turn Op.Ans Outcome) : Prop :=
  ∀ request r, turn.result = .checkout request r → request.cartId = c →
    ∀ e ∈ turn.trace, e.1.pays = false

/-- **The step.**  A call that does not override a cancelled cart leaves it
cancelled and does not pay for it. -/
theorem call_stays_cancelled {call : Call} (hkeyed : Keyed w.clock w) (hw : CancelledAs s w)
    (hspare : ∀ q, w.events.getCartSnapshot s.cartId = some q → ¬ call.Overrides runner w q) :
    Keyed ((call.prog runner).run env.handle w).2.clock ((call.prog runner).run env.handle w).2 ∧
      CancelledAs s ((call.prog runner).run env.handle w).2 ∧
      Unpaid s.cartId
        ⟨(call.prog runner).events env.handle w, ((call.prog runner).run env.handle w).1⟩ := by
  have hr := events_replays (h := env.handle) (call.prog runner) w
  have ht := events_trace (h := env.handle) (call.prog runner) w
  generalize (call.prog runner).events env.handle w = tr at hr ht
  generalize ((call.prog runner).run env.handle w).2 = w' at hr
  generalize ((call.prog runner).run env.handle w).1 = out at ht
  have hp := Call.prog_trace ht
  refine ⟨(hp.writes hr hkeyed).1, ?_⟩
  obtain ⟨version, hsnap⟩ := hw.snapshot
  have hdrawn : s.cartId.uuid.val < w.clock := (hkeyed _ _ hsnap).2
  cases call with
  | cart command cartId =>
      obtain ⟨r, t₁, t₂, rfl, htr, rfl, rfl⟩ := trace_bind.mp ht
      rw [List.append_nil] at hr hp
      refine ⟨?_, fun request r' hres => by cases hres⟩
      by_cases hc : command.target cartId = some s.cartId
      · exact cart_stays_cancelled htr hr hw hc hspare
      · exact hw.of_record (hp.record hr hkeyed hdrawn hc)
  | checkout request =>
      obtain ⟨r, t₁, t₂, rfl, htr, rfl, rfl⟩ := trace_bind.mp ht
      rw [List.append_nil] at hr hp ⊢
      by_cases hc : request.cartId = s.cartId
      · have hquiet := (executeCheckout_trace htr).spares hr
          (s := { s with status := .cancelled, version }) (hc ▸ hsnap) hc.symm (hspare _ hsnap)
        refine ⟨hw.of_record ?_, ?_⟩
        · refine Replays.frame (fun v => v.events.record s.cartId) hr fun e he v => ?_
          refine Env.handle_record ?_
          rw [(hquiet e he).1]
          exact (Option.some_ne_none _).symm
        · intro request' r' _ _ e he
          exact (hquiet e he).2
      · refine ⟨hw.of_record (hp.record hr hkeyed hdrawn fun h => hc (Option.some.inj h)), ?_⟩
        intro request' r' hres hc'
        cases hres
        exact absurd hc' hc

/-- The run: a session of such calls. -/
theorem session_stays_cancelled {calls : List Call} (hkeyed : Keyed w.clock w)
    (hw : CancelledAs s w) (hspares : Spares env runner s.cartId calls w) :
    CancelledAs s (session env runner calls w).2 ∧
      ∀ t ∈ (session env runner calls w).1, Unpaid s.cartId t := by
  induction calls generalizing w with
  | nil => exact ⟨hw, fun t ht => absurd ht List.not_mem_nil⟩
  | cons call calls ih =>
      obtain ⟨hkeyed', hw', hunpaid⟩ := call_stays_cancelled hkeyed hw hspares.1
      obtain ⟨hend, hall⟩ := ih hkeyed' hw' hspares.2
      exact ⟨hend, List.forall_mem_cons.mpr ⟨hunpaid, hall⟩⟩

/-- **Cancelled stays cancelled.**  Once a cancellation of a cart has succeeded, in
every session of calls that do not override it the cart stays cancelled, its
lines, codes, fulfillment and totals as they were, and no checkout of it reaches
the payment provider. -/
theorem session_cancelled {payload : CancelCartPayload} {cartId : Option CartId}
    (hw : Reachable env runner w)
    (hcancel : (dispatchCartCommand runner (.cancelCart payload) cartId).run.run env.handle w =
      (.ok s, w')) (calls : List Call) (hspares : Spares env runner payload.cartId calls w') :
    s.cartId = payload.cartId ∧ CancelledAs s (session env runner calls w').2 ∧
      ∀ t ∈ (session env runner calls w').1, Unpaid payload.cartId t := by
  have ht := events_trace (h := env.handle)
    (dispatchCartCommand runner (.cancelCart payload) cartId).run w
  have hr := events_replays (h := env.handle)
    (dispatchCartCommand runner (.cancelCart payload) cartId).run w
  rw [hcancel] at ht hr
  obtain ⟨hid, hcancelled⟩ := cancelCart_cancels ht hr hw.keyed
  have hkeyed := (dispatchCartCommand_writes ht hr hw.keyed).1
  rw [← hid] at hspares ⊢
  exact ⟨rfl, session_stays_cancelled hkeyed hcancelled hspares⟩

/-- The cancellation of the sample cart. -/
def Sample.cancellation : Except RunnerError CartProjection × World :=
  (dispatchCartCommand Sample.runner (.cancelCart ⟨Sample.cart.cartId⟩) none).run.run
    Env.agreeable.handle Sample.shopped

/-- What it returns. -/
def Sample.cancelledCart : CartProjection :=
  { Sample.cart with
    status := .cancelled, version := 3, lines := [⟨"li_6", "sku", "sku", 1, 100, 100⟩] }

/-- The buyer goes on shopping and checks out all the same: the cart stays cancelled. -/
theorem session_cancelled_sample :
    CancelledAs Sample.cancelledCart (session Env.agreeable Sample.runner
      [.cart (.addItem { itemId := "sku", quantity := 1 }) (some Sample.cart.cartId),
        .checkout (Sample.request "k")] Sample.cancellation.2).2 := by
  have hcancel : (dispatchCartCommand Sample.runner (.cancelCart ⟨Sample.cart.cartId⟩) none).run.run
      Env.agreeable.handle Sample.shopped = (.ok Sample.cancelledCart, Sample.cancellation.2) := rfl
  refine (session_cancelled ⟨Sample.shopping, rfl⟩ hcancel _ ?_).2.1
  refine ⟨fun q _ hover => hover.2.2, ?_, trivial⟩
  -- the cancellation took the cart to another version
  rintro q hq ⟨-, -, -, hadmits⟩
  obtain rfl : Sample.cancelledCart = q := Option.some.inj hq
  exact absurd hadmits.version (by decide)

/-- Checking out a cancelled cart again revives it. -/
theorem started_checkout_revives :
    ¬ ∀ (env : Env) (runner : Runner) (w w' : World) (payload : CancelCartPayload)
      (cartId : Option CartId) (s : CartProjection) (calls : List Call),
      Reachable env runner w →
      (dispatchCartCommand runner (.cancelCart payload) cartId).run.run env.handle w = (.ok s, w') →
      CancelledAs s (session env runner calls w').2 := by
  intro h
  have hstays := h Env.agreeable Sample.runner Sample.shopped _ ⟨Sample.cart.cartId⟩ none _
    [.cart (.startCheckout ⟨Sample.cart.cartId, 3⟩) none] ⟨Sample.shopping, rfl⟩ rfl
  obtain ⟨version, hsnap⟩ := hstays.snapshot
  cases hsnap

-- the other two kinds: a selection changes what the cart costs, a checkout charges for it
example :
    ((dispatchCartCommand Sample.runner (.setFulfillmentSelection
        ⟨.shipping, [], .retail "d" "shop" none, some "express"⟩)
        (some Sample.cart.cartId)).run.run Env.agreeable.handle Sample.cancellation.2).1.toOption.map
      (·.totalMinor) = some 1100 := by
  decide

example :
    ((executeCheckout Sample.runner { Sample.request "k" with cartVersion := 3 }).run.run
        Env.agreeable.handle Sample.cancellation.2).1.toOption.map (·.status) =
      some .completed := by
  decide

end Orchestrator
