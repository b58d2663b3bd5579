/-
# `CommerceOrchestrator.Runtime.Recovery` — what a checkout that fails leaves behind

A checkout that ends in an error before anything was captured should leave the
idempotency key usable and no stock held.  It does on some exits and not on
others: `CleanExit` lists what has to be true of the answers along the way, and
`executeCheckout_leaves_no_trace_iff` is the exact statement.
-/
import CommerceOrchestrator.Runtime.Charging
import CommerceOrchestrator.Runtime.Frames

namespace Orchestrator

open Effect Prog

variable {env : Env} {w w' : World} {tr : List (Event Op.Ans)}

/-! ## What the stretches leave alone -/

theorem Op.settles_not_keys {o : Op} (h : o.settles) : o.keys = false := by
  cases o <;> first | rfl | exact absurd h Bool.false_ne_true

theorem Op.reserves_not_keys {o : Op} (h : o.reserves) : o.keys = false := by
  cases o <;> first | rfl | exact absurd h Bool.false_ne_true

theorem Replays.idempotency_eq (hr : Replays env.handle w tr w')
    (h : ∀ e ∈ tr, e.1.keys = false) : w'.idempotency = w.idempotency :=
  hr.frame World.idempotency fun e he _ => Env.handle_idempotency (h e he)

theorem SettlePath.idempotency_eq {request : CheckoutRequest}
    {r : Except RunnerError CartProjection} (h : SettlePath request tr r)
    (hr : Replays env.handle w tr w') : w'.idempotency = w.idempotency :=
  Replays.idempotency_eq hr fun e he => Op.settles_not_keys (h.settles e he)

theorem ReservePath.idempotency_eq {cartId : CartId} {lines : List CartLineProjection}
    {r : Except RunnerError Unit} (h : ReservePath cartId lines tr r)
    (hr : Replays env.handle w tr w') : w'.idempotency = w.idempotency :=
  Replays.idempotency_eq hr fun e he => Op.reserves_not_keys (h.reserves e he)

/-! ## Reservations -/

/-- The record under a cart and sku is one of that cart's. -/
def HeldFor (cartId : CartId) (sku : String) (w : World) : Prop :=
  ∃ record, w.reservations.lookup (cartId, sku) = some record ∧ record.cartId = cartId

/-- A reservation that took hold is the cart's, whatever was stored before. -/
theorem heldFor_reserve {cartId : CartId} {sku : String} {quantity ttl : Nat}
    (h : tookHold (env.handle (.reserve cartId sku quantity ttl) w).1) :
    HeldFor cartId sku (env.handle (.reserve cartId sku quantity ttl) w).2 := by
  unfold HeldFor
  rw [Env.handle_reserve_reservations, if_pos h, InMemoryReservationStore.lookup_reserve, if_pos rfl]
  exact ⟨_, rfl, rfl⟩

/-- A further reservation for the cart keeps it. -/
theorem HeldFor.reserve {cartId : CartId} {sku sku' : String} {quantity ttl : Nat}
    (h : HeldFor cartId sku w) :
    HeldFor cartId sku (env.handle (.reserve cartId sku' quantity ttl) w).2 := by
  unfold HeldFor
  rw [Env.handle_reserve_reservations]
  split
  · rw [InMemoryReservationStore.lookup_reserve]
    split
    · exact ⟨_, rfl, rfl⟩
    · exact h
  · exact h

theorem ReservePath.heldFor_preserved {cartId : CartId} {lines : List CartLineProjection}
    {r : Except RunnerError Unit} (h : ReservePath cartId lines tr r)
    (hr : Replays env.handle w tr w') {sku : String} (hw : HeldFor cartId sku w) :
    HeldFor cartId sku w' := by
  induction h generalizing w with
  | done => exact hr ▸ hw
  | failed line lines e =>
      obtain ⟨-, rfl⟩ := hr
      exact hw.reserve
  | next line _ ih => exact ih hr.2 hw.reserve

/-- Every reservation a run of them made is the cart's at its end. -/
theorem ReservePath.heldFor {cartId : CartId} {lines : List CartLineProjection}
    {r : Except RunnerError Unit} (h : ReservePath cartId lines tr r)
    (hr : Replays env.handle w tr w') {sku : String} {quantity ttl : Nat}
    {x : Except StoreError Unit} (hx : tookHold x)
    (hm : ⟨.reserve cartId sku quantity ttl, x⟩ ∈ tr) : HeldFor cartId sku w' := by
  induction h generalizing w with
  | done => cases hm
  | failed line lines e =>
      obtain ⟨ha, rfl⟩ := hr
      cases List.mem_singleton.mp hm
      exact heldFor_reserve (ha ▸ hx)
  | next line hp ih =>
      rcases List.mem_cons.mp hm with hm | hm
      · cases hm
        exact hp.heldFor_preserved hr.2 (heldFor_reserve (hr.1 ▸ hx))
      · exact ih hr.2 hm

/-- Releasing the cart's stock releases each record held for it. -/
theorem HeldFor.releaseCart {cartId : CartId} {sku : String} (h : HeldFor cartId sku w)
    (hx : tookHold (env.handle (.releaseCart cartId) w).1) :
    ∃ record, (env.handle (.releaseCart cartId) w).2.reservations.lookup (cartId, sku) =
      some record ∧ record.state = .released := by
  obtain ⟨record, hrec, hcart⟩ := h
  rw [Env.handle_releaseCart_reservations, if_pos hx, InMemoryReservationStore.releaseCart,
    InMemoryReservationStore.lookup_setCart, hrec, Option.map_some, if_pos hcart]
  exact ⟨_, rfl, rfl⟩

/-! ## Exits -/

/-- The answers after which a failing checkout still lets go of its key and its
stock.  The settling operations may answer anything; the others may not fail,
except that a release or a completion that fails may have taken effect. -/
def Op.clean : (o : Op) → o.Ans → Bool
  | .release _, x => tookHold x
  | .complete _ _, x => tookHold x
  | .reserve .., x => x.isOk
  | .releaseCart _, x => x.isOk
  | .commit .., x => x.isOk
  | .authorize _, x => x.isOk
  | _, _ => true

/-- When a checkout that fails before capture leaves nothing behind, by the state
of the key before it and the answers it got. -/
structure CleanExit (request : CheckoutRequest) (w : World) (tr : List (Event Op.Ans)) :
    Prop where
  key : w.idempotency.lookup (.ofRequest request) ≠ some .inFlight
  claim : ∀ e, ⟨.claim (.ofRequest request), .error e⟩ ∈ tr → e.tookEffect = true →
    w.idempotency.lookup (.ofRequest request) ≠ none
  answers : ∀ e ∈ tr, e.1.clean e.2

/-- Nothing this call did blocks the buyer: a retry with the key is not told that
the call is still in flight, and no stock the call reserved is still reserved. -/
structure LeavesNoTrace (request : CheckoutRequest) (tr : List (Event Op.Ans)) (w' : World) :
    Prop where
  key : w'.idempotency.lookup (.ofRequest request) ≠ some .inFlight
  stock : ∀ sku quantity ttl x record,
    ⟨.reserve request.cartId sku quantity ttl, x⟩ ∈ tr → tookHold x →
    w'.reservations.lookup (request.cartId, sku) = some record → record.state ≠ .reserved

theorem Op.settles_clean {o : Op} (h : o.settles) (x : o.Ans) : o.clean x := by
  cases o <;> first | rfl | cases h

theorem SettlePath.clean {request : CheckoutRequest} {r : Except RunnerError CartProjection}
    (h : SettlePath request tr r) : ∀ e ∈ tr, e.1.clean e.2 :=
  fun e he => Op.settles_clean (h.settles e he) e.2

/-- A run of reservations is clean exactly when it got through. -/
theorem ReservePath.clean_iff {cartId : CartId} {lines : List CartLineProjection}
    {r : Except RunnerError Unit} (h : ReservePath cartId lines tr r) :
    (∀ e ∈ tr, e.1.clean e.2) ↔ r.isOk := by
  induction h with
  | done => simp [Except.isOk, Except.toBool]
  | failed line lines e => simp [Op.clean, Except.isOk, Except.toBool]
  | next line _ ih => simpa [Op.clean, Except.isOk, Except.toBool] using ih

section Key

variable {request : CheckoutRequest}

/-- The state of the request's key. -/
abbrev keyState (request : CheckoutRequest) (w : World) : Option IdempotencyState :=
  w.idempotency.lookup (.ofRequest request)

theorem ConcludePath.key_iff {result : TransactionResult} {e : RunnerError}
    (h : ConcludePath request result tr (.error e)) (hr : Replays env.handle w tr w')
    (hkey : keyState request w = some .inFlight) :
    keyState request w' ≠ some .inFlight ↔ ∀ e ∈ tr, e.1.clean e.2 := by
  cases h with
  | unreleased e =>
      have hkey' : keyState request w' = some .inFlight := by
        rwa [keyState, Replays.idempotency_eq hr (by simp [Op.keys])]
      simp [Op.clean, Except.isOk, Except.toBool, hkey']
  | incomplete e =>
      obtain ⟨-, hx, rfl⟩ := hr
      have hrel : (env.handle (.releaseCart request.cartId) w).2.idempotency = w.idempotency :=
        Env.handle_idempotency rfl
      rw [keyState, Env.handle_complete_lookup, hx, hrel]
      cases he : e.tookEffect <;> simp [Op.clean, Except.isOk, Except.toBool, hkey, he]

theorem PayPath.key_iff {runner : Runner} {cart : CartProjection} {e : RunnerError}
    (h : PayPath runner request cart tr (.error e)) (hr : Replays env.handle w tr w')
    (hcap : ∀ pay x, ⟨.capture pay, x⟩ ∉ tr) (hkey : keyState request w = some .inFlight) :
    keyState request w' ≠ some .inFlight ↔ ∀ e ∈ tr, e.1.clean e.2 := by
  cases h with
  | rejected errors txn corr _ hc =>
      obtain ⟨-, -, hr⟩ := hr
      simpa [Op.clean] using hc.key_iff hr hkey
  | unauthorized e _ =>
      have hkey' : keyState request w' = some .inFlight := by
        rwa [keyState, Replays.idempotency_eq hr (by simp [Op.keys])]
      simp [Op.clean, Except.isOk, Except.toBool, hkey']
  | declined auth txn corr _ _ hc =>
      obtain ⟨-, -, -, hr⟩ := hr
      simpa [Op.clean, Except.isOk, Except.toBool] using hc.key_iff hr hkey
  | uncommitted auth e _ _ =>
      have hkey' : keyState request w' = some .inFlight := by
        rwa [keyState, Replays.idempotency_eq hr (by simp [Op.keys])]
      simp [Op.clean, Except.isOk, Except.toBool, hkey']
  | uncaptured auth committed e _ _ =>
      exact absurd (by simp) (hcap (captureRequest request cart committed) (.error e))
  | captured auth committed capture _ _ _ =>
      exact absurd (by simp) (hcap (captureRequest request cart committed) (.ok capture))

theorem OwnerPath.key_iff {runner : Runner} {e : RunnerError}
    (h : OwnerPath runner request tr (.error e)) (hr : Replays env.handle w tr w')
    (hcap : ∀ pay x, ⟨.capture pay, x⟩ ∉ tr) (hkey : keyState request w = some .inFlight) :
    keyState request w' ≠ some .inFlight ↔ ∀ e ∈ tr, e.1.clean e.2 := by
  cases h with
  | unsettled e x e' hs =>
      obtain ⟨w₁, hr₁, hx, rfl⟩ := replays_append.mp hr
      have hkey₁ : keyState request w₁ = some .inFlight := by
        rwa [keyState, hs.idempotency_eq hr₁]
      rw [keyState, Env.handle_release_lookup, hx, List.forall_mem_append,
        and_iff_right hs.clean, List.forall_mem_singleton]
      cases hhold : tookHold x <;> simp [Op.clean, hhold, hkey₁]
  | unreserved cart e hs hres =>
      obtain ⟨w₁, hr₁, hr₂⟩ := replays_append.mp hr
      have hkey' : keyState request w' = some .inFlight := by
        rwa [keyState, hres.idempotency_eq hr₂, hs.idempotency_eq hr₁]
      rw [List.forall_mem_append, hres.clean_iff]
      simp [hkey', Except.isOk, Except.toBool]
  | paid cart hs hres hp =>
      obtain ⟨w₁, hr₁, hr⟩ := replays_append.mp hr
      obtain ⟨w₂, hr₂, hr₃⟩ := replays_append.mp hr
      have hkey₂ : keyState request w₂ = some .inFlight := by
        rwa [keyState, hres.idempotency_eq hr₂, hs.idempotency_eq hr₁]
      rw [hp.key_iff hr₃ (fun pay x hm => hcap pay x (by simp [hm])) hkey₂]
      rw [List.forall_mem_append, and_iff_right hs.clean, List.forall_mem_append,
        and_iff_right (hres.clean_iff.mpr rfl)]

theorem CheckoutPath.key_iff {runner : Runner} {e : RunnerError}
    (h : CheckoutPath runner request tr (.error e)) (hr : Replays env.handle w tr w')
    (hcap : ∀ pay x, ⟨.capture pay, x⟩ ∉ tr) :
    keyState request w' ≠ some .inFlight ↔ CleanExit request w tr := by
  cases h with
  | invalid _ =>
      obtain rfl := hr
      exact ⟨fun hk => ⟨hk, by simp, by simp⟩, fun hc => hc.key⟩
  | unclaimed e _ =>
      obtain ⟨hx, rfl⟩ := hr
      rw [keyState, Env.handle_claim_lookup, hx]
      constructor
      · intro hk
        refine ⟨fun hw => ?_, fun e' he hhold hw => ?_, by simp [Op.clean]⟩
        · simp [hw] at hk
        · cases List.mem_singleton.mp he
          simp [hw, hhold] at hk
      · rintro ⟨hkey, hclaim, -⟩
        have hclaim := hclaim e (by simp)
        cases hhold : e.tookEffect
        · simpa [hhold] using hkey
        · obtain ⟨state, hstate⟩ := Option.ne_none_iff_exists'.mp (hclaim hhold)
          rw [hstate] at hkey ⊢
          simpa [hhold] using hkey
  | inFlight _ =>
      obtain ⟨hx, rfl⟩ := hr
      have hw := Env.handle_claim_ok hx
      rw [keyState, Env.handle_claim_lookup, hx]
      exact ⟨fun hk => absurd (by simp [hw]) hk, fun hc => absurd hw hc.key⟩
  | owned _ ho =>
      obtain ⟨hx, hr⟩ := hr
      have hw := Env.handle_claim_ok hx
      rw [ho.key_iff hr (fun pay x hm => hcap pay x (by simp [hm]))
        (by rw [keyState, Env.handle_claim_lookup, hx]; simp [hw])]
      constructor
      · intro hclean
        refine ⟨by simp [hw], fun e he => ?_, List.forall_mem_cons.mpr ⟨rfl, hclean⟩⟩
        rcases List.mem_cons.mp he with he | he
        · cases he
        · cases ho.not_claims _ he
      · exact fun hc => (List.forall_mem_cons.mp hc.answers).2

/-! ## The exact statement -/

theorem ConcludePath.releases {result : TransactionResult} {e : RunnerError} {sku : String}
    (h : ConcludePath request result tr (.error e)) (hr : Replays env.handle w tr w')
    (hclean : ∀ e ∈ tr, e.1.clean e.2) (hheld : HeldFor request.cartId sku w) :
    ∃ record, w'.reservations.lookup (request.cartId, sku) = some record ∧
      record.state = .released := by
  cases h with
  | unreleased e => cases hclean _ List.mem_cons_self
  | incomplete e =>
      obtain ⟨hx, -, rfl⟩ := hr
      rw [Env.handle_reservations (o := .complete _ _) rfl]
      exact hheld.releaseCart (by simp [hx])

/-- A failed payment that exits cleanly has given the stock back. -/
theorem PayPath.releases {runner : Runner} {cart : CartProjection} {e : RunnerError} {sku : String}
    (h : PayPath runner request cart tr (.error e)) (hr : Replays env.handle w tr w')
    (hcap : ∀ pay x, ⟨.capture pay, x⟩ ∉ tr) (hclean : ∀ e ∈ tr, e.1.clean e.2)
    (hheld : HeldFor request.cartId sku w) :
    ∃ record, w'.reservations.lookup (request.cartId, sku) = some record ∧
      record.state = .released := by
  have hkeep {o : Op} {v : World} (ho : o.stocks = false) (hv : HeldFor request.cartId sku v) :
      HeldFor request.cartId sku (env.handle o v).2 := by
    rwa [HeldFor, Env.handle_reservations ho]
  cases h with
  | rejected errors txn corr _ hc =>
      obtain ⟨-, -, hr⟩ := hr
      exact hc.releases hr (fun e he => hclean e (by simp [he])) (hkeep rfl (hkeep rfl hheld))
  | unauthorized e _ => cases hclean _ List.mem_cons_self
  | declined auth txn corr _ _ hc =>
      obtain ⟨-, -, -, hr⟩ := hr
      exact hc.releases hr (fun e he => hclean e (by simp [he]))
        (hkeep rfl (hkeep rfl (hkeep rfl hheld)))
  | uncommitted auth e _ _ => cases hclean _ (List.mem_cons_of_mem _ List.mem_cons_self)
  | uncaptured auth committed e _ _ =>
      exact absurd (by simp) (hcap (captureRequest request cart committed) (.error e))
  | captured auth committed capture _ _ _ =>
      exact absurd (by simp) (hcap (captureRequest request cart committed) (.ok capture))

/-- **Failing before capture.**  A call that ends in an error without having asked
for a capture leaves nothing that blocks the buyer exactly when its key was not
in flight before, no reservation, stock release, authorization or commit of it
failed, and its operations on the key took effect. -/
theorem executeCheckout_leaves_no_trace_iff (env : Env) (w : World) (runner : Runner)
    (request : CheckoutRequest) (e : RunnerError)
    (herr : ((executeCheckout runner request).run.run env.handle w).1 = .error e)
    (hcap : ∀ pay x,
      ⟨.capture pay, x⟩ ∉ (executeCheckout runner request).run.events env.handle w) :
    LeavesNoTrace request ((executeCheckout runner request).run.events env.handle w)
        ((executeCheckout runner request).run.run env.handle w).2 ↔
      CleanExit request w ((executeCheckout runner request).run.events env.handle w) := by
  have hpath := executeCheckout_trace
    (events_trace (h := env.handle) (executeCheckout runner request).run w)
  have hr := events_replays (h := env.handle) (executeCheckout runner request).run w
  generalize (executeCheckout runner request).run.events env.handle w = tr at hpath hr hcap ⊢
  generalize ((executeCheckout runner request).run.run env.handle w).2 = w' at hr ⊢
  rw [herr] at hpath
  refine ⟨fun h => (hpath.key_iff hr hcap).mp h.key, fun hc =>
    ⟨(hpath.key_iff hr hcap).mpr hc, ?_⟩⟩
  intro sku quantity ttl x record hm hx hrec
  cases hpath with
  | invalid _ => cases hm
  | unclaimed e _ => simp at hm
  | inFlight _ => simp at hm
  | owned _ ho =>
      obtain ⟨-, hr⟩ := hr
      have hans := (List.forall_mem_cons.mp hc.answers).2
      replace hm := (List.mem_cons.mp hm).resolve_left (by simp)
      cases ho with
      | unsettled e x' e' hs =>
          simp [notMem_of_ops hs.settles (o := .reserve request.cartId sku quantity ttl) rfl] at hm
      | unreserved cart e hs hres =>
          cases hres.clean_iff.mp (List.forall_mem_append.mp hans).2
      | @paid cart tr₁ tr₂ tr₃ _ hs hres hp =>
          obtain ⟨w₁, hr₁, hr⟩ := replays_append.mp hr
          obtain ⟨w₂, hr₂, hr₃⟩ := replays_append.mp hr
          replace hm : (⟨.reserve request.cartId sku quantity ttl, x⟩ : Event Op.Ans) ∈ tr₂ := by
            simpa [notMem_of_ops hs.settles (o := .reserve request.cartId sku quantity ttl) rfl,
              notMem_of_ops hp.finishes (o := .reserve request.cartId sku quantity ttl) rfl] using hm
          obtain ⟨record', hrec', hstate⟩ := hp.releases hr₃
            (fun pay x hm => hcap pay x (by simp [hm]))
            (List.forall_mem_append.mp (List.forall_mem_append.mp hans).2).2
            (hres.heldFor hr₂ hx hm)
          rw [hrec] at hrec'
          rw [Option.some.inj hrec', hstate]
          exact ReservationState.noConfusion

end Key

/-- A request for an older version of the cart is refused, and lets go of its key. -/
theorem executeCheckout_leaves_no_trace_stale :
    LeavesNoTrace { Sample.request "k" with cartVersion := 1 }
      ((executeCheckout Sample.runner { Sample.request "k" with cartVersion := 1 }).run.events
        Env.agreeable.handle Sample.world)
      ((executeCheckout Sample.runner { Sample.request "k" with cartVersion := 1 }).run.run
        Env.agreeable.handle Sample.world).2 := by
  have hev : (executeCheckout Sample.runner { Sample.request "k" with cartVersion := 1 }).run.events
      Env.agreeable.handle Sample.world =
      [⟨.claim (.ofRequest (Sample.request "k")), .ok none⟩,
        ⟨.getCartSnapshot Sample.cart.cartId, some Sample.cart⟩,
        ⟨.release (.ofRequest (Sample.request "k")), .ok ()⟩] := rfl
  refine (executeCheckout_leaves_no_trace_iff Env.agreeable Sample.world Sample.runner
    { Sample.request "k" with cartVersion := 1 } (.cartVersionConflict 1 2) rfl ?_).mpr
    ⟨by decide, ?_, ?_⟩
  · simp [hev]
  · simp [hev]
  · simp [hev, Op.clean]

def Op.captures : Op → Bool
  | .capture .. => true
  | _ => false

/-- A payment adapter that reports a declined card as an error. -/
def Env.declining : Env :=
  { Env.agreeable with authorize := fun _ _ => .error (.authFailed "card declined") }

/-- The declined buyer's key stays in flight and the stock stays reserved. -/
theorem declined_checkout_blocks :
    ¬ ∀ (env : Env) (w : World) (runner : Runner) (request : CheckoutRequest) (e : RunnerError),
      ((executeCheckout runner request).run.run env.handle w).1 = .error e →
      (∀ pay x,
        ⟨.capture pay, x⟩ ∉ (executeCheckout runner request).run.events env.handle w) →
      LeavesNoTrace request ((executeCheckout runner request).run.events env.handle w)
        ((executeCheckout runner request).run.run env.handle w).2 := by
  intro h
  have hno : ((executeCheckout Sample.runner (Sample.request "k")).run.events
      Env.declining.handle Sample.world).all (fun e => !e.1.captures) = true := rfl
  exact (h Env.declining Sample.world Sample.runner (Sample.request "k")
    (.payment (.authFailed "card declined")) rfl
    fun pay x => notMem_of_ops (k := fun o => !o.captures) (List.all_eq_true.mp hno) rfl x).key
    rfl

end Orchestrator
