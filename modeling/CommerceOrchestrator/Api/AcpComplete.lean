/-
# `CommerceOrchestrator.Api.AcpComplete` — completing an ACP checkout session

The handler reads the cart, takes it to checkout, which adds one to its version, and then
checks it out at the version it had read.  The runner compares the two versions, so the
checkout is refused.  A second attempt does not get as far: the cart is at checkout, and the
state machine does not take it there again.  What is left is an outcome that is on record
under the key before the cart is looked at, and only for the first attempt.
-/
import CommerceOrchestrator.Api.Representations
import CommerceOrchestrator.Api.Transports
import CommerceOrchestrator.Api.Ap2Verification
import CommerceOrchestrator.Runtime.Wedging
import CommerceOrchestrator.Effect.Fallible

namespace Orchestrator

open Effect Prog

/-! ## The handler -/

/-- The headers looked at: `none` for one that is missing or not visible ASCII. -/
structure AcpHeaders where
  apiVersion : Option String
  idempotencyKey : Option String

def acpSupportedVersions : List String := [acpApiVersion]

def acpVersionFromHeaders (headers : AcpHeaders) : Except ApiError String :=
  match (headers.apiVersion.map trim).filter (· ≠ "") with
  | none => .error (.badRequest "API-Version header is required")
  | some v =>
      if v ∈ acpSupportedVersions then .ok acpApiVersion
      else .error (.badRequest ("API version '" ++ v ++ "' is not supported"))

def requireAcpIdempotencyKey (headers : AcpHeaders) : Except ApiError String :=
  ((headers.idempotencyKey.map trim).filter (· ≠ "")).elim
    (.error (.badRequestWithCode "Idempotency-Key header is required" "idempotency_key_required")) .ok

/-- A call of the handler. -/
structure AcpCompletion where
  auth : AuthContext
  headers : AcpHeaders
  id : String
  req : AcpCompleteSessionRequest

section Handler

-- `Uuid::from_str`, with the text of its error
variable (parseCartId : String → Except String CartId)

/-- What is checked before any cart is looked at. -/
def AcpCompletion.cartId (call : AcpCompletion) : Except ApiError CartId := do
  let _ ← acpVersionFromHeaders call.headers
  let _ ← requireAcpIdempotencyKey call.headers
  (parseAcpSessionId parseCartId call.id).mapError .badRequest

/-- `execute_checkout_authorized`: answer and world. -/
def Env.executeCheckoutAuthorized (env : Env) (runner : Runner) (context : AuthContext)
    (request : CheckoutRequest) (w : World) : Except FacadeError TransactionResult × World :=
  match authorizeCheckout context request with
  | .error e => (.error (.authz e), w)
  | .ok () =>
      let done := (executeCheckout runner request).run.run env.handle w
      (done.1.mapError .runner, done.2)

/-- The handler, once the id is known. -/
def AcpCompletion.complete (call : AcpCompletion) (env : Env) (runner : Runner) (cartId : CartId)
    (w : World) : Except FacadeError TransactionResult × World :=
  match env.forTenant runner call.auth.tenantId (.getCart ⟨cartId⟩) none w with
  | (.error e, w) => (.error e, w)
  | (.ok projection, w) =>
      match env.forTenant runner call.auth.tenantId
          (.startCheckout ⟨cartId, projection.version⟩) (some cartId) w with
      | (.error e, w) => (.error e, w)
      | (.ok _, w) =>
          -- the version from before the step to checkout
          env.executeCheckoutAuthorized runner call.auth
            (completeToCheckoutRequest cartId projection.version projection.currency call.req) w

/-- `acp_complete_session`: answer and world. -/
def acpCompleteSession (env : Env) (runner : Runner) (call : AcpCompletion) (w : World) :
    Except ApiError TransactionResult × World :=
  match call.cartId parseCartId with
  | .error e => (.error e, w)
  | .ok cartId =>
      let done := call.complete env runner cartId w
      (done.1.mapError .orchestrator, done.2)

/-- The world that calls one after the other leave. -/
def afterCompletions (env : Env) (runner : Runner) : List AcpCompletion → World → World
  | [], w => w
  | call :: calls, w =>
      afterCompletions env runner calls (acpCompleteSession parseCartId env runner call w).2

end Handler

/-! ## The three steps -/

section Steps

variable {env : Env} {runner : Runner} {w : World} {t : String} {c : CartId} {s : CartProjection}

/-- The tenant's cart is stored under its own id, under a version that can be stated. -/
structure Holds (w : World) (t : String) (c : CartId) (s : CartProjection) : Prop where
  stored : w.events.getCartSnapshot c = some s
  cartId : s.cartId = c
  owner : s.tenantId = some t
  version : 0 < s.version

theorem Env.StoresAnswer.events (hs : env.StoresAnswer) : EventsAnswer env := fun n o _ => hs n o

theorem Holds.not_refuses (hs : env.StoresAnswer) (h : Holds w t c s) : ¬ Refuses env t w c := by
  rintro ⟨cart, hcart, hno⟩
  rw [hs.events.read, h.stored] at hcart
  cases hcart
  exact hno h.owner

theorem getCart_run (hs : env.StoresAnswer) (h : Holds w t c s) :
    env.forTenant runner t (.getCart ⟨c⟩) none w = (.ok s, w.tick.tick) := by
  rw [forTenant_passed (a := c) rfl (h.not_refuses hs)]
  have hload : (loadCart c).run.run env.handle w.tick = (.ok s, w.tick.tick) :=
    loadCart_run hs.events h.stored
  show (Except.mapError _ ((loadCart c).run.run env.handle w.tick).1,
    ((loadCart c).run.run env.handle w.tick).2) = _
  rw [hload]
  rfl

/-- The cart as it is at checkout. -/
def CartProjection.ready (s : CartProjection) : CartProjection :=
  { s with status := .checkoutReady, version := s.version + 1 }

/-- What becomes of a cart that is taken to checkout: its snapshot says so in any case, and
its state does if the state machine goes there. -/
inductive Readied (E : InMemoryEventStore) (c : CartId) (s : CartProjection) {ε : Type} :
    Except ε CartProjection → InMemoryEventStore → Prop
  | moved (st : CartState) : E.next c .markCheckoutReady = some st →
      Readied E c s (.ok s.ready)
        (((E.appendCartEvent c .checkoutReady).putCartSnapshot s.ready).setCartState c st)
  | stuck (e : ε) : E.next c .markCheckoutReady = none →
      Readied E c s (.error e) ((E.appendCartEvent c .checkoutReady).putCartSnapshot s.ready)

theorem Readied.mapError {ε ε' : Type} {E E' : InMemoryEventStore} {f : ε → ε'}
    {r : Except ε CartProjection} (h : Readied E c s r E') : Readied E c s (r.mapError f) E' := by
  cases h with
  | moved st hst => exact .moved st hst
  | stuck e hst => exact .stuck (f e) hst

theorem startCheckout_readies (hs : env.StoresAnswer)
    (hstored : w.events.getCartSnapshot c = some s) :
    (startCheckout ⟨c, s.version⟩).run.Leads env.handle w [] fun r w' _ =>
      Readied w.events c s r w'.events := by
  unfold startCheckout
  refine leads_load hs (fun hnone => ?_) fun s' w₁ l₁ hs' hw₁ _ => ?_
  · rw [hstored] at hnone
    cases hnone
  obtain rfl := Option.some.inj (hstored.symm.trans hs')
  refine leads_failIf_bind (fun hne => absurd rfl hne) fun _ => ?_
  refine leads_append hs fun w₂ l₂ hw₂ _ => ?_
  refine leads_put hs fun w₃ l₃ hw₃ _ => ?_
  have hw₃ : w₃.events = (w.events.appendCartEvent c .checkoutReady).putCartSnapshot s.ready := by
    rw [hw₃, hw₂, hw₁]
    rfl
  have hnext : w₃.events.next c .markCheckoutReady = w.events.next c .markCheckoutReady := by
    rw [hw₃]
    rfl
  refine leads_transition hs (fun hstuck e w₄ l₄ hw₄ _ => ?_) fun st w₄ l₄ hst hw₄ _ => leads_pure ?_
  · rw [hw₄, hw₃]
    exact .stuck e (hnext.symm.trans hstuck)
  · rw [hw₄, hw₃]
    exact .moved st (hnext.symm.trans hst)

/-- A cart command leaves the keys alone. -/
theorem dispatched_idempotency {cmd : CartCommand} {cartId : Option CartId} :
    (env.dispatched runner t cmd cartId w).2.idempotency = w.idempotency := by
  refine (events_replays (h := env.handle)
    (dispatchCartCommand runner (cmd.withTenant t) cartId).run w).frame World.idempotency
      fun e he v => ?_
  have hcarts := dispatchCartCommand_carts (events_trace (h := env.handle) _ w) e he
  refine Env.handle_idempotency ?_
  obtain ⟨o, x⟩ := e
  cases o <;> first | rfl | exact absurd hcarts Bool.false_ne_true

theorem startCheckout_run (runner : Runner) (hs : env.StoresAnswer) (h : Holds w t c s) :
    Readied w.events c s
      (env.forTenant runner t (.startCheckout ⟨c, s.version⟩) (some c) w).1
      (env.forTenant runner t (.startCheckout ⟨c, s.version⟩) (some c) w).2.events ∧
    (env.forTenant runner t (.startCheckout ⟨c, s.version⟩) (some c) w).2.idempotency =
      w.idempotency := by
  have hvalid : validateCartCommand (.startCheckout ⟨c, s.version⟩) = [] := by
    have hversion := h.version
    simp [validateCartCommand, complainIf]
    omega
  rw [forTenant_passed (a := c) rfl (h.not_refuses hs)]
  refine ⟨?_, dispatched_idempotency⟩
  rw [dispatched_startCheckout hvalid]
  exact Readied.mapError (startCheckout_readies (w := w.tick) hs h.stored)

/-! ## The version that does not match -/

variable {request : CheckoutRequest}

/-- Settling goes on only with a cart that the request is admitted to. -/
theorem SettlePath.admitted {tr : List (Event Op.Ans)} {r : Except RunnerError CartProjection}
    (h : SettlePath request tr r) :
    (∃ cart rest, tr = ⟨.getCartSnapshot request.cartId, some cart⟩ :: rest ∧ Admits request cart) ∨
      (∃ x, tr = [⟨.getCartSnapshot request.cartId, x⟩]) ∧ ∃ e, r = .error e := by
  cases h with
  | missing => exact .inr ⟨⟨_, rfl⟩, _, rfl⟩
  | refused cart e _ => exact .inr ⟨⟨_, rfl⟩, e, rfl⟩
  | unpriced cart e hadm _ => exact .inl ⟨cart, _, rfl, hadm⟩
  | ungeo cart repriced e hadm _ => exact .inl ⟨cart, _, rfl, hadm⟩
  | unsaved cart repriced g e hadm _ => exact .inl ⟨cart, _, rfl, hadm⟩
  | blocked cart repriced g e hadm _ _ => exact .inl ⟨cart, _, rfl, hadm⟩
  | settled cart repriced g hadm _ _ _ => exact .inl ⟨cart, _, rfl, hadm⟩

/-- A checkout that the stored cart does not admit is answered from the record or fails, and
leaves every cart as it is. -/
theorem CheckoutPath.unadmitted {tr : List (Event Op.Ans)} {w' : World}
    {r : Except RunnerError TransactionResult} (h : CheckoutPath runner request tr r)
    (hr : Replays env.handle w tr w')
    (hadm : ∀ cart, w.events.getCartSnapshot request.cartId = some cart → ¬ Admits request cart) :
    (∀ result, r = .ok result →
      w.idempotency.lookup (.ofRequest request) = some (.completed result)) ∧
      w'.events = w.events := by
  have hframe (hops : ∀ e ∈ tr, e.1.writesCart = false) : w'.events = w.events :=
    hr.frame World.events fun e he v => Env.handle_events (hops e he)
  -- settling reads the stored cart after the claim
  have hsettle {tr' rest : List (Event Op.Ans)} {r' : Except RunnerError CartProjection}
      (hp : SettlePath request tr' r')
      (hr : Replays env.handle w (⟨.claim (.ofRequest request), .ok none⟩ :: (tr' ++ rest)) w') :
      (∃ x, tr' = [⟨.getCartSnapshot request.cartId, x⟩]) ∧ ∃ e, r' = .error e := by
    rcases hp.admitted with ⟨cart, rest', rfl, hcart⟩ | hrefused
    · obtain ⟨-, hread, -⟩ := hr
      have hstored := World.read_some hread
      rw [Env.handle_events rfl] at hstored
      exact absurd hcart (hadm cart hstored)
    · exact hrefused
  cases h with
  | invalid _ => exact ⟨fun _ h => (by cases h), hframe (by simp)⟩
  | unclaimed e _ => exact ⟨fun _ h => (by cases h), hframe (by simp [Op.writesCart])⟩
  | inFlight _ => exact ⟨fun _ h => (by cases h), hframe (by simp [Op.writesCart])⟩
  | replayed result _ =>
      refine ⟨fun result' h => ?_, hframe (by simp [Op.writesCart])⟩
      cases h
      exact Env.handle_claim_ok hr.1
  | owned _ ho =>
      cases ho with
      | unsettled e x e' hp =>
          obtain ⟨⟨y, rfl⟩, -⟩ := hsettle hp hr
          exact ⟨fun _ h => (by cases h), hframe (by simp [Op.writesCart])⟩
      | unreserved cart e hp _ =>
          obtain ⟨-, e', he⟩ := hsettle hp hr
          cases he
      | paid cart hp _ _ =>
          obtain ⟨-, e', he⟩ := hsettle hp hr
          cases he

/-- A checkout whose outcome is on record is told it. -/
theorem executeCheckout_told {result : TransactionResult} (hs : env.StoresAnswer)
    (hvalid : validateCheckoutRequest request = [])
    (hkey : w.idempotency.lookup (.ofRequest request) = some (.completed result)) :
    ((executeCheckout runner request).run.run env.handle w).1 = .ok result := by
  have hanswer : (env.handle (.claim (.ofRequest request)) w).1 = .ok (some (.completed result)) := by
    rw [← hkey, ← InMemoryIdempotencyStore.claim_fst]
    unfold Env.handle
    rw [hs]
    rfl
  have hclaim : (tryWith .store (ask (.claim (.ofRequest request)))).run.run env.handle w =
      (.ok (some (.completed result)), (env.handle (.claim (.ofRequest request)) w).2) := by
    rw [tryWith, ExceptT.run_mk, run_map]
    show ((env.handle (.claim (.ofRequest request)) w).1.mapError RunnerError.store, _) = _
    rw [hanswer]
    rfl
  rw [executeCheckout, failIf, if_neg (not_not.mpr hvalid), pure_bind, run_bind_ok hclaim]
  rfl

end Steps

/-! ## Sessions -/

section Sessions

variable {parseCartId : String → Except String CartId} {env : Env} {runner : Runner}
  {w : World} {t : String} {c : CartId} {s : CartProjection} {call : AcpCompletion}

/-- The tenant's session on the cart is open: neither cancelled nor at checkout. -/
structure OpenSession (w : World) (t : String) (c : CartId) (s : CartProjection) : Prop
    extends Holds w t c s where
  open_ : ∃ st, w.events.getCartState c = some st ∧ st ≠ .cancelled ∧ st ≠ .checkoutReady

/-- The cart is at checkout. -/
def AtCheckout (w : World) (t : String) (c : CartId) : Prop :=
  ∃ s, Holds w t c s ∧ w.events.getCartState c = some .checkoutReady

/-- The call is the tenant's, on this session, with its headers in order. -/
structure AcpCompletion.GetsIn (parseCartId : String → Except String CartId) (t : String)
    (c : CartId) (call : AcpCompletion) : Prop where
  session : call.cartId parseCartId = .ok c
  owner : call.auth.tenantId = t

/-- The request that the handler builds for a cart. -/
def AcpCompletion.request (call : AcpCompletion) (s : CartProjection) : CheckoutRequest :=
  completeToCheckoutRequest s.cartId s.version s.currency call.req

/-- The version of every stored cart is one that can be stated. -/
theorem Reached.version_pos (h : Reached env runner w)
    (hstored : w.events.getCartSnapshot c = some s) : 0 < s.version := by
  obtain ⟨calls, ts, rfl⟩ := h
  have hpos : ∃ φ, Everywhere calls (0 < ·.version) (atOnce env runner calls ts World.empty).world φ
      (atOnce env runner calls ts World.empty).log := by
    refine atOnce_everywhere' (fun call read s hread hp => ?_) fun c s hs => by cases hs
    cases hp with
    | created payload cartId id _ => exact Nat.one_pos
    | edited he =>
        cases call with
        | cart command cartId => exact he.version ▸ Nat.succ_pos _
        | checkout request => exact he.checkout.2.1 ▸ hread _ rfl
  obtain ⟨φ, hpos⟩ := hpos
  exact hpos.stored c s hstored

/-- Every cart of the tenant that a run of calls at once leaves. -/
theorem Reached.holds (h : Reached env runner w)
    (hstored : w.events.getCartSnapshot c = some s) (howner : s.tenantId = some t) :
    Holds w t c s :=
  ⟨hstored, h.filed c s hstored, howner, h.version_pos hstored⟩

theorem OpenSession.next (h : OpenSession w t c s) :
    ∃ st, w.events.next c .markCheckoutReady = some st := by
  obtain ⟨st, hst, hcancelled, hready⟩ := h.open_
  rw [InMemoryEventStore.next_some hst]
  cases st with
  | cancelled => exact absurd rfl hcancelled
  | checkoutReady => exact absurd rfl hready
  | _ => exact ⟨_, rfl⟩

theorem Holds.of_events {w' : World} (h : Holds w t c s) (hw : w'.events = w.events) :
    Holds w' t c s := ⟨hw ▸ h.stored, h.cartId, h.owner, h.version⟩

theorem Readied.holds {ε : Type} {r : Except ε CartProjection} {w' : World}
    (h : Readied w.events c s r w'.events) (hc : Holds w t c s) : Holds w' t c s.ready := by
  have hput (E : InMemoryEventStore) : (E.putCartSnapshot s.ready).getCartSnapshot c = some s.ready := by
    rw [← hc.cartId]
    exact AList.lookup_insert _
  refine ⟨?_, hc.cartId, hc.owner, Nat.succ_pos _⟩
  generalize w'.events = E at h
  cases h with
  | moved st _ => exact hput _
  | stuck e _ => exact hput _

/-- A call that does not get in is refused, and leaves the stores as they are. -/
theorem refused_outside (runner : Runner) (hs : env.StoresAnswer) (h : Holds w t c s)
    (hsession : ∀ c', call.cartId parseCartId = .ok c' → c' = c)
    (hout : ¬ call.GetsIn parseCartId t c) :
    (∃ e, (acpCompleteSession parseCartId env runner call w).1 = .error e) ∧
      ((acpCompleteSession parseCartId env runner call w).2 = w ∨
        (acpCompleteSession parseCartId env runner call w).2 = w.tick) := by
  unfold acpCompleteSession
  cases hid : call.cartId parseCartId with
  | error e => exact ⟨⟨e, rfl⟩, .inl rfl⟩
  | ok c' =>
      obtain rfl := hsession c' hid
      have hrefuses : Refuses env call.auth.tenantId w c' := by
        refine ⟨s, by rw [hs.events.read, h.stored], fun howner => hout ⟨hid, ?_⟩⟩
        exact Option.some.inj (howner.symm.trans h.owner)
      dsimp only
      rw [AcpCompletion.complete, forTenant_refused (a := c') rfl hrefuses]
      exact ⟨⟨_, rfl⟩, .inr rfl⟩

/-- What a call comes to that gets in: once the cart is at checkout the handler is refused,
otherwise the checkout is at the version from before. -/
theorem complete_run (runner : Runner) (hs : env.StoresAnswer) (h : Holds w t c s)
    (hin : call.GetsIn parseCartId t c) :
    ∃ w' r, Readied w.events c s r w'.events ∧ w'.idempotency = w.idempotency ∧
      acpCompleteSession parseCartId env runner call w =
        match (r : Except FacadeError CartProjection) with
        | .error e => (.error (.orchestrator e), w')
        | .ok _ =>
            ((env.executeCheckoutAuthorized runner call.auth (call.request s) w').1.mapError
                .orchestrator,
              (env.executeCheckoutAuthorized runner call.auth (call.request s) w').2) := by
  have hticked : Holds w.tick.tick t c s := h.of_events rfl
  obtain ⟨hready, hkeys⟩ := startCheckout_run runner hs hticked
  refine ⟨_, _, hready, hkeys, ?_⟩
  rw [acpCompleteSession, hin.session]
  dsimp only
  rw [AcpCompletion.complete, hin.owner, getCart_run hs h]
  dsimp only
  rw [AcpCompletion.request, h.cartId]
  generalize env.forTenant runner t (.startCheckout ⟨c, s.version⟩) (some c) w.tick.tick = done
  obtain ⟨r, w'⟩ := done
  cases r <;> rfl

/-- The checkout at the version from before: it changes no cart, and is told what is on record
for its key or fails. -/
theorem executeCheckoutAuthorized_stale (env : Env) (runner : Runner) (call : AcpCompletion)
    (hstored : w.events.getCartSnapshot c = some s.ready)
    (hid : s.cartId = c) :
    (env.executeCheckoutAuthorized runner call.auth (call.request s) w).2.events = w.events ∧
      ∀ result, (env.executeCheckoutAuthorized runner call.auth (call.request s) w).1 = .ok result →
        w.idempotency.lookup (.ofRequest (call.request s)) = some (.completed result) := by
  unfold Env.executeCheckoutAuthorized
  cases authorizeCheckout call.auth (call.request s) with
  | error e => exact ⟨rfl, fun _ h => (by cases h)⟩
  | ok u =>
      have hadm : ∀ cart, w.events.getCartSnapshot (call.request s).cartId = some cart →
          ¬ Admits (call.request s) cart := by
        intro cart hcart hadm
        have hcart : w.events.getCartSnapshot s.cartId = some cart := hcart
        rw [hid] at hcart
        obtain rfl := Option.some.inj (hstored.symm.trans hcart)
        exact Nat.succ_ne_self _ hadm.version
      have hpath := executeCheckout_trace
        (events_trace (h := env.handle) (executeCheckout runner (call.request s)).run w)
      obtain ⟨hok, hevents⟩ := hpath.unadmitted (events_replays (h := env.handle) _ w) hadm
      exact ⟨hevents, fun result h => hok result (mapError_eq_ok.mp h)⟩

/-- The first call that gets in: told what is on record, or fails; the cart is at checkout. -/
theorem open_call (runner : Runner) (hs : env.StoresAnswer) (h : OpenSession w t c s)
    (hin : call.GetsIn parseCartId t c) :
    AtCheckout (acpCompleteSession parseCartId env runner call w).2 t c ∧
      (∀ result, (acpCompleteSession parseCartId env runner call w).1 = .ok result →
        w.idempotency.lookup (.ofRequest (call.request s)) = some (.completed result)) ∧
      (authorizeCheckout call.auth (call.request s) = .ok () →
        validateCheckoutRequest (call.request s) = [] → ∀ result,
        w.idempotency.lookup (.ofRequest (call.request s)) = some (.completed result) →
        (acpCompleteSession parseCartId env runner call w).1 = .ok result) := by
  obtain ⟨w', r, hready, hkeys, hrun⟩ := complete_run runner hs h.toHolds hin
  have hholds := hready.holds h.toHolds
  rw [hrun]
  obtain ⟨st', hnext⟩ := h.next
  generalize hE : w'.events = E at hready
  cases hready with
  | stuck e hstuck => cases hnext.symm.trans hstuck
  | moved st hst =>
      obtain ⟨hevents, hok⟩ :=
        executeCheckoutAuthorized_stale env runner call hholds.stored h.cartId
      have hstate : w'.events.getCartState c = some .checkoutReady := by
        obtain ⟨st₀, -, hst₀⟩ := Option.bind_eq_some_iff.mp hst
        obtain rfl := nextCartState_markCheckoutReady hst₀
        rw [hE]
        exact AList.lookup_insert _
      dsimp only
      refine ⟨⟨s.ready, hholds.of_events hevents, hevents ▸ hstate⟩, fun result hresult => ?_,
        fun hauth hvalid result hkey => ?_⟩
      · rw [← hkeys]
        exact hok result (mapError_eq_ok.mp hresult)
      · rw [← hkeys] at hkey
        unfold Env.executeCheckoutAuthorized
        rw [hauth]
        dsimp only
        rw [executeCheckout_told hs hvalid hkey]
        rfl

/-- Every later one fails. -/
theorem atCheckout_call (runner : Runner) (hs : env.StoresAnswer) (h : AtCheckout w t c)
    (hin : call.GetsIn parseCartId t c) :
    (∃ e, (acpCompleteSession parseCartId env runner call w).1 = .error e) ∧
      AtCheckout (acpCompleteSession parseCartId env runner call w).2 t c := by
  obtain ⟨s, hholds, hstate⟩ := h
  obtain ⟨w', r, hready, -, hrun⟩ := complete_run runner hs hholds hin
  have hholds' := hready.holds hholds
  rw [hrun]
  generalize hE : w'.events = E at hready
  cases hready with
  | moved st hst =>
      rw [InMemoryEventStore.next_some hstate] at hst
      cases hst
  | stuck e _ => exact ⟨⟨_, rfl⟩, s.ready, hholds', by rw [hE]; exact hstate⟩

/-! ## In a row -/

variable {before : List AcpCompletion}

/-- All of these calls that name a cart name this one. -/
def OnSession (parseCartId : String → Except String CartId) (c : CartId)
    (calls : List AcpCompletion) : Prop :=
  ∀ call ∈ calls, ∀ c', call.cartId parseCartId = .ok c' → c' = c

theorem OnSession.tail (h : OnSession parseCartId c (call :: before)) :
    OnSession parseCartId c before :=
  fun other hm => h other (List.mem_cons_of_mem _ hm)

theorem AtCheckout.of_events {w' : World} (h : AtCheckout w t c) (hw : w'.events = w.events) :
    AtCheckout w' t c := by
  obtain ⟨s, hholds, hstate⟩ := h
  exact ⟨s, hholds.of_events hw, hw ▸ hstate⟩

theorem refused_events (runner : Runner) (hs : env.StoresAnswer) (h : Holds w t c s)
    (hsession : ∀ c', call.cartId parseCartId = .ok c' → c' = c)
    (hout : ¬ call.GetsIn parseCartId t c) :
    (acpCompleteSession parseCartId env runner call w).2.events = w.events ∧
      (acpCompleteSession parseCartId env runner call w).2.idempotency = w.idempotency := by
  obtain ⟨-, hw | hw⟩ := refused_outside runner hs h hsession hout
  · rw [hw]
    exact ⟨rfl, rfl⟩
  · rw [hw]
    exact ⟨rfl, rfl⟩

/-- No call takes the cart back from checkout. -/
theorem afterCompletions_atCheckout (hs : env.StoresAnswer)
    (hsession : OnSession parseCartId c before) (h : AtCheckout w t c) :
    AtCheckout (afterCompletions parseCartId env runner before w) t c := by
  induction before generalizing w with
  | nil => exact h
  | cons call before ih =>
      refine ih hsession.tail ?_
      by_cases hin : call.GetsIn parseCartId t c
      · exact (atCheckout_call runner hs h hin).2
      · obtain ⟨s, hholds, -⟩ := id h
        exact h.of_events
          (refused_events runner hs hholds (hsession call List.mem_cons_self) hin).1

/-- A session is open until a call gets in; then it is at checkout. -/
theorem afterCompletions_open (runner : Runner) (hs : env.StoresAnswer)
    (hsession : OnSession parseCartId c before) (h : OpenSession w t c s) :
    ((∀ call ∈ before, ¬ call.GetsIn parseCartId t c) →
      OpenSession (afterCompletions parseCartId env runner before w) t c s ∧
      (afterCompletions parseCartId env runner before w).idempotency = w.idempotency) ∧
    ((∃ call ∈ before, call.GetsIn parseCartId t c) →
      AtCheckout (afterCompletions parseCartId env runner before w) t c) := by
  induction before generalizing w with
  | nil => exact ⟨fun _ => ⟨h, rfl⟩, fun ⟨_, hm, _⟩ => absurd hm List.not_mem_nil⟩
  | cons call before ih =>
      by_cases hin : call.GetsIn parseCartId t c
      · have hready := (open_call runner hs h hin).1
        refine ⟨fun hnone => absurd hin (hnone call List.mem_cons_self), fun _ => ?_⟩
        rw [afterCompletions]
        exact afterCompletions_atCheckout hs hsession.tail hready
      · obtain ⟨hevents, hkeys⟩ := refused_events runner hs h.toHolds
          (hsession call List.mem_cons_self) hin
        have hopen : OpenSession (acpCompleteSession parseCartId env runner call w).2 t c s :=
          ⟨h.toHolds.of_events hevents, hevents ▸ h.open_⟩
        obtain ⟨hstill, hready⟩ := ih hsession.tail hopen
        refine ⟨fun hnone => ?_, fun ⟨other, hm, hother⟩ => hready ?_⟩
        · obtain ⟨hopen, hsame⟩ := hstill fun other hm => hnone other (List.mem_cons_of_mem _ hm)
          exact ⟨hopen, hsame.trans hkeys⟩
        · rcases List.mem_cons.mp hm with rfl | hm
          · exact absurd hother hin
          · exact ⟨other, hm, hother⟩

/-- A complete request of the session's tenant: authorized, valid, with all headers. -/
structure AcpCompletion.Proper (parseCartId : String → Except String CartId) (t : String)
    (c : CartId) (s : CartProjection) (call : AcpCompletion) : Prop
    extends call.GetsIn parseCartId t c where
  authorized : authorizeCheckout call.auth (call.request s) = .ok ()
  valid : validateCheckoutRequest (call.request s) = []

/-- The call returns a completed result. -/
def Completes (r : Except ApiError TransactionResult) : Prop :=
  ∃ result, r = .ok result ∧ result.status = .completed

/-- **Completing a session.**  Whatever calls have been made at once before, of a row of calls
on a cart that is stored, the tenant's, and neither cancelled nor at checkout, with stores that
answer and whatever the providers do, a proper one returns a completed result exactly if no
call before it has got in and a completed result is on record for its key already. -/
theorem acp_complete_iff (parseCartId : String → Except String CartId) (past env : Env)
    (pastRunner runner : Runner) (w : World) (t : String) (c : CartId) (s : CartProjection)
    (before : List AcpCompletion) (call : AcpCompletion) (hs : env.StoresAnswer)
    (hreached : Reached past pastRunner w) (hstored : w.events.getCartSnapshot c = some s)
    (howner : s.tenantId = some t)
    (hstate : ∃ st, w.events.getCartState c = some st ∧ st ≠ .cancelled ∧ st ≠ .checkoutReady)
    (hsession : OnSession parseCartId c before) (hproper : call.Proper parseCartId t c s) :
    Completes (acpCompleteSession parseCartId env runner call
        (afterCompletions parseCartId env runner before w)).1 ↔
      (∀ other ∈ before, ¬ other.GetsIn parseCartId t c) ∧
        ∃ result, w.idempotency.lookup (.ofRequest (call.request s)) = some (.completed result) ∧
          result.status = .completed := by
  have hopen : OpenSession w t c s := ⟨hreached.holds hstored howner, hstate⟩
  obtain ⟨hstill, hready⟩ := afterCompletions_open runner hs hsession hopen
  by_cases hused : ∃ other ∈ before, other.GetsIn parseCartId t c
  · obtain ⟨⟨e, he⟩, -⟩ := atCheckout_call runner hs (hready hused) hproper.toGetsIn
    constructor
    · rintro ⟨result, hok, -⟩
      rw [he] at hok
      cases hok
    · rintro ⟨hnone, -⟩
      obtain ⟨other, hm, hin⟩ := hused
      exact absurd hin (hnone other hm)
  · have hnone : ∀ other ∈ before, ¬ other.GetsIn parseCartId t c :=
      fun other hm hin => hused ⟨other, hm, hin⟩
    obtain ⟨hopen', hkeys⟩ := hstill hnone
    obtain ⟨-, honly, htold⟩ := open_call runner hs hopen' hproper.toGetsIn
    rw [hkeys] at honly htold
    constructor
    · rintro ⟨result, hok, hcompleted⟩
      exact ⟨hnone, result, honly result hok, hcompleted⟩
    · rintro ⟨-, result, hkey, hcompleted⟩
      exact ⟨result, htold hproper.authorized hproper.valid result hkey, hcompleted⟩

end Sessions

instance (r : Except ApiError TransactionResult) : Decidable (Completes r) :=
  match r with
  | .error _ => isFalse fun ⟨_, h, _⟩ => by cases h
  | .ok result =>
      decidable_of_iff (result.status = .completed)
        ⟨fun h => ⟨result, rfl, h⟩, fun ⟨_, h, hcompleted⟩ => Except.ok.inj h ▸ hcompleted⟩

namespace Sample

/-- One line in the cart. -/
def acpWorld : World := (atOnce Env.agreeable runner shopping (inTurn shopping) World.empty).world

def completion : AcpCompletion where
  auth := agent
  headers := ⟨some "2026-04-17", some "h"⟩
  id := "cs_"
  req :=
    { tenantId := "t", merchantId := "m", idempotencyKey := "k"
      paymentData := { token := "tok", amountMinor := 100 } }

theorem acpWorld_reached : Reached Env.agreeable runner acpWorld := ⟨_, _, rfl⟩

theorem acpWorld_state : ∃ st, acpWorld.events.getCartState cart.cartId = some st ∧
    st ≠ .cancelled ∧ st ≠ .checkoutReady :=
  ⟨.geoChecked, by decide +kernel, by decide, by decide⟩

theorem acpWorld_cart : ∃ s, acpWorld.events.getCartSnapshot cart.cartId = some s ∧
    s.tenantId = some "t" ∧ s.merchantId = "m" ∧ s.totalMinor = 100 ∧
      completion.Proper onlyCart "t" cart.cartId s := by
  have hcart : ∃ s ∈ acpWorld.events.getCartSnapshot cart.cartId,
      s.cartId = cart.cartId ∧ s.tenantId = some "t" ∧ s.version = 2 ∧ s.merchantId = "m" ∧
      s.currency = "USD" ∧ s.totalMinor = 100 := by
    decide +kernel
  obtain ⟨s, hs, hid, howner, hversion, hmerchant, hcurrency, htotal⟩ := hcart
  have hrequest : completion.request s =
      completeToCheckoutRequest cart.cartId 2 "USD" completion.req := by
    rw [AcpCompletion.request, hid, hversion, hcurrency]
  refine ⟨s, hs, howner, hmerchant, htotal, ⟨rfl, rfl⟩, ?_, ?_⟩
  · rw [hrequest]
    rfl
  · rw [hrequest]
    decide +kernel

end Sample

theorem acp_complete_iff_sample :
    ¬ Completes (acpCompleteSession Sample.onlyCart Env.agreeable Sample.runner Sample.completion
      Sample.acpWorld).1 := by
  obtain ⟨s, hstored, howner, -, -, hproper⟩ := Sample.acpWorld_cart
  have hiff := acp_complete_iff Sample.onlyCart Env.agreeable Env.agreeable Sample.runner
    Sample.runner Sample.acpWorld "t" Sample.cart.cartId s [] Sample.completion (fun _ _ => rfl)
    Sample.acpWorld_reached hstored howner Sample.acpWorld_state (fun _ h => (by cases h)) hproper
  intro h
  obtain ⟨-, result, hkey, -⟩ := hiff.mp h
  have hnone : Sample.acpWorld.idempotency.entries = [] := by decide +kernel
  rw [AList.lookup, hnone] at hkey
  cases hkey

/-- The session is open, the request is proper and for the right merchant and amount: the
checkout fails, and fails again when it is repeated. -/
theorem acp_complete_fails :
    ∃ s, Reached Env.agreeable Sample.runner Sample.acpWorld ∧
      Sample.acpWorld.events.getCartSnapshot Sample.cart.cartId = some s ∧
      s.tenantId = some "t" ∧
      (∃ st, Sample.acpWorld.events.getCartState Sample.cart.cartId = some st ∧
        st ≠ .cancelled ∧ st ≠ .checkoutReady) ∧
      Sample.completion.Proper Sample.onlyCart "t" Sample.cart.cartId s ∧
      Sample.completion.req.merchantId = s.merchantId ∧
      Sample.completion.req.paymentData.amountMinor = s.totalMinor ∧
      ¬ Completes (acpCompleteSession Sample.onlyCart Env.agreeable Sample.runner Sample.completion
        Sample.acpWorld).1 ∧
      ¬ Completes (acpCompleteSession Sample.onlyCart Env.agreeable Sample.runner Sample.completion
        (afterCompletions Sample.onlyCart Env.agreeable Sample.runner [Sample.completion]
          Sample.acpWorld)).1 := by
  obtain ⟨s, hstored, howner, hmerchant, htotal, hproper⟩ := Sample.acpWorld_cart
  refine ⟨s, Sample.acpWorld_reached, hstored, howner, Sample.acpWorld_state, hproper,
    hmerchant.symm, htotal.symm, ?_, ?_⟩
  · decide +kernel
  · decide +kernel

end Orchestrator
