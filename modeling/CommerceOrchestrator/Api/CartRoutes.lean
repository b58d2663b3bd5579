/-
# `CommerceOrchestrator.Api.CartRoutes` — every route on carts

Sixteen routes of REST, UCP, ACP and A2A read, create, edit or cancel a cart.  Each sends commands
for the tenant of its caller, one after the other, and what a later command is may depend on the
answer to an earlier one.  Two take the command and the id beside it from the request, where
they may be about different carts; the others name one.

`cart_routes_isolated` follows any requests of any tenants through all of them.
-/
import CommerceOrchestrator.Api.CartCreations
import CommerceOrchestrator.Api.McpCommands
import CommerceOrchestrator.Effect.Paired

namespace Orchestrator

open Effect Prog Text

/-! ## The routes -/

section Handlers

variable (env : Env) (runner : Runner)
-- `Uuid::from_str`, with the text of its error
variable (parseCartId : String → Except String CartId)

def getCartCommand (cartId : CartId) : CartCommand := .getCart ⟨cartId⟩

def cancelCartCommand (cartId : CartId) : CartCommand := .cancelCart ⟨cartId⟩

/-- One command, given what is made of the request. -/
def oneCommand (auth : AuthContext) (asked : Except ApiError (CartCommand × Option CartId))
    (w : World) : Except ApiError CartProjection × World :=
  match asked with
  | .error e => (.error e, w)
  | .ok (cmd, cartId) =>
      let done := env.forTenant runner auth.tenantId cmd cartId w
      (done.1.mapError .orchestrator, done.2)

def parseUcpCartId (id : String) : Except ApiError CartId := (parseCartId id).mapError .badRequest

/-- The command of a REST body, and the id beside it. -/
def restCall (command : CartCommandDto) (cartId : Option String) :
    Except ApiError (CartCommand × Option CartId) := do
  let cmd ← (CartCommand.ofDto parseCartId command).mapError .badRequest
  let cartId ← cartId.elim (.ok none) fun id => ((parseCartId id).map some).mapError .badRequest
  return (cmd, cartId)

/-- The command of an envelope, and the id beside it. -/
def a2aCall (body : Json) : Except ApiError (CartCommand × Option CartId) :=
  (normalizeA2aCartEnvelope parseCartId body).mapError .badRequest

/-- The REST route. -/
def dispatchCartCommandRoute (auth : AuthContext) (command : CartCommandDto)
    (cartId : Option String) : World → Except ApiError CartProjection × World :=
  oneCommand env runner auth (restCall parseCartId command cartId)

/-- `run_a2a_cart`. -/
def a2aDispatchCartCommand (auth : AuthContext) (body : Json) :
    World → Except ApiError CartProjection × World :=
  oneCommand env runner auth (a2aCall parseCartId body)

def ucpGetCart (auth : AuthContext) (id : String) :
    World → Except ApiError CartProjection × World :=
  oneCommand env runner auth do return (getCartCommand (← parseUcpCartId parseCartId id), none)

def ucpCancelCart (auth : AuthContext) (id : String) :
    World → Except ApiError CartProjection × World :=
  oneCommand env runner auth do return (cancelCartCommand (← parseUcpCartId parseCartId id), none)

def ucpSetCartFulfillment (auth : AuthContext) (id : String)
    (req : UcpFulfillmentSelectionRequestDto) : World → Except ApiError CartProjection × World :=
  oneCommand env runner auth do
    let cartId ← parseUcpCartId parseCartId id
    let payload ← (SetFulfillmentSelectionPayload.ofDto req).mapError .badRequest
    return (.setFulfillmentSelection payload, some cartId)

def acpGetSession (auth : AuthContext) (headers : AcpHeaders) (id : String) :
    World → Except ApiError CartProjection × World :=
  oneCommand env runner auth do
    let _ ← acpVersionFromHeaders headers
    let cartId ← (parseAcpSessionId parseCartId id).mapError .badRequest
    return (getCartCommand cartId, none)

def acpCancelSession (auth : AuthContext) (headers : AcpHeaders) (id : String) :
    World → Except ApiError CartProjection × World :=
  oneCommand env runner auth do
    checkAcpHeaders headers
    let cartId ← (parseAcpSessionId parseCartId id).mapError .badRequest
    return (cancelCartCommand cartId, none)

def acpGetCart (auth : AuthContext) (headers : AcpHeaders) (id : String) :
    World → Except ApiError CartProjection × World :=
  oneCommand env runner auth do
    let _ ← acpVersionFromHeaders headers
    let cartId ← (parseAcpCartId parseCartId id).mapError .badRequest
    return (getCartCommand cartId, none)

def acpCancelCartEndpoint (auth : AuthContext) (headers : AcpHeaders) (id : String) :
    World → Except ApiError CartProjection × World :=
  oneCommand env runner auth do
    checkAcpHeaders headers
    let cartId ← (parseAcpCartId parseCartId id).mapError .badRequest
    return (cancelCartCommand cartId, none)

end Handlers

/-- A request to one of the routes.  The four of UCP checkouts do what those of UCP carts do, and
render the cart in another way. -/
inductive CartRoute
  | dispatchCartCommand (auth : AuthContext) (command : CartCommandDto) (cartId : Option String)
  | a2aDispatchCartCommand (auth : AuthContext) (body : Json)
  | ucpGet (auth : AuthContext) (id : String)
  | ucpCancel (auth : AuthContext) (id : String)
  | ucpSetFulfillment (auth : AuthContext) (id : String) (req : UcpFulfillmentSelectionRequestDto)
  | acpGetSession (auth : AuthContext) (headers : AcpHeaders) (id : String)
  | acpCancelSession (auth : AuthContext) (headers : AcpHeaders) (id : String)
  | acpGetCart (auth : AuthContext) (headers : AcpHeaders) (id : String)
  | acpCancelCart (auth : AuthContext) (headers : AcpHeaders) (id : String)
  | update (route : UpdateRoute) (call : CartUpdate)
  | create (request : CartCreation)

namespace CartRoute

/-- The tenant of the caller. -/
def tenantId : CartRoute → String
  | dispatchCartCommand auth _ _ | a2aDispatchCartCommand auth _ | ucpGet auth _
  | ucpCancel auth _ | ucpSetFulfillment auth _ _ | acpGetSession auth _ _
  | acpCancelSession auth _ _ | acpGetCart auth _ _ | acpCancelCart auth _ _ => auth.tenantId
  | update _ call => call.auth.tenantId
  | create request => request.tenantId

/-- Answer and world; the projection is what the response is made of. -/
def answer (env : Env) (runner : Runner) (parseCartId : String → Except String CartId) :
    CartRoute → World → Except ApiError CartProjection × World
  | dispatchCartCommand auth command cartId =>
      dispatchCartCommandRoute env runner parseCartId auth command cartId
  | a2aDispatchCartCommand auth body =>
      Orchestrator.a2aDispatchCartCommand env runner parseCartId auth body
  | ucpGet auth id => ucpGetCart env runner parseCartId auth id
  | ucpCancel auth id => ucpCancelCart env runner parseCartId auth id
  | ucpSetFulfillment auth id req => ucpSetCartFulfillment env runner parseCartId auth id req
  | acpGetSession auth headers id =>
      Orchestrator.acpGetSession env runner parseCartId auth headers id
  | acpCancelSession auth headers id =>
      Orchestrator.acpCancelSession env runner parseCartId auth headers id
  | acpGetCart auth headers id => Orchestrator.acpGetCart env runner parseCartId auth headers id
  | acpCancelCart auth headers id => acpCancelCartEndpoint env runner parseCartId auth headers id
  | update route call => fun w => route.update env runner parseCartId call w
  | create request => fun w => request.answer env runner w

end CartRoute

/-! ## Two runs side by side -/

/-- The check is made of the cart that the command works on. -/
def Checked (cmd : CartCommand) (cartId : Option CartId) : Prop :=
  ∀ c, cmd.target cartId = some c → cartId.or (cartIdFromCommand cmd) = some c

/-- Two worlds on behalf of `t`, from the starts `w₀` and `v₀`: alike in the carts that were not
foreign, and the foreign ones untouched in both. -/
structure SideBySide (t : String) (w₀ v₀ w v : World) : Prop where
  agree : Agree t w₀ w v
  theirs : ∀ c, Foreign t w₀ c → v.events.record c = v₀.events.record c
  keyed : Keyed w.clock w

section SideBySide

variable {env : Env} {runner : Runner} {t : String} {w₀ v₀ w v : World} {cmd : CartCommand}
  {cartId : Option CartId} {c : CartId}

theorem SideBySide.tick (h : SideBySide t w₀ v₀ w v) : SideBySide t w₀ v₀ w.tick v.tick :=
  ⟨h.agree.tick, h.theirs, h.keyed.mono (Nat.le_succ _)⟩

theorem foreign_of_record (h : v.events.record c = w.events.record c) (hforeign : Foreign t w c) :
    Foreign t v c := by
  have hsnap : v.events.getCartSnapshot c = w.events.getCartSnapshot c := congrArg (·.2.1) h
  obtain ⟨s, hs, htenant⟩ := hforeign
  exact ⟨s, hsnap.trans hs, htenant⟩

/-- The carts that are foreign stay the ones that were. -/
theorem SideBySide.foreign_iff (h : SideBySide t w₀ v₀ w v) : Foreign t w c ↔ Foreign t w₀ c := by
  refine ⟨?_, fun hc => foreign_of_record (h.agree.foreign c hc) hc⟩
  rintro ⟨s, hs, htenant⟩
  by_contra hown
  exact htenant (h.agree.good c s hown hs).2

theorem SideBySide.foreign_iff_other (h : SideBySide t w₀ v₀ w v)
    (hv₀ : ∀ c, Foreign t w₀ c → Foreign t v₀ c) : Foreign t v c ↔ Foreign t w₀ c := by
  refine ⟨?_, fun hc => foreign_of_record (h.theirs c hc) (hv₀ c hc)⟩
  intro hforeign
  by_contra hown
  exact hown (h.foreign_iff.mp (foreign_of_record (h.agree.own c hown).symm hforeign))

theorem keyed_dispatched (hkeyed : Keyed w.clock w) :
    Keyed (env.dispatched runner t cmd cartId w).2.clock
      (env.dispatched runner t cmd cartId w).2 :=
  (dispatchCartCommand_writes (events_trace _ w) (events_replays _ w) hkeyed).1

/-- A command that targets no foreign cart keeps the worlds side by side. -/
theorem SideBySide.dispatched (env : Env) (runner : Runner) (hkeyed : Keyed w₀.clock w₀)
    (h : SideBySide t w₀ v₀ w v) (hown : ∀ c, cmd.target cartId = some c → ¬ Foreign t w₀ c) :
    (env.dispatched runner t cmd cartId v).1 = (env.dispatched runner t cmd cartId w).1 ∧
      SideBySide t w₀ v₀ (env.dispatched runner t cmd cartId w).2
        (env.dispatched runner t cmd cartId v).2 := by
  have htarget : (cmd.withTenant t).target cartId = cmd.target cartId := by cases cmd <;> rfl
  have hfollows : (dispatchCartCommand runner (cmd.withTenant t) cartId).run.Follows
      (ownCarts t w₀) (onOk (Returns (fun c => ¬ Foreign t w₀ c) fun c id tenant =>
        id = c ∧ tenant = some t)) () := by
    refine dispatchCartCommand_follows (fun c hc => hown c (htarget ▸ hc)) ?_
    intro payload hcmd id _
    refine ⟨rfl, ?_⟩
    cases cmd with
    | createCart payload' =>
        cases hcmd
        rfl
    | _ => cases hcmd
  have hstep (w v : World) (_ : Unit) (o : Op)
      (hr : Agree t w₀ w v ∧ ∀ c, Foreign t w₀ c → v.events.record c = v₀.events.record c)
      (ho : (ownCarts t w₀).allow o ()) :
      (ownCarts t w₀).rely o () (env.handle o w).1 ∧ (env.handle o v).1 = (env.handle o w).1 ∧
        (Agree t w₀ (env.handle o w).2 (env.handle o v).2 ∧
          ∀ c, Foreign t w₀ c → (env.handle o v).2.events.record c = v₀.events.record c) := by
    refine ⟨hr.1.rely hkeyed ho, hr.1.answer ho, hr.1.handle ho, ?_⟩
    intro c hc
    rw [Env.handle_record fun hw => ownCarts_writes ho c hw hc]
    exact hr.2 c hc
  obtain ⟨hans, q, ⟨hagree, htheirs⟩, -⟩ := Prog.Follows.run_agree hstep hfollows ⟨h.agree, h.theirs⟩
  exact ⟨congrArg (Except.mapError _) hans, hagree, htheirs, keyed_dispatched h.keyed⟩

/-- **A checked call keeps the worlds side by side**, and answers with an own cart. -/
theorem SideBySide.forTenant (runner : Runner) (hsnap : SnapshotsAnswer env)
    (hkeyed : Keyed w₀.clock w₀) (hv₀ : ∀ c, Foreign t w₀ c → Foreign t v₀ c)
    (h : SideBySide t w₀ v₀ w v) (hchecked : Checked cmd cartId) :
    (env.forTenant runner t cmd cartId v).1 = (env.forTenant runner t cmd cartId w).1 ∧
      SideBySide t w₀ v₀ (env.forTenant runner t cmd cartId w).2
        (env.forTenant runner t cmd cartId v).2 ∧
      ∀ s, (env.forTenant runner t cmd cartId w).1 = .ok s → s.tenantId = some t := by
  cases ha : cartId.or (cartIdFromCommand cmd) with
  | none =>
      have hown : ∀ c, cmd.target cartId = some c → ¬ Foreign t w₀ c := by
        intro c hc
        cases (hchecked c hc).symm.trans ha
      rw [forTenant_unchecked ha, forTenant_unchecked ha]
      obtain ⟨hans, hside⟩ := h.dispatched env runner hkeyed hown
      exact ⟨hans, hside, (dispatched_agree env runner hkeyed h.agree hown).2.1⟩
  | some a =>
      by_cases hforeign : Foreign t w₀ a
      · rw [forTenant_refused ha (refuses_iff.mpr ⟨hsnap _ _, h.foreign_iff.mpr hforeign⟩),
          forTenant_refused ha
            (refuses_iff.mpr ⟨hsnap _ _, (h.foreign_iff_other hv₀).mpr hforeign⟩)]
        exact ⟨rfl, h.tick, fun s hs => nomatch hs⟩
      · have hown : ∀ c, cmd.target cartId = some c → ¬ Foreign t w₀ c := by
          intro c hc
          cases (hchecked c hc).symm.trans ha
          exact hforeign
        rw [forTenant_passed ha fun hr => hforeign (h.foreign_iff.mp (refuses_iff.mp hr).2),
          forTenant_passed ha fun hr =>
            hforeign ((h.foreign_iff_other hv₀).mp (refuses_iff.mp hr).2)]
        obtain ⟨hans, hside⟩ := h.tick.dispatched env runner hkeyed hown
        exact ⟨hans, hside, (dispatched_agree env runner hkeyed h.tick.agree hown).2.1⟩

end SideBySide

/-! ## Handlers -/

/-- The cart is the tenant's. -/
def Owned (t : String) (s : CartProjection) : Prop := s.tenantId = some t

section Handlers

variable {env : Env} {runner : Runner} {t : String} {c : CartId} {cmd : CartCommand}

/-- Without an id beside it, a command is checked for the cart in its payload, and one that has
none in its payload works on none. -/
theorem checked_none : Checked cmd none := by
  intro c hc
  cases cmd <;> exact hc

theorem checked_some (h : cmd.target (some c) = some c) : Checked cmd (some c) :=
  fun _ hc' => h.symm.trans hc'

theorem checked_of_onLines (h : cmd.onLines) : Checked cmd (some c) := by
  refine checked_some ?_
  cases cmd <;> first | rfl | cases h

-- what is known of two worlds, of the commands sent, and of the carts they are answered with
variable {R : World → World → Prop} {C : CartCommand → Option CartId → Prop}
  {P : CartProjection → Prop}

/-- The facade is paired on such commands, and those that are checked are among them. -/
structure PairedCalls (env : Env) (runner : Runner) (t : String) (R : World → World → Prop)
    (C : CartCommand → Option CartId → Prop) (P : CartProjection → Prop) : Prop where
  call : ∀ cmd cartId, C cmd cartId → Paired R (OkIs P) (env.forTenant runner t cmd cartId)
  checked : ∀ cmd cartId, Checked cmd cartId → C cmd cartId

theorem PairedCalls.of_checked (h : PairedCalls env runner t R C P) {cartId : Option CartId}
    (hchecked : Checked cmd cartId) : Paired R (OkIs P) (env.forTenant runner t cmd cartId) :=
  h.call cmd cartId (h.checked cmd cartId hchecked)

/-- One command, and what the handler makes of its answer. -/
theorem PairedCalls.oneCommand {auth : AuthContext} (h : PairedCalls env runner auth.tenantId R C P)
    {asked : Except ApiError (CartCommand × Option CartId)}
    (hasked : ∀ cmd cartId, asked = .ok (cmd, cartId) → C cmd cartId) :
    Paired R (OkIs P) (oneCommand env runner auth asked) := by
  cases asked with
  | error e => exact .answer okIs_error
  | ok named =>
      obtain ⟨cmd, cartId⟩ := named
      exact (h.call cmd cartId (hasked cmd cartId rfl)).map fun _ hr => hr.mapError

/-- Edits of one cart, one after the other. -/
theorem PairedCalls.carryOut (h : PairedCalls env runner t R C P) {commands : List CartCommand}
    (hcommands : ∀ cmd ∈ commands, cmd.onLines) {s : CartProjection} (hs : P s) :
    Paired R (OkIs P) (carryOut env runner t c commands s) := by
  induction commands generalizing s with
  | nil => exact .answer (okIs_ok hs)
  | cons cmd commands ih =>
      obtain ⟨hcmd, hcommands⟩ := List.forall_mem_cons.mp hcommands
      have hboth : Orchestrator.carryOut env runner t c (cmd :: commands) s =
          andThen id (env.forTenant runner t cmd (some c))
            (Orchestrator.carryOut env runner t c commands) := by
        funext w
        rw [Orchestrator.carryOut, andThen]
        rcases env.forTenant runner t cmd (some c) w with ⟨_ | s', w'⟩ <;> rfl
      rw [hboth]
      exact (h.of_checked (checked_of_onLines hcmd)).andThen fun s' hs' => ih hcommands hs'

/-- A cart is read, and edited as its lines make it. -/
theorem PairedCalls.replaceLines (h : PairedCalls env runner t R C P)
    {lineItems : List CartLineRequest} :
    Paired R (OkIs P) (replaceLines env runner t c lineItems) := by
  have hboth : Orchestrator.replaceLines env runner t c lineItems =
      andThen id (env.forTenant runner t (.getCart ⟨c⟩) none) fun s =>
        Orchestrator.carryOut env runner t c (updateCommands lineItems s) s := by
    funext w
    rw [replaceLines_eq, andThen]
    rcases env.forTenant runner t (.getCart ⟨c⟩) none w with ⟨_ | s', w'⟩ <;> rfl
  rw [hboth]
  exact (h.of_checked checked_none).andThen fun s hs => h.carryOut onLines_of_mem_updateCommands hs

theorem PairedCalls.update {call : CartUpdate} (h : PairedCalls env runner call.auth.tenantId R C P)
    {cartId : Except ApiError CartId} :
    Paired R (OkIs P) fun w => call.answer env runner w cartId := by
  cases cartId with
  | error e => exact .answer okIs_error
  | ok c => exact h.replaceLines.map fun _ hr => hr.mapError

/-- A cart is created and filled. -/
theorem PairedCalls.createAndFill (h : PairedCalls env runner t R C P) {payload : CreateCartPayload}
    {lineItems : List CartLineRequest} :
    Paired R (OkIs fun filled => P filled.2) (createAndFill env runner t payload lineItems) := by
  have hboth : Orchestrator.createAndFill env runner t payload lineItems =
      andThen id (env.forTenant runner t (.createCart payload) none) fun s w =>
        ((Orchestrator.carryOut env runner t s.cartId (addItemCommands lineItems) s w).1.map
            (s.cartId, ·),
          (Orchestrator.carryOut env runner t s.cartId (addItemCommands lineItems) s w).2) := by
    funext w
    rw [Orchestrator.createAndFill, andThen]
    rcases env.forTenant runner t (.createCart payload) none w with ⟨_ | s', w'⟩ <;> rfl
  rw [hboth]
  refine (h.of_checked checked_none).andThen fun s hs => ?_
  refine (h.carryOut (c := s.cartId) ?_ hs).map fun r hr => hr.map fun _ hs' => hs'
  intro cmd hcmd
  obtain ⟨line, -, rfl⟩ := List.mem_map.mp hcmd
  rfl

theorem PairedCalls.createOnly (h : PairedCalls env runner t R C P) {payload : CreateCartPayload}
    {lineItems : List CartLineRequest} :
    Paired R (OkIs P) (createOnly env runner t payload lineItems) := by
  have hcart : Paired R (OkIs P) fun w =>
      ((Orchestrator.createAndFill env runner t payload lineItems w).1.map (·.2),
        (Orchestrator.createAndFill env runner t payload lineItems w).2) :=
    h.createAndFill.map fun r hr => hr.map fun _ hs => hs
  exact hcart.map fun _ hr => hr.mapError

/-- A cart is created, filled and taken to checkout. -/
theorem PairedCalls.createCheckout {auth : AuthContext}
    (h : PairedCalls env runner auth.tenantId R C P) {req : UcpCartRequest} :
    Paired R (OkIs P) (ucpCreateCheckout env runner auth req) := by
  cases hmerchant : req.merchantId with
  | none =>
      have hrefused : ucpCreateCheckout env runner auth req =
          fun w => (.error (.badRequest "merchant_id is required"), w) := by
        funext w
        rw [ucpCreateCheckout, hmerchant]
      rw [hrefused]
      exact .answer okIs_error
  | some merchantId =>
      have hboth : ucpCreateCheckout env runner auth req =
          andThen .orchestrator
            (Orchestrator.createAndFill env runner auth.tenantId
              ⟨merchantId, req.currency, some auth.tenantId⟩ req.lineItems)
            fun filled w =>
              ((env.forTenant runner auth.tenantId (.startCheckout ⟨filled.1, filled.2.version⟩)
                  (some filled.1) w).1.mapError .orchestrator,
                (env.forTenant runner auth.tenantId (.startCheckout ⟨filled.1, filled.2.version⟩)
                  (some filled.1) w).2) := by
        funext w
        rw [ucpCreateCheckout, hmerchant, andThen]
        dsimp only
        rcases Orchestrator.createAndFill env runner auth.tenantId
          ⟨merchantId, req.currency, some auth.tenantId⟩ req.lineItems w with ⟨_ | filled, w'⟩
        · rfl
        · rfl
      rw [hboth]
      exact h.createAndFill.andThen fun filled _ =>
        (h.of_checked (checked_some rfl)).map fun _ hr => hr.mapError

/-- The four handlers that create a cart. -/
theorem PairedCalls.create {request : CartCreation}
    (h : PairedCalls env runner request.tenantId R C P) :
    Paired R (OkIs P) fun w => request.answer env runner w := by
  cases request with
  | ucpCart auth req =>
      show Paired R _ fun w => ucpCreateCart env runner auth req w
      unfold ucpCreateCart
      cases req.merchantId with
      | none => exact .answer okIs_error
      | some merchantId => exact h.createOnly
  | ucpCheckout auth req => exact h.createCheckout
  | acpSession auth headers req =>
      show Paired R _ fun w => acpCreateSession env runner auth headers req w
      unfold acpCreateSession
      cases checkAcpHeaders headers with
      | error e => exact .answer okIs_error
      | ok u => exact h.createOnly
  | acpCart auth headers req =>
      show Paired R _ fun w => acpCreateCart env runner auth headers req w
      unfold acpCreateCart
      cases checkAcpHeaders headers with
      | error e => exact .answer okIs_error
      | ok u => exact h.createOnly

end Handlers

/-! ## Every route -/

/-- The command and the id beside it that a request states, of the two routes that take both
from the request. -/
def CartRoute.states (parseCartId : String → Except String CartId) :
    CartRoute → Option (Except ApiError (CartCommand × Option CartId))
  | .dispatchCartCommand _ command cartId => some (restCall parseCartId command cartId)
  | .a2aDispatchCartCommand _ body => some (a2aCall parseCartId body)
  | _ => none

/-- Of what a request states, `C` holds. -/
def CartRoute.Stating (parseCartId : String → Except String CartId)
    (C : CartCommand → Option CartId → Prop) (route : CartRoute) : Prop :=
  ∀ cmd cartId, route.states parseCartId = some (.ok (cmd, cartId)) → C cmd cartId

section Routes

variable {env : Env} {runner : Runner} {parseCartId : String → Except String CartId}
  {route : CartRoute} {R : World → World → Prop} {C : CartCommand → Option CartId → Prop}
  {P : CartProjection → Prop}

/-- **Every route is paired** that states no command but such as `C` holds of. -/
theorem PairedCalls.answer (h : PairedCalls env runner route.tenantId R C P)
    (hstates : route.Stating parseCartId C) :
    Paired R (OkIs P) (route.answer env runner parseCartId) := by
  cases route with
  | dispatchCartCommand auth command cartId =>
      exact h.oneCommand fun cmd named hnamed => hstates cmd named (congrArg some hnamed)
  | a2aDispatchCartCommand auth body =>
      exact h.oneCommand fun cmd named hnamed => hstates cmd named (congrArg some hnamed)
  | ucpGet auth id | ucpCancel auth id =>
      refine h.oneCommand fun cmd cartId hnamed => ?_
      obtain ⟨c, -, hnamed⟩ := bind_eq_ok.mp hnamed
      cases hnamed
      exact h.checked _ _ checked_none
  | ucpSetFulfillment auth id req =>
      refine h.oneCommand fun cmd cartId hnamed => ?_
      obtain ⟨c, -, hnamed⟩ := bind_eq_ok.mp hnamed
      obtain ⟨payload, -, hnamed⟩ := bind_eq_ok.mp hnamed
      cases hnamed
      exact h.checked _ _ (checked_some rfl)
  | acpGetSession auth headers id | acpCancelSession auth headers id | acpGetCart auth headers id
  | acpCancelCart auth headers id =>
      refine h.oneCommand fun cmd cartId hnamed => ?_
      obtain ⟨-, -, hnamed⟩ := bind_eq_ok.mp hnamed
      obtain ⟨c, -, hnamed⟩ := bind_eq_ok.mp hnamed
      cases hnamed
      exact h.checked _ _ checked_none
  | update route call => cases route <;> exact h.update
  | create request => exact h.create

/-! ## Runs -/

/-- The world after requests, one after the other. -/
def afterRoutes (env : Env) (runner : Runner) (parseCartId : String → Except String CartId)
    (routes : List CartRoute) (w : World) : World :=
  routes.foldl (fun w route => (route.answer env runner parseCartId w).2) w

/-- What a request on behalf of a tenant does about the carts of others. -/
structure IsolatedRoute (t : String) (w : World)
    (answer : World → Except ApiError CartProjection × World) : Prop where
  own : ∀ s, (answer w).1 = .ok s → s.tenantId = some t
  unchanged : ∀ c, Foreign t w c → (answer w).2.events.record c = w.events.record c
  unread : ∀ events, SameButForeign t w events → (answer { w with events }).1 = (answer w).1

theorem keyed_forTenant {t : String} {cmd : CartCommand} {cartId : Option CartId} {w : World}
    (hkeyed : Keyed w.clock w) :
    Keyed (env.forTenant runner t cmd cartId w).2.clock
      (env.forTenant runner t cmd cartId w).2 := by
  cases ha : cartId.or (cartIdFromCommand cmd) with
  | none =>
      rw [forTenant_unchecked ha]
      exact keyed_dispatched hkeyed
  | some a =>
      have htick : Keyed w.tick.clock w.tick := hkeyed.mono (Nat.le_succ _)
      by_cases hrefused : Refuses env t w a
      · rw [forTenant_refused ha hrefused]
        exact htick
      · rw [forTenant_passed ha hrefused]
        exact keyed_dispatched htick

/-- Any request keeps every snapshot under its own id. -/
theorem keyed_answer {w : World} (hkeyed : Keyed w.clock w) :
    Keyed (route.answer env runner parseCartId w).2.clock
      (route.answer env runner parseCartId w).2 := by
  have hcalls : PairedCalls env runner route.tenantId (fun w v => w = v ∧ Keyed w.clock w)
      (fun _ _ => True) (fun _ => True) := by
    refine ⟨fun cmd cartId _ w v hr => ?_, fun _ _ _ => trivial⟩
    obtain ⟨rfl, hw⟩ := hr
    exact ⟨rfl, ⟨rfl, keyed_forTenant hw⟩, fun _ _ => trivial⟩
  exact (hcalls.answer fun _ _ _ => trivial).invariant (I := fun w => Keyed w.clock w) hkeyed

theorem keyed_afterRoutes {routes : List CartRoute} {w : World} (hkeyed : Keyed w.clock w) :
    Keyed (afterRoutes env runner parseCartId routes w).clock
      (afterRoutes env runner parseCartId routes w) := by
  induction routes generalizing w with
  | nil => exact hkeyed
  | cons route routes ih => exact ih (keyed_answer hkeyed)

/-- A request that states a checked command, or none, is isolated. -/
theorem isolated_answer (hsnap : SnapshotsAnswer env) {w : World} (hkeyed : Keyed w.clock w)
    (h : route.Stating parseCartId Checked) :
    IsolatedRoute route.tenantId w (route.answer env runner parseCartId) := by
  have hpaired (v₀ : World) (hv₀ : ∀ c, Foreign route.tenantId w c → Foreign route.tenantId v₀ c) :
      Paired (SideBySide route.tenantId w v₀) (OkIs (Owned route.tenantId))
        (route.answer env runner parseCartId) :=
    PairedCalls.answer ⟨fun cmd cartId hchecked w' v' hr =>
      hr.forTenant runner hsnap hkeyed hv₀ hchecked, fun _ _ hchecked => hchecked⟩ h
  have hstart (events : InMemoryEventStore) (hsame : SameButForeign route.tenantId w events) :
      SideBySide route.tenantId w { w with events } w { w with events } :=
    ⟨hsame.agree hkeyed, fun _ _ => rfl, hkeyed⟩
  obtain ⟨-, hside, hown⟩ := hpaired w (fun _ hc => hc) w w (hstart w.events .refl)
  refine ⟨hown, hside.agree.foreign, fun events hsame => ?_⟩
  exact (hpaired _ hsame.foreign w _ (hstart events hsame)).1

end Routes

namespace Sample

/-- The sample cart is read by its tenant. -/
def ownRead : CartRoute := .ucpGet agent cartIdText

/-- Another tenant asks to cancel it, and names it twice. -/
def strangersCancel : CartRoute :=
  .dispatchCartCommand ⟨"stranger", "u", []⟩ (.cancelCart cartIdText) (some cartIdText)

theorem strangersCancel_states : strangersCancel.Stating parseCartIdText Checked := by
  intro cmd cartId h
  have hstated : strangersCancel.states parseCartIdText =
      some (.ok (.cancelCart ⟨cart.cartId⟩, some cart.cartId)) := rfl
  cases hstated.symm.trans h
  exact checked_some rfl

end Sample

end Orchestrator
