/-
# `CommerceOrchestrator.Api.CartCreations` — creating a cart with its lines

Four handlers create a cart from a list of entries: a UCP cart, a UCP checkout, an ACP session
and an ACP cart.  Each sends a command that creates an empty cart and one that adds a line for
each entry, up to the first that fails; the UCP checkout takes the cart to checkout after that.

There is no command that takes a creation back.  So the answer of a failed call does not name a
cart, and yet a cart may be left: a draft with the lines before the entry that was refused
(`cart_creation_exact_or_partway`).
-/
import CommerceOrchestrator.Api.CartUpdates

namespace Orchestrator

open Effect Prog

/-! ## The requests -/

/-- `UcpCartRequestDto`. -/
structure UcpCartRequest where
  merchantId : Option String
  currency : String
  lineItems : List CartLineRequest
deriving DecidableEq, Repr

/-- `AcpCheckoutSessionCreateRequest` and `AcpCartCreateRequest`, which are alike. -/
structure AcpCreateRequest where
  merchantId : String
  currency : String
  lineItems : List CartLineRequest
deriving DecidableEq, Repr

/-- A call of one of the handlers. -/
inductive CartCreation
  | ucpCart (auth : AuthContext) (req : UcpCartRequest)
  | ucpCheckout (auth : AuthContext) (req : UcpCartRequest)
  | acpSession (auth : AuthContext) (headers : AcpHeaders) (req : AcpCreateRequest)
  | acpCart (auth : AuthContext) (headers : AcpHeaders) (req : AcpCreateRequest)

/-- `create_cart_command`, `create_cart_command_for_acp_cart`. -/
def createCartCommand (req : AcpCreateRequest) : CreateCartPayload :=
  ⟨req.merchantId, req.currency, none⟩

/-- The command that adds a line for an entry. -/
def CartLineRequest.addition (line : CartLineRequest) : CartCommand :=
  .addItem ⟨line.itemId, line.quantity⟩

/-- `add_item_commands`, `add_item_commands_for_acp_cart`. -/
def addItemCommands (lineItems : List CartLineRequest) : List CartCommand :=
  lineItems.map (·.addition)

/-! ## The handlers -/

section Handlers

variable (env : Env) (runner : Runner)

/-- A cart is created and filled; with it, the id it was created under. -/
def createAndFill (tenantId : String) (payload : CreateCartPayload)
    (lineItems : List CartLineRequest) (w : World) :
    Except FacadeError (CartId × CartProjection) × World :=
  match env.forTenant runner tenantId (.createCart payload) none w with
  | (.error e, w) => (.error e, w)
  | (.ok projection, w) =>
      let cartId := projection.cartId
      let filled := carryOut env runner tenantId cartId (addItemCommands lineItems) projection w
      (filled.1.map (cartId, ·), filled.2)

/-- What a handler answers that does no more. -/
def createOnly (tenantId : String) (payload : CreateCartPayload) (lineItems : List CartLineRequest)
    (w : World) : Except ApiError CartProjection × World :=
  let done := createAndFill env runner tenantId payload lineItems w
  ((done.1.map (·.2)).mapError .orchestrator, done.2)

def ucpCreateCart (auth : AuthContext) (req : UcpCartRequest) (w : World) :
    Except ApiError CartProjection × World :=
  match req.merchantId with
  | none => (.error (.badRequest "merchant_id is required"), w)
  | some merchantId =>
      createOnly env runner auth.tenantId ⟨merchantId, req.currency, some auth.tenantId⟩
        req.lineItems w

def ucpCreateCheckout (auth : AuthContext) (req : UcpCartRequest) (w : World) :
    Except ApiError CartProjection × World :=
  match req.merchantId with
  | none => (.error (.badRequest "merchant_id is required"), w)
  | some merchantId =>
      match createAndFill env runner auth.tenantId
          ⟨merchantId, req.currency, some auth.tenantId⟩ req.lineItems w with
      | (.error e, w) => (.error (.orchestrator e), w)
      | (.ok (cartId, projection), w) =>
          let started := env.forTenant runner auth.tenantId
            (.startCheckout ⟨cartId, projection.version⟩) (some cartId) w
          (started.1.mapError .orchestrator, started.2)

/-- What the ACP handlers check first. -/
def checkAcpHeaders (headers : AcpHeaders) : Except ApiError Unit := do
  let _ ← acpVersionFromHeaders headers
  let _ ← requireAcpIdempotencyKey headers

def acpCreateSession (auth : AuthContext) (headers : AcpHeaders) (req : AcpCreateRequest)
    (w : World) : Except ApiError CartProjection × World :=
  match checkAcpHeaders headers with
  | .error e => (.error e, w)
  | .ok () =>
      createOnly env runner auth.tenantId (createCartCommand req) req.lineItems w

def acpCreateCart (auth : AuthContext) (headers : AcpHeaders) (req : AcpCreateRequest)
    (w : World) : Except ApiError CartProjection × World :=
  match checkAcpHeaders headers with
  | .error e => (.error e, w)
  | .ok () =>
      createOnly env runner auth.tenantId (createCartCommand req) req.lineItems w

/-- Answer and world of a call; the projection is what the response is made of. -/
def CartCreation.answer (w : World) : CartCreation → Except ApiError CartProjection × World
  | .ucpCart auth req => ucpCreateCart env runner auth req w
  | .ucpCheckout auth req => ucpCreateCheckout env runner auth req w
  | .acpSession auth headers req => acpCreateSession env runner auth headers req w
  | .acpCart auth headers req => acpCreateCart env runner auth headers req w

end Handlers

/-! ## What is asked for -/

namespace CartCreation

def tenantId : CartCreation → String
  | ucpCart auth _ | ucpCheckout auth _ | acpSession auth _ _ | acpCart auth _ _ => auth.tenantId

def merchantId : CartCreation → Option String
  | ucpCart _ req | ucpCheckout _ req => req.merchantId
  | acpSession _ _ req | acpCart _ _ req => some req.merchantId

def currency : CartCreation → String
  | ucpCart _ req | ucpCheckout _ req => req.currency
  | acpSession _ _ req | acpCart _ _ req => req.currency

def lineItems : CartCreation → List CartLineRequest
  | ucpCart _ req | ucpCheckout _ req => req.lineItems
  | acpSession _ _ req | acpCart _ _ req => req.lineItems

/-- The status a created cart is answered with. -/
def status : CartCreation → CartStatus
  | ucpCheckout _ _ => .checkoutReady
  | _ => .draft

end CartCreation

/-- `s` is stored under `c`, which was not in use before; it is of the tenant that asked for it,
with the merchant and the currency asked for. -/
structure CreatedFor (request : CartCreation) (w w' : World) (c : CartId) (s : CartProjection) :
    Prop where
  fresh : w.events.Blank c
  stored : w'.events.getCartSnapshot c = some s
  cartId : s.cartId = c
  tenantId : s.tenantId = some request.tenantId
  merchantId : request.merchantId = some s.merchantId
  currency : s.currency = request.currency

/-- The lines are those of the entries, in their order, with ids of their own. -/
structure Lists (A : Answers) (lineItems : List CartLineRequest) (lines : OrderLines) : Prop where
  additions : List.Forall₂ (AddedFor A) lineItems lines
  distinct : lines.ids.Nodup

/-- The entry after the first `n` was refused, with this answer. -/
def RefusedAt (env : Env) (runner : Runner) (request : CartCreation) (c : CartId) (n : Nat)
    (e : ApiError) : Prop :=
  ∃ line v refusal, request.lineItems[n]? = some line ∧
    (env.forTenant runner request.tenantId line.addition (some c) v).1 = .error refusal ∧
    e = .orchestrator refusal

/-! ## The creation -/

section Create

variable {env : Env} {runner : Runner} {w : World} {l : List (Event Op.Ans)} {t : String}

/-- Whatever the stores answer, a creation writes to the cart whose id it draws and to no other,
and stores nothing there but the empty cart. -/
structure CreatedEmpty (w : World) (payload : CreateCartPayload)
    (r : Except RunnerError CartProjection) (w' : World) : Prop where
  only : OnlyAt ⟨⟨w.clock⟩⟩ w.events w'.events
  snapshot : w'.events.getCartSnapshot ⟨⟨w.clock⟩⟩ = w.events.getCartSnapshot ⟨⟨w.clock⟩⟩ ∨
    w'.events.getCartSnapshot ⟨⟨w.clock⟩⟩ = some (payload.cart ⟨⟨w.clock⟩⟩)
  answered : ∀ s, r = .ok s → s = payload.cart ⟨⟨w.clock⟩⟩ ∧
    w'.events.getCartSnapshot ⟨⟨w.clock⟩⟩ = some s

theorem OnlyAt.handle {c : CartId} {E : InMemoryEventStore} {v : World} {o : Op}
    (h : OnlyAt c E v.events) (env : Env) (ho : o.writesTo = some c) :
    OnlyAt c E (env.handle o v).2.events := by
  intro c' hc
  rw [Env.handle_record fun hw => hc (Option.some.inj (hw.symm.trans ho)), h c' hc]

theorem createCart_eq (payload : CreateCartPayload) :
    createCart payload = (do
      let id : Uuid ← call .newUuid
      tryWith .store (ask (.appendCartEvent ⟨id⟩ (.created payload.merchantId payload.currency)))
      tryWith .store (ask (.putCartSnapshot (payload.cart ⟨id⟩)))
      tryWith .store (ask (.setCartState ⟨id⟩ .cartCreated))
      return payload.cart ⟨id⟩) := rfl

theorem createCart_empty (payload : CreateCartPayload) :
    (createCart payload).run.Leads env.handle w l fun r w' _ => CreatedEmpty w payload r w' := by
  have hdraw : OnlyAt ⟨⟨w.clock⟩⟩ w.events (env.handle .newUuid w).2.events := onlyAt_refl
  have hdrawn : (env.handle .newUuid w).2.events.getCartSnapshot ⟨⟨w.clock⟩⟩ =
      w.events.getCartSnapshot ⟨⟨w.clock⟩⟩ := rfl
  have hid : (env.handle .newUuid w).1 = ⟨w.clock⟩ := rfl
  have herror {e : RunnerError} {s : CartProjection} {P : Prop}
      (h : (.error e : Except RunnerError CartProjection) = .ok s) : P := by cases h
  rw [createCart_eq]
  refine leads_call_bind ?_
  rw [hid]
  generalize (env.handle .newUuid w).2 = w₁ at hdraw hdrawn
  have hcart : (payload.cart ⟨⟨w.clock⟩⟩).cartId = ⟨⟨w.clock⟩⟩ := rfl
  generalize hs : payload.cart ⟨⟨w.clock⟩⟩ = s at hcart ⊢
  -- the event
  refine leads_tryWith_bind (leads_perform.mpr ?_)
  have hlogged := hdraw.handle env
    (o := .appendCartEvent ⟨⟨w.clock⟩⟩ (.created payload.merchantId payload.currency)) rfl
  have hsame : (env.handle (.appendCartEvent ⟨⟨w.clock⟩⟩
        (.created payload.merchantId payload.currency)) w₁).2.events.getCartSnapshot ⟨⟨w.clock⟩⟩ =
      w.events.getCartSnapshot ⟨⟨w.clock⟩⟩ :=
    (Env.handle_snapshot (by simp)).trans hdrawn
  generalize env.handle (.appendCartEvent ⟨⟨w.clock⟩⟩ _) w₁ = logged at hlogged hsame
  obtain ⟨_ | u, w₂⟩ := logged
  · exact ⟨hlogged, .inl hsame, fun _ => herror⟩
  -- the snapshot
  refine leads_tryWith_bind (leads_perform.mpr ?_)
  have hput := hlogged.handle env (o := .putCartSnapshot s) (congrArg some hcart)
  have hshot : (env.handle (.putCartSnapshot s) w₂).2.events.getCartSnapshot ⟨⟨w.clock⟩⟩ =
      if tookHold (env.handle (.putCartSnapshot s) w₂).1 ∧ ⟨⟨w.clock⟩⟩ = s.cartId then some s
      else w₂.events.getCartSnapshot ⟨⟨w.clock⟩⟩ := Env.handle_putCartSnapshot_snapshot
  generalize env.handle (.putCartSnapshot s) w₂ = put at hput hshot
  obtain ⟨r, w₃⟩ := put
  cases r with
  | error e =>
      refine ⟨hput, ?_, fun _ => herror⟩
      rw [hs, hshot]
      by_cases htook : tookHold (.error e : Except StoreError Unit)
      · exact .inr (if_pos ⟨htook, hcart.symm⟩)
      · exact .inl ((if_neg fun hboth => htook hboth.1).trans hsame)
  | ok u =>
      have hstored : w₃.events.getCartSnapshot ⟨⟨w.clock⟩⟩ = some s :=
        hshot.trans (if_pos ⟨rfl, hcart.symm⟩)
      -- the state
      refine leads_tryWith_bind (leads_perform.mpr ?_)
      have hset := hput.handle env (o := .setCartState ⟨⟨w.clock⟩⟩ .cartCreated) rfl
      have hkept : (env.handle (.setCartState ⟨⟨w.clock⟩⟩ .cartCreated) w₃).2.events.getCartSnapshot
          ⟨⟨w.clock⟩⟩ = some s := (Env.handle_snapshot (by simp)).trans hstored
      generalize env.handle (.setCartState ⟨⟨w.clock⟩⟩ .cartCreated) w₃ = set at hset hkept
      obtain ⟨_ | u', w₄⟩ := set
      · exact ⟨hset, .inr (hs ▸ hkept), fun _ => herror⟩
      · refine leads_pure ⟨hset, .inr (hs ▸ hkept), fun s' hok => ?_⟩
        obtain rfl := Except.ok.inj hok
        exact ⟨hs.symm, hkept⟩

theorem dispatched_createCart {payload : CreateCartPayload}
    (hvalid : validateCartCommand (.createCart { payload with tenantId := some t }) = []) :
    env.dispatched runner t (.createCart payload) none w =
      let done := (createCart { payload with tenantId := some t }).run.run env.handle w
      (done.1.mapError .runner, done.2) := by
  have hdispatch : dispatchCartCommand runner (.createCart { payload with tenantId := some t })
      none = createCart { payload with tenantId := some t } := by
    unfold dispatchCartCommand failIf
    rw [if_neg (not_not.mpr hvalid)]
    rfl
  dsimp only
  rw [← hdispatch]
  rfl

theorem Grounded.blank (h : Grounded w) : w.events.Blank ⟨⟨w.clock⟩⟩ := by
  by_contra hblank
  exact Nat.lt_irrefl _ (h.drawn _ hblank)

/-- The first command of a handler. -/
theorem forTenant_createCart (h : Grounded w) (payload : CreateCartPayload) (env : Env)
    (runner : Runner) (t : String) :
    let done := env.forTenant runner t (.createCart payload) none w
    OnlyAt ⟨⟨w.clock⟩⟩ w.events done.2.events ∧
      (∀ s, done.2.events.getCartSnapshot ⟨⟨w.clock⟩⟩ = some s →
        s = { payload with tenantId := some t }.cart ⟨⟨w.clock⟩⟩) ∧
      ∀ s, done.1 = .ok s → s = { payload with tenantId := some t }.cart ⟨⟨w.clock⟩⟩ ∧
        done.2.events.getCartSnapshot ⟨⟨w.clock⟩⟩ = some s := by
  intro done
  have hnone : w.events.getCartSnapshot ⟨⟨w.clock⟩⟩ = none := congrArg (·.2.1) h.blank
  have hdone : done = env.dispatched runner t (.createCart payload) none w :=
    forTenant_unchecked rfl
  rw [hdone]
  by_cases hvalid : validateCartCommand (.createCart { payload with tenantId := some t }) = []
  · rw [dispatched_createCart hvalid]
    have hleads : (createCart { payload with tenantId := some t }).run.Leads env.handle w []
        fun r w' _ => CreatedEmpty w { payload with tenantId := some t } r w' :=
      createCart_empty { payload with tenantId := some t }
    obtain ⟨honly, hsnapshot, hanswered⟩ := hleads
    refine ⟨honly, fun s hs => ?_, fun s hok => hanswered s (mapError_eq_ok.mp hok)⟩
    rcases hsnapshot with hsame | hput
    · cases (hsame.trans hnone).symm.trans hs
    · exact Option.some.inj (hs.symm.trans hput)
  · have hinvalid : env.dispatched runner t (.createCart payload) none w =
        (.error (.runner (.validation (validateCartCommand (.createCart
          { payload with tenantId := some t })))), w) := dispatched_invalid hvalid
    rw [hinvalid]
    refine ⟨onlyAt_refl, fun s hs => ?_, fun s hok => ?_⟩
    · cases hnone.symm.trans hs
    · cases hok

end Create

/-! ## The lines -/

section Fill

variable {env : Env} {runner : Runner} {w : World} {t : String} {c : CartId} {s : CartProjection}
  {cmd : CartCommand} {commands : List CartCommand} {lineItems : List CartLineRequest} {A : Answers}
  {before after : OrderLines}

theorem onLines_of_mem_addItemCommands : ∀ cmd ∈ addItemCommands lineItems, cmd.onLines := by
  intro cmd hcmd
  obtain ⟨line, -, rfl⟩ := List.mem_map.mp hcmd
  rfl

/-- Additions, one after the other: a line for each entry. -/
theorem LineSteps.fills (h : LineSteps A (addItemCommands lineItems) before after) :
    ∃ added, after = before ++ added ∧ List.Forall₂ (AddedFor A) lineItems added := by
  induction lineItems generalizing before with
  | nil => exact ⟨[], by simpa [addItemCommands, LineSteps] using h, .nil⟩
  | cons line lineItems ih =>
      obtain ⟨lines, hstep, hrest⟩ := h
      cases hstep with
      | added payload item lineId _ hitem _ =>
          obtain ⟨added, hafter, hadded⟩ := ih hrest
          refine ⟨(lineId, item.id, line.quantity) :: added, ?_,
            .cons ⟨rfl, item, hitem, rfl⟩ hadded⟩
          rw [hafter, List.append_assoc]
          rfl

/-- What a change of the lines leaves as it was. -/
structure Framed (c : CartId) (w w' : World) (s s' : CartProjection) : Prop where
  only : OnlyAt c w.events w'.events
  identity : s'.identity = s.identity
  status : s'.status = s.status
  version : s.version ≤ s'.version

theorem Framed.trans {w' w'' : World} {s' s'' : CartProjection} (h : Framed c w w' s s')
    (h' : Framed c w' w'' s' s'') : Framed c w w'' s s'' where
  only c' hc := (h'.only c' hc).trans (h.only c' hc)
  identity := h'.identity.trans h.identity
  status := h'.status.trans h.status
  version := h.version.trans h'.version

theorem Edited.status (h : Edited A runner (.cart cmd (some c)) s s') (hcmd : cmd.onLines) :
    s'.status = s.status := by
  cases h with
  | added _ _ _ _ _ _ hr | requantified _ _ _ hr | removed _ _ hr => exact hr.keeps.status
  | adjusted | selected | readied | cancelled => cases hcmd

theorem Stands.command_framed (h : Stands w c s) (env : Env) (runner : Runner) (t : String)
    (hcmd : cmd.onLines) :
    ∃ s', (env.forTenant runner t cmd (some c) w).2.events.getCartSnapshot c = some s' ∧
      Framed c w (env.forTenant runner t cmd (some c) w).2 s s' := by
  by_cases hrefuses : Refuses env t w c
  · rw [forTenant_refused (a := c) rfl hrefuses]
    exact ⟨s, h.stored, onlyAt_refl, rfl, rfl, le_rfl⟩
  · rw [forTenant_passed (a := c) rfl hrefuses]
    have htenant : cmd.withTenant t = cmd := by
      cases cmd <;> first | rfl | cases hcmd
    have hafter : (env.dispatched runner t cmd (some c) w.tick).2 =
        (Call.cart cmd (some c)).after env runner w.tick := by
      rw [Call.after, (Call.cart_turn env runner cmd (some c) w.tick).1, Env.dispatched, htenant]
    have htarget : (Call.cart cmd (some c)).target = some c := by
      cases cmd <;> first | rfl | cases hcmd
    have hcreates : (Call.cart cmd (some c)).creates = false := by
      cases cmd <;> first | rfl | cases hcmd
    obtain ⟨s', hs', hedit⟩ := h.tick.grounded.edits env runner (.cart cmd (some c)) h.tick.stored
    have honly : OnlyAt c w.events ((Call.cart cmd (some c)).after env runner w.tick).events := by
      intro c' hc
      have hne : (Call.cart cmd (some c)).target ≠ some c' :=
        fun he => hc (Option.some.inj (he.symm.trans htarget))
      refine (h.tick.grounded.others env runner _ hne).resolve_right fun hblank => ?_
      cases hcreates.symm.trans hblank.1
    rw [hafter]
    refine ⟨s', hs', ?_⟩
    rcases hedit with rfl | hedit
    · exact ⟨honly, rfl, rfl, le_rfl⟩
    · exact ⟨honly, hedit.identity, hedit.status hcmd, hedit.advances.1⟩

theorem Stands.carryOut_framed (h : Stands w c s) (env : Env) (runner : Runner) (t : String)
    (hcmds : ∀ cmd ∈ commands, cmd.onLines) :
    ∃ s', (Orchestrator.carryOut env runner t c commands s w).2.events.getCartSnapshot c = some s' ∧
      Framed c w (Orchestrator.carryOut env runner t c commands s w).2 s s' := by
  induction commands generalizing s w with
  | nil => exact ⟨s, h.stored, onlyAt_refl, rfl, rfl, le_rfl⟩
  | cons cmd commands ih =>
      have hcmd := hcmds cmd List.mem_cons_self
      obtain ⟨s₁, hs₁, hok, -⟩ := h.command env runner t hcmd
      obtain ⟨s₂, hs₂, hframed⟩ := h.command_framed env runner t hcmd
      rw [Orchestrator.carryOut]
      generalize env.forTenant runner t cmd (some c) w = done at hs₁ hok hs₂ hframed
      obtain ⟨r, w₁⟩ := done
      cases r with
      | error e => exact ⟨s₂, hs₂, hframed⟩
      | ok p =>
          obtain ⟨rfl, -⟩ := hok p rfl
          obtain rfl := Option.some.inj (hs₁.stored.symm.trans hs₂)
          obtain ⟨s', hs', hframed'⟩ := ih hs₁ fun cmd' hm => hcmds cmd' (List.mem_cons_of_mem _ hm)
          exact ⟨s', hs', hframed.trans hframed'⟩

end Fill

/-! ## To checkout -/

section Start

variable {env : Env} {runner : Runner} {w : World} {t : String} {c : CartId} {s : CartProjection}
  {cmd : CartCommand} {commands : List CartCommand}

/-- The cart's state machine is where a creation or a finished addition leaves it. -/
def AtRest (w : World) (c : CartId) : Prop :=
  w.events.getCartState c = some .cartCreated ∨ w.events.getCartState c = some .geoChecked

theorem AtRest.next (h : AtRest w c) :
    w.events.next c .markCheckoutReady = some .checkoutReady := by
  rcases h with h | h
  · exact InMemoryEventStore.next_some h
  · exact InMemoryEventStore.next_some h

theorem AtRest.command (h : AtRest w c) (hs : env.StoresAnswer) (runner : Runner) (t : String)
    (hcmd : cmd.onLines) {p : CartProjection}
    (hok : (env.forTenant runner t cmd (some c) w).1 = .ok p) :
    AtRest (env.forTenant runner t cmd (some c) w).2 c := by
  by_cases hrefuses : Refuses env t w c
  · rw [forTenant_refused (a := c) rfl hrefuses] at hok
    cases hok
  · rw [forTenant_passed (a := c) rfl hrefuses] at hok ⊢
    have htenant : cmd.withTenant t = cmd := by
      cases cmd <;> first | rfl | cases hcmd
    have hends := dispatched_ending hs runner w.tick cmd (some c)
    have hevents : (env.dispatched runner t cmd (some c) w.tick).2 =
        (Orchestrator.dispatched env runner cmd (some c) w.tick).2 := by
      rw [Env.dispatched, htenant]
    have hanswer : (Orchestrator.dispatched env runner cmd (some c) w.tick).1 = .ok p := by
      rw [Env.dispatched, htenant] at hok
      exact mapError_eq_ok.mp hok
    rw [hevents]
    rw [hanswer] at hends
    generalize refusedOn env runner cmd (some c) w.tick = rs at hends
    generalize (Orchestrator.dispatched env runner cmd (some c) w.tick).2 = w' at hends
    generalize hE : w'.events = E at hends
    unfold AtRest
    rw [hE]
    cases hends with
    | unmoved => exact h
    | changed _ _ c' s₀ s₁ s₂ entry quiets hrecalculates _ _ hlogged _ =>
        obtain rfl := Option.some.inj hrecalculates.target
        exact .inr hlogged.walked.state
    | created | selected | readied | cancelled => cases hcmd

theorem AtRest.carryOut (h : AtRest w c) (hs : env.StoresAnswer) (runner : Runner) (t : String)
    (hcmds : ∀ cmd ∈ commands, cmd.onLines) {p : CartProjection}
    (hok : (carryOut env runner t c commands s w).1 = .ok p) :
    AtRest (carryOut env runner t c commands s w).2 c := by
  induction commands generalizing s w with
  | nil => exact h
  | cons cmd commands ih =>
      have hstep := fun p => h.command hs runner t (hcmds cmd List.mem_cons_self) (p := p)
      rw [Orchestrator.carryOut] at hok ⊢
      generalize env.forTenant runner t cmd (some c) w = done at hok hstep ⊢
      obtain ⟨r, w₁⟩ := done
      cases r with
      | error e => cases hok
      | ok p₁ => exact ih (hstep p₁ rfl) (fun cmd' hm => hcmds cmd' (List.mem_cons_of_mem _ hm)) hok

/-- The last command of the UCP checkout. -/
theorem Stands.started (h : Stands w c s) (env : Env) (runner : Runner) (t : String) (n : Nat) :
    let done := env.forTenant runner t (.startCheckout ⟨c, n⟩) (some c) w
    OnlyAt c w.events done.2.events ∧
      ∃ s', done.2.events.getCartSnapshot c = some s' ∧
        (s' = s ∨ s' = s.setStatus .checkoutReady) ∧
        ∀ p, done.1 = .ok p → p = s' ∧ s' = s.setStatus .checkoutReady := by
  intro done
  by_cases hrefuses : Refuses env t w c
  · have hdone : done = (.error (.authz .tenantMismatch), w.tick) :=
      forTenant_refused (a := c) rfl hrefuses
    rw [hdone]
    exact ⟨onlyAt_refl, s, h.stored, .inl rfl, fun _ hok => by cases hok⟩
  · have hdone : done = env.dispatched runner t (.startCheckout ⟨c, n⟩) (some c) w.tick :=
      forTenant_passed (a := c) rfl hrefuses
    have hafter :
        done.2 = (Call.cart (.startCheckout ⟨c, n⟩) (some c)).after env runner w.tick := by
      rw [hdone, Call.after, (Call.cart_turn env runner (.startCheckout ⟨c, n⟩) (some c) w.tick).1]
      rfl
    have hanswer : done.1 =
        (Orchestrator.dispatched env runner (.startCheckout ⟨c, n⟩) (some c) w.tick).1.mapError
          .runner := by
      rw [hdone]
      rfl
    have honly : OnlyAt c w.events done.2.events := by
      intro c' hc
      rw [hafter]
      have hne : (Call.cart (.startCheckout ⟨c, n⟩) (some c)).target ≠ some c' :=
        fun he => hc (Option.some.inj he).symm
      refine (h.tick.grounded.others env runner _ hne).resolve_right fun hblank => ?_
      cases hblank.1
    have hedited {s' : CartProjection} (he : Edited (Answered env w.tick) runner
        (.cart (.startCheckout ⟨c, n⟩) (some c)) s s') : s' = s.setStatus .checkoutReady := by
      cases he
      rfl
    obtain ⟨s', hs', hedit⟩ := h.tick.grounded.edits env runner
      (.cart (.startCheckout ⟨c, n⟩) (some c)) h.tick.stored
    refine ⟨honly, s', hafter ▸ hs', hedit.imp id hedited, fun p hok => ?_⟩
    obtain ⟨hstored, hedit⟩ := h.tick.grounded.returned h.tick.stored rfl (by simp)
      (mapError_eq_ok.mp (hanswer.symm.trans hok))
    obtain rfl := Option.some.inj (hs'.symm.trans hstored)
    exact ⟨rfl, hedited hedit⟩

/-- With stores that answer it is not refused. -/
theorem Stands.starts (h : Stands w c s) (hs : env.StoresAnswer) (htenant : s.tenantId = some t)
    (hversion : 1 ≤ s.version) (hrest : AtRest w c) (runner : Runner) :
    ∃ p, (env.forTenant runner t (.startCheckout ⟨c, s.version⟩) (some c) w).1 = .ok p := by
  have hpasses : ¬ Refuses env t w c := by
    rintro ⟨s', hread, hne⟩
    obtain rfl := Option.some.inj (h.stored.symm.trans (World.read_some hread))
    exact hne htenant
  rw [forTenant_passed (a := c) rfl hpasses]
  have hends := dispatched_ending hs runner w.tick (.startCheckout ⟨c, s.version⟩) (some c)
  have hvalid : validateCartCommand (.startCheckout ⟨c, s.version⟩) = [] := by
    simp [validateCartCommand, complainIf]
    omega
  have hnext : w.tick.events.next c .markCheckoutReady = some .checkoutReady := hrest.next
  suffices hmade : ∃ p,
      (Orchestrator.dispatched env runner (.startCheckout ⟨c, s.version⟩) (some c) w.tick).1 =
        .ok p by
    obtain ⟨p, hp⟩ := hmade
    exact ⟨p, mapError_eq_ok.mpr hp⟩
  generalize (Orchestrator.dispatched env runner (.startCheckout ⟨c, s.version⟩) (some c)
    w.tick).1 = r at hends ⊢
  generalize refusedOn env runner (.startCheckout ⟨c, s.version⟩) (some c) w.tick = rs at hends
  generalize (Orchestrator.dispatched env runner (.startCheckout ⟨c, s.version⟩) (some c)
    w.tick).2.events = E at hends
  cases hends with
  | unmoved _ _ _ _ hno => exact absurd ⟨hvalid, s, h.stored, rfl⟩ hno
  | readied _ _ _ _ hdeclared =>
      cases hdeclared with
      | barred e hno => exact absurd rfl (hno s h.stored)
      | stuck e s' _ _ hstuck => cases hstuck.symm.trans hnext
      | made s' st => exact ⟨_, rfl⟩
  | changed _ _ _ _ _ _ _ _ hrecalculates | refused _ _ _ _ _ _ _ _ _ hrecalculates =>
      cases hrecalculates.recalculates

end Start

/-! ## Creations -/

section Creations

variable {w : World} {t : String} {payload : CreateCartPayload} {lineItems : List CartLineRequest}

/-- How far a handler has come: it has created the cart `s`, with the lines of the entries. -/
structure Filled (env : Env) (w : World) (payload : CreateCartPayload) (t : String)
    (lineItems : List CartLineRequest) (w' : World) (s : CartProjection) : Prop where
  stands : Stands w' ⟨⟨w.clock⟩⟩ s
  only : OnlyAt ⟨⟨w.clock⟩⟩ w.events w'.events
  identity : s.identity = (⟨⟨w.clock⟩⟩, some t, payload.merchantId, payload.currency)
  status : s.status = .draft
  version : 1 ≤ s.version
  lines : Lists env.answers lineItems s.orderLines

theorem lists_empty {A : Answers} : Lists A [] [] := ⟨.nil, List.nodup_nil⟩

/-- With stores that answer a creation is refused before it writes or not at all. -/
theorem createCart_rests {env : Env} (hs : env.StoresAnswer) (runner : Runner) (t : String)
    (payload : CreateCartPayload) (w : World) :
    let done := env.forTenant runner t (.createCart payload) none w
    (∀ e, done.1 = .error e → done.2 = w) ∧ ∀ s, done.1 = .ok s → AtRest done.2 ⟨⟨w.clock⟩⟩ := by
  intro done
  have hdone : done = env.dispatched runner t (.createCart payload) none w :=
    forTenant_unchecked rfl
  rw [hdone]
  by_cases hvalid : validateCartCommand (.createCart { payload with tenantId := some t }) = []
  · rw [dispatched_createCart hvalid]
    obtain ⟨hanswer, hevents⟩ := createCart_creates (w := w) (l := []) hs
      { payload with tenantId := some t }
    dsimp only
    refine ⟨fun e he => ?_, fun s _ => .inl ?_⟩
    · rw [hanswer] at he
      cases he
    · rw [hevents]
      exact AList.lookup_insert _
  · have hinvalid : env.dispatched runner t (.createCart payload) none w =
        (.error (.runner (.validation (validateCartCommand (.createCart
          { payload with tenantId := some t })))), w) := dispatched_invalid hvalid
    rw [hinvalid]
    exact ⟨fun _ _ => rfl, fun s hok => by cases hok⟩

theorem addItemCommands_split {done rest : List CartCommand} {failed : CartCommand}
    (h : addItemCommands lineItems = done ++ failed :: rest) :
    ∃ n line, lineItems[n]? = some line ∧ failed = line.addition ∧
      done = addItemCommands (lineItems.take n) ∧
      done ++ [failed] = addItemCommands (lineItems.take (n + 1)) := by
  obtain ⟨before, rest', rfl, hdone, hrest⟩ := List.map_eq_append_iff.mp h
  obtain ⟨line, after, rfl, hfailed, -⟩ := List.map_eq_cons_iff.mp hrest
  subst hdone
  refine ⟨before.length, line, by simp, hfailed.symm, ?_, ?_⟩
  · rw [List.take_left']
    · rfl
    · rfl
  · rw [List.take_length_add_append, ← hfailed]
    simp [addItemCommands]

/-- What the lines and the frame say of a cart that was created empty. -/
theorem Framed.filled {env : Env} {w₁ w₂ : World} {s : CartProjection} {c : CartId}
    (hc : c = ⟨⟨w.clock⟩⟩) (honly : OnlyAt c w.events w₁.events)
    (hframed : Framed c w₁ w₂ ({ payload with tenantId := some t }.cart c) s)
    (hstands : Stands w₂ c s)
    (hlines : LineSteps env.answers (addItemCommands lineItems) [] s.orderLines) :
    Filled env w payload t lineItems w₂ s := by
  subst hc
  obtain ⟨added, hadded, hforall⟩ := hlines.fills
  have hall : s.orderLines = added := hadded
  refine ⟨hstands, fun c' hc => (hframed.only c' hc).trans (honly c' hc), hframed.identity,
    hframed.status, hframed.version, hall ▸ hforall, ?_⟩
  rw [ids_orderLines]
  exact (hstands.numbered _ s hstands.stored).nodup

/-- **What creating and filling leaves.** -/
theorem createAndFill_fills (hgrounded : Grounded w) (hnumbered : LinesNumbered w) (env : Env)
    (runner : Runner) (t : String) (payload : CreateCartPayload)
    (lineItems : List CartLineRequest) :
    let done := createAndFill env runner t payload lineItems w
    (∀ c s, done.1 = .ok (c, s) → c = ⟨⟨w.clock⟩⟩ ∧ Filled env w payload t lineItems done.2 s ∧
      (env.StoresAnswer → AtRest done.2 c)) ∧
    ∀ e, done.1 = .error e → OnlyAt ⟨⟨w.clock⟩⟩ w.events done.2.events ∧
      (∀ s, done.2.events.getCartSnapshot ⟨⟨w.clock⟩⟩ = some s →
        ∃ n, Filled env w payload t (lineItems.take n) done.2 s) ∧
      (env.StoresAnswer → done.2.events = w.events ∨ ∃ n s line v,
        Filled env w payload t (lineItems.take n) done.2 s ∧ lineItems[n]? = some line ∧
        (env.forTenant runner t line.addition (some ⟨⟨w.clock⟩⟩) v).1 = .error e) := by
  obtain ⟨honly, hsnapshot, hanswered⟩ := forTenant_createCart hgrounded payload env runner t
  have hrests := fun hs : env.StoresAnswer => createCart_rests hs runner t payload w
  have hafter : (env.forTenant runner t (.createCart payload) none w).2 =
      (Call.cart (.createCart { payload with tenantId := some t }) none).after env runner w := by
    rw [forTenant_unchecked rfl, Call.after, (Call.cart_turn env runner _ none w).1]
    rfl
  have hgrounded₁ : Grounded (env.forTenant runner t (.createCart payload) none w).2 :=
    hafter ▸ hgrounded.after _
  have hnumbered₁ : LinesNumbered (env.forTenant runner t (.createCart payload) none w).2 :=
    hafter ▸ hnumbered.after _
  rw [createAndFill]
  generalize env.forTenant runner t (.createCart payload) none w = created at *
  obtain ⟨r, w₁⟩ := created
  have hempty {s : CartProjection} (hs : w₁.events.getCartSnapshot ⟨⟨w.clock⟩⟩ = some s) :
      Filled env w payload t [] w₁ s := by
    obtain rfl := hsnapshot s hs
    exact Framed.filled rfl honly ⟨onlyAt_refl, rfl, rfl, le_rfl⟩ ⟨hgrounded₁, hnumbered₁, hs⟩ rfl
  cases r with
  | error e =>
      refine ⟨fun c s hok => (by cases hok), fun e' _ => ⟨honly, fun s hs => ⟨0, hempty hs⟩, ?_⟩⟩
      exact fun hs => .inl (congrArg World.events ((hrests hs).1 e rfl))
  | ok p =>
      obtain ⟨hp, hstored⟩ := hanswered p rfl
      have hid : p.cartId = ⟨⟨w.clock⟩⟩ := hp ▸ rfl
      have hstands : Stands w₁ ⟨⟨w.clock⟩⟩ p := ⟨hgrounded₁, hnumbered₁, hstored⟩
      have honLines : ∀ cmd ∈ addItemCommands lineItems, cmd.onLines :=
        onLines_of_mem_addItemCommands
      obtain ⟨s', hs', hok, herror⟩ := hstands.carryOut env runner t honLines
      obtain ⟨s'', hs'', hframed⟩ := hstands.carryOut_framed env runner t honLines
      obtain rfl := Option.some.inj (hs'.stored.symm.trans hs'')
      have hrest := fun (hs : env.StoresAnswer) s => AtRest.carryOut (s := p)
        ((hrests hs).2 p rfl) hs runner t honLines (p := s)
      dsimp only
      rw [hid]
      subst hp
      generalize carryOut env runner t ⟨⟨w.clock⟩⟩ (addItemCommands lineItems) _ w₁ = filled at *
      obtain ⟨r, w₂⟩ := filled
      cases r with
      | ok s =>
          refine ⟨fun c s₁ hdone => ?_, fun e he => (by cases he)⟩
          obtain ⟨rfl, rfl⟩ := Prod.mk.inj (Except.ok.inj hdone)
          obtain ⟨rfl, hlines⟩ := hok s rfl
          exact ⟨rfl, hframed.filled rfl honly hs' hlines, fun hs => hrest hs s rfl⟩
      | error e =>
          refine ⟨fun c s hdone => (by cases hdone), fun e' he => ?_⟩
          obtain rfl := Except.error.inj he
          obtain ⟨carried, failed, hstopped⟩ := herror e rfl
          obtain ⟨rest, hsplit⟩ := hstopped.stopped
          obtain ⟨n, line, hline, rfl, rfl, hnext⟩ := addItemCommands_split hsplit
          have hlines := hstopped.lines
          rw [hnext] at hlines
          refine ⟨fun c' hc => (hframed.only c' hc).trans (honly c' hc), fun s hs => ?_,
            fun hs => ?_⟩
          · obtain rfl := Option.some.inj (hs'.stored.symm.trans hs)
            rcases hlines with hlines | hlines
            · exact ⟨n, hframed.filled rfl honly hs' hlines⟩
            · exact ⟨n + 1, hframed.filled rfl honly hs' hlines⟩
          · obtain ⟨p, v, -, hrefused⟩ := hstopped.refused
            exact .inr ⟨n, s', line, v, hframed.filled rfl honly hs' (hstopped.kept hs), hline,
              hrefused⟩

variable {env : Env} {runner : Runner} {w' : World} {s : CartProjection}

/-- How a call ends: with the cart asked for, or with a part of it that the answer does not
name. -/
structure ExactOrPartway (env : Env) (runner : Runner) (request : CartCreation) (w : World)
    (done : Except ApiError CartProjection × World) : Prop where
  only : OnlyAt ⟨⟨w.clock⟩⟩ w.events done.2.events
  answered : ∀ s, done.1 = .ok s → CreatedFor request w done.2 ⟨⟨w.clock⟩⟩ s ∧
    Lists env.answers request.lineItems s.orderLines ∧ s.status = request.status
  partway : ∀ e, done.1 = .error e → ∀ s, done.2.events.getCartSnapshot ⟨⟨w.clock⟩⟩ = some s →
    CreatedFor request w done.2 ⟨⟨w.clock⟩⟩ s ∧
      ∃ n, Lists env.answers (request.lineItems.take n) s.orderLines
  refused : ∀ e, done.1 = .error e → env.StoresAnswer → done.2.events = w.events ∨
    ∃ n s, CreatedFor request w done.2 ⟨⟨w.clock⟩⟩ s ∧ s.status = .draft ∧
      Lists env.answers (request.lineItems.take n) s.orderLines ∧
      RefusedAt env runner request ⟨⟨w.clock⟩⟩ n e

/-- A call that is refused before the cart is created. -/
theorem exactOrPartway_early {request : CartCreation} (hgrounded : Grounded w) (e : ApiError) :
    ExactOrPartway env runner request w (.error e, w) where
  only := onlyAt_refl
  answered := fun s hok => by cases hok
  partway := fun e he s hs => by
    cases hs.symm.trans (congrArg (·.2.1) hgrounded.blank)
  refused := fun _ _ _ => .inl rfl

theorem Filled.createdFor {lineItems : List CartLineRequest} (request : CartCreation)
    (h : Filled env w payload request.tenantId lineItems w' s) (hgrounded : Grounded w)
    (hmerchant : request.merchantId = some payload.merchantId)
    (hcurrency : request.currency = payload.currency) :
    CreatedFor request w w' ⟨⟨w.clock⟩⟩ s := by
  obtain ⟨hid, htenant, hmerchantId, hcurrency'⟩ :
      s.cartId = ⟨⟨w.clock⟩⟩ ∧ s.tenantId = some request.tenantId ∧
        s.merchantId = payload.merchantId ∧ s.currency = payload.currency := by
    have hidentity := h.identity
    simpa [CartProjection.identity] using hidentity
  exact ⟨hgrounded.blank, h.stands.stored, hid, htenant, hmerchant.trans (hmerchantId ▸ rfl),
    hcurrency'.trans hcurrency.symm⟩

/-- A call that ends while the cart is created and filled. -/
theorem exactOrPartway_filling (request : CartCreation) (hgrounded : Grounded w)
    (hnumbered : LinesNumbered w) (hmerchant : request.merchantId = some payload.merchantId)
    (hcurrency : request.currency = payload.currency) {refusal : FacadeError}
    (hdone : createAndFill env runner request.tenantId payload request.lineItems w =
      (.error refusal, w')) :
    ExactOrPartway env runner request w (.error (.orchestrator refusal), w') := by
  obtain ⟨-, herror⟩ := createAndFill_fills hgrounded hnumbered env runner request.tenantId
    payload request.lineItems
  rw [hdone] at herror
  obtain ⟨honly, hleft, hrefused⟩ := herror refusal rfl
  refine ⟨honly, fun s hs => (by cases hs), fun e _ s hs => ?_, fun e he hs => ?_⟩
  · obtain ⟨n, hfilled⟩ := hleft s hs
    exact ⟨hfilled.createdFor request hgrounded hmerchant hcurrency, n, hfilled.lines⟩
  · refine (hrefused hs).imp id fun hpart => ?_
    obtain ⟨n, s, line, v, hfilled, hline, hrefusal⟩ := hpart
    exact ⟨n, s, hfilled.createdFor request hgrounded hmerchant hcurrency, hfilled.status,
      hfilled.lines, line, v, refusal, hline, hrefusal, (Except.error.inj he).symm⟩

/-- A handler that creates the cart and fills it. -/
theorem createOnly_ends (request : CartCreation) (hgrounded : Grounded w)
    (hnumbered : LinesNumbered w) (hmerchant : request.merchantId = some payload.merchantId)
    (hcurrency : request.currency = payload.currency) (hstatus : request.status = .draft) :
    ExactOrPartway env runner request w
      (createOnly env runner request.tenantId payload request.lineItems w) := by
  obtain ⟨hok, -⟩ := createAndFill_fills hgrounded hnumbered env runner request.tenantId
    payload request.lineItems
  rw [createOnly]
  generalize hdone : createAndFill env runner request.tenantId payload request.lineItems w = done
    at hok ⊢
  obtain ⟨r, w'⟩ := done
  cases r with
  | error refusal =>
      exact exactOrPartway_filling request hgrounded hnumbered hmerchant hcurrency hdone
  | ok made =>
      obtain ⟨c, s⟩ := made
      obtain ⟨rfl, hfilled, -⟩ := hok c s rfl
      refine ⟨hfilled.only, fun s' hs' => ?_, fun e he => (by cases he), fun e he => (by cases he)⟩
      obtain rfl := Except.ok.inj hs'
      exact ⟨hfilled.createdFor request hgrounded hmerchant hcurrency, hfilled.lines,
        hfilled.status.trans hstatus.symm⟩

/-- The handler that then starts the checkout. -/
theorem ucpCreateCheckout_ends (hgrounded : Grounded w) (hnumbered : LinesNumbered w)
    (auth : AuthContext) (req : UcpCartRequest) :
    ExactOrPartway env runner (.ucpCheckout auth req) w
      (ucpCreateCheckout env runner auth req w) := by
  rw [ucpCreateCheckout]
  cases hmerchantId : req.merchantId with
  | none => exact exactOrPartway_early hgrounded _
  | some merchantId =>
      have hmerchant : (CartCreation.ucpCheckout auth req).merchantId = some merchantId :=
        hmerchantId
      obtain ⟨hok, -⟩ := createAndFill_fills hgrounded hnumbered env runner auth.tenantId
        ⟨merchantId, req.currency, some auth.tenantId⟩ req.lineItems
      dsimp only
      generalize hdone : createAndFill env runner auth.tenantId
        ⟨merchantId, req.currency, some auth.tenantId⟩ req.lineItems w = done at hok ⊢
      obtain ⟨r, w'⟩ := done
      cases r with
      | error refusal =>
          exact exactOrPartway_filling (.ucpCheckout auth req) hgrounded hnumbered hmerchant rfl
            hdone
      | ok made =>
          obtain ⟨c, s⟩ := made
          obtain ⟨rfl, hfilled, hrest⟩ := hok c s rfl
          have hcreated := hfilled.createdFor (.ucpCheckout auth req) hgrounded hmerchant rfl
          obtain ⟨honly, s', hs', hstarted, hanswered⟩ :=
            hfilled.stands.started env runner auth.tenantId s.version
          have hsame : CreatedFor (.ucpCheckout auth req) w
                (env.forTenant runner auth.tenantId (.startCheckout ⟨⟨⟨w.clock⟩⟩, s.version⟩)
                  (some ⟨⟨w.clock⟩⟩) w').2 ⟨⟨w.clock⟩⟩ s' ∧ s'.orderLines = s.orderLines := by
            rcases hstarted with rfl | rfl
            · exact ⟨{ hcreated with stored := hs' }, rfl⟩
            · exact ⟨⟨hcreated.fresh, hs', hcreated.cartId, hcreated.tenantId,
                hcreated.merchantId, hcreated.currency⟩, rfl⟩
          have hlines : Lists env.answers req.lineItems s'.orderLines := hsame.2 ▸ hfilled.lines
          refine ⟨fun c' hc => (honly c' hc).trans (hfilled.only c' hc), fun p hp => ?_,
            fun e _ s₁ hs₁ => ?_, fun e he hs => ?_⟩
          · obtain ⟨rfl, rfl⟩ := hanswered p (mapError_eq_ok.mp hp)
            exact ⟨hsame.1, hlines, rfl⟩
          · obtain rfl := Option.some.inj (hs'.symm.trans hs₁)
            refine ⟨hsame.1, req.lineItems.length, ?_⟩
            rw [CartCreation.lineItems, List.take_length]
            exact hlines
          · obtain ⟨p, hp⟩ := hfilled.stands.starts hs hcreated.tenantId hfilled.version (hrest hs)
              runner
            have he : (env.forTenant runner auth.tenantId (.startCheckout ⟨⟨⟨w.clock⟩⟩, s.version⟩)
              (some ⟨⟨w.clock⟩⟩) w').1.mapError ApiError.orchestrator = .error e := he
            have hp : (env.forTenant runner auth.tenantId
              (.startCheckout ⟨⟨⟨w.clock⟩⟩, s.version⟩) (some ⟨⟨w.clock⟩⟩) w').1 = .ok p := hp
            rw [hp] at he
            cases he

end Creations

/-- **A creation is exact, or stops partway.**  Whatever calls have been made at once before and
whatever the providers and the stores answer, a call of one of the four handlers leaves every
cart that was there as it is.  If it succeeds, its answer is a new cart of the caller's tenant,
stored, with the merchant and the currency asked for and one line for each entry, in order.  If
it fails, what it leaves of the new cart has the lines of the first entries; and with stores that
answer it leaves nothing, or a draft with the lines before the entry that was refused. -/
theorem cart_creation_exact_or_partway (past env : Env) (pastRunner runner : Runner) (w : World)
    (request : CartCreation) (hreached : Reached past pastRunner w) :
    ExactOrPartway env runner request w (request.answer env runner w) := by
  have hgrounded := hreached.grounded
  have hnumbered := hreached.linesNumbered
  cases request with
  | ucpCheckout auth req => exact ucpCreateCheckout_ends hgrounded hnumbered auth req
  | ucpCart auth req =>
      rw [CartCreation.answer, ucpCreateCart]
      cases hmerchantId : req.merchantId with
      | none => exact exactOrPartway_early hgrounded _
      | some merchantId =>
          exact createOnly_ends (.ucpCart auth req) hgrounded hnumbered hmerchantId rfl rfl
  | acpSession auth headers req =>
      rw [CartCreation.answer, acpCreateSession]
      cases checkAcpHeaders headers with
      | error e => exact exactOrPartway_early hgrounded e
      | ok u =>
          exact createOnly_ends (.acpSession auth headers req) hgrounded hnumbered rfl rfl rfl
  | acpCart auth headers req =>
      rw [CartCreation.answer, acpCreateCart]
      cases checkAcpHeaders headers with
      | error e => exact exactOrPartway_early hgrounded e
      | ok u =>
          exact createOnly_ends (.acpCart auth headers req) hgrounded hnumbered rfl rfl rfl

namespace Sample

/-- The second entry asks for none of its item. -/
def wishes : CartCreation :=
  .ucpCheckout agent ⟨some "m", "USD", [⟨none, "sku", 2⟩, ⟨none, "sku", 0⟩]⟩

end Sample

theorem cart_creation_exact_or_partway_wishes :
    (∃ e, (Sample.wishes.answer Env.agreeable Sample.runner Sample.acpWorld).1 = .error e) ∧
      ∃ c s n, CreatedFor Sample.wishes Sample.acpWorld
          (Sample.wishes.answer Env.agreeable Sample.runner Sample.acpWorld).2 c s ∧
        Lists Env.agreeable.answers (Sample.wishes.lineItems.take n) s.orderLines ∧
        s.orderLines.length = 1 := by
  have herror : (Sample.wishes.answer Env.agreeable Sample.runner Sample.acpWorld).1 =
      .error (.orchestrator (.runner (.validation ["quantity must be > 0"]))) := by
    decide +kernel
  have hleft : ∃ s ∈ (Sample.wishes.answer Env.agreeable Sample.runner
      Sample.acpWorld).2.events.getCartSnapshot ⟨⟨Sample.acpWorld.clock⟩⟩,
      s.orderLines.length = 1 := by
    decide +kernel
  obtain ⟨s, hs, hlength⟩ := hleft
  obtain ⟨-, -, hpartway, -⟩ := cart_creation_exact_or_partway Env.agreeable Env.agreeable
    Sample.runner Sample.runner Sample.acpWorld Sample.wishes Sample.acpWorld_reached
  obtain ⟨hcreated, n, hlists⟩ := hpartway _ herror s hs
  exact ⟨⟨_, herror⟩, _, s, n, hcreated, hlists, hlength⟩

end Orchestrator
