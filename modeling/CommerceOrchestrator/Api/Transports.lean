/-
# `CommerceOrchestrator.Api.Transports` — the ways a checkout arrives

Over REST, UCP and A2A a checkout request comes with the location it states; ACP and MCP
build one without.  Whatever the way, the policy's blocked countries are compared with
that location and not with the destinations of the cart.  `blocked_country_binding_iff`
says for which calls that makes no difference.
-/
import CommerceOrchestrator.Api.Facade
import CommerceOrchestrator.Runtime.Countries

namespace Orchestrator

open Effect Prog

/-! ## On the wire -/

structure CustomerHintDto where
  email : Option String
  fullName : Option String
deriving DecidableEq, Repr

structure LocationHintDto where
  countryCode : Option String
  region : Option String
  postalCode : Option String
  intent : Option String := none
deriving DecidableEq, Repr

structure PaymentIntentDto where
  amountMinor : Int
  tokenOrReference : String
  ap2ConsentProof : Option String
  paymentHandlerId : Option String
  paymentMethodType : Option String := none
  mppMethod : Option String := none
  mppIntent : Option String := none
deriving DecidableEq, Repr

structure CheckoutRequestDto where
  tenantId : String
  merchantId : String
  cartId : String
  cartVersion : Nat
  currency : String
  customer : Option CustomerHintDto
  location : Option LocationHintDto
  paymentIntent : PaymentIntentDto
  idempotencyKey : String
deriving DecidableEq, Repr

/-- The body of `/a2a/checkout`, as far as it is looked at: `none` for a member that is
missing or, for the capability, not a string. -/
structure A2aEnvelope where
  capability : Option String
  /-- What deserializing the payload gives. -/
  payload : Option (Except String CheckoutRequest)

structure AcpBuyer where
  email : Option String
  fullName : Option String
deriving DecidableEq, Repr

structure AcpPaymentData where
  token : String
  amountMinor : Int
  paymentHandlerId : Option String := none
  ap2ConsentProof : Option String := none
  paymentMethodType : Option String := none
  mppMethod : Option String := none
  mppIntent : Option String := none
deriving DecidableEq, Repr

structure AcpCompleteSessionRequest where
  tenantId : String
  merchantId : String
  idempotencyKey : String
  paymentData : AcpPaymentData
  buyer : Option AcpBuyer := none
deriving DecidableEq, Repr

/-- The arguments of the MCP tool: `none` for one that is missing or of another type. -/
structure McpCheckoutArgs where
  tenantId : Option String
  merchantId : Option String
  cartId : Option String
  cartVersion : Option Nat
  currency : Option String
  /-- What deserializing the payment intent gives. -/
  paymentIntent : Option (Except String PaymentIntent)
  idempotencyKey : Option String

/-- A checkout as it is sent, with what the path of its URL says. -/
inductive CheckoutCall
  | rest (dto : CheckoutRequestDto)
  | ucp (id : String) (dto : CheckoutRequestDto)
  /-- `none`: the body is not a JSON object. -/
  | a2a (envelope : Option A2aEnvelope)
  /-- Version and currency are those of the cart, which the handler has just read. -/
  | acp (id : String) (cartVersion : Nat) (currency : String) (req : AcpCompleteSessionRequest)
  | mcp (args : McpCheckoutArgs)

/-! ## Into a request -/

section Mapping

-- `Uuid::from_str`, with the text of its error
variable (parseCartId : String → Except String CartId)

def PaymentMethodType.ofDto : Option String → Except String (Option PaymentMethodType)
  | some "ap2" => .ok (some .ap2)
  | some "mpp" => .ok (some .mpp)
  | some other => .error ("unsupported payment_method_type: " ++ other)
  | none => .ok none

/-- `CheckoutRequest::try_from(dto)`. -/
def CheckoutRequest.ofDto (dto : CheckoutRequestDto) : Except String CheckoutRequest := do
  let cartId ← parseCartId dto.cartId
  let paymentMethodType ← PaymentMethodType.ofDto dto.paymentIntent.paymentMethodType
  return {
    tenantId := dto.tenantId
    merchantId := dto.merchantId
    cartId
    cartVersion := dto.cartVersion
    currency := dto.currency
    customer := dto.customer.map fun c => ⟨c.email, c.fullName⟩
    location := dto.location.map fun l => ⟨l.countryCode, l.region, l.postalCode, l.intent⟩
    paymentIntent := {
      amountMinor := dto.paymentIntent.amountMinor
      tokenOrReference := dto.paymentIntent.tokenOrReference
      ap2ConsentProof := dto.paymentIntent.ap2ConsentProof
      paymentHandlerId := dto.paymentIntent.paymentHandlerId
      paymentMethodType
      mppMethod := dto.paymentIntent.mppMethod
      mppIntent := dto.paymentIntent.mppIntent }
    idempotencyKey := dto.idempotencyKey }

def checkoutCapabilities : List String :=
  ["dev.ucp.shopping.checkout", "checkout", "ucp.shopping.checkout"]

def normalizeA2aCheckoutEnvelope (value : Option A2aEnvelope) : Except String CheckoutRequest := do
  let obj ← value.elim (.error "A2A envelope must be a JSON object") .ok
  let capability ← obj.capability.elim (.error "missing or invalid capability") .ok
  if ¬ checkoutCapabilities.any fun c => c = capability || capability.endsWith ".checkout" then
    throw ("unsupported checkout capability: " ++ capability)
  let payload ← obj.payload.elim (.error "missing payload") .ok
  payload.mapError ("invalid checkout payload: " ++ ·)

def asciiLower (s : String) : String := String.ofList (s.toList.map Char.toLower)

def completeToCheckoutRequest (cartId : CartId) (cartVersion : Nat) (currency : String)
    (req : AcpCompleteSessionRequest) : CheckoutRequest where
  tenantId := req.tenantId
  merchantId := req.merchantId
  cartId
  cartVersion
  currency
  customer := req.buyer.map fun b => ⟨b.email, b.fullName⟩
  location := none
  paymentIntent := {
    amountMinor := req.paymentData.amountMinor
    tokenOrReference := req.paymentData.token
    ap2ConsentProof := req.paymentData.ap2ConsentProof
    paymentHandlerId := req.paymentData.paymentHandlerId
    paymentMethodType := req.paymentData.paymentMethodType.bind fun m =>
      match asciiLower m with
      | "ap2" => some .ap2
      | "mpp" => some .mpp
      | _ => none
    mppMethod := req.paymentData.mppMethod
    mppIntent := req.paymentData.mppIntent }
  idempotencyKey := req.idempotencyKey

/-- `get_str` and `get_u64`. -/
def requiredField {α : Type} (key : String) (field : Option α) : Except String α :=
  field.elim (.error ("missing required field: " ++ key)) .ok

/-- The `execute_checkout` arm of `dispatch_tool`, up to the facade. -/
def McpCheckoutArgs.request (args : McpCheckoutArgs) : Except String CheckoutRequest := do
  let tenantId ← requiredField "tenant_id" args.tenantId
  let merchantId ← requiredField "merchant_id" args.merchantId
  let cartId ← parseCartId (← requiredField "cart_id" args.cartId)
  let cartVersion ← requiredField "cart_version" args.cartVersion
  let currency ← requiredField "currency" args.currency
  let paymentIntent ← args.paymentIntent.elim (.error "missing payment_intent") id
  let idempotencyKey ← requiredField "idempotency_key" args.idempotencyKey
  return {
    tenantId, merchantId, cartId, cartVersion, currency, customer := none, location := none
    paymentIntent, idempotencyKey }

def parseAcpSessionId (id : String) : Except String CartId :=
  (parseCartId (if id.startsWith "cs_" then (id.drop 3).toString else id)).mapError
    ("invalid checkout session id: " ++ ·)

def CheckoutCall.request : CheckoutCall → Except String CheckoutRequest
  | .rest dto => CheckoutRequest.ofDto parseCartId dto
  | .ucp id dto => do
      let cartId ← parseCartId id
      let request ← CheckoutRequest.ofDto parseCartId dto
      return { request with cartId }
  | .a2a envelope => normalizeA2aCheckoutEnvelope envelope
  | .acp id cartVersion currency req => do
      let cartId ← parseAcpSessionId parseCartId id
      return completeToCheckoutRequest cartId cartVersion currency req
  | .mcp args => args.request parseCartId

/-- MCP and ACP send no location. -/
def CheckoutCall.unlocated : CheckoutCall → Bool
  | .acp .. | .mcp .. => true
  | _ => false

/-- A chain of fallible steps that succeeds has succeeded at the first. -/
theorem ok_of_bind_ok {ε α β : Type} {x : Except ε α} {f : α → Except ε β} {b : β}
    (h : (x >>= f) = .ok b) : ∃ a, f a = .ok b := by
  cases x with
  | error e => cases h
  | ok a => exact ⟨a, h⟩

theorem CheckoutCall.request_unlocated {call : CheckoutCall} {request : CheckoutRequest}
    (h : call.request parseCartId = .ok request) (hcall : call.unlocated = true) :
    request.location = none := by
  cases call with
  | acp id cartVersion currency req =>
      obtain ⟨cartId, h⟩ := ok_of_bind_ok h
      cases h
      rfl
  | mcp args =>
      obtain ⟨tenantId, h⟩ := ok_of_bind_ok h
      obtain ⟨merchantId, h⟩ := ok_of_bind_ok h
      obtain ⟨id, h⟩ := ok_of_bind_ok h
      obtain ⟨cartId, h⟩ := ok_of_bind_ok h
      obtain ⟨cartVersion, h⟩ := ok_of_bind_ok h
      obtain ⟨currency, h⟩ := ok_of_bind_ok h
      obtain ⟨paymentIntent, h⟩ := ok_of_bind_ok h
      obtain ⟨idempotencyKey, h⟩ := ok_of_bind_ok h
      cases h
      rfl
  | rest | ucp | a2a => cases hcall

end Mapping

/-! ## To the runner -/

structure AuthContext where
  callerId : String
  tenantId : String
  scopes : List String
deriving DecidableEq, Repr

def authorizeCheckout (context : AuthContext) (request : CheckoutRequest) :
    Except AuthzError Unit :=
  if ¬ context.scopes.any (· = "checkout:execute") then
    .error (.missingScope "checkout:execute")
  else if context.tenantId ≠ request.tenantId then
    .error .tenantMismatch
  else
    .ok ()

inductive CheckoutRefusal
  /-- The call does not map to a request. -/
  | unmapped (message : String)
  | facade (e : FacadeError)

section Calls

variable (parseCartId : String → Except String CartId)

/-- Answer and world of a call: map it, `execute_checkout_authorized`. -/
def CheckoutCall.execute (call : CheckoutCall) (env : Env) (runner : Runner) (auth : AuthContext)
    (w : World) : Except CheckoutRefusal TransactionResult × World :=
  match call.request parseCartId with
  | .error message => (.error (.unmapped message), w)
  | .ok request =>
      match authorizeCheckout auth request with
      | .error e => (.error (.facade (.authz e)), w)
      | .ok () =>
          let done := (executeCheckout runner request).run.run env.handle w
          (done.1.mapError (.facade <| .runner ·), done.2)

/-- A call arrives at the runner as this request: it maps to it and is authorized. -/
structure Arrives (auth : AuthContext) (call : CheckoutCall) (request : CheckoutRequest) :
    Prop where
  mapped : call.request parseCartId = .ok request
  authorized : authorizeCheckout auth request = .ok ()

end Calls

variable {parseCartId : String → Except String CartId} {env : Env} {runner : Runner}
  {auth : AuthContext} {call : CheckoutCall} {request : CheckoutRequest} {w : World}
  {cart : CartProjection} {result : TransactionResult}

theorem Arrives.execute_ok_iff (h : Arrives parseCartId auth call request) :
    (call.execute parseCartId env runner auth w).1 = .ok result ↔
      ((executeCheckout runner request).run.run env.handle w).1 = .ok result := by
  rw [CheckoutCall.execute, h.mapped]
  dsimp only
  rw [h.authorized]
  dsimp only
  cases ((executeCheckout runner request).run.run env.handle w).1 <;> simp [Except.mapError]

/-- For a call that sends no location the list of blocked countries might be empty. -/
theorem Arrives.permits_unlocated_iff {policy : PolicyEngine} {total : Int}
    (h : Arrives parseCartId auth call request) (hcall : call.unlocated = true) :
    policy.Permits request total ↔
      ({ policy with blockedCountryCodes := [] } : PolicyEngine).Permits request total := by
  have hnone := CheckoutCall.request_unlocated parseCartId h.mapped hcall
  constructor
  · intro hp
    exact ⟨hp.total, by simp [hnone], hp.reference⟩
  · intro hp
    exact ⟨hp.total, by simp [hnone], hp.reference⟩

/-- **Blocked countries.**  A call arrives, over whatever transport, for a stored cart:
then a destination in a blocked country keeps it from completing, whatever stores and
providers answer, exactly if there is no such destination or the call does not pass
anyway, be it for the country that it states. -/
theorem blocked_country_binding_iff (parseCartId : String → Except String CartId)
    (runner : Runner) (auth : AuthContext) (call : CheckoutCall) (request : CheckoutRequest)
    (w : World) (cart : CartProjection) (harrives : Arrives parseCartId auth call request)
    (hcart : w.events.getCartSnapshot request.cartId = some cart) :
    (runner.policy.BlocksCart cart → ∀ env result,
        (call.execute parseCartId env runner auth w).1 = .ok result →
        result.status ≠ .completed) ↔
      ¬ runner.policy.BlocksCart cart ∨ ¬ Passes runner w request cart := by
  simp only [harrives.execute_ok_iff]
  rw [← executeCheckout_completes_iff hcart, ← imp_iff_not_or]
  simp only [not_exists, not_and, ne_eq]

namespace Sample

/-- One cart id, whatever its text. -/
def onlyCart (_ : String) : Except String CartId := .ok Sample.cart.cartId

def agent : AuthContext := ⟨"agent", "t", ["checkout:execute"]⟩

/-- Pay for the sample cart over MCP. -/
def mcpCall (cartVersion : Nat) : CheckoutCall :=
  .mcp
    { tenantId := some "t", merchantId := some "m", cartId := some "", currency := some "USD"
      cartVersion := some cartVersion
      paymentIntent := some (.ok { amountMinor := 100, tokenOrReference := "tok" })
      idempotencyKey := some "k" }

def mcpRequest (cartVersion : Nat) : CheckoutRequest :=
  { Sample.request "k" with cartVersion }

theorem mcp_arrives (cartVersion : Nat) :
    Arrives onlyCart agent (mcpCall cartVersion) (mcpRequest cartVersion) :=
  ⟨rfl, rfl⟩

/-- No deliveries to this country. -/
def embargo : Runner := ⟨{ blockedCountryCodes := ["ZZ"] }, false⟩

/-- The sample cart, to be shipped to that country. -/
def embargoed : List Call :=
  Sample.shopping ++
    [.cart (.setFulfillmentSelection
        ⟨.pickup, [], .retail "store" "Store" (some { addressCountry := some "zz" }),
          some "in_store"⟩)
      (some Sample.cart.cartId)]

def embargoedWorld : World := (session Env.agreeable embargo embargoed World.empty).2

theorem embargoed_cart : ∃ cart, embargoedWorld.events.getCartSnapshot Sample.cart.cartId =
    some cart ∧ cart.version = 3 ∧ embargo.policy.BlocksCart cart := by
  have hcart : ∃ cart, embargoedWorld.events.getCartSnapshot Sample.cart.cartId = some cart ∧
      cart.version = 3 ∧ cart.addresses = [{ addressCountry := some "zz" }] := by
    refine ⟨_, rfl, ?_⟩
    decide +kernel
  obtain ⟨cart, hcart, hversion, haddresses⟩ := hcart
  refine ⟨cart, hcart, hversion, ?_⟩
  rw [PolicyEngine.BlocksCart, haddresses]
  exact ⟨_, List.mem_singleton_self _, "zz", rfl, by decide +kernel⟩

end Sample

/-- A cart to be picked up in a blocked country, over MCP: the version is out of date. -/
theorem blocked_country_binding_iff_sample :
    ∃ cart, Sample.embargoedWorld.events.getCartSnapshot (Sample.mcpRequest 2).cartId = some cart ∧
      Sample.embargo.policy.BlocksCart cart ∧ ∀ env result,
        ((Sample.mcpCall 2).execute Sample.onlyCart env Sample.embargo Sample.agent
          Sample.embargoedWorld).1 = .ok result → result.status ≠ .completed := by
  obtain ⟨cart, hcart, hversion, hblocks⟩ := Sample.embargoed_cart
  refine ⟨cart, hcart, hblocks, (blocked_country_binding_iff Sample.onlyCart Sample.embargo
    Sample.agent (Sample.mcpCall 2) (Sample.mcpRequest 2) Sample.embargoedWorld cart
    (Sample.mcp_arrives 2) hcart).mpr (Or.inr fun hpasses => ?_) hblocks⟩
  have hunclaimed :
      Sample.embargoedWorld.idempotency.lookup (.ofRequest (Sample.mcpRequest 2)) = none := by
    decide +kernel
  rcases hpasses.key with ⟨result, hkey, -⟩ | ⟨-, hadmits, -⟩
  · cases hunclaimed.symm.trans hkey
  · exact absurd (hadmits.version.symm.trans hversion) (by decide)

/-- A cart to be picked up in a blocked country is paid for over MCP. -/
theorem blocked_country_completes :
    ¬ ∀ (parseCartId : String → Except String CartId) (runner : Runner) (auth : AuthContext)
        (call : CheckoutCall) (request : CheckoutRequest) (env : Env) (w : World)
        (cart : CartProjection) (result : TransactionResult),
      Arrives parseCartId auth call request → Reachable env runner w →
      w.events.getCartSnapshot request.cartId = some cart → runner.policy.BlocksCart cart →
      (call.execute parseCartId env runner auth w).1 = .ok result →
      result.status ≠ .completed := by
  intro h
  obtain ⟨cart, hcart, -, hblocks⟩ := Sample.embargoed_cart
  have hpaid : ∃ result, ((Sample.mcpCall 3).execute Sample.onlyCart Env.agreeable
      Sample.embargo Sample.agent Sample.embargoedWorld).1 = .ok result ∧
      result.status = .completed := by
    refine ⟨_, rfl, ?_⟩
    decide +kernel
  obtain ⟨result, hok, hcompleted⟩ := hpaid
  exact h Sample.onlyCart Sample.embargo Sample.agent (Sample.mcpCall 3)
    (Sample.mcpRequest 3) Env.agreeable Sample.embargoedWorld cart result (Sample.mcp_arrives 3)
    ⟨Sample.embargoed, rfl⟩ hcart hblocks hok hcompleted

end Orchestrator
