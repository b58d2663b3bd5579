/-
# `CommerceOrchestrator.Api.A2aMessages` — one binding for four routes

`/a2a/cart`, `/a2a/checkout`, `/a2a/orders` and `/a2a/identity/link` each take an envelope of a
capability and a payload.  `SendMessage` takes any of them and reads from the envelope which
operation it is for: an identity capability first, then an order id, then a command, and a
checkout if there is none of these.  `message_agrees` says for which envelopes that is the
operation whose route takes them.
-/
import CommerceOrchestrator.Api.CartCommands
import CommerceOrchestrator.Api.Orders
import CommerceOrchestrator.Api.Transports

namespace Orchestrator.A2a

open Effect Text Json

/-! ## Payloads -/

structure IdentityLinkRequest where
  tenantId : String
  merchantId : String
  agentId : String
  linkToken : String
  userReference : Option String := none
deriving DecidableEq, Repr

structure IdentityLinkResult where
  ucpVersion : String
  supportedVersions : List String
  linkId : String
  status : String
deriving DecidableEq, Repr

section Payloads

-- `Uuid::from_str`, with the text of its error
variable (parseCartId : String → Except String CartId)

/-- A field that has to be there. -/
def required {α : Type} (read : Json → Option α) (v : Option Json) : Option α := v.bind read

def IdentityLinkRequest.ofJson (v : Json) : Option IdentityLinkRequest := do
  let [tenantId, merchantId, agentId, linkToken, userReference] ←
    fieldsOf ["tenant_id", "merchant_id", "agent_id", "link_token", "user_reference"] 4 v | none
  return {
    tenantId := ← required asStr tenantId
    merchantId := ← required asStr merchantId
    agentId := ← required asStr agentId
    linkToken := ← required asStr linkToken
    userReference := ← optional asStr userReference }

def customerHint (v : Json) : Option CustomerHint := do
  let [email, fullName] ← fieldsOf ["email", "full_name"] 2 v | none
  return ⟨← optional asStr email, ← optional asStr fullName⟩

def locationHint (v : Json) : Option LocationHint := do
  let [countryCode, region, postalCode, intent] ←
    fieldsOf ["country_code", "region", "postal_code", "intent"] 3 v | none
  return {
    countryCode := ← optional asStr countryCode
    region := ← optional asStr region
    postalCode := ← optional asStr postalCode
    intent := ← optional asStr intent }

/-- A variant is its name, or a map from its name to nothing. -/
def paymentMethodType (v : Json) : Option PaymentMethodType :=
  let variant : String → Option PaymentMethodType
    | "ap2" => some .ap2
    | "mpp" => some .mpp
    | _ => none
  match v with
  | .string name => variant name
  | .object ((name, _) :: members) =>
      if members.all (·.1 = name) then
        match v.get name with
        | some .null => variant name
        | _ => none
      else none
  | _ => none

def paymentIntent (v : Json) : Option PaymentIntent := do
  let [amountMinor, tokenOrReference, ap2ConsentProof, paymentHandlerId, methodType, mppMethod,
      mppIntent] ←
    fieldsOf ["amount_minor", "token_or_reference", "ap2_consent_proof", "payment_handler_id",
      "payment_method_type", "mpp_method", "mpp_intent"] 4 v | none
  return {
    amountMinor := ← required asI64 amountMinor
    tokenOrReference := ← required asStr tokenOrReference
    ap2ConsentProof := ← optional asStr ap2ConsentProof
    paymentHandlerId := ← optional asStr paymentHandlerId
    paymentMethodType := ← optional paymentMethodType methodType
    mppMethod := ← optional asStr mppMethod
    mppIntent := ← optional asStr mppIntent }

def cartIdOf (v : Json) : Option CartId := v.asStr.bind fun s => (parseCartId s).toOption

def checkoutRequest (v : Json) : Option CheckoutRequest := do
  let [tenantId, merchantId, cartId, cartVersion, currency, customer, location, intent,
      idempotencyKey] ←
    fieldsOf ["tenant_id", "merchant_id", "cart_id", "cart_version", "currency", "customer",
      "location", "payment_intent", "idempotency_key"] 9 v | none
  return {
    tenantId := ← required asStr tenantId
    merchantId := ← required asStr merchantId
    cartId := ← required (cartIdOf parseCartId) cartId
    cartVersion := ← required asU64 cartVersion
    currency := ← required asStr currency
    customer := ← optional customerHint customer
    location := ← optional locationHint location
    paymentIntent := ← required paymentIntent intent
    idempotencyKey := ← required asStr idempotencyKey }

end Payloads

/-! ## Envelopes -/

/-- The member of an envelope that names its capability. -/
def capabilityOf (envelope : Json) : Option String := (envelope.get "capability").bind asStr

/-- A member of the payload. -/
def payloadMember (envelope : Json) (key : String) : Option Json :=
  (envelope.get "payload").bind (·.get key)

def identityLinkingCapabilities : List String :=
  ["dev.ucp.common.identity_linking", "dev.ucp.identity.linking", "dev.ucp.identity.link",
    "identity.linking", "identity_linking"]

/-- Whether the capability is listed or its name has one of two words in it. -/
def identityCapable (capability : String) : Bool :=
  identityLinkingCapabilities.contains capability ||
    ["identity", "link"].any fun word => word.toList <:+: capability.toList

section Envelopes

-- `Uuid::from_str`, and why a payload is no record of a type, each with the text of its error
variable (parseCartId : String → Except String CartId) (reason : String → Json → String)

/-- The parts of a checkout envelope that its normalisation looks at. -/
def checkoutEnvelope : Json → Option A2aEnvelope
  | value@(.object _) => some {
      capability := capabilityOf value
      payload := (value.get "payload").map fun payload =>
        (checkoutRequest parseCartId payload).elim (.error (reason "CheckoutRequest" payload)) .ok }
  | _ => none

def normalizeA2aIdentityLinkEnvelope (value : Json) : Except String IdentityLinkRequest := do
  let .object _ := value | throw "A2A envelope must be a JSON object"
  let capability ← (capabilityOf value).elim (.error "missing or invalid capability") .ok
  if ¬ identityCapable capability then
    throw ("unsupported identity linking capability: " ++ capability)
  let payload ← (value.get "payload").elim (.error "missing payload") .ok
  (IdentityLinkRequest.ofJson payload).elim
    (.error ("invalid identity payload: " ++ reason "IdentityLinkRequest" payload)) .ok

/-- The order an envelope asks for. -/
def orderIdOf (body : Json) : Except ApiError String :=
  ((payloadMember body "order_id").bind asStr).elim
    (.error (.badRequest "payload.order_id is required")) .ok

end Envelopes

/-! ## Operations -/

/-- What an envelope can be for. -/
inductive Skill
  | identityLinking
  | orderLookup
  | cart
  | checkout
deriving DecidableEq, Repr

/-- What the operations do behind the routes: the methods of the facade, whatever they are. -/
structure Backend (W : Type) where
  linkIdentity : IdentityLinkRequest → W → Except ApiError IdentityLinkResult × W
  getOrder : String → W → Except ApiError (Option OrderRecord) × W
  dispatchCartCommandForTenant :
    String → CartCommand → Option CartId → W → Except ApiError CartProjection × W
  executeCheckoutAuthorized :
    AuthContext → CheckoutRequest → W → Except ApiError TransactionResult × W

/-- What an operation answers, before it is rendered. -/
inductive Reply
  | identityLink (result : IdentityLinkResult)
  | order (capability : String) (result : OrderRecord)
  | cart (projection : CartProjection)
  | checkout (result : TransactionResult)

section Operations

variable (parseCartId : String → Except String CartId) (reason : String → Json → String)

variable {W : Type} (facade : Backend W) (auth : AuthContext)

/-- The tenant of a link is the one that authenticated. -/
def runA2aIdentityLink (body : Json) (w : W) : Except ApiError Reply × W :=
  match normalizeA2aIdentityLinkEnvelope reason body with
  | .error message => (.error (.badRequest message), w)
  | .ok request =>
      if ¬ isBlank request.tenantId ∧ request.tenantId ≠ auth.tenantId then
        (.error (.forbidden "tenant mismatch"), w)
      else
        let done := facade.linkIdentity { request with tenantId := auth.tenantId } w
        (done.1.map .identityLink, done.2)

def runA2aOrderQuery (body : Json) (w : W) : Except ApiError Reply × W :=
  match orderIdOf body with
  | .error e => (.error e, w)
  | .ok orderId =>
      let found := facade.getOrder orderId w
      (found.1.bind fun order =>
        match order with
        | none => .error (.notFound "order not found")
        | some order =>
            if auth.tenantId ≠ order.tenantId then .error (.forbidden "tenant mismatch")
            else .ok (.order "dev.ucp.order.query" order),
        found.2)

def runA2aCart (body : Json) (w : W) : Except ApiError Reply × W :=
  match normalizeA2aCartEnvelope parseCartId body with
  | .error message => (.error (.badRequest message), w)
  | .ok (cmd, cartId) =>
      let done := facade.dispatchCartCommandForTenant auth.tenantId cmd cartId w
      (done.1.map .cart, done.2)

def runA2aCheckout (body : Json) (w : W) : Except ApiError Reply × W :=
  match normalizeA2aCheckoutEnvelope (checkoutEnvelope parseCartId reason body) with
  | .error message => (.error (.badRequest message), w)
  | .ok request =>
      let done := facade.executeCheckoutAuthorized auth request w
      (done.1.map .checkout, done.2)

/-- What the route of an operation answers to an envelope. -/
def Skill.run : Skill → Json → W → Except ApiError Reply × W
  | .identityLinking => runA2aIdentityLink reason facade auth
  | .orderLookup => runA2aOrderQuery facade auth
  | .cart => runA2aCart parseCartId facade auth
  | .checkout => runA2aCheckout parseCartId reason facade auth

/-- The route of an operation takes the envelope: it does not refuse it for what it says. -/
def Skill.accepts : Skill → Json → Bool
  | .identityLinking, envelope => (normalizeA2aIdentityLinkEnvelope reason envelope).isOk
  | .orderLookup, envelope => (orderIdOf envelope).isOk
  | .cart, envelope => (normalizeA2aCartEnvelope parseCartId envelope).isOk
  | .checkout, envelope =>
      (normalizeA2aCheckoutEnvelope (checkoutEnvelope parseCartId reason envelope)).isOk

/-! ## Messages -/

def identityCapabilities : List String :=
  ["dev.ucp.identity.linking", "dev.ucp.common.identity_linking"]

/-- Which operation an envelope asks for. -/
def skillFor (envelope : Json) : Skill :=
  let capability := (capabilityOf envelope).getD ""
  if identityCapabilities.contains capability then .identityLinking
  else if (payloadMember envelope "order_id").isSome then .orderLookup
  else if (payloadMember envelope "command").isSome then .cart
  else .checkout

inductive MessageRefusal
  | invalidParams (message : String)
  | taskNotFound (taskId : String)
deriving DecidableEq, Repr

/-- The envelope in a message: the first of its parts whose data is an object. -/
def messageEnvelope (request : Json) : Except MessageRefusal Json := do
  let message := (request.get "message").getD .null
  if (((message.get "messageId").bind asStr).getD "").isEmpty then
    throw (.invalidParams "message.messageId is required")
  if (message.get "role").bind asStr ≠ some "ROLE_USER" then
    throw (.invalidParams "message.role must be ROLE_USER")
  match (message.get "taskId").bind asStr with
  | some taskId => throw (.taskNotFound taskId)
  | none =>
      let parts := ((message.get "parts").bind asArray).getD []
      let data := parts.findSome? fun part =>
        match part.get "data" with
        | some (.object members) => some (.object members)
        | _ => none
      data.elim (.error (.invalidParams
        "message.parts must include a DataPart carrying \x7bcapability, payload\x7d")) .ok

inductive MessageOutcome
  | refused (refusal : MessageRefusal)
  /-- The message that answers continues the context it names, or a new one. -/
  | replied (contextId : Option String) (data : Reply)
  | failed (e : ApiError)

/-- The answer to a message, made from what the operation answers. -/
def MessageOutcome.of (request : Json) : Except ApiError Reply → MessageOutcome
  | .ok data =>
      .replied ((((request.get "message").getD .null).get "contextId").bind asStr) data
  | .error e => .failed e

def sendMessage (request : Json) (w : W) : MessageOutcome × W :=
  match messageEnvelope request with
  | .error refusal => (.refused refusal, w)
  | .ok envelope =>
      let done := (skillFor envelope).run parseCartId reason facade auth envelope w
      (.of request done.1, done.2)

end Operations

/-! ## Agreement -/

/-- The envelope has one of the capabilities that the binding reads as identity linking. -/
def Links (envelope : Json) : Prop :=
  ∃ c ∈ identityCapabilities, capabilityOf envelope = some c

instance {envelope : Json} : Decidable (Links envelope) :=
  inferInstanceAs (Decidable (∃ c ∈ identityCapabilities, _ = some c))

/-- The binding finds another operation's mark before it comes to this one. -/
def ReadFirst : Skill → Json → Prop
  | .identityLinking, _ => False
  | .orderLookup, envelope => Links envelope
  | .cart, envelope => (payloadMember envelope "order_id").isSome
  | .checkout, envelope =>
      (payloadMember envelope "order_id").isSome ∨ (payloadMember envelope "command").isSome

section Agreement

variable {parseCartId : String → Except String CartId} {reason : String → Json → String}
  {envelope : Json}

theorem isOk_iff {ε α : Type} {x : Except ε α} : x.isOk = true ↔ ∃ a, x = .ok a := by
  cases x <;> simp [Except.isOk, Except.toBool]

/-- An order query names an order. -/
theorem orderLookup_accepts (h : Skill.orderLookup.accepts parseCartId reason envelope) :
    (payloadMember envelope "order_id").isSome := by
  obtain ⟨id, hid⟩ := isOk_iff.mp h
  obtain ⟨v, hv, -⟩ := Option.bind_eq_some_iff.mp (elim_eq_ok.mp hid)
  exact Option.isSome_iff_exists.mpr ⟨v, hv⟩

/-- A cart envelope has a command and the capability for it. -/
theorem cart_accepts (h : Skill.cart.accepts parseCartId reason envelope) :
    (payloadMember envelope "command").isSome ∧
      ∃ c, capabilityOf envelope = some c ∧ cartCapable c := by
  obtain ⟨read, hread⟩ := isOk_iff.mp h
  unfold normalizeA2aCartEnvelope at hread
  split at hread
  · obtain ⟨capability, hcapability, hread⟩ := bind_eq_ok.mp hread
    split at hread
    · cases hread
    · next hcapable =>
        obtain ⟨payload, hpayload, hread⟩ := bind_eq_ok.mp hread
        obtain ⟨cartId, -, hread⟩ := bind_eq_ok.mp hread
        obtain ⟨command, hcommand, -⟩ := bind_eq_ok.mp hread
        refine ⟨?_, capability, elim_eq_ok.mp hcapability, not_not.mp hcapable⟩
        rw [payloadMember, elim_eq_ok.mp hpayload, Option.bind_some, elim_eq_ok.mp hcommand]
        rfl
  · cases hread

/-- A checkout envelope has the capability for it. -/
theorem checkout_accepts (h : Skill.checkout.accepts parseCartId reason envelope) :
    ∃ c, capabilityOf envelope = some c ∧
      checkoutCapabilities.any fun c' => c' = c || c.endsWith ".checkout" := by
  obtain ⟨request, hrequest⟩ := isOk_iff.mp h
  unfold normalizeA2aCheckoutEnvelope at hrequest
  obtain ⟨parts, hparts, hrequest⟩ := bind_eq_ok.mp hrequest
  obtain ⟨capability, hcapability, hrequest⟩ := bind_eq_ok.mp hrequest
  have hsame : parts.capability = capabilityOf envelope := by
    have hparts := elim_eq_ok.mp hparts
    unfold checkoutEnvelope at hparts
    split at hparts
    · cases hparts
      rfl
    · cases hparts
  split at hrequest
  · cases hrequest
  · next hcapable =>
      exact ⟨capability, hsame ▸ elim_eq_ok.mp hcapability, not_not.mp hcapable⟩

/-- What is for a cart is not for identity linking. -/
theorem not_links_of_cart (h : Skill.cart.accepts parseCartId reason envelope) :
    ¬ Links envelope := by
  obtain ⟨-, c, hc, hcapable⟩ := cart_accepts h
  rintro ⟨c', hc', hlinks⟩
  obtain rfl := Option.some.inj (hc.symm.trans hlinks)
  have hnone : ∀ c ∈ identityCapabilities, cartCapable c = false := by decide +kernel
  exact Bool.false_ne_true ((hnone c hc').symm.trans hcapable)

/-- Nor is what is for a checkout. -/
theorem not_links_of_checkout (h : Skill.checkout.accepts parseCartId reason envelope) :
    ¬ Links envelope := by
  obtain ⟨c, hc, hcapable⟩ := checkout_accepts h
  rintro ⟨c', hc', hlinks⟩
  obtain rfl := Option.some.inj (hc.symm.trans hlinks)
  have hnone : ∀ c ∈ identityCapabilities,
      (checkoutCapabilities.any fun c' => c' = c || c.endsWith ".checkout") = false := by
    decide +kernel
  exact Bool.false_ne_true ((hnone c hc').symm.trans hcapable)

theorem contains_iff_links :
    identityCapabilities.contains ((capabilityOf envelope).getD "") ↔ Links envelope := by
  rw [List.contains_iff_mem]
  cases hc : capabilityOf envelope with
  | none => simp [Links, hc, identityCapabilities]
  | some c => simp [Links, hc]

/-- What the binding reads, in its order. -/
theorem skillFor_of_links (h : Links envelope) : skillFor envelope = .identityLinking :=
  if_pos (contains_iff_links.mpr h)

theorem skillFor_of_not_links (h : ¬ Links envelope) :
    skillFor envelope =
      if (payloadMember envelope "order_id").isSome then .orderLookup
      else if (payloadMember envelope "command").isSome then .cart
      else .checkout :=
  if_neg fun hc => h (contains_iff_links.mp hc)

/-- **Routing.**  An envelope that a route takes is sent to it exactly if nothing that is read
before its mark is there. -/
theorem skillFor_eq_iff {op : Skill} (haccepts : op.accepts parseCartId reason envelope)
    (hlinks : op = .identityLinking → Links envelope) :
    skillFor envelope = op ↔ ¬ ReadFirst op envelope := by
  cases op with
  | identityLinking => exact iff_of_true (skillFor_of_links (hlinks rfl)) id
  | orderLookup =>
      by_cases hl : Links envelope
      · rw [skillFor_of_links hl]
        exact iff_of_false (fun h => by cases h) (not_not.mpr hl)
      · rw [skillFor_of_not_links hl, if_pos (orderLookup_accepts haccepts)]
        exact iff_of_true rfl hl
  | cart =>
      rw [skillFor_of_not_links (not_links_of_cart haccepts), if_pos (cart_accepts haccepts).1]
      by_cases horder : (payloadMember envelope "order_id").isSome
      · rw [if_pos horder]
        exact iff_of_false (fun h => by cases h) (not_not.mpr horder)
      · rw [if_neg horder]
        exact iff_of_true rfl horder
  | checkout =>
      rw [skillFor_of_not_links (not_links_of_checkout haccepts)]
      by_cases horder : (payloadMember envelope "order_id").isSome
      · rw [if_pos horder]
        exact iff_of_false (fun h => by cases h) (not_not.mpr (Or.inl horder))
      · rw [if_neg horder]
        by_cases hcommand : (payloadMember envelope "command").isSome
        · rw [if_pos hcommand]
          exact iff_of_false (fun h => by cases h) (not_not.mpr (Or.inr hcommand))
        · rw [if_neg hcommand]
          exact iff_of_true rfl (not_or.mpr ⟨horder, hcommand⟩)

end Agreement

/-- **A message and the route agree.**  An envelope that the route of an operation takes, an
identity link under a capability that the binding reads as one, is for that operation exactly
if nothing that the binding reads first is there; and then a message that carries it is
answered with what the route answers, whatever the operations do. -/
theorem message_agrees (parseCartId : String → Except String CartId)
    (reason : String → Json → String) {W : Type} (facade : Backend W) (auth : AuthContext)
    (request envelope : Json) (op : Skill) (w : W)
    (hmessage : messageEnvelope request = .ok envelope)
    (haccepts : op.accepts parseCartId reason envelope)
    (hlinks : op = .identityLinking → Links envelope) :
    (skillFor envelope = op ↔ ¬ ReadFirst op envelope) ∧
    (¬ ReadFirst op envelope →
      sendMessage parseCartId reason facade auth request w =
        (.of request (op.run parseCartId reason facade auth envelope w).1,
          (op.run parseCartId reason facade auth envelope w).2)) := by
  have hskill := skillFor_eq_iff haccepts hlinks
  refine ⟨hskill, fun hfirst => ?_⟩
  rw [sendMessage, hmessage]
  show (MessageOutcome.of request ((skillFor envelope).run _ _ _ _ envelope w).1, _) = _
  rw [hskill.mpr hfirst]

namespace Sample

/-- One cart id, whatever its text, and one reason. -/
def parse (_ : String) : Except String CartId := .ok Orchestrator.Sample.cart.cartId

def noRecord (_ : String) (_ : Json) : String := "invalid type"

/-- Nothing but orders is offered. -/
def orders : Backend World where
  linkIdentity _ w := (.error .internal, w)
  getOrder id w := (.ok (w.orders.get id), w)
  dispatchCartCommandForTenant _ _ _ w := (.error .internal, w)
  executeCheckoutAuthorized _ _ w := (.error .internal, w)

def envelope (capability : String) (payload : List (String × Json)) : Json :=
  .object [("capability", .string capability), ("payload", .object payload)]

def message (envelope : Json) : Json :=
  .object [("message", .object
    [("messageId", .string "m_1"), ("role", .string "ROLE_USER"),
      ("parts", .array [.object [("data", envelope)]])])]

def lookup : Json := envelope "dev.ucp.order.query" [("order_id", .string "ord_1")]

/-- The operations whose routes take the envelope. -/
def takers (envelope : Json) : List Skill :=
  [Skill.identityLinking, .orderLookup, .cart, .checkout].filter
    (·.accepts parse noRecord envelope)

/-- A command beside an order id that is none. -/
def commanded : Json :=
  envelope "cart" [("order_id", .null),
    ("command", .object [("kind", .string "remove_item"), ("line_id", .string "li_1")])]

/-- An order id under a capability for identity linking. -/
def ordered : Json := envelope "dev.ucp.identity.linking" [("order_id", .string "ord_1")]

/-- A checkout beside a command that is none. -/
def paid : Json :=
  envelope "dev.ucp.shopping.checkout"
    [("tenant_id", .string "t"), ("merchant_id", .string "m"), ("cart_id", .string "c"),
      ("cart_version", .number (.posInt 1)), ("currency", .string "USD"),
      ("payment_intent", .object [("amount_minor", .number (.posInt 100)),
        ("token_or_reference", .string "tok")]),
      ("idempotency_key", .string "k"), ("command", .null)]

/-- An identity link under a capability that only its route lists. -/
def linked : Json :=
  envelope "dev.ucp.identity.link"
    [("tenant_id", .string "t"), ("merchant_id", .string "m"), ("agent_id", .string "a"),
      ("link_token", .string "tok")]

end Sample

theorem message_agrees_sample :
    skillFor Sample.lookup = .orderLookup ∧
    sendMessage Sample.parse Sample.noRecord Sample.orders Orchestrator.Sample.agent
        (Sample.message Sample.lookup) World.empty =
      (.failed (.notFound "order not found"), World.empty) := by
  have hagrees := message_agrees Sample.parse Sample.noRecord Sample.orders
    Orchestrator.Sample.agent (Sample.message Sample.lookup) Sample.lookup .orderLookup
    World.empty rfl (by decide +kernel) (fun h => by cases h)
  have hfirst : ¬ ReadFirst .orderLookup Sample.lookup := by
    unfold ReadFirst
    decide +kernel
  exact ⟨hagrees.1.mpr hfirst, hagrees.2 hfirst⟩

/-- Envelopes that one route takes and the binding sends to another operation. -/
theorem sent_elsewhere :
    (Sample.takers Sample.commanded = [.cart] ∧ skillFor Sample.commanded = .orderLookup) ∧
    (Sample.takers Sample.ordered = [.orderLookup] ∧
      skillFor Sample.ordered = .identityLinking) ∧
    (Sample.takers Sample.paid = [.checkout] ∧ skillFor Sample.paid = .cart) ∧
    (Sample.takers Sample.linked = [.identityLinking] ∧ skillFor Sample.linked = .checkout) := by
  decide +kernel

end Orchestrator.A2a
