/-
# `CommerceOrchestrator.Core.Validation` — schema validation and policy prechecks

`validateCartCommand` and `validateCheckoutRequest` collect every complaint, in
the source's order; a request is valid when there is none.  `PolicyEngine`
judges a checkout request against the total it would be charged.
-/
import CommerceOrchestrator.Core.Contract

namespace Orchestrator

/-! ## Validation -/

/-- The complaint `message`, if `bad`. -/
def complainIf (bad : Bool) (message : String) : List String := if bad then [message] else []

/-- `char::is_whitespace`: the Unicode property `White_Space`. -/
def isWhitespace (c : Char) : Bool :=
  (9 ≤ c.val && c.val ≤ 13) || c.val == 0x20 || c.val == 0x85 || c.val == 0xA0 ||
    c.val == 0x1680 || (0x2000 ≤ c.val && c.val ≤ 0x200A) || c.val == 0x2028 ||
    c.val == 0x2029 || c.val == 0x202F || c.val == 0x205F || c.val == 0x3000

/-- `name.trim().is_empty()`. -/
def isBlank (name : String) : Bool := name.toList.all isWhitespace

/-- The currency check both validators make: `len` counts bytes. -/
def currencyErrors (currency : String) : List String :=
  complainIf (currency.isEmpty || currency.utf8ByteSize != 3) "currency must be 3-letter code"

/-- The errors of `validate_cart_command`; the command is valid when there are none. -/
def validateCartCommand : CartCommand → List String
  | .createCart p =>
      complainIf p.merchantId.isEmpty "merchant_id required" ++ currencyErrors p.currency
  | .addItem p =>
      complainIf p.itemId.isEmpty "item_id required" ++
        complainIf (p.quantity == 0) "quantity must be > 0"
  | .updateItemQty p => complainIf p.lineId.isEmpty "line_id required"
  | .removeItem p => complainIf p.lineId.isEmpty "line_id required"
  | .getCart _ => []
  | .cancelCart _ => []
  | .startCheckout p => complainIf (p.cartVersion == 0) "cart_version must be > 0"
  | .applyAdjustment p => complainIf p.code.isEmpty "adjustment code required"
  | .setFulfillmentSelection p =>
      complainIf p.destination.id.isEmpty "fulfillment destination id required" ++
        match p.destination with
        | .retail _ name _ => complainIf (isBlank name) "retail location name required"
        | .shipping _ _ => []

def validatePaymentIntent (intent : PaymentIntent) : List String :=
  complainIf (intent.amountMinor < 0) "payment amount must be >= 0" ++
  complainIf intent.tokenOrReference.isEmpty "payment token_or_reference required" ++
  complainIf (intent.paymentHandlerId.any (·.isEmpty)) "payment_handler_id cannot be empty" ++
  complainIf (intent.mppMethod.any (·.isEmpty)) "mpp_method cannot be empty" ++
  complainIf (intent.mppIntent.any (·.isEmpty)) "mpp_intent cannot be empty" ++
  if intent.paymentMethodType = some .mpp then
    complainIf intent.mppMethod.isNone "mpp_method required for payment_method_type=mpp" ++
    complainIf intent.mppIntent.isNone "mpp_intent required for payment_method_type=mpp" ++
    complainIf (intent.ap2ConsentProof.isSome || intent.paymentHandlerId.isSome)
      "ap2_consent_proof and payment_handler_id are not allowed for payment_method_type=mpp"
  else []

/-- The errors of `validate_checkout_request`; the request is valid when there are none. -/
def validateCheckoutRequest (req : CheckoutRequest) : List String :=
  complainIf req.tenantId.isEmpty "tenant_id required" ++
  complainIf req.merchantId.isEmpty "merchant_id required" ++
  currencyErrors req.currency ++
  complainIf (req.cartVersion == 0) "cart_version must be > 0" ++
  complainIf req.idempotencyKey.isEmpty "idempotency_key required" ++
  validatePaymentIntent req.paymentIntent

/-! ## Policy -/

structure PolicyEngine where
  maxTotalMinor : Option Int := none
  blockedCountryCodes : List String := []
  requirePaymentReference : Bool := true
deriving DecidableEq, Repr

inductive PolicyCheckResult
  | allowed
  | rejected (errors : List String)
deriving DecidableEq, Repr

/-- `str::eq_ignore_ascii_case`. -/
def eqIgnoreAsciiCase (a b : String) : Bool :=
  a.toList.map Char.toLower == b.toList.map Char.toLower

/-- The errors `check_checkout` collects. -/
def PolicyEngine.checkoutErrors (policy : PolicyEngine) (req : CheckoutRequest)
    (totalMinor : Int) : List String :=
  (match policy.maxTotalMinor with
    | some max =>
        complainIf (totalMinor > max)
          ("total " ++ toString totalMinor ++ " exceeds max allowed " ++ toString max)
    | none => []) ++
  (match req.location.bind LocationHint.countryCode with
    | some cc =>
        complainIf (policy.blockedCountryCodes.any (eqIgnoreAsciiCase · cc))
          ("country " ++ cc ++ " is not allowed")
    | none => []) ++
  complainIf (policy.requirePaymentReference && req.paymentIntent.tokenOrReference.isEmpty)
    "payment token or reference required"

def PolicyEngine.checkCheckout (policy : PolicyEngine) (req : CheckoutRequest)
    (totalMinor : Int) : PolicyCheckResult :=
  match policy.checkoutErrors req totalMinor with
  | [] => .allowed
  | errors => .rejected errors

end Orchestrator
