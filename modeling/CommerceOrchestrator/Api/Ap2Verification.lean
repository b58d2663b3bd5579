/-
# `CommerceOrchestrator.Api.Ap2Verification` — the consent proof of a checkout

In strict mode a checkout has to carry a consent proof: a closed mandate, perhaps
under an open one, that names its issuer, its payment handler and its expiry.
Each mandate is checked against a clock reading of its own, taken after its other
fields have passed.  How a proof is read from its JSON text is left to the
facade that checks it.
-/
import CommerceOrchestrator.Api.Facade
import CommerceOrchestrator.Effect.Monitor
import Mathlib.Data.List.DropRight

namespace Orchestrator

open Effect Prog

/-! ## What a checkout asks of the outside -/

/-- The operations of a checkout behind the mandate gate: those of the gate, and the
runner's own. -/
inductive GateOp
  -- SystemTime::now and Utc::now, in seconds
  | unixNow
  -- record_mandate in memory, under its lock
  | recordMandate (mandateId : String) (expiresAt : Int)
  -- DELETE FROM mandate_dedupe WHERE expires_at <= now
  | deleteExpired (now : Int)
  -- INSERT INTO mandate_dedupe ON CONFLICT DO NOTHING
  | insertMandate (mandateId : String) (expiresAt : Int)
  | runner (o : Op)

/-- An insert returns the number of rows it affected. -/
abbrev GateOp.Ans : GateOp → Type
  | .unixNow => Int
  | .recordMandate _ _ => Except StoreError Bool
  | .deleteExpired _ => Except StoreError Unit
  | .insertMandate _ _ => Except StoreError Nat
  | .runner o => o.Ans

/-! ## Mandates -/

/-- A mandate that authorizes other mandates, given while the human was present. -/
structure OpenMandate where
  vct : String
  issuer : String
  subject : String
  mandateId : String
  issuedAt : Int
  expiresAt : Int
  signature : String
  cnf : Option String
  maxAmountMinor : Option Int
  currency : Option String
deriving DecidableEq, Repr

structure ConsentProof where
  vct : Option String
  issuer : String
  subject : String
  mandateId : String
  paymentHandlerId : String
  issuedAt : Int
  expiresAt : Int
  signature : String
  openMandate : Option OpenMandate
  maxAmountMinor : Option Int
  currency : Option String
deriving DecidableEq, Repr

structure Ap2MandateRecord where
  mandateId : String
  expiresAt : Int
deriving DecidableEq, Repr

/-! ## Verification -/

/-- `str::trim`. -/
def trim (s : String) : String :=
  String.ofList ((s.toList.dropWhile isWhitespace).rdropWhile isWhitespace)

abbrev Verify := ExceptT Ap2VerificationError (Prog GateOp.Ans)

/-- `if bad { return Err(Ap2VerificationError(message)) }`. -/
def refuseIf (bad : Prop) [Decidable bad] (message : String) : Verify Unit :=
  if bad then throw ⟨message⟩ else pure ()

def nowUnixTimestamp : Verify Int := do
  let now : Int ← ExceptT.lift (perform GateOp.unixNow)
  refuseIf (now < 0) "AP2 strict mode: system clock is invalid"
  return now

def isSupportedClosedVct (vct : String) : Bool :=
  vct = "mandate.payment.1" || vct = "mandate.checkout.1" || vct = "mandate.checkout.closed.1"

def isSupportedOpenVct (vct : String) : Bool :=
  vct = "mandate.checkout.open.1" || vct = "mandate.payment.open.1" || vct = "mandate.payment.open"

def validatePartyFields (issuer subject mandateId signature paymentHandlerId : String)
    (issuedAt expiresAt : Int) (trustedIssuers : List String) : Verify Unit := do
  refuseIf (isBlank issuer) "AP2 strict mode: consent proof issuer is required"
  refuseIf (trustedIssuers ≠ [] ∧ ¬ trustedIssuers.any (eqIgnoreAsciiCase · (trim issuer)))
    ("AP2 strict mode: consent proof issuer '" ++ issuer ++ "' is not trusted")
  refuseIf (isBlank subject) "AP2 strict mode: consent proof subject is required"
  refuseIf (isBlank mandateId) "AP2 strict mode: consent proof mandate_id is required"
  refuseIf (isBlank signature) "AP2 strict mode: consent proof signature is required"
  refuseIf (isBlank paymentHandlerId)
    "AP2 strict mode: consent proof payment_handler_id is required"
  refuseIf (issuedAt ≤ 0) "AP2 strict mode: consent proof issued_at must be a unix timestamp"
  refuseIf (expiresAt ≤ issuedAt)
    "AP2 strict mode: consent proof expires_at must be after issued_at"
  let now ← nowUnixTimestamp
  refuseIf (expiresAt ≤ now) "AP2 strict mode: consent proof has expired"

def i64Max : Int := 9223372036854775807

def validateOpenMandate (opened : OpenMandate) (closed : ConsentProof) (request : CheckoutRequest)
    (trustedIssuers : List String) : Verify Unit := do
  refuseIf (¬ isSupportedOpenVct opened.vct)
    ("AP2 strict mode: unsupported open mandate vct '" ++ opened.vct ++ "'")
  refuseIf (isBlank (opened.cnf.getD ""))
    "AP2 strict mode: open mandate cnf (agent key binding) is required for HNP"
  validatePartyFields opened.issuer opened.subject opened.mandateId opened.signature
    closed.paymentHandlerId opened.issuedAt opened.expiresAt trustedIssuers
  let max := (opened.maxAmountMinor.or closed.maxAmountMinor).getD i64Max
  refuseIf (request.paymentIntent.amountMinor > max)
    "AP2 strict mode: closed mandate amount exceeds open mandate max_amount_minor"
  refuseIf ((opened.currency.or closed.currency).any (!eqIgnoreAsciiCase · request.currency))
    "AP2 strict mode: open mandate currency constraint not satisfied"

namespace ConsentProof

variable (proof : ConsentProof) (request : CheckoutRequest) (trustedIssuers : List String)

/-- An open mandate at the top has to carry a closed one. -/
def validateVct : Verify Unit :=
  match proof.vct with
  | none => pure ()
  | some vct => do
      refuseIf (¬ isSupportedClosedVct vct ∧ ¬ isSupportedOpenVct vct)
        ("AP2 strict mode: unsupported mandate vct '" ++ vct ++ "'")
      refuseIf (isSupportedOpenVct vct ∧ proof.openMandate.isNone)
        "AP2 strict mode: open mandate alone cannot authorize checkout; closed mandate required"

/-- The amount ceiling, or the open mandate that sets it. -/
def validateLimit : Verify Unit :=
  match proof.openMandate with
  | some opened => validateOpenMandate opened proof request trustedIssuers
  | none =>
      refuseIf (proof.maxAmountMinor.any (request.paymentIntent.amountMinor > ·))
        "AP2 strict mode: payment amount exceeds mandate max_amount_minor"

def validate : Verify Unit := do
  proof.validateVct
  validatePartyFields proof.issuer proof.subject proof.mandateId proof.signature
    proof.paymentHandlerId proof.issuedAt proof.expiresAt trustedIssuers
  refuseIf (proof.paymentHandlerId ≠ request.paymentIntent.paymentHandlerId.getD "")
    "AP2 strict mode: consent proof payment_handler_id must match request payment_handler_id"
  proof.validateLimit request trustedIssuers
  refuseIf (proof.currency.any (!eqIgnoreAsciiCase · request.currency))
    "AP2 strict mode: mandate currency does not match checkout currency"

end ConsentProof

end Orchestrator
