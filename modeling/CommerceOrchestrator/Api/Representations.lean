/-
# `CommerceOrchestrator.Api.Representations` — carts and results as the transports show them

Five mappings show the money fields of a cart or of a result.  The fields they start from
balance (`Totals`, `AllBalance`), and each mapping leaves something out: the REST cart the
discount and the shipping, the REST result and both ACP documents the shipping, the
`totals[]` of UCP an amount for shipping that is not positive.  What is shown adds up exactly
when what is left out comes to nothing.
-/
import CommerceOrchestrator.Runtime.Breakdowns
import CommerceOrchestrator.Runtime.Fulfillment
import CommerceOrchestrator.Api.Orders

namespace Orchestrator

open Effect

/-! ## Amounts shown -/

/-- The amounts of a breakdown as shown, some of them not. -/
structure ShownTotals where
  subtotal : Int
  tax : Int
  fulfillment : Option Int := none
  discount : Option Int := none
  total : Int
deriving DecidableEq, Repr

/-- What is shown sums to the total shown; what is missing counts as zero. -/
def ShownTotals.AddsUp (shown : ShownTotals) : Prop :=
  shown.subtotal + shown.tax + shown.fulfillment.getD 0 - shown.discount.getD 0 = shown.total

instance {shown : ShownTotals} : Decidable shown.AddsUp :=
  inferInstanceAs (Decidable (_ = _))

/-! ## REST -/

structure CartProjectionDto where
  cartId : String
  version : Nat
  currency : String
  lines : List CartLineProjectionDto
  subtotalMinor : Int
  taxMinor : Int
  totalMinor : Int
  geoOk : Bool
  status : CartStatus
deriving DecidableEq, Repr

def CartProjectionDto.ofCart (p : CartProjection) : CartProjectionDto where
  cartId := p.cartId.uuid.render
  version := p.version
  currency := p.currency
  lines := p.lines.map .ofLine
  subtotalMinor := p.subtotalMinor
  taxMinor := p.taxMinor
  totalMinor := p.totalMinor
  geoOk := p.geoOk
  status := p.status

def CartProjectionDto.shown (dto : CartProjectionDto) : ShownTotals where
  subtotal := dto.subtotalMinor
  tax := dto.taxMinor
  total := dto.totalMinor

structure TransactionResultDto where
  transactionId : String
  status : TransactionStatus
  totalsBreakdown : TotalsBreakdownDto
  paymentReference : Option String
  receiptPayload : Option String
  correlationId : String
  auditTrailId : Option String
  paymentState : PaymentState
  orderId : Option String
deriving DecidableEq, Repr

def TransactionResultDto.ofResult (r : TransactionResult) : TransactionResultDto where
  transactionId := r.transactionId
  status := r.status
  totalsBreakdown :=
    { subtotalMinor := r.totalsBreakdown.subtotalMinor
      taxMinor := r.totalsBreakdown.taxMinor
      discountMinor := r.totalsBreakdown.discountMinor
      totalMinor := r.totalsBreakdown.totalMinor }
  paymentReference := r.paymentReference
  receiptPayload := r.receiptPayload
  correlationId := r.correlationId.render
  auditTrailId := r.auditTrailId
  paymentState := r.paymentState
  orderId := r.orderId

def TransactionResultDto.shown (dto : TransactionResultDto) : ShownTotals where
  subtotal := dto.totalsBreakdown.subtotalMinor
  tax := dto.totalsBreakdown.taxMinor
  discount := some dto.totalsBreakdown.discountMinor
  total := dto.totalsBreakdown.totalMinor

/-! ## UCP -/

/-- The amounts of the entries for which `p` holds of the type. -/
def amountsOf (p : String → Bool) (entries : List UcpTotalDto) : Int :=
  ((entries.filter fun e => p e.totalType).map (·.amount)).sum

/-- The entries sum to the total entry; a discount is listed as a negative amount. -/
def UcpTotalsAddUp (entries : List UcpTotalDto) : Prop :=
  amountsOf (· ≠ "total") entries = amountsOf (· = "total") entries

/-! ## ACP -/

structure AcpSessionLine where
  id : String
  itemId : String
  quantity : Nat
  unitAmount : Int
deriving DecidableEq, Repr

def AcpSessionLine.ofLine (line : CartLineProjection) : AcpSessionLine where
  id := line.lineId
  itemId := line.itemId
  quantity := line.quantity
  unitAmount := line.unitPriceMinor

structure AcpTotals where
  subtotalMinor : Int
  taxMinor : Int
  /-- Already reflected in `totalMinor`. -/
  discountMinor : Int
  totalMinor : Int
deriving DecidableEq, Repr

def AcpTotals.ofCart (projection : CartProjection) : AcpTotals where
  subtotalMinor := projection.subtotalMinor
  taxMinor := projection.taxMinor
  discountMinor := projection.discountMinor
  totalMinor := projection.totalMinor

def AcpTotals.shown (totals : AcpTotals) : ShownTotals where
  subtotal := totals.subtotalMinor
  tax := totals.taxMinor
  discount := some totals.discountMinor
  total := totals.totalMinor

/-- A cart or a checkout session. -/
structure AcpDocument where
  id : String
  status : String
  currency : String
  lineItems : List AcpSessionLine
  totals : AcpTotals
  apiVersion : String
deriving DecidableEq, Repr

def acpApiVersion : String := "2026-04-17"

def projectionToAcpCart (projection : CartProjection) : AcpDocument where
  id := "cart_" ++ projection.cartId.uuid.render
  status :=
    match projection.status with
    | .cancelled => "canceled"
    | _ => "active"
  currency := projection.currency
  lineItems := projection.lines.map .ofLine
  totals := .ofCart projection
  apiVersion := acpApiVersion

def projectionToAcpSession (projection : CartProjection) : AcpDocument where
  id := "cs_" ++ projection.cartId.uuid.render
  status :=
    match projection.status with
    | .checkoutReady => "ready_for_payment"
    | .cancelled => "canceled"
    | .draft => "open"
  currency := projection.currency
  lineItems := projection.lines.map .ofLine
  totals := .ofCart projection
  apiVersion := acpApiVersion

/-! ## What is left out -/

section Shown

variable {totals : TotalsBreakdown}

theorem ucpTotals_total : amountsOf (· = "total") (ucpTotals totals) = totals.totalMinor := by
  unfold ucpTotals amountsOf
  split <;> split <;> simp

theorem ucpTotals_rest :
    amountsOf (· ≠ "total") (ucpTotals totals) =
      totals.subtotalMinor - totals.discountMinor.natAbs + max totals.fulfillmentMinor 0 +
        totals.taxMinor := by
  unfold ucpTotals amountsOf
  by_cases hdiscount : totals.discountMinor = 0
  · by_cases hfulfillment : 0 < totals.fulfillmentMinor
    · simp [hdiscount, hfulfillment]
      omega
    · simp [hdiscount, hfulfillment]
      omega
  · by_cases hfulfillment : 0 < totals.fulfillmentMinor
    · simp [hdiscount, hfulfillment]
      omega
    · simp [hdiscount, hfulfillment]
      omega

/-- The entries of UCP add up unless an amount for shipping is negative. -/
theorem ucpTotals_addUp_iff (h : totals.Balances) :
    UcpTotalsAddUp (ucpTotals totals) ↔ 0 ≤ totals.fulfillmentMinor := by
  have htotal := h.total
  have habs := Int.natAbs_of_nonneg h.discount_nonneg
  rw [UcpTotalsAddUp, ucpTotals_rest, ucpTotals_total, habs]
  omega

/-- Amounts shown without the shipping. -/
theorem without_fulfillment_iff (h : totals.Balances) :
    ShownTotals.AddsUp
        ⟨totals.subtotalMinor, totals.taxMinor, none, some totals.discountMinor, totals.totalMinor⟩ ↔
      totals.fulfillmentMinor = 0 := by
  have htotal := h.total
  simp only [ShownTotals.AddsUp, Option.getD_none, Option.getD_some]
  omega

/-- Amounts shown without the shipping and without the discount. -/
theorem without_adjustments_iff (h : totals.Balances) :
    ShownTotals.AddsUp ⟨totals.subtotalMinor, totals.taxMinor, none, none, totals.totalMinor⟩ ↔
      totals.fulfillmentMinor = totals.discountMinor := by
  have htotal := h.total
  simp only [ShownTotals.AddsUp, Option.getD_none]
  omega

end Shown

/-! ## Reached carts and results -/

/-- A cart that is stored, was put or was returned in the run. -/
inductive Surfaced (run : Pool Op.Ans World Outcome) (s : CartProjection) : Prop
  | stored (c : CartId) : run.world.events.getCartSnapshot c = some s → Surfaced run s
  | put (t : Nat) (x : Except StoreError Unit) : .did t ⟨.putCartSnapshot s, x⟩ ∈ run.log → Surfaced run s
  | returned (t : Nat) (command : CartCommand) (cartId : Option CartId) :
      .returned t (.cart command cartId (.ok s)) ∈ run.log → Surfaced run s

end Orchestrator
