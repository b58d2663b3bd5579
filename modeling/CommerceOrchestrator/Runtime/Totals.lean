/-
# `CommerceOrchestrator.Runtime.Totals` — the money fields of a snapshot

Each command recomputes some of the money fields and copies the others.  What
holds between them (`Totals`) is kept by every edit, so it holds of every
snapshot a run stores or returns, whatever the providers answer.
-/
import CommerceOrchestrator.Runtime.Interleaving
import Mathlib.Algebra.Order.BigOperators.Group.List

namespace Orchestrator

open Effect

/-! ## Discounts -/

/-- Amounts that are not negative saturate at most once. -/
theorem foldl_saturatingAdd {xs : List Int} (hxs : ∀ x ∈ xs, 0 ≤ x) {acc : Int} (hacc : 0 ≤ acc)
    (hmax : acc ≤ 2 ^ 63 - 1) : xs.foldl saturatingAdd acc = min (acc + xs.sum) (2 ^ 63 - 1) := by
  induction xs generalizing acc with
  | nil => simpa using hmax
  | cons x xs ih =>
      obtain ⟨hx, hxs⟩ := List.forall_mem_cons.mp hxs
      have hsum : 0 ≤ xs.sum := List.sum_nonneg hxs
      have hlow : 0 ≤ saturatingAdd acc x := by
        unfold saturatingAdd
        omega
      have hhigh : saturatingAdd acc x ≤ 2 ^ 63 - 1 := by
        unfold saturatingAdd
        omega
      rw [List.foldl_cons, ih hxs hlow hhigh, List.sum_cons]
      unfold saturatingAdd
      omega

/-- What a set of discounts asks for, negative amounts counting as nothing. -/
def requestedMinor (discounts : List AppliedDiscount) : Int :=
  (discounts.map fun d => max d.amountMinor 0).sum

theorem requestedMinor_nonneg (discounts : List AppliedDiscount) :
    0 ≤ requestedMinor discounts := by
  refine List.sum_nonneg fun x hx => ?_
  obtain ⟨d, -, rfl⟩ := List.mem_map.mp hx
  exact le_max_right _ _

/-- The discount is what is asked for, up to what is owed. -/
theorem totalDiscountMinor_eq (discounts : List AppliedDiscount) (owed : Int) :
    totalDiscountMinor discounts owed =
      min (min (requestedMinor discounts) (2 ^ 63 - 1)) (max owed 0) := by
  have hamounts : ∀ x ∈ discounts.map fun d => max d.amountMinor 0, 0 ≤ x := by
    intro x hx
    obtain ⟨d, -, rfl⟩ := List.mem_map.mp hx
    exact le_max_right _ _
  have hfold := foldl_saturatingAdd hamounts (le_refl 0) (by omega)
  rw [zero_add] at hfold
  rw [totalDiscountMinor, hfold, requestedMinor]

/-! ## The invariant -/

/-- What the money fields of a snapshot say of each other. -/
structure Totals (s : CartProjection) : Prop where
  subtotal : s.subtotalMinor = (s.lines.map (·.totalMinor)).sum
  discount : s.discountMinor = totalDiscountMinor s.discounts s.grossMinor
  total : s.totalMinor = s.grossMinor - s.discountMinor
  codes : s.adjustmentCodes = [] → s.discounts = []

section Edits

variable {A : Answers} {runner : Runner} {cart cart' : CartProjection}

/-- Discounts settle everything but the subtotal. -/
theorem Discounted.totals (h : Discounted A cart cart')
    (hsub : cart.subtotalMinor = (cart.lines.map (·.totalMinor)).sum) : Totals cart' := by
  cases h with
  | none hcodes =>
      refine ⟨hsub, ?_, ?_, fun _ => rfl⟩
      · show 0 = totalDiscountMinor [] _
        rw [totalDiscountMinor_eq]
        simp [requestedMinor]
      · show cart.grossMinor = cart.grossMinor - 0
        exact (sub_zero _).symm
  | granted ds hcodes _ => exact ⟨hsub, rfl, rfl, fun hnone => absurd hnone hcodes⟩

/-- A full recalculation settles everything, whatever it starts from. -/
theorem Recalculated.totals (h : Recalculated A cart cart') : Totals cart' := by
  obtain ⟨ps, tax, discounted, geo, -, -, hd, -⟩ := h
  have ht : Totals discounted := hd.totals rfl
  exact ⟨ht.subtotal, ht.discount, ht.total, ht.codes⟩

theorem Totals.setStatus (h : Totals cart) (status : CartStatus) :
    Totals (cart.setStatus status) :=
  ⟨h.subtotal, h.discount, h.total, h.codes⟩

theorem Edited.totals {call : Call} (h : Edited A runner call cart cart') (hcart : Totals cart) :
    Totals cart' := by
  cases h with
  | added payload cartId item id _ _ hr => exact hr.totals
  | requantified payload cartId _ hr => exact hr.totals
  | removed payload cartId hr => exact hr.totals
  | adjusted payload cartId hr => exact hr.totals
  | repriced request _ hr => exact hr.totals
  | readied payload cartId _ => exact hcart.setStatus _
  | cancelled payload cartId => exact hcart.setStatus _
  | selected payload cartId lineItemIds options group method geo _ _ hd _ =>
      have ht := hd.totals hcart.subtotal
      exact ⟨ht.subtotal, ht.discount, ht.total, ht.codes⟩

theorem CreateCartPayload.cart_totals (payload : CreateCartPayload) (id : CartId) :
    Totals (payload.cart id) :=
  ⟨rfl, rfl, rfl, fun _ => rfl⟩

theorem Puts.totals {call : Call} {read : Option CartProjection} {s : CartProjection}
    (h : Puts A runner call read s) (hread : ∀ r, read = some r → Totals r) : Totals s := by
  cases h with
  | created payload cartId id _ => exact payload.cart_totals _
  | edited he => exact he.totals (hread _ rfl)

end Edits

/-! ## What the fields come to -/

/-- The fields balance: discounts take what they ask for, but never more than is
owed (`saturating_add` caps the sum at the largest amount there is, so the formula is
for a gross amount that is one), and the total is what is left. -/
structure Balanced (s : CartProjection) : Prop where
  subtotal : s.subtotalMinor = (s.lines.map (·.totalMinor)).sum
  discount : s.grossMinor ≤ 2 ^ 63 - 1 →
    s.discountMinor = min (requestedMinor s.discounts) (max 0 s.grossMinor)
  total : s.totalMinor = s.grossMinor - s.discountMinor
  discount_nonneg : 0 ≤ s.discountMinor
  total_le : s.totalMinor ≤ s.grossMinor
  total_nonneg : 0 ≤ s.grossMinor → 0 ≤ s.totalMinor
  codes : s.adjustmentCodes = [] → s.discounts = []

theorem Totals.balanced {s : CartProjection} (h : Totals s) : Balanced s := by
  have hdiscount := h.discount
  rw [totalDiscountMinor_eq] at hdiscount
  have hasked := requestedMinor_nonneg s.discounts
  have htotal := h.total
  refine ⟨h.subtotal, fun hgross => ?_, htotal, ?_, ?_, fun hgross => ?_, h.codes⟩
  · rw [hdiscount]
    omega
  · omega
  · omega
  · omega

/-- In a run of calls at once, `Totals` holds of every snapshot. -/
theorem atOnce_totals (env : Env) (runner : Runner) (calls : List Call) (ts : List Nat) :
    ∃ φ, Everywhere calls Totals (atOnce env runner calls ts World.empty).world φ
      (atOnce env runner calls ts World.empty).log := by
  refine atOnce_everywhere' (fun call read s hread hp => Puts.totals hp hread) fun c s hs => ?_
  cases hs

/-- **Every snapshot balances.**  However cart commands and checkouts interleave and
whatever providers and stores answer, every snapshot stored, put or returned does. -/
theorem snapshots_balance (env : Env) (runner : Runner) (calls : List Call) (ts : List Nat) :
    let run := atOnce env runner calls ts World.empty
    (∀ c s, run.world.events.getCartSnapshot c = some s → Balanced s) ∧
    (∀ t s x, .did t ⟨.putCartSnapshot s, x⟩ ∈ run.log → Balanced s) ∧
    (∀ t command cartId s, .returned t (.cart command cartId (.ok s)) ∈ run.log → Balanced s) := by
  intro run
  obtain ⟨φ, h⟩ : ∃ φ, Everywhere calls Totals run.world φ run.log :=
    atOnce_totals env runner calls ts
  refine ⟨fun c s hs => ?_, fun t s x hm => ?_, fun t command cartId s hm => ?_⟩
  · exact (h.stored c s hs).balanced
  · exact (h.put t s x hm).balanced
  · exact (h.returned t command cartId s hm).balanced

end Orchestrator
