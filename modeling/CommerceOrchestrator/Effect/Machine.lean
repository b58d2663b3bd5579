/-
# `CommerceOrchestrator.Effect.Machine` — procedures that calculate on 64-bit integers

Addition, subtraction and multiplication of signed 64-bit integers are operations like any
other: each is an event, and its answer is the exact result wrapped into 64 bits.  `erase`
carries a procedure back to one that calculates exactly.  As long as no event is out of range,
a run of the one is a run of the other (`run_erase`).
-/
import CommerceOrchestrator.Effect.Sum
import Mathlib.Data.Int.DivMod
import Mathlib.Algebra.Order.Ring.Int

namespace Effect

/-! ## Operations -/

/-- An operation on two signed 64-bit integers. -/
inductive I64Op
  | add (a b : Int)
  | sub (a b : Int)
  | mul (a b : Int)
deriving DecidableEq, Repr

/-- The integers of 64 bits. -/
def InI64 (n : Int) : Prop := -2 ^ 63 ≤ n ∧ n ≤ 2 ^ 63 - 1

instance {n : Int} : Decidable (InI64 n) := inferInstanceAs (Decidable (_ ∧ _))

namespace I64Op

def exact : I64Op → Int
  | .add a b => a + b
  | .sub a b => a - b
  | .mul a b => a * b

/-- The operation does not overflow. -/
def InRange (o : I64Op) : Prop := InI64 o.exact

instance {o : I64Op} : Decidable o.InRange := inferInstanceAs (Decidable (InI64 _))

/-- The result as 64 bits hold it. -/
def wrapped (o : I64Op) : Int := o.exact.bmod (2 ^ 64)

theorem wrapped_eq {o : I64Op} (h : o.InRange) : o.wrapped = o.exact := by
  obtain ⟨hlow, hhigh⟩ := h
  refine Int.bmod_eq_of_le ?_ ?_
  · omega
  · omega

end I64Op

/-! ## Procedures -/

section Procedures

variable {Op : Type} {Ans : Op → Type} {α β ε W Q : Type}

/-- The answers of a procedure that also calculates. -/
abbrev WithI64 (Ans : Op → Type) : Op ⊕ I64Op → Type := SumAns Ans fun _ => Int

/-- The world does not see the arithmetic. -/
def Handler.withI64 (h : Handler Ans W) : Handler (WithI64 Ans) W
  | .inl o, w => h o w
  | .inr o, w => (o.wrapped, w)

/-- Calculate exactly, and not as an event. -/
def Prog.erase : Prog (WithI64 Ans) α → Prog Ans α
  | .ret a => .ret a
  | .op (.inl o) k => .op o fun x => (k x).erase
  | .op (.inr o) k => (k o.exact).erase

/-- No event is an operation that overflows. -/
def AllInRange (l : List (Event (WithI64 Ans))) : Prop :=
  ∀ o x, ⟨.inr o, x⟩ ∈ l → o.InRange

namespace Prog

@[simp] theorem erase_ret (a : α) : (ret a : Prog (WithI64 Ans) α).erase = ret a := rfl

@[simp] theorem erase_inl (p : Prog Ans α) : (p.inl : Prog (WithI64 Ans) α).erase = p := by
  induction p with
  | ret a => rfl
  | op o k ih => exact congrArg _ (funext ih)

theorem erase_bind (p : Prog (WithI64 Ans) α) (f : α → Prog (WithI64 Ans) β) :
    (p >>= f).erase = p.erase >>= fun a => (f a).erase := by
  induction p with
  | ret a => rfl
  | op o k ih =>
      cases o with
      | inl o => exact congrArg _ (funext ih)
      | inr o => exact ih o.exact

theorem erase_map (f : α → β) (p : Prog (WithI64 Ans) α) : (f <$> p).erase = f <$> p.erase := by
  rw [map_eq_pure_bind, map_eq_pure_bind, erase_bind]
  rfl

/-- **Nothing is lost by calculating in 64 bits**, as long as nothing overflows. -/
theorem run_erase {h : Handler Ans W} {p : Prog (WithI64 Ans) α} :
    ∀ {w : W}, AllInRange (p.events h.withI64 w) → p.run h.withI64 w = p.erase.run h w := by
  induction p with
  | ret a => exact fun _ => rfl
  | op o k ih =>
      intro w hl
      have hrest : AllInRange ((k (h.withI64 o w).1).events h.withI64 (h.withI64 o w).2) :=
        fun o' x hx => hl o' x (List.mem_cons_of_mem _ hx)
      cases o with
      | inl o => exact ih _ hrest
      | inr o =>
          have hexact : o.wrapped = o.exact := o.wrapped_eq (hl o _ List.mem_cons_self)
          show (k o.wrapped).run h.withI64 w = (k o.exact).erase.run h w
          rw [← hexact]
          exact ih _ hrest

end Prog

/-! ## Monitors -/

/-- The operations of `M`, and arithmetic that stays in range. -/
def Monitor.withI64 (M : Monitor Ans Q) : Monitor (WithI64 Ans) Q where
  allow
    | .inl o, q => M.allow o q
    | .inr o, _ => o.InRange
  rely
    | .inl o, q, x => M.rely o q x
    | .inr o, _, x => x = o.exact
  next
    | .inl o, q, x => M.next o q x
    | .inr _, q, _ => q

namespace Prog

variable {M : Monitor Ans Q}

theorem Follows.withI64 {post : α → Q → Prop} {p : Prog Ans α} :
    ∀ {q : Q}, p.Follows M post q → p.inl.Follows M.withI64 post q := by
  induction p with
  | ret a => exact fun h => h
  | op o k ih => exact fun h => ⟨h.1, fun x hx => ih x (h.2 x hx)⟩

end Prog

end Procedures

end Effect
