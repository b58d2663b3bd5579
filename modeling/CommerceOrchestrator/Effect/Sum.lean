/-
# `CommerceOrchestrator.Effect.Sum` — two families of operations side by side

Procedures over different operations can be put into one pool once the
operations are put into one type.  `inl` and `inr` carry a procedure over,
`Monitor.sum` lets each thread follow the monitor of its own side.
-/
import CommerceOrchestrator.Effect.Monitor

namespace Effect

variable {Op₁ Op₂ : Type} {A₁ : Op₁ → Type} {A₂ : Op₂ → Type} {α Q₁ Q₂ : Type}

/-- The answers to operations of either family. -/
abbrev SumAns (A₁ : Op₁ → Type) (A₂ : Op₂ → Type) : Op₁ ⊕ Op₂ → Type := Sum.elim A₁ A₂

namespace Prog

def inl : Prog A₁ α → Prog (SumAns A₁ A₂) α
  | .ret a => .ret a
  | .op o k => .op (.inl o) fun x => (k x).inl

def inr : Prog A₂ α → Prog (SumAns A₁ A₂) α
  | .ret a => .ret a
  | .op o k => .op (.inr o) fun x => (k x).inr

end Prog

/-- A thread keeps to the side its state is on. -/
def Monitor.sum (M₁ : Monitor A₁ Q₁) (M₂ : Monitor A₂ Q₂) :
    Monitor (SumAns A₁ A₂) (Q₁ ⊕ Q₂) where
  allow
    | .inl o, .inl q => M₁.allow o q
    | .inr o, .inr q => M₂.allow o q
    | _, _ => False
  rely
    | .inl o, .inl q, x => M₁.rely o q x
    | .inr o, .inr q, x => M₂.rely o q x
    | _, _, _ => True
  next
    | .inl o, .inl q, x => .inl (M₁.next o q x)
    | .inr o, .inr q, x => .inr (M₂.next o q x)
    | _, q, _ => q

namespace Prog

variable {M₁ : Monitor A₁ Q₁} {M₂ : Monitor A₂ Q₂}

theorem Follows.inl {post : α → Q₁ → Prop} {p : Prog A₁ α} : ∀ {q : Q₁}, p.Follows M₁ post q →
    p.inl.Follows (M₁.sum M₂) (fun a s => ∃ q, s = .inl q ∧ post a q) (.inl q) := by
  induction p with
  | ret a => exact fun h => ⟨_, rfl, h⟩
  | op o k ih => exact fun h => ⟨h.1, fun x hx => ih x (h.2 x hx)⟩

theorem Follows.inr {post : α → Q₂ → Prop} {p : Prog A₂ α} : ∀ {q : Q₂}, p.Follows M₂ post q →
    p.inr.Follows (M₁.sum M₂) (fun a s => ∃ q, s = .inr q ∧ post a q) (.inr q) := by
  induction p with
  | ret a => exact fun h => ⟨_, rfl, h⟩
  | op o k ih => exact fun h => ⟨h.1, fun x hx => ih x (h.2 x hx)⟩

end Prog

end Effect
