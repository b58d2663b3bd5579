/-
# `CommerceOrchestrator.Effect.Fallible` — steps that can fail

What it takes for a chain of fallible steps to succeed.
-/
import Mathlib.Init

namespace Effect

section

variable {ε ε' α β : Type} {x : Except ε α} {f : α → Except ε β} {a : α} {b : β}

/-- A chain succeeds if its first step and the rest do. -/
theorem bind_eq_ok : (x >>= f) = .ok b ↔ ∃ a, x = .ok a ∧ f a = .ok b := by
  cases x <;> simp [bind, Except.bind]

/-- An optional value that is wanted is there. -/
theorem elim_eq_ok {o : Option α} {e : ε} : o.elim (.error e) .ok = (.ok a : Except ε α) ↔ o = some a := by
  cases o <;> simp

/-- A step for each succeeds if every one does. -/
theorem forM_eq_ok {xs : List α} {g : α → Except ε Unit} :
    xs.forM g = .ok () ↔ ∀ x ∈ xs, g x = .ok () := by
  induction xs with
  | nil => simp [pure, Except.pure]
  | cons x xs ih =>
      show (g x >>= fun _ => xs.forM g) = _ ↔ _
      rw [bind_eq_ok, List.forall_mem_cons, ← ih]
      exact ⟨fun ⟨_, h, hrest⟩ => ⟨h, hrest⟩, fun ⟨h, hrest⟩ => ⟨(), h, hrest⟩⟩

theorem mapError_eq_ok {g : ε → ε'} : x.mapError g = .ok a ↔ x = .ok a := by
  cases x with
  | error e => exact ⟨fun h => (by cases h), fun h => (by cases h)⟩
  | ok b => exact ⟨fun h => (by cases h; rfl), fun h => (by cases h; rfl)⟩

end

end Effect
