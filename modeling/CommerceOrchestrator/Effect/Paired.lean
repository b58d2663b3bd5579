/-
# `CommerceOrchestrator.Effect.Paired` — two runs of a handler, side by side

A handler answers in a world and leaves another.  `Paired R own f` says that worlds in `R` get the
same answer from `f`, are left in `R`, and that `own` holds of the answer.  It is what
one handler may learn and may disturb, and it goes through a sequence of handlers in which
what is done next depends on the answer before: up to the first error, `andThen`.

With `R w v := w = v ∧ I w` it says that `f` keeps the invariant `I`.
-/
import Mathlib.Init

namespace Effect

variable {W α β ε ε' : Type}

/-- Worlds in `R` get the same answer, of which `own` holds, and are left in `R`. -/
def Paired (R : W → W → Prop) (own : α → Prop) (f : W → α × W) : Prop :=
  ∀ w v, R w v → (f v).1 = (f w).1 ∧ R (f w).2 (f v).2 ∧ own (f w).1

/-- A value is answered only if `P` holds of it. -/
def OkIs (P : α → Prop) (r : Except ε α) : Prop := ∀ a, r = .ok a → P a

/-- One handler after the other, up to the first error. -/
def andThen (fail : ε → ε') (f : W → Except ε α × W) (g : α → W → Except ε' β × W) (w : W) :
    Except ε' β × W :=
  match f w with
  | (.error e, w) => (.error (fail e), w)
  | (.ok a, w) => g a w

variable {R : W → W → Prop} {P : α → Prop} {Q : β → Prop}

theorem okIs_ok {a : α} (h : P a) : OkIs P (.ok a : Except ε α) := by
  rintro _ ⟨⟩
  exact h

theorem okIs_error {e : ε} : OkIs P (.error e : Except ε α) := nofun

/-- What is made of a value is answered only if what it is made of was. -/
theorem OkIs.map {r : Except ε α} {m : α → β} (h : OkIs P r) (hm : ∀ a, P a → Q (m a)) :
    OkIs Q (r.map m) := by
  cases r with
  | error e => exact okIs_error
  | ok a => exact okIs_ok (hm a (h a rfl))

theorem OkIs.mapError {r : Except ε α} {fail : ε → ε'} (h : OkIs P r) : OkIs P (r.mapError fail) := by
  cases r with
  | error e => exact okIs_error
  | ok a => exact okIs_ok (h a rfl)

namespace Paired

/-- An answer that the world has no part in. -/
theorem answer {own : α → Prop} {a : α} (h : own a) : Paired R own fun w => (a, w) :=
  fun _ _ hr => ⟨rfl, hr, h⟩

/-- What is made of an answer. -/
theorem map {own : α → Prop} {own' : β → Prop} {f : W → α × W} {m : α → β} (h : Paired R own f)
    (hm : ∀ a, own a → own' (m a)) : Paired R own' fun w => (m (f w).1, (f w).2) := by
  intro w v hr
  obtain ⟨hans, hr, hown⟩ := h w v hr
  exact ⟨congrArg m hans, hr, hm _ hown⟩

theorem andThen {f : W → Except ε α × W} {g : α → W → Except ε' β × W} {fail : ε → ε'}
    (hf : Paired R (OkIs P) f) (hg : ∀ a, P a → Paired R (OkIs Q) (g a)) :
    Paired R (OkIs Q) (Effect.andThen fail f g) := by
  intro w v hr
  obtain ⟨hans, hr, hown⟩ := hf w v hr
  unfold Effect.andThen
  rcases hw : f w with ⟨_ | a, w'⟩
  all_goals
    rcases hv : f v with ⟨r, v'⟩
    rw [hw, hv] at hans hr
    obtain rfl := hans
  · exact ⟨rfl, hr, okIs_error⟩
  · exact hg a (hown a (by rw [hw])) w' v' hr

/-- A handler that keeps an invariant keeps it in one run. -/
theorem invariant {I : W → Prop} {own : α → Prop} {f : W → α × W}
    (h : Paired (fun w v => w = v ∧ I w) own f) {w : W} (hw : I w) : I (f w).2 :=
  (h w w ⟨rfl, hw⟩).2.1.2

end Paired

end Effect
