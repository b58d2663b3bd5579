/-
# `CommerceOrchestrator.Effect.Leads` — what one run comes to

`p.Leads h w l post` says that running `p` from the world `w`, with the events
`l` behind it, ends in a result, a world and a list of events that satisfy
`post`.  It is a weakest precondition, read off the text of `p` one operation
at a time; unlike `Follows` it is about one handler and one starting world, so
it can say what the answers are.
-/
import CommerceOrchestrator.Effect.Prog

namespace Effect

variable {Op : Type} {Ans : Op → Type} {α β ε : Type} {W : Type}

namespace Prog

/-- The run of `p` from `w`, after the events `l`, ends in `post`. -/
def Leads (h : Handler Ans W) (p : Prog Ans α) (w : W) (l : List (Event Ans))
    (post : α → W → List (Event Ans) → Prop) : Prop :=
  post (p.run h w).1 (p.run h w).2 (l ++ p.events h w)

variable {h : Handler Ans W} {w : W} {l : List (Event Ans)}

theorem leads_ret {a : α} {post : α → W → List (Event Ans) → Prop} :
    (ret a : Prog Ans α).Leads h w l post ↔ post a w l := by
  rw [Leads, events, List.append_nil]
  rfl

theorem leads_op {o : Op} {k : Ans o → Prog Ans α} {post : α → W → List (Event Ans) → Prop} :
    (op o k).Leads h w l post ↔
      (k (h o w).1).Leads h (h o w).2 (l ++ [⟨o, (h o w).1⟩]) post := by
  rw [Leads, Leads, events, List.append_assoc]
  rfl

theorem leads_bind {p : Prog Ans α} {f : α → Prog Ans β}
    {post : β → W → List (Event Ans) → Prop} :
    (p >>= f).Leads h w l post ↔
      p.Leads h w l fun a w' l' => (f a).Leads h w' l' post := by
  rw [Leads, run_bind, events_bind, ← List.append_assoc]
  rfl

theorem Leads.mono {p : Prog Ans α} {post post' : α → W → List (Event Ans) → Prop}
    (hp : p.Leads h w l post) (himp : ∀ a w' l', post a w' l' → post' a w' l') :
    p.Leads h w l post' :=
  himp _ _ _ hp

theorem leads_map {f : α → β} {p : Prog Ans α} {post : β → W → List (Event Ans) → Prop} :
    (f <$> p).Leads h w l post ↔ p.Leads h w l fun a w' l' => post (f a) w' l' := by
  rw [map_eq_pure_bind, leads_bind]
  exact leads_ret

theorem leads_perform {o : Op} {post : Ans o → W → List (Event Ans) → Prop} :
    (perform o).Leads h w l post ↔ post (h o w).1 (h o w).2 (l ++ [⟨o, (h o w).1⟩]) :=
  Iff.rfl

/-- In a sequence that can fail, a failure is the end. -/
theorem leads_run_bind {p : ExceptT ε (Prog Ans) α} {f : α → ExceptT ε (Prog Ans) β}
    {post : Except ε β → W → List (Event Ans) → Prop}
    (hp : p.run.Leads h w l fun r w' l' =>
      match r with
      | .ok a => (f a).run.Leads h w' l' post
      | .error e => post (.error e) w' l') :
    (p >>= f).run.Leads h w l post := by
  rw [ExceptT.run_bind, leads_bind]
  refine hp.mono fun r w' l' hr => ?_
  cases r with
  | ok a => exact hr
  | error e => exact leads_ret.mpr hr

end Prog

end Effect
