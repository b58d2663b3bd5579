/-
# `CommerceOrchestrator.Effect.Prog` — procedures as trees of operations

A procedure that works against stores and outside services is a tree: a leaf
returns, a node performs one operation and branches on its answer.  The tree
fixes the control flow and nothing else; what the operations do to a world is
given separately by a handler, and the two meet in `run`.

    Trace p tr a        `tr` is a complete path through `p`, ending in `a`
    Replays h w tr w'   performing `tr` from `w` gives the answers in `tr` and ends in `w'`
    run h p w           the one path the handler picks

A path is a fact about the text of a procedure alone.  So an inversion of
`Trace` holds under every store and every provider, and a fact about worlds
is one about `Replays`.
-/
import Mathlib.Control.Basic

namespace Effect

variable {Op : Type} {Ans : Op → Type} {α β ε : Type} {W : Type}

/-- A procedure over the operations `Op`, each answered in `Ans`. -/
inductive Prog (Ans : Op → Type) (α : Type) : Type
  | ret (a : α)
  | op (o : Op) (k : Ans o → Prog Ans α)

namespace Prog

/-- Perform one operation and return its answer. -/
def perform (o : Op) : Prog Ans (Ans o) := .op o .ret

def bind : Prog Ans α → (α → Prog Ans β) → Prog Ans β
  | .ret a, f => f a
  | .op o k, f => .op o fun x => (k x).bind f

instance : Monad (Prog Ans) where
  pure := .ret
  bind := bind

@[simp] theorem pure_eq (a : α) : (pure a : Prog Ans α) = .ret a := rfl

@[simp] theorem ret_bind (a : α) (f : α → Prog Ans β) : (.ret a >>= f) = f a := rfl

@[simp] theorem op_bind (o : Op) (k : Ans o → Prog Ans α) (f : α → Prog Ans β) :
    (.op o k >>= f) = .op o fun x => k x >>= f := rfl

theorem bind_ret (p : Prog Ans α) : (p >>= .ret) = p := by
  induction p with
  | ret a => rfl
  | op o k ih =>
      rw [op_bind]
      exact congrArg _ (funext ih)

theorem bind_assoc {γ : Type} (p : Prog Ans α) (f : α → Prog Ans β) (g : β → Prog Ans γ) :
    (p >>= f >>= g) = (p >>= fun a => f a >>= g) := by
  induction p with
  | ret a => rfl
  | op o k ih =>
      simp only [op_bind]
      exact congrArg _ (funext ih)

instance : LawfulMonad (Prog Ans) :=
  LawfulMonad.mk' _ bind_ret (fun _ _ => rfl) bind_assoc

/-- Carry out every operation of `p` by a procedure over other operations. -/
def lower {Op' : Type} {Ans' : Op' → Type} (f : (o : Op) → Prog Ans' (Ans o)) :
    Prog Ans α → Prog Ans' α
  | .ret a => .ret a
  | .op o k => f o >>= fun x => (k x).lower f

end Prog

/-! ## Paths -/

/-- One operation together with the answer it got. -/
abbrev Event (Ans : Op → Type) := (o : Op) × Ans o

/-- `p.Trace tr a`: some answers lead `p` through the events `tr` to the result `a`. -/
def Prog.Trace : Prog Ans α → List (Event Ans) → α → Prop
  | .ret a, tr, b => tr = [] ∧ b = a
  | .op o k, tr, b => ∃ x tr', tr = ⟨o, x⟩ :: tr' ∧ (k x).Trace tr' b

namespace Prog

@[simp] theorem trace_ret {a b : α} {tr : List (Event Ans)} :
    (ret a : Prog Ans α).Trace tr b ↔ tr = [] ∧ b = a := Iff.rfl

@[simp] theorem trace_op {o : Op} {k : Ans o → Prog Ans α} {b : α} {tr : List (Event Ans)} :
    (op o k).Trace tr b ↔ ∃ x tr', tr = ⟨o, x⟩ :: tr' ∧ (k x).Trace tr' b := Iff.rfl

theorem trace_perform {o : Op} {x : Ans o} {tr : List (Event Ans)} :
    (perform o).Trace tr x ↔ tr = [⟨o, x⟩] := by
  constructor
  · rintro ⟨y, tr', rfl, rfl, rfl⟩
    rfl
  · rintro rfl
    exact ⟨x, [], rfl, rfl, rfl⟩

theorem trace_bind {p : Prog Ans α} {f : α → Prog Ans β} {tr : List (Event Ans)} {b : β} :
    (p >>= f).Trace tr b ↔ ∃ a t₁ t₂, tr = t₁ ++ t₂ ∧ p.Trace t₁ a ∧ (f a).Trace t₂ b := by
  induction p generalizing tr with
  | ret a =>
      constructor
      · intro h
        exact ⟨a, [], tr, rfl, ⟨rfl, rfl⟩, h⟩
      · rintro ⟨a', t₁, t₂, rfl, ⟨rfl, rfl⟩, h⟩
        exact h
  | op o k ih =>
      rw [op_bind, trace_op]
      constructor
      · rintro ⟨x, tr', rfl, h⟩
        obtain ⟨a, t₁, t₂, rfl, h₁, h₂⟩ := (ih x).mp h
        exact ⟨a, ⟨o, x⟩ :: t₁, t₂, rfl, ⟨x, t₁, rfl, h₁⟩, h₂⟩
      · rintro ⟨a, t₁, t₂, rfl, ⟨x, t₁', rfl, h₁⟩, h₂⟩
        exact ⟨x, t₁' ++ t₂, rfl, (ih x).mpr ⟨a, t₁', t₂, rfl, h₁, h₂⟩⟩

/-- The first procedure of a sequence that can fail: either it fails and so does
the sequence, or its value is handed on. -/
theorem trace_bind_except {p : ExceptT ε (Prog Ans) α} {f : α → ExceptT ε (Prog Ans) β}
    {tr : List (Event Ans)} {r : Except ε β} :
    (p >>= f).run.Trace tr r ↔
      (∃ e, p.run.Trace tr (.error e) ∧ r = .error e) ∨
      (∃ a t₁ t₂, tr = t₁ ++ t₂ ∧ p.run.Trace t₁ (.ok a) ∧ (f a).run.Trace t₂ r) := by
  rw [ExceptT.run_bind, trace_bind]
  constructor
  · rintro ⟨x, t₁, t₂, rfl, h₁, h₂⟩
    cases x with
    | error e =>
        obtain ⟨rfl, rfl⟩ := h₂
        exact Or.inl ⟨e, by simpa using h₁, rfl⟩
    | ok a => exact Or.inr ⟨a, t₁, t₂, rfl, h₁, h₂⟩
  · rintro (⟨e, h, rfl⟩ | ⟨a, t₁, t₂, rfl, h₁, h₂⟩)
    · exact ⟨.error e, tr, [], by simp, h, rfl, rfl⟩
    · exact ⟨.ok a, t₁, t₂, rfl, h₁, h₂⟩

end Prog

/-- An operation outside the kind of a path's operations is not on the path. -/
theorem notMem_of_ops {l : List (Event Ans)} {k : Op → Bool} (hl : ∀ e ∈ l, k e.1)
    {o : Op} (ho : k o = false) (x : Ans o) : ⟨o, x⟩ ∉ l :=
  fun hm => Bool.false_ne_true (ho.symm.trans (hl _ hm))

/-- An event that does not occur in `l` occurs in what follows it. -/
theorem split_after {l rest pre post : List (Event Ans)} {e : Event Ans} {P : Event Ans → Prop}
    (hl : ∀ x ∈ l, ¬ P x) (he : P e) (h : l ++ rest = pre ++ e :: post) :
    ∃ pre', pre = l ++ pre' ∧ rest = pre' ++ e :: post := by
  rcases List.append_eq_append_iff.mp h with ⟨pre', rfl, hr⟩ | ⟨l', rfl, hr⟩
  · exact ⟨pre', rfl, hr⟩
  · cases l' with
    | nil => exact ⟨[], by simp, by simpa using hr.symm⟩
    | cons x l' =>
        obtain ⟨rfl, -⟩ := List.cons.inj hr
        exact absurd he (hl e (by simp))

/-- An event that occurs once: the place where it occurs is the only one. -/
theorem split_unique {l rest pre post : List (Event Ans)} {x e : Event Ans}
    {P : Event Ans → Prop} (hl : ∀ y ∈ l, ¬ P y) (hrest : ∀ y ∈ rest, ¬ P y) (he : P e)
    (h : l ++ x :: rest = pre ++ e :: post) : pre = l ∧ e = x := by
  obtain ⟨pre', rfl, hx⟩ := split_after hl he h
  cases pre' with
  | nil =>
      obtain ⟨rfl, -⟩ := List.cons.inj hx
      exact ⟨by simp, rfl⟩
  | cons y pre' =>
      obtain ⟨-, rfl⟩ := List.cons.inj hx
      exact absurd he (hrest e (by simp))

/-! ## Handlers and runs -/

/-- What each operation answers in a world, and the world it leaves. -/
abbrev Handler (Ans : Op → Type) (W : Type) := (o : Op) → W → Ans o × W

/-- Run a procedure to its end. -/
def Prog.run (h : Handler Ans W) : Prog Ans α → W → α × W
  | .ret a, w => (a, w)
  | .op o k, w => (k (h o w).1).run h (h o w).2

/-- The path a run takes. -/
def Prog.events (h : Handler Ans W) : Prog Ans α → W → List (Event Ans)
  | .ret _, _ => []
  | .op o k, w => ⟨o, (h o w).1⟩ :: (k (h o w).1).events h (h o w).2

/-- Performing the events of `tr` from `w`, one after the other, gives exactly
their answers and ends in `w'`. -/
def Replays (h : Handler Ans W) : W → List (Event Ans) → W → Prop
  | w, [], w' => w' = w
  | w, e :: tr, w' => (h e.1 w).1 = e.2 ∧ Replays h (h e.1 w).2 tr w'

/-- The world that the operations of `tr`, performed from `w`, leave. -/
def leave (h : Handler Ans W) (w : W) (tr : List (Event Ans)) : W :=
  tr.foldl (fun w e => (h e.1 w).2) w

section Runs
variable {h : Handler Ans W}

@[simp] theorem replays_nil {w w' : W} : Replays h w [] w' ↔ w' = w := Iff.rfl

@[simp] theorem replays_cons {w w' : W} {e : Event Ans} {tr : List (Event Ans)} :
    Replays h w (e :: tr) w' ↔ (h e.1 w).1 = e.2 ∧ Replays h (h e.1 w).2 tr w' := Iff.rfl

theorem replays_append {tr₁ tr₂ : List (Event Ans)} {w w' : W} :
    Replays h w (tr₁ ++ tr₂) w' ↔ ∃ w₁, Replays h w tr₁ w₁ ∧ Replays h w₁ tr₂ w' := by
  induction tr₁ generalizing w with
  | nil => simp
  | cons e tr₁ ih => simp [ih, and_assoc]

theorem Replays.leave_eq {tr : List (Event Ans)} {w w' : W} (hr : Replays h w tr w') :
    leave h w tr = w' := by
  induction tr generalizing w with
  | nil => exact hr.symm
  | cons e tr ih => exact ih hr.2

theorem events_trace (p : Prog Ans α) (w : W) : p.Trace (p.events h w) (p.run h w).1 := by
  induction p generalizing w with
  | ret a => exact ⟨rfl, rfl⟩
  | op o k ih => exact ⟨_, _, rfl, ih _ _⟩

/-- What is on a path was answered by the handler. -/
theorem mem_events {p : Prog Ans α} {w : W} {e : Event Ans} (he : e ∈ p.events h w) :
    ∃ v, e.2 = (h e.1 v).1 := by
  induction p generalizing w with
  | ret a => cases he
  | op o k ih =>
      rcases List.mem_cons.mp he with rfl | he
      · exact ⟨w, rfl⟩
      · exact ih _ he

theorem events_replays (p : Prog Ans α) (w : W) :
    Replays h w (p.events h w) (p.run h w).2 := by
  induction p generalizing w with
  | ret a => rfl
  | op o k ih => exact ⟨rfl, ih _ _⟩

theorem run_bind {p : Prog Ans α} {f : α → Prog Ans β} {w : W} :
    (p >>= f).run h w = (f (p.run h w).1).run h (p.run h w).2 := by
  induction p generalizing w with
  | ret a => rfl
  | op o k ih => exact ih _

/-- A sequence whose first procedure succeeds goes on with its value. -/
theorem run_bind_ok {p : ExceptT ε (Prog Ans) α} {f : α → ExceptT ε (Prog Ans) β} {a : α}
    {w w' : W} (hp : p.run.run h w = (.ok a, w')) :
    (p >>= f).run.run h w = (f a).run.run h w' := by
  rw [ExceptT.run_bind, run_bind, hp]

theorem run_map {f : α → β} {p : Prog Ans α} {w : W} :
    (f <$> p).run h w = (f (p.run h w).1, (p.run h w).2) := by
  rw [map_eq_pure_bind, run_bind]
  rfl

theorem events_bind {p : Prog Ans α} {f : α → Prog Ans β} {w : W} :
    (p >>= f).events h w = p.events h w ++ (f (p.run h w).1).events h (p.run h w).2 := by
  induction p generalizing w with
  | ret a => rfl
  | op o k ih => exact congrArg (⟨o, (h o w).1⟩ :: ·) (ih _)

/-- A predicate on worlds that every event of a path preserves survives the path. -/
theorem Replays.preserves {I : W → Prop} {tr : List (Event Ans)} {w w' : W}
    (hr : Replays h w tr w') (hi : I w)
    (hstep : ∀ e ∈ tr, ∀ v, I v → (h e.1 v).1 = e.2 → I (h e.1 v).2) : I w' := by
  induction tr generalizing w with
  | nil => exact hr ▸ hi
  | cons e tr ih =>
      obtain ⟨ha, hr⟩ := hr
      exact ih hr (hstep e List.mem_cons_self w hi ha)
        fun e' he' => hstep e' (List.mem_cons_of_mem _ he')

/-- A part of the world that no event of a path touches is the same after it. -/
theorem Replays.frame {β : Type} (f : W → β) {tr : List (Event Ans)} {w w' : W}
    (hr : Replays h w tr w') (hstep : ∀ e ∈ tr, ∀ v, f (h e.1 v).2 = f v) : f w' = f w :=
  hr.preserves (I := fun v => f v = f w) rfl fun e he v hv _ => (hstep e he v).trans hv

end Runs

/-! ## Runs of several procedures, one after the other -/

/-- What one finished run leaves behind: its path and its result. -/
structure Turn (Ans : Op → Type) (α : Type) where
  trace : List (Event Ans)
  result : α

/-- Run procedures to their end, in order. -/
def runAll (h : Handler Ans W) : List (Prog Ans α) → W → List (Turn Ans α) × W
  | [], w => ([], w)
  | p :: ps, w =>
      let rest := runAll h ps (p.run h w).2
      (⟨p.events h w, (p.run h w).1⟩ :: rest.1, rest.2)

/-- The events of all turns, in order, lead from the first world to the last. -/
theorem runAll_replays (h : Handler Ans W) (ps : List (Prog Ans α)) (w : W) :
    Replays h w ((runAll h ps w).1.flatMap (·.trace)) (runAll h ps w).2 := by
  induction ps generalizing w with
  | nil => rfl
  | cons p ps ih => exact replays_append.mpr ⟨_, events_replays p w, ih _⟩

/-- Whatever each procedure preserves, a sequence of them preserves. -/
theorem runAll_preserves {h : Handler Ans W} {I : W → Prop} {ps : List (Prog Ans α)}
    (hstep : ∀ p ∈ ps, ∀ w, I w → I (p.run h w).2) {w : W} (hw : I w) :
    I (runAll h ps w).2 := by
  induction ps generalizing w with
  | nil => exact hw
  | cons p ps ih =>
      exact ih (fun q hq => hstep q (List.mem_cons_of_mem _ hq))
        (hstep p List.mem_cons_self w hw)

/-- What each procedure preserves when its turn is in `C`, a sequence of turns in `C` preserves. -/
theorem runAll_keeps {h : Handler Ans W} {I : W → Prop} {C : Turn Ans α → Prop}
    {ps : List (Prog Ans α)}
    (hstep : ∀ p ∈ ps, ∀ w, I w → C ⟨p.events h w, (p.run h w).1⟩ → I (p.run h w).2)
    {w : W} (hw : I w) (hc : ∀ t ∈ (runAll h ps w).1, C t) : I (runAll h ps w).2 := by
  induction ps generalizing w with
  | nil => exact hw
  | cons p ps ih =>
      obtain ⟨hcp, hcs⟩ := List.forall_mem_cons.mp hc
      exact ih (fun q hq => hstep q (List.mem_cons_of_mem _ hq))
        (hstep p List.mem_cons_self w hw hcp) hcs

/-- If every procedure, from a world in `I`, takes a turn in `J` as soon as it takes
one in `C`, and then leaves a world in `I`, all turns of a sequence are in `J` when
all are in `C`. -/
theorem runAll_turns {h : Handler Ans W} {I : W → Prop} {C J : Turn Ans α → Prop}
    {ps : List (Prog Ans α)}
    (hstep : ∀ p ∈ ps, ∀ w, I w → C ⟨p.events h w, (p.run h w).1⟩ →
      I (p.run h w).2 ∧ J ⟨p.events h w, (p.run h w).1⟩)
    {w : W} (hw : I w) (hc : ∀ t ∈ (runAll h ps w).1, C t) : ∀ t ∈ (runAll h ps w).1, J t := by
  induction ps generalizing w with
  | nil => exact fun _ ht => absurd ht List.not_mem_nil
  | cons p ps ih =>
      obtain ⟨hcp, hcs⟩ := List.forall_mem_cons.mp hc
      obtain ⟨hw', hj⟩ := hstep p List.mem_cons_self w hw hcp
      intro t ht
      rcases List.mem_cons.mp ht with rfl | ht
      · exact hj
      · exact ih (fun q hq => hstep q (List.mem_cons_of_mem _ hq)) hw' hcs t ht

/-- **At most once.**  If a turn in `J` leaves a world in `S`, and from a world in `S`
no procedure takes a turn in `J` or leaves `S`, at most one turn of a sequence is in `J`. -/
theorem runAll_once {h : Handler Ans W} {S : W → Prop} {J : Turn Ans α → Prop}
    {ps : List (Prog Ans α)}
    (hspends : ∀ p ∈ ps, ∀ w, J ⟨p.events h w, (p.run h w).1⟩ → S (p.run h w).2)
    (hstays : ∀ p ∈ ps, ∀ w, S w →
      S (p.run h w).2 ∧ ¬ J ⟨p.events h w, (p.run h w).1⟩) (w : W) :
    (runAll h ps w).1.Pairwise fun t t' => ¬ (J t ∧ J t') := by
  induction ps generalizing w with
  | nil => exact List.Pairwise.nil
  | cons p ps ih =>
      have hps : ∀ q ∈ ps, ∀ w, S w →
          S (q.run h w).2 ∧ ¬ J ⟨q.events h w, (q.run h w).1⟩ :=
        fun q hq => hstays q (List.mem_cons_of_mem _ hq)
      refine List.pairwise_cons.mpr ⟨?_, ih (fun q hq => hspends q (List.mem_cons_of_mem _ hq)) hps _⟩
      rintro t ht ⟨hp, hj⟩
      have hnone := runAll_turns (I := S) (C := fun _ => True) (J := fun t => ¬ J t)
        (fun q hq v hv _ => hps q hq v hv) (hspends p List.mem_cons_self w hp) (fun _ _ => trivial)
      exact hnone t ht hj

end Effect
