/-
# `CommerceOrchestrator.Effect.Monitor` — what a procedure may do, and when

A monitor is an automaton over events.  It says which operations are allowed
in a state, what may be relied on about their answers, and which state each
answer leads to.  `p.Follows M post q` says that `p`, started in the monitor
state `q`, never performs an operation the monitor forbids, whatever answers
within the rely it gets, and that `post` relates its result to the state it
stops in.

The point of the notion is that it survives interleaving: it constrains one
procedure against every answer, so nothing another procedure does to the
shared world can invalidate it.  `Follows.of_trace` obtains it from an
inversion of the paths, `follows_bind` and its companions from the text,
`Follows.lower` carries it to a procedure whose operations are themselves
carried out by smaller ones.
-/
import CommerceOrchestrator.Effect.Prog

namespace Effect

variable {Op : Type} {Ans : Op → Type} {α β : Type} {Q : Type} {W : Type}

/-- An automaton over events: what is allowed, what may be relied on, what follows. -/
structure Monitor (Ans : Op → Type) (Q : Type) where
  allow : Op → Q → Prop
  rely : (o : Op) → Q → Ans o → Prop := fun _ _ _ => True
  next : (o : Op) → Q → Ans o → Q

/-- The monitor lets the operation pass and takes no note of it. -/
def Monitor.Passes (M : Monitor Ans Q) (o : Op) (q : Q) : Prop :=
  M.allow o q ∧ ∀ x, M.next o q x = q

namespace Prog

/-- `p` performs only allowed operations from `q` on, and ends in `post`. -/
def Follows (M : Monitor Ans Q) (post : α → Q → Prop) : Prog Ans α → Q → Prop
  | .ret a, q => post a q
  | .op o k, q => M.allow o q ∧ ∀ x, M.rely o q x → (k x).Follows M post (M.next o q x)

theorem Follows.mono {M : Monitor Ans Q} {post post' : α → Q → Prop} {p : Prog Ans α}
    (h : ∀ a q, post a q → post' a q) : ∀ {q : Q}, p.Follows M post q → p.Follows M post' q := by
  induction p with
  | ret a => exact fun hq => h a _ hq
  | op o k ih => exact fun hq => ⟨hq.1, fun x hx => ih x (hq.2 x hx)⟩

theorem follows_perform {M : Monitor Ans Q} {o : Op} {q : Q} (h : M.Passes o q) :
    (perform o).Follows M (fun _ q' => q' = q) q :=
  ⟨h.1, fun x _ => h.2 x⟩

/-- What every step of the monitor keeps holds at the end. -/
theorem Follows.keeps {M : Monitor Ans Q} {post : α → Q → Prop} {P : Q → Prop}
    (hP : ∀ o q x, P q → P (M.next o q x)) {p : Prog Ans α} :
    ∀ {q : Q}, p.Follows M post q → P q → p.Follows M (fun a q' => post a q' ∧ P q') q := by
  induction p with
  | ret a => exact fun h hq => ⟨h, hq⟩
  | op o k ih => exact fun h hq => ⟨h.1, fun x hx => ih x (h.2 x hx) (hP o _ x hq)⟩

theorem follows_bind {M : Monitor Ans Q} {post : β → Q → Prop} {p : Prog Ans α}
    {f : α → Prog Ans β} {q : Q} :
    (p >>= f).Follows M post q ↔ p.Follows M (fun a q' => (f a).Follows M post q') q := by
  induction p generalizing q with
  | ret a => exact Iff.rfl
  | op o k ih => exact and_congr_right' (forall_congr' fun x => imp_congr_right fun _ => ih x)

theorem follows_map {M : Monitor Ans Q} {post : β → Q → Prop} {f : α → β} {p : Prog Ans α} {q : Q} :
    (f <$> p).Follows M post q ↔ p.Follows M (fun a q' => post (f a) q') q := by
  rw [map_eq_pure_bind, follows_bind]
  exact Iff.rfl

/-- What follows a procedure that can fail is up to its success. -/
theorem follows_bind_except {ε : Type} {M : Monitor Ans Q} {post : Except ε β → Q → Prop}
    {p : ExceptT ε (Prog Ans) α} {f : α → ExceptT ε (Prog Ans) β} {q : Q} :
    (p >>= f).run.Follows M post q ↔
      p.run.Follows M (fun r q' => match r with
        | .ok a => (f a).run.Follows M post q'
        | .error e => post (.error e) q') q := by
  rw [ExceptT.run_bind, follows_bind]
  constructor
  · refine Follows.mono fun r q' h => ?_
    cases r <;> exact h
  · refine Follows.mono fun r q' h => ?_
    cases r <;> exact h

end Prog

/-- Every event of a path is allowed where it occurs, and the state after the
path satisfies `P`. -/
def Monitor.Accepts (M : Monitor Ans Q) (P : Q → Prop) : List (Event Ans) → Q → Prop
  | [], q => P q
  | e :: tr, q => M.allow e.1 q ∧ (M.rely e.1 q e.2 → M.Accepts P tr (M.next e.1 q e.2))

@[simp] theorem Monitor.accepts_nil {M : Monitor Ans Q} {P : Q → Prop} {q : Q} :
    M.Accepts P [] q ↔ P q := Iff.rfl

@[simp] theorem Monitor.accepts_cons {M : Monitor Ans Q} {P : Q → Prop} {q : Q}
    {e : Event Ans} {tr : List (Event Ans)} :
    M.Accepts P (e :: tr) q ↔
      M.allow e.1 q ∧ (M.rely e.1 q e.2 → M.Accepts P tr (M.next e.1 q e.2)) := Iff.rfl

theorem Monitor.accepts_append {M : Monitor Ans Q} {P : Q → Prop} {tr₁ tr₂ : List (Event Ans)}
    {q : Q} : M.Accepts P (tr₁ ++ tr₂) q ↔ M.Accepts (M.Accepts P tr₂) tr₁ q := by
  induction tr₁ generalizing q with
  | nil => exact Iff.rfl
  | cons e tr₁ ih => exact and_congr_right' (imp_congr_right fun _ => ih)

/-- Under a rely that asks nothing, every event of an accepted path was allowed somewhere. -/
theorem Monitor.Accepts.forall_allowed {M : Monitor Ans Q} {P : Q → Prop} {k : Op → Prop}
    (hrely : ∀ o q x, M.rely o q x) (hallow : ∀ o q, M.allow o q → k o)
    {tr : List (Event Ans)} {q : Q} (h : M.Accepts P tr q) : ∀ e ∈ tr, k e.1 := by
  induction tr generalizing q with
  | nil => exact fun e he => absurd he List.not_mem_nil
  | cons e tr ih =>
      exact List.forall_mem_cons.mpr ⟨hallow _ _ h.1, ih (h.2 (hrely _ _ _))⟩

/-- Events that are allowed in `q` and lead back to it can stand in front of any path. -/
theorem Monitor.Accepts.idle {M : Monitor Ans Q} {P : Q → Prop} {tr : List (Event Ans)} {q : Q}
    (hidle : ∀ e ∈ tr, M.allow e.1 q ∧ M.next e.1 q e.2 = q) (h : P q) : M.Accepts P tr q := by
  induction tr with
  | nil => exact h
  | cons e tr ih =>
      obtain ⟨ha, hn⟩ := hidle e List.mem_cons_self
      refine ⟨ha, fun _ => ?_⟩
      rw [hn]
      exact ih fun e' he' => hidle e' (List.mem_cons_of_mem _ he')

/-- Operations that are allowed in every state can stand anywhere. -/
theorem Monitor.Accepts.free {M : Monitor Ans Q} {tr : List (Event Ans)} {q : Q}
    (h : ∀ e ∈ tr, ∀ q, M.allow e.1 q) : M.Accepts (fun _ => True) tr q := by
  induction tr generalizing q with
  | nil => trivial
  | cons e tr ih =>
      exact ⟨h e List.mem_cons_self q, fun _ => ih fun e' he' => h e' (List.mem_cons_of_mem _ he')⟩

/-- Events performed for real.  If every allowed one is answered within the rely and
keeps `I` between the world and the monitor state, an accepted path keeps it to
its end, and every event on it was allowed somewhere. -/
theorem Monitor.Accepts.replays {h : Handler Ans W} {M : Monitor Ans Q} {P : Q → Prop}
    {I : W → Q → Prop} {tr : List (Event Ans)}
    (hstep : ∀ e ∈ tr, ∀ w q, I w q → M.allow e.1 q → (h e.1 w).1 = e.2 →
      M.rely e.1 q e.2 ∧ I (h e.1 w).2 (M.next e.1 q e.2))
    {w w' : W} {q : Q} (ha : M.Accepts P tr q) (hr : Replays h w tr w') (hi : I w q) :
    (∃ q', I w' q' ∧ P q') ∧ ∀ e ∈ tr, ∃ q', M.allow e.1 q' := by
  induction tr generalizing w q with
  | nil =>
      obtain rfl := hr
      exact ⟨⟨q, hi, ha⟩, fun e he => absurd he List.not_mem_nil⟩
  | cons e tr ih =>
      obtain ⟨hrely, hi'⟩ := hstep e List.mem_cons_self w q hi ha.1 hr.1
      obtain ⟨hend, hall⟩ :=
        ih (fun e' he' => hstep e' (List.mem_cons_of_mem _ he')) (ha.2 hrely) hr.2 hi'
      exact ⟨hend, List.forall_mem_cons.mpr ⟨⟨q, ha.1⟩, hall⟩⟩

/-- Two monitors side by side. -/
def Monitor.prod {Q' : Type} (M : Monitor Ans Q) (M' : Monitor Ans Q') : Monitor Ans (Q × Q') where
  allow o q := M.allow o q.1 ∧ M'.allow o q.2
  rely o q x := M.rely o q.1 x ∧ M'.rely o q.2 x
  next o q x := (M.next o q.1 x, M'.next o q.2 x)

namespace Prog

/-- What follows two monitors follows both at once. -/
theorem Follows.prod {Q' : Type} {M : Monitor Ans Q} {M' : Monitor Ans Q'} {post : α → Q → Prop}
    {post' : α → Q' → Prop} {p : Prog Ans α} : ∀ {q : Q} {q' : Q'}, p.Follows M post q →
      p.Follows M' post' q' →
      p.Follows (M.prod M') (fun a s => post a s.1 ∧ post' a s.2) (q, q') := by
  induction p with
  | ret a => exact fun h h' => ⟨h, h'⟩
  | op o k ih =>
      exact fun h h' => ⟨⟨h.1, h'.1⟩, fun x hx => ih x (h.2 x hx.1) (h'.2 x hx.2)⟩

/-- A complete path exists through every procedure, if every operation can be answered. -/
theorem exists_trace [∀ o, Nonempty (Ans o)] (p : Prog Ans α) : ∃ tr a, p.Trace tr a := by
  induction p with
  | ret a => exact ⟨[], a, rfl, rfl⟩
  | op o k ih =>
      obtain ⟨x⟩ := (inferInstance : Nonempty (Ans o))
      obtain ⟨tr, a, h⟩ := ih x
      exact ⟨⟨o, x⟩ :: tr, a, x, tr, rfl, h⟩

/-- A procedure follows a monitor as soon as the monitor accepts its complete paths. -/
theorem Follows.of_trace [∀ o, Nonempty (Ans o)] {M : Monitor Ans Q} {post : α → Q → Prop}
    {p : Prog Ans α} {q : Q} (h : ∀ tr a, p.Trace tr a → M.Accepts (post a) tr q) :
    p.Follows M post q := by
  induction p generalizing q with
  | ret a => exact h [] a ⟨rfl, rfl⟩
  | op o k ih =>
      constructor
      · obtain ⟨x⟩ := (inferInstance : Nonempty (Ans o))
        obtain ⟨tr, a, ht⟩ := (k x).exists_trace
        exact (h _ a ⟨x, tr, rfl, ht⟩).1
      · exact fun x hx => ih x fun tr a ht => (h _ a ⟨x, tr, rfl, ht⟩).2 hx

theorem Follows.trace {M : Monitor Ans Q} {post : α → Q → Prop} {p : Prog Ans α} :
    ∀ {q : Q} {tr : List (Event Ans)} {a : α},
      p.Follows M post q → p.Trace tr a → M.Accepts (post a) tr q := by
  induction p with
  | ret a =>
      rintro q tr b h ⟨rfl, rfl⟩
      exact h
  | op o k ih =>
      rintro q tr b h ⟨x, tr', rfl, ht⟩
      exact ⟨h.1, fun hx => ih x (h.2 x hx) ht⟩

/-- If each operation is carried out within the monitor `M'`, keeps to the rely of
`M` and moves it as `M` says, then a procedure that follows `M` follows `M'`
once it is carried out.  `emb` finds the states of `M` among those of `M'`. -/
theorem Follows.lower {Op' : Type} {Ans' : Op' → Type} {Q' : Type} {M : Monitor Ans Q}
    {M' : Monitor Ans' Q'} (emb : Q → Q') {post : α → Q → Prop}
    {f : (o : Op) → Prog Ans' (Ans o)}
    (hf : ∀ o q, M.allow o q →
      (f o).Follows M' (fun x q' => M.rely o q x ∧ q' = emb (M.next o q x)) (emb q))
    {p : Prog Ans α} : ∀ {q : Q}, p.Follows M post q →
      (p.lower f).Follows M' (fun a q' => ∃ q, q' = emb q ∧ post a q) (emb q) := by
  induction p with
  | ret a => exact fun h => ⟨_, rfl, h⟩
  | op o k ih =>
      intro q h
      refine follows_bind.mpr ((hf o q h.1).mono ?_)
      rintro x q' ⟨hx, rfl⟩
      exact ih x (h.2 x hx)

end Prog

/-! ## A single run against a monitor -/

/-- If every allowed operation is answered within the rely and keeps `I` between
the world, the monitor state and the events so far, a procedure that follows
the monitor keeps it to its end. -/
theorem Prog.Follows.run_invariant {h : Handler Ans W} {M : Monitor Ans Q} {post : α → Q → Prop}
    {I : W → Q → List (Event Ans) → Prop}
    (hstep : ∀ w q l o, I w q l → M.allow o q →
      M.rely o q (h o w).1 ∧ I (h o w).2 (M.next o q (h o w).1) (l ++ [⟨o, (h o w).1⟩]))
    {p : Prog Ans α} : ∀ {w : W} {q : Q} {l : List (Event Ans)},
      p.Follows M post q → I w q l →
        ∃ q', I (p.run h w).2 q' (l ++ p.events h w) ∧ post (p.run h w).1 q' := by
  induction p with
  | ret a =>
      intro w q l hp hi
      exact ⟨q, by simpa [Prog.events, Prog.run] using hi, hp⟩
  | op o k ih =>
      intro w q l hp hi
      obtain ⟨hrely, hi⟩ := hstep w q l o hi hp.1
      obtain ⟨q', hi', hpost⟩ := ih _ (hp.2 _ hrely) hi
      exact ⟨q', by simpa [Prog.events, Prog.run] using hi', hpost⟩

/-- Two runs side by side.  If every allowed operation is answered alike from worlds
in `R`, within the rely, and leaves worlds in `R`, a procedure that follows the
monitor returns the same from both. -/
theorem Prog.Follows.run_agree {h : Handler Ans W} {M : Monitor Ans Q} {post : α → Q → Prop}
    {R : W → W → Q → Prop}
    (hstep : ∀ w v q o, R w v q → M.allow o q →
      M.rely o q (h o w).1 ∧ (h o v).1 = (h o w).1 ∧ R (h o w).2 (h o v).2 (M.next o q (h o w).1))
    {p : Prog Ans α} : ∀ {w v : W} {q : Q}, p.Follows M post q → R w v q →
      (p.run h v).1 = (p.run h w).1 ∧
        ∃ q', R (p.run h w).2 (p.run h v).2 q' ∧ post (p.run h w).1 q' := by
  induction p with
  | ret a =>
      intro w v q hp hr
      exact ⟨rfl, q, hr, hp⟩
  | op o k ih =>
      intro w v q hp hr
      obtain ⟨hrely, hans, hr'⟩ := hstep w v q o hr hp.1
      rw [Prog.run, Prog.run, hans]
      exact ih _ (hp.2 _ hrely) hr'

end Effect
