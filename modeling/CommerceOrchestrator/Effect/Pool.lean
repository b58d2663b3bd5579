/-
# `CommerceOrchestrator.Effect.Pool` — procedures interleaved over one world

A pool holds a world and the unfinished rest of each procedure.  A step picks
one of them and performs its next operation, so a list of thread numbers is a
schedule and every interleaving at the granularity of operations is one.  An
operation may be unable to go ahead (it waits for a lock another thread
holds); picking such a thread changes nothing.

The rule is `Pool.run_invariant_at`.  Each thread follows a monitor on its own;
what remains is to keep one invariant between the world, the monitor states
of all threads and the log, for one allowed operation of one thread.
-/
import CommerceOrchestrator.Effect.Monitor
import Mathlib.Logic.Function.Basic

namespace Effect

variable {Op : Type} {Ans : Op → Type} {α : Type} {Q : Type} {W : Type}

/-- What a pool records: thread `t` performed an operation, or returned. -/
inductive Entry (Ans : Op → Type) (α : Type)
  | did (t : Nat) (e : Event Ans)
  | returned (t : Nat) (a : α)

/-- A handler that knows who asks, and may answer `none`: not now. -/
abbrev SharedHandler (Ans : Op → Type) (W : Type) := Nat → (o : Op) → W → Option (Ans o × W)

/-- A handler that never makes anyone wait. -/
def Handler.shared (h : Handler Ans W) : SharedHandler Ans W := fun _ o w => some (h o w)

theorem Handler.shared_eq_some {h : Handler Ans W} {t : Nat} {o : Op} {w w' : W} {x : Ans o} :
    h.shared t o w = some (x, w') ↔ (h o w).1 = x ∧ (h o w).2 = w' := by
  rw [Handler.shared, Option.some.injEq, Prod.ext_iff]

/-- The thread an entry is about. -/
def Entry.thread : Entry Ans α → Nat
  | .did t _ | .returned t _ => t

structure Pool (Ans : Op → Type) (W α : Type) where
  world : W
  threads : List (Prog Ans α)
  log : List (Entry Ans α)

namespace Pool

/-- A pool of procedures none of which has started. -/
def start (w : W) (ps : List (Prog Ans α)) : Pool Ans W α := ⟨w, ps, []⟩

/-- The log entries for thread `t` performing `e` and going on as `p`. -/
def entries (t : Nat) (e : Event Ans) : Prog Ans α → List (Entry Ans α)
  | .ret a => [.did t e, .returned t a]
  | .op _ _ => [.did t e]

/-- Thread `t` performs its next operation, if it has one and it can go ahead. -/
def step (h : SharedHandler Ans W) (P : Pool Ans W α) (t : Nat) : Pool Ans W α :=
  match P.threads[t]? with
  | some (.op o k) =>
      match h t o P.world with
      | some (x, w) => ⟨w, P.threads.set t (k x), P.log ++ entries t ⟨o, x⟩ (k x)⟩
      | none => P
  | _ => P

/-- Run a schedule. -/
def run (h : SharedHandler Ans W) : List Nat → Pool Ans W α → Pool Ans W α
  | [], P => P
  | t :: ts, P => run h ts (P.step h t)

/-- If thread `t` can perform its next operation `o` now, `C t o` holds of the world. -/
def Meets (C : Nat → Op → W → Prop) (h : SharedHandler Ans W) (P : Pool Ans W α) (t : Nat) :
    Prop :=
  match P.threads[t]? with
  | some (.op o _) => (h t o P.world).isSome → C t o P.world
  | _ => True

instance {C : Nat → Op → W → Prop} [∀ t o w, Decidable (C t o w)] {h : SharedHandler Ans W}
    {P : Pool Ans W α} {t : Nat} : Decidable (Meets C h P t) := by
  unfold Meets
  split <;> infer_instance

/-- Every operation of the schedule is performed from a world that meets `C`. -/
def StepsMeet (C : Nat → Op → W → Prop) (h : SharedHandler Ans W) :
    List Nat → Pool Ans W α → Prop
  | [], _ => True
  | t :: ts, P => Meets C h P t ∧ StepsMeet C h ts (P.step h t)

instance StepsMeet.decidable {C : Nat → Op → W → Prop} [∀ t o w, Decidable (C t o w)]
    {h : SharedHandler Ans W} :
    (ts : List Nat) → (P : Pool Ans W α) → Decidable (StepsMeet C h ts P)
  | [], _ => inferInstanceAs (Decidable True)
  | t :: ts, P =>
      have := StepsMeet.decidable (C := C) (h := h) ts (P.step h t)
      inferInstanceAs (Decidable (_ ∧ _))

/-- As `Meets`, for a condition on the world and the log. -/
def MeetsAt (C : Nat → Op → W → List (Entry Ans α) → Prop) (h : SharedHandler Ans W)
    (P : Pool Ans W α) (t : Nat) : Prop :=
  match P.threads[t]? with
  | some (.op o _) => (h t o P.world).isSome → C t o P.world P.log
  | _ => True

instance {C : Nat → Op → W → List (Entry Ans α) → Prop} [∀ t o w l, Decidable (C t o w l)]
    {h : SharedHandler Ans W} {P : Pool Ans W α} {t : Nat} : Decidable (MeetsAt C h P t) := by
  unfold MeetsAt
  split <;> infer_instance

/-- Every operation of the schedule is performed where `C` holds of the world and the log. -/
def StepsMeetAt (C : Nat → Op → W → List (Entry Ans α) → Prop) (h : SharedHandler Ans W) :
    List Nat → Pool Ans W α → Prop
  | [], _ => True
  | t :: ts, P => MeetsAt C h P t ∧ StepsMeetAt C h ts (P.step h t)

instance StepsMeetAt.decidable {C : Nat → Op → W → List (Entry Ans α) → Prop}
    [∀ t o w l, Decidable (C t o w l)] {h : SharedHandler Ans W} :
    (ts : List Nat) → (P : Pool Ans W α) → Decidable (StepsMeetAt C h ts P)
  | [], _ => inferInstanceAs (Decidable True)
  | t :: ts, P =>
      have := StepsMeetAt.decidable (C := C) (h := h) ts (P.step h t)
      inferInstanceAs (Decidable (_ ∧ _))

theorem MeetsAt.of_next {C : Nat → Op → W → List (Entry Ans α) → Prop} {h : SharedHandler Ans W}
    {P : Pool Ans W α} {t : Nat} {o : Op} {k : Ans o → Prog Ans α} (hm : MeetsAt C h P t)
    (hk : P.threads[t]? = some (.op o k)) (ho : (h t o P.world).isSome) :
    C t o P.world P.log := by
  rw [MeetsAt, hk] at hm
  exact hm ho

theorem StepsMeet.at_log {C : Nat → Op → W → Prop} {h : SharedHandler Ans W} {ts : List Nat} :
    ∀ {P : Pool Ans W α}, StepsMeet C h ts P → StepsMeetAt (fun t o w _ => C t o w) h ts P := by
  induction ts with
  | nil => exact fun _ => trivial
  | cons t ts ih => exact fun hc => ⟨hc.1, ih hc.2⟩

theorem StepsMeetAt.and {C C' : Nat → Op → W → List (Entry Ans α) → Prop} {h : SharedHandler Ans W}
    {ts : List Nat} : ∀ {P : Pool Ans W α}, StepsMeetAt C h ts P → StepsMeetAt C' h ts P →
      StepsMeetAt (fun t o w l => C t o w l ∧ C' t o w l) h ts P := by
  induction ts with
  | nil => exact fun _ _ => trivial
  | cons t ts ih =>
      rintro P ⟨hc, hcs⟩ ⟨hc', hcs'⟩
      refine ⟨?_, ih hcs hcs'⟩
      unfold MeetsAt at hc hc' ⊢
      split
      · next o k hk =>
          rw [hk] at hc hc'
          exact fun ho => ⟨hc ho, hc' ho⟩
      · trivial

theorem stepsMeet_true {h : SharedHandler Ans W} {ts : List Nat} {P : Pool Ans W α} :
    StepsMeet (fun _ _ _ => True) h ts P := by
  induction ts generalizing P with
  | nil => trivial
  | cons t ts ih =>
      refine ⟨?_, ih⟩
      unfold Meets
      split
      · exact fun _ => trivial
      · trivial

/-- What one step can do: nothing, or the next operation of its thread. -/
theorem step_cases (h : SharedHandler Ans W) (P : Pool Ans W α) (t : Nat) :
    P.step h t = P ∨
      ∃ o k x w, P.threads[t]? = some (.op o k) ∧ h t o P.world = some (x, w) ∧
        P.step h t = ⟨w, P.threads.set t (k x), P.log ++ entries t ⟨o, x⟩ (k x)⟩ := by
  unfold step
  split
  · next o k ht =>
      split
      · next x w hx => exact Or.inr ⟨o, k, x, w, ht, hx, rfl⟩
      · exact Or.inl rfl
  · exact Or.inl rfl

theorem step_eq {h : SharedHandler Ans W} {P : Pool Ans W α} {t : Nat} {o : Op}
    {k : Ans o → Prog Ans α} {x : Ans o} {w : W} (ht : P.threads[t]? = some (.op o k))
    (hx : h t o P.world = some (x, w)) :
    P.step h t = ⟨w, P.threads.set t (k x), P.log ++ entries t ⟨o, x⟩ (k x)⟩ := by
  simp only [step, ht, hx]

theorem run_append {h : SharedHandler Ans W} {ts us : List Nat} {P : Pool Ans W α} :
    run h (ts ++ us) P = run h us (run h ts P) := by
  induction ts generalizing P with
  | nil => rfl
  | cons t ts ih => exact ih

theorem thread_entries {t : Nat} {e : Event Ans} {p : Prog Ans α} :
    ∀ x ∈ entries t e p, x.thread = t := by
  cases p <;> simp [entries, Entry.thread]

/-- The log only grows. -/
theorem log_prefix_run (h : SharedHandler Ans W) (ts : List Nat) (P : Pool Ans W α) :
    P.log <+: (run h ts P).log := by
  induction ts generalizing P with
  | nil => exact List.prefix_refl _
  | cons t ts ih =>
      rcases step_cases h P t with hs | ⟨o, k, x, w, -, -, hs⟩
      · rw [run, hs]
        exact ih P
      · refine List.IsPrefix.trans ?_ (ih (P.step h t))
        rw [hs]
        exact List.prefix_append _ _

theorem length_threads_run (h : SharedHandler Ans W) (ts : List Nat) (P : Pool Ans W α) :
    (run h ts P).threads.length = P.threads.length := by
  induction ts generalizing P with
  | nil => rfl
  | cons t ts ih =>
      rcases step_cases h P t with hs | ⟨o, k, x, w, -, -, hs⟩
      · rw [run, hs]
        exact ih P
      · rw [run, ih, hs]
        exact List.length_set

/-- Only the threads of a schedule add to the log. -/
theorem thread_of_mem_run {h : SharedHandler Ans W} {ts : List Nat} {e : Entry Ans α} :
    ∀ {P : Pool Ans W α}, e ∈ (run h ts P).log → e ∈ P.log ∨ e.thread ∈ ts := by
  induction ts with
  | nil => exact fun he => Or.inl he
  | cons t ts ih =>
      intro P he
      rcases ih he with hm | hm
      · rcases step_cases h P t with hs | ⟨o, k, x, w, -, -, hs⟩
        · exact Or.inl (hs ▸ hm)
        · rw [hs] at hm
          rcases List.mem_append.mp hm with hm | hm
          · exact Or.inl hm
          · exact Or.inr (thread_entries e hm ▸ List.mem_cons_self)
      · exact Or.inr (List.mem_cons_of_mem _ hm)

/-- A thread with nothing left to do has returned. -/
theorem returned_of_ret {h : SharedHandler Ans W} {ts : List Nat} :
    ∀ {P : Pool Ans W α}, (∀ t a, P.threads[t]? = some (.ret a) → .returned t a ∈ P.log) →
      ∀ t a, (run h ts P).threads[t]? = some (.ret a) → .returned t a ∈ (run h ts P).log := by
  induction ts with
  | nil => exact fun hP => hP
  | cons t' ts ih =>
      intro P hP
      refine ih fun t a hta => ?_
      rcases step_cases h P t' with hs | ⟨o, k, x, w, hk, -, hs⟩
      · rw [hs] at hta ⊢
        exact hP t a hta
      · rw [hs] at hta ⊢
        by_cases htt : t' = t
        · subst htt
          have hlt : t' < P.threads.length := (List.getElem?_eq_some_iff.mp hk).1
          rw [List.getElem?_set_self hlt] at hta
          rw [Option.some.inj hta]
          exact List.mem_append_right _ (List.mem_cons_of_mem _ List.mem_cons_self)
        · rw [List.getElem?_set_ne htt] at hta
          exact List.mem_append_left _ (hP t a hta)

/-- Where nobody waits, a thread that is scheduled performs its next operation. -/
theorem did_of_mem {h : Handler Ans W} {ts : List Nat} {t : Nat} {o : Op}
    {k : Ans o → Prog Ans α} (ht : t ∈ ts) :
    ∀ {P : Pool Ans W α}, P.threads[t]? = some (.op o k) →
      ∃ x, .did t ⟨o, x⟩ ∈ (run h.shared ts P).log := by
  induction ts with
  | nil => exact absurd ht List.not_mem_nil
  | cons t' ts ih =>
      intro P hk
      by_cases htt : t' = t
      · subst htt
        refine ⟨(h o P.world).1, (log_prefix_run _ ts _).subset ?_⟩
        rw [step_eq hk rfl]
        refine List.mem_append_right _ ?_
        cases k (h o P.world).1 <;> exact List.mem_cons_self
      · refine ih ((List.mem_cons.mp ht).resolve_left (Ne.symm htt)) ?_
        rcases step_cases h.shared P t' with hs | ⟨o', k', x, w, -, -, hs⟩
        · rw [hs]
          exact hk
        · rw [hs]
          exact (List.getElem?_set_ne htt).trans hk

/-- A thread that is scheduled until it returns performs its run. -/
theorem run_solo {h : Handler Ans W} {t : Nat} {p : Prog Ans α} :
    ∀ {P : Pool Ans W α}, P.threads[t]? = some p → (∃ o k, p = .op o k) →
      run h.shared (List.replicate (p.events h P.world).length t) P =
        ⟨(p.run h P.world).2, P.threads.set t (.ret (p.run h P.world).1),
          P.log ++ (p.events h P.world).map (.did t) ++ [.returned t (p.run h P.world).1]⟩ := by
  induction p with
  | ret a =>
      rintro P - ⟨o, k, ⟨⟩⟩
  | op o k ih =>
      intro P ht _
      have hlt : t < P.threads.length := (List.getElem?_eq_some_iff.mp ht).1
      show run _ (List.replicate _ t) (P.step h.shared t) = _
      rw [step_eq ht rfl]
      cases hk : k (h o P.world).1 with
      | ret a =>
          simp [hk, entries, Prog.events, Prog.run, run]
      | op o' k' =>
          have hrest := ih (h o P.world).1
            (P := ⟨(h o P.world).2, P.threads.set t (k (h o P.world).1),
              P.log ++ entries t ⟨o, (h o P.world).1⟩ (k (h o P.world).1)⟩)
            (List.getElem?_set_self hlt) ⟨o', k', hk⟩
          rw [← hk]
          refine hrest.trans ?_
          simp [hk, entries, Prog.events, Prog.run]

theorem stepsMeetAt_append {C : Nat → Op → W → List (Entry Ans α) → Prop}
    {h : SharedHandler Ans W} {ts us : List Nat} {P : Pool Ans W α} :
    StepsMeetAt C h (ts ++ us) P ↔ StepsMeetAt C h ts P ∧ StepsMeetAt C h us (run h ts P) := by
  induction ts generalizing P with
  | nil => exact (and_iff_right trivial).symm
  | cons t ts ih => exact (and_congr_right' ih).trans and_assoc.symm

/-- What every operation that meets `C` preserves of the world, every schedule whose steps
meet `C` preserves. -/
theorem StepsMeet.preserves {C : Nat → Op → W → Prop} {h : SharedHandler Ans W} {I : W → Prop}
    (hstep : ∀ t o w x w', I w → C t o w → h t o w = some (x, w') → I w') {ts : List Nat} :
    ∀ {P : Pool Ans W α}, StepsMeet C h ts P → I P.world → I (run h ts P).world := by
  induction ts with
  | nil => exact fun _ hi => hi
  | cons t ts ih =>
      intro P hc hi
      refine ih hc.2 ?_
      rcases step_cases h P t with hs | ⟨o, k, x, w, hk, hx, hs⟩
      · rw [hs]
        exact hi
      · have hmeets := hc.1
        rw [Meets, hk] at hmeets
        rw [hs]
        exact hstep t o _ x w hi (hmeets (by simp [hx])) hx

/-- What every operation preserves of the world, every schedule preserves. -/
theorem run_preserves {h : SharedHandler Ans W} {I : W → Prop}
    (hstep : ∀ t o w x w', I w → h t o w = some (x, w') → I w') {ts : List Nat}
    {P : Pool Ans W α} (hi : I P.world) : I (run h ts P).world :=
  StepsMeet.preserves (fun t o w x w' hw _ => hstep t o w x w' hw) stepsMeet_true hi

/-- What the state of the thread that moves keeps, the states of all threads keep. -/
theorem update_keeps {β : Sort*} (f : Q → β) {φ : Nat → Q} {t : Nat} {q : Q} (h : f q = f (φ t)) :
    ∀ t', f (Function.update φ t q t') = f (φ t') :=
  (Function.forall_update_iff φ fun t' q' => f q' = f (φ t')).mpr ⟨h, fun _ _ => rfl⟩

section Invariant

variable {h : SharedHandler Ans W} {M : Monitor Ans Q} {post : Nat → α → Q → Prop}
  {I : W → (Nat → Q) → List (Entry Ans α) → Prop}

/-- Every thread follows the monitor from the state `φ` gives it. -/
def AllFollow (M : Monitor Ans Q) (post : Nat → α → Q → Prop) (φ : Nat → Q)
    (P : Pool Ans W α) : Prop :=
  ∀ (t : Nat) (p : Prog Ans α), P.threads[t]? = some p → p.Follows M (post t) (φ t)

theorem AllFollow.set {φ : Nat → Q} {P : Pool Ans W α} (hf : AllFollow M post φ P)
    {t : Nat} {p : Prog Ans α} {q : Q} {w : W} {l : List (Entry Ans α)}
    (hp : p.Follows M (post t) q) :
    AllFollow M post (Function.update φ t q) ⟨w, P.threads.set t p, l⟩ := by
  intro t' p' hp'
  by_cases ht : t' = t
  · subst ht
    rw [Function.update_self]
    have hlt : t' < P.threads.length := by
      have := (List.getElem?_eq_some_iff.mp hp').1
      simpa using this
    rw [List.getElem?_set_self hlt] at hp'
    exact Option.some.inj hp' ▸ hp
  · rw [Function.update_of_ne ht]
    rw [List.getElem?_set_ne (Ne.symm ht)] at hp'
    exact hf t' p' hp'

/-- **The rule.**  If one allowed operation of one thread is answered within the rely
and keeps `I`, also when the thread returns right after it, every schedule whose
steps meet `C` keeps `I`. -/
theorem run_invariant_at {C : Nat → Op → W → List (Entry Ans α) → Prop}
    (hstep : ∀ w φ l t o x w', I w φ l → M.allow o (φ t) → C t o w l → h t o w = some (x, w') →
      M.rely o (φ t) x ∧
      I w' (Function.update φ t (M.next o (φ t) x)) (l ++ [.did t ⟨o, x⟩]) ∧
      ∀ a, post t a (M.next o (φ t) x) →
        I w' (Function.update φ t (M.next o (φ t) x)) (l ++ [.did t ⟨o, x⟩, .returned t a]))
    (ts : List Nat) {P : Pool Ans W α} {φ : Nat → Q} (hi : I P.world φ P.log)
    (hf : AllFollow M post φ P) (hc : StepsMeetAt C h ts P) :
    ∃ φ', I (run h ts P).world φ' (run h ts P).log ∧ AllFollow M post φ' (run h ts P) := by
  induction ts generalizing P φ with
  | nil => exact ⟨φ, hi, hf⟩
  | cons t ts ih =>
      obtain ⟨hct, hc⟩ := hc
      rcases step_cases h P t with hs | ⟨o, k, x, w, hk, hx, hs⟩
      · rw [run, hs]
        exact ih hi hf (hs ▸ hc)
      · have hok := hf t _ hk
        obtain ⟨hrely, hdid, hret⟩ :=
          hstep _ _ _ t o x w hi hok.1 (hct.of_next hk (by simp [hx])) hx
        have hf' := hf.set (w := w) (l := P.log ++ entries t ⟨o, x⟩ (k x)) (hok.2 x hrely)
        rw [hs] at hc
        rw [run, hs]
        refine ih ?_ hf' hc
        cases hkx : k x with
        | op o' k' => exact hdid
        | ret a =>
            have hpost := hok.2 x hrely
            rw [hkx] at hpost
            exact hret a hpost

/-- **The converse rule.**  If an operation that leads to a log in `D` was performed where
`C` holds, every step of a schedule that ends with a log in `D` meets `C`. -/
theorem stepsMeetAt_of_run {C : Nat → Op → W → List (Entry Ans α) → Prop}
    {D : List (Entry Ans α) → Prop}
    (hstep : ∀ w φ l t o x w', I w φ l → M.allow o (φ t) → h t o w = some (x, w') →
      M.rely o (φ t) x ∧
      I w' (Function.update φ t (M.next o (φ t) x)) (l ++ [.did t ⟨o, x⟩]) ∧
      ∀ a, post t a (M.next o (φ t) x) →
        I w' (Function.update φ t (M.next o (φ t) x)) (l ++ [.did t ⟨o, x⟩, .returned t a]))
    (hmeets : ∀ w φ l t o x w', I w φ l → M.allow o (φ t) → h t o w = some (x, w') →
      D (l ++ [.did t ⟨o, x⟩]) → C t o w l)
    (hshorter : ∀ l l', l <+: l' → D l' → D l) (ts : List Nat) {P : Pool Ans W α} {φ : Nat → Q}
    (hi : I P.world φ P.log) (hf : AllFollow M post φ P) (hD : D (run h ts P).log) :
    StepsMeetAt C h ts P := by
  induction ts generalizing P φ with
  | nil => trivial
  | cons t ts ih =>
      refine ⟨?_, ?_⟩
      · unfold MeetsAt
        split
        · next o k hk =>
            intro ho
            obtain ⟨⟨x, w⟩, hx⟩ := Option.isSome_iff_exists.mp ho
            refine hmeets _ _ _ t o x w hi (hf t _ hk).1 hx (hshorter _ _ ?_ hD)
            refine List.IsPrefix.trans ?_ (log_prefix_run h ts (P.step h t))
            rw [step_eq hk hx]
            refine List.prefix_append_right_inj _ |>.mpr ?_
            cases k x
            · exact ⟨[_], rfl⟩
            · exact List.prefix_refl _
        · trivial
      · obtain ⟨φ', hi', hf'⟩ := run_invariant_at (C := fun _ _ _ _ => True)
          (fun w φ l t o x w' hi ho _ hx => hstep w φ l t o x w' hi ho hx) [t] hi hf
          ⟨by unfold MeetsAt; split <;> simp, trivial⟩
        exact ih hi' hf' hD

/-- The rule for a condition on the world alone. -/
theorem run_invariant {C : Nat → Op → W → Prop}
    (hstep : ∀ w φ l t o x w', I w φ l → M.allow o (φ t) → C t o w → h t o w = some (x, w') →
      M.rely o (φ t) x ∧
      I w' (Function.update φ t (M.next o (φ t) x)) (l ++ [.did t ⟨o, x⟩]) ∧
      ∀ a, post t a (M.next o (φ t) x) →
        I w' (Function.update φ t (M.next o (φ t) x)) (l ++ [.did t ⟨o, x⟩, .returned t a]))
    (ts : List Nat) {P : Pool Ans W α} {φ : Nat → Q} (hi : I P.world φ P.log)
    (hf : AllFollow M post φ P) (hc : StepsMeet C h ts P) :
    ∃ φ', I (run h ts P).world φ' (run h ts P).log ∧ AllFollow M post φ' (run h ts P) :=
  run_invariant_at hstep ts hi hf hc.at_log

end Invariant

end Pool

end Effect
