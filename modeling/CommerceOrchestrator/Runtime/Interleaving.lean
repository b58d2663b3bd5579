/-
# `CommerceOrchestrator.Runtime.Interleaving` — calls at once

Any number of cart commands and checkouts, one thread each, their operations
taken in the order of a schedule.  Every call edits the snapshot it read
(`Call.prog_edits`), so a property of snapshots that edits preserve holds of
every snapshot such a run stores, puts or returns: `atOnce_everywhere`.

Where an edit keeps the property only if a condition `K` holds of the call, of what
it read and of what it puts, the rule is about runs whose edits all meet `K`.
-/
import CommerceOrchestrator.Runtime.Edits
import CommerceOrchestrator.Effect.Pool

namespace Orchestrator

open Effect Prog

/-- Calls at once: their operations in the order of the schedule `ts`. -/
def atOnce (env : Env) (runner : Runner) (calls : List Call) (ts : List Nat) (w : World) :
    Pool Op.Ans World Outcome :=
  Pool.run env.handle.shared ts (Pool.start w (calls.map (·.prog runner)))

abbrev CallEntry := Entry Op.Ans Outcome

/-- The call a thread runs. -/
def threadCall (calls : List Call) (t : Nat) : Call :=
  calls.getD t (.cart (.getCart ⟨⟨⟨0⟩⟩⟩) none)

theorem threadCall_prog {runner : Runner} {calls : List Call} {t : Nat} {p : Eff Outcome}
    (h : (calls.map (·.prog runner))[t]? = some p) : p = (threadCall calls t).prog runner := by
  rw [List.getElem?_map] at h
  obtain ⟨call, hcall, rfl⟩ := Option.map_eq_some_iff.mp h
  rw [threadCall, List.getD_eq_getElem?_getD, hcall]
  rfl

/-- `K` holds of the call, the snapshot read and the one put, if these are what the
two entries record of one thread. -/
def EditMeets (calls : List Call) (K : Call → CartProjection → CartProjection → Prop) :
    CallEntry → CallEntry → Prop
  | .did t ⟨.getCartSnapshot _, some r⟩, .did t' ⟨.putCartSnapshot s, _⟩ =>
      t' = t → K (threadCall calls t) r s
  | _, _ => True

instance {calls : List Call} {K : Call → CartProjection → CartProjection → Prop}
    [∀ call r s, Decidable (K call r s)] {e e' : CallEntry} : Decidable (EditMeets calls K e e') := by
  unfold EditMeets
  split <;> infer_instance

/-- Every edit of the run, as far as it got, meets `K`. -/
def EditsMeet (calls : List Call) (K : Call → CartProjection → CartProjection → Prop)
    (log : List CallEntry) : Prop :=
  ∀ e ∈ log, ∀ e' ∈ log, EditMeets calls K e e'

instance {calls : List Call} {K : Call → CartProjection → CartProjection → Prop}
    [∀ call r s, Decidable (K call r s)] {log : List CallEntry} :
    Decidable (EditsMeet calls K log) :=
  inferInstanceAs (Decidable (∀ e ∈ log, ∀ e' ∈ log, EditMeets calls K e e'))

theorem EditsMeet.of_append {calls : List Call} {K : Call → CartProjection → CartProjection → Prop}
    {log log' : List CallEntry} (h : EditsMeet calls K (log ++ log')) : EditsMeet calls K log :=
  fun e he e' he' => h e (List.mem_append_left _ he) e' (List.mem_append_left _ he')

/-- `G` holds of every snapshot in the stores, in the log and in the hands of a thread. -/
structure Everywhere (calls : List Call) (G : CartProjection → Prop) (w : World)
    (φ : Nat → Progress) (log : List CallEntry) : Prop where
  calls : ∀ t, (φ t).call = threadCall calls t
  stored : ∀ c s, w.events.getCartSnapshot c = some s → G s
  put : ∀ t s x, .did t ⟨.putCartSnapshot s, x⟩ ∈ log → G s
  returned : ∀ t command cartId s, .returned t (.cart command cartId (.ok s)) ∈ log → G s
  read : ∀ t s, (φ t).read = some s → G s ∧ ∃ c, .did t ⟨.getCartSnapshot c, some s⟩ ∈ log
  pending : ∀ t s, (φ t).put = some s → G s

section Rule

variable {A : Answers} {K : Call → CartProjection → CartProjection → Prop}
  {G : CartProjection → Prop} {env : Env} {runner : Runner} {calls : List Call} {w : World}
  {φ : Nat → Progress} {log : List CallEntry} {t : Nat}

theorem Everywhere.start (hw : ∀ c s, w.events.getCartSnapshot c = some s → G s) :
    Everywhere calls G w (fun t => ⟨threadCall calls t, none, none, false⟩) [] where
  calls _ := rfl
  stored := hw
  put := by simp
  returned := by simp
  read _ _ h := by cases h
  pending _ _ h := by cases h

/-- The snapshot a thread puts. -/
theorem Everywhere.puts {s : CartProjection}
    (hputs : ∀ call read s, (∀ r, read = some r → G r ∧ K call r s) →
      Puts A runner call read s → G s)
    (h : Everywhere calls G w φ log) (ho : (editMonitor A runner).allow (.putCartSnapshot s) (φ t))
    (hmeets : EditsMeet calls K
      (log ++ [.did t ⟨.putCartSnapshot s, (env.handle (.putCartSnapshot s) w).1⟩])) : G s := by
  refine hputs _ _ s (fun r hr => ?_) ho.1
  obtain ⟨hG, c, hm⟩ := h.read t r hr
  refine ⟨hG, ?_⟩
  rw [h.calls t]
  have hedit : EditMeets calls K (.did t ⟨.getCartSnapshot c, some r⟩)
      (.did t ⟨.putCartSnapshot s, (env.handle (.putCartSnapshot s) w).1⟩) :=
    hmeets _ (List.mem_append_left _ hm) _ (List.mem_append_right _ (List.mem_singleton_self _))
  exact hedit rfl

/-- The snapshot a thread has read, after an operation. -/
theorem Everywhere.reads {o : Op} {s : CartProjection} (h : Everywhere calls G w φ log)
    (hs : ((editMonitor A runner).next o (φ t) (env.handle o w).1).read = some s) :
    G s ∧ ∃ c, .did t ⟨.getCartSnapshot c, some s⟩ ∈ log ++ [.did t ⟨o, (env.handle o w).1⟩] := by
  by_cases hget : ∃ c, o = .getCartSnapshot c
  · obtain ⟨c, rfl⟩ := hget
    have hans : (env.handle (.getCartSnapshot c) w).1 = some s := hs
    have hstored : w.events.getCartSnapshot c = some s := World.read_some hans
    refine ⟨h.stored c s hstored, c, ?_⟩
    rw [hans]
    exact List.mem_append_right _ (List.mem_singleton_self _)
  · have hold : (φ t).read = some s := by
      cases o with
      | getCartSnapshot c => exact absurd ⟨c, rfl⟩ hget
      | _ => exact hs
    obtain ⟨hG, c, hm⟩ := h.read t s hold
    exact ⟨hG, c, List.mem_append_left _ hm⟩

/-- The snapshot a thread has put, after an operation. -/
theorem Everywhere.pends {o : Op} {s : CartProjection} (h : Everywhere calls G w φ log)
    (hput : ∀ s, o = .putCartSnapshot s → G s)
    (hs : ((editMonitor A runner).next o (φ t) (env.handle o w).1).put = some s) : G s := by
  by_cases hp : ∃ s', o = .putCartSnapshot s'
  · obtain ⟨s', rfl⟩ := hp
    exact Option.some.inj hs ▸ hput s' rfl
  · refine h.pending t s ?_
    cases o with
    | putCartSnapshot s' => exact absurd ⟨s', rfl⟩ hp
    | _ => exact hs

/-- One allowed operation of one thread. -/
theorem Everywhere.did {o : Op}
    (hputs : ∀ call read s, (∀ r, read = some r → G r ∧ K call r s) →
      Puts A runner call read s → G s)
    (h : Everywhere calls G w φ log) (ho : (editMonitor A runner).allow o (φ t))
    (hmeets : EditsMeet calls K (log ++ [.did t ⟨o, (env.handle o w).1⟩])) :
    Everywhere calls G (env.handle o w).2
      (Function.update φ t ((editMonitor A runner).next o (φ t) (env.handle o w).1))
      (log ++ [.did t ⟨o, (env.handle o w).1⟩]) := by
  have hput : ∀ s, o = .putCartSnapshot s → G s := by
    rintro s rfl
    exact h.puts hputs ho hmeets
  constructor
  · intro t'
    rw [Pool.update_keeps Progress.call (editMonitor_next_call A runner o (φ t) (env.handle o w).1)]
    exact h.calls t'
  · intro c s hs
    by_cases hp : ∃ s', o = .putCartSnapshot s'
    · obtain ⟨s', rfl⟩ := hp
      rw [Env.handle_putCartSnapshot_snapshot] at hs
      split at hs
      · exact Option.some.inj hs ▸ hput s' rfl
      · exact h.stored c s hs
    · rw [Env.handle_snapshot fun s' he => hp ⟨s', he⟩] at hs
      exact h.stored c s hs
  · intro t' s x hm
    rcases List.mem_append.mp hm with hm | hm
    · exact h.put t' s x hm
    · obtain ⟨-, he⟩ := Entry.did.inj (List.mem_singleton.mp hm)
      exact hput s (congrArg Sigma.fst he).symm
  · intro t' command cartId s hm
    exact h.returned t' command cartId s (by simpa using hm)
  · intro t' s hs
    by_cases ht : t' = t
    · subst ht
      rw [Function.update_self] at hs
      exact h.reads hs
    · rw [Function.update_of_ne ht] at hs
      obtain ⟨hG, c, hm⟩ := h.read t' s hs
      exact ⟨hG, c, List.mem_append_left _ hm⟩
  · intro t' s hs
    by_cases ht : t' = t
    · subst ht
      rw [Function.update_self] at hs
      exact h.pends hput hs
    · rw [Function.update_of_ne ht] at hs
      exact h.pending t' s hs

theorem Everywhere.returns {out : Outcome} (h : Everywhere calls G w φ log)
    (hout : Shows out (φ t)) : Everywhere calls G w φ (log ++ [.returned t out]) where
  calls := h.calls
  stored := h.stored
  put t' s x hm := h.put t' s x (by simpa using hm)
  returned := by
    intro t' command cartId s hm
    rcases List.mem_append.mp hm with hm | hm
    · exact h.returned t' command cartId s hm
    · obtain ⟨rfl, rfl⟩ := Entry.returned.inj (List.mem_singleton.mp hm)
      rcases hout.shown command cartId s rfl with ⟨hp, -⟩ | ⟨-, hr, -⟩
      · exact h.pending t' s hp
      · exact (h.read t' s hr).1
  read t' s hs := by
    obtain ⟨hG, c, hm⟩ := h.read t' s hs
    exact ⟨hG, c, List.mem_append_left _ hm⟩
  pending := h.pending

/-- **The rule.**  What every edit preserves holds of every snapshot a run of calls
at once stores, puts or returns. -/
theorem atOnce_everywhere {ts : List Nat} (hA : ∀ o w, A ⟨o, (env.handle o w).1⟩)
    (hputs : ∀ call read s, (∀ r, read = some r → G r ∧ K call r s) →
      Puts A runner call read s → G s)
    (hw : ∀ c s, w.events.getCartSnapshot c = some s → G s)
    (hmeets : EditsMeet calls K (atOnce env runner calls ts w).log) :
    ∃ φ, Everywhere calls G (atOnce env runner calls ts w).world φ
      (atOnce env runner calls ts w).log := by
  have hstart : Pool.AllFollow (editMonitor A runner) (fun _ => Shows)
      (fun t => ⟨threadCall calls t, none, none, false⟩) (Pool.start w (calls.map (·.prog runner))) := by
    intro t p hp
    rw [threadCall_prog hp]
    exact Call.prog_edits _
  obtain ⟨φ, h, -⟩ := Pool.run_invariant (C := fun _ _ _ => True)
    (I := fun w φ log => EditsMeet calls K log → Everywhere calls G w φ log)
    (by
      intro w φ log t o x w' h ho _ hx
      obtain ⟨rfl, rfl⟩ := Handler.shared_eq_some.mp hx
      have hdid (hm : EditsMeet calls K (log ++ [.did t ⟨o, (env.handle o w).1⟩])) :=
        (h hm.of_append).did hputs ho hm
      refine ⟨hA o w, hdid, fun out hout hm => ?_⟩
      rw [List.append_cons] at hm ⊢
      refine (hdid hm.of_append).returns ?_
      rwa [Function.update_self])
    ts (fun _ => Everywhere.start hw) hstart Pool.stepsMeet_true
  exact ⟨φ, h hmeets⟩

/-- The rule for edits that preserve the property under no condition. -/
theorem atOnce_everywhere' {ts : List Nat}
    (hputs : ∀ call read s, (∀ r, read = some r → G r) →
      Puts (fun _ => True) runner call read s → G s)
    (hw : ∀ c s, w.events.getCartSnapshot c = some s → G s) :
    ∃ φ, Everywhere calls G (atOnce env runner calls ts w).world φ
      (atOnce env runner calls ts w).log := by
  refine atOnce_everywhere (K := fun _ _ _ => True) (fun _ _ => trivial)
    (fun call read s hread => hputs call read s fun r hr => (hread r hr).1) hw ?_
  intro e _ e' _
  unfold EditMeets
  split
  · exact fun _ => trivial
  · trivial

end Rule

/-! ## Reached worlds -/

/-- Some run of calls at once from nothing leads to `w`. -/
def Reached (env : Env) (runner : Runner) (w : World) : Prop :=
  ∃ calls ts, (atOnce env runner calls ts World.empty).world = w

/-- Snapshots are filed under the id they carry. -/
def Filed (w : World) : Prop := ∀ c s, w.events.getCartSnapshot c = some s → s.cartId = c

theorem Filed.handle {env : Env} {w : World} (h : Filed w) (o : Op) : Filed (env.handle o w).2 := by
  intro c s hs
  by_cases ho : ∃ s', o = .putCartSnapshot s'
  · obtain ⟨s', rfl⟩ := ho
    rw [Env.handle_putCartSnapshot_snapshot] at hs
    split at hs
    · next hc => exact Option.some.inj hs ▸ hc.2.symm
    · exact h c s hs
  · rw [Env.handle_snapshot fun s' he => ho ⟨s', he⟩] at hs
    exact h c s hs

theorem Reached.filed {env : Env} {runner : Runner} {w : World} (h : Reached env runner w) :
    Filed w := by
  obtain ⟨calls, ts, rfl⟩ := h
  refine Pool.run_preserves (I := Filed) ?_ ?_
  · intro t o w x w' hw hx
    obtain ⟨-, rfl⟩ := Handler.shared_eq_some.mp hx
    exact hw.handle o
  · intro c s hs
    cases hs

end Orchestrator
