/-
# `CommerceOrchestrator.Runtime.EditChecks` — what a call has made sure of before it puts

`Edited` says what a call makes of the snapshot it read, but not all that it has checked
on the way.  `checkMonitor K` asks that `K` holds of the call, the snapshot read and the one
put whenever a call puts.  If every call follows it, every edit of a run of calls at once
meets `K`: `atOnce_editsMeet`.
-/
import CommerceOrchestrator.Runtime.Interleaving

namespace Orchestrator

open Effect Prog

variable {K : Call → CartProjection → CartProjection → Prop} {runner : Runner} {calls : List Call}

/-- A call reads before it puts, and `K` holds where it puts. -/
def checkMonitor (K : Call → CartProjection → CartProjection → Prop) : Monitor Op.Ans Progress where
  allow o q :=
    match o with
    | .getCartSnapshot _ => q.read = none ∧ q.put = none
    | .putCartSnapshot s => ∀ r, q.read = some r → K q.call r s
    | _ => True
  rely _ _ _ := True
  next o q x :=
    match o, x with
    | .getCartSnapshot _, x => { q with read := x }
    | .putCartSnapshot s, _ => { q with put := some s }
    | _, _ => q

section Next

variable {o : Op} {q : Progress} {x : o.Ans}

theorem checkMonitor_next_call : ((checkMonitor K).next o q x).call = q.call := by
  cases o <;> rfl

theorem checkMonitor_next_read (hget : ∀ c, o ≠ .getCartSnapshot c) :
    ((checkMonitor K).next o q x).read = q.read := by
  cases o with
  | getCartSnapshot c => exact absurd rfl (hget c)
  | _ => rfl

theorem checkMonitor_next_put (hput : q.put ≠ none) : ((checkMonitor K).next o q x).put ≠ none := by
  cases o with
  | putCartSnapshot s => exact Option.some_ne_none s
  | _ => exact hput

end Next

theorem Puts.edit {A : Answers} {call : Call} {r s : CartProjection}
    (h : Puts A runner call (some r) s) : Edited A runner call r s := by
  cases h with
  | edited he => exact he

/-- A path that edits as it may follows the monitor, if its edits meet `K`. -/
theorem checkMonitor_accepts {P : Progress → Prop} {tr : List (Event Op.Ans)} {q q' : Progress}
    (hK : ∀ r s, Edited (fun _ => True) runner q.call r s → K q.call r s)
    (hcall : q'.call = q.call) (hread : q'.read = q.read) (hput : q'.put = q.put)
    (h : (editMonitor (fun _ => True) runner).Accepts P tr q) :
    (checkMonitor K).Accepts (fun _ => True) tr q' := by
  induction tr generalizing q q' with
  | nil => exact trivial
  | cons e tr ih =>
      obtain ⟨o, x⟩ := e
      obtain ⟨hallow, hrest⟩ := h
      have hrest := hrest trivial
      cases o with
      | getCartSnapshot c =>
          refine ⟨⟨hread.trans hallow.2.1, hput.trans hallow.2.2⟩, fun _ => ?_⟩
          exact ih (q := { q with read := x }) hK hcall rfl hput hrest
      | putCartSnapshot s =>
          refine ⟨fun r hr => ?_, fun _ => ?_⟩
          · rw [hcall]
            have hputs := hallow.1
            rw [← hread, hr] at hputs
            exact hK r s hputs.edit
          · exact ih (q := { q with put := some s, saved := tookHold x }) hK hcall hread rfl hrest
      | _ => exact ⟨trivial, fun _ => ih hK hcall hread hput hrest⟩

/-- A call whose edits all meet `K` makes sure of it. -/
theorem Call.prog_checks {call : Call}
    (hK : ∀ r s, Edited (fun _ => True) runner call r s → K call r s) :
    (call.prog runner).Follows (checkMonitor K) (fun _ _ => True) ⟨call, none, none, false⟩ := by
  refine Follows.of_trace fun tr out ht => ?_
  have hedits : (call.prog runner).Follows (editMonitor (fun _ => True) runner) Shows
      ⟨call, none, none, false⟩ := Call.prog_edits call
  exact checkMonitor_accepts (q := ⟨call, none, none, false⟩) hK rfl rfl rfl (hedits.trace ht)

/-! ## Runs -/

/-- What the log shows of the threads, and that `K` holds of what each has read and put. -/
structure ChecksKept (K : Call → CartProjection → CartProjection → Prop) (calls : List Call)
    (φ : Nat → Progress) (log : List CallEntry) : Prop where
  call : ∀ t, (φ t).call = threadCall calls t
  read : ∀ t c r, .did t ⟨.getCartSnapshot c, some r⟩ ∈ log → (φ t).read = some r
  put : ∀ t s x, .did t ⟨.putCartSnapshot s, x⟩ ∈ log → (φ t).put ≠ none
  meets : ∀ t c r s x, .did t ⟨.getCartSnapshot c, some r⟩ ∈ log →
    .did t ⟨.putCartSnapshot s, x⟩ ∈ log → K (threadCall calls t) r s

theorem ChecksKept.start :
    ChecksKept K calls (fun t => ⟨threadCall calls t, none, none, false⟩) [] where
  call _ := rfl
  read _ _ _ h := absurd h List.not_mem_nil
  put _ _ _ h := absurd h List.not_mem_nil
  meets _ _ _ _ _ h := absurd h List.not_mem_nil

section Step

variable {φ : Nat → Progress} {log : List CallEntry} {t : Nat} {o : Op} {x : o.Ans}

theorem ChecksKept.did (h : ChecksKept K calls φ log) (ho : (checkMonitor K).allow o (φ t)) :
    ChecksKept K calls (Function.update φ t ((checkMonitor K).next o (φ t) x))
      (log ++ [.did t ⟨o, x⟩]) := by
  constructor
  · intro t'
    rw [Pool.update_keeps Progress.call checkMonitor_next_call]
    exact h.call t'
  · intro t' c r hm
    rcases List.mem_append.mp hm with hm | hm
    · have hread := h.read t' c r hm
      by_cases ht : t' = t
      · subst ht
        rw [Function.update_self, checkMonitor_next_read, hread]
        rintro c' rfl
        exact Option.some_ne_none r (hread.symm.trans ho.1)
      · rw [Function.update_of_ne ht, hread]
    · cases List.mem_singleton.mp hm
      rw [Function.update_self]
      rfl
  · intro t' s x' hm
    rcases List.mem_append.mp hm with hm | hm
    · have hput := h.put t' s x' hm
      by_cases ht : t' = t
      · subst ht
        rw [Function.update_self]
        exact checkMonitor_next_put hput
      · rwa [Function.update_of_ne ht]
    · cases List.mem_singleton.mp hm
      rw [Function.update_self]
      exact Option.some_ne_none s
  · intro t' c r s x' hget hput
    rcases List.mem_append.mp hget with hgot | hnew
    · rcases List.mem_append.mp hput with hput | hput
      · exact h.meets t' c r s x' hgot hput
      · cases List.mem_singleton.mp hput
        exact h.call t ▸ ho r (h.read t c r hgot)
    · cases List.mem_singleton.mp hnew
      -- a call that has put reads no more
      rcases List.mem_append.mp hput with hput | hput
      · exact absurd ho.2 (h.put t s x' hput)
      · cases List.mem_singleton.mp hput

theorem ChecksKept.returned {out : Outcome} (h : ChecksKept K calls φ log) :
    ChecksKept K calls φ (log ++ [.returned t out]) where
  call := h.call
  read t' c r hm := h.read t' c r (by simpa using hm)
  put t' s x hm := h.put t' s x (by simpa using hm)
  meets t' c r s x hget hput :=
    h.meets t' c r s x (by simpa using hget) (by simpa using hput)

end Step

/-- **The rule.**  What every call makes sure of before it puts, every edit of a run meets. -/
theorem atOnce_editsMeet {env : Env} {ts : List Nat} {w : World}
    (hprog : ∀ call : Call, (call.prog runner).Follows (checkMonitor K) (fun _ _ => True)
      ⟨call, none, none, false⟩) :
    EditsMeet calls K (atOnce env runner calls ts w).log := by
  have hstart : Pool.AllFollow (checkMonitor K) (fun _ _ _ => True)
      (fun t => ⟨threadCall calls t, none, none, false⟩)
      (Pool.start w (calls.map (·.prog runner))) := by
    intro t p hp
    rw [threadCall_prog hp]
    exact hprog _
  obtain ⟨φ, h, -⟩ := Pool.run_invariant (C := fun _ _ _ => True)
    (I := fun _ φ log => ChecksKept K calls φ log)
    (by
      intro w φ log t o x w' h ho _ hx
      refine ⟨trivial, h.did ho, fun out _ => ?_⟩
      rw [List.append_cons]
      exact (h.did ho).returned)
    ts ChecksKept.start hstart Pool.stepsMeet_true
  intro e he e' he'
  unfold EditMeets
  split
  · rintro rfl
    exact h.meets _ _ _ _ _ he he'
  · trivial

/-- Edits that meet two conditions meet both. -/
theorem EditsMeet.and {K' : Call → CartProjection → CartProjection → Prop} {log : List CallEntry}
    (h : EditsMeet calls K log) (h' : EditsMeet calls K' log) :
    EditsMeet calls (fun call r s => K call r s ∧ K' call r s) log := by
  intro e he e' he'
  have hmeets := h e he e' he'
  have hmeets' := h' e he e' he'
  unfold EditMeets at *
  split
  · exact fun ht => ⟨hmeets ht, hmeets' ht⟩
  · trivial

end Orchestrator
