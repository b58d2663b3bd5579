/-
# `CommerceOrchestrator.Effect.WriteThrough` — values in memory that are saved to files

A service keeps a value per cell.  A call changes the value of its cell under the write
lock, lets go of the lock, and then saves: it takes the read lock, writes down what
the value is by now, and puts that into the file of the cell.  So the changes and the
saves of different calls interleave, several saves may be under way at once, and
none of them need save what its own call wrote.  When the process is stopped and started
again, every cell is read back from its file.

A reference performs the same calls on a state that is never lost.  `Refinement` says
what makes the one stand for the other, for one call; `Refinement.served` concludes for
whole histories that the answers are the reference's and that a file holds the effect of
every saved call that has returned.
-/
import CommerceOrchestrator.Effect.Pool

namespace Effect

/-- What a call does while it holds the lock: its answer, the new value, and whether it
goes on to save. -/
structure Critical (A V : Type) where
  answer : A
  value : V
  saves : Bool

/-- Change the value, and save. -/
def Critical.saving {A V : Type} (answer : A) (value : V) : Critical A V := ⟨answer, value, true⟩

/-- Leave the value as it is. -/
def Critical.keeping {A V : Type} (answer : A) (value : V) : Critical A V :=
  ⟨answer, value, false⟩

/-- Cells with their values, and the calls that work on them. -/
structure Service where
  Cell : Type
  [cells : DecidableEq Cell]
  Value : Cell → Type
  initial : (i : Cell) → Value i
  Input : Type
  Call : Type
  Ans : Call → Type
  cell : Call → Cell
  enter : (c : Call) → Input → Value (cell c) → Critical (Ans c) (Value (cell c))
  /-- A call that only reads takes the read lock, and changes nothing. -/
  reads : Call → Bool
  enter_reads : ∀ c n v, reads c → (enter c n v).value = v ∧ (enter c n v).saves = false

namespace Service

attribute [instance] Service.cells

variable (S : Service)

/-- The steps of a call. -/
inductive Step
  | enter (c : S.Call)
  | lock (c : S.Call)
  | serialize (c : S.Call)
  | write (c : S.Call) (v : S.Value (S.cell c))
  | unlock (c : S.Call)

/-- Entering reports what was read from outside, the answer, and whether to save. -/
abbrev StepAns : S.Step → Type
  | .enter c => S.Input × S.Ans c × Bool
  | .serialize c => S.Value (S.cell c)
  | .lock _ | .write .. | .unlock _ => Unit

/-- A call and what it returned. -/
abbrev Returned := (c : S.Call) × S.Ans c

def prog (c : S.Call) : Prog S.StepAns S.Returned :=
  .op (.enter c) fun x =>
    if x.2.2 then
      .op (.lock c) fun _ =>
        .op (.serialize c) fun v =>
          .op (.write c v) fun _ =>
            .op (.unlock c) fun _ => .ret ⟨c, x.2.1⟩
    else .ret ⟨c, x.2.1⟩

/-- A running process and its files; `readers` are the threads that hold the read lock. -/
structure Server where
  mem : (i : S.Cell) → S.Value i
  readers : S.Cell → List Nat
  file : (i : S.Cell) → Option (S.Value i)
  clock : Nat

variable {S}

/-- What a cell is after its file has been read; without a file it is the initial one. -/
def Server.saved (w : S.Server) (i : S.Cell) : S.Value i := (w.file i).getD (S.initial i)

/-- Stop, and start again. -/
def Server.reopen (w : S.Server) : S.Server :=
  { w with mem := w.saved, readers := fun _ => [] }

variable (S) in
/-- A first start, in an empty directory. -/
def Server.empty : S.Server where
  mem := S.initial
  readers _ := []
  file _ := none
  clock := 0

/-- Thread `t` takes the read lock of a cell. -/
def Server.acquire (w : S.Server) (t : Nat) (i : S.Cell) : S.Server :=
  { w with readers := Function.update w.readers i (t :: w.readers i) }

/-- Thread `t` gives the read lock back. -/
def Server.release (w : S.Server) (t : Nat) (i : S.Cell) : S.Server :=
  { w with readers := Function.update w.readers i ((w.readers i).filter (· ≠ t)) }

/-- Put a value into the file of a cell. -/
def Server.put (w : S.Server) (i : S.Cell) (v : S.Value i) : S.Server :=
  { w with file := Function.update w.file i (some v) }

section Server

variable {w : S.Server} {t t' : Nat} {i j : S.Cell} {v : S.Value i}

theorem Server.mem_acquire_self : t ∈ (w.acquire t i).readers i := by
  simp [acquire]

theorem Server.mem_acquire (h : t' ∈ w.readers j) : t' ∈ (w.acquire t i).readers j := by
  by_cases hj : j = i
  · subst hj
    simp [acquire, h]
  · simp [acquire, Function.update_of_ne hj, h]

theorem Server.mem_release (ht : t' ≠ t) (h : t' ∈ w.readers j) :
    t' ∈ (w.release t i).readers j := by
  by_cases hj : j = i
  · subst hj
    simp [release, h, ht]
  · simp [release, Function.update_of_ne hj, h]

theorem Server.saved_put_self : (w.put i v).saved i = v := by
  simp [saved, put]

theorem Server.saved_put_ne (h : j ≠ i) : (w.put i v).saved j = w.saved j := by
  simp [saved, put, Function.update_of_ne h]

end Server

/-- A call that writes waits for the readers of its cell. -/
def handle (input : Nat → S.Input) : SharedHandler S.StepAns S.Server
  | _, .enter c, w =>
      if S.reads c = false ∧ w.readers (S.cell c) ≠ [] then none
      else
        let r := S.enter c (input w.clock) (w.mem (S.cell c))
        some ((input w.clock, r.answer, r.saves),
          { w with mem := Function.update w.mem (S.cell c) r.value, clock := w.clock + 1 })
  | t, .lock c, w => some ((), w.acquire t (S.cell c))
  | _, .serialize c, w => some (w.mem (S.cell c), w)
  | _, .write c v, w => some ((), w.put (S.cell c) v)
  | t, .unlock c, w => some ((), w.release t (S.cell c))

/-! ## How far a call has come -/

variable (S) in
/-- Where a thread stands; one that does not exist is idle. -/
inductive Stage
  | idle
  | ready (c : S.Call)
  | dirty (c : S.Call) (a : S.Ans c)
  | locked (c : S.Call) (a : S.Ans c)
  | holding (c : S.Call) (a : S.Ans c) (v : S.Value (S.cell c))
  | written (c : S.Call) (a : S.Ans c)
  | done (c : S.Call) (a : S.Ans c)

namespace Stage

/-- The call whose effect is still to be saved. -/
def pending : S.Stage → Option S.Call
  | .dirty c _ | .locked c _ | .holding c _ _ => some c
  | _ => none

/-- The call that holds the read lock. -/
def holds : S.Stage → Option S.Call
  | .locked c _ | .holding c _ _ | .written c _ => some c
  | _ => none

/-- What the call is going to return. -/
def answer : S.Stage → Option S.Returned
  | .idle | .ready _ => none
  | .dirty c a | .locked c a | .holding c a _ | .written c a | .done c a => some ⟨c, a⟩

end Stage

variable (S) in
/-- A call enters, and if it changed something to be saved it locks, serializes, writes
what it serialized, and unlocks. -/
def stageMonitor : Monitor S.StepAns S.Stage where
  allow o q :=
    match o with
    | .enter c => q = .ready c
    | .lock c => ∃ a, q = .dirty c a
    | .serialize c => ∃ a, q = .locked c a
    | .write c v => ∃ a, q = .holding c a v
    | .unlock c => ∃ a, q = .written c a
  next o q x :=
    match o, q, x with
    | .enter c, _, x => if x.2.2 then .dirty c x.2.1 else .done c x.2.1
    | .lock _, .dirty c a, _ => .locked c a
    | .serialize c, .locked c' a, v =>
        if h : S.cell c = S.cell c' then .holding c' a (h ▸ v) else .locked c' a
    | .write .., .holding c a _, _ => .written c a
    | .unlock _, .written c a, _ => .done c a
    | _, q, _ => q

theorem prog_follows (c : S.Call) :
    (S.prog c).Follows S.stageMonitor (fun r q => q = .done r.1 r.2) (.ready c) := by
  refine ⟨rfl, fun ⟨n, a, saves⟩ _ => ?_⟩
  cases saves with
  | false => exact rfl
  | true =>
      refine ⟨⟨a, rfl⟩, fun _ _ => ⟨⟨a, rfl⟩, fun v _ => ?_⟩⟩
      have hnext : S.stageMonitor.next (.serialize c) (.locked c a) v = .holding c a v :=
        dif_pos rfl
      have hstage : S.stageMonitor.next (.serialize c)
          (S.stageMonitor.next (.lock c) (.dirty c a) ()) v = .holding c a v := hnext
      show Prog.Follows _ _ _ (S.stageMonitor.next (.serialize c)
          (S.stageMonitor.next (.lock c) (.dirty c a) ()) v)
      rw [hstage]
      exact ⟨⟨a, rfl⟩, fun _ _ => ⟨⟨a, rfl⟩, fun _ _ => rfl⟩⟩

/-! ## What was entered, in order -/

variable (S) in
/-- A call that has entered: who, what it read from outside, and what came of it. -/
structure Taken where
  thread : Nat
  call : S.Call
  input : S.Input
  answer : S.Ans call
  saves : Bool

def takenEntry : Entry S.StepAns S.Returned → Option S.Taken
  | .did t ⟨.enter c, x⟩ => some ⟨t, c, x.1, x.2.1, x.2.2⟩
  | _ => none

def taken (log : List (Entry S.StepAns S.Returned)) : List S.Taken := log.filterMap takenEntry

end Service

/-! ## The reference -/

/-- The same calls on states that are never lost. -/
structure Reference (S : Service) where
  State : S.Cell → Type
  initial : (i : S.Cell) → State i
  Ans : S.Call → Type
  step : (c : S.Call) → S.Input → State (S.cell c) → Ans c × State (S.cell c)

namespace Reference

variable {S : Service} (R : Reference S)

def next (σ : (i : S.Cell) → R.State i) (e : S.Taken) : (i : S.Cell) → R.State i :=
  Function.update σ (S.cell e.call) (R.step e.call e.input (σ (S.cell e.call))).2

/-- The state after calls, from the initial one. -/
def after (l : List S.Taken) : (i : S.Cell) → R.State i := l.foldl R.next R.initial

theorem after_append_self (l : List S.Taken) (e : S.Taken) :
    R.after (l ++ [e]) (S.cell e.call) =
      (R.step e.call e.input (R.after l (S.cell e.call))).2 := by
  rw [after, List.foldl_append]
  exact Function.update_self _ _ _

theorem after_append_ne (l : List S.Taken) {e : S.Taken} {i : S.Cell} (h : i ≠ S.cell e.call) :
    R.after (l ++ [e]) i = R.after l i := by
  rw [after, List.foldl_append]
  exact Function.update_of_ne h _ _

end Reference

/-- Values stand for states of a reference.  `Meets` is what a call needs for that to go on. -/
structure Refinement (S : Service) (R : Reference S) where
  Rep : (i : S.Cell) → S.Value i → R.State i → Prop
  Same : (c : S.Call) → S.Ans c → R.Ans c → Prop
  Meets : (c : S.Call) → S.Input → S.Value (S.cell c) → R.State (S.cell c) → Prop
  initial : ∀ i, Rep i (S.initial i) (R.initial i)
  step : ∀ c n v s, Meets c n v s → Rep _ v s →
    Same c (S.enter c n v).answer (R.step c n s).1 ∧ Rep _ (S.enter c n v).value (R.step c n s).2
  /-- A saved value stands for the state also after a call that does not save. -/
  lag : ∀ c n v s f, Meets c n v s → Rep _ v s → (S.enter c n v).saves = false →
    Rep _ f s → Rep _ f (R.step c n s).2

namespace Refinement

open Service

variable {S : Service} {R : Reference S} (F : Refinement S R)

/-- Every answer is one the reference gives, to the same calls in the same order. -/
def Agrees (l : List S.Taken) : Prop :=
  ∀ l₁ e l₂, l = l₁ ++ e :: l₂ →
    F.Same e.call e.answer (R.step e.call e.input (R.after l₁ (S.cell e.call))).1

variable {F}

theorem Agrees.nil : F.Agrees [] := by
  intro l₁ e l₂ h
  simp at h

theorem Agrees.append {l : List S.Taken} {e : S.Taken} (h : F.Agrees l)
    (he : F.Same e.call e.answer (R.step e.call e.input (R.after l (S.cell e.call))).1) :
    F.Agrees (l ++ [e]) := by
  intro l₁ e' l₂ heq
  rcases List.eq_nil_or_concat l₂ with rfl | ⟨l₂', e'', rfl⟩
  · obtain ⟨rfl, he'⟩ := List.append_inj' heq rfl
    obtain rfl := List.singleton_inj.mp he'
    exact he
  · rw [List.concat_eq_append, ← List.cons_append, ← List.append_assoc] at heq
    obtain ⟨rfl, -⟩ := List.append_inj' heq rfl
    exact h l₁ e' l₂' rfl

variable (F)

/-- What a call needs when it enters after `past` and the calls in the log. -/
def Needs (input : Nat → S.Input) (past : List S.Taken) (_ : Nat) (o : S.Step) (w : S.Server)
    (log : List (Entry S.StepAns S.Returned)) : Prop :=
  ∀ c, o = .enter c →
    F.Meets c (input w.clock) (w.mem (S.cell c)) (R.after (past ++ taken log) (S.cell c))

/-- What a running process looks like, `past` having been entered before it was started:
memory stands for the reference; a file stands for it as it was at some point, since
when only calls have entered that do not save or are still about to. -/
structure Serving (past : List S.Taken) (w : S.Server) (φ : Nat → S.Stage)
    (log : List (Entry S.StepAns S.Returned)) : Prop where
  mem : ∀ i, F.Rep i (w.mem i) (R.after (past ++ taken log) i)
  agrees : F.Agrees (past ++ taken log)
  holding : ∀ t c a v, φ t = .holding c a v → v = w.mem (S.cell c)
  readers : ∀ t c, (φ t).holds = some c → t ∈ w.readers (S.cell c)
  file : ∀ i, ∃ l₁ l₂, taken log = l₁ ++ l₂ ∧ F.Rep i (w.saved i) (R.after (past ++ l₁) i) ∧
    ∀ e ∈ l₂, S.cell e.call = i → e.saves → (φ e.thread).pending = some e.call
  current : ∀ i, F.Rep i (w.saved i) (R.after (past ++ taken log) i) ∨
    ∃ t c, S.cell c = i ∧ (φ t).pending = some c
  returned : ∀ t r, .returned t r ∈ log → φ t = .done r.1 r.2
  took : ∀ t c a, (φ t).answer = some ⟨c, a⟩ → ∃ n saves, ⟨t, c, n, a, saves⟩ ∈ taken log

variable {F} {input : Nat → S.Input} {past : List S.Taken} {w : S.Server} {φ : Nat → S.Stage}
  {log : List (Entry S.StepAns S.Returned)} {t : Nat} {c : S.Call}

theorem taken_did {o : S.Step} {x : S.StepAns o} (h : ∀ c, o ≠ .enter c) :
    taken (log ++ [.did t ⟨o, x⟩]) = taken log := by
  rw [taken, List.filterMap_append]
  cases o with
  | enter c => exact absurd rfl (h c)
  | lock | serialize | write | unlock => exact List.append_nil _

theorem taken_enter {x : S.StepAns (.enter c)} :
    taken (log ++ [.did t ⟨.enter c, x⟩]) = taken log ++ [⟨t, c, x.1, x.2.1, x.2.2⟩] := by
  rw [taken, List.filterMap_append]
  rfl

theorem taken_returned {r : S.Returned} : taken (log ++ [.returned t r]) = taken log := by
  rw [taken, List.filterMap_append]
  exact List.append_nil _

/-- A call returns what it is done with. -/
theorem Serving.returns {r : S.Returned} (h : F.Serving past w φ log)
    (hr : φ t = .done r.1 r.2) : F.Serving past w φ (log ++ [.returned t r]) := by
  constructor
  · rw [taken_returned]
    exact h.mem
  · rw [taken_returned]
    exact h.agrees
  · exact h.holding
  · exact h.readers
  · rw [taken_returned]
    exact h.file
  · rw [taken_returned]
    exact h.current
  · intro t' r' hm
    rcases List.mem_append.mp hm with hm | hm
    · exact h.returned t' r' hm
    · obtain ⟨rfl, rfl⟩ := Entry.returned.inj (List.mem_singleton.mp hm)
      exact hr
  · rw [taken_returned]
    exact h.took

theorem handle_enter {x : S.StepAns (.enter c)} {w' : S.Server}
    (h : handle input t (.enter c) w = some (x, w')) :
    (S.reads c = true ∨ w.readers (S.cell c) = []) ∧
      x = (input w.clock, (S.enter c (input w.clock) (w.mem (S.cell c))).answer,
        (S.enter c (input w.clock) (w.mem (S.cell c))).saves) ∧
      w' = { w with
        mem := Function.update w.mem (S.cell c)
          (S.enter c (input w.clock) (w.mem (S.cell c))).value
        clock := w.clock + 1 } := by
  rw [handle] at h
  by_cases hwait : S.reads c = false ∧ w.readers (S.cell c) ≠ []
  · rw [if_pos hwait] at h
    cases h
  · rw [if_neg hwait] at h
    cases h
    refine ⟨?_, rfl, rfl⟩
    rw [not_and_or, not_not] at hwait
    exact hwait.imp_left eq_true_of_ne_false

/-- A value that a thread holds does not change when another call enters. -/
theorem Serving.mem_enter (h : F.Serving past w φ log) {t' : Nat} {c' : S.Call}
    (hfree : S.reads c = true ∨ w.readers (S.cell c) = [])
    (ht' : (φ t').holds = some c') :
    Function.update w.mem (S.cell c) (S.enter c (input w.clock) (w.mem (S.cell c))).value
      (S.cell c') = w.mem (S.cell c') := by
  by_cases hcell : S.cell c' = S.cell c
  · rcases hfree with hreads | hnone
    · rw [(S.enter_reads c (input w.clock) (w.mem (S.cell c)) hreads).1, Function.update_eq_self]
    · have hm := h.readers t' c' ht'
      rw [hcell, hnone] at hm
      exact absurd hm List.not_mem_nil
  · exact Function.update_of_ne hcell _ _

/-- The stage a call is in once it has entered. -/
def entered (c : S.Call) (a : S.Ans c) (saves : Bool) : S.Stage :=
  if saves then .dirty c a else .done c a

theorem entered_holds (a : S.Ans c) (saves : Bool) : (entered c a saves).holds = none := by
  cases saves <;> rfl

theorem entered_answer {a : S.Ans c} {saves : Bool} :
    (entered c a saves).answer = some ⟨c, a⟩ := by
  cases saves <;> rfl

/-- The entry a call adds to the log. -/
abbrev entry (input : Nat → S.Input) (w : S.Server) (t : Nat) (c : S.Call) : S.Taken :=
  ⟨t, c, input w.clock, (S.enter c (input w.clock) (w.mem (S.cell c))).answer,
    (S.enter c (input w.clock) (w.mem (S.cell c))).saves⟩

/-- Memory stands for the reference when a call has entered. -/
theorem Serving.enter_mem (h : F.Serving past w φ log)
    (hmeets : F.Meets c (input w.clock) (w.mem (S.cell c)) (R.after (past ++ taken log) (S.cell c)))
    (i : S.Cell) :
    F.Rep i
      (Function.update w.mem (S.cell c) (S.enter c (input w.clock) (w.mem (S.cell c))).value i)
      (R.after (past ++ taken log ++ [entry input w t c]) i) := by
  by_cases hi : i = S.cell c
  · subst hi
    rw [R.after_append_self, Function.update_self]
    exact (F.step c _ _ _ hmeets (h.mem (S.cell c))).2
  · rw [R.after_append_ne _ hi, Function.update_of_ne hi]
    exact h.mem i

/-- A file is current when a call has entered, or a save of it is to come. -/
theorem Serving.enter_current (h : F.Serving past w φ log) (ho : φ t = .ready c)
    (hmeets : F.Meets c (input w.clock) (w.mem (S.cell c)) (R.after (past ++ taken log) (S.cell c)))
    (i : S.Cell) :
    F.Rep i (w.saved i) (R.after (past ++ taken log ++ [entry input w t c]) i) ∨
      ∃ t' c', S.cell c' = i ∧
        (Function.update φ t (entered c (S.enter c (input w.clock) (w.mem (S.cell c))).answer
          (S.enter c (input w.clock) (w.mem (S.cell c))).saves) t').pending = some c' := by
  have hpending {t' : Nat} {c' : S.Call} {q : S.Stage} (hp : (φ t').pending = some c') :
      (Function.update φ t q t').pending = some c' := by
    rwa [Function.update_of_ne]
    rintro rfl
    rw [ho] at hp
    cases hp
  by_cases hi : i = S.cell c
  · subst hi
    rw [R.after_append_self]
    cases hsaves : (S.enter c (input w.clock) (w.mem (S.cell c))).saves with
    | true =>
        refine Or.inr ⟨t, c, rfl, ?_⟩
        rw [Function.update_self]
        rfl
    | false =>
        rcases h.current (S.cell c) with hcur | ⟨t', c', hcell, hp⟩
        · exact Or.inl (F.lag c _ _ _ _ hmeets (h.mem (S.cell c)) hsaves hcur)
        · exact Or.inr ⟨t', c', hcell, hpending hp⟩
  · rw [R.after_append_ne _ hi]
    rcases h.current i with hcur | ⟨t', c', hcell, hp⟩
    · exact Or.inl hcur
    · exact Or.inr ⟨t', c', hcell, hpending hp⟩

theorem Serving.enter {x : S.StepAns (.enter c)} {w' : S.Server} (h : F.Serving past w φ log)
    (ho : φ t = .ready c) (hneeds : F.Needs input past t (.enter c) w log)
    (hx : handle input t (.enter c) w = some (x, w')) :
    F.Serving past w' (Function.update φ t (entered c x.2.1 x.2.2))
      (log ++ [.did t ⟨.enter c, x⟩]) := by
  obtain ⟨hfree, rfl, rfl⟩ := handle_enter hx
  have hmeets := hneeds c rfl
  have hother : ∀ {t'}, φ t' ≠ .ready c → t' ≠ t := by
    rintro t' hne rfl
    exact hne ho
  constructor
  · rw [taken_enter, ← List.append_assoc]
    exact h.enter_mem hmeets
  · rw [taken_enter, ← List.append_assoc]
    exact h.agrees.append (F.step c _ _ _ hmeets (h.mem (S.cell c))).1
  · intro t' c' a' v hv
    by_cases ht : t' = t
    · subst ht
      rw [Function.update_self] at hv
      have hnone := entered_holds (c := c) (S.enter c (input w.clock) (w.mem (S.cell c))).answer
        (S.enter c (input w.clock) (w.mem (S.cell c))).saves
      rw [hv] at hnone
      cases hnone
    · rw [Function.update_of_ne ht] at hv
      rw [h.holding t' c' a' v hv]
      exact (h.mem_enter hfree (by rw [hv]; rfl)).symm
  · intro t' c' hc'
    by_cases ht : t' = t
    · subst ht
      rw [Function.update_self, entered_holds] at hc'
      cases hc'
    · rw [Function.update_of_ne ht] at hc'
      exact h.readers t' c' hc'
  · intro i
    obtain ⟨l₁, l₂, heq, hfile, hpend⟩ := h.file i
    refine ⟨l₁, l₂ ++ [⟨t, c, _, _, _⟩], by rw [taken_enter, heq, List.append_assoc], hfile, ?_⟩
    intro e he hcell hsaves
    rcases List.mem_append.mp he with he | he
    · have hp := hpend e he hcell hsaves
      have hne : e.thread ≠ t := hother fun hr => by rw [hr] at hp; cases hp
      rwa [Function.update_of_ne hne]
    · obtain rfl := List.mem_singleton.mp he
      show (Function.update φ t _ t).pending = some c
      rw [Function.update_self, entered, if_pos hsaves]
      rfl
  · rw [taken_enter, ← List.append_assoc]
    exact h.enter_current ho hmeets
  · intro t' r hm
    have hd := h.returned t' r (by simpa using hm)
    rwa [Function.update_of_ne (hother fun hr => by rw [hr] at hd; cases hd)]
  · intro t' c' a' ha
    rw [taken_enter]
    by_cases ht : t' = t
    · subst ht
      rw [Function.update_self, entered_answer] at ha
      cases ha
      exact ⟨_, _, List.mem_append_right _ (List.mem_singleton_self _)⟩
    · rw [Function.update_of_ne ht] at ha
      obtain ⟨n, saves, hm⟩ := h.took t' c' a' ha
      exact ⟨n, saves, List.mem_append_left _ hm⟩

/-- A step of a call that leaves memory and files alone. -/
theorem Serving.quiet {o : S.Step} {x : S.StepAns o} {q : S.Stage} {w' : S.Server}
    (h : F.Serving past w φ log) (ho : ∀ c, o ≠ .enter c) (hmem : w'.mem = w.mem)
    (hfile : w'.file = w.file)
    (hreaders : ∀ t' i, t' ≠ t → t' ∈ w.readers i → t' ∈ w'.readers i)
    (hpending : q.pending = (φ t).pending) (hanswer : q.answer = (φ t).answer)
    (hholds : ∀ c, q.holds = some c → t ∈ w'.readers (S.cell c))
    (hholding : ∀ c a v, q = .holding c a v → v = w.mem (S.cell c))
    (hdone : ∀ c a, φ t ≠ .done c a) :
    F.Serving past w' (Function.update φ t q) (log ++ [.did t ⟨o, x⟩]) := by
  have hsaved : w'.saved = w.saved := by
    unfold Server.saved
    rw [hfile]
  have hpend : ∀ t', (Function.update φ t q t').pending = (φ t').pending :=
    Pool.update_keeps Stage.pending hpending
  constructor
  · rw [taken_did ho, hmem]
    exact h.mem
  · rw [taken_did ho]
    exact h.agrees
  · intro t' c' a' v hv
    rw [hmem]
    by_cases ht : t' = t
    · subst ht
      rw [Function.update_self] at hv
      exact hholding c' a' v hv
    · rw [Function.update_of_ne ht] at hv
      exact h.holding t' c' a' v hv
  · intro t' c' hc'
    by_cases ht : t' = t
    · subst ht
      rw [Function.update_self] at hc'
      exact hholds c' hc'
    · rw [Function.update_of_ne ht] at hc'
      exact hreaders t' _ ht (h.readers t' c' hc')
  · intro i
    obtain ⟨l₁, l₂, heq, hrep, hp⟩ := h.file i
    exact ⟨l₁, l₂, by rw [taken_did ho, heq], hsaved ▸ hrep,
      fun e he hcell hsaves => (hpend _).trans (hp e he hcell hsaves)⟩
  · intro i
    rw [taken_did ho, hsaved]
    rcases h.current i with hcur | ⟨t', c', hcell, hp⟩
    · exact Or.inl hcur
    · exact Or.inr ⟨t', c', hcell, (hpend t').trans hp⟩
  · intro t' r hm
    have hd := h.returned t' r (by simpa using hm)
    have hne : t' ≠ t := by
      rintro rfl
      exact hdone _ _ hd
    rwa [Function.update_of_ne hne]
  · intro t' c' a' ha
    rw [taken_did ho]
    by_cases ht : t' = t
    · subst ht
      rw [Function.update_self, hanswer] at ha
      exact h.took t' c' a' ha
    · rw [Function.update_of_ne ht] at ha
      exact h.took t' c' a' ha

/-- **A save is never old.**  What is written is what memory holds when it is written. -/
theorem Serving.write {a : S.Ans c} {v : S.Value (S.cell c)} (h : F.Serving past w φ log)
    (ho : φ t = .holding c a v) :
    F.Serving past (w.put (S.cell c) v) (Function.update φ t (.written c a))
      (log ++ [.did t ⟨.write c v, ()⟩]) := by
  have hno : ∀ c', (.write c v : S.Step) ≠ .enter c' := fun _ he => (nomatch he)
  have hv : v = w.mem (S.cell c) := h.holding t c a v ho
  have hother : ∀ {t' c'}, S.cell c' ≠ S.cell c → (φ t').pending = some c' → t' ≠ t := by
    rintro t' c' hcell hp rfl
    rw [ho] at hp
    exact hcell (congrArg S.cell (Option.some.inj hp).symm)
  constructor
  · rw [taken_did hno]
    exact h.mem
  · rw [taken_did hno]
    exact h.agrees
  · intro t' c' a' v' hv'
    by_cases ht : t' = t
    · subst ht
      rw [Function.update_self] at hv'
      cases hv'
    · rw [Function.update_of_ne ht] at hv'
      exact h.holding t' c' a' v' hv'
  · intro t' c' hc'
    by_cases ht : t' = t
    · subst ht
      rw [Function.update_self] at hc'
      exact h.readers t' c' (by rw [ho]; exact hc')
    · rw [Function.update_of_ne ht] at hc'
      exact h.readers t' c' hc'
  · intro i
    rw [taken_did hno]
    by_cases hi : i = S.cell c
    · subst hi
      refine ⟨taken log, [], (List.append_nil _).symm, ?_, fun e he => absurd he List.not_mem_nil⟩
      rw [Server.saved_put_self, hv]
      exact h.mem _
    · obtain ⟨l₁, l₂, heq, hrep, hp⟩ := h.file i
      refine ⟨l₁, l₂, heq, (Server.saved_put_ne hi).symm ▸ hrep, fun e he hcell hsaves => ?_⟩
      have hpe := hp e he hcell hsaves
      rwa [Function.update_of_ne (hother (hcell.symm ▸ hi) hpe)]
  · intro i
    rw [taken_did hno]
    by_cases hi : i = S.cell c
    · subst hi
      rw [Server.saved_put_self, hv]
      exact Or.inl (h.mem _)
    · rw [Server.saved_put_ne hi]
      rcases h.current i with hcur | ⟨t', c', hcell, hp⟩
      · exact Or.inl hcur
      · refine Or.inr ⟨t', c', hcell, ?_⟩
        rwa [Function.update_of_ne (hother (hcell.symm ▸ hi) hp)]
  · intro t' r hm
    have hd := h.returned t' r (by simpa using hm)
    have hne : t' ≠ t := by
      rintro rfl
      rw [ho] at hd
      cases hd
    rwa [Function.update_of_ne hne]
  · intro t' c' a' ha
    rw [taken_did hno]
    by_cases ht : t' = t
    · subst ht
      rw [Function.update_self] at ha
      exact h.took t' c' a' (by rw [ho]; exact ha)
    · rw [Function.update_of_ne ht] at ha
      exact h.took t' c' a' ha

/-- One step of one call. -/
theorem Serving.step {o : S.Step} {x : S.StepAns o} {w' : S.Server} (h : F.Serving past w φ log)
    (ho : S.stageMonitor.allow o (φ t)) (hneeds : F.Needs input past t o w log)
    (hx : handle input t o w = some (x, w')) :
    F.Serving past w' (Function.update φ t (S.stageMonitor.next o (φ t) x))
      (log ++ [.did t ⟨o, x⟩]) := by
  cases o with
  | enter c => exact h.enter ho hneeds hx
  | lock c =>
      obtain ⟨a, hq⟩ := ho
      cases hx
      rw [hq]
      refine h.quiet (fun _ he => (nomatch he)) rfl rfl (fun _ _ _ hm => Server.mem_acquire hm)
        (by rw [hq]; rfl) (by rw [hq]; rfl) ?_ (fun _ _ _ he => (nomatch he))
        (by rw [hq]; exact fun _ _ he => (nomatch he))
      rintro c' ⟨⟩
      exact Server.mem_acquire_self
  | serialize c =>
      obtain ⟨a, hq⟩ := ho
      cases hx
      have hnext : S.stageMonitor.next (.serialize c) (φ t) (w.mem (S.cell c)) =
          .holding c a (w.mem (S.cell c)) := by
        rw [hq]
        exact dif_pos rfl
      rw [hnext]
      refine h.quiet (fun _ he => (nomatch he)) rfl rfl (fun _ _ _ hm => hm) (by rw [hq]; rfl)
        (by rw [hq]; rfl) ?_ ?_ (by rw [hq]; exact fun _ _ he => (nomatch he))
      · rintro c' ⟨⟩
        exact h.readers t c (by rw [hq]; rfl)
      · rintro c' a' v ⟨⟩
        rfl
  | write c v =>
      obtain ⟨a, hq⟩ := ho
      cases hx
      rw [hq]
      exact h.write hq
  | unlock c =>
      obtain ⟨a, hq⟩ := ho
      cases hx
      rw [hq]
      exact h.quiet (fun _ he => (nomatch he)) rfl rfl (fun _ _ ht hm => Server.mem_release ht hm)
        (by rw [hq]; rfl) (by rw [hq]; rfl) (fun _ he => (nomatch he))
        (fun _ _ _ he => (nomatch he)) (by rw [hq]; exact fun _ _ he => (nomatch he))

end Refinement

/-! ## Lives -/

namespace Service

variable {S : Service}

variable (S) in
/-- What one process does: its calls, and the order of their steps. -/
structure Life where
  calls : List S.Call
  schedule : List Nat

def Life.run (life : S.Life) (input : Nat → S.Input) (w : S.Server) :
    Pool S.StepAns S.Server S.Returned :=
  Pool.run (handle input) life.schedule (Pool.start w (life.calls.map S.prog))

/-- No call is in progress. -/
def Quiet (P : Pool S.StepAns S.Server S.Returned) : Prop := ∀ p ∈ P.threads, ∃ r, p = .ret r

instance : (p : Prog S.StepAns S.Returned) → Decidable (∃ r, p = .ret r)
  | .ret r => isTrue ⟨r, rfl⟩
  | .op _ _ => isFalse fun ⟨_, h⟩ => (nomatch h)

instance {P : Pool S.StepAns S.Server S.Returned} : Decidable (Quiet P) :=
  inferInstanceAs (Decidable (∀ p ∈ P.threads, ∃ r, p = .ret r))

/-- One life after the other: what was entered, and the server as it is started again. -/
def lives (input : Nat → S.Input) :
    List S.Life → List S.Taken → S.Server → List S.Taken × S.Server
  | [], past, w => (past, w)
  | life :: rest, past, w =>
      lives input rest (past ++ taken (life.run input w).log) (life.run input w).world.reopen

/-- The stages of the calls of a life before their first step. -/
def Life.stage (life : S.Life) (t : Nat) : S.Stage :=
  match life.calls[t]? with
  | some c => .ready c
  | none => .idle

theorem Life.start (life : S.Life) {w : S.Server} :
    Pool.AllFollow S.stageMonitor (fun _ r q => q = .done r.1 r.2) life.stage
      (Pool.start w (life.calls.map S.prog)) := by
  intro t p hp
  rw [Pool.start, List.getElem?_map] at hp
  obtain ⟨c, hc, rfl⟩ := Option.map_eq_some_iff.mp hp
  have hstage : life.stage t = .ready c := by rw [Life.stage, hc]
  rw [hstage]
  exact prog_follows c

theorem Life.stage_cases (life : S.Life) (t : Nat) :
    (∃ c, life.stage t = .ready c) ∨ life.stage t = .idle := by
  unfold Life.stage
  split
  · exact Or.inl ⟨_, rfl⟩
  · exact Or.inr rfl

theorem Life.stage_idle {life : S.Life} {t : Nat} (h : life.calls.length ≤ t) :
    life.stage t = .idle := by
  rw [Life.stage, List.getElem?_eq_none h]

end Service

namespace Refinement

open Service

variable {S : Service} {R : Reference S} (F : Refinement S R)

/-- A process that has just been started: memory and files stand for the reference. -/
structure Fresh (past : List S.Taken) (w : S.Server) : Prop where
  mem : ∀ i, F.Rep i (w.mem i) (R.after past i)
  saved : ∀ i, F.Rep i (w.saved i) (R.after past i)
  agrees : F.Agrees past

/-- Every call of the life meets what it needs when it enters. -/
def Fit (input : Nat → S.Input) (past : List S.Taken) (life : S.Life) (w : S.Server) : Prop :=
  Pool.StepsMeetAt (F.Needs input past) (handle input) life.schedule
    (Pool.start w (life.calls.map S.prog))

/-- So do the calls of several lives, each of which ends while no call is in progress. -/
def AllFit (input : Nat → S.Input) : List S.Life → List S.Taken → S.Server → Prop
  | [], _, _ => True
  | life :: rest, past, w =>
      F.Fit input past life w ∧ Quiet (life.run input w) ∧
        AllFit input rest (past ++ taken (life.run input w).log) (life.run input w).world.reopen

/-- What is promised of a life, however far it got: its answers are the reference's, in
the order in which the calls entered; what a call returned is the answer it entered with;
and the file of every cell stands for the reference after calls among which are all that
saved and have returned. -/
structure Served (past : List S.Taken) (P : Pool S.StepAns S.Server S.Returned) : Prop where
  agrees : F.Agrees (past ++ taken P.log)
  returned : ∀ t r, .returned t r ∈ P.log → ∃ n saves, ⟨t, r.1, n, r.2, saves⟩ ∈ taken P.log
  durable : ∀ i, ∃ l₁ l₂, taken P.log = l₁ ++ l₂ ∧
    F.Rep i (P.world.saved i) (R.after (past ++ l₁) i) ∧
    ∀ e ∈ l₂, S.cell e.call = i → e.saves → ∀ r, .returned e.thread r ∉ P.log

variable {F} {input : Nat → S.Input} {past : List S.Taken} {w : S.Server} {life : S.Life}

theorem Fresh.serving (h : F.Fresh past w) : F.Serving past w life.stage [] where
  mem i := by simpa [taken] using h.mem i
  agrees := by simpa [taken] using h.agrees
  holding t c a v hv := by rcases life.stage_cases t with ⟨c', hs⟩ | hs <;> rw [hs] at hv <;> cases hv
  readers t c hc := by rcases life.stage_cases t with ⟨c', hs⟩ | hs <;> rw [hs] at hc <;> cases hc
  file i := ⟨[], [], rfl, by simpa using h.saved i, fun e he => absurd he List.not_mem_nil⟩
  current i := Or.inl (by simpa [taken] using h.saved i)
  returned t r hm := absurd hm List.not_mem_nil
  took t c a ha := by rcases life.stage_cases t with ⟨c', hs⟩ | hs <;> rw [hs] at ha <;> cases ha

/-- **A life.** -/
theorem Fresh.run (h : F.Fresh past w) (hfit : F.Fit input past life w) :
    ∃ φ, (F.Serving past (life.run input w).world φ (life.run input w).log ∧
        ∀ t, life.calls.length ≤ t → φ t = .idle) ∧
      Pool.AllFollow S.stageMonitor (fun _ r q => q = .done r.1 r.2) φ (life.run input w) := by
  refine Pool.run_invariant_at
    (I := fun w φ log => F.Serving past w φ log ∧ ∀ t, life.calls.length ≤ t → φ t = .idle)
    (fun w φ log t o x w' ⟨hs, hidle⟩ ho hneeds hx => ?_) life.schedule
    ⟨h.serving, fun t ht => Life.stage_idle ht⟩ life.start hfit
  have hdid := hs.step ho hneeds hx
  have hidle' : ∀ t', life.calls.length ≤ t' →
      Function.update φ t (S.stageMonitor.next o (φ t) x) t' = .idle := by
    intro t' ht'
    have hne : t' ≠ t := by
      rintro rfl
      rw [hidle t' ht'] at ho
      cases o with
      | enter c => cases ho
      | lock | serialize | write | unlock =>
          obtain ⟨a, ha⟩ := ho
          cases ha
    rw [Function.update_of_ne hne]
    exact hidle t' ht'
  refine ⟨trivial, ⟨hdid, hidle'⟩, fun r hr => ⟨?_, hidle'⟩⟩
  rw [List.append_cons]
  exact hdid.returns (by rwa [Function.update_self])

theorem Fresh.served (h : F.Fresh past w) (hfit : F.Fit input past life w) :
    F.Served past (life.run input w) := by
  obtain ⟨φ, ⟨hs, -⟩, -⟩ := h.run hfit
  constructor
  · exact hs.agrees
  · intro t r hm
    exact hs.took t r.1 r.2 (by rw [hs.returned t r hm]; rfl)
  · intro i
    obtain ⟨l₁, l₂, heq, hrep, hp⟩ := hs.file i
    refine ⟨l₁, l₂, heq, hrep, fun e he hcell hsaves r hm => ?_⟩
    have hpe := hp e he hcell hsaves
    rw [hs.returned _ r hm] at hpe
    cases hpe

/-- A process that stops while it is quiet starts again as it was. -/
theorem Fresh.reopen (h : F.Fresh past w) (hfit : F.Fit input past life w)
    (hquiet : Quiet (life.run input w)) :
    F.Fresh (past ++ taken (life.run input w).log) (life.run input w).world.reopen := by
  obtain ⟨φ, ⟨hs, hidle⟩, hfollow⟩ := h.run hfit
  have hnone : ∀ t, (φ t).pending = none := by
    intro t
    cases hp : (life.run input w).threads[t]? with
    | some p =>
        obtain ⟨r, rfl⟩ := hquiet p (List.mem_of_getElem? hp)
        have hdone : φ t = .done r.1 r.2 := hfollow t _ hp
        rw [hdone]
        rfl
    | none =>
        have hlen : (life.run input w).threads.length = life.calls.length := by
          rw [Life.run, Pool.length_threads_run]
          exact List.length_map _
        rw [hidle t (hlen ▸ List.getElem?_eq_none_iff.mp hp)]
        rfl
  have hsaved : ∀ i, F.Rep i ((life.run input w).world.saved i)
      (R.after (past ++ taken (life.run input w).log) i) := by
    intro i
    rcases hs.current i with hcur | ⟨t, c, -, hp⟩
    · exact hcur
    · rw [hnone t] at hp
      cases hp
  exact ⟨hsaved, hsaved, hs.agrees⟩

theorem fresh_empty : F.Fresh [] (Server.empty S) :=
  ⟨F.initial, F.initial, .nil⟩

theorem Fresh.lives {ls : List S.Life} (h : F.Fresh past w) (hfit : F.AllFit input ls past w) :
    F.Fresh (Service.lives input ls past w).1 (Service.lives input ls past w).2 := by
  induction ls generalizing past w with
  | nil => exact h
  | cons life rest ih => exact ih (h.reopen hfit.1 hfit.2.1) hfit.2.2

/-- **Histories.**  After any number of lives that ended while quiet, the next one is served
as the reference would serve it. -/
theorem served {ls : List S.Life} (hends : F.AllFit input ls [] (Server.empty S))
    (hfit : F.Fit input (Service.lives input ls [] (Server.empty S)).1 life
      (Service.lives input ls [] (Server.empty S)).2) :
    F.Served (Service.lives input ls [] (Server.empty S)).1
      (life.run input (Service.lives input ls [] (Server.empty S)).2) :=
  (fresh_empty.lives hends).served hfit

end Refinement

end Effect
