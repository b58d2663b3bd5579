/-
# `CommerceOrchestrator.Runtime.Idempotency` — what an idempotency store may do

`KeyStep` is the specification of the store trait at one key: what an operation
may answer in the state the key is in, and the state it leaves.  It is about no
backend; `Env.handle_keyStep` says that the in-memory one keeps to it.

What callers get out of it is `Exclusive`, a property of the history of a key:
between two releases at most one claim is told to go on, and until a completion
every other claim is told that the key is in flight.  `Held` ties a history to
the state it leaves behind and is kept by every step of the specification.
-/
import CommerceOrchestrator.Effect.Pool
import CommerceOrchestrator.Runtime.Frames

namespace Orchestrator

open Effect Prog

variable {env : Env} {w : World} {key : IdempotencyKey}

/-! ## The specification -/

/-- `KeyStep key e s s'`: performing `e` may take the key from the state `s` to `s'`.
A failed operation may have taken hold. -/
inductive KeyStep (key : IdempotencyKey) :
    Event Op.Ans → Option IdempotencyState → Option IdempotencyState → Prop
  | elsewhere (e : Event Op.Ans) {s : Option IdempotencyState} :
      e.1.onKey ≠ some key → KeyStep key e s s
  | granted : KeyStep key ⟨.claim key, .ok none⟩ none (some .inFlight)
  | refused : KeyStep key ⟨.claim key, .ok (some .inFlight)⟩ (some .inFlight) (some .inFlight)
  | replayed (result result' : TransactionResult) :
      KeyStep key ⟨.claim key, .ok (some (.completed result))⟩ (some (.completed result'))
        (some (.completed result'))
  | unanswered (e : StoreError) {s : Option IdempotencyState} :
      KeyStep key ⟨.claim key, .error e⟩ s s
  | unacknowledged (e : StoreError) : KeyStep key ⟨.claim key, .error e⟩ none (some .inFlight)
  | completed (result : TransactionResult) {x : Except StoreError Unit}
      {s : Option IdempotencyState} :
      tookHold x = true → KeyStep key ⟨.complete key result, x⟩ s (some (.completed result))
  | uncompleted (result : TransactionResult) {x : Except StoreError Unit}
      {s : Option IdempotencyState} :
      tookHold x = false → KeyStep key ⟨.complete key result, x⟩ s s
  | released {x : Except StoreError Unit} :
      tookHold x = true → KeyStep key ⟨.release key, x⟩ (some .inFlight) none
  | unreleased {x : Except StoreError Unit} {s : Option IdempotencyState} :
      tookHold x = false ∨ s ≠ some .inFlight → KeyStep key ⟨.release key, x⟩ s s

theorem KeyStep.of_claim {x : Except StoreError (Option IdempotencyState)}
    {s : Option IdempotencyState} (h : ∀ state, x = .ok state → s = state) :
    KeyStep key ⟨.claim key, x⟩ s (if tookHold x then some (s.getD .inFlight) else s) := by
  cases x with
  | ok state =>
      obtain rfl := h state rfl
      match s with
      | none => exact .granted
      | some .inFlight => exact .refused
      | some (.completed result) => exact .replayed result result
  | error e =>
      rw [tookHold_error]
      cases e.tookEffect with
      | false => exact .unanswered e
      | true =>
          cases s with
          | none => exact .unacknowledged e
          | some state => exact .unanswered e

theorem KeyStep.of_complete {x : Except StoreError Unit} {s : Option IdempotencyState}
    {result : TransactionResult} :
    KeyStep key ⟨.complete key result, x⟩ s (if tookHold x then some (.completed result) else s) := by
  cases hx : tookHold x with
  | false => exact .uncompleted result hx
  | true => exact .completed result hx

theorem KeyStep.of_release {x : Except StoreError Unit} {s : Option IdempotencyState} :
    KeyStep key ⟨.release key, x⟩ s
      (if tookHold x ∧ s = some .inFlight then none else s) := by
  by_cases hx : tookHold x ∧ s = some .inFlight
  · obtain ⟨hx, rfl⟩ := hx
    rw [if_pos ⟨hx, rfl⟩]
    exact .released hx
  · rw [if_neg hx]
    refine .unreleased ?_
    rw [← Bool.not_eq_true]
    exact Decidable.not_and_iff_or_not.mp hx

/-- **The in-memory store keeps to the specification.** -/
theorem Env.handle_keyStep (env : Env) (key : IdempotencyKey) (o : Op) (w : World) :
    KeyStep key ⟨o, (env.handle o w).1⟩ (w.idempotency.lookup key)
      ((env.handle o w).2.idempotency.lookup key) := by
  by_cases hkey : o.onKey = some key
  · cases o with
    | claim key' =>
        obtain rfl := Option.some.inj hkey
        rw [Env.handle_claim_lookup]
        simpa using KeyStep.of_claim fun state hx => Env.handle_claim_ok hx
    | complete key' result =>
        obtain rfl := Option.some.inj hkey
        rw [Env.handle_complete_lookup]
        simpa using KeyStep.of_complete
    | release key' =>
        obtain rfl := Option.some.inj hkey
        rw [Env.handle_release_lookup]
        simpa using KeyStep.of_release
    | _ => cases hkey
  · rw [Env.handle_lookup_of_onKey_ne hkey]
    exact .elsewhere ⟨o, _⟩ hkey

/-! ## The history of a key -/

/-- What callers see of a key: the answer of a claim, a completion, a release. -/
inductive KeyEvent
  | answered (state : Option IdempotencyState)
  | completed
  | released
deriving DecidableEq

/-- A claim is told to go on. -/
abbrev KeyEvent.granted : KeyEvent := .answered none

/-- What may happen between two releases: at most one claim is told to go on, and
every other one before a completion is told that the key is in flight. -/
structure OneOwner (between : List KeyEvent) : Prop where
  granted : between.count .granted ≤ 1
  others : .granted ∈ between → .completed ∉ between →
    ∀ state, .answered state ∈ between → state = none ∨ state = some .inFlight

/-- A history without two owners of the key at a time. -/
def Exclusive (history : List KeyEvent) : Prop :=
  ∀ before between after, history = before ++ between ++ after → .released ∉ between →
    OneOwner between

/-- An end of a history since which the key was not released. -/
def Open (history between : List KeyEvent) : Prop :=
  between <:+ history ∧ .released ∉ between

theorem OneOwner.nil : OneOwner [] :=
  ⟨Nat.zero_le _, fun hm => absurd hm List.not_mem_nil⟩

theorem Open.append {history between : List KeyEvent} {e : KeyEvent}
    (h : Open (history ++ [e]) between) :
    between = [] ∨ ∃ between', between = between' ++ [e] ∧ Open history between' ∧ e ≠ .released := by
  obtain ⟨⟨before, heq⟩, hno⟩ := h
  rcases List.eq_nil_or_concat between with rfl | ⟨between', e', rfl⟩
  · exact Or.inl rfl
  · rw [List.concat_eq_append] at heq hno ⊢
    rw [← List.append_assoc] at heq
    obtain ⟨rfl, he⟩ := List.append_inj' heq rfl
    obtain rfl := List.singleton_inj.mp he
    rw [List.mem_append, not_or] at hno
    exact Or.inr ⟨between', rfl, ⟨List.suffix_append _ _, hno.1⟩, fun he => hno.2 (by simp [he])⟩

/-- Only the open ends are new. -/
theorem Exclusive.append {history : List KeyEvent} {e : KeyEvent} (h : Exclusive history)
    (hlast : ∀ between, Open history between → e ≠ .released → OneOwner (between ++ [e])) :
    Exclusive (history ++ [e]) := by
  intro before between after heq hno
  rcases List.eq_nil_or_concat after with rfl | ⟨after, e', rfl⟩
  · have hopen : Open (history ++ [e]) between := ⟨⟨before, by simpa using heq.symm⟩, hno⟩
    rcases hopen.append with rfl | ⟨between', rfl, hopen', he⟩
    · exact .nil
    · exact hlast between' hopen' he
  · rw [List.concat_eq_append, ← List.append_assoc] at heq
    obtain ⟨rfl, -⟩ := List.append_inj' heq rfl
    exact h before between after rfl hno

/-- A history and the state it leaves: the history is exclusive; after a grant that
was not released the key is taken, and in flight if it was not completed either;
once a claim was told of a completion, the key stays completed. -/
structure Held (history : List KeyEvent) (s : Option IdempotencyState) : Prop where
  exclusive : Exclusive history
  granted : ∀ between, Open history between → .granted ∈ between →
    s ≠ none ∧ (.completed ∉ between → s = some .inFlight)
  replayed : ∀ between, Open history between → ∀ result,
    .answered (some (.completed result)) ∈ between → ∃ result', s = some (.completed result')

namespace Held

variable {history : List KeyEvent} {s : Option IdempotencyState}

theorem nil (s : Option IdempotencyState) : Held [] s := by
  have hnil : ∀ between, Open [] between → between = [] := fun _ h => List.suffix_nil.mp h.1
  constructor
  · intro before between after heq _
    obtain ⟨-, rfl, -⟩ : before = [] ∧ between = [] ∧ after = [] := by simpa using heq.symm
    exact .nil
  · intro between h hm
    rw [hnil between h] at hm
    exact absurd hm List.not_mem_nil
  · intro between h _ hm
    rw [hnil between h] at hm
    exact absurd hm List.not_mem_nil

theorem oneOwner (h : Held history s) {between : List KeyEvent} (hopen : Open history between) :
    OneOwner between := by
  obtain ⟨⟨before, heq⟩, hno⟩ := hopen
  exact h.exclusive before between [] (by simpa using heq.symm) hno

/-- On a free key no grant is outstanding. -/
theorem not_granted (h : Held history none) {between : List KeyEvent}
    (hopen : Open history between) : .granted ∉ between :=
  fun hm => (h.granted between hopen hm).1 rfl

/-- What a new entry has to show. -/
theorem append {e : KeyEvent} {s' : Option IdempotencyState} (h : Held history s)
    (hone : ∀ between, Open history between → e ≠ .released → OneOwner (between ++ [e]))
    (hgrant : ∀ between, Open history between → e ≠ .released → .granted ∈ between ++ [e] →
      s' ≠ none ∧ (.completed ∉ between ++ [e] → s' = some .inFlight))
    (hreplay : ∀ between, Open history between → e ≠ .released → ∀ result,
      .answered (some (.completed result)) ∈ between ++ [e] →
        ∃ result', s' = some (.completed result')) :
    Held (history ++ [e]) s' := by
  constructor
  · exact h.exclusive.append hone
  · intro between hopen hm
    rcases hopen.append with rfl | ⟨between', rfl, hopen', he⟩
    · exact absurd hm List.not_mem_nil
    · exact hgrant between' hopen' he hm
  · intro between hopen result hm
    rcases hopen.append with rfl | ⟨between', rfl, hopen', he⟩
    · exact absurd hm List.not_mem_nil
    · exact hreplay between' hopen' he result hm

theorem released (h : Held history s) (s' : Option IdempotencyState) :
    Held (history ++ [.released]) s' :=
  h.append (fun _ _ he => absurd rfl he) (fun _ _ he => absurd rfl he) fun _ _ he => absurd rfl he

theorem completed (h : Held history s) (result : TransactionResult) :
    Held (history ++ [.completed]) (some (.completed result)) := by
  refine h.append ?_ ?_ ?_
  · intro between hopen _
    refine ⟨by simpa using (h.oneOwner hopen).granted, fun _ hno => ?_⟩
    exact absurd (by simp) hno
  · exact fun _ _ _ _ => ⟨Option.some_ne_none _, fun hno => absurd (by simp) hno⟩
  · exact fun _ _ _ _ _ => ⟨result, rfl⟩

/-- A claim that is granted a free key is the only one. -/
theorem grant (h : Held history none) : Held (history ++ [.granted]) (some .inFlight) := by
  refine h.append ?_ ?_ ?_
  · intro between hopen _
    have hnot := h.not_granted hopen
    constructor
    · rw [List.count_append, List.count_eq_zero_of_not_mem hnot]
      exact Nat.le_of_eq (by simp)
    · intro _ _ state hm
      match state with
      | none => exact Or.inl rfl
      | some .inFlight => exact Or.inr rfl
      | some (.completed result) =>
          have hm : .answered (some (.completed result)) ∈ between := by simpa using hm
          obtain ⟨result', hs⟩ := h.replayed between hopen result hm
          cases hs
  · exact fun _ _ _ _ => ⟨Option.some_ne_none _, fun _ => rfl⟩
  · intro between hopen _ result hm
    have hm : .answered (some (.completed result)) ∈ between := by simpa using hm
    obtain ⟨result', hs⟩ := h.replayed between hopen result hm
    cases hs

/-- A claim of a key that is taken is told about the state the key is in. -/
theorem refuse (h : Held history (some .inFlight)) :
    Held (history ++ [.answered (some .inFlight)]) (some .inFlight) := by
  refine h.append ?_ ?_ ?_
  · intro between hopen _
    have hold := h.oneOwner hopen
    refine ⟨by simpa using hold.granted, fun hg hno state hm => ?_⟩
    rcases List.mem_append.mp hm with hm | hm
    · exact hold.others (by simpa using hg) (by simpa using hno) state hm
    · exact Or.inr (KeyEvent.answered.inj (List.mem_singleton.mp hm))
  · exact fun _ _ _ _ => ⟨Option.some_ne_none _, fun _ => rfl⟩
  · intro between hopen _ result hm
    have hm : .answered (some (.completed result)) ∈ between := by simpa using hm
    obtain ⟨result', hs⟩ := h.replayed between hopen result hm
    cases hs

theorem replay {result' : TransactionResult} (h : Held history (some (.completed result')))
    (result : TransactionResult) :
    Held (history ++ [.answered (some (.completed result))]) (some (.completed result')) := by
  refine h.append ?_ ?_ ?_
  · intro between hopen _
    refine ⟨by simpa using (h.oneOwner hopen).granted, fun hg hno => ?_⟩
    have hs := (h.granted between hopen (by simpa using hg)).2 (by simpa using hno)
    cases hs
  · intro between hopen _ hg
    refine ⟨Option.some_ne_none _, fun hno => ?_⟩
    have hs := (h.granted between hopen (by simpa using hg)).2 (by simpa using hno)
    cases hs
  · exact fun _ _ _ _ _ => ⟨result', rfl⟩

/-- A free key may be taken by a claim nobody is told about. -/
theorem leak (h : Held history none) : Held history (some .inFlight) := by
  refine ⟨h.exclusive, fun between hopen hm => absurd hm (h.not_granted hopen), ?_⟩
  intro between hopen result hm
  obtain ⟨result', hs⟩ := h.replayed between hopen result hm
  cases hs

end Held

/-- What an operation adds to the history.  A claim adds nothing: its caller is told
the answer when it returns. -/
def keyEvent : Event Op.Ans → Option KeyEvent
  | ⟨.complete .., x⟩ => if tookHold x then some .completed else none
  | ⟨.release _, x⟩ => if tookHold x then some .released else none
  | _ => none

/-- What the answer of a claim adds to the history. -/
def claimEvent : Except StoreError (Option IdempotencyState) → Option KeyEvent
  | .ok state => some (.answered state)
  | .error _ => none

section Steps

variable {history : List KeyEvent} {s s' : Option IdempotencyState}

/-- Every operation keeps the history and the state together. -/
theorem Held.step {e : Event Op.Ans} (h : Held history s) (hs : KeyStep key e s s')
    (hkey : e.1.onKey = some key) : Held (history ++ (keyEvent e).toList) s' := by
  cases hs with
  | elsewhere _ hne => exact absurd hkey hne
  | granted => simpa [keyEvent] using h.leak
  | refused => simpa [keyEvent] using h
  | replayed result result' => simpa [keyEvent] using h
  | unanswered e => simpa [keyEvent] using h
  | unacknowledged e => simpa [keyEvent] using h.leak
  | completed result hx => simpa [keyEvent, hx] using h.completed result
  | uncompleted result hx => simpa [keyEvent, hx] using h
  | released hx => simpa [keyEvent, hx] using h.released none
  | @unreleased x _ hx =>
      cases ht : tookHold x with
      | false => simpa [keyEvent, ht] using h
      | true => simpa [keyEvent, ht] using h.released s

/-- A claim that returns what it was answered. -/
theorem Held.claim {x : Except StoreError (Option IdempotencyState)} (h : Held history s)
    (hs : KeyStep key ⟨.claim key, x⟩ s s') : Held (history ++ (claimEvent x).toList) s' := by
  cases hs with
  | elsewhere _ hne => exact absurd rfl hne
  | granted => exact h.grant
  | refused => exact h.refuse
  | replayed result result' => exact h.replay result
  | unanswered e => simpa [claimEvent] using h
  | unacknowledged e => simpa [claimEvent] using h.leak

end Steps

/-! ## Calls of the store -/

/-- A call of one of the three methods, on a given key. -/
inductive KeyCall
  | claim
  | complete (result : TransactionResult)
  | release
deriving DecidableEq

inductive KeyAnswer
  | claimed (x : Except StoreError (Option IdempotencyState))
  | done (x : Except StoreError Unit)

def KeyCall.run (key : IdempotencyKey) : KeyCall → Eff KeyAnswer
  | .claim => .claimed <$> ask (.claim key)
  | .complete result => .done <$> ask (.complete key result)
  | .release => .done <$> ask (.release key)

/-- How far a call has come. -/
inductive CallPhase
  | fresh
  | claimed (x : Except StoreError (Option IdempotencyState))
  | over

/-- A call performs one operation on the key. -/
def callMonitor (key : IdempotencyKey) : Monitor Op.Ans CallPhase where
  allow o q := o.onKey = some key ∧ q = .fresh
  next o _ x :=
    match o, x with
    | .claim _, x => .claimed x
    | _, _ => .over

/-- A claim returns what it was answered. -/
def Relays (a : KeyAnswer) (q : CallPhase) : Prop := ∀ x, a = .claimed x → q = .claimed x

theorem KeyCall.run_follows (c : KeyCall) :
    (c.run key).Follows (callMonitor key) Relays .fresh := by
  cases c with
  | claim =>
      refine ⟨⟨rfl, rfl⟩, fun x _ y hy => ?_⟩
      cases hy
      rfl
  | complete result => exact ⟨⟨rfl, rfl⟩, fun _ _ _ hy => by cases hy⟩
  | release => exact ⟨⟨rfl, rfl⟩, fun _ _ _ hy => by cases hy⟩

/-- What the return of a call adds to the history. -/
def answerEvent : KeyAnswer → Option KeyEvent
  | .claimed x => claimEvent x
  | .done _ => none

/-- The history of the key that a log of calls shows. -/
def keyHistory (log : List (Entry Op.Ans KeyAnswer)) : List KeyEvent :=
  log.filterMap fun
    | .did _ e => keyEvent e
    | .returned _ a => answerEvent a

section History

variable {log : List (Entry Op.Ans KeyAnswer)} {t : Nat}

theorem keyHistory_append (log log' : List (Entry Op.Ans KeyAnswer)) :
    keyHistory (log ++ log') = keyHistory log ++ keyHistory log' :=
  List.filterMap_append

theorem keyHistory_did (e : Event Op.Ans) :
    keyHistory [.did t e] = (keyEvent e).toList := by
  cases h : keyEvent e <;> simp [keyHistory, h]

theorem keyHistory_returned (a : KeyAnswer) :
    keyHistory [.returned t a] = (answerEvent a).toList := by
  cases h : answerEvent a <;> simp [keyHistory, h]

/-- A call that returns: a claim its answer, another call nothing. -/
theorem Held.returns {s s' : Option IdempotencyState} {o : Op} {q : CallPhase} {x : o.Ans}
    {a : KeyAnswer} (h : Held (keyHistory log) s) (hs : KeyStep key ⟨o, x⟩ s s')
    (hkey : o.onKey = some key) (ha : Relays a ((callMonitor key).next o q x)) :
    Held (keyHistory log ++ (keyEvent ⟨o, x⟩).toList ++ (answerEvent a).toList) s' := by
  cases a with
  | done y =>
      have hdid := h.step hs hkey
      simpa [answerEvent] using hdid
  | claimed y =>
      have hq := ha y rfl
      cases o with
      | claim key' =>
          obtain rfl := Option.some.inj hkey
          obtain rfl := CallPhase.claimed.inj hq
          have hret := h.claim hs
          simpa [keyEvent, answerEvent] using hret
      | _ => cases hq

end History

/-- **The in-memory store has one owner at a time**, however calls of its methods on
one key interleave and whichever of them fail. -/
theorem calls_exclusive (env : Env) (w : World) (key : IdempotencyKey) (calls : List KeyCall)
    (ts : List Nat) :
    Exclusive (keyHistory
      (Pool.run env.handle.shared ts (Pool.start w (calls.map (KeyCall.run key)))).log) := by
  have hfollow : Pool.AllFollow (callMonitor key) (fun _ => Relays) (fun _ => .fresh)
      (Pool.start w (calls.map (KeyCall.run key))) := by
    intro t p hp
    obtain ⟨c, -, rfl⟩ := List.mem_map.mp (List.mem_of_getElem? hp)
    exact c.run_follows
  refine (Pool.run_invariant (C := fun _ _ _ => True)
    (P := Pool.start w (calls.map (KeyCall.run key)))
    (I := fun w _ log => Held (keyHistory log) (w.idempotency.lookup key)) ?_ ts
    (Held.nil _) hfollow Pool.stepsMeet_true).elim fun _ h => h.1.exclusive
  intro w φ log t o x w' h ho _ hx
  obtain ⟨rfl, rfl⟩ := Handler.shared_eq_some.mp hx
  have hs := env.handle_keyStep key o w
  refine ⟨trivial, ?_, fun a ha => ?_⟩
  · rw [keyHistory_append, keyHistory_did]
    exact h.step hs ho.1
  · rw [List.append_cons, keyHistory_append, keyHistory_append, keyHistory_did,
      keyHistory_returned]
    exact h.returns hs ho.1 ha

end Orchestrator
