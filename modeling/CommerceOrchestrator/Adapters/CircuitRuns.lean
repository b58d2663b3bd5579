/-
# `CommerceOrchestrator.Adapters.CircuitRuns` — what a shared breaker protects from

Any number of calls use one breaker, interleaved in any way.  The history of the breaker
says who did what to it and when.  After the circuit opens nobody gets through before its
time, then one probe at a time does, and only the answer of such a probe closes it again:
`Protected`.  That holds of a run as long as reports come in turn, which is to say that no
answer to an older call arrives while the circuit is open or half open.
-/
import CommerceOrchestrator.Adapters.Circuit
import CommerceOrchestrator.Effect.Pool
import CommerceOrchestrator.Effect.Prefixes
import Mathlib.Order.Monotone.Defs

namespace Orchestrator

open Effect Prog

/-! ## The history of a breaker -/

inductive CircuitAct
  | acquire (granted : Bool)
  | onSuccess
  | onFailure
deriving DecidableEq, Repr

/-- `caller` used the breaker at the instant `time`. -/
structure CircuitMove where
  caller : Nat
  time : Nat
  act : CircuitAct
  before : Internal
  after : Internal
deriving DecidableEq, Repr

namespace CircuitMove

variable (m : CircuitMove)

/-- The caller got permission. -/
def granted : Bool := m.act = .acquire true

/-- The circuit opened. -/
def opens : Bool := m.act = .onFailure && m.after.isOpened

/-- The caller got permission though the circuit was not closed. -/
def probes : Bool := m.granted && !m.before.isClosed

/-- The circuit returned to closed. -/
def closes : Bool := !m.before.isClosed && m.after.isClosed

end CircuitMove

namespace CircuitBreaker

/-- The call that `q` let through has not been reported on, nor did its caller go on to
the next one. -/
def InFlight (q : CircuitMove) (since : List CircuitMove) : Prop :=
  ∀ m ∈ since, m.caller = q.caller → m.act = .acquire false

instance {q : CircuitMove} {since : List CircuitMove} : Decidable (InFlight q since) :=
  inferInstanceAs (Decidable (∀ m ∈ since, m.caller = q.caller → m.act = .acquire false))

/-- What is asked of a move after the moves `past`. -/
structure Respects (config : CircuitBreakerConfig) (past : List CircuitMove) (m : CircuitMove) :
    Prop where
  opened : m.granted → ∀ o ∈ past, o.opens → o.time + config.openDuration ≤ m.time
  probing : m.granted → ∀ earlier q since, past = earlier ++ q :: since → q.probes →
    InFlight q since → q.time + config.probeTimeout ≤ m.time
  closing : m.closes → m.act = .onSuccess ∧ ∃ earlier q since, past = earlier ++ q :: since ∧
    q.probes ∧ q.caller = m.caller ∧ InFlight q since ∧ ∀ o ∈ since, ¬ o.opens

/-- **Protection.**  After the circuit opened nobody gets permission before its time, while a
probe is in flight nobody does within its timeout, and the circuit closes only by the success
of a probe admitted since it opened. -/
def Protected (config : CircuitBreakerConfig) (history : List CircuitMove) : Prop :=
  EachAfter (Respects config) history

section Histories

variable {config : CircuitBreakerConfig} {history : List CircuitMove} {q m : CircuitMove}
  {bound bound' : Nat}

theorem Protected.append (h : Protected config history) (hm : Respects config history m) :
    Protected config (history ++ [m]) :=
  EachAfter.concat_iff.mpr ⟨h, hm⟩

theorem InFlight.of_append {since since' : List CircuitMove} (h : InFlight q (since ++ since')) :
    InFlight q since :=
  fun m hm => h m (List.mem_append_left _ hm)

/-- No opening and no probe in flight stands in the way of a permission at `bound`. -/
structure Cleared (config : CircuitBreakerConfig) (bound : Nat) (history : List CircuitMove) :
    Prop where
  opened : ∀ o ∈ history, o.opens → o.time + config.openDuration ≤ bound
  probing : ∀ earlier q since, history = earlier ++ q :: since → q.probes → InFlight q since →
    q.time + config.probeTimeout ≤ bound

theorem Cleared.mono (h : Cleared config bound history) (hle : bound ≤ bound') :
    Cleared config bound' history :=
  ⟨fun o ho hopens => (h.opened o ho hopens).trans hle,
    fun earlier q since heq hq hf => (h.probing earlier q since heq hq hf).trans hle⟩

theorem cleared_nil : Cleared config bound [] := by
  refine ⟨fun o ho => absurd ho List.not_mem_nil, ?_⟩
  intro earlier q since h
  simp at h

/-- A move that is no probe, and opens the circuit for no longer than `bound`. -/
theorem Cleared.append (h : Cleared config bound history) (hprobes : m.probes = false)
    (hopens : m.opens → m.time + config.openDuration ≤ bound) :
    Cleared config bound (history ++ [m]) := by
  constructor
  · intro o ho
    rcases List.mem_append.mp ho with ho | ho
    · exact h.opened o ho
    · exact List.mem_singleton.mp ho ▸ hopens
  · intro earlier q since heq hq hf
    rcases split_concat heq with ⟨-, rfl, -⟩ | ⟨since', rfl, hsplit⟩
    · rw [hprobes] at hq
      cases hq
    · exact h.probing earlier q since' hsplit hq hf.of_append

/-- Permission given once everything is cleared, in a state in which it closes nothing. -/
theorem Cleared.respects (h : Cleared config bound history) (hle : bound ≤ m.time)
    (hcloses : m.closes = false) : Respects config history m :=
  ⟨fun _ => (h.mono hle).opened, fun _ => (h.mono hle).probing, fun hc => by
    rw [hcloses] at hc
    cases hc⟩

/-- A move that is no permission and does not close the circuit respects any past. -/
theorem respects_of_idle (hgranted : m.granted = false) (hcloses : m.closes = false) :
    Respects config history m := by
  refine ⟨fun hg => ?_, fun hg => ?_, fun hc => ?_⟩
  · rw [hgranted] at hg
    cases hg
  · rw [hgranted] at hg
    cases hg
  · rw [hcloses] at hc
    cases hc

end Histories

/-! ## A probe that is out -/

/-- Who got permission last. -/
def lastAdmitted (history : List CircuitMove) : Option Nat :=
  ((history.filter CircuitMove.granted).getLast?).map CircuitMove.caller

/-- The last permission was that of the probe `p`, everything before it was cleared then, and
since then callers were only turned away. -/
structure Probing (config : CircuitBreakerConfig) (now until_ : Nat) (history : List CircuitMove)
    (p : CircuitMove) : Prop where
  probes : p.probes
  past : p.time ≤ now
  until_eq : until_ = p.time + config.probeTimeout
  split : ∃ earlier since, history = earlier ++ p :: since ∧ Cleared config p.time earlier ∧
    ∀ m ∈ since, m.act = .acquire false

namespace Probing

variable {config : CircuitBreakerConfig} {now until_ : Nat} {history : List CircuitMove}
  {p m : CircuitMove}

theorem mono {now' : Nat} (h : Probing config now until_ history p) (hle : now ≤ now') :
    Probing config now' until_ history p :=
  { h with past := h.past.trans hle }

theorem lastAdmitted_eq (h : Probing config now until_ history p) :
    lastAdmitted history = some p.caller := by
  obtain ⟨earlier, since, rfl, -, hsince⟩ := h.split
  have hp : p.granted = true := by
    have := h.probes
    simp only [CircuitMove.probes, Bool.and_eq_true] at this
    exact this.1
  have hnone : since.filter CircuitMove.granted = [] := by
    refine List.filter_eq_nil_iff.mpr fun m hm => ?_
    simp [CircuitMove.granted, hsince m hm]
  rw [lastAdmitted, List.filter_append, List.filter_cons_of_pos hp, hnone,
    List.getLast?_concat]
  rfl

/-- Turned away while the probe is out. -/
theorem append (h : Probing config now until_ history p) (hm : m.act = .acquire false) :
    Probing config now until_ (history ++ [m]) p := by
  obtain ⟨earlier, since, rfl, hcleared, hsince⟩ := h.split
  refine { h with split := ⟨earlier, since ++ [m], by simp, hcleared, ?_⟩ }
  intro m' hm'
  rcases List.mem_append.mp hm' with hm' | hm'
  · exact hsince m' hm'
  · exact List.mem_singleton.mp hm' ▸ hm

/-- Apart from the probe itself everything is cleared when it was admitted. -/
theorem cleared_or (h : Probing config now until_ history p) :
    (∀ o ∈ history, o.opens → o.time + config.openDuration ≤ p.time) ∧
    ∀ earlier q since, history = earlier ++ q :: since → q.probes → InFlight q since →
      q.time + config.probeTimeout ≤ p.time ∨ q = p := by
  obtain ⟨before, after, rfl, hcleared, hafter⟩ := h.split
  have hturned : ∀ m ∈ after, m.act = .acquire false := hafter
  constructor
  · intro o ho hopens
    rcases List.mem_append.mp ho with ho | ho
    · exact hcleared.opened o ho hopens
    · rcases List.mem_cons.mp ho with rfl | ho
      · have hp := h.probes
        simp only [CircuitMove.probes, CircuitMove.granted, CircuitMove.opens, Bool.and_eq_true,
          decide_eq_true_eq] at hp hopens
        rw [hp.1] at hopens
        cases hopens.1
      · simp [CircuitMove.opens, hturned o ho] at hopens
  · intro earlier q since heq hq hf
    rcases List.append_eq_append_iff.mp heq with ⟨mid, rfl, hmid⟩ | ⟨mid, rfl, hmid⟩
    · -- the split is at the probe or after it
      cases mid with
      | nil =>
          rw [List.nil_append] at hmid
          exact Or.inr (List.cons.inj hmid).1.symm
      | cons x mid =>
          obtain ⟨-, rfl⟩ := List.cons.inj hmid
          have hact := hturned q (List.mem_append_right _ List.mem_cons_self)
          simp [CircuitMove.probes, CircuitMove.granted, hact] at hq
    · -- the split is before the probe
      cases mid with
      | nil =>
          rw [List.nil_append] at hmid
          exact Or.inr (List.cons.inj hmid).1
      | cons x mid =>
          obtain ⟨rfl, rfl⟩ := List.cons.inj hmid
          exact Or.inl (hcleared.probing earlier q mid rfl hq hf.of_append)

theorem cleared (h : Probing config now until_ history p) : Cleared config until_ history := by
  obtain ⟨hopened, hprobing⟩ := h.cleared_or
  have hle : p.time ≤ until_ := by
    rw [h.until_eq]
    exact Nat.le_add_right _ _
  constructor
  · exact fun o ho hopens => (hopened o ho hopens).trans hle
  · intro earlier q since heq hq hf
    rcases hprobing earlier q since heq hq hf with hb | rfl
    · exact hb.trans hle
    · exact h.until_eq.ge

/-- Once its caller has reported, the probe stands in nobody's way. -/
theorem cleared_report (h : Probing config now until_ history p) (hcaller : m.caller = p.caller)
    (hact : m.act = .onSuccess ∨ m.act = .onFailure) {bound : Nat} (hle : p.time ≤ bound)
    (hopens : m.opens → m.time + config.openDuration ≤ bound) :
    Cleared config bound (history ++ [m]) := by
  obtain ⟨hopened, hprobing⟩ := h.cleared_or
  constructor
  · intro o ho
    rcases List.mem_append.mp ho with ho | ho
    · exact fun hopens => (hopened o ho hopens).trans hle
    · exact List.mem_singleton.mp ho ▸ hopens
  · intro earlier q since heq hq hf
    rcases split_concat heq with ⟨-, rfl, -⟩ | ⟨since', rfl, hsplit⟩
    · rcases hact with hact | hact <;>
        simp [CircuitMove.probes, CircuitMove.granted, hact] at hq
    · rcases hprobing earlier q since' hsplit hq hf.of_append with hb | rfl
      · exact hb.trans hle
      · have := hf m (List.mem_append_right _ (List.mem_singleton.mpr rfl)) hcaller
        rcases hact with hact | hact <;> cases this.symm.trans hact

/-- The success of the probe itself may close the circuit. -/
theorem respects_success (h : Probing config now until_ history p) (hcaller : m.caller = p.caller)
    (hact : m.act = .onSuccess) : Respects config history m := by
  refine ⟨fun hg => ?_, fun hg => ?_, fun _ => ⟨hact, ?_⟩⟩
  · simp [CircuitMove.granted, hact] at hg
  · simp [CircuitMove.granted, hact] at hg
  · obtain ⟨earlier, since, rfl, -, hsince⟩ := h.split
    refine ⟨earlier, p, since, rfl, h.probes, hcaller.symm, fun m hm _ => hsince m hm, ?_⟩
    intro o ho
    simp [CircuitMove.opens, hsince o ho]

end Probing

/-! ## The invariant -/

/-- What the state of the breaker says about its history. -/
def Placed (config : CircuitBreakerConfig) (now : Nat) (history : List CircuitMove) :
    Internal → Prop
  | .closed _ => Cleared config now history
  | .opened until_ => until_ ≤ now + config.openDuration ∧ Cleared config until_ history
  | .halfOpen until_ => ∃ p, Probing config now until_ history p

structure Guarded (breaker : CircuitBreaker) (now : Nat) (history : List CircuitMove) : Prop where
  protects : Protected breaker.config history
  placed : Placed breaker.config now history breaker.state

section Guarded

variable {breaker : CircuitBreaker} {now : Nat} {history : List CircuitMove} {t : Nat}

theorem Guarded.mono {now' : Nat} (h : Guarded breaker now history) (hle : now ≤ now') :
    Guarded breaker now' history := by
  refine ⟨h.protects, ?_⟩
  have hplaced := h.placed
  cases hs : breaker.state with
  | closed n =>
      rw [hs] at hplaced
      exact hplaced.mono hle
  | opened until_ =>
      rw [hs] at hplaced
      exact ⟨hplaced.1.trans (Nat.add_le_add_right hle _), hplaced.2⟩
  | halfOpen until_ =>
      rw [hs] at hplaced
      exact hplaced.imp fun p hp => hp.mono hle

/-- `t` uses the breaker at `now`, and the breaker becomes `after`. -/
def move (breaker after : CircuitBreaker) (t now : Nat) (act : CircuitAct) : CircuitMove :=
  ⟨t, now, act, breaker.state, after.state⟩

/-- A permission, or a refusal. -/
def acquireAct : Except AdapterError Unit → CircuitAct
  | .ok _ => .acquire true
  | .error _ => .acquire false

/-- Reports come in turn: a success finds the circuit closed or is that of the probe that is
out, and so is a failure that would end the wait for this probe early. -/
def InTurn (breaker : CircuitBreaker) (history : List CircuitMove) (t now : Nat) :
    CircuitAct → Prop
  | .acquire _ => True
  | .onSuccess =>
      match breaker.state with
      | .closed _ => True
      | .opened _ => False
      | .halfOpen _ => lastAdmitted history = some t
  | .onFailure =>
      match breaker.state with
      | .halfOpen until_ =>
          lastAdmitted history = some t ∨ until_ ≤ now + breaker.config.openDuration
      | _ => True

instance {act : CircuitAct} : Decidable (InTurn breaker history t now act) := by
  unfold InTurn
  split
  · infer_instance
  · split <;> infer_instance
  · split <;> infer_instance

/-- Time passed since an opening, or since a probe went out: the caller probes. -/
theorem Guarded.probe (h : Guarded breaker now history)
    {until_ : Nat} (hstate : breaker.state.isClosed = false)
    (hcleared : Cleared breaker.config until_ history) (hle : until_ ≤ now) :
    Guarded { breaker with state := .halfOpen (now + breaker.config.probeTimeout) } now
      (history ++ [⟨t, now, .acquire true, breaker.state,
        .halfOpen (now + breaker.config.probeTimeout)⟩]) := by
  refine ⟨h.protects.append (hcleared.respects hle ?_), ?_⟩
  · simp [CircuitMove.closes, Internal.isClosed]
  · refine ⟨_, ?_, le_refl now, rfl, history, [], rfl, ?_,
      fun m hm => absurd hm List.not_mem_nil⟩
    · simp [CircuitMove.probes, CircuitMove.granted, hstate]
    · exact hcleared.mono hle

theorem Guarded.acquire (h : Guarded breaker now history) (henabled : breaker.config.enabled) :
    Guarded (breaker.acquire now).2 now
      (history ++ [move breaker (breaker.acquire now).2 t now (acquireAct (breaker.acquire now).1)])
    := by
  have hplaced := h.placed
  unfold CircuitBreaker.acquire
  rw [if_neg (by simp [henabled])]
  cases hs : breaker.state with
  | closed n =>
      rw [hs] at hplaced
      refine ⟨h.protects.append (hplaced.respects (le_refl now) ?_), ?_⟩
      · simp [move, CircuitMove.closes, hs, Internal.isClosed]
      · rw [hs]
        refine Cleared.append hplaced ?_ ?_
        · simp [move, acquireAct, CircuitMove.probes, hs, Internal.isClosed]
        · simp [move, acquireAct, CircuitMove.opens]
  | opened until_ =>
      rw [hs] at hplaced
      by_cases hle : until_ ≤ now
      · simp only [if_pos hle]
        exact h.probe (by rw [hs]; rfl) hplaced.2 hle
      · simp only [if_neg hle]
        refine ⟨h.protects.append (respects_of_idle rfl ?_), ?_⟩
        · simp [move, CircuitMove.closes, hs, Internal.isClosed]
        · rw [hs]
          refine ⟨hplaced.1, hplaced.2.append rfl ?_⟩
          simp [move, acquireAct, CircuitMove.opens]
  | halfOpen until_ =>
      rw [hs] at hplaced
      obtain ⟨p, hp⟩ := hplaced
      by_cases hle : until_ ≤ now
      · simp only [if_pos hle]
        exact h.probe (by rw [hs]; rfl) hp.cleared hle
      · simp only [if_neg hle]
        refine ⟨h.protects.append (respects_of_idle rfl ?_), ?_⟩
        · simp [move, CircuitMove.closes, hs, Internal.isClosed]
        · rw [hs]
          exact ⟨p, hp.append rfl⟩

theorem Guarded.onSuccess (h : Guarded breaker now history) (henabled : breaker.config.enabled)
    (hturn : InTurn breaker history t now .onSuccess) :
    Guarded breaker.onSuccess now (history ++ [move breaker breaker.onSuccess t now .onSuccess])
    := by
  have hplaced := h.placed
  unfold InTurn at hturn
  unfold CircuitBreaker.onSuccess
  rw [if_neg (by simp [henabled])]
  cases hs : breaker.state with
  | closed n =>
      rw [hs] at hplaced
      refine ⟨h.protects.append (respects_of_idle rfl ?_), Cleared.append hplaced rfl ?_⟩
      · simp [move, CircuitMove.closes, hs, Internal.isClosed]
      · simp [move, CircuitMove.opens]
  | opened until_ =>
      simp only [hs] at hturn
  | halfOpen until_ =>
      simp only [hs] at hplaced hturn
      obtain ⟨p, hp⟩ := hplaced
      have hcaller : t = p.caller := Option.some.inj (hturn.symm.trans hp.lastAdmitted_eq)
      refine ⟨h.protects.append (hp.respects_success hcaller rfl), ?_⟩
      refine hp.cleared_report hcaller (Or.inl rfl) hp.past ?_
      simp [move, CircuitMove.opens]

/-- The circuit opens, for the time the configuration says. -/
theorem Guarded.open (h : Guarded breaker now history)
    (hcleared : Cleared breaker.config (now + breaker.config.openDuration)
      (history ++ [⟨t, now, .onFailure, breaker.state,
        .opened (now + breaker.config.openDuration)⟩])) :
    Guarded { breaker with state := .opened (now + breaker.config.openDuration) } now
      (history ++ [⟨t, now, .onFailure, breaker.state,
        .opened (now + breaker.config.openDuration)⟩]) := by
  refine ⟨h.protects.append (respects_of_idle rfl ?_), le_refl _, hcleared⟩
  simp [CircuitMove.closes, Internal.isClosed]

theorem Guarded.onFailure (h : Guarded breaker now history) (henabled : breaker.config.enabled)
    (hturn : InTurn breaker history t now .onFailure) :
    Guarded (breaker.onFailure now) now
      (history ++ [move breaker (breaker.onFailure now) t now .onFailure]) := by
  have hplaced := h.placed
  unfold InTurn at hturn
  unfold CircuitBreaker.onFailure
  rw [if_neg (by simp [henabled])]
  cases hs : breaker.state with
  | closed n =>
      rw [hs] at hplaced
      by_cases hle : breaker.config.failureThreshold ≤ countFailure n
      · simp only [if_pos hle]
        exact h.open ((hplaced.mono (Nat.le_add_right _ _)).append rfl fun _ => le_refl _)
      · simp only [if_neg hle]
        refine ⟨h.protects.append (respects_of_idle rfl ?_), Cleared.append hplaced rfl ?_⟩
        · simp [move, CircuitMove.closes, hs, Internal.isClosed]
        · simp [move, CircuitMove.opens, Internal.isOpened]
  | opened until_ =>
      rw [hs] at hplaced
      exact h.open ((hplaced.2.mono hplaced.1).append rfl fun _ => le_refl _)
  | halfOpen until_ =>
      simp only [hs] at hplaced hturn
      obtain ⟨p, hp⟩ := hplaced
      refine h.open ?_
      rcases hturn with hturn | hle
      · have hcaller : t = p.caller := Option.some.inj (hturn.symm.trans hp.lastAdmitted_eq)
        exact hp.cleared_report hcaller (Or.inr rfl) (hp.past.trans (Nat.le_add_right _ _))
          fun _ => le_refl _
      · exact (hp.cleared.mono hle).append rfl fun _ => le_refl _

end Guarded

end CircuitBreaker

/-! ## Runs -/

/-- The breaker, its history, and the number of operations so far. -/
structure CircuitWorld where
  breaker : CircuitBreaker
  history : List CircuitMove
  tick : Nat

/-- What the outside decides, at each operation. -/
structure CircuitEnv (R : Type) where
  clock : Nat → Nat
  subsecNanos : Nat → Nat
  applyAuth : Nat → R → Except AdapterError R
  send : Nat → R → Except TransportError Response

section Runs

variable {R : Type} {α : Type} (env : CircuitEnv R)

/-- The breaker is behind a lock, and reads the clock under it. -/
def CircuitEnv.handle : SharedHandler (CircuitOp.Ans (R := R)) CircuitWorld := fun t o w =>
  let now := env.clock w.tick
  let use (after : CircuitBreaker) (act : CircuitAct) : CircuitWorld :=
    ⟨after, w.history ++ [CircuitBreaker.move w.breaker after t now act], w.tick + 1⟩
  match o with
  | .acquire =>
      let answer := w.breaker.acquire now
      some (answer.1, use answer.2 (CircuitBreaker.acquireAct answer.1))
  | .onSuccess => some ((), use w.breaker.onSuccess .onSuccess)
  | .onFailure => some ((), use (w.breaker.onFailure now) .onFailure)
  | .applyAuth request => some (env.applyAuth w.tick request, { w with tick := w.tick + 1 })
  | .send request => some (env.send w.tick request, { w with tick := w.tick + 1 })
  | .subsecNanos => some (env.subsecNanos w.tick, { w with tick := w.tick + 1 })
  | .sleep _ => some ((), { w with tick := w.tick + 1 })

/-- A new breaker and the calls that share it. -/
def circuitPool (provider : String) (config : CircuitBreakerConfig) (calls : List (ClientRun R α)) :
    Pool (CircuitOp.Ans (R := R)) CircuitWorld α :=
  Pool.start ⟨.new provider config, [], 0⟩ calls

/-- The condition on one operation of a run. -/
def CircuitEnv.InTurn (t : Nat) (o : CircuitOp R) (w : CircuitWorld) : Prop :=
  match o with
  | .onSuccess => w.breaker.InTurn w.history t (env.clock w.tick) .onSuccess
  | .onFailure => w.breaker.InTurn w.history t (env.clock w.tick) .onFailure
  | _ => True

instance {t : Nat} {o : CircuitOp R} {w : CircuitWorld} : Decidable (env.InTurn t o w) := by
  unfold CircuitEnv.InTurn
  split <;> infer_instance

/-- What every operation keeps. -/
def CircuitEnv.Guards (config : CircuitBreakerConfig) (w : CircuitWorld) : Prop :=
  w.breaker.config = config ∧ w.breaker.Guarded (env.clock w.tick) w.history

variable {env} {config : CircuitBreakerConfig}

theorem CircuitEnv.Guards.tick (hclock : Monotone env.clock) {w : CircuitWorld}
    {breaker : CircuitBreaker} {history : List CircuitMove} (hconfig : breaker.config = config)
    (h : breaker.Guarded (env.clock w.tick) history) :
    env.Guards config ⟨breaker, history, w.tick + 1⟩ :=
  ⟨hconfig, h.mono (hclock (Nat.le_succ _))⟩

theorem CircuitEnv.Guards.step (hclock : Monotone env.clock) (henabled : config.enabled)
    {t : Nat} {o : CircuitOp R} {w w' : CircuitWorld} {x : o.Ans} (h : env.Guards config w)
    (hturn : env.InTurn t o w) (hstep : env.handle t o w = some (x, w')) :
    env.Guards config w' := by
  obtain ⟨rfl, hguarded⟩ := h
  cases o with
  | acquire =>
      cases hstep
      refine Guards.tick hclock ?_ (hguarded.acquire henabled)
      unfold CircuitBreaker.acquire
      split
      · rfl
      · split
        · rfl
        · split <;> rfl
        · split <;> rfl
  | onSuccess =>
      cases hstep
      refine Guards.tick hclock ?_ (hguarded.onSuccess henabled hturn)
      unfold CircuitBreaker.onSuccess
      split <;> rfl
  | onFailure =>
      cases hstep
      refine Guards.tick hclock ?_ (hguarded.onFailure henabled hturn)
      unfold CircuitBreaker.onFailure
      split
      · rfl
      · split
        · rfl
        · rfl
        · split <;> rfl
  | applyAuth request | send request | subsecNanos | sleep delay =>
      cases hstep
      exact Guards.tick hclock rfl hguarded

/-- **A breaker whose reports come in turn protects.**  In a run in which no answer to an older
call arrives while the circuit is open, or while a probe is out and the answer would let others
through before the probe is due, the circuit stays shut for its time, one probe at a time gets
through, and only such a probe closes it. -/
theorem circuit_protected (hclock : Monotone env.clock) (henabled : config.enabled = true)
    (provider : String) (calls : List (ClientRun R α)) (ts : List Nat)
    (hturn : Pool.StepsMeet env.InTurn env.handle ts (circuitPool provider config calls)) :
    CircuitBreaker.Protected config
      (Pool.run env.handle ts (circuitPool provider config calls)).world.history := by
  have hstart : env.Guards config (circuitPool provider config calls).world :=
    ⟨rfl, EachAfter.nil, CircuitBreaker.cleared_nil⟩
  have hend := Pool.StepsMeet.preserves (C := env.InTurn) (h := env.handle) (I := env.Guards config)
    (fun t o w x w' hw ho hx => CircuitEnv.Guards.step hclock henabled hw ho hx) hturn hstart
  have hprotects := hend.2.protects
  rwa [hend.1] at hprotects

end Runs

namespace Sample

/-- Opens at the first failure. -/
def touchyConfig : CircuitBreakerConfig :=
  { failureThreshold := 1, openDuration := 5, probeTimeout := 60 }

def oneTry : ClientConfig := { maxRetries := 0, circuitBreaker := true }

/-- The provider is down at first and answers from the seventh operation on. -/
def recoveringEnv : CircuitEnv Unit where
  clock := id
  subsecNanos _ := 0
  applyAuth _ request := .ok request
  send tick _ := .ok ⟨if tick < 6 then 503 else 200, none, ""⟩

def oneTryPool (n : Nat) :
    Pool (CircuitOp.Ans (R := Unit)) CircuitWorld (Except AdapterError Response) :=
  circuitPool "psp" touchyConfig (List.replicate n (oneTry.executeWithRetry .idempotent ()))

/-- One call fails, four are turned away, and the sixth is the probe. -/
def recovery : List Nat := [0, 0, 0, 0, 1, 2, 3, 4, 5, 5, 5, 5]

/-- Two calls are let through; the first fails and opens the circuit, then the second
succeeds, and a third asks. -/
def lateAnswer : List Nat := [0, 1, 0, 1, 0, 0, 1, 1, 2]

end Sample

open Sample in
theorem circuit_protected_recovery :
    Monotone recoveringEnv.clock ∧ touchyConfig.enabled = true ∧
      Pool.StepsMeet recoveringEnv.InTurn recoveringEnv.handle recovery (oneTryPool 6) ∧
      CircuitBreaker.Protected touchyConfig
        (Pool.run recoveringEnv.handle recovery (oneTryPool 6)).world.history := by
  have hturn : Pool.StepsMeet recoveringEnv.InTurn recoveringEnv.handle recovery (oneTryPool 6) :=
    by decide +kernel
  exact ⟨monotone_id, rfl, hturn, circuit_protected monotone_id rfl "psp" _ recovery hturn⟩

open Sample in
/-- The late success closes the circuit, and a third call is let through before the time. -/
theorem not_circuit_protected :
    Monotone recoveringEnv.clock ∧ touchyConfig.enabled = true ∧
      ¬ CircuitBreaker.Protected touchyConfig
        (Pool.run recoveringEnv.handle lateAnswer (oneTryPool 3)).world.history := by
  refine ⟨monotone_id, rfl, fun h => ?_⟩
  have hrun : (Pool.run recoveringEnv.handle lateAnswer (oneTryPool 3)).world.history =
      [⟨0, 0, .acquire true, .closed 0, .closed 0⟩, ⟨1, 1, .acquire true, .closed 0, .closed 0⟩,
        ⟨0, 5, .onFailure, .closed 0, .opened 10⟩, ⟨1, 7, .onSuccess, .opened 10, .closed 0⟩] ++
      ⟨2, 8, .acquire true, .closed 0, .closed 0⟩ :: [] := by decide +kernel
  have hearly := (h _ _ _ hrun).opened rfl ⟨0, 5, .onFailure, .closed 0, .opened 10⟩ (by simp) rfl
  exact absurd hearly (by decide)

end Orchestrator
