/-
# `CommerceOrchestrator.Runtime.Ownership` — which carts a call writes

A cart command writes the cart it names or a cart it creates, under an id drawn
on the way; a checkout writes the cart it names.  Both go by the id inside the
snapshot they loaded, so this rests on an invariant of the event store: every
snapshot is filed under its own id, and that id has been drawn (`Keyed`).
-/
import CommerceOrchestrator.Runtime.Session

namespace Orchestrator

open Effect Prog

variable {env : Env} {runner : Runner} {request : CheckoutRequest} {w w' : World}
  {tr : List (Event Op.Ans)} {n : Nat} {c : CartId}

/-! ## The invariant -/

/-- Every snapshot is filed under its own id, which is one of the first `n` drawn. -/
def Keyed (n : Nat) (w : World) : Prop :=
  ∀ c s, w.events.getCartSnapshot c = some s → s.cartId = c ∧ c.uuid.val < n

theorem Keyed.mono {m : Nat} (h : Keyed n w) (hle : n ≤ m) : Keyed m w := by
  intro c s hs
  exact ⟨(h c s hs).1, Nat.lt_of_lt_of_le (h c s hs).2 hle⟩

theorem Keyed.handle {o : Op} (h : Keyed n w)
    (hput : ∀ s, o = .putCartSnapshot s → s.cartId.uuid.val < n) :
    Keyed n (env.handle o w).2 := by
  intro c s hs
  by_cases ho : ∃ s', o = .putCartSnapshot s'
  · obtain ⟨s', rfl⟩ := ho
    rw [Env.handle_putCartSnapshot_snapshot] at hs
    split at hs
    · next hc =>
        cases hs
        exact ⟨hc.2.symm, hc.2 ▸ hput s rfl⟩
    · exact h c s hs
  · rw [Env.handle_snapshot fun s' he => ho ⟨s', he⟩] at hs
    exact h c s hs

/-! ## Drawn ids -/

/-- The cart's id is drawn on the path. -/
def Draws (tr : List (Event Op.Ans)) (c : CartId) : Prop := ⟨.newUuid, c.uuid⟩ ∈ tr

/-- An id drawn on a path is new at its start and drawn at its end. -/
theorem Draws.bounds (h : Draws tr c) (hr : Replays env.handle w tr w') :
    w.clock ≤ c.uuid.val ∧ c.uuid.val < w'.clock := by
  induction tr generalizing w with
  | nil => exact absurd h List.not_mem_nil
  | cons e tr ih =>
      rcases List.mem_cons.mp h with rfl | h
      · have hid : (⟨w.clock⟩ : Uuid) = c.uuid := hr.1
        have hle := Replays.clock_le hr.2
        rw [Env.handle_clock] at hle
        rw [← hid]
        exact ⟨le_rfl, hle⟩
      · have hle := ih h hr.2
        rw [Env.handle_clock] at hle
        exact ⟨Nat.le_of_succ_le hle.1, hle.2⟩

/-! ## Cart commands -/

/-- A cart command keeps the invariant, and writes the cart it names or one it creates. -/
theorem dispatchCartCommand_writes {command : CartCommand} {cartId : Option CartId}
    {r : Except RunnerError CartProjection}
    (ht : (dispatchCartCommand runner command cartId).run.Trace tr r)
    (hr : Replays env.handle w tr w') (hw : Keyed w.clock w) :
    Keyed w'.clock w' ∧
      ∀ e ∈ tr, ∀ c ∈ e.1.writesTo, command.target cartId = some c ∨ Draws tr c := by
  -- the ids it may touch, and what may be relied on about the snapshots under them
  let own : CartId → Prop := fun c => command.target cartId = some c ∨ Draws tr c
  let good : CartId → CartId → Option String → Prop := fun c id _ => id = c ∧ c.uuid.val < w'.clock
  have hfollows : (dispatchCartCommand runner command cartId).run.Follows (cartMonitor own good)
      (onOk (Returns own good)) () := by
    refine dispatchCartCommand_follows (fun c hc => Or.inl hc) ?_
    rintro payload rfl id (hid | hid)
    · cases hid
    · exact ⟨rfl, (hid.bounds hr).2⟩
  have hstep : ∀ e ∈ tr, ∀ (v : World) (q : Unit), Keyed w'.clock v →
      (cartMonitor own good).allow e.1 q → (env.handle e.1 v).1 = e.2 →
      (cartMonitor own good).rely e.1 q e.2 ∧ Keyed w'.clock (env.handle e.1 v).2 := by
    rintro ⟨o, x⟩ he v q hv ho hx
    constructor
    · cases o with
      | getCartSnapshot c =>
          cases x with
          | none => exact trivial
          | some s => exact hv c s (World.read_some hx)
      | newUuid => exact Or.inr he
      | _ => cases x <;> exact trivial
    · refine hv.handle ?_
      rintro s rfl
      obtain ⟨c, -, hid, hlt⟩ := ho
      exact hid ▸ hlt
  obtain ⟨⟨q, hend, -⟩, hallowed⟩ := Monitor.Accepts.replays (I := fun v _ => Keyed w'.clock v)
    hstep (hfollows.trace ht) hr (hw.mono (Replays.clock_le hr))
  refine ⟨hend, ?_⟩
  rintro ⟨o, x⟩ he c hc
  obtain ⟨q, ho⟩ := hallowed _ he
  cases o with
  | appendCartEvent c' event =>
      cases hc
      exact ho
  | setCartState c' state =>
      cases hc
      exact ho
  | putCartSnapshot s =>
      cases hc
      obtain ⟨c', hown, hid, -⟩ := ho
      exact hid ▸ hown
  | _ => cases hc

/-! ## Checkouts -/

theorem DiscountPath.sameCart {cart s : CartProjection} (h : DiscountPath cart tr (.ok s)) :
    SameCart cart s := by
  cases h <;> exact ⟨rfl, rfl⟩

/-- Re-pricing changes neither the id nor the tenant. -/
theorem RepricePath.sameCart {cart s : CartProjection} (h : RepricePath cart tr (.ok s)) :
    SameCart cart s := by
  cases h with
  | discounted ps tax hd => exact hd.sameCart

/-- Settling reads one snapshot, the request's, and puts no other cart. -/
theorem SettlePath.loads {r : Except RunnerError CartProjection} (h : SettlePath request tr r) :
    ∃ stored tr', tr = ⟨.getCartSnapshot request.cartId, stored⟩ :: tr' ∧
      ∀ e ∈ tr', ∀ c ∈ e.1.writesTo, ∃ s, stored = some s ∧ c = s.cartId := by
  have hquiet {cart : CartProjection} {t : List (Event Op.Ans)}
      {r : Except RunnerError CartProjection} (hp : RepricePath cart t r) :
      ∀ e ∈ t, e.1.writesTo = none := by
    intro e he
    have ho := hp.reprices e he
    revert ho
    cases e.1 <;> simp [Op.reprices, Op.writesTo]
  cases h with
  | missing => exact ⟨_, _, rfl, by simp⟩
  | refused cart e _ => exact ⟨_, _, rfl, by simp⟩
  | unpriced cart e _ hp =>
      refine ⟨_, _, rfl, fun e he c hc => ?_⟩
      rw [hquiet hp e he] at hc
      cases hc
  | ungeo cart repriced e _ hp =>
      refine ⟨_, _, rfl, fun e he c hc => ?_⟩
      rcases List.mem_append.mp he with he | he
      · rw [hquiet hp e he] at hc
        cases hc
      · cases List.mem_singleton.mp he
        cases hc
  | unsaved cart repriced g e _ hp | blocked cart repriced g e _ hp _
  | settled cart repriced g _ hp _ _ =>
      refine ⟨_, _, rfl, fun e he c hc => ⟨cart, rfl, ?_⟩⟩
      rcases List.mem_append.mp he with he | he
      · rw [hquiet hp e he] at hc
        cases hc
      · have hc : c = repriced.cartId := by
          rcases List.mem_cons.mp he with rfl | he
          · cases hc
          · cases List.mem_singleton.mp he
            exact (Option.some.inj hc).symm
        exact hc.trans hp.sameCart.1

theorem Op.reserves_writesTo {o : Op} (h : o.reserves) : o.writesTo = none := by
  cases o <;> first | rfl | exact absurd h Bool.false_ne_true

theorem Op.finishes_writesTo {o : Op} (h : o.finishes) : o.writesTo = none := by
  cases o <;> first | rfl | exact absurd h Bool.false_ne_true

/-- The owner of a key reads one snapshot, the request's, and puts no other cart. -/
theorem OwnerPath.loads {r : Except RunnerError TransactionResult}
    (h : OwnerPath runner request tr r) :
    ∃ stored tr', tr = ⟨.getCartSnapshot request.cartId, stored⟩ :: tr' ∧
      ∀ e ∈ tr', ∀ c ∈ e.1.writesTo, ∃ s, stored = some s ∧ c = s.cartId := by
  cases h with
  | unsettled e x e' hs =>
      obtain ⟨stored, tr', rfl, hput⟩ := hs.loads
      refine ⟨stored, _, rfl, List.forall_mem_append.mpr ⟨hput, ?_⟩⟩
      simp [Op.writesTo]
  | unreserved cart e hs hr =>
      obtain ⟨stored, tr', rfl, hput⟩ := hs.loads
      refine ⟨stored, _, rfl, List.forall_mem_append.mpr ⟨hput, fun e he c hc => ?_⟩⟩
      rw [Op.reserves_writesTo (hr.reserves e he)] at hc
      cases hc
  | paid cart hs hr hp =>
      obtain ⟨stored, tr', rfl, hput⟩ := hs.loads
      refine ⟨stored, _, rfl, List.forall_mem_append.mpr ⟨hput, List.forall_mem_append.mpr
        ⟨fun e he c hc => ?_, fun e he c hc => ?_⟩⟩⟩
      · rw [Op.reserves_writesTo (hr.reserves e he)] at hc
        cases hc
      · rw [Op.finishes_writesTo (hp.finishes e he)] at hc
        cases hc

/-- A checkout keeps the invariant and writes the cart it names. -/
theorem CheckoutPath.writes {r : Except RunnerError TransactionResult}
    (h : CheckoutPath runner request tr r) (hr : Replays env.handle w tr w')
    (hw : Keyed w.clock w) :
    Keyed w'.clock w' ∧ ∀ e ∈ tr, ∀ c ∈ e.1.writesTo, c = request.cartId := by
  have hputs : ∀ e ∈ tr, ∀ c ∈ e.1.writesTo, c = request.cartId ∧ c.uuid.val < w.clock := by
    cases h with
    | owned _ ho =>
        obtain ⟨stored, tr', rfl, hput⟩ := ho.loads
        obtain ⟨-, hread, -⟩ := hr
        intro e he c hc
        simp only [List.mem_cons] at he
        rcases he with rfl | rfl | he
        · cases hc
        · cases hc
        · obtain ⟨s, rfl, rfl⟩ := hput e he c hc
          have hs := World.read_some hread
          rw [Env.handle_snapshot (by simp)] at hs
          obtain ⟨hid, hlt⟩ := hw _ _ hs
          rw [hid]
          exact ⟨rfl, hlt⟩
    | _ => simp [Op.writesTo]
  refine ⟨?_, fun e he c hc => (hputs e he c hc).1⟩
  refine Replays.preserves hr (hw.mono (Replays.clock_le hr)) fun e he v hv _ => hv.handle ?_
  intro s hs
  have hput := hputs e he s.cartId (by rw [hs]; rfl)
  exact Nat.lt_of_lt_of_le hput.2 (Replays.clock_le hr)

/-! ## Calls -/

/-- The cart a call names, if it names one. -/
def Outcome.target : Outcome → Option CartId
  | .cart command cartId _ => command.target cartId
  | .checkout request _ => some request.cartId

theorem CallPath.writes {out : Outcome} (h : CallPath runner tr out)
    (hr : Replays env.handle w tr w') (hw : Keyed w.clock w) :
    Keyed w'.clock w' ∧ ∀ e ∈ tr, ∀ c ∈ e.1.writesTo, out.target = some c ∨ Draws tr c := by
  cases h with
  | cart ht => exact dispatchCartCommand_writes ht hr hw
  | checkout hp =>
      obtain ⟨hw', hput⟩ := hp.writes hr hw
      exact ⟨hw', fun e he c hc => Or.inl (congrArg some (hput e he c hc).symm)⟩

/-- In every reachable world snapshots are filed under their own drawn ids. -/
theorem Reachable.keyed (h : Reachable env runner w) : Keyed w.clock w := by
  obtain ⟨calls, rfl⟩ := h
  refine session_preserves (I := fun w => Keyed w.clock w)
    (fun w tr out w' hw hp hr => (hp.writes hr hw).1) ?_
  intro c s hs
  cases hs

/-- **Frame.**  A call leaves the record of every drawn cart it does not name as it is. -/
theorem CallPath.record {out : Outcome} (h : CallPath runner tr out)
    (hr : Replays env.handle w tr w') (hw : Keyed w.clock w) (hc : c.uuid.val < w.clock)
    (hne : out.target ≠ some c) : w'.events.record c = w.events.record c := by
  refine Replays.frame (fun v => v.events.record c) hr fun e he v => Env.handle_record ?_
  intro hwrites
  rcases (h.writes hr hw).2 e he c hwrites with htarget | hdraws
  · exact hne htarget
  · exact absurd hc (Nat.not_lt.mpr (hdraws.bounds hr).1)

end Orchestrator
