/-
# `CommerceOrchestrator.Runtime.Reservations` — the life of a reservation

A reservation is filed under cart and SKU, and stays on file when its checkout is over.
Finalizing and releasing rewrite every record of the cart, whatever state it is in, and a
reservation replaces what is on file.  `lifeCycle_iff` says which sequences of operations
nevertheless neither give back what is sold nor sell what was given back, and
`reserved_covers_iff` when what is reserved at the authorization is what the cart holds.
-/
import CommerceOrchestrator.Runtime.Charging
import CommerceOrchestrator.Runtime.Edits

namespace Orchestrator

open Effect Prog

variable {k : CartId × String} {c : CartId} {store : InMemoryReservationStore} {now : Nat}

/-! ## The operations -/

namespace InMemoryReservationStore

/-- A lease that has run out without a sale. -/
def lapse (now : Nat) (record : ReservationRecord) : ReservationRecord :=
  if record.state = .reserved ∧ record.leaseUntil ≤ now then { record with state := .expired }
  else record

/-- The number of records that expire, and the store with them expired. -/
def sweepExpired (store : InMemoryReservationStore) (now : Nat) :
    Nat × InMemoryReservationStore :=
  (store.entries.countP fun e => e.2.state = .reserved ∧ e.2.leaseUntil ≤ now,
    store.mapValues fun _ => lapse now)

/-- The state of what is filed under a cart and a SKU. -/
def stateOf (store : InMemoryReservationStore) (k : CartId × String) : Option ReservationState :=
  (store.lookup k).map (·.state)

/-- Every record is filed under its own cart. -/
def Filed (store : InMemoryReservationStore) : Prop :=
  ∀ k record, store.lookup k = some record → record.cartId = k.1

end InMemoryReservationStore

open InMemoryReservationStore

/-- The operations of a reservation store. -/
inductive StockOp
  | reserve (cartId : CartId) (sku : String) (quantity ttl : Nat)
  | finalizeCart (cartId : CartId)
  | releaseCart (cartId : CartId)
  | sweepExpired
deriving DecidableEq, Repr

def StockOp.apply (now : Nat) (store : InMemoryReservationStore) :
    StockOp → InMemoryReservationStore
  | .reserve cartId sku quantity ttl => store.reserve now cartId sku quantity ttl
  | .finalizeCart cartId => store.finalizeCart cartId
  | .releaseCart cartId => store.releaseCart cartId
  | .sweepExpired => (store.sweepExpired now).2

/-- Operations, each at its time, one after the other. -/
def runStock (ops : List (Nat × StockOp)) (store : InMemoryReservationStore) :
    InMemoryReservationStore :=
  ops.foldl (fun store op => op.2.apply op.1 store) store

/-- What an operation makes of the state under `k`. -/
def StockOp.moves (k : CartId × String) (s s' : Option ReservationState) : StockOp → Prop
  | .reserve cartId sku _ _ => s' = if k = (cartId, sku) then some .reserved else s
  | .finalizeCart cartId => s' = if k.1 = cartId then s.map fun _ => .finalized else s
  | .releaseCart cartId => s' = if k.1 = cartId then s.map fun _ => .released else s
  | .sweepExpired => s' = s ∨ (s = some .reserved ∧ s' = some .expired)

theorem stateOf_setCart (hstore : store.Filed) (state : ReservationState) :
    (store.setCart c state).stateOf k =
      if k.1 = c then (store.stateOf k).map fun _ => state else store.stateOf k := by
  rw [stateOf, lookup_setCart, stateOf]
  cases hk : store.lookup k with
  | none => simp
  | some record =>
      rw [← hstore k record hk]
      simp only [Option.map_some]
      split <;> rfl

theorem StockOp.moves_apply (hstore : store.Filed) (op : StockOp) :
    op.moves k (store.stateOf k) ((op.apply now store).stateOf k) := by
  cases op with
  | reserve cartId sku quantity ttl =>
      show ((store.reserve now cartId sku quantity ttl).lookup k).map _ = _
      rw [lookup_reserve]
      split <;> rfl
  | finalizeCart cartId => exact stateOf_setCart hstore .finalized
  | releaseCart cartId => exact stateOf_setCart hstore .released
  | sweepExpired =>
      have hafter : (StockOp.sweepExpired.apply now store).stateOf k =
          ((store.lookup k).map (lapse now)).map (·.state) :=
        congrArg (Option.map ReservationRecord.state) (Table.lookup_mapValues _ _ _)
      rw [hafter, stateOf]
      cases store.lookup k with
      | none => exact Or.inl rfl
      | some record =>
          simp only [Option.map_some, lapse]
          split
          · next h => exact Or.inr ⟨congrArg some h.1, rfl⟩
          · exact Or.inl rfl

theorem StockOp.filed_apply (hstore : store.Filed) (op : StockOp) :
    (op.apply now store).Filed := by
  have hset (c : CartId) (state : ReservationState) : (store.setCart c state).Filed := by
    intro k record hk
    rw [lookup_setCart] at hk
    obtain ⟨record', hk', rfl⟩ := Option.map_eq_some_iff.mp hk
    rw [← hstore k record' hk']
    split <;> rfl
  cases op with
  | reserve cartId sku quantity ttl =>
      intro k record hk
      rw [StockOp.apply, lookup_reserve] at hk
      split at hk
      · next h =>
          obtain rfl := Option.some.inj hk
          rw [h]
      · exact hstore k record hk
  | finalizeCart cartId => exact hset cartId .finalized
  | releaseCart cartId => exact hset cartId .released
  | sweepExpired =>
      intro k record hk
      have hk : (store.lookup k).map (lapse now) = some record :=
        (Table.lookup_mapValues _ _ _).symm.trans hk
      obtain ⟨record', hk', rfl⟩ := Option.map_eq_some_iff.mp hk
      rw [← hstore k record' hk', lapse]
      split <;> rfl

theorem runStock_filed (hstore : store.Filed) (ops : List (Nat × StockOp)) :
    (runStock ops store).Filed := by
  induction ops generalizing store with
  | nil => exact hstore
  | cons op ops ih => exact ih (op.2.filed_apply hstore)

theorem runStock_append (pre post : List (Nat × StockOp)) :
    runStock (pre ++ post) store = runStock post (runStock pre store) :=
  List.foldl_append

/-! ## The life cycle -/

/-- Given back, or never picked up. -/
def ReservationState.free : ReservationState → Bool
  | .released | .expired => true
  | _ => false

/-- What is sold stays sold, and what is free is sold only after it was reserved anew. -/
structure LifeCycle (ops : List (Nat × StockOp)) (store : InMemoryReservationStore) : Prop where
  sold : ∀ pre mid post k, ops = pre ++ mid ++ post →
    (runStock pre store).stateOf k = some .finalized →
    (runStock (pre ++ mid) store).stateOf k = some .finalized
  free : ∀ pre mid post k, ops = pre ++ mid ++ post →
    (∃ state, (runStock pre store).stateOf k = some state ∧ state.free = true) →
    (runStock (pre ++ mid) store).stateOf k = some .finalized →
    ∃ op ∈ mid, ∃ quantity ttl, op.2 = .reserve k.1 k.2 quantity ttl

/-- The operation turns nothing that is sold, and sells nothing that is free. -/
def StockOp.Allowed (store : InMemoryReservationStore) : StockOp → Prop
  | .reserve cartId sku _ _ => store.stateOf (cartId, sku) ≠ some .finalized
  | .finalizeCart cartId =>
      ∀ sku state, store.stateOf (cartId, sku) = some state → state.free = false
  | .releaseCart cartId => ∀ sku, store.stateOf (cartId, sku) ≠ some .finalized
  | .sweepExpired => True

/-- Every operation finds a store that allows it. -/
def EachAllowed (ops : List (Nat × StockOp)) (store : InMemoryReservationStore) : Prop :=
  ∀ pre op post, ops = pre ++ op :: post → op.2.Allowed (runStock pre store)

/-- One step of the life cycle, at one record. -/
structure StepKeeps (s s' : Option ReservationState) : Prop where
  sold : s = some .finalized → s' = some .finalized
  free : ∀ state, s = some state → state.free = true → s' ≠ some .finalized

theorem StepKeeps.refl (s : Option ReservationState) : StepKeeps s s := by
  refine ⟨id, fun state hstate hfree hsold => ?_⟩
  cases Option.some.inj (hstate.symm.trans hsold)
  cases hfree

variable (now) in
/-- An operation keeps the life cycle exactly if the store allows it. -/
theorem StockOp.keeps_iff (hstore : store.Filed) (op : StockOp) :
    (∀ k, StepKeeps (store.stateOf k) ((op.apply now store).stateOf k)) ↔ op.Allowed store := by
  have hmoves (k : CartId × String) :
      op.moves k (store.stateOf k) ((op.apply now store).stateOf k) := op.moves_apply hstore
  generalize op.apply now store = store' at hmoves
  constructor
  · intro hkeeps
    cases op with
    | reserve cartId sku quantity ttl =>
        intro hsold
        have hreserved : store'.stateOf (cartId, sku) = some .reserved :=
          (hmoves (cartId, sku)).trans (if_pos rfl)
        cases hreserved.symm.trans ((hkeeps (cartId, sku)).sold hsold)
    | finalizeCart cartId =>
        intro sku state hstate
        by_contra hfree
        have hsold : store'.stateOf (cartId, sku) = some .finalized := by
          refine (hmoves (cartId, sku)).trans ((if_pos rfl).trans ?_)
          rw [hstate]
          rfl
        exact (hkeeps (cartId, sku)).free state hstate (Bool.eq_true_of_not_eq_false hfree) hsold
    | releaseCart cartId =>
        intro sku hsold
        have hreleased : store'.stateOf (cartId, sku) = some .released := by
          refine (hmoves (cartId, sku)).trans ((if_pos rfl).trans ?_)
          rw [hsold]
          rfl
        cases hreleased.symm.trans ((hkeeps (cartId, sku)).sold hsold)
    | sweepExpired => trivial
  · intro hallowed k
    have hk := hmoves k
    cases op with
    | reserve cartId sku quantity ttl =>
        by_cases hkey : k = (cartId, sku)
        · subst hkey
          have hreserved := hk.trans (if_pos rfl)
          exact ⟨fun hsold => absurd hsold hallowed, fun _ _ _ hsold =>
            by cases hreserved.symm.trans hsold⟩
        · rw [hk.trans (if_neg hkey)]
          exact StepKeeps.refl _
    | finalizeCart cartId =>
        by_cases hcart : k.1 = cartId
        · subst hcart
          rw [hk.trans (if_pos rfl)]
          refine ⟨fun hsold => by rw [hsold]; rfl, fun state hstate hfree _ => ?_⟩
          cases (hallowed k.2 state hstate).symm.trans hfree
        · rw [hk.trans (if_neg hcart)]
          exact StepKeeps.refl _
    | releaseCart cartId =>
        by_cases hcart : k.1 = cartId
        · subst hcart
          rw [hk.trans (if_pos rfl)]
          refine ⟨fun hsold => absurd hsold (hallowed k.2), fun state hstate _ hsold => ?_⟩
          rw [hstate] at hsold
          cases hsold
        · rw [hk.trans (if_neg hcart)]
          exact StepKeeps.refl _
    | sweepExpired =>
        rcases hk with hsame | ⟨hreserved, hexpired⟩
        · rw [hsame]
          exact StepKeeps.refl _
        · rw [hreserved, hexpired]
          exact ⟨by simp, by simp⟩

variable (now) in
/-- What is free stays free until it is reserved anew or sold. -/
theorem StockOp.stays_free (hstore : store.Filed) {op : StockOp} {state : ReservationState}
    (hstate : store.stateOf k = some state) (hfree : state.free = true) :
    (∃ state', (op.apply now store).stateOf k = some state' ∧ state'.free = true) ∨
      (op.apply now store).stateOf k = some .finalized ∨
      ∃ quantity ttl, op = .reserve k.1 k.2 quantity ttl := by
  have hmoves : op.moves k (store.stateOf k) ((op.apply now store).stateOf k) :=
    op.moves_apply hstore
  rw [hstate] at hmoves
  cases op with
  | reserve cartId sku quantity ttl =>
      by_cases hkey : k = (cartId, sku)
      · subst hkey
        exact Or.inr (Or.inr ⟨quantity, ttl, rfl⟩)
      · exact Or.inl ⟨state, hmoves.trans (if_neg hkey), hfree⟩
  | finalizeCart cartId =>
      by_cases hcart : k.1 = cartId
      · exact Or.inr (Or.inl (hmoves.trans (if_pos hcart)))
      · exact Or.inl ⟨state, hmoves.trans (if_neg hcart), hfree⟩
  | releaseCart cartId =>
      by_cases hcart : k.1 = cartId
      · exact Or.inl ⟨.released, hmoves.trans (if_pos hcart), rfl⟩
      · exact Or.inl ⟨state, hmoves.trans (if_neg hcart), hfree⟩
  | sweepExpired =>
      rcases hmoves with hsame | ⟨hreserved, -⟩
      · exact Or.inl ⟨state, hsame, hfree⟩
      · cases hreserved
        cases hfree

/-- A life cycle is one at every step. -/
theorem LifeCycle.step {ops pre post : List (Nat × StockOp)} {op : Nat × StockOp}
    (h : LifeCycle ops store) (hops : ops = pre ++ op :: post) (k : CartId × String) :
    StepKeeps ((runStock pre store).stateOf k)
      ((op.2.apply op.1 (runStock pre store)).stateOf k) := by
  have hsplit : ops = pre ++ [op] ++ post := by
    rw [hops, List.append_assoc]
    rfl
  have hafter : runStock (pre ++ [op]) store = op.2.apply op.1 (runStock pre store) :=
    runStock_append pre [op]
  rw [← hafter]
  refine ⟨h.sold pre [op] post k hsplit, fun state hstate hfree hsold => ?_⟩
  obtain ⟨op', hm, quantity, ttl, hreserve⟩ :=
    h.free pre [op] post k hsplit ⟨state, hstate, hfree⟩ hsold
  obtain rfl := List.mem_singleton.mp hm
  rw [hafter, hreserve] at hsold
  have hreserved : ((StockOp.reserve k.1 k.2 quantity ttl).apply op'.1
      (runStock pre store)).stateOf k = some .reserved := by
    show (((runStock pre store).reserve op'.1 k.1 k.2 quantity ttl).lookup k).map _ = _
    rw [lookup_reserve, if_pos rfl]
    rfl
  cases hreserved.symm.trans hsold

/-- Steps that keep the life cycle make one. -/
theorem lifeCycle_of_steps (hstore : store.Filed) {ops : List (Nat × StockOp)}
    (h : ∀ pre op post, ops = pre ++ op :: post → ∀ k,
      StepKeeps ((runStock pre store).stateOf k)
        ((op.2.apply op.1 (runStock pre store)).stateOf k)) : LifeCycle ops store := by
  have hafter (pre : List (Nat × StockOp)) (op : Nat × StockOp) :
      runStock (pre ++ [op]) store = op.2.apply op.1 (runStock pre store) :=
    runStock_append pre [op]
  constructor
  · intro pre mid post k hops hsold
    induction mid generalizing pre with
    | nil => rwa [List.append_nil]
    | cons op mid ih =>
        have hstep := (h pre op (mid ++ post) (by simp [hops]) k).sold hsold
        rw [← hafter] at hstep
        have hmid := ih (pre ++ [op]) (by simp [hops]) hstep
        simpa using hmid
  · intro pre mid post k hops hfree hsold
    induction mid generalizing pre with
    | nil =>
        obtain ⟨state, hstate, hfree⟩ := hfree
        rw [List.append_nil, hstate] at hsold
        cases hsold
        cases hfree
    | cons op mid ih =>
        obtain ⟨state, hstate, hfree⟩ := hfree
        have hkeeps := (h pre op (mid ++ post) (by simp [hops]) k).free state hstate hfree
        rcases StockOp.stays_free op.1 (runStock_filed hstore pre) hstate hfree with
          hstill | hfinal | ⟨quantity, ttl, hreserve⟩
        · rw [← hafter] at hstill
          obtain ⟨op', hm, hreserves⟩ :=
            ih (pre ++ [op]) (by simp [hops]) hstill (by simpa using hsold)
          exact ⟨op', List.mem_cons_of_mem _ hm, hreserves⟩
        · exact absurd hfinal hkeeps
        · exact ⟨op, List.mem_cons_self, quantity, ttl, hreserve⟩

theorem filed_empty : InMemoryReservationStore.Filed ∅ := by
  intro k record hk
  cases hk

/-- **The life cycle.**  Sold stock is never given back, and stock given back never sold,
along a sequence of operations exactly if each of them finds a store that allows it. -/
theorem lifeCycle_iff (ops : List (Nat × StockOp)) :
    LifeCycle ops ∅ ↔ EachAllowed ops ∅ := by
  constructor
  · intro h pre op post hops
    exact (StockOp.keeps_iff op.1 (runStock_filed filed_empty pre) op.2).mp
      fun k => h.step hops k
  · intro h
    refine lifeCycle_of_steps filed_empty fun pre op post hops => ?_
    exact (StockOp.keeps_iff op.1 (runStock_filed filed_empty pre) op.2).mpr (h pre op post hops)

/-! ## Row by row -/

namespace InMemoryReservationStore

/-- The Postgres form of finalizing and releasing: select the cart's rows, then write each
of them. -/
def updateReservationsForCart (rows : InMemoryReservationStore) (cartId : CartId)
    (state : ReservationState) : InMemoryReservationStore :=
  (rows.keep fun k _ => k.1 = cartId).entries.foldl
    (fun rows row => rows.insert row.1 { row.2 with state }) rows

/-- The Postgres form of the sweep: select every row, then write those that expire. -/
def sweepRows (rows : InMemoryReservationStore) (now : Nat) : InMemoryReservationStore :=
  (rows.keep fun _ record => record.state = .reserved ∧ record.leaseUntil ≤ now).entries.foldl
    (fun rows row => rows.insert row.1 { row.2 with state := .expired }) rows

/-- Written row by row, what is filed becomes what it becomes in memory. -/
theorem lookup_updateReservationsForCart (hstore : store.Filed) (state : ReservationState) :
    (store.updateReservationsForCart c state).lookup k = (store.setCart c state).lookup k := by
  rw [updateReservationsForCart, lookup_setCart]
  refine (Table.lookup_foldl_insert (fun record => { record with state }) _ store k).trans ?_
  rw [Table.lookup_keep]
  cases hk : store.lookup k with
  | none => rfl
  | some record =>
      have hfiled := hstore k record hk
      by_cases hcart : k.1 = c
      · simp [Option.filter, hfiled, hcart]
      · simp [Option.filter, hfiled, hcart]

theorem lookup_sweepRows :
    (store.sweepRows now).lookup k = (store.sweepExpired now).2.lookup k := by
  show _ = (store.mapValues fun _ => lapse now).lookup k
  rw [sweepRows, Table.lookup_mapValues]
  refine (Table.lookup_foldl_insert
    (fun record => { record with state := .expired }) _ store k).trans ?_
  rw [Table.lookup_keep]
  cases store.lookup k with
  | none => rfl
  | some record =>
      by_cases hlapsed : record.state = .reserved ∧ record.leaseUntil ≤ now
      · simp [Option.filter, lapse, hlapsed]
      · simp [Option.filter, lapse, hlapsed]

end InMemoryReservationStore

/-- The operations over the rows of the Postgres table. -/
def StockOp.applyRows (now : Nat) (rows : InMemoryReservationStore) :
    StockOp → InMemoryReservationStore
  | .reserve cartId sku quantity ttl => rows.reserve now cartId sku quantity ttl
  | .finalizeCart cartId => rows.updateReservationsForCart cartId .finalized
  | .releaseCart cartId => rows.updateReservationsForCart cartId .released
  | .sweepExpired => rows.sweepRows now

theorem StockOp.lookup_applyRows {rows : InMemoryReservationStore} (hstore : store.Filed)
    (hsame : ∀ k, rows.lookup k = store.lookup k) (op : StockOp) (k : CartId × String) :
    (op.applyRows now rows).lookup k = (op.apply now store).lookup k := by
  have hrows : rows.Filed := fun k record hk => hstore k record ((hsame k).symm.trans hk)
  have hset (c : CartId) (state : ReservationState) :
      (rows.updateReservationsForCart c state).lookup k = (store.setCart c state).lookup k := by
    rw [lookup_updateReservationsForCart hrows, lookup_setCart, lookup_setCart, hsame]
  cases op with
  | reserve cartId sku quantity ttl =>
      rw [StockOp.applyRows, StockOp.apply, lookup_reserve, lookup_reserve, hsame]
  | finalizeCart cartId => exact hset cartId .finalized
  | releaseCart cartId => exact hset cartId .released
  | sweepExpired =>
      refine lookup_sweepRows.trans ?_
      show (rows.mapValues fun _ => lapse now).lookup k =
        (store.mapValues fun _ => lapse now).lookup k
      rw [Table.lookup_mapValues, Table.lookup_mapValues, hsame]

/-- Operations over the rows, one after the other. -/
def runRows (ops : List (Nat × StockOp)) (rows : InMemoryReservationStore) :
    InMemoryReservationStore :=
  ops.foldl (fun rows op => op.2.applyRows op.1 rows) rows

/-- The Postgres table holds, after any operations, what the store in memory holds: its
reservations have the same life. -/
theorem runRows_lookup (ops : List (Nat × StockOp)) (k : CartId × String) :
    (runRows ops ∅).lookup k = (runStock ops ∅).lookup k := by
  have hrun {rows store : InMemoryReservationStore} (hstore : store.Filed)
      (hsame : ∀ k, rows.lookup k = store.lookup k) :
      (runRows ops rows).lookup k = (runStock ops store).lookup k := by
    induction ops generalizing rows store with
    | nil => exact hsame k
    | cons op ops ih =>
        exact ih (op.2.filed_apply hstore) fun k => op.2.lookup_applyRows hstore hsame k
  exact hrun filed_empty fun _ => rfl

/-! ## The operations of a session -/

section Sessions

variable {env : Env} {runner : Runner} {w w' : World} {tr : List (Event Op.Ans)}

/-- The reservation operation, and its time, that took hold with an event. -/
def stocked (now : Nat) : Event Op.Ans → Option (Nat × StockOp)
  | ⟨.reserve cartId sku quantity ttl, x⟩ =>
      if tookHold x then some (now, .reserve cartId sku quantity ttl) else none
  | ⟨.finalizeCart cartId, x⟩ => if tookHold x then some (now, .finalizeCart cartId) else none
  | ⟨.releaseCart cartId, x⟩ => if tookHold x then some (now, .releaseCart cartId) else none
  | _ => none

/-- The reservation operations that took hold among events performed from `w`. -/
def stockOps (env : Env) (w : World) : List (Event Op.Ans) → List (Nat × StockOp)
  | [] => []
  | e :: tr => (stocked (env.instant w.clock) e).toList ++ stockOps env (env.handle e.1 w).2 tr

/-- What an event does to the reservations, its reservation operation does. -/
theorem Env.handle_stocked (env : Env) (w : World) (o : Op) :
    (env.handle o w).2.reservations =
      runStock (stocked (env.instant w.clock) ⟨o, (env.handle o w).1⟩).toList w.reservations := by
  cases o with
  | reserve cartId sku quantity ttl =>
      rw [Env.handle_reserve_reservations, stocked]
      split <;> rfl
  | finalizeCart cartId =>
      refine (congrArg (·.reservations) (World.attempt_snd _ _ _)).trans ?_
      rw [stocked]
      split <;> simp_all [Env.handle] <;> rfl
  | releaseCart cartId =>
      rw [Env.handle_releaseCart_reservations, stocked]
      split <;> rfl
  | _ => exact Env.handle_reservations rfl

theorem Replays.stockOps (h : Replays env.handle w tr w') :
    w'.reservations = runStock (stockOps env w tr) w.reservations := by
  induction tr generalizing w with
  | nil =>
      obtain rfl := h
      rfl
  | cons e tr ih =>
      obtain ⟨hans, hrest⟩ := h
      have hevent := Env.handle_stocked env w e.1
      rw [hans] at hevent
      rw [ih hrest, hevent, ← runStock_append]
      rfl

/-- All events of a session. -/
def sessionEvents (env : Env) (runner : Runner) (calls : List Call) (w : World) :
    List (Event Op.Ans) :=
  (session env runner calls w).1.flatMap (·.trace)

/-- The reservations after a session are those of its reservation operations. -/
theorem session_reservations (env : Env) (runner : Runner) (calls : List Call) (w : World) :
    (session env runner calls w).2.reservations =
      runStock (stockOps env w (sessionEvents env runner calls w)) w.reservations :=
  Replays.stockOps (runAll_replays env.handle _ w)

end Sessions

/-- The sample cart, checked out twice under two keys. -/
def Sample.soldTwice : List Call :=
  Sample.shopping ++ [.checkout (Sample.request "k"), .checkout (Sample.request "k'")]

/-- The second checkout of a cart takes what the first has sold back into reservation. -/
theorem sold_is_reserved_again :
    ¬ ∀ (env : Env) (runner : Runner) (calls : List Call),
      LifeCycle (stockOps env World.empty (sessionEvents env runner calls World.empty)) ∅ := by
  intro h
  have hops : stockOps Env.agreeable World.empty
      (sessionEvents Env.agreeable Sample.runner Sample.soldTwice World.empty) =
      [(29, .reserve Sample.cart.cartId "sku" 1 reservationTtl),
        (40, .finalizeCart Sample.cart.cartId)] ++
        [(51, .reserve Sample.cart.cartId "sku" 1 reservationTtl)] ++
        [(62, .finalizeCart Sample.cart.cartId)] := by
    decide +kernel
  have hlife := h Env.agreeable Sample.runner Sample.soldTwice
  have hsold := hlife.sold _ _ _ (Sample.cart.cartId, "sku") hops (by decide +kernel)
  exact absurd hsold (by decide +kernel)

/-! ## What is reserved when the payment is authorized -/

/-- SKU and quantity of every line. -/
def CartProjection.items (cart : CartProjection) : List (String × Nat) :=
  cart.lines.map fun line => (line.itemId, line.quantity)

section Coverage

variable {env : Env} {runner : Runner} {w w' : World} {tr : List (Event Op.Ans)}
  {cart : CartProjection} {items : List (String × Nat)} {sku : String}

/-- How much of a SKU there is. -/
def quantityOf (items : List (String × Nat)) (sku : String) : Nat :=
  ((items.filter (·.1 = sku)).map (·.2)).sum

/-- What the last line of a SKU holds. -/
def lastQuantity (items : List (String × Nat)) (sku : String) : Option Nat :=
  (items.reverse.find? (·.1 = sku)).map (·.2)

/-- How much of a SKU is in state reserved for a cart. -/
def reservedQuantity (store : InMemoryReservationStore) (c : CartId) (sku : String) : Nat :=
  ((store.lookup (c, sku)).filter (·.state = .reserved)).elim 0 (·.quantity)

/-- What is reserved for the cart is what its lines hold. -/
structure Covers (store : InMemoryReservationStore) (c : CartId)
    (items : List (String × Nat)) : Prop where
  each : ∀ sku, reservedQuantity store c sku = quantityOf items sku
  nothingElse : ∀ sku, sku ∉ items.map (·.1) → store.stateOf (c, sku) ≠ some .reserved

/-- Of every SKU the last line holds all there is, and nothing else is left in reservation
from before. -/
structure HeldOnce (store : InMemoryReservationStore) (c : CartId)
    (items : List (String × Nat)) : Prop where
  last : ∀ sku, ∀ quantity ∈ lastQuantity items sku, quantity = quantityOf items sku
  leftovers : ∀ sku, sku ∉ items.map (·.1) → store.stateOf (c, sku) ≠ some .reserved

/-- The event of a line's reservation. -/
abbrev reserved (c : CartId) (item : String × Nat) : Event Op.Ans :=
  ⟨.reserve c item.1 item.2 reservationTtl, .ok ()⟩

theorem lastQuantity_cons (item : String × Nat) :
    lastQuantity (item :: items) sku =
      (lastQuantity items sku).or (if item.1 = sku then some item.2 else none) := by
  rw [lastQuantity, List.reverse_cons, List.find?_append, lastQuantity]
  by_cases h : item.1 = sku
  · cases items.reverse.find? (·.1 = sku) <;> simp [h]
  · simp [h]

theorem lastQuantity_eq_none_iff : lastQuantity items sku = none ↔ sku ∉ items.map (·.1) := by
  rw [lastQuantity, Option.map_eq_none_iff, List.find?_eq_none]
  simp only [List.mem_reverse, decide_eq_true_eq, List.mem_map, not_exists, not_and]

/-- After a reservation for every line, each SKU of the lines is reserved as its last line
has it, and the rest is as it was. -/
theorem Replays.reserved (h : Replays env.handle w (items.map (reserved c)) w') (sku : String) :
    (∀ quantity ∈ lastQuantity items sku, ∃ record,
        w'.reservations.lookup (c, sku) = some record ∧ record.state = .reserved ∧
          record.quantity = quantity) ∧
      (lastQuantity items sku = none →
        w'.reservations.lookup (c, sku) = w.reservations.lookup (c, sku)) := by
  induction items generalizing w with
  | nil =>
      obtain rfl := h
      exact ⟨by simp [lastQuantity], fun _ => rfl⟩
  | cons item items ih =>
      obtain ⟨hans, hrest⟩ := h
      obtain ⟨hlast, hnone⟩ := ih hrest
      have hstep : (env.handle (.reserve c item.1 item.2 reservationTtl) w).2.reservations =
          w.reservations.reserve (env.instant w.clock) c item.1 item.2 reservationTtl := by
        rw [Env.handle_reserve_reservations, hans]
        rfl
      rw [lastQuantity_cons]
      cases hl : lastQuantity items sku with
      | some last => exact ⟨fun q hm => hlast q (hl.trans hm), fun hn => by cases hn⟩
      | none =>
          have hkept := hnone hl
          rw [hstep, lookup_reserve] at hkept
          by_cases hsku : item.1 = sku
          · subst hsku
            rw [if_pos rfl] at hkept
            simp only [if_true, Option.none_or]
            refine ⟨fun q hm => ?_, fun hn => by cases hn⟩
            obtain rfl := Option.some.inj hm
            exact ⟨_, hkept, rfl, rfl⟩
          · rw [if_neg fun hk => hsku (Prod.mk.inj hk).2.symm] at hkept
            simp only [hsku, if_false, Option.none_or]
            exact ⟨by simp, fun _ => hkept⟩

theorem quantityOf_of_not_mem (h : sku ∉ items.map (·.1)) : quantityOf items sku = 0 := by
  have hnone : items.filter (·.1 = sku) = [] := by
    refine List.filter_eq_nil_iff.mpr fun item hm hsku => h ?_
    exact List.mem_map.mpr ⟨item, hm, of_decide_eq_true hsku⟩
  rw [quantityOf, hnone]
  rfl

theorem reservedQuantity_of_state {store : InMemoryReservationStore}
    (h : store.stateOf (c, sku) ≠ some .reserved) : reservedQuantity store c sku = 0 := by
  rw [reservedQuantity]
  cases hk : store.lookup (c, sku) with
  | none => rfl
  | some record =>
      rw [stateOf, hk] at h
      have hstate : record.state ≠ .reserved := fun he => h (congrArg some he)
      simp [Option.filter, hstate]

/-- Reservations for every line cover the lines exactly if each SKU is held once. -/
theorem Replays.covers_iff (h : Replays env.handle w (items.map (Orchestrator.reserved c)) w') :
    Covers w'.reservations c items ↔ HeldOnce w.reservations c items := by
  have hquantity (sku : String) (quantity : Nat) (hq : quantity ∈ lastQuantity items sku) :
      reservedQuantity w'.reservations c sku = quantity := by
    obtain ⟨record, hrecord, hstate, rfl⟩ := (Replays.reserved h sku).1 quantity hq
    simp [reservedQuantity, hrecord, Option.filter, hstate]
  have hother (sku : String) (hsku : sku ∉ items.map (·.1)) :
      w'.reservations.stateOf (c, sku) = w.reservations.stateOf (c, sku) := by
    have hsame := (Replays.reserved h sku).2 (lastQuantity_eq_none_iff.mpr hsku)
    exact congrArg (Option.map ReservationRecord.state) hsame
  constructor
  · intro hcovers
    refine ⟨fun sku quantity hq => ?_, fun sku hsku => ?_⟩
    · rw [← hquantity sku quantity hq]
      exact hcovers.each sku
    · rw [← hother sku hsku]
      exact hcovers.nothingElse sku hsku
  · intro hheld
    have hnothing (sku : String) (hsku : sku ∉ items.map (·.1)) :
        w'.reservations.stateOf (c, sku) ≠ some .reserved := by
      rw [hother sku hsku]
      exact hheld.leftovers sku hsku
    refine ⟨fun sku => ?_, hnothing⟩
    cases hlast : lastQuantity items sku with
    | some quantity =>
        rw [hquantity sku quantity hlast]
        exact hheld.last sku quantity hlast
    | none =>
        have hsku := lastQuantity_eq_none_iff.mp hlast
        rw [reservedQuantity_of_state (hnothing sku hsku), quantityOf_of_not_mem hsku]

theorem RepricePath.same_items {repriced : CartProjection} (h : RepricePath cart tr (.ok repriced)) :
    repriced.items = cart.items := by
  cases h with
  | discounted ps tax hd =>
      cases hd <;> exact applyPrices_map _ (fun _ _ => rfl) cart.lines ps

/-- Up to the authorization a checkout makes the reservations of its cart's lines. -/
theorem Cleared.reserves {request : CheckoutRequest} {settled : CartProjection}
    (h : Cleared runner request settled tr) (hr : Replays env.handle w tr w')
    (hcart : w.events.getCartSnapshot request.cartId = some cart) :
    ∃ w₁, w₁.reservations = w.reservations ∧
      Replays env.handle w₁ (cart.items.map (Orchestrator.reserved request.cartId)) w' := by
  obtain ⟨stored, repriced, geo, pricing, rfl, -, -, hprice, -, rfl⟩ := h.passed
  obtain ⟨w₁, hgates, hreserves⟩ := replays_append.mp hr
  have hstored : stored = cart := by
    obtain ⟨-, hread, -⟩ := hgates
    have hs := World.read_some hread
    rw [Env.handle_events rfl, hcart] at hs
    exact (Option.some.inj hs).symm
  subst hstored
  refine ⟨w₁, hgates.frame (·.reservations) fun e he v => Env.handle_reservations ?_, ?_⟩
  · have hpricing : ∀ e ∈ pricing, e.1.stocks = false := fun e hm => by
      have ho := hprice.reprices e hm
      revert ho
      cases e.1 <;> simp [Op.reprices, Op.stocks]
    revert e
    simpa [Op.stocks, or_imp, forall_and] using hpricing
  · rw [← hprice.same_items, CartProjection.items, List.map_map]
    exact hreserves

end Coverage

/-- **What is reserved.**  When a checkout of a stored cart comes to the authorization of
its payment, what is reserved for the cart is what the cart holds, exactly if of every SKU
its last line holds all there is, and nothing else of it was left in reservation before
the call. -/
theorem reserved_covers_iff (env : Env) (runner : Runner) (w : World) (request : CheckoutRequest)
    (cart : CartProjection) (before after : List (Event Op.Ans)) (req : CheckoutRequest)
    (x : Except PaymentError AuthResult)
    (hcart : w.events.getCartSnapshot request.cartId = some cart)
    (hev : (executeCheckout runner request).run.events env.handle w =
      before ++ ⟨.authorize req, x⟩ :: after) :
    Covers (leave env.handle w before).reservations request.cartId cart.items ↔
      HeldOnce w.reservations request.cartId cart.items := by
  have hshape := (executeCheckout_trace
    (events_trace (h := env.handle) (executeCheckout runner request).run w)).payments
  have hreplays := events_replays (h := env.handle) (executeCheckout runner request).run w
  rw [hev] at hshape hreplays
  obtain ⟨-, settled, hcleared⟩ := hshape.authorizes rfl
  obtain ⟨w', hbefore, -⟩ := replays_append.mp hreplays
  obtain ⟨w₁, hsame, hreserves⟩ := hcleared.reserves hbefore hcart
  rw [hbefore.leave_eq, ← hsame]
  exact Replays.covers_iff hreserves

/-- The sample checkout reserves its one line. -/
theorem reserved_covers_iff_sample :
    Covers (leave Env.agreeable.handle Sample.world sampleGates).reservations Sample.cart.cartId
      Sample.cart.items := by
  refine (reserved_covers_iff Env.agreeable Sample.runner Sample.world (Sample.request "k")
    Sample.cart sampleGates _ _ (.ok ⟨true, "auth"⟩) (AList.lookup_insert _) rfl).mpr ⟨?_, ?_⟩
  · intro sku quantity hq
    by_cases hsku : "sku" = sku
    · subst hsku
      exact (Option.some.inj hq).symm
    · have hnone : lastQuantity Sample.cart.items sku = none :=
        lastQuantity_eq_none_iff.mpr fun hm => hsku (List.mem_singleton.mp hm).symm
      cases hnone.symm.trans hq
  · intro sku _ hreserved
    cases hreserved

namespace Sample

/-- The same item, put into the cart twice. -/
def twoLines : List Call :=
  Sample.shopping ++
    [.cart (.addItem { itemId := "sku", quantity := 1 }) (some Sample.cart.cartId)]

def twoLinesWorld : World := (session Env.agreeable Sample.runner Sample.twoLines World.empty).2

def twoLinesRequest : CheckoutRequest :=
  { Sample.request "k" with
    cartVersion := 3, paymentIntent := { amountMinor := 200, tokenOrReference := "tok" } }

/-- The events of its checkout, up to the authorization. -/
def twoLinesGates : List (Event Op.Ans) :=
  ((executeCheckout Sample.runner Sample.twoLinesRequest).run.events Env.agreeable.handle
    Sample.twoLinesWorld).take 8

end Sample

/-- A cart holds two of an item, in two lines of one: one of them is reserved. -/
theorem second_line_unreserved :
    ¬ ∀ (env : Env) (runner : Runner) (w : World) (request : CheckoutRequest)
        (cart : CartProjection) (before after : List (Event Op.Ans)) (req : CheckoutRequest)
        (x : Except PaymentError AuthResult),
      Reachable env runner w → w.events.getCartSnapshot request.cartId = some cart →
      (executeCheckout runner request).run.events env.handle w =
        before ++ ⟨.authorize req, x⟩ :: after →
      Covers (leave env.handle w before).reservations request.cartId cart.items := by
  intro h
  have hcart : ∃ cart, Sample.twoLinesWorld.events.getCartSnapshot
      Sample.twoLinesRequest.cartId = some cart ∧ cart.items = [("sku", 1), ("sku", 1)] := by
    refine ⟨_, rfl, ?_⟩
    decide +kernel
  obtain ⟨cart, hcart, hitems⟩ := hcart
  have hcovers := h Env.agreeable Sample.runner Sample.twoLinesWorld Sample.twoLinesRequest cart
    Sample.twoLinesGates _ Sample.twoLinesRequest (.ok ⟨true, "auth"⟩) ⟨Sample.twoLines, rfl⟩
    hcart rfl
  have hone : reservedQuantity (leave Env.agreeable.handle Sample.twoLinesWorld
      Sample.twoLinesGates).reservations Sample.twoLinesRequest.cartId "sku" = 1 := by
    decide +kernel
  have htwo := hcovers.each "sku"
  rw [hone, hitems] at htwo
  exact absurd htwo (by decide)

end Orchestrator
