/-
# `CommerceOrchestrator.Runtime.Integrity` — what refers to an order

A message and an outcome are written only once the order they are about is on record
(`Paperwork`), and orders are never overwritten or removed.  So whatever fails in
between, a message names an order that is on record in its tenant's name, also after it
has moved between the queue, the workers and the dead letters, and an outcome with an
order id agrees with that order (`references_hold`).

No two checkouts have an id in common, since each draws its own (`Separate`).
-/
import CommerceOrchestrator.Runtime.Commerce
import CommerceOrchestrator.Runtime.Paperwork
import CommerceOrchestrator.Runtime.Reuse

namespace Orchestrator

open Effect Prog

/-! ## What each call has drawn is its own -/

/-- Where the calls stand. -/
abbrev Desks := Nat → Paperwork ⊕ Holding

/-- What the checkouts have is old, and no two of them have the same. -/
structure Separate {β : Type} (has : Paperwork → List β) (old : β → Prop) (φ : Desks) : Prop where
  old : ∀ t q, φ t = .inl q → ∀ x ∈ has q, old x
  apart : ∀ t t' q q' x, φ t = .inl q → φ t' = .inl q' → x ∈ has q → x ∈ has q' → t = t'

/-- No paperwork is lost. -/
def Desks.Grow (φ φ' : Desks) : Prop :=
  ∀ t q, φ t = .inl q → ∃ q', φ' t = .inl q' ∧ q.Grows q'

section Desks

variable {φ φ' : Desks} {t t' : Nat} {q q' : Paperwork} {hold hold' : Holding}

theorem update_inl {p : Paperwork} (h : Function.update φ t (.inl q) t' = .inl p) :
    t' = t ∧ p = q ∨ φ t' = .inl p := by
  by_cases ht : t' = t
  · subst ht
    rw [Function.update_self] at h
    exact Or.inl ⟨rfl, (Sum.inl.inj h).symm⟩
  · rw [Function.update_of_ne ht] at h
    exact Or.inr h

theorem update_inr {p : Paperwork} (h : Function.update φ t (.inr hold) t' = .inl p) :
    φ t' = .inl p := by
  by_cases ht : t' = t
  · subst ht
    rw [Function.update_self] at h
    cases h
  · rwa [Function.update_of_ne ht] at h

theorem Desks.grow_inl (ht : φ t = .inl q) (h : q.Grows q') :
    φ.Grow (Function.update φ t (.inl q')) := by
  intro t' p hp
  by_cases htt : t' = t
  · subst htt
    obtain rfl := Sum.inl.inj (ht.symm.trans hp)
    exact ⟨q', Function.update_self .., h⟩
  · exact ⟨p, (Function.update_of_ne htt _ _).trans hp, .refl p⟩

theorem Desks.grow_inr (ht : φ t = .inr hold) : φ.Grow (Function.update φ t (.inr hold')) := by
  intro t' p hp
  by_cases htt : t' = t
  · subst htt
    cases ht.symm.trans hp
  · exact ⟨p, (Function.update_of_ne htt _ _).trans hp, .refl p⟩

section Separate

variable {β : Type} {has : Paperwork → List β} {old old' : β → Prop}

/-- A call may add what is new. -/
theorem Separate.add (h : Separate has old φ) (ht : φ t = .inl q) {new : β}
    (hadds : ∀ x ∈ has q', x ∈ has q ∨ x = new) (hold : ∀ x, old x → old' x)
    (hfresh : ¬ old new) (hnew : old' new) :
    Separate has old' (Function.update φ t (.inl q')) := by
  have hcases {t' : Nat} {p : Paperwork} {x : β}
      (hp : Function.update φ t (.inl q') t' = .inl p) (hx : x ∈ has p) :
      (∃ p, φ t' = .inl p ∧ x ∈ has p) ∨ t' = t ∧ x = new := by
    rcases update_inl hp with ⟨rfl, rfl⟩ | hp
    · exact (hadds x hx).imp (fun hx => ⟨q, ht, hx⟩) fun hx => ⟨rfl, hx⟩
    · exact Or.inl ⟨p, hp, hx⟩
  constructor
  · intro t' p hp x hx
    rcases hcases hp hx with ⟨p, hp, hx⟩ | ⟨-, rfl⟩
    · exact hold x (h.old t' p hp x hx)
    · exact hnew
  · intro t₁ t₂ p₁ p₂ x hp₁ hp₂ hx₁ hx₂
    rcases hcases hp₁ hx₁ with ⟨p, hp, hx⟩ | ⟨rfl, rfl⟩
    · rcases hcases hp₂ hx₂ with ⟨p', hp', hx'⟩ | ⟨-, rfl⟩
      · exact h.apart t₁ t₂ p p' x hp hp' hx hx'
      · exact absurd (h.old t₁ p hp x hx) hfresh
    · rcases hcases hp₂ hx₂ with ⟨p', hp', hx'⟩ | ⟨rfl, -⟩
      · exact absurd (h.old t₂ p' hp' x hx') hfresh
      · rfl

/-- A worker adds nothing. -/
theorem Separate.mono (h : Separate has old φ) (hold : ∀ x, old x → old' x) :
    Separate has old' (Function.update φ t (.inr hold')) where
  old t' p hp x hx := hold x (h.old t' p (update_inr hp) x hx)
  apart t₁ t₂ p₁ p₂ x hp₁ hp₂ := h.apart t₁ t₂ p₁ p₂ x (update_inr hp₁) (update_inr hp₂)

end Separate

end Desks

/-! ## Orders and outcomes -/

/-- The orders on record are those the checkouts put, a completed key holds an outcome a
checkout settled on, and what was written is under the writer's own ids. -/
structure Papers (w : World) (φ : Desks) (log : List CommerceEntry) : Prop where
  ids : Separate Paperwork.ids (fun u => u.val < w.clock) φ
  transactions : Separate Paperwork.transactions (Drawn "txn_" w) φ
  filed : ∀ id order, w.orders.get id = some order → order.orderId = id ∧
    ∃ t q saved, φ t = .inl q ∧ q.order = some (order, saved) ∧
      q.Owns order.transactionId (some id)
  stored : ∀ t q order, φ t = .inl q → q.order = some (order, true) →
    w.orders.get order.orderId = some order
  completed : ∀ key result, w.idempotency.lookup key = some (.completed result) →
    ∃ t q, φ t = .inl q ∧ q.Settles key result
  written : ∀ t o x txn orderId, .did t ⟨.inl o, x⟩ ∈ log → Op.writes o = some (txn, orderId) →
    ∃ q, φ t = .inl q ∧ q.Owns txn orderId

section Papers

variable {env : Env} {w w' : World} {φ : Desks} {log : List CommerceEntry} {t : Nat} {q : Paperwork}
  {o : Op}

/-- An order of another checkout, or of this one before, is under another id. -/
theorem Papers.unfiled (h : Papers w φ log) (ht : φ t = .inl q) (hnone : q.order = none)
    {txn id : String} (howns : q.Owns txn (some id)) : w.orders.get id = none := by
  rw [Option.eq_none_iff_forall_ne_some]
  intro order hget
  obtain ⟨-, t', q', saved, ht', hput, howns'⟩ := h.filed id order hget
  obtain ⟨u, hu, hname⟩ := howns.order id rfl
  obtain ⟨v, hv, hname'⟩ := howns'.order id rfl
  obtain rfl := orderId_injective (hname.symm.trans hname')
  obtain rfl := h.ids.apart t t' q q' u ht ht' hu hv
  obtain rfl := Sum.inl.inj (ht.symm.trans ht')
  rw [hnone] at hput
  cases hput

/-- What is on record stays on record. -/
theorem Papers.kept (h : Papers w φ log) (ht : φ t = .inl q) (ho : paperMonitor.allow o q)
    {id : String} {order : OrderRecord} (hget : w.orders.get id = some order) :
    (env.handle o w).2.orders.get id = some order := by
  cases hputs : o.putsOrder with
  | false => rwa [Env.handle_orders hputs]
  | true =>
      cases o with
      | putOrder record =>
          rw [Env.handle_putOrder_orders]
          split
          · rw [InMemoryOrderStore.get_put, if_neg, hget]
            rintro rfl
            rw [h.unfiled ht ho.1 ho.2] at hget
            cases hget
          · exact hget
      | _ => exact absurd hputs Bool.false_ne_true

/-- An operation on the order store: what is filed after it. -/
theorem orders_after {id : String} {order : OrderRecord}
    (hget : (env.handle o w).2.orders.get id = some order) :
    w.orders.get id = some order ∨ o = .putOrder order ∧ order.orderId = id := by
  cases hputs : o.putsOrder with
  | false =>
      rw [Env.handle_orders hputs] at hget
      exact Or.inl hget
  | true =>
      cases o with
      | putOrder record =>
          rw [Env.handle_putOrder_orders] at hget
          split at hget
          · rw [InMemoryOrderStore.get_put] at hget
            split at hget
            · next hid =>
                obtain rfl := Option.some.inj hget
                exact Or.inr ⟨rfl, hid.symm⟩
            · exact Or.inl hget
          · exact Or.inl hget
      | _ => exact absurd hputs Bool.false_ne_true

/-- The order a checkout counts as put has been put now, or was before. -/
theorem order_after {order : OrderRecord} {x : o.Ans}
    (hput : (paperMonitor.next o q x).order = some (order, true)) :
    q.order = some (order, true) ∨ (⟨o, x⟩ : Event Op.Ans) = ⟨.putOrder order, .ok ()⟩ := by
  cases hfiles : o.files with
  | false =>
      rw [(paperMonitor_idle hfiles).2] at hput
      exact Or.inl hput
  | true =>
      cases o with
      | putOrder record =>
          obtain ⟨rfl, hok⟩ := Prod.mk.inj (Option.some.inj hput)
          cases x with
          | error e => cases hok
          | ok _ => exact Or.inr rfl
      | commit cartId ref => cases x <;> exact Or.inl hput
      | newUuid | enqueue _ | complete _ _ => exact Or.inl hput
      | _ => exact absurd hfiles Bool.false_ne_true

/-- One allowed operation of a checkout or a cart command. -/
theorem Papers.did (h : Papers w φ log) (ht : φ t = .inl q) (ho : paperMonitor.allow o q) :
    Papers (env.handle o w).2
      (Function.update φ t (.inl (paperMonitor.next o q (env.handle o w).1)))
      (log ++ [.did t ⟨.inl o, (env.handle o w).1⟩]) := by
  have hgrows := paperMonitor_grows (env.handle o w).1 ho
  have hgrow := Desks.grow_inl ht hgrows
  have hself := Function.update_self t
    (.inl (paperMonitor.next o q (env.handle o w).1) : Paperwork ⊕ Holding) φ
  constructor
  · refine h.ids.add ht (fun u => paperMonitor_ids) (fun u hu => ?_) (Nat.lt_irrefl _) ?_
    · rw [Env.handle_clock]
      exact Nat.lt_succ_of_lt hu
    · rw [Env.handle_clock]
      exact Nat.lt_succ_self _
  · refine h.transactions.add ht (fun txn => paperMonitor_transactions) (fun txn => Drawn.step)
      (not_drawn le_rfl) ⟨w.clock, ?_, rfl⟩
    rw [Env.handle_clock]
    exact Nat.lt_succ_self _
  · intro id order hget
    rcases orders_after hget with hget | ⟨rfl, rfl⟩
    · obtain ⟨hid, t', q', saved, ht', hput, howns⟩ := h.filed id order hget
      obtain ⟨q'', ht'', hgrows'⟩ := hgrow t' q' ht'
      exact ⟨hid, t', q'', saved, ht'', hgrows'.order _ hput, howns.grown hgrows'⟩
    · exact ⟨rfl, t, _, _, hself, rfl, ho.2.grown hgrows⟩
  · intro t' q' order ht' hput
    rcases update_inl ht' with ⟨rfl, rfl⟩ | ht'
    · rcases order_after hput with hput | he
      · exact h.kept ht ho (h.stored t' q order ht hput)
      · obtain ⟨rfl, hx⟩ := Sigma.mk.inj_iff.mp he
        rw [Env.handle_putOrder_orders, eq_of_heq hx, tookHold_ok, if_pos rfl,
          InMemoryOrderStore.get_put, if_pos rfl]
    · exact h.kept ht ho (h.stored t' q' order ht' hput)
  · intro key result hkey
    have hs := env.handle_keyStep key o w
    rw [hkey] at hs
    rcases hs.completed_cases with hkey | ⟨x, he⟩
    · obtain ⟨t', q', ht', hsettles⟩ := h.completed key result hkey
      obtain ⟨q'', ht'', hgrows'⟩ := hgrow t' q' ht'
      exact ⟨t', q'', ht'', hsettles.grown hgrows'⟩
    · obtain ⟨rfl, -⟩ := Sigma.mk.inj_iff.mp he
      exact ⟨t, _, hself, Paperwork.Settles.grown ho hgrows⟩
  · intro t' o' x txn orderId hm hwrites
    rcases List.mem_append.mp hm with hm | hm
    · obtain ⟨q', ht', howns⟩ := h.written t' o' x txn orderId hm hwrites
      obtain ⟨q'', ht'', hgrows'⟩ := hgrow t' q' ht'
      exact ⟨q'', ht'', howns.grown hgrows'⟩
    · obtain ⟨rfl, he⟩ := Entry.did.inj (List.mem_singleton.mp hm)
      obtain ⟨ho', -⟩ := Sigma.mk.inj_iff.mp he
      obtain rfl := Sum.inl.inj ho'
      exact ⟨_, hself, (paperMonitor_writes ho hwrites).grown hgrows⟩

end Papers

/-! ## Messages -/

/-- Some checkout has put the order the message names, and been told so. -/
def Vouched (φ : Desks) (m : OutboxMessage) : Prop := ∃ t q, φ t = .inl q ∧ q.Backs m

/-- Every message in a store, in a worker's hands or ever handed out is vouched for. -/
structure Posted (w : CommerceWorld) (φ : Desks) (log : List CommerceEntry) : Prop where
  kept : ∀ m, w.Keeps m → Vouched φ m
  held : ∀ t hold m, φ t = .inr hold → hold.message = some m → Vouched φ m
  handed : ∀ t o x m, .did t ⟨.inr o, x⟩ ∈ log → HandsOut m ⟨o, x⟩ → Vouched φ m
  /-- Only checkouts bring messages in. -/
  inside : ∀ t m, φ t ≠ .inr (.ready (.enqueue m))

section Posted

variable {env : CommerceEnv} {w : CommerceWorld} {φ φ' : Desks} {log : List CommerceEntry} {t : Nat}
  {q : Paperwork} {hold : Holding} {m : OutboxMessage}

theorem Vouched.grown (h : Vouched φ m) (hgrow : φ.Grow φ') : Vouched φ' m := by
  obtain ⟨t, q, ht, hbacks⟩ := h
  obtain ⟨q', ht', hgrows⟩ := hgrow t q ht
  exact ⟨t, q', ht', hbacks.grown hgrows⟩

/-- Counting attempts does not change what a message is about. -/
theorem Vouched.same {m' : OutboxMessage} (h : Vouched φ m) (hpayload : m'.payload = m.payload)
    (htenant : m'.tenantId = m.tenantId) : Vouched φ m' := by
  obtain ⟨t, q, ht, order, hput, hannounces⟩ := h
  exact ⟨t, q, ht, order, hput, hpayload.trans hannounces.payload,
    htenant.trans hannounces.tenant⟩

/-- One allowed operation of a checkout or a cart command. -/
theorem Posted.did {o : Op} (h : Posted w φ log) (ht : φ t = .inl q)
    (ho : paperMonitor.allow o q) :
    Posted (env.handle (.inl o) w).2
      (Function.update φ t (.inl (paperMonitor.next o q (env.env.handle o w.base).1)))
      (log ++ [.did t ⟨.inl o, (env.env.handle o w.base).1⟩]) := by
  have hgrows := paperMonitor_grows (env.env.handle o w.base).1 ho
  have hgrow := Desks.grow_inl ht hgrows
  constructor
  · rintro m (hqueue | hdead)
    · have hqueue : m ∈ (env.env.handle o w.base).2.outbox := hqueue
      cases henq : o.enqueues with
      | false =>
          rw [Env.handle_outbox henq] at hqueue
          exact (h.kept m (Or.inl hqueue)).grown hgrow
      | true =>
          cases o with
          | enqueue m' =>
              rw [Env.handle_enqueue_outbox] at hqueue
              split at hqueue
              · rcases List.mem_append.mp hqueue with hold | hnew
                · exact (h.kept m (Or.inl hold)).grown hgrow
                · obtain rfl := List.mem_singleton.mp hnew
                  exact ⟨t, _, Function.update_self .., Paperwork.Backs.grown ho hgrows⟩
              · exact (h.kept m (Or.inl hqueue)).grown hgrow
          | _ => exact absurd henq Bool.false_ne_true
    · exact (h.kept m (Or.inr hdead)).grown hgrow
  · intro t' hold m ht' hm
    by_cases htt : t' = t
    · subst htt
      rw [Function.update_self] at ht'
      cases ht'
    · rw [Function.update_of_ne htt] at ht'
      exact (h.held t' hold m ht' hm).grown hgrow
  · intro t' o' x m hm hhands
    rcases List.mem_append.mp hm with hm | hm
    · exact (h.handed t' o' x m hm hhands).grown hgrow
    · have he := (Entry.did.inj (List.mem_singleton.mp hm)).2
      cases (Sigma.mk.inj_iff.mp he).1
  · intro t' m ht'
    by_cases htt : t' = t
    · subst htt
      rw [Function.update_self] at ht'
      cases ht'
    · rw [Function.update_of_ne htt] at ht'
      exact h.inside t' m ht'

/-- What a worker holds after an operation it held before, or was handed out. -/
theorem outboxMonitor_message {o : OutboxOp} {x : o.Ans} (ho : outboxMonitor.allow o hold)
    (hm : (outboxMonitor.next o hold x).message = some m) :
    HandsOut m ⟨o, x⟩ ∨
      ∃ m', hold.message = some m' ∧ m.payload = m'.payload ∧ m.tenantId = m'.tenantId := by
  cases o with
  | claim =>
      obtain ⟨k, rfl⟩ := ho
      rcases x with e | _ | m'
      · cases hm
      · cases hm
      · exact Or.inl (Option.some.inj hm)
  | deliver m' =>
      obtain ⟨k, rfl⟩ := ho
      cases x with
      | ok _ => cases hm
      | error e =>
          obtain rfl := Option.some.inj hm
          exact Or.inr ⟨m', rfl, rfl, rfl⟩
  | takeDeadLetter id =>
      rcases x with e | _ | m'
      · cases hm
      · cases hm
      · exact Or.inl (Option.some.inj hm)
  | putDeadLetter m' => cases x <;> cases hm
  | ack id | release m' | enqueue m' => cases hm

/-- A worker puts back what it holds. -/
theorem outboxMonitor_puts {o : OutboxOp} (ho : outboxMonitor.allow o hold)
    (hputs : o = .release m ∨ o = .enqueue m ∨ o = .putDeadLetter m)
    (hinside : hold ≠ .ready (.enqueue m)) :
    ∃ m', hold.message = some m' ∧ m.payload = m'.payload ∧ m.tenantId = m'.tenantId := by
  rcases hputs with rfl | rfl | rfl
  · obtain ⟨k, rfl, -⟩ := ho
    exact ⟨m, rfl, rfl, rfl⟩
  · rcases ho with ho | ⟨m', rfl, rfl⟩
    · exact absurd ho hinside
    · exact ⟨m', rfl, rfl, rfl⟩
  · obtain ⟨k, rfl, -⟩ := ho
    exact ⟨m, rfl, rfl, rfl⟩

theorem outboxMonitor_started {o : OutboxOp} {x : o.Ans} {call : OutboxCall}
    (ho : outboxMonitor.allow o hold) : outboxMonitor.next o hold x ≠ .ready call := by
  cases o with
  | claim =>
      obtain ⟨k, rfl⟩ := ho
      rcases x with e | _ | m' <;> exact Holding.noConfusion
  | deliver m' =>
      obtain ⟨k, rfl⟩ := ho
      cases x <;> exact Holding.noConfusion
  | takeDeadLetter id => rcases x with e | _ | m' <;> exact Holding.noConfusion
  | putDeadLetter m' => cases x <;> exact Holding.noConfusion
  | ack id | release m' | enqueue m' => exact Holding.noConfusion

/-- One allowed operation of a worker or an operator. -/
theorem Posted.moved {o : OutboxOp} (h : Posted w φ log) (ht : φ t = .inr hold)
    (ho : outboxMonitor.allow o hold) :
    Posted (env.handleOutbox o w).2
      (Function.update φ t (.inr (outboxMonitor.next o hold (env.handleOutbox o w).1)))
      (log ++ [.did t ⟨.inr o, (env.handleOutbox o w).1⟩]) := by
  have hgrow : φ.Grow
      (Function.update φ t (.inr (outboxMonitor.next o hold (env.handleOutbox o w).1))) :=
    Desks.grow_inr ht
  have hheld {m m' : OutboxMessage} (hm' : hold.message = some m')
      (hsame : m.payload = m'.payload ∧ m.tenantId = m'.tenantId) : Vouched φ m :=
    (h.held t hold m' ht hm').same hsame.1 hsame.2
  constructor
  · intro m hm
    rcases keeps_handleOutbox hm with hm | hputs
    · exact (h.kept m hm).grown hgrow
    · obtain ⟨m', hm', hsame⟩ := outboxMonitor_puts ho hputs fun he => h.inside t m (he ▸ ht)
      exact (hheld hm' hsame).grown hgrow
  · intro t' hold' m ht' hm
    by_cases htt : t' = t
    · subst htt
      rw [Function.update_self] at ht'
      obtain rfl := Sum.inr.inj ht'
      rcases outboxMonitor_message ho hm with hhands | ⟨m', hm', hsame⟩
      · exact (h.kept m hhands.kept).grown hgrow
      · exact (hheld hm' hsame).grown hgrow
    · rw [Function.update_of_ne htt] at ht'
      exact (h.held t' hold' m ht' hm).grown hgrow
  · intro t' o' x m hm hhands
    rcases List.mem_append.mp hm with hm | hm
    · exact (h.handed t' o' x m hm hhands).grown hgrow
    · obtain ⟨rfl, he⟩ := Entry.did.inj (List.mem_singleton.mp hm)
      obtain ⟨ho', hx⟩ := Sigma.mk.inj_iff.mp he
      obtain rfl := Sum.inr.inj ho'
      rw [eq_of_heq hx] at hhands
      exact (h.kept m hhands.kept).grown hgrow
  · intro t' m ht'
    by_cases htt : t' = t
    · subst htt
      rw [Function.update_self] at ht'
      exact outboxMonitor_started ho (Sum.inr.inj ht')
    · rw [Function.update_of_ne htt] at ht'
      exact h.inside t' m ht'

/-- Orders and outcomes are out of the workers' reach. -/
theorem Papers.moved {o : OutboxOp} {hold' : Holding} {x : o.Ans} (h : Papers w.base φ log)
    (ht : φ t = .inr hold) :
    Papers (env.handleOutbox o w).2.base (Function.update φ t (.inr hold'))
      (log ++ [.did t ⟨.inr o, x⟩]) := by
  have hgrow : φ.Grow (Function.update φ t (.inr hold')) := Desks.grow_inr ht
  have horders : (env.handleOutbox o w).2.base.orders = w.base.orders :=
    handleOutbox_frame World.orders (fun _ _ => rfl) fun _ => rfl
  have hkeys : (env.handleOutbox o w).2.base.idempotency = w.base.idempotency :=
    handleOutbox_frame World.idempotency (fun _ _ => rfl) fun _ => rfl
  have hclock : w.base.clock ≤ (env.handleOutbox o w).2.base.clock := by
    rw [handleOutbox_clock]
    exact Nat.le_succ _
  constructor
  · exact h.ids.mono fun u hu => Nat.lt_of_lt_of_le hu hclock
  · exact h.transactions.mono fun txn htxn => htxn.mono hclock
  · intro id order hget
    rw [horders] at hget
    obtain ⟨hid, t', q, saved, ht', hput, howns⟩ := h.filed id order hget
    obtain ⟨q', ht'', hgrows⟩ := hgrow t' q ht'
    exact ⟨hid, t', q', saved, ht'', hgrows.order _ hput, howns.grown hgrows⟩
  · intro t' q order ht' hput
    rw [horders]
    exact h.stored t' q order (update_inr ht') hput
  · intro key result hkey
    rw [hkeys] at hkey
    obtain ⟨t', q, ht', hsettles⟩ := h.completed key result hkey
    obtain ⟨q', ht'', hgrows⟩ := hgrow t' q ht'
    exact ⟨t', q', ht'', hsettles.grown hgrows⟩
  · intro t' o' x' txn orderId hm hwrites
    rcases List.mem_append.mp hm with hm | hm
    · obtain ⟨q, ht', howns⟩ := h.written t' o' x' txn orderId hm hwrites
      obtain ⟨q', ht'', hgrows⟩ := hgrow t' q ht'
      exact ⟨q', ht'', howns.grown hgrows⟩
    · have he := (Entry.did.inj (List.mem_singleton.mp hm)).2
      cases (Sigma.mk.inj_iff.mp he).1

end Posted

/-! ## Runs -/

/-- Where a call stands before its first operation. -/
def CommerceCall.desk : CommerceCall → Paperwork ⊕ Holding
  | .runner call => .inl ⟨call, [], [], none⟩
  | .process maxAttempts => .inr (.ready (.process maxAttempts))
  | .replay messageId => .inr (.ready (.replay messageId))

def deskAt (calls : List CommerceCall) (t : Nat) : Paperwork ⊕ Holding :=
  (calls[t]?.map CommerceCall.desk).getD (.inr .done)

theorem CommerceCall.prog_follows (runner : Runner) (call : CommerceCall) :
    (call.prog runner).Follows (paperMonitor.sum outboxMonitor) (fun _ _ => True) call.desk := by
  cases call with
  | runner call =>
      exact follows_map.mpr ((Call.prog_files runner call).inl.mono fun _ _ _ => trivial)
  | process maxAttempts =>
      exact follows_map.mpr
        ((OutboxCall.process maxAttempts).prog_follows.inr.mono fun _ _ _ => trivial)
  | replay messageId =>
      exact follows_map.mpr
        ((OutboxCall.replay messageId).prog_follows.inr.mono fun _ _ _ => trivial)

section Runs

variable {calls : List CommerceCall} {t : Nat}

/-- At the start no checkout has written anything. -/
theorem deskAt_inl {q : Paperwork} (h : deskAt calls t = .inl q) :
    q.ids = [] ∧ q.txns = [] ∧ q.order = none := by
  unfold deskAt at h
  cases hcall : calls[t]? with
  | none =>
      rw [hcall] at h
      cases h
  | some call =>
      rw [hcall] at h
      cases call with
      | runner call =>
          obtain rfl := Sum.inl.inj h
          exact ⟨rfl, rfl, rfl⟩
      | process _ | replay _ => cases h

/-- At the start no worker holds anything. -/
theorem deskAt_inr {hold : Holding} (h : deskAt calls t = .inr hold) :
    hold.message = none ∧ ∀ m, hold ≠ .ready (.enqueue m) := by
  unfold deskAt at h
  cases hcall : calls[t]? with
  | none =>
      rw [hcall] at h
      obtain rfl := Sum.inr.inj h
      exact ⟨rfl, fun m => Holding.noConfusion⟩
  | some call =>
      rw [hcall] at h
      cases call with
      | runner call => cases h
      | process k | replay id =>
          obtain rfl := Sum.inr.inj h
          exact ⟨rfl, fun m he => by cases he⟩

theorem Papers.start : Papers World.empty (deskAt calls) [] where
  ids :=
    { old := fun t q ht u hu => by rw [(deskAt_inl ht).1] at hu; cases hu
      apart := fun t t' q q' u ht _ hu => by rw [(deskAt_inl ht).1] at hu; cases hu }
  transactions :=
    { old := fun t q ht txn htxn => by
        simp [Paperwork.transactions, (deskAt_inl ht).1, (deskAt_inl ht).2.1] at htxn
      apart := fun t t' q q' txn ht _ htxn => by
        simp [Paperwork.transactions, (deskAt_inl ht).1, (deskAt_inl ht).2.1] at htxn }
  filed _ _ h := by cases h
  stored t q order ht hput := by
    rw [(deskAt_inl ht).2.2] at hput
    cases hput
  completed _ _ h := by cases h
  written _ _ _ _ _ h := absurd h List.not_mem_nil

theorem Posted.start : Posted CommerceWorld.empty (deskAt calls) [] where
  kept m := by
    rintro (hqueue | ⟨id, hdead⟩)
    · exact absurd hqueue List.not_mem_nil
    · cases hdead
  held t hold m ht hm := by
    rw [(deskAt_inr ht).1] at hm
    cases hm
  handed _ _ _ _ h := absurd h List.not_mem_nil
  inside t m ht := (deskAt_inr ht).2 m rfl

theorem Papers.returns {w : World} {φ : Desks} {log : List CommerceEntry} {out : CommerceReport}
    (h : Papers w φ log) : Papers w φ (log ++ [.returned t out]) :=
  { h with written := fun t' o x txn orderId hm => h.written t' o x txn orderId (by simpa using hm) }

theorem Posted.returns {w : CommerceWorld} {φ : Desks} {log : List CommerceEntry}
    {out : CommerceReport} (h : Posted w φ log) : Posted w φ (log ++ [.returned t out]) :=
  { h with handed := fun t' o x m hm => h.handed t' o x m (by simpa using hm) }

/-- One allowed operation of any call. -/
theorem commerce_did {env : CommerceEnv} {w : CommerceWorld} {φ : Desks} {log : List CommerceEntry}
    {o : Op ⊕ OutboxOp} (hpapers : Papers w.base φ log) (hposted : Posted w φ log)
    (ho : (paperMonitor.sum outboxMonitor).allow o (φ t)) :
    (paperMonitor.sum outboxMonitor).rely o (φ t) (env.handle o w).1 ∧
      Papers (env.handle o w).2.base
        (Function.update φ t ((paperMonitor.sum outboxMonitor).next o (φ t) (env.handle o w).1))
        (log ++ [.did t ⟨o, (env.handle o w).1⟩]) ∧
      Posted (env.handle o w).2
        (Function.update φ t ((paperMonitor.sum outboxMonitor).next o (φ t) (env.handle o w).1))
        (log ++ [.did t ⟨o, (env.handle o w).1⟩]) := by
  cases ht : φ t with
  | inl q =>
      rw [ht] at ho
      cases o with
      | inl o => exact ⟨trivial, hpapers.did ht ho, hposted.did ht ho⟩
      | inr o => exact absurd ho id
  | inr hold =>
      rw [ht] at ho
      cases o with
      | inl o => exact absurd ho id
      | inr o => exact ⟨trivial, hpapers.moved ht, hposted.moved ht ho⟩

/-- The invariants hold at the end of every schedule. -/
theorem commerce_posted (env : CommerceEnv) (runner : Runner) (calls : List CommerceCall)
    (ts : List Nat) :
    ∃ φ, Papers (env.run runner calls ts).world.base φ (env.run runner calls ts).log ∧
      Posted (env.run runner calls ts).world φ (env.run runner calls ts).log := by
  have hstart : Pool.AllFollow (paperMonitor.sum outboxMonitor) (fun _ _ _ => True) (deskAt calls)
      (Pool.start CommerceWorld.empty (calls.map (·.prog runner))) := by
    intro t p hp
    obtain ⟨call, hcall, rfl⟩ := Option.map_eq_some_iff.mp ((List.getElem?_map ..).symm.trans hp)
    rw [deskAt, hcall]
    exact call.prog_follows runner
  refine (Pool.run_invariant (C := fun _ _ _ => True)
    (I := fun w φ log => Papers w.base φ log ∧ Posted w φ log) ?_ ts ⟨Papers.start, Posted.start⟩
    hstart Pool.stepsMeet_true).imp fun _ h => h.1
  rintro w φ log t o x w' ⟨hpapers, hposted⟩ ho _ hx
  obtain ⟨rfl, rfl⟩ := Handler.shared_eq_some.mp hx
  obtain ⟨hrely, hpapers, hposted⟩ := commerce_did hpapers hposted ho
  refine ⟨hrely, ⟨hpapers, hposted⟩, fun out _ => ?_⟩
  rw [List.append_cons]
  exact ⟨hpapers.returns, hposted.returns⟩

end Runs

/-- Two pairs of a transaction and an order have neither in common. -/
structure Apart (a b : String × Option String) : Prop where
  transaction : a.1 ≠ b.1
  order : ∀ id, a.2 = some id → b.2 ≠ some id

/-- What refers to an order refers to one on record that agrees with it, and no two
checkouts share a transaction or an order. -/
structure Integrity (P : CommercePool) : Prop where
  /-- A message names an order of its tenant: in the queue, among the dead letters, and from
  when a worker or an operator has been handed it. -/
  messages : ∀ m, P.world.Keeps m ∨ (∃ t o x, .did t ⟨.inr o, x⟩ ∈ P.log ∧ HandsOut m ⟨o, x⟩) →
    ∃ order, P.world.base.orders.get m.payload = some order ∧ m.tenantId = some order.tenantId
  /-- An outcome with an order agrees with it, in the name of the key's tenant. -/
  outcomes : ∀ key result id, P.world.base.idempotency.lookup key = some (.completed result) →
    result.orderId = some id →
    ∃ order, P.world.base.orders.get id = some order ∧ AgreesWith key result order
  /-- What two checkouts write is about different transactions and orders. -/
  written : ∀ t t' o o' x x' ids ids', .did t ⟨.inl o, x⟩ ∈ P.log → .did t' ⟨.inl o', x'⟩ ∈ P.log →
    t ≠ t' → Op.writes o = some ids → Op.writes o' = some ids' → Apart ids ids'
  /-- So are the outcomes of different keys, -/
  keys : ∀ key key' result result', key ≠ key' →
    P.world.base.idempotency.lookup key = some (.completed result) →
    P.world.base.idempotency.lookup key' = some (.completed result') →
    Apart (result.transactionId, result.orderId) (result'.transactionId, result'.orderId)
  /-- and the orders on record, which are filed under their own ids. -/
  orders : ∀ id id' order order', id ≠ id' → P.world.base.orders.get id = some order →
    P.world.base.orders.get id' = some order' →
    Apart (order.transactionId, some order.orderId) (order'.transactionId, some order'.orderId)

/-- Ids of different checkouts have nothing in common. -/
theorem Papers.apart {w : World} {φ : Desks} {log : List CommerceEntry} (h : Papers w φ log)
    {t t' : Nat} {q q' : Paperwork} {txn txn' : String} {orderId orderId' : Option String}
    (ht : φ t = .inl q) (ht' : φ t' = .inl q') (hne : t ≠ t') (howns : q.Owns txn orderId)
    (howns' : q'.Owns txn' orderId') : Apart (txn, orderId) (txn', orderId') where
  transaction := by
    rintro rfl
    exact hne (h.transactions.apart t t' q q' _ ht ht' howns.transaction howns'.transaction)
  order id hid hid' := by
    obtain ⟨u, hu, hname⟩ := howns.order id hid
    obtain ⟨v, hv, hname'⟩ := howns'.order id hid'
    obtain rfl := orderId_injective (hname.symm.trans hname')
    exact hne (h.ids.apart t t' q q' u ht ht' hu hv)

/-- **References hold throughout.**  Whatever calls, workers and replays are going on,
however their operations interleave and whichever of them fail: every message names an
order on record in its tenant's name, every completed outcome with an order agrees with that
order and its key, and no two checkouts share a transaction or an order. -/
theorem references_hold (env : CommerceEnv) (runner : Runner) (calls : List CommerceCall)
    (ts : List Nat) : Integrity (env.run runner calls ts) := by
  obtain ⟨φ, hpapers, hposted⟩ := commerce_posted env runner calls ts
  constructor
  · intro m hm
    have hvouched : Vouched φ m := by
      rcases hm with hm | ⟨t, o, x, hm, hhands⟩
      · exact hposted.kept m hm
      · exact hposted.handed t o x m hm hhands
    obtain ⟨t, q, ht, order, hput, hannounces⟩ := hvouched
    refine ⟨order, ?_, hannounces.tenant⟩
    rw [hannounces.payload]
    exact hpapers.stored t q order ht hput
  · intro key result id hkey hid
    obtain ⟨t, q, ht, hsettles⟩ := hpapers.completed key result hkey
    obtain ⟨order, hput, rfl, hagrees⟩ := hsettles.order id hid
    exact ⟨order, hpapers.stored t q order ht hput, hagrees⟩
  · rintro t t' o o' x x' ⟨txn, orderId⟩ ⟨txn', orderId'⟩ hm hm' hne hwrites hwrites'
    obtain ⟨q, ht, howns⟩ := hpapers.written t o x txn orderId hm hwrites
    obtain ⟨q', ht', howns'⟩ := hpapers.written t' o' x' txn' orderId' hm' hwrites'
    exact hpapers.apart ht ht' hne howns howns'
  · intro key key' result result' hne hkey hkey'
    obtain ⟨t, q, ht, hsettles⟩ := hpapers.completed key result hkey
    obtain ⟨t', q', ht', hsettles'⟩ := hpapers.completed key' result' hkey'
    refine hpapers.apart ht ht' ?_ hsettles.owns hsettles'.owns
    -- one checkout settles one key only
    rintro rfl
    obtain rfl := Sum.inl.inj (ht.symm.trans ht')
    obtain ⟨request, hcall, rfl⟩ := hsettles.request
    obtain ⟨request', hcall', rfl⟩ := hsettles'.request
    cases hcall.symm.trans hcall'
    exact hne rfl
  · intro id id' order order' hne hget hget'
    obtain ⟨hid, t, q, saved, ht, hput, howns⟩ := hpapers.filed id order hget
    obtain ⟨hid', t', q', saved', ht', hput', howns'⟩ := hpapers.filed id' order' hget'
    rw [hid, hid']
    refine hpapers.apart ht ht' ?_ howns howns'
    -- one checkout puts one order only
    rintro rfl
    obtain rfl := Sum.inl.inj (ht.symm.trans ht')
    cases hput.symm.trans hput'
    exact hne (hid.symm.trans hid')

end Orchestrator
