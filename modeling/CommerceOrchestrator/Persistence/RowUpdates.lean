/-
# `CommerceOrchestrator.Persistence.RowUpdates` — which updates a row keeps

The updates of `PostgresRows` agree with those in memory as long as every upsert
finds the row as its call has read it.  Then the rows are those the calls would
have made of them in memory, one after the other in the order of their upserts,
and every call that returns `Ok` is among them (`rows_lose_no_update`).  Where two
calls select before either upserts, the first one's update is gone
(`stale_upsert_loses_event`).
-/
import CommerceOrchestrator.Persistence.PostgresRows

namespace Orchestrator

open Effect

/-! ## One after the other -/

/-- The call a thread runs. -/
def rowCall (calls : List RowCall) (t : Nat) : RowCall :=
  calls.getD t (.appendCartEvent ⟨⟨0⟩⟩ .checkoutReady)

/-- The calls of these threads on the stores in memory. -/
def serial (calls : List RowCall) (before : Rows) (landed : List Nat) : Rows :=
  landed.foldl (fun rows t => (rowCall calls t).atomically rows) before

/-- The threads whose calls have returned `Ok`, in this order. -/
def okThreads (log : List RowEntry) : List Nat :=
  log.filterMap fun
    | .returned t reply => if reply.isOk then some t else none
    | .did _ _ => none

/-- What thread `t` has read of the rows is still so.  To a call that sets the status any
other status is as good. -/
def AsRead (call : RowCall) (rows : Rows) (t : Nat) : RowEntry → Prop
  | .did t' ⟨.selectEvents cartId, .ok row⟩ =>
      t' = t → rows.events.cartEvents.lookup cartId = row
  | .did t' ⟨.selectOrder orderId, .ok (some record)⟩ =>
      t' = t → ∃ now ∈ rows.orders.lookup orderId,
        if call.SetsStatus orderId then { record with status := now.status } = now
        else record = now
  | _ => True

/-- The statement finds what it needs.  An upsert finds the row as its thread has read it, the
read of an order that is there goes through, and a status is not set behind an error. -/
def RowEnv.Current (env : RowEnv) (calls : List RowCall) (t : Nat) (o : RowOp) (w : RowDb)
    (log : List RowEntry) : Prop :=
  match o with
  | .selectEvents _ => True
  | .selectOrder orderId => (w.rows.orders.lookup orderId).isSome → env.fault w.clock = none
  | .upsertEvents _ _ => env.takesEffect w → ∀ e ∈ log, AsRead (rowCall calls t) w.rows t e
  | .upsertOrder record =>
      env.takesEffect w →
        (∀ e ∈ log, AsRead (rowCall calls t) w.rows t e) ∧
          ((rowCall calls t).SetsStatus record.orderId → env.fault w.clock = none)

section Serial

variable {calls : List RowCall} {before rows : Rows} {t : Nat} {orderId : String}

theorem rowCall_prog {p : Prog RowOp.Ans RowReply} (h : (calls.map (·.prog))[t]? = some p) :
    p = (rowCall calls t).prog := by
  rw [List.getElem?_map] at h
  obtain ⟨call, hcall, rfl⟩ := Option.map_eq_some_iff.mp h
  rw [rowCall, List.getD_eq_getElem?_getD, hcall]
  rfl

theorem serial_append {landed : List Nat} :
    serial calls before (landed ++ [t]) =
      (rowCall calls t).atomically (serial calls before landed) := by
  rw [serial, List.foldl_append]
  rfl

@[simp] theorem okThreads_did {log : List RowEntry} {e : Event RowOp.Ans} :
    okThreads (log ++ [.did t e]) = okThreads log := by
  simp [okThreads]

theorem okThreads_returned {log : List RowEntry} {e : Event RowOp.Ans} {reply : RowReply} :
    okThreads (log ++ [.did t e, .returned t reply]) =
      okThreads log ++ if reply.isOk then [t] else [] := by
  cases h : reply.isOk <;> simp [okThreads, h]

theorem mem_okThreads {log : List RowEntry} :
    t ∈ okThreads log ↔ ∃ reply, .returned t reply ∈ log ∧ reply.isOk := by
  simp only [okThreads, List.mem_filterMap]
  constructor
  · rintro ⟨e, he, hes⟩
    cases e with
    | did t' e => cases hes
    | returned t' reply =>
        obtain ⟨hok, rfl⟩ : reply.isOk ∧ t' = t := by simpa using hes
        exact ⟨reply, he, hok⟩
  · rintro ⟨reply, he, hok⟩
    exact ⟨_, he, by simp [hok]⟩

namespace RowCall

theorem atomically_appendCartEvent (cartId : CartId) (event : CartStreamEvent) :
    (appendCartEvent cartId event).atomically rows =
      rows.upsertEvents cartId ((rows.events.cartEvents.lookup cartId).getD [] ++ [event]) :=
  rfl

theorem atomically_amend {now : OrderRecord} (h : rows.orders.lookup orderId = some now)
    (edit : OrderEdit) :
    (amend orderId edit).atomically rows = rows.upsertOrder (edit.apply now) := by
  refine Rows.ext rfl ?_
  show (edit.atomically orderId rows.orders).2 = rows.orders.insert (edit.apply now).orderId _
  rw [OrderEdit.atomically_eq, InMemoryOrderStore.amend, h, OrderEdit.orderId_apply,
    rows.filed orderId now h]

theorem atomically_absent (h : rows.orders.lookup orderId = none) (edit : OrderEdit) :
    (amend orderId edit).atomically rows = rows := by
  refine Rows.ext rfl ?_
  show (edit.atomically orderId rows.orders).2 = rows.orders
  rw [OrderEdit.atomically_eq, InMemoryOrderStore.amend, h]

end RowCall

/-- Where the order is as it was read, the upsert is the update. -/
theorem AsRead.amends {record : OrderRecord} {edit : OrderEdit}
    (h : AsRead (.amend record.orderId edit) rows t
      (.did t ⟨.selectOrder record.orderId, .ok (some record)⟩)) :
    rows.upsertOrder (edit.apply record) = (RowCall.amend record.orderId edit).atomically rows := by
  obtain ⟨now, hnow, hsame⟩ := h rfl
  rw [RowCall.atomically_amend hnow]
  suffices hedit : edit.apply record = edit.apply now by rw [hedit]
  split at hsame
  · next hsets =>
      cases edit with
      | updateStatus status =>
          rw [← hsame]
          rfl
      | appendEvent event => cases hsets
      | addAdjustment adjustment => cases hsets
  · rw [hsame]

end Serial

/-! ## The invariant -/

/-- What a thread goes by is in the log. -/
def Stage.Stands (call : RowCall) (log : List RowEntry) (t : Nat) : Stage → Prop
  | .readEvents events =>
      ∃ cartId event row, call = .appendCartEvent cartId event ∧
        .did t ⟨.selectEvents cartId, .ok row⟩ ∈ log ∧ events = row.getD []
  | .readOrder record =>
      ∃ edit, call = .amend record.orderId edit ∧
        .did t ⟨.selectOrder record.orderId, .ok (some record)⟩ ∈ log
  | .fresh | .done _ => True

/-- The call is among those that have landed, if it was answered `Ok`, and only then if it
sets a status. -/
def Stage.Settled (call : RowCall) (landed : List Nat) (t : Nat) : Stage → Prop
  | .done reply =>
      (reply.isOk → t ∈ landed) ∧ (t ∈ landed → ∀ orderId, call.SetsStatus orderId → reply.isOk)
  | _ => t ∉ landed

/-- The rows are those the calls in `landed` make of `before`, one after the other. -/
structure Serving (calls : List RowCall) (before : Rows) (landed : List Nat) (w : RowDb)
    (φ : Nat → Rewriting) (log : List RowEntry) : Prop where
  runs : ∀ t, (φ t).call = rowCall calls t
  rows : w.rows = serial calls before landed
  nodup : landed.Nodup
  settled : ∀ t, (φ t).stage.Settled (rowCall calls t) landed t
  stands : ∀ t, (φ t).stage.Stands (rowCall calls t) log t
  returned : ∀ t reply, .returned t reply ∈ log → (φ t).stage = .done reply
  ordered : (okThreads log).Sublist landed

theorem Stage.Stands.mono {call : RowCall} {log log' : List RowEntry} {t : Nat} {s : Stage}
    (h : s.Stands call log t) (hl : log ⊆ log') : s.Stands call log' t := by
  cases s with
  | fresh => trivial
  | done reply => trivial
  | readEvents events =>
      obtain ⟨cartId, event, row, hcall, hread, hevents⟩ := h
      exact ⟨cartId, event, row, hcall, hl hread, hevents⟩
  | readOrder record =>
      obtain ⟨edit, hcall, hread⟩ := h
      exact ⟨edit, hcall, hl hread⟩

section Serving

variable {calls : List RowCall} {before : Rows} {landed : List Nat} {w w' : RowDb}
  {φ : Nat → Rewriting} {log : List RowEntry} {t : Nat} {e : Event RowOp.Ans} {s : Stage}
  {reply : RowReply}

theorem Serving.notMem (h : Serving calls before landed w φ log)
    (hopen : ∀ reply, (φ t).stage ≠ .done reply) : t ∉ landed := by
  have hset := h.settled t
  cases hs : (φ t).stage with
  | done reply => exact absurd hs (hopen reply)
  | fresh => rwa [hs] at hset
  | readEvents events => rwa [hs] at hset
  | readOrder record => rwa [hs] at hset

/-- The thread `t` moves on. -/
theorem Serving.moves {landed' : List Nat} (h : Serving calls before landed w φ log)
    (hopen : ∀ reply, (φ t).stage ≠ .done reply) (hrows : w'.rows = serial calls before landed')
    (hnew : landed' = landed ∨ landed' = landed ++ [t])
    (hsettled : s.Settled (rowCall calls t) landed' t)
    (hstands : s.Stands (rowCall calls t) (log ++ [.did t e]) t) :
    Serving calls before landed' w' (Function.update φ t { φ t with stage := s })
      (log ++ [.did t e]) := by
  have hnot := h.notMem hopen
  have hiff : ∀ t', t' ≠ t → (t' ∈ landed' ↔ t' ∈ landed) := by
    rintro t' ht
    rcases hnew with rfl | rfl
    · exact Iff.rfl
    · simp [ht]
  refine ⟨?_, hrows, ?_, ?_, ?_, ?_, ?_⟩
  · have hcall : ∀ t', (Function.update φ t { φ t with stage := s } t').call = (φ t').call :=
      Pool.update_keeps Rewriting.call rfl
    exact fun t' => (hcall t').trans (h.runs t')
  · rcases hnew with rfl | rfl
    · exact h.nodup
    · exact List.nodup_append.mpr ⟨h.nodup, List.nodup_singleton t, by
        rintro a ha b hb rfl
        exact hnot (List.mem_singleton.mp hb ▸ ha)⟩
  · intro t'
    by_cases ht : t' = t
    · subst ht
      rw [Function.update_self]
      exact hsettled
    · rw [Function.update_of_ne ht]
      have hset := h.settled t'
      cases hs : (φ t').stage <;> rw [hs] at hset <;> simpa [Stage.Settled, hiff t' ht] using hset
  · intro t'
    by_cases ht : t' = t
    · subst ht
      rw [Function.update_self]
      exact hstands
    · rw [Function.update_of_ne ht]
      exact (h.stands t').mono (List.subset_append_left _ _)
  · intro t' reply hm
    have hdone := h.returned t' reply (by simpa using hm)
    have ht : t' ≠ t := by
      rintro rfl
      exact hopen reply hdone
    rw [Function.update_of_ne ht]
    exact hdone
  · rw [okThreads_did]
    rcases hnew with rfl | rfl
    · exact h.ordered
    · exact h.ordered.trans (List.sublist_append_left _ _)

/-- The thread that has just moved returns. -/
theorem Serving.returns {landed' : List Nat} (h : Serving calls before landed w φ log)
    (h' : Serving calls before landed' w' (Function.update φ t { φ t with stage := .done reply })
      (log ++ [.did t e]))
    (hnew : (landed' = landed ∧ reply.isOk = false) ∨ landed' = landed ++ [t]) :
    Serving calls before landed' w' (Function.update φ t { φ t with stage := .done reply })
      (log ++ [.did t e, .returned t reply]) where
  runs := h'.runs
  rows := h'.rows
  nodup := h'.nodup
  settled := h'.settled
  stands t' := (h'.stands t').mono (by simp)
  returned t' reply' hm := by
    rw [List.append_cons] at hm
    rcases List.mem_append.mp hm with hm | hm
    · exact h'.returned t' reply' hm
    · obtain ⟨rfl, rfl⟩ := Entry.returned.inj (List.mem_singleton.mp hm)
      rw [Function.update_self]
  ordered := by
    rw [okThreads_returned]
    rcases hnew with ⟨rfl, hrefused⟩ | rfl
    · simpa [hrefused] using h.ordered
    · refine h.ordered.append ?_
      split
      · exact List.Sublist.refl _
      · exact List.nil_sublist _

/-- What a step leads to, whether or not the thread returns right after it. -/
def Serves (calls : List RowCall) (before : Rows) (w : RowDb) (φ : Nat → Rewriting)
    (log : List RowEntry) (t : Nat) (e : Event RowOp.Ans) : Prop :=
  (∃ landed, Serving calls before landed w φ (log ++ [.did t e])) ∧
    ∀ reply, (φ t).stage = .done reply →
      ∃ landed, Serving calls before landed w φ (log ++ [.did t e, .returned t reply])

/-- A statement the call goes on from. -/
theorem Serving.selects (h : Serving calls before landed w φ log)
    (hopen : ∀ reply, (φ t).stage ≠ .done reply) (hrows : w'.rows = w.rows)
    (hs : ∀ reply, s ≠ .done reply)
    (hstands : s.Stands (rowCall calls t) (log ++ [.did t e]) t) :
    Serves calls before w' (Function.update φ t { φ t with stage := s }) log t e := by
  have hsettled : s.Settled (rowCall calls t) landed t := by
    cases s with
    | done reply => exact absurd rfl (hs reply)
    | fresh => exact h.notMem hopen
    | readEvents events => exact h.notMem hopen
    | readOrder record => exact h.notMem hopen
  refine ⟨⟨landed, h.moves hopen (hrows.trans h.rows) (Or.inl rfl) hsettled hstands⟩, ?_⟩
  intro reply hreply
  rw [Function.update_self] at hreply
  exact absurd hreply (hs reply)

/-- The last statement of a call. -/
theorem Serving.answers {landed' : List Nat} (h : Serving calls before landed w φ log)
    (hopen : ∀ reply, (φ t).stage ≠ .done reply) (hrows : w'.rows = serial calls before landed')
    (hnew : (landed' = landed ∧ reply.isOk = false) ∨ landed' = landed ++ [t] ∧
      ∀ orderId, (rowCall calls t).SetsStatus orderId → reply.isOk) :
    Serves calls before w' (Function.update φ t { φ t with stage := .done reply }) log t e := by
  have hsettled : (Stage.done reply).Settled (rowCall calls t) landed' t := by
    rcases hnew with ⟨rfl, hrefused⟩ | ⟨rfl, hstatus⟩
    · refine ⟨fun hok => ?_, fun hmem => absurd hmem (h.notMem hopen)⟩
      rw [hrefused] at hok
      cases hok
    · exact ⟨fun _ => List.mem_append_right _ (List.mem_singleton_self t), fun _ => hstatus⟩
  have hmoves := h.moves (e := e) hopen hrows (hnew.imp And.left And.left) hsettled trivial
  refine ⟨⟨landed', hmoves⟩, ?_⟩
  intro reply' hreply
  rw [Function.update_self] at hreply
  obtain rfl := Stage.done.inj hreply
  exact ⟨landed', h.returns hmoves (hnew.imp_right And.left)⟩

/-- An upsert that finds what it needs is the call's update, or fails and changes nothing. -/
theorem Serving.upserts {env : RowEnv} {rows : Rows} (h : Serving calls before landed w φ log)
    (hopen : ∀ reply, (φ t).stage ≠ .done reply)
    (hreply : reply.isOk = (env.upsert w rows).1.isOk)
    (hcurrent : env.takesEffect w → rows = (rowCall calls t).atomically w.rows ∧
      ∀ orderId, (rowCall calls t).SetsStatus orderId → env.fault w.clock = none) :
    Serves calls before (env.upsert w rows).2
      (Function.update φ t { φ t with stage := .done reply }) log t e := by
  have hlands : env.takesEffect w →
      rows = serial calls before (landed ++ [t]) := by
    intro heffect
    rw [serial_append, ← h.rows]
    exact (hcurrent heffect).1
  unfold RowEnv.upsert at hreply ⊢
  unfold RowEnv.takesEffect at hlands hcurrent
  cases hfault : env.fault w.clock with
  | none =>
      simp only [hfault] at hreply hlands ⊢
      exact h.answers hopen (hlands trivial) (Or.inr ⟨rfl, fun _ _ => hreply⟩)
  | some fault =>
      simp only [hfault] at hreply hlands hcurrent ⊢
      cases heffect : fault.tookEffect with
      | false => exact h.answers hopen h.rows (Or.inl ⟨rfl, hreply⟩)
      | true =>
          refine h.answers hopen (hlands heffect) (Or.inr ⟨rfl, fun orderId hsets => ?_⟩)
          cases (hcurrent heffect).2 orderId hsets

theorem Stage.open_of_eq {s' : Stage} (hs : s = s') (hs' : ∀ reply, s' ≠ .done reply) :
    ∀ reply, s ≠ .done reply := by
  rw [hs]
  exact hs'

theorem mem_log_did : Entry.did t e ∈ log ++ [(.did t e : RowEntry)] :=
  List.mem_append_right _ (List.mem_singleton_self _)

section Statement

variable {env : RowEnv} {cartId : CartId} {event : CartStreamEvent} {orderId : String}
  {edit : OrderEdit}

theorem Serving.selectEvents (h : Serving calls before landed w φ log)
    (hstage : (φ t).stage = .fresh) (hcall : rowCall calls t = .appendCartEvent cartId event) :
    let answered := env.handle (.selectEvents cartId) w
    Serves calls before answered.2
      (Function.update φ t (rowMonitor.next (.selectEvents cartId) (φ t) answered.1)) log t
      ⟨.selectEvents cartId, answered.1⟩ := by
  have hopen := Stage.open_of_eq hstage (by simp)
  simp only [RowEnv.handle, RowEnv.select, rowMonitor]
  cases hfault : env.fault w.clock with
  | none => exact h.selects hopen rfl (by simp) ⟨cartId, event, _, hcall, mem_log_did, rfl⟩
  | some fault => exact h.answers hopen h.rows (Or.inl ⟨rfl, rfl⟩)

theorem Serving.upsertEvents {row : Option (List CartStreamEvent)}
    (h : Serving calls before landed w φ log) (hstage : (φ t).stage = .readEvents (row.getD []))
    (hcall : rowCall calls t = .appendCartEvent cartId event)
    (hrow : env.takesEffect w → w.rows.events.cartEvents.lookup cartId = row) :
    let o := RowOp.upsertEvents cartId (row.getD [] ++ [event])
    let answered := env.handle o w
    Serves calls before answered.2
      (Function.update φ t (rowMonitor.next o (φ t) answered.1)) log t ⟨o, answered.1⟩ := by
  refine h.upserts (Stage.open_of_eq hstage (by simp)) rfl fun heffect => ⟨?_, ?_⟩
  · rw [hcall, RowCall.atomically_appendCartEvent, hrow heffect]
  · intro orderId hsets
    rw [hcall] at hsets
    cases hsets

/-- An order that is not there is not there in memory either. -/
theorem Serving.selectOrder_absent (h : Serving calls before landed w φ log)
    (hstage : (φ t).stage = .fresh) (hcall : rowCall calls t = .amend orderId edit)
    (hfound : w.rows.orders.lookup orderId = none) :
    let answered := env.handle (.selectOrder orderId) w
    Serves calls before answered.2
      (Function.update φ t (rowMonitor.next (.selectOrder orderId) (φ t) answered.1)) log t
      ⟨.selectOrder orderId, answered.1⟩ := by
  have hrows : w.rows = serial calls before (landed ++ [t]) := by
    rw [serial_append, ← h.rows, hcall]
    exact (RowCall.atomically_absent hfound edit).symm
  have hopen := Stage.open_of_eq hstage (by simp)
  simp only [RowEnv.handle, RowEnv.select, InMemoryOrderStore.get, hfound, rowMonitor]
  cases hfault : env.fault w.clock with
  | none => exact h.answers hopen hrows (Or.inr ⟨rfl, fun _ _ => rfl⟩)
  | some fault => exact h.answers hopen hrows (Or.inr ⟨rfl, fun _ _ => rfl⟩)

theorem Serving.selectOrder_found {record : OrderRecord} (h : Serving calls before landed w φ log)
    (hstage : (φ t).stage = .fresh) (hcall : rowCall calls t = .amend record.orderId edit)
    (hfound : w.rows.orders.lookup record.orderId = some record)
    (hfault : env.fault w.clock = none) :
    let answered := env.handle (.selectOrder record.orderId) w
    Serves calls before answered.2
      (Function.update φ t (rowMonitor.next (.selectOrder record.orderId) (φ t) answered.1)) log t
      ⟨.selectOrder record.orderId, answered.1⟩ := by
  simp only [RowEnv.handle, RowEnv.select, InMemoryOrderStore.get, hfound, hfault, rowMonitor]
  exact h.selects (Stage.open_of_eq hstage (by simp)) rfl (by simp) ⟨edit, hcall, mem_log_did⟩

theorem Serving.upsertOrder {record : OrderRecord} (h : Serving calls before landed w φ log)
    (hstage : (φ t).stage = .readOrder record)
    (hcall : rowCall calls t = .amend record.orderId edit)
    (hread : .did t ⟨.selectOrder record.orderId, .ok (some record)⟩ ∈ log)
    (hcurrent : env.Current calls t (.upsertOrder (edit.apply record)) w log) :
    let o := RowOp.upsertOrder (edit.apply record)
    let answered := env.handle o w
    Serves calls before answered.2
      (Function.update φ t (rowMonitor.next o (φ t) answered.1)) log t ⟨o, answered.1⟩ := by
  refine h.upserts (Stage.open_of_eq hstage (by simp)) ?_ fun heffect => ⟨?_, ?_⟩
  · simp only [RowEnv.handle, RowReply.isOk]
    cases (env.upsert w (w.rows.upsertOrder (edit.apply record))).1 <;> rfl
  · have hasRead := (hcurrent heffect).1 _ hread
    rw [hcall] at hasRead ⊢
    exact hasRead.amends
  · intro orderId hsets
    refine (hcurrent heffect).2 ?_
    rw [hcall] at hsets ⊢
    rw [OrderEdit.orderId_apply]
    cases edit with
    | updateStatus status => rfl
    | appendEvent event => cases hsets
    | addAdjustment adjustment => cases hsets

end Statement

/-- An order that is read has the id it was asked for. -/
theorem RowEnv.handle_relies (env : RowEnv) (o : RowOp) (q : Rewriting) (w : RowDb) :
    rowMonitor.rely o q (env.handle o w).1 := by
  cases o with
  | selectEvents cartId => trivial
  | upsertEvents cartId events => trivial
  | upsertOrder record => trivial
  | selectOrder orderId =>
      simp only [rowMonitor, RowEnv.handle, RowEnv.select, InMemoryOrderStore.get]
      cases env.fault w.clock with
      | some fault => trivial
      | none =>
          cases hfound : w.rows.orders.lookup orderId with
          | none => trivial
          | some record => exact w.rows.filed orderId record hfound

/-- **One statement.** -/
theorem Serving.step {env : RowEnv} {o : RowOp} (h : Serving calls before landed w φ log)
    (ho : rowMonitor.allow o (φ t)) (hcurrent : env.Current calls t o w log) :
    Serves calls before (env.handle o w).2
      (Function.update φ t (rowMonitor.next o (φ t) (env.handle o w).1)) log t
      ⟨o, (env.handle o w).1⟩ := by
  have hruns := h.runs t
  have hstands := h.stands t
  cases hstage : (φ t).stage with
  | done reply => cases o <;> simp [rowMonitor, hstage] at ho
  | fresh =>
      cases o with
      | upsertEvents cartId events => simp [rowMonitor, hstage] at ho
      | upsertOrder record => simp [rowMonitor, hstage] at ho
      | selectEvents cartId =>
          simp only [rowMonitor, hstage] at ho
          obtain ⟨event, hcall⟩ := ho
          exact h.selectEvents hstage (hruns.symm.trans hcall)
      | selectOrder orderId =>
          simp only [rowMonitor, hstage] at ho
          obtain ⟨edit, hcall⟩ := ho
          have hcall := hruns.symm.trans hcall
          cases hfound : w.rows.orders.lookup orderId with
          | none => exact h.selectOrder_absent hstage hcall hfound
          | some record =>
              obtain rfl := w.rows.filed orderId record hfound
              have hfault : env.fault w.clock = none := hcurrent (by simp [hfound])
              exact h.selectOrder_found hstage hcall hfound hfault
  | readEvents events =>
      rw [hstage] at hstands
      obtain ⟨cartId, event, row, hcall, hread, rfl⟩ := hstands
      cases o with
      | selectEvents cartId => simp [rowMonitor, hstage] at ho
      | selectOrder orderId => simp [rowMonitor, hstage] at ho
      | upsertOrder record => simp [rowMonitor, hstage] at ho
      | upsertEvents cartId' events =>
          simp only [rowMonitor, hstage] at ho
          obtain ⟨event', hcall', rfl⟩ := ho
          rw [hruns, hcall] at hcall'
          obtain ⟨rfl, rfl⟩ := RowCall.appendCartEvent.inj hcall'
          exact h.upsertEvents hstage hcall fun heffect => hcurrent heffect _ hread rfl
  | readOrder record =>
      rw [hstage] at hstands
      obtain ⟨edit, hcall, hread⟩ := hstands
      cases o with
      | selectEvents cartId => simp [rowMonitor, hstage] at ho
      | selectOrder orderId => simp [rowMonitor, hstage] at ho
      | upsertEvents cartId events => simp [rowMonitor, hstage] at ho
      | upsertOrder record' =>
          simp only [rowMonitor, hstage] at ho
          obtain ⟨edit', hcall', rfl⟩ := ho
          rw [hruns, hcall] at hcall'
          obtain ⟨-, rfl⟩ := RowCall.amend.inj hcall'
          exact h.upsertOrder hstage hcall hread hcurrent

/-- **Every schedule** whose statements find what they need. -/
theorem RowEnv.run_serves (env : RowEnv) (before : Rows) (calls : List RowCall) (ts : List Nat)
    (hcurrent : Pool.StepsMeetAt (env.Current calls) env.handle.shared ts
      (Pool.start ⟨before, 0⟩ (calls.map (·.prog)))) :
    ∃ φ landed,
      Serving calls before landed (env.run before calls ts).world φ (env.run before calls ts).log ∧
        Pool.AllFollow rowMonitor (fun _ reply q => q.stage = .done reply) φ
          (env.run before calls ts) := by
  have hstart : Serving calls before [] ⟨before, 0⟩ (fun t => ⟨rowCall calls t, .fresh⟩) [] := by
    refine ⟨fun _ => rfl, rfl, List.nodup_nil, ?_, fun _ => trivial, ?_, List.nil_sublist _⟩
    · exact fun t => List.not_mem_nil
    · exact fun t reply hm => absurd hm List.not_mem_nil
  have hfollow : Pool.AllFollow rowMonitor (fun _ reply q => q.stage = .done reply)
      (fun t => ⟨rowCall calls t, .fresh⟩)
      (Pool.start (⟨before, 0⟩ : RowDb) (calls.map (·.prog))) := by
    intro t p hp
    rw [rowCall_prog hp]
    exact (rowCall calls t).prog_follows
  obtain ⟨φ, ⟨landed, hserving⟩, hf⟩ := Pool.run_invariant_at
    (I := fun w φ log => ∃ landed, Serving calls before landed w φ log)
    (fun w φ log t o x w' hi ho hc hx => by
      obtain ⟨landed, hserving⟩ := hi
      obtain ⟨rfl, rfl⟩ := Handler.shared_eq_some.mp hx
      obtain ⟨hdid, hret⟩ := hserving.step ho hc
      exact ⟨env.handle_relies o _ w, hdid, fun reply hreply =>
        hret reply (by rwa [Function.update_self])⟩)
    ts ⟨[], hstart⟩ hfollow hcurrent
  exact ⟨φ, landed, hserving, hf⟩

end Serving

/-! ## What the rows show -/

/-- The update can be seen in its row.  An order that is not there is not updated. -/
def RowCall.ShownIn (before after : Rows) : RowCall → Prop
  | .appendCartEvent cartId event =>
      ∃ events ∈ after.events.cartEvents.lookup cartId, event ∈ events
  | .amend orderId edit =>
      (before.orders.lookup orderId).isSome →
        ∃ record ∈ after.orders.lookup orderId, edit.ShownIn record

/-- No update of a call that has returned is lost. -/
structure NoneLost (calls : List RowCall) (before : Rows) (P : RowPool) : Prop where
  /-- The rows are those some calls make in memory, all that returned `Ok` among them and in
  this order. -/
  atomic : ∃ landed : List Nat, landed.Nodup ∧ (okThreads P.log).Sublist landed ∧
    P.world.rows = serial calls before landed
  shown : ∀ t ∈ okThreads P.log, (rowCall calls t).ShownIn before P.world.rows
  /-- The status is the last one whose call returned `Ok`. -/
  lastStatus : ∀ orderId status earlier t later, okThreads P.log = earlier ++ t :: later →
    rowCall calls t = .amend orderId (.updateStatus status) →
    (∀ u ∈ later, ¬ (rowCall calls u).SetsStatus orderId) →
    ∀ record ∈ P.world.rows.orders.lookup orderId, record.status = status

section Shown

variable {calls : List RowCall} {before rows : Rows} {orderId orderId' : String}
  {cartId cartId' : CartId}

theorem RowCall.lookup_orders_amend (edit : OrderEdit) :
    ((amend orderId edit).atomically rows).orders.lookup orderId' =
      if orderId' = orderId then (rows.orders.lookup orderId).map edit.apply
      else rows.orders.lookup orderId' := by
  show (edit.atomically orderId rows.orders).2.lookup orderId' = _
  rw [OrderEdit.atomically_eq, InMemoryOrderStore.amend]
  split
  · next record hfound => rw [Table.lookup_insert_ite, hfound, Option.map_some]
  · next hfound =>
      split
      · next hid => rw [hid, hfound, Option.map_none]
      · rfl

theorem RowCall.lookup_cartEvents_append (event : CartStreamEvent) :
    ((appendCartEvent cartId event).atomically rows).events.cartEvents.lookup cartId' =
      if cartId' = cartId then
        some ((rows.events.cartEvents.lookup cartId).getD [] ++ [event])
      else rows.events.cartEvents.lookup cartId' :=
  Table.lookup_insert_ite _ _ _ _

/-- No call removes an order. -/
theorem RowCall.isSome_atomically (call : RowCall) (h : (rows.orders.lookup orderId).isSome) :
    ((call.atomically rows).orders.lookup orderId).isSome := by
  cases call with
  | appendCartEvent cartId event => exact h
  | amend id edit =>
      rw [lookup_orders_amend]
      split
      · next hid => rwa [Option.isSome_map, ← hid]
      · exact h

/-- A call shows its own update. -/
theorem RowCall.shownIn_atomically {call : RowCall}
    (h : ∀ orderId, (before.orders.lookup orderId).isSome → (rows.orders.lookup orderId).isSome) :
    call.ShownIn before (call.atomically rows) := by
  cases call with
  | appendCartEvent cartId event =>
      exact ⟨_, by rw [lookup_cartEvents_append, if_pos rfl]; rfl,
        List.mem_append_right _ (List.mem_singleton_self event)⟩
  | amend id edit =>
      intro hbefore
      obtain ⟨record, hfound⟩ := Option.isSome_iff_exists.mp (h id hbefore)
      exact ⟨edit.apply record, by rw [lookup_orders_amend, if_pos rfl, hfound]; rfl,
        edit.shownIn_apply record⟩

/-- A call takes no other call's update away. -/
theorem RowCall.ShownIn.atomically {call : RowCall} (h : call.ShownIn before rows)
    (call' : RowCall) : call.ShownIn before (call'.atomically rows) := by
  cases call with
  | appendCartEvent cartId event =>
      obtain ⟨events, hfound, hmem⟩ := h
      cases call' with
      | amend id edit => exact ⟨events, hfound, hmem⟩
      | appendCartEvent cartId' event' =>
          rw [RowCall.ShownIn, lookup_cartEvents_append]
          split
          · next hid =>
              subst hid
              refine ⟨_, rfl, List.mem_append_left _ ?_⟩
              rwa [hfound]
          · exact ⟨events, hfound, hmem⟩
  | amend id edit =>
      intro hbefore
      obtain ⟨record, hfound, hshown⟩ := h hbefore
      cases call' with
      | appendCartEvent cartId' event' => exact ⟨record, hfound, hshown⟩
      | amend id' edit' =>
          rw [lookup_orders_amend]
          split
          · next hid =>
              subst hid
              exact ⟨edit'.apply record, by rw [hfound]; rfl, hshown.apply edit'⟩
          · exact ⟨record, hfound, hshown⟩

theorem isSome_serial {landed : List Nat} (h : (before.orders.lookup orderId).isSome) :
    ((serial calls before landed).orders.lookup orderId).isSome := by
  induction landed using List.reverseRecOn with
  | nil => exact h
  | append_singleton landed t ih =>
      rw [serial_append]
      exact RowCall.isSome_atomically _ ih

theorem shownIn_serial {landed : List Nat} {t : Nat} (h : t ∈ landed) :
    (rowCall calls t).ShownIn before (serial calls before landed) := by
  induction landed using List.reverseRecOn with
  | nil => exact absurd h List.not_mem_nil
  | append_singleton landed u ih =>
      rw [serial_append]
      rcases List.mem_append.mp h with hmem | hmem
      · exact (ih hmem).atomically _
      · obtain rfl := List.mem_singleton.mp hmem
        exact RowCall.shownIn_atomically fun orderId => isSome_serial

/-- Only a call that sets the status changes it. -/
theorem RowCall.status_atomically {call : RowCall} (h : ¬ call.SetsStatus orderId)
    {record : OrderRecord} (hrecord : record ∈ (call.atomically rows).orders.lookup orderId) :
    ∃ old ∈ rows.orders.lookup orderId, old.status = record.status := by
  cases call with
  | appendCartEvent cartId event => exact ⟨record, hrecord, rfl⟩
  | amend id edit =>
      rw [lookup_orders_amend] at hrecord
      split at hrecord
      · next hid =>
          subst hid
          obtain ⟨old, hold, rfl⟩ := Option.map_eq_some_iff.mp hrecord
          refine ⟨old, hold, ?_⟩
          cases edit with
          | updateStatus status => exact absurd rfl h
          | appendEvent event => rfl
          | addAdjustment adjustment => rfl
      · exact ⟨record, hrecord, rfl⟩

/-- The last call that sets the status decides it. -/
theorem status_serial {status : OrderStatus} {t : Nat} {earlier : List Nat}
    (ht : rowCall calls t = .amend orderId (.updateStatus status)) {landed : List Nat}
    (h : landed.filter (fun u => (rowCall calls u).SetsStatus orderId) = earlier ++ [t]) :
    ∀ record ∈ (serial calls before landed).orders.lookup orderId, record.status = status := by
  induction landed using List.reverseRecOn with
  | nil => simp at h
  | append_singleton landed u ih =>
      intro record hrecord
      rw [serial_append] at hrecord
      rw [List.filter_append] at h
      by_cases hu : (rowCall calls u).SetsStatus orderId
      · have hsame : u = t := by
          rw [List.filter_cons_of_pos (by simpa using hu), List.filter_nil] at h
          exact (List.append_singleton_inj.mp h).2
        rw [hsame, ht, RowCall.lookup_orders_amend, if_pos rfl] at hrecord
        obtain ⟨old, -, rfl⟩ := Option.map_eq_some_iff.mp hrecord
        rfl
      · rw [List.filter_cons_of_neg (by simpa using hu), List.filter_nil, List.append_nil] at h
        obtain ⟨old, hold, hstatus⟩ := RowCall.status_atomically hu hrecord
        exact hstatus ▸ ih h old hold

end Shown

section NoneLost

variable {calls : List RowCall} {before : Rows} {ts : List Nat} {env : RowEnv}

/-- No call has returned before its first statement. -/
theorem not_returned_at_start {t : Nat} {reply : RowReply} :
    (calls.map (·.prog))[t]? ≠ some (.ret reply) := by
  intro h
  have hprog := rowCall_prog h
  cases hcall : rowCall calls t with
  | appendCartEvent cartId event =>
      rw [hcall] at hprog
      cases hprog
  | amend orderId edit =>
      rw [hcall, RowCall.prog, OrderEdit.prog_eq] at hprog
      cases hprog

/-- A thread that is done has returned. -/
theorem returned_of_done {φ : Nat → Rewriting}
    (hf : Pool.AllFollow rowMonitor (fun _ reply q => q.stage = .done reply) φ
      (env.run before calls ts)) {t : Nat} {reply : RowReply} (ht : t < calls.length)
    (hdone : (φ t).stage = .done reply) :
    .returned t reply ∈ (env.run before calls ts).log := by
  have hlen : t < (env.run before calls ts).threads.length := by
    rw [RowEnv.run, Pool.length_threads_run]
    simpa [Pool.start] using ht
  obtain ⟨p, hp⟩ : ∃ p, (env.run before calls ts).threads[t]? = some p :=
    ⟨_, List.getElem?_eq_getElem hlen⟩
  have hfollow := hf t p hp
  cases p with
  | op o k =>
      obtain ⟨hallow, -⟩ := hfollow
      cases o <;> simp [rowMonitor, hdone] at hallow
  | ret reply' =>
      have hreply : (φ t).stage = .done reply' := hfollow
      rw [hdone] at hreply
      obtain rfl := Stage.done.inj hreply
      exact Pool.returned_of_ret (fun _ _ h => absurd h not_returned_at_start) t reply hp

theorem lt_of_setsStatus {t : Nat} {orderId : String}
    (h : (rowCall calls t).SetsStatus orderId) : t < calls.length := by
  by_contra hlen
  rw [rowCall, List.getD_eq_getElem?_getD, List.getElem?_eq_none (Nat.le_of_not_lt hlen)] at h
  exact h

/-- A call that has landed and sets a status has returned `Ok`. -/
theorem Serving.status_ok {φ : Nat → Rewriting} {landed : List Nat} {w : RowDb}
    (h : Serving calls before landed w φ (env.run before calls ts).log)
    (hf : Pool.AllFollow rowMonitor (fun _ reply q => q.stage = .done reply) φ
      (env.run before calls ts)) {t : Nat} {orderId : String} (ht : t ∈ landed)
    (hsets : (rowCall calls t).SetsStatus orderId) :
    t ∈ okThreads (env.run before calls ts).log := by
  have hsettled := h.settled t
  cases hstage : (φ t).stage with
  | done reply =>
      rw [hstage] at hsettled
      exact mem_okThreads.mpr
        ⟨reply, returned_of_done hf (lt_of_setsStatus hsets) hstage, hsettled.2 ht orderId hsets⟩
  | fresh => exact absurd ht (h.notMem (Stage.open_of_eq hstage (by simp)))
  | readEvents events => exact absurd ht (h.notMem (Stage.open_of_eq hstage (by simp)))
  | readOrder record => exact absurd ht (h.notMem (Stage.open_of_eq hstage (by simp)))

end NoneLost

/-- **No update is lost** in a run whose upserts find their rows as their calls have read them. -/
theorem rows_lose_no_update (env : RowEnv) (before : Rows) (calls : List RowCall) (ts : List Nat)
    (hcurrent : Pool.StepsMeetAt (env.Current calls) env.handle.shared ts
      (Pool.start ⟨before, 0⟩ (calls.map (·.prog)))) :
    NoneLost calls before (env.run before calls ts) := by
  obtain ⟨φ, landed, h, hf⟩ := env.run_serves before calls ts hcurrent
  refine ⟨⟨landed, h.nodup, h.ordered, h.rows⟩, ?_, ?_⟩
  · intro t ht
    rw [h.rows]
    exact shownIn_serial (h.ordered.subset ht)
  · intro orderId status earlier t later hok ht hlater
    -- among the calls that set the status none has landed unreturned
    have hsame : (okThreads (env.run before calls ts).log).filter
          (fun u => (rowCall calls u).SetsStatus orderId) =
        landed.filter (fun u => (rowCall calls u).SetsStatus orderId) := by
      refine (h.ordered.filter _).eq_of_length_le ((h.nodup.filter _).subperm ?_).length_le
      intro u hu
      obtain ⟨hmem, hsets⟩ := List.mem_filter.mp hu
      exact List.mem_filter.mpr ⟨h.status_ok hf hmem (by simpa using hsets), hsets⟩
    have hlast : landed.filter (fun u => (rowCall calls u).SetsStatus orderId) =
        earlier.filter (fun u => (rowCall calls u).SetsStatus orderId) ++ [t] := by
      have hrest : later.filter (fun u => (rowCall calls u).SetsStatus orderId) = [] :=
        List.filter_eq_nil_iff.mpr (by simpa using hlater)
      rw [← hsame, hok, List.filter_append,
        List.filter_cons_of_pos (by simp [ht, RowCall.SetsStatus]), hrest]
    rw [h.rows]
    exact status_serial ht hlast

section Decidable

variable {calls : List RowCall} {env : RowEnv}

instance {call : RowCall} {rows : Rows} {t : Nat} : DecidablePred (AsRead call rows t) :=
  fun e => by
    unfold AsRead
    split <;> infer_instance

instance {t : Nat} {o : RowOp} {w : RowDb} {log : List RowEntry} :
    Decidable (env.Current calls t o w log) := by
  unfold RowEnv.Current
  split <;> infer_instance

end Decidable

namespace Sample

/-- An order without events, and a cart without a row. -/
def filedRows : Rows :=
  let none : Rows := ⟨⟨∅, ∅, ∅⟩, ∅, fun _ _ h => by cases h⟩
  none.upsertOrder
    { orderId := "ord", tenantId := "t", transactionId := "txn", checkoutId := ⟨⟨0⟩⟩,
      status := .created, currency := "USD", permalinkUrl := "", lineItems := [],
      totals := ⟨0, 0, 0, 0, 0⟩, events := [], adjustments := [], createdAt := 0 }

/-- Two events of a cart, then an event and a status of the order. -/
def rowCalls : List RowCall :=
  [.appendCartEvent ⟨⟨0⟩⟩ .repriced, .appendCartEvent ⟨⟨0⟩⟩ .checkoutReady,
    .amend "ord" (.appendEvent ⟨"e", "shipped", "", 0⟩), .amend "ord" (.updateStatus .fulfilled)]

def faultless : RowEnv := ⟨fun _ => none⟩

end Sample

/-- The calls on the cart one after the other, and those on the order between them. -/
theorem rows_lose_no_update_sample :
    NoneLost Sample.rowCalls Sample.filedRows
      (Sample.faultless.run Sample.filedRows Sample.rowCalls [0, 2, 0, 1, 2, 3, 1, 3]) :=
  rows_lose_no_update Sample.faultless Sample.filedRows Sample.rowCalls [0, 2, 0, 1, 2, 3, 1, 3]
    (by decide +kernel)

/-- Where both calls on a row select before either upserts, all four return `Ok`, and the first
event of the cart and the event of the order are gone. -/
theorem stale_upsert_loses_event :
    let run := Sample.faultless.run Sample.filedRows Sample.rowCalls [0, 1, 0, 1, 2, 3, 2, 3]
    okThreads run.log = [0, 1, 2, 3] ∧
      run.world.rows.events.cartEvents.lookup ⟨⟨0⟩⟩ = some [.checkoutReady] ∧
      (run.world.rows.orders.lookup "ord").map (·.events) = some [] ∧
      ¬ NoneLost Sample.rowCalls Sample.filedRows run := by
  intro run
  have hok : okThreads run.log = [0, 1, 2, 3] := by decide +kernel
  have hcart : run.world.rows.events.cartEvents.lookup ⟨⟨0⟩⟩ = some [.checkoutReady] := by
    decide +kernel
  refine ⟨hok, hcart, by decide +kernel, fun h => ?_⟩
  obtain ⟨events, hevents, hmem⟩ := h.shown 0 (by rw [hok]; exact List.mem_cons_self)
  obtain rfl := Option.some.inj (hcart.symm.trans hevents)
  cases List.mem_singleton.mp hmem

end Orchestrator
