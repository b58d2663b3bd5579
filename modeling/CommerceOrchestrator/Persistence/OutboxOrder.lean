/-
# `CommerceOrchestrator.Persistence.OutboxOrder` — who is served first

The queue in memory serves whoever stands at its front, and a released message goes to its
end.  The table serves the row with the lowest `seq`, and a released message keeps its row.
The two hand out the same messages until a claim finds a message waiting behind one that was
enqueued after it: `sameClaims_iff`.
-/
import CommerceOrchestrator.Effect.Prefixes
import CommerceOrchestrator.Persistence.PostgresOutbox
import CommerceOrchestrator.Runtime.Conservation

namespace Orchestrator

open Effect Prog

/-! ## The two backends side by side -/

/-- The message an operation enqueues for the first time. -/
def OutboxOp.enqueues : OutboxOp → Option OutboxMessage
  | .enqueue message => some message
  | _ => none

/-- The ids of what was enqueued, in that order. -/
def enqueuedIds (ops : List OutboxOp) : List String :=
  (ops.filterMap OutboxOp.enqueues).map (·.id)

/-- The ids in the worker's hands once an operation is answered. -/
def OutboxOp.hands : (o : OutboxOp) → o.Ans → List String → List String
  | .claim, .ok (some message), held => held ++ [message.id]
  | .ack messageId, _, held => held.filter (· ≠ messageId)
  | .release message, _, held => held.filter (· ≠ message.id)
  | _, _, held => held

namespace OutboxTable

/-- The messages nobody has leased, in the order of `seq`. -/
def waiting (rows : OutboxTable) : List OutboxMessage :=
  messages (rows.filter (·.lockedUntil.isNone))

section Waiting

variable {rows pre post : OutboxTable} {row : OutboxRow} {m : OutboxMessage} {id : String}

theorem waiting_append : waiting (pre ++ post) = waiting pre ++ waiting post := by
  simp [waiting, messages]

theorem waiting_cons_none (h : row.lockedUntil = none) :
    waiting (row :: rows) = row.message :: waiting rows := by
  simp [waiting, messages, h]

theorem waiting_cons_some {until_ : Nat} (h : row.lockedUntil = some until_) :
    waiting (row :: rows) = waiting rows := by
  simp [waiting, messages, h]

theorem waiting_eq_nil (h : ∀ row ∈ rows, row.lockedUntil.isNone = false) : waiting rows = [] := by
  rw [waiting, List.filter_eq_nil_iff.mpr fun row hrow => by simp [h row hrow]]
  rfl

theorem waiting_sublist : (waiting rows).Sublist rows.messages :=
  List.filter_sublist.map _

/-- A claim finds no row that passes, or leases the first one. -/
theorem lease_cases (until_ : Nat) (passes : OutboxRow → Bool) (rows : OutboxTable) :
    (rows.lease until_ passes = (none, rows) ∧ ∀ row ∈ rows, passes row = false) ∨
      ∃ pre row post, rows = pre ++ row :: post ∧ (∀ r ∈ pre, passes r = false) ∧
        passes row = true ∧ rows.lease until_ passes =
          (some row.message, pre ++ { row with lockedUntil := some until_ } :: post) := by
  induction rows with
  | nil => exact Or.inl ⟨rfl, fun row hrow => absurd hrow List.not_mem_nil⟩
  | cons row rows ih =>
      unfold lease
      cases hrow : passes row with
      | true => exact Or.inr ⟨[], row, rows, rfl, by simp, hrow, by simp⟩
      | false =>
          rcases ih with ⟨heq, hnone⟩ | ⟨pre, r, post, rfl, hpre, hr, heq⟩
          · refine Or.inl ⟨by simp [heq], ?_⟩
            exact List.forall_mem_cons.mpr ⟨hrow, hnone⟩
          · refine Or.inr ⟨row :: pre, r, post, rfl, ?_, hr, by simp [heq]⟩
            exact List.forall_mem_cons.mpr ⟨hrow, hpre⟩

theorem update_of_ne (h : ∀ row ∈ rows, row.message.id ≠ m.id) : update m rows = rows :=
  (List.map_congr_left fun row hrow => if_neg (h row hrow)).trans (List.map_id rows)

/-- The other rows have other ids. -/
theorem ids_ne (h : ((pre ++ row :: post).map (·.message.id)).Nodup) :
    ∀ r ∈ pre ++ post, r.message.id ≠ row.message.id := by
  intro r hr heq
  rw [List.map_append, List.map_cons, List.nodup_middle, ← List.map_append] at h
  exact (List.nodup_cons.mp h).1 (heq ▸ List.mem_map_of_mem hr)

/-- An update changes the one row with its id. -/
theorem update_split (h : ((pre ++ row :: post).map (·.message.id)).Nodup)
    (hrow : row.message.id = m.id) : update m (pre ++ row :: post) = pre ++ ⟨m, none⟩ :: post := by
  have hothers := ids_ne h
  rw [hrow] at hothers
  have hpre := update_of_ne fun r hr => hothers r (List.mem_append_left _ hr)
  have hpost := update_of_ne fun r hr => hothers r (List.mem_append_right _ hr)
  unfold update at hpre hpost ⊢
  rw [List.map_append, List.map_cons, hpre, hpost, if_pos hrow]

end Waiting

end OutboxTable

namespace OutboxEnv

variable (env : OutboxEnv)

/-- One operation on the stores in memory. -/
def work (w : OutboxWorld × List String) (o : OutboxOp) : OutboxWorld × List String :=
  ((memoryHandle env.deliver o w.1).2, o.hands (memoryHandle env.deliver o w.1).1 w.2)

/-- The stores in memory after `ops`, and what the worker holds. -/
def worked (ops : List OutboxOp) : OutboxWorld × List String :=
  ops.foldl env.work (OutboxWorld.empty, [])

def queue (ops : List OutboxOp) : Outbox := (env.worked ops).1.outbox

def held (ops : List OutboxOp) : List String := (env.worked ops).2

/-- The database after `ops`. -/
def stored (ops : List OutboxOp) : OutboxDb :=
  ops.foldl (fun w o => (o.onPostgres.run env.handle w).2) OutboxDb.empty

/-- What a claim in memory returns after `ops`. -/
def claimInMemory (ops : List OutboxOp) : Except StoreError (Option OutboxMessage) :=
  (memoryHandle env.deliver .claim (env.worked ops).1).1

/-- What a claim on the database returns after `ops`. -/
def claimOnPostgres (ops : List OutboxOp) : Except StoreError (Option OutboxMessage) :=
  (OutboxOp.claim.onPostgres.run env.handle (env.stored ops)).1

/-- Every claim returns the same from both. -/
def SameClaims (ops : List OutboxOp) : Prop :=
  EachAfter (fun before o => o = .claim → env.claimOnPostgres before = env.claimInMemory before) ops

/-- The worker enqueues under ids of their own, and settles what it holds. -/
def WorksOff (before : List OutboxOp) : OutboxOp → Prop
  | .enqueue message => message.id ∉ enqueuedIds before
  | .claim => True
  | .ack messageId => messageId ∈ env.held before
  | .release message => message.id ∈ env.held before
  | _ => False

/-- No row is leased beyond its time. -/
def LeasesHold (before : List OutboxOp) : Prop :=
  ∀ row ∈ (env.stored before).outbox, ∀ until_ ∈ row.lockedUntil,
    env.now (env.stored before).clock ≤ until_

/-- No claim finds a lease expired. -/
def LeasesInTime (ops : List OutboxOp) : Prop :=
  EachAfter (fun before o => o = .claim → env.LeasesHold before) ops

instance {before : List OutboxOp} {o : OutboxOp} : Decidable (env.WorksOff before o) := by
  unfold WorksOff
  split <;> infer_instance

instance {ops : List OutboxOp} : Decidable (env.LeasesInTime ops) :=
  inferInstanceAs (Decidable (EachAfter (fun before o => o = .claim →
    ∀ row ∈ (env.stored before).outbox, ∀ until_ ∈ row.lockedUntil,
      env.now (env.stored before).clock ≤ until_) ops))

/-- `a` was enqueued before `b`. -/
def EnqueuedBefore (ops : List OutboxOp) (a b : OutboxMessage) : Prop :=
  (enqueuedIds ops).idxOf a.id < (enqueuedIds ops).idxOf b.id

/-- Everyone behind the front of the queue was enqueued after it. -/
def FrontFirst (before : List OutboxOp) : Prop :=
  ∀ m ∈ (env.queue before).head?, ∀ m' ∈ (env.queue before).tail, EnqueuedBefore before m m'

/-- Every claim finds the front of the queue enqueued before everyone behind it. -/
def ClaimsInOrder (ops : List OutboxOp) : Prop :=
  EachAfter (fun before o => o = .claim → env.FrontFirst before) ops

/-- Every release finds nobody waiting who was enqueued after the released message. -/
def ReleasesInOrder (ops : List OutboxOp) : Prop :=
  EachAfter (fun before o => ∀ m, o = .release m → ∀ m' ∈ env.queue before,
    EnqueuedBefore before m' m) ops

variable {env} {ops : List OutboxOp} {m m' : OutboxMessage} {id : String}

/-! ## One more operation -/

theorem worked_concat {o : OutboxOp} : env.worked (ops ++ [o]) = env.work (env.worked ops) o :=
  List.foldl_append

@[simp] theorem queue_enqueue : env.queue (ops ++ [.enqueue m]) = env.queue ops ++ [m] := by
  rw [queue, worked_concat]
  rfl

@[simp] theorem queue_claim : env.queue (ops ++ [.claim]) = (env.queue ops).tail := by
  rw [queue, worked_concat]
  rfl

@[simp] theorem queue_ack : env.queue (ops ++ [.ack id]) = env.queue ops := by
  rw [queue, worked_concat]
  rfl

@[simp] theorem queue_release : env.queue (ops ++ [.release m]) = env.queue ops ++ [m] := by
  rw [queue, worked_concat]
  rfl

@[simp] theorem held_enqueue : env.held (ops ++ [.enqueue m]) = env.held ops := by
  rw [held, worked_concat]
  rfl

@[simp] theorem held_claim :
    env.held (ops ++ [.claim]) = env.held ops ++ ((env.queue ops).head?.map (·.id)).toList := by
  rw [held, worked_concat]
  show OutboxOp.hands .claim (.ok (env.queue ops).head?) (env.held ops) = _
  cases (env.queue ops).head? with
  | none => exact (List.append_nil _).symm
  | some m => rfl

@[simp] theorem held_ack : env.held (ops ++ [.ack id]) = (env.held ops).filter (· ≠ id) := by
  rw [held, worked_concat]
  rfl

@[simp] theorem held_release :
    env.held (ops ++ [.release m]) = (env.held ops).filter (· ≠ m.id) := by
  rw [held, worked_concat]
  rfl

@[simp] theorem enqueuedIds_enqueue :
    enqueuedIds (ops ++ [.enqueue m]) = enqueuedIds ops ++ [m.id] := by
  simp [enqueuedIds, OutboxOp.enqueues]

theorem enqueuedIds_concat {o : OutboxOp} (h : o.enqueues = none) :
    enqueuedIds (ops ++ [o]) = enqueuedIds ops := by
  simp [enqueuedIds, h]

/-! ## The queue and the hands -/

/-- Whatever waits or is held was enqueued, and is there once. -/
structure Tracked (env : OutboxEnv) (ops : List OutboxOp) : Prop where
  fresh : (enqueuedIds ops).Nodup
  nodup : ((env.queue ops).map (·.id) ++ env.held ops).Nodup
  known : ∀ id ∈ (env.queue ops).map (·.id) ++ env.held ops, id ∈ enqueuedIds ops

theorem Tracked.notMem_held (h : Tracked env ops) (hm : m ∈ env.queue ops) :
    m.id ∉ env.held ops :=
  fun hheld => List.disjoint_of_nodup_append h.nodup (List.mem_map_of_mem hm) hheld

theorem Tracked.mem_ids (h : Tracked env ops) (hm : m ∈ env.queue ops) : m.id ∈ enqueuedIds ops :=
  h.known m.id (List.mem_append_left _ (List.mem_map_of_mem hm))

/-- A release moves an id from the hands to the end of the queue. -/
theorem released_perm (ids : List String) {held : List String} (hid : id ∈ held)
    (hheld : held.Nodup) : ((ids ++ [id]) ++ held.filter (· ≠ id)).Perm (ids ++ held) := by
  have hfilter : held.filter (· ≠ id) = held.erase id := by
    rw [hheld.erase_eq_filter]
    exact List.filter_congr fun x _ => Bool.eq_iff_iff.mpr (by simp)
  rw [hfilter, List.append_assoc]
  exact (List.perm_cons_erase hid).symm.append_left ids

theorem Tracked.of_worksOff (h : EachAfter env.WorksOff ops) : Tracked env ops := by
  induction ops using List.reverseRecOn with
  | nil => exact ⟨List.nodup_nil, List.nodup_nil, fun id hid => absurd hid List.not_mem_nil⟩
  | append_singleton ops o ih =>
      obtain ⟨h, ho⟩ := EachAfter.concat_iff.mp h
      have ht := ih h
      cases o with
      | enqueue m =>
          have hperm : ((env.queue ops ++ [m]).map (·.id) ++ env.held ops).Perm
              (m.id :: ((env.queue ops).map (·.id) ++ env.held ops)) := by
            simp
          refine ⟨?_, ?_, ?_⟩
          · rw [enqueuedIds_enqueue]
            exact (List.nodup_append_comm.mp (List.nodup_cons.mpr ⟨ho, ht.fresh⟩))
          · rw [queue_enqueue, held_enqueue, hperm.nodup_iff]
            exact List.nodup_cons.mpr ⟨fun hid => ho (ht.known _ hid), ht.nodup⟩
          · intro id hid
            rw [queue_enqueue, held_enqueue, hperm.mem_iff] at hid
            rw [enqueuedIds_enqueue]
            rcases List.mem_cons.mp hid with rfl | hid
            · exact List.mem_append_right _ (List.mem_singleton.mpr rfl)
            · exact List.mem_append_left _ (ht.known id hid)
      | claim =>
          have hperm : ((env.queue ops).tail.map (·.id) ++
              (env.held ops ++ ((env.queue ops).head?.map (·.id)).toList)).Perm
              ((env.queue ops).map (·.id) ++ env.held ops) := by
            cases env.queue ops with
            | nil => simp
            | cons m rest =>
                simp only [List.tail_cons, List.head?_cons, Option.map_some, Option.toList_some,
                  List.map_cons, List.cons_append]
                rw [← List.append_assoc]
                exact List.perm_append_singleton _ _
          refine ⟨?_, ?_, ?_⟩
          · rw [enqueuedIds_concat rfl]
            exact ht.fresh
          · rw [queue_claim, held_claim, hperm.nodup_iff]
            exact ht.nodup
          · intro id hid
            rw [queue_claim, held_claim, hperm.mem_iff] at hid
            rw [enqueuedIds_concat rfl]
            exact ht.known id hid
      | ack id =>
          have hsub : ((env.queue ops).map (·.id) ++ (env.held ops).filter (· ≠ id)).Sublist
              ((env.queue ops).map (·.id) ++ env.held ops) :=
            List.filter_sublist.append_left _
          refine ⟨?_, ?_, ?_⟩
          · rw [enqueuedIds_concat rfl]
            exact ht.fresh
          · rw [queue_ack, held_ack]
            exact ht.nodup.sublist hsub
          · intro id' hid
            rw [queue_ack, held_ack] at hid
            rw [enqueuedIds_concat rfl]
            exact ht.known id' (hsub.subset hid)
      | release m =>
          have hperm := released_perm ((env.queue ops).map (·.id)) ho
            (List.Nodup.of_append_right ht.nodup)
          refine ⟨?_, ?_, ?_⟩
          · rw [enqueuedIds_concat rfl]
            exact ht.fresh
          · rw [queue_release, held_release, List.map_append]
            exact hperm.nodup_iff.mpr ht.nodup
          · intro id hid
            rw [queue_release, held_release, List.map_append] at hid
            rw [enqueuedIds_concat rfl]
            exact ht.known id (hperm.mem_iff.mp hid)
      | deliver m | putDeadLetter m | takeDeadLetter id => exact ho.elim

/-! ## The table -/

variable (env) in
/-- The rows after `ops`. -/
def rows (ops : List OutboxOp) : OutboxTable := (env.stored ops).outbox

theorem stored_concat {o : OutboxOp} :
    env.stored (ops ++ [o]) = (o.onPostgres.run env.handle (env.stored ops)).2 :=
  List.foldl_append

theorem rows_enqueue : env.rows (ops ++ [.enqueue m]) = (env.rows ops).upsert m := by
  rw [rows, stored_concat]
  rfl

theorem rows_ack : env.rows (ops ++ [.ack id]) = (env.rows ops).delete id := by
  rw [rows, stored_concat]
  rfl

/-- A release that finds its row. -/
theorem rows_release (h : (env.rows ops).affected m.id ≠ 0) :
    env.rows (ops ++ [.release m]) = (env.rows ops).update m := by
  rw [rows, stored_concat]
  show (Prog.run env.handle (if (env.rows ops).affected m.id = 0 then _ else _) _).2.outbox = _
  rw [if_neg h]
  rfl

/-- Which rows a claim can take. -/
def Claimable (env : OutboxEnv) (ops : List OutboxOp) (row : OutboxRow) : Bool :=
  row.claimable (env.now (env.stored ops).clock) && !env.locked (env.stored ops).clock row

/-- The statement of a claim. -/
def leased (env : OutboxEnv) (ops : List OutboxOp) : Option OutboxMessage × OutboxTable :=
  (env.rows ops).lease (env.now (env.stored ops).clock + outboxLease) (env.Claimable ops)

theorem rows_claim : env.rows (ops ++ [.claim]) = (env.leased ops).2 := by
  rw [rows, stored_concat]
  rfl

theorem claimOnPostgres_eq : env.claimOnPostgres ops = .ok (env.leased ops).1 := rfl

theorem claimInMemory_eq : env.claimInMemory ops = .ok (env.queue ops).head? := rfl

/-- Without expired leases and other workers, the rows nobody has leased. -/
theorem claimable_eq (hlocked : ∀ k row, env.locked k row = false) (hleases : env.LeasesHold ops)
    {row : OutboxRow} (hrow : row ∈ env.rows ops) :
    env.Claimable ops row = row.lockedUntil.isNone := by
  have hrow' := hleases row hrow
  simp only [Claimable, hlocked, OutboxRow.claimable]
  cases hu : row.lockedUntil with
  | none => rfl
  | some until_ =>
      have hle := hrow' until_ hu
      simp [Nat.not_lt.mpr hle]

/-! ## The table mirrors the queue -/

/-- The rows nobody has leased are the queue in another order, and the leased ones are held. -/
structure Mirrors (env : OutboxEnv) (ops : List OutboxOp) : Prop where
  waiting : (env.rows ops).waiting.Perm (env.queue ops)
  leased : ∀ row ∈ env.rows ops, row.lockedUntil.isNone = false ↔ row.message.id ∈ env.held ops
  backed : ∀ id ∈ env.held ops, ∃ row ∈ env.rows ops, row.message.id = id
  order : ((env.rows ops).map (·.message.id)).Sublist (enqueuedIds ops)

namespace Mirrors

theorem nil : Mirrors env [] :=
  ⟨List.Perm.refl _, fun _ hrow => absurd hrow List.not_mem_nil,
    fun _ hid => absurd hid List.not_mem_nil, List.Sublist.refl _⟩

theorem nodup (h : Mirrors env ops) (ht : Tracked env ops) :
    ((env.rows ops).map (·.message.id)).Nodup :=
  ht.fresh.sublist h.order

theorem enqueue (h : Mirrors env ops) (ht : Tracked env ops) (hm : m.id ∉ enqueuedIds ops) :
    Mirrors env (ops ++ [.enqueue m]) := by
  have hnone : (env.rows ops).affected m.id = 0 := by
    refine OutboxTable.affected_eq_zero.mpr fun m' hm' heq => hm ?_
    obtain ⟨row, hrow, rfl⟩ := List.mem_map.mp hm'
    exact heq ▸ h.order.subset (List.mem_map_of_mem hrow)
  have hrows : env.rows (ops ++ [.enqueue m]) = env.rows ops ++ [⟨m, none⟩] := by
    rw [rows_enqueue]
    exact if_pos hnone
  refine ⟨?_, ?_, ?_, ?_⟩
  · rw [hrows, queue_enqueue, OutboxTable.waiting_append]
    exact h.waiting.append_right _
  · rw [hrows, held_enqueue]
    intro row hrow
    rcases List.mem_append.mp hrow with hrow | hrow
    · exact h.leased row hrow
    · obtain rfl := List.mem_singleton.mp hrow
      refine ⟨fun hsome => (by cases hsome), fun hheld => absurd ?_ hm⟩
      exact ht.known m.id (List.mem_append_right _ hheld)
  · rw [hrows, held_enqueue]
    intro id hid
    obtain ⟨row, hrow, heq⟩ := h.backed id hid
    exact ⟨row, List.mem_append_left _ hrow, heq⟩
  · rw [hrows, enqueuedIds_enqueue, List.map_append]
    exact h.order.append (List.Sublist.refl _)

theorem ack (h : Mirrors env ops) (hid : id ∈ env.held ops) : Mirrors env (ops ++ [.ack id]) := by
  have hwaiting : ((env.rows ops).delete id).waiting = (env.rows ops).waiting := by
    unfold OutboxTable.waiting OutboxTable.delete
    rw [List.filter_filter]
    refine congrArg _ (List.filter_congr fun row hrow => ?_)
    cases hnone : row.lockedUntil.isNone with
    | false => rfl
    | true =>
        have hne : row.message.id ≠ id := by
          rintro rfl
          rw [(h.leased row hrow).mpr hid] at hnone
          cases hnone
        simp [hne]
  refine ⟨?_, ?_, ?_, ?_⟩
  · rw [rows_ack, queue_ack, hwaiting]
    exact h.waiting
  · rw [rows_ack, held_ack]
    intro row hrow
    obtain ⟨hrow, hne⟩ := List.mem_filter.mp hrow
    rw [h.leased row hrow, List.mem_filter]
    exact (and_iff_left hne).symm
  · rw [rows_ack, held_ack]
    intro id' hid'
    obtain ⟨hheld, hne⟩ := List.mem_filter.mp hid'
    obtain ⟨row, hrow, rfl⟩ := h.backed id' hheld
    exact ⟨row, List.mem_filter.mpr ⟨hrow, hne⟩, rfl⟩
  · rw [rows_ack, enqueuedIds_concat rfl]
    exact (List.filter_sublist.map _).trans h.order

theorem release (h : Mirrors env ops) (ht : Tracked env ops) (hm : m.id ∈ env.held ops) :
    Mirrors env (ops ++ [.release m]) := by
  obtain ⟨row, hrow, hid⟩ := h.backed m.id hm
  have haffected : (env.rows ops).affected m.id ≠ 0 := by
    rw [ne_eq, OutboxTable.affected_eq_zero]
    exact fun hnone => hnone row.message (List.mem_map_of_mem hrow) hid
  have hnodup := h.nodup ht
  have hleased := (h.leased row hrow).mpr (hid ▸ hm)
  obtain ⟨until_, huntil⟩ := Option.isNone_eq_false_iff.mp hleased |> Option.isSome_iff_exists.mp
  obtain ⟨pre, post, hsplit⟩ := List.append_of_mem hrow
  rw [hsplit] at hnodup
  have hrows : env.rows (ops ++ [.release m]) = pre ++ ⟨m, none⟩ :: post := by
    rw [rows_release haffected, hsplit]
    exact OutboxTable.update_split hnodup hid
  have hothers := OutboxTable.ids_ne hnodup
  rw [hid] at hothers
  have hold : ∀ r ∈ pre ++ post, r ∈ env.rows ops := by
    intro r hr
    rw [hsplit]
    exact (List.sublist_cons_self row post).append_left pre |>.subset hr
  refine ⟨?_, ?_, ?_, ?_⟩
  · have hwaiting := h.waiting
    rw [hsplit, OutboxTable.waiting_append, OutboxTable.waiting_cons_some huntil] at hwaiting
    rw [hrows, queue_release, OutboxTable.waiting_append, OutboxTable.waiting_cons_none rfl]
    refine List.perm_middle.trans ?_
    exact (hwaiting.cons m).trans (List.perm_append_singleton m _).symm
  · rw [hrows, held_release]
    intro r hr
    rcases List.mem_append.mp hr with hr | hr
    · have hr := List.mem_append_left post hr
      rw [h.leased r (hold r hr), List.mem_filter]
      exact (and_iff_left (by simp [hothers r hr])).symm
    · rcases List.mem_cons.mp hr with rfl | hr
      · simp
      · have hr := List.mem_append_right pre hr
        rw [h.leased r (hold r hr), List.mem_filter]
        exact (and_iff_left (by simp [hothers r hr])).symm
  · rw [hrows, held_release]
    intro id' hid'
    obtain ⟨hheld, hne⟩ := List.mem_filter.mp hid'
    obtain ⟨r, hr, rfl⟩ := h.backed id' hheld
    rw [hsplit] at hr
    refine ⟨r, ?_, rfl⟩
    rcases List.mem_append.mp hr with hr | hr
    · exact List.mem_append_left _ hr
    · rcases List.mem_cons.mp hr with rfl | hr
      · simp [hid] at hne
      · exact List.mem_append_right _ (List.mem_cons_of_mem _ hr)
  · have horder := h.order
    rw [hsplit] at horder
    rw [hrows, enqueuedIds_concat rfl]
    simpa [hid] using horder

/-- A claim that returns the same from both. -/
theorem claim (h : Mirrors env ops) (ht : Tracked env ops)
    (hpasses : ∀ row ∈ env.rows ops, env.Claimable ops row = row.lockedUntil.isNone)
    (hsame : (env.leased ops).1 = (env.queue ops).head?) : Mirrors env (ops ++ [.claim]) := by
  let until_ := env.now (env.stored ops).clock + outboxLease
  have hleased : env.leased ops = (env.rows ops).lease until_ (env.Claimable ops) := rfl
  rcases OutboxTable.lease_cases until_ (env.Claimable ops) (env.rows ops) with ⟨heq, -⟩ | ⟨pre, row, post, hsplit, hpre, hrow, heq⟩
  · rw [heq] at hleased
    rw [hleased] at hsame
    have hrows : env.rows (ops ++ [.claim]) = env.rows ops := by rw [rows_claim, hleased]
    have hqueue : env.queue ops = [] := List.head?_eq_none_iff.mp hsame.symm
    have hheld : env.held (ops ++ [.claim]) = env.held ops := by simp [hqueue]
    have hwaiting := h.waiting
    refine ⟨?_, hrows ▸ hheld ▸ h.leased, hrows ▸ hheld ▸ h.backed, ?_⟩
    · rw [hrows, queue_claim, hqueue]
      rwa [hqueue] at hwaiting
    · rw [hrows, enqueuedIds_concat rfl]
      exact h.order
  · rw [heq] at hleased
    rw [hleased] at hsame
    have hnodup := h.nodup ht
    rw [hsplit] at hnodup
    have hothers := OutboxTable.ids_ne hnodup
    have hrows : env.rows (ops ++ [.claim]) = pre ++ ⟨row.message, some until_⟩ :: post := by
      rw [rows_claim, hleased]
    have hqueue : env.queue ops = row.message :: (env.queue ops).tail :=
      (List.cons_head?_tail hsame.symm).symm
    have hheld : env.held (ops ++ [.claim]) = env.held ops ++ [row.message.id] := by
      simp [← hsame]
    have hmem : row ∈ env.rows ops := by
      rw [hsplit]
      exact List.mem_append_right _ List.mem_cons_self
    have hnone : row.lockedUntil = none :=
      Option.isNone_iff_eq_none.mp ((hpasses row hmem).symm.trans hrow)
    have hold : ∀ r ∈ pre ++ post, r ∈ env.rows ops := by
      intro r hr
      rw [hsplit]
      exact (List.sublist_cons_self row post).append_left pre |>.subset hr
    have hheld' : ∀ r ∈ pre ++ post, r.lockedUntil.isNone = false ↔
        r.message.id ∈ env.held ops ++ [row.message.id] := by
      intro r hr
      rw [h.leased r (hold r hr), List.mem_append, List.mem_singleton]
      exact (or_iff_left (hothers r hr)).symm
    refine ⟨?_, ?_, ?_, ?_⟩
    · have hwaiting := h.waiting
      have hfront : OutboxTable.waiting pre = [] := by
        refine OutboxTable.waiting_eq_nil fun r hr => ?_
        rw [← hpasses r (hold r (List.mem_append_left _ hr))]
        exact hpre r hr
      rw [hsplit, OutboxTable.waiting_append, OutboxTable.waiting_cons_none hnone, hfront,
        hqueue] at hwaiting
      rw [hrows, queue_claim, OutboxTable.waiting_append, OutboxTable.waiting_cons_some rfl, hfront]
      exact hwaiting.cons_inv
    · rw [hrows, hheld]
      intro r hr
      rcases List.mem_append.mp hr with hr | hr
      · exact hheld' r (List.mem_append_left _ hr)
      · rcases List.mem_cons.mp hr with rfl | hr
        · simp
        · exact hheld' r (List.mem_append_right _ hr)
    · rw [hrows, hheld]
      intro id hid
      have hids : (pre ++ ⟨row.message, some until_⟩ :: post).map (·.message.id) =
          (env.rows ops).map (·.message.id) := by
        rw [hsplit]
        simp
      have hid : id ∈ (env.rows ops).map (·.message.id) := by
        rcases List.mem_append.mp hid with hid | hid
        · exact List.mem_map.mpr (h.backed id hid)
        · rw [List.mem_singleton.mp hid]
          exact List.mem_map_of_mem hmem
      rw [← hids] at hid
      exact List.mem_map.mp hid
    · have horder := h.order
      rw [hsplit] at horder
      rw [hrows, enqueuedIds_concat rfl]
      simpa using horder

end Mirrors

/-! ## Who is first -/

/-- In a list without repetitions elements come in the order of their positions. -/
theorem pairwise_idxOf {ids : List String} (h : ids.Nodup) :
    ids.Pairwise fun a b => ids.idxOf a < ids.idxOf b := by
  refine List.pairwise_iff_getElem.mpr fun i j hi hj hlt => ?_
  rwa [h.idxOf_getElem i hi, h.idxOf_getElem j hj]

theorem Mirrors.sorted (h : Mirrors env ops) (ht : Tracked env ops) :
    (env.rows ops).waiting.Pairwise (EnqueuedBefore ops) := by
  have hsub : ((env.rows ops).waiting.map (·.id)).Sublist (enqueuedIds ops) := by
    refine (OutboxTable.waiting_sublist.map (·.id)).trans ?_
    rw [OutboxTable.messages, List.map_map]
    exact h.order
  have hsorted := (pairwise_idxOf ht.fresh).sublist hsub
  rwa [List.pairwise_map] at hsorted

/-- The first row nobody has leased is the front of the queue just if the front was enqueued
before everyone behind it. -/
theorem Mirrors.head_iff (h : Mirrors env ops) (ht : Tracked env ops) :
    (env.rows ops).waiting.head? = (env.queue ops).head? ↔ env.FrontFirst ops := by
  have hsorted := h.sorted ht
  have hperm := h.waiting
  unfold FrontFirst
  generalize (env.rows ops).waiting = W at hsorted hperm
  cases hq : env.queue ops with
  | nil =>
      rw [hq] at hperm
      rw [hperm.eq_nil]
      simp
  | cons m rest =>
      rw [hq] at hperm
      cases W with
      | nil => exact absurd hperm.nil_eq (by simp)
      | cons x W =>
          obtain ⟨hx, -⟩ := List.pairwise_cons.mp hsorted
          simp only [List.head?_cons, List.tail_cons, Option.mem_some_iff, forall_eq',
            Option.some.injEq]
          constructor
          · rintro rfl m' hm'
            exact hx m' (hperm.cons_inv.mem_iff.mpr hm')
          · intro hfront
            by_contra hne
            have hxrest : x ∈ rest :=
              (List.mem_cons.mp (hperm.mem_iff.mp List.mem_cons_self)).resolve_left hne
            have hmW : m ∈ W :=
              (List.mem_cons.mp (hperm.mem_iff.mpr List.mem_cons_self)).resolve_left (Ne.symm hne)
            exact Nat.lt_asymm (hfront x hxrest) (hx m hmW)

/-- A claim on the database takes the first row nobody has leased. -/
theorem leased_fst (hpasses : ∀ row ∈ env.rows ops, env.Claimable ops row = row.lockedUntil.isNone) :
    (env.leased ops).1 = (env.rows ops).waiting.head? := by
  rcases OutboxTable.lease_cases (env.now (env.stored ops).clock + outboxLease)
    (env.Claimable ops) (env.rows ops) with ⟨heq, hnone⟩ | ⟨pre, row, post, hsplit, hpre, hrow, heq⟩
  · rw [leased, heq, OutboxTable.waiting_eq_nil fun row hrow => ?_]
    · rfl
    · rw [← hpasses row hrow]
      exact hnone row hrow
  · have hold : ∀ r ∈ pre ++ row :: post, env.Claimable ops r = r.lockedUntil.isNone :=
      fun r hr => hpasses r (hsplit ▸ hr)
    have hfront : OutboxTable.waiting pre = [] := by
      refine OutboxTable.waiting_eq_nil fun r hr => ?_
      rw [← hold r (List.mem_append_left _ hr)]
      exact hpre r hr
    have hat := hold row (List.mem_append_right _ List.mem_cons_self)
    rw [leased, heq, hsplit, OutboxTable.waiting_append, hfront,
      OutboxTable.waiting_cons_none (Option.isNone_iff_eq_none.mp (hat.symm.trans hrow))]
    rfl

theorem sameClaims_iff (hlocked : ∀ k row, env.locked k row = false)
    (hworks : EachAfter env.WorksOff ops) (hleases : env.LeasesInTime ops) :
    (env.SameClaims ops ↔ env.ClaimsInOrder ops) ∧ (env.SameClaims ops → Mirrors env ops) := by
  induction ops using List.reverseRecOn with
  | nil => exact ⟨iff_of_true EachAfter.nil EachAfter.nil, fun _ => Mirrors.nil⟩
  | append_singleton ops o ih =>
      obtain ⟨hworks, ho⟩ := EachAfter.concat_iff.mp hworks
      obtain ⟨hleases, hlo⟩ := EachAfter.concat_iff.mp hleases
      obtain ⟨hiff, hmirrors⟩ := ih hworks hleases
      have ht := Tracked.of_worksOff hworks
      have hclaim (ho : o = .claim) (hs : env.SameClaims ops) :
          env.claimOnPostgres ops = env.claimInMemory ops ↔ env.FrontFirst ops := by
        rw [claimOnPostgres_eq, claimInMemory_eq, Except.ok.injEq,
          leased_fst fun row hrow => claimable_eq hlocked (hlo ho) hrow]
        exact (hmirrors hs).head_iff ht
      constructor
      · rw [SameClaims, EachAfter.concat_iff, ClaimsInOrder, EachAfter.concat_iff]
        constructor
        · rintro ⟨hs, hsame⟩
          exact ⟨hiff.mp hs, fun ho => (hclaim ho hs).mp (hsame ho)⟩
        · rintro ⟨hc, hfront⟩
          exact ⟨hiff.mpr hc, fun ho => (hclaim ho (hiff.mpr hc)).mpr (hfront ho)⟩
      · intro hs
        obtain ⟨hs, hsame⟩ := EachAfter.concat_iff.mp hs
        have hm := hmirrors hs
        cases o with
        | enqueue m => exact hm.enqueue ht ho
        | claim =>
            refine hm.claim ht (fun row hrow => claimable_eq hlocked (hlo rfl) hrow) ?_
            exact Except.ok.inj (hsame rfl)
        | ack id => exact hm.ack ho
        | release m => exact hm.release ht ho
        | deliver m | putDeadLetter m | takeDeadLetter id => exact ho.elim

/-! ## Releases and what they overtake -/

theorem EnqueuedBefore.concat (h : EnqueuedBefore ops m m') (hm : m.id ∈ enqueuedIds ops)
    (hm' : m'.id ∈ enqueuedIds ops) {o : OutboxOp} : EnqueuedBefore (ops ++ [o]) m m' := by
  cases ho : o.enqueues with
  | none =>
      rw [EnqueuedBefore, enqueuedIds_concat ho]
      exact h
  | some m₀ =>
      have hids : enqueuedIds (ops ++ [o]) = enqueuedIds ops ++ [m₀.id] := by
        simp [enqueuedIds, ho]
      rw [EnqueuedBefore, hids, List.idxOf_append, List.idxOf_append, if_pos hm, if_pos hm']
      exact h

/-- The queue as long as no release overtakes anyone: in the order of enqueuing. -/
theorem sorted_of_releases (hworks : EachAfter env.WorksOff ops) (h : env.ReleasesInOrder ops) :
    (env.queue ops).Pairwise (EnqueuedBefore ops) := by
  induction ops using List.reverseRecOn with
  | nil => exact List.Pairwise.nil
  | append_singleton ops o ih =>
      obtain ⟨hworks, ho⟩ := EachAfter.concat_iff.mp hworks
      obtain ⟨h, hrelease⟩ := EachAfter.concat_iff.mp h
      have ht := Tracked.of_worksOff hworks
      have hsorted : (env.queue ops).Pairwise (EnqueuedBefore (ops ++ [o])) :=
        (ih hworks h).imp_of_mem fun hm hm' hlt => hlt.concat (ht.mem_ids hm) (ht.mem_ids hm')
      cases o with
      | enqueue m =>
          rw [queue_enqueue]
          refine List.pairwise_append.mpr ⟨hsorted, List.pairwise_singleton _ _, ?_⟩
          intro m' hm' m₀ hm₀
          obtain rfl := List.mem_singleton.mp hm₀
          rw [EnqueuedBefore, enqueuedIds_enqueue, List.idxOf_append, List.idxOf_append,
            if_pos (ht.mem_ids hm'), if_neg ho]
          exact Nat.lt_add_left _ (List.idxOf_lt_length_of_mem (ht.mem_ids hm'))
      | claim =>
          rw [queue_claim]
          exact hsorted.tail
      | ack id =>
          rw [queue_ack]
          exact hsorted
      | release m =>
          rw [queue_release]
          refine List.pairwise_append.mpr ⟨hsorted, List.pairwise_singleton _ _, ?_⟩
          intro m' hm' m₀ hm₀
          obtain rfl := List.mem_singleton.mp hm₀
          rw [EnqueuedBefore, enqueuedIds_concat rfl]
          exact hrelease _ rfl m' hm'
      | deliver m | putDeadLetter m | takeDeadLetter id => exact ho.elim

theorem claimsInOrder_of_releases (hworks : EachAfter env.WorksOff ops)
    (h : env.ReleasesInOrder ops) : env.ClaimsInOrder ops := by
  intro before o rest heq ho m hm m' hm'
  subst heq
  have hsorted := sorted_of_releases hworks.of_append h.of_append
  rw [← List.cons_head?_tail hm] at hsorted
  exact (List.pairwise_cons.mp hsorted).1 m' hm'

/-- Somebody waits behind one who was enqueued after it. -/
def Inverted (env : OutboxEnv) (ops : List OutboxOp) : Prop :=
  ∃ a b, [a, b].Sublist (env.queue ops) ∧ EnqueuedBefore ops b a

/-- Claims in order do not undo it. -/
theorem Inverted.append {more : List OutboxOp} (h : Inverted env ops)
    (hworks : EachAfter env.WorksOff (ops ++ more)) (hclaims : env.ClaimsInOrder (ops ++ more)) :
    Inverted env (ops ++ more) := by
  induction more using List.reverseRecOn with
  | nil => simpa using h
  | append_singleton more o ih =>
      rw [← List.append_assoc] at hworks hclaims ⊢
      obtain ⟨hworks, ho⟩ := EachAfter.concat_iff.mp hworks
      obtain ⟨hclaims, hfront⟩ := EachAfter.concat_iff.mp hclaims
      obtain ⟨a, b, hsub, hlt⟩ := ih hworks hclaims
      have ht := Tracked.of_worksOff hworks
      have hlt' : EnqueuedBefore (ops ++ more ++ [o]) b a :=
        hlt.concat (ht.mem_ids (hsub.subset (by simp))) (ht.mem_ids (hsub.subset (by simp)))
      refine ⟨a, b, ?_, hlt'⟩
      cases o with
      | enqueue m =>
          rw [queue_enqueue]
          exact hsub.trans (List.sublist_append_left _ _)
      | claim =>
          rw [queue_claim]
          have hfront := hfront rfl
          unfold FrontFirst at hfront
          cases hq : env.queue (ops ++ more) with
          | nil =>
              rw [hq] at hsub
              cases hsub
          | cons x rest =>
              rw [hq] at hsub hfront
              rcases List.cons_sublist_cons'.mp hsub with hrest | ⟨rfl, hb⟩
              · exact hrest
              · exact absurd (hfront a rfl b (List.singleton_sublist.mp hb)) (Nat.lt_asymm hlt)
      | ack id =>
          rw [queue_ack]
          exact hsub
      | release m =>
          rw [queue_release]
          exact hsub.trans (List.sublist_append_left _ _)
      | deliver m | putDeadLetter m | takeDeadLetter id => exact ho.elim

/-- A release that overtakes nobody who waits, or the queue is out of order. -/
theorem inverted_of_release (ht : Tracked env ops) (hm : m.id ∈ env.held ops)
    (hm' : m' ∈ env.queue ops) (h : ¬ EnqueuedBefore ops m' m) :
    Inverted env (ops ++ [.release m]) := by
  refine ⟨m', m, ?_, ?_⟩
  · rw [queue_release]
    exact (List.singleton_sublist.mpr hm').append (List.Sublist.refl [m])
  · rw [EnqueuedBefore, enqueuedIds_concat rfl]
    refine Nat.lt_of_le_of_ne (Nat.le_of_not_lt h) fun heq => ht.notMem_held hm' ?_
    have hknown := ht.known m.id (List.mem_append_right _ hm)
    rw [← (List.idxOf_inj hknown).mp heq]
    exact hm

theorem queue_drained (k : Nat) :
    env.queue (ops ++ List.replicate k .claim) = (env.queue ops).drop k := by
  induction k with
  | zero => simp
  | succ k ih =>
      rw [List.replicate_succ', ← List.append_assoc, queue_claim, ih, List.tail_drop]

theorem worksOff_drained (h : EachAfter env.WorksOff ops) (k : Nat) :
    EachAfter env.WorksOff (ops ++ List.replicate k .claim) := by
  induction k with
  | zero => simpa using h
  | succ k ih =>
      rw [List.replicate_succ', ← List.append_assoc]
      exact EachAfter.concat_iff.mpr ⟨ih, trivial⟩

theorem releasesInOrder_drained (h : env.ReleasesInOrder ops) (k : Nat) :
    env.ReleasesInOrder (ops ++ List.replicate k .claim) := by
  induction k with
  | zero => simpa using h
  | succ k ih =>
      rw [List.replicate_succ', ← List.append_assoc]
      refine EachAfter.concat_iff.mpr ⟨ih, ?_⟩
      rintro m ⟨⟩

/-- All claims of a sequence that is then drained come in order just if all its releases do. -/
theorem drained_iff (hworks : EachAfter env.WorksOff ops) :
    (∀ k, env.ClaimsInOrder (ops ++ List.replicate k .claim)) ↔ env.ReleasesInOrder ops := by
  constructor
  · intro h before o rest heq m ho m' hm'
    subst heq ho
    by_contra hlt
    have hrelease := hworks
    rw [List.append_cons] at hrelease
    obtain ⟨hbefore, hheld⟩ := EachAfter.concat_iff.mp hrelease.of_append
    have hsplit : ∀ more, before ++ .release m :: rest ++ more =
        before ++ [.release m] ++ (rest ++ more) := by simp
    let ops := before ++ .release m :: rest
    let k := (env.queue ops).length
    have hworks' := worksOff_drained hworks k
    have hclaims := h k
    have hempty : env.queue (ops ++ List.replicate k .claim) = [] := by
      rw [queue_drained, List.drop_length]
    rw [hsplit] at hworks' hclaims hempty
    obtain ⟨a, b, hsub, -⟩ :=
      (inverted_of_release (Tracked.of_worksOff hbefore) hheld hm' hlt).append hworks' hclaims
    rw [hempty] at hsub
    cases hsub
  · exact fun h k => claimsInOrder_of_releases (worksOff_drained hworks k)
      (releasesInOrder_drained h k)

end OutboxEnv

/-- **The two backends serve in the same order as long as nobody is overtaken.**  A worker
that settles what it holds, and whose leases last, gets the same message from both at every
claim just if every claim finds the front of the queue enqueued before everyone behind it; and
that holds of a sequence and any claims after it just if no release finds somebody waiting who
was enqueued after the released message. -/
theorem outbox_order_iff {env : OutboxEnv} (hlocked : ∀ k row, env.locked k row = false)
    {ops : List OutboxOp} (hworks : EachAfter env.WorksOff ops) (hleases : env.LeasesInTime ops) :
    (env.SameClaims ops ↔ env.ClaimsInOrder ops) ∧
      ((∀ k, env.ClaimsInOrder (ops ++ List.replicate k .claim)) ↔ env.ReleasesInOrder ops) :=
  ⟨(OutboxEnv.sameClaims_iff hlocked hworks hleases).1, OutboxEnv.drained_iff hworks⟩

namespace Sample

/-- One worker, nobody else, a statement a second, and no delivery succeeds. -/
def loneEnv : OutboxEnv := ⟨id, fun _ _ => false, fun _ _ => .error "refused"⟩

def secondNotice : OutboxMessage := { notice with id := "msg_2" }

/-- Two messages; the delivery of the first fails. -/
def failingFirst : List OutboxOp :=
  [.enqueue notice, .enqueue secondNotice, .claim, .release notice.retried, .claim]

end Sample

open Sample in
theorem outbox_order_iff_failing :
    (∀ k row, loneEnv.locked k row = false) ∧ EachAfter loneEnv.WorksOff failingFirst ∧
      loneEnv.LeasesInTime failingFirst ∧
      (loneEnv.SameClaims failingFirst ↔ loneEnv.ClaimsInOrder failingFirst) ∧
      ((∀ k, loneEnv.ClaimsInOrder (failingFirst ++ List.replicate k .claim)) ↔
        loneEnv.ReleasesInOrder failingFirst) := by
  have hworks : EachAfter loneEnv.WorksOff failingFirst := by decide +kernel
  have hleases : loneEnv.LeasesInTime failingFirst := by decide +kernel
  exact ⟨fun _ _ => rfl, hworks, hleases, outbox_order_iff (fun _ _ => rfl) hworks hleases⟩

open Sample in
/-- The claim after the failed delivery gets the second message from memory, and the failed
one again from the table. -/
theorem failing_message_first :
    EachAfter loneEnv.WorksOff failingFirst ∧ loneEnv.LeasesInTime failingFirst ∧
      loneEnv.claimInMemory (failingFirst.take 4) = .ok (some secondNotice) ∧
      loneEnv.claimOnPostgres (failingFirst.take 4) = .ok (some notice.retried) ∧
      ¬ loneEnv.SameClaims failingFirst := by
  refine ⟨by decide +kernel, by decide +kernel, rfl, rfl, fun h => ?_⟩
  exact absurd (h (failingFirst.take 4) .claim [] rfl rfl) (by decide +kernel)

end Orchestrator
