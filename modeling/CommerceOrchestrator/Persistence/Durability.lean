/-
# `CommerceOrchestrator.Persistence.Durability` — what the database outbox keeps

Dead-lettering is two statements: the message is stored in `dead_letter`, then
its outbox row is deleted by message id.  A replay is two as well: it is taken
from `dead_letter`, then upserted under the same id.  If a replay runs between
the two statements of a dead-lettering, the deleted row is the replayed one.

That is the only way to lose a message.  In every run in which no worker deletes
the row of a message whose dead letter has been replayed since it was stored,
every message not delivered to completion is in one of the tables or in the
hands of a replay (`outbox_keeps`), whatever crashes and however leases expire.
-/
import CommerceOrchestrator.Persistence.PostgresOutbox

namespace Orchestrator

open Effect Prog

namespace PgOutbox

/-! ## What a run shows -/

/-- The entry puts a message with this id in the outbox. -/
def Enqueues (id : String) : PgOutboxEntry → Prop
  | .did _ ⟨.upsert m, _⟩ => m.id = id
  | _ => False

/-- The entry is a successful delivery by `t`. -/
def Delivers (t : Nat) (id : String) : PgOutboxEntry → Prop
  | .did t' ⟨.deliver m, .ok _⟩ => t' = t ∧ m.id = id
  | _ => False

instance {id : String} : DecidablePred (Enqueues id) := fun e => by
  unfold Enqueues
  split <;> infer_instance

instance {t : Nat} {id : String} : DecidablePred (Delivers t id) := fun e => by
  unfold Delivers
  split <;> infer_instance

def Enqueued (id : String) (log : List PgOutboxEntry) : Prop := ∃ e ∈ log, Enqueues id e

def DeliveredBy (t : Nat) (id : String) (log : List PgOutboxEntry) : Prop :=
  ∃ e ∈ log, Delivers t id e

/-- The entry acknowledges what the same worker has delivered. -/
def Completes (id : String) (log : List PgOutboxEntry) : PgOutboxEntry → Prop
  | .did t ⟨.delete id', _⟩ => id' = id ∧ DeliveredBy t id log
  | _ => False

instance {t : Nat} {id : String} {log : List PgOutboxEntry} : Decidable (DeliveredBy t id log) :=
  inferInstanceAs (Decidable (∃ e ∈ log, _))

instance {id : String} {log : List PgOutboxEntry} : DecidablePred (Completes id log) := fun e => by
  unfold Completes
  split <;> infer_instance

/-- Delivered to completion. -/
def Completed (id : String) (log : List PgOutboxEntry) : Prop := ∃ e ∈ log, Completes id log e

/-- The replays in progress after one more entry. -/
def noteReplay (holders : List (Nat × String)) : PgOutboxEntry → List (Nat × String)
  | .did t ⟨.deleteDeadLetter _, some m⟩ => (t, m.id) :: holders
  | .did t ⟨.upsert _, _⟩ => holders.filter fun r => r.1 ≠ t
  | _ => holders

/-- The replays that have taken a dead letter and not yet put it back. -/
def replays (log : List PgOutboxEntry) : List (Nat × String) := log.foldl noteReplay []

/-- The message is in a table, or held by a replay in progress. -/
def Present (w : OutboxDb) (log : List PgOutboxEntry) (id : String) : Prop :=
  (∃ m ∈ w.outbox.messages, m.id = id) ∨ (w.deadLetter.lookup id).isSome ∨
    ∃ r ∈ replays log, r.2 = id

/-- Every message enqueued and not delivered to completion is there. -/
def NothingLost (P : PgOutboxPool) : Prop :=
  ∀ id, Enqueued id P.log → ¬ Completed id P.log → Present P.world P.log id

instance {id : String} {log : List PgOutboxEntry} : Decidable (Enqueued id log) :=
  inferInstanceAs (Decidable (∃ e ∈ log, _))

instance {id : String} {log : List PgOutboxEntry} : Decidable (Completed id log) :=
  inferInstanceAs (Decidable (∃ e ∈ log, _))

instance {w : OutboxDb} {log : List PgOutboxEntry} {id : String} : Decidable (Present w log id) :=
  inferInstanceAs (Decidable (_ ∨ _ ∨ _))

/-! ## The condition -/

/-- What has become of the dead letter of a message. -/
inductive Fate
  | never
  | stored
  | taken (t : Nat)
  | replayed
deriving DecidableEq

def noteFate (id : String) (fate : Fate) : PgOutboxEntry → Fate
  | .did _ ⟨.upsertDeadLetter m, _⟩ => if m.id = id then .stored else fate
  | .did t ⟨.deleteDeadLetter _, some m⟩ => if m.id = id then .taken t else fate
  | .did t ⟨.upsert m, _⟩ => if m.id = id ∧ fate = .taken t then .replayed else fate
  | _ => fate

/-- The fate of the dead letter last stored: it is replayed once the replay that took it
has put it back in the outbox. -/
def fateOf (id : String) (log : List PgOutboxEntry) : Fate := log.foldl (noteFate id) .never

/-- A worker deletes the row of a message that it has delivered, or whose dead letter has
not been replayed since it was stored. -/
def AcksUnreplayed (t : Nat) (s : OutboxStatement) (_ : OutboxDb) (log : List PgOutboxEntry) :
    Prop :=
  match s with
  | .delete id => DeliveredBy t id log ∨ fateOf id log ≠ .replayed
  | _ => True

instance {t : Nat} {s : OutboxStatement} {w : OutboxDb} {log : List PgOutboxEntry} :
    Decidable (AcksUnreplayed t s w log) := by
  unfold AcksUnreplayed
  split <;> infer_instance

/-! ## Logs -/

section Logs

variable {log : List PgOutboxEntry} {e : PgOutboxEntry} {t : Nat} {id : String}

theorem enqueued_append : Enqueued id (log ++ [e]) ↔ Enqueued id log ∨ Enqueues id e := by
  simp [Enqueued, or_and_right, exists_or]

theorem DeliveredBy.append (h : DeliveredBy t id log) : DeliveredBy t id (log ++ [e]) := by
  obtain ⟨e', he', hd⟩ := h
  exact ⟨e', List.mem_append_left _ he', hd⟩

theorem Completed.append (h : Completed id log) : Completed id (log ++ [e]) := by
  obtain ⟨e', he', hc⟩ := h
  refine ⟨e', List.mem_append_left _ he', ?_⟩
  unfold Completes at hc ⊢
  split at hc
  · exact ⟨hc.1, hc.2.append⟩
  · cases hc

theorem replays_append : replays (log ++ [e]) = noteReplay (replays log) e := by
  rw [replays, List.foldl_append]
  rfl

theorem fateOf_append : fateOf id (log ++ [e]) = noteFate id (fateOf id log) e := by
  rw [fateOf, List.foldl_append]
  rfl

theorem noteFate_never {fate : Fate} (h : noteFate id fate e = .never) : fate = .never := by
  unfold noteFate at h
  split at h
  · split at h
    · cases h
    · exact h
  · split at h
    · cases h
    · exact h
  · split at h
    · cases h
    · exact h
  · exact h

end Logs

/-! ## The invariant -/

/-- What the place of a caller says about the log. -/
def Stands (log : List PgOutboxEntry) (t : Nat) : Leasing → Prop
  | .holds (.parked m) => fateOf m.id log ≠ .never
  | .holds (.delivered m) => DeliveredBy t m.id log
  | _ => True

/-- The message a replay has in its hands. -/
def replaying : Leasing → Option String
  | .holds (.taken m) => some m.id
  | _ => none

structure Kept (w : OutboxDb) (φ : Nat → Leasing) (log : List PgOutboxEntry) : Prop where
  present : ∀ id, Enqueued id log → Completed id log ∨ Present w log id
  filed : ∀ id m, w.deadLetter.lookup id = some m → m.id = id
  stored : ∀ id, fateOf id log = .stored → (w.deadLetter.lookup id).isSome
  taken : ∀ id t, fateOf id log = .taken t → (t, id) ∈ replays log
  stands : ∀ t, Stands log t (φ t)
  held : ∀ t id, (t, id) ∈ replays log ↔ replaying (φ t) = some id

section Steps

variable {env : OutboxEnv} {w w' : OutboxDb} {φ : Nat → Leasing} {log : List PgOutboxEntry}
  {e : PgOutboxEntry} {t : Nat} {q : Leasing} {id : String}

theorem Stands.append (h : Stands log t q) : Stands (log ++ [e]) t q := by
  unfold Stands at h ⊢
  split at h
  · rw [fateOf_append]
    exact fun hnever => h (noteFate_never hnever)
  · exact h.append
  · trivial

theorem Kept.stands_update (h : Kept w φ log) (hq : Stands (log ++ [e]) t q) :
    ∀ t', Stands (log ++ [e]) t' (Function.update φ t q t') :=
  (Function.forall_update_iff φ (Stands (log ++ [e]))).mpr ⟨hq, fun t' _ => (h.stands t').append⟩

/-- A step that neither takes nor puts back a dead letter. -/
theorem Kept.held_update (h : Kept w φ log) (hreplays : noteReplay (replays log) e = replays log)
    (hsame : replaying q = replaying (φ t)) :
    ∀ t' id, (t', id) ∈ replays (log ++ [e]) ↔ replaying (Function.update φ t q t') = some id := by
  rw [replays_append, hreplays]
  refine (Function.forall_update_iff φ fun t' q' =>
    ∀ id, (t', id) ∈ replays log ↔ replaying q' = some id).mpr ⟨?_, fun t' _ => h.held t'⟩
  intro id
  rw [hsame]
  exact h.held t id

/-- A step that touches no dead letter and removes no row, or none that is still needed. -/
theorem Kept.quiet (h : Kept w φ log)
    (hdead : ∀ id, w'.deadLetter.lookup id = w.deadLetter.lookup id)
    (hreplays : noteReplay (replays log) e = replays log) (hsame : replaying q = replaying (φ t))
    (hfate : ∀ id, noteFate id (fateOf id log) e = fateOf id log)
    (henqueues : ∀ id, ¬ Enqueues id e)
    (hrows : ∀ m ∈ w.outbox.messages, (∃ m' ∈ w'.outbox.messages, m'.id = m.id) ∨
      Completed m.id (log ++ [e]) ∨ Present w' (log ++ [e]) m.id)
    (hq : Stands (log ++ [e]) t q) :
    Kept w' (Function.update φ t q) (log ++ [e]) := by
  refine ⟨?_, ?_, ?_, ?_, h.stands_update hq, h.held_update hreplays hsame⟩
  · intro id hid
    have hid := (enqueued_append.mp hid).resolve_right (henqueues id)
    rcases h.present id hid with hc | ⟨m, hm, rfl⟩ | hd | hr
    · exact Or.inl hc.append
    · rcases hrows m hm with hrow | hc | hp
      · exact Or.inr (Or.inl hrow)
      · exact Or.inl hc
      · exact Or.inr hp
    · refine Or.inr (Or.inr (Or.inl ?_))
      rwa [hdead]
    · refine Or.inr (Or.inr (Or.inr ?_))
      rwa [replays_append, hreplays]
  · intro id m hm
    rw [hdead] at hm
    exact h.filed id m hm
  · intro id
    rw [fateOf_append, hfate, hdead]
    exact h.stored id
  · intro id t'
    rw [fateOf_append, hfate, replays_append, hreplays]
    exact h.taken id t'

/-- Whatever is returned, nothing is lost by it. -/
theorem Kept.returns {r : OutboxReport} (h : Kept w φ log) :
    Kept w φ (log ++ [.returned t r]) := by
  have hkept : Kept w (Function.update φ t (φ t)) (log ++ [.returned t r]) :=
    h.quiet (fun _ => rfl) rfl rfl (fun _ => rfl) (fun _ he => nomatch he)
      (fun m hm => Or.inl ⟨m, hm, rfl⟩) (h.stands t).append
  rwa [Function.update_eq_self] at hkept

theorem Kept.lease_step (h : Kept w φ log) (ho : leaseMonitor.allow .lease (φ t)) :
    Kept (env.handle .lease w).2
      (Function.update φ t (leaseMonitor.next .lease (φ t) (env.handle .lease w).1))
      (log ++ [.did t ⟨.lease, (env.handle .lease w).1⟩]) := by
  have hrows : (env.handle .lease w).2.outbox.messages = w.outbox.messages :=
    OutboxTable.messages_lease
  obtain ⟨k, hq⟩ := allow_lease ho
  refine h.quiet (fun _ => rfl) rfl ?_ (fun _ => rfl) (fun _ he => nomatch he) ?_ ?_
  · rw [hq]
    cases (env.handle .lease w).1 <;> rfl
  · intro m hm
    rw [hrows]
    exact Or.inl ⟨m, hm, rfl⟩
  · rw [hq]
    cases (env.handle .lease w).1 <;> trivial

theorem Kept.deliver_step {m : OutboxMessage} (h : Kept w φ log)
    (ho : leaseMonitor.allow (.deliver m) (φ t)) :
    Kept (env.handle (.deliver m) w).2
      (Function.update φ t (leaseMonitor.next (.deliver m) (φ t) (env.handle (.deliver m) w).1))
      (log ++ [.did t ⟨.deliver m, (env.handle (.deliver m) w).1⟩]) := by
  obtain ⟨k, hq⟩ := allow_deliver ho
  refine h.quiet (fun _ => rfl) rfl ?_ (fun _ => rfl) (fun _ he => nomatch he)
    (fun m' hm' => Or.inl ⟨m', hm', rfl⟩) ?_
  · rw [hq]
    cases (env.handle (.deliver m) w).1 <;> rfl
  · rw [hq]
    cases (env.handle (.deliver m) w).1 with
    | ok _ => exact ⟨_, List.mem_append_right _ (List.mem_singleton_self _), rfl, rfl⟩
    | error _ => trivial

theorem Kept.update_step {m : OutboxMessage} (h : Kept w φ log)
    (ho : leaseMonitor.allow (.update m) (φ t)) :
    Kept (env.handle (.update m) w).2
      (Function.update φ t (leaseMonitor.next (.update m) (φ t) (env.handle (.update m) w).1))
      (log ++ [.did t ⟨.update m, (env.handle (.update m) w).1⟩]) := by
  obtain ⟨k, hq, -⟩ := allow_update ho
  refine h.quiet (fun _ => rfl) rfl ?_ (fun _ => rfl) (fun _ he => nomatch he) ?_ ?_
  · rw [hq]
    cases (env.handle (.update m) w).1 <;> rfl
  · intro m' hm'
    -- the row of `m` has the same id after the update
    refine Or.inl ?_
    by_cases hid : m'.id = m.id
    · exact ⟨m, OutboxTable.mem_update.mpr (Or.inl ⟨rfl, m', hm', hid⟩), hid.symm⟩
    · exact ⟨m', OutboxTable.mem_update.mpr (Or.inr ⟨hm', hid⟩), rfl⟩
  · rw [hq]
    cases (env.handle (.update m) w).1 <;> trivial

/-- Where the message of an acknowledgement is: delivered by the one who acknowledges, or
still stored as a dead letter, or with a replay. -/
theorem Kept.acked (h : Kept w φ log) (ho : leaseMonitor.allow (.delete id) (φ t))
    (hacks : AcksUnreplayed t (.delete id) w log) :
    DeliveredBy t id log ∨ (w.deadLetter.lookup id).isSome ∨ ∃ r ∈ replays log, r.2 = id := by
  have hstands := h.stands t
  obtain ⟨m, hq | hq, rfl⟩ := allow_delete ho
  · rw [hq] at hstands
    rcases hacks with hd | hfate
    · exact Or.inl hd
    · cases hcase : fateOf m.id log with
      | never => exact absurd hcase hstands
      | stored => exact Or.inr (Or.inl (h.stored m.id hcase))
      | taken t' => exact Or.inr (Or.inr ⟨(t', m.id), h.taken m.id t' hcase, rfl⟩)
      | replayed => exact absurd hcase hfate
  · rw [hq] at hstands
    exact Or.inl hstands

/-- The one step that removes a row. -/
theorem Kept.delete_step (h : Kept w φ log) (ho : leaseMonitor.allow (.delete id) (φ t))
    (hacks : AcksUnreplayed t (.delete id) w log) :
    Kept (env.handle (.delete id) w).2 (Function.update φ t (.holds .done))
      (log ++ [.did t ⟨.delete id, ()⟩]) := by
  refine h.quiet (fun _ => rfl) rfl ?_ (fun _ => rfl) (fun _ he => nomatch he) ?_ trivial
  · obtain ⟨m, hq | hq, -⟩ := allow_delete ho <;> rw [hq] <;> rfl
  · intro m hm
    by_cases hid : m.id = id
    · rw [hid]
      rcases h.acked ho hacks with hd | hd | hr
      · refine Or.inr (Or.inl ⟨_, List.mem_append_right _ (List.mem_singleton_self _), rfl, ?_⟩)
        exact hd.append
      · exact Or.inr (Or.inr (Or.inr (Or.inl hd)))
      · refine Or.inr (Or.inr (Or.inr (Or.inr ?_)))
        rwa [replays_append]
    · exact Or.inl ⟨m, OutboxTable.mem_delete.mpr ⟨hm, hid⟩, rfl⟩

/-- A replay puts back the message it has taken. -/
theorem Kept.puts_own {m : OutboxMessage} (h : Kept w φ log)
    (ho : leaseMonitor.allow (.upsert m) (φ t)) (hr : (t, id) ∈ replays log) : id = m.id := by
  have hr := (h.held t id).mp hr
  rcases allow_upsert ho with hq | ⟨m', hq, rfl⟩ | hq
  · rw [hq] at hr
    cases hr
  · rw [hq] at hr
    exact (Option.some.inj hr).symm
  · rw [hq] at hr
    cases hr

theorem Kept.upsert_step {m : OutboxMessage} (h : Kept w φ log)
    (ho : leaseMonitor.allow (.upsert m) (φ t)) :
    Kept (env.handle (.upsert m) w).2 (Function.update φ t (.holds .done))
      (log ++ [.did t ⟨.upsert m, ()⟩]) := by
  have hreplays : ∀ r, r ∈ replays (log ++ [.did t ⟨.upsert m, ()⟩]) ↔
      r ∈ replays log ∧ r.1 ≠ t := by
    intro r
    rw [replays_append]
    simp [noteReplay]
  refine ⟨?_, h.filed, ?_, ?_, h.stands_update trivial, ?_⟩
  · intro id hid
    by_cases hid' : id = m.id
    · subst hid'
      exact Or.inr (Or.inl ⟨m, OutboxTable.mem_upsert.mpr (Or.inl rfl), rfl⟩)
    · have hid := (enqueued_append.mp hid).resolve_right fun he => hid' he.symm
      rcases h.present id hid with hc | ⟨m', hm', rfl⟩ | hd | ⟨r, hr, rfl⟩
      · exact Or.inl hc.append
      · exact Or.inr (Or.inl ⟨m', OutboxTable.mem_upsert.mpr (Or.inr ⟨hm', hid'⟩), rfl⟩)
      · exact Or.inr (Or.inr (Or.inl hd))
      · refine Or.inr (Or.inr (Or.inr ⟨r, (hreplays r).mpr ⟨hr, ?_⟩, rfl⟩))
        rintro rfl
        exact hid' (h.puts_own ho hr)
  · intro id hfate
    rw [fateOf_append, noteFate] at hfate
    split at hfate
    · cases hfate
    · exact h.stored id hfate
  · intro id t' hfate
    rw [fateOf_append, noteFate] at hfate
    split at hfate
    · cases hfate
    · next hnot =>
        have hr := h.taken id t' hfate
        refine (hreplays _).mpr ⟨hr, ?_⟩
        rintro rfl
        exact hnot ⟨(h.puts_own ho hr).symm, hfate⟩
  · refine (Function.forall_update_iff φ fun t' q' => ∀ id, (t', id) ∈ replays _ ↔
      replaying q' = some id).mpr ⟨?_, ?_⟩
    · intro id
      rw [hreplays]
      exact iff_of_false (fun hr => hr.2 rfl) fun hr => nomatch hr
    · intro t' ht id
      rw [hreplays, ← h.held t' id]
      exact and_iff_left ht

theorem Kept.upsertDeadLetter_step {m : OutboxMessage} (h : Kept w φ log)
    (ho : leaseMonitor.allow (.upsertDeadLetter m) (φ t)) :
    Kept (env.handle (.upsertDeadLetter m) w).2
      (Function.update φ t (leaseMonitor.next (.upsertDeadLetter m) (φ t) ()))
      (log ++ [.did t ⟨.upsertDeadLetter m, ()⟩]) := by
  obtain ⟨k, hq⟩ := allow_upsertDeadLetter ho
  have hnone : replaying (φ t) = none := by
    rw [hq]
    rfl
  rw [hq]
  have hlookup : ∀ id, (env.handle (.upsertDeadLetter m) w).2.deadLetter.lookup id =
      if id = m.id then some m else w.deadLetter.lookup id :=
    fun id => Table.lookup_insert_ite w.deadLetter m.id id m
  have hkeeps : ∀ id, (w.deadLetter.lookup id).isSome →
      ((env.handle (.upsertDeadLetter m) w).2.deadLetter.lookup id).isSome := by
    intro id hd
    rw [hlookup]
    split
    · rfl
    · exact hd
  refine ⟨?_, ?_, ?_, ?_, h.stands_update ?_, h.held_update rfl hnone.symm⟩
  · intro id hid
    have hid := (enqueued_append.mp hid).resolve_right fun he => nomatch he
    rcases h.present id hid with hc | hrow | hd | hr
    · exact Or.inl hc.append
    · exact Or.inr (Or.inl hrow)
    · exact Or.inr (Or.inr (Or.inl (hkeeps id hd)))
    · refine Or.inr (Or.inr (Or.inr ?_))
      rwa [replays_append]
  · intro id m' hm'
    rw [hlookup] at hm'
    split at hm'
    · next hid => exact Option.some.inj hm' ▸ hid.symm
    · exact h.filed id m' hm'
  · intro id hfate
    rw [fateOf_append, noteFate] at hfate
    split at hfate
    · next hid =>
        rw [hlookup, if_pos hid.symm]
        rfl
    · exact hkeeps id (h.stored id hfate)
  · intro id t' hfate
    rw [fateOf_append, noteFate] at hfate
    split at hfate
    · cases hfate
    · rw [replays_append]
      exact h.taken id t' hfate
  · show fateOf m.id _ ≠ .never
    rw [fateOf_append, noteFate, if_pos rfl]
    exact fun hnever => nomatch hnever

/-- A replay takes the dead letter it asks for. -/
theorem Kept.take_step {m : OutboxMessage} (h : Kept w φ log)
    (hq : φ t = .holds (.ready (.replay m.id))) :
    Kept (env.handle (.deleteDeadLetter m.id) w).2 (Function.update φ t (.holds (.taken m)))
      (log ++ [.did t ⟨.deleteDeadLetter m.id, some m⟩]) := by
  have hlookup : ∀ id, (env.handle (.deleteDeadLetter m.id) w).2.deadLetter.lookup id =
      if id = m.id then none else w.deadLetter.lookup id :=
    fun id => Table.lookup_erase_ite w.deadLetter m.id id
  have hreplays : replays (log ++ [.did t ⟨.deleteDeadLetter m.id, some m⟩]) =
      (t, m.id) :: replays log := replays_append
  refine ⟨?_, ?_, ?_, ?_, h.stands_update trivial, ?_⟩
  · intro id hid
    have hid := (enqueued_append.mp hid).resolve_right fun he => nomatch he
    rcases h.present id hid with hc | hrow | hdead | ⟨r, hr, hrid⟩
    · exact Or.inl hc.append
    · exact Or.inr (Or.inl hrow)
    · by_cases hid' : id = m.id
      · subst hid'
        exact Or.inr (Or.inr (Or.inr ⟨(t, m.id), hreplays ▸ List.mem_cons_self, rfl⟩))
      · refine Or.inr (Or.inr (Or.inl ?_))
        rwa [hlookup, if_neg hid']
    · exact Or.inr (Or.inr (Or.inr ⟨r, hreplays ▸ List.mem_cons_of_mem _ hr, hrid⟩))
  · intro id m' hm'
    rw [hlookup] at hm'
    split at hm'
    · cases hm'
    · exact h.filed id m' hm'
  · intro id hfate
    rw [fateOf_append, noteFate] at hfate
    split at hfate
    · cases hfate
    · next hid =>
        rw [hlookup, if_neg (Ne.symm hid)]
        exact h.stored id hfate
  · intro id t' hfate
    rw [fateOf_append, noteFate] at hfate
    rw [hreplays]
    split at hfate
    · next hid =>
        cases hfate
        rw [hid]
        exact List.mem_cons_self
    · exact List.mem_cons_of_mem _ (h.taken id t' hfate)
  · rw [hreplays]
    refine (Function.forall_update_iff φ fun t' q' => ∀ id, (t', id) ∈ (t, m.id) :: replays log ↔
      replaying q' = some id).mpr ⟨?_, ?_⟩
    · intro id
      have hheld := h.held t id
      rw [hq] at hheld
      constructor
      · intro hr
        rcases List.mem_cons.mp hr with hr | hr
        · cases hr
          rfl
        · cases hheld.mp hr
      · rintro ⟨⟩
        exact List.mem_cons_self
    · intro t' ht id
      rw [← h.held t' id]
      refine ⟨?_, List.mem_cons_of_mem _⟩
      intro hr
      rcases List.mem_cons.mp hr with hr | hr
      · exact absurd (congrArg Prod.fst hr) ht
      · exact hr

theorem Kept.deleteDeadLetter_step (h : Kept w φ log)
    (ho : leaseMonitor.allow (.deleteDeadLetter id) (φ t)) :
    Kept (env.handle (.deleteDeadLetter id) w).2
      (Function.update φ t
        (leaseMonitor.next (.deleteDeadLetter id) (φ t) (env.handle (.deleteDeadLetter id) w).1))
      (log ++ [.did t ⟨.deleteDeadLetter id, (env.handle (.deleteDeadLetter id) w).1⟩]) := by
  have hq := allow_deleteDeadLetter ho
  have hanswer : (env.handle (.deleteDeadLetter id) w).1 = w.deadLetter.lookup id := rfl
  rw [hanswer]
  cases hd : w.deadLetter.lookup id with
  | none =>
      have hsame : ∀ id', (w.deadLetter.erase id).lookup id' = w.deadLetter.lookup id' := by
        intro id'
        rw [Table.lookup_erase_ite]
        split
        · next hid => rw [hid, hd]
        · rfl
      refine h.quiet hsame rfl ?_ (fun _ => rfl) (fun _ he => nomatch he)
        (fun m hm => Or.inl ⟨m, hm, rfl⟩) ?_
      · rw [hq]
        rfl
      · rw [hq]
        trivial
  | some m =>
      obtain rfl := h.filed id m hd
      have hnext : leaseMonitor.next (.deleteDeadLetter m.id) (φ t) (some m) =
          .holds (.taken m) := by
        rw [hq]
        rfl
      rw [hnext]
      exact h.take_step hq

/-- **One step.** -/
theorem Kept.step {s : OutboxStatement} (env : OutboxEnv) (h : Kept w φ log)
    (ho : leaseMonitor.allow s (φ t)) (hacks : AcksUnreplayed t s w log) :
    Kept (env.handle s w).2
      (Function.update φ t (leaseMonitor.next s (φ t) (env.handle s w).1))
      (log ++ [.did t ⟨s, (env.handle s w).1⟩]) := by
  cases s with
  | lease => exact h.lease_step ho
  | deliver m => exact h.deliver_step ho
  | delete id => exact h.delete_step ho hacks
  | update m => exact h.update_step ho
  | upsert m => exact h.upsert_step ho
  | upsertDeadLetter m => exact h.upsertDeadLetter_step ho
  | deleteDeadLetter id => exact h.deleteDeadLetter_step ho

end Steps

/-! ## Runs -/

theorem Kept.start (calls : List OutboxCall) :
    Kept .empty (fun t => .holds (readyAt calls t)) [] := by
  refine ⟨fun id hid => ?_, fun id m hm => (nomatch hm), fun id hf => (nomatch hf),
    fun id t hf => (nomatch hf), fun t => ?_, fun t id => ?_⟩
  · obtain ⟨e, he, -⟩ := hid
    cases he
  · rcases @readyAt_cases calls t with ⟨call, hq⟩ | hq <;> rw [hq] <;> trivial
  · refine iff_of_false (fun hr => nomatch hr) ?_
    rcases @readyAt_cases calls t with ⟨call, hq⟩ | hq <;> rw [hq] <;> exact fun hr => nomatch hr

/-- **Nothing is lost.**  In every run in which no worker deletes the row of a message
whose dead letter has been replayed since it was stored, every message enqueued is
delivered to completion, in a table, or held by a replay in progress. -/
theorem outbox_keeps (env : OutboxEnv) (calls : List OutboxCall) (ts : List Nat)
    (hacks : Pool.StepsMeetAt AcksUnreplayed env.handle.shared ts (OutboxEnv.pool calls)) :
    NothingLost (env.run calls ts) := by
  refine (Pool.run_invariant_at (I := Kept) ?_ ts (Kept.start calls) (pool_follows calls)
    hacks).elim fun φ h id hid hnot => (h.1.present id hid).resolve_left hnot
  intro w φ log t s x w' h ho hacks hx
  obtain ⟨rfl, rfl⟩ := Handler.shared_eq_some.mp hx
  have hdid := h.step env ho hacks
  refine ⟨trivial, hdid, fun r _ => ?_⟩
  rw [List.append_cons]
  exact hdid.returns

namespace Sample

/-- A minute and a half between statements; the order system is back at the eighth. -/
def slow : OutboxEnv where
  now n := 90 * n
  locked _ _ := false
  deliver n _ := if n < 8 then .error "unavailable" else .ok ()

def workers : List OutboxCall :=
  [.enqueue Sample.notice, .process 0, .process 0, .replay Sample.notice.id, .process 0]

end Sample

/-- The first worker dies after its claim, the second dead-letters, the third delivers. -/
theorem outbox_keeps_sample :
    NothingLost (Sample.slow.run Sample.workers [0, 1, 2, 2, 2, 2, 3, 3, 4, 4, 4]) :=
  outbox_keeps _ _ _ (by decide +kernel)

/-- A replay between the two statements of a dead-lettering. -/
theorem replay_lost : ¬ ∀ env calls ts, NothingLost (OutboxEnv.run env calls ts) := by
  intro h
  have hlost : ¬ (Enqueued Sample.notice.id
        (Sample.slow.run Sample.workers [0, 1, 1, 1, 3, 3, 1]).log →
      ¬ Completed Sample.notice.id (Sample.slow.run Sample.workers [0, 1, 1, 1, 3, 3, 1]).log →
      Present (Sample.slow.run Sample.workers [0, 1, 1, 1, 3, 3, 1]).world
        (Sample.slow.run Sample.workers [0, 1, 1, 1, 3, 3, 1]).log Sample.notice.id) := by
    decide +kernel
  exact hlost (h Sample.slow Sample.workers [0, 1, 1, 1, 3, 3, 1] Sample.notice.id)

end PgOutbox

end Orchestrator
